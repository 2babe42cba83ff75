import MiniatureWarehouse.Framework.BinaryFormats
import MiniatureWarehouse.Framework.RealMath
import MiniatureWarehouse.Perception.DepthFrame

/-!
# Decoding a depth image

A depth image arrives as a buffer: rows of `step` bytes, each with `width` samples in front and
padding behind.  The node keeps every `pixel_stride`-th row and column of it, and divides the
intrinsics of the camera by the stride, so that the smaller image is projected to the same points.

`decode_stride_projects` says that the samples kept are the right ones, read from the right bytes,
and that in exact arithmetic the short path through the smaller image is the long one, less the
pixels that were dropped.
-/

namespace MiniatureWarehouse

namespace Perception

open BinaryFormats

/-! ## The decoder -/

/-- A format of samples: its letter in a `struct` format and the unit its values are in. -/
inductive DepthEncoding
  | millimetres
  | metres
  deriving DecidableEq, Repr

/-- `DEPTH_ENCODINGS`. -/
def depthEncodings : String → Option DepthEncoding
  | "16UC1" => some .millimetres
  | "32FC1" => some .metres
  | _ => none

/-- The bytes of one sample. -/
def DepthEncoding.sampleSize : DepthEncoding → ℕ
  | millimetres => 2
  | metres => 4

/-- `range(0, n, s)`. -/
def strided (n s : ℕ) : List ℕ := List.range' 0 ((n + s - 1) / s) s

/-! ## Strides -/

lemma mapM_eq_some {β γ : Type*} {f : β → Option γ} {g : β → γ} {xs : List β}
    (h : ∀ x ∈ xs, f x = some (g x)) : xs.mapM f = some (xs.map g) := by
  induction xs with
  | nil => rfl
  | cons x xs ih =>
    obtain ⟨hhead, htail⟩ := List.forall_mem_cons.mp h
    rw [List.mapM_cons, hhead, ih htail]
    rfl

lemma strided_eq_map {n s : ℕ} : strided n s = (List.range ((n + s - 1) / s)).map (· * s) := by
  refine List.ext_getElem (by simp [strided]) ?_
  intro i h₁ h₂
  simp [strided, Nat.mul_comm]

lemma lt_strides_iff {n s i : ℕ} (hs : 1 ≤ s) : i < (n + s - 1) / s ↔ i * s < n := by
  rw [← Nat.succ_le_iff, Nat.le_div_iff_mul_le (by omega), Nat.succ_mul]
  omega

lemma mem_strided {n s x : ℕ} (hs : 1 ≤ s) (h : x ∈ strided n s) : x < n := by
  rw [strided_eq_map] at h
  obtain ⟨i, hi, rfl⟩ := List.mem_map.mp h
  exact (lt_strides_iff hs).mp (List.mem_range.mp hi)

lemma strided_one (n : ℕ) : strided n 1 = List.range n := by
  rw [strided_eq_map]
  simp

/-- The strides are the multiples of the stride, in order. -/
lemma filter_range_dvd {s : ℕ} (hs : 1 ≤ s) (n : ℕ) :
    (List.range n).filter (fun x => s ∣ x) = strided n s := by
  rw [strided_eq_map]
  induction n with
  | zero =>
    have hzero : (0 + s - 1) / s = 0 := Nat.div_eq_of_lt (by omega)
    rw [hzero]
    rfl
  | succ n ih =>
    have hcount : (n + 1 + s - 1) / s = (n + s - 1) / s + if s ∣ n then 1 else 0 := by
      obtain ⟨m, rfl⟩ : ∃ m, s = m + 1 := ⟨s - 1, by omega⟩
      have hleft : n + 1 + (m + 1) - 1 = n + m + 1 := by omega
      have hright : n + (m + 1) - 1 = n + m := by omega
      rw [hleft, hright, Nat.succ_div]
      have hdvd : m + 1 ∣ n + m + 1 ↔ m + 1 ∣ n := by
        rw [Nat.add_assoc]
        exact Nat.dvd_add_self_right
      simp only [hdvd]
    rw [List.range_succ, List.filter_append, ih, hcount]
    by_cases hdvd : s ∣ n
    · rw [if_pos hdvd, List.range_succ, List.map_append]
      congr 1
      obtain ⟨q, rfl⟩ := hdvd
      have hlast : (s * q + s - 1) / s = q := by
        rw [Nat.div_eq_iff (by omega)]
        constructor <;> ring_nf <;> omega
      rw [hlast, List.map_singleton, Nat.mul_comm q s]
      simp
    · rw [if_neg hdvd]
      simp [hdvd]

lemma flatMap_filter_dvd {γ : Type*} (s : ℕ) (f : ℕ → List γ) (xs : List ℕ) :
    (xs.filter (fun x => s ∣ x)).flatMap f = xs.flatMap fun x => if s ∣ x then f x else [] := by
  induction xs with
  | nil => rfl
  | cons x xs ih =>
    by_cases hdvd : s ∣ x
    · rw [List.filter_cons_of_pos (by simpa using hdvd), List.flatMap_cons, List.flatMap_cons, ih,
        if_pos hdvd]
    · rw [List.filter_cons_of_neg (by simpa using hdvd), List.flatMap_cons, ih, if_neg hdvd,
        List.nil_append]

/-- A pixel whose coordinates are multiples of the stride. -/
def OnStride {β : Type*} (s : ℕ) (pixel : ℕ × ℕ × β) : Prop := s ∣ pixel.1 ∧ s ∣ pixel.2.1

instance {β : Type*} (s : ℕ) : DecidablePred (OnStride (β := β) s) := fun pixel =>
  inferInstanceAs (Decidable (s ∣ pixel.1 ∧ s ∣ pixel.2.1))

/-- The pixels that are left of a frame after the rows and the columns off the stride are dropped
are the pixels of the frame that are on it, in other coordinates. -/
lemma pixels_strided {β γ : Type*} (depth : ℕ → ℕ → Option β) {s : ℕ} (hs : 1 ≤ s)
    (height width : ℕ) {P Q : ℕ × ℕ × β → γ}
    (hPQ : ∀ i j z, depth (i * s) (j * s) = some z → P (j, i, z) = Q (j * s, i * s, z)) :
    (pixels ((strided height s).map fun v => (strided width s).map (depth v))).map P =
      ((pixels ((List.range height).map fun v => (List.range width).map (depth v))).filter
        fun pixel => OnStride s pixel).map Q := by
  have hrow : ∀ v, ((List.range width).filterMap fun u =>
      (depth v u).map ((u, v, ·) : β → ℕ × ℕ × β)).filter (fun pixel => OnStride s pixel) =
        if s ∣ v then (strided width s).filterMap fun u => (depth v u).map (u, v, ·) else [] := by
    intro v
    rw [← filter_range_dvd hs, List.filter_filterMap, List.filterMap_filter]
    by_cases hv : s ∣ v
    · rw [if_pos hv]
      refine List.filterMap_congr fun u _ => ?_
      by_cases hu : s ∣ u
      · cases depth v u with
        | none => simp
        | some z => simp [OnStride, hu, hv]
      · cases depth v u with
        | none => simp
        | some z => simp [OnStride, hu]
    · rw [if_neg hv, List.filterMap_eq_nil_iff]
      intro u _
      cases depth v u with
      | none => rfl
      | some z => simp [OnStride, hv]
  rw [pixels_grid, List.filter_flatMap]
  simp only [hrow]
  rw [← flatMap_filter_dvd, filter_range_dvd hs, strided_eq_map, strided_eq_map, List.map_map,
    List.flatMap_map]
  have hgrid : ((fun v => ((List.range ((width + s - 1) / s)).map (· * s)).map (depth v)) ∘
      (· * s)) = fun i => (List.range ((width + s - 1) / s)).map fun j => depth (i * s) (j * s) := by
    funext i
    rw [Function.comp_apply, List.map_map]
    rfl
  rw [hgrid, pixels_grid, List.map_flatMap, List.map_flatMap]
  refine List.flatMap_congr fun i _ => ?_
  rw [List.filterMap_map, List.map_filterMap, List.map_filterMap]
  refine List.filterMap_congr fun j _ => ?_
  rw [Function.comp_apply, Option.map_map, Option.map_map]
  cases hdepth : depth (i * s) (j * s) with
  | none => rfl
  | some z => exact congrArg some (hPQ i j z hdepth)

section Decoder

variable {α : Type*} [Field α] [LinearOrder α] [IsStrictOrderedRing α] (F : FloatFormat α)

/-- The value of the bytes of a sample: the letters `H` and `f`. -/
def DepthEncoding.value (encoding : DepthEncoding) (bits : ℕ) : PyFloat α :=
  match encoding with
  | millimetres => .fin (bits : α)
  | metres => binary32 bits

/-- The divisor that turns a value into metres. -/
def DepthEncoding.scale : DepthEncoding → PyFloat α
  | millimetres => .fin 1000
  | metres => .fin 1

/-- `(raw,) = unpack(data, offset)` and `raw / scale`; a buffer that is too short raises. -/
def unpackDepth (encoding : DepthEncoding) (bigEndian : Bool) (data : List UInt8) (offset : ℕ) :
    Option (PyFloat α) :=
  (field data offset encoding.sampleSize).map fun bytes =>
    F.div (encoding.value (unsigned bigEndian bytes)) encoding.scale

/-- `decode_depth_image`. -/
def decodeDepthImage (encoding : String) (width height step : ℤ) (bigEndian : Bool)
    (data : List UInt8) (pixelStride : ℤ) : Option (List (List (PyFloat α))) :=
  if pixelStride < 1 ∨ width ≤ 0 ∨ height ≤ 0 ∨ step ≤ 0 then some []
  else
    match depthEncodings encoding with
    | none => some []
    | some encoding =>
      if step < width * encoding.sampleSize then some []
      else if (data.length : ℤ) < height * step then some []
      else
        (strided height.toNat pixelStride.toNat).mapM fun v =>
          (strided width.toNat pixelStride.toNat).mapM fun u =>
            unpackDepth F encoding bigEndian data (v * step.toNat + u * encoding.sampleSize)

/-! ## The intrinsics -/

/-- One entry of the matrix, read as a finite number and divided by the stride. -/
def pickEntry (pixelStride : ℤ) (value : PyVal α) : Except PyErr (Option (PyFloat α)) :=
  match value with
  | .int _ | .float _ =>
    (value.toFloat F).bind fun number =>
      if !number.isFinite then .ok none
      else
        ((PyVal.int pixelStride : PyVal α).toFloat F).map fun stride => some (F.div number stride)
  | _ => .ok none

/-- The loop over the entries: the first that cannot be used ends it. -/
def pickEntries (pixelStride : ℤ) :
    List (PyVal α) → Except PyErr (Option (List (PyFloat α)))
  | [] => .ok (some [])
  | value :: values =>
    (pickEntry F pixelStride value).bind fun
    | none => .ok none
    | some number => (pickEntries pixelStride values).map (Option.map (number :: ·))

/-- The constructor of `CameraIntrinsics`. -/
def CameraIntrinsics.build (fx fy cx cy : PyFloat α) : Except PyErr (CameraIntrinsics α) :=
  if h : (fx.isFinite = true ∧ .fin 0 < fx) ∧ (fy.isFinite = true ∧ .fin 0 < fy) ∧
      (cx.isFinite = true ∧ .fin 0 ≤ cx) ∧ cy.isFinite = true ∧ .fin 0 ≤ cy then
    .ok ⟨fx, fy, cx, cy, h.1, h.2.1, h.2.2.1, h.2.2.2⟩
  else .error .valueError

/-- `intrinsics_from_camera_info`. -/
def intrinsicsFromCameraInfo (k : List (PyVal α)) (pixelStride : ℤ) :
    Except PyErr (Option (CameraIntrinsics α)) :=
  if pixelStride < 1 then .ok none
  else
    match k with
    | [k₀, _, k₂, _, k₄, k₅, _, _, _] =>
      (pickEntries F pixelStride [k₀, k₄, k₂, k₅]).bind fun
      | some [fx, fy, cx, cy] =>
        if fx ≤ .fin 0 ∨ fy ≤ .fin 0 ∨ cx < .fin 0 ∨ cy < .fin 0 then .ok none
        else (CameraIntrinsics.build fx fy cx cy).map some
      | _ => .ok none
    | _ => .ok none

/-! ## The samples that are kept -/

variable (encoding : DepthEncoding) (bigEndian : Bool) (data : List UInt8)

/-- The depth that the bytes at a row and a column stand for. -/
def depthAt (step v u : ℕ) : PyFloat α :=
  F.div (encoding.value (unsigned bigEndian ((data.drop (v * step + u * encoding.sampleSize)).take
    encoding.sampleSize))) encoding.scale

/-- A depth is read from the bytes of the sample at a row and a column: they are in the buffer, in
the part of the row in front of the padding. -/
def SampleAt (width step v u : ℕ) (depth : PyFloat α) : Prop :=
  ∃ bytes : List UInt8, bytes.length = encoding.sampleSize ∧
    (∀ k < encoding.sampleSize,
      u * encoding.sampleSize + k < width * encoding.sampleSize ∧
        bytes[k]? = data[v * step + (u * encoding.sampleSize + k)]? ∧
        v * step + (u * encoding.sampleSize + k) < data.length) ∧
    depth = F.div (encoding.value (unsigned bigEndian bytes)) encoding.scale

/-- The rows hold the samples of the rows and columns on the stride, and no others. -/
def KeepsStrides (width height step s : ℕ) (rows : List (List (PyFloat α))) : Prop :=
  ∀ i j depth, (∃ row, rows[i]? = some row ∧ row[j]? = some depth) ↔
    i * s < height ∧ j * s < width ∧
      SampleAt F encoding bigEndian data width step (i * s) (j * s) depth

variable {F encoding bigEndian data} {width height step : ℕ}

/-- The last byte of a sample is in its row. -/
lemma sample_in_row (encoding : DepthEncoding) {u : ℕ} (hu : u < width) :
    u * encoding.sampleSize + encoding.sampleSize ≤ width * encoding.sampleSize := by
  have h := Nat.mul_le_mul_right encoding.sampleSize (Nat.succ_le_of_lt hu)
  rwa [Nat.succ_mul] at h

/-- The last byte of a sample is in the buffer. -/
lemma sample_in_buffer (hstep : width * encoding.sampleSize ≤ step)
    (hdata : height * step ≤ data.length) {v u : ℕ} (hv : v < height) (hu : u < width) :
    v * step + u * encoding.sampleSize + encoding.sampleSize ≤ data.length := by
  have hrow := sample_in_row encoding hu
  have hrows := Nat.mul_le_mul_right step (Nat.succ_le_of_lt hv)
  rw [Nat.succ_mul] at hrows
  omega

/-- The bytes that are read are those of the sample, and they determine its depth. -/
lemma sampleAt_iff (hstep : width * encoding.sampleSize ≤ step)
    (hdata : height * step ≤ data.length) {v u : ℕ} (hv : v < height) (hu : u < width)
    {depth : PyFloat α} :
    SampleAt F encoding bigEndian data width step v u depth ↔
      depth = depthAt F encoding bigEndian data step v u := by
  have hbuffer := sample_in_buffer hstep hdata hv hu
  obtain ⟨bytes, hfield, hlength, hbytes⟩ := field_of_le hbuffer
  obtain rfl : (data.drop (v * step + u * encoding.sampleSize)).take encoding.sampleSize = bytes :=
    Option.some.inj ((if_pos hbuffer).symm.trans hfield)
  have hrow := sample_in_row encoding hu
  constructor
  · rintro ⟨bytes', hlength', hbytes', rfl⟩
    have hsame : bytes' =
        (data.drop (v * step + u * encoding.sampleSize)).take encoding.sampleSize := by
      refine List.ext_getElem? fun k => ?_
      by_cases hk : k < encoding.sampleSize
      · rw [(hbytes' k hk).2.1, hbytes k hk, Nat.add_assoc]
      · rw [List.getElem?_eq_none (by omega), List.getElem?_eq_none (by omega)]
    rw [hsame]
    rfl
  · rintro rfl
    refine ⟨_, hlength, fun k hk => ⟨by omega, ?_, by omega⟩, rfl⟩
    rw [hbytes k hk, Nat.add_assoc]

/-- The decoder returns the depths on the stride. -/
lemma decodeDepthImage_eq {name : String} (hname : depthEncodings name = some encoding)
    (hstep : width * encoding.sampleSize ≤ step) (hdata : height * step ≤ data.length) {s : ℕ}
    (hs : 1 ≤ s) :
    decodeDepthImage F name width height step bigEndian data s =
      some (if width = 0 then [] else
        (strided height s).map fun v => (strided width s).map
          (depthAt F encoding bigEndian data step v)) := by
  have hsize : 0 < encoding.sampleSize := by
    cases encoding <;> decide
  unfold decodeDepthImage
  rw [hname]
  dsimp only
  rcases Nat.eq_zero_or_pos width with rfl | hwidth
  · rw [if_pos (by omega), if_pos rfl]
  rw [if_neg (show width ≠ 0 by omega)]
  rcases Nat.eq_zero_or_pos height with rfl | hheight
  · rw [if_pos (by omega)]
    have hnone : strided 0 s = [] := by
      rw [← filter_range_dvd hs]
      rfl
    rw [hnone, List.map_nil]
  have hstep' : 0 < step := lt_of_lt_of_le (Nat.mul_pos hwidth hsize) hstep
  rw [if_neg (by omega), if_neg (by rw [not_lt]; exact_mod_cast hstep),
    if_neg (by rw [not_lt]; exact_mod_cast hdata)]
  simp only [Int.toNat_natCast]
  refine mapM_eq_some fun v hv => mapM_eq_some fun u hu => ?_
  unfold unpackDepth field
  rw [if_pos (sample_in_buffer hstep hdata (mem_strided hs hv) (mem_strided hs hu))]
  rfl

/-- The decoder keeps the samples on the stride. -/
lemma keepsStrides_decode (hstep : width * encoding.sampleSize ≤ step)
    (hdata : height * step ≤ data.length) {s : ℕ} (hs : 1 ≤ s) :
    KeepsStrides F encoding bigEndian data width height step s
      (if width = 0 then [] else
        (strided height s).map fun v => (strided width s).map
          (depthAt F encoding bigEndian data step v)) := by
  intro i j depth
  have hget : ∀ n i, (strided n s)[i]? = if i * s < n then some (i * s) else none := by
    intro n i
    rw [strided_eq_map, List.getElem?_map]
    by_cases hi : i * s < n
    · rw [if_pos hi, List.getElem?_range ((lt_strides_iff hs).mpr hi)]
      rfl
    · rw [if_neg hi, List.getElem?_eq_none]
      · rfl
      · rw [List.length_range]
        exact not_lt.mp (mt (lt_strides_iff hs).mp hi)
  by_cases hwidth : width = 0
  · rw [if_pos hwidth]
    refine iff_of_false ?_ ?_
    · rintro ⟨row, hrow, -⟩
      cases hrow
    · rintro ⟨-, hj, -⟩
      omega
  · rw [if_neg hwidth]
    simp only [List.getElem?_map, hget]
    constructor
    · rintro ⟨row, hrow, hdepth⟩
      by_cases hi : i * s < height
      · rw [if_pos hi] at hrow
        obtain rfl := Option.some.inj hrow
        rw [List.getElem?_map, hget] at hdepth
        by_cases hj : j * s < width
        · rw [if_pos hj] at hdepth
          exact ⟨hi, hj, (sampleAt_iff hstep hdata hi hj).mpr (Option.some.inj hdepth).symm⟩
        · rw [if_neg hj] at hdepth
          cases hdepth
      · rw [if_neg hi] at hrow
        cases hrow
    · rintro ⟨hi, hj, hsample⟩
      rw [if_pos hi]
      refine ⟨_, rfl, ?_⟩
      rw [List.getElem?_map, hget, if_pos hj, (sampleAt_iff hstep hdata hi hj).mp hsample]
      rfl

/-! ## The strided intrinsics -/

/-- In exact arithmetic an entry is read alike for every stride. -/
lemma exists_pickEntry (value : PyVal α) :
    ∃ number : Option α, ∀ s : ℕ, 1 ≤ s →
      pickEntry (FloatFormat.exact α) s value = .ok (number.map fun x => .fin (x / s)) := by
  have hstride : ∀ s : ℕ, (PyVal.int (s : ℤ) : PyVal α).toFloat (FloatFormat.exact α) =
      .ok (.fin (s : α)) := by
    intro s
    exact congrArg (fun x : α => Except.ok (PyFloat.fin x)) (Int.cast_natCast s)
  cases value with
  | int n =>
    refine ⟨some n, fun s _ => ?_⟩
    unfold pickEntry
    dsimp only
    rw [hstride]
    rfl
  | float x =>
    cases x with
    | fin x =>
      refine ⟨some x, fun s _ => ?_⟩
      unfold pickEntry
      dsimp only
      rw [hstride]
      rfl
    | nan | posInf | negInf => exact ⟨none, fun s _ => rfl⟩
  | _ => exact ⟨none, fun s _ => rfl⟩

lemma exists_pickEntries (values : List (PyVal α)) :
    ∃ numbers : Option (List α), ∀ s : ℕ, 1 ≤ s →
      pickEntries (FloatFormat.exact α) s values =
        .ok (numbers.map (List.map fun x => .fin (x / s))) := by
  induction values with
  | nil => exact ⟨some [], fun s _ => rfl⟩
  | cons value values ih =>
    obtain ⟨number, hnumber⟩ := exists_pickEntry value
    obtain ⟨numbers, hnumbers⟩ := ih
    cases number with
    | none =>
      refine ⟨none, fun s hs => ?_⟩
      unfold pickEntries
      rw [hnumber s hs]
      rfl
    | some x =>
      refine ⟨numbers.map (x :: ·), fun s hs => ?_⟩
      unfold pickEntries
      rw [hnumber s hs]
      show (pickEntries (FloatFormat.exact α) s values).map _ = _
      rw [hnumbers s hs]
      cases numbers <;> rfl

/-- The intrinsics of the strided image are those of the full one, divided by the stride. -/
def DividedBy (s : ℕ) (strided full : CameraIntrinsics α) : Prop :=
  ∃ fx fy cx cy : α, 0 < fx ∧ 0 < fy ∧
    (full.fx = .fin fx ∧ full.fy = .fin fy ∧ full.cx = .fin cx ∧ full.cy = .fin cy) ∧
    strided.fx = .fin (fx / s) ∧ strided.fy = .fin (fy / s) ∧ strided.cx = .fin (cx / s) ∧
    strided.cy = .fin (cy / s)

omit [IsStrictOrderedRing α] in
lemma intrinsics_build {fx fy cx cy : α} (hfx : 0 < fx) (hfy : 0 < fy) (hcx : 0 ≤ cx)
    (hcy : 0 ≤ cy) :
    ∃ I : CameraIntrinsics α, (if (PyFloat.fin fx) ≤ .fin 0 ∨ (PyFloat.fin fy) ≤ .fin 0 ∨
        (PyFloat.fin cx) < .fin 0 ∨ (PyFloat.fin cy) < .fin 0 then .ok none
      else (CameraIntrinsics.build (.fin fx) (.fin fy) (.fin cx) (.fin cy)).map some) =
        (.ok (some I) : Except PyErr _) ∧
      I.fx = .fin fx ∧ I.fy = .fin fy ∧ I.cx = .fin cx ∧ I.cy = .fin cy := by
  have hvalid : ((PyFloat.fin fx).isFinite = true ∧ PyFloat.fin 0 < .fin fx) ∧
      ((PyFloat.fin fy).isFinite = true ∧ PyFloat.fin 0 < .fin fy) ∧
      ((PyFloat.fin cx).isFinite = true ∧ PyFloat.fin 0 ≤ .fin cx) ∧
      (PyFloat.fin cy).isFinite = true ∧ PyFloat.fin 0 ≤ .fin cy :=
    ⟨⟨rfl, hfx⟩, ⟨rfl, hfy⟩, ⟨rfl, hcx⟩, rfl, hcy⟩
  have hpositive : ¬ ((PyFloat.fin fx) ≤ .fin 0 ∨ (PyFloat.fin fy) ≤ .fin 0 ∨
      (PyFloat.fin cx) < .fin 0 ∨ (PyFloat.fin cy) < .fin 0) := by
    rintro (h | h | h | h)
    · exact absurd h (not_le.mpr hfx)
    · exact absurd h (not_le.mpr hfy)
    · exact absurd h (not_lt.mpr hcx)
    · exact absurd h (not_lt.mpr hcy)
  refine ⟨⟨.fin fx, .fin fy, .fin cx, .fin cy, hvalid.1, hvalid.2.1, hvalid.2.2.1, hvalid.2.2.2⟩,
    ?_, rfl, rfl, rfl, rfl⟩
  rw [if_neg hpositive]
  unfold CameraIntrinsics.build
  rw [dif_pos hvalid]
  rfl

/-- A matrix that gives intrinsics for the full image gives them for the strided one. -/
lemma intrinsics_divided {k : List (PyVal α)} {full : CameraIntrinsics α}
    (h : intrinsicsFromCameraInfo (FloatFormat.exact α) k 1 = .ok (some full)) {s : ℕ}
    (hs : 1 ≤ s) :
    ∃ strided, intrinsicsFromCameraInfo (FloatFormat.exact α) k s = .ok (some strided) ∧
      DividedBy s strided full := by
  unfold intrinsicsFromCameraInfo at h ⊢
  rw [if_neg (by omega)] at h
  rw [if_neg (by omega)]
  split at h
  · rename_i k₀ k₁ k₂ k₃ k₄ k₅ k₆ k₇ k₈
    obtain ⟨numbers, hnumbers⟩ := exists_pickEntries [k₀, k₄, k₂, k₅]
    have hone := hnumbers 1 le_rfl
    rw [Nat.cast_one] at hone
    rw [hone] at h
    rw [hnumbers s hs]
    match numbers with
    | some [fx, fy, cx, cy] =>
      simp only [Option.map_some, List.map_cons, List.map_nil, Except.bind, Nat.cast_one,
        div_one] at h ⊢
      by_cases hbad : (PyFloat.fin fx) ≤ .fin 0 ∨ (PyFloat.fin fy) ≤ .fin 0 ∨
          (PyFloat.fin cx) < .fin 0 ∨ (PyFloat.fin cy) < .fin 0
      · rw [if_pos hbad] at h
        cases Except.ok.inj h
      · simp only [PyFloat.fin_le_fin, PyFloat.fin_lt_fin, not_or, not_le, not_lt] at hbad
        obtain ⟨hfx, hfy, hcx, hcy⟩ := hbad
        have hspos : (0 : α) < s := Nat.cast_pos.mpr (by omega)
        obtain ⟨I, hI, hIfx, hIfy, hIcx, hIcy⟩ := intrinsics_build hfx hfy hcx hcy
        obtain ⟨J, hJ, hJfx, hJfy, hJcx, hJcy⟩ := intrinsics_build (div_pos hfx hspos)
          (div_pos hfy hspos) (div_nonneg hcx hspos.le) (div_nonneg hcy hspos.le)
        rw [hI] at h
        obtain rfl : I = full := Option.some.inj (Except.ok.inj h)
        exact ⟨J, hJ, fx, fy, cx, cy, hfx, hfy, ⟨hIfx, hIfy, hIcx, hIcy⟩, hJfx, hJfy, hJcx, hJcy⟩
    | none | some [] | some [_] | some [_, _] | some [_, _, _] | some (_ :: _ :: _ :: _ :: _ :: _) =>
      cases Except.ok.inj h
  · cases Except.ok.inj h

/-- A pixel of the strided image and its pixel of the full image are projected to one point. -/
lemma projectPixel_strided (L : MathLib α) {s : ℕ} (hs : 1 ≤ s)
    {strided full : CameraIntrinsics α} (hdivided : DividedBy s strided full)
    (mounting : CameraMounting α) (u v : ℕ) (z : α) :
    projectPixel (FloatFormat.exact α) L strided mounting (u, v, .fin z) =
      projectPixel (FloatFormat.exact α) L full mounting (u * s, v * s, .fin z) := by
  obtain ⟨fx, fy, cx, cy, hfx, hfy, ⟨hfull₁, hfull₂, hfull₃, hfull₄⟩, h₁, h₂, h₃, h₄⟩ := hdivided
  have hne : (s : α) ≠ 0 := Nat.cast_ne_zero.mpr (by omega)
  have hoptical : ∀ (n : ℕ) (c f : α), 0 < f →
      (FloatFormat.exact α).div ((FloatFormat.exact α).mul ((FloatFormat.exact α).sub
        ((FloatFormat.exact α).round (n : α)) (.fin (c / s))) (.fin z)) (.fin (f / s)) =
      (FloatFormat.exact α).div ((FloatFormat.exact α).mul ((FloatFormat.exact α).sub
        ((FloatFormat.exact α).round ((n * s : ℕ) : α)) (.fin c)) (.fin z)) (.fin f) := by
    intro n c f hf
    show PyFloat.fin ((((n : α) + -(c / s)) * z) / (f / s)) =
      .fin (((((n * s : ℕ) : α) + -c) * z) / f)
    have hfne : f ≠ 0 := hf.ne'
    congr 1
    push_cast
    field_simp
  unfold projectPixel
  dsimp only
  rw [h₁, h₂, h₃, h₄, hfull₁, hfull₂, hfull₃, hfull₄, hoptical u cx fx hfx, hoptical v cy fy hfy]

/-! ## Decoding and projection -/

/-- In exact arithmetic, projecting the strided image with the strided intrinsics gives the points
of the full image at the pixels on the stride. -/
def StridesCommute (L : MathLib α) (T : FrameText α) (name : String) (bigEndian : Bool)
    (data : List UInt8) (width height step s : ℕ) : Prop :=
  ∃ rows full validity whole,
    decodeDepthImage (FloatFormat.exact α) name width height step bigEndian data s = some rows ∧
    decodeDepthImage (FloatFormat.exact α) name width height step bigEndian data 1 = some full ∧
    depthValidity (FloatFormat.exact α) T (rows.map (List.map .float)) = .ok validity ∧
    depthValidity (FloatFormat.exact α) T (full.map (List.map .float)) = .ok whole ∧
    ∀ k I, intrinsicsFromCameraInfo (FloatFormat.exact α) k 1 = .ok (some I) →
      ∃ J, intrinsicsFromCameraInfo (FloatFormat.exact α) k s = .ok (some J) ∧
        ∀ mounting, backProject (FloatFormat.exact α) L validity.validPixels J mounting =
          (whole.validPixels.filter fun pixel => OnStride s pixel).map
            (projectPixel (FloatFormat.exact α) L I mounting)

/-- The buffer is decoded to the samples on the stride, in every format of floats; and the stride
commutes with the projection. -/
theorem decode_stride_projects (F : FloatFormat α) (L : MathLib α) (T : FrameText α)
    {name : String} {encoding : DepthEncoding} (hname : depthEncodings name = some encoding)
    {width height step : ℕ} (hstep : width * encoding.sampleSize ≤ step) (bigEndian : Bool)
    {data : List UInt8} (hdata : height * step ≤ data.length) {s : ℕ} (hs : 1 ≤ s) :
    (∃ rows, decodeDepthImage F name width height step bigEndian data s = some rows ∧
      KeepsStrides F encoding bigEndian data width height step s rows) ∧
    StridesCommute L T name bigEndian data width height step s := by
  obtain ⟨validity, hvalidity, hpixels⟩ := depthValidity_floats (F := FloatFormat.exact α) (T := T)
    (if width = 0 then [] else (strided height s).map fun v => (strided width s).map
      (depthAt (FloatFormat.exact α) encoding bigEndian data step v))
  obtain ⟨whole, hwhole, hall⟩ := depthValidity_floats (F := FloatFormat.exact α) (T := T)
    (if width = 0 then [] else (strided height 1).map fun v => (strided width 1).map
      (depthAt (FloatFormat.exact α) encoding bigEndian data step v))
  refine ⟨⟨_, decodeDepthImage_eq hname hstep hdata hs, keepsStrides_decode hstep hdata hs⟩,
    _, _, validity, whole, decodeDepthImage_eq hname hstep hdata hs,
    decodeDepthImage_eq hname hstep hdata le_rfl, hvalidity, hwhole, ?_⟩
  intro k I hI
  obtain ⟨J, hJ, hdivided⟩ := intrinsics_divided hI hs
  refine ⟨J, hJ, fun mounting => ?_⟩
  rw [hpixels, hall]
  by_cases hwidth : width = 0
  · rw [if_pos hwidth, if_pos hwidth]
    rfl
  rw [if_neg hwidth, if_neg hwidth, strided_one, strided_one]
  simp only [List.map_map, Function.comp_def]
  refine pixels_strided (fun v u =>
    usableDepth (depthAt (FloatFormat.exact α) encoding bigEndian data step v u)) hs height width ?_
  intro i j z hz
  obtain ⟨x, rfl⟩ : ∃ x, z = .fin x := by
    unfold usableDepth at hz
    split_ifs at hz with hbad
    obtain rfl := Option.some.inj hz
    exact PyFloat.isFinite_iff.mp (by simpa using (not_or.mp hbad).1)
  exact projectPixel_strided L hs hdivided mounting j i x

end Decoder

/-- Three rows of three samples in millimetres, with two bytes of padding behind each row. -/
theorem decode_stride_projects_three :
    (∃ rows, decodeDepthImage (FloatFormat.exact ℚ) "16UC1" (3 : ℕ) (3 : ℕ) (8 : ℕ) false
        (List.replicate 24 7) (2 : ℕ) = some rows ∧
      KeepsStrides (FloatFormat.exact ℚ) .millimetres false (List.replicate 24 7) 3 3 8 2 rows) ∧
    StridesCommute MathLib.rational .plain "16UC1" false (List.replicate 24 7) 3 3 8 2 := by
  have hlength : 3 * 8 ≤ (List.replicate 24 (7 : UInt8)).length := by
    rw [List.length_replicate]
  exact decode_stride_projects (FloatFormat.exact ℚ) MathLib.rational .plain
    (show depthEncodings "16UC1" = some .millimetres from rfl) (by decide) false hlength
    (by decide)

end Perception

end MiniatureWarehouse
