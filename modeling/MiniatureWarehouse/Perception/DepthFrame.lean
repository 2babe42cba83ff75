import MiniatureWarehouse.Framework.Values
import MiniatureWarehouse.Perception.Terrain

/-!
# Depth frames

A depth image is reduced to the pixels that carry a usable depth, and each of these is projected
into the body frame.  Whatever is no usable depth is an invalid pixel and not an error; but every
sample is also written into the text that the digest of the frame is taken of, and that reader is
stricter: it wants an integer that fits into a float, and an object that has a text.

The numbers are floats of a format, so that nothing is promised about their size.
-/

namespace MiniatureWarehouse

namespace Perception

/-! ## The payload -/

/-- One sample of a depth image as it arrives.  Of an object that is no number only its `repr`
matters, if it gives a text. -/
inductive Sample (α : Type*)
  | bool (b : Bool)
  | int (n : ℤ)
  | float (x : PyFloat α)
  | object (repr : Option String)

/-- `DepthValidity`: the usable pixels with their coordinates, and what the payload amounts to. -/
structure DepthValidity (α : Type*) where
  validPixels : List (ℕ × ℕ × PyFloat α)
  totalPixels : ℕ
  validCount : ℕ
  validFraction : PyFloat α
  frameDigest : String

/-- The usable pixels of rows of depths, in payload order, each with its column and its row. -/
def pixels {β : Type*} (rows : List (List (Option β))) : List (ℕ × ℕ × β) :=
  rows.zipIdx.flatMap fun (row, v) => row.zipIdx.filterMap fun (depth, u) => depth.map (u, v, ·)

/-- How the language writes a float and how it takes a digest. -/
structure FrameText (α : Type*) where
  hex : PyFloat α → String
  sha256 : String → String

/-- A text of floats to evaluate the model with. -/
def FrameText.plain : FrameText ℚ where
  hex _ := "0x0.0p+0"
  sha256 text := text

/-- The pixels of a frame that is given by its coordinates. -/
lemma pixels_grid {β : Type*} (depth : ℕ → ℕ → Option β) (height width : ℕ) :
    pixels ((List.range height).map fun v => (List.range width).map (depth v)) =
      (List.range height).flatMap fun v =>
        (List.range width).filterMap fun u => (depth v u).map (u, v, ·) := by
  have hzip : ∀ {γ : Type _} (f : ℕ → γ) (n : ℕ),
      ((List.range n).map f).zipIdx = (List.range n).map fun i => (f i, i) := by
    intro γ f n
    refine List.ext_getElem (by simp) ?_
    intro i h₁ h₂
    simp
  unfold pixels
  rw [hzip, List.flatMap_map]
  refine List.flatMap_congr fun v _ => ?_
  dsimp only
  rw [hzip, List.filterMap_map]
  rfl

lemma mem_pixels {β : Type*} {rows : List (List (Option β))} {u v : ℕ} {depth : β} :
    (u, v, depth) ∈ pixels rows ↔ ∃ row, rows[v]? = some row ∧ row[u]? = some (some depth) := by
  unfold pixels
  simp only [List.mem_flatMap, List.mem_filterMap, Prod.exists, List.mem_zipIdx_iff_getElem?,
    Option.map_eq_some_iff, Prod.mk.injEq]
  constructor
  · rintro ⟨row, v', hrow, d, u', hd, depth', rfl, rfl, rfl, rfl⟩
    exact ⟨row, hrow, hd⟩
  · rintro ⟨row, hrow, hd⟩
    exact ⟨row, v, hrow, some depth, u, hd, depth, rfl, rfl, rfl, rfl⟩

/-- The order of the payload: by rows, and within a row by columns. -/
def PayloadOrder {β : Type*} (p q : ℕ × ℕ × β) : Prop :=
  p.2.1 < q.2.1 ∨ p.2.1 = q.2.1 ∧ p.1 < q.1

lemma pairwise_zipIdx {β : Type*} (xs : List β) : xs.zipIdx.Pairwise fun p q => p.2 < q.2 := by
  have h : (xs.zipIdx.map Prod.snd).Pairwise (· < ·) := by
    rw [List.zipIdx_map_snd]
    exact List.pairwise_lt_range'
  exact List.pairwise_map.mp h

/-- The usable pixels stand in payload order, each once. -/
lemma pairwise_pixels {β : Type*} (rows : List (List (Option β))) :
    (pixels rows).Pairwise PayloadOrder := by
  unfold pixels
  rw [List.pairwise_flatMap]
  refine ⟨fun p hp => ?_, (pairwise_zipIdx rows).imp fun {p q} hpq => ?_⟩
  · rw [List.pairwise_filterMap]
    refine (pairwise_zipIdx p.1).imp fun {a b} hab x hx y hy => ?_
    obtain ⟨d, -, rfl⟩ := Option.map_eq_some_iff.mp hx
    obtain ⟨e, -, rfl⟩ := Option.map_eq_some_iff.mp hy
    exact .inr ⟨rfl, hab⟩
  · intro x hx y hy
    obtain ⟨a, -, ha⟩ := List.mem_filterMap.mp hx
    obtain ⟨b, -, hb⟩ := List.mem_filterMap.mp hy
    obtain ⟨d, -, rfl⟩ := Option.map_eq_some_iff.mp ha
    obtain ⟨e, -, rfl⟩ := Option.map_eq_some_iff.mp hb
    exact .inl hpq

section Reading

variable {α : Type*} [Field α] [LinearOrder α] [IsStrictOrderedRing α] (F : FloatFormat α)
  (T : FrameText α)

/-- `_payload_token`. -/
def payloadToken (s : Sample α) : Except PyErr String :=
  match s with
  | .bool b => .ok ("b" ++ if b then "True" else "False")
  | .object (some text) => .ok ("r" ++ text)
  | .object none => .error .valueError
  | .int n => ((PyVal.int n : PyVal α).toFloat F).map T.hex
  | .float x => .ok (T.hex x)

/-- A depth is usable when it is finite and above zero. -/
def usableDepth (number : PyFloat α) : Option (PyFloat α) :=
  if !number.isFinite ∨ number ≤ .fin 0 then none else some number

/-- `_readable_depth`. -/
def readableDepth (s : Sample α) : Except PyErr (Option (PyFloat α)) :=
  match s with
  | .bool _ | .object _ => .ok none
  | .int n => ((PyVal.int n : PyVal α).toFloat F).map usableDepth
  | .float x => .ok (usableDepth x)

/-- The body of the loop over the samples: the token, then the depth. -/
def readSample (s : Sample α) : Except PyErr (String × Option (PyFloat α)) :=
  (payloadToken F T s).bind fun token => (readableDepth F s).map fun depth => (token, depth)

/-- The text that the digest is taken of: the number of rows, and each row with its length. -/
def payloadText (rows : List (List String)) : String :=
  "|".intercalate (toString rows.length :: rows.flatMap fun row => toString row.length :: row)

/-- `depth_validity`. -/
def depthValidity (rows : List (List (Sample α))) : Except PyErr (DepthValidity α) :=
  (rows.mapM (List.mapM (readSample F T))).map fun read =>
    let valid := pixels (read.map fun row => row.map Prod.snd)
    let total := (read.map List.length).sum
    { validPixels := valid
      totalPixels := total
      validCount := valid.length
      validFraction := if total = 0 then .fin 0 else F.round (valid.length / total)
      frameDigest := T.sha256 (payloadText (read.map fun row => row.map Prod.fst)) }

/-- The number a sample stands for, if it is one. -/
def Sample.value : Sample α → Option (PyFloat α)
  | .int n => some (F.round n)
  | .float x => some x
  | .bool _ | .object _ => none

/-- The usable depth a sample stands for, if it is one. -/
def Sample.depth (s : Sample α) : Option (PyFloat α) := (s.value F).bind usableDepth

/-- A sample that both readers can read: an integer within the range of the floats, and an object
only if it has a text. -/
def Sample.Readable : Sample α → Prop
  | .int n => (F.round n).isFinite = true
  | .object repr => repr.isSome = true
  | .bool _ | .float _ => True

variable {F T}

lemma depth_of_readSample {s : Sample α} {read : String × Option (PyFloat α)}
    (h : readSample F T s = .ok read) : read.2 = s.depth F := by
  obtain ⟨token, -, h⟩ := exceptBind_eq_ok.mp h
  obtain ⟨depth, hdepth, rfl⟩ := exceptMap_eq_ok.mp h
  cases s with
  | bool b => exact (Except.ok.inj hdepth).symm
  | object repr => exact (Except.ok.inj hdepth).symm
  | float x => exact (Except.ok.inj hdepth).symm
  | int n =>
    obtain ⟨number, hnumber, rfl⟩ := exceptMap_eq_ok.mp hdepth
    change (if (F.round (n : α)).isFinite = true then Except.ok (F.round (n : α))
      else .error PyErr.overflowError) = .ok number at hnumber
    split_ifs at hnumber
    rw [← Except.ok.inj hnumber]
    rfl

lemma exists_readSample_iff {s : Sample α} :
    (∃ read, readSample F T s = .ok read) ↔ s.Readable F := by
  cases s with
  | bool b => exact iff_of_true ⟨_, rfl⟩ trivial
  | float x => exact iff_of_true ⟨_, rfl⟩ trivial
  | object repr =>
    cases repr with
    | none => exact iff_of_false (fun ⟨_, h⟩ => by cases h) (fun h => by cases h)
    | some text => exact iff_of_true ⟨_, rfl⟩ rfl
  | int n =>
    unfold readSample payloadToken readableDepth Sample.Readable PyVal.toFloat
    by_cases hfinite : (F.round (n : α)).isFinite = true
    · simp only [if_pos hfinite]
      exact iff_of_true ⟨_, rfl⟩ hfinite
    · simp only [if_neg hfinite]
      exact iff_of_false (fun ⟨_, h⟩ => by cases h) hfinite

/-- The frame is read exactly when each of its samples is. -/
lemma exists_depthValidity_iff {rows : List (List (Sample α))} :
    (∃ validity, depthValidity F T rows = .ok validity) ↔
      ∀ row ∈ rows, ∀ s ∈ row, s.Readable F := by
  have hmap : (∃ validity, depthValidity F T rows = .ok validity) ↔
      ∃ read, rows.mapM (List.mapM (readSample F T)) = .ok read := by
    unfold depthValidity
    constructor
    · rintro ⟨validity, h⟩
      obtain ⟨read, hread, -⟩ := exceptMap_eq_ok.mp h
      exact ⟨read, hread⟩
    · rintro ⟨read, hread⟩
      exact ⟨_, exceptMap_eq_ok.mpr ⟨read, hread, rfl⟩⟩
  rw [hmap]
  simp only [exists_mapM_eq_ok, exists_readSample_iff]

omit [Field α] [LinearOrder α] [IsStrictOrderedRing α] in
lemma map_eq_of_mapM_eq_ok {ε β γ δ : Type*} {f : β → Except ε γ} {g : γ → δ} {k : β → δ}
    (hf : ∀ x y, f x = .ok y → g y = k x) {xs : List β} {ys : List γ} (h : xs.mapM f = .ok ys) :
    ys.map g = xs.map k := by
  have hpairs := forall₂_of_mapM_eq_ok h
  clear h
  induction hpairs with
  | nil => rfl
  | cons hx _ ih => rw [List.map_cons, List.map_cons, ih, hf _ _ hx]

/-- What was read of a frame. -/
lemma depthValidity_spec {rows : List (List (Sample α))} {validity : DepthValidity α}
    (h : depthValidity F T rows = .ok validity) :
    validity.validPixels = pixels (rows.map (List.map (Sample.depth F))) ∧
      validity.totalPixels = (rows.map List.length).sum ∧
      validity.validCount = validity.validPixels.length ∧
      validity.validFraction = if validity.totalPixels = 0 then .fin 0
        else F.round (validity.validCount / validity.totalPixels) := by
  obtain ⟨read, hread, rfl⟩ := exceptMap_eq_ok.mp h
  have hdepths : read.map (List.map Prod.snd) = rows.map (List.map (Sample.depth F)) :=
    map_eq_of_mapM_eq_ok (fun row r hr =>
      map_eq_of_mapM_eq_ok (fun s read hs => depth_of_readSample hs) hr) hread
  have hlengths : read.map List.length = rows.map List.length := by
    have h := congrArg (List.map List.length) hdepths
    simpa [List.map_map, Function.comp_def] using h
  refine ⟨congrArg pixels hdepths, congrArg List.sum hlengths, rfl, rfl⟩

/-- The depths that are usable are the finite positive numbers. -/
lemma depth_eq_some_iff {s : Sample α} {z : PyFloat α} :
    s.depth F = some z ↔ ∃ x, s.value F = some (.fin x) ∧ 0 < x ∧ z = .fin x := by
  have husable : ∀ number : PyFloat α,
      usableDepth number = some z ↔ ∃ x, number = .fin x ∧ 0 < x ∧ z = .fin x := by
    intro number
    cases number with
    | fin x =>
      by_cases hx : 0 < x
      · simp [usableDepth, hx, eq_comm]
      · have hle : x ≤ 0 := not_lt.mp hx
        simp only [usableDepth, PyFloat.isFinite_fin, PyFloat.fin_le_fin, hle, or_true, if_true,
          reduceCtorEq, false_iff, not_exists, not_and]
        rintro y heq hy
        exact absurd (PyFloat.fin.inj heq ▸ hy) hx
    | nan => simp [usableDepth]
    | posInf => simp [usableDepth]
    | negInf => simp [usableDepth]
  unfold Sample.depth
  rw [Option.bind_eq_some_iff]
  simp only [husable]
  constructor
  · rintro ⟨_, hvalue, x, rfl, h⟩
    exact ⟨x, hvalue, h⟩
  · rintro ⟨x, hvalue, h⟩
    exact ⟨_, hvalue, x, rfl, h⟩

/-- A payload of floats is read without an exception. -/
lemma depthValidity_floats (rows : List (List (PyFloat α))) :
    ∃ validity, depthValidity F T (rows.map (List.map .float)) = .ok validity ∧
      validity.validPixels = pixels (rows.map (List.map usableDepth)) := by
  have hreadable : ∀ row ∈ rows.map (List.map Sample.float), ∀ s ∈ row, s.Readable F := by
    intro row hrow s hs
    obtain ⟨xs, -, rfl⟩ := List.mem_map.mp hrow
    obtain ⟨x, -, rfl⟩ := List.mem_map.mp hs
    trivial
  obtain ⟨validity, hvalidity⟩ := exists_depthValidity_iff.mpr hreadable
  refine ⟨validity, hvalidity, ?_⟩
  rw [(depthValidity_spec hvalidity).1, List.map_map]
  congr 2
  funext row
  rw [Function.comp_apply, List.map_map]
  rfl

end Reading

/-! ## The projection -/

/-- `CameraIntrinsics`, with what its constructor checks. -/
structure CameraIntrinsics (α : Type*) [Field α] [LinearOrder α] where
  fx : PyFloat α
  fy : PyFloat α
  cx : PyFloat α
  cy : PyFloat α
  fx_pos : fx.isFinite = true ∧ .fin 0 < fx
  fy_pos : fy.isFinite = true ∧ .fin 0 < fy
  cx_nonneg : cx.isFinite = true ∧ .fin 0 ≤ cx
  cy_nonneg : cy.isFinite = true ∧ .fin 0 ≤ cy

/-- `MountingGeometry` in full: the datum of the grid, and how the camera hangs. -/
structure CameraMounting (α : Type*) [Field α] [LinearOrder α] extends MountingGeometry α where
  cameraHeightM : α
  pitchDownRad : α
  height_pos : 0 < cameraHeightM
  pitch_pos : 0 < pitchDownRad

section Projection

variable {α : Type*} [Field α] [LinearOrder α] [IsStrictOrderedRing α] (F : FloatFormat α)
  (L : MathLib α)

/-- The body of the loop of `back_project`: the point of one pixel. -/
def projectPixel (intrinsics : CameraIntrinsics α) (mounting : CameraMounting α)
    (pixel : ℕ × ℕ × PyFloat α) : Point3 (PyFloat α) :=
  let (u, v, depth) := pixel
  let cosPitch := L.cos mounting.pitchDownRad
  let sinPitch := L.sin mounting.pitchDownRad
  let xOptical := F.div (F.mul (F.sub (F.round u) intrinsics.cx) depth) intrinsics.fx
  let yOptical := F.div (F.mul (F.sub (F.round v) intrinsics.cy) depth) intrinsics.fy
  { x := F.sub (F.mul depth cosPitch) (F.mul yOptical sinPitch)
    y := xOptical.neg
    z := F.sub (F.sub (.fin mounting.cameraHeightM) (F.mul depth sinPitch))
      (F.mul yOptical cosPitch) }

/-- `back_project`. -/
def backProject (validPixels : List (ℕ × ℕ × PyFloat α)) (intrinsics : CameraIntrinsics α)
    (mounting : CameraMounting α) : List (Point3 (PyFloat α)) :=
  validPixels.map (projectPixel F L intrinsics mounting)

end Projection

end Perception

end MiniatureWarehouse
