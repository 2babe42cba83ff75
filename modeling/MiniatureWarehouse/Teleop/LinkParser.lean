import MiniatureWarehouse.Framework.JsonRoundTrip
import MiniatureWarehouse.Teleop.OperatorLink

/-!
# The operator-link parser on every frame

The whole contract of `parse_control_message` is that a remote peer cannot kill the link handler by
what it sends: the parser returns a message or nothing, and never raises.  What it returns is well
formed (`WellFormed`): its numbers are finite, and its payload is one of its kind.

The contract has one hole.  `_is_finite_number` converts its argument before it judges it, and an
integer beyond the range of the floats does not become an infinity there: the conversion raises.
A peer reaches the conversion once the kind, the names and the counters of its frame are in order
(`Envelope`), and every number before the oversized one is finite (`Overflows`).
`parse_total_iff` says that these frames are the only ones the contract fails on.
-/

namespace MiniatureWarehouse

namespace OperatorLink

open CrossingApproval

/-! ## Frames -/

/-- What arrives on the connection. -/
inductive Frame
  | text (s : String)
  | bytes (b : ByteArray)

/-- The text of a frame; bytes that are no UTF-8 have none. -/
def Frame.text? : Frame → Option String
  | .text s => some s
  | .bytes b => String.fromUTF8? b

section Parser

variable {α : Type} [Field α] [LinearOrder α] [IsStrictOrderedRing α] (F : FloatFormat α)

/-- `parse_control_message`, on a frame. -/
def Frame.parse (scan : JsonScan α) (frame : Frame) : Except PyErr (Option (ControlMessage α)) :=
  parseControlMessage F scan frame.text?

/-! ## Well-formed messages -/

omit [Field α] [LinearOrder α] [IsStrictOrderedRing α] in
/-- What a kind requires of its payload. -/
def ControlPayload.WellFormed : ControlPayload α → Prop
  | heartbeat => True
  | teleop axes buttons =>
    axes.length ≤ maxJoyArrayLen ∧ buttons.length ≤ maxJoyArrayLen ∧
      ∀ x ∈ axes, x.isFinite = true
  | stopRequest action => action ∈ stopActions
  | crossingApproval token entryHeading =>
    token.tokenId ≠ "" ∧ token.crossingId ≠ "" ∧ token.routeVersion ≠ "" ∧
      token.datumVersion ≠ "" ∧ entryHeading.isFinite = true ∧
      ∃ x, token.expiresAtS = .float (.fin x)
  | authority _ => True

/-- A message the contract lets through. -/
structure WellFormed (m : ControlMessage α) : Prop where
  sentAt_finite : m.sentAtS.isFinite = true
  payload_kind : m.payload.kind = m.kind
  payload : m.payload.WellFormed

/-! ## Numbers -/

/-- A number that passes `_is_finite_number`. -/
def isFiniteNumber : PyVal α → Bool
  | .int i => (F.round i).isFinite
  | .float x => x.isFinite
  | _ => false

/-- An integer beyond the range of the floats. -/
def isOversized : PyVal α → Bool
  | .int i => !(F.round i).isFinite
  | _ => false

variable {F} {v : PyVal α}

lemma finiteNumber?_of_isOversized (h : isOversized F v = true) :
    finiteNumber? F v = .error .overflowError := by
  cases v with
  | int i =>
    have hround : ¬ (F.round i).isFinite = true := by simpa [isOversized] using h
    have hconvert : PyVal.toFloat F (.int i) = .error .overflowError := if_neg hround
    rw [finiteNumber?, hconvert]
    rfl
  | _ => cases h

lemma finiteNumber?_of_isFiniteNumber (h : isFiniteNumber F v = true) :
    ∃ x, finiteNumber? F v = .ok (some x) := by
  cases v with
  | int i =>
    obtain ⟨x, hx⟩ := PyFloat.isFinite_iff.mp h
    have hround : (F.round i).isFinite = true := h
    have hconvert : PyVal.toFloat F (.int i) = .ok (.fin x) := (if_pos hround).trans (by rw [hx])
    refine ⟨x, ?_⟩
    rw [finiteNumber?, hconvert]
    rfl
  | float x =>
    obtain ⟨x, rfl⟩ := PyFloat.isFinite_iff.mp h
    exact ⟨x, rfl⟩
  | _ => cases h

lemma finiteNumber?_of_neither (hsize : isOversized F v = false)
    (hfinite : isFiniteNumber F v = false) : finiteNumber? F v = .ok none := by
  cases v with
  | int i =>
    have hround : (F.round i).isFinite = true := by simpa [isOversized] using hsize
    exact absurd hround (by simpa [isFiniteNumber] using hfinite)
  | float x => cases x <;> first | rfl | cases hfinite
  | _ => rfl

/-- The check raises on the oversized integers alone. -/
lemma finiteNumber?_raises : (∃ e, finiteNumber? F v = .error e) ↔ isOversized F v = true := by
  constructor
  · rintro ⟨e, he⟩
    by_contra hsize
    rw [Bool.not_eq_true] at hsize
    cases hfinite : isFiniteNumber F v with
    | true =>
      obtain ⟨x, hx⟩ := finiteNumber?_of_isFiniteNumber hfinite
      rw [hx] at he
      cases he
    | false =>
      rw [finiteNumber?_of_neither hsize hfinite] at he
      cases he
  · intro h
    exact ⟨_, finiteNumber?_of_isOversized h⟩

/-- The check vouches for the finite numbers alone. -/
lemma finiteNumber?_vouches :
    (∃ x, finiteNumber? F v = .ok (some x)) ↔ isFiniteNumber F v = true := by
  constructor
  · rintro ⟨x, hx⟩
    by_contra hfinite
    rw [Bool.not_eq_true] at hfinite
    cases hsize : isOversized F v with
    | true =>
      rw [finiteNumber?_of_isOversized hsize] at hx
      cases hx
    | false =>
      rw [finiteNumber?_of_neither hsize hfinite] at hx
      cases hx
  · exact finiteNumber?_of_isFiniteNumber

/-- A list of axes with an oversized integer after finite numbers only. -/
def AxesOverflow (F : FloatFormat α) (axes : List (PyVal α)) : Prop :=
  ∃ before v after, axes = before ++ v :: after ∧ (∀ w ∈ before, isFiniteNumber F w = true) ∧
    isOversized F v = true

lemma axesOverflow_cons {vs : List (PyVal α)} :
    AxesOverflow F (v :: vs) ↔
      isOversized F v = true ∨ isFiniteNumber F v = true ∧ AxesOverflow F vs := by
  constructor
  · rintro ⟨before, w, after, hsplit, hbefore, hw⟩
    cases before with
    | nil =>
      obtain ⟨rfl, rfl⟩ := List.cons.inj hsplit
      exact .inl hw
    | cons u before =>
      obtain ⟨rfl, rfl⟩ := List.cons.inj hsplit
      obtain ⟨hu, hbefore⟩ := List.forall_mem_cons.mp hbefore
      exact .inr ⟨hu, before, w, after, rfl, hbefore, hw⟩
  · rintro (hv | ⟨hv, before, w, after, rfl, hbefore, hw⟩)
    · exact ⟨[], v, vs, rfl, fun _ h => absurd h List.not_mem_nil, hv⟩
    · exact ⟨v :: before, w, after, rfl, List.forall_mem_cons.mpr ⟨hv, hbefore⟩, hw⟩

/-- The loop over the axes raises where it meets an oversized integer. -/
lemma finiteNumbers?_raises (vs : List (PyVal α)) :
    (∃ e, finiteNumbers? F vs = .error e) ↔ AxesOverflow F vs := by
  induction vs with
  | nil =>
    constructor
    · rintro ⟨e, he⟩
      cases he
    · rintro ⟨before, v, after, hsplit, -⟩
      cases before <;> cases hsplit
  | cons v vs ih =>
    rw [axesOverflow_cons, ← ih, ← finiteNumber?_raises, ← finiteNumber?_vouches]
    rw [finiteNumbers?]
    cases hv : finiteNumber? F v with
    | error e => simp
    | ok x? =>
      cases x? with
      | none => simp
      | some x => simp [exceptMap_eq_error]

lemma finiteNumbers?_finite {vs : List (PyVal α)} {xs : List (PyFloat α)}
    (h : finiteNumbers? F vs = .ok (some xs)) :
    xs.length = vs.length ∧ ∀ x ∈ xs, x.isFinite = true := by
  induction vs generalizing xs with
  | nil =>
    obtain rfl := Option.some.inj (Except.ok.inj h)
    exact ⟨rfl, fun _ h => absurd h List.not_mem_nil⟩
  | cons v vs ih =>
    unfold finiteNumbers? at h
    cases hv : finiteNumber? F v with
    | error e => simp [hv] at h
    | ok x? =>
      cases x? with
      | none => simp [hv] at h
      | some x =>
        rw [hv] at h
        obtain ⟨xs?, hxs, h⟩ := exceptMap_eq_ok.mp h
        obtain ⟨xs, rfl, rfl⟩ := Option.map_eq_some_iff.mp h
        obtain ⟨hlength, hfinite⟩ := ih hxs
        exact ⟨congrArg (· + 1) hlength, List.forall_mem_cons.mpr ⟨rfl, hfinite⟩⟩

/-! ## Payloads -/

/-- A body whose payload leads the parser to an oversized integer. -/
inductive PayloadOverflow (F : FloatFormat α) (body : PyVal α) : ControlKind → Prop
  | axes {axes buttons : List (PyVal α)} (haxes : field body "axes" = .list axes)
      (hbuttons : field body "buttons" = .list buttons) (hshort : axes.length ≤ maxJoyArrayLen)
      (hshort' : buttons.length ≤ maxJoyArrayLen) (h : AxesOverflow F axes) :
      PayloadOverflow F body .teleop
  | entryHeading
      (hnames : ∀ key ∈ ["token_id", "crossing_id", "route_version", "datum_version"],
        (nonemptyStr? (field body key)).isSome = true)
      (h : isOversized F (field body "entry_heading") = true) :
      PayloadOverflow F body .crossingApproval
  | expiresAt
      (hnames : ∀ key ∈ ["token_id", "crossing_id", "route_version", "datum_version"],
        (nonemptyStr? (field body key)).isSome = true)
      (hheading : isFiniteNumber F (field body "entry_heading") = true)
      (h : isOversized F (field body "expires_at_s") = true) :
      PayloadOverflow F body .crossingApproval

variable {body : PyVal α}

lemma parseTeleop_raises :
    (∃ e, parseTeleop F body = .error e) ↔ PayloadOverflow F body .teleop := by
  constructor
  · rintro ⟨e, he⟩
    unfold parseTeleop at he
    split at he
    · rename_i axes buttons haxes hbuttons
      split_ifs at he with hlong
      have hraises := (finiteNumbers?_raises axes).mp ⟨e, exceptMap_eq_error.mp he⟩
      push Not at hlong
      exact .axes haxes hbuttons hlong.1 hlong.2 hraises
    · cases he
  · rintro ⟨haxes, hbuttons, hshort, hshort', h⟩
    obtain ⟨e, he⟩ := (finiteNumbers?_raises _).mpr h
    refine ⟨e, ?_⟩
    unfold parseTeleop
    rw [haxes, hbuttons]
    dsimp only
    rw [if_neg (by omega), he]
    rfl

lemma parseCrossingApproval_raises :
    (∃ e, parseCrossingApproval F body = .error e) ↔ PayloadOverflow F body .crossingApproval := by
  constructor
  · rintro ⟨e, he⟩
    unfold parseCrossingApproval at he
    split at he
    · rename_i tokenId crossingId routeVersion datumVersion hid hcrossing hroute hdatum
      have hnames : ∀ key ∈ ["token_id", "crossing_id", "route_version", "datum_version"],
          (nonemptyStr? (field body key)).isSome = true := by
        simp [hid, hcrossing, hroute, hdatum]
      cases hheading : finiteNumber? F (field body "entry_heading") with
      | error e' => exact .entryHeading hnames (finiteNumber?_raises.mp ⟨e', hheading⟩)
      | ok heading? =>
        rw [hheading] at he
        cases heading? with
        | none => cases he
        | some heading =>
          have hdeadline := exceptMap_eq_error.mp he
          exact .expiresAt hnames (finiteNumber?_vouches.mp ⟨heading, hheading⟩)
            (finiteNumber?_raises.mp ⟨e, hdeadline⟩)
    · cases he
  · intro h
    have hnames : ∀ key ∈ ["token_id", "crossing_id", "route_version", "datum_version"],
        (nonemptyStr? (field body key)).isSome = true := by
      cases h <;> assumption
    obtain ⟨tokenId, hid⟩ := Option.isSome_iff_exists.mp (hnames "token_id" (by decide))
    obtain ⟨crossingId, hcrossing⟩ := Option.isSome_iff_exists.mp (hnames "crossing_id" (by decide))
    obtain ⟨route, hroute⟩ := Option.isSome_iff_exists.mp (hnames "route_version" (by decide))
    obtain ⟨datum, hdatum⟩ := Option.isSome_iff_exists.mp (hnames "datum_version" (by decide))
    unfold parseCrossingApproval
    rw [hid, hcrossing, hroute, hdatum]
    dsimp only
    cases h with
    | entryHeading _ h => exact ⟨_, by rw [finiteNumber?_of_isOversized h]⟩
    | expiresAt _ hheading h =>
      obtain ⟨x, hx⟩ := finiteNumber?_of_isFiniteNumber hheading
      refine ⟨.overflowError, ?_⟩
      rw [hx, finiteNumber?_of_isOversized h]
      rfl

lemma parsePayload_raises {kind : ControlKind} :
    (∃ e, parsePayload F kind body = .error e) ↔ PayloadOverflow F body kind := by
  cases kind with
  | teleop => exact parseTeleop_raises
  | crossingApproval => exact parseCrossingApproval_raises
  | _ =>
    constructor
    · rintro ⟨e, he⟩
      cases he
    · intro h
      cases h

omit [Field α] [LinearOrder α] [IsStrictOrderedRing α] in
lemma length_mapM_button? {vs : List (PyVal α)} {bs : List ℤ} (h : vs.mapM button? = some bs) :
    bs.length = vs.length := by
  induction vs generalizing bs with
  | nil =>
    obtain rfl := Option.some.inj h
    rfl
  | cons v vs ih =>
    rw [List.mapM_cons] at h
    obtain ⟨b, -, h⟩ := Option.bind_eq_some_iff.mp h
    obtain ⟨bs', hbs, h⟩ := Option.bind_eq_some_iff.mp h
    obtain rfl := Option.some.inj h
    rw [List.length_cons, List.length_cons, ih hbs]

lemma wellFormed_parseTeleop {payload : ControlPayload α}
    (h : parseTeleop F body = .ok (some payload)) : payload.WellFormed := by
  unfold parseTeleop at h
  split at h
  · rename_i axes buttons _ _
    split_ifs at h with hlong
    · cases h
    push Not at hlong
    obtain ⟨axes?, hnumbers, h⟩ := exceptMap_eq_ok.mp h
    split at h
    · rename_i xs bs hbs
      obtain rfl := Option.some.inj h
      obtain ⟨hlength, hfinite⟩ := finiteNumbers?_finite hnumbers
      refine ⟨hlength.trans_le hlong.1, ?_, hfinite⟩
      exact (length_mapM_button? hbs).trans_le hlong.2
    · cases h
  · cases h

omit [Field α] [LinearOrder α] [IsStrictOrderedRing α] in
lemma wellFormed_parseStopRequest {payload : ControlPayload α}
    (h : parseStopRequest body = some payload) : payload.WellFormed := by
  unfold parseStopRequest at h
  split at h
  · split_ifs at h with haction
    rw [← Option.some.inj h]
    exact haction
  · cases h

omit [Field α] [LinearOrder α] [IsStrictOrderedRing α] in
lemma ne_empty_of_nonemptyStr? {s : String} (h : nonemptyStr? v = some s) : s ≠ "" := by
  cases v with
  | str t =>
    rw [nonemptyStr?] at h
    split_ifs at h with hne
    rw [← Option.some.inj h]
    exact hne
  | _ => cases h

lemma wellFormed_parseCrossingApproval {payload : ControlPayload α}
    (h : parseCrossingApproval F body = .ok (some payload)) : payload.WellFormed := by
  unfold parseCrossingApproval at h
  split at h
  · rename_i tokenId crossingId routeVersion datumVersion hid hcrossing hroute hdatum
    split at h
    · cases h
    · cases h
    · obtain ⟨deadline?, -, h⟩ := exceptMap_eq_ok.mp h
      obtain ⟨deadline, -, rfl⟩ := Option.map_eq_some_iff.mp h
      exact ⟨ne_empty_of_nonemptyStr? hid, ne_empty_of_nonemptyStr? hcrossing,
        ne_empty_of_nonemptyStr? hroute, ne_empty_of_nonemptyStr? hdatum, rfl, deadline, rfl⟩
  · cases h

omit [Field α] [LinearOrder α] [IsStrictOrderedRing α] in
lemma wellFormed_parseAuthority {payload : ControlPayload α}
    (h : parseAuthority body = some payload) : payload.WellFormed := by
  unfold parseAuthority at h
  split at h
  · rw [← Option.some.inj h]
    trivial
  · cases h

lemma wellFormed_parsePayload {kind : ControlKind} {payload : ControlPayload α}
    (h : parsePayload F kind body = .ok (some payload)) : payload.WellFormed := by
  cases kind with
  | heartbeat =>
    rw [← Option.some.inj (Except.ok.inj h)]
    trivial
  | teleop => exact wellFormed_parseTeleop h
  | stopRequest => exact wellFormed_parseStopRequest (Except.ok.inj h)
  | crossingApproval => exact wellFormed_parseCrossingApproval h
  | authority => exact wellFormed_parseAuthority (Except.ok.inj h)

/-! ## Frames of a kind -/

/-- An object of a kind, with exactly its names and with counters in order. -/
structure Envelope (kind : ControlKind) (es : List (String × PyVal α)) : Prop where
  names : (es.map Prod.fst).toFinset = envelopeKeys ∪ payloadKeys kind
  sessionEpoch : (counter? (field (.dict es) "session_epoch")).isSome = true
  sequence : (counter? (field (.dict es) "sequence")).isSome = true

/-- An object that leads the parser to an oversized integer. -/
structure FieldsOverflow (F : FloatFormat α) (kind : ControlKind) (es : List (String × PyVal α)) :
    Prop where
  envelope : Envelope kind es
  oversized : isOversized F (field (.dict es) "sent_at_s") = true ∨
    isFiniteNumber F (field (.dict es) "sent_at_s") = true ∧ PayloadOverflow F (.dict es) kind

lemma parseFields_raises {kind : ControlKind} {es : List (String × PyVal α)} :
    (∃ e, parseFields F kind es = .error e) ↔ FieldsOverflow F kind es := by
  constructor
  · rintro ⟨e, he⟩
    unfold parseFields at he
    dsimp only at he
    split_ifs at he with hnames
    split at he
    · rename_i epoch sequence hepoch hsequence
      refine ⟨⟨not_not.mp hnames, by rw [hepoch]; rfl, by rw [hsequence]; rfl⟩, ?_⟩
      cases hsent : finiteNumber? F (field (.dict es) "sent_at_s") with
      | error e' => exact .inl (finiteNumber?_raises.mp ⟨e', hsent⟩)
      | ok sent? =>
        rw [hsent] at he
        cases sent? with
        | none => cases he
        | some sent =>
          have hpayload := exceptMap_eq_error.mp he
          exact .inr ⟨finiteNumber?_vouches.mp ⟨sent, hsent⟩, parsePayload_raises.mp ⟨e, hpayload⟩⟩
    · cases he
  · rintro ⟨⟨hnames, hepoch, hsequence⟩, hoversized⟩
    obtain ⟨epoch, hepoch⟩ := Option.isSome_iff_exists.mp hepoch
    obtain ⟨sequence, hsequence⟩ := Option.isSome_iff_exists.mp hsequence
    unfold parseFields
    dsimp only
    rw [if_neg (not_not.mpr hnames), hepoch, hsequence]
    dsimp only
    rcases hoversized with hsent | ⟨hsent, hpayload⟩
    · exact ⟨_, by rw [finiteNumber?_of_isOversized hsent]⟩
    · obtain ⟨x, hx⟩ := finiteNumber?_of_isFiniteNumber hsent
      obtain ⟨e, he⟩ := parsePayload_raises.mpr hpayload
      refine ⟨e, ?_⟩
      rw [hx, he]
      rfl

lemma wellFormed_parseFields {kind : ControlKind} {es : List (String × PyVal α)}
    {m : ControlMessage α} (h : parseFields F kind es = .ok (some m)) : WellFormed m := by
  obtain ⟨hsent, hkind⟩ := parseFields_spec h
  refine ⟨hsent, hkind, ?_⟩
  unfold parseFields at h
  dsimp only at h
  split_ifs at h
  · cases h
  split at h
  · split at h
    · cases h
    · cases h
    · obtain ⟨payload?, hpayload, h⟩ := exceptMap_eq_ok.mp h
      obtain ⟨payload, rfl, rfl⟩ := Option.map_eq_some_iff.mp h
      exact wellFormed_parsePayload hpayload
  · cases h

variable {scan : JsonScan α} {frame : Frame}

/-- A frame that leads the parser to an oversized integer. -/
def Overflows (F : FloatFormat α) (scan : JsonScan α) (frame : Frame) : Prop :=
  ∃ text es name kind, frame.text? = some text ∧ scan.loads text = .ok (.dict es) ∧
    (PyVal.dict es).get? "kind" = some (.str name) ∧ ControlKind.ofString? name = some kind ∧
    FieldsOverflow F kind es

lemma parse_raises : (∃ e, frame.parse F scan = .error e) ↔ Overflows F scan frame := by
  unfold Frame.parse parseControlMessage
  constructor
  · rintro ⟨e, he⟩
    split at he
    · cases he
    rename_i text htext
    split at he
    · rename_i es hloads
      split at he
      · rename_i name hname
        split at he
        · rename_i kind hkind
          exact ⟨text, es, name, kind, htext, hloads, hname, hkind, parseFields_raises.mp ⟨e, he⟩⟩
        · cases he
      · cases he
    · cases he
    · cases he
  · rintro ⟨text, es, name, kind, htext, hloads, hname, hkind, h⟩
    obtain ⟨e, he⟩ := parseFields_raises.mpr h
    refine ⟨e, ?_⟩
    rw [htext]
    dsimp only
    rw [hloads]
    dsimp only
    rw [hname]
    dsimp only
    rw [hkind]
    exact he

lemma wellFormed_parse {m : ControlMessage α} (h : frame.parse F scan = .ok (some m)) :
    WellFormed m := by
  unfold Frame.parse parseControlMessage at h
  split at h
  · cases h
  split at h
  · split at h
    · split at h
      · exact wellFormed_parseFields h
      · cases h
    · cases h
  · cases h
  · cases h

/-- **When the parser keeps its contract.**  It returns nothing or a well-formed message on exactly
the frames that do not lead it to an integer beyond the range of the floats. -/
theorem parse_total_iff (F : FloatFormat α) (scan : JsonScan α) (frame : Frame) :
    (∃ message?, frame.parse F scan = .ok message? ∧ ∀ m ∈ message?, WellFormed m) ↔
      ¬ Overflows F scan frame := by
  rw [← parse_raises]
  constructor
  · rintro ⟨message?, hok, -⟩ ⟨e, he⟩
    rw [hok] at he
    cases he
  · intro hraises
    cases hparse : frame.parse F scan with
    | error e => exact absurd ⟨e, hparse⟩ hraises
    | ok message? =>
      refine ⟨message?, rfl, fun m hm => ?_⟩
      obtain rfl : message? = some m := hm
      exact wellFormed_parse hparse

end Parser

/-! ## A heartbeat that raises -/

/-- The largest double. -/
def maxDouble : ℤ := 2 ^ 1024 - 2 ^ 971

lemma maxDouble_nonneg : 0 ≤ maxDouble := by
  have hle : (2 : ℤ) ^ 971 ≤ 2 ^ 1024 := pow_le_pow_right₀ one_le_two (by omega)
  exact sub_nonneg.mpr hle

/-- Exact arithmetic within the range of the doubles. -/
def binary64 : FloatFormat ℚ := .bounded maxDouble (Int.cast_nonneg maxDouble_nonneg)

lemma maxDouble_lt : maxDouble < 10 ^ 400 :=
  calc maxDouble ≤ 2 ^ 1024 := sub_le_self _ (pow_nonneg zero_le_two _)
    _ = (2 ^ 64) ^ 16 := by rw [← pow_mul]
    _ < (10 ^ 25) ^ 16 := pow_lt_pow_left₀ (by norm_num) (by norm_num) (by omega)
    _ = 10 ^ 400 := by rw [← pow_mul]

/-- The heartbeat of a session, with an integer for the time it was sent. -/
def heartbeat (sentAt : ℤ) : List (String × PyVal ℚ) :=
  [("kind", .str "heartbeat"), ("session_epoch", .int 1), ("sequence", .int 1),
    ("sent_at_s", .int sentAt)]

/-- The heartbeat as it is sent. -/
def heartbeatFrame (sentAt : ℤ) : Frame :=
  .text (String.ofList (Json.dumps .rational (.dict (heartbeat sentAt))))

lemma loads_heartbeat (sentAt : ℤ) :
    (Json.scan .rational).loads (String.ofList (Json.dumps .rational (.dict (heartbeat sentAt)))) =
      .ok (.dict (heartbeat sentAt)) := by
  apply Json.loads_dumps
  rfl

lemma isOversized_digits : isOversized binary64 (.int (10 ^ 400)) = true := by
  have hround : binary64.round ((10 ^ 400 : ℤ) : ℚ) = .posInf :=
    FloatFormat.round_bounded_of_lt _ (Int.cast_lt.mpr maxDouble_lt)
  rw [isOversized, hround]
  rfl

/-- **A heartbeat kills the link handler.**  Its time is an integer of four hundred and one digits;
everything else about it is in order. -/
theorem heartbeat_raises :
    ¬ ∃ message?, (heartbeatFrame (10 ^ 400)).parse binary64 (Json.scan .rational) = .ok message? ∧
      ∀ m ∈ message?, WellFormed m := by
  have hraises : ∃ e,
      (heartbeatFrame (10 ^ 400)).parse binary64 (Json.scan .rational) = .error e := by
    refine parse_raises.mpr ⟨_, heartbeat (10 ^ 400), "heartbeat", .heartbeat, rfl,
      loads_heartbeat _, rfl, rfl, ⟨⟨?_, rfl, rfl⟩, .inl isOversized_digits⟩⟩
    decide
  rintro ⟨message?, hok, -⟩
  obtain ⟨e, he⟩ := hraises
  rw [hok] at he
  cases he

/-- The same heartbeat, sent at the epoch of the clock, is a message. -/
theorem parse_total_heartbeat :
    ∃ message?, (heartbeatFrame 0).parse binary64 (Json.scan .rational) = .ok message? ∧
      ∀ m ∈ message?, WellFormed m := by
  refine (parse_total_iff binary64 (Json.scan .rational) (heartbeatFrame 0)).mpr ?_
  rintro ⟨text, es, name, kind, htext, hloads, hname, hkind, hfields⟩
  obtain rfl := Option.some.inj htext
  rw [loads_heartbeat] at hloads
  obtain rfl := PyVal.dict.inj (Except.ok.inj hloads)
  obtain rfl : "heartbeat" = name := PyVal.str.inj (Option.some.inj hname)
  obtain rfl : ControlKind.heartbeat = kind := Option.some.inj hkind
  rcases hfields.oversized with hsent | ⟨-, hpayload⟩
  · have hround : binary64.round ((0 : ℤ) : ℚ) = .fin 0 := by
      rw [Int.cast_zero]
      exact binary64.round_zero
    have hsize : isOversized binary64 (.int 0) = false := by
      rw [isOversized, hround]
      rfl
    exact Bool.noConfusion (hsent.symm.trans hsize)
  · cases hpayload

end OperatorLink

end MiniatureWarehouse
