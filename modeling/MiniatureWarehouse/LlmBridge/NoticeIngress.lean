import MiniatureWarehouse.LlmBridge.OperatorFeedback

/-!
# The ingress of the operator feedback node

Two subscription callbacks decode what they receive and append an event to the queue of the worker;
what cannot be decoded is dropped and counted.  They run on the executor's thread, where an
exception ends the subscriber.

The decoder coerces the generation and nothing else, and the callback looks its decision up in a
set.  So three kinds of payload raise: one nested too deeply, a notice with an infinite generation,
and a notice whose decision is a container.  `notice_ingress_iff` says that there is no other.
-/

namespace MiniatureWarehouse

namespace OperatorFeedback

/-- A string received, by its topic. -/
inductive Received
  | notice (raw : String)
  | emergency (raw : String)

/-- What the callbacks change of `OperatorNoticeDriver`. -/
structure Ingress (α : Type) where
  pending : List (DecisionEvent (PyVal α))
  droppedMalformed : ℕ
  droppedOffWireEmergency : ℕ

section Callbacks

variable {α : Type} [Field α] [LinearOrder α] [FloorRing α] (parseInt : String → Option ℤ)
  (pyStr : PyVal α → String) (scan : JsonScan α)

namespace Ingress

omit [Field α] [LinearOrder α] [FloorRing α] in
/-- A payload that was dropped. -/
def malformed (s : Ingress α) : Ingress α × Except PyErr Bool :=
  ({ s with droppedMalformed := s.droppedMalformed + 1 }, .ok false)

omit [Field α] [LinearOrder α] [FloorRing α] in
/-- `_enqueue`. -/
def enqueue (s : Ingress α) (e : DecisionEvent (PyVal α)) : Ingress α × Except PyErr Bool :=
  ({ s with pending := s.pending ++ [e] }, .ok true)

/-- `enqueue_notice`. -/
def enqueueNotice (s : Ingress α) (raw : String) : Ingress α × Except PyErr Bool :=
  match decodeNotice parseInt scan raw with
  | .error err => (s, .error err)
  | .ok none => s.malformed
  | .ok (some e) =>
    match isOneOf offWireSpeakableDecisions e.decision with
    | .error err => (s, .error err)
    | .ok true =>
      ({ s with droppedOffWireEmergency := s.droppedOffWireEmergency + 1 }, .ok false)
    | .ok false => s.enqueue e

omit [Field α] [LinearOrder α] [FloorRing α] in
/-- `enqueue_emergency`. -/
def enqueueEmergency (s : Ingress α) (raw : String) : Ingress α × Except PyErr Bool :=
  match scan.loads raw with
  | .error .valueError => s.malformed
  | .error .recursionError => (s, .error .recursionError)
  | .ok (.dict payload) => s.enqueue (emergencyEventToDecision pyStr payload)
  | .ok _ => s.malformed

end Ingress

/-- The two callbacks. -/
def ingress : Machine (Ingress α) Received (Except PyErr Bool) where
  step s
    | .notice raw => s.enqueueNotice parseInt scan raw
    | .emergency raw => s.enqueueEmergency pyStr scan raw

/-- A callback returns, it returns `True` exactly when it appended one event, and from the notice
topic that event is no emergency stop. -/
def Handled (s : Ingress α) (r : Received) : Prop :=
  ∃ queued added, ((ingress parseInt pyStr scan).step s r).2 = .ok queued ∧
    ((ingress parseInt pyStr scan).step s r).1.pending = s.pending ++ added ∧
    added.length = (if queued then 1 else 0) ∧
    ∀ raw, r = .notice raw → ∀ e ∈ added, e.decision ≠ .str "emergency_stop"

omit [Field α] [LinearOrder α] [FloorRing α] in
/-- A list or an object. -/
def isContainer : PyVal α → Bool
  | .list _ | .dict _ => true
  | _ => false

omit [FloorRing α] in
/-- A payload that is decoded without an exception: it is not nested too deeply, and a notice of
this schema has neither an infinite generation nor a container for its decision. -/
def Readable : Received → Prop
  | .emergency raw => scan.loads raw ≠ .error .recursionError
  | .notice raw => scan.loads raw ≠ .error .recursionError ∧
      ∀ payload, scan.loads raw = .ok (.dict payload) →
        foreignSchema ((Dict.find payload "schema_version").getD .null) = true ∨
          (isInfinite ((Dict.find payload "gen_id").getD .null) = false ∧
            isContainer ((Dict.find payload "decision").getD .null) = false)

/-- Has the callback queued an event? -/
def queued : Except PyErr Bool → Bool
  | .ok b => b
  | .error _ => false

end Callbacks

section Decoding

variable {α : Type} [Field α] [LinearOrder α] [FloorRing α] {parseInt : String → Option ℤ}
  {pyStr : PyVal α → String} {scan : JsonScan α}

variable (parseInt) in
/-- The generation is coerced, unless it is infinite. -/
lemma payloadGen_cases (payload : List (String × PyVal α)) :
    (isInfinite ((Dict.find payload "gen_id").getD .null) = true ∧
        payloadGen parseInt payload = .error .overflowError) ∨
      (isInfinite ((Dict.find payload "gen_id").getD .null) = false ∧
        ∃ gen, payloadGen parseInt payload = .ok gen) := by
  unfold payloadGen
  generalize (Dict.find payload "gen_id").getD .null = v
  have hcases := toInt_cases parseInt v
  cases v with
  | null => exact .inr ⟨rfl, _, rfl⟩
  | _ =>
    rcases hcases with ⟨hinf, h⟩ | ⟨hfin, ⟨i, h⟩ | h | h⟩
    · exact .inl ⟨hinf, by simp only [h]⟩
    all_goals
      exact .inr ⟨hfin, by simp only [h]; exact ⟨_, rfl⟩⟩

omit [Field α] [LinearOrder α] [FloorRing α] in
/-- Looking a value up among texts fails for a container. -/
lemma isOneOf_cases (texts : List String) (v : PyVal α) :
    (isContainer v = true ∧ isOneOf texts v = .error .typeError) ∨
      (isContainer v = false ∧ ∃ b, isOneOf texts v = .ok b) := by
  cases v with
  | list xs => exact .inl ⟨rfl, rfl⟩
  | dict es => exact .inl ⟨rfl, rfl⟩
  | _ => exact .inr ⟨rfl, _, rfl⟩

variable (parseInt) in
/-- The decoder of a notice drops an object of a foreign schema or without a decision, raises for an
infinite generation, and otherwise yields an event with the decision of the object. -/
lemma decodeNotice_dict {raw : String} {payload : List (String × PyVal α)}
    (h : scan.loads raw = .ok (.dict payload)) :
    (foreignSchema ((Dict.find payload "schema_version").getD .null) = true ∧
        decodeNotice parseInt scan raw = .ok none) ∨
      (foreignSchema ((Dict.find payload "schema_version").getD .null) = false ∧
        isInfinite ((Dict.find payload "gen_id").getD .null) = true ∧
        decodeNotice parseInt scan raw = .error .overflowError) ∨
      (isInfinite ((Dict.find payload "gen_id").getD .null) = false ∧
        Dict.find payload "decision" = none ∧ decodeNotice parseInt scan raw = .ok none) ∨
      (foreignSchema ((Dict.find payload "schema_version").getD .null) = false ∧
        isInfinite ((Dict.find payload "gen_id").getD .null) = false ∧
        ∃ e, decodeNotice parseInt scan raw = .ok (some e) ∧
          e.decision = payloadField payload "decision") := by
  unfold decodeNotice
  rw [h]
  dsimp only
  cases hschema : foreignSchema ((Dict.find payload "schema_version").getD .null) with
  | true => exact .inl ⟨rfl, if_pos rfl⟩
  | false =>
    rw [if_neg Bool.false_ne_true]
    unfold fromPayload
    rcases payloadGen_cases parseInt payload with ⟨hinf, hgen⟩ | ⟨hfin, gen, hgen⟩
    · rw [hgen]
      exact .inr (.inl ⟨rfl, hinf, rfl⟩)
    · rw [hgen]
      cases hdecision : Dict.find payload "decision" with
      | none => exact .inr (.inr (.inl ⟨hfin, rfl, rfl⟩))
      | some v => exact .inr (.inr (.inr ⟨rfl, hfin, _, rfl, rfl⟩))

omit [Field α] [LinearOrder α] [FloorRing α] in
/-- A missing decision is read as a text, so it is no container either. -/
lemma isContainer_payloadField (payload : List (String × PyVal α)) (name : String) :
    isContainer (payloadField payload name) =
      isContainer ((Dict.find payload name).getD .null) := by
  unfold payloadField
  split
  next hnull => rw [hnull]; rfl
  next => rfl

/-- A step of a callback that returns: it drops the payload, or appends one event. -/
def Returns (s : Ingress α) (result : Ingress α × Except PyErr Bool) (allowed : PyVal α → Prop) :
    Prop :=
  (result.2 = .ok false ∧ result.1.pending = s.pending) ∨
    ∃ e, result = s.enqueue e ∧ allowed e.decision

omit [FloorRing α] in
variable (pyStr scan) in
/-- The emergency callback raises where the payload is nested too deeply, and returns otherwise. -/
lemma emergency_cases (s : Ingress α) (raw : String) :
    (Readable scan (.emergency raw) ∧
        Returns s (s.enqueueEmergency pyStr scan raw) fun _ => True) ∨
      (¬ Readable scan (.emergency raw) ∧
        ∃ err, s.enqueueEmergency pyStr scan raw = (s, .error err)) := by
  unfold Readable Ingress.enqueueEmergency
  cases hloads : scan.loads raw with
  | error err =>
    cases err with
    | valueError => exact .inl ⟨by simp [hloads], .inl ⟨rfl, rfl⟩⟩
    | recursionError => exact .inr ⟨by simp [hloads], _, rfl⟩
  | ok v =>
    refine .inl ⟨by simp [hloads], ?_⟩
    cases v with
    | dict payload => exact .inr ⟨_, rfl, trivial⟩
    | _ => exact .inl ⟨rfl, rfl⟩

variable (parseInt scan) in
/-- The notice callback raises where the payload cannot be read, and returns otherwise. -/
lemma notice_cases (s : Ingress α) (raw : String) :
    (Readable scan (.notice raw) ∧
        Returns s (s.enqueueNotice parseInt scan raw) (· ≠ .str "emergency_stop")) ∨
      (¬ Readable scan (.notice raw) ∧
        ∃ err, s.enqueueNotice parseInt scan raw = (s, .error err)) := by
  have hreturn : decodeNotice parseInt scan raw = .ok none →
      Returns s (s.enqueueNotice parseInt scan raw) (· ≠ .str "emergency_stop") := by
    intro hdecode
    unfold Ingress.enqueueNotice
    rw [hdecode]
    exact .inl ⟨rfl, rfl⟩
  have hraise : ∀ err, decodeNotice parseInt scan raw = .error err →
      s.enqueueNotice parseInt scan raw = (s, .error err) := by
    intro err hdecode
    unfold Ingress.enqueueNotice
    rw [hdecode]
  cases hloads : scan.loads raw with
  | error err =>
    cases err with
    | valueError =>
      refine .inl ⟨?_, hreturn (by unfold decodeNotice; rw [hloads])⟩
      exact ⟨by simp [hloads], fun payload h => by simp [hloads] at h⟩
    | recursionError =>
      refine .inr ⟨fun h => h.1 hloads, _, hraise _ (by unfold decodeNotice; rw [hloads])⟩
  | ok v =>
    cases v with
    | dict payload =>
      have hreadable : Readable scan (.notice raw) ↔
          foreignSchema ((Dict.find payload "schema_version").getD .null) = true ∨
            (isInfinite ((Dict.find payload "gen_id").getD .null) = false ∧
              isContainer ((Dict.find payload "decision").getD .null) = false) := by
        unfold Readable
        simp [hloads]
      rw [hreadable]
      rcases decodeNotice_dict parseInt hloads with
        ⟨hforeign, hdecode⟩ | ⟨hown, hinf, hdecode⟩ | ⟨hfin, hmissing, hdecode⟩ |
          ⟨hown, hfin, e, hdecode, hdecision⟩
      · exact .inl ⟨.inl hforeign, hreturn hdecode⟩
      · exact .inr ⟨by simp [hown, hinf], _, hraise _ hdecode⟩
      · exact .inl ⟨.inr ⟨hfin, by rw [hmissing]; rfl⟩, hreturn hdecode⟩
      · rw [← isContainer_payloadField, ← hdecision]
        unfold Ingress.enqueueNotice
        rw [hdecode]
        dsimp only
        rcases isOneOf_cases offWireSpeakableDecisions e.decision with
          ⟨hcontainer, hlookup⟩ | ⟨hplain, b, hlookup⟩
        · rw [hlookup]
          exact .inr ⟨by simp [hown, hcontainer], _, rfl⟩
        · rw [hlookup]
          refine .inl ⟨.inr ⟨hfin, hplain⟩, ?_⟩
          cases b with
          | true => exact .inl ⟨rfl, rfl⟩
          | false =>
            refine .inr ⟨e, rfl, fun hstop => ?_⟩
            rw [hstop] at hlookup
            cases hlookup
    | _ =>
      refine .inl ⟨?_, hreturn (by unfold decodeNotice; rw [hloads])⟩
      exact ⟨by simp [hloads], fun payload h => by simp [hloads] at h⟩

end Decoding

section Theorem

variable {α : Type} [Field α] [LinearOrder α] [FloorRing α] {parseInt : String → Option ℤ}
  {pyStr : PyVal α → String} {scan : JsonScan α}

variable (parseInt pyStr) in
/-- A step that returns is handled. -/
lemma handled_iff_readable (s : Ingress α) (r : Received) :
    Handled parseInt pyStr scan s r ↔ Readable scan r := by
  have hcases : (Readable scan r ∧ Returns s ((ingress parseInt pyStr scan).step s r)
        fun decision => ∀ raw, r = .notice raw → decision ≠ .str "emergency_stop") ∨
      (¬ Readable scan r ∧ ∃ err, (ingress parseInt pyStr scan).step s r = (s, .error err)) := by
    cases r with
    | notice raw =>
      rcases notice_cases parseInt scan s raw with ⟨hread, h⟩ | h
      · refine .inl ⟨hread, h.imp_right ?_⟩
        rintro ⟨e, henqueue, hdecision⟩
        exact ⟨e, henqueue, fun _ _ => hdecision⟩
      · exact .inr h
    | emergency raw =>
      rcases emergency_cases pyStr scan s raw with ⟨hread, h⟩ | h
      · refine .inl ⟨hread, h.imp_right ?_⟩
        rintro ⟨e, henqueue, -⟩
        exact ⟨e, henqueue, fun _ hraw => by cases hraw⟩
      · exact .inr h
  constructor
  · rintro ⟨b, added, hout, -⟩
    rcases hcases with ⟨hread, -⟩ | ⟨-, err, herr⟩
    · exact hread
    · rw [herr] at hout
      cases hout
  · intro hread
    rcases hcases with ⟨-, ⟨hout, hsame⟩ | ⟨e, henqueue, hdecision⟩⟩ | ⟨hunreadable, -⟩
    · exact ⟨false, [], hout, by rw [hsame, List.append_nil], rfl,
        fun _ _ e he => absurd he List.not_mem_nil⟩
    · refine ⟨true, [e], by rw [henqueue]; rfl, by rw [henqueue]; rfl, rfl,
        fun raw hraw e' he' => ?_⟩
      rw [List.mem_singleton.mp he']
      exact hdecision raw hraw
    · exact absurd hread hunreadable

/-- The queue grows by one for each `True`. -/
lemma run_handled {s : Ingress α} {rs : List Received} (h : ∀ r ∈ rs, Readable scan r) :
    (∀ out ∈ (ingress parseInt pyStr scan).outputs s rs, ∃ b, out = .ok b) ∧
      ∃ added, ((ingress parseInt pyStr scan).run s rs).pending = s.pending ++ added ∧
        added.length = ((ingress parseInt pyStr scan).outputs s rs).countP queued := by
  induction rs generalizing s with
  | nil => exact ⟨fun out hout => absurd hout List.not_mem_nil, [], by simp, rfl⟩
  | cons r rs ih =>
    obtain ⟨b, added, hout, hpending, hlength, -⟩ :=
      (handled_iff_readable parseInt pyStr s r).mpr (h r List.mem_cons_self)
    obtain ⟨houts, added', hpending', hlength'⟩ :=
      ih (s := ((ingress parseInt pyStr scan).step s r).1)
        fun r' hr' => h r' (List.mem_cons_of_mem _ hr')
    rw [Machine.outputs_cons, Machine.run_cons, List.countP_cons, hout]
    refine ⟨List.forall_mem_cons.mpr ⟨⟨b, rfl⟩, houts⟩, added ++ added', ?_, ?_⟩
    · rw [hpending', hpending, List.append_assoc]
    · rw [List.length_append, hlength, hlength', Nat.add_comm]
      rfl

end Theorem

/-- **The ingress handles exactly what it can read.**  Whatever is queued already, a callback
returns, with `True` exactly when it appended one event and with no emergency stop from the notice
topic, if and only if the payload can be read; and over any payloads that can, every call returns
and the queue grows by the number of times `True` was returned. -/
theorem notice_ingress_iff {α : Type} [Field α] [LinearOrder α] [FloorRing α]
    (parseInt : String → Option ℤ) (pyStr : PyVal α → String) (scan : JsonScan α) :
    (∀ s r, Handled parseInt pyStr scan s r ↔ Readable scan r) ∧
      ∀ s rs, (∀ r ∈ rs, Readable scan r) →
        (∀ out ∈ (ingress parseInt pyStr scan).outputs s rs, ∃ b, out = .ok b) ∧
          ∃ added, ((ingress parseInt pyStr scan).run s rs).pending = s.pending ++ added ∧
            added.length = ((ingress parseInt pyStr scan).outputs s rs).countP queued :=
  ⟨handled_iff_readable parseInt pyStr, fun _ _ => run_handled⟩

/-- The text of an object. -/
def objectText (payload : List (String × PyVal ℚ)) : String :=
  String.ofList (Json.dumps Json.FloatText.rational (.dict payload))

/-- The callbacks over an exact decoder. -/
def exactIngress : Machine (Ingress ℚ) Received (Except PyErr Bool) :=
  ingress (fun _ => none) (fun _ => "") (Json.scan Json.FloatText.rational)

lemma loads_objectText {payload : List (String × PyVal ℚ)}
    (h : (PyVal.dict payload).repeatsName = false) :
    (Json.scan Json.FloatText.rational).loads (objectText payload) = .ok (.dict payload) :=
  Json.loads_dumps _ h

/-- A notice whose decision is a list. -/
def listDecision : List (String × PyVal ℚ) := [("decision", .list [])]

/-- A reject of an infinite generation. -/
def infiniteGen : List (String × PyVal ℚ) :=
  [("decision", .str "rejected"), ("gen_id", .float .posInf)]

/-- Each of the two takes the subscriber down. -/
theorem notices_raise :
    (exactIngress.step ⟨[], 0, 0⟩ (.notice (objectText listDecision))).2 = .error .typeError ∧
      (exactIngress.step ⟨[], 0, 0⟩ (.notice (objectText infiniteGen))).2 =
        .error .overflowError ∧
      ¬ Handled (fun _ => none) (fun _ => "") (Json.scan Json.FloatText.rational) ⟨[], 0, 0⟩
        (.notice (objectText listDecision)) ∧
      ¬ Handled (fun _ => none) (fun _ => "") (Json.scan Json.FloatText.rational) ⟨[], 0, 0⟩
        (.notice (objectText infiniteGen)) := by
  have hstep : ∀ raw, exactIngress.step ⟨[], 0, 0⟩ (.notice raw) = Ingress.enqueueNotice
      (fun _ => none) (Json.scan Json.FloatText.rational) ⟨[], 0, 0⟩ raw := fun _ => rfl
  have hlist : (exactIngress.step ⟨[], 0, 0⟩ (.notice (objectText listDecision))).2 =
      .error .typeError := by
    rw [hstep]
    unfold Ingress.enqueueNotice decodeNotice
    rw [loads_objectText rfl]
    rfl
  have hinfinite : (exactIngress.step ⟨[], 0, 0⟩ (.notice (objectText infiniteGen))).2 =
      .error .overflowError := by
    rw [hstep]
    unfold Ingress.enqueueNotice decodeNotice
    rw [loads_objectText rfl]
    rfl
  refine ⟨hlist, hinfinite, ?_, ?_⟩
  · rintro ⟨b, added, hout, -⟩
    exact absurd (hlist.symm.trans hout) (by simp)
  · rintro ⟨b, added, hout, -⟩
    exact absurd (hinfinite.symm.trans hout) (by simp)

end OperatorFeedback

end MiniatureWarehouse
