import MiniatureWarehouse.LlmBridge.OperatorFeedback

/-!
# Delivery of operator notices

What a run of the node has shown is read off its notes: which events were accepted, handed to the
box, judged by the filter, brought to the sinks and recorded.

Safety is a matter of two invariants.  `Accounted` follows the events: those accepted are those
handed over with those still pending, and of the events whose fields are texts those handed over
are those recorded with the one in hand.  `Deduped` follows the correlations: every judged event
that might speak has its correlation in the filter, and the notices brought to the sinks stand in
the filter's own order.

Progress is a count.  Every step of the worker moves it closer to its next look at the queue, so
with `k` events pending it has handed over and recorded them after `4 * k` steps and a few more;
only its last flush ends it, and that flush leaves nothing behind.  What a sink raises does not
matter as long as it is an `Exception`: anything else ends the worker's thread in the middle, which
is why the theorem speaks of the runs whose sinks return or raise.
-/

namespace MiniatureWarehouse

namespace OperatorFeedback

variable {α : Type}

/-! ## What was shown -/

/-- An event accepted. -/
@[simp] def Note.accepted? : Note α → Option (DecisionEvent (PyVal α))
  | .accepted e => some e
  | _ => none

/-- An event handed to the box. -/
@[simp] def Note.handed? : Note α → Option (DecisionEvent (PyVal α))
  | .handed e => some e
  | _ => none

/-- An event judged, with the commands that were live. -/
@[simp] def Note.judged? : Note α → Option (DecisionEvent (PyVal α) × Finset ℤ)
  | .judged e live => some (e, live)
  | _ => none

/-- An event brought to the sinks. -/
@[simp] def Note.reached? : Note α → Option (DecisionEvent (PyVal α))
  | .reached e => some e
  | _ => none

/-- An event recorded, with its record. -/
@[simp] def Note.audited? : Note α → Option (DecisionEvent (PyVal α) × AuditRecord)
  | .audited e record => some (e, record)
  | _ => none

/-- The events accepted, in order; the others are read off in the same way. -/
def accepted (notes : List (Note α)) : List (DecisionEvent (PyVal α)) :=
  notes.filterMap Note.accepted?

def handed (notes : List (Note α)) : List (DecisionEvent (PyVal α)) :=
  notes.filterMap Note.handed?

def judged (notes : List (Note α)) : List (DecisionEvent (PyVal α) × Finset ℤ) :=
  notes.filterMap Note.judged?

def reached (notes : List (Note α)) : List (DecisionEvent (PyVal α)) :=
  notes.filterMap Note.reached?

def audited (notes : List (Note α)) : List (DecisionEvent (PyVal α) × AuditRecord) :=
  notes.filterMap Note.audited?

/-- A value that is a text. -/
def isStr : PyVal α → Bool
  | .str _ => true
  | _ => false

lemma isStr_iff {v : PyVal α} : isStr v = true ↔ ∃ s, v = .str s := by
  cases v <;> simp [isStr]

/-- Every field of the event but its generation is a text. -/
def DecisionEvent.isText (e : DecisionEvent (PyVal α)) : Bool :=
  [e.decision, e.box, e.reasonCode, e.reasonDetail, e.messageForOperator, e.robot, e.runId,
    e.stage, e.timestamp, e.schemaVersion].all isStr

/-- The events with texts for fields. -/
def texts (events : List (DecisionEvent (PyVal α))) : List (DecisionEvent (PyVal α)) :=
  events.filter DecisionEvent.isText

/-- The event `notify` was called with and has not returned for. -/
def Driver.inHand (d : Driver α) : List (DecisionEvent (PyVal α)) :=
  match d.pc with
  | .classifying _ e | .speaking _ e | .recording _ e _ | .dead e => [e]
  | _ => []

/-- The event that is about to be brought to the sinks. -/
def Driver.speaking (d : Driver α) : List (DecisionEvent (PyVal α)) :=
  match d.pc with
  | .speaking _ e => [e]
  | _ => []

/-- The step is not one whose sinks raise what is no `Exception`. -/
def Step.Caught : Step → Prop
  | .work ends => ends.primary ≠ .exits ∧ ends.fallback ≠ .exits
  | _ => True

/-- A step of the worker. -/
def Step.isWork : Step → Bool
  | .work _ => true
  | _ => false

@[simp] lemma accepted_nil : accepted ([] : List (Note α)) = [] := rfl

@[simp] lemma accepted_append (notes more : List (Note α)) :
    accepted (notes ++ more) = accepted notes ++ accepted more :=
  List.filterMap_append

@[simp] lemma accepted_singleton (note : Note α) : accepted [note] = note.accepted?.toList := by
  cases note <;> rfl

@[simp] lemma handed_nil : handed ([] : List (Note α)) = [] := rfl

@[simp] lemma handed_append (notes more : List (Note α)) :
    handed (notes ++ more) = handed notes ++ handed more :=
  List.filterMap_append

@[simp] lemma handed_singleton (note : Note α) : handed [note] = note.handed?.toList := by
  cases note <;> rfl

@[simp] lemma judged_nil : judged ([] : List (Note α)) = [] := rfl

@[simp] lemma judged_append (notes more : List (Note α)) :
    judged (notes ++ more) = judged notes ++ judged more :=
  List.filterMap_append

@[simp] lemma judged_singleton (note : Note α) : judged [note] = note.judged?.toList := by
  cases note <;> rfl

@[simp] lemma reached_nil : reached ([] : List (Note α)) = [] := rfl

@[simp] lemma reached_append (notes more : List (Note α)) :
    reached (notes ++ more) = reached notes ++ reached more :=
  List.filterMap_append

@[simp] lemma reached_singleton (note : Note α) : reached [note] = note.reached?.toList := by
  cases note <;> rfl

@[simp] lemma audited_nil : audited ([] : List (Note α)) = [] := rfl

@[simp] lemma audited_append (notes more : List (Note α)) :
    audited (notes ++ more) = audited notes ++ audited more :=
  List.filterMap_append

@[simp] lemma audited_singleton (note : Note α) : audited [note] = note.audited?.toList := by
  cases note <;> rfl

@[simp] lemma texts_nil : texts ([] : List (DecisionEvent (PyVal α))) = [] := rfl

@[simp] lemma texts_append (events more : List (DecisionEvent (PyVal α))) :
    texts (events ++ more) = texts events ++ texts more :=
  List.filter_append ..

lemma texts_cons_of_not_isText {e : DecisionEvent (PyVal α)} (he : e.isText = false)
    (events : List (DecisionEvent (PyVal α))) : texts (e :: events) = texts events :=
  List.filter_cons_of_neg (by simp [he])

/-! ## One step -/

section Steps

variable [Field α] [LinearOrder α]

/-- An event that may speak for a correlation under these live commands. -/
def MaySpeak (p : DecisionEvent (PyVal α) × Finset ℤ) (key : Key α) : Prop :=
  isOneOf speakableDecisions p.1.decision = .ok true ∧
    ∃ gen ∈ p.2, p.1.genId = some gen ∧ p.1.key? gen = some key

omit [LinearOrder α] in
/-- An event may speak for one correlation only. -/
lemma MaySpeak.unique {p : DecisionEvent (PyVal α) × Finset ℤ} {key key' : Key α}
    (h : MaySpeak p key) (h' : MaySpeak p key') : key = key' := by
  obtain ⟨-, gen, -, hgen, hkey⟩ := h
  obtain ⟨-, gen', -, hgen', hkey'⟩ := h'
  obtain rfl : gen = gen' := Option.some.inj (hgen.symm.trans hgen')
  exact Option.some.inj (hkey.symm.trans hkey')

/-- What the filter makes of an event that is let through. -/
lemma classify_speaks {s s' : ScopeFilter α} {e : DecisionEvent (PyVal α)}
    (h : s.classify e = .ok (s', none)) :
    ∃ key, MaySpeak (e, s.live) key ∧ key ∉ s.spoken ∧
      s' = { s with spoken := s.spoken ++ [key] } := by
  revert h
  fun_cases ScopeFilter.classify s e with
  | case1 => simp
  | case2 => simp
  | case3 => simp
  | case4 => simp
  | case5 => simp
  | case6 => simp
  | case7 hspeakable gen hgen hlive key hkey hnew =>
    intro h
    have hs' := congrArg Prod.fst (Except.ok.inj h)
    exact ⟨key, ⟨hspeakable, gen, not_not.mp hlive, hgen, hkey⟩, hnew, hs'.symm⟩

/-- An event that is silenced was not the first to speak for its correlation. -/
lemma classify_silences {s s' : ScopeFilter α} {e : DecisionEvent (PyVal α)} {reason : String}
    (h : s.classify e = .ok (s', some reason)) :
    s' = s ∧ ∀ key, MaySpeak (e, s.live) key → key ∈ s.spoken := by
  revert h
  fun_cases ScopeFilter.classify s e with
  | case1 => simp
  | case2 hsilent =>
    refine fun h => ⟨(congrArg Prod.fst (Except.ok.inj h)).symm, fun key hkey => ?_⟩
    have hspeakable : (Except.ok false : Except PyErr Bool) = .ok true := hsilent ▸ hkey.1
    cases hspeakable
  | case3 _ hnone =>
    refine fun h => ⟨(congrArg Prod.fst (Except.ok.inj h)).symm, fun key hkey => ?_⟩
    obtain ⟨-, gen, -, hgen, -⟩ := hkey
    exact absurd (hnone.symm.trans hgen) (by simp)
  | case4 _ gen hgen hdead =>
    refine fun h => ⟨(congrArg Prod.fst (Except.ok.inj h)).symm, fun key hkey => ?_⟩
    obtain ⟨-, gen', hlive, hgen', -⟩ := hkey
    obtain rfl : gen = gen' := Option.some.inj (hgen.symm.trans hgen')
    exact absurd hlive hdead
  | case5 => simp
  | case6 hspeakable gen hgen hlive key hkey hold =>
    refine fun h => ⟨(congrArg Prod.fst (Except.ok.inj h)).symm, fun key' hkey' => ?_⟩
    have hmay : MaySpeak (e, s.live) key := ⟨hspeakable, gen, not_not.mp hlive, hgen, hkey⟩
    exact hkey'.unique hmay ▸ hold
  | case7 => simp

omit [LinearOrder α] in
/-- The correlation of an event of texts can be a member of a set. -/
lemma key?_of_isText {e : DecisionEvent (PyVal α)} (he : e.isText = true) (gen : ℤ) :
    ∃ key, e.key? gen = some key := by
  simp only [DecisionEvent.isText, List.all_cons, Bool.and_eq_true, isStr_iff] at he
  obtain ⟨-, ⟨box, hbox⟩, ⟨code, hcode⟩, -, -, ⟨robot, hrobot⟩, ⟨run, hrun⟩, -⟩ := he
  refine ⟨⟨.text run, gen, .text robot, .text box, .text code⟩, ?_⟩
  unfold DecisionEvent.key?
  rw [hrun, hrobot, hbox, hcode]
  rfl

omit [Field α] [LinearOrder α] in
lemma isOneOf_of_isStr {v : PyVal α} (hv : isStr v = true) (choices : List String) :
    ∃ b, isOneOf choices v = .ok b := by
  obtain ⟨s, rfl⟩ := isStr_iff.mp hv
  exact ⟨_, rfl⟩

/-- The filter raises for no event of texts, and for none that may speak. -/
lemma classify_raises {s : ScopeFilter α} {e : DecisionEvent (PyVal α)} {err : PyErr}
    (h : s.classify e = .error err) :
    e.isText = false ∧ ∀ key, ¬ MaySpeak (e, s.live) key := by
  revert h
  fun_cases ScopeFilter.classify s e with
  | case1 err hraises =>
    refine fun _ => ⟨?_, fun key hkey => absurd (hraises.symm.trans hkey.1) (by simp)⟩
    rw [← Bool.not_eq_true]
    intro he
    have hdecision : isStr e.decision = true := List.all_eq_true.mp he _ List.mem_cons_self
    obtain ⟨b, hb⟩ := isOneOf_of_isStr hdecision speakableDecisions
    exact absurd (hraises.symm.trans hb) (by simp)
  | case2 => simp
  | case3 => simp
  | case4 => simp
  | case5 _ gen hgen _ hnone =>
    refine fun _ => ⟨?_, fun key hkey => ?_⟩
    · rw [← Bool.not_eq_true]
      intro he
      obtain ⟨key, hkey⟩ := key?_of_isText he gen
      exact absurd (hnone.symm.trans hkey) (by simp)
    · obtain ⟨-, gen', -, hgen', hkey⟩ := hkey
      obtain rfl : gen = gen' := Option.some.inj (hgen.symm.trans hgen')
      exact absurd (hnone.symm.trans hkey) (by simp)
  | case6 => simp
  | case7 => simp

/-- A notice can be built for every event of texts. -/
lemma buildNotice_raises {pyStr : PyVal α → String} {e : DecisionEvent (PyVal α)} {err : PyErr}
    (h : buildNotice pyStr e = .error err) : e.isText = false := by
  rw [← Bool.not_eq_true]
  intro he
  simp only [DecisionEvent.isText, List.all_cons, Bool.and_eq_true, isStr_iff] at he
  obtain ⟨-, -, -, ⟨detail, hdetail⟩, ⟨message, hmessage⟩, -⟩ := he
  unfold buildNotice detailOf at h
  rw [hmessage, hdetail] at h
  split_ifs at h <;> simp [Except.map] at h

/-- A notice refers to its event. -/
lemma buildNotice_ref {pyStr : PyVal α → String} {e : DecisionEvent (PyVal α)}
    {notice : OperatorNotice α} (h : buildNotice pyStr e = .ok notice) :
    notice.sourceDecisionRef = sourceDecisionRef pyStr e := by
  unfold buildNotice at h
  cases hdetail : detailOf e with
  | error err =>
    rw [hdetail] at h
    cases h
  | ok detail =>
    rw [hdetail] at h
    rw [← Except.ok.inj h]

variable [FloorRing α] (parseInt : String → Option ℤ) (pyStr : PyVal α → String)
  (scan : JsonScan α) (hasPrimary : Bool)

/-- What a step of another thread than the worker leaves alone, and what it may add. -/
structure Outside (d d' : Driver α) (shown : Option (Note α)) : Prop where
  pc : d'.pc = d.pc
  auditLog : d'.auditLog = d.auditLog
  spoken : d'.scope.spoken = d.scope.spoken
  queue : shown = none ∧ d'.pending = d.pending ∨
    ∃ e, shown = some (.accepted e) ∧ d'.pending = d.pending ++ [e]

omit [Field α] [LinearOrder α] [FloorRing α] in
lemma outside_append (d : Driver α) (ingress : Except PyErr (Option (DecisionEvent (PyVal α)))) :
    Outside d (d.append ingress).1 (d.append ingress).2 := by
  fun_cases Driver.append d ingress with
  | case1 e => exact ⟨rfl, rfl, rfl, .inr ⟨e, rfl, rfl⟩⟩
  | case2 => exact ⟨rfl, rfl, rfl, .inl ⟨rfl, rfl⟩⟩

/-- The callbacks, the registrations and the shutdown. -/
lemma outside_step (d : Driver α) {e : Step} (he : e.isWork = false) :
    Outside d ((driver parseInt pyStr scan hasPrimary).step d e).1
      ((driver parseInt pyStr scan hasPrimary).step d e).2 := by
  cases e with
  | notice raw => exact outside_append d _
  | emergency raw => exact outside_append d _
  | registerLiveCommand genId => exact ⟨rfl, rfl, rfl, .inl ⟨rfl, rfl⟩⟩
  | retireCommand genId => exact ⟨rfl, rfl, rfl, .inl ⟨rfl, rfl⟩⟩
  | shutdown => exact ⟨rfl, rfl, rfl, .inl ⟨rfl, rfl⟩⟩
  | work ends => cases he

/-- Where no sink raises what is no `Exception`, a delivery has a status. -/
lemma deliver_ne_none {ends : SinkEnds} (hends : (Step.work ends).Caught) :
    deliver hasPrimary ends ≠ none := by
  obtain ⟨primary, fallback⟩ := ends
  obtain ⟨hprimary, hfallback⟩ := hends
  cases hasPrimary <;> cases primary <;> cases fallback <;> simp_all [deliver]

end Steps

/-! ## Every event is accounted for -/

section Accounts

/-- The event that the filter has yet to judge. -/
def Driver.toJudge (d : Driver α) : List (DecisionEvent (PyVal α)) :=
  match d.pc with
  | .classifying _ e => [e]
  | _ => []

variable [Field α] [LinearOrder α] (pyStr : PyVal α → String) (hasPrimary : Bool)

/-- Where every event is. -/
structure Accounted (notes : List (Note α)) (d : Driver α) : Prop where
  queue : accepted notes = handed notes ++ d.pending
  judged : handed notes = (judged notes).map Prod.fst ++ d.toJudge
  held : texts (handed notes) = texts ((audited notes).map Prod.fst) ++ texts d.inHand
  log : d.auditLog = (audited notes).map Prod.snd
  refs : ∀ p ∈ audited notes, p.2.sourceDecisionRef = sourceDecisionRef pyStr p.1
  ref : ∀ final e record, d.pc = .recording final e record →
    record.sourceDecisionRef = sourceDecisionRef pyStr e

/-- What one step moves on: what it takes from one place it puts in the next. -/
structure Moves (pyStr : PyVal α → String) (d d' : Driver α) (shown : List (Note α)) : Prop where
  queue : d.pending ++ accepted shown = handed shown ++ d'.pending
  judged : d.toJudge ++ handed shown = (judged shown).map Prod.fst ++ d'.toJudge
  held : texts d.inHand ++ texts (handed shown) =
    texts ((audited shown).map Prod.fst) ++ texts d'.inHand
  log : d'.auditLog = d.auditLog ++ (audited shown).map Prod.snd
  written : ∀ p ∈ audited shown, ∃ final, d.pc = .recording final p.1 p.2
  drafted : ∀ final e record, d'.pc = .recording final e record →
    d.pc = .recording final e record ∨ record.sourceDecisionRef = sourceDecisionRef pyStr e

variable {pyStr}

/-- Moving an event on keeps the accounts. -/
lemma Accounted.next {notes shown : List (Note α)} {d d' : Driver α}
    (h : Accounted pyStr notes d) (hmoves : Moves pyStr d d' shown) :
    Accounted pyStr (notes ++ shown) d' := by
  refine ⟨?_, ?_, ?_, ?_, ?_, ?_⟩
  · rw [accepted_append, handed_append, h.queue, List.append_assoc, hmoves.queue,
      List.append_assoc]
  · rw [handed_append, judged_append, List.map_append, h.judged, List.append_assoc,
      hmoves.judged, List.append_assoc]
  · rw [handed_append, audited_append, List.map_append, texts_append, texts_append, h.held,
      List.append_assoc, hmoves.held, List.append_assoc]
  · rw [audited_append, List.map_append, hmoves.log, h.log]
  · rw [audited_append]
    intro p hp
    rcases List.mem_append.mp hp with hold | hnew
    · exact h.refs p hold
    · obtain ⟨final, hpc⟩ := hmoves.written p hnew
      exact h.ref final p.1 p.2 hpc
  · intro final e record hpc
    rcases hmoves.drafted final e record hpc with hold | hnew
    · exact h.ref final e record hold
    · exact hnew

/-- A step of another thread moves at most one event, into the queue. -/
lemma Outside.moves {d d' : Driver α} {shown : Option (Note α)} (h : Outside d d' shown) :
    Moves pyStr d d' shown.toList := by
  obtain ⟨hpc, hlog, -, hqueue⟩ := h
  have hjudge : d'.toJudge = d.toJudge := by
    unfold Driver.toJudge
    rw [hpc]
  have hhand : d'.inHand = d.inHand := by
    unfold Driver.inHand
    rw [hpc]
  rcases hqueue with ⟨rfl, hpending⟩ | ⟨e, rfl, hpending⟩
  all_goals
    refine ⟨?_, ?_, ?_, ?_, ?_, fun final e record hdrafted => .inl (hpc ▸ hdrafted)⟩
    all_goals simp [hpending, hjudge, hhand, hlog]

/-- A step of the worker moves what it shows. -/
lemma moves_work (d : Driver α) (ends : SinkEnds) :
    Moves pyStr d (d.work pyStr hasPrimary ends).1 (d.work pyStr hasPrimary ends).2.toList := by
  fun_cases Driver.work pyStr hasPrimary d ends with
  | case1 hpc =>
    constructor
    all_goals cases d.stopped <;> simp [Driver.toJudge, Driver.inHand, hpc]
  | case2 hpc => constructor <;> simp [Driver.toJudge, Driver.inHand, hpc]
  | case3 final hpc hempty =>
    constructor
    all_goals cases final <;> simp [Driver.toJudge, Driver.inHand, hpc]
  | case4 final hpc e pending hpending =>
    constructor <;> simp [Driver.toJudge, Driver.inHand, hpc, hpending, texts]
  | case5 final e hpc err herr =>
    have htext : texts [e] = [] := texts_cons_of_not_isText (classify_raises herr).1 []
    constructor <;> simp [Driver.toJudge, Driver.inHand, hpc, htext]
  | case6 final e hpc scope hscope => constructor <;> simp [Driver.toJudge, Driver.inHand, hpc]
  | case7 final e hpc scope reason hscope =>
    constructor
    all_goals simp [Driver.toJudge, Driver.inHand, hpc, suppressedRecord]
  | case8 final e hpc err herr =>
    have htext : texts [e] = [] := texts_cons_of_not_isText (buildNotice_raises herr) []
    constructor <;> simp [Driver.toJudge, Driver.inHand, hpc, htext]
  | case9 final e hpc notice hnotice hnone =>
    constructor <;> simp [Driver.toJudge, Driver.inHand, hpc]
  | case10 final e hpc notice hnotice delivery hdelivery =>
    have href := buildNotice_ref hnotice
    constructor
    all_goals simp [Driver.toJudge, Driver.inHand, hpc, deliveredRecord, href]
  | case11 final e record hpc => constructor <;> simp [Driver.toJudge, Driver.inHand, hpc, texts]
  | case12 hpc => constructor <;> simp [hpc]
  | case13 e hpc => constructor <;> simp [hpc]

variable [FloorRing α] (parseInt : String → Option ℤ) (pyStr : PyVal α → String)
  (scan : JsonScan α)

/-- Every step moves what it shows. -/
lemma moves_step (d : Driver α) (e : Step) :
    Moves pyStr d ((driver parseInt pyStr scan hasPrimary).step d e).1
      ((driver parseInt pyStr scan hasPrimary).step d e).2.toList := by
  cases hwork : e.isWork with
  | false => exact (outside_step parseInt pyStr scan hasPrimary d hwork).moves
  | true =>
    cases e with
    | work ends => exact moves_work hasPrimary d ends
    | _ => cases hwork

/-- In every run every event is accounted for. -/
lemma accounted_run (live : Finset ℤ) (es : List Step) :
    Accounted pyStr ((driver parseInt pyStr scan hasPrimary).emitted (.started live) es)
      ((driver parseInt pyStr scan hasPrimary).run (.started live) es) := by
  refine Machine.emitted_history (C := fun _ _ => True) ?_ ?_
    (Machine.allSteps_of_forall _ _ fun _ _ => trivial)
  · constructor <;> simp [Driver.started, Driver.toJudge, Driver.inHand]
  · intro shown d e _ h
    exact h.next (moves_step hasPrimary parseInt pyStr scan d e)

end Accounts

/-! ## Every correlation speaks once -/

section Dedup

variable [Field α] [LinearOrder α]

/-- The event is the first of those judged that may speak for the correlation. -/
def IsFirst (judged : List (DecisionEvent (PyVal α) × Finset ℤ)) (key : Key α)
    (e : DecisionEvent (PyVal α)) : Prop :=
  ∃ before live after, judged = before ++ (e, live) :: after ∧ MaySpeak (e, live) key ∧
    ∀ p ∈ before, ¬ MaySpeak p key

omit [LinearOrder α] in
lemma IsFirst.append {judged : List (DecisionEvent (PyVal α) × Finset ℤ)} {key : Key α}
    {e : DecisionEvent (PyVal α)} (h : IsFirst judged key e)
    (more : List (DecisionEvent (PyVal α) × Finset ℤ)) : IsFirst (judged ++ more) key e := by
  obtain ⟨before, live, after, rfl, hmay, hbefore⟩ := h
  exact ⟨before, live, after ++ more, by simp, hmay, hbefore⟩

omit [LinearOrder α] in
/-- The first event for a correlation after one more was judged. -/
lemma isFirst_concat {judged : List (DecisionEvent (PyVal α) × Finset ℤ)} {key : Key α}
    {e e' : DecisionEvent (PyVal α)} {live : Finset ℤ} (h : IsFirst (judged ++ [(e', live)]) key e) :
    IsFirst judged key e ∨
      e = e' ∧ MaySpeak (e', live) key ∧ ∀ p ∈ judged, ¬ MaySpeak p key := by
  obtain ⟨before, live', after, hsplit, hmay, hbefore⟩ := h
  rcases List.eq_nil_or_concat' after with rfl | ⟨after, last, rfl⟩
  · obtain ⟨rfl, hlast⟩ := List.append_inj' hsplit rfl
    obtain ⟨rfl, rfl⟩ := Prod.mk.inj (List.singleton_inj.mp hlast)
    exact .inr ⟨rfl, hmay, hbefore⟩
  · rw [← List.cons_append, ← List.append_assoc] at hsplit
    obtain ⟨rfl, -⟩ := List.append_inj' hsplit rfl
    exact .inl ⟨before, live', after, rfl, hmay, hbefore⟩

/-- What the filter remembers, and what it let through. -/
structure Deduped (notes : List (Note α)) (d : Driver α) : Prop where
  seen : ∀ p ∈ judged notes, ∀ key, MaySpeak p key → key ∈ d.scope.spoken
  spoken : ∀ key ∈ d.scope.spoken, ∃ p ∈ judged notes, MaySpeak p key
  nodup : d.scope.spoken.Nodup
  order : ∃ keys, keys.Sublist d.scope.spoken ∧
    List.Forall₂ (IsFirst (judged notes)) keys (reached notes ++ d.speaking)
  first : ∀ key e, IsFirst (judged notes) key e → e.isText = true →
    e ∈ reached notes ++ d.speaking

omit [LinearOrder α] in
/-- A step that neither judges nor lets go of a notice. -/
lemma Deduped.next {notes shown : List (Note α)} {d d' : Driver α} (h : Deduped notes d)
    (hjudged : judged shown = []) (hspoken : d'.scope.spoken = d.scope.spoken)
    (hspeaking : reached shown ++ d'.speaking = d.speaking) : Deduped (notes ++ shown) d' := by
  have hall : reached (notes ++ shown) ++ d'.speaking = reached notes ++ d.speaking := by
    rw [reached_append, List.append_assoc, hspeaking]
  have hsame : judged (notes ++ shown) = judged notes := by
    rw [judged_append, hjudged, List.append_nil]
  obtain ⟨hseen, hspoken', hnodup, horder, hfirst⟩ := h
  constructor
  · rwa [hsame, hspoken]
  · rwa [hsame, hspoken]
  · rwa [hspoken]
  · rwa [hsame, hspoken, hall]
  · rwa [hsame, hall]

omit [LinearOrder α] in
/-- An event is judged and silenced: whatever it might speak for was spoken for. -/
lemma Deduped.silence {notes : List (Note α)} {d d' : Driver α} (h : Deduped notes d)
    {e : DecisionEvent (PyVal α)} {live : Finset ℤ}
    (hold : ∀ key, MaySpeak (e, live) key → key ∈ d.scope.spoken)
    (hspoken : d'.scope.spoken = d.scope.spoken) (hspeaking : d'.speaking = d.speaking) :
    Deduped (notes ++ [.judged e live]) d' := by
  have hjudged : judged (notes ++ [.judged e live]) = judged notes ++ [(e, live)] := by simp
  have hreached : reached (notes ++ [.judged e live]) = reached notes := by simp
  obtain ⟨hseen, hspoken', hnodup, ⟨keys, hkeys, horder⟩, hfirst⟩ := h
  refine ⟨?_, ?_, hspoken ▸ hnodup, ⟨keys, hspoken ▸ hkeys, ?_⟩, ?_⟩
  · rw [hjudged, hspoken]
    intro p hp key hkey
    rcases List.mem_append.mp hp with hbefore | hlast
    · exact hseen p hbefore key hkey
    · rw [List.mem_singleton.mp hlast] at hkey
      exact hold key hkey
  · rw [hjudged, hspoken]
    intro key hkey
    obtain ⟨p, hp, hmay⟩ := hspoken' key hkey
    exact ⟨p, List.mem_append_left _ hp, hmay⟩
  · rw [hjudged, hreached, hspeaking]
    exact horder.imp fun key e' hfirst' => hfirst'.append _
  · rw [hjudged, hreached, hspeaking]
    intro key e' hfirst' htext
    rcases isFirst_concat hfirst' with hearlier | ⟨-, hmay, hnone⟩
    · exact hfirst key e' hearlier htext
    · obtain ⟨p, hp, hmayp⟩ := hspoken' key (hold key hmay)
      exact absurd hmayp (hnone p hp)

omit [LinearOrder α] in
/-- An event is judged and let through: nothing before it spoke for its correlation. -/
lemma Deduped.speak {notes : List (Note α)} {d d' : Driver α} (h : Deduped notes d)
    {e : DecisionEvent (PyVal α)} {live : Finset ℤ} {key : Key α} (hmay : MaySpeak (e, live) key)
    (hnew : key ∉ d.scope.spoken) (hspoken : d'.scope.spoken = d.scope.spoken ++ [key])
    (hidle : d.speaking = []) (hspeaking : d'.speaking = [e]) :
    Deduped (notes ++ [.judged e live]) d' := by
  have hjudged : judged (notes ++ [.judged e live]) = judged notes ++ [(e, live)] := by simp
  have hreached : reached (notes ++ [.judged e live]) = reached notes := by simp
  obtain ⟨hseen, hspoken', hnodup, ⟨keys, hkeys, horder⟩, hfirst⟩ := h
  rw [hidle, List.append_nil] at horder hfirst
  have hisFirst : IsFirst (judged notes ++ [(e, live)]) key e :=
    ⟨judged notes, live, [], rfl, hmay, fun p hp hkey => hnew (hseen p hp key hkey)⟩
  refine ⟨?_, ?_, ?_, ⟨keys ++ [key], ?_, ?_⟩, ?_⟩
  · rw [hjudged, hspoken]
    intro p hp key' hkey'
    rcases List.mem_append.mp hp with hbefore | hlast
    · exact List.mem_append_left _ (hseen p hbefore key' hkey')
    · rw [List.mem_singleton.mp hlast] at hkey'
      rw [hkey'.unique hmay]
      exact List.mem_append_right _ (List.mem_singleton_self key)
  · rw [hjudged, hspoken]
    intro key' hkey'
    rcases List.mem_append.mp hkey' with hbefore | hlast
    · obtain ⟨p, hp, hmayp⟩ := hspoken' key' hbefore
      exact ⟨p, List.mem_append_left _ hp, hmayp⟩
    · rw [List.mem_singleton.mp hlast]
      exact ⟨(e, live), List.mem_append_right _ (List.mem_singleton_self _), hmay⟩
  · rw [hspoken]
    exact List.nodup_append.mpr ⟨hnodup, List.nodup_singleton key, by
      rintro a ha b hb rfl
      exact hnew (List.mem_singleton.mp hb ▸ ha)⟩
  · rw [hspoken]
    exact hkeys.append (List.Sublist.refl [key])
  · rw [hjudged, hreached, hspeaking]
    exact List.rel_append (horder.imp fun key' e' hfirst' => hfirst'.append _)
      (.cons hisFirst .nil)
  · rw [hjudged, hreached, hspeaking]
    intro key' e' hfirst' htext
    rcases isFirst_concat hfirst' with hearlier | ⟨rfl, -, -⟩
    · exact List.mem_append_left _ (hfirst key' e' hearlier htext)
    · exact List.mem_append_right _ (List.mem_singleton_self e')

omit [LinearOrder α] in
/-- An event that was let through is given up, because it is not of texts. -/
lemma Deduped.giveUp {notes : List (Note α)} {d d' : Driver α} (h : Deduped notes d)
    {e : DecisionEvent (PyVal α)} (he : e.isText = false)
    (hspoken : d'.scope.spoken = d.scope.spoken) (hspeaking : d.speaking = [e])
    (hidle : d'.speaking = []) : Deduped notes d' := by
  obtain ⟨hseen, hspoken', hnodup, ⟨keys, hkeys, horder⟩, hfirst⟩ := h
  rw [hspeaking] at horder hfirst
  constructor
  · rwa [hspoken]
  · rwa [hspoken]
  · rwa [hspoken]
  · refine ⟨keys.take (reached notes).length, ?_, ?_⟩
    · rw [hspoken]
      exact (List.take_sublist _ _).trans hkeys
    · rw [hidle, List.append_nil]
      exact List.forall₂_take_append keys (reached notes) [e] horder
  · intro key e' hfirst' htext
    rw [hidle, List.append_nil]
    rcases List.mem_append.mp (hfirst key e' hfirst' htext) with hbefore | hlast
    · exact hbefore
    · rw [List.mem_singleton.mp hlast, he] at htext
      cases htext

variable {pyStr : PyVal α → String} (hasPrimary : Bool)

/-- A step of the worker keeps what the filter remembers. -/
lemma Deduped.work {notes : List (Note α)} {d : Driver α} (h : Deduped notes d)
    (ends : SinkEnds) :
    Deduped (notes ++ (d.work pyStr hasPrimary ends).2.toList)
      (d.work pyStr hasPrimary ends).1 := by
  fun_cases Driver.work pyStr hasPrimary d ends with
  | case1 hpc =>
    refine h.next rfl rfl ?_
    cases d.stopped <;> simp [Driver.speaking, hpc]
  | case2 hpc => exact h.next rfl rfl (by simp [Driver.speaking, hpc])
  | case3 final hpc hempty =>
    refine h.next rfl rfl ?_
    cases final <;> simp [Driver.speaking, hpc]
  | case4 final hpc e pending hpending => exact h.next rfl rfl (by simp [Driver.speaking, hpc])
  | case5 final e hpc err herr =>
    refine h.silence (fun key hkey => ?_) rfl (by simp [Driver.speaking, hpc])
    exact absurd hkey ((classify_raises herr).2 key)
  | case6 final e hpc scope hscope =>
    obtain ⟨key, hmay, hnew, rfl⟩ := classify_speaks hscope
    exact h.speak hmay hnew rfl (by simp [Driver.speaking, hpc]) rfl
  | case7 final e hpc scope reason hscope =>
    obtain ⟨rfl, hold⟩ := classify_silences hscope
    exact h.silence hold rfl (by simp [Driver.speaking, hpc])
  | case8 final e hpc err herr =>
    rw [Option.toList_none, List.append_nil]
    exact h.giveUp (buildNotice_raises herr) rfl (by simp [Driver.speaking, hpc]) rfl
  | case9 final e hpc notice hnotice hnone => exact h.next rfl rfl (by simp [Driver.speaking, hpc])
  | case10 final e hpc notice hnotice delivery hdelivery =>
    exact h.next rfl rfl (by simp [Driver.speaking, hpc])
  | case11 final e record hpc => exact h.next rfl rfl (by simp [Driver.speaking, hpc])
  | case12 hpc => exact h.next rfl rfl (by simp [Driver.speaking])
  | case13 e hpc => exact h.next rfl rfl (by simp [Driver.speaking])

variable [FloorRing α] (parseInt : String → Option ℤ) (pyStr : PyVal α → String)
  (scan : JsonScan α)

/-- In every run each correlation speaks once, whatever the sinks raise. -/
lemma deduped_run (live : Finset ℤ) (es : List Step) :
    Deduped ((driver parseInt pyStr scan hasPrimary).emitted (.started live) es)
      ((driver parseInt pyStr scan hasPrimary).run (.started live) es) := by
  refine Machine.emitted_history (C := fun _ _ => True) ?_ ?_
    (Machine.allSteps_of_forall _ _ fun _ _ => trivial)
  · refine ⟨by simp, by simp [Driver.started], List.nodup_nil, ⟨[], List.nil_sublist _, .nil⟩, ?_⟩
    rintro key e ⟨before, live', after, hsplit, -⟩
    simp at hsplit
  · intro shown d e _ h
    cases hwork : e.isWork with
    | false =>
      obtain ⟨hpc, -, hspoken, hqueue⟩ := outside_step parseInt pyStr scan hasPrimary d hwork
      have hspeaking : ((driver parseInt pyStr scan hasPrimary).step d e).1.speaking =
          d.speaking := by
        unfold Driver.speaking
        rw [hpc]
      refine h.next ?_ hspoken ?_
      · rcases hqueue with ⟨hnone, -⟩ | ⟨e', hsome, -⟩
        · rw [hnone]; rfl
        · rw [hsome]; rfl
      · rcases hqueue with ⟨hnone, -⟩ | ⟨e', hsome, -⟩
        · rw [hnone]; exact hspeaking
        · rw [hsome]; exact hspeaking
    | true =>
      cases e with
      | work ends => exact h.work hasPrimary ends
      | _ => cases hwork

end Dedup

/-! ## The worker gets through its queue -/

section Progress

/-- How many steps the worker is from its next look at the queue. -/
def Pc.rank : Pc α → ℕ
  | .classifying .. => 3
  | .test | .speaking .. => 2
  | .waiting | .recording .. => 1
  | .draining _ | .done | .dead _ => 0

/-- The worker is in its final flush, or has ended. -/
def Pc.closing : Pc α → Bool
  | .draining final | .classifying final _ | .speaking final _ | .recording final _ _ => final
  | .test | .waiting => false
  | .done | .dead _ => true

/-- The thread has ended. -/
def Pc.ended : Pc α → Bool
  | .done | .dead _ => true
  | _ => false

/-- How many steps of a run are the worker's. -/
def works (es : List Step) : ℕ := es.countP Step.isWork

@[simp] lemma works_nil : works [] = 0 := rfl

lemma works_cons (e : Step) (es : List Step) :
    works (e :: es) = works es + if e.isWork then 1 else 0 :=
  List.countP_cons

variable [Field α] [LinearOrder α] [FloorRing α] (parseInt : String → Option ℤ)
  (pyStr : PyVal α → String) (scan : JsonScan α) (hasPrimary : Bool)

/-- The first `k` events of the queue were handed over, and the text events among them and in hand
were recorded. -/
def GotThrough (d : Driver α) (k : ℕ) (shown : List (Note α)) : Prop :=
  d.pending.take k <+: handed shown ∧
    texts (d.inHand ++ d.pending.take k) <+: texts ((audited shown).map Prod.fst)

omit [Field α] [LinearOrder α] [FloorRing α] in
lemma gotThrough_zero {d : Driver α} (hidle : d.inHand = []) (shown : List (Note α)) :
    GotThrough d 0 shown := by
  unfold GotThrough
  rw [hidle, List.take_zero]
  exact ⟨List.nil_prefix, List.nil_prefix⟩

variable {pyStr} in
omit [FloorRing α] in
/-- What one step moves on is no longer owed. -/
lemma GotThrough.cons {d d' : Driver α} {shown rest : List (Note α)} {k : ℕ}
    (hmoves : Moves pyStr d d' shown) (hk : k ≤ d.pending.length)
    (hhanded : (handed shown).length ≤ k)
    (h : GotThrough d' (k - (handed shown).length) rest) : GotThrough d k (shown ++ rest) := by
  have htake : d.pending.take k =
      handed shown ++ d'.pending.take (k - (handed shown).length) := by
    calc d.pending.take k = (d.pending ++ accepted shown).take k :=
          (List.take_append_of_le_length hk).symm
      _ = (handed shown ++ d'.pending).take k := by rw [hmoves.queue]
      _ = handed shown ++ d'.pending.take (k - (handed shown).length) := by
          rw [List.take_append, List.take_of_length_le hhanded]
  obtain ⟨hqueue, haudit⟩ := h
  constructor
  · rw [htake, handed_append]
    exact (List.prefix_append_right_inj _).mpr hqueue
  · rw [htake, texts_append, texts_append, ← List.append_assoc, hmoves.held, audited_append,
      List.map_append, texts_append, List.append_assoc, ← texts_append]
    exact (List.prefix_append_right_inj _).mpr haudit

omit [FloorRing α] in
/-- One step of the worker brings it closer to the end of what it owes, or it owes nothing. -/
lemma work_closer {d : Driver α} {k : ℕ} (hk : k ≤ d.pending.length) {ends : SinkEnds}
    (hends : (Step.work ends).Caught) (hgoing : d.pc.ended = false) :
    k = 0 ∧ d.inHand = [] ∨
      (handed (d.work pyStr hasPrimary ends).2.toList).length ≤ k ∧
        4 * (k - (handed (d.work pyStr hasPrimary ends).2.toList).length) +
          (d.work pyStr hasPrimary ends).1.pc.rank < 4 * k + d.pc.rank ∧
        (d.work pyStr hasPrimary ends).1.pc.ended = false := by
  fun_cases Driver.work pyStr hasPrimary d ends with
  | case1 hpc =>
    refine .inr ⟨Nat.zero_le k, ?_⟩
    cases d.stopped <;> simp [Pc.rank, Pc.ended, hpc]
  | case2 hpc => exact .inr ⟨Nat.zero_le k, by simp [Pc.rank, hpc], rfl⟩
  | case3 final hpc hempty =>
    rw [hempty, List.length_nil, Nat.le_zero] at hk
    exact .inl ⟨hk, by simp [Driver.inHand, hpc]⟩
  | case4 final hpc e pending hpending =>
    rcases Nat.eq_zero_or_pos k with hzero | hpos
    · exact .inl ⟨hzero, by simp [Driver.inHand, hpc]⟩
    · refine .inr ⟨hpos, ?_, rfl⟩
      have hrank : d.pc.rank = 0 := by rw [hpc]; rfl
      show 4 * (k - 1) + 3 < 4 * k + d.pc.rank
      omega
  | case5 final e hpc err herr => exact .inr ⟨Nat.zero_le k, by simp [Pc.rank, hpc], rfl⟩
  | case6 final e hpc scope hscope => exact .inr ⟨Nat.zero_le k, by simp [Pc.rank, hpc], rfl⟩
  | case7 final e hpc scope reason hscope =>
    exact .inr ⟨Nat.zero_le k, by simp [Pc.rank, hpc], rfl⟩
  | case8 final e hpc err herr => exact .inr ⟨Nat.zero_le k, by simp [Pc.rank, hpc], rfl⟩
  | case9 final e hpc notice hnotice hnone => exact absurd hnone (deliver_ne_none hasPrimary hends)
  | case10 final e hpc notice hnotice delivery hdelivery =>
    exact .inr ⟨Nat.zero_le k, by simp [Pc.rank, hpc], rfl⟩
  | case11 final e record hpc => exact .inr ⟨Nat.zero_le k, by simp [Pc.rank, hpc], rfl⟩
  | case12 hpc => simp [Pc.ended, hpc] at hgoing
  | case13 e hpc => simp [Pc.ended, hpc] at hgoing

/-- With enough steps, or by the time its thread has ended, the worker has got through what it
owed. -/
lemma gotThrough_run {es : List Step} (hcaught : ∀ e ∈ es, e.Caught) {d : Driver α} {k : ℕ}
    (hk : k ≤ d.pending.length) (hgoing : d.pc.ended = false)
    (hsteps : ((driver parseInt pyStr scan hasPrimary).run d es).pc = .done ∨
      4 * k + d.pc.rank ≤ works es) :
    GotThrough d k ((driver parseInt pyStr scan hasPrimary).emitted d es) := by
  induction es generalizing d k with
  | nil =>
    obtain hdone | hzero := hsteps
    · rw [Machine.run_nil] at hdone
      rw [hdone] at hgoing
      cases hgoing
    · rw [works_nil, Nat.le_zero, Nat.add_eq_zero_iff] at hzero
      obtain rfl : k = 0 := by omega
      refine gotThrough_zero ?_ _
      unfold Driver.inHand
      have hrank := hzero.2
      revert hrank hgoing
      cases d.pc <;> simp [Pc.rank, Pc.ended]
  | cons e es ih =>
    obtain ⟨he, hlater⟩ := List.forall_mem_cons.mp hcaught
    have hmoves := moves_step hasPrimary parseInt pyStr scan d e
    have hlength := congrArg List.length hmoves.queue
    rw [List.length_append, List.length_append] at hlength
    rw [Machine.emitted_cons]
    rw [Machine.run_cons, works_cons] at hsteps
    cases hwork : e.isWork with
    | false =>
      have hout := outside_step parseInt pyStr scan hasPrimary d hwork
      have hhanded : handed ((driver parseInt pyStr scan hasPrimary).step d e).2.toList = [] := by
        rcases hout.queue with ⟨hnone, -⟩ | ⟨e', hsome, -⟩
        · rw [hnone]; rfl
        · rw [hsome]; rfl
      rw [hwork, ← hout.pc] at hsteps
      refine .cons hmoves hk (by simp [hhanded]) ?_
      rw [hhanded, List.length_nil] at hlength ⊢
      exact ih hlater (by omega) (hout.pc ▸ hgoing) hsteps
    | true =>
      cases e with
      | work ends =>
        have hstep : (driver parseInt pyStr scan hasPrimary).step d (.work ends) =
            d.work pyStr hasPrimary ends := rfl
        rw [hwork, if_pos rfl] at hsteps
        rw [hstep] at hmoves hlength hsteps ⊢
        rcases work_closer pyStr hasPrimary hk he hgoing with ⟨rfl, hidle⟩ | ⟨hle, hlt, hgoing'⟩
        · exact gotThrough_zero hidle _
        · refine .cons hmoves hk hle (ih hlater ?_ hgoing' ?_)
          · omega
          · exact hsteps.imp id fun henough => by omega
      | _ => cases hwork

end Progress

/-! ## Delivery -/

section Delivery

variable [Field α] [LinearOrder α]

/-- What a run has shown is in order. -/
structure InOrder (pyStr : PyVal α → String) (notes : List (Note α)) (d : Driver α) : Prop where
  /-- The events handed over are the first of those accepted, each once and in their order. -/
  delivery : handed notes <+: accepted notes
  /-- So are the events judged of those handed over. -/
  judgement : (judged notes).map Prod.fst <+: handed notes
  /-- Of the events of texts, so are those recorded. -/
  recording : texts ((audited notes).map Prod.fst) <+: texts (handed notes)
  log : d.auditLog = (audited notes).map Prod.snd
  refs : ∀ p ∈ audited notes, p.2.sourceDecisionRef = sourceDecisionRef pyStr p.1
  /-- The notices that reached the sinks have different correlations, and each is the first that
  may speak for its own. -/
  once : ∃ keys, keys.Nodup ∧ List.Forall₂ (IsFirst (judged notes)) keys (reached notes)
  /-- The first event of texts that may speak for a correlation reaches the sinks. -/
  first : ∀ key e, IsFirst (judged notes) key e → e.isText = true →
    e ∈ reached notes ++ d.speaking

/-- Nothing that was accepted early is missing. -/
structure Complete (early notes : List (Note α)) : Prop where
  delivery : accepted early <+: handed notes
  recording : texts (accepted early) <+: texts ((audited notes).map Prod.fst)

variable [FloorRing α] (parseInt : String → Option ℤ) (pyStr : PyVal α → String)
  (scan : JsonScan α) (hasPrimary : Bool)

/-- What has been shown in every run is in order. -/
lemma inOrder_run (live : Finset ℤ) (es : List Step) :
    InOrder pyStr ((driver parseInt pyStr scan hasPrimary).emitted (.started live) es)
      ((driver parseInt pyStr scan hasPrimary).run (.started live) es) := by
  have haccounts := accounted_run hasPrimary parseInt pyStr scan live es
  have hdedup := deduped_run hasPrimary parseInt pyStr scan live es
  obtain ⟨keys, hkeys, horder⟩ := hdedup.order
  refine ⟨?_, ?_, ?_, haccounts.log, haccounts.refs, ?_, hdedup.first⟩
  · rw [haccounts.queue]
    exact List.prefix_append _ _
  · rw [haccounts.judged]
    exact List.prefix_append _ _
  · rw [haccounts.held]
    exact List.prefix_append _ _
  · refine ⟨keys.take (reached _).length, ?_, List.forall₂_take_append keys _ _ horder⟩
    exact (hdedup.nodup.sublist hkeys).sublist (List.take_sublist _ _)

/-- Only the shutdown sets the stop flag. -/
lemma stopped_step (d : Driver α) {e : Step} (he : e ≠ .shutdown) :
    ((driver parseInt pyStr scan hasPrimary).step d e).1.stopped = d.stopped := by
  cases e with
  | notice raw =>
    show (d.append (enqueueNotice parseInt scan raw)).1.stopped = d.stopped
    fun_cases Driver.append d (enqueueNotice parseInt scan raw) <;> rfl
  | emergency raw =>
    show (d.append (enqueueEmergency pyStr scan raw)).1.stopped = d.stopped
    fun_cases Driver.append d (enqueueEmergency pyStr scan raw) <;> rfl
  | registerLiveCommand genId => rfl
  | retireCommand genId => rfl
  | shutdown => exact absurd rfl he
  | work ends =>
    show (d.work pyStr hasPrimary ends).1.stopped = d.stopped
    fun_cases Driver.work pyStr hasPrimary d ends <;> rfl

/-- Without the stop flag the worker does not close. -/
lemma closing_step {d : Driver α} {e : Step} (he : e.Caught) (hstopped : d.stopped = false)
    (hclosing : d.pc.closing = false) :
    ((driver parseInt pyStr scan hasPrimary).step d e).1.pc.closing = false := by
  cases hwork : e.isWork with
  | false => rw [(outside_step parseInt pyStr scan hasPrimary d hwork).pc, hclosing]
  | true =>
    cases e with
    | work ends =>
      have hdelivered := deliver_ne_none hasPrimary he
      show (d.work pyStr hasPrimary ends).1.pc.closing = false
      fun_cases Driver.work pyStr hasPrimary d ends
      all_goals simp_all [Pc.closing]
    | _ => cases hwork

/-- Until the shutdown the worker is not in its final flush. -/
lemma closing_run (live : Finset ℤ) {es : List Step} (hcaught : ∀ e ∈ es, e.Caught)
    (hopen : Step.shutdown ∉ es) :
    ((driver parseInt pyStr scan hasPrimary).run (.started live) es).pc.closing = false := by
  refine (Machine.run_invariant (C := fun _ e => e.Caught ∧ e ≠ .shutdown)
    (I := fun d : Driver α => d.stopped = false ∧ d.pc.closing = false) ?_ ?_ ⟨rfl, rfl⟩).2
  · rintro d e ⟨he, hne⟩ ⟨hstopped, hclosing⟩
    exact ⟨(stopped_step parseInt pyStr scan hasPrimary d hne).trans hstopped,
      closing_step parseInt pyStr scan hasPrimary he hstopped hclosing⟩
  · refine Machine.allSteps_of_forall _ _ fun e he => ⟨hcaught e he, ?_⟩
    rintro rfl
    exact hopen he

/-- **Delivery of operator notices.**  Whatever the sinks raise, what a run has shown is in order.
Where it is always an `Exception`, what was accepted before the shutdown is complete as soon as the
worker has had steps enough, or has ended. -/
theorem notices_delivered (live : Finset ℤ) (es more : List Step) :
    InOrder pyStr ((driver parseInt pyStr scan hasPrimary).emitted (.started live) (es ++ more))
        ((driver parseInt pyStr scan hasPrimary).run (.started live) (es ++ more)) ∧
      ((∀ e ∈ es ++ more, e.Caught) → Step.shutdown ∉ es →
        ((driver parseInt pyStr scan hasPrimary).run (.started live) (es ++ more)).pc = .done ∨
          4 * ((driver parseInt pyStr scan hasPrimary).run (.started live) es).pending.length + 3 ≤
            works more →
        Complete ((driver parseInt pyStr scan hasPrimary).emitted (.started live) es)
          ((driver parseInt pyStr scan hasPrimary).emitted (.started live) (es ++ more))) := by
  refine ⟨inOrder_run parseInt pyStr scan hasPrimary live _, fun hcaught hopen hsteps => ?_⟩
  have hearly := fun e he => hcaught e (List.mem_append_left more he)
  have hlate := fun e he => hcaught e (List.mem_append_right es he)
  have haccounts := accounted_run hasPrimary parseInt pyStr scan live es
  have hclosing := closing_run parseInt pyStr scan hasPrimary live hearly hopen
  rw [Machine.run_append] at hsteps
  rw [Machine.emitted_append]
  generalize hd : (driver parseInt pyStr scan hasPrimary).run (.started live) es = d at *
  have hgoing : d.pc.ended = false := by
    revert hclosing
    cases d.pc <;> simp [Pc.closing, Pc.ended]
  have hrank : d.pc.rank ≤ 3 := by
    unfold Pc.rank
    split <;> omega
  obtain ⟨hqueue, haudit⟩ := gotThrough_run parseInt pyStr scan hasPrimary hlate le_rfl hgoing
    (hsteps.imp id fun henough => by omega)
  rw [List.take_length] at hqueue haudit
  constructor
  · rw [haccounts.queue, handed_append]
    exact (List.prefix_append_right_inj _).mpr hqueue
  · rw [haccounts.queue, texts_append, haccounts.held, audited_append, List.map_append,
      texts_append, List.append_assoc, ← texts_append]
    exact (List.prefix_append_right_inj _).mpr haudit

end Delivery

/-! ### Two rejects -/

section Rejects

/-- The node over exact numbers, with an audio sink. -/
def exactDriver : Machine (Driver ℚ) Step (Option (Note ℚ)) :=
  driver (fun _ => none) (fun _ => "") (Json.scan Json.FloatText.rational) true

/-- The payload of a reject of the gate. -/
def rejectPayload : String := encodeNotice Json.FloatText.rational (gateReject "")

/-- The event of that payload. -/
def rejectEvent : DecisionEvent (PyVal ℚ) := (fillSchema (gateReject "")).map .str

/-- A decoded event that may ride this wire is queued. -/
lemma enqueueNotice_of_decode [Field α] [LinearOrder α] [FloorRing α]
    {parseInt : String → Option ℤ} {scan : JsonScan α} {raw : String}
    {e : DecisionEvent (PyVal α)} (hdecode : decodeNotice parseInt scan raw = .ok (some e))
    (hwire : isOneOf offWireSpeakableDecisions e.decision = .ok false) :
    enqueueNotice parseInt scan raw = .ok (some e) := by
  unfold enqueueNotice
  rw [hdecode]
  simp only [hwire, Except.map, Bool.false_eq_true, if_false]

lemma enqueueNotice_rejectPayload :
    enqueueNotice (fun _ => none) (Json.scan Json.FloatText.rational) rejectPayload =
      .ok (some rejectEvent) := by
  have hown : foreignSchema (.str (fillSchema (gateReject "")).schemaVersion : PyVal ℚ) = false :=
    (foreignSchema_stamped (gateReject "")).mpr (.inl rfl)
  have hdecode : decodeNotice (fun _ => none) (Json.scan Json.FloatText.rational) rejectPayload =
      .ok (some rejectEvent) := by
    unfold rejectPayload
    rw [decodeNotice_encodeNotice, hown, if_neg Bool.false_ne_true]
    rfl
  have hdecision : isOneOf offWireSpeakableDecisions rejectEvent.decision = .ok false := by
    unfold rejectEvent
    simp [isOneOf, offWireSpeakableDecisions, DecisionEvent.map, fillSchema, gateReject]
  exact enqueueNotice_of_decode hdecode hdecision

/-- Two rejects wait while the commands of generation seven are live. -/
def twoRejects : Driver ℚ := ⟨[rejectEvent, rejectEvent], ⟨{7}, []⟩, [], false, .test⟩

lemma exactDriver_step_notice (d : Driver ℚ) :
    exactDriver.step d (.notice rejectPayload) =
      ({ d with pending := d.pending ++ [rejectEvent] }, some (.accepted rejectEvent)) := by
  have hstep (raw : String) : exactDriver.step d (.notice raw) =
      d.append (enqueueNotice (fun _ => none) (Json.scan Json.FloatText.rational) raw) := rfl
  rw [hstep, enqueueNotice_rejectPayload]
  rfl

/-- Two payloads of the reject. -/
def twoNotices : List Step := [.notice rejectPayload, .notice rejectPayload]

lemma run_twoNotices : exactDriver.run (.started {7}) twoNotices = twoRejects := by
  unfold twoNotices
  rw [Machine.run_cons, Machine.run_cons, Machine.run_nil, exactDriver_step_notice,
    exactDriver_step_notice]
  rfl

lemma accepted_twoNotices :
    accepted (exactDriver.emitted (.started {7}) twoNotices) = [rejectEvent, rejectEvent] := by
  unfold twoNotices
  rw [Machine.emitted_cons, Machine.emitted_cons, Machine.emitted_nil, exactDriver_step_notice,
    exactDriver_step_notice]
  rfl

lemma handed_twoNotices : handed (exactDriver.emitted (.started {7}) twoNotices) = [] := by
  unfold twoNotices
  rw [Machine.emitted_cons, Machine.emitted_cons, Machine.emitted_nil, exactDriver_step_notice,
    exactDriver_step_notice]
  rfl

/-- Both sinks raise an exception, or both raise what is none. -/
def bothRaise : SinkEnds := ⟨.raises, .raises⟩

def bothExit : SinkEnds := ⟨.exits, .exits⟩

/-- The shutdown, and then eleven steps of the worker. -/
def flush (ends : SinkEnds) : List Step := .shutdown :: List.replicate 11 (.work ends)

/-- Two rejects that arrive before the shutdown are delivered although both sinks raise. -/
theorem notices_delivered_two :
    Complete (exactDriver.emitted (.started {7}) twoNotices)
      (exactDriver.emitted (.started {7}) (twoNotices ++ flush bothRaise)) := by
  refine (notices_delivered (fun _ => none) (fun _ => "") (Json.scan Json.FloatText.rational) true
    {7} twoNotices (flush bothRaise)).2 ?_ ?_ (.inr ?_)
  · simp [twoNotices, flush, Step.Caught, bothRaise]
  · simp [twoNotices]
  · have hrun := congrArg Driver.pending run_twoNotices
    have hpending : twoRejects.pending.length = 2 := rfl
    have hworks : works (flush bothRaise) = 11 := rfl
    unfold exactDriver at hrun
    rw [hrun, hpending, hworks]

/-- When a sink raises what is no exception, the worker's thread ends: the first reject has no
record, and the second is never handed over. -/
theorem exit_loses_notice :
    (exactDriver.run (.started {7}) (twoNotices ++ flush bothExit)).pc = .dead rejectEvent ∧
      (exactDriver.run (.started {7}) (twoNotices ++ flush bothExit)).auditLog = [] ∧
      accepted (exactDriver.emitted (.started {7}) twoNotices) = [rejectEvent, rejectEvent] ∧
      (handed (exactDriver.emitted (.started {7}) (twoNotices ++ flush bothExit))).length = 1 := by
  refine ⟨?_, ?_, accepted_twoNotices, ?_⟩
  · rw [Machine.run_append, run_twoNotices]
    rfl
  · rw [Machine.run_append, run_twoNotices]
    exact List.length_eq_zero_iff.mp (by decide +kernel)
  · rw [Machine.emitted_append, run_twoNotices, handed_append, handed_twoNotices, List.nil_append]
    decide +kernel

end Rejects

end OperatorFeedback

end MiniatureWarehouse
