import MiniatureWarehouse.Framework.Tickets
import MiniatureWarehouse.WebBridge.Ingest

/-!
# The order in which events are published

Two paths lead from a message to the hub.  The callback thread ingests an event and hands its
publication over to the loop.  The drain takes the latest snapshot on the loop, has it ingested by
an executor thread, and publishes it once the loop has delivered the result to it, which takes two
turns of the loop's queue.

Numbers are given under a lock, publications are queued after it.  An interleaving is a list of
inputs, each of which lets one party do its next step; a party that cannot do it does nothing.
-/

namespace MiniatureWarehouse

namespace WebBridge

/-- `SNAPSHOT_TOPIC`. -/
def snapshotTopic : String := "/state_cache/snapshot"

/-- `SUBSCRIBED_TOPICS` without the snapshot's. -/
def eventTopics : List String :=
  ["/llm/command", "/llm/reasoning", "/character/speech", "/negotiation/start",
    "/negotiation/turn", "/negotiation/proposal", "/negotiation/abort", "/emergency/event"]

/-- What waits in the loop's queue: a publication that was handed over, the result of the executor
for the drain, or the drain itself with that result. -/
inductive LoopItem (α : Type)
  | publish (e : ObsEvent α)
  | setResult (e : ObsEvent α)
  | wakeUp (e : ObsEvent α)

/-- Where the drain is. -/
inductive Drain (α : Type)
  | sleeping
  | ingesting (raw : String) (receiveTs : PyFloat α)
  | ingested (e : ObsEvent α)
  | awaiting
  | stopped

/-- The gateway between the messages and the hub. -/
structure Publisher (α : Type) where
  ingestor : Ingestor
  held : Option (ObsEvent α)
  pending : Option (String × PyFloat α)
  drain : Drain α
  ready : List (LoopItem α)
  lastSeq : ℕ

/-- The steps of the parties. -/
inductive PublisherInput (α : Type)
  | callback (topic raw : String) (receiveTs : PyFloat α) (writable : Bool)
  | offer (raw : String) (receiveTs : PyFloat α)
  | handOver
  | take
  | execute (writable : Bool)
  | resolve
  | turn

section Steps

variable {α : Type} [Zero α] [DecidableEq α] (S : IngestSettings α)

/-- One step of one party, and the event that reaches `hub.publish` in it. -/
def publisherStep (p : Publisher α) : PublisherInput α → Publisher α × Option (ObsEvent α)
  -- the callback thread, up to the event it holds; a callback that raises holds none
  | .callback topic raw receiveTs writable =>
    match p.held with
    | some _ => (p, none)
    | none =>
      if topic ∈ eventTopics then
        let reply := p.ingestor.ingest S topic raw receiveTs writable
        match reply.2 with
        | .error _ => ({ p with ingestor := reply.1 }, none)
        | .ok e => ({ p with ingestor := reply.1, held := some e, lastSeq := e.seq }, none)
      else (p, none)
  | .offer raw receiveTs =>
    match p.held with
    | some _ => (p, none)
    | none => ({ p with pending := some (raw, receiveTs) }, none)
  | .handOver =>
    match p.held with
    | none => (p, none)
    | some e => ({ p with held := none, ready := p.ready ++ [.publish e] }, none)
  -- the drain, when its sleep is over
  | .take =>
    match p.drain, p.pending with
    | .sleeping, some (raw, receiveTs) =>
      ({ p with pending := none, drain := .ingesting raw receiveTs }, none)
    | _, _ => (p, none)
  -- the executor thread; what it raises ends the drain
  | .execute writable =>
    match p.drain with
    | .ingesting raw receiveTs =>
      let reply := p.ingestor.ingest S snapshotTopic raw receiveTs writable
      match reply.2 with
      | .error _ => ({ p with ingestor := reply.1, drain := .stopped }, none)
      | .ok e => ({ p with ingestor := reply.1, drain := .ingested e }, none)
    | _ => (p, none)
  | .resolve =>
    match p.drain with
    | .ingested e => ({ p with drain := .awaiting, ready := p.ready ++ [.setResult e] }, none)
    | _ => (p, none)
  -- the loop runs what is first in its queue
  | .turn =>
    match p.ready with
    | [] => (p, none)
    | .publish e :: ready => ({ p with ready := ready }, some e)
    | .setResult e :: ready => ({ p with ready := ready ++ [.wakeUp e] }, none)
    | .wakeUp e :: ready =>
      ({ p with ready := ready, drain := .sleeping, lastSeq := e.seq }, some e)

/-- The gateway, with the events it publishes. -/
def publisher : Machine (Publisher α) (PublisherInput α) (Option (ObsEvent α)) :=
  ⟨publisherStep S⟩

end Steps

section Order

variable {α : Type}

/-- The gateway before its first message. -/
def Publisher.start (w : Ingestor) : Publisher α := ⟨w, none, none, .sleeping, [], w.seq⟩

/-- The publications in the loop's queue, in order. -/
def queued (ready : List (LoopItem α)) : List (ObsEvent α) :=
  ready.filterMap fun
    | .publish e => some e
    | .setResult _ => none
    | .wakeUp e => some e

/-- The snapshots whose result is still on its way to the drain. -/
def settling (ready : List (LoopItem α)) : List (ObsEvent α) :=
  ready.filterMap fun
    | .publish _ => none
    | .setResult e => some e
    | .wakeUp _ => none

/-- The snapshots in the loop's queue, before and after their result was set. -/
def drained (ready : List (LoopItem α)) : List (ObsEvent α) :=
  ready.filterMap fun
    | .publish _ => none
    | .setResult e => some e
    | .wakeUp e => some e

/-- The snapshot that the executor has ingested and not yet reported. -/
def Drain.ingested? : Drain α → Option (ObsEvent α)
  | .ingested e => some e
  | _ => none

/-- The snapshots that have a number and whose publication is not queued yet. -/
def Publisher.unqueuedSnapshots (p : Publisher α) : List (ObsEvent α) :=
  p.drain.ingested?.toList ++ settling p.ready

/-- The snapshot whose result the loop is about to set. -/
def Publisher.settlesNext? (p : Publisher α) : Option (ObsEvent α) :=
  match p.ready with
  | .setResult e :: _ => some e
  | _ => none

/-- **The two paths take turns**: a publication is queued only when no event with a smaller number
is still on the way to the queue. -/
def TakesTurns (p : Publisher α) : PublisherInput α → Prop
  | .handOver => ∀ e ∈ p.held, ∀ e' ∈ p.unqueuedSnapshots, e.seq < e'.seq
  | .turn => ∀ e ∈ p.settlesNext?, ∀ e' ∈ p.held, e.seq < e'.seq
  | _ => True

instance (p : Publisher α) (i : PublisherInput α) : Decidable (TakesTurns p i) :=
  match i with
  | .handOver =>
    inferInstanceAs (Decidable (∀ e ∈ p.held, ∀ e' ∈ p.unqueuedSnapshots, e.seq < e'.seq))
  | .turn => inferInstanceAs (Decidable (∀ e ∈ p.settlesNext?, ∀ e' ∈ p.held, e.seq < e'.seq))
  | .callback _ _ _ _ | .offer _ _ | .take | .execute _ | .resolve => .isTrue trivial

/-- What holds between the gateway and the events published so far. -/
structure Publisher.Inv (p : Publisher α) (published : List (ObsEvent α)) : Prop where
  tickets : Ticketed ObsEvent.seq p.ingestor.seq (p.held.toList ++ p.unqueuedSnapshots)
    (published ++ queued p.ready)
  alone : match p.drain with
    | .awaiting => (drained p.ready).length = 1
    | _ => drained p.ready = []

lemma start_published (w : Ingestor) : (Publisher.start w : Publisher α).Inv [] where
  tickets := .nil _ _
  alone := rfl

/-- A result on its way to the drain is one of the drain's items in the queue. -/
lemma settling_subset (ready : List (LoopItem α)) : settling ready ⊆ drained ready := by
  intro e he
  obtain ⟨item, hitem, hsome⟩ := List.mem_filterMap.mp he
  refine List.mem_filterMap.mpr ⟨item, hitem, ?_⟩
  cases item with
  | publish e' => cases hsome
  | setResult e' => exact hsome
  | wakeUp e' => cases hsome

lemma settling_eq_nil {ready : List (LoopItem α)} (h : drained ready = []) : settling ready = [] :=
  List.subset_nil.mp (h ▸ settling_subset ready)

variable [Zero α] [DecidableEq α] {S : IngestSettings α}
variable {p : Publisher α} {published : List (ObsEvent α)}

/-- A callback's event draws the next number. -/
lemma Publisher.Inv.callback (h : p.Inv published) (topic raw : String) (receiveTs : PyFloat α)
    (writable : Bool) :
    (publisherStep S p (.callback topic raw receiveTs writable)).1.Inv published := by
  unfold publisherStep
  cases hheld : p.held with
  | some held => simpa only [hheld] using h
  | none =>
    have htickets := h.tickets
    rw [hheld] at htickets
    dsimp only
    split_ifs with htopic
    · rcases p.ingestor.ingest_seq S topic raw receiveTs writable with
        ⟨e, he, hseq, hnext⟩ | ⟨⟨err, herr⟩, hsame⟩
      · simp only [he]
        refine ⟨?_, h.alone⟩
        dsimp only
        rw [hnext]
        exact htickets.draw hseq (List.Subset.refl _)
      · simp only [herr]
        refine ⟨?_, h.alone⟩
        dsimp only
        rw [hsame]
        exact htickets
    · exact h

/-- The executor's snapshot draws the next number. -/
lemma Publisher.Inv.execute (h : p.Inv published) (writable : Bool) :
    (publisherStep S p (.execute writable)).1.Inv published := by
  unfold publisherStep
  cases hdrain : p.drain with
  | ingesting raw receiveTs =>
    have htickets := h.tickets
    have halone := h.alone
    rw [hdrain] at halone
    dsimp only
    rcases p.ingestor.ingest_seq S snapshotTopic raw receiveTs writable with
      ⟨e, he, hseq, hnext⟩ | ⟨⟨err, herr⟩, hsame⟩
    · simp only [he]
      refine ⟨?_, halone⟩
      dsimp only
      rw [hnext]
      refine htickets.draw hseq ?_
      intro e' he'
      simp only [unqueuedSnapshots, hdrain, Drain.ingested?, List.mem_append, List.mem_cons,
        Option.toList_some, List.not_mem_nil, or_false] at he' ⊢
      tauto
    · simp only [herr]
      refine ⟨?_, halone⟩
      dsimp only
      rw [hsame]
      simpa only [unqueuedSnapshots, hdrain, Drain.ingested?] using htickets
  | sleeping => simpa only [hdrain] using h
  | ingested e => simpa only [hdrain] using h
  | awaiting => simpa only [hdrain] using h
  | stopped => simpa only [hdrain] using h

omit [Zero α] [DecidableEq α] in
lemma queued_append (ready : List (LoopItem α)) (item : LoopItem α) :
    queued (ready ++ [item]) = queued ready ++ queued [item] := List.filterMap_append

omit [Zero α] [DecidableEq α] in
lemma settling_append (ready : List (LoopItem α)) (item : LoopItem α) :
    settling (ready ++ [item]) = settling ready ++ settling [item] := List.filterMap_append

omit [Zero α] [DecidableEq α] in
lemma drained_append (ready : List (LoopItem α)) (item : LoopItem α) :
    drained (ready ++ [item]) = drained ready ++ drained [item] := List.filterMap_append

/-- An event that is handed over joins the queue of publications. -/
lemma Publisher.Inv.handOver (h : p.Inv published) (hturn : TakesTurns p .handOver) :
    (publisherStep S p .handOver).1.Inv published := by
  unfold publisherStep
  cases hheld : p.held with
  | none => simpa only [hheld] using h
  | some e =>
    have htickets := h.tickets
    rw [hheld] at htickets
    have hunqueued : ({ p with held := none, ready := p.ready ++ [.publish e] } :
        Publisher α).unqueuedSnapshots = p.unqueuedSnapshots := by
      unfold unqueuedSnapshots
      rw [settling_append]
      simp [settling]
    refine ⟨?_, ?_⟩
    · show Ticketed _ _ ([] ++ unqueuedSnapshots _) (published ++ queued (p.ready ++ [.publish e]))
      rw [hunqueued, queued_append, ← List.append_assoc]
      refine htickets.join List.mem_cons_self (List.subset_cons_self _ _) ?_
      exact hturn e hheld
    · have hdrained : drained (p.ready ++ [.publish e]) = drained p.ready := by
        rw [drained_append]
        exact List.append_nil _
      show match p.drain with
        | .awaiting => (drained (p.ready ++ [.publish e])).length = 1
        | _ => drained (p.ready ++ [.publish e]) = []
      rw [hdrained]
      exact h.alone

/-- The result of the executor is on its way to the drain. -/
lemma Publisher.Inv.resolve (h : p.Inv published) :
    (publisherStep S p .resolve).1.Inv published := by
  unfold publisherStep
  cases hdrain : p.drain with
  | ingested e =>
    have htickets := h.tickets
    have halone := h.alone
    rw [hdrain] at halone
    have hqueued : queued (p.ready ++ [.setResult e]) = queued p.ready := by
      rw [queued_append]
      exact List.append_nil _
    refine ⟨?_, ?_⟩
    · show Ticketed _ _ (p.held.toList ++ ([] ++ settling (p.ready ++ [.setResult e])))
        (published ++ queued (p.ready ++ [.setResult e]))
      rw [hqueued, settling_append]
      refine htickets.subset ?_
      intro e' he'
      simp only [unqueuedSnapshots, hdrain, Drain.ingested?, settling, List.mem_append,
        Option.mem_toList, Option.some.injEq, List.filterMap_cons, List.filterMap_nil,
        List.mem_cons, List.not_mem_nil, or_false, false_or] at he' ⊢
      tauto
    · show (drained (p.ready ++ [.setResult e])).length = 1
      rw [drained_append, halone]
      rfl
  | sleeping => simpa only [hdrain] using h
  | ingesting raw receiveTs => simpa only [hdrain] using h
  | awaiting => simpa only [hdrain] using h
  | stopped => simpa only [hdrain] using h

/-- The drain's publication joins the queue when its result is set; everything else the loop does
takes a publication from the front of the queue. -/
lemma Publisher.Inv.turn (h : p.Inv published) (hturn : TakesTurns p .turn) :
    (publisherStep S p .turn).1.Inv (published ++ (publisherStep S p .turn).2.toList) := by
  have htickets := h.tickets
  have halone := h.alone
  unfold publisherStep
  cases hready : p.ready with
  | nil =>
    show p.Inv (published ++ [])
    rwa [List.append_nil]
  | cons item ready =>
    rw [hready] at halone
    cases item with
    | publish e =>
      refine ⟨?_, halone⟩
      have hqueued : published ++ queued p.ready = published ++ [e] ++ queued ready := by
        rw [hready, List.append_assoc]
        rfl
      have hunqueued : p.unqueuedSnapshots = p.drain.ingested?.toList ++ settling ready := by
        unfold unqueuedSnapshots
        rw [hready]
        rfl
      rw [hqueued, hunqueued] at htickets
      exact htickets
    | wakeUp e =>
      have hawaiting : p.drain = .awaiting := by
        cases hdrain : p.drain <;> rw [hdrain] at halone <;> first | rfl | cases halone
      rw [hawaiting] at halone
      have hnone : drained ready = [] := List.length_eq_zero_iff.mp (Nat.succ.inj halone)
      refine ⟨?_, hnone⟩
      have hqueued : published ++ queued p.ready = published ++ [e] ++ queued ready := by
        rw [hready, List.append_assoc]
        rfl
      rw [hqueued] at htickets
      refine htickets.subset ?_
      show p.held.toList ++ ([] ++ settling ready) ⊆ _
      rw [settling_eq_nil hnone]
      exact List.append_subset_of_subset_of_subset (List.subset_append_left _ _) (List.nil_subset _)
    | setResult e =>
      have hawaiting : p.drain = .awaiting := by
        cases hdrain : p.drain <;> rw [hdrain] at halone <;> first | rfl | cases halone
      rw [hawaiting] at halone
      have hnone : drained ready = [] := List.length_eq_zero_iff.mp (Nat.succ.inj halone)
      have hqueued : published ++ queued (ready ++ [.wakeUp e]) =
          published ++ queued p.ready ++ [e] := by
        rw [queued_append, hready, ← List.append_assoc]
        rfl
      have hunqueued : p.drain.ingested?.toList ++ settling (ready ++ [.wakeUp e]) = [] := by
        rw [hawaiting, settling_append, settling_eq_nil hnone]
        rfl
      have hmem : e ∈ p.held.toList ++ p.unqueuedSnapshots := by
        refine List.mem_append_right _ (List.mem_append_right _ ?_)
        rw [hready]
        exact List.mem_cons_self
      have hnext : p.settlesNext? = some e := by
        unfold settlesNext?
        rw [hready]
      have hfirst : ∀ e' ∈ p.held, e.seq < e'.seq := hturn e hnext
      refine ⟨?_, ?_⟩
      · show Ticketed _ _ (p.held.toList ++ (p.drain.ingested?.toList ++
          settling (ready ++ [.wakeUp e]))) (published ++ [] ++ queued (ready ++ [.wakeUp e]))
        rw [List.append_nil, hqueued, hunqueued, List.append_nil]
        refine htickets.join hmem (List.subset_append_left _ _) fun e' he' => ?_
        exact hfirst e' (Option.mem_toList.mp he')
      · show match p.drain with
          | .awaiting => (drained (ready ++ [.wakeUp e])).length = 1
          | _ => drained (ready ++ [.wakeUp e]) = []
        rw [hawaiting, drained_append, hnone]
        rfl

/-- Only the loop publishes. -/
lemma silent_of_ne_turn {i : PublisherInput α} (hi : i ≠ .turn) :
    (publisherStep S p i).2 = none := by
  cases i with
  | turn => exact absurd rfl hi
  | callback topic raw receiveTs writable =>
    simp only [publisherStep]
    split
    · rfl
    · split_ifs
      · split <;> rfl
      · rfl
  | execute writable =>
    simp only [publisherStep]
    split
    · split <;> rfl
    · rfl
  | offer raw receiveTs => simp only [publisherStep]; split <;> rfl
  | handOver => simp only [publisherStep]; split <;> rfl
  | take => simp only [publisherStep]; split <;> rfl
  | resolve => simp only [publisherStep]; split <;> rfl

/-- A snapshot that is offered or taken has no number yet. -/
lemma Publisher.Inv.offer (h : p.Inv published) (raw : String) (receiveTs : PyFloat α) :
    (publisherStep S p (.offer raw receiveTs)).1.Inv published := by
  simp only [publisherStep]
  split
  · exact h
  · exact ⟨h.tickets, h.alone⟩

lemma Publisher.Inv.take (h : p.Inv published) : (publisherStep S p .take).1.Inv published := by
  simp only [publisherStep]
  split
  · rename_i hdrain _
    have htickets := h.tickets
    have halone := h.alone
    rw [hdrain] at halone
    refine ⟨?_, halone⟩
    simpa only [unqueuedSnapshots, hdrain, Drain.ingested?] using htickets
  · exact h

/-- What one step of one party preserves. -/
lemma Publisher.Inv.step (h : p.Inv published) {i : PublisherInput α} (hturn : TakesTurns p i) :
    (publisherStep S p i).1.Inv (published ++ (publisherStep S p i).2.toList) := by
  have hsilent : i ≠ .turn → (publisherStep S p i).1.Inv published →
      (publisherStep S p i).1.Inv (published ++ (publisherStep S p i).2.toList) := by
    intro hne hinv
    rwa [silent_of_ne_turn hne, Option.toList_none, List.append_nil]
  cases i with
  | callback topic raw receiveTs writable =>
    exact hsilent (by simp) (h.callback topic raw receiveTs writable)
  | offer raw receiveTs => exact hsilent (by simp) (h.offer raw receiveTs)
  | handOver => exact hsilent (by simp) (h.handOver hturn)
  | take => exact hsilent (by simp) h.take
  | execute writable => exact hsilent (by simp) (h.execute writable)
  | resolve => exact hsilent (by simp) h.resolve
  | turn => exact h.turn hturn

/-- **What holds over a run** in which the two paths take turns. -/
lemma inv_published (S : IngestSettings α) (w : Ingestor) {inputs : List (PublisherInput α)}
    (h : (publisher S).AllSteps TakesTurns (Publisher.start w) inputs) :
    ((publisher S).run (Publisher.start w) inputs).Inv
      ((publisher S).emitted (Publisher.start w) inputs) := by
  refine Machine.run_history_of_allSteps
    (I := fun past p => p.Inv ((publisher S).emitted (Publisher.start w) past))
    (start_published w) ?_ h
  intro past i hturn hinv
  rw [Machine.emitted_concat]
  exact hinv.step hturn

end Order

/-! ## The console -/

section Console

variable {α : Type}

/-- The two fields of the console's store that decide whether an event is applied. -/
structure ClientView where
  lastSeq : ℕ
  runId : Option String
  deriving DecidableEq

/-- `reduce`: nothing for an event that is discarded. -/
def reduce (s : ClientView) (e : ObsEvent α) : Option ClientView :=
  let isNewRun := e.runId ≠ none ∧ s.runId ≠ none ∧ e.runId ≠ s.runId
  if ¬ isNewRun ∧ e.seq ≤ s.lastSeq then none
  else some ⟨e.seq, e.runId.or s.runId⟩

/-- The events that a console discards of those it receives. -/
def discarded : ClientView → List (ObsEvent α) → List (ObsEvent α)
  | _, [] => []
  | s, e :: es =>
    match reduce s e with
    | none => e :: discarded s es
    | some s' => discarded s' es

/-- **Of an ordered stream**, a console discards only what is no newer than what it had applied
before the stream began. -/
lemma le_lastSeq_of_discarded {es : List (ObsEvent α)}
    (h : es.Pairwise fun e e' => e.seq < e'.seq) (s : ClientView) :
    ∀ e ∈ discarded s es, e.seq ≤ s.lastSeq := by
  induction es generalizing s with
  | nil => exact fun e he => absurd he List.not_mem_nil
  | cons e es ih =>
    obtain ⟨hfirst, hrest⟩ := List.pairwise_cons.mp h
    have hmem : ∀ (s : ClientView), ∀ e' ∈ discarded s es, e' ∈ es := by
      clear h hfirst hrest ih
      intro s
      induction es generalizing s with
      | nil => exact fun e he => he
      | cons e es ih =>
        intro e' he'
        unfold discarded at he'
        cases hreduce : reduce s e with
        | none =>
          rw [hreduce] at he'
          rcases List.mem_cons.mp he' with rfl | hlater
          · exact List.mem_cons_self
          · exact List.mem_cons_of_mem e (ih s e' hlater)
        | some s' =>
          rw [hreduce] at he'
          exact List.mem_cons_of_mem e (ih s' e' he')
    intro e' he'
    unfold discarded at he'
    cases hreduce : reduce s e with
    | none =>
      rw [hreduce] at he'
      rcases List.mem_cons.mp he' with rfl | hlater
      · unfold reduce at hreduce
        dsimp only at hreduce
        split_ifs at hreduce with hold
        exact hold.2
      · exact ih hrest s e' hlater
    | some s' =>
      rw [hreduce] at he'
      -- after an event that was applied, everything that follows is newer
      have hlast : s'.lastSeq = e.seq := by
        unfold reduce at hreduce
        dsimp only at hreduce
        split_ifs at hreduce with hold
        rw [← Option.some.inj hreduce]
      have hle := ih hrest s' e' he'
      have hlt := hfirst e' (hmem s' e' he')
      omega

variable [Zero α] [DecidableEq α]

/-- **Publication in order.**  In a run in which the two paths take turns, events reach the hub in
strictly increasing order of their numbers, and of any part of that stream a console discards only
what is no newer than what it had applied before. -/
theorem published_in_order (S : IngestSettings α) (w : Ingestor) (inputs : List (PublisherInput α))
    (h : (publisher S).AllSteps TakesTurns (Publisher.start w) inputs) :
    ((publisher S).emitted (Publisher.start w) inputs).Pairwise (fun e e' => e.seq < e'.seq) ∧
      ∀ (s : ClientView) (received : List (ObsEvent α)),
        received.Sublist ((publisher S).emitted (Publisher.start w) inputs) →
          ∀ e ∈ discarded s received, e.seq ≤ s.lastSeq := by
  have hline := (inv_published S w h).tickets.ordered
  have hordered := (List.pairwise_append.mp hline).1
  exact ⟨hordered, fun s received hpart => le_lastSeq_of_discarded (hordered.sublist hpart) s⟩

end Console

/-! ## Two interleavings -/

/-- Settings without a trace deriver, with times in whole seconds. -/
def consoleSettings : IngestSettings ℕ where
  text := Json.FloatText.whole
  runId := some "r"
  maxBytes := 8000000
  traceDeriver := none

/-- A message and then a snapshot, each carried to the hub before the next one is read. -/
def oneByOne : List (PublisherInput ℕ) :=
  [.callback "/llm/reasoning" "a" (.fin 1) true, .handOver, .turn,
    .offer "\x7b\x7d" (.fin 2), .take, .execute true, .resolve, .turn, .turn]

/-- The same, but the callback thread rests between its two steps. -/
def overtaken : List (PublisherInput ℕ) :=
  [.offer "\x7b\x7d" (.fin 1), .take, .callback "/llm/reasoning" "a" (.fin 2) true,
    .execute true, .resolve, .turn, .turn, .handOver, .turn]

theorem published_in_order_one_by_one :
    (publisher consoleSettings).AllSteps TakesTurns (Publisher.start ⟨Dict.empty, 0⟩) oneByOne ∧
      ((publisher consoleSettings).emitted (Publisher.start ⟨Dict.empty, 0⟩) oneByOne).Pairwise
        fun e e' => e.seq < e'.seq := by
  have hturns : (publisher consoleSettings).AllSteps TakesTurns
      (Publisher.start ⟨Dict.empty, 0⟩) oneByOne := by decide +kernel
  exact ⟨hturns, (published_in_order consoleSettings ⟨Dict.empty, 0⟩ oneByOne hturns).1⟩

/-- The snapshot overtakes the message: the message is published after an event with a higher number
and a console that follows the stream from its beginning discards it. -/
theorem overtaken_event_discarded :
    ((publisher consoleSettings).emitted (Publisher.start ⟨Dict.empty, 0⟩) overtaken).map
        (fun e => (e.seq, e.kind)) = [(2, "snapshot"), (1, "reasoning")] ∧
      (discarded ⟨0, none⟩ ((publisher consoleSettings).emitted (Publisher.start ⟨Dict.empty, 0⟩)
        overtaken)).map (fun e => (e.seq, e.kind)) = [(1, "reasoning")] := by
  decide +kernel

end WebBridge

end MiniatureWarehouse
