import MiniatureWarehouse.WebBridge.CrashRecovery
import MiniatureWarehouse.WebBridge.Hub

/-!
# Where the backfill meets the live events

The handler of a websocket first subscribes to the live events, then sends the client what the log
has for it, and then what has queued up in the meantime.  The log goes on growing while it is read:
the ingest thread rolls the current file over and writes the next line, the loop publishes what was
written, and the handler opens one segment after another in between.

The handler lists the segments once and opens each by its name.  When the current file is rolled
over after the listing and before it is opened, the name stands for the next file, and the rolled
one is not on the list: what it held and was published before the subscription is never sent.
`backfill_meets_live` says that this is the only way to lose an event.

A line reaches its file in one step.  The publications may come in any order.
-/

namespace MiniatureWarehouse

namespace WebBridge

/-- The segment numbers of `_segments_in_order`. -/
def segmentNumbers (files : RunFiles) : List ℕ :=
  (files.entries.insertionSort ReplaysBefore).map Prod.fst

/-- Where the handler of a websocket is. -/
inductive Handler (α : Type)
  | connecting
  | subscribed
  /-- Events read from a segment are still to be sent, and these segments are still to be read. -/
  | backfilling (sending : List (PyVal α)) (segments : List ℕ)
  | draining
  /-- An exception, or the sentinel of the queue, has ended it. -/
  | ended

/-- The hub has its channel among its clients. -/
def Handler.isSubscribed {α : Type} : Handler α → Bool
  | .connecting | .ended => false
  | _ => true

/-- The segments have been listed. -/
def Handler.hasListed {α : Type} : Handler α → Bool
  | .backfilling _ _ | .draining => true
  | _ => false

/-- What was read and is still to be sent. -/
def Handler.sending {α : Type} : Handler α → List (PyVal α)
  | .backfilling sending _ => sending
  | _ => []

/-- The segments still to be read. -/
def Handler.unread {α : Type} : Handler α → List ℕ
  | .backfilling _ segments => segments
  | _ => []

/-- The log, what is being written to it and what is still to be published, and the handler with
its channel and what it has sent. -/
structure Seam (α : Type) where
  ingestor : Ingestor
  writing : Option (ObsEvent α)
  unpublished : List (ObsEvent α)
  handler : Handler α
  channel : ClientChannel (ObsEvent α)
  sent : List (PyVal α)

/-- A step of the ingest thread, of the loop, or of the handler. -/
inductive SeamInput (α : Type)
  /-- A message gets its number; the current file is rolled over when its line does not fit. -/
  | ingest (topic raw : String) (receiveTs : PyFloat α)
  /-- The line is written, or the file cannot be opened. -/
  | append (writable : Bool)
  /-- The loop publishes one of the events that were written. -/
  | publish (k : ℕ)
  | subscribe
  | list
  | read
  | send
  | get

section Steps

variable {α : Type} [Zero α] [DecidableEq α] (S : IngestSettings α) (sinceSeq queueMax : ℤ)

/-- What the handler asks the log for. -/
def backfill : Replay := ⟨sinceSeq, none, none⟩

/-- `event.get("kind") == "snapshot"`. -/
def isState (e : ObsEvent α) : Bool := decide (e.kind = "snapshot")

omit [Zero α] [DecidableEq α] in
/-- What the lines of a segment give the handler. -/
def Seam.replay (bytes : ByteArray) : Except PyErr (List (PyVal α)) :=
  (readText bytes).bind (replayText (Json.scan S.text) (backfill sinceSeq))

/-- One step of one party, and the event whose append it completes. -/
def seamStep (s : Seam α) : SeamInput α → Seam α × Option (ObsEvent α)
  | .ingest topic raw receiveTs =>
    match s.writing, S.event topic raw (s.ingestor.seq + 1) receiveTs with
    | none, .ok e =>
      ({ s with
          ingestor := { s.ingestor with
            files := makeRoom S.maxBytes s.ingestor.files (encode (lineOf S.text e)) }
          writing := some e }, none)
    | _, _ => (s, none)
  | .append writable =>
    match s.writing with
    | none => (s, none)
    | some e =>
      if writable then
        ({ s with
            ingestor := ⟨writeBytes s.ingestor.files (encode (lineOf S.text e)), s.ingestor.seq + 1⟩
            writing := none
            unpublished := s.unpublished ++ [e] }, some e)
      else ({ s with writing := none }, none)
  | .publish k =>
    match s.unpublished[k]? with
    | none => (s, none)
    | some e =>
      ({ s with
          unpublished := s.unpublished.eraseIdx k
          channel := if s.handler.isSubscribed then s.channel.put isState e else s.channel },
        none)
  | .subscribe =>
    match s.handler with
    | .connecting => ({ s with handler := .subscribed, channel := .build queueMax }, none)
    | _ => (s, none)
  | .list =>
    match s.handler with
    | .subscribed =>
      ({ s with handler := .backfilling [] (segmentNumbers s.ingestor.files) }, none)
    | _ => (s, none)
  | .read =>
    match s.handler with
    | .backfilling [] [] => ({ s with handler := .draining }, none)
    | .backfilling [] (i :: segments) =>
      match s.ingestor.files.get? i with
      -- the file is gone by now
      | none => ({ s with handler := .backfilling [] segments }, none)
      | some bytes =>
        match Seam.replay S sinceSeq bytes with
        | .ok events => ({ s with handler := .backfilling events segments }, none)
        | .error _ => ({ s with handler := .ended }, none)
    | _ => (s, none)
  | .send =>
    match s.handler with
    | .backfilling (event :: sending) segments =>
      ({ s with handler := .backfilling sending segments, sent := s.sent ++ [event] }, none)
    | _ => (s, none)
  | .get =>
    match s.handler, s.channel.get with
    | .draining, (channel, some (.event e)) =>
      ({ s with channel := channel, sent := s.sent ++ [e.toVal] }, none)
    | .draining, (channel, some .close) =>
      ({ s with channel := channel, handler := .ended }, none)
    | _, _ => (s, none)

/-- The log and the handler as a machine that shows the completed appends. -/
def seam : Machine (Seam α) (SeamInput α) (Option (ObsEvent α)) := ⟨seamStep S sinceSeq queueMax⟩

omit [Zero α] [DecidableEq α] in
/-- A log with a client that is about to connect. -/
def Seam.start (w : Ingestor) : Seam α := ⟨w, none, [], .connecting, .build queueMax, []⟩

/-! ## What is promised -/

/-- The events in a queue, as they are sent. -/
def queuedVals (queue : List (Item (ObsEvent α))) : List (PyVal α) :=
  queue.filterMap fun
    | .event e => some e.toVal
    | .close => none

omit [Zero α] [DecidableEq α] in
/-- What was sent or is on its way to the client: read from the log, queued, or still to be
published. -/
def Seam.held (s : Seam α) : List (PyVal α) :=
  s.sent ++ s.handler.sending ++ queuedVals s.channel.queue ++ s.unpublished.map ObsEvent.toVal

omit [Zero α] [DecidableEq α] in
/-- The event was sent, is on its way, or is in a segment that is still to be read. -/
def Seam.Delivers (s : Seam α) (event : PyVal α) : Prop :=
  event ∈ s.held ∨ ∃ i ∈ s.handler.unread, ∃ bytes ∈ s.ingestor.files.get? i,
    ∃ events, Seam.replay S sinceSeq bytes = .ok events ∧ event ∈ events

omit [Zero α] [DecidableEq α] in
/-- The handler has sent all there is: the backfill is over, nothing is queued and nothing is still
to be published. -/
structure Seam.Settled (s : Seam α) : Prop where
  draining : s.handler = .draining
  queue : s.channel.queue = []
  unpublished : s.unpublished = []

/-- Has the handler come to its queue? -/
instance (h : Handler α) : Decidable (h = .draining) :=
  match h with
  | .connecting => isFalse (by simp)
  | .subscribed => isFalse (by simp)
  | .backfilling _ _ => isFalse (by simp)
  | .draining => isTrue rfl
  | .ended => isFalse (by simp)

omit [Zero α] [DecidableEq α] in
lemma Seam.settled_iff (s : Seam α) : s.Settled ↔
    s.handler = .draining ∧ s.channel.queue = [] ∧ s.unpublished = [] :=
  ⟨fun h => ⟨h.draining, h.queue, h.unpublished⟩, fun h => ⟨h.1, h.2.1, h.2.2⟩⟩

instance (s : Seam α) : Decidable s.Settled := decidable_of_iff _ s.settled_iff.symm

/-- No publication meets a full queue. -/
def NeverOverflows (s : Seam α) : SeamInput α → Prop
  | .publish _ => s.handler.isSubscribed = true → ¬ s.channel.full
  | _ => True

instance (s : Seam α) : ∀ input, Decidable (NeverOverflows s input)
  | .publish _ => inferInstanceAs (Decidable (_ → _))
  | .ingest _ _ _ | .append _ | .subscribe | .list | .read | .send | .get => isTrue trivial

/-- The line makes the current file roll over. -/
def RollsOver (maxBytes : ℤ) (files : RunFiles) (line : ByteArray) : Prop :=
  0 < (currentFile files).size ∧ maxBytes < ((currentFile files).size + line.size : ℕ)

/-- When the current file is rolled over while it is still to be read, all that it would have given
the handler was sent or is on its way. -/
def RollsSafely (s : Seam α) : SeamInput α → Prop
  | .ingest topic raw receiveTs =>
    ∀ e, s.writing = none → S.event topic raw (s.ingestor.seq + 1) receiveTs = .ok e →
      RollsOver S.maxBytes s.ingestor.files (encode (lineOf S.text e)) →
      0 ∈ s.handler.unread →
      ∀ events, Seam.replay S sinceSeq (currentFile s.ingestor.files) = .ok events →
        ∀ event ∈ events, event ∈ s.held
  | _ => True

/-- Nothing arrives while the current file is listed and still to be read. -/
def ArrivesBetween (s : Seam α) : SeamInput α → Prop
  | .ingest _ _ _ => 0 ∉ s.handler.unread
  | _ => True

instance (s : Seam α) : ∀ input, Decidable (ArrivesBetween s input)
  | .ingest _ _ _ => inferInstanceAs (Decidable (0 ∉ s.handler.unread))
  | .publish _ | .append _ | .subscribe | .list | .read | .send | .get => isTrue trivial

/-- Then it is safe to roll over. -/
lemma ArrivesBetween.rollsSafely (s : Seam α) (input : SeamInput α) (h : ArrivesBetween s input) :
    RollsSafely S sinceSeq s input := by
  cases input with
  | ingest topic raw receiveTs =>
    intro e _ _ _ hunread
    exact absurd hunread h
  | _ => trivial

end Steps

/-! ## The segments and what they hold -/

section Segments

variable {α : Type} {T : Json.FloatText α}

/-- The events of a segment, when the rolled ones hold `blocks` and the current one `last`. -/
def blockAt (blocks : List (List (ObsEvent α))) (last : List (ObsEvent α)) : ℕ → List (ObsEvent α)
  | 0 => last
  | i + 1 => (blocks[i]?).getD []

/-- The rolled segments hold these events and the current one these, each in whole lines. -/
def Tidy (T : Json.FloatText α) (files : RunFiles) (blocks : List (List (ObsEvent α)))
    (last : List (ObsEvent α)) : Prop :=
  ∃ rolled current, Laid files rolled current ∧
    List.Forall₂ (fun bytes es => Holds T bytes es []) rolled blocks ∧
    Holds T (current.getD ByteArray.empty) last [] ∧ (current = none → last = [])

lemma tidy_empty (T : Json.FloatText α) : Tidy T Dict.empty [] [] :=
  ⟨[], none, laid_empty, .nil, holds_empty T, fun _ => rfl⟩

variable {files : RunFiles} {blocks : List (List (ObsEvent α))} {last : List (ObsEvent α)}

/-- Where a rolled segment lies. -/
lemma Laid.get?_succ {rolled : List ByteArray} {current : Option ByteArray}
    (h : Laid files rolled current) (i : ℕ) : files.get? (i + 1) = rolled[i]? := by
  have hmem : ∀ bytes, files.get? (i + 1) = some bytes ↔ rolled[i]? = some bytes := by
    intro bytes
    rw [← files.mem_entries_iff, h, List.mem_append, List.mem_iff_getElem?]
    constructor
    · rintro (⟨j, hj⟩ | hcurrent)
      · rw [List.getElem?_zip_eq_some] at hj
        obtain ⟨hidx, hbytes⟩ := hj
        obtain ⟨hlt, -⟩ := List.getElem?_eq_some_iff.mp hbytes
        rw [List.getElem?_range' hlt] at hidx
        have hidx' : 1 + 1 * j = i + 1 := Option.some.inj hidx
        obtain rfl : j = i := by omega
        exact hbytes
      · obtain ⟨b, -, heq⟩ := List.mem_map.mp hcurrent
        cases heq
    · intro hbytes
      obtain ⟨hlt, -⟩ := List.getElem?_eq_some_iff.mp hbytes
      refine .inl ⟨i, List.getElem?_zip_eq_some.mpr ⟨?_, hbytes⟩⟩
      rw [List.getElem?_range' hlt]
      simp [Nat.add_comm]
  exact Option.ext hmem

/-- A segment replays its events; one that is not there has none. -/
lemma Tidy.get? (h : Tidy T files blocks last) (i : ℕ) :
    (files.get? i = none ∧ blockAt blocks last i = []) ∨
      ∃ bytes, files.get? i = some bytes ∧ Replays T bytes (blockAt blocks last i) := by
  obtain ⟨rolled, current, hlaid, hrolled, hlast, hnone⟩ := h
  cases i with
  | zero =>
    rw [hlaid.get?_zero]
    cases current with
    | none => exact .inl ⟨rfl, hnone rfl⟩
    | some bytes => exact .inr ⟨bytes, rfl, hlast.replays⟩
  | succ i =>
    have hblock : blockAt blocks last (i + 1) = (blocks[i]?).getD [] := rfl
    rw [hlaid.get?_succ, hblock]
    cases hbytes : rolled[i]? with
    | none =>
      have hlength := hrolled.length_eq
      have hle := List.getElem?_eq_none_iff.mp hbytes
      refine .inl ⟨rfl, ?_⟩
      rw [List.getElem?_eq_none_iff.mpr (by omega)]
      rfl
    | some bytes =>
      obtain ⟨hlt, hget⟩ := List.getElem?_eq_some_iff.mp hbytes
      have hlt' : i < blocks.length := hrolled.length_eq ▸ hlt
      have hholds : Holds T bytes blocks[i] [] :=
        hget ▸ (List.forall₂_iff_get.mp hrolled).2 i hlt hlt'
      refine .inr ⟨bytes, rfl, ?_⟩
      rw [List.getElem?_eq_getElem hlt']
      exact hholds.replays

/-- Every event is in a segment that is listed. -/
lemma Tidy.listed (h : Tidy T files blocks last) {e : ObsEvent α}
    (he : e ∈ blocks.flatten ++ last) :
    ∃ i ∈ segmentNumbers files, e ∈ blockAt blocks last i := by
  obtain ⟨rolled, current, hlaid, hrolled, hlast, hnone⟩ := h
  have hnumbers : segmentNumbers files =
      List.range' 1 rolled.length ++ current.toList.map fun _ => 0 := by
    unfold segmentNumbers
    rw [hlaid.pairwise.insertionSort_eq, hlaid, List.map_append, map_fst_rolled, List.map_map]
    rfl
  rw [hnumbers]
  rcases List.mem_append.mp he with hblock | hcurrent
  · obtain ⟨block, hmem, heblock⟩ := List.mem_flatten.mp hblock
    obtain ⟨i, hi⟩ := List.mem_iff_getElem?.mp hmem
    obtain ⟨hlt, -⟩ := List.getElem?_eq_some_iff.mp hi
    refine ⟨i + 1, List.mem_append_left _ ?_, ?_⟩
    · rw [List.mem_range'_1, hrolled.length_eq]
      omega
    · show e ∈ (blocks[i]?).getD []
      rw [hi]
      exact heblock
  · cases current with
    | none =>
      rw [hnone rfl] at hcurrent
      cases hcurrent
    | some bytes => exact ⟨0, List.mem_append_right _ (List.mem_singleton_self 0), hcurrent⟩

lemma Tidy.rotate {current : ByteArray} (h : Tidy T files blocks last)
    (hcurrent : files.get? 0 = some current) : Tidy T (rotate files) (blocks ++ [last]) [] := by
  obtain ⟨rolled, current', hlaid, hrolled, hlast, -⟩ := h
  rw [hlaid.get?_zero] at hcurrent
  subst hcurrent
  have hblocks := List.rel_append hrolled (.cons hlast .nil)
  exact ⟨_, _, hlaid.rotate, hblocks, holds_empty T, fun _ => rfl⟩

/-- Making room leaves the segments alone, or makes the current one the last of the rolled. -/
lemma Tidy.makeRoom (h : Tidy T files blocks last) (maxBytes : ℤ) (line : ByteArray) :
    ¬ RollsOver maxBytes files line ∧ Tidy T (makeRoom maxBytes files line) blocks last ∨
      RollsOver maxBytes files line ∧
        Tidy T (makeRoom maxBytes files line) (blocks ++ [last]) [] := by
  unfold WebBridge.makeRoom RollsOver
  rw [existing_eq]
  dsimp only
  split_ifs with hfull
  · refine .inr ⟨hfull, ?_⟩
    cases hcurrent : files.get? 0 with
    | none =>
      have hempty : currentFile files = ByteArray.empty := by
        unfold currentFile Dict.getD
        rw [hcurrent]
        rfl
      rw [hempty] at hfull
      exact absurd hfull.1 (Nat.lt_irrefl 0)
    | some bytes => exact h.rotate hcurrent
  · exact .inl ⟨hfull, h⟩

/-- A line is added to the current segment. -/
lemma Tidy.write_line (h : Tidy T files blocks last) {e : ObsEvent α} (he : e.WellNamed) :
    Tidy T (writeBytes files (encode (lineOf T e))) blocks (last ++ [e]) := by
  obtain ⟨rolled, current, hlaid, hrolled, hlast, -⟩ := h
  refine ⟨rolled, _, hlaid.set _, hrolled, ?_, fun hnone => absurd hnone (Option.some_ne_none _)⟩
  have hcurrent : files.getD 0 ByteArray.empty = current.getD ByteArray.empty := hlaid.currentFile
  rw [Option.getD_some, hcurrent]
  exact hlast.write_line hlast.tailOf he

end Segments

/-! ## What every step keeps -/

section Invariant

variable {α : Type} {S : IngestSettings α} {sinceSeq queueMax : ℤ} {s s' : Seam α}
  {blocks : List (List (ObsEvent α))} {last : List (ObsEvent α)}

lemma mem_held {v : PyVal α} : v ∈ s.held ↔ v ∈ s.sent ∨ v ∈ s.handler.sending ∨
    v ∈ queuedVals s.channel.queue ∨ v ∈ s.unpublished.map ObsEvent.toVal := by
  unfold Seam.held
  simp only [List.mem_append, or_assoc]

lemma queuedVals_append (queue : List (Item (ObsEvent α))) (e : ObsEvent α) :
    queuedVals (queue ++ [.event e]) = queuedVals queue ++ [e.toVal] :=
  List.filterMap_append

/-- Every event the client asked for was sent, is on its way, or is in a segment still to be
read. -/
def Covered (sinceSeq : ℤ) (s : Seam α) (blocks : List (List (ObsEvent α)))
    (last : List (ObsEvent α)) : Prop :=
  ∀ e ∈ blocks.flatten ++ last, sinceSeq < e.seq →
    e.toVal ∈ s.held ∨ ∃ i ∈ s.handler.unread, e ∈ blockAt blocks last i

/-- What stays on its way and on the list stays covered. -/
lemma Covered.mono (h : Covered sinceSeq s blocks last) (hheld : ∀ v ∈ s.held, v ∈ s'.held)
    (hunread : ∀ i ∈ s.handler.unread, i ∈ s'.handler.unread) :
    Covered sinceSeq s' blocks last := by
  intro e he hseq
  rcases h e he hseq with hway | ⟨i, hi, hblock⟩
  · exact .inl (hheld _ hway)
  · exact .inr ⟨i, hunread i hi, hblock⟩

/-- The log is tidy, the handler goes on, and once it has listed the segments nothing it is asked
for is missing. -/
structure Seam.Inv (S : IngestSettings α) (sinceSeq : ℤ) (s : Seam α)
    (blocks : List (List (ObsEvent α))) (last : List (ObsEvent α)) : Prop where
  tidy : Tidy S.text s.ingestor.files blocks last
  named : ∀ e ∈ s.writing, e.WellNamed
  going : s.handler ≠ .ended
  noClose : .close ∉ s.channel.queue
  covered : s.handler.hasListed = true → Covered sinceSeq s blocks last

lemma wants_backfill (e : ObsEvent α) : (backfill sinceSeq).wants e = true ↔ sinceSeq < e.seq := by
  have hwants : (backfill sinceSeq).wants e = decide (sinceSeq < e.seq) := by
    unfold Replay.wants backfill
    rw [Option.all_none, Option.all_none, Bool.and_true, Bool.and_true]
  rw [hwants, decide_eq_true_iff]

/-- The events that a replay of a segment gives. -/
lemma replay_eq {bytes : ByteArray} {es : List (ObsEvent α)} (h : Replays S.text bytes es) :
    Seam.replay S sinceSeq bytes =
      .ok ((es.filter (backfill sinceSeq).wants).map ObsEvent.toVal) :=
  h (backfill sinceSeq)

lemma mem_replay {es : List (ObsEvent α)} {e : ObsEvent α} (he : e ∈ es) (hseq : sinceSeq < e.seq) :
    e.toVal ∈ (es.filter (backfill sinceSeq).wants).map ObsEvent.toVal :=
  List.mem_map_of_mem (List.mem_filter.mpr ⟨he, (wants_backfill e).mpr hseq⟩)

/-- Making room for a line keeps the events covered, when it is safe to roll over. -/
lemma Seam.Inv.rollOver (h : s.Inv S sinceSeq blocks last) (line : ByteArray)
    (hsafe : RollsOver S.maxBytes s.ingestor.files line → 0 ∈ s.handler.unread →
      ∀ events, Seam.replay S sinceSeq (currentFile s.ingestor.files) = .ok events →
        ∀ event ∈ events, event ∈ s.held) :
    ∃ blocks' last', blocks'.flatten ++ last' = blocks.flatten ++ last ∧
      Tidy S.text (makeRoom S.maxBytes s.ingestor.files line) blocks' last' ∧
      (s.handler.hasListed = true → Covered sinceSeq s blocks' last') := by
  rcases h.tidy.makeRoom S.maxBytes line with ⟨-, hsame⟩ | ⟨hrolls, hrolled⟩
  · exact ⟨blocks, last, rfl, hsame, h.covered⟩
  · refine ⟨blocks ++ [last], [], by simp, hrolled, fun hlisted e he hseq => ?_⟩
    have he' : e ∈ blocks.flatten ++ last := by simpa using he
    rcases h.covered hlisted e he' hseq with hway | ⟨i, hi, hblock⟩
    · exact .inl hway
    · cases i with
      | zero =>
        have hreplay : Seam.replay S sinceSeq (currentFile s.ingestor.files) =
            .ok ((last.filter (backfill sinceSeq).wants).map ObsEvent.toVal) := by
          obtain ⟨rolled, current, hlaid, -, hlast, -⟩ := h.tidy
          rw [hlaid.currentFile]
          exact replay_eq hlast.replays
        exact .inl (hsafe hrolls hi _ hreplay _ (mem_replay hblock hseq))
      | succ i =>
        have hlt : i < blocks.length := by
          by_contra hge
          have hnone : blocks[i]? = none := List.getElem?_eq_none_iff.mpr (by omega)
          have hnil : blockAt blocks last (i + 1) = (blocks[i]?).getD [] := rfl
          rw [hnil, hnone] at hblock
          cases hblock
        refine .inr ⟨i + 1, hi, ?_⟩
        show e ∈ ((blocks ++ [last])[i]?).getD []
        rw [List.getElem?_append_left hlt]
        exact hblock

variable [Zero α] [DecidableEq α]

variable (queueMax) in
/-- The ingest thread, up to the write. -/
lemma Seam.Inv.ingest (h : s.Inv S sinceSeq blocks last) {topic raw : String}
    {receiveTs : PyFloat α} (hsafe : RollsSafely S sinceSeq s (.ingest topic raw receiveTs)) :
    (seamStep S sinceSeq queueMax s (.ingest topic raw receiveTs)).2 = none ∧
      ∃ blocks' last', blocks'.flatten ++ last' = blocks.flatten ++ last ∧
        (seamStep S sinceSeq queueMax s (.ingest topic raw receiveTs)).1.Inv S sinceSeq blocks'
          last' := by
  unfold seamStep
  dsimp only
  cases hwriting : s.writing with
  | some e => exact ⟨rfl, blocks, last, rfl, h⟩
  | none =>
    cases hevent : S.event topic raw (s.ingestor.seq + 1) receiveTs with
    | error err => exact ⟨rfl, blocks, last, rfl, h⟩
    | ok e =>
      obtain ⟨blocks', last', hflat, htidy, hcovered⟩ :=
        h.rollOver (encode (lineOf S.text e)) (hsafe e hwriting hevent)
      refine ⟨rfl, blocks', last', hflat, htidy, ?_, h.going, h.noClose, hcovered⟩
      intro e' he'
      obtain rfl : e = e' := Option.some.inj he'
      exact (IngestSettings.event_spec hevent).2

omit [Zero α] [DecidableEq α] in
/-- A line is written: its event is in the log and still to be published. -/
lemma Seam.Inv.append (h : s.Inv S sinceSeq blocks last) {e : ObsEvent α}
    (he : s.writing = some e) (w : Ingestor)
    (hfiles : w.files = writeBytes s.ingestor.files (encode (lineOf S.text e))) :
    Seam.Inv S sinceSeq
      { s with ingestor := w, writing := none, unpublished := s.unpublished ++ [e] } blocks
      (last ++ [e]) := by
  have hheld : ∀ v, (v ∈ s.held ∨ v = e.toVal) → v ∈ Seam.held
      { s with ingestor := w, writing := none, unpublished := s.unpublished ++ [e] } := by
    intro v hv
    rw [mem_held] at hv ⊢
    simp only [List.map_append, List.mem_append, List.map_singleton, List.mem_singleton]
    tauto
  refine ⟨?_, by simp, h.going, h.noClose, fun hlisted e' he' hseq => ?_⟩
  · show Tidy S.text w.files blocks (last ++ [e])
    rw [hfiles]
    exact h.tidy.write_line (h.named e he)
  · rw [← List.append_assoc, List.mem_append, List.mem_singleton] at he'
    rcases he' with hold | rfl
    · rcases h.covered hlisted e' hold hseq with hway | ⟨i, hi, hblock⟩
      · exact .inl (hheld _ (.inl hway))
      · refine .inr ⟨i, hi, ?_⟩
        cases i with
        | zero => exact List.mem_append_left _ hblock
        | succ i => exact hblock
    · exact .inl (hheld _ (.inr rfl))

omit [Zero α] [DecidableEq α] in
/-- An event is published: to the client when it has subscribed. -/
lemma Seam.Inv.publish (h : s.Inv S sinceSeq blocks last) {k : ℕ} {e : ObsEvent α}
    (hk : s.unpublished[k]? = some e)
    (hroom : s.handler.isSubscribed = true → ¬ s.channel.full) :
    Seam.Inv S sinceSeq
      { s with
        unpublished := s.unpublished.eraseIdx k
        channel := if s.handler.isSubscribed then s.channel.put isState e else s.channel }
      blocks last := by
  have hput : s.handler.isSubscribed = true →
      (s.channel.put isState e).queue = s.channel.queue ++ [.event e] := by
    intro hsubscribed
    unfold ClientChannel.put
    split_ifs
    · exact queue_putDropOldest_of_not_full (hroom hsubscribed) e
    · exact (putNeverDrop_of_not_full (hroom hsubscribed) e).1
  refine ⟨h.tidy, h.named, h.going, ?_, fun hlisted => ?_⟩
  · dsimp only
    split_ifs with hsubscribed
    · rw [hput hsubscribed, List.mem_append, List.mem_singleton, not_or]
      exact ⟨h.noClose, by simp⟩
    · exact h.noClose
  · have hsubscribed : s.handler.isSubscribed = true := by
      revert hlisted
      cases s.handler <;> simp [Handler.hasListed, Handler.isSubscribed]
    refine (h.covered hlisted).mono (fun v hv => ?_) (fun i hi => hi)
    rw [mem_held] at hv ⊢
    dsimp only
    rw [if_pos hsubscribed, hput hsubscribed, queuedVals_append, List.mem_append,
      List.mem_singleton]
    rcases hv with hsent | hsending | hqueued | hwaiting
    · exact .inl hsent
    · exact .inr (.inl hsending)
    · exact .inr (.inr (.inl (.inl hqueued)))
    · obtain ⟨e', he', rfl⟩ := List.mem_map.mp hwaiting
      obtain ⟨hlt, hget⟩ := List.getElem?_eq_some_iff.mp hk
      have hperm := List.getElem_cons_eraseIdx_perm hlt
      rcases List.mem_cons.mp (hperm.mem_iff.mpr he') with rfl | hrest
      · rw [hget]
        exact .inr (.inr (.inl (.inr rfl)))
      · exact .inr (.inr (.inr (List.mem_map_of_mem hrest)))

omit [Zero α] [DecidableEq α] in
/-- The handler moves on without losing anything. -/
lemma Seam.Inv.handle (h : s.Inv S sinceSeq blocks last) (hingestor : s'.ingestor = s.ingestor)
    (hwriting : s'.writing = s.writing) (hgoing : s'.handler ≠ .ended)
    (hclose : ∀ item ∈ s'.channel.queue, item ∈ s.channel.queue)
    (hcovered : s'.handler.hasListed = true → Covered sinceSeq s' blocks last) :
    s'.Inv S sinceSeq blocks last where
  tidy := hingestor ▸ h.tidy
  named := hwriting ▸ h.named
  going := hgoing
  noClose hmem := h.noClose (hclose _ hmem)
  covered := hcovered

omit [Zero α] [DecidableEq α] in
/-- The segments are listed, and every event is in one of them. -/
lemma Seam.Inv.list (h : s.Inv S sinceSeq blocks last) :
    Seam.Inv S sinceSeq
      { s with handler := .backfilling [] (segmentNumbers s.ingestor.files) } blocks last := by
  refine h.handle rfl rfl (by simp) (fun item hitem => hitem) ?_
  intro _ e he _
  exact .inr (h.tidy.listed he)

omit [Zero α] [DecidableEq α] in
/-- A segment is opened: it gives the events it holds by now. -/
lemma Seam.Inv.read (h : s.Inv S sinceSeq blocks last) {i : ℕ} {segments : List ℕ}
    (hhandler : s.handler = .backfilling [] (i :: segments)) {events : List (PyVal α)}
    (hevents : ∀ e ∈ blockAt blocks last i, sinceSeq < e.seq → e.toVal ∈ events) :
    Seam.Inv S sinceSeq { s with handler := .backfilling events segments } blocks last := by
  refine h.handle rfl rfl (by simp) (fun item hitem => hitem) ?_
  intro _ e he hseq
  have hcovered := h.covered (by rw [hhandler]; rfl) e he hseq
  rw [mem_held] at hcovered ⊢
  rw [hhandler] at hcovered
  rcases hcovered with (hsent | hsending | hrest) | ⟨j, hj, hblock⟩
  · exact .inl (.inl hsent)
  · cases hsending
  · exact .inl (.inr (.inr hrest))
  · rcases List.mem_cons.mp hj with rfl | hlater
    · exact .inl (.inr (.inl (hevents e hblock hseq)))
    · exact .inr ⟨j, hlater, hblock⟩

variable (queueMax) in
/-- The handler reads on. -/
lemma Seam.Inv.read_step (h : s.Inv S sinceSeq blocks last) :
    (seamStep S sinceSeq queueMax s .read).2 = none ∧
      (seamStep S sinceSeq queueMax s .read).1.Inv S sinceSeq blocks last := by
  have hstay : s.Inv S sinceSeq blocks last := h
  unfold seamStep
  dsimp only
  split
  · rename_i hhandler
    refine ⟨rfl, h.handle rfl rfl (by simp) (fun item hitem => hitem) fun _ => ?_⟩
    have hcovered := h.covered (by rw [hhandler]; rfl)
    refine hcovered.mono (fun v hv => ?_) (fun i hi => ?_)
    · rw [mem_held] at hv ⊢
      rw [hhandler] at hv
      exact hv
    · rw [hhandler] at hi
      exact hi
  · rename_i i segments hhandler
    rcases h.tidy.get? i with ⟨hgone, hblock⟩ | ⟨bytes, hfound, hreplays⟩
    · rw [hgone]
      refine ⟨rfl, h.read hhandler fun e he _ => ?_⟩
      rw [hblock] at he
      cases he
    · rw [hfound]
      dsimp only
      rw [replay_eq hreplays]
      exact ⟨rfl, h.read hhandler fun e he hseq => mem_replay he hseq⟩
  · exact ⟨rfl, hstay⟩

omit [Zero α] [DecidableEq α] in
/-- What is sent was on its way. -/
lemma Seam.Inv.send (h : s.Inv S sinceSeq blocks last) {event : PyVal α}
    {sending : List (PyVal α)} {segments : List ℕ}
    (hhandler : s.handler = .backfilling (event :: sending) segments) :
    Seam.Inv S sinceSeq
      { s with handler := .backfilling sending segments, sent := s.sent ++ [event] }
      blocks last := by
  refine h.handle rfl rfl (by simp) (fun item hitem => hitem) fun _ => ?_
  have hcovered := h.covered (by rw [hhandler]; rfl)
  refine hcovered.mono (fun v hv => ?_) (fun i hi => ?_)
  · rw [mem_held] at hv ⊢
    rw [hhandler] at hv
    rw [List.mem_append, List.mem_singleton]
    rcases hv with hsent | hsending | hrest
    · exact .inl (.inl hsent)
    · rcases List.mem_cons.mp hsending with rfl | hlater
      · exact .inl (.inr rfl)
      · exact .inr (.inl hlater)
    · exact .inr (.inr hrest)
  · rw [hhandler] at hi
    exact hi

omit [Zero α] [DecidableEq α] in
/-- What is taken from the queue is sent. -/
lemma Seam.Inv.get (h : s.Inv S sinceSeq blocks last) (hhandler : s.handler = .draining)
    {e : ObsEvent α} {rest : List (Item (ObsEvent α))} (hqueue : s.channel.queue = .event e :: rest)
    {channel : ClientChannel (ObsEvent α)} (hchannel : channel.queue = rest) :
    Seam.Inv S sinceSeq { s with channel := channel, sent := s.sent ++ [e.toVal] } blocks last := by
  refine h.handle rfl rfl (by simp [hhandler]) (fun item hitem => ?_) fun _ => ?_
  · rw [hqueue]
    exact List.mem_cons_of_mem _ (hchannel ▸ hitem)
  · have hcovered := h.covered (by rw [hhandler]; rfl)
    refine hcovered.mono (fun v hv => ?_) (fun i hi => hi)
    rw [mem_held] at hv ⊢
    rw [hqueue] at hv
    rw [List.mem_append, List.mem_singleton, hchannel]
    rcases hv with hsent | hsending | hqueued | hwaiting
    · exact .inl (.inl hsent)
    · exact .inr (.inl hsending)
    · have hcons : queuedVals (.event e :: rest) = e.toVal :: queuedVals rest := rfl
      rw [hcons, List.mem_cons] at hqueued
      rcases hqueued with rfl | hlater
      · exact .inl (.inr rfl)
      · exact .inr (.inr (.inl hlater))
    · exact .inr (.inr (.inr hwaiting))

variable (queueMax) in
/-- The handler takes the next item. -/
lemma Seam.Inv.get_step (h : s.Inv S sinceSeq blocks last) :
    (seamStep S sinceSeq queueMax s .get).2 = none ∧
      (seamStep S sinceSeq queueMax s .get).1.Inv S sinceSeq blocks last := by
  unfold seamStep
  dsimp only
  split
  · rename_i channel e hhandler hget
    cases hqueue : s.channel.queue with
    | nil =>
      rw [get_of_nil hqueue] at hget
      cases hget
    | cons item rest =>
      obtain ⟨hitem, hrest, -⟩ := get_of_cons hqueue
      rw [hget] at hitem hrest
      obtain rfl : .event e = item := Option.some.inj hitem
      exact ⟨rfl, h.get hhandler hqueue hrest⟩
  · rename_i channel hhandler hget
    cases hqueue : s.channel.queue with
    | nil =>
      rw [get_of_nil hqueue] at hget
      cases hget
    | cons item rest =>
      obtain ⟨hitem, -, -⟩ := get_of_cons hqueue
      rw [hget] at hitem
      obtain rfl : .close = item := Option.some.inj hitem
      refine absurd ?_ h.noClose
      rw [hqueue]
      exact List.mem_cons_self
  · exact ⟨rfl, h⟩

variable (queueMax) in
/-- **One step.**  An event whose append the step completes is added to the log, and nothing is
lost. -/
lemma Seam.Inv.step (h : s.Inv S sinceSeq blocks last) (input : SeamInput α)
    (hroom : NeverOverflows s input) (hsafe : RollsSafely S sinceSeq s input) :
    ∃ blocks' last',
      blocks'.flatten ++ last' =
        blocks.flatten ++ last ++ (seamStep S sinceSeq queueMax s input).2.toList ∧
      (seamStep S sinceSeq queueMax s input).1.Inv S sinceSeq blocks' last' := by
  have hquiet : ∀ r : Seam α × Option (ObsEvent α), r.2 = none ∧ r.1.Inv S sinceSeq blocks last →
      ∃ blocks' last', blocks'.flatten ++ last' = blocks.flatten ++ last ++ r.2.toList ∧
        r.1.Inv S sinceSeq blocks' last' := by
    rintro r ⟨hnone, hinv⟩
    rw [hnone]
    exact ⟨blocks, last, (List.append_nil _).symm, hinv⟩
  cases input with
  | ingest topic raw receiveTs =>
    obtain ⟨hnone, blocks', last', hflat, hinv⟩ := h.ingest queueMax hsafe
    rw [hnone]
    exact ⟨blocks', last', by rw [hflat]; exact (List.append_nil _).symm, hinv⟩
  | append writable =>
    unfold seamStep
    dsimp only
    cases hwriting : s.writing with
    | none => exact hquiet _ ⟨rfl, h⟩
    | some e =>
      dsimp only
      split_ifs with hwritable
      · exact ⟨blocks, last ++ [e], (List.append_assoc _ _ _).symm, h.append hwriting _ rfl⟩
      · exact hquiet _ ⟨rfl, h.tidy, by simp, h.going, h.noClose, h.covered⟩
  | publish k =>
    refine hquiet _ ?_
    unfold seamStep
    dsimp only
    cases hk : s.unpublished[k]? with
    | none => exact ⟨rfl, h⟩
    | some e => exact ⟨rfl, h.publish hk hroom⟩
  | subscribe =>
    refine hquiet _ ?_
    unfold seamStep
    dsimp only
    cases hhandler : s.handler with
    | connecting =>
      refine ⟨rfl, h.handle rfl rfl (by simp) ?_ fun hlisted => ?_⟩
      · intro item hitem
        cases hitem
      · cases hlisted
    | _ => exact ⟨rfl, h⟩
  | list =>
    refine hquiet _ ?_
    unfold seamStep
    dsimp only
    cases hhandler : s.handler with
    | subscribed => exact ⟨rfl, h.list⟩
    | _ => exact ⟨rfl, h⟩
  | read => exact hquiet _ (h.read_step queueMax)
  | send =>
    refine hquiet _ ?_
    unfold seamStep
    dsimp only
    split
    · rename_i hhandler
      exact ⟨rfl, h.send hhandler⟩
    · exact ⟨rfl, h⟩
  | get => exact hquiet _ (h.get_step queueMax)

omit [Zero α] [DecidableEq α] in
/-- What is covered is delivered. -/
lemma Covered.delivers (h : Covered sinceSeq s blocks last)
    (htidy : Tidy S.text s.ingestor.files blocks last) {e : ObsEvent α}
    (he : e ∈ blocks.flatten ++ last) (hseq : sinceSeq < e.seq) :
    s.Delivers S sinceSeq e.toVal := by
  rcases h e he hseq with hway | ⟨i, hi, hblock⟩
  · exact .inl hway
  · rcases htidy.get? i with ⟨-, hnil⟩ | ⟨bytes, hfound, hreplays⟩
    · rw [hnil] at hblock
      cases hblock
    · exact .inr ⟨i, hi, bytes, hfound, _, replay_eq hreplays, mem_replay hblock hseq⟩

omit [Zero α] [DecidableEq α] in
/-- Once the handler has settled, what it delivers it has sent. -/
lemma Seam.Settled.sent (h : s.Settled) {event : PyVal α}
    (hdelivers : s.Delivers S sinceSeq event) : event ∈ s.sent := by
  unfold Seam.Delivers at hdelivers
  rw [mem_held, h.draining, h.queue, h.unpublished] at hdelivers
  rcases hdelivers with (hsent | hsending | hqueued | hwaiting) | ⟨i, hi, -⟩
  · exact hsent
  · cases hsending
  · cases hqueued
  · cases hwaiting
  · cases hi

end Invariant

/-! ## The seam -/

section Result

variable {α : Type} [Zero α] [DecidableEq α]

omit [Zero α] [DecidableEq α] in
/-- A log that holds these events in whole lines, and no client yet. -/
lemma seam_start_inv (S : IngestSettings α) (sinceSeq queueMax : ℤ) {w : Ingestor}
    {blocks : List (List (ObsEvent α))} {last : List (ObsEvent α)}
    (htidy : Tidy S.text w.files blocks last) :
    (Seam.start queueMax w).Inv S sinceSeq blocks last where
  tidy := htidy
  named := by simp [Seam.start]
  going := by simp [Seam.start]
  noClose hmem := by cases hmem
  covered hlisted := by cases hlisted

/-- **The backfill meets the live events.**  In every run in which no publication meets a full queue
and the current file is never rolled over, while it is still to be read, with an event that is not
on its way, the handler goes on; from the listing on every event the client asked for whose append
is complete was sent, is on its way or is still to be read; and once the handler has settled it was
sent. -/
theorem backfill_meets_live (S : IngestSettings α) (sinceSeq queueMax : ℤ) (w : Ingestor)
    (blocks : List (List (ObsEvent α))) (last : List (ObsEvent α))
    (htidy : Tidy S.text w.files blocks last) (inputs : List (SeamInput α))
    (hroom : (seam S sinceSeq queueMax).AllSteps NeverOverflows (Seam.start queueMax w) inputs)
    (hsafe : (seam S sinceSeq queueMax).AllSteps (RollsSafely S sinceSeq)
      (Seam.start queueMax w) inputs) :
    let s := (seam S sinceSeq queueMax).run (Seam.start queueMax w) inputs
    s.handler ≠ .ended ∧
      ∀ e ∈ blocks.flatten ++ last ++
          (seam S sinceSeq queueMax).emitted (Seam.start queueMax w) inputs,
        sinceSeq < e.seq →
        (s.handler.hasListed = true → s.Delivers S sinceSeq e.toVal) ∧
          (s.Settled → e.toVal ∈ s.sent) := by
  intro s
  have hboth := Machine.AllSteps.and _ hroom hsafe
  obtain ⟨blocks', last', hflat, hinv⟩ :
      ∃ blocks' last',
        blocks'.flatten ++ last' = blocks.flatten ++ last ++
          (seam S sinceSeq queueMax).emitted (Seam.start queueMax w) inputs ∧
        s.Inv S sinceSeq blocks' last' := by
    refine Machine.emitted_history
      (I := fun shown t => ∃ blocks' last',
        blocks'.flatten ++ last' = blocks.flatten ++ last ++ shown ∧
          t.Inv S sinceSeq blocks' last') ?_ ?_ hboth
    · exact ⟨blocks, last, (List.append_nil _).symm, seam_start_inv S sinceSeq queueMax htidy⟩
    · rintro shown t input ⟨hover, hrolls⟩ ⟨bs, l, hbs, hI⟩
      obtain ⟨bs', l', hbs', hI'⟩ := hI.step queueMax input hover hrolls
      refine ⟨bs', l', ?_, hI'⟩
      rw [hbs', hbs, List.append_assoc]
      rfl
  refine ⟨hinv.going, fun e he hseq => ?_⟩
  rw [← hflat] at he
  have hdelivers : s.handler.hasListed = true → s.Delivers S sinceSeq e.toVal :=
    fun hlisted => (hinv.covered hlisted).delivers hinv.tidy he hseq
  refine ⟨hdelivers, fun hsettled => hsettled.sent (hdelivers ?_)⟩
  rw [hsettled.draining]
  rfl

end Result

/-! ## Two runs -/

/-- An empty log. -/
def seamStart : Seam ℕ := Seam.start 500 ⟨Dict.empty, 0⟩

/-- Every second line rolls the file over, here before the segments are listed. -/
def rolledBeforeListing : List (SeamInput ℕ) :=
  [.ingest "/llm/reasoning" "a" (.fin 1), .append true, .publish 0, .subscribe,
    .ingest "/llm/reasoning" "b" (.fin 2), .append true, .list, .publish 0]

theorem backfill_meets_live_rolled :
    ((seam (plainSettings 0) 0 500).emitted seamStart rolledBeforeListing).map ObsEvent.seq =
        [1, 2] ∧
      ∀ e ∈ (seam (plainSettings 0) 0 500).emitted seamStart rolledBeforeListing, 0 < e.seq →
        ((seam (plainSettings 0) 0 500).run seamStart rolledBeforeListing).Delivers
          (plainSettings 0) 0 e.toVal := by
  obtain ⟨hroom, hbetween, hlisted, hseqs⟩ :
      (seam (plainSettings 0) 0 500).AllSteps NeverOverflows seamStart rolledBeforeListing ∧
        (seam (plainSettings 0) 0 500).AllSteps ArrivesBetween seamStart rolledBeforeListing ∧
        ((seam (plainSettings 0) 0 500).run seamStart rolledBeforeListing).handler.hasListed =
          true ∧
        ((seam (plainSettings 0) 0 500).emitted seamStart rolledBeforeListing).map ObsEvent.seq =
          [1, 2] := by
    decide +kernel
  have hsafe := hbetween.imp _ (ArrivesBetween.rollsSafely (plainSettings 0) 0)
  have hmeets := (backfill_meets_live (plainSettings 0) 0 500 ⟨Dict.empty, 0⟩ [] []
    (tidy_empty (plainSettings 0).text) rolledBeforeListing hroom hsafe).2
  exact ⟨hseqs, fun e he hseq => (hmeets e he (Int.ofNat_lt.mpr hseq)).1 hlisted⟩

/-- Every second line rolls the file over, here between the listing and the first read. -/
def rolledBeforeReading : List (SeamInput ℕ) :=
  [.ingest "/llm/reasoning" "a" (.fin 1), .append true, .publish 0, .subscribe, .list,
    .ingest "/llm/reasoning" "b" (.fin 2), .read, .read, .append true, .publish 0, .get]

/-- The first event was published before the client subscribed, and its file is not on the list. -/
theorem rolled_before_reading_is_lost :
    (seam (plainSettings 0) 0 500).AllSteps NeverOverflows seamStart rolledBeforeReading ∧
      ((seam (plainSettings 0) 0 500).run seamStart rolledBeforeReading).Settled ∧
      ∃ e ∈ (seam (plainSettings 0) 0 500).emitted seamStart rolledBeforeReading,
        0 < e.seq ∧
          e.toVal ∉ ((seam (plainSettings 0) 0 500).run seamStart rolledBeforeReading).sent := by
  obtain ⟨hroom, hsettled, hseqs, hsent⟩ :
      (seam (plainSettings 0) 0 500).AllSteps NeverOverflows seamStart rolledBeforeReading ∧
        ((seam (plainSettings 0) 0 500).run seamStart rolledBeforeReading).Settled ∧
        ((seam (plainSettings 0) 0 500).emitted seamStart rolledBeforeReading).map ObsEvent.seq =
          [1, 2] ∧
        ((seam (plainSettings 0) 0 500).run seamStart rolledBeforeReading).sent.all
          (backfill 1).keeps = true := by
    decide +kernel
  obtain ⟨e, he, hseq⟩ : ∃ e ∈ (seam (plainSettings 0) 0 500).emitted seamStart
      rolledBeforeReading, e.seq = 1 := by
    refine List.mem_map.mp ?_
    rw [hseqs]
    exact List.mem_cons_self
  have hpos : 0 < e.seq := by
    rw [hseq]
    exact Nat.one_pos
  refine ⟨hroom, hsettled, e, he, hpos, fun hmem => ?_⟩
  have hkeeps : (backfill 1).keeps e.toVal = true := List.all_eq_true.mp hsent _ hmem
  rw [keeps_toVal, wants_backfill, hseq] at hkeeps
  exact absurd hkeeps (by decide)

end WebBridge

end MiniatureWarehouse
