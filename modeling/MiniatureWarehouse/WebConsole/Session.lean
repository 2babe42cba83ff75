import MiniatureWarehouse.Framework.Numbered
import MiniatureWarehouse.WebConsole.Store

/-!
# The web console and the runs of the gateway

A console keeps one websocket.  When it is lost it connects again and asks for what is above the
last number it has applied.  The gateway numbers the events of each run from one on, and a restart
begins a new run.

The server is taken to send what is above `since_seq`, in order and once each.  The handler of the
gateway holds back events of its backfill only, and sends every live event; the model has both.
-/

namespace MiniatureWarehouse

namespace WebConsole

open WebBridge (ObsEvent)

/-- Where the hook is with its one socket. -/
inductive Socket (α : Type)
  /-- There is none, and a timer is set. -/
  | waiting
  /-- `GET /config` is under way. -/
  | configuring (sinceSeq : ℕ)
  /-- The gateway has not accepted it yet. -/
  | dialing (sinceSeq : ℕ)
  /-- The frames are on their way; the gateway of a dead connection has been restarted. -/
  | connected (sinceSeq : ℕ) (live : Bool) (frames : List (ObsEvent α))

/-- The gateway's run with the events it has recorded, the runs before it, and the console. -/
structure Session (α : Type) where
  run : String
  earlier : List String
  events : List (ObsEvent α)
  store : StoreState α
  socket : Socket α

/-- What can happen next. -/
inductive SessionInput (α : Type)
  /-- The timer of the hook fires. -/
  | connect
  /-- `GET /config` is answered, or fails. -/
  | config (answer : Option RuntimeConfig)
  /-- The socket cannot be built. -/
  | refuse
  /-- The gateway accepts the connection and sends its backfill. -/
  | accept
  /-- The next frame arrives. -/
  | deliver
  /-- The socket is closed, by whomever; the frames on their way are lost. -/
  | close
  /-- The gateway records an event and sends it. -/
  | record (e : ObsEvent α)
  /-- The gateway comes back under another run id. -/
  | restart (run : String)

section Steps

variable {α : Type}

/-- A console that has just been opened, and a gateway that has recorded nothing. -/
def Session.start (run : String) : Session α := ⟨run, [], [], .initial, .waiting⟩

/-- The event as the gateway numbers and names it. -/
def Session.stamp (s : Session α) (e : ObsEvent α) : ObsEvent α :=
  { e with seq := s.events.length + 1, runId := some s.run }

/-- Is the live event sent on a connection that asked for what is above `sinceSeq`? -/
def sends (filtersLive : Bool) (sinceSeq : ℕ) (e : ObsEvent α) : Prop :=
  filtersLive = true → sinceSeq < e.seq

instance (filtersLive : Bool) (sinceSeq : ℕ) (e : ObsEvent α) :
    Decidable (sends filtersLive sinceSeq e) :=
  inferInstanceAs (Decidable (_ → _))

/-- What a recorded event adds to a connection. -/
def Socket.push (filtersLive : Bool) (e : ObsEvent α) : Socket α → Socket α
  | .connected sinceSeq true frames =>
    .connected sinceSeq true (if sends filtersLive sinceSeq e then frames ++ [e] else frames)
  | socket => socket

/-- A restart of the gateway leaves the frames that are on their way. -/
def Socket.cut : Socket α → Socket α
  | .connected sinceSeq _ frames => .connected sinceSeq false frames
  | socket => socket

variable [Zero α] [DecidableEq α] (filtersLive : Bool)

/-- One step, and the event that the console applies in it. -/
def sessionStep (s : Session α) : SessionInput α → Session α × Option (ObsEvent α)
  | .connect =>
    match s.socket with
    | .waiting =>
      let store := setStatus s.store (if 0 < s.store.lastSeq then .backfilling else .connecting)
      ({ s with
          store := store
          socket := if s.store.config = none then .configuring s.store.lastSeq
            else .dialing s.store.lastSeq }, none)
    | _ => (s, none)
  | .config answer =>
    match s.socket, answer with
    | .configuring _, none => ({ s with socket := .waiting }, none)
    | .configuring sinceSeq, some c =>
      ({ s with store := setConfig s.store c, socket := .dialing sinceSeq }, none)
    | _, _ => (s, none)
  | .refuse =>
    match s.socket with
    | .dialing _ => ({ s with socket := .waiting }, none)
    | _ => (s, none)
  | .accept =>
    match s.socket with
    | .dialing sinceSeq =>
      ({ s with
          store := setStatus s.store .open
          socket := .connected sinceSeq true
            (s.events.filter fun e => decide (sinceSeq < e.seq)) }, none)
    | _ => (s, none)
  | .deliver =>
    match s.socket with
    | .connected sinceSeq live (e :: frames) =>
      ({ s with store := applyEvent s.store e, socket := .connected sinceSeq live frames },
        (reduce s.store e).map fun _ => e)
    | _ => (s, none)
  | .close =>
    match s.socket with
    | .dialing _ | .connected _ _ _ =>
      ({ s with store := setStatus s.store .closed, socket := .waiting }, none)
    | _ => (s, none)
  | .record e =>
    ({ s with
        events := s.events ++ [s.stamp e]
        socket := s.socket.push filtersLive (s.stamp e) }, none)
  | .restart run =>
    ({ s with
        run := run
        earlier := s.run :: s.earlier
        events := []
        socket := s.socket.cut }, none)

/-- The gateway and the console as a machine that shows what the console applies. -/
def session : Machine (Session α) (SessionInput α) (Option (ObsEvent α)) :=
  ⟨sessionStep filtersLive⟩

/-! ## What is promised -/

omit [Zero α] [DecidableEq α] in
/-- A restart takes a run id that was never used. -/
def NewRun (s : Session α) : SessionInput α → Prop
  | .restart run => run ≠ s.run ∧ run ∉ s.earlier
  | _ => True

instance (s : Session α) : ∀ input, Decidable (NewRun s input)
  | .restart _ => inferInstanceAs (Decidable (_ ∧ _))
  | .connect | .config _ | .refuse | .accept | .deliver | .close | .record _ => isTrue trivial

omit [Zero α] [DecidableEq α] in
/-- A connection is accepted from a console that has applied nothing yet or has this run in view, or
before the run has an event that the connection could miss. -/
def ShowsRun (s : Session α) : SessionInput α → Prop
  | .accept =>
    match s.socket with
    | .dialing sinceSeq =>
      sinceSeq = 0 ∨ s.store.runId = some s.run ∨ filtersLive = false ∧ s.events = []
    | _ => True
  | _ => True

instance (s : Session α) : ∀ input, Decidable (ShowsRun filtersLive s input)
  | .accept =>
    match h : s.socket with
    | .dialing sinceSeq =>
      decidable_of_iff
        (sinceSeq = 0 ∨ s.store.runId = some s.run ∨ filtersLive = false ∧ s.events = [])
        (by unfold ShowsRun; rw [h])
    | .waiting | .configuring _ | .connected _ _ _ => isTrue (by unfold ShowsRun; rw [h]; trivial)
  | .connect | .config _ | .refuse | .deliver | .close | .record _ | .restart _ => isTrue trivial

omit [Zero α] [DecidableEq α] in
/-- The console is connected to the run that is going on, and no frame is on its way. -/
def Session.Drained (s : Session α) : Prop :=
  ∃ sinceSeq, s.socket = .connected sinceSeq true []

omit [Zero α] [DecidableEq α] in
/-- Of the events that the console has applied, those of the run that is going on. -/
def Session.ofRun (s : Session α) (applied : List (ObsEvent α)) : List (ObsEvent α) :=
  applied.filter fun e => decide (e.runId = some s.run)

end Steps

/-! ## What a step does -/

section Cases

variable {α : Type} {s s' : Session α}

/-- Nothing is applied, and no connection is made. -/
structure Quiet (s s' : Session α) : Prop where
  run : s'.run = s.run
  earlier : s'.earlier = s.earlier
  events : s'.events = s.events
  lastSeq : s'.store.lastSeq = s.store.lastSeq
  runId : s'.store.runId = s.store.runId
  socket : s'.socket = s.socket ∨ s'.socket = .waiting ∨
    ∃ sinceSeq, (s'.socket = .configuring sinceSeq ∨ s'.socket = .dialing sinceSeq) ∧
      (sinceSeq = s.store.lastSeq ∨ s.socket = .configuring sinceSeq)

lemma Quiet.refl (s : Session α) : Quiet s s := ⟨rfl, rfl, rfl, rfl, rfl, .inl rfl⟩

/-- What a step can do: the cases of every argument about one. -/
inductive Did (filtersLive : Bool) (s : Session α) :
    SessionInput α → Session α × Option (ObsEvent α) → Prop
  | quiet {input : SessionInput α} {s' : Session α} (h : Quiet s s') :
    Did filtersLive s input (s', none)
  | accept {sinceSeq : ℕ} (h : s.socket = .dialing sinceSeq) :
    Did filtersLive s .accept
      ({ s with
          store := setStatus s.store .open
          socket := .connected sinceSeq true
            (s.events.filter fun e => decide (sinceSeq < e.seq)) }, none)
  | deliver {sinceSeq : ℕ} {live : Bool} {e : ObsEvent α} {frames : List (ObsEvent α)}
    (h : s.socket = .connected sinceSeq live (e :: frames)) :
    Did filtersLive s .deliver
      ({ s with store := applyEvent s.store e, socket := .connected sinceSeq live frames },
        (reduce s.store e).map fun _ => e)
  | record (e : ObsEvent α) :
    Did filtersLive s (.record e)
      ({ s with
          events := s.events ++ [s.stamp e]
          socket := s.socket.push filtersLive (s.stamp e) }, none)
  | restart (run : String) :
    Did filtersLive s (.restart run)
      ({ s with
          run := run
          earlier := s.run :: s.earlier
          events := []
          socket := s.socket.cut }, none)

variable [Zero α] [DecidableEq α]

lemma did_step (filtersLive : Bool) (s : Session α) (input : SessionInput α) :
    Did filtersLive s input (sessionStep filtersLive s input) := by
  have hstay : Did filtersLive s input (s, none) := .quiet (Quiet.refl s)
  cases input with
  | connect =>
    unfold sessionStep
    dsimp only
    split
    · refine .quiet ⟨rfl, rfl, rfl, rfl, rfl, .inr (.inr ⟨s.store.lastSeq, ?_, .inl rfl⟩)⟩
      dsimp only
      split_ifs
      · exact .inl rfl
      · exact .inr rfl
    · exact hstay
  | config answer =>
    unfold sessionStep
    dsimp only
    split
    · exact .quiet ⟨rfl, rfl, rfl, rfl, rfl, .inr (.inl rfl)⟩
    · rename_i sinceSeq c hsocket
      exact .quiet ⟨rfl, rfl, rfl, rfl, rfl, .inr (.inr ⟨sinceSeq, .inr rfl, .inr hsocket⟩)⟩
    · exact hstay
  | refuse =>
    unfold sessionStep
    dsimp only
    split
    · exact .quiet ⟨rfl, rfl, rfl, rfl, rfl, .inr (.inl rfl)⟩
    · exact hstay
  | accept =>
    unfold sessionStep
    dsimp only
    split
    · rename_i hsocket
      exact .accept hsocket
    · exact hstay
  | deliver =>
    unfold sessionStep
    dsimp only
    split
    · rename_i hsocket
      exact .deliver hsocket
    · exact hstay
  | close =>
    unfold sessionStep
    dsimp only
    split
    · exact .quiet ⟨rfl, rfl, rfl, rfl, rfl, .inr (.inl rfl)⟩
    · exact .quiet ⟨rfl, rfl, rfl, rfl, rfl, .inr (.inl rfl)⟩
    · exact hstay
  | record e => exact .record e
  | restart run => exact .restart run

end Cases

/-! ## What holds in every history -/

section Invariant

variable {α : Type} {s s' : Session α} {e : ObsEvent α} {applied : List (ObsEvent α)}

lemma reduce_eq_none_iff (store : StoreState α) (e : ObsEvent α) :
    reduce store e = none ↔ ¬ isNewRun store e ∧ e.seq ≤ store.lastSeq := by
  unfold reduce
  by_cases hdiscard : ¬ isNewRun store e ∧ e.seq ≤ store.lastSeq
  · rw [if_pos hdiscard]
    exact iff_of_true rfl hdiscard
  · rw [if_neg hdiscard]
    exact iff_of_false (Option.some_ne_none _) hdiscard

/-- An event that is applied moves the store to its number and its run. -/
lemma view_of_reduce {store store' : StoreState α} (h : reduce store e = some store') :
    store'.lastSeq = e.seq ∧ store'.runId = e.runId.or store.runId := by
  have hview := view_reduce store e
  rw [h] at hview
  unfold WebBridge.reduce at hview
  dsimp only at hview
  split_ifs at hview with hdiscard
  · cases hview
  have hfields : store'.view = ⟨e.seq, e.runId.or store.runId⟩ := Option.some.inj hview
  exact ⟨congrArg WebBridge.ClientView.lastSeq hfields, congrArg WebBridge.ClientView.runId hfields⟩

/-- What the socket holds: a position that is still the store's, events of the run that is going on,
or events of runs that are over. -/
def Session.SocketOk (s : Session α) : Prop :=
  match s.socket with
  | .waiting => True
  | .configuring sinceSeq | .dialing sinceSeq => sinceSeq = s.store.lastSeq
  | .connected _ true frames => ∀ e ∈ frames, e ∈ s.events
  | .connected _ false frames => s.store.runId ≠ some s.run ∧
    ∀ e ∈ frames, 0 < e.seq ∧ ∃ run ∈ s.earlier, e.runId = some run

/-- The events of the run are numbered and named by it, no run id is used twice, and an event of the
run is applied only by a store that then has the run in view. -/
structure Session.Inv (s : Session α) (applied : List (ObsEvent α)) : Prop where
  numbered : Numbered ObsEvent.seq s.events
  named : ∀ e ∈ s.events, e.runId = some s.run
  fresh : s.run ∉ s.earlier
  shows : ∀ run, s.store.runId = some run → run = s.run ∨ run ∈ s.earlier
  nothing : s.store.runId = none ↔ s.store.lastSeq = 0
  socket : s.SocketOk
  known : ∀ e ∈ applied, ∃ run, e.runId = some run ∧ (run = s.run ∨ run ∈ s.earlier)
  absent : s.store.runId ≠ some s.run → ∀ e ∈ applied, e.runId ≠ some s.run
  recorded : ∀ e ∈ applied, e.runId = some s.run → e ∈ s.events

/-- A connection is asked for from where the console has come. -/
lemma Session.Inv.dialed (h : s.Inv applied) {sinceSeq : ℕ}
    (hsocket : s.socket = .dialing sinceSeq) : sinceSeq = s.store.lastSeq := by
  have hok := h.socket
  unfold Session.SocketOk at hok
  rw [hsocket] at hok
  exact hok

lemma Session.Inv.live (h : s.Inv applied) {sinceSeq : ℕ} {frames : List (ObsEvent α)}
    (hsocket : s.socket = .connected sinceSeq true frames) : ∀ e ∈ frames, e ∈ s.events := by
  have hok := h.socket
  unfold Session.SocketOk at hok
  rw [hsocket] at hok
  exact hok

/-- The frames of a dead connection are of runs that are over, and none of theirs is in view. -/
lemma Session.Inv.stale (h : s.Inv applied) {sinceSeq : ℕ} {frames : List (ObsEvent α)}
    (hsocket : s.socket = .connected sinceSeq false frames) :
    s.store.runId ≠ some s.run ∧
      ∀ e ∈ frames, 0 < e.seq ∧ ∃ run ∈ s.earlier, e.runId = some run := by
  have hok := h.socket
  unfold Session.SocketOk at hok
  rw [hsocket] at hok
  exact hok

lemma Session.Inv.ne_of_earlier (h : s.Inv applied) {run : String} (hearlier : run ∈ s.earlier)
    (hrunId : e.runId = some run) : e.runId ≠ some s.run := by
  rw [hrunId]
  intro heq
  obtain rfl := Option.some.inj heq
  exact h.fresh hearlier

lemma inv_start (run : String) : (Session.start run : Session α).Inv [] where
  numbered := Numbered.nil _
  named _ he := absurd he List.not_mem_nil
  fresh := List.not_mem_nil
  shows _ h := by cases h
  nothing := iff_of_true rfl rfl
  socket := trivial
  known _ he := absurd he List.not_mem_nil
  absent _ _ he := absurd he List.not_mem_nil
  recorded _ he := absurd he List.not_mem_nil

lemma Session.Inv.quiet (h : s.Inv applied) (hquiet : Quiet s s') : s'.Inv applied where
  numbered := hquiet.events ▸ h.numbered
  named := by
    rw [hquiet.events, hquiet.run]
    exact h.named
  fresh := by
    rw [hquiet.run, hquiet.earlier]
    exact h.fresh
  shows := by
    rw [hquiet.runId, hquiet.run, hquiet.earlier]
    exact h.shows
  nothing := by
    rw [hquiet.runId, hquiet.lastSeq]
    exact h.nothing
  socket := by
    have hsocket := h.socket
    unfold Session.SocketOk at hsocket ⊢
    rw [hquiet.events, hquiet.lastSeq, hquiet.run, hquiet.runId, hquiet.earlier]
    rcases hquiet.socket with hsame | hwaiting | ⟨sinceSeq, hdials, hposition⟩
    · rw [hsame]
      exact hsocket
    · rw [hwaiting]
      trivial
    · have heq : sinceSeq = s.store.lastSeq := by
        rcases hposition with hlast | hconfiguring
        · exact hlast
        · rw [hconfiguring] at hsocket
          exact hsocket
      rcases hdials with hdial | hdial
      · rw [hdial]
        exact heq
      · rw [hdial]
        exact heq
  known := by
    rw [hquiet.run, hquiet.earlier]
    exact h.known
  absent := by
    rw [hquiet.runId, hquiet.run]
    exact h.absent
  recorded := by
    rw [hquiet.events, hquiet.run]
    exact h.recorded

/-- A frame arrives. -/
lemma Session.Inv.deliver (h : s.Inv applied) {sinceSeq : ℕ} {live : Bool}
    {frames : List (ObsEvent α)} (hsocket : s.socket = .connected sinceSeq live (e :: frames)) :
    Session.Inv
      { s with store := applyEvent s.store e, socket := .connected sinceSeq live frames }
      (applied ++ ((reduce s.store e).map fun _ => e).toList) := by
  -- the event is of the run that is going on or of one that is over
  obtain ⟨run, hrunId, hrun, hpos⟩ :
      ∃ run, e.runId = some run ∧ (run = s.run ∨ run ∈ s.earlier) ∧ 0 < e.seq := by
    cases live with
    | true =>
      have hmem := h.live hsocket e List.mem_cons_self
      exact ⟨s.run, h.named e hmem, .inl rfl, h.numbered.pos hmem⟩
    | false =>
      obtain ⟨hpos, run, hearlier, hrunId⟩ := (h.stale hsocket).2 e List.mem_cons_self
      exact ⟨run, hrunId, .inr hearlier, hpos⟩
  have hother : live = false → e.runId ≠ some s.run := by
    rintro rfl
    obtain ⟨-, run, hearlier, hrunId⟩ := (h.stale hsocket).2 e List.mem_cons_self
    exact h.ne_of_earlier hearlier hrunId
  have hrest : ∀ store' : StoreState α, (live = false → store'.runId ≠ some s.run) →
      Session.SocketOk
        { s with store := store', socket := .connected sinceSeq live frames } := by
    intro store' hview
    unfold Session.SocketOk
    cases live with
    | true => exact fun e' he' => h.live hsocket e' (List.mem_cons_of_mem e he')
    | false =>
      exact ⟨hview rfl, fun e' he' => (h.stale hsocket).2 e' (List.mem_cons_of_mem e he')⟩
  unfold applyEvent
  cases hreduce : reduce s.store e with
  | none =>
    rw [Option.map_none, Option.toList_none, List.append_nil, Option.getD_none]
    refine ⟨h.numbered, h.named, h.fresh, h.shows, h.nothing, hrest s.store ?_, h.known, h.absent,
      h.recorded⟩
    rintro rfl
    exact (h.stale hsocket).1
  | some store' =>
    obtain ⟨hlastSeq, hview⟩ := view_of_reduce hreduce
    rw [hrunId, Option.some_or, ← hrunId] at hview
    rw [Option.map_some, Option.toList_some, Option.getD_some]
    refine ⟨h.numbered, h.named, h.fresh, ?_, ?_, hrest store' ?_, ?_, ?_, ?_⟩
    · intro run' hshows
      have heq : some run = some run' := hrunId.symm.trans (hview.symm.trans hshows)
      obtain rfl := Option.some.inj heq
      exact hrun
    · refine iff_of_false (fun hnone => ?_) (fun hzero => ?_)
      · have heq : some run = none := hrunId.symm.trans (hview.symm.trans hnone)
        cases heq
      · have heq : e.seq = 0 := hlastSeq.symm.trans hzero
        omega
    · intro hlive
      rw [hview]
      exact hother hlive
    · intro e' he'
      rcases List.mem_append.mp he' with hold | hlast
      · exact h.known e' hold
      · rw [List.mem_singleton.mp hlast]
        exact ⟨run, hrunId, hrun⟩
    · intro hne e' he'
      have hne' : e.runId ≠ some s.run := fun heq => hne (hview.trans heq)
      rcases List.mem_append.mp he' with hold | hlast
      · -- a store that had the run in view keeps it
        refine h.absent (fun hin => ?_) e' hold
        cases live with
        | true => exact hne' (h.named e (h.live hsocket e List.mem_cons_self))
        | false => exact (h.stale hsocket).1 hin
      · rw [List.mem_singleton.mp hlast]
        exact hne'
    · intro e' he' hrunId'
      rcases List.mem_append.mp he' with hold | hlast
      · exact h.recorded e' hold hrunId'
      · rw [List.mem_singleton.mp hlast] at hrunId' ⊢
        cases live with
        | true => exact h.live hsocket e List.mem_cons_self
        | false => exact absurd hrunId' (hother rfl)

/-- A recorded event is the next one of its run. -/
lemma Session.Inv.record (h : s.Inv applied) (filtersLive : Bool) (e : ObsEvent α) :
    Session.Inv
      { s with
        events := s.events ++ [s.stamp e]
        socket := s.socket.push filtersLive (s.stamp e) } applied := by
  refine ⟨h.numbered.concat rfl, ?_, h.fresh, h.shows, h.nothing, ?_, h.known, h.absent,
    fun e' he' hrunId => List.mem_append_left _ (h.recorded e' he' hrunId)⟩
  · intro e' he'
    rcases List.mem_append.mp he' with hold | hlast
    · exact h.named e' hold
    · rw [List.mem_singleton.mp hlast]
      rfl
  · have hok := h.socket
    unfold Session.SocketOk at hok ⊢
    cases hsocket : s.socket with
    | waiting => trivial
    | configuring sinceSeq =>
      rw [hsocket] at hok
      exact hok
    | dialing sinceSeq =>
      rw [hsocket] at hok
      exact hok
    | connected sinceSeq live frames =>
      rw [hsocket] at hok
      cases live with
      | false => exact hok
      | true =>
        show ∀ e' ∈ _, e' ∈ s.events ++ [s.stamp e]
        split_ifs with hsends
        · intro e' he'
          rcases List.mem_append.mp he' with hold | hlast
          · exact List.mem_append_left _ (hok e' hold)
          · exact List.mem_append_right _ hlast
        · exact fun e' he' => List.mem_append_left _ (hok e' he')

/-- A restart: what was the run is over. -/
lemma Session.Inv.restart (h : s.Inv applied) {run : String}
    (hnew : run ≠ s.run ∧ run ∉ s.earlier) :
    Session.Inv
      { s with
        run := run
        earlier := s.run :: s.earlier
        events := []
        socket := s.socket.cut } applied := by
  have hother : ∀ run', run' = s.run ∨ run' ∈ s.earlier → run' ≠ run := by
    rintro run' (rfl | hearlier) rfl
    · exact hnew.1 rfl
    · exact hnew.2 hearlier
  have hview : s.store.runId ≠ some run := fun heq => hother run (h.shows run heq) rfl
  have happlied : ∀ e ∈ applied, e.runId ≠ some run := by
    intro e he heq
    obtain ⟨run', hrunId, hrun⟩ := h.known e he
    rw [hrunId] at heq
    exact hother run' hrun (Option.some.inj heq)
  refine ⟨Numbered.nil _, fun e he => absurd he List.not_mem_nil, ?_, ?_, h.nothing, ?_, ?_,
    fun _ => happlied, fun e he heq => absurd heq (happlied e he)⟩
  · rw [List.mem_cons, not_or]
    exact hnew
  · exact fun run' hshows => .inr (List.mem_cons.mpr (h.shows run' hshows))
  · have hok := h.socket
    unfold Session.SocketOk at hok ⊢
    cases hsocket : s.socket with
    | waiting => trivial
    | configuring sinceSeq =>
      rw [hsocket] at hok
      exact hok
    | dialing sinceSeq =>
      rw [hsocket] at hok
      exact hok
    | connected sinceSeq live frames =>
      rw [hsocket] at hok
      refine ⟨hview, fun e he => ?_⟩
      cases live with
      | true =>
        have hmem := hok e he
        exact ⟨h.numbered.pos hmem, s.run, List.mem_cons_self, h.named e hmem⟩
      | false =>
        obtain ⟨hpos, run', hearlier, hrunId⟩ := hok.2 e he
        exact ⟨hpos, run', List.mem_cons_of_mem _ hearlier, hrunId⟩
  · intro e he
    obtain ⟨run', hrunId, hrun⟩ := h.known e he
    exact ⟨run', hrunId, .inr (List.mem_cons.mpr hrun)⟩

variable [Zero α] [DecidableEq α]

/-- **One step** keeps the invariant. -/
lemma Session.Inv.step (h : s.Inv applied) (filtersLive : Bool) {input : SessionInput α}
    (hnew : NewRun s input) :
    (sessionStep filtersLive s input).1.Inv
      (applied ++ (sessionStep filtersLive s input).2.toList) := by
  have hdid := did_step filtersLive s input
  generalize sessionStep filtersLive s input = r at hdid ⊢
  cases hdid with
  | quiet hquiet =>
    rw [Option.toList_none, List.append_nil]
    exact h.quiet hquiet
  | accept hsocket =>
    rw [Option.toList_none, List.append_nil]
    refine ⟨h.numbered, h.named, h.fresh, h.shows, h.nothing, ?_, h.known, h.absent, h.recorded⟩
    exact fun e he => List.mem_of_mem_filter he
  | deliver hsocket => exact h.deliver hsocket
  | record e =>
    rw [Option.toList_none, List.append_nil]
    exact h.record filtersLive e
  | restart run =>
    rw [Option.toList_none, List.append_nil]
    exact h.restart hnew

end Invariant

end WebConsole

end MiniatureWarehouse
