import MiniatureWarehouse.WebConsole.Session

/-!
# What a console has of the run that is going on

The console learns of a new run from the first event it receives of it, but it chooses where to
resume before that.  A console that resumes a new run where it had stopped in an old one is not sent
the first events of the new run, and never asks for them again.  `run_boundary_complete` says that
nothing else is lost.
-/

namespace MiniatureWarehouse

namespace WebConsole

open WebBridge (ObsEvent)

/-! ## A console that has missed nothing -/

section Complete

variable {α : Type} {s s' : Session α} {e : ObsEvent α} {applied : List (ObsEvent α)}
  {filtersLive : Bool}

/-- How far the console has come in the run that is going on. -/
def Session.reached (s : Session α) : ℕ :=
  if s.store.runId = some s.run then s.store.lastSeq else 0

/-- The console has applied the events of the run up to where it has come, and a connection brings
the rest. -/
structure Session.Complete (filtersLive : Bool) (s : Session α) (applied : List (ObsEvent α)) :
    Prop where
  applied : s.ofRun applied = s.events.take s.reached
  reached : s.reached ≤ s.events.length
  queued : ∀ sinceSeq frames, s.socket = .connected sinceSeq true frames →
    frames = s.events.drop s.reached ∧ (filtersLive = true → sinceSeq ≤ s.events.length)

lemma ofRun_concat_of_ne (s : Session α) (applied : List (ObsEvent α)) (he : e.runId ≠ some s.run) :
    s.ofRun (applied ++ [e]) = s.ofRun applied := by
  unfold Session.ofRun
  rw [List.filter_append, List.filter_cons_of_neg (by simp [he]), List.filter_nil, List.append_nil]

lemma ofRun_concat (s : Session α) (applied : List (ObsEvent α)) (he : e.runId = some s.run) :
    s.ofRun (applied ++ [e]) = s.ofRun applied ++ [e] := by
  unfold Session.ofRun
  rw [List.filter_append, List.filter_cons_of_pos (by simp [he]), List.filter_nil]

/-- A connection that is there after an event was recorded was there before. -/
lemma push_eq_connected {socket : Socket α} {sinceSeq : ℕ} {frames' : List (ObsEvent α)}
    (h : socket.push filtersLive e = .connected sinceSeq true frames') :
    ∃ frames, socket = .connected sinceSeq true frames ∧
      frames' = if sends filtersLive sinceSeq e then frames ++ [e] else frames := by
  cases socket with
  | waiting => cases h
  | configuring n => cases h
  | dialing n => cases h
  | connected n live frames =>
    cases live with
    | false => cases h
    | true =>
      injection h with hn _ hframes
      subst hn
      exact ⟨frames, rfl, hframes.symm⟩

lemma Session.Complete.quiet (h : s.Complete filtersLive applied) (hquiet : Quiet s s') :
    s'.Complete filtersLive applied := by
  have hreached : s'.reached = s.reached := by
    unfold Session.reached
    rw [hquiet.runId, hquiet.run, hquiet.lastSeq]
  have hofRun : s'.ofRun applied = s.ofRun applied := by
    unfold Session.ofRun
    rw [hquiet.run]
  refine ⟨?_, ?_, fun sinceSeq frames hconnected => ?_⟩
  · rw [hofRun, hreached, hquiet.events]
    exact h.applied
  · rw [hreached, hquiet.events]
    exact h.reached
  · rw [hreached, hquiet.events]
    rcases hquiet.socket with hsame | hwaiting | ⟨n, hdial | hdial, -⟩
    · exact h.queued sinceSeq frames (hsame.symm.trans hconnected)
    · cases hwaiting.symm.trans hconnected
    · cases hdial.symm.trans hconnected
    · cases hdial.symm.trans hconnected

/-- The next frame is the next event of the run. -/
lemma Session.Complete.deliver_live (h : s.Complete filtersLive applied) (hinv : s.Inv applied)
    {sinceSeq : ℕ} {frames : List (ObsEvent α)}
    (hsocket : s.socket = .connected sinceSeq true (e :: frames)) :
    Session.Complete filtersLive
      { s with store := applyEvent s.store e, socket := .connected sinceSeq true frames }
      (applied ++ ((reduce s.store e).map fun _ => e).toList) := by
  obtain ⟨hframes, hsince⟩ := h.queued sinceSeq (e :: frames) hsocket
  have hlt : s.reached < s.events.length := by
    by_contra hge
    rw [List.drop_eq_nil_of_le (by omega)] at hframes
    cases hframes
  rw [List.drop_eq_getElem_cons hlt, List.cons.injEq] at hframes
  obtain ⟨he, hrest⟩ := hframes
  have hseq : e.seq = s.reached + 1 := he ▸ hinv.numbered.getElem hlt
  have hrunId : e.runId = some s.run := he ▸ hinv.named _ (List.getElem_mem hlt)
  cases hreduce : reduce s.store e with
  | none =>
    obtain ⟨hold, hle⟩ := (reduce_eq_none_iff s.store e).mp hreduce
    exfalso
    by_cases hview : s.store.runId = some s.run
    · have hreached : s.reached = s.store.lastSeq := if_pos hview
      omega
    · by_cases hnothing : s.store.runId = none
      · have hzero := hinv.nothing.mp hnothing
        omega
      · refine hold ⟨?_, hnothing, ?_⟩
        · rw [hrunId]
          exact Option.some_ne_none _
        · rw [hrunId]
          exact fun heq => hview heq.symm
  | some store' =>
    obtain ⟨hlastSeq, hview⟩ := view_of_reduce hreduce
    rw [hrunId, Option.some_or] at hview
    unfold applyEvent
    rw [hreduce, Option.map_some, Option.toList_some, Option.getD_some]
    have hreached : Session.reached
        { s with store := store', socket := .connected sinceSeq true frames } = s.reached + 1 := by
      unfold Session.reached
      dsimp only
      rw [if_pos hview, hlastSeq]
      exact hseq
    refine ⟨?_, ?_, ?_⟩
    · rw [hreached]
      show s.ofRun (applied ++ [e]) = s.events.take (s.reached + 1)
      rw [ofRun_concat s applied hrunId, h.applied, List.take_succ_eq_append_getElem hlt, he]
    · rw [hreached]
      exact hlt
    · intro n frames' hconnected
      rw [hreached]
      injection hconnected with hn _ hframes'
      rw [← hn, ← hframes']
      exact ⟨hrest, hsince⟩

/-- A frame of a run that is over. -/
lemma Session.Complete.deliver_stale (h : s.Complete filtersLive applied) (hinv : s.Inv applied)
    {sinceSeq : ℕ} {frames : List (ObsEvent α)}
    (hsocket : s.socket = .connected sinceSeq false (e :: frames)) :
    Session.Complete filtersLive
      { s with store := applyEvent s.store e, socket := .connected sinceSeq false frames }
      (applied ++ ((reduce s.store e).map fun _ => e).toList) := by
  obtain ⟨hview, hstale⟩ := hinv.stale hsocket
  obtain ⟨hview', -⟩ := (hinv.deliver hsocket).stale rfl
  obtain ⟨-, run, hearlier, hrunId⟩ := hstale e List.mem_cons_self
  have hne := hinv.ne_of_earlier hearlier hrunId
  have hzero : s.reached = 0 := if_neg hview
  have hzero' : Session.reached
      { s with store := applyEvent s.store e, socket := .connected sinceSeq false frames } = 0 :=
    if_neg hview'
  have hofRun : s.ofRun (applied ++ ((reduce s.store e).map fun _ => e).toList) =
      s.ofRun applied := by
    cases reduce s.store e with
    | none =>
      rw [Option.map_none, Option.toList_none, List.append_nil]
    | some store' =>
      rw [Option.map_some, Option.toList_some]
      exact ofRun_concat_of_ne s applied hne
  refine ⟨?_, ?_, ?_⟩
  · rw [hzero']
    show s.ofRun _ = s.events.take 0
    rw [hofRun, h.applied, hzero]
  · rw [hzero']
    exact Nat.zero_le _
  · intro n frames' hconnected
    cases hconnected

lemma Session.Complete.record (h : s.Complete filtersLive applied) (e : ObsEvent α) :
    Session.Complete filtersLive
      { s with
        events := s.events ++ [s.stamp e]
        socket := s.socket.push filtersLive (s.stamp e) } applied := by
  have hle := h.reached
  refine ⟨?_, ?_, ?_⟩
  · show s.ofRun applied = (s.events ++ [s.stamp e]).take s.reached
    rw [List.take_append_of_le_length hle]
    exact h.applied
  · show s.reached ≤ (s.events ++ [s.stamp e]).length
    rw [List.length_append]
    omega
  · intro n frames' hconnected
    show frames' = (s.events ++ [s.stamp e]).drop s.reached ∧
      (filtersLive = true → n ≤ (s.events ++ [s.stamp e]).length)
    obtain ⟨frames, hsocket, rfl⟩ := push_eq_connected hconnected
    obtain ⟨hframes, hsince⟩ := h.queued n frames hsocket
    have hsends : sends filtersLive n (s.stamp e) :=
      fun hfilters => Nat.lt_succ_of_le (hsince hfilters)
    rw [if_pos hsends, hframes, List.drop_append_of_le_length hle, List.length_append]
    refine ⟨rfl, fun hfilters => ?_⟩
    have hfits := hsince hfilters
    omega

/-- A connection that resumes where the console has come in this run. -/
lemma Session.Complete.accept (h : s.Complete filtersLive applied) (hinv : s.Inv applied)
    {sinceSeq : ℕ} (hsocket : s.socket = .dialing sinceSeq)
    (hshows : sinceSeq = 0 ∨ s.store.runId = some s.run ∨ filtersLive = false ∧ s.events = []) :
    Session.Complete filtersLive
      { s with
        store := setStatus s.store .open
        socket := .connected sinceSeq true
          (s.events.filter fun e => decide (sinceSeq < e.seq)) } applied := by
  have hposition := hinv.dialed hsocket
  refine ⟨h.applied, h.reached, ?_⟩
  intro n frames hconnected
  show frames = s.events.drop s.reached ∧ (filtersLive = true → n ≤ s.events.length)
  injection hconnected with hn _ hframes
  rw [← hframes, hinv.numbered.filter_lt, ← hn]
  have hle := h.reached
  rcases hshows with hzero | hview | ⟨hfilters, hempty⟩
  · have hnothing : s.store.runId = none := hinv.nothing.mpr (hposition ▸ hzero)
    have hreached : s.reached = 0 := by
      unfold Session.reached
      rw [if_neg]
      rw [hnothing]
      exact (Option.some_ne_none _).symm
    rw [hreached, hzero]
    exact ⟨rfl, fun _ => Nat.zero_le _⟩
  · have hreached : s.reached = sinceSeq := by
      rw [hposition]
      exact if_pos hview
    rw [hreached] at hle ⊢
    exact ⟨rfl, fun _ => hle⟩
  · rw [hempty, List.drop_nil, List.drop_nil]
    refine ⟨rfl, fun htrue => ?_⟩
    rw [hfilters] at htrue
    cases htrue

variable [Zero α] [DecidableEq α]

/-- **One step** of a run keeps the console complete. -/
lemma Session.Complete.step (h : s.Complete filtersLive applied) (hinv : s.Inv applied)
    {input : SessionInput α} (hsame : ∀ run, input ≠ .restart run)
    (hshows : ShowsRun filtersLive s input) :
    (sessionStep filtersLive s input).1.Complete filtersLive
      (applied ++ (sessionStep filtersLive s input).2.toList) := by
  have hdid := did_step filtersLive s input
  generalize sessionStep filtersLive s input = r at hdid ⊢
  cases hdid with
  | quiet hquiet =>
    rw [Option.toList_none, List.append_nil]
    exact h.quiet hquiet
  | accept hsocket =>
    rw [Option.toList_none, List.append_nil]
    unfold ShowsRun at hshows
    rw [hsocket] at hshows
    exact h.accept hinv hsocket hshows
  | @deliver sinceSeq live e frames hsocket =>
    cases live with
    | true => exact h.deliver_live hinv hsocket
    | false => exact h.deliver_stale hinv hsocket
  | record e =>
    rw [Option.toList_none, List.append_nil]
    exact h.record e
  | restart run => exact absurd rfl (hsame run)

end Complete

/-! ## A console that resumed too far on -/

section Behind

variable {α : Type} {s s' : Session α} {e : ObsEvent α} {applied : List (ObsEvent α)}
  {filtersLive : Bool}

/-- The console will not ask for the first event of the run again. -/
structure Session.Behind (filtersLive : Bool) (s : Session α) (applied : List (ObsEvent α)) :
    Prop where
  position : 0 < s.store.lastSeq
  noted : filtersLive = true ∨ s.events ≠ []
  queued : ∀ sinceSeq frames, s.socket = .connected sinceSeq true frames →
    0 < sinceSeq ∧ ∀ e ∈ frames, 1 < e.seq
  missed : ∀ e ∈ s.ofRun applied, 1 < e.seq

lemma mem_ofRun {e : ObsEvent α} : e ∈ s.ofRun applied ↔ e ∈ applied ∧ e.runId = some s.run := by
  unfold Session.ofRun
  rw [List.mem_filter, decide_eq_true_iff]

/-- The connection that resumes too far on. -/
lemma Session.Inv.behind (h : s.Inv applied) {sinceSeq : ℕ} (hsocket : s.socket = .dialing sinceSeq)
    (hshows : ¬ (sinceSeq = 0 ∨ s.store.runId = some s.run ∨
      filtersLive = false ∧ s.events = [])) :
    Session.Behind filtersLive
      { s with
        store := setStatus s.store .open
        socket := .connected sinceSeq true
          (s.events.filter fun e => decide (sinceSeq < e.seq)) } applied := by
  have hposition := h.dialed hsocket
  rw [not_or, not_or] at hshows
  obtain ⟨hpos, hview, hevents⟩ := hshows
  refine ⟨?_, ?_, ?_, ?_⟩
  · show 0 < s.store.lastSeq
    omega
  · cases filtersLive with
    | true => exact .inl rfl
    | false => exact .inr fun hempty => hevents ⟨rfl, hempty⟩
  · intro n frames hconnected
    injection hconnected with hn _ hframes
    rw [← hn, ← hframes]
    refine ⟨Nat.pos_of_ne_zero hpos, fun e he => ?_⟩
    have hlt := of_decide_eq_true (List.mem_filter.mp he).2
    omega
  · intro e he
    obtain ⟨hmem, hrunId⟩ := mem_ofRun.mp he
    exact absurd hrunId (h.absent hview e hmem)

lemma Session.Behind.quiet (h : s.Behind filtersLive applied) (hquiet : Quiet s s') :
    s'.Behind filtersLive applied := by
  refine ⟨?_, ?_, fun sinceSeq frames hconnected => ?_, fun e he => ?_⟩
  · rw [hquiet.lastSeq]
    exact h.position
  · rw [hquiet.events]
    exact h.noted
  · rcases hquiet.socket with hsame | hwaiting | ⟨n, hdial | hdial, -⟩
    · exact h.queued sinceSeq frames (hsame.symm.trans hconnected)
    · cases hwaiting.symm.trans hconnected
    · cases hdial.symm.trans hconnected
    · cases hdial.symm.trans hconnected
  · obtain ⟨hmem, hrunId⟩ := mem_ofRun.mp he
    rw [hquiet.run] at hrunId
    exact h.missed e (mem_ofRun.mpr ⟨hmem, hrunId⟩)

/-- A connection starts above where the console has come. -/
lemma Session.Behind.accept (h : s.Behind filtersLive applied) (hinv : s.Inv applied)
    {sinceSeq : ℕ} (hsocket : s.socket = .dialing sinceSeq) :
    Session.Behind filtersLive
      { s with
        store := setStatus s.store .open
        socket := .connected sinceSeq true
          (s.events.filter fun e => decide (sinceSeq < e.seq)) } applied := by
  have hposition := hinv.dialed hsocket
  have hpos := h.position
  refine ⟨hpos, h.noted, fun n frames hconnected => ?_, h.missed⟩
  injection hconnected with hn _ hframes
  rw [← hn, ← hframes]
  refine ⟨by omega, fun e he => ?_⟩
  have hlt := of_decide_eq_true (List.mem_filter.mp he).2
  omega

lemma Session.Behind.deliver (h : s.Behind filtersLive applied) (hinv : s.Inv applied)
    {sinceSeq : ℕ} {live : Bool} {frames : List (ObsEvent α)}
    (hsocket : s.socket = .connected sinceSeq live (e :: frames)) :
    Session.Behind filtersLive
      { s with store := applyEvent s.store e, socket := .connected sinceSeq live frames }
      (applied ++ ((reduce s.store e).map fun _ => e).toList) := by
  have hpos : 0 < e.seq ∧ (e.runId = some s.run → 1 < e.seq) := by
    cases live with
    | true =>
      have hlt := (h.queued sinceSeq _ hsocket).2 e List.mem_cons_self
      exact ⟨by omega, fun _ => hlt⟩
    | false =>
      obtain ⟨hpos, run, hearlier, hrunId⟩ := (hinv.stale hsocket).2 e List.mem_cons_self
      exact ⟨hpos, fun heq => absurd heq (hinv.ne_of_earlier hearlier hrunId)⟩
  have hqueued : ∀ n frames',
      Socket.connected sinceSeq live frames = .connected n true frames' →
        0 < n ∧ ∀ e ∈ frames', 1 < e.seq := by
    intro n frames' hconnected
    injection hconnected with hn hlive hframes
    subst hn hlive hframes
    obtain ⟨hsince, hframes⟩ := h.queued sinceSeq _ hsocket
    exact ⟨hsince, fun e' he' => hframes e' (List.mem_cons_of_mem e he')⟩
  unfold applyEvent
  cases hreduce : reduce s.store e with
  | none =>
    rw [Option.map_none, Option.toList_none, List.append_nil, Option.getD_none]
    exact ⟨h.position, h.noted, hqueued, h.missed⟩
  | some store' =>
    obtain ⟨hlastSeq, -⟩ := view_of_reduce hreduce
    rw [Option.map_some, Option.toList_some, Option.getD_some]
    refine ⟨?_, h.noted, hqueued, fun e' he' => ?_⟩
    · show 0 < store'.lastSeq
      rw [hlastSeq]
      exact hpos.1
    · obtain ⟨hmem, hrunId⟩ := mem_ofRun.mp he'
      rcases List.mem_append.mp hmem with hold | hlast
      · exact h.missed e' (mem_ofRun.mpr ⟨hold, hrunId⟩)
      · rw [List.mem_singleton.mp hlast] at hrunId ⊢
        exact hpos.2 hrunId

lemma Session.Behind.record (h : s.Behind filtersLive applied) (e : ObsEvent α) :
    Session.Behind filtersLive
      { s with
        events := s.events ++ [s.stamp e]
        socket := s.socket.push filtersLive (s.stamp e) } applied := by
  refine ⟨h.position, .inr (by simp), fun n frames' hconnected => ?_, h.missed⟩
  obtain ⟨frames, hsocket, rfl⟩ := push_eq_connected hconnected
  obtain ⟨hsince, hframes⟩ := h.queued n frames hsocket
  refine ⟨hsince, fun e' he' => ?_⟩
  split_ifs at he' with hsends
  · rcases List.mem_append.mp he' with hold | hlast
    · exact hframes e' hold
    · rw [List.mem_singleton.mp hlast]
      show 1 < s.events.length + 1
      rcases h.noted with hfilters | hevents
      · have hlt : n < s.events.length + 1 := hsends hfilters
        omega
      · have hlength := List.length_pos_of_ne_nil hevents
        omega
  · exact hframes e' he'

variable [Zero α] [DecidableEq α]

/-- A step that fails the condition is the connection that resumes too far on. -/
lemma Session.Inv.step_behind (h : s.Inv applied) {input : SessionInput α}
    (hfails : ¬ ShowsRun filtersLive s input) :
    (sessionStep filtersLive s input).1.Behind filtersLive
      (applied ++ (sessionStep filtersLive s input).2.toList) := by
  cases input with
  | accept =>
    unfold ShowsRun at hfails
    cases hsocket : s.socket with
    | dialing sinceSeq =>
      rw [hsocket] at hfails
      unfold sessionStep
      dsimp only
      rw [hsocket]
      dsimp only
      rw [Option.toList_none, List.append_nil]
      exact h.behind hsocket hfails
    | _ =>
      rw [hsocket] at hfails
      exact absurd trivial hfails
  | _ => exact absurd trivial hfails

/-- **One step** of a run leaves the console behind. -/
lemma Session.Behind.step (h : s.Behind filtersLive applied) (hinv : s.Inv applied)
    {input : SessionInput α} (hsame : ∀ run, input ≠ .restart run) :
    (sessionStep filtersLive s input).1.Behind filtersLive
      (applied ++ (sessionStep filtersLive s input).2.toList) := by
  have hdid := did_step filtersLive s input
  generalize sessionStep filtersLive s input = r at hdid ⊢
  cases hdid with
  | quiet hquiet =>
    rw [Option.toList_none, List.append_nil]
    exact h.quiet hquiet
  | accept hsocket =>
    rw [Option.toList_none, List.append_nil]
    exact h.accept hinv hsocket
  | deliver hsocket => exact h.deliver hinv hsocket
  | record e =>
    rw [Option.toList_none, List.append_nil]
    exact h.record e
  | restart run => exact absurd rfl (hsame run)

end Behind

/-! ## The run that is going on -/

section Result

variable {α : Type} {s : Session α} {applied : List (ObsEvent α)}

/-- Of a run that has just begun, the console has missed nothing. -/
lemma Session.Inv.complete (h : s.Inv applied) (hview : s.store.runId ≠ some s.run)
    (hsocket : ∀ sinceSeq frames, s.socket ≠ .connected sinceSeq true frames)
    (filtersLive : Bool) : s.Complete filtersLive applied := by
  have hzero : s.reached = 0 := if_neg hview
  refine ⟨?_, hzero ▸ Nat.zero_le _, fun sinceSeq frames heq => absurd heq (hsocket _ _)⟩
  rw [hzero, List.take_zero]
  refine List.filter_eq_nil_iff.mpr fun e he htrue => ?_
  exact h.absent hview e he (of_decide_eq_true htrue)

variable [Zero α] [DecidableEq α]

lemma session_inv (filtersLive : Bool) (run : String) {inputs : List (SessionInput α)}
    (hnew : (session filtersLive).AllSteps NewRun (Session.start run) inputs) :
    ((session filtersLive).run (Session.start run) inputs).Inv
      ((session filtersLive).emitted (Session.start run) inputs) :=
  Machine.emitted_history (I := fun applied s => s.Inv applied) (inv_start run)
    (fun _ _ _ hstep hinv => hinv.step filtersLive hstep) hnew

/-- The beginning of a run. -/
lemma complete_begins (filtersLive : Bool) (run : String) {past : List (SessionInput α)}
    (hbegins : past = [] ∨ ∃ before next, past = before ++ [.restart next])
    (hnew : (session filtersLive).AllSteps NewRun (Session.start run) past) :
    ((session filtersLive).run (Session.start run) past).Complete filtersLive
      ((session filtersLive).emitted (Session.start run) past) := by
  have hinv := session_inv filtersLive run hnew
  rcases hbegins with rfl | ⟨before, next, rfl⟩
  · refine hinv.complete (fun heq => ?_) (fun sinceSeq frames heq => ?_) filtersLive
    · cases heq
    · cases heq
  · rw [Machine.allSteps_append] at hnew
    have hbefore := session_inv filtersLive run hnew.1
    have hnext : next ≠ _ ∧ next ∉ _ := hnew.2.1
    rw [Machine.run_concat] at hinv ⊢
    refine hinv.complete (fun heq => ?_) (fun sinceSeq frames heq => ?_) filtersLive
    · rcases hbefore.shows next heq with hsame | hearlier
      · exact hnext.1 hsame
      · exact hnext.2 hearlier
    · revert heq
      show Socket.cut _ ≠ _
      cases ((session filtersLive).run (Session.start run) before).socket <;> simp [Socket.cut]

/-- No restart in these inputs. -/
lemma allSteps_same {filtersLive : Bool} (t : Session α) {inputs : List (SessionInput α)}
    (hsame : ∀ next, .restart next ∉ inputs) :
    (session filtersLive).AllSteps (fun _ input => ∀ next, input ≠ .restart next) t inputs := by
  refine Machine.allSteps_of_forall _ t fun input hinput next heq => ?_
  exact hsame next (heq ▸ hinput)

/-- A run whose connections are all accepted where the console has come. -/
lemma Session.Complete.run {filtersLive : Bool} {t : Session α}
    (h : t.Complete filtersLive applied) (hinv : t.Inv applied) {inputs : List (SessionInput α)}
    (hsame : ∀ next, .restart next ∉ inputs)
    (hnew : (session filtersLive).AllSteps NewRun t inputs)
    (hshows : (session filtersLive).AllSteps (ShowsRun filtersLive) t inputs) :
    ((session filtersLive).run t inputs).Complete filtersLive
      (applied ++ (session filtersLive).emitted t inputs) := by
  have hsteps := ((allSteps_same t hsame).and _ hnew).and _ hshows
  refine (Machine.emitted_history
    (I := fun shown s => s.Inv (applied ++ shown) ∧ s.Complete filtersLive (applied ++ shown))
    ?_ ?_ hsteps).2
  · rw [List.append_nil]
    exact ⟨hinv, h⟩
  · rintro shown s input ⟨⟨hstays, hfresh⟩, hview⟩ ⟨hI, hC⟩
    rw [← List.append_assoc]
    exact ⟨hI.step filtersLive hfresh, hC.step hI hstays hview⟩

/-- A console that is behind stays behind while the run goes on. -/
lemma Session.Behind.run {filtersLive : Bool} {t : Session α} (h : t.Behind filtersLive applied)
    (hinv : t.Inv applied) {inputs : List (SessionInput α)}
    (hsteps : (session filtersLive).AllSteps
      (fun s input => (∀ next, input ≠ .restart next) ∧ NewRun s input) t inputs) :
    ((session filtersLive).run t inputs).Behind filtersLive
      (applied ++ (session filtersLive).emitted t inputs) := by
  refine (Machine.emitted_history
    (I := fun shown s => s.Inv (applied ++ shown) ∧ s.Behind filtersLive (applied ++ shown))
    ?_ ?_ hsteps).2
  · rw [List.append_nil]
    exact ⟨hinv, h⟩
  · rintro shown s input ⟨hstays, hfresh⟩ ⟨hI, hB⟩
    rw [← List.append_assoc]
    exact ⟨hI.step filtersLive hfresh, hB.step hI hstays⟩

/-- A connection that resumes too far on costs the run its first event. -/
lemma Session.Inv.run_behind {filtersLive : Bool} {t : Session α} (hinv : t.Inv applied)
    {inputs : List (SessionInput α)} (hsame : ∀ next, .restart next ∉ inputs)
    (hnew : (session filtersLive).AllSteps NewRun t inputs)
    (hshows : ¬ (session filtersLive).AllSteps (ShowsRun filtersLive) t inputs) :
    ((session filtersLive).run t inputs).Behind filtersLive
      (applied ++ (session filtersLive).emitted t inputs) := by
  have hsteps := (allSteps_same t hsame).and _ hnew
  rw [Machine.allSteps_iff] at hshows
  push Not at hshows
  obtain ⟨before, input, after, rfl, hfails⟩ := hshows
  rw [Machine.allSteps_append, Machine.allSteps_cons] at hsteps
  obtain ⟨hbefore, hinput, hafter⟩ := hsteps
  rw [Machine.run_append, Machine.run_cons, Machine.emitted_append, Machine.emitted_cons]
  -- up to the connection only the invariant is known
  have hmiddle : ((session filtersLive).run t before).Inv
      (applied ++ (session filtersLive).emitted t before) := by
    refine Machine.emitted_history (I := fun shown s => s.Inv (applied ++ shown)) ?_ ?_ hbefore
    · rw [List.append_nil]
      exact hinv
    · intro shown s input hstep hI
      rw [← List.append_assoc]
      exact hI.step filtersLive hstep.2
  have hbehind := hmiddle.step_behind hfails
  have hnext := hmiddle.step filtersLive hinput.2
  rw [← List.append_assoc, ← List.append_assoc]
  exact hbehind.run hnext hafter

/-- **A console across the runs of the gateway.**  Let the run that is going on begin after `past`.
When the console is connected to it and no frame is on its way, it has applied exactly the events of
the run, each once and in their order, if and only if the run has none or every connection of the
run was accepted from a console that had applied nothing or had the run in view (or, where live
events are all sent, before the run had an event). -/
theorem run_boundary_complete (filtersLive : Bool) (run : String)
    (past inputs : List (SessionInput α))
    (hbegins : past = [] ∨ ∃ before next, past = before ++ [.restart next])
    (hsame : ∀ next, .restart next ∉ inputs)
    (hnew : (session filtersLive).AllSteps NewRun (Session.start run) (past ++ inputs)) :
    let s := (session filtersLive).run (Session.start run) (past ++ inputs)
    let applied := (session filtersLive).emitted (Session.start run) (past ++ inputs)
    s.Drained →
      (s.ofRun applied = s.events ↔
        s.events = [] ∨ (session filtersLive).AllSteps (ShowsRun filtersLive)
          ((session filtersLive).run (Session.start run) past) inputs) := by
  intro s applied hdrained
  have hinv : s.Inv applied := session_inv filtersLive run hnew
  rw [Machine.allSteps_append] at hnew
  obtain ⟨hnewPast, hnewInputs⟩ := hnew
  have hpast := session_inv filtersLive run hnewPast
  have hcomplete := complete_begins filtersLive run hbegins hnewPast
  have hs : s = (session filtersLive).run ((session filtersLive).run (Session.start run) past)
      inputs := Machine.run_append _ _ _ _
  have happlied : applied = (session filtersLive).emitted (Session.start run) past ++
      (session filtersLive).emitted ((session filtersLive).run (Session.start run) past) inputs :=
    Machine.emitted_append _ _ _ _
  rw [hs] at hdrained
  rw [hs, happlied] at hinv ⊢
  obtain ⟨sinceSeq, hsocket⟩ := hdrained
  constructor
  · intro hall
    by_contra hneither
    obtain ⟨hevents, hshows⟩ := not_or.mp hneither
    have hbehind := hpast.run_behind hsame hnewInputs hshows
    have hlength := List.length_pos_of_ne_nil hevents
    have hfirst := hinv.numbered.getElem hlength
    have hmissed : ∀ e ∈ ((session filtersLive).run ((session filtersLive).run (Session.start run)
        past) inputs).events, 1 < e.seq := hall ▸ hbehind.missed
    have hlt := hmissed _ (List.getElem_mem hlength)
    omega
  · rintro (hempty | hshows)
    · rw [hempty]
      refine List.filter_eq_nil_iff.mpr fun e he htrue => ?_
      have hmem := hinv.recorded e he (of_decide_eq_true htrue)
      rw [hempty] at hmem
      cases hmem
    · have hrun := hcomplete.run hpast hsame hnewInputs hshows
      have hqueued := (hrun.queued sinceSeq [] hsocket).1
      rw [hrun.applied]
      exact List.take_of_length_le (List.drop_eq_nil_iff.mp hqueued.symm)

end Result

/-! ## Two histories -/

/-- Something a character says. -/
def spoken (text : String) : ObsEvent ℕ :=
  ⟨0, .fin 0, "/character/speech", "speech", none, none, none, none, none, none,
    [("text", .str text)]⟩

/-- A console that has applied an event of a run, when the gateway comes back under another. -/
def firstRun : List (SessionInput ℕ) :=
  [.connect, .config (some ⟨"none"⟩), .accept, .record (spoken "a"), .deliver, .restart "second"]

/-- It connects again before the new run has an event. -/
def earlyReturn : List (SessionInput ℕ) :=
  [.close, .connect, .accept, .record (spoken "b"), .record (spoken "c"), .deliver, .deliver]

/-- It connects again after the first event of the new run. -/
def lateReturn : List (SessionInput ℕ) :=
  [.close, .record (spoken "b"), .connect, .accept, .record (spoken "c"), .deliver]

theorem run_boundary_complete_early :
    ((session false).run (Session.start "first") (firstRun ++ earlyReturn)).ofRun
        ((session false).emitted (Session.start "first") (firstRun ++ earlyReturn)) =
      ((session false).run (Session.start "first") (firstRun ++ earlyReturn)).events := by
  have hnew : (session false).AllSteps NewRun (Session.start "first")
      (firstRun ++ earlyReturn) := by
    decide +kernel
  have hshows : (session false).AllSteps (ShowsRun false)
      ((session false).run (Session.start "first") firstRun) earlyReturn := by
    decide +kernel
  have hdrained : ((session false).run (Session.start "first")
      (firstRun ++ earlyReturn)).Drained := ⟨1, rfl⟩
  exact (run_boundary_complete false "first" firstRun earlyReturn
    (.inr ⟨firstRun.dropLast, "second", rfl⟩) (by simp [earlyReturn]) hnew hdrained).mpr
    (.inr hshows)

/-- The console is sent what is above the last event of the old run, and the first event of the new
one is never applied. -/
theorem late_return_misses_first :
    (session true).AllSteps NewRun (Session.start "first") (firstRun ++ lateReturn) ∧
      ((session true).run (Session.start "first") (firstRun ++ lateReturn)).Drained ∧
      (((session true).run (Session.start "first") (firstRun ++ lateReturn)).ofRun
        ((session true).emitted (Session.start "first") (firstRun ++ lateReturn))).map
          ObsEvent.seq = [2] ∧
      ((session true).run (Session.start "first") (firstRun ++ lateReturn)).events.map
          ObsEvent.seq = [1, 2] := by
  have hnew : (session true).AllSteps NewRun (Session.start "first")
      (firstRun ++ lateReturn) := by
    decide +kernel
  have hdrained : ((session true).run (Session.start "first")
      (firstRun ++ lateReturn)).Drained := ⟨1, rfl⟩
  refine ⟨hnew, hdrained, ?_, ?_⟩
  · decide +kernel
  · decide +kernel

end WebConsole

end MiniatureWarehouse
