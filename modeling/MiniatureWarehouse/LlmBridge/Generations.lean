import MiniatureWarehouse.LlmBridge.Scheduler
import MiniatureWarehouse.Mcp.GenCheck
import MiniatureWarehouse.XErBridge.CommitAlignment

/-!
# The published generations

A tool call of an old generation is refused because the generation that is published is newer.  So
the generations have to increase, over every process that publishes one.  There are two kinds of
them: the planning cycle takes the stored generation and adds one, the commander counts in its own
memory and starts at zero.

A history is any interleaving of processes being started and of their cycles.  A commander that
cycles while the store is ahead of its memory publishes a generation that is not new, and a
commander that was restarted always does: the store outlives it.
-/

namespace MiniatureWarehouse

namespace LlmBridge

/-- The shared stores, and the commander processes that were ever started.  A process that was
stopped is one that does not cycle any more. -/
structure Site (α : Type) where
  stores : XErCycle.Stores α
  schedulers : List (BridgeScheduler α)

/-- Nothing has been started, and nothing was ever published. -/
def Site.init {α : Type} : Site α := ⟨⟨.empty, none⟩, []⟩

/-- What happens at a site: a commander is started or restarted, one of the commanders runs a
cycle, with the answers of the tools to its calls, or a planning cycle runs. -/
inductive SiteEvent (α : Type)
  | start (pendingTasks : List PendingTask)
  | cycle (process : ℕ) (input : CycleInput α) (answers : ℕ → Except PyErr ToolStatus)
  | xErCycle (runtime : XErCycle.XErRuntime α) (input : XErCycle.CycleInput α)

/-! ## The generation of a commander -/

namespace BridgeScheduler

section Dispatch

variable {α σ : Type} {execute : ToolExecutor α σ}

/-- The bookkeeping of an answer does not touch the generation. -/
lemma currentGen_record (s : BridgeScheduler α) (item : CommandItem α) (status : ToolStatus) :
    (((s.trackCurrentTask item status).consumePendingTask item status).record item
      status).currentGen = s.currentGen := by
  show ((s.trackCurrentTask item status).consumePendingTask item status).currentGen = _
  have htrack : (s.trackCurrentTask item status).currentGen = s.currentGen := by
    unfold trackCurrentTask
    split_ifs
    · rfl
    · split <;> rfl
  unfold consumePendingTask
  split
  · exact htrack
  · exact htrack

lemma currentGen_dispatchItems {gen : ℤ} {items : List (CommandItem α)}
    {s s' : BridgeScheduler α} {tools tools' : σ} {calls : List (ToolCall α)}
    {result : Except PyErr Unit}
    (hr : dispatchItems execute gen items s tools = (s', tools', calls, result)) :
    s'.currentGen = s.currentGen := by
  induction items generalizing s tools calls with
  | nil =>
    cases hr
    rfl
  | cons item items ih =>
    cases hanswer : execute gen tools (commandItemToToolCall item) with
    | mk next answer =>
      cases answer with
      | error e =>
        rw [dispatchItems_error items s hanswer] at hr
        cases hr
        rfl
      | ok status =>
        cases hrest : dispatchItems execute gen items
            (((s.trackCurrentTask item status).consumePendingTask item status).record item status)
            next with
        | mk s'' rest =>
          obtain ⟨tools'', calls'', result''⟩ := rest
          rw [dispatchItems_ok hanswer hrest] at hr
          cases hr
          rw [ih hrest, currentGen_record]

lemma currentGen_dispatchCommand {gen : ℤ} {command : Command α} {s s' : BridgeScheduler α}
    {tools tools' : σ} {calls : List (ToolCall α)} {result : Except PyErr Unit}
    (hr : dispatchCommand execute gen command s tools = (s', tools', calls, result)) :
    s'.currentGen = s.currentGen := by
  unfold dispatchCommand at hr
  split at hr
  · rename_i hitems
    cases hr
    exact currentGen_dispatchItems hitems
  · rename_i hitems
    split at hr
    · cases hr
      exact currentGen_dispatchItems hitems
    · cases hr
      exact currentGen_dispatchItems hitems

end Dispatch

section Cycle

variable {α σ : Type} [Field α] [LinearOrder α] [IsStrictOrderedRing α] {F : FloatFormat α}
  {L : MathLib α} {W : Wiring α} {execute : ToolExecutor α σ}

omit [IsStrictOrderedRing α] in
lemma currentGen_actOnResponse (s : BridgeScheduler α) (gen : ℤ)
    (response : Except PyErr (PyVal α)) (tools : σ) :
    (s.actOnResponse W execute gen response tools).scheduler.currentGen = s.currentGen := by
  unfold actOnResponse
  split
  · rfl
  · rfl
  · rfl
  · split
    · rfl
    · split
      · rename_i hcommand
        exact currentGen_dispatchCommand hcommand
      · rename_i hcommand
        have hkept := currentGen_dispatchCommand hcommand
        exact hkept

/-- A cycle counts one up, however it ends. -/
lemma currentGen_runCycle (s : BridgeScheduler α) (tools : σ) (i : CycleInput α) :
    (s.runCycle F L W execute tools i).scheduler.currentGen = s.currentGen + 1 := by
  rcases s.runCycle_cases F L execute tools i with
    ⟨e, -, heq⟩ | ⟨s', -, hgen, heq | ⟨situation, text, -, heq⟩⟩
  · rw [heq]
    rfl
  · rw [heq]
    exact hgen
  · rw [heq, currentGen_actOnResponse]
    exact hgen

end Cycle

end BridgeScheduler

/-! ## The site as a machine -/

section Run

variable {α : Type} [Field α] [LinearOrder α] [IsStrictOrderedRing α] (F : FloatFormat α)
  (L : MathLib α) (W : Wiring α) (R : Pipeline.Runtime α)

/-- The processes over the shared store, as a machine that puts out the generation an event
publishes.  A planning cycle that exits early leaves the stored generation as it is. -/
def site : Machine (Site α) (SiteEvent α) (Option ℤ) where
  step s
    | .start pendingTasks => ({ s with schedulers := s.schedulers ++ [.init pendingTasks] }, none)
    | .cycle process input answers =>
      match s.schedulers[process]? with
      | none => (s, none)
      | some scheduler =>
        let r := scheduler.runCycle F L W (scripted answers) 0 input
        (⟨{ s.stores with gen := some scheduler.bump.currentGen },
          s.schedulers.set process r.scheduler⟩, some scheduler.bump.currentGen)
    | .xErCycle runtime input =>
      let effects := (XErCycle.runXErCycle F L R runtime s.stores input).1
      (⟨effects.stores, s.schedulers⟩,
        if effects.stores.gen = s.stores.gen then none else effects.stores.gen)

/-- **The law.**  A generation that is published is greater than every one before it, so that a
call of an earlier one is stale from then on. -/
def Increasing (events : List (SiteEvent α)) : Prop :=
  ∀ pre e post g, events = pre ++ e :: post →
    ((site F L W R).step ((site F L W R).run .init pre) e).2 = some g →
    ∀ old ∈ (site F L W R).emitted .init pre, old < g ∧
      isStale (.int old : PyVal α)
        ((site F L W R).run .init (pre ++ [e])).stores.curGen = .ok true

omit [Field α] [LinearOrder α] [IsStrictOrderedRing α] in
/-- **The condition.**  A commander that cycles has a generation in its memory that the store is
not ahead of. -/
def KeepsUp (s : Site α) : SiteEvent α → Prop
  | .cycle process _ _ =>
    ∀ scheduler, s.schedulers[process]? = some scheduler →
      s.stores.curGen ≤ scheduler.currentGen
  | _ => True

variable {F L W R}

/-- A planning cycle leaves the generation alone, or publishes the next one. -/
lemma gen_runXErCycle (runtime : XErCycle.XErRuntime α) (s : XErCycle.Stores α)
    (input : XErCycle.CycleInput α) :
    (XErCycle.runXErCycle F L R runtime s input).1.stores.gen = s.gen ∨
      (XErCycle.runXErCycle F L R runtime s input).1.stores.gen = some (s.curGen + 1) := by
  rcases XErCycle.runXErCycle_cases (F := F) (L := L) (R := R) runtime s input with
    h | ⟨raw, draft, loaded, targets, command, -, -, hresolve, hload, hcommands, heq⟩
  · exact .inl h.gen
  · rw [heq]
    exact .inr (XErCycle.commit_aligned hresolve hload hcommands input.execute).2.2.published

/-- What an event publishes: nothing, and then the store is as before; or a generation that is in
the store afterwards, and is the next one of the process that publishes it. -/
lemma site_step_cases (s : Site α) (e : SiteEvent α) :
    ((((site F L W R).step s e).2 = none ∧
        ((site F L W R).step s e).1.stores.gen = s.stores.gen) ∨
      ∃ g, ((site F L W R).step s e).2 = some g ∧
        ((site F L W R).step s e).1.stores.gen = some g ∧
        (g = s.stores.curGen + 1 ∨ ∃ process input answers scheduler,
          e = .cycle process input answers ∧ s.schedulers[process]? = some scheduler ∧
          g = scheduler.currentGen + 1)) := by
  cases e with
  | start pendingTasks => exact .inl ⟨rfl, rfl⟩
  | cycle process input answers =>
    unfold site
    dsimp only
    cases hscheduler : s.schedulers[process]? with
    | none => exact .inl ⟨rfl, rfl⟩
    | some scheduler =>
      exact .inr ⟨_, rfl, rfl, .inr ⟨process, input, answers, scheduler, rfl, hscheduler, rfl⟩⟩
  | xErCycle runtime input =>
    rcases gen_runXErCycle (F := F) (L := L) (R := R) runtime s.stores input with hsame | hnext
    · exact .inl ⟨if_pos hsame, hsame⟩
    · by_cases hsame : (XErCycle.runXErCycle F L R runtime s.stores input).1.stores.gen =
          s.stores.gen
      · exact .inl ⟨if_pos hsame, hsame⟩
      · exact .inr ⟨_, (if_neg hsame).trans hnext, hnext, .inl rfl⟩

/-- No commander counts below zero. -/
lemma nonneg_step {s : Site α} (h : ∀ scheduler ∈ s.schedulers, 0 ≤ scheduler.currentGen)
    (e : SiteEvent α) :
    ∀ scheduler ∈ ((site F L W R).step s e).1.schedulers, 0 ≤ scheduler.currentGen := by
  cases e with
  | start pendingTasks =>
    intro scheduler hmem
    rcases List.mem_append.mp hmem with hold | hnew
    · exact h scheduler hold
    · rw [List.mem_singleton.mp hnew]
      exact le_refl 0
  | cycle process input answers =>
    unfold site
    dsimp only
    cases hscheduler : s.schedulers[process]? with
    | none => exact h
    | some scheduler =>
      intro other hmem
      rcases List.mem_or_eq_of_mem_set hmem with hold | hnew
      · exact h other hold
      · rw [hnew, BridgeScheduler.currentGen_runCycle]
        have hbefore := h scheduler (List.mem_of_getElem? hscheduler)
        omega
  | xErCycle runtime input => exact h

/-- What the store holds has been published, and no commander counts below zero. -/
lemma curGen_published (events : List (SiteEvent α)) :
    (((site F L W R).run .init events).stores.curGen = 0 ∨
      ((site F L W R).run .init events).stores.curGen ∈ (site F L W R).emitted .init events) ∧
    ∀ scheduler ∈ ((site F L W R).run .init events).schedulers, 0 ≤ scheduler.currentGen := by
  refine Machine.run_history (M := site F L W R)
    (I := fun past s => (s.stores.curGen = 0 ∨ s.stores.curGen ∈ (site F L W R).emitted .init past) ∧
      ∀ scheduler ∈ s.schedulers, 0 ≤ scheduler.currentGen) 
    ⟨.inl rfl, fun _ h => absurd h List.not_mem_nil⟩ ?_ events
  intro past e ⟨hstore, hnonneg⟩
  refine ⟨?_, nonneg_step hnonneg e⟩
  rw [Machine.emitted_append, Machine.emitted_singleton]
  rcases site_step_cases ((site F L W R).run .init past) e with
    ⟨hnone, hgen⟩ | ⟨g, hsome, hgen, -⟩
  · have hcur : ((site F L W R).step ((site F L W R).run .init past) e).1.stores.curGen =
        ((site F L W R).run .init past).stores.curGen := by
      unfold XErCycle.Stores.curGen
      rw [hgen]
    rw [hcur]
    exact hstore.imp id fun h => List.mem_append_left _ h
  · have hcur : ((site F L W R).step ((site F L W R).run .init past) e).1.stores.curGen = g := by
      unfold XErCycle.Stores.curGen
      rw [hgen]
      rfl
    rw [hcur, hsome]
    exact .inr (List.mem_append_right _ (by simp))

/-- Under the condition a step publishes a generation that is greater than the stored one. -/
lemma curGen_lt_of_keepsUp {s : Site α} {e : SiteEvent α} {g : ℤ} (h : KeepsUp s e)
    (hg : ((site F L W R).step s e).2 = some g) : s.stores.curGen < g := by
  rcases site_step_cases (F := F) (L := L) (W := W) (R := R) s e with
    ⟨hnone, -⟩ | ⟨g', hsome, -, hnext | ⟨process, input, answers, scheduler, rfl, hscheduler, hnext⟩⟩
  · rw [hnone] at hg
    cases hg
  · obtain rfl : g' = g := Option.some.inj (hsome.symm.trans hg)
    omega
  · obtain rfl : g' = g := Option.some.inj (hsome.symm.trans hg)
    have hle := h scheduler hscheduler
    omega

/-- Under the condition the store holds the greatest generation. -/
lemma le_curGen_of_keepsUp {events : List (SiteEvent α)}
    (h : (site F L W R).AllSteps KeepsUp .init events) :
    ∀ old ∈ (site F L W R).emitted .init events,
      old ≤ ((site F L W R).run .init events).stores.curGen := by
  induction events using List.reverseRecOn with
  | nil => exact fun _ hold => absurd hold List.not_mem_nil
  | append_singleton past e ih =>
    obtain ⟨hpast, hnow, -⟩ := ((site F L W R).allSteps_append _ _ _ _).mp h
    intro old hold
    rw [Machine.emitted_append, Machine.emitted_singleton] at hold
    rw [Machine.run_concat]
    have hle : ∀ old ∈ (site F L W R).emitted .init past,
        old ≤ ((site F L W R).run .init past).stores.curGen := ih hpast
    rcases site_step_cases ((site F L W R).run .init past) e with
      ⟨hnone, hgen⟩ | ⟨g, hsome, hgen, -⟩
    · rw [hnone, Option.toList_none, List.append_nil] at hold
      unfold XErCycle.Stores.curGen at hle ⊢
      rw [hgen]
      exact hle old hold
    · have hlt := curGen_lt_of_keepsUp hnow hsome
      have hcur : ((site F L W R).step ((site F L W R).run .init past) e).1.stores.curGen = g := by
        unfold XErCycle.Stores.curGen
        rw [hgen]
        rfl
      rw [hcur]
      rw [hsome, Option.toList_some] at hold
      rcases List.mem_append.mp hold with hbefore | hnew
      · have hbound := hle old hbefore
        omega
      · exact le_of_eq (List.mem_singleton.mp hnew)

variable (F L W R)

/-- **Generations increase exactly as long as no commander falls behind.**  Over any history of
processes that share a store, every published generation is greater than all before it, and makes
them stale, if and only if no commander cycles while the store is ahead of its memory. -/
theorem generations_increase_iff (events : List (SiteEvent α)) :
    Increasing F L W R events ↔ (site F L W R).AllSteps KeepsUp .init events := by
  constructor
  · intro h
    rw [Machine.allSteps_iff]
    rintro pre e post rfl
    obtain ⟨hstore, hnonneg⟩ := curGen_published (F := F) (L := L) (W := W) (R := R) pre
    cases e with
    | start pendingTasks => trivial
    | xErCycle runtime input => trivial
    | cycle process input answers =>
      intro scheduler hscheduler
      by_contra hbehind
      -- the store is ahead, so it holds a published generation, and the cycle does not exceed it
      have hzero := hnonneg scheduler (List.mem_of_getElem? hscheduler)
      have hpub := hstore.resolve_left (by omega)
      have hout : ((site F L W R).step ((site F L W R).run .init pre)
          (.cycle process input answers)).2 = some (scheduler.currentGen + 1) := by
        unfold site at hscheduler ⊢
        dsimp only
        rw [hscheduler]
        rfl
      have hlt := (h pre _ post _ rfl hout _ hpub).1
      omega
  · intro h pre e post g hevents hg old hold
    rw [hevents, Machine.allSteps_append] at h
    have hle := le_curGen_of_keepsUp h.1 old hold
    have hlt := curGen_lt_of_keepsUp h.2.1 hg
    have hold : old < g := lt_of_le_of_lt hle hlt
    refine ⟨hold, ?_⟩
    rw [Machine.run_concat]
    rcases site_step_cases (F := F) (L := L) (W := W) (R := R) ((site F L W R).run .init pre) e with
      ⟨hnone, -⟩ | ⟨g', hsome, hgen, -⟩
    · rw [hnone] at hg
      cases hg
    · obtain rfl : g' = g := Option.some.inj (hsome.symm.trans hg)
      unfold XErCycle.Stores.curGen
      rw [hgen]
      simpa [isStale, PyVal.toNum?] using hold

end Run

/-! ### A commander that is restarted -/

/-- A cycle before there is a snapshot: it publishes its generation and does nothing else. -/
def emptyCycle (process : ℕ) : SiteEvent ℚ :=
  .cycle process ⟨.missing, fun _ => .timeout⟩ fun _ => .ok .ok

/-- Two cycles, a restart, and one more cycle. -/
def restartedCommander : List (SiteEvent ℚ) :=
  [.start [], emptyCycle 0, emptyCycle 0, .start [], emptyCycle 1]

/-- The restarted commander publishes the first generation again. -/
theorem not_increasing_restartedCommander :
    ¬ Increasing (.exact ℚ) .rational twoTextsWiring Pipeline.sampleRuntime restartedCommander := by
  intro h
  have hlt := (h [.start [], emptyCycle 0, emptyCycle 0, .start []] (emptyCycle 1) [] 1 rfl
    (by decide) 2 (by decide)).1
  omega

theorem generations_increase_iff_without_restart :
    Increasing (.exact ℚ) .rational twoTextsWiring Pipeline.sampleRuntime
      [.start [], emptyCycle 0, emptyCycle 0] := by
  refine (generations_increase_iff _ _ _ _ _).mpr ⟨trivial, ?_, ?_, trivial⟩
  · intro scheduler hscheduler
    obtain rfl : BridgeScheduler.init [] = scheduler := Option.some.inj hscheduler
    exact le_refl 0
  · intro scheduler hscheduler
    obtain rfl := Option.some.inj hscheduler
    exact le_refl 1

end LlmBridge

end MiniatureWarehouse
