import MiniatureWarehouse.Planning.PlanProgress
import Mathlib.Data.Set.Finite.List

/-!
# The cycle check is exact

`_has_cycle` removes the nodes that wait for nothing, and says that there is a cycle when some node
is never removed.  That it removes nodes in an order which respects the dependencies
(`Removing`) makes a cycle impossible among them.  The other direction needs that the loop misses
none: a node whose degree has fallen to zero is on the stack or removed (`Exhaustive`).  When the
stack is empty, every node left over waits for another one left over, and a finite set in which
everyone waits for someone has a cycle.

The edges are those `_check_cycle` collects.  It leaves out the reference of a node to itself, which
is reported as an invalid reference instead, so a node that waits for itself is no cycle here.
-/

namespace MiniatureWarehouse

open Relation

/-! ## Cycles in finite sets -/

section Cycles

variable {κ : Type*}

/-- In a finite set where everyone has a successor, some element reaches itself. -/
lemma exists_cycle_of_successors {r : κ → κ → Prop} {xs : List κ} (hne : xs ≠ [])
    (h : ∀ a ∈ xs, ∃ b ∈ xs, r a b) : ∃ a ∈ xs, TransGen r a a := by
  by_contra hnone
  push Not at hnone
  let back : {a // a ∈ xs} → {a // a ∈ xs} → Prop := fun a b => TransGen r b.1 a.1
  have hfinite : Finite {a // a ∈ xs} := List.finite_toSet xs
  have htrans : IsTrans _ back := ⟨fun _ _ _ hab hbc => hbc.trans hab⟩
  have hirrefl : Std.Irrefl back := ⟨fun a => hnone a.1 a.2⟩
  have hwf : WellFounded back := Finite.wellFounded_of_trans_of_irrefl back
  obtain ⟨first, hfirst⟩ := List.exists_mem_of_ne_nil xs hne
  -- a last element would have a successor
  obtain ⟨last, -, hlast⟩ := hwf.has_min Set.univ ⟨⟨first, hfirst⟩, trivial⟩
  obtain ⟨b, hb, hstep⟩ := h last.1 last.2
  exact hlast ⟨b, hb⟩ trivial (.single hstep)

/-- What an element of such an order reaches comes before it. -/
lemma Respects.mem_of_reaches {refs : κ → List κ} {order : List κ} (h : Respects refs order)
    {a b : κ} (ha : a ∈ order) (hab : TransGen (fun a b => b ∈ refs a) a b) : b ∈ order := by
  have hclosed : ∀ a ∈ order, ∀ b ∈ refs a, b ∈ order := by
    clear ha
    induction order with
    | nil => exact fun _ h => absurd h List.not_mem_nil
    | cons newest older ih =>
      obtain ⟨hnewest, holder⟩ := h
      intro a ha b hb
      rcases List.mem_cons.mp ha with rfl | ha
      · exact List.mem_cons_of_mem _ (hnewest b hb)
      · exact List.mem_cons_of_mem _ (ih holder a ha b hb)
  induction hab with
  | single hstep => exact hclosed a ha _ hstep
  | tail _ hstep ih => exact hclosed _ ih _ hstep

/-- No element of such an order reaches itself. -/
lemma Respects.acyclic {refs : κ → List κ} {order : List κ} (h : Respects refs order) {a : κ}
    (ha : a ∈ order) : ¬ TransGen (fun a b => b ∈ refs a) a a := by
  induction order with
  | nil => cases ha
  | cons newest older ih =>
    obtain ⟨hnewest, holder⟩ := h
    intro hcycle
    by_cases hmem : a ∈ older
    · exact ih holder hmem hcycle
    obtain rfl : a = newest := by
      rcases List.mem_cons.mp ha with heq | hold
      · exact heq
      · exact absurd hold hmem
    -- the newest element reaches only older ones
    obtain ⟨b, hb, hrest⟩ := TransGen.head'_iff.mp hcycle
    rcases reflTransGen_iff_eq_or_transGen.mp hrest with heq | hreach
    · exact hmem (heq ▸ hnewest b hb)
    · exact hmem (holder.mem_of_reaches (hnewest b hb) hreach)

end Cycles

/-! ## The loop misses no node -/

section Loop

/-- A node whose degree has fallen to zero is on the stack or removed. -/
def Exhaustive (deps : Dict String (List String)) (removed : List String)
    (inDegree : Dict String ℤ) (ready : List String) : Prop :=
  ∀ node, deps.contains node = true → inDegree.getD node 0 = 0 → node ∈ ready ++ removed

/-- A dependent with one unmet dependency joins the stack. -/
lemma mem_ready_releaseDependents {dependents : List String} (hnodup : dependents.Nodup)
    (inDegree : Dict String ℤ) (ready : List String) {node : String}
    (hnode : node ∈ ready ∨ node ∈ dependents ∧ inDegree.getD node 0 = 1) :
    node ∈ (releaseDependents dependents inDegree ready).2 := by
  induction dependents generalizing inDegree ready with
  | nil =>
    rcases hnode with hready | ⟨hmem, -⟩
    · exact hready
    · cases hmem
  | cons dependent rest ih =>
    rw [List.nodup_cons] at hnodup
    rw [releaseDependents]
    apply ih hnodup.2
    rcases hnode with hready | ⟨hmem, hone⟩
    · left
      split_ifs
      · exact List.mem_cons_of_mem _ hready
      · exact hready
    · rcases List.mem_cons.mp hmem with rfl | hrest
      · left
        rw [if_pos (by rw [hone]; rfl)]
        exact List.mem_cons_self
      · right
        have hne : node ≠ dependent := fun h => hnodup.1 (h ▸ hrest)
        refine ⟨hrest, ?_⟩
        unfold Dict.getD at hone ⊢
        rw [Dict.get?_set_of_ne _ _ hne]
        exact hone

lemma Exhaustive.step {deps : Dict String (List String)} {removed : List String}
    {inDegree : Dict String ℤ} {current : String} {ready : List String}
    (h : Exhaustive deps removed inDegree (current :: ready)) :
    Exhaustive deps (current :: removed)
      (releaseDependents (dependentsOf deps current) inDegree ready).1
      (releaseDependents (dependentsOf deps current) inDegree ready).2 := by
  have hnodup := nodup_dependentsOf deps current
  intro node hkey hzero
  rw [getD_releaseDependents hnodup] at hzero
  by_cases hdependent : node ∈ dependentsOf deps current
  · rw [if_pos hdependent] at hzero
    have hone : inDegree.getD node 0 = 1 := by omega
    exact List.mem_append_left _ (mem_ready_releaseDependents hnodup _ _ (.inr ⟨hdependent, hone⟩))
  · rw [if_neg hdependent, sub_zero] at hzero
    rcases List.mem_append.mp (h node hkey hzero) with hstack | hremoved
    · rcases List.mem_cons.mp hstack with rfl | hready
      · exact List.mem_append_right _ List.mem_cons_self
      · exact List.mem_append_left _ (mem_ready_releaseDependents hnodup _ _ (.inl hready))
    · exact List.mem_append_right _ (List.mem_cons_of_mem _ hremoved)

/-- With enough steps the loop empties its stack, and has removed as many nodes as it counts. -/
lemma Removing.exists_end {deps : Dict String (List String)}
    (hrefs : ∀ node refs, deps.get? node = some refs → refs.Nodup) (fuel : ℕ)
    {removed : List String} {inDegree : Dict String ℤ} {ready : List String}
    (hfuel : ready.length + waiting inDegree ≤ fuel)
    (h : Removing deps removed inDegree ready) (hall : Exhaustive deps removed inDegree ready) :
    ∃ removed' inDegree', Removing deps removed' inDegree' [] ∧
      Exhaustive deps removed' inDegree' [] ∧
      removed'.length = removed.length + processed deps fuel inDegree ready := by
  induction fuel generalizing removed inDegree ready with
  | zero =>
    obtain rfl : ready = [] := List.eq_nil_of_length_eq_zero (by omega)
    exact ⟨removed, inDegree, h, hall, rfl⟩
  | succ fuel ih =>
    cases ready with
    | nil => exact ⟨removed, inDegree, h, hall, rfl⟩
    | cons current ready =>
      have hmeasure := releaseDependents_measure (dependentsOf deps current) inDegree ready
      rw [List.length_cons] at hfuel
      obtain ⟨removed', inDegree', hend, hall', hlength⟩ :=
        ih (by omega) (h.step hrefs) hall.step
      refine ⟨removed', inDegree', hend, hall', ?_⟩
      rw [hlength, List.length_cons]
      simp only [processed]
      omega

/-- The degrees `_has_cycle` starts from. -/
def startDegrees (deps : Dict String (List String)) : Dict String ℤ :=
  deps.mapValues fun _ refs => (refs.length : ℤ)

/-- The stack it starts from. -/
def startReady (deps : Dict String (List String)) : List String :=
  (deps.entries.filterMap fun e => if e.2.length = 0 then some e.1 else none).reverse

lemma exhaustive_start (deps : Dict String (List String)) :
    Exhaustive deps [] (startDegrees deps) (startReady deps) := by
  intro node hkey hzero
  obtain ⟨refs, hget⟩ := (Dict.contains_iff _ _).mp hkey
  have hdegree : (startDegrees deps).getD node 0 = refs.length := by
    unfold startDegrees Dict.getD
    rw [Dict.get?_mapValues, hget]
    rfl
  have hlength : refs.length = 0 := by
    rw [hdegree] at hzero
    exact_mod_cast hzero
  rw [List.append_nil, startReady, List.mem_reverse, List.mem_filterMap]
  exact ⟨(node, refs), deps.mem_entries_iff.mpr hget, if_pos hlength⟩

/-- **The check on a graph.**  It reports a cycle exactly when some node reaches itself. -/
theorem hasCycle_eq_true_iff {deps : Dict String (List String)}
    (hnodup : ∀ node, (refsOf deps node).Nodup)
    (hkeys : ∀ node, ∀ ref ∈ refsOf deps node, deps.contains ref = true) :
    hasCycle deps = true ↔
      ∃ node, deps.contains node = true ∧ TransGen (fun a b => b ∈ refsOf deps a) node node := by
  have hnodup' : ∀ node refs, deps.get? node = some refs → refs.Nodup :=
    fun node refs hget => refsOf_of_get? hget ▸ hnodup node
  constructor
  · intro hcycle
    obtain ⟨removed, inDegree, hend, hall, hlength⟩ := (removing_start deps).exists_end hnodup'
      deps.entries.length (length_add_waiting_start deps).le (exhaustive_start deps)
    have hfew : removed.length < (deps.entries.map Prod.fst).length := by
      have hlt : processed deps deps.entries.length (startDegrees deps) (startReady deps) <
        deps.entries.length := of_decide_eq_true hcycle
      rw [List.length_map, hlength, List.length_nil, Nat.zero_add]
      exact hlt
    -- what is left over when the stack is empty
    let left := (deps.entries.map Prod.fst).filter fun node => decide (node ∉ removed)
    have hleft : ∀ node, node ∈ left ↔ deps.contains node = true ∧ node ∉ removed := by
      intro node
      rw [List.mem_filter, decide_eq_true_eq, contains_iff_mem_keys]
    have hne : left ≠ [] := by
      intro hnil
      have hsub : (deps.entries.map Prod.fst).Subperm removed := by
        refine deps.nodup.subperm fun node hnode => ?_
        by_contra hmem
        have hin : node ∈ left := List.mem_filter.mpr ⟨hnode, by simpa using hmem⟩
        rw [hnil] at hin
        cases hin
      exact absurd hsub.length_le (not_le.mpr hfew)
    obtain ⟨node, hnode, hreach⟩ := exists_cycle_of_successors
      (r := fun a b => b ∈ refsOf deps a) hne (by
        intro node hnode
        obtain ⟨hkey, hopen⟩ := (hleft node).mp hnode
        obtain ⟨refs, hget⟩ := (Dict.contains_iff _ _).mp hkey
        have hdegree : inDegree.getD node 0 ≠ 0 := fun hzero => hopen (hall node hkey hzero)
        rw [hend.degree node refs hget] at hdegree
        have hpos : 0 < refs.countP fun r => decide (r ∉ removed) := by omega
        obtain ⟨ref, href, hwaits⟩ := List.countP_pos_iff.mp hpos
        have hedge : ref ∈ refsOf deps node := by
          rw [refsOf_of_get? hget]
          exact href
        exact ⟨ref, (hleft ref).mpr ⟨hkeys node ref hedge, of_decide_eq_true hwaits⟩, hedge⟩)
    exact ⟨node, ((hleft node).mp hnode).1, hreach⟩
  · rintro ⟨node, hkey, hreach⟩
    by_contra hcycle
    rw [Bool.not_eq_true] at hcycle
    obtain ⟨order, -, horder, hlisted⟩ := exists_order_of_hasCycle_eq_false hnodup' hcycle
    exact horder.acyclic (hlisted node hkey) hreach

end Loop

/-! ## The edges of a plan -/

section Plan

/-- A task refers to another one, or to itself, by its `after`. -/
def Refers (nodes : List TaskNode) (id ref : String) : Prop :=
  ∃ node ∈ nodes, node.id = id ∧ ∃ after, node.after = some after ∧ afterRef after = ref

/-- A task waits for another one. -/
def Awaits (nodes : List TaskNode) (id ref : String) : Prop := Refers nodes id ref ∧ ref ≠ id

/-- The loop over the nodes adds no other edge than the references of the nodes. -/
lemma mem_foldl_addEdge (taskIds : List String) (nodes : List TaskNode)
    (deps : Dict String (List String)) {id ref : String}
    (h : ref ∈ refsOf (nodes.foldl (addEdge taskIds) deps) id) :
    ref ∈ refsOf deps id ∨ ref ∈ taskIds ∧ Awaits nodes id ref := by
  induction nodes generalizing deps with
  | nil => exact .inl h
  | cons first nodes ih =>
    rcases ih _ h with hbefore | ⟨hmem, ⟨node, hnode, hrefers⟩, hne⟩
    · rcases (mem_refsOf_addEdge taskIds deps first id ref).mp hbefore with hold | hnew
      · exact .inl hold
      · obtain ⟨rfl, hmem, hne, hafter⟩ := hnew
        exact .inr ⟨hmem, ⟨first, List.mem_cons_self, rfl, hafter⟩, hne⟩
    · exact .inr ⟨hmem, ⟨node, List.mem_cons_of_mem _ hnode, hrefers⟩, hne⟩

/-- The edges of a plan are the references of its tasks to other tasks of the plan. -/
lemma mem_refsOf_dependencyEdges (nodes : List TaskNode) (id ref : String) :
    ref ∈ refsOf (dependencyEdges nodes) id ↔
      ref ∈ nodes.map TaskNode.id ∧ Awaits nodes id ref := by
  constructor
  · intro h
    obtain ⟨hempty, -, -⟩ := foldl_keys nodes Dict.empty fun _ => rfl
    rw [dependencyEdges_eq] at h
    rcases mem_foldl_addEdge _ _ _ h with hold | hnew
    · rw [hempty id] at hold
      cases hold
    · exact hnew
  · rintro ⟨hmem, ⟨node, hnode, rfl, after, hafter, rfl⟩, hne⟩
    exact (dependencyEdges_spec nodes).2.2 node hnode after hafter hmem hne

/-- A path that ends at a task is one of edges: what is passed on the way has a dependency. -/
lemma reaches_of_awaits {nodes : List TaskNode} {id ref : String}
    (hmem : ref ∈ nodes.map TaskNode.id) (h : TransGen (Awaits nodes) id ref) :
    TransGen (fun a b => b ∈ refsOf (dependencyEdges nodes) a) id ref := by
  induction h using TransGen.head_induction_on with
  | single hstep => exact .single ((mem_refsOf_dependencyEdges nodes _ _).mpr ⟨hmem, hstep⟩)
  | @head a c hstep hrest ih =>
    obtain ⟨d, ⟨⟨node, hnode, rfl, -⟩, -⟩, -⟩ := TransGen.head'_iff.mp hrest
    have hc : node.id ∈ nodes.map TaskNode.id := List.mem_map_of_mem hnode
    exact .head ((mem_refsOf_dependencyEdges nodes _ _).mpr ⟨hc, hstep⟩) ih

/-- **The cycle check is exact.**  On every list of tasks it reports a cycle exactly when some task
reaches itself through references to other tasks, and its loop ends within as many steps as there
are tasks. -/
theorem checks_cycles (nodes : List TaskNode) :
    (hasCycle (dependencyEdges nodes) = true ↔
      ∃ node ∈ nodes, TransGen (Awaits nodes) node.id node.id) ∧
    ∀ extra, processed (dependencyEdges nodes) ((dependencyEdges nodes).entries.length + extra)
        (startDegrees (dependencyEdges nodes)) (startReady (dependencyEdges nodes)) =
      processed (dependencyEdges nodes) (dependencyEdges nodes).entries.length
        (startDegrees (dependencyEdges nodes)) (startReady (dependencyEdges nodes)) := by
  obtain ⟨hnodup, hkeys, -⟩ := dependencyEdges_spec nodes
  refine ⟨?_, fun extra => hasCycle_fuel (dependencyEdges nodes) extra⟩
  have hrefs : ∀ id, ∀ ref ∈ refsOf (dependencyEdges nodes) id,
      (dependencyEdges nodes).contains ref = true := by
    intro id ref href
    obtain ⟨node, hnode, rfl⟩ := List.mem_map.mp ((mem_refsOf_dependencyEdges nodes id ref).mp href).1
    exact hkeys node hnode
  rw [hasCycle_eq_true_iff hnodup hrefs]
  constructor
  · rintro ⟨id, -, hcycle⟩
    have hawaits : TransGen (Awaits nodes) id id :=
      TransGen.mono (fun a b h => ((mem_refsOf_dependencyEdges nodes a b).mp h).2) id id hcycle
    obtain ⟨ref, ⟨⟨node, hnode, rfl, -⟩, -⟩, -⟩ := TransGen.head'_iff.mp hawaits
    exact ⟨node, hnode, hawaits⟩
  · rintro ⟨node, hnode, hcycle⟩
    exact ⟨node.id, hkeys node hnode, reaches_of_awaits (List.mem_map_of_mem hnode) hcycle⟩

/-- A task that waits for itself. -/
def selfish : TaskNode where
  id := "a"
  robot := "bot1"
  action := "navigate"
  after := some "a.completed"

/-- **A reference of a task to itself is no cycle.**  The task reaches itself in one step, and the
check reports nothing. -/
theorem selfish_unreported :
    ¬ (hasCycle (dependencyEdges [selfish]) = true ↔
      ∃ node ∈ [selfish], TransGen (Refers [selfish]) node.id node.id) := by
  intro hiff
  have hself : Refers [selfish] "a" "a" :=
    ⟨selfish, List.mem_singleton_self _, rfl, "a.completed", rfl, by decide⟩
  have hcycle := hiff.mpr ⟨selfish, List.mem_singleton_self _, .single hself⟩
  have hnone : hasCycle (dependencyEdges [selfish]) = false := by decide
  rw [hnone] at hcycle
  cases hcycle

end Plan

end MiniatureWarehouse
