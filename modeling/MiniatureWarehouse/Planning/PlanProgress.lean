import MiniatureWarehouse.Planning.TaskLifecycle
import MiniatureWarehouse.Planning.Validator

/-!
# Accepted plans make progress

The validator and the executor read the dependency of a task separately: the one builds a graph
from the references and looks for a cycle by removing released nodes one by one, the other looks
up the status of the task a reference names.  This file joins them.  The order in which the cycle
check removes the nodes respects the dependencies, so when it has removed them all, the first
unfinished task of that order waits for nothing, and the executor offers it.
-/

namespace MiniatureWarehouse

/-! ## Orders that respect dependencies -/

section Order

variable {κ : Type*}

/-- Every element of the list, the newest first, comes after what it depends on. -/
def Respects (refs : κ → List κ) : List κ → Prop
  | [] => True
  | n :: older => (∀ r ∈ refs n, r ∈ older) ∧ Respects refs older

/-- The older part of such an order is one. -/
lemma Respects.of_append {refs : κ → List κ} {newer older : List κ}
    (h : Respects refs (newer ++ older)) : Respects refs older := by
  induction newer with
  | nil => exact h
  | cons n newer ih => exact ih h.2

/-- Some unfinished element of such an order depends on finished ones only. -/
lemma Respects.exists_released {refs : κ → List κ} {order : List κ} (h : Respects refs order)
    (done : κ → Prop) {n : κ} (hn : n ∈ order) (hopen : ¬ done n) :
    ∃ m ∈ order, ¬ done m ∧ ∀ r ∈ refs m, done r := by
  induction order generalizing n with
  | nil => cases hn
  | cons newest older ih =>
    obtain ⟨hrefs, holder⟩ := h
    by_cases hall : ∀ r ∈ older, done r
    · have hnewest : n = newest := by
        rcases List.mem_cons.mp hn with heq | hmem
        · exact heq
        · exact absurd (hall n hmem) hopen
      rw [hnewest] at hopen
      exact ⟨newest, List.mem_cons_self, hopen, fun r hr => hall r (hrefs r hr)⟩
    · push Not at hall
      obtain ⟨m, hmem, hm⟩ := hall
      obtain ⟨k, hk, hkopen, hreleased⟩ := ih holder hmem hm
      exact ⟨k, List.mem_cons_of_mem _ hk, hkopen, hreleased⟩

/-- One more finished element is waited for once by each list that has it. -/
lemma countP_not_mem_cons [DecidableEq κ] {refs finished : List κ} {current : κ}
    (hrefs : refs.Nodup) (hcurrent : current ∉ finished) :
    refs.countP (fun r => decide (r ∉ finished)) =
      refs.countP (fun r => decide (r ∉ current :: finished)) +
        if current ∈ refs then 1 else 0 := by
  induction refs with
  | nil => simp
  | cons r refs ih =>
    rw [List.nodup_cons] at hrefs
    have hrest := ih hrefs.2
    rw [List.countP_cons, List.countP_cons, hrest]
    by_cases hr : r = current
    · subst hr
      simp [hrefs.1, hcurrent]
    · have hother : r ∉ current :: finished ↔ r ∉ finished := by simp [hr]
      have hmem : current ∈ r :: refs ↔ current ∈ refs := by simp [Ne.symm hr]
      simp only [hother, hmem]
      omega

end Order

/-! ## The order of the cycle check -/

section CycleCheck

/-- What a node depends on, as the cycle check has it. -/
def refsOf (deps : Dict String (List String)) (node : String) : List String := deps.getD node []

lemma refsOf_of_get? {deps : Dict String (List String)} {node : String} {refs : List String}
    (h : deps.get? node = some refs) : refsOf deps node = refs := by
  unfold refsOf Dict.getD
  rw [h]
  rfl

lemma mem_dependentsOf {deps : Dict String (List String)} {current node : String} :
    node ∈ dependentsOf deps current ↔
      ∃ refs, deps.get? node = some refs ∧ current ∈ refs := by
  unfold dependentsOf
  rw [List.mem_filterMap]
  constructor
  · rintro ⟨⟨n, refs⟩, hentry, hif⟩
    by_cases hmem : current ∈ refs
    · simp only [if_pos hmem, Option.some.injEq] at hif
      subst hif
      exact ⟨refs, deps.mem_entries_iff.mp hentry, hmem⟩
    · simp [hmem] at hif
  · rintro ⟨refs, hget, hmem⟩
    exact ⟨(node, refs), deps.mem_entries_iff.mpr hget, by simp [hmem]⟩

/-- The nodes with a property of their entry, in order and without repetition. -/
lemma nodup_filterMap_keys (p : List String → Prop) [DecidablePred p]
    (deps : Dict String (List String)) :
    (deps.entries.filterMap fun e => if p e.2 then some e.1 else none).Nodup := by
  have hsub : (deps.entries.filterMap fun e => if p e.2 then some e.1 else none).Sublist
      (deps.entries.map Prod.fst) := by
    induction deps.entries with
    | nil => exact .slnil
    | cons e es ih =>
      by_cases hp : p e.2
      · rw [List.filterMap_cons_some (by rw [if_pos hp]), List.map_cons]
        exact ih.cons_cons _
      · rw [List.filterMap_cons_none (by rw [if_neg hp]), List.map_cons]
        exact ih.cons _
  exact deps.nodup.sublist hsub

lemma nodup_dependentsOf (deps : Dict String (List String)) (current : String) :
    (dependentsOf deps current).Nodup := nodup_filterMap_keys (fun refs => current ∈ refs) deps

/-- Releasing takes one from the degree of each dependent. -/
lemma getD_releaseDependents {dependents : List String} (hnodup : dependents.Nodup)
    (inDegree : Dict String ℤ) (ready : List String) (node : String) :
    (releaseDependents dependents inDegree ready).1.getD node 0 =
      inDegree.getD node 0 - if node ∈ dependents then 1 else 0 := by
  induction dependents generalizing inDegree ready with
  | nil => simp [releaseDependents]
  | cons dependent rest ih =>
    rw [List.nodup_cons] at hnodup
    have hset : (inDegree.set dependent (inDegree.getD dependent 0 - 1)).getD node 0 =
        inDegree.getD node 0 - if node = dependent then 1 else 0 := by
      unfold Dict.getD
      rw [Dict.get?_set]
      split_ifs with hnode
      · rw [hnode]
        rfl
      · simp
    unfold releaseDependents
    rw [ih hnodup.2, hset]
    by_cases hnode : node = dependent
    · subst hnode
      simp [hnodup.1]
    · simp [hnode]

/-- The nodes that join the stack were waiting for this one only. -/
lemma ready_releaseDependents {dependents : List String} (hnodup : dependents.Nodup)
    (inDegree : Dict String ℤ) (ready : List String) :
    ∃ joined, (releaseDependents dependents inDegree ready).2 = joined ++ ready ∧
      joined.Nodup ∧ ∀ node ∈ joined, node ∈ dependents ∧ inDegree.getD node 0 = 1 := by
  induction dependents generalizing inDegree ready with
  | nil => exact ⟨[], rfl, List.nodup_nil, fun _ h => by cases h⟩
  | cons dependent rest ih =>
    rw [List.nodup_cons] at hnodup
    unfold releaseDependents
    set degree := inDegree.getD dependent 0 - 1 with hdegree
    obtain ⟨joined, heq, hjoined, hall⟩ := ih hnodup.2 (inDegree.set dependent degree)
      (if degree = 0 then dependent :: ready else ready)
    have hrest : ∀ node ∈ joined, node ∈ dependent :: rest ∧ inDegree.getD node 0 = 1 := by
      intro node hnode
      obtain ⟨hmem, hone⟩ := hall node hnode
      have hne : node ≠ dependent := fun h => hnodup.1 (h ▸ hmem)
      unfold Dict.getD at hone ⊢
      rw [Dict.get?_set_of_ne _ _ hne] at hone
      exact ⟨List.mem_cons_of_mem _ hmem, hone⟩
    by_cases hzero : degree = 0
    · refine ⟨joined ++ [dependent], ?_, ?_, ?_⟩
      · rw [heq, if_pos hzero, List.append_assoc, List.singleton_append]
      · rw [List.nodup_append]
        refine ⟨hjoined, List.nodup_singleton _, ?_⟩
        rintro node hnode other hother rfl
        rw [List.mem_singleton] at hother
        exact hnodup.1 (hother ▸ (hall node hnode).1)
      · intro node hnode
        rcases List.mem_append.mp hnode with hold | hnew
        · exact hrest node hold
        · rw [List.mem_singleton.mp hnew]
          exact ⟨List.mem_cons_self, by omega⟩
    · refine ⟨joined, ?_, hjoined, hrest⟩
      rw [heq, if_neg hzero]

/-- Where the loop of the cycle check is: the removed nodes, the newest first, are listed in an
order that respects the dependencies, and the degree of a node counts what it still waits for. -/
structure Removing (deps : Dict String (List String)) (removed : List String)
    (inDegree : Dict String ℤ) (ready : List String) : Prop where
  nodup : (ready ++ removed).Nodup
  nodes : ∀ node ∈ ready ++ removed, deps.contains node = true
  degree : ∀ node refs, deps.get? node = some refs →
    inDegree.getD node 0 = (refs.countP fun r => decide (r ∉ removed) : ℕ)
  free : ∀ node ∈ ready ++ removed, inDegree.getD node 0 = 0
  order : Respects (refsOf deps) removed

/-- What a node depends on is removed once its degree is zero. -/
lemma Removing.refs_removed {deps : Dict String (List String)} {removed : List String}
    {inDegree : Dict String ℤ} {ready : List String} (h : Removing deps removed inDegree ready)
    {node : String} {refs : List String} (hget : deps.get? node = some refs)
    (hzero : inDegree.getD node 0 = 0) : ∀ r ∈ refs, r ∈ removed := by
  have hcount : refs.countP (fun r => decide (r ∉ removed)) = 0 := by
    have hdegree := h.degree node refs hget
    omega
  rw [List.countP_eq_zero] at hcount
  intro r hr
  simpa using hcount r hr

/-- **Step of the cycle check.**  Removing the node on top of the stack keeps the invariant. -/
lemma Removing.step {deps : Dict String (List String)}
    (hrefs : ∀ node refs, deps.get? node = some refs → refs.Nodup)
    {removed : List String} {inDegree : Dict String ℤ} {current : String} {ready : List String}
    (h : Removing deps removed inDegree (current :: ready)) :
    Removing deps (current :: removed)
      (releaseDependents (dependentsOf deps current) inDegree ready).1
      (releaseDependents (dependentsOf deps current) inDegree ready).2 := by
  have hnodup := nodup_dependentsOf deps current
  obtain ⟨joined, hready, hjoined, hall⟩ := ready_releaseDependents hnodup inDegree ready
  have hperm : (ready ++ current :: removed).Perm ((current :: ready) ++ removed) :=
    List.perm_middle
  have hold : ∀ node ∈ ready ++ current :: removed, inDegree.getD node 0 = 0 :=
    fun node hnode => h.free node (hperm.mem_iff.mp hnode)
  have hcurrent : current ∉ removed := by
    have hcons : (current :: (ready ++ removed)).Nodup := h.nodup
    exact fun hmem => (List.nodup_cons.mp hcons).1 (List.mem_append_right _ hmem)
  -- a node that is removed or on the stack is no dependent of the current one
  have hindependent : ∀ node ∈ ready ++ current :: removed, node ∉ dependentsOf deps current := by
    intro node hnode hdependent
    obtain ⟨refs, hget, hmem⟩ := mem_dependentsOf.mp hdependent
    exact hcurrent (h.refs_removed hget (hold node hnode) current hmem)
  refine ⟨?_, ?_, ?_, ?_, ?_, h.order⟩
  · rw [hready, List.append_assoc, List.nodup_append]
    refine ⟨hjoined, hperm.nodup_iff.mpr h.nodup, ?_⟩
    rintro node hnode other hother rfl
    have hone := (hall node hnode).2
    rw [hold node hother] at hone
    cases hone
  · intro node hnode
    rw [hready, List.append_assoc] at hnode
    rcases List.mem_append.mp hnode with hnew | hrest
    · obtain ⟨refs, hget, -⟩ := mem_dependentsOf.mp (hall node hnew).1
      exact (Dict.contains_iff _ _).mpr ⟨refs, hget⟩
    · exact h.nodes node (hperm.mem_iff.mp hrest)
  · intro node refs hget
    have hcount := countP_not_mem_cons (hrefs node refs hget) hcurrent
    have hdegree := h.degree node refs hget
    have hmem : node ∈ dependentsOf deps current ↔ current ∈ refs := by
      rw [mem_dependentsOf, hget]
      simp
    rw [getD_releaseDependents hnodup, hdegree, hcount]
    simp only [hmem]
    split_ifs <;> simp
  · intro node hnode
    rw [hready, List.append_assoc] at hnode
    rw [getD_releaseDependents hnodup]
    rcases List.mem_append.mp hnode with hnew | hrest
    · rw [if_pos (hall node hnew).1, (hall node hnew).2]
      rfl
    · rw [if_neg (hindependent node hrest), hold node hrest]
      rfl
  · obtain ⟨refs, hget⟩ := (Dict.contains_iff _ _).mp (h.nodes current (by simp))
    have hzero : inDegree.getD current 0 = 0 := h.free current (by simp)
    rw [refsOf_of_get? hget]
    exact h.refs_removed hget hzero

/-- The loop lists as many nodes as it counts. -/
lemma Removing.exists_order {deps : Dict String (List String)}
    (hrefs : ∀ node refs, deps.get? node = some refs → refs.Nodup) (fuel : ℕ)
    {removed : List String} {inDegree : Dict String ℤ} {ready : List String}
    (h : Removing deps removed inDegree ready) :
    ∃ order, order.Nodup ∧ (∀ node ∈ order, deps.contains node = true) ∧
      Respects (refsOf deps) order ∧
      order.length = removed.length + processed deps fuel inDegree ready := by
  have hstop : ∃ order, order.Nodup ∧ (∀ node ∈ order, deps.contains node = true) ∧
      Respects (refsOf deps) order ∧ order.length = removed.length + 0 :=
    ⟨removed, (List.nodup_append.mp h.nodup).2.1,
      fun node hnode => h.nodes node (List.mem_append_right _ hnode), h.order, rfl⟩
  induction fuel generalizing removed inDegree ready with
  | zero => exact hstop
  | succ fuel ih =>
    cases ready with
    | nil => exact hstop
    | cons current ready =>
      have hnext := h.step hrefs
      obtain ⟨order, hnodup, hnodes, horder, hlength⟩ := ih hnext
        ⟨_, (List.nodup_append.mp hnext.nodup).2.1,
          fun node hnode => hnext.nodes node (List.mem_append_right _ hnode), hnext.order, rfl⟩
      refine ⟨order, hnodup, hnodes, horder, ?_⟩
      rw [hlength, List.length_cons]
      simp only [processed]
      omega

/-- The loop starts with nothing removed and the nodes that depend on nothing on the stack. -/
lemma removing_start (deps : Dict String (List String)) :
    Removing deps [] (deps.mapValues fun _ refs => (refs.length : ℤ))
      (deps.entries.filterMap fun e => if e.2.length = 0 then some e.1 else none).reverse := by
  have hmem : ∀ node ∈ (deps.entries.filterMap fun e =>
      if e.2.length = 0 then some e.1 else none).reverse, deps.get? node = some [] := by
    intro node hnode
    rw [List.mem_reverse, List.mem_filterMap] at hnode
    obtain ⟨⟨n, refs⟩, hentry, hif⟩ := hnode
    dsimp only at hif
    by_cases hnil : refs.length = 0
    · rw [if_pos hnil, Option.some.injEq] at hif
      rw [List.length_eq_zero_iff] at hnil
      subst hif hnil
      exact deps.mem_entries_iff.mp hentry
    · rw [if_neg hnil] at hif
      cases hif
  have hdegree : ∀ node refs, deps.get? node = some refs →
      (deps.mapValues fun _ refs => (refs.length : ℤ)).getD node 0 = refs.length := by
    intro node refs hget
    unfold Dict.getD
    rw [Dict.get?_mapValues, hget]
    rfl
  refine ⟨?_, ?_, ?_, ?_, trivial⟩
  · rw [List.append_nil, List.nodup_reverse]
    exact nodup_filterMap_keys (fun refs => refs.length = 0) deps
  · intro node hnode
    rw [List.append_nil] at hnode
    exact (Dict.contains_iff _ _).mpr ⟨[], hmem node hnode⟩
  · intro node refs hget
    rw [hdegree node refs hget]
    simp
  · intro node hnode
    rw [List.append_nil] at hnode
    exact hdegree node [] (hmem node hnode)

lemma contains_iff_mem_keys (deps : Dict String (List String)) (node : String) :
    deps.contains node = true ↔ node ∈ deps.entries.map Prod.fst := by
  rw [Dict.contains_iff, Dict.mem_keys_iff]

/-- **Soundness of the cycle check.**  A graph in which it finds no cycle has its nodes listed in
an order that respects the dependencies. -/
theorem exists_order_of_hasCycle_eq_false {deps : Dict String (List String)}
    (hrefs : ∀ node refs, deps.get? node = some refs → refs.Nodup)
    (h : hasCycle deps = false) :
    ∃ order, order.Nodup ∧ Respects (refsOf deps) order ∧
      ∀ node, deps.contains node = true → node ∈ order := by
  obtain ⟨order, hnodup, hnodes, horder, hlength⟩ :=
    (removing_start deps).exists_order hrefs deps.entries.length
  have hall : deps.entries.length ≤ order.length := by
    rw [hlength, List.length_nil, Nat.zero_add]
    exact not_lt.mp (of_decide_eq_false h)
  have hkeys := contains_iff_mem_keys deps
  have hsub : order.Subperm (deps.entries.map Prod.fst) :=
    hnodup.subperm fun node hnode => (hkeys node).mp (hnodes node hnode)
  have hperm : order.Perm (deps.entries.map Prod.fst) :=
    hsub.perm_of_length_le (by rw [List.length_map]; exact hall)
  exact ⟨order, hnodup, horder, fun node hnode => hperm.mem_iff.mpr ((hkeys node).mp hnode)⟩

end CycleCheck

/-! ## The graph of a plan -/

section Edges

/-- One round of the loop that collects the edges. -/
def addEdge (taskIds : List String) (deps : Dict String (List String)) (node : TaskNode) :
    Dict String (List String) :=
  match node.after with
  | none => deps
  | some after =>
    let ref := afterRef after
    if ref ∈ taskIds ∧ ref ≠ node.id then
      let refs := deps.getD node.id []
      deps.set node.id (if ref ∈ refs then refs else refs ++ [ref])
    else deps

lemma dependencyEdges_eq (nodes : List TaskNode) :
    dependencyEdges nodes = nodes.foldl (addEdge (nodes.map TaskNode.id))
      (nodes.foldl (fun deps node => deps.set node.id []) Dict.empty) := rfl

/-- A round adds the reference of its node, if it has one that counts, and drops none. -/
lemma mem_refsOf_addEdge (taskIds : List String) (deps : Dict String (List String))
    (node : TaskNode) (id ref : String) :
    ref ∈ refsOf (addEdge taskIds deps node) id ↔ ref ∈ refsOf deps id ∨
      id = node.id ∧ ref ∈ taskIds ∧ ref ≠ node.id ∧
        ∃ after, node.after = some after ∧ afterRef after = ref := by
  unfold addEdge
  cases hafter : node.after with
  | none => simp
  | some after =>
    dsimp only
    by_cases hcounts : afterRef after ∈ taskIds ∧ afterRef after ≠ node.id
    · rw [if_pos hcounts]
      have hset : refsOf (deps.set node.id (if afterRef after ∈ deps.getD node.id []
            then deps.getD node.id [] else deps.getD node.id [] ++ [afterRef after])) id =
          if id = node.id then (if afterRef after ∈ refsOf deps node.id
            then refsOf deps node.id else refsOf deps node.id ++ [afterRef after])
          else refsOf deps id := by
        unfold refsOf Dict.getD
        rw [Dict.get?_set]
        split_ifs <;> rfl
      rw [hset]
      by_cases hid : id = node.id
      · subst hid
        rw [if_pos rfl]
        split_ifs with hin
        · constructor
          · exact .inl
          · rintro (hold | ⟨-, -, -, after', hafter', rfl⟩)
            · exact hold
            · rw [← Option.some.inj hafter']
              exact hin
        · rw [List.mem_append, List.mem_singleton]
          constructor
          · rintro (hold | rfl)
            · exact .inl hold
            · exact .inr ⟨rfl, hcounts.1, hcounts.2, after, rfl, rfl⟩
          · rintro (hold | ⟨-, -, -, after', hafter', rfl⟩)
            · exact .inl hold
            · rw [← Option.some.inj hafter']
              exact .inr rfl
      · simp [hid]
    · rw [if_neg hcounts]
      constructor
      · exact .inl
      · rintro (hold | ⟨-, hmem, hne, after', hafter', rfl⟩)
        · exact hold
        · rw [← Option.some.inj hafter'] at hmem hne
          exact absurd ⟨hmem, hne⟩ hcounts

/-- A round repeats no reference. -/
lemma nodup_refsOf_addEdge (taskIds : List String) {deps : Dict String (List String)}
    (h : ∀ id, (refsOf deps id).Nodup) (node : TaskNode) (id : String) :
    (refsOf (addEdge taskIds deps node) id).Nodup := by
  unfold addEdge
  cases node.after with
  | none => exact h id
  | some after =>
    dsimp only
    split_ifs with hcounts hin
    · unfold refsOf Dict.getD
      rw [Dict.get?_set]
      split_ifs
      · exact h node.id
      · exact h id
    · unfold refsOf Dict.getD
      rw [Dict.get?_set]
      split_ifs
      · show (refsOf deps node.id ++ [afterRef after]).Nodup
        rw [List.nodup_append]
        refine ⟨h node.id, List.nodup_singleton _, ?_⟩
        rintro r hr other hother rfl
        exact hin (List.mem_singleton.mp hother ▸ hr)
      · exact h id
    · exact h id

/-- A round drops no node. -/
lemma contains_addEdge (taskIds : List String) {deps : Dict String (List String)} {id : String}
    (h : deps.contains id = true) (node : TaskNode) :
    (addEdge taskIds deps node).contains id = true := by
  unfold addEdge
  cases node.after with
  | none => exact h
  | some after =>
    dsimp only
    by_cases hcounts : afterRef after ∈ taskIds ∧ afterRef after ≠ node.id
    · rw [if_pos hcounts, Dict.contains_iff, Dict.get?_set]
      by_cases hid : id = node.id
      · rw [if_pos hid]
        exact ⟨_, rfl⟩
      · rw [if_neg hid]
        exact (Dict.contains_iff _ _).mp h
    · rw [if_neg hcounts]
      exact h

/-- The loop over the nodes: no reference is repeated, no node is dropped, and a reference that was
there or counts for one of the nodes is there in the end. -/
lemma foldl_addEdge (taskIds : List String) (nodes : List TaskNode)
    (deps : Dict String (List String)) (h : ∀ id, (refsOf deps id).Nodup) :
    (∀ id, (refsOf (nodes.foldl (addEdge taskIds) deps) id).Nodup) ∧
    (∀ id, deps.contains id = true → (nodes.foldl (addEdge taskIds) deps).contains id = true) ∧
    (∀ id ref, ref ∈ refsOf deps id → ref ∈ refsOf (nodes.foldl (addEdge taskIds) deps) id) ∧
    ∀ node ∈ nodes, ∀ after, node.after = some after → afterRef after ∈ taskIds →
      afterRef after ≠ node.id →
      afterRef after ∈ refsOf (nodes.foldl (addEdge taskIds) deps) node.id := by
  induction nodes generalizing deps with
  | nil => exact ⟨h, fun _ hid => hid, fun _ _ href => href, fun _ hmem => by cases hmem⟩
  | cons first nodes ih =>
    obtain ⟨hnodup, hkeys, hkeep, hadd⟩ := ih _ (nodup_refsOf_addEdge taskIds h first)
    rw [List.foldl_cons]
    refine ⟨hnodup, ?_, ?_, ?_⟩
    · intro id hid
      exact hkeys id (contains_addEdge taskIds hid first)
    · intro id ref href
      exact hkeep id ref ((mem_refsOf_addEdge taskIds deps first id ref).mpr (.inl href))
    · intro node hnode after hafter hmem hne
      rcases List.mem_cons.mp hnode with rfl | hrest
      · refine hkeep node.id _ ((mem_refsOf_addEdge taskIds deps node node.id _).mpr (.inr ?_))
        exact ⟨rfl, hmem, hne, after, hafter, rfl⟩
      · exact hadd node hrest after hafter hmem hne

/-- The loop that makes the keys: every task gets an empty list. -/
lemma foldl_keys (nodes : List TaskNode) (deps : Dict String (List String))
    (h : ∀ id, refsOf deps id = []) :
    (∀ id, refsOf (nodes.foldl (fun deps node => deps.set node.id []) deps) id = []) ∧
    (∀ id, deps.contains id = true →
      (nodes.foldl (fun deps node => deps.set node.id []) deps).contains id = true) ∧
    ∀ node ∈ nodes,
      (nodes.foldl (fun deps node => deps.set node.id []) deps).contains node.id = true := by
  induction nodes generalizing deps with
  | nil => exact ⟨h, fun _ hid => hid, fun _ hmem => by cases hmem⟩
  | cons first nodes ih =>
    have hset : ∀ id, refsOf (deps.set first.id []) id = [] := by
      intro id
      unfold refsOf Dict.getD
      rw [Dict.get?_set]
      split_ifs
      · rfl
      · exact h id
    obtain ⟨hempty, hkeep, hall⟩ := ih _ hset
    rw [List.foldl_cons]
    refine ⟨hempty, ?_, ?_⟩
    · intro id hid
      apply hkeep
      rw [Dict.contains_iff, Dict.get?_set]
      split_ifs
      · exact ⟨_, rfl⟩
      · exact (Dict.contains_iff _ _).mp hid
    · intro node hnode
      rcases List.mem_cons.mp hnode with rfl | hrest
      · exact hkeep node.id ((Dict.contains_iff _ _).mpr ⟨[], Dict.get?_set_self _ _ _⟩)
      · exact hall node hrest

/-- **The graph the cycle check sees.**  No reference is repeated, every task is a node, and every
reference of a task to another one is an edge. -/
theorem dependencyEdges_spec (nodes : List TaskNode) :
    (∀ id, (refsOf (dependencyEdges nodes) id).Nodup) ∧
    (∀ node ∈ nodes, (dependencyEdges nodes).contains node.id = true) ∧
    ∀ node ∈ nodes, ∀ after, node.after = some after → afterRef after ∈ nodes.map TaskNode.id →
      afterRef after ≠ node.id → afterRef after ∈ refsOf (dependencyEdges nodes) node.id := by
  obtain ⟨hempty, -, hkeys⟩ := foldl_keys nodes Dict.empty fun _ => rfl
  obtain ⟨hnodup, hkeep, -, hadd⟩ := foldl_addEdge (nodes.map TaskNode.id) nodes
    (nodes.foldl (fun deps node => deps.set node.id []) Dict.empty)
    fun id => by rw [hempty id]; exact List.nodup_nil
  rw [dependencyEdges_eq]
  exact ⟨hnodup, fun node hnode => hkeep node.id (hkeys node hnode), hadd⟩

end Edges

/-! ## Progress -/

namespace TaskGraphExecutor

/-- A dependency that is met is still met when a task that has not succeeded changes. -/
lemma dependenciesMet_set {runtime : RuntimeState} {id : String} (status : TaskStatus)
    (hid : runtime.statusOf id ≠ .succeeded) {node : TaskNode}
    (h : dependenciesMet node runtime = true) :
    dependenciesMet node (runtime.set id status) = true := by
  unfold dependenciesMet at h ⊢
  cases hafter : node.after with
  | none => rfl
  | some after =>
    rw [hafter] at h
    simp only [statusOf_set, beq_iff_eq] at h ⊢
    rw [if_neg, h]
    rintro rfl
    exact hid h

/-- A ready node is offered, or another one was. -/
theorem readyLoop_ne_nil {nodes : List TaskNode} {runtime : RuntimeState} {node : TaskNode}
    (hnode : node ∈ nodes) (h : IsReady runtime node) : (readyLoop nodes [] runtime).1 ≠ [] := by
  induction nodes generalizing runtime with
  | nil => cases hnode
  | cons first nodes ih =>
    simp only [readyLoop, List.not_mem_nil, if_false]
    split_ifs with hstatus hdeps hready
    · rcases List.mem_cons.mp hnode with rfl | hrest
      · rw [h.emittable] at hstatus
        cases hstatus
      · exact ih hrest h
    · exact List.cons_ne_nil _ _
    · rcases List.mem_cons.mp hnode with rfl | hrest
      · exact absurd h.released hdeps
      · exact ih hrest h
    · rcases List.mem_cons.mp hnode with rfl | hrest
      · exact absurd h.released hdeps
      · -- the first node is marked pending, which releases and holds nothing
        have hopen : runtime.statusOf first.id ≠ .succeeded := by
          intro hdone
          rw [hdone] at hstatus
          exact hstatus rfl
        refine ih hrest ⟨?_, dependenciesMet_set .pending hopen h.released⟩
        rw [statusOf_set]
        split_ifs
        · rfl
        · exact h.emittable

section Progress

variable {α : Type*} [LinearOrder α]

/-- In an acceptable plan some unfinished task waits for nothing. -/
lemma exists_released {draft : RoboticsPlanDraft α} {ctx : PlanningContext α}
    (h : PlanValidator.PlanAccepted draft ctx) (runtime : RuntimeState)
    (hopen : ∃ node ∈ draft.taskGraph, runtime.statusOf node.id ≠ .succeeded) :
    ∃ node ∈ draft.taskGraph, runtime.statusOf node.id ≠ .succeeded ∧
      dependenciesMet node runtime = true := by
  obtain ⟨hnodup, hkeys, hedges⟩ := dependencyEdges_spec draft.taskGraph
  obtain ⟨order, -, horder, hcovers⟩ := exists_order_of_hasCycle_eq_false
    (fun id refs hget => refsOf_of_get? hget ▸ hnodup id) h.acyclic
  obtain ⟨node, hnode, hstatus⟩ := hopen
  -- what is no task of the plan counts as done, so the first unfinished element is a task
  obtain ⟨first, -, hfirst, hreleased⟩ := horder.exists_released
    (fun id => id ∈ draft.taskGraph.map TaskNode.id → runtime.statusOf id = .succeeded)
    (hcovers node.id (hkeys node hnode))
    fun hdone => hstatus (hdone (List.mem_map_of_mem hnode))
  push Not at hfirst
  obtain ⟨hmem, hunfinished⟩ := hfirst
  obtain ⟨task, htask, rfl⟩ := List.mem_map.mp hmem
  refine ⟨task, htask, hunfinished, ?_⟩
  unfold dependenciesMet
  cases hafter : task.after with
  | none => rfl
  | some after =>
    obtain ⟨-, hknown, hne⟩ := (h.nodes task htask).dependency after hafter
    exact beq_iff_eq.mpr
      (hreleased _ (hedges task htask after hafter hknown hne) hknown)

/-- **Accepted plans cannot deadlock.**  Take any document the validator accepts, the draft it
holds, and any calls of the executor, from whatever handle and store.  If then no task of the plan
is running, failed or cancelled, and some task has not succeeded, the executor offers a task. -/
theorem accepted_plan_progress (model : DraftModel α) (repr : String → String)
    (raw : List (String × PyVal α)) (ctx : PlanningContext α) (report : ValidationReport α)
    (hreport : PlanValidator.validate model repr raw ctx = .ok report)
    (haccepted : report.status = .accepted) (plan : RoboticsPlanDraft α)
    (hplan : model.validate raw = some plan) (live : Live α) (calls : List LifecycleCall) :
    let s := (lifecycle plan).run live calls
    (∀ node ∈ plan.taskGraph, s.handle.statusOf node.id ∉ [.running, .failed, .cancelled]) →
    (∃ node ∈ plan.taskGraph, s.handle.statusOf node.id ≠ .succeeded) →
    ∃ task tasks, ((lifecycle plan).step s .readyTasks).2 = .ok (task :: tasks) := by
  intro s hidle hopen
  have hplanAccepted : PlanValidator.PlanAccepted plan ctx :=
    (PlanValidator.validate_accepted hplan hreport).mp haccepted
  obtain ⟨node, hnode, hunfinished, hmet⟩ := exists_released hplanAccepted s.handle hopen
  have hready : IsReady s.handle node := by
    refine ⟨?_, hmet⟩
    have hstatus := hidle node hnode
    cases hvalue : s.handle.statusOf node.id with
    | pending | ready => rfl
    | succeeded => exact absurd hvalue hunfinished
    | running | failed | cancelled =>
      rw [hvalue] at hstatus
      simp at hstatus
  obtain ⟨task, tasks, htasks⟩ := List.exists_cons_of_ne_nil (readyLoop_ne_nil hnode hready)
  exact ⟨task, tasks, congrArg Except.ok htasks⟩

/-- The first of two tasks in a row has succeeded, and the second is offered. -/
theorem accepted_plan_progress_in_a_row :
    let plan : RoboticsPlanDraft ℚ :=
      { planId := "p1"
        taskGraph := [{ id := "t2", robot := "bot1", action := "wait", after := some "t1.completed" },
          { id := "t1", robot := "bot1", action := "wait" }] }
    let calls : List LifecycleCall := [.readyTasks, .markRunning "t1", .markSucceeded "t1"]
    let s := (lifecycle plan).run (.start .empty) calls
    ∃ task tasks, ((lifecycle plan).step s .readyTasks).2 = .ok (task :: tasks) := by
  intro plan calls s
  have hplan : (DraftModel.strict ℚ).validate (PlanFormat.dumpDraft plan) = some plan :=
    (DraftModel.strict ℚ).validate_dump plan
  have hreport : PlanValidator.validate (.strict ℚ) id (PlanFormat.dumpDraft plan) {} =
      .ok (.fromRules (PlanValidator.findings id plan {}) (PlanFormat.dumpDraft plan)) :=
    PlanValidator.validate_of_valid hplan
  exact accepted_plan_progress (.strict ℚ) id (PlanFormat.dumpDraft plan) {} _ hreport
    (by decide +kernel) plan hplan (.start .empty) calls (by decide +kernel) (by decide +kernel)

end Progress

end TaskGraphExecutor

end MiniatureWarehouse
