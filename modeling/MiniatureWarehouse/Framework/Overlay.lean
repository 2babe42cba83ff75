import MiniatureWarehouse.Framework.Documents
import Mathlib.Data.List.Induction

/-!
# Layered documents

A configuration is put together from layers: each document overlays the ones before it, mappings
are merged key by key at every depth, and whatever else a layer holds replaces what was there.

`Doc.decides d p` is what the layer `d` decides about the place `p`: nothing when it stops short of
it at a mapping, and that there is nothing to be found when it has another value on the way.  The
main results are the two laws that make a layered document predictable without running the merge:

* `seen_mergeValue`: what is seen in an overlaid document is what the overlay decides, or else what was
  seen before;
* `seen_mergeAll`: what is seen after any number of layers is decided by the last one that decides
  anything.
-/

namespace MiniatureWarehouse

namespace Doc

variable {κ β : Type*} [DecidableEq κ]

/-! ## Merging -/

mutual

/-- A value over what a key held before: two mappings are merged, and any other value takes the
place. -/
def mergeValue : Option (Doc κ β) → Doc κ β → Doc κ β
  | some (.dict es), .dict fs => .dict (mergeEntries es fs)
  | _, d => d

/-- The entries of an overlay over those of a mapping, one after another. -/
def mergeEntries : List (κ × Doc κ β) → List (κ × Doc κ β) → List (κ × Doc κ β)
  | es, [] => es
  | es, (k, d) :: fs => mergeEntries (Dict.assign es k (mergeValue (Dict.find es k) d)) fs

end

/-- All layers over a document, in their order. -/
def mergeAll (d : Doc κ β) (layers : List (Doc κ β)) : Doc κ β :=
  layers.foldl (fun d layer => mergeValue (some d) layer) d

lemma mergeValue_leaf (o : Option (Doc κ β)) (v : β) : mergeValue o (leaf v) = leaf v := by
  rcases o with _ | (u | ds | es) <;> rfl

lemma mergeValue_list (o : Option (Doc κ β)) (ds : List (Doc κ β)) :
    mergeValue o (list ds) = list ds := by
  rcases o with _ | (u | ds | es) <;> rfl

lemma find_mergeEntries {fs : List (κ × Doc κ β)} (hfs : (fs.map Prod.fst).Nodup)
    (es : List (κ × Doc κ β)) (k : κ) :
    Dict.find (mergeEntries es fs) k =
      match Dict.find fs k with
      | some d => some (mergeValue (Dict.find es k) d)
      | none => Dict.find es k := by
  induction fs generalizing es with
  | nil => simp [mergeEntries, Dict.find]
  | cons f fs ih =>
    obtain ⟨j, d⟩ := f
    rw [List.map_cons, List.nodup_cons] at hfs
    rw [mergeEntries, ih hfs.2]
    by_cases hk : j = k
    · subst hk
      have hnone : Dict.find fs j = none := Dict.find_eq_none.mpr hfs.1
      simp [Dict.find, Dict.find_assign, hnone]
    · simp [Dict.find, Dict.find_assign, hk, Ne.symm hk]

/-- Assigning keeps what holds of all entries. -/
lemma forall_mem_assign {P : κ × Doc κ β → Prop} {es : List (κ × Doc κ β)} (h : ∀ e ∈ es, P e)
    {k : κ} {d : Doc κ β} (hd : P (k, d)) : ∀ e ∈ Dict.assign es k d, P e := by
  induction es with
  | nil => simpa [Dict.assign] using hd
  | cons e es ih =>
    obtain ⟨j, c⟩ := e
    rw [List.forall_mem_cons] at h
    rw [Dict.assign]
    split_ifs with hk
    · subst hk
      exact List.forall_mem_cons.mpr ⟨hd, h.2⟩
    · exact List.forall_mem_cons.mpr ⟨h.1, ih h.2⟩

/-- Merging documents without repeated keys repeats none. -/
lemma keysDistinct_mergeValue {d : Doc κ β} (hd : d.keysDistinct = true) {o : Option (Doc κ β)}
    (ho : ∀ c ∈ o, c.keysDistinct = true) : (mergeValue o d).keysDistinct = true := by
  induction d using Doc.induction generalizing o with
  | leaf v => rwa [mergeValue_leaf]
  | list ds => rwa [mergeValue_list]
  | dict fs ih =>
    rcases o with _ | (v | ds | es)
    · exact hd
    · exact hd
    · exact hd
    · have hes := ho (dict es) rfl
      rw [mergeValue]
      have hfs := (keysDistinct_dict.mp hd).2
      clear ho hd
      induction fs generalizing es with
      | nil => exact hes
      | cons f fs ihfs =>
        obtain ⟨k, c⟩ := f
        obtain ⟨hnodup, hvalues⟩ := keysDistinct_dict.mp hes
        rw [List.forall_mem_cons] at ih hfs
        rw [mergeEntries]
        refine ihfs ih.2 _ (keysDistinct_dict.mpr ⟨Dict.nodup_assign hnodup _ _, ?_⟩) hfs.2
        refine forall_mem_assign hvalues (ih.1 hfs.1 fun c' hc' => ?_)
        exact hvalues (k, c') ((Dict.find_eq_some_iff hnodup).mp hc')

/-! ## What a document shows -/

/-- What there is to be seen at a place: nothing, a mapping, or a value of another kind. -/
inductive Seen (κ β : Type*)
  | absent
  | mapping
  | plain (d : Doc κ β)

/-- What a layer decides about a place. -/
def decides : Doc κ β → List κ → Option (Seen κ β)
  | .dict _, [] => some .mapping
  | .dict es, k :: p =>
    match Dict.find es k with
    | some d => decides d p
    | none => none
  | d, [] => some (.plain d)
  | _, _ :: _ => some .absent

/-- What is seen at a place. -/
def seen (d : Doc κ β) (p : List κ) : Seen κ β := (d.decides p).getD .absent

/-- What is seen below what a key holds, if it holds anything. -/
def seenUnder (o : Option (Doc κ β)) (p : List κ) : Seen κ β :=
  match o with
  | some d => d.seen p
  | none => .absent

@[simp] lemma seen_dict_nil (es : List (κ × Doc κ β)) : (dict es).seen [] = .mapping := rfl

lemma seen_dict_cons (es : List (κ × Doc κ β)) (k : κ) (p : List κ) :
    (dict es).seen (k :: p) = seenUnder (Dict.find es k) p := by
  unfold seen seenUnder
  rw [decides]
  cases Dict.find es k <;> rfl

/-- **The overlay law.**  What is seen in an overlaid document is what the overlay decides, or else
what was seen before. -/
theorem seen_mergeValue {d : Doc κ β} (hd : d.keysDistinct = true) (o : Option (Doc κ β))
    (p : List κ) : (mergeValue o d).seen p = (d.decides p).getD (seenUnder o p) := by
  induction d using Doc.induction generalizing o p with
  | leaf v =>
    rw [mergeValue_leaf]
    cases p <;> rfl
  | list ds =>
    rw [mergeValue_list]
    cases p <;> rfl
  | dict fs ih =>
    obtain ⟨hnodup, hvalues⟩ := keysDistinct_dict.mp hd
    cases p with
    | nil => rcases o with _ | (v | ds | es) <;> rfl
    | cons k p =>
      rcases o with _ | (v | ds | es)
      · rfl
      · simp only [mergeValue, seen, decides, seenUnder]
        cases Dict.find fs k <;> rfl
      · simp only [mergeValue, seen, decides, seenUnder]
        cases Dict.find fs k <;> rfl
      · rw [mergeValue, seen_dict_cons, find_mergeEntries hnodup, decides]
        cases hfind : Dict.find fs k with
        | none => exact (seen_dict_cons es k p).symm
        | some d =>
          have hmem := (Dict.find_eq_some_iff hnodup).mp hfind
          have hih := ih (k, d) hmem (hvalues (k, d) hmem) (Dict.find es k) p
          simp only [seenUnder, seen_dict_cons] at hih ⊢
          exact hih

/-- The last layer that decides about a place. -/
def lastDecides (layers : List (Doc κ β)) (p : List κ) : Option (Seen κ β) :=
  layers.reverse.findSome? fun layer => layer.decides p

lemma lastDecides_append (layers others : List (Doc κ β)) (p : List κ) :
    lastDecides (layers ++ others) p = (lastDecides others p).or (lastDecides layers p) := by
  unfold lastDecides
  rw [List.reverse_append, List.findSome?_append]

@[simp] lemma lastDecides_singleton (layer : Doc κ β) (p : List κ) :
    lastDecides [layer] p = layer.decides p := by
  unfold lastDecides
  cases h : layer.decides p <;> simp [h]

/-- Layers that decide nothing about a place are as good as none. -/
lemma lastDecides_eq_none {layers : List (Doc κ β)} {p : List κ}
    (h : ∀ layer ∈ layers, layer.decides p = none) : lastDecides layers p = none := by
  unfold lastDecides
  rw [List.findSome?_eq_none_iff]
  intro layer hlayer
  exact h layer (List.mem_reverse.mp hlayer)

/-- **The law of layers.**  The last layer that decides about a place decides what is seen there. -/
theorem seen_mergeAll {layers : List (Doc κ β)} (h : ∀ d ∈ layers, d.keysDistinct = true)
    (d : Doc κ β) (p : List κ) :
    (mergeAll d layers).seen p = (lastDecides layers p).getD (d.seen p) := by
  induction layers using List.reverseRecOn with
  | nil => rfl
  | append_singleton layers layer ih =>
    have hlayer := h layer (by simp)
    have hbefore := ih fun d' hd' => h d' (by simp [hd'])
    unfold mergeAll at *
    rw [List.foldl_append, List.foldl_cons, List.foldl_nil, seen_mergeValue hlayer,
      lastDecides_append, lastDecides_singleton, seenUnder, hbefore]
    cases layer.decides p <;> rfl

end Doc

end MiniatureWarehouse
