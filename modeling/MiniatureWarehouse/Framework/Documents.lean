import MiniatureWarehouse.Framework.Dict

/-!
# Nested documents

A document nests mappings and lists over leaves; `Doc κ β` has keys in `κ` and leaves in `β`.  A
place in it is a path of keys and indices, and `Doc.at?` is what stands there.

A predicate on keys says which values are to be hidden.  `AgreeOutside` relates two documents that
differ in such values only, `mask` puts a mark in the place of each, and `hiddenPaths` lists the
places of the marks.  A hidden value is hidden whole: what it contains has no place of its own in
the list.

* `mask_eq_mask_iff`: masking forgets exactly the hidden values;
* `at?_mask`: every place outside them keeps what stands there;
* `mem_hiddenPaths`: the places listed are the keys that are hidden and below no other such key.
-/

namespace MiniatureWarehouse

/-- A document. -/
inductive Doc (κ β : Type*)
  | leaf (v : β)
  | list (ds : List (Doc κ β))
  | dict (es : List (κ × Doc κ β))

namespace Doc

variable {κ β : Type*}

/-- What holds of a container when it holds of all it contains holds of every document. -/
@[elab_as_elim]
lemma induction {motive : Doc κ β → Prop} (leaf : ∀ v, motive (.leaf v))
    (list : ∀ ds, (∀ d ∈ ds, motive d) → motive (.list ds))
    (dict : ∀ es, (∀ e ∈ es, motive e.2) → motive (.dict es)) (d : Doc κ β) : motive d :=
  @Doc.rec κ β motive (fun ds => ∀ d ∈ ds, motive d) (fun es => ∀ e ∈ es, motive e.2)
    (fun e => motive e.2) leaf list dict
    (fun _ h => absurd h List.not_mem_nil)
    (fun _ _ hd hds => List.forall_mem_cons.mpr ⟨hd, hds⟩)
    (fun _ h => absurd h List.not_mem_nil)
    (fun _ _ he hes => List.forall_mem_cons.mpr ⟨he, hes⟩)
    (fun _ _ h => h) d

/-! ## Places -/

/-- One step into a container. -/
inductive Step (κ : Type*)
  | key (k : κ)
  | index (i : ℕ)
  deriving DecidableEq

/-- A place in a document, from the root. -/
abbrev Path (κ : Type*) := List (Step κ)

section Lookup

variable [DecidableEq κ]

/-- What a container holds under a key or at an index. -/
def child? : Doc κ β → Step κ → Option (Doc κ β)
  | .dict es, .key k => Dict.find es k
  | .list ds, .index i => ds[i]?
  | _, _ => none

/-- What stands at a place. -/
def at? : Doc κ β → Path κ → Option (Doc κ β)
  | d, [] => some d
  | d, s :: p => (d.child? s).bind fun c => c.at? p

end Lookup

/-! ## The paths of the keys -/

mutual

/-- The places of all keys, at any depth, in the order a reader meets them. -/
def keyPaths : Doc κ β → List (Path κ)
  | .leaf _ => []
  | .list ds => keyPathsItems ds 0
  | .dict es => keyPathsEntries es

/-- `keyPaths` below the items of a list, the first of which has the given index. -/
def keyPathsItems : List (Doc κ β) → ℕ → List (Path κ)
  | [], _ => []
  | d :: ds, i => (keyPaths d).map (.index i :: ·) ++ keyPathsItems ds (i + 1)

/-- `keyPaths` of the entries of a mapping. -/
def keyPathsEntries : List (κ × Doc κ β) → List (Path κ)
  | [] => []
  | (k, d) :: es => ([.key k] :: (keyPaths d).map (.key k :: ·)) ++ keyPathsEntries es

/-- Does no mapping of a document have a key twice? -/
def keysDistinct [DecidableEq κ] : Doc κ β → Bool
  | .leaf _ => true
  | .list ds => keysDistinctItems ds
  | .dict es => decide (es.map Prod.fst).Nodup && keysDistinctEntries es

/-- `keysDistinct` on the items of a list. -/
def keysDistinctItems [DecidableEq κ] : List (Doc κ β) → Bool
  | [] => true
  | d :: ds => keysDistinct d && keysDistinctItems ds

/-- `keysDistinct` on the values of a mapping. -/
def keysDistinctEntries [DecidableEq κ] : List (κ × Doc κ β) → Bool
  | [] => true
  | (_, d) :: es => keysDistinct d && keysDistinctEntries es

end

-- Each proof below unfolds some of them: their equations are made here, once.
attribute [local simp] keyPaths keyPathsItems keyPathsEntries keysDistinct keysDistinctItems
  keysDistinctEntries

lemma mem_keyPathsEntries {es : List (κ × Doc κ β)} {p : Path κ} :
    p ∈ keyPathsEntries es ↔
      ∃ e ∈ es, p = [.key e.1] ∨ ∃ q ∈ e.2.keyPaths, p = .key e.1 :: q := by
  induction es with
  | nil => simp [keyPathsEntries]
  | cons e es ih =>
    obtain ⟨k, d⟩ := e
    rw [keyPathsEntries, List.mem_append, ih, List.mem_cons, List.mem_map, List.exists_mem_cons_iff]
    simp only [eq_comm]

/-- The path of a key in a mapping starts with one of the mapping's own keys. -/
lemma head_of_mem_keyPathsEntries {es : List (κ × Doc κ β)} {p : Path κ}
    (h : p ∈ keyPathsEntries es) : ∃ k ∈ es.map Prod.fst, ∃ q, p = .key k :: q := by
  obtain ⟨e, he, hp⟩ := mem_keyPathsEntries.mp h
  refine ⟨e.1, List.mem_map_of_mem he, ?_⟩
  obtain rfl | ⟨q, -, rfl⟩ := hp
  · exact ⟨[], rfl⟩
  · exact ⟨q, rfl⟩

lemma mem_keyPathsItems {ds : List (Doc κ β)} {i : ℕ} {p : Path κ} :
    p ∈ keyPathsItems ds i ↔
      ∃ j d, ds[j]? = some d ∧ ∃ q ∈ d.keyPaths, p = .index (i + j) :: q := by
  induction ds generalizing i with
  | nil => simp [keyPathsItems]
  | cons d ds ih =>
    rw [keyPathsItems, List.mem_append, ih, List.mem_map]
    constructor
    · rintro (⟨q, hq, rfl⟩ | ⟨j, c, hc, q, hq, rfl⟩)
      · exact ⟨0, d, rfl, q, hq, rfl⟩
      · exact ⟨j + 1, c, hc, q, hq, by rw [Nat.add_right_comm, Nat.add_assoc]⟩
    · rintro ⟨j, c, hc, q, hq, rfl⟩
      cases j with
      | zero =>
        obtain rfl : d = c := Option.some.inj hc
        exact .inl ⟨q, hq, rfl⟩
      | succ j => exact .inr ⟨j, c, hc, q, hq, by rw [Nat.add_right_comm, Nat.add_assoc]⟩

/-- A key has a path of at least one step. -/
lemma ne_nil_of_mem_keyPaths {d : Doc κ β} {p : Path κ} (h : p ∈ d.keyPaths) : p ≠ [] := by
  cases d with
  | leaf v => exact absurd h List.not_mem_nil
  | list ds =>
    obtain ⟨j, c, -, q, -, rfl⟩ := mem_keyPathsItems.mp h
    exact List.cons_ne_nil _ _
  | dict es =>
    obtain ⟨e, -, rfl | ⟨q, -, rfl⟩⟩ := mem_keyPathsEntries.mp h
    · exact List.cons_ne_nil _ _
    · exact List.cons_ne_nil _ _

section Distinct

variable [DecidableEq κ]

lemma keysDistinctItems_iff {ds : List (Doc κ β)} :
    keysDistinctItems ds = true ↔ ∀ d ∈ ds, d.keysDistinct = true := by
  induction ds with
  | nil => simp [keysDistinctItems]
  | cons d ds ih => rw [keysDistinctItems, Bool.and_eq_true, ih, List.forall_mem_cons]

lemma keysDistinctEntries_iff {es : List (κ × Doc κ β)} :
    keysDistinctEntries es = true ↔ ∀ e ∈ es, e.2.keysDistinct = true := by
  induction es with
  | nil => simp [keysDistinctEntries]
  | cons e es ih => rw [keysDistinctEntries, Bool.and_eq_true, ih, List.forall_mem_cons]

lemma keysDistinct_list {ds : List (Doc κ β)} :
    (Doc.list ds).keysDistinct = true ↔ ∀ d ∈ ds, d.keysDistinct = true := by
  rw [keysDistinct, keysDistinctItems_iff]

lemma keysDistinct_dict {es : List (κ × Doc κ β)} :
    (Doc.dict es).keysDistinct = true ↔
      (es.map Prod.fst).Nodup ∧ ∀ e ∈ es, e.2.keysDistinct = true := by
  rw [keysDistinct, Bool.and_eq_true, decide_eq_true_iff, keysDistinctEntries_iff]

/-- What a document contains has no key twice either. -/
lemma keysDistinct_of_child? {d c : Doc κ β} (hd : d.keysDistinct = true) {s : Step κ}
    (hc : d.child? s = some c) : c.keysDistinct = true := by
  match d, s, hc with
  | .dict es, .key k, hc =>
    obtain ⟨hnodup, hes⟩ := keysDistinct_dict.mp hd
    exact hes (k, c) ((Dict.find_eq_some_iff hnodup).mp hc)
  | .list ds, .index i, hc => exact keysDistinct_list.mp hd c (List.mem_of_getElem? hc)

/-- The first step of a key's path leads to what contains the key, or is the key itself. -/
lemma cons_mem_keyPaths {d : Doc κ β} (hd : d.keysDistinct = true) {s : Step κ} {p : Path κ} :
    s :: p ∈ d.keyPaths ↔
      ∃ c, d.child? s = some c ∧ ((p = [] ∧ ∃ k, s = .key k) ∨ p ∈ c.keyPaths) := by
  cases d with
  | leaf v =>
    refine iff_of_false List.not_mem_nil ?_
    rintro ⟨c, hc, -⟩
    cases hc
  | list ds =>
    rw [keyPaths, mem_keyPathsItems]
    constructor
    · rintro ⟨j, c, hc, q, hq, h⟩
      obtain ⟨rfl, rfl⟩ := List.cons.inj h
      exact ⟨c, by rwa [Nat.zero_add], .inr hq⟩
    · rintro ⟨c, hc, h⟩
      cases s with
      | key k => cases hc
      | index i =>
        obtain ⟨-, k, hk⟩ | hp := h
        · cases hk
        · exact ⟨i, c, hc, p, hp, by rw [Nat.zero_add]⟩
  | dict es =>
    have hnodup := (keysDistinct_dict.mp hd).1
    rw [keyPaths, mem_keyPathsEntries]
    constructor
    · rintro ⟨⟨k, c⟩, he, h | ⟨q, hq, h⟩⟩
      · obtain ⟨rfl, rfl⟩ := List.cons.inj h
        exact ⟨c, (Dict.find_eq_some_iff hnodup).mpr he, .inl ⟨rfl, k, rfl⟩⟩
      · obtain ⟨rfl, rfl⟩ := List.cons.inj h
        exact ⟨c, (Dict.find_eq_some_iff hnodup).mpr he, .inr hq⟩
    · rintro ⟨c, hc, h⟩
      cases s with
      | index i => cases hc
      | key k =>
        refine ⟨(k, c), (Dict.find_eq_some_iff hnodup).mp hc, ?_⟩
        obtain ⟨rfl, -⟩ | hp := h
        · exact .inl rfl
        · exact .inr ⟨p, hp, rfl⟩

/-- The places listed are those that end in a key and at which something stands. -/
lemma mem_keyPaths {d : Doc κ β} (hd : d.keysDistinct = true) {p : Path κ} :
    p ∈ d.keyPaths ↔ (∃ q k, p = q ++ [.key k]) ∧ ∃ c, d.at? p = some c := by
  induction p generalizing d with
  | nil =>
    constructor
    · intro h
      exact absurd rfl (ne_nil_of_mem_keyPaths h)
    · rintro ⟨⟨q, k, h⟩, -⟩
      simp at h
  | cons s p ih =>
    rw [cons_mem_keyPaths hd, at?]
    constructor
    · rintro ⟨c, hc, ⟨rfl, k, rfl⟩ | hp⟩
      · exact ⟨⟨[], k, rfl⟩, c, by rw [hc]; rfl⟩
      · obtain ⟨⟨q, k, rfl⟩, hat⟩ := (ih (keysDistinct_of_child? hd hc)).mp hp
        exact ⟨⟨s :: q, k, rfl⟩, by rwa [hc]⟩
    · rintro ⟨⟨q, k, hq⟩, b, hb⟩
      obtain ⟨c, hc, hb⟩ := Option.bind_eq_some_iff.mp hb
      refine ⟨c, hc, ?_⟩
      cases q with
      | nil =>
        obtain ⟨rfl, rfl⟩ := List.cons.inj hq
        exact .inl ⟨rfl, k, rfl⟩
      | cons s' q =>
        obtain ⟨rfl, rfl⟩ := List.cons.inj hq
        exact .inr ((ih (keysDistinct_of_child? hd hc)).mpr ⟨⟨q, k, rfl⟩, b, hb⟩)

/-- No place is listed twice. -/
lemma nodup_keyPaths {d : Doc κ β} (hd : d.keysDistinct = true) : d.keyPaths.Nodup := by
  induction d using induction with
  | leaf v => exact List.nodup_nil
  | list ds ih =>
    have hds := keysDistinct_list.mp hd
    have hitems : ∀ i, (keyPathsItems ds i).Nodup := by
      clear hd
      induction ds with
      | nil => exact fun _ => List.nodup_nil
      | cons d ds ihds =>
        intro i
        obtain ⟨hd, hds⟩ := List.forall_mem_cons.mp hds
        obtain ⟨ihd, ihs⟩ := List.forall_mem_cons.mp ih
        refine List.nodup_append.mpr ⟨(ihd hd).map (List.cons_injective), ihds ihs hds (i + 1), ?_⟩
        rintro a ha b hb rfl
        obtain ⟨q, -, rfl⟩ := List.mem_map.mp ha
        obtain ⟨j, c, -, q', -, h⟩ := mem_keyPathsItems.mp hb
        injection h with hstep
        injection hstep with hindex
        omega
    exact hitems 0
  | dict es ih =>
    obtain ⟨hnodup, hes⟩ := keysDistinct_dict.mp hd
    rw [keyPaths]
    clear hd
    induction es with
    | nil => exact List.nodup_nil
    | cons e es ihes =>
      obtain ⟨k, d⟩ := e
      obtain ⟨hk, hnodup⟩ := List.nodup_cons.mp hnodup
      obtain ⟨hd, hes⟩ := List.forall_mem_cons.mp hes
      obtain ⟨ihd, ihs⟩ := List.forall_mem_cons.mp ih
      refine List.nodup_append.mpr ⟨?_, ihes ihs hnodup hes, ?_⟩
      · refine List.nodup_cons.mpr ⟨?_, (ihd hd).map (List.cons_injective)⟩
        intro hmem
        obtain ⟨q, hq, h⟩ := List.mem_map.mp hmem
        exact ne_nil_of_mem_keyPaths hq (List.cons.inj h).2
      · rintro a ha b hb rfl
        have ha : ∃ q, a = .key k :: q := by
          obtain rfl | ha := List.mem_cons.mp ha
          · exact ⟨[], rfl⟩
          · obtain ⟨q, -, rfl⟩ := List.mem_map.mp ha
            exact ⟨q, rfl⟩
        obtain ⟨q, rfl⟩ := ha
        obtain ⟨k', hk', q', h⟩ := head_of_mem_keyPathsEntries hb
        injection h with hstep
        injection hstep with hkey
        exact hk (hkey ▸ hk')

end Distinct

/-! ## Hiding -/

mutual

/-- Two documents that differ at most in the values stored under hidden keys. -/
inductive AgreeOutside (hide : κ → Bool) : Doc κ β → Doc κ β → Prop
  | leaf (v : β) : AgreeOutside hide (.leaf v) (.leaf v)
  | list {ds ds' : List (Doc κ β)} :
    AgreeOutsideItems hide ds ds' → AgreeOutside hide (.list ds) (.list ds')
  | dict {es es' : List (κ × Doc κ β)} :
    AgreeOutsideEntries hide es es' → AgreeOutside hide (.dict es) (.dict es')

/-- `AgreeOutside`, item by item. -/
inductive AgreeOutsideItems (hide : κ → Bool) : List (Doc κ β) → List (Doc κ β) → Prop
  | nil : AgreeOutsideItems hide [] []
  | cons {d d' : Doc κ β} {ds ds' : List (Doc κ β)} :
    AgreeOutside hide d d' → AgreeOutsideItems hide ds ds' →
      AgreeOutsideItems hide (d :: ds) (d' :: ds')

/-- `AgreeOutside`, entry by entry: the keys are the same ones, in the same order. -/
inductive AgreeOutsideEntries (hide : κ → Bool) :
    List (κ × Doc κ β) → List (κ × Doc κ β) → Prop
  | nil : AgreeOutsideEntries hide [] []
  | hidden {k : κ} {d d' : Doc κ β} {es es' : List (κ × Doc κ β)} :
    hide k = true → AgreeOutsideEntries hide es es' →
      AgreeOutsideEntries hide ((k, d) :: es) ((k, d') :: es')
  | shown {k : κ} {d d' : Doc κ β} {es es' : List (κ × Doc κ β)} :
    AgreeOutside hide d d' → AgreeOutsideEntries hide es es' →
      AgreeOutsideEntries hide ((k, d) :: es) ((k, d') :: es')

end

section Masking

variable (hide : κ → Bool) (mark : β)

mutual

/-- A document with a mark in the place of every hidden value. -/
def mask : Doc κ β → Doc κ β
  | .leaf v => .leaf v
  | .list ds => .list (maskItems ds)
  | .dict es => .dict (maskEntries es)

/-- `mask` on the items of a list. -/
def maskItems : List (Doc κ β) → List (Doc κ β)
  | [] => []
  | d :: ds => mask d :: maskItems ds

/-- `mask` on the entries of a mapping. -/
def maskEntries : List (κ × Doc κ β) → List (κ × Doc κ β)
  | [] => []
  | (k, d) :: es => (k, if hide k then .leaf mark else mask d) :: maskEntries es

end

/-- A path none of whose keys is hidden. -/
def Clear (p : Path κ) : Prop := ∀ k, Step.key k ∈ p → hide k = false

/-- Does a path end in a hidden key and meet no other before? -/
def outermost : Path κ → Bool
  | [] => false
  | .index _ :: p => outermost p
  | .key k :: p => if hide k then p.isEmpty else outermost p

/-- The places of the hidden values that are inside no other, in the order a reader meets them. -/
def hiddenPaths (d : Doc κ β) : List (Path κ) := d.keyPaths.filter (outermost hide)

variable {hide mark}

attribute [local simp] mask maskItems maskEntries

/-! ### Two documents -/

lemma maskItems_eq_iff {ds : List (Doc κ β)}
    (ih : ∀ d ∈ ds, ∀ d' : Doc κ β, d.mask hide mark = d'.mask hide mark ↔ AgreeOutside hide d d')
    {ds' : List (Doc κ β)} :
    maskItems hide mark ds = maskItems hide mark ds' ↔ AgreeOutsideItems hide ds ds' := by
  induction ds generalizing ds' with
  | nil =>
    cases ds' with
    | nil => exact iff_of_true rfl .nil
    | cons d' ds' => exact iff_of_false (fun h => by cases h) (fun h => by cases h)
  | cons d ds ihds =>
    obtain ⟨ihd, ihs⟩ := List.forall_mem_cons.mp ih
    cases ds' with
    | nil => exact iff_of_false (fun h => by cases h) (fun h => by cases h)
    | cons d' ds' =>
      rw [maskItems, maskItems, List.cons.injEq, ihd, ihds ihs]
      constructor
      · rintro ⟨hd, hds⟩
        exact .cons hd hds
      · rintro (_ | ⟨hd, hds⟩)
        exact ⟨hd, hds⟩

lemma maskEntries_eq_iff {es : List (κ × Doc κ β)}
    (ih : ∀ e ∈ es, ∀ d' : Doc κ β, e.2.mask hide mark = d'.mask hide mark ↔
      AgreeOutside hide e.2 d') {es' : List (κ × Doc κ β)} :
    maskEntries hide mark es = maskEntries hide mark es' ↔ AgreeOutsideEntries hide es es' := by
  induction es generalizing es' with
  | nil =>
    cases es' with
    | nil => exact iff_of_true rfl .nil
    | cons e' es' => exact iff_of_false (fun h => by cases h) (fun h => by cases h)
  | cons e es ihes =>
    obtain ⟨ihd, ihs⟩ := List.forall_mem_cons.mp ih
    obtain ⟨k, d⟩ := e
    cases es' with
    | nil => exact iff_of_false (fun h => by cases h) (fun h => by cases h)
    | cons e' es' =>
      obtain ⟨k', d'⟩ := e'
      rw [maskEntries, maskEntries, List.cons.injEq, Prod.mk.injEq, ihes ihs]
      constructor
      · rintro ⟨⟨rfl, hd⟩, hes⟩
        by_cases hk : hide k = true
        · exact .hidden hk hes
        · rw [if_neg hk, if_neg hk, ihd] at hd
          exact .shown hd hes
      · intro h
        cases h with
        | hidden hk hes => exact ⟨⟨rfl, by rw [if_pos hk, if_pos hk]⟩, hes⟩
        | shown hd hes => exact ⟨⟨rfl, by rw [(ihd d').mpr hd]⟩, hes⟩

/-- Masked documents are equal when they differ in hidden values only. -/
lemma mask_eq_mask_iff {d d' : Doc κ β} :
    d.mask hide mark = d'.mask hide mark ↔ AgreeOutside hide d d' := by
  induction d using induction generalizing d' with
  | leaf v =>
    cases d' with
    | leaf w =>
      constructor
      · intro h
        cases h
        exact .leaf v
      · intro h
        cases h
        rfl
    | list ds' => exact iff_of_false (fun h => by cases h) (fun h => by cases h)
    | dict es' => exact iff_of_false (fun h => by cases h) (fun h => by cases h)
  | list ds ih =>
    cases d' with
    | list ds' =>
      rw [mask, mask, Doc.list.injEq, maskItems_eq_iff fun d hd d' => ih d hd]
      exact ⟨.list, fun h => by cases h; assumption⟩
    | leaf w => exact iff_of_false (fun h => by cases h) (fun h => by cases h)
    | dict es' => exact iff_of_false (fun h => by cases h) (fun h => by cases h)
  | dict es ih =>
    cases d' with
    | dict es' =>
      rw [mask, mask, Doc.dict.injEq, maskEntries_eq_iff fun e he d' => ih e he]
      exact ⟨.dict, fun h => by cases h; assumption⟩
    | leaf w => exact iff_of_false (fun h => by cases h) (fun h => by cases h)
    | list ds' => exact iff_of_false (fun h => by cases h) (fun h => by cases h)

/-! ### One document -/

lemma maskItems_eq_map (ds : List (Doc κ β)) :
    maskItems hide mark ds = ds.map (mask hide mark) := by
  induction ds with
  | nil => rfl
  | cons d ds ih => rw [maskItems, ih, List.map_cons]

section Lookup

variable [DecidableEq κ]

/-- The values a mapping keeps are masked where they stand. -/
lemma find_maskEntries {es : List (κ × Doc κ β)} {k : κ} (hk : hide k = false) :
    Dict.find (maskEntries hide mark es) k = (Dict.find es k).map (mask hide mark) := by
  induction es with
  | nil => rfl
  | cons e es ih =>
    obtain ⟨k', d⟩ := e
    rw [maskEntries, Dict.find, Dict.find, ih]
    by_cases h : k' = k
    · rw [if_pos h, if_pos h, h, hk]
      rfl
    · rw [if_neg h, if_neg h]

lemma child?_mask {d : Doc κ β} {s : Step κ} (hs : ∀ k, s = .key k → hide k = false) :
    (d.mask hide mark).child? s = (d.child? s).map (mask hide mark) := by
  cases d with
  | leaf v => rfl
  | list ds =>
    cases s with
    | key k => rfl
    | index i => rw [mask, child?, child?, maskItems_eq_map, List.getElem?_map]
  | dict es =>
    cases s with
    | key k => rw [mask, child?, child?, find_maskEntries (hs k rfl)]
    | index i => rfl

/-- At a place inside no hidden value stands what stood there, masked. -/
lemma at?_mask {d : Doc κ β} {p : Path κ} (hp : Clear hide p) :
    (d.mask hide mark).at? p = (d.at? p).map (mask hide mark) := by
  induction p generalizing d with
  | nil => rfl
  | cons s p ih =>
    have hs : ∀ k, s = .key k → hide k = false := by
      rintro k rfl
      exact hp k List.mem_cons_self
    have hp' : Clear hide p := fun k hk => hp k (List.mem_cons_of_mem s hk)
    rw [at?, at?, child?_mask hs, Option.bind_map, Option.map_bind]
    exact congrArg _ (funext fun c => ih hp')

end Lookup

/-- The outermost hidden keys end their paths and are the first hidden keys on them. -/
lemma outermost_iff {p : Path κ} :
    outermost hide p = true ↔
      ∃ q k, p = q ++ [.key k] ∧ hide k = true ∧ Clear hide q := by
  induction p with
  | nil => simp [outermost]
  | cons s p ih =>
    cases s with
    | index i =>
      rw [outermost, ih]
      constructor
      · rintro ⟨q, k, rfl, hk, hq⟩
        refine ⟨.index i :: q, k, rfl, hk, ?_⟩
        intro j hj
        exact hq j (by simpa using hj)
      · rintro ⟨q, k, h, hk, hq⟩
        cases q with
        | nil => simp at h
        | cons s q =>
          obtain ⟨rfl, rfl⟩ := List.cons.inj h
          exact ⟨q, k, rfl, hk, fun j hj => hq j (List.mem_cons_of_mem _ hj)⟩
    | key j =>
      rw [outermost]
      by_cases hj : hide j = true
      · rw [if_pos hj, List.isEmpty_iff]
        constructor
        · rintro rfl
          exact ⟨[], j, rfl, hj, fun _ h => absurd h List.not_mem_nil⟩
        · rintro ⟨q, k, h, -, hq⟩
          cases q with
          | nil => exact (List.cons.inj h).2
          | cons s q =>
            obtain ⟨rfl, -⟩ := List.cons.inj h
            exact absurd hj (by rw [hq j List.mem_cons_self]; exact Bool.false_ne_true)
      · rw [if_neg hj, ih]
        constructor
        · rintro ⟨q, k, rfl, hk, hq⟩
          refine ⟨.key j :: q, k, rfl, hk, ?_⟩
          intro i hi
          obtain h | hi := List.mem_cons.mp hi
          · obtain rfl : i = j := by injection h
            exact Bool.eq_false_iff.mpr hj
          · exact hq i hi
        · rintro ⟨q, k, h, hk, hq⟩
          cases q with
          | nil =>
            obtain ⟨hjk, -⟩ := List.cons.inj h
            obtain rfl : j = k := by injection hjk
            exact absurd hk hj
          | cons s q =>
            obtain ⟨rfl, rfl⟩ := List.cons.inj h
            exact ⟨q, k, rfl, hk, fun i hi => hq i (List.mem_cons_of_mem _ hi)⟩

/-- The places listed are the keys that are hidden and below no other hidden key. -/
lemma mem_hiddenPaths [DecidableEq κ] {d : Doc κ β} (hd : d.keysDistinct = true) {p : Path κ} :
    p ∈ hiddenPaths hide d ↔
      ∃ q k, p = q ++ [.key k] ∧ hide k = true ∧ Clear hide q ∧ ∃ c, d.at? p = some c := by
  rw [hiddenPaths, List.mem_filter, mem_keyPaths hd, outermost_iff]
  constructor
  · rintro ⟨⟨-, hat⟩, q, k, rfl, hk, hq⟩
    exact ⟨q, k, rfl, hk, hq, hat⟩
  · rintro ⟨q, k, rfl, hk, hq, hat⟩
    exact ⟨⟨⟨q, k, rfl⟩, hat⟩, q, k, rfl, hk, hq⟩

lemma nodup_hiddenPaths [DecidableEq κ] {d : Doc κ β} (hd : d.keysDistinct = true) :
    (hiddenPaths hide d).Nodup :=
  (nodup_keyPaths hd).filter _

/-- A key adds its own place when it is hidden, and else the places below it. -/
lemma filter_keyPathsEntries_cons (k : κ) (d : Doc κ β) (es : List (κ × Doc κ β)) :
    (keyPathsEntries ((k, d) :: es)).filter (outermost hide) =
      (if hide k then [[.key k]] else (hiddenPaths hide d).map (.key k :: ·)) ++
        (keyPathsEntries es).filter (outermost hide) := by
  rw [keyPathsEntries, List.filter_append, List.filter_cons, List.filter_map]
  by_cases hk : hide k = true
  · have hbelow : d.keyPaths.filter (outermost hide ∘ (.key k :: ·)) = [] := by
      rw [List.filter_eq_nil_iff]
      intro p hp
      have hne := ne_nil_of_mem_keyPaths hp
      rw [Function.comp_apply, outermost, if_pos hk, List.isEmpty_iff]
      exact hne
    rw [hbelow, if_pos hk, outermost, if_pos hk]
    rfl
  · have hbelow : outermost hide ∘ (.key k :: ·) = outermost hide := by
      funext p
      rw [Function.comp_apply, outermost, if_neg hk]
    rw [hbelow, if_neg hk, outermost, if_neg hk]
    rfl

/-- An item of a list adds the places below it. -/
lemma filter_keyPathsItems_cons (d : Doc κ β) (ds : List (Doc κ β)) (i : ℕ) :
    (keyPathsItems (d :: ds) i).filter (outermost hide) =
      (hiddenPaths hide d).map (.index i :: ·) ++
        (keyPathsItems ds (i + 1)).filter (outermost hide) := by
  rw [keyPathsItems, List.filter_append, List.filter_map]
  rfl

/-- Masking keeps the places it hides. -/
lemma hiddenPaths_mask (d : Doc κ β) :
    hiddenPaths hide (d.mask hide mark) = hiddenPaths hide d := by
  induction d using induction with
  | leaf v => rfl
  | list ds ih =>
    have hitems : ∀ i, (keyPathsItems (maskItems hide mark ds) i).filter (outermost hide) =
        (keyPathsItems ds i).filter (outermost hide) := by
      induction ds with
      | nil => exact fun _ => rfl
      | cons d ds ihds =>
        intro i
        obtain ⟨ihd, ihs⟩ := List.forall_mem_cons.mp ih
        rw [maskItems, filter_keyPathsItems_cons, filter_keyPathsItems_cons, ihd, ihds ihs]
    exact hitems 0
  | dict es ih =>
    rw [mask, hiddenPaths, hiddenPaths, keyPaths, keyPaths]
    induction es with
    | nil => rfl
    | cons e es ihes =>
      obtain ⟨ihd, ihs⟩ := List.forall_mem_cons.mp ih
      obtain ⟨k, d⟩ := e
      rw [maskEntries, filter_keyPathsEntries_cons, filter_keyPathsEntries_cons, ihes ihs]
      by_cases hk : hide k = true
      · rw [if_pos hk, if_pos hk]
      · rw [if_neg hk, if_neg hk, if_neg hk, ihd]

end Masking

end Doc

end MiniatureWarehouse
