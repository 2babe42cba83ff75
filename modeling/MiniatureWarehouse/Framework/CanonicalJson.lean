import MiniatureWarehouse.Framework.CodePointText
import MiniatureWarehouse.Framework.Documents
import MiniatureWarehouse.Framework.JsonRoundTrip
import MiniatureWarehouse.Framework.StableSort
import Mathlib.Data.String.Basic

/-!
# Canonical JSON

`Canonical.dumps` writes a document as `json.dumps` does with sorted keys, the compact separators,
ASCII only and no bare words for floats that are not finite: such a float raises a `ValueError`,
and a leaf that is no JSON value a `TypeError`.

What is written is a prefix code: behind a value nothing that could go on with it is read as part
of it (`encode_inj`).  So two documents are written alike exactly when they differ in nothing but
the order of their keys, which `sortKeys` forgets (`dumps_eq_dumps_iff`).
-/

namespace MiniatureWarehouse

namespace Canonical

/-- A leaf of a parsed document: a JSON scalar, or a value of another kind. -/
inductive Leaf (ι α : Type*)
  | null
  | bool (b : Bool)
  | int (i : ℤ)
  | float (x : PyFloat α)
  | str (s : String)
  | other (x : ι)

/-- A document with strings for keys. -/
abbrev Tree (ι α : Type*) := Doc String (Leaf ι α)

/-! ## Sorted keys -/

section Sorted

variable {ι α : Type*}

mutual

/-- The document with the keys of every mapping in order. -/
def sortKeys : Tree ι α → Tree ι α
  | .leaf v => .leaf v
  | .list ds => .list (sortItems ds)
  | .dict es => .dict (sortBy Prod.fst (sortValues es))

/-- `sortKeys` of the items of a list. -/
def sortItems : List (Tree ι α) → List (Tree ι α)
  | [] => []
  | d :: ds => sortKeys d :: sortItems ds

/-- `sortKeys` of the values of a mapping. -/
def sortValues : List (String × Tree ι α) → List (String × Tree ι α)
  | [] => []
  | (k, d) :: es => (k, sortKeys d) :: sortValues es

end

end Sorted

/-! ## The text -/

section Text

variable {ι α : Type*} (T : Json.FloatText α)

/-- `py_encode_basestring_ascii`. -/
def stringText (s : String) : List Char := Decoded.stringAscii (PyStr.ofChars s.toList)

/-- The text of a leaf. -/
def leafText : Leaf ι α → Except PyErr (List Char)
  | .null => .ok ['n', 'u', 'l', 'l']
  | .bool true => .ok ['t', 'r', 'u', 'e']
  | .bool false => .ok ['f', 'a', 'l', 's', 'e']
  | .int i => .ok (Json.intText i)
  | .float (.fin x) => .ok (T.repr x)
  | .float _ => .error .valueError
  | .str s => .ok (stringText s)
  | .other _ => .error .typeError

mutual

/-- The text of a document, in the order of its keys. -/
def encode : Tree ι α → Except PyErr (List Char)
  | .leaf v => leafText T v
  | .list ds => (encodeItems [] ds).map ('[' :: ·)
  | .dict es => (encodeEntries [] es).map ('{' :: ·)

/-- The items that are left of a list, with what stands before the next one, and its end. -/
def encodeItems : List Char → List (Tree ι α) → Except PyErr (List Char)
  | _, [] => .ok [']']
  | separator, d :: ds =>
    (encode d).bind fun text =>
      (encodeItems [','] ds).map fun rest => separator ++ (text ++ rest)

/-- The entries that are left of a mapping, with what stands before the next one, and its end. -/
def encodeEntries : List Char → List (String × Tree ι α) → Except PyErr (List Char)
  | _, [] => .ok ['}']
  | separator, (k, d) :: es =>
    (encode d).bind fun text =>
      (encodeEntries [','] es).map fun rest => separator ++ (stringText k ++ ':' :: (text ++ rest))

end

/-- `json.dumps(data, sort_keys=True, separators=(",", ":"), ensure_ascii=True, allow_nan=False)`. -/
def dumps (d : Tree ι α) : Except PyErr (List Char) := encode T (sortKeys d)

/-! ## A prefix code -/

/-- Characters hold no surrogates to be joined. -/
lemma joined_ofChars (cs : List Char) : (PyStr.ofChars cs).Joined := by
  unfold PyStr.ofChars PyStr.Joined
  induction cs with
  | nil => exact .nil
  | cons c cs ih =>
    cases cs with
    | nil => exact .singleton _
    | cons d cs => exact .cons_cons (fun h => CodePoint.not_isHigh_ofChar c h.1) ih

lemma ofChars_injective : Function.Injective PyStr.ofChars := by
  refine List.map_injective_iff.mpr fun c d h => ?_
  have hval : c.toNat = d.toNat := congrArg (fun p : CodePoint => p.val) h
  exact Char.toNat_inj.mp hval

/-- A string is read back, whatever follows it. -/
lemma stringText_inj {s t : String} {q r : List Char}
    (h : stringText s ++ q = stringText t ++ r) : s = t ∧ q = r := by
  unfold stringText at h
  rw [Decoded.stringAscii_append, Decoded.stringAscii_append, List.cons.injEq] at h
  have hs := fun n hn => Decoded.scanString_flatMap (joined_ofChars s.toList) (n := n) hn q
  have ht := fun n hn => Decoded.scanString_flatMap (joined_ofChars t.toList) (n := n) hn r
  set n := (PyStr.ofChars s.toList).length + (PyStr.ofChars t.toList).length + 1
  have heq := (hs n (by omega)).symm.trans (h.2 ▸ ht n (by omega))
  obtain ⟨htext, hrest⟩ := Prod.mk.inj (Option.some.inj heq)
  exact ⟨String.toList_inj.mp (ofChars_injective htext), hrest⟩

/-- A leaf that is written as a word or a number, as a decoded value. -/
def atom? : Leaf ι α → Option (PyVal α)
  | .null => some .null
  | .bool b => some (.bool b)
  | .int i => some (.int i)
  | .float (.fin x) => some (.float (.fin x))
  | _ => none

variable {T}

lemma leafText_of_atom? {v : Leaf ι α} {w : PyVal α} (h : atom? v = some w) :
    leafText T v = .ok (Json.dumps T w) := by
  rcases v with _ | b | i | x | s | x
  · obtain rfl := Option.some.inj h
    rw [Json.dumps]
    rfl
  · obtain rfl := Option.some.inj h
    cases b <;> rw [Json.dumps] <;> rfl
  · obtain rfl := Option.some.inj h
    rw [Json.dumps]
    rfl
  · cases x with
    | fin x =>
      obtain rfl := Option.some.inj h
      rw [Json.dumps]
      rfl
    | _ => cases h
  · cases h
  · cases h

/-- What a value begins with. -/
inductive Head
  | atom
  | string
  | list
  | dict
  deriving DecidableEq

/-- What a character begins. -/
def headOf (c : Char) : Head :=
  if c = '"' then .string else if c = '[' then .list else if c = '{' then .dict else .atom

/-- What a document begins with. -/
def treeHead : Tree ι α → Head
  | .leaf (.str _) => .string
  | .leaf _ => .atom
  | .list _ => .list
  | .dict _ => .dict

lemma headOf_literal {t : List Char} {b : Bool} (h : Json.scanLiteral t = some (t, b, [])) :
    ∃ c cs, t = c :: cs ∧ headOf c = .atom ∧ c ≠ ']' := by
  obtain ⟨c, cs, rfl⟩ := List.exists_cons_of_ne_nil (Json.scanLiteral_ne_nil h)
  refine ⟨c, cs, rfl, ?_⟩
  rcases Json.scanLiteral_head h with hdigit | ⟨rfl, -⟩
  · have hne := fun d hd => Json.isDigit_ne (d := d) hdigit hd
    unfold headOf
    rw [if_neg (hne _ (by decide)), if_neg (hne _ (by decide)), if_neg (hne _ (by decide))]
    exact ⟨rfl, hne _ (by decide)⟩
  · exact ⟨rfl, by decide⟩

/-- The first character tells what follows, and it closes no list. -/
lemma encode_head {d : Tree ι α} {t : List Char} (h : encode T d = .ok t) :
    ∃ c cs, t = c :: cs ∧ headOf c = treeHead d ∧ c ≠ ']' := by
  rcases d with (_ | b | i | x | s | x) | ds | es
  · obtain rfl := Except.ok.inj h
    exact ⟨_, _, rfl, rfl, by decide⟩
  · cases b <;> obtain rfl := Except.ok.inj h <;> exact ⟨_, _, rfl, rfl, by decide⟩
  · obtain rfl := Except.ok.inj h
    exact headOf_literal (Json.scanLiteral_intText i)
  · cases x with
    | fin x =>
      obtain rfl := Except.ok.inj h
      exact headOf_literal (T.literal x)
    | _ => cases h
  · obtain rfl := Except.ok.inj h
    exact ⟨_, _, rfl, rfl, by decide⟩
  · cases h
  · rw [encode] at h
    obtain ⟨rest, -, rfl⟩ := exceptMap_eq_ok.mp h
    exact ⟨_, _, rfl, rfl, by decide⟩
  · rw [encode] at h
    obtain ⟨rest, -, rfl⟩ := exceptMap_eq_ok.mp h
    exact ⟨_, _, rfl, rfl, by decide⟩

variable (T) in
/-- What is written for a document is read as that document, up to what ends a number. -/
def Separated (d : Tree ι α) : Prop :=
  ∀ {d' : Tree ι α} {t t' q r : List Char}, encode T d = .ok t → encode T d' = .ok t' →
    Json.EndsNumber q → Json.EndsNumber r → t ++ q = t' ++ r → d = d' ∧ q = r

/-- Documents written alike begin alike. -/
lemma treeHead_eq {d d' : Tree ι α} {t t' q r : List Char} (h : encode T d = .ok t)
    (h' : encode T d' = .ok t') (heq : t ++ q = t' ++ r) : treeHead d = treeHead d' := by
  obtain ⟨c, cs, rfl, hc, -⟩ := encode_head h
  obtain ⟨c', cs', rfl, hc', -⟩ := encode_head h'
  rw [List.cons_append, List.cons_append, List.cons.injEq] at heq
  rw [← hc, ← hc', heq.1]

/-- Words and numbers are told apart. -/
lemma atom_inj {v v' : PyVal α} {q r : List Char} (hq : Json.EndsNumber q)
    (hr : Json.EndsNumber r) (h : Json.dumps T v ++ q = Json.dumps T v' ++ r) :
    v = v' ∧ q = r := by
  set n := 2 * (Json.dumps T v).length + 2 * (Json.dumps T v').length
  have hv := Json.scanned (T := T) v n q (by omega) hq
  have hv' := Json.scanned (T := T) v' n r (by omega) hr
  rw [h, hv'] at hv
  exact ⟨(Prod.mk.inj (Option.some.inj hv)).1.symm, (Prod.mk.inj (Option.some.inj hv)).2.symm⟩

/-- A character behind a value that is no part of a number. -/
lemma endsNumber_append {c : Char} (hc : c = ',' ∨ c = ']' ∨ c = '}') (cs q : List Char) :
    Json.EndsNumber (c :: cs ++ q) := by
  refine Json.endsNumber_cons ?_ _
  rcases hc with rfl | rfl | rfl <;> decide

lemma encodeItems_head {ds : List (Tree ι α)} {t : List Char}
    (h : encodeItems T [','] ds = .ok t) : ∃ c cs, t = c :: cs ∧ (c = ',' ∨ c = ']' ∨ c = '}') := by
  cases ds with
  | nil =>
    obtain rfl := Except.ok.inj h
    exact ⟨']', [], rfl, by simp⟩
  | cons d ds =>
    rw [encodeItems] at h
    obtain ⟨text, -, h⟩ := exceptBind_eq_ok.mp h
    obtain ⟨rest, -, rfl⟩ := exceptMap_eq_ok.mp h
    exact ⟨',', text ++ rest, rfl, by simp⟩

lemma encodeEntries_head {es : List (String × Tree ι α)} {t : List Char}
    (h : encodeEntries T [','] es = .ok t) :
    ∃ c cs, t = c :: cs ∧ (c = ',' ∨ c = ']' ∨ c = '}') := by
  cases es with
  | nil =>
    obtain rfl := Except.ok.inj h
    exact ⟨'}', [], rfl, by simp⟩
  | cons e es =>
    obtain ⟨k, d⟩ := e
    rw [encodeEntries] at h
    obtain ⟨text, -, h⟩ := exceptBind_eq_ok.mp h
    obtain ⟨rest, -, rfl⟩ := exceptMap_eq_ok.mp h
    exact ⟨',', stringText k ++ ':' :: (text ++ rest), rfl, by simp⟩

/-- No item begins like the end of the list. -/
lemma encodeItems_ne_end {separator : List Char} (hsep : separator = [] ∨ separator = [','])
    {d : Tree ι α} {ds : List (Tree ι α)} {t q r : List Char}
    (h : encodeItems T separator (d :: ds) = .ok t) : t ++ q ≠ ']' :: r := by
  rw [encodeItems] at h
  obtain ⟨text, htext, h⟩ := exceptBind_eq_ok.mp h
  obtain ⟨rest, -, rfl⟩ := exceptMap_eq_ok.mp h
  obtain ⟨c, cs, rfl, -, hc⟩ := encode_head htext
  rcases hsep with rfl | rfl
  · intro heq
    exact hc (List.cons.inj heq).1
  · intro heq
    exact absurd (List.cons.inj heq).1 (by decide)

/-- The items of a list are told apart when each of them is. -/
lemma encodeItems_inj {ds : List (Tree ι α)} (h : ∀ d ∈ ds, Separated T d) {separator : List Char}
    (hsep : separator = [] ∨ separator = [',']) {ds' : List (Tree ι α)} {t t' q r : List Char}
    (ht : encodeItems T separator ds = .ok t) (ht' : encodeItems T separator ds' = .ok t')
    (heq : t ++ q = t' ++ r) : ds = ds' ∧ q = r := by
  induction ds generalizing separator ds' t t' with
  | nil =>
    obtain rfl := Except.ok.inj ht
    cases ds' with
    | nil =>
      obtain rfl := Except.ok.inj ht'
      exact ⟨rfl, List.append_cancel_left heq⟩
    | cons d' ds' => exact absurd heq.symm (encodeItems_ne_end hsep ht')
  | cons d ds ih =>
    cases ds' with
    | nil =>
      obtain rfl := Except.ok.inj ht'
      exact absurd heq (encodeItems_ne_end hsep ht)
    | cons d' ds' =>
      rw [encodeItems] at ht ht'
      obtain ⟨text, htext, ht⟩ := exceptBind_eq_ok.mp ht
      obtain ⟨rest, hrest, rfl⟩ := exceptMap_eq_ok.mp ht
      obtain ⟨text', htext', ht'⟩ := exceptBind_eq_ok.mp ht'
      obtain ⟨rest', hrest', rfl⟩ := exceptMap_eq_ok.mp ht'
      simp only [List.append_assoc, List.append_cancel_left_eq] at heq
      obtain ⟨c, cs, rfl, hc⟩ := encodeItems_head hrest
      obtain ⟨c', cs', rfl, hc'⟩ := encodeItems_head hrest'
      obtain ⟨rfl, hmore⟩ := h d (by simp) htext htext' (endsNumber_append hc cs q)
        (endsNumber_append hc' cs' r) heq
      obtain ⟨rfl, rfl⟩ := ih (fun d hd => h d (List.mem_cons_of_mem _ hd)) (.inr rfl) hrest
        hrest' hmore
      exact ⟨rfl, rfl⟩

/-- No entry begins like the end of the mapping. -/
lemma encodeEntries_ne_end {separator : List Char} (hsep : separator = [] ∨ separator = [','])
    {e : String × Tree ι α} {es : List (String × Tree ι α)} {t q r : List Char}
    (h : encodeEntries T separator (e :: es) = .ok t) : t ++ q ≠ '}' :: r := by
  obtain ⟨k, d⟩ := e
  rw [encodeEntries] at h
  obtain ⟨text, -, h⟩ := exceptBind_eq_ok.mp h
  obtain ⟨rest, -, rfl⟩ := exceptMap_eq_ok.mp h
  rcases hsep with rfl | rfl
  · intro heq
    exact absurd (List.cons.inj heq).1 (by decide)
  · intro heq
    exact absurd (List.cons.inj heq).1 (by decide)

/-- The entries of a mapping are told apart when the values are. -/
lemma encodeEntries_inj {es : List (String × Tree ι α)} (h : ∀ e ∈ es, Separated T e.2)
    {separator : List Char} (hsep : separator = [] ∨ separator = [','])
    {es' : List (String × Tree ι α)} {t t' q r : List Char}
    (ht : encodeEntries T separator es = .ok t) (ht' : encodeEntries T separator es' = .ok t')
    (heq : t ++ q = t' ++ r) : es = es' ∧ q = r := by
  induction es generalizing separator es' t t' with
  | nil =>
    obtain rfl := Except.ok.inj ht
    cases es' with
    | nil =>
      obtain rfl := Except.ok.inj ht'
      exact ⟨rfl, List.append_cancel_left heq⟩
    | cons e' es' => exact absurd heq.symm (encodeEntries_ne_end hsep ht')
  | cons e es ih =>
    cases es' with
    | nil =>
      obtain rfl := Except.ok.inj ht'
      exact absurd heq (encodeEntries_ne_end hsep ht)
    | cons e' es' =>
      obtain ⟨k, d⟩ := e
      obtain ⟨k', d'⟩ := e'
      rw [encodeEntries] at ht ht'
      obtain ⟨text, htext, ht⟩ := exceptBind_eq_ok.mp ht
      obtain ⟨rest, hrest, rfl⟩ := exceptMap_eq_ok.mp ht
      obtain ⟨text', htext', ht'⟩ := exceptBind_eq_ok.mp ht'
      obtain ⟨rest', hrest', rfl⟩ := exceptMap_eq_ok.mp ht'
      simp only [List.append_assoc, List.append_cancel_left_eq] at heq
      obtain ⟨rfl, hbehind⟩ := stringText_inj heq
      simp only [List.cons_append, List.cons.injEq, true_and, List.append_assoc] at hbehind
      obtain ⟨c, cs, rfl, hc⟩ := encodeEntries_head hrest
      obtain ⟨c', cs', rfl, hc'⟩ := encodeEntries_head hrest'
      obtain ⟨rfl, hmore⟩ := h (k, d) (by simp) htext htext' (endsNumber_append hc cs q)
        (endsNumber_append hc' cs' r) hbehind
      obtain ⟨rfl, rfl⟩ := ih (fun e he => h e (List.mem_cons_of_mem _ he)) (.inr rfl) hrest
        hrest' hmore
      exact ⟨rfl, rfl⟩

lemma atom?_of_treeHead {v : Leaf ι α} (h : treeHead (.leaf v : Tree ι α) = .atom) {t : List Char}
    (ht : encode T (.leaf v) = .ok t) : ∃ w, atom? v = some w := by
  rcases v with _ | b | i | x | s | x
  · exact ⟨_, rfl⟩
  · exact ⟨_, rfl⟩
  · exact ⟨_, rfl⟩
  · cases x with
    | fin x => exact ⟨_, rfl⟩
    | _ => cases ht
  · cases h
  · cases ht

lemma atom?_inj {v v' : Leaf ι α} {w : PyVal α} (hv : atom? v = some w) (hv' : atom? v' = some w) :
    v = v' := by
  rcases v with _ | b | i | (x | _ | _ | _) | s | x <;> cases hv <;>
    rcases v' with _ | b' | i' | (x' | _ | _ | _) | s' | x' <;> cases hv' <;> rfl

lemma eq_of_treeHead {d : Tree ι α} :
    (treeHead d = .atom → ∃ v, d = .leaf v) ∧ (treeHead d = .string → ∃ s, d = .leaf (.str s)) ∧
      (treeHead d = .list → ∃ ds, d = .list ds) ∧ (treeHead d = .dict → ∃ es, d = .dict es) := by
  rcases d with (_ | _ | _ | _ | _ | _) | ds | es <;> simp [treeHead]

/-- A leaf is told apart from every other document. -/
lemma separated_leaf (v : Leaf ι α) : Separated T (.leaf v) := by
  intro d' t t' q r ht ht' hq hr heq
  have hhead := treeHead_eq ht ht' heq
  cases hv : treeHead (.leaf v : Tree ι α) with
  | atom =>
    obtain ⟨v', rfl⟩ := eq_of_treeHead.1 (hhead ▸ hv)
    obtain ⟨w, hw⟩ := atom?_of_treeHead hv ht
    obtain ⟨w', hw'⟩ := atom?_of_treeHead (hhead ▸ hv) ht'
    obtain rfl := Except.ok.inj ((leafText_of_atom? (T := T) hw).symm.trans ht)
    obtain rfl := Except.ok.inj ((leafText_of_atom? (T := T) hw').symm.trans ht')
    obtain ⟨rfl, rfl⟩ := atom_inj hq hr heq
    exact ⟨by rw [atom?_inj hw hw'], rfl⟩
  | string =>
    obtain ⟨s, hs⟩ := eq_of_treeHead.2.1 hv
    obtain ⟨s', rfl⟩ := eq_of_treeHead.2.1 (hhead ▸ hv)
    rw [hs] at ht ⊢
    obtain rfl := Except.ok.inj ht
    obtain rfl := Except.ok.inj ht'
    obtain ⟨rfl, rfl⟩ := stringText_inj heq
    exact ⟨rfl, rfl⟩
  | list =>
    obtain ⟨ds, hds⟩ := eq_of_treeHead.2.2.1 hv
    cases hds
  | dict =>
    obtain ⟨es, hes⟩ := eq_of_treeHead.2.2.2 hv
    cases hes

/-- **A prefix code.**  Every document is told apart from every other. -/
theorem separated (d : Tree ι α) : Separated T d := by
  induction d using Doc.induction with
  | leaf v => exact separated_leaf v
  | list ds ih =>
    intro d' t t' q r ht ht' hq hr heq
    have hhead := treeHead_eq ht ht' heq
    obtain ⟨ds', rfl⟩ := eq_of_treeHead.2.2.1 hhead.symm
    rw [encode] at ht ht'
    obtain ⟨items, hitems, rfl⟩ := exceptMap_eq_ok.mp ht
    obtain ⟨items', hitems', rfl⟩ := exceptMap_eq_ok.mp ht'
    obtain ⟨rfl, rfl⟩ := encodeItems_inj ih (.inl rfl) hitems hitems' (List.cons.inj heq).2
    exact ⟨rfl, rfl⟩
  | dict es ih =>
    intro d' t t' q r ht ht' hq hr heq
    have hhead := treeHead_eq ht ht' heq
    obtain ⟨es', rfl⟩ := eq_of_treeHead.2.2.2 hhead.symm
    rw [encode] at ht ht'
    obtain ⟨entries, hentries, rfl⟩ := exceptMap_eq_ok.mp ht
    obtain ⟨entries', hentries', rfl⟩ := exceptMap_eq_ok.mp ht'
    obtain ⟨rfl, rfl⟩ := encodeEntries_inj ih (.inl rfl) hentries hentries' (List.cons.inj heq).2
    exact ⟨rfl, rfl⟩

/-- **Canonical texts are faithful.**  Two documents are written alike exactly when they differ in
nothing but the order of their keys. -/
theorem dumps_eq_dumps_iff {d d' : Tree ι α} {t t' : List Char} (h : dumps T d = .ok t)
    (h' : dumps T d' = .ok t') : t = t' ↔ sortKeys d = sortKeys d' := by
  constructor
  · intro heq
    have happend : t ++ [] = t' ++ [] := by rw [heq]
    exact (separated (T := T) (sortKeys d) h h' Json.endsNumber_nil Json.endsNumber_nil happend).1
  · intro heq
    unfold dumps at h h'
    rw [heq, h'] at h
    exact (Except.ok.inj h).symm

end Text

/-! ## What sorting the keys forgets -/

section Forgotten

variable {ι α : Type*}

lemma map_fst_sortValues (es : List (String × Tree ι α)) :
    (sortValues es).map Prod.fst = es.map Prod.fst := by
  induction es with
  | nil => rfl
  | cons e es ih =>
    rw [sortValues, List.map_cons, List.map_cons, ih]

lemma find_sortValues (es : List (String × Tree ι α)) (k : String) :
    Dict.find (sortValues es) k = (Dict.find es k).map sortKeys := by
  induction es with
  | nil => rfl
  | cons e es ih =>
    obtain ⟨j, d⟩ := e
    rw [sortValues, Dict.find, Dict.find, ih]
    split_ifs <;> rfl

/-- Without repeated keys, the entries with one key are what is found under it. -/
lemma withKey_eq_find {β : Type*} {es : List (String × β)} (h : (es.map Prod.fst).Nodup)
    (k : String) : withKey Prod.fst k es = ((Dict.find es k).map fun d => (k, d)).toList := by
  induction es with
  | nil => rfl
  | cons e es ih =>
    obtain ⟨j, d⟩ := e
    rw [List.map_cons, List.nodup_cons] at h
    unfold withKey at ih ⊢
    rw [List.filter_cons, Dict.find, ih h.2]
    by_cases hj : j = k
    · subst hj
      simp [Dict.find_eq_none.mpr h.1]
    · simp [hj]

/-- **Equal but for the order of keys.**  Two mappings sort alike exactly when they hold the same
keys, and values that sort alike under them. -/
theorem sortKeys_dict_eq_iff {es fs : List (String × Tree ι α)} (hes : (es.map Prod.fst).Nodup)
    (hfs : (fs.map Prod.fst).Nodup) :
    sortKeys (.dict es) = sortKeys (.dict fs) ↔
      ∀ k, (Dict.find es k).map sortKeys = (Dict.find fs k).map sortKeys := by
  have hes' : ((sortValues es).map Prod.fst).Nodup := (map_fst_sortValues es).symm ▸ hes
  have hfs' : ((sortValues fs).map Prod.fst).Nodup := (map_fst_sortValues fs).symm ▸ hfs
  rw [sortKeys, sortKeys, Doc.dict.injEq, sortBy_eq_sortBy_iff]
  refine forall_congr' fun k => ?_
  rw [withKey_eq_find hes', withKey_eq_find hfs', find_sortValues, find_sortValues]
  cases (Dict.find es k).map sortKeys <;> cases (Dict.find fs k).map sortKeys <;> simp

end Forgotten

end Canonical

end MiniatureWarehouse
