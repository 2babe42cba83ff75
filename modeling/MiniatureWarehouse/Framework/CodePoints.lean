import MiniatureWarehouse.Framework.Json

/-!
# Strings with lone surrogates

A string of the language is a sequence of code points, and a surrogate is one of them.  A Lean
`String` holds none, so this module has its own strings and the decoded values over them: a decoder
puts a surrogate into a string when its text escapes one, and the encoder to UTF-8 refuses it.

`Decoded.dumps` writes a value as `json.dumps(value, ensure_ascii=False)` does, which copies a
surrogate as it is.  `hasSurrogate_dumps` says that a written value holds one exactly when one of
its texts does.  `Decoded.dumps` recurses once for each level of nesting, and `dumpsWithin` raises
where the interpreter has no room left for that.
-/

namespace MiniatureWarehouse

/-- A code point. -/
abbrev CodePoint := Fin 0x110000

instance neZero_codePoints : NeZero 0x110000 := ⟨by decide⟩

/-- A string of the language. -/
abbrev PyStr := List CodePoint

namespace CodePoint

/-- A surrogate. -/
def isSurrogate (c : CodePoint) : Bool := 0xd800 ≤ c.val && c.val ≤ 0xdfff

lemma toNat_lt (c : Char) : c.toNat < 0x110000 := by
  have hvalid := c.valid
  unfold UInt32.isValidChar Nat.isValidChar at hvalid
  show c.val.toNat < _
  omega

/-- The code point of a character. -/
def ofChar (c : Char) : CodePoint := ⟨c.toNat, toNat_lt c⟩

/-- The character of a code point that is no surrogate. -/
def toChar? (c : CodePoint) : Option Char :=
  if c.isSurrogate then none else some (Char.ofNat c.val)

lemma isSurrogate_ofChar (c : Char) : (ofChar c).isSurrogate = false := by
  have hvalid := c.valid
  unfold UInt32.isValidChar Nat.isValidChar at hvalid
  have hval : (ofChar c).val = c.val.toNat := rfl
  unfold isSurrogate
  rw [hval, Bool.and_eq_false_iff, decide_eq_false_iff_not, decide_eq_false_iff_not]
  omega

end CodePoint

namespace PyStr

/-- The string of some characters. -/
def ofChars (cs : List Char) : PyStr := cs.map CodePoint.ofChar

/-- Is one of the code points a surrogate? -/
def hasSurrogate (s : PyStr) : Bool := s.any CodePoint.isSurrogate

@[simp] lemma hasSurrogate_nil : hasSurrogate [] = false := rfl

@[simp] lemma hasSurrogate_append (s t : PyStr) :
    hasSurrogate (s ++ t) = (hasSurrogate s || hasSurrogate t) :=
  List.any_append

@[simp] lemma hasSurrogate_cons (c : CodePoint) (s : PyStr) :
    hasSurrogate (c :: s) = (c.isSurrogate || hasSurrogate s) :=
  List.any_cons

@[simp] lemma hasSurrogate_ofChars (cs : List Char) : hasSurrogate (ofChars cs) = false := by
  unfold hasSurrogate ofChars
  rw [List.any_map, List.any_eq_false]
  intro c _
  rw [Function.comp_apply, CodePoint.isSurrogate_ofChar]
  exact Bool.false_ne_true

/-- `s.encode("utf-8")`; a surrogate raises a `UnicodeEncodeError`, which is a `ValueError`. -/
def encode (s : PyStr) : Except PyErr ByteArray :=
  match s.mapM CodePoint.toChar? with
  | some cs => .ok (String.ofList cs).toByteArray
  | none => .error .valueError

/-- Text can be encoded exactly when it holds no surrogate. -/
lemma encode_eq_ok_iff (s : PyStr) : (∃ bytes, encode s = .ok bytes) ↔ hasSurrogate s = false := by
  have hmap : (s.mapM CodePoint.toChar?).isSome = !hasSurrogate s := by
    induction s with
    | nil => rfl
    | cons c s ih =>
      rw [List.mapM_cons, hasSurrogate_cons]
      cases hc : c.isSurrogate with
      | true =>
        have hnone : c.toChar? = none := if_pos hc
        simp [hnone]
      | false =>
        have hsome : c.toChar? = some (Char.ofNat c.val) := if_neg (by simp [hc])
        cases hs : s.mapM CodePoint.toChar? with
        | none => simp_all
        | some cs => simp_all
  unfold encode
  cases hs : s.mapM CodePoint.toChar? with
  | none => simp_all
  | some cs => simp_all

end PyStr

/-! ## Decoded values -/

/-- What `json.loads` returns. -/
inductive Decoded (α : Type*)
  | null
  | bool (b : Bool)
  | int (i : ℤ)
  | float (x : PyFloat α)
  | str (s : PyStr)
  | list (xs : List (Decoded α))
  | dict (es : List (PyStr × Decoded α))

namespace Decoded

variable {α : Type*}

/-- `d.get(name)`. -/
def get? : Decoded α → PyStr → Option (Decoded α)
  | .dict es, name => Dict.find es name
  | _, _ => none

mutual

/-- Does a text of the value hold a surrogate? -/
def hasSurrogate : Decoded α → Bool
  | .str s => PyStr.hasSurrogate s
  | .list xs => hasSurrogateList xs
  | .dict es => hasSurrogateEntries es
  | _ => false

def hasSurrogateList : List (Decoded α) → Bool
  | [] => false
  | v :: vs => hasSurrogate v || hasSurrogateList vs

def hasSurrogateEntries : List (PyStr × Decoded α) → Bool
  | [] => false
  | (k, v) :: es => PyStr.hasSurrogate k || hasSurrogate v || hasSurrogateEntries es

end

mutual

/-- How deeply the containers of the value are nested. -/
def depth : Decoded α → ℕ
  | .list xs => depthList xs + 1
  | .dict es => depthEntries es + 1
  | _ => 0

def depthList : List (Decoded α) → ℕ
  | [] => 0
  | v :: vs => max (depth v) (depthList vs)

def depthEntries : List (PyStr × Decoded α) → ℕ
  | [] => 0
  | (_, v) :: es => max (depth v) (depthEntries es)

end

/-- How a code point of a text is written. -/
def escapePoint (c : CodePoint) : PyStr :=
  match c.toChar? with
  | some ch => PyStr.ofChars (Json.escapeChar ch)
  | none => [c]

/-- How a text is written. -/
def stringText (s : PyStr) : PyStr :=
  PyStr.ofChars ['"'] ++ s.flatMap escapePoint ++ PyStr.ofChars ['"']

variable (T : Json.FloatText α)

mutual

/-- `json.dumps(value, ensure_ascii=False)`. -/
def dumps : Decoded α → PyStr
  | .null => PyStr.ofChars ['n', 'u', 'l', 'l']
  | .bool true => PyStr.ofChars ['t', 'r', 'u', 'e']
  | .bool false => PyStr.ofChars ['f', 'a', 'l', 's', 'e']
  | .int i => PyStr.ofChars (Json.intText i)
  | .float x => PyStr.ofChars (Json.floatText T x)
  | .str s => stringText s
  | .list [] => PyStr.ofChars ['[', ']']
  | .list (v :: vs) => PyStr.ofChars ['['] ++ dumps v ++ dumpsElements vs
  | .dict [] => PyStr.ofChars ['{', '}']
  | .dict ((k, v) :: es) =>
    PyStr.ofChars ['{'] ++ stringText k ++ PyStr.ofChars [':', ' '] ++ dumps v ++ dumpsEntries es

def dumpsElements : List (Decoded α) → PyStr
  | [] => PyStr.ofChars [']']
  | v :: vs => PyStr.ofChars [',', ' '] ++ dumps v ++ dumpsElements vs

def dumpsEntries : List (PyStr × Decoded α) → PyStr
  | [] => PyStr.ofChars ['}']
  | (k, v) :: es =>
    PyStr.ofChars [',', ' '] ++ stringText k ++ PyStr.ofChars [':', ' '] ++ dumps v ++
      dumpsEntries es

end

/-- `json.dumps` in an interpreter with room for some levels of nesting. -/
def dumpsWithin (maxDepth : ℕ) (v : Decoded α) : Except PyErr PyStr :=
  if v.depth ≤ maxDepth then .ok (dumps T v) else .error .recursionError

lemma hasSurrogate_escapePoint (c : CodePoint) :
    PyStr.hasSurrogate (escapePoint c) = c.isSurrogate := by
  unfold escapePoint CodePoint.toChar?
  cases hc : c.isSurrogate <;> simp [hc]

lemma hasSurrogate_stringText (s : PyStr) :
    PyStr.hasSurrogate (stringText s) = PyStr.hasSurrogate s := by
  have hflat : PyStr.hasSurrogate (s.flatMap escapePoint) = PyStr.hasSurrogate s := by
    induction s with
    | nil => rfl
    | cons c s ih =>
      rw [List.flatMap_cons, PyStr.hasSurrogate_append, PyStr.hasSurrogate_cons, ih,
        hasSurrogate_escapePoint]
  unfold stringText
  simp [hflat]

mutual

/-- A written value holds a surrogate exactly when one of its texts does. -/
theorem hasSurrogate_dumps (v : Decoded α) :
    PyStr.hasSurrogate (dumps T v) = v.hasSurrogate := by
  match v with
  | .null => simp [dumps, hasSurrogate]
  | .bool true => simp [dumps, hasSurrogate]
  | .bool false => simp [dumps, hasSurrogate]
  | .int i => simp [dumps, hasSurrogate]
  | .float x => simp [dumps, hasSurrogate]
  | .str s => rw [dumps, hasSurrogate, hasSurrogate_stringText]
  | .list [] => simp [dumps, hasSurrogate, hasSurrogateList]
  | .list (v :: vs) =>
    have hv := hasSurrogate_dumps v
    have hvs := hasSurrogate_dumpsElements vs
    simp [dumps, hasSurrogate, hasSurrogateList, hv, hvs]
  | .dict [] => simp [dumps, hasSurrogate, hasSurrogateEntries]
  | .dict ((k, v) :: es) =>
    have hv := hasSurrogate_dumps v
    have hes := hasSurrogate_dumpsEntries es
    simp [dumps, hasSurrogate, hasSurrogateEntries, hasSurrogate_stringText, hv, hes, Bool.or_assoc]

lemma hasSurrogate_dumpsElements (vs : List (Decoded α)) :
    PyStr.hasSurrogate (dumpsElements T vs) = hasSurrogateList vs := by
  match vs with
  | [] => simp [dumpsElements, hasSurrogateList]
  | v :: vs =>
    have hv := hasSurrogate_dumps v
    have hvs := hasSurrogate_dumpsElements vs
    simp [dumpsElements, hasSurrogateList, hv, hvs]

lemma hasSurrogate_dumpsEntries (es : List (PyStr × Decoded α)) :
    PyStr.hasSurrogate (dumpsEntries T es) = hasSurrogateEntries es := by
  match es with
  | [] => simp [dumpsEntries, hasSurrogateEntries]
  | (k, v) :: es =>
    have hv := hasSurrogate_dumps v
    have hes := hasSurrogate_dumpsEntries es
    simp [dumpsEntries, hasSurrogateEntries, hasSurrogate_stringText, hv, hes, Bool.or_assoc]

end

/-- A value that was found in a dictionary without surrogates holds none. -/
lemma hasSurrogate_of_find {es : List (PyStr × Decoded α)} (hes : hasSurrogateEntries es = false)
    {name : PyStr} {v : Decoded α} (h : Dict.find es name = some v) : v.hasSurrogate = false := by
  induction es with
  | nil => cases h
  | cons entry es ih =>
    obtain ⟨k, w⟩ := entry
    rw [hasSurrogateEntries, Bool.or_eq_false_iff, Bool.or_eq_false_iff] at hes
    rw [Dict.find] at h
    split_ifs at h with hname
    · rw [← Option.some.inj h]
      exact hes.1.2
    · exact ih hes.2 h

end Decoded

end MiniatureWarehouse
