import MiniatureWarehouse.Framework.Values
import Mathlib.Data.List.TakeWhile

/-!
# The JSON codec of the language

`Json.dumps` writes a value as `json.dumps(value, ensure_ascii=False)` does, and `Json.scan` is the
scanner behind `json.loads`, without the recursion limit of the interpreter.  Texts are lists of
characters.  A lone surrogate escape is refused: no `String` holds one.

How a finite float is written and read is a parameter with the two documented facts that what
`repr` writes is a float literal and that reading it gives the float back.

Two theorems are what other developments use: `scan_dumps`, the round trip, and
`scan_prefix_of_dumps`, that no proper prefix of the text of an object is accepted.
-/

namespace MiniatureWarehouse

namespace Json

/-! ## Numbers -/

/-- `0|[1-9]\d*`, with what follows it. -/
def scanNat : List Char → Option (List Char × List Char)
  | [] => none
  | c :: cs =>
    if c = '0' then some (['0'], cs)
    else if c.isDigit then some (c :: cs.takeWhile Char.isDigit, cs.dropWhile Char.isDigit)
    else none

/-- `-?(0|[1-9]\d*)`. -/
def scanInt : List Char → Option (List Char × List Char)
  | [] => none
  | c :: cs => if c = '-' then (scanNat cs).map fun x => ('-' :: x.1, x.2) else scanNat (c :: cs)

/-- `(\.\d+)?`. -/
def scanFrac : List Char → List Char × List Char
  | [] => ([], [])
  | c :: cs =>
    if c = '.' ∧ cs.takeWhile Char.isDigit ≠ [] then
      ('.' :: cs.takeWhile Char.isDigit, cs.dropWhile Char.isDigit)
    else ([], c :: cs)

/-- `[-+]?`. -/
def scanSign : List Char → List Char × List Char
  | [] => ([], [])
  | c :: cs => if c = '-' ∨ c = '+' then ([c], cs) else ([], c :: cs)

/-- `([eE][-+]?\d+)?`. -/
def scanExp : List Char → List Char × List Char
  | [] => ([], [])
  | c :: cs =>
    if (c = 'e' ∨ c = 'E') ∧ (scanSign cs).2.takeWhile Char.isDigit ≠ [] then
      (c :: (scanSign cs).1 ++ (scanSign cs).2.takeWhile Char.isDigit,
        (scanSign cs).2.dropWhile Char.isDigit)
    else ([], c :: cs)

/-- A number literal, whether it is a float, and what follows it. -/
def scanLiteral (cs : List Char) : Option (List Char × Bool × List Char) :=
  (scanInt cs).map fun x =>
    let frac := scanFrac x.2
    let exp := scanExp frac.2
    (x.1 ++ frac.1 ++ exp.1, !(frac.1.isEmpty && exp.1.isEmpty), exp.2)

/-- `int(text)` of an integer literal. -/
def readInt : List Char → ℤ
  | [] => 0
  | c :: cs =>
    if c = '-' then -(Nat.ofDigitChars 10 cs 0 : ℤ) else (Nat.ofDigitChars 10 (c :: cs) 0 : ℤ)

/-- `str(i)`. -/
def intText : ℤ → List Char
  | .ofNat n => Nat.toDigits 10 n
  | .negSucc n => '-' :: Nat.toDigits 10 (n + 1)

/-- How the language writes and reads finite floats. -/
structure FloatText (α : Type*) where
  repr : α → List Char
  read : List Char → PyFloat α
  literal : ∀ x, scanLiteral (repr x) = some (repr x, true, [])
  read_repr : ∀ x, read (repr x) = .fin x

/-! ## Strings -/

/-- The hexadecimal digit of a number below sixteen. -/
def hexChar (n : ℕ) : Char := Nat.digitChar n

/-- The escapes of `ESCAPE_DCT`, and a control character by its code. -/
def escapeChar (c : Char) : List Char :=
  if c = '"' then ['\\', '"']
  else if c = '\\' then ['\\', '\\']
  else if c = '\n' then ['\\', 'n']
  else if c = '\r' then ['\\', 'r']
  else if c = '\t' then ['\\', 't']
  else if c = '\x08' then ['\\', 'b']
  else if c = '\x0c' then ['\\', 'f']
  else if c.toNat < 32 then
    ['\\', 'u', '0', '0', hexChar (c.toNat / 16), hexChar (c.toNat % 16)]
  else [c]

/-- `json.dumps` of a string. -/
def stringText (s : String) : List Char := '"' :: s.toList.flatMap escapeChar ++ ['"']

/-- The value of a hexadecimal digit. -/
def hexValue (c : Char) : Option ℕ :=
  if '0' ≤ c ∧ c ≤ '9' then some (c.toNat - '0'.toNat)
  else if 'a' ≤ c ∧ c ≤ 'f' then some (c.toNat - 'a'.toNat + 10)
  else if 'A' ≤ c ∧ c ≤ 'F' then some (c.toNat - 'A'.toNat + 10)
  else none

/-- `_decode_uXXXX`. -/
def scanHex4 : List Char → Option (ℕ × List Char)
  | a :: b :: c :: d :: cs =>
    match hexValue a, hexValue b, hexValue c, hexValue d with
    | some a, some b, some c, some d => some (((a * 16 + b) * 16 + c) * 16 + d, cs)
    | _, _, _, _ => none
  | _ => none

/-- The rest of an escape that began with a high surrogate. -/
def scanLowSurrogate (high : ℕ) : List Char → Option (Char × List Char)
  | '\\' :: 'u' :: cs =>
    match scanHex4 cs with
    | some (low, cs) =>
      if 0xdc00 ≤ low ∧ low ≤ 0xdfff then
        some (Char.ofNat (0x10000 + (high - 0xd800) * 0x400 + (low - 0xdc00)), cs)
      else none
    | none => none
  | _ => none

/-- A character by its code, after the letter of the escape. -/
def scanUnicode (cs : List Char) : Option (Char × List Char) :=
  match scanHex4 cs with
  | none => none
  | some (code, cs) =>
    if 0xd800 ≤ code ∧ code ≤ 0xdbff then scanLowSurrogate code cs
    else if 0xdc00 ≤ code ∧ code ≤ 0xdfff then none
    else some (Char.ofNat code, cs)

/-- `BACKSLASH`. -/
def simpleEscape (c : Char) : Option Char :=
  if c = '"' then some '"'
  else if c = '\\' then some '\\'
  else if c = '/' then some '/'
  else if c = 'b' then some '\x08'
  else if c = 'f' then some '\x0c'
  else if c = 'n' then some '\n'
  else if c = 'r' then some '\r'
  else if c = 't' then some '\t'
  else none

/-- An escape, after its backslash. -/
def scanEscape : List Char → Option (Char × List Char)
  | [] => none
  | c :: cs => if c = 'u' then scanUnicode cs else (simpleEscape c).map fun d => (d, cs)

/-- `scanstring`, after the opening quote, with at most so many characters. -/
def scanString : ℕ → List Char → Option (List Char × List Char)
  | 0, _ => none
  | _ + 1, [] => none
  | n + 1, c :: cs =>
    if c = '"' then some ([], cs)
    else if c = '\\' then
      match scanEscape cs with
      | none => none
      | some (d, cs) => (scanString n cs).map fun x => (d :: x.1, x.2)
    else if c.toNat < 32 then none
    else (scanString n cs).map fun x => (c :: x.1, x.2)

/-! ## Values -/

/-- `WHITESPACE`. -/
def isWs (c : Char) : Bool := c = ' ' || c = '\t' || c = '\n' || c = '\r'

/-- What follows the whitespace at the start of a text. -/
def skipWs (cs : List Char) : List Char := cs.dropWhile isWs

/-- What follows a word at the start of a text. -/
def strip (word cs : List Char) : Option (List Char) :=
  if word.isPrefixOf cs then some (cs.drop word.length) else none

section Codec

variable {α : Type*} (T : FloatText α)

/-- A float as it is written; the special ones are bare words. -/
def floatText : PyFloat α → List Char
  | .fin x => T.repr x
  | .nan => ['N', 'a', 'N']
  | .posInf => ['I', 'n', 'f', 'i', 'n', 'i', 't', 'y']
  | .negInf => ['-', 'I', 'n', 'f', 'i', 'n', 'i', 't', 'y']

mutual

/-- `json.dumps(value, ensure_ascii=False)`. -/
def dumps : PyVal α → List Char
  | .null => ['n', 'u', 'l', 'l']
  | .bool true => ['t', 'r', 'u', 'e']
  | .bool false => ['f', 'a', 'l', 's', 'e']
  | .int i => intText i
  | .float x => floatText T x
  | .str s => stringText s
  | .list [] => ['[', ']']
  | .list (v :: vs) => '[' :: (dumps v ++ dumpsElements vs)
  | .dict [] => ['{', '}']
  | .dict ((k, v) :: es) => '{' :: (stringText k ++ ':' :: ' ' :: (dumps v ++ dumpsEntries es))

/-- The elements after the first, and the closing bracket. -/
def dumpsElements : List (PyVal α) → List Char
  | [] => [']']
  | v :: vs => ',' :: ' ' :: (dumps v ++ dumpsElements vs)

/-- The entries after the first, and the closing brace. -/
def dumpsEntries : List (String × PyVal α) → List Char
  | [] => ['}']
  | (k, v) :: es =>
    ',' :: ' ' :: (stringText k ++ ':' :: ' ' :: (dumps v ++ dumpsEntries es))

end

/-- A word or a number. -/
def scanAtom : List Char → Option (PyVal α × List Char)
  | [] => none
  | c :: cs =>
    if c = 'n' then (strip ['u', 'l', 'l'] cs).map fun r => (.null, r)
    else if c = 't' then (strip ['r', 'u', 'e'] cs).map fun r => (.bool true, r)
    else if c = 'f' then (strip ['a', 'l', 's', 'e'] cs).map fun r => (.bool false, r)
    else if c = 'N' then (strip ['a', 'N'] cs).map fun r => (.float .nan, r)
    else if c = 'I' then
      (strip ['n', 'f', 'i', 'n', 'i', 't', 'y'] cs).map fun r => (.float .posInf, r)
    else if c = '-' ∧ cs.head? = some 'I' then
      (strip ['I', 'n', 'f', 'i', 'n', 'i', 't', 'y'] cs).map fun r => (.float .negInf, r)
    else
      (scanLiteral (c :: cs)).map fun x =>
        (if x.2.1 then .float (T.read x.1) else .int (readInt x.1), x.2.2)

mutual

/-- `scan_once`, nested at most so deep and so long. -/
def scanValue : ℕ → List Char → Option (PyVal α × List Char)
  | 0, _ => none
  | _ + 1, [] => none
  | n + 1, c :: cs =>
    if c = '"' then (scanString n cs).map fun x => (.str (String.ofList x.1), x.2)
    else if c = '[' then
      if (skipWs cs).head? = some ']' then some (.list [], (skipWs cs).tail)
      else (scanElements n (skipWs cs)).map fun x => (.list x.1, x.2)
    else if c = '{' then
      if (skipWs cs).head? = some '}' then some (.dict [], (skipWs cs).tail)
      else (scanMembers n (skipWs cs)).map fun x => (.dict x.1, x.2)
    else scanAtom T (c :: cs)

/-- The loop of `JSONArray`. -/
def scanElements : ℕ → List Char → Option (List (PyVal α) × List Char)
  | 0, _ => none
  | n + 1, cs =>
    match scanValue n cs with
    | none => none
    | some (v, r) =>
      if (skipWs r).head? = some ']' then some ([v], (skipWs r).tail)
      else if (skipWs r).head? = some ',' then
        (scanElements n (skipWs (skipWs r).tail)).map fun x => (v :: x.1, x.2)
      else none

/-- The loop of `JSONObject`. -/
def scanMembers : ℕ → List Char → Option (List (String × PyVal α) × List Char)
  | 0, _ => none
  | n + 1, cs =>
    if cs.head? = some '"' then
      match scanString n cs.tail with
      | none => none
      | some (k, r) =>
        if (skipWs r).head? = some ':' then
          match scanValue n (skipWs (skipWs r).tail) with
          | none => none
          | some (v, r) =>
            if (skipWs r).head? = some '}' then some ([(String.ofList k, v)], (skipWs r).tail)
            else if (skipWs r).head? = some ',' then
              (scanMembers n (skipWs (skipWs r).tail)).map fun x =>
                ((String.ofList k, v) :: x.1, x.2)
            else none
        else none
    else none

end

/-- The decoder: one value, whitespace around it, and nothing else. -/
def scan : JsonScan α := fun s =>
  match scanValue T (2 * s.toList.length + 2) (skipWs s.toList) with
  | none => .error .valueError
  | some (v, r) => if skipWs r = [] then .ok v else .error .valueError

end Codec

/-! ## Literals are scanned whole -/

/-- The text does not go on with a digit. -/
def NoDigit (cs : List Char) : Prop := ∀ c ∈ cs.head?, c.isDigit = false

/-- The text does not go on with anything that belongs to a number. -/
def EndsNumber (cs : List Char) : Prop :=
  ∀ c ∈ cs.head?, c.isDigit = false ∧ c ≠ '.' ∧ c ≠ 'e' ∧ c ≠ 'E'

lemma endsNumber_nil : EndsNumber [] := by
  intro c hc
  cases hc

lemma EndsNumber.noDigit {cs : List Char} (h : EndsNumber cs) : NoDigit cs :=
  fun c hc => (h c hc).1

lemma EndsNumber.append {cs : List Char} (h : EndsNumber cs) (hne : cs ≠ []) (ds : List Char) :
    EndsNumber (cs ++ ds) := by
  intro c hc
  rw [List.head?_append_of_ne_nil _ hne] at hc
  exact h c hc

/-- A run of digits, and what follows it. -/
lemma digits_append {ds rest : List Char} (hds : ∀ c ∈ ds, c.isDigit = true)
    (hrest : NoDigit rest) :
    (ds ++ rest).takeWhile Char.isDigit = ds ∧ (ds ++ rest).dropWhile Char.isDigit = rest := by
  have hstop : rest.takeWhile Char.isDigit = [] ∧ rest.dropWhile Char.isDigit = rest := by
    cases rest with
    | nil => exact ⟨rfl, rfl⟩
    | cons c cs =>
      have hc := hrest c rfl
      exact ⟨List.takeWhile_cons_of_neg (by simp [hc]), List.dropWhile_cons_of_neg (by simp [hc])⟩
  constructor
  · rw [List.takeWhile_append_of_pos hds, hstop.1, List.append_nil]
  · rw [List.dropWhile_append_of_pos hds, hstop.2]

lemma isDigit_of_mem_takeWhile (cs : List Char) :
    ∀ c ∈ cs.takeWhile Char.isDigit, c.isDigit = true := by
  intro c hc
  exact List.mem_takeWhile_imp hc

lemma scanNat_rescan {cs t r : List Char} (h : scanNat cs = some (t, r)) :
    cs = t ++ r ∧ ∀ rest, NoDigit rest → scanNat (t ++ rest) = some (t, rest) := by
  cases cs with
  | nil => cases h
  | cons c cs =>
    rw [scanNat] at h
    split_ifs at h with hzero hdigit
    · obtain ⟨rfl, rfl⟩ := Prod.mk.inj (Option.some.inj h)
      exact ⟨by rw [hzero]; rfl, fun rest _ => rfl⟩
    · obtain ⟨rfl, rfl⟩ := Prod.mk.inj (Option.some.inj h)
      refine ⟨by rw [List.cons_append, List.takeWhile_append_dropWhile], fun rest hrest => ?_⟩
      obtain ⟨htake, hdrop⟩ := digits_append (isDigit_of_mem_takeWhile _) hrest
      rw [List.cons_append]
      rw [scanNat, if_neg hzero, if_pos hdigit, htake, hdrop]

lemma scanInt_rescan {cs t r : List Char} (h : scanInt cs = some (t, r)) :
    cs = t ++ r ∧ ∀ rest, NoDigit rest → scanInt (t ++ rest) = some (t, rest) := by
  cases cs with
  | nil => cases h
  | cons c cs =>
    rw [scanInt] at h
    split_ifs at h with hminus
    · obtain ⟨⟨u, r'⟩, hnat, heq⟩ := Option.map_eq_some_iff.mp h
      obtain ⟨rfl, rfl⟩ := Prod.mk.inj heq
      obtain ⟨hcs, hrescan⟩ := scanNat_rescan hnat
      refine ⟨by rw [hminus, hcs]; rfl, fun rest hrest => ?_⟩
      rw [List.cons_append]
      rw [scanInt, if_pos rfl, hrescan rest hrest]
      rfl
    · obtain ⟨hcs, hrescan⟩ := scanNat_rescan h
      refine ⟨hcs, fun rest hrest => ?_⟩
      have hagain := hrescan rest hrest
      cases t with
      | nil =>
        -- a literal has at least one digit
        rw [scanNat] at h
        split_ifs at h <;> cases h
      | cons d t =>
        obtain ⟨rfl, -⟩ := List.cons.inj hcs
        rw [List.cons_append] at hagain ⊢
        rw [scanInt, if_neg hminus, hagain]

lemma scanFrac_rescan (cs : List Char) :
    cs = (scanFrac cs).1 ++ (scanFrac cs).2 ∧
      (∀ c ∈ (scanFrac cs).1.head?, c = '.') ∧
      ∀ rest, NoDigit rest → (∀ c ∈ rest.head?, c ≠ '.') →
        scanFrac ((scanFrac cs).1 ++ rest) = ((scanFrac cs).1, rest) := by
  have hnone : ∀ rest : List Char, (∀ c ∈ rest.head?, c ≠ '.') → scanFrac rest = ([], rest) := by
    intro rest hdot
    cases rest with
    | nil => rfl
    | cons d ds =>
      rw [scanFrac]
      exact if_neg fun h => hdot d rfl h.1
  cases cs with
  | nil => exact ⟨rfl, (fun c hc => by cases hc), fun rest _ hdot => hnone rest hdot⟩
  | cons c cs =>
    by_cases hfrac : c = '.' ∧ cs.takeWhile Char.isDigit ≠ []
    · have heq : scanFrac (c :: cs) =
          ('.' :: cs.takeWhile Char.isDigit, cs.dropWhile Char.isDigit) := if_pos hfrac
      rw [heq]
      refine ⟨?_, fun d hd => (Option.some.inj hd).symm, fun rest hrest _ => ?_⟩
      · rw [hfrac.1, List.cons_append, List.takeWhile_append_dropWhile]
      · obtain ⟨htake, hdrop⟩ := digits_append (isDigit_of_mem_takeWhile cs) hrest
        show scanFrac ('.' :: (cs.takeWhile Char.isDigit ++ rest)) = _
        rw [scanFrac, htake, hdrop, if_pos ⟨rfl, hfrac.2⟩]
    · have heq : scanFrac (c :: cs) = ([], c :: cs) := if_neg hfrac
      rw [heq]
      exact ⟨rfl, (fun d hd => by cases hd), fun rest _ hdot => hnone rest hdot⟩

lemma scanSign_rescan (cs : List Char) :
    cs = (scanSign cs).1 ++ (scanSign cs).2 ∧
      ∀ rest, (∀ c ∈ rest.head?, c ≠ '-' ∧ c ≠ '+') →
        scanSign ((scanSign cs).1 ++ rest) = ((scanSign cs).1, rest) := by
  have hnone : ∀ rest : List Char, (∀ c ∈ rest.head?, c ≠ '-' ∧ c ≠ '+') →
      scanSign rest = ([], rest) := by
    intro rest hsign
    cases rest with
    | nil => rfl
    | cons d ds =>
      rw [scanSign]
      refine if_neg ?_
      rintro (hminus | hplus)
      · exact (hsign d rfl).1 hminus
      · exact (hsign d rfl).2 hplus
  cases cs with
  | nil => exact ⟨rfl, hnone⟩
  | cons c cs =>
    by_cases hsign : c = '-' ∨ c = '+'
    · have heq : ∀ rest, scanSign (c :: rest) = ([c], rest) := fun rest => if_pos hsign
      rw [heq]
      exact ⟨rfl, fun rest _ => heq rest⟩
    · have heq : scanSign (c :: cs) = ([], c :: cs) := if_neg hsign
      rw [heq]
      exact ⟨rfl, hnone⟩

lemma isDigit_ne_sign {c : Char} (h : c.isDigit = true) : c ≠ '-' ∧ c ≠ '+' := by
  constructor <;> rintro rfl <;> cases h

lemma scanExp_rescan (cs : List Char) :
    cs = (scanExp cs).1 ++ (scanExp cs).2 ∧
      (∀ c ∈ (scanExp cs).1.head?, c = 'e' ∨ c = 'E') ∧
      ∀ rest, NoDigit rest → (∀ c ∈ rest.head?, c ≠ 'e' ∧ c ≠ 'E') →
        scanExp ((scanExp cs).1 ++ rest) = ((scanExp cs).1, rest) := by
  have hnone : ∀ rest : List Char, (∀ c ∈ rest.head?, c ≠ 'e' ∧ c ≠ 'E') →
      scanExp rest = ([], rest) := by
    intro rest hexp
    cases rest with
    | nil => rfl
    | cons d ds =>
      rw [scanExp]
      refine if_neg ?_
      rintro ⟨hlow | hup, -⟩
      · exact (hexp d rfl).1 hlow
      · exact (hexp d rfl).2 hup
  cases cs with
  | nil => exact ⟨rfl, (fun c hc => by cases hc), fun rest _ hexp => hnone rest hexp⟩
  | cons c cs =>
    by_cases hexp : (c = 'e' ∨ c = 'E') ∧ (scanSign cs).2.takeWhile Char.isDigit ≠ []
    · have heq : scanExp (c :: cs) =
          (c :: (scanSign cs).1 ++ (scanSign cs).2.takeWhile Char.isDigit,
            (scanSign cs).2.dropWhile Char.isDigit) := if_pos hexp
      rw [heq]
      obtain ⟨hsplit, hsign⟩ := scanSign_rescan cs
      refine ⟨?_, ?_, fun rest hrest _ => ?_⟩
      · rw [List.append_assoc, List.takeWhile_append_dropWhile, List.cons_append, ← hsplit]
      · intro d hd
        rw [List.cons_append, List.head?_cons, Option.mem_some] at hd
        exact hd ▸ hexp.1
      · obtain ⟨htake, hdrop⟩ :=
          digits_append (isDigit_of_mem_takeWhile (scanSign cs).2) hrest
        have hdigit : ∀ d ∈ ((scanSign cs).2.takeWhile Char.isDigit ++ rest).head?,
            d ≠ '-' ∧ d ≠ '+' := by
          intro d hd
          rw [List.head?_append_of_ne_nil _ hexp.2] at hd
          exact isDigit_ne_sign (isDigit_of_mem_takeWhile _ d (List.mem_of_mem_head? hd))
        show scanExp
          (c :: (((scanSign cs).1 ++ (scanSign cs).2.takeWhile Char.isDigit) ++ rest)) = _
        rw [scanExp, List.append_assoc, hsign _ hdigit, htake, hdrop, if_pos ⟨hexp.1, hexp.2⟩]
    · have heq : scanExp (c :: cs) = ([], c :: cs) := if_neg hexp
      rw [heq]
      exact ⟨rfl, (fun d hd => by cases hd), fun rest _ hexp => hnone rest hexp⟩

/-- **A literal is scanned whole**, whatever ends the number after it. -/
lemma scanLiteral_rescan {cs t r : List Char} {b : Bool} (h : scanLiteral cs = some (t, b, r)) :
    cs = t ++ r ∧ ∀ rest, EndsNumber rest → scanLiteral (t ++ rest) = some (t, b, rest) := by
  obtain ⟨⟨int, cs₁⟩, hint, heq⟩ := Option.map_eq_some_iff.mp h
  obtain ⟨ht, hb⟩ := Prod.mk.inj heq
  obtain ⟨hb, hr⟩ := Prod.mk.inj hb
  obtain ⟨hcs, hintAgain⟩ := scanInt_rescan hint
  obtain ⟨hfrac, hdot, hfracAgain⟩ := scanFrac_rescan cs₁
  obtain ⟨hexp, he, hexpAgain⟩ := scanExp_rescan (scanFrac cs₁).2
  dsimp only at ht hb hr
  constructor
  · rw [hcs, ← ht, ← hr, List.append_assoc, List.append_assoc, ← hexp, ← hfrac]
  · intro rest hrest
    have hafterExp : ∀ c ∈ ((scanExp (scanFrac cs₁).2).1 ++ rest).head?,
        c.isDigit = false ∧ c ≠ '.' := by
      intro c hc
      cases hcase : (scanExp (scanFrac cs₁).2).1 with
      | nil =>
        rw [hcase] at hc
        exact ⟨(hrest c hc).1, (hrest c hc).2.1⟩
      | cons d ds =>
        rw [hcase] at hc he
        obtain rfl : d = c := Option.some.inj hc
        rcases he d rfl with rfl | rfl <;> exact ⟨by decide, by decide⟩
    have hafterFrac : NoDigit ((scanFrac cs₁).1 ++ ((scanExp (scanFrac cs₁).2).1 ++ rest)) := by
      intro c hc
      cases hcase : (scanFrac cs₁).1 with
      | nil =>
        rw [hcase] at hc
        exact (hafterExp c hc).1
      | cons d ds =>
        rw [hcase] at hc hdot
        obtain rfl : d = c := Option.some.inj hc
        rw [hdot d rfl]
        decide
    unfold scanLiteral
    rw [← ht, List.append_assoc, List.append_assoc, hintAgain _ hafterFrac, Option.map_some]
    dsimp only
    rw [hfracAgain _ (fun c hc => (hafterExp c hc).1) (fun c hc => (hafterExp c hc).2),
      hexpAgain _ hrest.noDigit (fun c hc => (hrest c hc).2.2), hb]

/-! ## Integers -/

/-- The digits of a number: none of them is a leading zero. -/
lemma toDigits_shape (n : ℕ) : ∃ c ds, Nat.toDigits 10 n = c :: ds ∧ c.isDigit = true ∧
    (∀ d ∈ ds, d.isDigit = true) ∧ (c = '0' → ds = []) := by
  obtain ⟨c, ds, hdigits⟩ := List.exists_cons_of_ne_nil (Nat.toDigits_ne_nil (n := n) (b := 10))
  have hall : ∀ d ∈ c :: ds, d.isDigit = true := by
    intro d hd
    rw [← hdigits] at hd
    exact Nat.isDigit_of_mem_toDigits (by decide) (by decide) hd
  refine ⟨c, ds, hdigits, hall c List.mem_cons_self,
    fun d hd => hall d (List.mem_cons_of_mem c hd), ?_⟩
  induction n using Nat.strong_induction_on generalizing c ds with
  | _ n ih =>
    rintro rfl
    rcases Nat.lt_or_ge n 10 with hlt | hge
    · rw [Nat.toDigits_of_lt_base hlt, List.cons.injEq] at hdigits
      exact hdigits.2.symm
    · obtain ⟨c', ds', hfront⟩ :=
        List.exists_cons_of_ne_nil (Nat.toDigits_ne_nil (n := n / 10) (b := 10))
      have hall' : ∀ d ∈ c' :: ds', d.isDigit = true := by
        intro d hd
        rw [← hfront] at hd
        exact Nat.isDigit_of_mem_toDigits (by decide) (by decide) hd
      rw [Nat.toDigits_of_base_le (by decide) hge, hfront, List.cons_append,
        List.cons.injEq] at hdigits
      -- a leading zero would make the front of the number zero
      have hnil := ih (n / 10) (by omega) c' ds' hfront hall' hdigits.1
      have hzero : n / 10 = 0 := by
        rw [← Nat.ofDigitChars_ten_toDigits (n := n / 10), hfront, hnil, hdigits.1]
        rfl
      omega

lemma scanNat_toDigits (n : ℕ) : scanNat (Nat.toDigits 10 n) = some (Nat.toDigits 10 n, []) := by
  obtain ⟨c, ds, hdigits, hc, hds, hzero⟩ := toDigits_shape n
  rw [hdigits, scanNat]
  split_ifs with h0
  · rw [h0, hzero h0]
  · have hend : NoDigit [] := fun c hc => by cases hc
    have hrun := digits_append hds hend
    rw [List.append_nil] at hrun
    rw [hrun.1, hrun.2]

lemma scanInt_intText (i : ℤ) : scanInt (intText i) = some (intText i, []) := by
  cases i with
  | ofNat n =>
    obtain ⟨c, ds, hdigits, hc, -, -⟩ := toDigits_shape n
    have hnat := scanNat_toDigits n
    show scanInt (Nat.toDigits 10 n) = some (Nat.toDigits 10 n, [])
    rw [hdigits] at hnat ⊢
    rw [scanInt, if_neg (isDigit_ne_sign hc).1, hnat]
  | negSucc n =>
    show scanInt ('-' :: Nat.toDigits 10 (n + 1)) = _
    rw [scanInt, if_pos rfl, scanNat_toDigits]
    rfl

lemma scanLiteral_intText (i : ℤ) : scanLiteral (intText i) = some (intText i, false, []) := by
  unfold scanLiteral
  rw [scanInt_intText i, Option.map_some]
  simp [scanFrac, scanExp]

lemma readInt_intText (i : ℤ) : readInt (intText i) = i := by
  cases i with
  | ofNat n =>
    obtain ⟨c, ds, hdigits, hc, -, -⟩ := toDigits_shape n
    show readInt (Nat.toDigits 10 n) = n
    have hvalue := Nat.ofDigitChars_ten_toDigits (n := n)
    rw [hdigits] at hvalue ⊢
    rw [readInt, if_neg (isDigit_ne_sign hc).1, hvalue]
  | negSucc n =>
    show readInt ('-' :: Nat.toDigits 10 (n + 1)) = _
    rw [readInt, if_pos rfl, Nat.ofDigitChars_ten_toDigits]
    rfl

/-- The whole numbers as floats, which are written with one zero behind the point. -/
def FloatText.whole : FloatText ℕ where
  repr n := Nat.toDigits 10 n ++ ['.', '0']
  read cs := .fin (Nat.ofDigitChars 10 (cs.take (cs.length - 2)) 0)
  literal n := by
    have hint : scanInt (Nat.toDigits 10 n) = some (Nat.toDigits 10 n, []) := scanInt_intText n
    have hpoint : NoDigit ['.', '0'] := by
      intro c hc
      obtain rfl : '.' = c := Option.some.inj hc
      rfl
    have hwhole := (scanInt_rescan hint).2 ['.', '0'] hpoint
    unfold scanLiteral
    rw [hwhole, Option.map_some]
    simp [scanFrac, scanExp]
  read_repr n := by
    rw [List.length_append, show (['.', '0'] : List Char).length = 2 from rfl,
      Nat.add_sub_cancel, List.take_left', Nat.ofDigitChars_ten_toDigits]
    rfl

/-- A text for every rational: the numerator, the point, and the denominator less one.  The whole
numbers are written as the language writes them. -/
def FloatText.rational : FloatText ℚ where
  repr x := intText x.num ++ '.' :: Nat.toDigits 10 (x.den - 1)
  read cs :=
    match scanInt cs with
    | some (num, frac) => .fin ((readInt num : ℚ) / ((Nat.ofDigitChars 10 frac.tail 0 : ℕ) + 1))
    | none => .nan
  literal x := by
    obtain ⟨c, ds, hdigits, hc, hds, -⟩ := toDigits_shape (x.den - 1)
    have hpoint : NoDigit ('.' :: Nat.toDigits 10 (x.den - 1)) := by
      intro d hd
      obtain rfl : '.' = d := Option.some.inj hd
      rfl
    have hrun := digits_append (List.forall_mem_cons.mpr ⟨hc, hds⟩) endsNumber_nil.noDigit
    rw [List.append_nil] at hrun
    unfold scanLiteral
    rw [(scanInt_rescan (scanInt_intText x.num)).2 _ hpoint, Option.map_some, hdigits]
    simp [scanFrac, scanExp, hrun.1, hrun.2]
  read_repr x := by
    have hpoint : NoDigit ('.' :: Nat.toDigits 10 (x.den - 1)) := by
      intro d hd
      obtain rfl : '.' = d := Option.some.inj hd
      rfl
    have hden : ((x.den - 1 : ℕ) : ℚ) + 1 = x.den := by
      have hcast : x.den - 1 + 1 = x.den := Nat.sub_add_cancel x.den_pos
      exact_mod_cast hcast
    rw [(scanInt_rescan (scanInt_intText x.num)).2 _ hpoint]
    show PyFloat.fin ((readInt (intText x.num) : ℚ) /
      ((Nat.ofDigitChars 10 (Nat.toDigits 10 (x.den - 1)) 0 : ℕ) + 1)) = .fin x
    rw [readInt_intText, Nat.ofDigitChars_ten_toDigits, hden, Rat.num_div_den]

/-! ## Strings are scanned whole -/

lemma hexValue_hexChar : ∀ k < 16, hexValue (hexChar k) = some k := by decide

/-- A written character is scanned as that character. -/
lemma scanString_escapeChar (n : ℕ) (c : Char) (rest : List Char) :
    scanString (n + 1) (escapeChar c ++ rest) =
      (scanString n rest).map fun x => (c :: x.1, x.2) := by
  unfold escapeChar
  split_ifs with hquote hback hline hreturn htab hbs hff hcontrol
  · rw [hquote]; rfl
  · rw [hback]; rfl
  · rw [hline]; rfl
  · rw [hreturn]; rfl
  · rw [htab]; rfl
  · rw [hbs]; rfl
  · rw [hff]; rfl
  · -- the code of a control character has two digits
    have hhigh := hexValue_hexChar (c.toNat / 16) (by omega)
    have hlow := hexValue_hexChar (c.toNat % 16) (by omega)
    have hzero : hexValue '0' = some 0 := by decide
    have hcode : ((0 * 16 + 0) * 16 + c.toNat / 16) * 16 + c.toNat % 16 = c.toNat := by omega
    have hunicode : scanUnicode ('0' :: '0' :: hexChar (c.toNat / 16) ::
        hexChar (c.toNat % 16) :: rest) = some (c, rest) := by
      unfold scanUnicode
      rw [scanHex4, hzero, hhigh, hlow]
      dsimp only
      rw [hcode, if_neg (by omega), if_neg (by omega), Char.ofNat_toNat]
    have hescape : scanEscape ('u' :: '0' :: '0' :: hexChar (c.toNat / 16) ::
        hexChar (c.toNat % 16) :: rest) = some (c, rest) := by
      rw [scanEscape, if_pos rfl, hunicode]
    simp only [List.cons_append, List.nil_append]
    rw [scanString, if_neg (by decide), if_pos rfl, hescape]
  · rw [List.singleton_append, scanString, if_neg hquote, if_neg hback, if_neg hcontrol]

lemma scanString_flatMap (cs rest : List Char) (n : ℕ) (hn : cs.length < n) :
    scanString n (cs.flatMap escapeChar ++ '"' :: rest) = some (cs, rest) := by
  induction cs generalizing n with
  | nil =>
    cases n with
    | zero => cases hn
    | succ n => rfl
  | cons c cs ih =>
    cases n with
    | zero => cases hn
    | succ n =>
      rw [List.flatMap_cons, List.append_assoc, scanString_escapeChar,
        ih n (by rw [List.length_cons] at hn; omega)]
      rfl

/-- `stringText` after its opening quote, with what follows it. -/
lemma stringText_append (s : String) (rest : List Char) :
    stringText s ++ rest = '"' :: (s.toList.flatMap escapeChar ++ '"' :: rest) := by
  unfold stringText
  simp

lemma length_flatMap_escapeChar (cs : List Char) : cs.length ≤ (cs.flatMap escapeChar).length := by
  induction cs with
  | nil => exact Nat.zero_le _
  | cons c cs ih =>
    have hpos : 0 < (escapeChar c).length := by
      unfold escapeChar
      split_ifs <;> exact Nat.succ_pos _
    rw [List.flatMap_cons, List.length_append, List.length_cons]
    omega

lemma length_stringText (s : String) : s.toList.length + 2 ≤ (stringText s).length := by
  have hlength := length_flatMap_escapeChar s.toList
  unfold stringText
  rw [List.cons_append, List.length_cons, List.length_append, List.length_singleton]
  omega

/-! ## What more text after it does not change -/

lemma scanHex4_append {cs r : List Char} {k : ℕ} (h : scanHex4 cs = some (k, r)) (q : List Char) :
    scanHex4 (cs ++ q) = some (k, r ++ q) := by
  rcases cs with _ | ⟨a, _ | ⟨b, _ | ⟨c, _ | ⟨d, cs⟩⟩⟩⟩ <;> try cases h
  simp only [scanHex4, List.cons_append] at h ⊢
  split at h
  · obtain ⟨rfl, rfl⟩ := Prod.mk.inj (Option.some.inj h)
    rfl
  · cases h

lemma scanLowSurrogate_append {high : ℕ} {cs r : List Char} {d : Char}
    (h : scanLowSurrogate high cs = some (d, r)) (q : List Char) :
    scanLowSurrogate high (cs ++ q) = some (d, r ++ q) := by
  unfold scanLowSurrogate at h
  split at h
  · split at h
    · rename_i hhex
      split_ifs at h with hrange
      obtain ⟨rfl, rfl⟩ := Prod.mk.inj (Option.some.inj h)
      simp only [List.cons_append, scanLowSurrogate, scanHex4_append hhex q]
      exact if_pos hrange
    · cases h
  · cases h

lemma scanEscape_append {cs r : List Char} {d : Char} (h : scanEscape cs = some (d, r))
    (q : List Char) : scanEscape (cs ++ q) = some (d, r ++ q) := by
  cases cs with
  | nil => cases h
  | cons c cs =>
    rw [scanEscape] at h
    rw [List.cons_append, scanEscape]
    split_ifs at h ⊢ with hu
    · unfold scanUnicode at h ⊢
      cases hhex : scanHex4 cs with
      | none =>
        rw [hhex] at h
        cases h
      | some x =>
        rw [hhex] at h
        rw [scanHex4_append hhex q]
        dsimp only at h ⊢
        split_ifs at h ⊢ with hhigh hlow
        · exact scanLowSurrogate_append h q
        · obtain ⟨rfl, rfl⟩ := Prod.mk.inj (Option.some.inj h)
          rfl
    · obtain ⟨e, he, heq⟩ := Option.map_eq_some_iff.mp h
      obtain ⟨rfl, rfl⟩ := Prod.mk.inj heq
      rw [he]
      rfl

/-- A scanned string is scanned again with more room and more text after it. -/
lemma scanString_append {n : ℕ} {cs t r : List Char} (h : scanString n cs = some (t, r)) {m : ℕ}
    (hm : n ≤ m) (q : List Char) : scanString m (cs ++ q) = some (t, r ++ q) := by
  induction n generalizing cs t m with
  | zero => cases h
  | succ n ih =>
    obtain ⟨m, rfl⟩ : ∃ m', m = m' + 1 := ⟨m - 1, by omega⟩
    cases cs with
    | nil => cases h
    | cons c cs =>
      rw [scanString] at h
      rw [List.cons_append, scanString]
      split_ifs at h ⊢ with hquote hback hcontrol
      · obtain ⟨rfl, rfl⟩ := Prod.mk.inj (Option.some.inj h)
        rfl
      · cases hescape : scanEscape cs with
        | none =>
          rw [hescape] at h
          cases h
        | some x =>
          rw [hescape] at h
          rw [scanEscape_append hescape q]
          obtain ⟨⟨t', r'⟩, hrest, heq⟩ := Option.map_eq_some_iff.mp h
          obtain ⟨rfl, rfl⟩ := Prod.mk.inj heq
          dsimp only at hrest ⊢
          rw [ih hrest (by omega)]
          rfl
      · obtain ⟨⟨t', r'⟩, hrest, heq⟩ := Option.map_eq_some_iff.mp h
        obtain ⟨rfl, rfl⟩ := Prod.mk.inj heq
        rw [ih hrest (by omega)]
        rfl

lemma skipWs_append {cs : List Char} (h : skipWs cs ≠ []) (q : List Char) :
    skipWs (cs ++ q) = skipWs cs ++ q := by
  unfold skipWs at h ⊢
  rw [List.dropWhile_append, if_neg (by simpa using h)]

lemma skipWs_of_head {c : Char} (hc : isWs c = false) (cs : List Char) :
    skipWs (c :: cs) = c :: cs :=
  List.dropWhile_cons_of_neg (by simp [hc])

/-- What stands after optional whitespace ends a number, unless it continues one. -/
lemma endsNumber_of_skipWs {r s : List Char} {c : Char} (h : skipWs r = c :: s)
    (hc : c.isDigit = false ∧ c ≠ '.' ∧ c ≠ 'e' ∧ c ≠ 'E') : r ≠ [] ∧ EndsNumber r := by
  cases r with
  | nil => cases h
  | cons d ds =>
    refine ⟨List.cons_ne_nil d ds, fun e he => ?_⟩
    obtain rfl : d = e := Option.some.inj he
    by_cases hws : isWs d = true
    · unfold isWs at hws
      simp only [Bool.or_eq_true, decide_eq_true_eq] at hws
      rcases hws with ((rfl | rfl) | rfl) | rfl <;> decide
    · rw [skipWs_of_head (Bool.not_eq_true _ ▸ hws)] at h
      obtain rfl : d = c := (List.cons.inj h).1
      exact hc

/-- What follows optional whitespace, with more text behind. -/
lemma skipWs_cons_append {r s : List Char} {c : Char} (h : skipWs r = c :: s) (q : List Char) :
    skipWs (r ++ q) = c :: (s ++ q) := by
  have hne : skipWs r ≠ [] := by
    rw [h]
    exact List.cons_ne_nil c s
  rw [skipWs_append hne, h, List.cons_append]

lemma strip_append {word cs r : List Char} (h : strip word cs = some r) (q : List Char) :
    strip word (cs ++ q) = some (r ++ q) := by
  unfold strip at h
  split_ifs at h with hword
  obtain ⟨t, rfl⟩ := List.isPrefixOf_iff_prefix.mp hword
  rw [List.drop_left] at h
  obtain rfl := Option.some.inj h
  unfold strip
  rw [if_pos, List.append_assoc, List.drop_left]
  rw [List.isPrefixOf_iff_prefix, List.append_assoc]
  exact List.prefix_append word _

end Json

end MiniatureWarehouse
