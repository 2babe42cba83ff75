import MiniatureWarehouse.Framework.CodePoints
import MiniatureWarehouse.Framework.JsonGrammar

/-!
# Code points in the text of a string

`json.dumps` escapes every code point outside printable ASCII, and a surrogate is escaped like any
other.  The scanner reads them back, with one exception: two escapes that make a pair of surrogates
are one code point.

So no scanned string has a high surrogate in front of a low one (`joined_of_scanString`), and a
string that has not comes back as it was written (`scanString_flatMap`).
-/

namespace MiniatureWarehouse

namespace CodePoint

/-- The code point with a number. -/
def ofNat (n : ℕ) : CodePoint := Fin.ofNat 0x110000 n

/-- A surrogate that begins a pair. -/
def IsHigh (c : CodePoint) : Prop := 0xd800 ≤ c.val ∧ c.val ≤ 0xdbff

/-- A surrogate that ends a pair. -/
def IsLow (c : CodePoint) : Prop := 0xdc00 ≤ c.val ∧ c.val ≤ 0xdfff

lemma val_ofNat {n : ℕ} (h : n < 0x110000) : (ofNat n).val = n := Nat.mod_eq_of_lt h

lemma ofNat_val (c : CodePoint) : ofNat c.val = c := Fin.ext (val_ofNat c.isLt)

lemma not_surrogate_ofChar (c : Char) :
    ¬ (0xd800 ≤ (ofChar c).val ∧ (ofChar c).val ≤ 0xdfff) := by
  have hsurrogate := isSurrogate_ofChar c
  unfold isSurrogate at hsurrogate
  rw [Bool.and_eq_false_iff, decide_eq_false_iff_not, decide_eq_false_iff_not] at hsurrogate
  omega

lemma not_isHigh_ofChar (c : Char) : ¬ (ofChar c).IsHigh := by
  have hsurrogate := not_surrogate_ofChar c
  unfold IsHigh
  omega

lemma not_isLow_ofChar (c : Char) : ¬ (ofChar c).IsLow := by
  have hsurrogate := not_surrogate_ofChar c
  unfold IsLow
  omega

end CodePoint

namespace PyStr

/-- No high surrogate stands in front of a low one. -/
def Joined (s : PyStr) : Prop := s.IsChain fun c d => ¬ (c.IsHigh ∧ d.IsLow)

lemma Joined.tail {c : CodePoint} {s : PyStr} (h : Joined (c :: s)) :
    Joined s :=
  List.IsChain.tail h

lemma Joined.head {c : CodePoint} {s : PyStr} (h : Joined (c :: s)) (hc : c.IsHigh) :
    ∀ d ∈ s.head?, ¬ d.IsLow := by
  intro d hd hlow
  cases s with
  | nil => cases hd
  | cons e s =>
    obtain rfl : e = d := Option.some.inj hd
    exact (List.isChain_cons_cons.mp h).1 ⟨hc, hlow⟩

end PyStr

namespace Decoded

/-- The rest of an escape that began with a high surrogate: it is one code point together with an
escaped low one. -/
def joinSurrogates (high : ℕ) : List Char → Option (CodePoint × List Char)
  | '\\' :: 'u' :: cs =>
    match Json.scanHex4 cs with
    | none => none
    | some (low, r) =>
      if 0xdc00 ≤ low ∧ low ≤ 0xdfff then
        some (.ofNat (0x10000 + (high - 0xd800) * 0x400 + (low - 0xdc00)), r)
      else some (.ofNat high, '\\' :: 'u' :: cs)
  | cs => some (.ofNat high, cs)

/-- A code point by its number, after the letter of the escape. -/
def scanUnicode (cs : List Char) : Option (CodePoint × List Char) :=
  match Json.scanHex4 cs with
  | none => none
  | some (code, r) =>
    if 0xd800 ≤ code ∧ code ≤ 0xdbff then joinSurrogates code r else some (.ofNat code, r)

/-- An escape, after its backslash. -/
def scanEscape : List Char → Option (CodePoint × List Char)
  | [] => none
  | c :: cs =>
    if c = 'u' then scanUnicode cs else (Json.simpleEscape c).map fun d => (.ofChar d, cs)

/-- `scanstring`, after the opening quote, with at most so many characters. -/
def scanString : ℕ → List Char → Option (PyStr × List Char)
  | 0, _ => none
  | _ + 1, [] => none
  | n + 1, c :: cs =>
    if c = '"' then some ([], cs)
    else if c = '\\' then
      match scanEscape cs with
      | none => none
      | some (d, r) => (scanString n r).map fun x => (d :: x.1, x.2)
    else if c.toNat < 32 then none
    else (scanString n cs).map fun x => (.ofChar c :: x.1, x.2)

/-- A number below 2^16 in four hexadecimal digits. -/
def hex4 (n : ℕ) : List Char :=
  [Json.hexChar (n / 4096), Json.hexChar (n / 256 % 16), Json.hexChar (n / 16 % 16),
    Json.hexChar (n % 16)]

/-- What `py_encode_basestring_ascii` writes for a code point. -/
def escapeAscii (c : CodePoint) : List Char :=
  if c = .ofChar '"' then ['\\', '"']
  else if c = .ofChar '\\' then ['\\', '\\']
  else if c = .ofChar '\n' then ['\\', 'n']
  else if c = .ofChar '\r' then ['\\', 'r']
  else if c = .ofChar '\t' then ['\\', 't']
  else if c = .ofChar '\x08' then ['\\', 'b']
  else if c = .ofChar '\x0c' then ['\\', 'f']
  else if 32 ≤ c.val ∧ c.val < 127 then [Char.ofNat c.val]
  else if c.val < 0x10000 then '\\' :: 'u' :: hex4 c.val
  else
    '\\' :: 'u' :: (hex4 (0xd800 + (c.val - 0x10000) / 0x400) ++
      '\\' :: 'u' :: hex4 (0xdc00 + (c.val - 0x10000) % 0x400))

/-- `json.dumps` of a string. -/
def stringAscii (s : PyStr) : List Char := '"' :: (s.flatMap escapeAscii ++ ['"'])

lemma scanHex4_hex4 {n : ℕ} (hn : n < 0x10000) (q : List Char) :
    Json.scanHex4 (hex4 n ++ q) = some (n, q) := by
  have h1 := Json.hexValue_hexChar (n / 4096) (by omega)
  have h2 := Json.hexValue_hexChar (n / 256 % 16) (by omega)
  have h3 := Json.hexValue_hexChar (n / 16 % 16) (by omega)
  have h4 := Json.hexValue_hexChar (n % 16) (by omega)
  have hvalue : ((n / 4096 * 16 + n / 256 % 16) * 16 + n / 16 % 16) * 16 + n % 16 = n := by omega
  simp only [hex4, List.cons_append, List.nil_append, Json.scanHex4, h1, h2, h3, h4, hvalue]

lemma hexValue_lt {c : Char} {k : ℕ} (h : Json.hexValue c = some k) : k < 16 := by
  have hnine : '9'.toNat = 57 := rfl
  have hf : 'f'.toNat = 102 := rfl
  have hF : 'F'.toNat = 70 := rfl
  have hle : ∀ {a b : Char}, a ≤ b → a.toNat ≤ b.toNat := fun h => h
  unfold Json.hexValue at h
  split_ifs at h with hdigit hlower hupper
  · have hc := hle hdigit.2
    have hzero : '0'.toNat = 48 := rfl
    obtain rfl := Option.some.inj h
    omega
  · have hc := hle hlower.2
    have ha : 'a'.toNat = 97 := rfl
    obtain rfl := Option.some.inj h
    omega
  · have hc := hle hupper.2
    have hA : 'A'.toNat = 65 := rfl
    obtain rfl := Option.some.inj h
    omega

lemma scanHex4_lt {cs r : List Char} {k : ℕ} (h : Json.scanHex4 cs = some (k, r)) :
    k < 0x10000 := by
  unfold Json.scanHex4 at h
  split at h
  · split at h
    · rename_i ka kb kc kd ha hb hc hd
      have ha' := hexValue_lt ha
      have hb' := hexValue_lt hb
      have hc' := hexValue_lt hc
      have hd' := hexValue_lt hd
      obtain ⟨rfl, -⟩ := Prod.mk.inj (Option.some.inj h)
      omega
    · cases h
  · cases h

lemma joinSurrogates_of_ne {high : ℕ} {cs : List Char} (h : ∀ r, cs ≠ '\\' :: 'u' :: r) :
    joinSurrogates high cs = some (.ofNat high, cs) := by
  unfold joinSurrogates
  split
  · rename_i r
    exact absurd rfl (h r)
  · rfl

lemma joinSurrogates_hex4 {high n : ℕ} (hn : n < 0x10000) (hlow : ¬ (0xdc00 ≤ n ∧ n ≤ 0xdfff))
    (q : List Char) : joinSurrogates high ('\\' :: 'u' :: (hex4 n ++ q)) =
      some (.ofNat high, '\\' :: 'u' :: (hex4 n ++ q)) := by
  rw [joinSurrogates, scanHex4_hex4 hn]
  exact if_neg hlow

lemma ofChar_ofNat {c : CodePoint} (hascii : c.val < 127) :
    CodePoint.ofChar (Char.ofNat c.val) = c := by
  have hvalid : Nat.isValidChar c.val := .inl (by omega)
  have hchar : Char.ofNat c.val = Char.ofNatAux c.val hvalid := dif_pos hvalid
  rw [hchar]
  rfl

lemma char_ofNat_ne {c : CodePoint} {d : Char} (hc : c ≠ .ofChar d) (hascii : c.val < 127) :
    Char.ofNat c.val ≠ d := by
  rintro rfl
  exact hc (ofChar_ofNat hascii).symm

/-- The four forms a code point is written in: a letter after a backslash, the character itself, one
number, or the numbers of two surrogates. -/
inductive Escaped (c : CodePoint) : List Char → Prop
  | letter {e d : Char} : c = .ofChar d → e ≠ 'u' → 32 ≤ e.toNat → Json.simpleEscape e = some d →
    Escaped c ['\\', e]
  | plain : c ≠ .ofChar '"' → c ≠ .ofChar '\\' → 32 ≤ c.val → c.val < 127 →
    Escaped c [Char.ofNat c.val]
  | number : c.val < 0x10000 → Escaped c ('\\' :: 'u' :: hex4 c.val)
  | pair : ¬ c.val < 0x10000 → Escaped c ('\\' :: 'u' ::
    (hex4 (0xd800 + (c.val - 0x10000) / 0x400) ++
      '\\' :: 'u' :: hex4 (0xdc00 + (c.val - 0x10000) % 0x400)))

lemma escaped_escapeAscii (c : CodePoint) : Escaped c (escapeAscii c) := by
  unfold escapeAscii
  by_cases hquote : c = .ofChar '"'
  · rw [if_pos hquote]
    exact .letter hquote (by decide) (by decide) rfl
  rw [if_neg hquote]
  by_cases hback : c = .ofChar '\\'
  · rw [if_pos hback]
    exact .letter hback (by decide) (by decide) rfl
  rw [if_neg hback]
  by_cases hline : c = .ofChar '\n'
  · rw [if_pos hline]
    exact .letter hline (by decide) (by decide) rfl
  rw [if_neg hline]
  by_cases hreturn : c = .ofChar '\r'
  · rw [if_pos hreturn]
    exact .letter hreturn (by decide) (by decide) rfl
  rw [if_neg hreturn]
  by_cases htab : c = .ofChar '\t'
  · rw [if_pos htab]
    exact .letter htab (by decide) (by decide) rfl
  rw [if_neg htab]
  by_cases hbs : c = .ofChar '\x08'
  · rw [if_pos hbs]
    exact .letter hbs (by decide) (by decide) rfl
  rw [if_neg hbs]
  by_cases hff : c = .ofChar '\x0c'
  · rw [if_pos hff]
    exact .letter hff (by decide) (by decide) rfl
  rw [if_neg hff]
  by_cases hprintable : 32 ≤ c.val ∧ c.val < 127
  · rw [if_pos hprintable]
    exact .plain hquote hback hprintable.1 hprintable.2
  rw [if_neg hprintable]
  by_cases hbasic : c.val < 0x10000
  · rw [if_pos hbasic]
    exact .number hbasic
  · rw [if_neg hbasic]
    exact .pair hbasic

/-- Nothing that is written for other code points is joined to a high surrogate before it. -/
lemma joinSurrogates_flatMap (high : ℕ) {s : PyStr} (hs : ∀ c ∈ s.head?, ¬ c.IsLow)
    (q : List Char) : joinSurrogates high (s.flatMap escapeAscii ++ '"' :: q) =
      some (.ofNat high, s.flatMap escapeAscii ++ '"' :: q) := by
  cases s with
  | nil => exact joinSurrogates_of_ne fun r h => absurd (List.cons.inj h).1 (by decide)
  | cons c s =>
    have hlow := hs c rfl
    have hescaped := escaped_escapeAscii c
    rw [List.flatMap_cons, List.append_assoc]
    generalize s.flatMap escapeAscii ++ '"' :: q = p
    generalize escapeAscii c = cs at hescaped ⊢
    cases hescaped with
    | letter _ he => exact joinSurrogates_of_ne fun r h => he (List.cons.inj (List.cons.inj h).2).1
    | plain _ hback _ hascii =>
      exact joinSurrogates_of_ne fun r h => char_ofNat_ne hback hascii (List.cons.inj h).1
    | number hbasic => exact joinSurrogates_hex4 hbasic hlow p
    | pair hbasic =>
      have hlimit := c.isLt
      rw [List.cons_append, List.cons_append, List.append_assoc]
      exact joinSurrogates_hex4 (by omega) (by omega) _

/-- A code point of a higher plane is read from the two surrogates it is written as. -/
lemma scanUnicode_pair {c : CodePoint} (hc : ¬ c.val < 0x10000) (q : List Char) :
    scanUnicode ((hex4 (0xd800 + (c.val - 0x10000) / 0x400) ++
      '\\' :: 'u' :: hex4 (0xdc00 + (c.val - 0x10000) % 0x400)) ++ q) = some (c, q) := by
  have hlimit := c.isLt
  have hhigh : 0xd800 + (c.val - 0x10000) / 0x400 < 0xdc00 := by omega
  have hlow : 0xdc00 + (c.val - 0x10000) % 0x400 < 0xe000 := by omega
  have hpair : 0x10000 + (0xd800 + (c.val - 0x10000) / 0x400 - 0xd800) * 0x400 +
      (0xdc00 + (c.val - 0x10000) % 0x400 - 0xdc00) = c.val := by omega
  rw [List.append_assoc, List.cons_append, List.cons_append, scanUnicode,
    scanHex4_hex4 (by omega)]
  dsimp only
  rw [if_pos (by omega), joinSurrogates, scanHex4_hex4 (by omega)]
  dsimp only
  rw [if_pos (by omega), hpair, CodePoint.ofNat_val]

/-- A written code point is scanned as that code point, unless it is a high surrogate and a low one
follows. -/
lemma scanString_escapeAscii {c : CodePoint} {s : PyStr}
    (h : c.IsHigh → ∀ d ∈ s.head?, ¬ d.IsLow) (n : ℕ) (q : List Char) :
    scanString (n + 1) (escapeAscii c ++ (s.flatMap escapeAscii ++ '"' :: q)) =
      (scanString n (s.flatMap escapeAscii ++ '"' :: q)).map fun x => (c :: x.1, x.2) := by
  have hjoin := fun hhigh => joinSurrogates_flatMap c.val (h hhigh) q
  have hescaped := escaped_escapeAscii c
  generalize s.flatMap escapeAscii ++ '"' :: q = p at hjoin ⊢
  generalize escapeAscii c = cs at hescaped ⊢
  cases hescaped with
  | letter hc he _ hd =>
    rw [List.cons_append, List.singleton_append, scanString, if_neg (by decide), if_pos rfl,
      scanEscape, if_neg he, hd, hc]
    rfl
  | plain hquote hback hspace hascii =>
    have hchar := ofChar_ofNat hascii
    have hval : (Char.ofNat c.val).toNat = c.val := congrArg Fin.val hchar
    rw [List.singleton_append, scanString, if_neg (char_ofNat_ne hquote hascii),
      if_neg (char_ofNat_ne hback hascii), hval, if_neg (by omega), hchar]
  | number hbasic =>
    rw [List.cons_append, List.cons_append, scanString, if_neg (by decide), if_pos rfl, scanEscape,
      if_pos rfl, scanUnicode, scanHex4_hex4 hbasic]
    dsimp only
    split_ifs with hhigh
    · rw [hjoin hhigh, CodePoint.ofNat_val]
    · rw [CodePoint.ofNat_val]
  | pair hbasic =>
    rw [List.cons_append, List.cons_append, scanString, if_neg (by decide), if_pos rfl, scanEscape,
      if_pos rfl, scanUnicode_pair hbasic]

/-- **A joined string is scanned back.** -/
lemma scanString_flatMap {s : PyStr} (hs : PyStr.Joined s) {n : ℕ} (hn : s.length < n)
    (q : List Char) : scanString n (s.flatMap escapeAscii ++ '"' :: q) = some (s, q) := by
  induction s generalizing n with
  | nil =>
    obtain ⟨n, rfl⟩ : ∃ n', n = n' + 1 := ⟨n - 1, by omega⟩
    rfl
  | cons c s ih =>
    rw [List.length_cons] at hn
    obtain ⟨n, rfl⟩ : ∃ n', n = n' + 1 := ⟨n - 1, by omega⟩
    rw [List.flatMap_cons, List.append_assoc,
      scanString_escapeAscii hs.head, ih hs.tail (by omega)]
    rfl

/-- Is this the text of a code point that ends a pair? -/
def StartsLow (cs : List Char) : Prop :=
  ∃ r low q, cs = '\\' :: 'u' :: r ∧ Json.scanHex4 r = some (low, q) ∧
    0xdc00 ≤ low ∧ low ≤ 0xdfff

lemma joinSurrogates_sound {high : ℕ} {cs r : List Char} {d : CodePoint}
    (h : joinSurrogates high cs = some (d, r)) (hhigh : 0xd800 ≤ high ∧ high ≤ 0xdbff) :
    ¬ d.IsLow ∧ (d.IsHigh → ¬ StartsLow r) := by
  have hlone : ¬ (CodePoint.ofNat high).IsLow := by
    unfold CodePoint.IsLow
    rw [CodePoint.val_ofNat (by omega)]
    omega
  unfold joinSurrogates at h
  split at h
  · split at h
    · cases h
    · rename_i hhex
      split_ifs at h with hlow
      · obtain ⟨rfl, -⟩ := Prod.mk.inj (Option.some.inj h)
        unfold CodePoint.IsLow CodePoint.IsHigh
        rw [CodePoint.val_ofNat (by omega)]
        exact ⟨by omega, fun hpair => absurd hpair (by omega)⟩
      · obtain ⟨rfl, rfl⟩ := Prod.mk.inj (Option.some.inj h)
        refine ⟨hlone, fun _ ⟨r, low', q, heq, hhex', hlow'⟩ => hlow ?_⟩
        obtain rfl := (List.cons.inj (List.cons.inj heq).2).2
        rw [hhex] at hhex'
        obtain ⟨rfl, -⟩ := Prod.mk.inj (Option.some.inj hhex')
        exact hlow'
  · rename_i hne
    obtain ⟨rfl, rfl⟩ := Prod.mk.inj (Option.some.inj h)
    exact ⟨hlone, fun _ ⟨r, low', q, heq, _⟩ => hne r heq⟩

/-- What an escape can be: a code point that ends a pair by its own number, and one that begins a
pair only where nothing follows to end it. -/
lemma scanEscape_sound {cs r : List Char} {d : CodePoint} (h : scanEscape cs = some (d, r)) :
    (d.IsLow → StartsLow ('\\' :: cs)) ∧ (d.IsHigh → ¬ StartsLow r) := by
  cases cs with
  | nil => cases h
  | cons c cs =>
    rw [scanEscape] at h
    split_ifs at h with hu
    · unfold scanUnicode at h
      split at h
      · cases h
      · rename_i code q hhex
        split_ifs at h with hhigh
        · obtain ⟨hlow, hnext⟩ := joinSurrogates_sound h hhigh
          exact ⟨fun hd => absurd hd hlow, hnext⟩
        · obtain ⟨rfl, rfl⟩ := Prod.mk.inj (Option.some.inj h)
          have hcode := scanHex4_lt hhex
          unfold CodePoint.IsLow CodePoint.IsHigh
          rw [CodePoint.val_ofNat (by omega)]
          refine ⟨fun hlow => ⟨cs, code, q, ?_, hhex, hlow⟩, fun hd => absurd hd hhigh⟩
          rw [hu]
    · obtain ⟨e, -, heq⟩ := Option.map_eq_some_iff.mp h
      obtain ⟨rfl, -⟩ := Prod.mk.inj heq
      exact ⟨fun hd => absurd hd (CodePoint.not_isLow_ofChar e),
        fun hd => absurd hd (CodePoint.not_isHigh_ofChar e)⟩

/-- **No scanned string has a high surrogate in front of a low one.** -/
lemma joined_of_scanString {n : ℕ} {cs r : List Char} {s : PyStr}
    (h : scanString n cs = some (s, r)) :
    PyStr.Joined s ∧ ∀ c ∈ s.head?, c.IsLow → StartsLow cs := by
  induction n generalizing cs r s with
  | zero => cases h
  | succ n ih =>
    cases cs with
    | nil => cases h
    | cons c cs =>
      rw [scanString] at h
      -- one more code point in front of a string that is scanned from what is left
      have hcons : ∀ {d : CodePoint} {q : List Char} {x : PyStr × List Char},
          scanString n q = some x → (d.IsHigh → ¬ StartsLow q) → PyStr.Joined (d :: x.1) := by
        intro d q x hx hd
        obtain ⟨hjoined, hhead⟩ := ih hx
        refine List.isChain_cons.mpr ⟨fun e he hpair => ?_, hjoined⟩
        exact hd hpair.1 (hhead e he hpair.2)
      split_ifs at h with hquote hback hcontrol
      · obtain ⟨rfl, -⟩ := Prod.mk.inj (Option.some.inj h)
        exact ⟨.nil, fun c hc => by cases hc⟩
      · split at h
        · cases h
        · rename_i d q hescape
          obtain ⟨hlow, hhigh⟩ := scanEscape_sound hescape
          obtain ⟨x, hx, heq⟩ := Option.map_eq_some_iff.mp h
          obtain ⟨rfl, -⟩ := Prod.mk.inj heq
          refine ⟨hcons hx hhigh, fun e he hel => ?_⟩
          obtain rfl : d = e := Option.some.inj he
          rw [hback]
          exact hlow hel
      · obtain ⟨x, hx, heq⟩ := Option.map_eq_some_iff.mp h
        obtain ⟨rfl, -⟩ := Prod.mk.inj heq
        refine ⟨hcons hx fun hd => absurd hd (CodePoint.not_isHigh_ofChar c), fun e he hel => ?_⟩
        obtain rfl : CodePoint.ofChar c = e := Option.some.inj he
        exact absurd hel (CodePoint.not_isLow_ofChar c)

lemma printable_hex4 {n : ℕ} (hn : n < 0x10000) : ∀ c ∈ hex4 n, 32 ≤ c.toNat := by
  unfold hex4
  simp only [List.forall_mem_cons]
  exact ⟨Json.printable_hexChar _ (by omega), Json.printable_hexChar _ (by omega),
    Json.printable_hexChar _ (by omega), Json.printable_hexChar _ (by omega),
    fun _ h => absurd h List.not_mem_nil⟩

lemma Escaped.printable {c : CodePoint} {cs : List Char} (h : Escaped c cs) :
    ∀ d ∈ cs, 32 ≤ d.toNat := by
  have hlimit := c.isLt
  have hback : 32 ≤ '\\'.toNat := by decide
  have hu : 32 ≤ 'u'.toNat := by decide
  cases h with
  | letter _ _ he =>
    exact List.forall_mem_cons.mpr ⟨hback, List.forall_mem_cons.mpr
      ⟨he, fun _ h => absurd h List.not_mem_nil⟩⟩
  | plain _ _ hspace hascii =>
    intro d hd
    have hval : (Char.ofNat c.val).toNat = c.val := congrArg Fin.val (ofChar_ofNat hascii)
    rw [List.mem_singleton.mp hd, hval]
    exact hspace
  | number hbasic =>
    exact List.forall_mem_cons.mpr ⟨hback, List.forall_mem_cons.mpr ⟨hu, printable_hex4 hbasic⟩⟩
  | pair hbasic =>
    refine List.forall_mem_cons.mpr ⟨hback, List.forall_mem_cons.mpr ⟨hu, ?_⟩⟩
    refine List.forall_mem_append.mpr ⟨printable_hex4 (by omega), ?_⟩
    exact List.forall_mem_cons.mpr ⟨hback, List.forall_mem_cons.mpr
      ⟨hu, printable_hex4 (by omega)⟩⟩

lemma Escaped.length_pos {c : CodePoint} {cs : List Char} (h : Escaped c cs) : 0 < cs.length := by
  cases h with
  | letter => exact Nat.succ_pos _
  | plain => exact Nat.succ_pos _
  | number => exact Nat.succ_pos _
  | pair => exact Nat.succ_pos _

lemma printable_stringAscii (s : PyStr) : ∀ c ∈ stringAscii s, 32 ≤ c.toNat := by
  intro c hc
  unfold stringAscii at hc
  rw [List.mem_cons, List.mem_append, List.mem_flatMap, List.mem_singleton] at hc
  rcases hc with rfl | ⟨d, -, hc⟩ | rfl
  · decide
  · exact (escaped_escapeAscii d).printable c hc
  · decide

lemma length_stringAscii (s : PyStr) : s.length + 2 ≤ (stringAscii s).length := by
  have hflat : s.length ≤ (s.flatMap escapeAscii).length := by
    induction s with
    | nil => exact Nat.zero_le _
    | cons c s ih =>
      have hpos := (escaped_escapeAscii c).length_pos
      rw [List.flatMap_cons, List.length_append, List.length_cons]
      omega
  unfold stringAscii
  rw [List.length_cons, List.length_append, List.length_singleton]
  omega

lemma stringAscii_append (s : PyStr) (q : List Char) :
    stringAscii s ++ q = '"' :: (s.flatMap escapeAscii ++ '"' :: q) := by
  unfold stringAscii
  simp

end Decoded

end MiniatureWarehouse
