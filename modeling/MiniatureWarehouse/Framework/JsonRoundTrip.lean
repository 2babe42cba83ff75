import MiniatureWarehouse.Framework.Json

/-!
# What is written is read back

The scanner reads a written value back and stops right behind it, whatever follows, as long as it
does not continue a number.  Read the other way, a value that has been scanned is scanned the same
with more text behind it.  The two together say that the text of an object has no proper prefix
that is accepted: it would leave the rest of the text over.
-/

namespace MiniatureWarehouse

namespace Json

/-! ## One step of the scanner

What the scanner does at each form of text, and, read the other way, the forms a scanned text can
have.  Nothing below unfolds the scanner again. -/

section Steps

-- Each proof of the section unfolds one of them: their equations are made here, once.
attribute [local simp] scanValue scanElements scanMembers

variable {α : Type*} {T : FloatText α} {n : ℕ} {cs r r' : List Char} {v : PyVal α}

lemma scanValue_quote (cs : List Char) : scanValue T (n + 1) ('"' :: cs) =
    (scanString n cs).map fun x => (.str (String.ofList x.1), x.2) := by
  rw [scanValue, if_pos rfl]

lemma scanValue_emptyList (h : skipWs cs = ']' :: r) :
    scanValue T (n + 1) ('[' :: cs) = some (.list [], r) := by
  rw [scanValue, if_neg (by decide), if_pos rfl, h, List.head?_cons, if_pos rfl, List.tail_cons]

lemma scanValue_list {c : Char} (h : skipWs cs = c :: r) (hc : c ≠ ']') :
    scanValue T (n + 1) ('[' :: cs) =
      (scanElements T n (c :: r)).map fun x => (.list x.1, x.2) := by
  rw [scanValue, if_neg (by decide), if_pos rfl, h, List.head?_cons,
    if_neg fun hclose => hc (Option.some.inj hclose)]

lemma scanValue_emptyDict (h : skipWs cs = '}' :: r) :
    scanValue T (n + 1) ('{' :: cs) = some (.dict [], r) := by
  rw [scanValue, if_neg (by decide), if_neg (by decide), if_pos rfl, h, List.head?_cons,
    if_pos rfl, List.tail_cons]

lemma scanValue_dict {c : Char} (h : skipWs cs = c :: r) (hc : c ≠ '}') :
    scanValue T (n + 1) ('{' :: cs) =
      (scanMembers T n (c :: r)).map fun x => (.dict x.1, x.2) := by
  rw [scanValue, if_neg (by decide), if_neg (by decide), if_pos rfl, h, List.head?_cons,
    if_neg fun hclose => hc (Option.some.inj hclose)]

lemma scanValue_atom {c : Char} (hquote : c ≠ '"') (hbracket : c ≠ '[') (hbrace : c ≠ '{')
    (cs : List Char) : scanValue T (n + 1) (c :: cs) = scanAtom T (c :: cs) := by
  rw [scanValue, if_neg hquote, if_neg hbracket, if_neg hbrace]

lemma scanElements_none (hv : scanValue T n cs = none) : scanElements T (n + 1) cs = none := by
  rw [scanElements, hv]

lemma scanElements_last (hv : scanValue T n cs = some (v, r)) (hr : skipWs r = ']' :: r') :
    scanElements T (n + 1) cs = some ([v], r') := by
  rw [scanElements, hv]
  dsimp only
  rw [hr, List.head?_cons, if_pos rfl, List.tail_cons]

lemma scanElements_next (hv : scanValue T n cs = some (v, r)) (hr : skipWs r = ',' :: r') :
    scanElements T (n + 1) cs =
      (scanElements T n (skipWs r')).map fun x => (v :: x.1, x.2) := by
  rw [scanElements, hv]
  dsimp only
  rw [hr, List.head?_cons, if_neg (by decide), if_pos rfl, List.tail_cons]

section Members

variable {k r₁ r₂ r₃ r₄ name : List Char}

lemma scanMembers_none_name (hk : scanString n k = none) :
    scanMembers T (n + 1) ('"' :: k) = none := by
  rw [scanMembers, List.head?_cons, if_pos rfl, List.tail_cons, hk]

lemma scanMembers_none_value (hk : scanString n k = some (name, r₁)) (h₁ : skipWs r₁ = ':' :: r₂)
    (hv : scanValue T n (skipWs r₂) = none) : scanMembers T (n + 1) ('"' :: k) = none := by
  rw [scanMembers, List.head?_cons, if_pos rfl, List.tail_cons, hk]
  dsimp only
  rw [h₁, List.head?_cons, if_pos rfl, List.tail_cons, hv]

lemma scanMembers_last (hk : scanString n k = some (name, r₁)) (h₁ : skipWs r₁ = ':' :: r₂)
    (hv : scanValue T n (skipWs r₂) = some (v, r₃)) (h₃ : skipWs r₃ = '}' :: r) :
    scanMembers T (n + 1) ('"' :: k) = some ([(String.ofList name, v)], r) := by
  rw [scanMembers, List.head?_cons, if_pos rfl, List.tail_cons, hk]
  dsimp only
  rw [h₁, List.head?_cons, if_pos rfl, List.tail_cons, hv]
  dsimp only
  rw [h₃, List.head?_cons, if_pos rfl, List.tail_cons]

lemma scanMembers_next (hk : scanString n k = some (name, r₁)) (h₁ : skipWs r₁ = ':' :: r₂)
    (hv : scanValue T n (skipWs r₂) = some (v, r₃)) (h₃ : skipWs r₃ = ',' :: r₄) :
    scanMembers T (n + 1) ('"' :: k) =
      (scanMembers T n (skipWs r₄)).map fun x => ((String.ofList name, v) :: x.1, x.2) := by
  rw [scanMembers, List.head?_cons, if_pos rfl, List.tail_cons, hk]
  dsimp only
  rw [h₁, List.head?_cons, if_pos rfl, List.tail_cons, hv]
  dsimp only
  rw [h₃, List.head?_cons, if_neg (by decide), if_pos rfl, List.tail_cons]

end Members

/-- What one step on a value can have read. -/
inductive ValueStep (T : FloatText α) (n : ℕ) : List Char → PyVal α → List Char → Prop
  | string {cs s r : List Char} : scanString n cs = some (s, r) →
    ValueStep T n ('"' :: cs) (.str (String.ofList s)) r
  | emptyList {cs r : List Char} : skipWs cs = ']' :: r → ValueStep T n ('[' :: cs) (.list []) r
  | list {c : Char} {cs ds r : List Char} {vs : List (PyVal α)} :
    skipWs cs = c :: ds → c ≠ ']' → scanElements T n (c :: ds) = some (vs, r) →
      ValueStep T n ('[' :: cs) (.list vs) r
  | emptyDict {cs r : List Char} : skipWs cs = '}' :: r → ValueStep T n ('{' :: cs) (.dict []) r
  | dict {c : Char} {cs ds r : List Char} {es : List (String × PyVal α)} :
    skipWs cs = c :: ds → c ≠ '}' → scanMembers T n (c :: ds) = some (es, r) →
      ValueStep T n ('{' :: cs) (.dict es) r
  | atom {c : Char} {cs r : List Char} {v : PyVal α} :
    c ≠ '"' → c ≠ '[' → c ≠ '{' → scanAtom T (c :: cs) = some (v, r) → ValueStep T n (c :: cs) v r

/-- What one step of the loop over an array can have read. -/
inductive ElementsStep (T : FloatText α) (n : ℕ) (cs : List Char) :
    List (PyVal α) → List Char → Prop
  | last {v : PyVal α} {r₁ r : List Char} :
    scanValue T n cs = some (v, r₁) → skipWs r₁ = ']' :: r → ElementsStep T n cs [v] r
  | next {v : PyVal α} {r₁ r₂ r : List Char} {vs : List (PyVal α)} :
    scanValue T n cs = some (v, r₁) → skipWs r₁ = ',' :: r₂ →
      scanElements T n (skipWs r₂) = some (vs, r) → ElementsStep T n cs (v :: vs) r

/-- What one step of the loop over an object can have read. -/
inductive MembersStep (T : FloatText α) (n : ℕ) :
    List Char → List (String × PyVal α) → List Char → Prop
  | last {k name r₁ r₂ r₃ r : List Char} {v : PyVal α} :
    scanString n k = some (name, r₁) → skipWs r₁ = ':' :: r₂ →
      scanValue T n (skipWs r₂) = some (v, r₃) → skipWs r₃ = '}' :: r →
      MembersStep T n ('"' :: k) [(String.ofList name, v)] r
  | next {k name r₁ r₂ r₃ r₄ r : List Char} {v : PyVal α} {es : List (String × PyVal α)} :
    scanString n k = some (name, r₁) → skipWs r₁ = ':' :: r₂ →
      scanValue T n (skipWs r₂) = some (v, r₃) → skipWs r₃ = ',' :: r₄ →
      scanMembers T n (skipWs r₄) = some (es, r) →
      MembersStep T n ('"' :: k) ((String.ofList name, v) :: es) r

/-- Nothing is read from the empty text. -/
lemma ne_nil_of_scanValue (h : scanValue T n cs = some (v, r)) : cs ≠ [] := by
  rintro rfl
  cases n <;> cases h

lemma ne_nil_of_scanElements {vs : List (PyVal α)} (h : scanElements T n cs = some (vs, r)) :
    cs ≠ [] := by
  rintro rfl
  cases n with
  | zero => cases h
  | succ n =>
    rw [scanElements] at h
    cases n <;> cases h

lemma ne_nil_of_scanMembers {es : List (String × PyVal α)}
    (h : scanMembers T n cs = some (es, r)) : cs ≠ [] := by
  rintro rfl
  cases n <;> cases h

lemma eq_cons_of_head? {c : Char} (h : cs.head? = some c) : cs = c :: cs.tail := by
  cases cs with
  | nil => cases h
  | cons d ds => rw [Option.some.inj h, List.tail_cons]

lemma valueStep_of_scanValue (h : scanValue T (n + 1) cs = some (v, r)) :
    ValueStep T n cs v r := by
  cases cs with
  | nil => cases h
  | cons c cs =>
    rw [scanValue] at h
    by_cases hquote : c = '"'
    · rw [if_pos hquote] at h
      obtain ⟨⟨s, r'⟩, hstring, heq⟩ := Option.map_eq_some_iff.mp h
      obtain ⟨rfl, rfl⟩ := Prod.mk.inj heq
      exact hquote ▸ .string hstring
    rw [if_neg hquote] at h
    by_cases hbracket : c = '['
    · rw [if_pos hbracket] at h
      by_cases hclose : (skipWs cs).head? = some ']'
      · rw [if_pos hclose] at h
        obtain ⟨rfl, rfl⟩ := Prod.mk.inj (Option.some.inj h)
        exact hbracket ▸ .emptyList (eq_cons_of_head? hclose)
      · rw [if_neg hclose] at h
        obtain ⟨⟨vs, r'⟩, helements, heq⟩ := Option.map_eq_some_iff.mp h
        obtain ⟨rfl, rfl⟩ := Prod.mk.inj heq
        obtain ⟨d, ds, hskip⟩ := List.exists_cons_of_ne_nil (ne_nil_of_scanElements helements)
        rw [hskip] at helements hclose
        exact hbracket ▸ .list hskip (fun hd => hclose (congrArg some hd)) helements
    rw [if_neg hbracket] at h
    by_cases hbrace : c = '{'
    · rw [if_pos hbrace] at h
      by_cases hclose : (skipWs cs).head? = some '}'
      · rw [if_pos hclose] at h
        obtain ⟨rfl, rfl⟩ := Prod.mk.inj (Option.some.inj h)
        exact hbrace ▸ .emptyDict (eq_cons_of_head? hclose)
      · rw [if_neg hclose] at h
        obtain ⟨⟨es, r'⟩, hmembers, heq⟩ := Option.map_eq_some_iff.mp h
        obtain ⟨rfl, rfl⟩ := Prod.mk.inj heq
        obtain ⟨d, ds, hskip⟩ := List.exists_cons_of_ne_nil (ne_nil_of_scanMembers hmembers)
        rw [hskip] at hmembers hclose
        exact hbrace ▸ .dict hskip (fun hd => hclose (congrArg some hd)) hmembers
    rw [if_neg hbrace] at h
    exact .atom hquote hbracket hbrace h

lemma elementsStep_of_scanElements {vs : List (PyVal α)}
    (h : scanElements T (n + 1) cs = some (vs, r)) : ElementsStep T n cs vs r := by
  rw [scanElements] at h
  cases hvalue : scanValue T n cs with
  | none =>
    rw [hvalue] at h
    cases h
  | some x =>
    obtain ⟨v, r₁⟩ := x
    rw [hvalue] at h
    dsimp only at h
    split_ifs at h with hclose hcomma
    · obtain ⟨rfl, rfl⟩ := Prod.mk.inj (Option.some.inj h)
      exact .last hvalue (eq_cons_of_head? hclose)
    · obtain ⟨⟨vs', r'⟩, hrest, heq⟩ := Option.map_eq_some_iff.mp h
      obtain ⟨rfl, rfl⟩ := Prod.mk.inj heq
      exact .next hvalue (eq_cons_of_head? hcomma) hrest

lemma membersStep_of_scanMembers {es : List (String × PyVal α)}
    (h : scanMembers T (n + 1) cs = some (es, r)) : MembersStep T n cs es r := by
  rw [scanMembers] at h
  split_ifs at h with hquote
  rw [eq_cons_of_head? hquote]
  cases hkey : scanString n cs.tail with
  | none =>
    rw [hkey] at h
    cases h
  | some x =>
    obtain ⟨name, r₁⟩ := x
    rw [hkey] at h
    dsimp only at h
    split_ifs at h with hcolon
    cases hvalue : scanValue T n (skipWs (skipWs r₁).tail) with
    | none =>
      rw [hvalue] at h
      cases h
    | some x =>
      obtain ⟨v, r₃⟩ := x
      rw [hvalue] at h
      dsimp only at h
      split_ifs at h with hclose hcomma
      · obtain ⟨rfl, rfl⟩ := Prod.mk.inj (Option.some.inj h)
        exact .last hkey (eq_cons_of_head? hcolon) hvalue (eq_cons_of_head? hclose)
      · obtain ⟨⟨es', r'⟩, hrest, heq⟩ := Option.map_eq_some_iff.mp h
        obtain ⟨rfl, rfl⟩ := Prod.mk.inj heq
        exact .next hkey (eq_cons_of_head? hcolon) hvalue (eq_cons_of_head? hcomma) hrest

end Steps

/-! ## More text behind -/

section Append

variable {α : Type*} {T : FloatText α}

lemma scanAtom_append {cs r : List Char} {v : PyVal α} (h : scanAtom T cs = some (v, r))
    (hr : r ≠ [] ∧ EndsNumber r) (q : List Char) : scanAtom T (cs ++ q) = some (v, r ++ q) := by
  have hword : ∀ {word cs : List Char} {w : PyVal α},
      (strip word cs).map (fun r => (w, r)) = some (v, r) →
        (strip word (cs ++ q)).map (fun r => (w, r)) = some (v, r ++ q) := by
    intro word cs w hstrip
    obtain ⟨r', hr', heq⟩ := Option.map_eq_some_iff.mp hstrip
    obtain ⟨rfl, rfl⟩ := Prod.mk.inj heq
    rw [strip_append hr' q]
    rfl
  cases cs with
  | nil => cases h
  | cons c cs =>
    rw [scanAtom] at h
    rw [List.cons_append, scanAtom]
    by_cases hinf : c = '-' ∧ cs.head? = some 'I'
    · have hinf' : c = '-' ∧ (cs ++ q).head? = some 'I' := by
        refine ⟨hinf.1, ?_⟩
        cases cs with
        | nil => cases hinf.2
        | cons d ds => exact hinf.2
      rw [if_pos hinf']
      rw [if_pos hinf] at h
      split_ifs at h ⊢ <;> exact hword h
    · rw [if_neg hinf] at h
      split_ifs at h with hn ht hf hN hI
      · rw [if_pos hn]
        exact hword h
      · rw [if_neg hn, if_pos ht]
        exact hword h
      · rw [if_neg hn, if_neg ht, if_pos hf]
        exact hword h
      · rw [if_neg hn, if_neg ht, if_neg hf, if_pos hN]
        exact hword h
      · rw [if_neg hn, if_neg ht, if_neg hf, if_neg hN, if_pos hI]
        exact hword h
      · rw [if_neg hn, if_neg ht, if_neg hf, if_neg hN, if_neg hI]
        obtain ⟨⟨t, b, r'⟩, hlit, heq⟩ := Option.map_eq_some_iff.mp h
        obtain ⟨hv, rfl⟩ := Prod.mk.inj heq
        obtain ⟨hcs, hrescan⟩ := scanLiteral_rescan hlit
        have hagain := hrescan (r' ++ q) (hr.2.append hr.1 q)
        rw [← List.append_assoc, ← hcs, List.cons_append] at hagain
        have hinf' : ¬ (c = '-' ∧ (cs ++ q).head? = some 'I') := by
          rintro ⟨rfl, hI'⟩
          cases cs with
          | nil => cases hlit
          | cons d ds => exact hinf ⟨rfl, hI'⟩
        rw [if_neg hinf', hagain, Option.map_some, ← hv]

/-- More room and more text change nothing: a value is scanned as it was, and so are the loops of
arrays and objects.  A number must have ended before. -/
lemma scan_append (n : ℕ) :
    (∀ cs r (v : PyVal α), scanValue T n cs = some (v, r) →
      cs.head? = some '{' ∨ (r ≠ [] ∧ EndsNumber r) → ∀ m, n ≤ m → ∀ q,
        scanValue T m (cs ++ q) = some (v, r ++ q)) ∧
      (∀ cs r (vs : List (PyVal α)), scanElements T n cs = some (vs, r) → ∀ m, n ≤ m → ∀ q,
        scanElements T m (cs ++ q) = some (vs, r ++ q)) ∧
      (∀ cs r (es : List (String × PyVal α)), scanMembers T n cs = some (es, r) →
        ∀ m, n ≤ m → ∀ q, scanMembers T m (cs ++ q) = some (es, r ++ q)) := by
  induction n with
  | zero =>
    refine ⟨fun cs r v h => ?_, fun cs r vs h => ?_, fun cs r es h => ?_⟩
    · cases h
    · cases h
    · cases h
  | succ n ih =>
    obtain ⟨ihValue, ihElements, ihMembers⟩ := ih
    refine ⟨?_, ?_, ?_⟩
    · intro cs r v h hr m hm q
      obtain ⟨m, rfl⟩ : ∃ m', m = m' + 1 := ⟨m - 1, by omega⟩
      cases valueStep_of_scanValue h with
      | string hstring =>
        rw [List.cons_append, scanValue_quote, scanString_append hstring (by omega) q]
        rfl
      | emptyList hclose =>
        rw [List.cons_append, scanValue_emptyList (skipWs_cons_append hclose q)]
      | list hopen hne helements =>
        rw [List.cons_append, scanValue_list (skipWs_cons_append hopen q) hne, ← List.cons_append,
          ihElements _ _ _ helements m (by omega) q]
        rfl
      | emptyDict hclose =>
        rw [List.cons_append, scanValue_emptyDict (skipWs_cons_append hclose q)]
      | dict hopen hne hmembers =>
        rw [List.cons_append, scanValue_dict (skipWs_cons_append hopen q) hne, ← List.cons_append,
          ihMembers _ _ _ hmembers m (by omega) q]
        rfl
      | atom hquote hbracket hbrace hatom =>
        have hseal : r ≠ [] ∧ EndsNumber r := by
          rcases hr with hhead | hseal
          · exact absurd (Option.some.inj hhead) hbrace
          · exact hseal
        rw [List.cons_append, scanValue_atom hquote hbracket hbrace, ← List.cons_append]
        exact scanAtom_append hatom hseal q
    · intro cs r vs h m hm q
      obtain ⟨m, rfl⟩ : ∃ m', m = m' + 1 := ⟨m - 1, by omega⟩
      cases elementsStep_of_scanElements h with
      | last hvalue hclose =>
        have hseal := endsNumber_of_skipWs hclose (by decide)
        have hvalue' := ihValue _ _ _ hvalue (.inr hseal) m (by omega) q
        exact scanElements_last hvalue' (skipWs_cons_append hclose q)
      | next hvalue hcomma hrest =>
        have hseal := endsNumber_of_skipWs hcomma (by decide)
        have hvalue' := ihValue _ _ _ hvalue (.inr hseal) m (by omega) q
        have hne := ne_nil_of_scanElements hrest
        rw [scanElements_next hvalue' (skipWs_cons_append hcomma q), skipWs_append hne,
          ihElements _ _ _ hrest m (by omega) q]
        rfl
    · intro cs r es h m hm q
      obtain ⟨m, rfl⟩ : ∃ m', m = m' + 1 := ⟨m - 1, by omega⟩
      cases membersStep_of_scanMembers h with
      | last hkey hcolon hvalue hclose =>
        have hkey' := scanString_append hkey (show n ≤ m by omega) q
        have hseal := endsNumber_of_skipWs hclose (by decide)
        have hvalue' := ihValue _ _ _ hvalue (.inr hseal) m (by omega) q
        rw [← skipWs_append (ne_nil_of_scanValue hvalue)] at hvalue'
        exact scanMembers_last hkey' (skipWs_cons_append hcolon q) hvalue'
          (skipWs_cons_append hclose q)
      | next hkey hcolon hvalue hcomma hrest =>
        have hkey' := scanString_append hkey (show n ≤ m by omega) q
        have hseal := endsNumber_of_skipWs hcomma (by decide)
        have hvalue' := ihValue _ _ _ hvalue (.inr hseal) m (by omega) q
        rw [← skipWs_append (ne_nil_of_scanValue hvalue)] at hvalue'
        rw [List.cons_append, scanMembers_next hkey' (skipWs_cons_append hcolon q) hvalue'
          (skipWs_cons_append hcomma q), skipWs_append (ne_nil_of_scanMembers hrest),
          ihMembers _ _ _ hrest m (by omega) q]
        rfl

end Append

/-! ## The round trip -/

/-- A literal starts with a digit, or with a minus and a digit. -/
lemma scanLiteral_head {c : Char} {cs t r : List Char} {b : Bool}
    (h : scanLiteral (c :: cs) = some (t, b, r)) :
    c.isDigit = true ∨ (c = '-' ∧ ∃ d ds, cs = d :: ds ∧ d.isDigit = true) := by
  have hnat : ∀ {d : Char} {ds : List Char} {x : List Char × List Char},
      scanNat (d :: ds) = some x → d.isDigit = true := by
    intro d ds x hx
    rw [scanNat] at hx
    split_ifs at hx with hzero hdigit
    · rw [hzero]
      decide
    · exact hdigit
  obtain ⟨x, hint, -⟩ := Option.map_eq_some_iff.mp h
  rw [scanInt] at hint
  split_ifs at hint with hminus
  · right
    refine ⟨hminus, ?_⟩
    obtain ⟨y, hy, -⟩ := Option.map_eq_some_iff.mp hint
    cases cs with
    | nil => cases hy
    | cons d ds => exact ⟨d, ds, rfl, hnat hy⟩
  · exact .inl (hnat hint)

lemma scanLiteral_ne_nil {t r : List Char} {b : Bool} (h : scanLiteral t = some (t, b, r)) :
    t ≠ [] := by
  rintro rfl
  cases h

/-- A digit is none of the characters that open something else. -/
lemma isDigit_ne {c d : Char} (h : c.isDigit = true) (hd : d.isDigit = false) : c ≠ d := by
  rintro rfl
  rw [h] at hd
  cases hd

section RoundTrip

variable {α : Type*} {T : FloatText α}

lemma scanValue_literal {t : List Char} {b : Bool} (h : scanLiteral t = some (t, b, [])) {n : ℕ}
    (hn : 0 < n) {rest : List Char} (hrest : EndsNumber rest) :
    scanValue T n (t ++ rest) =
      some (if b then .float (T.read t) else .int (readInt t), rest) := by
  obtain ⟨n, rfl⟩ : ∃ n', n = n' + 1 := ⟨n - 1, by omega⟩
  obtain ⟨c, cs, rfl⟩ := List.exists_cons_of_ne_nil (scanLiteral_ne_nil h)
  have hagain := (scanLiteral_rescan h).2 rest hrest
  rw [List.cons_append] at hagain ⊢
  have hne : ∀ d : Char, d.isDigit = false → d ≠ '-' → c ≠ d := by
    intro d hd hminus
    rcases scanLiteral_head h with hdigit | ⟨rfl, -⟩
    · exact isDigit_ne hdigit hd
    · exact hminus.symm
  have hinf : ¬ (c = '-' ∧ (cs ++ rest).head? = some 'I') := by
    rintro ⟨rfl, hI⟩
    rcases scanLiteral_head h with hdigit | ⟨-, d, ds, rfl, hd⟩
    · cases hdigit
    · obtain rfl : d = 'I' := Option.some.inj hI
      cases hd
  rw [scanValue_atom (hne _ (by decide) (by decide)) (hne _ (by decide) (by decide))
    (hne _ (by decide) (by decide)), scanAtom, if_neg (hne _ (by decide) (by decide)),
    if_neg (hne _ (by decide) (by decide)), if_neg (hne _ (by decide) (by decide)),
    if_neg (hne _ (by decide) (by decide)), if_neg (hne _ (by decide) (by decide)), if_neg hinf,
    hagain]
  rfl

lemma scanValue_string (s : String) {n : ℕ} (hn : (stringText s).length ≤ n) (rest : List Char) :
    scanValue T n (stringText s ++ rest) = some (.str s, rest) := by
  have hlength := length_stringText s
  obtain ⟨n, rfl⟩ : ∃ n', n = n' + 1 := ⟨n - 1, by omega⟩
  rw [stringText_append, scanValue_quote, scanString_flatMap _ _ _ (by omega),
    Option.map_some, String.ofList_toList]

lemma scanValue_float (x : PyFloat α) {n : ℕ} (hn : 0 < n) {rest : List Char}
    (hrest : EndsNumber rest) :
    scanValue T n (floatText T x ++ rest) = some (.float x, rest) := by
  cases x with
  | fin x =>
    refine (scanValue_literal (T.literal x) hn hrest).trans ?_
    rw [if_pos rfl, T.read_repr]
  | nan =>
    obtain ⟨n, rfl⟩ : ∃ n', n = n' + 1 := ⟨n - 1, by omega⟩
    rfl
  | posInf =>
    obtain ⟨n, rfl⟩ : ∃ n', n = n' + 1 := ⟨n - 1, by omega⟩
    rfl
  | negInf =>
    obtain ⟨n, rfl⟩ : ∃ n', n = n' + 1 := ⟨n - 1, by omega⟩
    rfl

/-- The first character of a number: no whitespace, and no closing bracket. -/
lemma literal_head {t : List Char} {b : Bool} (h : scanLiteral t = some (t, b, [])) :
    ∃ c cs, t = c :: cs ∧ isWs c = false ∧ c ≠ ']' := by
  obtain ⟨c, cs, rfl⟩ := List.exists_cons_of_ne_nil (scanLiteral_ne_nil h)
  refine ⟨c, cs, rfl, ?_⟩
  rcases scanLiteral_head h with hdigit | ⟨rfl, -⟩
  · refine ⟨?_, isDigit_ne hdigit (by decide)⟩
    unfold isWs
    simp only [Bool.or_eq_false_iff, decide_eq_false_iff_not]
    exact ⟨⟨⟨isDigit_ne hdigit (by decide), isDigit_ne hdigit (by decide)⟩,
      isDigit_ne hdigit (by decide)⟩, isDigit_ne hdigit (by decide)⟩
  · exact ⟨by decide, by decide⟩

/-- The first character of a written value: no whitespace, and no closing bracket. -/
lemma dumps_head (v : PyVal α) : ∃ c cs, dumps T v = c :: cs ∧ isWs c = false ∧ c ≠ ']' := by
  rcases v with _ | b | i | x | s | xs | es
  · exact ⟨_, _, rfl, by decide, by decide⟩
  · cases b <;> exact ⟨_, _, rfl, by decide, by decide⟩
  · rw [dumps]
    exact literal_head (scanLiteral_intText i)
  · rw [dumps]
    cases x with
    | fin x => exact literal_head (T.literal x)
    | nan => exact ⟨_, _, rfl, by decide, by decide⟩
    | posInf => exact ⟨_, _, rfl, by decide, by decide⟩
    | negInf => exact ⟨_, _, rfl, by decide, by decide⟩
  · exact ⟨_, _, by rw [dumps]; rfl, by decide, by decide⟩
  · cases xs with
    | nil => exact ⟨_, _, by rw [dumps], by decide, by decide⟩
    | cons v vs => exact ⟨_, _, by rw [dumps], by decide, by decide⟩
  · rcases es with _ | ⟨⟨k, v⟩, es⟩
    · exact ⟨_, _, by rw [dumps], by decide, by decide⟩
    · exact ⟨_, _, by rw [dumps], by decide, by decide⟩

/-- There is no whitespace before a written value. -/
lemma skipWs_dumps (v : PyVal α) (rest : List Char) :
    skipWs (dumps T v ++ rest) = dumps T v ++ rest := by
  obtain ⟨c, cs, hv, hc, -⟩ := dumps_head (T := T) v
  rw [hv, List.cons_append, skipWs_of_head hc]

lemma skipWs_space (cs : List Char) : skipWs (' ' :: cs) = skipWs cs :=
  List.dropWhile_cons_of_pos rfl

lemma skipWs_space_dumps (v : PyVal α) (rest : List Char) :
    skipWs (' ' :: (dumps T v ++ rest)) = dumps T v ++ rest := by
  rw [skipWs_space, skipWs_dumps]

lemma skipWs_stringText (s : String) (rest : List Char) :
    skipWs (stringText s ++ rest) = stringText s ++ rest := by
  rw [stringText_append, skipWs_of_head (by decide)]

lemma skipWs_space_stringText (s : String) (rest : List Char) :
    skipWs (' ' :: (stringText s ++ rest)) = stringText s ++ rest := by
  rw [skipWs_space, skipWs_stringText]

/-- A value is scanned back, whatever ends a number follows it. -/
def Scanned (T : FloatText α) (v : PyVal α) : Prop :=
  ∀ n rest, 2 * (dumps T v).length ≤ n → EndsNumber rest →
    scanValue T n (dumps T v ++ rest) = some (v, rest)

lemma endsNumber_cons {c : Char} (hc : c.isDigit = false ∧ c ≠ '.' ∧ c ≠ 'e' ∧ c ≠ 'E')
    (cs : List Char) : EndsNumber (c :: cs) := by
  intro d hd
  obtain rfl : c = d := Option.some.inj hd
  exact hc

mutual

lemma scanned (v : PyVal α) : Scanned T v :=
  match v with
  | .null => by
    intro n rest hn _
    obtain ⟨n, rfl⟩ : ∃ n', n = n' + 1 := ⟨n - 1, by simp [dumps] at hn; omega⟩
    rfl
  | .bool true => by
    intro n rest hn _
    obtain ⟨n, rfl⟩ : ∃ n', n = n' + 1 := ⟨n - 1, by simp [dumps] at hn; omega⟩
    rfl
  | .bool false => by
    intro n rest hn _
    obtain ⟨n, rfl⟩ : ∃ n', n = n' + 1 := ⟨n - 1, by simp [dumps] at hn; omega⟩
    rfl
  | .int i => by
    intro n rest hn hrest
    rw [dumps] at hn ⊢
    have hpos := List.length_pos_iff.mpr (scanLiteral_ne_nil (scanLiteral_intText i))
    rw [scanValue_literal (scanLiteral_intText i) (by omega) hrest, if_neg (by decide),
      readInt_intText]
  | .float x => by
    intro n rest hn hrest
    obtain ⟨c, cs, hv, -, -⟩ := dumps_head (T := T) (.float x)
    have hpos : 0 < (dumps T (.float x)).length := by
      rw [hv]
      exact Nat.succ_pos _
    rw [dumps] at hn hpos ⊢
    exact scanValue_float x (by omega) hrest
  | .str s => by
    intro n rest hn _
    rw [dumps] at hn ⊢
    exact scanValue_string s (by omega) rest
  | .list [] => by
    intro n rest hn _
    obtain ⟨n, rfl⟩ : ∃ n', n = n' + 1 := ⟨n - 1, by simp [dumps] at hn; omega⟩
    rw [dumps]
    rfl
  | .list (v :: vs) => by
    intro n rest hn _
    rw [dumps, List.length_cons, List.length_append] at hn
    obtain ⟨n, rfl⟩ : ∃ n', n = n' + 1 := ⟨n - 1, by omega⟩
    obtain ⟨c, cs, hv, -, hclose⟩ := dumps_head (T := T) v
    have helements := scannedElements vs v (scanned v) n rest (by omega)
    have hopen := skipWs_dumps (T := T) v (dumpsElements T vs ++ rest)
    rw [hv, List.cons_append] at hopen helements
    rw [dumps, List.cons_append, List.append_assoc, hv, List.cons_append,
      scanValue_list hopen hclose, helements]
    rfl
  | .dict [] => by
    intro n rest hn _
    obtain ⟨n, rfl⟩ : ∃ n', n = n' + 1 := ⟨n - 1, by simp [dumps] at hn; omega⟩
    rw [dumps]
    rfl
  | .dict ((k, v) :: es) => by
    intro n rest hn _
    rw [dumps, List.length_cons, List.length_append, List.length_cons, List.length_cons,
      List.length_append] at hn
    obtain ⟨n, rfl⟩ : ∃ n', n = n' + 1 := ⟨n - 1, by omega⟩
    have hmembers := scannedEntries es k v (scanned v) n rest (by omega)
    rw [stringText_append] at hmembers
    rw [dumps, List.cons_append]
    simp only [List.append_assoc, List.cons_append] at hmembers ⊢
    rw [stringText_append, scanValue_dict (skipWs_of_head (by decide) _) (by decide), hmembers]
    rfl

lemma scannedElements (vs : List (PyVal α)) (v : PyVal α) (hv : Scanned T v) (n : ℕ)
    (rest : List Char) (hn : 2 * ((dumps T v).length + (dumpsElements T vs).length) ≤ n + 1) :
    scanElements T n (dumps T v ++ (dumpsElements T vs ++ rest)) = some (v :: vs, rest) :=
  match vs with
  | [] => by
    obtain ⟨c, cs, hcons, -, -⟩ := dumps_head (T := T) v
    have hpos : 0 < (dumps T v).length := by
      rw [hcons]
      exact Nat.succ_pos _
    rw [dumpsElements, List.length_singleton] at hn
    obtain ⟨n, rfl⟩ : ∃ n', n = n' + 1 := ⟨n - 1, by omega⟩
    have hvalue := hv n (']' :: rest) (by omega) (endsNumber_cons (by decide) _)
    rw [dumpsElements, List.singleton_append]
    exact scanElements_last hvalue (skipWs_of_head (by decide) _)
  | v' :: vs => by
    rw [dumpsElements, List.length_cons, List.length_cons, List.length_append] at hn
    obtain ⟨n, rfl⟩ : ∃ n', n = n' + 1 := ⟨n - 1, by omega⟩
    have hvalue := hv n (',' :: ' ' :: (dumps T v' ++ (dumpsElements T vs ++ rest))) (by omega)
      (endsNumber_cons (by decide) _)
    rw [dumpsElements, List.cons_append, List.cons_append, List.append_assoc,
      scanElements_next hvalue (skipWs_of_head (by decide) _), skipWs_space_dumps,
      scannedElements vs v' (scanned v') n rest (by omega)]
    rfl

lemma scannedEntries (es : List (String × PyVal α)) (k : String) (v : PyVal α) (hv : Scanned T v)
    (n : ℕ) (rest : List Char)
    (hn : 2 * ((stringText k).length + (dumps T v).length + (dumpsEntries T es).length) ≤ n + 1) :
    scanMembers T n (stringText k ++ ':' :: ' ' :: (dumps T v ++ (dumpsEntries T es ++ rest))) =
      some ((k, v) :: es, rest) :=
  match es with
  | [] => by
    have hlength := length_stringText k
    rw [dumpsEntries, List.length_singleton] at hn
    obtain ⟨n, rfl⟩ : ∃ n', n = n' + 1 := ⟨n - 1, by omega⟩
    have hvalue := hv n ('}' :: rest) (by omega) (endsNumber_cons (by decide) _)
    rw [← skipWs_space_dumps] at hvalue
    rw [dumpsEntries, List.singleton_append, stringText_append,
      scanMembers_last (scanString_flatMap _ _ _ (by omega)) (skipWs_of_head (by decide) _) hvalue
        (skipWs_of_head (by decide) _), String.ofList_toList]
  | (k', v') :: es => by
    have hlength := length_stringText k
    rw [dumpsEntries, List.length_cons, List.length_cons, List.length_append, List.length_cons,
      List.length_cons, List.length_append] at hn
    obtain ⟨n, rfl⟩ : ∃ n', n = n' + 1 := ⟨n - 1, by omega⟩
    have hmembers := scannedEntries es k' v' (scanned v') n rest (by omega)
    have hvalue : ∀ r, scanValue T n (skipWs (' ' :: (dumps T v ++ ',' :: r))) =
        some (v, ',' :: r) := by
      intro r
      rw [skipWs_space_dumps]
      exact hv n _ (by omega) (endsNumber_cons (by decide) r)
    rw [dumpsEntries, stringText_append, List.cons_append,
      scanMembers_next (scanString_flatMap _ _ _ (by omega)) (skipWs_of_head (by decide) _)
        (hvalue _) (skipWs_of_head (by decide) _), String.ofList_toList]
    simp only [List.cons_append, List.append_assoc] at hmembers ⊢
    rw [skipWs_space_stringText, hmembers]
    rfl

end

/-- **The round trip.**  What is written is read back. -/
theorem scan_dumps (v : PyVal α) : scan T (String.ofList (dumps T v)) = .ok v := by
  have hskip : skipWs (dumps T v) = dumps T v := by
    have h := skipWs_dumps (T := T) v []
    rwa [List.append_nil] at h
  have hvalue := scanned (T := T) v (2 * (dumps T v).length + 2) [] (by omega) endsNumber_nil
  rw [List.append_nil] at hvalue
  unfold scan
  rw [String.toList_ofList, hskip, hvalue]
  rfl

/-- **No proper prefix of an object is accepted.** -/
theorem scan_prefix_of_dumps {es : List (String × PyVal α)} {p q : List Char}
    (h : dumps T (.dict es) = p ++ q) (hq : q ≠ []) (v : PyVal α) :
    scan T (String.ofList p) ≠ .ok v := by
  intro hscan
  unfold scan at hscan
  rw [String.toList_ofList] at hscan
  obtain ⟨cs, hbrace⟩ : ∃ cs, dumps T (.dict es) = '{' :: cs := by
    rcases es with _ | ⟨⟨k, v⟩, es⟩
    · exact ⟨_, by rw [dumps]⟩
    · exact ⟨_, by rw [dumps]⟩
  cases p with
  | nil => cases hscan
  | cons c p =>
    obtain rfl : c = '{' := by
      rw [hbrace, List.cons_append, List.cons.injEq] at h
      exact h.1.symm
    rw [skipWs_of_head (by decide)] at hscan
    cases hvalue : scanValue T (2 * ('{' :: p).length + 2) ('{' :: p) with
    | none =>
      rw [hvalue] at hscan
      cases hscan
    | some x =>
      obtain ⟨w, r⟩ := x
      -- the text scans the same way with the rest behind it, and then leaves the rest over
      have hmore := (scan_append _).1 _ _ _ hvalue (.inl rfl)
        (2 * (dumps T (.dict es)).length + 2) (by rw [h, List.length_append]; omega) q
      have hwhole := scanned (T := T) (.dict es) (2 * (dumps T (.dict es)).length + 2) []
        (by omega) endsNumber_nil
      rw [List.append_nil, h] at hwhole
      rw [h, hwhole] at hmore
      obtain ⟨-, hrest⟩ := Prod.mk.inj (Option.some.inj hmore)
      exact hq (List.append_eq_nil_iff.mp hrest.symm).2

/-! ## Nothing that is written is a control character -/

/-- A printable character of ASCII. -/
def IsAscii (c : Char) : Prop := 32 ≤ c.toNat ∧ c.toNat < 128

lemma ascii_of_isDigit {c : Char} (h : c.isDigit = true) : IsAscii c := by
  simp only [Char.isDigit, Bool.and_eq_true, decide_eq_true_eq] at h
  have hlow : '0'.toNat ≤ c.toNat := h.1
  have hhigh : c.toNat ≤ '9'.toNat := h.2
  exact ⟨Nat.le_trans (by decide) hlow, Nat.lt_of_le_of_lt hhigh (by decide)⟩

lemma ascii_scanNat {cs t r : List Char} (h : scanNat cs = some (t, r)) :
    ∀ c ∈ t, IsAscii c := by
  cases cs with
  | nil => cases h
  | cons d ds =>
    rw [scanNat] at h
    split_ifs at h with hzero hdigit
    · obtain ⟨rfl, -⟩ := Prod.mk.inj (Option.some.inj h)
      intro c hc
      rw [List.mem_singleton.mp hc]
      exact ⟨by decide, by decide⟩
    · obtain ⟨rfl, -⟩ := Prod.mk.inj (Option.some.inj h)
      intro c hc
      rcases List.mem_cons.mp hc with rfl | hc
      · exact ascii_of_isDigit hdigit
      · exact ascii_of_isDigit (isDigit_of_mem_takeWhile _ c hc)

lemma ascii_scanInt {cs t r : List Char} (h : scanInt cs = some (t, r)) :
    ∀ c ∈ t, IsAscii c := by
  cases cs with
  | nil => cases h
  | cons d ds =>
    rw [scanInt] at h
    split_ifs at h with hminus
    · obtain ⟨⟨u, r'⟩, hnat, heq⟩ := Option.map_eq_some_iff.mp h
      obtain ⟨rfl, -⟩ := Prod.mk.inj heq
      intro c hc
      rcases List.mem_cons.mp hc with rfl | hc
      · exact ⟨by decide, by decide⟩
      · exact ascii_scanNat hnat c hc
    · exact ascii_scanNat h

lemma ascii_scanFrac (cs : List Char) : ∀ c ∈ (scanFrac cs).1, IsAscii c := by
  cases cs with
  | nil => exact fun c hc => by cases hc
  | cons d ds =>
    rw [scanFrac]
    split_ifs
    · intro c hc
      rcases List.mem_cons.mp hc with rfl | hc
      · exact ⟨by decide, by decide⟩
      · exact ascii_of_isDigit (isDigit_of_mem_takeWhile _ c hc)
    · exact fun c hc => by cases hc

lemma ascii_scanSign (cs : List Char) : ∀ c ∈ (scanSign cs).1, IsAscii c := by
  cases cs with
  | nil => exact fun c hc => by cases hc
  | cons d ds =>
    rw [scanSign]
    split_ifs with hsign
    · intro c hc
      rw [List.mem_singleton.mp hc]
      rcases hsign with rfl | rfl <;> exact ⟨by decide, by decide⟩
    · exact fun c hc => by cases hc

lemma ascii_scanExp (cs : List Char) : ∀ c ∈ (scanExp cs).1, IsAscii c := by
  cases cs with
  | nil => exact fun c hc => by cases hc
  | cons d ds =>
    rw [scanExp]
    split_ifs with hexp
    · intro c hc
      rw [List.cons_append, List.mem_cons, List.mem_append] at hc
      rcases hc with rfl | hsign | hdigits
      · rcases hexp.1 with rfl | rfl <;> exact ⟨by decide, by decide⟩
      · exact ascii_scanSign ds c hsign
      · exact ascii_of_isDigit (isDigit_of_mem_takeWhile _ c hdigits)
    · exact fun c hc => by cases hc

lemma ascii_scanLiteral {cs t r : List Char} {b : Bool} (h : scanLiteral cs = some (t, b, r)) :
    ∀ c ∈ t, IsAscii c := by
  obtain ⟨⟨int, cs₁⟩, hint, heq⟩ := Option.map_eq_some_iff.mp h
  obtain ⟨rfl, -⟩ := Prod.mk.inj heq
  intro c hc
  rw [List.mem_append, List.mem_append] at hc
  rcases hc with (hc | hc) | hc
  · exact ascii_scanInt hint c hc
  · exact ascii_scanFrac _ c hc
  · exact ascii_scanExp _ c hc

lemma printable_scanLiteral {cs t r : List Char} {b : Bool} (h : scanLiteral cs = some (t, b, r)) :
    ∀ c ∈ t, 32 ≤ c.toNat := fun c hc => (ascii_scanLiteral h c hc).1

lemma printable_hexChar : ∀ k < 16, 32 ≤ (hexChar k).toNat := by decide

lemma printable_of_all {cs : List Char} (h : cs.all (fun c => 32 ≤ c.toNat) = true) :
    ∀ c ∈ cs, 32 ≤ c.toNat := by
  intro c hc
  simpa using List.all_eq_true.mp h c hc

lemma printable_escapeChar (d : Char) : ∀ c ∈ escapeChar d, 32 ≤ c.toNat := by
  unfold escapeChar
  split_ifs with hquote hback hline hreturn htab hbs hff hcontrol
  · exact printable_of_all rfl
  · exact printable_of_all rfl
  · exact printable_of_all rfl
  · exact printable_of_all rfl
  · exact printable_of_all rfl
  · exact printable_of_all rfl
  · exact printable_of_all rfl
  · have hhigh := printable_hexChar (d.toNat / 16) (by omega)
    have hlow := printable_hexChar (d.toNat % 16) (by omega)
    intro c hc
    simp only [List.mem_cons, List.not_mem_nil, or_false] at hc
    rcases hc with rfl | rfl | rfl | rfl | rfl | rfl
    · decide
    · decide
    · decide
    · decide
    · exact hhigh
    · exact hlow
  · intro c hc
    rw [List.mem_singleton.mp hc]
    omega

lemma printable_stringText (s : String) : ∀ c ∈ stringText s, 32 ≤ c.toNat := by
  intro c hc
  unfold stringText at hc
  rw [List.cons_append, List.mem_cons, List.mem_append, List.mem_flatMap,
    List.mem_singleton] at hc
  rcases hc with rfl | ⟨d, -, hc⟩ | rfl
  · decide
  · exact printable_escapeChar d c hc
  · decide

mutual

/-- **No control character**, and so no line break, is in a written value. -/
theorem printable_dumps (v : PyVal α) : ∀ c ∈ dumps T v, 32 ≤ c.toNat :=
  match v with
  | .null => by rw [dumps]; exact printable_of_all rfl
  | .bool true => by rw [dumps]; exact printable_of_all rfl
  | .bool false => by rw [dumps]; exact printable_of_all rfl
  | .int i => by
    rw [dumps]
    exact printable_scanLiteral (scanLiteral_intText i)
  | .float (.fin x) => by
    rw [dumps]
    exact printable_scanLiteral (T.literal x)
  | .float .nan => by rw [dumps, floatText]; exact printable_of_all rfl
  | .float .posInf => by rw [dumps, floatText]; exact printable_of_all rfl
  | .float .negInf => by rw [dumps, floatText]; exact printable_of_all rfl
  | .str s => by
    rw [dumps]
    exact printable_stringText s
  | .list [] => by rw [dumps]; exact printable_of_all rfl
  | .list (v :: vs) => by
    intro c hc
    rw [dumps, List.mem_cons, List.mem_append] at hc
    rcases hc with rfl | hc | hc
    · decide
    · exact printable_dumps v c hc
    · exact printable_dumpsElements vs c hc
  | .dict [] => by rw [dumps]; exact printable_of_all rfl
  | .dict ((k, v) :: es) => by
    intro c hc
    simp only [dumps, List.mem_cons, List.mem_append] at hc
    rcases hc with rfl | hc | rfl | rfl | hc | hc
    · decide
    · exact printable_stringText k c hc
    · decide
    · decide
    · exact printable_dumps v c hc
    · exact printable_dumpsEntries es c hc

lemma printable_dumpsElements (vs : List (PyVal α)) : ∀ c ∈ dumpsElements T vs, 32 ≤ c.toNat :=
  match vs with
  | [] => by rw [dumpsElements]; exact printable_of_all rfl
  | v :: vs => by
    intro c hc
    simp only [dumpsElements, List.mem_cons, List.mem_append] at hc
    rcases hc with rfl | rfl | hc | hc
    · decide
    · decide
    · exact printable_dumps v c hc
    · exact printable_dumpsElements vs c hc

lemma printable_dumpsEntries (es : List (String × PyVal α)) :
    ∀ c ∈ dumpsEntries T es, 32 ≤ c.toNat :=
  match es with
  | [] => by rw [dumpsEntries]; exact printable_of_all rfl
  | (k, v) :: es => by
    intro c hc
    simp only [dumpsEntries, List.mem_cons, List.mem_append] at hc
    rcases hc with rfl | rfl | hc | rfl | rfl | hc | hc
    · decide
    · decide
    · exact printable_stringText k c hc
    · decide
    · decide
    · exact printable_dumps v c hc
    · exact printable_dumpsEntries es c hc

end

end RoundTrip

/-! ## Names used once -/

section Names

variable {α : Type*}

lemma repeatsNameEntries_eq_false {es : List (String × PyVal α)} :
    PyVal.repeatsNameEntries es = false ↔ ∀ e ∈ es, e.2.repeatsName = false := by
  induction es with
  | nil => exact ⟨fun _ e he => absurd he List.not_mem_nil, fun _ => rfl⟩
  | cons e es ih =>
    obtain ⟨k, v⟩ := e
    rw [PyVal.repeatsNameEntries, Bool.or_eq_false_iff, ih, List.forall_mem_cons]

/-- Assigning entries whose names are new, one after another, appends them. -/
lemma foldl_assign_of_nodup (es acc : List (String × PyVal α))
    (h : ((acc ++ es).map Prod.fst).Nodup) :
    es.foldl (fun d e => Dict.assign d e.1 e.2) acc = acc ++ es := by
  induction es generalizing acc with
  | nil => rw [List.foldl_nil, List.append_nil]
  | cons e es ih =>
    have hnew : e.1 ∉ acc.map Prod.fst := by
      rw [List.map_append, List.nodup_append] at h
      exact fun hmem => h.2.2 e.1 hmem e.1 (by simp) rfl
    rw [List.foldl_cons, Dict.assign_of_notMem hnew, ih _ (by simpa using h), List.append_assoc,
      List.singleton_append]

/-- What assigning keeps of names and values. -/
lemma foldl_assign_spec {P : PyVal α → Prop} (es acc : List (String × PyVal α))
    (hacc : (acc.map Prod.fst).Nodup ∧ ∀ e ∈ acc, P e.2) (hes : ∀ e ∈ es, P e.2) :
    ((es.foldl (fun d e => Dict.assign d e.1 e.2) acc).map Prod.fst).Nodup ∧
      ∀ e ∈ es.foldl (fun d e => Dict.assign d e.1 e.2) acc, P e.2 := by
  induction es generalizing acc with
  | nil => exact hacc
  | cons e es ih =>
    rw [List.forall_mem_cons] at hes
    refine ih _ ⟨Dict.nodup_assign hacc.1 e.1 e.2, ?_⟩ hes.2
    have hvalues : ∀ xs : List (String × PyVal α), (∀ x ∈ xs, P x.2) →
        ∀ x ∈ Dict.assign xs e.1 e.2, P x.2 := by
      intro xs hxs
      induction xs with
      | nil =>
        intro x hx
        rw [List.mem_singleton.mp hx]
        exact hes.1
      | cons y ys ihy =>
        rw [List.forall_mem_cons] at hxs
        rw [Dict.assign]
        split_ifs
        · exact List.forall_mem_cons.mpr ⟨hes.1, hxs.2⟩
        · exact List.forall_mem_cons.mpr ⟨hxs.1, ihy hxs.2⟩
    exact hvalues acc hacc.2

mutual

/-- Where every name is used once there is nothing to collapse. -/
lemma collapse_eq_self (v : PyVal α) (h : v.repeatsName = false) : v.collapse = v :=
  match v with
  | .null | .bool _ | .int _ | .float _ | .str _ => rfl
  | .list vs => by
    rw [PyVal.repeatsName] at h
    rw [PyVal.collapse, collapseList_eq_self vs h]
  | .dict es => by
    rw [PyVal.repeatsName, Bool.or_eq_false_iff, Bool.not_eq_false', decide_eq_true_eq] at h
    rw [PyVal.collapse, collapseEntries_eq_self es h.1, PyVal.ofPairs,
      foldl_assign_of_nodup es [] h.2, List.nil_append]

lemma collapseList_eq_self (vs : List (PyVal α)) (h : PyVal.repeatsNameList vs = false) :
    PyVal.collapseList vs = vs :=
  match vs with
  | [] => rfl
  | v :: vs => by
    rw [PyVal.repeatsNameList, Bool.or_eq_false_iff] at h
    rw [PyVal.collapseList, collapse_eq_self v h.1, collapseList_eq_self vs h.2]

lemma collapseEntries_eq_self (es : List (String × PyVal α))
    (h : PyVal.repeatsNameEntries es = false) : PyVal.collapseEntries es = es :=
  match es with
  | [] => rfl
  | (k, v) :: es => by
    rw [PyVal.repeatsNameEntries, Bool.or_eq_false_iff] at h
    rw [PyVal.collapseEntries, collapse_eq_self v h.1, collapseEntries_eq_self es h.2]

end

mutual

/-- A collapsed value uses every name once. -/
lemma repeatsName_collapse (v : PyVal α) : v.collapse.repeatsName = false :=
  match v with
  | .null | .bool _ | .int _ | .float _ | .str _ => rfl
  | .list vs => by
    rw [PyVal.collapse, PyVal.repeatsName]
    exact repeatsNameList_collapse vs
  | .dict es => by
    have hspec := foldl_assign_spec (P := fun v => v.repeatsName = false)
      (PyVal.collapseEntries es) [] ⟨List.nodup_nil, fun e he => by cases he⟩
      (repeatsNameEntries_collapse es)
    rw [PyVal.collapse, PyVal.ofPairs, PyVal.repeatsName, Bool.or_eq_false_iff,
      Bool.not_eq_false', decide_eq_true_eq, repeatsNameEntries_eq_false]
    exact ⟨hspec.2, hspec.1⟩

lemma repeatsNameList_collapse (vs : List (PyVal α)) :
    PyVal.repeatsNameList (PyVal.collapseList vs) = false :=
  match vs with
  | [] => rfl
  | v :: vs => by
    rw [PyVal.collapseList, PyVal.repeatsNameList, repeatsName_collapse v,
      repeatsNameList_collapse vs]
    rfl

lemma repeatsNameEntries_collapse (es : List (String × PyVal α)) :
    ∀ e ∈ PyVal.collapseEntries es, e.2.repeatsName = false :=
  match es with
  | [] => fun e he => by cases he
  | (k, v) :: es => by
    rw [PyVal.collapseEntries, List.forall_mem_cons]
    exact ⟨repeatsName_collapse v, repeatsNameEntries_collapse es⟩

end

/-- A decoded value uses every name once. -/
lemma repeatsName_of_loads {scan : JsonScan α} {s : String} {v : PyVal α}
    (h : scan.loads s = .ok v) : v.repeatsName = false := by
  obtain ⟨w, -, rfl⟩ := exceptMap_eq_ok.mp h
  exact repeatsName_collapse w

/-- **The round trip through `json.loads`**, for a value that uses every name once. -/
theorem loads_dumps (T : FloatText α) {v : PyVal α} (h : v.repeatsName = false) :
    (scan T).loads (String.ofList (dumps T v)) = .ok v := by
  unfold JsonScan.loads
  rw [scan_dumps]
  show Except.ok v.collapse = _
  rw [collapse_eq_self v h]

end Names

end Json

end MiniatureWarehouse
