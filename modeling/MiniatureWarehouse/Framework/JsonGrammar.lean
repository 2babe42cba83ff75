import MiniatureWarehouse.Framework.JsonRoundTrip
import MiniatureWarehouse.Framework.LineBreaks

/-!
# The grammar of the decoder

The scanner reads a text from the front, with a bound on its own steps.  This file says without the
scanner which texts are read, and as what: `Derives` has one rule for each shape of a value, of the
rest of an array and of the rest of an object.

The leaves are strings and atoms.  A string is its own little grammar, of escapes and plain
characters; an atom is a text that the scanner reads as it stands, whatever ends a number after it.

`scan_eq_ok_iff` says that the decoder accepts the derivable texts, with whitespace around them, and
no others.  A property of accepted texts can then be shown by induction on a derivation.
-/

namespace MiniatureWarehouse

namespace Json

/-! ## Whitespace -/

/-- A run of whitespace. -/
def Blank (w : List Char) : Prop := ∀ c ∈ w, isWs c = true

lemma blank_nil : Blank [] := fun _ h => absurd h List.not_mem_nil

/-- The whitespace before the rest of a text. -/
lemma exists_blank (cs : List Char) : ∃ w, Blank w ∧ cs = w ++ skipWs cs := by
  refine ⟨cs.takeWhile isWs, fun c hc => List.mem_takeWhile_imp hc, ?_⟩
  exact (List.takeWhile_append_dropWhile (p := isWs) (l := cs)).symm

lemma skipWs_blank {w : List Char} (hw : Blank w) : skipWs w = [] :=
  List.dropWhile_eq_nil_iff.mpr hw

lemma skipWs_append_of_blank {w : List Char} (hw : Blank w) (cs : List Char) :
    skipWs (w ++ cs) = skipWs cs := by
  unfold skipWs
  rw [List.dropWhile_append_of_pos hw]

/-- Whitespace in front of something else is skipped. -/
lemma skipWs_append_cons {w : List Char} (hw : Blank w) {c : Char} (hc : isWs c = false)
    (cs : List Char) : skipWs (w ++ c :: cs) = c :: cs := by
  rw [skipWs_append_of_blank hw, skipWs_of_head hc]

/-- Whitespace ends a number, and so does what is no part of one. -/
lemma endsNumber_append_cons {w : List Char} (hw : Blank w) {c : Char}
    (hc : c.isDigit = false ∧ c ≠ '.' ∧ c ≠ 'e' ∧ c ≠ 'E') (cs : List Char) :
    EndsNumber (w ++ c :: cs) := by
  cases w with
  | nil => exact endsNumber_cons hc cs
  | cons d ds =>
    have hd := hw d List.mem_cons_self
    unfold isWs at hd
    simp only [Bool.or_eq_true, decide_eq_true_eq] at hd
    refine endsNumber_cons ?_ _
    rcases hd with ((rfl | rfl) | rfl) | rfl <;> decide

lemma endsNumber_blank {w : List Char} (hw : Blank w) : EndsNumber w := by
  cases w with
  | nil => exact endsNumber_nil
  | cons d ds =>
    have hd := hw d List.mem_cons_self
    unfold isWs at hd
    simp only [Bool.or_eq_true, decide_eq_true_eq] at hd
    refine endsNumber_cons ?_ _
    rcases hd with ((rfl | rfl) | rfl) | rfl <;> decide

/-! ## Strings -/

/-- The text of an escape, behind its backslash. -/
structure EscapeText (e : List Char) (d : Char) : Prop where
  ascii : ∀ c ∈ e, IsAscii c
  scans : ∀ q, scanEscape (e ++ q) = some (d, q)

/-- The text of a string, behind its opening quote and with its closing one. -/
inductive StringText : List Char → List Char → Prop
  | close : StringText ['"'] []
  | escape {e : List Char} {d : Char} {p t : List Char} (he : EscapeText e d)
      (hp : StringText p t) : StringText ('\\' :: (e ++ p)) (d :: t)
  | char {c : Char} {p t : List Char} (hquote : c ≠ '"') (hback : c ≠ '\\')
      (hprintable : 32 ≤ c.toNat) (hp : StringText p t) : StringText (c :: p) (c :: t)

lemma ascii_of_hexValue {c : Char} {k : ℕ} (h : hexValue c = some k) : IsAscii c := by
  have hle : ∀ {a b : Char}, a ≤ b → a.toNat ≤ b.toNat := fun h => h
  unfold hexValue at h
  split_ifs at h with hdigit hlower hupper
  · exact ⟨Nat.le_trans (by decide) (hle hdigit.1), Nat.lt_of_le_of_lt (hle hdigit.2) (by decide)⟩
  · exact ⟨Nat.le_trans (by decide) (hle hlower.1), Nat.lt_of_le_of_lt (hle hlower.2) (by decide)⟩
  · exact ⟨Nat.le_trans (by decide) (hle hupper.1), Nat.lt_of_le_of_lt (hle hupper.2) (by decide)⟩

lemma scanHex4_text {cs r : List Char} {k : ℕ} (h : scanHex4 cs = some (k, r)) :
    ∃ e, cs = e ++ r ∧ (∀ c ∈ e, IsAscii c) ∧ ∀ q, scanHex4 (e ++ q) = some (k, q) := by
  rcases cs with _ | ⟨a, _ | ⟨b, _ | ⟨c, _ | ⟨d, cs⟩⟩⟩⟩ <;> try cases h
  rw [scanHex4] at h
  split at h
  · rename_i ka kb kc kd ha hb hc hd
    obtain ⟨rfl, rfl⟩ := Prod.mk.inj (Option.some.inj h)
    refine ⟨[a, b, c, d], rfl, ?_, fun q => ?_⟩
    · simp only [List.forall_mem_cons]
      exact ⟨ascii_of_hexValue ha, ascii_of_hexValue hb, ascii_of_hexValue hc, ascii_of_hexValue hd,
        fun _ h => absurd h List.not_mem_nil⟩
    · simp only [List.cons_append, List.nil_append, scanHex4, ha, hb, hc, hd]
  · cases h

lemma scanLowSurrogate_text {high : ℕ} {cs r : List Char} {d : Char}
    (h : scanLowSurrogate high cs = some (d, r)) :
    ∃ e, cs = e ++ r ∧ (∀ c ∈ e, IsAscii c) ∧ ∀ q, scanLowSurrogate high (e ++ q) = some (d, q) := by
  unfold scanLowSurrogate at h
  split at h
  · split at h
    · rename_i hhex
      split_ifs at h with hrange
      obtain ⟨rfl, rfl⟩ := Prod.mk.inj (Option.some.inj h)
      obtain ⟨e, rfl, hascii, hscans⟩ := scanHex4_text hhex
      refine ⟨'\\' :: 'u' :: e, rfl, ?_, fun q => ?_⟩
      · exact List.forall_mem_cons.mpr ⟨⟨by decide, by decide⟩,
          List.forall_mem_cons.mpr ⟨⟨by decide, by decide⟩, hascii⟩⟩
      · simp only [List.cons_append, scanLowSurrogate, hscans q]
        exact if_pos hrange
    · cases h
  · cases h

lemma scanEscape_text {cs r : List Char} {d : Char} (h : scanEscape cs = some (d, r)) :
    ∃ e, cs = e ++ r ∧ EscapeText e d := by
  cases cs with
  | nil => cases h
  | cons c cs =>
    rw [scanEscape] at h
    split_ifs at h with hu
    · -- a character by its code, or by two
      subst hu
      have hunicode : ∃ e, cs = e ++ r ∧ (∀ c ∈ e, IsAscii c) ∧
          ∀ q, scanUnicode (e ++ q) = some (d, q) := by
        unfold scanUnicode at h ⊢
        cases hhex : scanHex4 cs with
        | none =>
          rw [hhex] at h
          cases h
        | some x =>
          obtain ⟨code, cs'⟩ := x
          rw [hhex] at h
          dsimp only at h
          obtain ⟨e, rfl, hascii, hscans⟩ := scanHex4_text hhex
          split_ifs at h with hhigh hlow
          · obtain ⟨e', rfl, hascii', hscans'⟩ := scanLowSurrogate_text h
            refine ⟨e ++ e', (List.append_assoc e e' r).symm, ?_, fun q => ?_⟩
            · exact fun c hc => (List.mem_append.mp hc).elim (hascii c) (hascii' c)
            · rw [List.append_assoc, hscans]
              dsimp only
              rw [if_pos hhigh, hscans']
          · obtain ⟨rfl, rfl⟩ := Prod.mk.inj (Option.some.inj h)
            refine ⟨e, rfl, hascii, fun q => ?_⟩
            rw [hscans]
            dsimp only
            rw [if_neg hhigh, if_neg hlow]
      obtain ⟨e, rfl, hascii, hscans⟩ := hunicode
      refine ⟨'u' :: e, rfl, List.forall_mem_cons.mpr ⟨⟨by decide, by decide⟩, hascii⟩,
        fun q => ?_⟩
      rw [List.cons_append, scanEscape, if_pos rfl, hscans q]
    · obtain ⟨d', hd', heq⟩ := Option.map_eq_some_iff.mp h
      obtain ⟨rfl, rfl⟩ := Prod.mk.inj heq
      refine ⟨[c], rfl, ?_, fun q => ?_⟩
      · intro c' hc'
        obtain rfl := List.mem_singleton.mp hc'
        unfold simpleEscape at hd'
        split_ifs at hd' with h₁ h₂ h₃ h₄ h₅ h₆ h₇ h₈
        all_goals
          subst c'
          exact ⟨by decide, by decide⟩
      · rw [List.singleton_append, scanEscape, if_neg hu, hd']
        rfl

/-- What the scanner reads as a string is the text of one. -/
lemma scanString_sound {n : ℕ} {cs t r : List Char} (h : scanString n cs = some (t, r)) :
    ∃ p, cs = p ++ r ∧ StringText p t := by
  induction n generalizing cs t with
  | zero => cases h
  | succ n ih =>
    cases cs with
    | nil => cases h
    | cons c cs =>
      rw [scanString] at h
      split_ifs at h with hquote hback hcontrol
      · obtain ⟨rfl, rfl⟩ := Prod.mk.inj (Option.some.inj h)
        exact ⟨['"'], by rw [hquote]; rfl, .close⟩
      · cases hescape : scanEscape cs with
        | none =>
          rw [hescape] at h
          cases h
        | some x =>
          obtain ⟨d, cs'⟩ := x
          rw [hescape] at h
          obtain ⟨⟨t', r'⟩, hrest, heq⟩ := Option.map_eq_some_iff.mp h
          obtain ⟨rfl, rfl⟩ := Prod.mk.inj heq
          obtain ⟨e, rfl, he⟩ := scanEscape_text hescape
          obtain ⟨p, hp, htext⟩ := ih hrest
          dsimp only at hp
          refine ⟨'\\' :: (e ++ p), ?_, .escape he htext⟩
          rw [hback, hp, List.cons_append, List.append_assoc]
      · obtain ⟨⟨t', r'⟩, hrest, heq⟩ := Option.map_eq_some_iff.mp h
        obtain ⟨rfl, rfl⟩ := Prod.mk.inj heq
        obtain ⟨p, rfl, htext⟩ := ih hrest
        exact ⟨c :: p, rfl, .char hquote hback (by omega) htext⟩

/-- The text of a string is read as it, whatever follows. -/
lemma StringText.scans {p t : List Char} (h : StringText p t) {n : ℕ} (hn : p.length ≤ n)
    (q : List Char) : scanString n (p ++ q) = some (t, q) := by
  induction h generalizing n with
  | close =>
    obtain ⟨n, rfl⟩ : ∃ n', n = n' + 1 := ⟨n - 1, by rw [List.length_singleton] at hn; omega⟩
    rfl
  | @escape e d p t he _ ih =>
    rw [List.length_cons, List.length_append] at hn
    obtain ⟨n, rfl⟩ : ∃ n', n = n' + 1 := ⟨n - 1, by omega⟩
    rw [List.cons_append, scanString, if_neg (by decide), if_pos rfl, List.append_assoc, he.scans]
    dsimp only
    rw [ih (by omega)]
    rfl
  | char hquote hback hprintable _ ih =>
    rw [List.length_cons] at hn
    obtain ⟨n, rfl⟩ : ∃ n', n = n' + 1 := ⟨n - 1, by omega⟩
    rw [List.cons_append, scanString, if_neg hquote, if_neg hback, if_neg (by omega),
      ih (by omega)]
    rfl

/-! ## Values -/

section Values

variable {α : Type*} {T : FloatText α}

/-- The text of a word or a number. -/
structure AtomText (T : FloatText α) (p : List Char) (v : PyVal α) : Prop where
  ascii : ∀ c ∈ p, IsAscii c
  head : ∃ c cs, p = c :: cs ∧ isWs c = false ∧ c ≠ ']'
  scans : ∀ n q, EndsNumber q → scanValue T (n + 1) (p ++ q) = some (v, q)

/-- What a text is the text of: a value, or the rest of an array or an object behind its opening
bracket. -/
inductive Node (α : Type*)
  | value (v : PyVal α)
  | elements (vs : List (PyVal α))
  | members (es : List (String × PyVal α))

/-- The grammar. -/
inductive Derives (T : FloatText α) : List Char → Node α → Prop
  | atom {p : List Char} {v : PyVal α} (h : AtomText T p v) : Derives T p (.value v)
  | string {p t : List Char} (h : StringText p t) :
      Derives T ('"' :: p) (.value (.str (String.ofList t)))
  | emptyList {w : List Char} (hw : Blank w) : Derives T ('[' :: (w ++ [']'])) (.value (.list []))
  | list {w p : List Char} {vs : List (PyVal α)} (hw : Blank w) (h : Derives T p (.elements vs)) :
      Derives T ('[' :: (w ++ p)) (.value (.list vs))
  | emptyDict {w : List Char} (hw : Blank w) :
      Derives T ('{' :: (w ++ ['}'])) (.value (.dict []))
  | dict {w p : List Char} {es : List (String × PyVal α)} (hw : Blank w)
      (h : Derives T p (.members es)) : Derives T ('{' :: (w ++ p)) (.value (.dict es))
  | lastElement {p w : List Char} {v : PyVal α} (h : Derives T p (.value v)) (hw : Blank w) :
      Derives T (p ++ (w ++ [']'])) (.elements [v])
  | nextElement {p w w' ps : List Char} {v : PyVal α} {vs : List (PyVal α)}
      (h : Derives T p (.value v)) (hw : Blank w) (hw' : Blank w')
      (hs : Derives T ps (.elements vs)) :
      Derives T (p ++ (w ++ ',' :: (w' ++ ps))) (.elements (v :: vs))
  | lastMember {k t w w' p w'' : List Char} {v : PyVal α} (hk : StringText k t) (hw : Blank w)
      (hw' : Blank w') (h : Derives T p (.value v)) (hw'' : Blank w'') :
      Derives T ('"' :: (k ++ (w ++ ':' :: (w' ++ (p ++ (w'' ++ ['}']))))))
        (.members [(String.ofList t, v)])
  | nextMember {k t w w' p w'' w₃ ps : List Char} {v : PyVal α} {es : List (String × PyVal α)}
      (hk : StringText k t) (hw : Blank w) (hw' : Blank w') (h : Derives T p (.value v))
      (hw'' : Blank w'') (hw₃ : Blank w₃) (hs : Derives T ps (.members es)) :
      Derives T ('"' :: (k ++ (w ++ ':' :: (w' ++ (p ++ (w'' ++ ',' :: (w₃ ++ ps)))))))
        (.members ((String.ofList t, v) :: es))

/-- A derivable text does not start with whitespace, nor with what would close an array. -/
lemma Derives.head {p : List Char} {node : Node α} (h : Derives T p node) :
    ∃ c cs, p = c :: cs ∧ isWs c = false ∧ c ≠ ']' := by
  induction h with
  | atom h => exact h.head
  | lastElement _ _ ih | nextElement _ _ _ _ ih _ =>
    obtain ⟨c, cs, rfl, hc, hne⟩ := ih
    exact ⟨c, _, List.cons_append, hc, hne⟩
  | _ => exact ⟨_, _, rfl, by decide, by decide⟩

/-- Whitespace in front of a node is skipped, and nothing of the node. -/
lemma Derives.skipWs_append {p : List Char} {node : Node α} (h : Derives T p node)
    {w : List Char} (hw : Blank w) (q : List Char) : skipWs (w ++ (p ++ q)) = p ++ q := by
  obtain ⟨c, cs, rfl, hc, -⟩ := h.head
  rw [List.cons_append, skipWs_append_cons hw hc]

/-! ### Soundness -/

lemma strip_text {word cs r : List Char} (h : strip word cs = some r) : cs = word ++ r := by
  unfold strip at h
  split_ifs at h with hword
  obtain ⟨t, rfl⟩ := List.isPrefixOf_iff_prefix.mp hword
  rw [List.drop_left] at h
  rw [Option.some.inj h]

lemma strip_append_self (word q : List Char) : strip word (word ++ q) = some q := by
  unfold strip
  rw [if_pos (List.isPrefixOf_iff_prefix.mpr (List.prefix_append word q)), List.drop_left]

/-- What the scanner reads as an atom is the text of one. -/
lemma scanAtom_sound {cs r : List Char} {v : PyVal α} (h : scanAtom T cs = some (v, r)) :
    ∃ p, cs = p ++ r ∧ AtomText T p v := by
  cases cs with
  | nil => cases h
  | cons c cs =>
    -- a word is read as it stands
    have hword : ∀ {word : List Char} {w : PyVal α}, (c :: word).all (fun c =>
        decide (32 ≤ c.toNat ∧ c.toNat < 128)) = true → isWs c = false ∧ c ≠ ']' →
        (∀ n q, scanValue T (n + 1) (c :: (word ++ q)) =
          (strip word (word ++ q)).map fun r => (w, r)) →
        (strip word cs).map (fun r => (w, r)) = some (v, r) →
        ∃ p, c :: cs = p ++ r ∧ AtomText T p v := by
      intro word w hascii hhead hscan hstrip
      obtain ⟨r', hr', heq⟩ := Option.map_eq_some_iff.mp hstrip
      obtain ⟨rfl, rfl⟩ := Prod.mk.inj heq
      refine ⟨c :: word, by rw [strip_text hr', List.cons_append], ?_, ⟨c, word, rfl, hhead⟩, ?_⟩
      · intro d hd
        have hd' : decide (32 ≤ d.toNat ∧ d.toNat < 128) = true := List.all_eq_true.mp hascii d hd
        have hpair := of_decide_eq_true hd'
        exact hpair
      · intro n q _
        rw [List.cons_append, hscan n q, strip_append_self]
        rfl
    rw [scanAtom] at h
    split_ifs at h with hn ht hf hN hI hinf
    · subst hn
      exact hword (by decide) (by decide) (fun n q => rfl) h
    · subst ht
      exact hword (by decide) (by decide) (fun n q => rfl) h
    · subst hf
      exact hword (by decide) (by decide) (fun n q => rfl) h
    · subst hN
      exact hword (by decide) (by decide) (fun n q => rfl) h
    · subst hI
      exact hword (by decide) (by decide) (fun n q => rfl) h
    · obtain ⟨rfl, -⟩ := hinf
      exact hword (by decide) (by decide) (fun n q => rfl) h
    · obtain ⟨⟨t, b, r'⟩, hlit, heq⟩ := Option.map_eq_some_iff.mp h
      obtain ⟨rfl, rfl⟩ := Prod.mk.inj heq
      obtain ⟨hcs, hrescan⟩ := scanLiteral_rescan hlit
      have hwhole : scanLiteral t = some (t, b, []) := by
        have hagain := hrescan [] endsNumber_nil
        rwa [List.append_nil] at hagain
      refine ⟨t, hcs, ascii_scanLiteral hlit, literal_head hwhole, fun n q hq => ?_⟩
      exact scanValue_literal hwhole (Nat.succ_pos n) hq

/-- **Soundness.**  What the scanner reads is derivable. -/
lemma scan_sound (n : ℕ) :
    (∀ cs r (v : PyVal α), scanValue T n cs = some (v, r) →
      ∃ p, cs = p ++ r ∧ Derives T p (.value v)) ∧
    (∀ cs r (vs : List (PyVal α)), scanElements T n cs = some (vs, r) →
      ∃ p, cs = p ++ r ∧ Derives T p (.elements vs)) ∧
    ∀ cs r (es : List (String × PyVal α)), scanMembers T n cs = some (es, r) →
      ∃ p, cs = p ++ r ∧ Derives T p (.members es) := by
  induction n with
  | zero =>
    refine ⟨fun cs r v h => ?_, fun cs r vs h => ?_, fun cs r es h => ?_⟩
    · cases h
    · cases h
    · cases h
  | succ n ih =>
    obtain ⟨ihValue, ihElements, ihMembers⟩ := ih
    refine ⟨?_, ?_, ?_⟩
    · intro cs r v h
      cases valueStep_of_scanValue h with
      | string hstring =>
        obtain ⟨p, rfl, htext⟩ := scanString_sound hstring
        exact ⟨'"' :: p, rfl, .string htext⟩
      | @emptyList cs _ hclose =>
        obtain ⟨w, hw, hcs⟩ := exists_blank cs
        refine ⟨'[' :: (w ++ [']']), ?_, .emptyList hw⟩
        rw [List.cons_append, List.append_assoc, List.singleton_append, ← hclose, ← hcs]
      | @list _ cs _ _ _ hopen _ helements =>
        obtain ⟨w, hw, hcs⟩ := exists_blank cs
        obtain ⟨p, hp, hderives⟩ := ihElements _ _ _ helements
        refine ⟨'[' :: (w ++ p), ?_, .list hw hderives⟩
        rw [List.cons_append, List.append_assoc, ← hp, ← hopen, ← hcs]
      | @emptyDict cs _ hclose =>
        obtain ⟨w, hw, hcs⟩ := exists_blank cs
        refine ⟨'{' :: (w ++ ['}']), ?_, .emptyDict hw⟩
        rw [List.cons_append, List.append_assoc, List.singleton_append, ← hclose, ← hcs]
      | @dict _ cs _ _ _ hopen _ hmembers =>
        obtain ⟨w, hw, hcs⟩ := exists_blank cs
        obtain ⟨p, hp, hderives⟩ := ihMembers _ _ _ hmembers
        refine ⟨'{' :: (w ++ p), ?_, .dict hw hderives⟩
        rw [List.cons_append, List.append_assoc, ← hp, ← hopen, ← hcs]
      | atom _ _ _ hatom =>
        obtain ⟨p, hp, hatom⟩ := scanAtom_sound hatom
        exact ⟨p, hp, .atom hatom⟩
    · intro cs r vs h
      cases elementsStep_of_scanElements h with
      | @last v r₁ _ hvalue hclose =>
        obtain ⟨p, rfl, hv⟩ := ihValue _ _ _ hvalue
        obtain ⟨w, hw, hr₁⟩ := exists_blank r₁
        refine ⟨p ++ (w ++ [']']), ?_, .lastElement hv hw⟩
        rw [List.append_assoc, List.append_assoc, List.singleton_append, ← hclose, ← hr₁]
      | @next v r₁ r₂ _ vs hvalue hcomma hrest =>
        obtain ⟨p, rfl, hv⟩ := ihValue _ _ _ hvalue
        obtain ⟨w, hw, hr₁⟩ := exists_blank r₁
        obtain ⟨w', hw', hr₂⟩ := exists_blank r₂
        obtain ⟨ps, hps, hvs⟩ := ihElements _ _ _ hrest
        refine ⟨p ++ (w ++ ',' :: (w' ++ ps)), ?_, .nextElement hv hw hw' hvs⟩
        rw [List.append_assoc, List.append_assoc, List.cons_append, List.append_assoc, ← hps,
          ← hr₂, ← hcomma, ← hr₁]
    · intro cs r es h
      cases membersStep_of_scanMembers h with
      | @last _ name r₁ r₂ r₃ _ v hkey hcolon hvalue hclose =>
        obtain ⟨k, rfl, htext⟩ := scanString_sound hkey
        obtain ⟨w, hw, hr₁⟩ := exists_blank r₁
        obtain ⟨w', hw', hr₂⟩ := exists_blank r₂
        obtain ⟨p, hp, hv⟩ := ihValue _ _ _ hvalue
        obtain ⟨w'', hw'', hr₃⟩ := exists_blank r₃
        refine ⟨_, ?_, .lastMember htext hw hw' hv hw''⟩
        simp only [List.cons_append, List.append_assoc, List.nil_append]
        rw [← hclose, ← hr₃, ← hp, ← hr₂, ← hcolon, ← hr₁]
      | @next _ name r₁ r₂ r₃ r₄ _ v es hkey hcolon hvalue hcomma hrest =>
        obtain ⟨k, rfl, htext⟩ := scanString_sound hkey
        obtain ⟨w, hw, hr₁⟩ := exists_blank r₁
        obtain ⟨w', hw', hr₂⟩ := exists_blank r₂
        obtain ⟨p, hp, hv⟩ := ihValue _ _ _ hvalue
        obtain ⟨w'', hw'', hr₃⟩ := exists_blank r₃
        obtain ⟨w₃, hw₃, hr₄⟩ := exists_blank r₄
        obtain ⟨ps, hps, hes⟩ := ihMembers _ _ _ hrest
        refine ⟨_, ?_, .nextMember htext hw hw' hv hw'' hw₃ hes⟩
        simp only [List.cons_append, List.append_assoc]
        rw [← hps, ← hr₄, ← hcomma, ← hr₃, ← hp, ← hr₂, ← hcolon, ← hr₁]

/-! ### Completeness -/

/-- The scanner for a node reads it off the front of a text. -/
def Scans (T : FloatText α) (n : ℕ) (cs : List Char) : Node α → List Char → Prop
  | .value v, r => scanValue T n cs = some (v, r)
  | .elements vs, r => scanElements T n cs = some (vs, r)
  | .members es, r => scanMembers T n cs = some (es, r)

/-- What has to follow a node: a value may be a number, and that has to end. -/
def Node.Follows : Node α → List Char → Prop
  | .value _, q => EndsNumber q
  | _, _ => True

/-- **Completeness.**  A derivable text is read as what it is the text of. -/
lemma Derives.scans {p : List Char} {node : Node α} (h : Derives T p node) {n : ℕ}
    (hn : 2 * p.length ≤ n) {q : List Char} (hq : node.Follows q) : Scans T n (p ++ q) node q := by
  induction h generalizing n q with
  | atom h =>
    obtain ⟨c, cs, rfl, -⟩ := h.head
    rw [List.length_cons] at hn
    obtain ⟨n, rfl⟩ : ∃ n', n = n' + 1 := ⟨n - 1, by omega⟩
    exact h.scans n q hq
  | string h =>
    rw [List.length_cons] at hn
    obtain ⟨n, rfl⟩ : ∃ n', n = n' + 1 := ⟨n - 1, by omega⟩
    show scanValue T (n + 1) _ = _
    rw [List.cons_append, scanValue_quote, h.scans (by omega)]
    rfl
  | emptyList hw =>
    rw [List.length_cons] at hn
    obtain ⟨n, rfl⟩ : ∃ n', n = n' + 1 := ⟨n - 1, by omega⟩
    show scanValue T (n + 1) _ = _
    rw [List.cons_append, List.append_assoc, List.singleton_append]
    exact scanValue_emptyList (skipWs_append_cons hw (by decide) q)
  | list hw h ih =>
    obtain ⟨c, cs, rfl, hc, hne⟩ := h.head
    rw [List.length_cons, List.length_append] at hn
    obtain ⟨n, rfl⟩ : ∃ n', n = n' + 1 := ⟨n - 1, by omega⟩
    have helements : scanElements T n (c :: cs ++ q) = some (_, q) := ih (by omega) trivial
    show scanValue T (n + 1) _ = _
    rw [List.cons_append, List.append_assoc, List.cons_append,
      scanValue_list (skipWs_append_cons hw hc _) hne, ← List.cons_append, helements]
    rfl
  | emptyDict hw =>
    rw [List.length_cons] at hn
    obtain ⟨n, rfl⟩ : ∃ n', n = n' + 1 := ⟨n - 1, by omega⟩
    show scanValue T (n + 1) _ = _
    rw [List.cons_append, List.append_assoc, List.singleton_append]
    exact scanValue_emptyDict (skipWs_append_cons hw (by decide) q)
  | @dict w p es hw h ih =>
    rw [List.length_cons, List.length_append] at hn
    obtain ⟨n, rfl⟩ : ∃ n', n = n' + 1 := ⟨n - 1, by omega⟩
    have hmembers : scanMembers T n (p ++ q) = some (es, q) := ih (by omega) trivial
    obtain ⟨c, cs, hp, hc, -⟩ := h.head
    have hquote : c = '"' := by
      cases h <;> exact (List.cons.inj hp).1.symm
    have hopen : c ≠ '}' := by
      rw [hquote]
      decide
    rw [hp, List.cons_append] at hmembers
    show scanValue T (n + 1) _ = _
    rw [List.cons_append, List.append_assoc, hp, List.cons_append,
      scanValue_dict (skipWs_append_cons hw hc _) hopen, hmembers]
    rfl
  | @lastElement p w v h hw ih =>
    rw [List.length_append, List.length_append, List.length_singleton] at hn
    obtain ⟨n, rfl⟩ : ∃ n', n = n' + 1 := ⟨n - 1, by omega⟩
    have hend : EndsNumber (w ++ ']' :: q) := endsNumber_append_cons hw (by decide) q
    have hvalue : scanValue T n (p ++ (w ++ ']' :: q)) = some (v, w ++ ']' :: q) :=
      ih (by omega) hend
    show scanElements T (n + 1) _ = _
    rw [List.append_assoc, List.append_assoc, List.singleton_append]
    exact scanElements_last hvalue (skipWs_append_cons hw (by decide) q)
  | @nextElement p w w' ps v vs h hw hw' hs ih ihs =>
    rw [List.length_append, List.length_append, List.length_cons, List.length_append] at hn
    obtain ⟨n, rfl⟩ : ∃ n', n = n' + 1 := ⟨n - 1, by omega⟩
    have hend : EndsNumber (w ++ ',' :: (w' ++ (ps ++ q))) :=
      endsNumber_append_cons hw (by decide) _
    have hvalue : scanValue T n (p ++ (w ++ ',' :: (w' ++ (ps ++ q)))) =
        some (v, w ++ ',' :: (w' ++ (ps ++ q))) := ih (by omega) hend
    have hrest : scanElements T n (ps ++ q) = some (vs, q) := ihs (by omega) trivial
    show scanElements T (n + 1) _ = _
    rw [List.append_assoc, List.append_assoc, List.cons_append, List.append_assoc,
      scanElements_next hvalue (skipWs_append_cons hw (by decide) _), hs.skipWs_append hw', hrest]
    rfl
  | @lastMember k t w w' p w'' v hk hw hw' h hw'' ih =>
    simp only [List.length_cons, List.length_append, List.length_nil] at hn
    obtain ⟨n, rfl⟩ : ∃ n', n = n' + 1 := ⟨n - 1, by omega⟩
    have hend : EndsNumber (w'' ++ '}' :: q) := endsNumber_append_cons hw'' (by decide) q
    have hvalue : scanValue T n (p ++ (w'' ++ '}' :: q)) = some (v, w'' ++ '}' :: q) :=
      ih (by omega) hend
    rw [← h.skipWs_append hw'] at hvalue
    have hname : ∀ q, scanString n (k ++ q) = some (t, q) := hk.scans (by omega)
    show scanMembers T (n + 1) _ = _
    simp only [List.append_assoc, List.cons_append, List.nil_append]
    exact scanMembers_last (hname _) (skipWs_append_cons hw (by decide) _) hvalue
      (skipWs_append_cons hw'' (by decide) q)
  | @nextMember k t w w' p w'' w₃ ps v es hk hw hw' h hw'' hw₃ hs ih ihs =>
    simp only [List.length_cons, List.length_append] at hn
    obtain ⟨n, rfl⟩ : ∃ n', n = n' + 1 := ⟨n - 1, by omega⟩
    have hend : EndsNumber (w'' ++ ',' :: (w₃ ++ (ps ++ q))) :=
      endsNumber_append_cons hw'' (by decide) _
    have hvalue : scanValue T n (p ++ (w'' ++ ',' :: (w₃ ++ (ps ++ q)))) =
        some (v, w'' ++ ',' :: (w₃ ++ (ps ++ q))) := ih (by omega) hend
    have hrest : scanMembers T n (ps ++ q) = some (es, q) := ihs (by omega) trivial
    rw [← h.skipWs_append hw'] at hvalue
    have hname : ∀ q, scanString n (k ++ q) = some (t, q) := hk.scans (by omega)
    show scanMembers T (n + 1) _ = _
    simp only [List.append_assoc, List.cons_append]
    rw [scanMembers_next (hname _) (skipWs_append_cons hw (by decide) _) hvalue
      (skipWs_append_cons hw'' (by decide) _), hs.skipWs_append hw₃, hrest]
    rfl

/-! ### Objects -/

/-- A word or a number is no object. -/
lemma scanAtom_ne_dict {cs r : List Char} {es : List (String × PyVal α)} :
    scanAtom T cs ≠ some (.dict es, r) := by
  intro h
  cases cs with
  | nil => cases h
  | cons c cs =>
    rw [scanAtom] at h
    split_ifs at h
    all_goals
      obtain ⟨x, -, heq⟩ := Option.map_eq_some_iff.mp h
      have hdict := (Prod.mk.inj heq).1
    case neg => split_ifs at hdict
    all_goals cases hdict

lemma Derives.members_text {p : List Char} {node : Node α} (h : Derives T p node) :
    ∀ es, node = .members es → ∃ m, p = m ++ ['}'] := by
  induction h with
  | @lastMember k _ w w' p w'' =>
    exact fun _ _ => ⟨'"' :: (k ++ (w ++ ':' :: (w' ++ (p ++ w'')))), by simp⟩
  | @nextMember k _ w w' p w'' w₃ _ _ _ _ _ _ _ _ _ _ _ ihs =>
    intro _ _
    obtain ⟨m, rfl⟩ := ihs _ rfl
    exact ⟨'"' :: (k ++ (w ++ ':' :: (w' ++ (p ++ (w'' ++ ',' :: (w₃ ++ m)))))), by simp⟩
  | _ =>
    intro _ h
    cases h

/-- The text of an object is in braces. -/
lemma Derives.dict_text {p : List Char} {es : List (String × PyVal α)}
    (h : Derives T p (.value (.dict es))) : ∃ m, p = '{' :: (m ++ ['}']) := by
  cases h with
  | emptyDict => exact ⟨_, rfl⟩
  | @dict w _ _ _ h =>
    obtain ⟨m, rfl⟩ := h.members_text _ rfl
    exact ⟨w ++ m, by simp⟩
  | atom h =>
    -- the empty object scans as it stands, too
    obtain ⟨c, cs, rfl, -⟩ := h.head
    have hscan := h.scans 0 [] endsNumber_nil
    rw [List.append_nil] at hscan
    cases valueStep_of_scanValue hscan with
    | emptyDict hclose =>
      obtain ⟨w, -, hcs⟩ := exists_blank cs
      exact ⟨w, by rw [hcs, hclose]⟩
    | dict _ _ hmembers => cases hmembers
    | atom _ _ _ hatom => exact absurd hatom scanAtom_ne_dict

lemma scan_error {s : String} {e : LoadsErr} (h : scan T s = .error e) : e = .valueError := by
  unfold scan at h
  split at h
  · exact (Except.error.inj h).symm
  · split_ifs at h
    exact (Except.error.inj h).symm

/-- **What the decoder accepts**: a derivable text with whitespace around it. -/
theorem scan_eq_ok_iff {s : String} {v : PyVal α} :
    scan T s = .ok v ↔ ∃ w p w', s.toList = w ++ (p ++ w') ∧ Blank w ∧ Blank w' ∧
      Derives T p (.value v) := by
  unfold scan
  constructor
  · intro h
    obtain ⟨w, hw, hs⟩ := exists_blank s.toList
    cases hscan : scanValue T (2 * s.toList.length + 2) (skipWs s.toList) with
    | none =>
      rw [hscan] at h
      cases h
    | some x =>
      obtain ⟨v', r⟩ := x
      rw [hscan] at h
      dsimp only at h
      split_ifs at h with hr
      obtain rfl := Except.ok.inj h
      obtain ⟨p, hp, hderives⟩ := (scan_sound _).1 _ _ _ hscan
      exact ⟨w, p, r, by rw [← hp, ← hs], hw, List.dropWhile_eq_nil_iff.mp hr, hderives⟩
  · rintro ⟨w, p, w', hs, hw, hw', hderives⟩
    obtain ⟨c, cs, hp, hc, -⟩ := hderives.head
    have hskip : skipWs s.toList = p ++ w' := by
      rw [hs, hp, List.cons_append, skipWs_append_cons hw hc]
    have hlength : 2 * p.length ≤ 2 * s.toList.length + 2 := by
      rw [hs, List.length_append, List.length_append]
      omega
    have hscan : scanValue T (2 * s.toList.length + 2) (p ++ w') = some (v, w') :=
      hderives.scans hlength (endsNumber_blank hw')
    rw [hskip, hscan]
    exact if_pos (skipWs_blank hw')

end Values

/-! ## Line breaks

An accepted text may be broken at whitespace, where one break is as good as another, and inside a
string at the separators, which are no control characters.  A newline in the place of a separator is
one, and no string holds it. -/

/-- A line break that a string may hold as it stands. -/
def IsSeparator (c : Char) : Prop := Text.isLineBreak c = true ∧ 32 ≤ c.toNat

instance : DecidablePred IsSeparator := fun _ => inferInstanceAs (Decidable (_ ∧ _))

/-- No separator stands in the text as it is. -/
def Tidy (p : List Char) : Prop := ∀ c ∈ p, ¬ IsSeparator c

instance : DecidablePred Tidy := fun p => List.decidableBAll (fun c => ¬ IsSeparator c) p

lemma tidy_append {p q : List Char} : Tidy (p ++ q) ↔ Tidy p ∧ Tidy q := List.forall_mem_append

lemma tidy_cons {c : Char} (hc : ¬ IsSeparator c) {p : List Char} : Tidy (c :: p) ↔ Tidy p := by
  unfold Tidy
  rw [List.forall_mem_cons, and_iff_right hc]

lemma tidy_singleton {c : Char} (hc : ¬ IsSeparator c) : Tidy [c] :=
  (tidy_cons hc).mpr fun _ h => absurd h List.not_mem_nil

lemma IsAscii.isLineBreak {c : Char} (h : IsAscii c) : Text.isLineBreak c = false := by
  obtain ⟨hlow, hhigh⟩ := h
  unfold Text.isLineBreak
  rw [List.contains_eq_mem, decide_eq_false_iff_not]
  simp only [List.mem_cons, List.not_mem_nil, or_false]
  omega

lemma isLineBreak_of_not_isSeparator {c : Char} (h : ¬ IsSeparator c) (hc : 32 ≤ c.toNat) :
    Text.isLineBreak c = false :=
  Bool.eq_false_iff.mpr fun hbreak => h ⟨hbreak, hc⟩

lemma tidy_of_ascii {p : List Char} (h : ∀ c ∈ p, IsAscii c) : Tidy p := by
  rintro c hc ⟨hbreak, -⟩
  rw [(h c hc).isLineBreak] at hbreak
  cases hbreak

lemma Blank.tidy {w : List Char} (hw : Blank w) : Tidy w := by
  intro c hc
  have hws := hw c hc
  unfold isWs at hws
  simp only [Bool.or_eq_true, decide_eq_true_eq] at hws
  rcases hws with ((rfl | rfl) | rfl) | rfl <;> decide

/-- Whitespace stays whitespace. -/
lemma Blank.unify {w : List Char} (hw : Blank w) : Blank (Text.unifyBreaks w) := by
  intro c hc
  rcases Text.mem_unifyBreaks hc with rfl | ⟨hmem, -⟩
  · rfl
  · exact hw c hmem

/-! ### Strings -/

lemma StringText.printable {p t : List Char} (h : StringText p t) : ∀ c ∈ p, 32 ≤ c.toNat := by
  induction h with
  | close =>
    intro c hc
    obtain rfl := List.mem_singleton.mp hc
    decide
  | escape he _ ih =>
    refine List.forall_mem_cons.mpr ⟨by decide, List.forall_mem_append.mpr ⟨?_, ih⟩⟩
    exact fun c hc => (he.ascii c hc).1
  | char _ _ hprintable _ ih => exact List.forall_mem_cons.mpr ⟨hprintable, ih⟩

lemma StringText.last {p t : List Char} (h : StringText p t) : ∃ cs, p = cs ++ ['"'] := by
  induction h with
  | close => exact ⟨[], rfl⟩
  | @escape e _ _ _ _ _ ih =>
    obtain ⟨cs, rfl⟩ := ih
    exact ⟨'\\' :: (e ++ cs), by rw [List.cons_append, List.append_assoc]⟩
  | @char c _ _ _ _ _ _ ih =>
    obtain ⟨cs, rfl⟩ := ih
    exact ⟨c :: cs, rfl⟩

/-- A string without a separator has no line break at all. -/
lemma StringText.unify {p t : List Char} (h : StringText p t) (ht : Tidy p) :
    Text.unifyBreaks p = p :=
  Text.unifyBreaks_of_no_break fun c hc =>
    isLineBreak_of_not_isSeparator (ht c hc) (h.printable c hc)

/-- A string with a separator becomes one with a newline in it, which is refused. -/
lemma StringText.fails {p t : List Char} (h : StringText p t) (ht : ¬ Tidy p) (n : ℕ)
    (q : List Char) : scanString n (Text.unifyBreaks p ++ q) = none := by
  induction h generalizing n with
  | close => exact absurd (tidy_singleton (by decide)) ht
  | @escape e d p t he hp ih =>
    cases n with
    | zero => rfl
    | succ n =>
      have hrest : ¬ Tidy p := fun h =>
        ht ((tidy_cons (by decide)).mpr (tidy_append.mpr ⟨tidy_of_ascii he.ascii, h⟩))
      have hescape : Text.unifyBreaks (e ++ p) = e ++ Text.unifyBreaks p := by
        have hplain : ∀ c ∈ e, Text.isLineBreak c = false := fun c hc => (he.ascii c hc).isLineBreak
        have hlast : e.getLast? = some '\r' → p.head? ≠ some '\n' := by
          intro hreturn
          have hmem := hplain '\r' (List.mem_of_getLast? hreturn)
          cases hmem
        rw [Text.unifyBreaks_append hlast, Text.unifyBreaks_of_no_break hplain]
      rw [Text.unifyBreaks_cons_plain (by decide), hescape, List.cons_append, scanString,
        if_neg (by decide), if_pos rfl, List.append_assoc, he.scans]
      dsimp only
      rw [ih hrest]
      rfl
  | @char c p t hquote hback hprintable hp ih =>
    cases n with
    | zero => rfl
    | succ n =>
      by_cases hc : IsSeparator c
      · -- the newline is a control character
        have halone : c = '\r' → p.head? ≠ some '\n' := by
          rintro rfl
          exact absurd hprintable (by decide)
        rw [Text.unifyBreaks_cons halone, hc.1, List.cons_append, scanString]
        rfl
      · have hplain := isLineBreak_of_not_isSeparator hc hprintable
        have hrest : ¬ Tidy p := fun h => ht ((tidy_cons hc).mpr h)
        rw [Text.unifyBreaks_cons_plain hplain, List.cons_append, scanString, if_neg hquote,
          if_neg hback, if_neg (by omega), ih hrest]
        rfl

lemma StringText.unify_append {p t : List Char} (h : StringText p t) (q : List Char) :
    Text.unifyBreaks (p ++ q) = Text.unifyBreaks p ++ Text.unifyBreaks q := by
  refine Text.unifyBreaks_append fun hlast => ?_
  obtain ⟨cs, rfl⟩ := h.last
  rw [List.getLast?_concat] at hlast
  cases hlast

/-! ### Values -/

section Unified

variable {α : Type*} {T : FloatText α}

lemma Derives.head_ascii {p : List Char} {node : Node α} (h : Derives T p node) :
    ∀ c ∈ p.head?, IsAscii c := by
  induction h with
  | atom h => exact fun c hc => h.ascii c (List.mem_of_mem_head? hc)
  | lastElement h _ ih | nextElement h _ _ _ ih _ =>
    obtain ⟨c, cs, rfl, -⟩ := h.head
    exact ih
  | _ =>
    intro c hc
    rw [← Option.some.inj hc]
    exact ⟨by decide, by decide⟩

lemma Derives.last {p : List Char} {node : Node α} (h : Derives T p node) :
    ∃ cs c, p = cs ++ [c] ∧ IsAscii c := by
  induction h with
  | atom h =>
    obtain ⟨c, cs, rfl, -⟩ := h.head
    refine ⟨_, _, (List.dropLast_append_getLast (List.cons_ne_nil c cs)).symm, ?_⟩
    exact h.ascii _ (List.getLast_mem _)
  | string h =>
    obtain ⟨cs, rfl⟩ := h.last
    exact ⟨'"' :: cs, '"', rfl, by decide, by decide⟩
  | @emptyList w => exact ⟨'[' :: w, ']', rfl, by decide, by decide⟩
  | @emptyDict w => exact ⟨'{' :: w, '}', rfl, by decide, by decide⟩
  | @list w _ _ _ _ ih =>
    obtain ⟨cs, c, rfl, hc⟩ := ih
    exact ⟨'[' :: (w ++ cs), c, by simp, hc⟩
  | @dict w _ _ _ _ ih =>
    obtain ⟨cs, c, rfl, hc⟩ := ih
    exact ⟨'{' :: (w ++ cs), c, by simp, hc⟩
  | @lastElement p w => exact ⟨p ++ w, ']', by simp, by decide, by decide⟩
  | @nextElement p w w' _ _ _ _ _ _ _ _ ih =>
    obtain ⟨cs, c, rfl, hc⟩ := ih
    exact ⟨p ++ (w ++ ',' :: (w' ++ cs)), c, by simp, hc⟩
  | @lastMember k _ w w' p w'' =>
    exact ⟨'"' :: (k ++ (w ++ ':' :: (w' ++ (p ++ w'')))), '}', by simp, by decide, by decide⟩
  | @nextMember k _ w w' p w'' w₃ _ _ _ _ _ _ _ _ _ _ _ ih =>
    obtain ⟨cs, c, rfl, hc⟩ := ih
    exact ⟨'"' :: (k ++ (w ++ ':' :: (w' ++ (p ++ (w'' ++ ',' :: (w₃ ++ cs)))))), c, by simp, hc⟩

/-- A derivable text is unified apart from what follows it. -/
lemma Derives.unify_append {p : List Char} {node : Node α} (h : Derives T p node)
    (q : List Char) :
    Text.unifyBreaks (p ++ q) = Text.unifyBreaks p ++ Text.unifyBreaks q := by
  refine Text.unifyBreaks_append fun hlast => ?_
  obtain ⟨cs, c, rfl, hc⟩ := h.last
  rw [List.getLast?_concat] at hlast
  rw [Option.some.inj hlast] at hc
  exact absurd hc.isLineBreak (by decide)

/-- A derivable text is unified apart from what is in front of it. -/
lemma Derives.unify_behind {p : List Char} {node : Node α} (h : Derives T p node)
    (w q : List Char) :
    Text.unifyBreaks (w ++ (p ++ q)) =
      Text.unifyBreaks w ++ (Text.unifyBreaks p ++ Text.unifyBreaks q) := by
  have hhead : (p ++ q).head? ≠ some '\n' := by
    obtain ⟨c, cs, rfl, hc, -⟩ := h.head
    intro h
    rw [Option.some.inj h] at hc
    cases hc
  rw [Text.unifyBreaks_append fun _ => hhead, h.unify_append]

lemma Derives.unify_behind_nil {p : List Char} {node : Node α} (h : Derives T p node)
    (w : List Char) :
    Text.unifyBreaks (w ++ p) = Text.unifyBreaks w ++ Text.unifyBreaks p := by
  have hbehind := h.unify_behind w []
  rwa [List.append_nil, Text.unifyBreaks, List.append_nil] at hbehind

/-- The unified text starts as the text did. -/
lemma Derives.unify_head {p : List Char} {node : Node α} (h : Derives T p node) :
    ∃ c cs, p.head? = some c ∧ Text.unifyBreaks p = c :: cs ∧ isWs c = false ∧ c ≠ ']' := by
  have hascii := h.head_ascii
  obtain ⟨c, cs, rfl, hc, hne⟩ := h.head
  refine ⟨c, Text.unifyBreaks cs, rfl, ?_, hc, hne⟩
  exact Text.unifyBreaks_cons_plain (hascii c rfl).isLineBreak cs

lemma Derives.skipWs_unify {p : List Char} {node : Node α} (h : Derives T p node)
    {w : List Char} (hw : Blank w) (q : List Char) :
    skipWs (w ++ (Text.unifyBreaks p ++ q)) = Text.unifyBreaks p ++ q := by
  obtain ⟨c, cs, -, hp, hc, -⟩ := h.unify_head
  rw [hp, List.cons_append, skipWs_append_cons hw hc]

/-- **Breaking lines at newlines only** changes nothing in a text without separators. -/
lemma Derives.unify {p : List Char} {node : Node α} (h : Derives T p node) (ht : Tidy p) :
    Derives T (Text.unifyBreaks p) node := by
  induction h with
  | atom h =>
    rw [Text.unifyBreaks_of_no_break fun c hc => (h.ascii c hc).isLineBreak]
    exact .atom h
  | string h =>
    rw [tidy_cons (by decide)] at ht
    rw [Text.unifyBreaks_cons_plain (by decide), h.unify ht]
    exact .string h
  | emptyList hw =>
    rw [Text.unifyBreaks_cons_plain (by decide), Text.unifyBreaks_append_cons (by decide)]
    exact .emptyList hw.unify
  | list hw h ih =>
    rw [tidy_cons (by decide), tidy_append] at ht
    rw [Text.unifyBreaks_cons_plain (by decide), h.unify_behind_nil]
    exact .list hw.unify (ih ht.2)
  | emptyDict hw =>
    rw [Text.unifyBreaks_cons_plain (by decide), Text.unifyBreaks_append_cons (by decide)]
    exact .emptyDict hw.unify
  | dict hw h ih =>
    rw [tidy_cons (by decide), tidy_append] at ht
    rw [Text.unifyBreaks_cons_plain (by decide), h.unify_behind_nil]
    exact .dict hw.unify (ih ht.2)
  | lastElement h hw ih =>
    rw [tidy_append] at ht
    rw [h.unify_append, Text.unifyBreaks_append_cons (by decide)]
    exact .lastElement (ih ht.1) hw.unify
  | nextElement h hw hw' hs ih ihs =>
    rw [tidy_append, tidy_append, tidy_cons (by decide), tidy_append] at ht
    rw [h.unify_append, Text.unifyBreaks_append_cons (by decide), hs.unify_behind_nil]
    exact .nextElement (ih ht.1) hw.unify hw'.unify (ihs ht.2.2.2)
  | lastMember hk hw hw' h hw'' ih =>
    rw [tidy_cons (by decide), tidy_append, tidy_append, tidy_cons (by decide), tidy_append,
      tidy_append] at ht
    rw [Text.unifyBreaks_cons_plain (by decide), hk.unify_append, hk.unify ht.1,
      Text.unifyBreaks_append_cons (by decide), h.unify_behind,
      Text.unifyBreaks_append_cons (by decide)]
    exact .lastMember hk hw.unify hw'.unify (ih ht.2.2.2.1) hw''.unify
  | nextMember hk hw hw' h hw'' hw₃ hs ih ihs =>
    rw [tidy_cons (by decide), tidy_append, tidy_append, tidy_cons (by decide), tidy_append,
      tidy_append, tidy_append, tidy_cons (by decide), tidy_append] at ht
    rw [Text.unifyBreaks_cons_plain (by decide), hk.unify_append, hk.unify ht.1,
      Text.unifyBreaks_append_cons (by decide), h.unify_behind,
      Text.unifyBreaks_append_cons (by decide), hs.unify_behind_nil]
    exact .nextMember hk hw.unify hw'.unify (ih ht.2.2.2.1) hw''.unify hw₃.unify
      (ihs ht.2.2.2.2.2.2)

/-- The scanner for a node refuses a text. -/
def Fails (T : FloatText α) (n : ℕ) (cs : List Char) : Node α → Prop
  | .value _ => scanValue T n cs = none
  | .elements _ => scanElements T n cs = none
  | .members _ => scanMembers T n cs = none

/-- **Breaking lines at newlines only** makes the decoder refuse a text with a separator. -/
lemma Derives.fails {p : List Char} {node : Node α} (h : Derives T p node) (ht : ¬ Tidy p) {n : ℕ}
    (hn : 2 * (Text.unifyBreaks p).length ≤ n) {q : List Char} (hq : node.Follows q) :
    Fails T n (Text.unifyBreaks p ++ q) node := by
  induction h generalizing n q with
  | atom h => exact absurd (tidy_of_ascii h.ascii) ht
  | emptyList hw | emptyDict hw =>
    refine absurd ?_ ht
    exact (tidy_cons (by decide)).mpr
      (tidy_append.mpr ⟨hw.tidy, tidy_singleton (by decide)⟩)
  | string h =>
    rw [tidy_cons (by decide)] at ht
    rw [Text.unifyBreaks_cons_plain (by decide), List.length_cons] at hn
    obtain ⟨n, rfl⟩ : ∃ n', n = n' + 1 := ⟨n - 1, by omega⟩
    show scanValue T (n + 1) _ = none
    rw [Text.unifyBreaks_cons_plain (by decide), List.cons_append, scanValue_quote, h.fails ht]
    rfl
  | @list w p vs hw h ih =>
    rw [tidy_cons (by decide), tidy_append, and_iff_right hw.tidy] at ht
    have htext : Text.unifyBreaks ('[' :: (w ++ p)) =
        '[' :: (Text.unifyBreaks w ++ Text.unifyBreaks p) := by
      rw [Text.unifyBreaks_cons_plain (by decide), h.unify_behind_nil]
    rw [htext, List.length_cons, List.length_append] at hn
    obtain ⟨n, rfl⟩ : ∃ n', n = n' + 1 := ⟨n - 1, by omega⟩
    have helements : scanElements T n (Text.unifyBreaks p ++ q) = none := ih ht (by omega) trivial
    obtain ⟨c, cs, -, hp, hc, hne⟩ := h.unify_head
    rw [hp, List.cons_append] at helements
    show scanValue T (n + 1) _ = none
    rw [htext, List.cons_append, List.append_assoc, hp, List.cons_append,
      scanValue_list (skipWs_append_cons hw.unify hc _) hne, helements]
    rfl
  | @dict w p es hw h ih =>
    rw [tidy_cons (by decide), tidy_append, and_iff_right hw.tidy] at ht
    have htext : Text.unifyBreaks ('{' :: (w ++ p)) =
        '{' :: (Text.unifyBreaks w ++ Text.unifyBreaks p) := by
      rw [Text.unifyBreaks_cons_plain (by decide), h.unify_behind_nil]
    rw [htext, List.length_cons, List.length_append] at hn
    obtain ⟨n, rfl⟩ : ∃ n', n = n' + 1 := ⟨n - 1, by omega⟩
    have hmembers : scanMembers T n (Text.unifyBreaks p ++ q) = none := ih ht (by omega) trivial
    obtain ⟨c, cs, hhead, hp, hc, -⟩ := h.unify_head
    have hquote : c = '"' := by
      cases h <;> exact (Option.some.inj hhead).symm
    have hopen : c ≠ '}' := by
      rw [hquote]
      decide
    rw [hp, List.cons_append] at hmembers
    show scanValue T (n + 1) _ = none
    rw [htext, List.cons_append, List.append_assoc, hp, List.cons_append,
      scanValue_dict (skipWs_append_cons hw.unify hc _) hopen, hmembers]
    rfl
  | @lastElement p w v h hw ih =>
    rw [tidy_append, and_iff_left (tidy_append.mpr ⟨hw.tidy, tidy_singleton (by decide)⟩)] at ht
    have htext : Text.unifyBreaks (p ++ (w ++ [']'])) =
        Text.unifyBreaks p ++ (Text.unifyBreaks w ++ [']']) := by
      rw [h.unify_append, Text.unifyBreaks_append_cons (by decide)]
      rfl
    rw [htext, List.length_append, List.length_append, List.length_singleton] at hn
    obtain ⟨n, rfl⟩ : ∃ n', n = n' + 1 := ⟨n - 1, by omega⟩
    have hend : EndsNumber (Text.unifyBreaks w ++ ']' :: q) :=
      endsNumber_append_cons hw.unify (by decide) q
    have hvalue : scanValue T n (Text.unifyBreaks p ++ (Text.unifyBreaks w ++ ']' :: q)) = none :=
      ih ht (by omega) hend
    show scanElements T (n + 1) _ = none
    rw [htext, List.append_assoc, List.append_assoc, List.singleton_append]
    exact scanElements_none hvalue
  | @nextElement p w w' ps v vs h hw hw' hs ih ihs =>
    rw [tidy_append, tidy_append, tidy_cons (by decide), tidy_append, and_iff_right hw.tidy,
      and_iff_right hw'.tidy] at ht
    have htext : Text.unifyBreaks (p ++ (w ++ ',' :: (w' ++ ps))) =
        Text.unifyBreaks p ++
          (Text.unifyBreaks w ++ ',' :: (Text.unifyBreaks w' ++ Text.unifyBreaks ps)) := by
      rw [h.unify_append, Text.unifyBreaks_append_cons (by decide), hs.unify_behind_nil]
    simp only [htext, List.length_append, List.length_cons] at hn
    obtain ⟨n, rfl⟩ : ∃ n', n = n' + 1 := ⟨n - 1, by omega⟩
    have hend : EndsNumber
        (Text.unifyBreaks w ++ ',' :: (Text.unifyBreaks w' ++ (Text.unifyBreaks ps ++ q))) :=
      endsNumber_append_cons hw.unify (by decide) _
    show scanElements T (n + 1) _ = none
    simp only [htext, List.append_assoc, List.cons_append]
    by_cases hp : Tidy p
    · have hvalue : scanValue T n _ = some (v, _) := (h.unify hp).scans (by omega) hend
      have hrest : scanElements T n (Text.unifyBreaks ps ++ q) = none :=
        ihs (fun hps => ht ⟨hp, hps⟩) (by omega) trivial
      rw [scanElements_next hvalue (skipWs_append_cons hw.unify (by decide) _),
        hs.skipWs_unify hw'.unify, hrest]
      rfl
    · exact scanElements_none (ih hp (by omega) hend)
  | @lastMember k t w w' p w'' v hk hw hw' h hw'' ih =>
    rw [tidy_cons (by decide), tidy_append, tidy_append, tidy_cons (by decide), tidy_append,
      tidy_append, and_iff_right hw.tidy, and_iff_right hw'.tidy,
      and_iff_left (tidy_append.mpr ⟨hw''.tidy, tidy_singleton (by decide)⟩)] at ht
    have htext : Text.unifyBreaks ('"' :: (k ++ (w ++ ':' :: (w' ++ (p ++ (w'' ++ ['}'])))))) =
        '"' :: (Text.unifyBreaks k ++ (Text.unifyBreaks w ++ ':' :: (Text.unifyBreaks w' ++
          (Text.unifyBreaks p ++ (Text.unifyBreaks w'' ++ ['}']))))) := by
      rw [Text.unifyBreaks_cons_plain (by decide), hk.unify_append,
        Text.unifyBreaks_append_cons (by decide), h.unify_behind,
        Text.unifyBreaks_append_cons (by decide)]
      rfl
    simp only [htext, List.length_append, List.length_cons] at hn
    obtain ⟨n, rfl⟩ : ∃ n', n = n' + 1 := ⟨n - 1, by omega⟩
    have hend : EndsNumber (Text.unifyBreaks w'' ++ '}' :: q) :=
      endsNumber_append_cons hw''.unify (by decide) q
    show scanMembers T (n + 1) _ = none
    simp only [htext, List.append_assoc, List.cons_append, List.nil_append]
    by_cases hkey : Tidy k
    · have hvalue : scanValue T n _ = none :=
        ih (fun hp => ht ⟨hkey, hp⟩) (by omega) hend
      rw [hk.unify hkey] at hn ⊢
      rw [← h.skipWs_unify hw'.unify] at hvalue
      have hname : ∀ q, scanString n (k ++ q) = some (t, q) := hk.scans (by omega)
      exact scanMembers_none_value (hname _) (skipWs_append_cons hw.unify (by decide) _) hvalue
    · exact scanMembers_none_name (hk.fails hkey n _)
  | @nextMember k t w w' p w'' w₃ ps v es hk hw hw' h hw'' hw₃ hs ih ihs =>
    rw [tidy_cons (by decide), tidy_append, tidy_append, tidy_cons (by decide), tidy_append,
      tidy_append, tidy_append, tidy_cons (by decide), tidy_append, and_iff_right hw.tidy,
      and_iff_right hw'.tidy, and_iff_right hw''.tidy, and_iff_right hw₃.tidy] at ht
    have htext : Text.unifyBreaks
        ('"' :: (k ++ (w ++ ':' :: (w' ++ (p ++ (w'' ++ ',' :: (w₃ ++ ps))))))) =
        '"' :: (Text.unifyBreaks k ++ (Text.unifyBreaks w ++ ':' :: (Text.unifyBreaks w' ++
          (Text.unifyBreaks p ++ (Text.unifyBreaks w'' ++ ',' :: (Text.unifyBreaks w₃ ++
            Text.unifyBreaks ps)))))) := by
      rw [Text.unifyBreaks_cons_plain (by decide), hk.unify_append,
        Text.unifyBreaks_append_cons (by decide), h.unify_behind,
        Text.unifyBreaks_append_cons (by decide), hs.unify_behind_nil]
    simp only [htext, List.length_append, List.length_cons] at hn
    obtain ⟨n, rfl⟩ : ∃ n', n = n' + 1 := ⟨n - 1, by omega⟩
    have hend : EndsNumber
        (Text.unifyBreaks w'' ++ ',' :: (Text.unifyBreaks w₃ ++ (Text.unifyBreaks ps ++ q))) :=
      endsNumber_append_cons hw''.unify (by decide) _
    show scanMembers T (n + 1) _ = none
    simp only [htext, List.append_assoc, List.cons_append]
    by_cases hkey : Tidy k
    · rw [hk.unify hkey] at hn ⊢
      have hname : ∀ q, scanString n (k ++ q) = some (t, q) := hk.scans (by omega)
      by_cases hp : Tidy p
      · have hvalue : scanValue T n _ = some (v, _) := (h.unify hp).scans (by omega) hend
        have hrest : scanMembers T n (Text.unifyBreaks ps ++ q) = none :=
          ihs (fun hps => ht ⟨hkey, hp, hps⟩) (by omega) trivial
        rw [← h.skipWs_unify hw'.unify] at hvalue
        rw [scanMembers_next (hname _) (skipWs_append_cons hw.unify (by decide) _) hvalue
          (skipWs_append_cons hw''.unify (by decide) _), hs.skipWs_unify hw₃.unify, hrest]
        rfl
      · have hvalue : scanValue T n _ = none := ih hp (by omega) hend
        rw [← h.skipWs_unify hw'.unify] at hvalue
        exact scanMembers_none_value (hname _) (skipWs_append_cons hw.unify (by decide) _) hvalue
    · exact scanMembers_none_name (hk.fails hkey n _)

/-- **Which unified texts are accepted**: those of texts without separators, as the same value. -/
theorem scan_unifyBreaks {p : List Char} {v : PyVal α} (h : Derives T p (.value v)) :
    scan T (String.ofList (Text.unifyBreaks p)) =
      if Tidy p then .ok v else .error .valueError := by
  split_ifs with ht
  · refine scan_eq_ok_iff.mpr ⟨[], _, [], ?_, blank_nil, blank_nil, h.unify ht⟩
    rw [String.toList_ofList, List.append_nil, List.nil_append]
  · obtain ⟨c, cs, -, hp, hc, -⟩ := h.unify_head
    have hskip : skipWs (Text.unifyBreaks p) = Text.unifyBreaks p := by
      rw [hp, skipWs_of_head hc]
    have hnone : scanValue T (2 * (Text.unifyBreaks p).length + 2) (Text.unifyBreaks p ++ []) =
        none := h.fails ht (by omega) endsNumber_nil
    rw [List.append_nil] at hnone
    unfold scan
    rw [String.toList_ofList, hskip, hnone]

end Unified

end Json

end MiniatureWarehouse
