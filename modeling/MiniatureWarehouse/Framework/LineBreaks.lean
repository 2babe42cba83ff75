import MiniatureWarehouse.Framework.Text
import Mathlib.Data.List.TakeWhile

/-!
# Texts taken apart into lines and put together again

A text that is split into lines and joined with newlines comes back with every line break written as
a newline (`flatMap_splitlines`): whatever a line was broken at is lost.  `unifyBreaks` is that text.

Where a text is split, its parts can be split alone, if the first of them ends with a newline
(`splitlines_append`), and what has no line break stays on one line (`splitlines_append_line`).
-/

namespace MiniatureWarehouse

namespace Text

/-! ## White space around a text -/

lemma mem_dropWhile {p : Char → Bool} {s : List Char} {c : Char} (hc : c ∈ s) (h : p c = false) :
    c ∈ s.dropWhile p := by
  rw [← List.takeWhile_append_dropWhile (p := p) (l := s), List.mem_append] at hc
  rcases hc with hc | hc
  · rw [List.mem_takeWhile_imp hc] at h
    cases h
  · exact hc

lemma dropWhile_of_head {p : Char → Bool} {s : List Char} (h : ∀ c ∈ s.head?, p c = false) :
    s.dropWhile p = s := by
  cases s with
  | nil => rfl
  | cons c cs => exact List.dropWhile_cons_of_neg (by simp [h c rfl])

/-- What is no white space is not stripped. -/
lemma mem_strip {s : List Char} {c : Char} (hc : c ∈ s) (h : isSpace c = false) : c ∈ strip s := by
  unfold strip
  rw [List.mem_reverse]
  exact mem_dropWhile (List.mem_reverse.mpr (mem_dropWhile hc h)) h

/-- White space around a text is stripped, and nothing else. -/
lemma strip_around {w p w' : List Char} (hw : ∀ c ∈ w, isSpace c = true)
    (hw' : ∀ c ∈ w', isSpace c = true) (hne : p ≠ [])
    (hhead : ∀ c ∈ p.head?, isSpace c = false) (hlast : ∀ c ∈ p.getLast?, isSpace c = false) :
    strip (w ++ (p ++ w')) = p := by
  have hfront : (w ++ (p ++ w')).dropWhile isSpace = p ++ w' := by
    rw [List.dropWhile_append_of_pos hw]
    refine dropWhile_of_head fun c hc => ?_
    rw [List.head?_append_of_ne_nil _ hne] at hc
    exact hhead c hc
  have hback : (p ++ w').reverse.dropWhile isSpace = p.reverse := by
    rw [List.reverse_append, List.dropWhile_append_of_pos fun c hc => hw' c (List.mem_reverse.mp hc)]
    refine dropWhile_of_head fun c hc => ?_
    rw [List.head?_reverse] at hc
    exact hlast c hc
  unfold strip
  rw [hfront, hback, List.reverse_reverse]

/-- White space behind a text makes no difference. -/
lemma strip_append_space (s : List Char) {w : List Char} (hw : ∀ c ∈ w, isSpace c = true) :
    strip (s ++ w) = strip s := by
  have hback : ∀ t : List Char, (t ++ w).reverse.dropWhile isSpace = t.reverse.dropWhile isSpace :=
    fun t => by
      rw [List.reverse_append, List.dropWhile_append_of_pos fun c hc => hw c (List.mem_reverse.mp hc)]
  unfold strip
  rw [List.dropWhile_append]
  split_ifs with hempty
  · rw [List.isEmpty_iff.mp hempty, List.dropWhile_eq_nil_iff.mpr hw]
  · rw [hback]

/-- A text that ends with something keeps it. -/
lemma getLast?_strip {s : List Char} {c : Char} (hs : s.getLast? = some c)
    (h : isSpace c = false) : (strip s).getLast? = some c := by
  have hmem : c ∈ s.dropWhile isSpace := mem_dropWhile (List.mem_of_getLast? hs) h
  have hsuffix : (s.dropWhile isSpace).getLast? = some c := by
    rw [← List.takeWhile_append_dropWhile (p := isSpace) (l := s),
      List.getLast?_append_of_ne_nil _ (List.ne_nil_of_mem hmem)] at hs
    exact hs
  have hback : (s.dropWhile isSpace).reverse.dropWhile isSpace = (s.dropWhile isSpace).reverse := by
    refine dropWhile_of_head fun d hd => ?_
    rw [List.head?_reverse, hsuffix] at hd
    rw [← Option.some.inj hd]
    exact h
  unfold strip
  rw [hback, List.reverse_reverse]
  exact hsuffix

/-! ## One spelling of a line break -/

/-- A text with every line break written as a newline. -/
def unifyBreaks : List Char → List Char
  | [] => []
  | '\r' :: '\n' :: cs => '\n' :: unifyBreaks cs
  | c :: cs => (if isLineBreak c then '\n' else c) :: unifyBreaks cs

-- Each proof below unfolds it: its equations are made here, once.
attribute [local simp] unifyBreaks

/-- A carriage return takes a following newline with it; every other character stands alone. -/
lemma unifyBreaks_cons {c : Char} {cs : List Char} (h : c = '\r' → cs.head? ≠ some '\n') :
    unifyBreaks (c :: cs) = (if isLineBreak c then '\n' else c) :: unifyBreaks cs := by
  rw [unifyBreaks]
  rintro ds rfl rfl
  exact h rfl rfl

/-- What is no carriage return with a newline behind it stands alone. -/
lemma head_ne_newline {c : Char} {cs : List Char} (h : ∀ ds, c = '\r' → cs = '\n' :: ds → False)
    (hc : c = '\r') : cs.head? ≠ some '\n' := by
  intro hhead
  cases cs with
  | nil => cases hhead
  | cons d ds => exact h ds hc (by rw [Option.some.inj hhead])

lemma unifyBreaks_append {a b : List Char} (h : a.getLast? = some '\r' → b.head? ≠ some '\n') :
    unifyBreaks (a ++ b) = unifyBreaks a ++ unifyBreaks b := by
  induction a using unifyBreaks.induct with
  | case1 => rfl
  | case2 cs ih =>
    have hcs : unifyBreaks (cs ++ b) = unifyBreaks cs ++ unifyBreaks b := by
      apply ih
      intro hlast
      apply h
      rw [List.getLast?_cons_cons, List.getLast?_cons, hlast]
      rfl
    rw [List.cons_append, List.cons_append, unifyBreaks, hcs, unifyBreaks, List.cons_append]
  | case3 c cs hne ih =>
    have hcs : unifyBreaks (cs ++ b) = unifyBreaks cs ++ unifyBreaks b := by
      apply ih
      intro hlast
      apply h
      rw [List.getLast?_cons, hlast]
      rfl
    have halone : c = '\r' → (cs ++ b).head? ≠ some '\n' := by
      intro hc
      cases cs with
      | nil => exact h (by rw [hc]; rfl)
      | cons d ds =>
        have hhead : (d :: ds).head? ≠ some '\n' := head_ne_newline hne hc
        exact hhead
    rw [List.cons_append, unifyBreaks_cons halone, hcs, unifyBreaks_cons (head_ne_newline hne),
      List.cons_append]

lemma unifyBreaks_cons_plain {c : Char} (hc : isLineBreak c = false) (cs : List Char) :
    unifyBreaks (c :: cs) = c :: unifyBreaks cs := by
  have halone : c = '\r' → cs.head? ≠ some '\n' := by
    rintro rfl
    cases hc
  rw [unifyBreaks_cons halone, hc]
  rfl

/-- A text is unified apart from what comes before an ordinary character. -/
lemma unifyBreaks_append_cons {c : Char} (hc : isLineBreak c = false) (a cs : List Char) :
    unifyBreaks (a ++ c :: cs) = unifyBreaks a ++ c :: unifyBreaks cs := by
  have hhead : (c :: cs).head? ≠ some '\n' := by
    rintro h
    rw [Option.some.inj h] at hc
    cases hc
  rw [unifyBreaks_append fun _ => hhead, unifyBreaks_cons_plain hc]

lemma unifyBreaks_of_no_break {a : List Char} (h : ∀ c ∈ a, isLineBreak c = false) :
    unifyBreaks a = a := by
  induction a with
  | nil => rfl
  | cons c cs ih =>
    obtain ⟨hc, hcs⟩ := List.forall_mem_cons.mp h
    rw [unifyBreaks_cons_plain hc, ih hcs]

/-- What is left of a text are newlines and what was no line break. -/
lemma mem_unifyBreaks {a : List Char} {c : Char} (h : c ∈ unifyBreaks a) :
    c = '\n' ∨ (c ∈ a ∧ isLineBreak c = false) := by
  induction a using unifyBreaks.induct with
  | case1 => cases h
  | case2 cs ih =>
    rw [unifyBreaks, List.mem_cons] at h
    rcases h with h | h
    · exact .inl h
    · refine (ih h).imp_right fun hmem => ⟨?_, hmem.2⟩
      exact List.mem_cons_of_mem _ (List.mem_cons_of_mem _ hmem.1)
  | case3 d cs hne ih =>
    rw [unifyBreaks, List.mem_cons] at h
    · rcases h with h | h
      · cases hd : isLineBreak d with
        | true =>
          rw [hd] at h
          exact .inl h
        | false =>
          rw [hd] at h
          obtain rfl : c = d := h
          exact .inr ⟨List.mem_cons_self, hd⟩
      · exact (ih h).imp_right fun hmem => ⟨List.mem_cons_of_mem _ hmem.1, hmem.2⟩
    · exact hne

/-! ## Lines -/

attribute [local simp] splitlinesFrom

lemma splitlinesFrom_cons {c : Char} {cs : List Char} (line : List Char)
    (h : c = '\r' → cs.head? ≠ some '\n') :
    splitlinesFrom (c :: cs) line =
      if isLineBreak c then line.reverse :: splitlinesFrom cs []
      else splitlinesFrom cs (c :: line) := by
  rw [splitlinesFrom]
  rintro ds rfl rfl
  exact h rfl rfl

/-- What has no line break goes on with the line. -/
lemma splitlinesFrom_of_no_break {a : List Char} (h : ∀ c ∈ a, isLineBreak c = false)
    (b line : List Char) : splitlinesFrom (a ++ b) line = splitlinesFrom b (a.reverse ++ line) := by
  induction a generalizing line with
  | nil => rfl
  | cons c cs ih =>
    obtain ⟨hc, hcs⟩ := List.forall_mem_cons.mp h
    have halone : c = '\r' → (cs ++ b).head? ≠ some '\n' := by
      rintro rfl
      cases hc
    rw [List.cons_append, splitlinesFrom_cons line halone, hc, List.reverse_cons, List.append_assoc,
      List.singleton_append]
    exact ih hcs (c :: line)

lemma splitlinesFrom_nil {line : List Char} (h : line ≠ []) :
    splitlinesFrom [] line = [line.reverse] := by
  cases line with
  | nil => exact absurd rfl h
  | cons c cs => rfl

/-- A text with a whole last line is split apart from what follows it. -/
lemma splitlinesFrom_append {t : List Char} (ht : t.getLast? = some '\n') (b line : List Char) :
    splitlinesFrom (t ++ b) line = splitlinesFrom t line ++ splitlinesFrom b [] := by
  induction t, line using splitlinesFrom.induct with
  | case1 => cases ht
  | case2 line hline => cases ht
  | case3 cs line ih =>
    rw [List.cons_append, List.cons_append, splitlinesFrom, splitlinesFrom, List.cons_append]
    cases cs with
    | nil => rfl
    | cons d ds =>
      rw [ih (by rwa [List.getLast?_cons_cons, List.getLast?_cons_cons] at ht)]
  | case4 c cs line hne hbreak ih =>
    cases cs with
    | nil =>
      obtain rfl : c = '\n' := Option.some.inj ht
      rfl
    | cons d ds =>
      have halone : c = '\r' → (d :: ds).head? ≠ some '\n' := head_ne_newline hne
      have happend := @splitlinesFrom_cons c (d :: ds ++ b) line halone
      rw [List.cons_append, happend, if_pos hbreak, splitlinesFrom_cons line halone, if_pos hbreak,
        ih (by rwa [List.getLast?_cons_cons] at ht), List.cons_append]
  | case5 c cs line hne hbreak ih =>
    cases cs with
    | nil =>
      obtain rfl : c = '\n' := Option.some.inj ht
      exact absurd rfl hbreak
    | cons d ds =>
      have halone : c = '\r' → (d :: ds).head? ≠ some '\n' := head_ne_newline hne
      have happend := @splitlinesFrom_cons c (d :: ds ++ b) line halone
      rw [List.cons_append, happend, if_neg hbreak, splitlinesFrom_cons line halone, if_neg hbreak,
        ih (by rwa [List.getLast?_cons_cons] at ht)]

/-- **Lines joined again.**  The lines of a text, each with a newline behind it, are the text with
its line breaks unified. -/
lemma flatMap_splitlinesFrom {t : List Char} (ht : t.getLast? = some '\n') (line : List Char) :
    (splitlinesFrom t line).flatMap (fun l => l ++ ['\n']) = line.reverse ++ unifyBreaks t := by
  induction t, line using splitlinesFrom.induct with
  | case1 => cases ht
  | case2 line hline => cases ht
  | case3 cs line ih =>
    rw [splitlinesFrom, unifyBreaks, List.flatMap_cons, List.append_assoc, List.singleton_append]
    cases cs with
    | nil => rfl
    | cons d ds =>
      rw [ih (by rwa [List.getLast?_cons_cons, List.getLast?_cons_cons] at ht)]
      rfl
  | case4 c cs line hne hbreak ih =>
    rw [splitlinesFrom_cons line (head_ne_newline hne), if_pos hbreak,
      unifyBreaks_cons (head_ne_newline hne), if_pos hbreak, List.flatMap_cons, List.append_assoc,
      List.singleton_append]
    cases cs with
    | nil => rfl
    | cons d ds =>
      rw [ih (by rwa [List.getLast?_cons_cons] at ht)]
      rfl
  | case5 c cs line hne hbreak ih =>
    cases cs with
    | nil =>
      obtain rfl : c = '\n' := Option.some.inj ht
      exact absurd rfl hbreak
    | cons d ds =>
      rw [splitlinesFrom_cons line (head_ne_newline hne), if_neg hbreak,
        unifyBreaks_cons (head_ne_newline hne), if_neg hbreak,
        ih (by rwa [List.getLast?_cons_cons] at ht), List.reverse_cons, List.append_assoc,
        List.singleton_append]

/-- The last line of a text that ends with something other than a line break. -/
lemma splitlinesFrom_last {b : List Char} (hb : ∀ c ∈ b, isLineBreak c = false) (hne : b ≠ [])
    (a line : List Char) :
    ∃ init x, splitlinesFrom (a ++ b) line = init ++ [x ++ b] := by
  induction a, line using splitlinesFrom.induct with
  | case1 =>
    refine ⟨[], [], ?_⟩
    have hline := splitlinesFrom_of_no_break hb [] []
    rw [List.append_nil, List.append_nil,
      splitlinesFrom_nil fun h => hne (List.reverse_eq_nil_iff.mp h), List.reverse_reverse] at hline
    exact hline
  | case2 line hline =>
    refine ⟨[], line.reverse, ?_⟩
    have hjoined := splitlinesFrom_of_no_break hb [] line
    rw [List.append_nil, splitlinesFrom_nil fun h => hline (List.append_eq_nil_iff.mp h).2,
      List.reverse_append, List.reverse_reverse] at hjoined
    exact hjoined
  | case3 cs line ih =>
    obtain ⟨init, x, h⟩ := ih
    refine ⟨line.reverse :: init, x, ?_⟩
    rw [List.cons_append, List.cons_append, splitlinesFrom, h, List.cons_append]
  | case4 c cs line hcrlf hbreak ih =>
    obtain ⟨init, x, h⟩ := ih
    refine ⟨line.reverse :: init, x, ?_⟩
    rw [List.cons_append, splitlinesFrom_cons line (alone hb hne hcrlf), if_pos hbreak, h,
      List.cons_append]
  | case5 c cs line hcrlf hbreak ih =>
    obtain ⟨init, x, h⟩ := ih
    refine ⟨init, x, ?_⟩
    rw [List.cons_append, splitlinesFrom_cons line (alone hb hne hcrlf), if_neg hbreak, h]
where
  alone {b : List Char} (hb : ∀ c ∈ b, isLineBreak c = false) (hne : b ≠ []) {c : Char}
      {cs : List Char} (h : ∀ ds, c = '\r' → cs = '\n' :: ds → False) :
      c = '\r' → (cs ++ b).head? ≠ some '\n' := by
    intro hc hhead
    cases cs with
    | nil =>
      have hmem : '\n' ∈ b := List.mem_of_mem_head? hhead
      exact absurd (hb '\n' hmem) (by decide)
    | cons d ds => exact head_ne_newline h hc hhead

/-- What was read of the first line is at its front. -/
lemma splitlinesFrom_first {line : List Char} (hne : line ≠ []) (s : List Char) :
    ∃ x rest, splitlinesFrom s line = (line.reverse ++ x) :: rest := by
  induction s, line using splitlinesFrom.induct with
  | case1 => exact absurd rfl hne
  | case2 line hline => exact ⟨[], [], by rw [splitlinesFrom_nil hline, List.append_nil]⟩
  | case3 cs line ih => exact ⟨[], _, by rw [splitlinesFrom, List.append_nil]⟩
  | case4 c cs line hcrlf hbreak ih =>
    refine ⟨[], splitlinesFrom cs [], ?_⟩
    rw [splitlinesFrom, if_pos hbreak, List.append_nil]
    exact hcrlf
  | case5 c cs line hcrlf hbreak ih =>
    obtain ⟨x, rest, h⟩ := ih (List.cons_ne_nil c line)
    refine ⟨c :: x, rest, ?_⟩
    rw [splitlinesFrom, if_neg hbreak, h, List.reverse_cons, List.append_assoc,
      List.singleton_append]
    exact hcrlf

/-! ## Lines joined -/

lemma joinLines_cons_of_ne_nil (l : List Char) {lines : List (List Char)} (h : lines ≠ []) :
    joinLines (l :: lines) = l ++ '\n' :: joinLines lines := by
  cases lines with
  | nil => exact absurd rfl h
  | cons l' lines => rfl

/-- Joined lines with a newline behind them. -/
lemma joinLines_append_newline {lines : List (List Char)} (h : lines ≠ []) :
    joinLines lines ++ ['\n'] = lines.flatMap fun l => l ++ ['\n'] := by
  induction lines with
  | nil => exact absurd rfl h
  | cons l lines ih =>
    cases lines with
    | nil => simp [joinLines]
    | cons l' lines =>
      rw [joinLines_cons_of_ne_nil l (List.cons_ne_nil _ _), List.flatMap_cons, List.append_assoc,
        List.append_assoc, List.cons_append, ih (List.cons_ne_nil _ _), List.singleton_append]

/-- Joined lines end with the last of them. -/
lemma joinLines_last (init : List (List Char)) (l : List Char) :
    ∃ x, joinLines (init ++ [l]) = x ++ l := by
  induction init with
  | nil => exact ⟨[], by simp [joinLines]⟩
  | cons l' init ih =>
    obtain ⟨x, h⟩ := ih
    refine ⟨l' ++ '\n' :: x, ?_⟩
    rw [List.cons_append, joinLines_cons_of_ne_nil l' (by simp), h, List.append_assoc,
      List.cons_append]

end Text

end MiniatureWarehouse
