import MiniatureWarehouse.Framework.JsonGrammar
import MiniatureWarehouse.Planning.Handoff

/-!
# What the transport wrapper does to a plan

A plan reaches the handoff as the content of an envelope, bare or in a code fence.  The fence is
taken off by splitting the content into lines, dropping the first and the last and joining the rest
again.

Splitting knows more line breaks than the document format does.  A string of a document may hold the
three separators U+0085, U+2028 and U+2029 as they are, and in a fence they come back as newlines,
which no string may hold.  And a fence whose markers share a line with the document is not taken off
at all: its first line goes, with the document's, and its last line stays.

So the wrapper loses some plans, but it never alters one: what does not come through as it was is
rejected (`extractPlanContent_iff`).
-/

namespace MiniatureWarehouse

namespace Handoff

/-! ## Wrappers -/

/-- The text behind an opening fence, such as the name of a language. -/
structure FenceTag where
  text : List Char
  oneLine : ∀ c ∈ text, Text.isLineBreak c = false

/-- How a document is wrapped: not at all, in a fence on lines of its own, or in a fence on the
document's own line. -/
inductive Wrapper
  | bare
  | fence (tag : FenceTag)
  | inlineFence (tag : FenceTag)

/-- The marker of a code fence. -/
def fenceMark : List Char := "```".toList

/-- The wrapped document. -/
def Wrapper.wrap : Wrapper → List Char → List Char
  | bare, d => d
  | fence tag, d => (fenceMark ++ tag.text ++ ['\n']) ++ ((d ++ ['\n']) ++ fenceMark)
  | inlineFence tag, d => fenceMark ++ tag.text ++ d ++ fenceMark

/-- A document that is wrapped on its own line has only one. -/
def Wrapper.Fits : Wrapper → List Char → Prop
  | inlineFence _, d => ∀ c ∈ d, c ≠ '\n' ∧ c ≠ '\r'
  | _, _ => True

/-- The wrappers that a document comes out of as it was. -/
def Wrapper.Keeps : Wrapper → List Char → Prop
  | bare, _ => True
  | fence _, d => Json.Tidy d
  | inlineFence _, _ => False

instance (w : Wrapper) (d : List Char) : Decidable (w.Keeps d) :=
  match w with
  | .bare => isTrue trivial
  | .fence _ => inferInstanceAs (Decidable (Json.Tidy d))
  | .inlineFence _ => isFalse id

section Envelope

variable {α : Type*}

/-- An envelope with a text as its content: the first choice of a chat completion, or the parts of
the first candidate. -/
inductive Carries (s : String) : List (String × PyVal α) → Prop
  | choice {payload : List (String × PyVal α)} {first message : PyVal α} {rest : List (PyVal α)}
      (hchoices : Dict.find payload "choices" = some (.list (first :: rest)))
      (hmessage : first.get? "message" = some message)
      (hcontent : message.get? "content" = some (.str s)) : Carries s payload
  | candidate {payload : List (String × PyVal α)} {first content : PyVal α}
      {rest parts : List (PyVal α)} {texts : List String}
      (hchoices : Dict.find payload "choices" = none)
      (hcandidates : Dict.find payload "candidates" = some (.list (first :: rest)))
      (hcontent : first.get? "content" = some content)
      (hparts : content.get? "parts" = some (.list parts))
      (htexts : (parts.filterMap fun p => p.get? "text") = texts.map .str) (hne : texts ≠ [])
      (hs : s = texts.foldr (fun text joined => text ++ joined) "") : Carries s payload

lemma joinTexts_map_str (texts : List String) :
    joinTexts (texts.map (.str : String → PyVal α)) =
      .ok (texts.foldr (fun text joined => text ++ joined) "") := by
  induction texts with
  | nil => rfl
  | cons text texts ih =>
    rw [List.map_cons, joinTexts, ih]
    rfl

/-- The content of an envelope is what is read as a plan. -/
lemma Carries.extract {s : String} {payload : List (String × PyVal α)} (h : Carries s payload)
    (scan : JsonScan α) :
    extractPlanContent scan payload = coercePlanDict scan (.str s) := by
  unfold extractPlanContent
  cases h with
  | choice hchoices hmessage hcontent =>
    have hfirst : firstChoiceContent payload = .ok (.str s) := by
      simp [firstChoiceContent, envelopePath, hchoices, first?, hmessage, hcontent]
    rw [hchoices, hfirst]
    rfl
  | @candidate _ _ _ parts texts hchoices hcandidates hcontent hparts htexts hne hs =>
    have hpath : envelopePath payload "candidates" ["content", "parts"] = .ok (.list parts) := by
      simp [envelopePath, hcandidates, first?, hcontent, hparts]
    have hfirst : firstCandidateText payload = .ok (.str s) := by
      have hsome : ((texts.map (.str : String → PyVal α)).isEmpty) = false := by
        rw [List.isEmpty_map]
        exact Bool.eq_false_iff.mpr fun h => hne (List.isEmpty_iff.mp h)
      have hparts' : textParts (.list parts) = .ok (texts.map (.str : String → PyVal α)) := by
        rw [textParts, htexts]
      refine exceptBind_eq_ok.mpr ⟨_, hpath, exceptBind_eq_ok.mpr ⟨_, hparts', ?_⟩⟩
      rw [hsome, if_neg Bool.false_ne_true, joinTexts_map_str, ← hs]
      rfl
    rw [hchoices, hcandidates, hfirst]
    rfl

end Envelope

/-! ## Documents -/

section Document

variable {α : Type*} {T : Json.FloatText α}

/-- The parts of an accepted document: white space around the text of an object. -/
structure Document (T : Json.FloatText α) (d : List Char) (es : List (String × PyVal α)) where
  front : List Char
  text : List Char
  back : List Char
  raw : List (String × PyVal α)
  parts : d = front ++ (text ++ back)
  blankFront : Json.Blank front
  blankBack : Json.Blank back
  derives : Json.Derives T text (.value (.dict raw))
  collapses : (PyVal.dict raw).collapse = .dict es

lemma exists_document {d : String} {es : List (String × PyVal α)}
    (h : (Json.scan T).loads d = .ok (.dict es)) : Nonempty (Document T d.toList es) := by
  obtain ⟨v, hscan, hv⟩ := exceptMap_eq_ok.mp h
  cases v with
  | dict raw =>
    obtain ⟨w, p, w', hd, hw, hw', hp⟩ := Json.scan_eq_ok_iff.mp hscan
    exact ⟨⟨w, p, w', raw, hd, hw, hw', hp, hv⟩⟩
  | _ => cases hv

lemma isSpace_of_isWs {c : Char} (h : Json.isWs c = true) : Text.isSpace c = true := by
  unfold Json.isWs at h
  simp only [Bool.or_eq_true, decide_eq_true_eq] at h
  rcases h with ((rfl | rfl) | rfl) | rfl <;> rfl

/-- What is left of a document without the white space is read as it. -/
lemma Document.loads_text {d : List Char} {es : List (String × PyVal α)} (D : Document T d es) :
    (Json.scan T).loads (String.ofList D.text) = .ok (.dict es) := by
  have hscan : Json.scan T (String.ofList D.text) = .ok (.dict D.raw) := by
    refine Json.scan_eq_ok_iff.mpr ⟨[], D.text, [], ?_, Json.blank_nil, Json.blank_nil, D.derives⟩
    rw [String.toList_ofList, List.append_nil, List.nil_append]
  unfold JsonScan.loads
  rw [hscan, ← D.collapses]
  rfl

lemma Document.tidy_iff {d : List Char} {es : List (String × PyVal α)} (D : Document T d es) :
    Json.Tidy d ↔ Json.Tidy D.text := by
  have hparts : Json.Tidy d ↔ Json.Tidy (D.front ++ (D.text ++ D.back)) := by rw [← D.parts]
  rw [hparts, Json.tidy_append, Json.tidy_append, and_iff_right D.blankFront.tidy,
    and_iff_left D.blankBack.tidy]

/-- Around the text of an object, only the white space is stripped. -/
lemma strip_braces {w w' m : List Char} (hw : Json.Blank w) (hw' : Json.Blank w') :
    Text.strip (w ++ ('{' :: (m ++ ['}']) ++ w')) = '{' :: (m ++ ['}']) := by
  refine Text.strip_around (fun c hc => isSpace_of_isWs (hw c hc))
    (fun c hc => isSpace_of_isWs (hw' c hc)) (List.cons_ne_nil _ _) ?_ ?_
  · intro c hc
    rw [← Option.some.inj hc]
    rfl
  · intro c hc
    rw [← List.cons_append, List.getLast?_concat] at hc
    rw [← Option.some.inj hc]
    rfl

/-! ## What each wrapper leaves -/

lemma mem_fenceMark {c : Char} (hc : c ∈ fenceMark) : c = '`' := by
  simpa [fenceMark] using hc

lemma fenceMark_plain : ∀ c ∈ fenceMark, Text.isLineBreak c = false := by
  intro c hc
  rw [mem_fenceMark hc]
  rfl

lemma startsFence_append (s : List Char) : startsFence (fenceMark ++ s) = true :=
  List.isPrefixOf_iff_prefix.mpr (List.prefix_append fenceMark s)

/-- A text between two fence marks has nothing to strip. -/
lemma strip_fenced (s : List Char) :
    Text.strip (fenceMark ++ (s ++ fenceMark)) = fenceMark ++ (s ++ fenceMark) := by
  have hblank : ∀ c ∈ ([] : List Char), Text.isSpace c = true :=
    fun _ h => absurd h List.not_mem_nil
  have hpadded : fenceMark ++ (s ++ fenceMark) = [] ++ ((fenceMark ++ (s ++ fenceMark)) ++ []) := by
    rw [List.append_nil, List.nil_append]
  conv_lhs => rw [hpadded]
  refine Text.strip_around hblank hblank (by simp [fenceMark]) ?_ ?_
  · intro c hc
    rw [← Option.some.inj hc]
    rfl
  · intro c hc
    rw [← List.append_assoc, List.getLast?_append_of_ne_nil _ (by decide)] at hc
    rw [mem_fenceMark (List.mem_of_getLast? hc)]
    rfl

/-- A bare document loses the white space around it. -/
lemma Document.stripCodeFence_bare {d : String} {es : List (String × PyVal α)}
    (D : Document T d.toList es) : stripCodeFence d = String.ofList D.text := by
  obtain ⟨m, hm⟩ := D.derives.dict_text
  have hstrip : Text.strip d.toList = D.text := by
    have hparts : Text.strip d.toList = Text.strip (D.front ++ (D.text ++ D.back)) := by
      rw [← D.parts]
    rw [hparts, hm]
    exact strip_braces D.blankFront D.blankBack
  have hopen : startsFence D.text = false := by
    rw [hm]
    rfl
  unfold stripCodeFence
  dsimp only
  rw [hstrip, hopen]
  rfl

/-- A document in a fence is broken at newlines only. -/
lemma Document.stripCodeFence_fence {d : List Char} {es : List (String × PyVal α)}
    (D : Document T d es) (tag : FenceTag) :
    stripCodeFence (String.ofList ((Wrapper.fence tag).wrap d)) =
      String.ofList (Text.unifyBreaks D.text) := by
  obtain ⟨m, hm⟩ := D.derives.dict_text
  have hopener : ∀ c ∈ fenceMark ++ tag.text, Text.isLineBreak c = false :=
    List.forall_mem_append.mpr ⟨fenceMark_plain, tag.oneLine⟩
  have hlines : Text.splitlines ((Wrapper.fence tag).wrap d) =
      (fenceMark ++ tag.text) :: (Text.splitlines (d ++ ['\n']) ++ [fenceMark]) := by
    have hfirst : Text.splitlinesFrom (fenceMark ++ tag.text ++ ['\n']) [] =
        [fenceMark ++ tag.text] := by
      rw [Text.splitlinesFrom_of_no_break hopener, List.append_nil]
      show [((fenceMark ++ tag.text).reverse).reverse] = _
      rw [List.reverse_reverse]
    unfold Text.splitlines Wrapper.wrap
    rw [Text.splitlinesFrom_append (List.getLast?_concat ..), hfirst,
      Text.splitlinesFrom_append (List.getLast?_concat ..)]
    rfl
  have hbody : Text.strip (Text.joinLines (Text.splitlines (d ++ ['\n']))) =
      Text.unifyBreaks D.text := by
    have hnewline : ∀ c ∈ ['\n'], Text.isSpace c = true := by
      intro c hc
      rw [List.mem_singleton.mp hc]
      rfl
    have hback : Json.Blank (Text.unifyBreaks (D.back ++ ['\n'])) := by
      refine Json.Blank.unify (List.forall_mem_append.mpr ⟨D.blankBack, ?_⟩)
      intro c hc
      rw [List.mem_singleton.mp hc]
      rfl
    have hparts : Text.unifyBreaks (d ++ ['\n']) = Text.unifyBreaks D.front ++
        (Text.unifyBreaks D.text ++ Text.unifyBreaks (D.back ++ ['\n'])) := by
      rw [← D.derives.unify_behind, ← List.append_assoc D.text, ← List.append_assoc D.front,
        ← D.parts]
    have hne : Text.splitlines (d ++ ['\n']) ≠ [] := by
      intro hnil
      have hjoined := Text.flatMap_splitlinesFrom (List.getLast?_concat (l := d) (a := '\n')) []
      unfold Text.splitlines at hnil
      rw [hnil, hparts, hm, Text.unifyBreaks_cons_plain (by decide)] at hjoined
      simp at hjoined
    have hjoined : Text.joinLines (Text.splitlines (d ++ ['\n'])) ++ ['\n'] =
        Text.unifyBreaks (d ++ ['\n']) := by
      rw [Text.joinLines_append_newline hne]
      exact Text.flatMap_splitlinesFrom (List.getLast?_concat ..) []
    have hbraces : Text.unifyBreaks D.text = '{' :: (Text.unifyBreaks m ++ ['}']) := by
      rw [hm, Text.unifyBreaks_cons_plain (by decide), Text.unifyBreaks_append_cons (by decide)]
      rfl
    rw [← Text.strip_append_space _ hnewline, hjoined, hparts, hbraces]
    exact strip_braces D.blankFront.unify hback
  have hfenced : (Wrapper.fence tag).wrap d =
      fenceMark ++ ((tag.text ++ ['\n'] ++ (d ++ ['\n'])) ++ fenceMark) := by
    simp [Wrapper.wrap]
  have hstrip : Text.strip ((Wrapper.fence tag).wrap d) = (Wrapper.fence tag).wrap d := by
    rw [hfenced, strip_fenced]
  have hstarts : startsFence ((Wrapper.fence tag).wrap d) = true := by
    rw [hfenced, startsFence_append]
  unfold stripCodeFence
  dsimp only
  rw [String.toList_ofList, hstrip, if_pos hstarts, hlines]
  dsimp only
  rw [if_pos (startsFence_append _), List.getLast?_concat]
  dsimp only
  rw [if_pos (by rfl), List.dropLast_concat, hbody]

/-- A document ends with a brace or with white space. -/
lemma Document.last_ne {d : List Char} {es : List (String × PyVal α)} (D : Document T d es) :
    ∃ c, d.getLast? = some c ∧ c ≠ '`' := by
  obtain ⟨m, hm⟩ := D.derives.dict_text
  have hparts := D.parts
  rw [hm] at hparts
  rw [hparts]
  by_cases hback : D.back = []
  · refine ⟨'}', ?_, by decide⟩
    rw [hback, List.append_nil, ← List.cons_append, ← List.append_assoc, List.getLast?_concat]
  · refine ⟨D.back.getLast hback, ?_, ?_⟩
    · rw [← List.append_assoc, List.getLast?_append_of_ne_nil _ hback,
        List.getLast?_eq_some_getLast hback]
    · intro h
      have hws := D.blankBack _ (List.getLast_mem hback)
      rw [h] at hws
      cases hws

/-- A document in a fence on its own line: the first line starts with the mark, and if there is
another one, the brace that closes the document is on the last line, with the other mark. -/
lemma Document.inlineFence_lines {d : List Char} {es : List (String × PyVal α)}
    (D : Document T d es) (tag : FenceTag) (hd : ∀ c ∈ d, c ≠ '\n' ∧ c ≠ '\r') :
    ∃ first rest, Text.splitlines ((Wrapper.inlineFence tag).wrap d) =
        (fenceMark ++ first) :: rest ∧
      (rest = [] ∨ ∃ init x, rest = init ++ [x ++ '}' :: (D.back ++ fenceMark)]) := by
  obtain ⟨m, hm⟩ := D.derives.dict_text
  have hparts := D.parts
  rw [hm] at hparts
  have hback : ∀ c ∈ D.back, Text.isLineBreak c = false := by
    intro c hc
    obtain ⟨hnewline, hreturn⟩ :=
      hd c (hparts ▸ List.mem_append_right _ (List.mem_append_right _ hc))
    have hws := D.blankBack c hc
    unfold Json.isWs at hws
    simp only [Bool.or_eq_true, decide_eq_true_eq] at hws
    rcases hws with ((rfl | rfl) | rfl) | rfl
    · rfl
    · rfl
    · exact absurd rfl hnewline
    · exact absurd rfl hreturn
  have hend : ∀ c ∈ '}' :: (D.back ++ fenceMark), Text.isLineBreak c = false :=
    List.forall_mem_cons.mpr ⟨rfl, List.forall_mem_append.mpr ⟨hback, fenceMark_plain⟩⟩
  have hwrapped : (Wrapper.inlineFence tag).wrap d =
      fenceMark ++ ((tag.text ++ (D.front ++ '{' :: m)) ++ '}' :: (D.back ++ fenceMark)) := by
    have hwrap : (Wrapper.inlineFence tag).wrap d = fenceMark ++ tag.text ++
        (D.front ++ ('{' :: (m ++ ['}']) ++ D.back)) ++ fenceMark := by
      rw [← hparts]
      rfl
    rw [hwrap]
    simp
  obtain ⟨init, x, hlast⟩ := Text.splitlinesFrom_last hend (List.cons_ne_nil _ _)
    (fenceMark ++ (tag.text ++ (D.front ++ '{' :: m))) []
  have hmark : fenceMark.reverse ≠ [] := by decide
  obtain ⟨first, rest, hfirst⟩ := Text.splitlinesFrom_first hmark
    ((tag.text ++ (D.front ++ '{' :: m)) ++ '}' :: (D.back ++ fenceMark))
  rw [List.reverse_reverse] at hfirst
  have hlines : Text.splitlines ((Wrapper.inlineFence tag).wrap d) =
      (fenceMark ++ first) :: rest := by
    unfold Text.splitlines
    rw [hwrapped, Text.splitlinesFrom_of_no_break fenceMark_plain, List.append_nil, hfirst]
  have hsame : (fenceMark ++ first) :: rest = init ++ [x ++ '}' :: (D.back ++ fenceMark)] := by
    rw [← hlines, ← hlast]
    unfold Text.splitlines
    rw [hwrapped, ← List.append_assoc fenceMark]
  refine ⟨first, rest, hlines, ?_⟩
  cases init with
  | nil => exact .inl (List.cons.inj hsame).2
  | cons l init => exact .inr ⟨init, x, (List.cons.inj hsame).2⟩

/-- In a fence on its own line, a document loses its first line, and its last one keeps the mark:
no object is left. -/
lemma Document.inlineFence_loses {d : List Char} {es : List (String × PyVal α)}
    (D : Document T d es) (tag : FenceTag) (hd : ∀ c ∈ d, c ≠ '\n' ∧ c ≠ '\r')
    (es' : List (String × PyVal α)) :
    (Json.scan T).loads (stripCodeFence (String.ofList ((Wrapper.inlineFence tag).wrap d))) ≠
      .ok (.dict es') := by
  intro hloads
  obtain ⟨D'⟩ := exists_document hloads
  have hfenced : (Wrapper.inlineFence tag).wrap d =
      fenceMark ++ ((tag.text ++ d) ++ fenceMark) := by
    simp [Wrapper.wrap]
  have hstrip : Text.strip ((Wrapper.inlineFence tag).wrap d) =
      (Wrapper.inlineFence tag).wrap d := by
    rw [hfenced, strip_fenced]
  have hstarts : startsFence ((Wrapper.inlineFence tag).wrap d) = true := by
    rw [hfenced, startsFence_append]
  obtain ⟨first, rest, hlines, hrest⟩ := D.inlineFence_lines tag hd
  obtain ⟨c, hc, hne⟩ := D'.last_ne
  unfold stripCodeFence at hc
  dsimp only at hc
  rw [String.toList_ofList, hstrip, if_pos hstarts, hlines] at hc
  dsimp only at hc
  rw [if_pos (startsFence_append _)] at hc
  rcases hrest with rfl | ⟨init, x, rfl⟩
  · cases hc
  · have hkept : Text.strip (x ++ '}' :: (D.back ++ fenceMark)) ≠ "```".toList := by
      intro h
      have hmem : '}' ∈ Text.strip (x ++ '}' :: (D.back ++ fenceMark)) :=
        Text.mem_strip (List.mem_append_right _ List.mem_cons_self) rfl
      rw [h] at hmem
      cases mem_fenceMark hmem
    have hjoined : (Text.joinLines (init ++ [x ++ '}' :: (D.back ++ fenceMark)])).getLast? =
        some '`' := by
      obtain ⟨z, hz⟩ := Text.joinLines_last init (x ++ '}' :: (D.back ++ fenceMark))
      rw [hz, List.getLast?_append_of_ne_nil _ (by simp),
        List.getLast?_append_of_ne_nil _ (by simp), ← List.cons_append,
        List.getLast?_append_of_ne_nil _ (by decide)]
      rfl
    rw [List.getLast?_concat] at hc
    dsimp only at hc
    rw [if_neg hkept, String.toList_ofList, Text.getLast?_strip hjoined rfl] at hc
    exact hne (Option.some.inj hc).symm

end Document

/-! ## Envelope invariance -/

section Invariance

variable {α : Type*} (T : Json.FloatText α)

lemma coercePlanDict_ok {s : String} {es : List (String × PyVal α)}
    (h : (Json.scan T).loads (stripCodeFence s) = .ok (.dict es)) :
    coercePlanDict (Json.scan T) (.str s) = .ok es := by
  unfold coercePlanDict
  dsimp only
  rw [h]

lemma coercePlanDict_error {s : String}
    (h : ∀ es, (Json.scan T).loads (stripCodeFence s) ≠ .ok (.dict es)) :
    coercePlanDict (Json.scan T) (.str s) = .error .valueError := by
  unfold coercePlanDict
  dsimp only
  cases hloads : (Json.scan T).loads (stripCodeFence s) with
  | error e =>
    obtain rfl := Json.scan_error (exceptMap_eq_error.mp hloads)
    rfl
  | ok v =>
    cases v with
    | dict es => exact absurd hloads (h es)
    | _ => rfl

/-- What a wrapper keeps comes out as it was. -/
lemma coercePlanDict_of_keeps {d : String} {es : List (String × PyVal α)}
    (hd : (Json.scan T).loads d = .ok (.dict es)) {w : Wrapper} (hkeeps : w.Keeps d.toList) :
    coercePlanDict (Json.scan T) (.str (String.ofList (w.wrap d.toList))) = .ok es := by
  obtain ⟨D⟩ := exists_document hd
  refine coercePlanDict_ok T ?_
  cases w with
  | bare =>
    rw [Wrapper.wrap, String.ofList_toList, D.stripCodeFence_bare]
    exact D.loads_text
  | fence tag =>
    rw [D.stripCodeFence_fence tag]
    unfold JsonScan.loads
    rw [Json.scan_unifyBreaks D.derives, if_pos (D.tidy_iff.mp hkeeps), ← D.collapses]
    rfl
  | inlineFence tag => exact absurd hkeeps id

/-- What a wrapper does not keep is rejected. -/
lemma coercePlanDict_of_loses {d : String} {es : List (String × PyVal α)}
    (hd : (Json.scan T).loads d = .ok (.dict es)) {w : Wrapper} (hw : w.Fits d.toList)
    (hloses : ¬ w.Keeps d.toList) :
    coercePlanDict (Json.scan T) (.str (String.ofList (w.wrap d.toList))) =
      .error .valueError := by
  obtain ⟨D⟩ := exists_document hd
  refine coercePlanDict_error T fun es' => ?_
  cases w with
  | bare => exact absurd trivial hloses
  | fence tag =>
    rw [D.stripCodeFence_fence tag]
    unfold JsonScan.loads
    rw [Json.scan_unifyBreaks D.derives, if_neg fun h => hloses (D.tidy_iff.mpr h)]
    intro h
    cases h
  | inlineFence tag => exact D.inlineFence_loses tag hw es'

/-- **What a wrapper does to a plan.**  A document comes out of its wrapper as it was exactly if it
is bare, or in a fence on lines of its own without a raw separator in it.  Otherwise it is rejected:
no wrapper makes another document of it. -/
theorem extractPlanContent_iff {d : String} {es : List (String × PyVal α)}
    (hd : (Json.scan T).loads d = .ok (.dict es)) (w : Wrapper) (hw : w.Fits d.toList)
    {payload : List (String × PyVal α)}
    (hp : Carries (String.ofList (w.wrap d.toList)) payload) :
    (extractPlanContent (Json.scan T) payload = .ok es ↔ w.Keeps d.toList) ∧
      (¬ w.Keeps d.toList → extractPlanContent (Json.scan T) payload = .error .valueError) := by
  rw [hp.extract]
  refine ⟨⟨fun h => ?_, coercePlanDict_of_keeps T hd⟩, coercePlanDict_of_loses T hd hw⟩
  by_contra hloses
  rw [coercePlanDict_of_loses T hd hw hloses] at h
  cases h

end Invariance

/-! ### A plan with a line separator -/

/-- A chat completion with a text. -/
def chatEnvelope (s : String) : List (String × PyVal ℚ) :=
  [("choices", .list [.dict [("message", .dict [("content", .str s)])]])]

lemma chatEnvelope_carries (s : String) : Carries s (chatEnvelope s) := .choice rfl rfl rfl

lemma json_oneLine : ∀ c ∈ "json".toList, Text.isLineBreak c = false := by
  have hall : ("json".toList.all fun c => !Text.isLineBreak c) = true := by decide
  intro c hc
  exact (Bool.not_eq_true' _).mp (List.all_eq_true.mp hall c hc)

/-- The usual tag of a fence around a document. -/
def jsonTag : FenceTag := ⟨"json".toList, json_oneLine⟩

/-- A plan with a line separator in a note. -/
def separatedPlan : List (String × PyVal ℚ) := [("note", .str "\u2028")]

/-- The text of it, with the separator as it stands. -/
def separatedText : String :=
  String.ofList (Json.dumps Json.FloatText.rational (.dict separatedPlan))

lemma loads_separatedText :
    (Json.scan Json.FloatText.rational).loads separatedText = .ok (.dict separatedPlan) :=
  Json.loads_dumps Json.FloatText.rational rfl

lemma separatedText_untidy : ¬ (Wrapper.fence jsonTag).Keeps separatedText.toList := by
  unfold separatedText
  rw [String.toList_ofList]
  decide

theorem extractPlanContent_iff_separated :
    (extractPlanContent (Json.scan Json.FloatText.rational)
        (chatEnvelope (String.ofList (Wrapper.bare.wrap separatedText.toList))) =
          .ok separatedPlan ↔ Wrapper.bare.Keeps separatedText.toList) ∧
      (¬ Wrapper.bare.Keeps separatedText.toList →
        extractPlanContent (Json.scan Json.FloatText.rational)
          (chatEnvelope (String.ofList (Wrapper.bare.wrap separatedText.toList))) =
            .error .valueError) :=
  extractPlanContent_iff Json.FloatText.rational loads_separatedText .bare trivial
    (chatEnvelope_carries _)

/-- Bare it is read; in a fence, the separator comes back as a newline, and the plan is rejected. -/
theorem separatedPlan_lost :
    extractPlanContent (Json.scan Json.FloatText.rational)
        (chatEnvelope (String.ofList (Wrapper.bare.wrap separatedText.toList))) =
          .ok separatedPlan ∧
      extractPlanContent (Json.scan Json.FloatText.rational)
        (chatEnvelope (String.ofList ((Wrapper.fence jsonTag).wrap separatedText.toList))) =
          .error .valueError := by
  rw [(chatEnvelope_carries _).extract, (chatEnvelope_carries _).extract]
  refine ⟨coercePlanDict_of_keeps _ loads_separatedText trivial, ?_⟩
  exact coercePlanDict_of_loses _ loads_separatedText trivial separatedText_untidy

end Handoff

end MiniatureWarehouse
