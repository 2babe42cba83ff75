import MiniatureWarehouse.Composition.Plugins
import MiniatureWarehouse.Framework.LineBreaks
import Mathlib.Computability.Language

/-!
# The grammar of the plugin codes

A plugin id is a dotted sequence of lowercase snake-case segments, a reason code is one segment, and
a namespaced code is an id and a reason code around a colon.  The grammar is given as languages; the
validators match a pattern between `^` and `$`, and `$` also holds in front of a newline that ends
the text.  So a validator accepts the words of its language, each of them alone or with one newline
behind (`matchesLine_iff`).

`code_grammar_iff` says what that costs: the laws of the codes hold exactly where that newline is
absent, and a code of the composition itself can be declared with it.
-/

namespace MiniatureWarehouse

open scoped Computability

/-! ## The languages -/

/-- `[a-z0-9_]`. -/
def wordChar (c : Char) : Bool := c.isLower || c.isDigit || c = '_'

/-- `[a-z][a-z0-9_]*`. -/
def segments : Language Char :=
  {w | ∃ c cs, w = c :: cs ∧ c.isLower = true ∧ ∀ d ∈ cs, wordChar d = true}

/-- The reason codes are the segments. -/
def reasonCodes : Language Char := segments

/-- The plugin ids are the segments that dots join. -/
def pluginIds : Language Char := segments * ({['.']} * segments)∗

/-- The namespaced codes. -/
def namespacedCodes : Language Char := pluginIds * ({[':']} * reasonCodes)

/-- The words of a language with a newline behind. -/
def withNewline (G : Language Char) : Language Char := G * {['\n']}

lemma mem_withNewline {G : Language Char} {w : List Char} :
    w ∈ withNewline G ↔ ∃ v ∈ G, w = v ++ ['\n'] := by
  unfold withNewline
  rw [Language.mem_mul]
  constructor
  · rintro ⟨v, hv, newline, rfl, rfl⟩
    exact ⟨v, hv, rfl⟩
  · rintro ⟨v, hv, rfl⟩
    exact ⟨v, hv, ['\n'], rfl, rfl⟩

/-! ## The patterns decide the languages -/

lemma isReasonCode_iff {w : List Char} : isReasonCode w = true ↔ w ∈ reasonCodes := by
  cases w with
  | nil =>
    constructor
    · intro h
      cases h
    · rintro ⟨c, cs, h, -⟩
      cases h
  | cons c cs =>
    unfold isReasonCode
    rw [Bool.and_eq_true, List.all_eq_true]
    constructor
    · rintro ⟨hhead, htail⟩
      exact ⟨c, cs, rfl, hhead, htail⟩
    · rintro ⟨c', cs', h, hhead, htail⟩
      obtain ⟨rfl, rfl⟩ := List.cons.inj h
      exact ⟨hhead, htail⟩

/-- The segments that follow a segment. -/
def moreSegments : Language Char := ({['.']} * segments)∗

lemma cons_mem_moreSegments {w v : List Char} (hw : w ∈ segments) (hv : v ∈ moreSegments) :
    '.' :: (w ++ v) ∈ moreSegments := by
  obtain ⟨L, rfl, hL⟩ := Language.mem_kstar.mp hv
  refine Language.mem_kstar.mpr ⟨('.' :: w) :: L, rfl, ?_⟩
  rw [List.forall_mem_cons]
  exact ⟨⟨['.'], rfl, w, hw, rfl⟩, hL⟩

/-- What the two states of the matcher accept: the rest of an id inside of a segment, and an id. -/
lemma isPluginIdRest_sound {cs : List Char} :
    (isPluginIdRest true cs = true → ∃ w v, (∀ d ∈ w, wordChar d = true) ∧ v ∈ moreSegments ∧
      cs = w ++ v) ∧
    (isPluginIdRest false cs = true → cs ∈ pluginIds) := by
  induction cs with
  | nil =>
    refine ⟨fun _ => ⟨[], [], fun d hd => absurd hd List.not_mem_nil, ?_, rfl⟩, fun h => ?_⟩
    · exact Language.nil_mem_kstar _
    · cases h
  | cons c cs ih =>
    have hid : isPluginIdRest false (c :: cs) = true → c :: cs ∈ pluginIds := by
      intro h
      unfold isPluginIdRest at h
      obtain ⟨hhead, hrest⟩ := (Bool.and_eq_true _ _).mp h
      obtain ⟨w, v, hw, hv, rfl⟩ := ih.1 hrest
      exact ⟨c :: w, ⟨c, w, rfl, hhead, hw⟩, v, hv, rfl⟩
    refine ⟨fun h => ?_, hid⟩
    unfold isPluginIdRest at h
    by_cases hdot : c = '.'
    · rw [if_pos hdot] at h
      obtain ⟨w, hw, v, hv, rfl⟩ := ih.2 h
      refine ⟨[], c :: (w ++ v), fun d hd => absurd hd List.not_mem_nil, ?_, rfl⟩
      rw [hdot]
      exact cons_mem_moreSegments hw hv
    · rw [if_neg hdot] at h
      obtain ⟨hhead, hrest⟩ := (Bool.and_eq_true _ _).mp h
      obtain ⟨w, v, hw, hv, rfl⟩ := ih.1 hrest
      exact ⟨c :: w, v, List.forall_mem_cons.mpr ⟨hhead, hw⟩, hv, rfl⟩

lemma not_wordChar_dot : wordChar '.' = false := by decide

lemma isPluginIdRest_append {w : List Char} (hw : ∀ d ∈ w, wordChar d = true) (v : List Char) :
    isPluginIdRest true (w ++ v) = isPluginIdRest true v := by
  induction w with
  | nil => rfl
  | cons c w ih =>
    obtain ⟨hhead, htail⟩ := List.forall_mem_cons.mp hw
    have hdot : c ≠ '.' := by
      rintro rfl
      rw [not_wordChar_dot] at hhead
      cases hhead
    rw [List.cons_append, isPluginIdRest, if_neg hdot, ih htail]
    exact (congrArg (· && _) hhead).trans (Bool.true_and _)

lemma isPluginIdRest_segment {w : List Char} (hw : w ∈ segments) (v : List Char) :
    isPluginIdRest false (w ++ v) = isPluginIdRest true v := by
  obtain ⟨c, cs, rfl, hhead, htail⟩ := hw
  rw [List.cons_append, isPluginIdRest, hhead, Bool.true_and]
  exact isPluginIdRest_append htail v

lemma isPluginIdRest_more {v : List Char} (hv : v ∈ moreSegments) :
    isPluginIdRest true v = true := by
  obtain ⟨L, rfl, hL⟩ := Language.mem_kstar.mp hv
  induction L with
  | nil => rfl
  | cons y L ih =>
    obtain ⟨hhead, htail⟩ := List.forall_mem_cons.mp hL
    obtain ⟨dot, rfl, w, hw, rfl⟩ := hhead
    rw [List.flatten_cons, List.append_assoc, List.singleton_append, isPluginIdRest, if_pos rfl,
      isPluginIdRest_segment hw]
    exact ih htail (Language.mem_kstar.mpr ⟨L, rfl, htail⟩)

lemma isPluginId_iff {w : List Char} : isPluginId w = true ↔ w ∈ pluginIds := by
  constructor
  · exact isPluginIdRest_sound.2
  · rintro ⟨head, hhead, more, hmore, rfl⟩
    unfold isPluginId
    rw [isPluginIdRest_segment hhead]
    exact isPluginIdRest_more hmore

/-- `_NAMESPACED_CODE_RE`: neither part has a colon, so the first one parts them. -/
def isNamespacedCode (cs : List Char) : Bool :=
  isPluginId (cs.takeWhile (· ≠ ':')) &&
    match cs.dropWhile (· ≠ ':') with
    | [] => false
    | _ :: code => isReasonCode code

/-! ## The characters of a code -/

lemma wordChar_of_mem_segments {w : List Char} (hw : w ∈ segments) {c : Char} (hc : c ∈ w) :
    wordChar c = true := by
  obtain ⟨head, tail, rfl, hhead, htail⟩ := hw
  rcases List.mem_cons.mp hc with rfl | hc
  · unfold wordChar
    rw [hhead]
    rfl
  · exact htail c hc

lemma wordChar_of_mem_pluginIds {w : List Char} (hw : w ∈ pluginIds) {c : Char} (hc : c ∈ w) :
    wordChar c = true ∨ c = '.' := by
  obtain ⟨head, hhead, more, hmore, rfl⟩ := hw
  rcases List.mem_append.mp hc with hc | hc
  · exact .inl (wordChar_of_mem_segments hhead hc)
  · obtain ⟨L, rfl, hL⟩ := Language.mem_kstar.mp hmore
    obtain ⟨y, hy, hcy⟩ := List.mem_flatten.mp hc
    obtain ⟨dot, rfl, segment, hsegment, rfl⟩ := hL y hy
    rcases List.mem_cons.mp hcy with rfl | hc
    · exact .inr rfl
    · exact .inl (wordChar_of_mem_segments hsegment hc)

lemma colon_notMem_pluginIds {w : List Char} (hw : w ∈ pluginIds) : ':' ∉ w := by
  intro hc
  rcases wordChar_of_mem_pluginIds hw hc with h | h
  · exact absurd h (by decide)
  · exact absurd h (by decide)

lemma newline_notMem_segments {w : List Char} (hw : w ∈ segments) : '\n' ∉ w :=
  fun hc => absurd (wordChar_of_mem_segments hw hc) (by decide)

lemma newline_notMem_pluginIds {w : List Char} (hw : w ∈ pluginIds) : '\n' ∉ w := by
  intro hc
  rcases wordChar_of_mem_pluginIds hw hc with h | h
  · exact absurd h (by decide)
  · exact absurd h (by decide)

lemma newline_notMem_namespacedCodes {w : List Char} (hw : w ∈ namespacedCodes) : '\n' ∉ w := by
  obtain ⟨pluginId, hid, rest, ⟨colon, rfl, code, hcode, rfl⟩, rfl⟩ := hw
  intro hc
  rcases List.mem_append.mp hc with hc | hc
  · exact newline_notMem_pluginIds hid hc
  · rcases List.mem_cons.mp hc with h | hc
    · exact absurd h (by decide)
    · exact newline_notMem_segments hcode hc

/-! ## The parts of a code -/

lemma takeWhile_colon {p : List Char} (hp : ':' ∉ p) (r : List Char) :
    (p ++ ':' :: r).takeWhile (· ≠ ':') = p := by
  have hall : ∀ c ∈ p, decide (c ≠ ':') = true := by
    intro c hc
    exact decide_eq_true fun h => hp (h ▸ hc)
  rw [List.takeWhile_append_of_pos hall, List.takeWhile_cons_of_neg (by simp), List.append_nil]

lemma dropWhile_colon {p : List Char} (hp : ':' ∉ p) (r : List Char) :
    (p ++ ':' :: r).dropWhile (· ≠ ':') = ':' :: r := by
  have hall : ∀ c ∈ p, decide (c ≠ ':') = true := by
    intro c hc
    exact decide_eq_true fun h => hp (h ▸ hc)
  rw [List.dropWhile_append_of_pos hall, List.dropWhile_cons_of_neg (by simp)]

/-- A text with a colon is what stands before the first of them, the colon and the rest. -/
lemma eq_append_colon {w : List Char} {c : Char} {r : List Char}
    (h : w.dropWhile (· ≠ ':') = c :: r) :
    w = w.takeWhile (· ≠ ':') ++ ':' :: r ∧ ':' ∉ w.takeWhile (· ≠ ':') := by
  have hc : c = ':' := by
    have hhead := List.head?_dropWhile_not (fun c : Char => decide (c ≠ ':')) w
    rw [h] at hhead
    simpa using hhead
  have hparts := List.takeWhile_append_dropWhile (p := fun c : Char => decide (c ≠ ':')) (l := w)
  refine ⟨?_, fun hmem => ?_⟩
  · rw [h, hc] at hparts
    exact hparts.symm
  · have hne := List.mem_takeWhile_imp hmem
    exact of_decide_eq_true hne rfl

lemma isNamespacedCode_iff {w : List Char} :
    isNamespacedCode w = true ↔ w ∈ namespacedCodes := by
  unfold isNamespacedCode
  constructor
  · intro h
    obtain ⟨hid, hrest⟩ := (Bool.and_eq_true _ _).mp h
    rw [isPluginId_iff] at hid
    cases hdrop : w.dropWhile (· ≠ ':') with
    | nil =>
      rw [hdrop] at hrest
      cases hrest
    | cons c code =>
      rw [hdrop] at hrest
      refine ⟨_, hid, ':' :: code, ⟨[':'], rfl, code, isReasonCode_iff.mp hrest, rfl⟩, ?_⟩
      exact (eq_append_colon hdrop).1.symm
  · rintro ⟨pluginId, hid, rest, ⟨colon, rfl, code, hcode, rfl⟩, rfl⟩
    have hcolon := colon_notMem_pluginIds hid
    have happend : (fun v w : List Char => v ++ w) pluginId ([':'] ++ code) =
        pluginId ++ ':' :: code := rfl
    rw [happend, takeWhile_colon hcolon, dropWhile_colon hcolon, Bool.and_eq_true]
    exact ⟨isPluginId_iff.mpr hid, isReasonCode_iff.mpr hcode⟩

/-! ## The end of a line -/

/-- What a validator accepts: the words, and the words with a newline behind. -/
lemma matchesLine_iff {pattern : List Char → Bool} {G : Language Char}
    (hG : ∀ w, pattern w = true ↔ w ∈ G) (s : String) :
    matchesLine pattern s = true ↔ s.toList ∈ G ∨ s.toList ∈ withNewline G := by
  unfold matchesLine
  rw [Bool.or_eq_true, hG, Bool.and_eq_true, hG, mem_withNewline]
  refine or_congr Iff.rfl ⟨?_, ?_⟩
  · rintro ⟨hlast, hinit⟩
    refine ⟨_, hinit, ?_⟩
    have hlast := of_decide_eq_true hlast
    exact (List.dropLast_append_getLast? _ hlast).symm
  · rintro ⟨v, hv, hs⟩
    rw [hs, List.getLast?_append_of_ne_nil _ (List.cons_ne_nil _ _), List.dropLast_concat]
    exact ⟨rfl, hv⟩

lemma withNewline_disjoint {G : Language Char} (hG : ∀ w ∈ G, '\n' ∉ w) {w : List Char}
    (hw : w ∈ withNewline G) : w ∉ G := by
  obtain ⟨v, -, rfl⟩ := mem_withNewline.mp hw
  intro h
  exact hG _ h (List.mem_append_right v (List.mem_singleton_self _))

/-- A validator decides its language exactly on what is no word with a newline behind. -/
lemma matchesLine_exact {pattern : List Char → Bool} {G : Language Char}
    (hG : ∀ w, pattern w = true ↔ w ∈ G) (hnewline : ∀ w ∈ G, '\n' ∉ w) (s : String) :
    (matchesLine pattern s = true ↔ s.toList ∈ G) ↔ s.toList ∉ withNewline G := by
  rw [matchesLine_iff hG]
  constructor
  · intro h hw
    exact withNewline_disjoint hnewline hw (h.mp (.inr hw))
  · intro hw
    exact or_iff_left hw

/-! ## The validators -/

/-- A `_valid_...` of a field: the value itself, if the pattern matches it. -/
def validPattern (pattern : List Char → Bool) (value : String) : Except PyErr String :=
  if matchesLine pattern value then .ok value else .error .valueError

lemma validPattern_eq_ok {pattern : List Char → Bool} {s : String} :
    validPattern pattern s = .ok s ↔ matchesLine pattern s = true := by
  unfold validPattern
  split_ifs with h
  · exact iff_of_true rfl h
  · exact iff_of_false (fun hok => by cases hok) h

/-- `NamespacedPluginRuleResult`: the plugin and its code in one field. -/
structure NamespacedPluginRuleResult where
  code : String
  code_matches : matchesLine isNamespacedCode code = true

namespace NamespacedPluginRuleResult

/-- `_valid_code`. -/
def validCode (value : String) : Except PyErr String := validPattern isNamespacedCode value

/-- `from_parts`. -/
def fromParts (pluginId reasonCode : String) : Except PyErr NamespacedPluginRuleResult :=
  if h : matchesLine isNamespacedCode (pluginId ++ ":" ++ reasonCode) = true then .ok ⟨_, h⟩
  else .error .valueError

/-- `plugin_id`: the text in front of the first colon. -/
def pluginId (f : NamespacedPluginRuleResult) : String :=
  String.ofList (f.code.toList.takeWhile (· ≠ ':'))

/-- `reason_code`: the text behind the first colon, which every code has. -/
def reasonCode (f : NamespacedPluginRuleResult) : String :=
  String.ofList (f.code.toList.dropWhile (· ≠ ':')).tail

end NamespacedPluginRuleResult

/-- `StructuredPluginRuleResult`: the plugin and its code in two fields. -/
structure StructuredPluginRuleResult where
  pluginId : String
  reasonCode : String
  id_matches : matchesLine isPluginId pluginId = true
  code_matches : matchesLine isReasonCode reasonCode = true

namespace StructuredPluginRuleResult

/-- `_valid_plugin_id`. -/
def validPluginId (value : String) : Except PyErr String := validPattern isPluginId value

/-- `_valid_reason_code`. -/
def validReasonCode (value : String) : Except PyErr String := validPattern isReasonCode value

/-- `full_code`. -/
def fullCode (g : StructuredPluginRuleResult) : String := g.pluginId ++ ":" ++ g.reasonCode

end StructuredPluginRuleResult

/-- `_valid_plugin_id` of the `DecisionEventEnvelope`, where the field may be absent. -/
def DecisionEventEnvelope.validPluginId : Option String → Except PyErr (Option String)
  | none => .ok none
  | some value => (validPattern isPluginId value).map some

/-- A code that a plugin may declare. -/
def Declarable (code : String) : Prop :=
  matchesLine isReasonCode code = true ∧ code ∉ reservedReasonCodes

/-- The loop of `_valid_reason_codes`, with the codes it has seen. -/
def validReasonCodesFrom (seen : Finset String) : List String → Except PyErr Unit
  | [] => .ok ()
  | code :: codes =>
    if !matchesLine isReasonCode code then .error .valueError
    else if code ∈ reservedReasonCodes then .error .valueError
    else if code ∈ seen then .error .valueError
    else validReasonCodesFrom (insert code seen) codes

lemma validReasonCodesFrom_eq_ok {seen : Finset String} {codes : List String} :
    validReasonCodesFrom seen codes = .ok () ↔
      (∀ code ∈ codes, Declarable code ∧ code ∉ seen) ∧ codes.Nodup := by
  induction codes generalizing seen with
  | nil => exact iff_of_true rfl ⟨fun code h => absurd h List.not_mem_nil, List.nodup_nil⟩
  | cons code codes ih =>
    rw [List.forall_mem_cons, List.nodup_cons, validReasonCodesFrom]
    unfold Declarable
    split_ifs with hmatch hreserved hseen
    · exact iff_of_false (fun h => by cases h) fun h => by simp [h.1.1.1.1] at hmatch
    · exact iff_of_false (fun h => by cases h) fun h => h.1.1.1.2 hreserved
    · exact iff_of_false (fun h => by cases h) fun h => h.1.1.2 hseen
    · rw [ih]
      have hcode : matchesLine isReasonCode code = true := by simpa using hmatch
      constructor
      · rintro ⟨htail, hnodup⟩
        have hfresh : ∀ c ∈ codes, c ∉ insert code seen := fun c hc => (htail c hc).2
        refine ⟨⟨⟨⟨hcode, hreserved⟩, hseen⟩, fun c hc => ⟨(htail c hc).1, fun hmem => ?_⟩⟩,
          fun hmem => ?_, hnodup⟩
        · exact hfresh c hc (Finset.mem_insert_of_mem hmem)
        · exact hfresh code hmem (Finset.mem_insert_self code seen)
      · rintro ⟨⟨-, htail⟩, hcode, hnodup⟩
        refine ⟨fun c hc => ⟨(htail c hc).1, fun hmem => ?_⟩, hnodup⟩
        rcases Finset.mem_insert.mp hmem with rfl | hmem
        · exact hcode hc
        · exact (htail c hc).2 hmem

/-- `PluginEmits`: the box of the findings and the codes that are declared. -/
structure PluginEmits where
  box : String
  reasonCodes : List String
  box_nonempty : box ≠ ""
  codes_nonempty : reasonCodes ≠ []
  codes_declarable : ∀ code ∈ reasonCodes, Declarable code
  codes_nodup : reasonCodes.Nodup

/-- The constructor of `PluginEmits`, with `_valid_reason_codes`. -/
def PluginEmits.build (box : String) (reasonCodes : List String) : Except PyErr PluginEmits :=
  if hbox : box = "" then .error .valueError
  else if hne : reasonCodes = [] then .error .valueError
  else if h : validReasonCodesFrom ∅ reasonCodes = .ok () then
    have hcodes := validReasonCodesFrom_eq_ok.mp h
    .ok ⟨box, reasonCodes, hbox, hne, fun code hc => (hcodes.1 code hc).1, hcodes.2⟩
  else .error .valueError

/-- `PluginManifest`: what a plugin declares of itself. -/
structure PluginManifest where
  pluginId : String
  box : String
  emits : PluginEmits
  id_matches : matchesLine isPluginId pluginId = true
  box_matches : emits.box = box

namespace PluginManifest

/-- `_valid_plugin_id`. -/
def validPluginId (value : String) : Except PyErr String := validPattern isPluginId value

/-- The constructor, with its validators. -/
def build (pluginId box : String) (emits : PluginEmits) : Except PyErr PluginManifest :=
  if h : matchesLine isPluginId pluginId = true then
    if hbox : emits.box = box then .ok ⟨pluginId, box, emits, h, hbox⟩ else .error .valueError
  else .error .valueError

end PluginManifest

/-! ## Codes of the composition -/

/-- The text is a code of the composition, up to the white space around it. -/
def ReservedUpToSpace (code : String) : Prop :=
  String.ofList (Text.strip code.toList) ∈ reservedReasonCodes

lemma isSpace_of_wordChar {c : Char} (h : wordChar c = true) : Text.isSpace c = false := by
  have hlower : c.isLower = true → 97 ≤ c.toNat ∧ c.toNat ≤ 122 := by
    intro hc
    have hbetween : (decide (c.val ≥ 'a'.val) && decide (c.val ≤ 'z'.val)) = true := hc
    simpa [UInt32.le_iff_toNat_le] using hbetween
  have hdigit : c.isDigit = true → 48 ≤ c.toNat ∧ c.toNat ≤ 57 := by
    intro hc
    simpa [Char.isDigit, UInt32.le_iff_toNat_le] using hc
  have hrange : 33 ≤ c.toNat ∧ c.toNat ≤ 122 := by
    unfold wordChar at h
    rw [Bool.or_eq_true, Bool.or_eq_true] at h
    rcases h with (h | h) | h
    · have := hlower h
      omega
    · have := hdigit h
      omega
    · rw [of_decide_eq_true h]
      decide
  unfold Text.isSpace Text.isLineBreak
  rw [Bool.or_eq_false_iff, Bool.or_eq_false_iff]
  refine ⟨⟨?_, ?_⟩, ?_⟩
  · simp
    omega
  · simp
    omega
  · simp
    omega

lemma isSpace_newline : ∀ c ∈ ['\n'], Text.isSpace c = true := by
  intro c hc
  rw [List.mem_singleton.mp hc]
  decide

/-- Nothing is stripped of a segment but the white space around it. -/
lemma strip_segment {w : List Char} (hw : w ∈ segments) {behind : List Char}
    (hbehind : ∀ c ∈ behind, Text.isSpace c = true) : Text.strip (w ++ behind) = w := by
  have hplain : ∀ c ∈ w, Text.isSpace c = false := fun c hc =>
    isSpace_of_wordChar (wordChar_of_mem_segments hw hc)
  have hne : w ≠ [] := by
    obtain ⟨c, cs, rfl, -⟩ := hw
    exact List.cons_ne_nil c cs
  have hfront : ∀ c ∈ ([] : List Char), Text.isSpace c = true := fun c hc =>
    absurd hc List.not_mem_nil
  exact Text.strip_around hfront hbehind hne (fun c hc => hplain c (List.mem_of_mem_head? hc))
    fun c hc => hplain c (List.mem_of_mem_getLast? hc)

/-- A declared code is one of the composition, up to white space, exactly where it is one with a
newline behind. -/
lemma reservedUpToSpace_iff {code : String} (h : Declarable code) :
    ReservedUpToSpace code ↔ ∃ r ∈ reservedReasonCodes, code = r ++ "\n" := by
  have hno : ∀ c ∈ ([] : List Char), Text.isSpace c = true := fun c hc =>
    absurd hc List.not_mem_nil
  unfold ReservedUpToSpace
  rcases (matchesLine_iff (fun w => isReasonCode_iff) code).mp h.1 with hword | hline
  · have hstrip : Text.strip code.toList = code.toList := by
      have hplain := strip_segment hword hno
      rwa [List.append_nil] at hplain
    rw [hstrip, String.ofList_toList]
    refine iff_of_false h.2 ?_
    rintro ⟨r, -, hcode⟩
    refine newline_notMem_segments hword ?_
    rw [hcode, String.toList_append]
    exact List.mem_append_right _ (List.mem_singleton_self _)
  · obtain ⟨w, hw, hcode⟩ := mem_withNewline.mp hline
    rw [hcode, strip_segment hw isSpace_newline]
    have hback : code = String.ofList w ++ "\n" := by
      apply String.toList_inj.mp
      rw [hcode, String.toList_append, String.toList_ofList]
      rfl
    constructor
    · intro hmem
      exact ⟨_, hmem, hback⟩
    · rintro ⟨r, hr, hcode'⟩
      have hr' : r.toList = w := by
        have hlist := congrArg String.toList hcode'
        rw [hcode, String.toList_append] at hlist
        exact (List.append_cancel_right hlist).symm
      rwa [← hr', String.ofList_toList]

/-- No declared code is one of the composition, exactly where none is one with a newline behind. -/
lemma forall_not_reservedUpToSpace_iff {P : String → Prop} (h : ∀ code, P code → Declarable code) :
    (∀ code, P code → ¬ ReservedUpToSpace code) ↔
      ∀ r ∈ reservedReasonCodes, ¬ P (r ++ "\n") := by
  constructor
  · intro hall r hr hP
    exact hall _ hP ((reservedUpToSpace_iff (h _ hP)).mpr ⟨r, hr, rfl⟩)
  · intro hall code hP hreserved
    obtain ⟨r, hr, rfl⟩ := (reservedUpToSpace_iff (h _ hP)).mp hreserved
    exact hall r hr hP

/-! ## Splitting a code and putting it together -/

namespace NamespacedPluginRuleResult

lemma parts_of_append {f : NamespacedPluginRuleResult} {p r : List Char} (hp : ':' ∉ p)
    (h : f.code.toList = p ++ ':' :: r) :
    f.pluginId = String.ofList p ∧ f.reasonCode = String.ofList r := by
  unfold pluginId reasonCode
  rw [h, takeWhile_colon hp, dropWhile_colon hp]
  exact ⟨rfl, rfl⟩

/-- An accepted code is an id and a reason code, which a newline may follow. -/
lemma exists_parts (f : NamespacedPluginRuleResult) :
    ∃ p ∈ pluginIds, ∃ r ∈ reasonCodes, ∃ behind : List Char,
      f.code.toList = p ++ ':' :: (r ++ behind) ∧
        (f.code.toList ∈ namespacedCodes ∧ behind = [] ∨
          f.code.toList ∈ withNewline namespacedCodes ∧ behind = ['\n']) := by
  rcases (matchesLine_iff (fun w => isNamespacedCode_iff) f.code).mp f.code_matches with hw | hw
  · obtain ⟨p, hp, rest, ⟨colon, rfl, r, hr, rfl⟩, hcode⟩ := id hw
    refine ⟨p, hp, r, hr, [], ?_, .inl ⟨hw, rfl⟩⟩
    rw [← hcode, List.append_nil]
    rfl
  · obtain ⟨v, ⟨p, hp, rest, ⟨colon, rfl, r, hr, rfl⟩, rfl⟩, hcode⟩ := mem_withNewline.mp hw
    refine ⟨p, hp, r, hr, ['\n'], ?_, .inr ⟨hw, rfl⟩⟩
    rw [hcode]
    exact List.append_assoc _ _ _

/-- The parts of a code, put together, are that code. -/
lemma append_parts (f : NamespacedPluginRuleResult) :
    f.pluginId ++ ":" ++ f.reasonCode = f.code := by
  obtain ⟨p, hp, r, -, behind, hcode, -⟩ := f.exists_parts
  obtain ⟨hid, hreason⟩ := parts_of_append (colon_notMem_pluginIds hp) hcode
  apply String.toList_inj.mp
  rw [hid, hreason, String.toList_append, String.toList_append, String.toList_ofList, hcode,
    List.append_assoc]
  exact congrArg (fun t => p ++ ':' :: t) String.toList_ofList

lemma fromParts_eq_ok {p r : String} (f : NamespacedPluginRuleResult)
    (h : p ++ ":" ++ r = f.code) : fromParts p r = .ok f := by
  obtain ⟨code, hcode⟩ := f
  obtain rfl : p ++ ":" ++ r = code := h
  exact dif_pos hcode

/-- The code splits into a plugin id and a reason code, which are put together to it again. -/
structure Splits (f : NamespacedPluginRuleResult) : Prop where
  id_mem : f.pluginId.toList ∈ pluginIds
  code_mem : f.reasonCode.toList ∈ reasonCodes
  append_eq : f.pluginId ++ ":" ++ f.reasonCode = f.code
  fromParts_eq : fromParts f.pluginId f.reasonCode = .ok f

lemma splits_iff (f : NamespacedPluginRuleResult) :
    f.Splits ↔ f.code.toList ∉ withNewline namespacedCodes := by
  obtain ⟨p, hp, r, hr, behind, hcode, hcase⟩ := f.exists_parts
  obtain ⟨hid, hreason⟩ := parts_of_append (colon_notMem_pluginIds hp) hcode
  rcases hcase with ⟨hmem, rfl⟩ | ⟨hmem, rfl⟩
  · refine iff_of_true ⟨?_, ?_, f.append_parts, fromParts_eq_ok f f.append_parts⟩ fun hline => ?_
    · rwa [hid, String.toList_ofList]
    · rwa [hreason, String.toList_ofList, List.append_nil]
    · exact withNewline_disjoint (fun _ => newline_notMem_namespacedCodes) hline hmem
  · refine iff_of_false (fun h => ?_) (not_not_intro hmem)
    have hword := h.code_mem
    rw [hreason, String.toList_ofList] at hword
    exact newline_notMem_segments hword (List.mem_append_right r (List.mem_singleton_self _))

end NamespacedPluginRuleResult

namespace StructuredPluginRuleResult

/-- The pair is put together to a code that splits into the same pair. -/
def Reassembles (g : StructuredPluginRuleResult) : Prop :=
  ∃ f, NamespacedPluginRuleResult.fromParts g.pluginId g.reasonCode = .ok f ∧
    f.code = g.fullCode ∧ f.pluginId = g.pluginId ∧ f.reasonCode = g.reasonCode

/-- An id and a reason code, which a newline may follow, are put together to an accepted code. -/
lemma fullCode_matches {g : StructuredPluginRuleResult} (hid : g.pluginId.toList ∈ pluginIds) :
    matchesLine isNamespacedCode g.fullCode = true := by
  have hfull : g.fullCode.toList = g.pluginId.toList ++ ([':'] ++ g.reasonCode.toList) := by
    unfold fullCode
    rw [String.toList_append, String.toList_append, List.append_assoc]
    rfl
  rw [matchesLine_iff (fun w => isNamespacedCode_iff), hfull, mem_withNewline]
  rcases (matchesLine_iff (fun w => isReasonCode_iff) g.reasonCode).mp g.code_matches with hr | hr
  · exact .inl ⟨_, hid, _, ⟨_, rfl, _, hr, rfl⟩, rfl⟩
  · obtain ⟨r, hr, hcode⟩ := mem_withNewline.mp hr
    refine .inr ⟨g.pluginId.toList ++ ([':'] ++ r), ⟨_, hid, _, ⟨_, rfl, _, hr, rfl⟩, rfl⟩, ?_⟩
    rw [hcode, List.append_assoc, List.append_assoc]

lemma reassembles_iff (g : StructuredPluginRuleResult) :
    g.Reassembles ↔ g.pluginId.toList ∉ withNewline pluginIds := by
  constructor
  · rintro ⟨f, -, -, hid, -⟩ hline
    obtain ⟨p, hp, r, -, behind, hcode, -⟩ := f.exists_parts
    have hparts := NamespacedPluginRuleResult.parts_of_append (colon_notMem_pluginIds hp) hcode
    rw [← hid, hparts.1, String.toList_ofList] at hline
    exact withNewline_disjoint (fun _ => newline_notMem_pluginIds) hline hp
  · intro hline
    have hid : g.pluginId.toList ∈ pluginIds :=
      ((matchesLine_iff (fun w => isPluginId_iff) g.pluginId).mp g.id_matches).resolve_right hline
    have hcolon := colon_notMem_pluginIds hid
    have hfull : g.fullCode.toList = g.pluginId.toList ++ ':' :: g.reasonCode.toList := by
      unfold fullCode
      rw [String.toList_append, String.toList_append, List.append_assoc]
      rfl
    let f : NamespacedPluginRuleResult := ⟨g.fullCode, fullCode_matches hid⟩
    obtain ⟨hfid, hfcode⟩ := NamespacedPluginRuleResult.parts_of_append (f := f) hcolon hfull
    rw [String.ofList_toList] at hfid hfcode
    exact ⟨f, NamespacedPluginRuleResult.fromParts_eq_ok f rfl, rfl, hfid, hfcode⟩

end StructuredPluginRuleResult

/-! ## The laws of the codes -/

/-- A validator of a field accepts the words of a language, and nothing else. -/
lemma validPattern_exact {pattern : List Char → Bool} {G : Language Char}
    (hG : ∀ w, pattern w = true ↔ w ∈ G) (hnewline : ∀ w ∈ G, '\n' ∉ w) (s : String) :
    (validPattern pattern s = .ok s ↔ s.toList ∈ G) ↔ s.toList ∉ withNewline G := by
  rw [validPattern_eq_ok]
  exact matchesLine_exact hG hnewline s

lemma DecisionEventEnvelope.validPluginId_eq_ok {s : String} :
    validPluginId (some s) = .ok (some s) ↔ validPattern isPluginId s = .ok s := by
  unfold validPluginId
  dsimp only
  constructor
  · intro h
    obtain ⟨value, hvalue, hs⟩ := exceptMap_eq_ok.mp h
    rwa [Option.some.inj hs] at hvalue
  · intro h
    rw [h]
    rfl

/-- Each validator decides its language on exactly those texts that are no word with a newline
behind; a manifest, or a registry, declares no code of the composition up to white space exactly
where it declares none with a newline behind; an accepted code splits into its parts exactly where
no newline ends it; and an accepted pair is put together to the code that splits into it exactly
where no newline ends its id. -/
theorem code_grammar_iff (s : String) (m : PluginManifest) (registry : PluginCodeRegistry)
    (f : NamespacedPluginRuleResult) (g : StructuredPluginRuleResult) :
    (((StructuredPluginRuleResult.validPluginId s = .ok s ↔ s.toList ∈ pluginIds) ↔
        s.toList ∉ withNewline pluginIds) ∧
      ((PluginManifest.validPluginId s = .ok s ↔ s.toList ∈ pluginIds) ↔
        s.toList ∉ withNewline pluginIds) ∧
      ((DecisionEventEnvelope.validPluginId (some s) = .ok (some s) ↔ s.toList ∈ pluginIds) ↔
        s.toList ∉ withNewline pluginIds) ∧
      ((StructuredPluginRuleResult.validReasonCode s = .ok s ↔ s.toList ∈ reasonCodes) ↔
        s.toList ∉ withNewline reasonCodes) ∧
      ((NamespacedPluginRuleResult.validCode s = .ok s ↔ s.toList ∈ namespacedCodes) ↔
        s.toList ∉ withNewline namespacedCodes)) ∧
    ((∀ code, code ∈ m.emits.reasonCodes → ¬ ReservedUpToSpace code) ↔
      ∀ r ∈ reservedReasonCodes, ¬ r ++ "\n" ∈ m.emits.reasonCodes) ∧
    ((∀ code, (∃ e ∈ registry.declaredEmits.entries, code ∈ e.2) → ¬ ReservedUpToSpace code) ↔
      ∀ r ∈ reservedReasonCodes, ¬ ∃ e ∈ registry.declaredEmits.entries, r ++ "\n" ∈ e.2) ∧
    (f.Splits ↔ f.code.toList ∉ withNewline namespacedCodes) ∧
    (g.Reassembles ↔ g.pluginId.toList ∉ withNewline pluginIds) := by
  have hid := validPattern_exact (fun w => isPluginId_iff) fun w => newline_notMem_pluginIds
  have hreason := validPattern_exact (fun w => isReasonCode_iff) fun w => newline_notMem_segments
  have hcode := validPattern_exact (fun w => isNamespacedCode_iff)
    fun w => newline_notMem_namespacedCodes
  refine ⟨⟨hid s, hid s, ?_, hreason s, hcode s⟩, ?_, ?_, f.splits_iff, g.reassembles_iff⟩
  · rw [DecisionEventEnvelope.validPluginId_eq_ok]
    exact hid s
  · exact forall_not_reservedUpToSpace_iff m.emits.codes_declarable
  · refine forall_not_reservedUpToSpace_iff ?_
    rintro code ⟨e, he, hcode⟩
    exact registry.codes_match e he code hcode

/-- A reason code with a newline behind is accepted, and a plugin declares a code of the composition
with one behind. -/
theorem code_grammar_newline :
    StructuredPluginRuleResult.validReasonCode "target_out_of_zone\n" =
        .ok "target_out_of_zone\n" ∧
      "target_out_of_zone\n".toList ∉ reasonCodes ∧
    ((PluginEmits.build "l3_validator" ["plugin_crash\n"]).bind
        (PluginManifest.build "l3.zone_policy" "l3_validator")).isOk = true ∧
      ReservedUpToSpace "plugin_crash\n" := by
  refine ⟨by decide +kernel, fun h => ?_, by decide +kernel, ?_⟩
  · exact absurd (isReasonCode_iff.mpr h) (by decide +kernel)
  · unfold ReservedUpToSpace
    decide +kernel

end MiniatureWarehouse
