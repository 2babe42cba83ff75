import MiniatureWarehouse.Framework.CodePoints
import MiniatureWarehouse.Framework.Documents

/-!
# Redaction of parameter dumps

A recording keeps a dump of every node's parameters, and recordings are copied and shared.  Before
a dump is written, its YAML is parsed, the tree is walked, and what is stored under a name that
reads as a credential is replaced; the paths of the replaced values are reported with the dump.

The parser and the emitter are parameters: `load` may raise, and so may `dump`, and then nothing is
written.  A parsed mapping has no key twice, which `Dump` carries.  Keys and leaves are `Atom`s, of
which the walk only asks whether they are strings; `κ` and `β` hold whatever the emitter can see of
the others.  Trees are finite: a node that an alias puts inside itself makes the walk raise, which
counts as `load` raising, or is stored under a sensitive name, where any leaf may stand for it.

The walk adds to the paths as it goes and assigns to the copy of each mapping; `redactTree_eq` says
that it masks the tree and reports the outermost sensitive keys (`Framework/Documents.lean`).  Two
dumps are therefore redacted alike exactly when they agree on all but their secrets
(`redact_eq_redact_iff`), and `redaction_noninterference` puts together what that means for the
text, the paths and the leaves.
-/

namespace MiniatureWarehouse

namespace Deploy

/-! ## Names -/

/-- `REDACT_NAME_TOKENS`. -/
def redactNameTokens : List PyStr :=
  ["key", "keys", "password", "passwd", "secret", "secrets", "token", "tokens", "credential",
    "credentials", "auth"].map fun word => .ofChars word.toList

/-- `REDACT_NAME_SUBSTRINGS`: `key` and `auth` are words only, or they would take
`keyframe_threshold` and `oauth_url` with them. -/
def redactNameSubstrings : List PyStr :=
  ["password", "passwd", "secret", "token", "credential", "apikey"].map fun needle =>
    .ofChars needle.toList

/-- The lower-case form of a code point, up to what the rules can tell apart.  Besides the ASCII
letters two have ASCII letters in theirs, the Kelvin sign and the dotted capital I; the form of any
other holds neither letters of a rule nor letters of a word, like the code point itself. -/
def lowerCodePoint (c : CodePoint) : PyStr :=
  if 0x41 ≤ c.val ∧ c.val ≤ 0x5a then [c + 0x20]
  else if c.val = 0x212a then [.ofChar 'k']
  else if c.val = 0x130 then [.ofChar 'i', 0x307]
  else [c]

/-- `name.lower()`. -/
def lower (name : PyStr) : PyStr := name.flatMap lowerCodePoint

/-- The code points `_NAME_SPLIT_RE` does not split at. -/
def isWordCodePoint (c : CodePoint) : Bool :=
  (0x61 ≤ c.val && c.val ≤ 0x7a) || (0x30 ≤ c.val && c.val ≤ 0x39)

/-- The parts of `_NAME_SPLIT_RE.split(lowered)` that are not empty. -/
def nameParts (lowered : PyStr) : List PyStr :=
  (lowered.splitOnP fun c => !isWordCodePoint c).filter fun part => !part.isEmpty

/-- `is_sensitive_parameter`. -/
def isSensitiveParameter (name : PyStr) : Bool :=
  let lowered := lower name
  (redactNameSubstrings.any fun needle => decide (needle <:+: lowered)) ||
    (nameParts lowered).any fun part => redactNameTokens.contains part

-- Words that only resemble one of the rules are settings.
example : ["api_key", "mytoken", "X-Auth", "dbPassword"].all
    (fun name => isSensitiveParameter (.ofChars name.toList)) = true := by decide +kernel

example : ["keyframe_threshold", "oauth_url", "turnkey_mode", "monkey_mode"].any
    (fun name => isSensitiveParameter (.ofChars name.toList)) = false := by decide +kernel

/-! ## The walk -/

/-- A value that is neither a mapping nor a list: `None`, a string, or another.  Only an explicit
tag makes the parser build a tuple or a set, and the walk takes these as they are. -/
inductive Atom (ι : Type*)
  | none
  | str (s : PyStr)
  | other (x : ι)
  deriving DecidableEq

/-- A parsed tree of mappings and lists. -/
abbrev Tree (κ β : Type*) := Doc (Atom κ) (Atom β)

/-- `REDACTED_VALUE`. -/
def redactedValue {β : Type*} : Atom β := .str (.ofChars "<redacted>".toList)

section Walk

variable {κ β : Type*} (otherText : κ → PyStr)

/-- `isinstance(name, str) and is_sensitive_parameter(name)`. -/
def isSensitiveKey : Atom κ → Bool
  | .str name => isSensitiveParameter name
  | _ => false

/-- `str(name)`. -/
def Atom.text : Atom κ → PyStr
  | .none => .ofChars "None".toList
  | .str s => s
  | .other x => otherText x

/-- `f"{path}.{name}" if path else str(name)`. -/
def keyPath (path : PyStr) (name : Atom κ) : PyStr :=
  if path.isEmpty then name.text otherText else path ++ .ofChar '.' :: name.text otherText

/-- `f"{path}[{index}]"`. -/
def indexPath (path : PyStr) (index : ℕ) : PyStr :=
  path ++ .ofChar '[' :: (PyStr.ofChars (toString index).toList ++ [.ofChar ']'])

/-- `parsed is None`. -/
def isNone : Tree κ β → Bool
  | .leaf .none => true
  | _ => false

lemma isNone_iff {t : Tree κ β} : isNone t = true ↔ t = .leaf .none := by
  constructor
  · intro h
    match t, h with
    | .leaf .none, _ => rfl
  · rintro rfl
    rfl

variable [DecidableEq κ]

mutual

/-- `_redact_tree`: the copy of the tree, and the hidden paths with those of the tree added. -/
def redactTree : Tree κ β → PyStr → List PyStr → Tree κ β × List PyStr
  | .dict es, path, hidden =>
    let (clean, hidden) := redactEntries es path [] hidden
    (.dict clean, hidden)
  | .list ds, path, hidden =>
    let (items, hidden) := redactItems ds path 0 hidden
    (.list items, hidden)
  | .leaf v, _, hidden => (.leaf v, hidden)

/-- The loop over `node.items()`. -/
def redactEntries : List (Atom κ × Tree κ β) → PyStr → List (Atom κ × Tree κ β) → List PyStr →
    List (Atom κ × Tree κ β) × List PyStr
  | [], _, clean, hidden => (clean, hidden)
  | (name, value) :: es, path, clean, hidden =>
    let here := keyPath otherText path name
    if isSensitiveKey name then
      redactEntries es path (Dict.assign clean name (.leaf redactedValue)) (hidden ++ [here])
    else
      let (value, hidden) := redactTree value here hidden
      redactEntries es path (Dict.assign clean name value) hidden

/-- The comprehension over `enumerate(node)`. -/
def redactItems : List (Tree κ β) → PyStr → ℕ → List PyStr → List (Tree κ β) × List PyStr
  | [], _, _, hidden => ([], hidden)
  | d :: ds, path, index, hidden =>
    let (item, hidden) := redactTree d (indexPath path index) hidden
    let (items, hidden) := redactItems ds path (index + 1) hidden
    (item :: items, hidden)

end

end Walk

/-- What `yaml.safe_load` returns: the keys of a mapping are distinct. -/
structure Dump (κ β : Type*) [DecidableEq κ] where
  tree : Tree κ β
  distinct : tree.keysDistinct = true

section Redact

variable {κ β ε : Type*} [DecidableEq κ] (otherText : κ → PyStr)

/-- `_redact_tree(parsed, "", [])`. -/
def redact (d : Dump κ β) : Tree κ β × List PyStr := redactTree otherText d.tree [] []

/-- `redact_parameter_dump`: the text to write and the paths redacted. -/
def redactParameterDump (load : PyStr → Except ε (Dump κ β))
    (dump : Tree κ β → Except ε PyStr) (dumped : PyStr) : Except ε (PyStr × List PyStr) :=
  (load dumped).bind fun parsed =>
    if isNone parsed.tree then .ok ([], [])
    else
      let (cleaned, hidden) := redact otherText parsed
      (dump cleaned).map fun dumped => (dumped, hidden)

end Redact

/-! ## What the walk computes -/

section Spec

variable {κ β : Type*} (otherText : κ → PyStr)

/-- The text the walk has for one step below the place with the text `path`. -/
def stepText (path : PyStr) : Doc.Step (Atom κ) → PyStr
  | .key name => keyPath otherText path name
  | .index i => indexPath path i

/-- The text the walk has for a place below the one with the text `path`.  Two places can have one
text: a name may hold a dot, and below an empty name at the root the text begins anew. -/
def pathText (path : PyStr) (p : Doc.Path (Atom κ)) : PyStr := p.foldl (stepText otherText) path

variable [DecidableEq κ] {otherText}

/-- What a tree without a repeated key comes out as. -/
def Walked (otherText : κ → PyStr) (d : Tree κ β) : Prop :=
  ∀ path hidden, redactTree otherText d path hidden =
    (d.mask isSensitiveKey redactedValue,
      hidden ++ (d.hiddenPaths isSensitiveKey).map (pathText otherText path))

lemma redactItems_eq {ds : List (Tree κ β)} (h : ∀ d ∈ ds, Walked otherText d) (path : PyStr)
    (index : ℕ) (hidden : List PyStr) :
    redactItems otherText ds path index hidden =
      (Doc.maskItems isSensitiveKey redactedValue ds,
        hidden ++ ((Doc.keyPathsItems ds index).filter (Doc.outermost isSensitiveKey)).map
          (pathText otherText path)) := by
  induction ds generalizing index hidden with
  | nil => rw [redactItems, Doc.maskItems, Doc.keyPathsItems, List.filter_nil, List.map_nil,
      List.append_nil]
  | cons d ds ih =>
    obtain ⟨hd, hds⟩ := List.forall_mem_cons.mp h
    rw [redactItems, hd]
    dsimp only
    rw [ih hds, Doc.maskItems, Doc.filter_keyPathsItems_cons, List.map_append, List.map_map,
      List.append_assoc]
    rfl

lemma redactEntries_eq {es : List (Atom κ × Tree κ β)} (h : ∀ e ∈ es, Walked otherText e.2)
    (path : PyStr) {clean : List (Atom κ × Tree κ β)}
    (hnodup : ((clean ++ es).map Prod.fst).Nodup) (hidden : List PyStr) :
    redactEntries otherText es path clean hidden =
      (clean ++ Doc.maskEntries isSensitiveKey redactedValue es,
        hidden ++ ((Doc.keyPathsEntries es).filter (Doc.outermost isSensitiveKey)).map
          (pathText otherText path)) := by
  induction es generalizing clean hidden with
  | nil => rw [redactEntries, Doc.maskEntries, Doc.keyPathsEntries, List.filter_nil, List.map_nil,
      List.append_nil, List.append_nil]
  | cons e es ih =>
    obtain ⟨hd, hes⟩ := List.forall_mem_cons.mp h
    obtain ⟨name, value⟩ := e
    have hfresh : name ∉ clean.map Prod.fst := by
      rw [List.map_append, List.nodup_append] at hnodup
      exact fun hmem => hnodup.2.2 name hmem name (by simp) rfl
    have hnext : ∀ v : Tree κ β, (((clean ++ [(name, v)]) ++ es).map Prod.fst).Nodup := by
      intro v
      simpa using hnodup
    rw [redactEntries, Doc.maskEntries, Doc.filter_keyPathsEntries_cons]
    dsimp only
    by_cases hk : isSensitiveKey name = true
    · rw [if_pos hk, if_pos hk, if_pos hk, Dict.assign_of_notMem hfresh, ih hes (hnext _),
        List.append_assoc, List.append_assoc]
      rfl
    · rw [if_neg hk, if_neg hk, if_neg hk, hd]
      dsimp only
      rw [Dict.assign_of_notMem hfresh, ih hes (hnext _), List.map_append, List.map_map,
        List.append_assoc, List.append_assoc]
      rfl

/-- The walk masks the tree and adds the paths of its outermost sensitive keys. -/
lemma redactTree_eq {d : Tree κ β} (hd : d.keysDistinct = true) : Walked otherText d := by
  induction d using Doc.induction with
  | leaf v =>
    intro path hidden
    rw [redactTree, Doc.mask, Doc.hiddenPaths, Doc.keyPaths, List.filter_nil, List.map_nil,
      List.append_nil]
  | list ds ih =>
    intro path hidden
    have hds := Doc.keysDistinct_list.mp hd
    rw [redactTree, redactItems_eq fun d hmem => ih d hmem (hds d hmem)]
    rfl
  | dict es ih =>
    intro path hidden
    obtain ⟨hnodup, hes⟩ := Doc.keysDistinct_dict.mp hd
    rw [redactTree, redactEntries_eq (fun e hmem => ih e hmem (hes e hmem)) path (by simpa)]
    rfl

/-- Redacting a dump masks it and reports its outermost sensitive keys. -/
lemma redact_eq (d : Dump κ β) :
    redact otherText d = (d.tree.mask isSensitiveKey redactedValue,
      (d.tree.hiddenPaths isSensitiveKey).map (pathText otherText [])) := by
  rw [redact, redactTree_eq d.distinct, List.nil_append]

/-! ## Two dumps -/

/-- Two dumps that differ at most in what is stored under sensitive names, at any depth. -/
def Dump.AgreeButSecrets (d d' : Dump κ β) : Prop :=
  Doc.AgreeOutside isSensitiveKey d.tree d'.tree

/-- A redacted dump tells all of a dump but what is stored under its sensitive names. -/
lemma redact_eq_redact_iff {d d' : Dump κ β} :
    redact otherText d = redact otherText d' ↔ d.AgreeButSecrets d' := by
  rw [redact_eq, redact_eq, Dump.AgreeButSecrets, ← Doc.mask_eq_mask_iff, Prod.mk.injEq]
  constructor
  · rintro ⟨hmask, -⟩
    exact hmask
  · intro hmask
    refine ⟨hmask, ?_⟩
    have hpaths := congrArg (Doc.hiddenPaths isSensitiveKey) hmask
    rw [Doc.hiddenPaths_mask, Doc.hiddenPaths_mask] at hpaths
    rw [hpaths]

lemma Dump.AgreeButSecrets.isNone_eq {d d' : Dump κ β} (h : d.AgreeButSecrets d') :
    isNone d.tree = isNone d'.tree := by
  have htrees : ∀ t t' : Tree κ β, Doc.AgreeOutside isSensitiveKey t t' → isNone t = isNone t' := by
    intro t t' h
    cases h with
    | leaf v => rfl
    | list h => rfl
    | dict h => rfl
  exact htrees d.tree d'.tree h

section Texts

variable {ε : Type*} {load : PyStr → Except ε (Dump κ β)} {dump : Tree κ β → Except ε PyStr}

/-- The texts that are written, and the paths reported, are the same for two texts whose dumps
differ in secrets only. -/
lemma redactParameterDump_eq {d d' : Dump κ β} (h : d.AgreeButSecrets d') {t t' : PyStr}
    (ht : load t = .ok d) (ht' : load t' = .ok d') :
    redactParameterDump otherText load dump t = redactParameterDump otherText load dump t' := by
  rw [redactParameterDump, redactParameterDump, ht, ht']
  dsimp only [Except.bind]
  rw [h.isNone_eq, redact_eq_redact_iff.mpr h]

/-- The paths reported with a text are those of its dump. -/
lemma hidden_of_redactParameterDump {d : Dump κ β} {t out : PyStr} {hidden : List PyStr}
    (ht : load t = .ok d)
    (h : redactParameterDump otherText load dump t = .ok (out, hidden)) :
    hidden = (redact otherText d).2 := by
  rw [redactParameterDump, ht] at h
  dsimp only [Except.bind] at h
  by_cases hnone : isNone d.tree = true
  · rw [if_pos hnone] at h
    obtain ⟨-, rfl⟩ := Prod.mk.inj (Except.ok.inj h)
    rw [redact_eq, isNone_iff.mp hnone]
    rfl
  · rw [if_neg hnone] at h
    obtain ⟨_, -, h⟩ := exceptMap_eq_ok.mp h
    exact (Prod.mk.inj h).2.symm

/-- Two dumps that differ only in what is stored under sensitive names are redacted to the same
tree, text and paths.  The paths are those of the sensitive keys below no sensitive key, in the
order of the dump and each once, and every leaf below no sensitive key stays where it stands. -/
theorem redaction_noninterference (otherText : κ → PyStr) (load : PyStr → Except ε (Dump κ β))
    (dump : Tree κ β → Except ε PyStr) (d : Dump κ β) :
    (∀ d' : Dump κ β, d.AgreeButSecrets d' →
      redact otherText d = redact otherText d' ∧
      ∀ t t', load t = .ok d → load t' = .ok d' →
        redactParameterDump otherText load dump t = redactParameterDump otherText load dump t') ∧
    ((redact otherText d).2 = (d.tree.hiddenPaths isSensitiveKey).map (pathText otherText []) ∧
      ∀ t out hidden, load t = .ok d →
        redactParameterDump otherText load dump t = .ok (out, hidden) →
          hidden = (d.tree.hiddenPaths isSensitiveKey).map (pathText otherText [])) ∧
    ((d.tree.hiddenPaths isSensitiveKey).Nodup ∧
      ∀ p, p ∈ d.tree.hiddenPaths isSensitiveKey ↔
        ∃ q k, p = q ++ [.key k] ∧ isSensitiveKey k = true ∧ Doc.Clear isSensitiveKey q ∧
          ∃ c, d.tree.at? p = some c) ∧
    ∀ p v, Doc.Clear isSensitiveKey p → d.tree.at? p = some (.leaf v) →
      (redact otherText d).1.at? p = some (.leaf v) := by
  have hpaths : (redact otherText d).2 =
      (d.tree.hiddenPaths isSensitiveKey).map (pathText otherText []) := by rw [redact_eq]
  refine ⟨?_, ⟨hpaths, ?_⟩, ⟨?_, ?_⟩, ?_⟩
  · intro d' h
    exact ⟨redact_eq_redact_iff.mpr h, fun t t' ht ht' => redactParameterDump_eq h ht ht'⟩
  · intro t out hidden ht h
    rw [hidden_of_redactParameterDump ht h, hpaths]
  · exact Doc.nodup_hiddenPaths d.distinct
  · intro p
    exact Doc.mem_hiddenPaths d.distinct
  · intro p v hp hat
    rw [redact_eq, Doc.at?_mask hp, hat]
    rfl

end Texts

end Spec

/-! ### Two accounts -/

/-- A string as a key or a leaf. -/
def str {ι : Type*} (s : String) : Atom ι := .str (.ofChars s.toList)

/-- The parameters of a node with a key and an account. -/
def accounts (apiKey token : Tree ℤ ℤ) : Tree ℤ ℤ :=
  .dict [(str "/n", .dict [
    (str "api_key", apiKey),
    (str "accounts", .list [.dict [(str "token", token), (.other 1, .leaf (str "bob"))]])])]

/-- A key that is a list and a token that is a mapping. -/
def listKey : Tree ℤ ℤ :=
  accounts (.list [.leaf (str "x")]) (.dict [(.other 2, .leaf .none)])

/-- A key that is a text and a token that is an empty list. -/
def textKey : Tree ℤ ℤ := accounts (.leaf (str "abc")) (.list [])

/-- `str` of an integer. -/
def intText (i : ℤ) : PyStr := .ofChars (toString i).toList

/-- A dump of one credential and one setting. -/
def login (token : Tree ℤ ℤ) : Tree ℤ ℤ :=
  .dict [(str "token", token), (str "user", .leaf (str "bob"))]

/-- Two texts of such dumps, one with a block sequence below the name. -/
def loadLogin (t : PyStr) : Except PyErr (Dump ℤ ℤ) :=
  if t = .ofChars "token: abc\nuser: bob\n".toList then
    .ok ⟨login (.leaf (str "abc")), by decide +kernel⟩
  else if t = .ofChars "token:\n- x\n- y\nuser: bob\n".toList then
    .ok ⟨login (.list [.leaf (str "x"), .leaf (str "y")]), by decide +kernel⟩
  else .error .valueError

/-- A line of a mapping from strings to strings that need no quotes. -/
def dumpLine : Atom ℤ × Tree ℤ ℤ → Except PyErr PyStr
  | (.str name, .leaf (.str v)) =>
    .ok (name ++ .ofChars ": ".toList ++ v ++ .ofChars "\n".toList)
  | _ => .error .typeError

/-- The emitter on such mappings. -/
def dumpLines : Tree ℤ ℤ → Except PyErr PyStr
  | .dict es => (es.mapM dumpLine).map List.flatten
  | _ => .error .typeError

/-- Two nodes with different credentials of every shape, and the two logins. -/
theorem redaction_noninterference_accounts :
    redact intText ⟨listKey, by decide +kernel⟩ = redact intText ⟨textKey, by decide +kernel⟩ ∧
      (redact intText ⟨listKey, by decide +kernel⟩).2 =
        [.ofChars "/n.api_key".toList, .ofChars "/n.accounts[0].token".toList] ∧
      (redact intText ⟨listKey, by decide +kernel⟩).1.at?
          [.key (str "/n"), .key (str "accounts"), .index 0, .key (.other 1)] =
        some (.leaf (str "bob")) ∧
      redactParameterDump intText loadLogin dumpLines
          (.ofChars "token: abc\nuser: bob\n".toList) =
        redactParameterDump intText loadLogin dumpLines
          (.ofChars "token:\n- x\n- y\nuser: bob\n".toList) := by
  have hkey : isSensitiveKey (str "api_key" : Atom ℤ) = true := by decide +kernel
  have htoken : isSensitiveKey (str "token" : Atom ℤ) = true := by decide +kernel
  have hagree : Dump.AgreeButSecrets ⟨listKey, by decide +kernel⟩ ⟨textKey, by decide +kernel⟩ :=
    .dict (.shown (.dict (.hidden hkey (.shown (.list (.cons
      (.dict (.hidden htoken (.shown (.leaf _) .nil))) .nil)) .nil))) .nil)
  have hlogin : Dump.AgreeButSecrets ⟨login (.leaf (str "abc")), by decide +kernel⟩
      ⟨login (.list [.leaf (str "x"), .leaf (str "y")]), by decide +kernel⟩ :=
    .dict (.hidden htoken (.shown (.leaf _) .nil))
  have h := redaction_noninterference intText loadLogin dumpLines ⟨listKey, by decide +kernel⟩
  have ht := redaction_noninterference intText loadLogin dumpLines
    ⟨login (.leaf (str "abc")), by decide +kernel⟩
  refine ⟨(h.1 _ hagree).1, ?_, h.2.2.2 _ _ ?_ rfl, (ht.1 _ hlogin).2 _ _ rfl rfl⟩
  · decide +kernel
  · intro k hk
    have hcases : k = str "/n" ∨ k = str "accounts" ∨ k = .other 1 := by
      simpa using hk
    obtain rfl | rfl | rfl := hcases
    · decide +kernel
    · decide +kernel
    · rfl

end Deploy

end MiniatureWarehouse
