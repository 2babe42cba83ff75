import MiniatureWarehouse.Framework.CodePoints
import MiniatureWarehouse.Framework.Overlay
import MiniatureWarehouse.Interfaces.Safety
import Mathlib.Data.List.ReduceOption

/-!
# The configuration loader

Every node resolves its configuration through `load_config` of `warehouse_interfaces.config`: the
base file, the file of the environment, then the variables whose names start with `WAREHOUSE__`,
each merged over what came before, and at the end the speed cap and the battery scale are checked.

The YAML parser is a parameter, which may raise; a parsed mapping has no key twice, which
`YamlDoc` carries.  Keys are a type `κ` that strings embed into by `key`, for a mapping may also
have a number or a date as a key.  `lower` is the case mapping of strings.

A configuration is checked after the merge only.  What that amounts to for the layers, of which
any may hold a cap, is `loadConfig_iff`: nothing but the last layer that decides about the cap
counts, and it cannot be raised above the hard limit by any layer.  `loadConfig_variable` says
which places a variable reaches.
-/

namespace MiniatureWarehouse

namespace Config

/-! ## Documents -/

/-- A scalar of a YAML document: `None`, a boolean, a number, a string, or a value of another kind
(a date, bytes), of which the loader only asks whether it counts as true. -/
inductive Scalar (ι α : Type*)
  | null
  | bool (b : Bool)
  | int (i : ℤ)
  | float (x : PyFloat α)
  | str (s : PyStr)
  | other (truth : Bool) (x : ι)

/-- A parsed value. -/
abbrev Value (κ ι α : Type*) := Doc κ (Scalar ι α)

/-- What `yaml.safe_load` returns: the keys of a mapping are distinct. -/
structure YamlDoc (κ ι α : Type*) [DecidableEq κ] where
  doc : Value κ ι α
  distinct : doc.keysDistinct = true

/-- Why the checks of the loader refuse a value. -/
inductive Refusal (κ ι α : Type*)
  | capNotANumber (cap : Value κ ι α)
  | capNotPositive (cap : Value κ ι α)
  | capAboveHardCap (cap : Value κ ι α)
  | batteryScale (scale : Value κ ι α)

/-- What the loader raises: an exception of the parser, the `AttributeError` of a layer without
`items`, the `OverflowError` of a cap too large for a float, or a `ValueError` of its own. -/
inductive ConfigErr (κ ι α ε : Type*)
  | yaml (e : ε)
  | noItems (layer : Value κ ι α)
  | capOverflow
  | refused (r : Refusal κ ι α)

section Loader

variable {κ ι α ε : Type*} [DecidableEq κ] [Field α] [LinearOrder α] [IsStrictOrderedRing α]
  (F : FloatFormat α) (key : PyStr → κ) (lower : PyStr → PyStr)
  (safeLoad : PyStr → Except ε (YamlDoc κ ι α))

/-- A string literal of the source. -/
def text (s : String) : PyStr := .ofChars s.toList

/-- The text of a refusal, when `repr`, `str` and `typeName` are the functions of the language. -/
def Refusal.message (repr str typeName : Value κ ι α → String) (hardCap : String) :
    Refusal κ ι α → String
  | .capNotANumber cap =>
    "config safety.max_linear_velocity=" ++ repr cap ++ " must be a number (int or float), got " ++
      typeName cap ++ " (rules/safety.md)"
  | .capNotPositive cap =>
    "config safety.max_linear_velocity=" ++ str cap ++
      " must be a finite positive value (got non-finite or <= 0) (rules/safety.md)"
  | .capAboveHardCap cap =>
    "config safety.max_linear_velocity=" ++ str cap ++
      " exceeds hard cap MAX_LINEAR_VELOCITY=" ++ hardCap ++ " m/s (rules/safety.md)"
  | .batteryScale scale =>
    "config safety.battery_percentage_scale=" ++ repr scale ++
      " invalid; expected one of ('percent', 'fraction')"

/-! ## The layers -/

/-- `bool(data)`. -/
def truthy : Value κ ι α → Bool
  | .leaf .null => false
  | .leaf (.bool b) => b
  | .leaf (.int i) => decide (i ≠ 0)
  | .leaf (.float x) => decide (x ≠ .fin 0)
  | .leaf (.str s) => !s.isEmpty
  | .leaf (.other truth _) => truth
  | .list ds => !ds.isEmpty
  | .dict es => !es.isEmpty

/-- An empty mapping. -/
def YamlDoc.empty : YamlDoc κ ι α := ⟨.dict [], rfl⟩

/-- `_deep_merge`. -/
def YamlDoc.deepMerge (base overlay : YamlDoc κ ι α) : YamlDoc κ ι α where
  doc := .mergeValue (some base.doc) overlay.doc
  distinct := Doc.keysDistinct_mergeValue overlay.distinct fun _ hc => by
    cases hc
    exact base.distinct

/-- The layer of a file: what counts as false is an empty mapping, and what else is none has no
`items`. -/
def fileLayer (content : PyStr) : Except (ConfigErr κ ι α ε) (YamlDoc κ ι α) :=
  match safeLoad content with
  | .error e => .error (.yaml e)
  | .ok data =>
    if truthy data.doc then
      match data.doc with
      | .dict _ => .ok data
      | layer => .error (.noItems layer)
    else .ok .empty

/-- `ENV_PREFIX`. -/
def envPrefix : PyStr := text "WAREHOUSE__"

/-- `s.split("__")`, when `part` was read since the last separator, backwards. -/
def splitFrom : PyStr → PyStr → List PyStr
  | part, c :: d :: cs =>
    if c = .ofChar '_' ∧ d = .ofChar '_' then part.reverse :: splitFrom [] cs
    else splitFrom (c :: part) (d :: cs)
  | part, [c] => [(c :: part).reverse]
  | part, [] => [part.reverse]

/-- The nested keys a variable names, if it is one of the loader's. -/
def envKeys (name : PyStr) : Option (List PyStr) :=
  if envPrefix <+: name then
    some (((splitFrom [] (name.drop envPrefix.length)).filter fun part => !part.isEmpty).map lower)
  else none

/-- `_nest`. -/
def nest (keys : List PyStr) (value : YamlDoc κ ι α) : YamlDoc κ ι α :=
  keys.foldr (fun k d => ⟨.dict [(key k, d.doc)], Doc.keysDistinct_dict.mpr
    ⟨List.nodup_singleton _, fun e he => by
      rw [List.mem_singleton.mp he]
      exact d.distinct⟩⟩) value

/-- The layer of a variable, if it is one of the loader's and names a key. -/
def variableLayer (name raw : PyStr) :
    Except (ConfigErr κ ι α ε) (Option (YamlDoc κ ι α)) :=
  match envKeys lower name with
  | none | some [] => .ok none
  | some (k :: keys) =>
    match safeLoad raw with
    | .error e => .error (.yaml e)
    | .ok value => .ok (some (nest key (k :: keys) value))

/-- `_apply_env_overrides`. -/
def applyEnvOverrides (cfg : YamlDoc κ ι α) (environ : List (PyStr × PyStr)) :
    Except (ConfigErr κ ι α ε) (YamlDoc κ ι α) :=
  environ.foldlM (fun merged (name, raw) => do
    match ← variableLayer key lower safeLoad name raw with
    | none => pure merged
    | some layer => pure (merged.deepMerge layer)) cfg

/-! ## The checks -/

/-- The check of the cap. -/
def checkCap : Option (Value κ ι α) → Except (ConfigErr κ ι α ε) Unit
  | none | some (.leaf .null) => .ok ()
  | some (.leaf (.int i)) =>
    if !(F.round i).isFinite then .error .capOverflow
    else if i ≤ 0 then .error (.refused (.capNotPositive (.leaf (.int i))))
    else if maxLinearVelocity F < .fin (i : α) then
      .error (.refused (.capAboveHardCap (.leaf (.int i))))
    else .ok ()
  | some (.leaf (.float x)) =>
    if !x.isFinite || decide (x ≤ .fin 0) then .error (.refused (.capNotPositive (.leaf (.float x))))
    else if maxLinearVelocity F < x then .error (.refused (.capAboveHardCap (.leaf (.float x))))
    else .ok ()
  | some cap => .error (.refused (.capNotANumber cap))

/-- The check of the battery scale. -/
def checkScale : Option (Value κ ι α) → Except (ConfigErr κ ι α ε) Unit
  | none | some (.leaf .null) => .ok ()
  | some (.leaf (.str s)) =>
    if s = text "percent" ∨ s = text "fraction" then .ok ()
    else .error (.refused (.batteryScale (.leaf (.str s))))
  | some scale => .error (.refused (.batteryScale scale))

/-- `_validate_safety`. -/
def validateSafety : Value κ ι α → Except (ConfigErr κ ι α ε) Unit
  | .dict cfg =>
    match Dict.find cfg (key (text "safety")) with
    | some (.dict safety) => do
      checkCap F (Dict.find safety (key (text "max_linear_velocity")))
      checkScale (Dict.find safety (key (text "battery_percentage_scale")))
    | _ => .ok ()
  | _ => .ok ()

/-- `load_config` on the contents of the files, of which some may be missing. -/
def loadConfig (files : List (Option PyStr)) (environ : List (PyStr × PyStr)) :
    Except (ConfigErr κ ι α ε) (YamlDoc κ ι α) := do
  let merged ← files.foldlM (fun merged file => do
    match file with
    | none => pure merged
    | some content => pure (merged.deepMerge (← fileLayer safeLoad content))) YamlDoc.empty
  let merged ← applyEnvOverrides key lower safeLoad merged environ
  (validateSafety F key merged.doc).map fun _ => merged

end Loader

/-! ## The layers alone -/

section Layers

variable {κ ι α ε : Type*} [DecidableEq κ] {key : PyStr → κ} {lower : PyStr → PyStr}

/-- A loop that adds what it reads to an accumulator reads everything first. -/
lemma foldlM_eq_map {ε β γ δ : Type*} (f : γ → Except ε δ) (add : β → δ → β) (b : β)
    (xs : List γ) :
    xs.foldlM (fun b x => (f x).map (add b)) b = (xs.mapM f).map fun ys => ys.foldl add b := by
  induction xs generalizing b with
  | nil => rfl
  | cons x xs ih =>
    rw [List.foldlM_cons, List.mapM_cons]
    cases hx : f x with
    | error e => rfl
    | ok y =>
      refine (ih (add b y)).trans ?_
      cases hxs : xs.mapM f with
      | error e => rfl
      | ok ys => rfl

/-- All layers over one another. -/
def mergeLayers (layers : List (YamlDoc κ ι α)) : YamlDoc κ ι α :=
  layers.foldl YamlDoc.deepMerge .empty

/-- What the layers decide about a place: what the last one to decide about it does. -/
def decided (layers : List (YamlDoc κ ι α)) (p : List κ) : Doc.Seen κ (Scalar ι α) :=
  (Doc.lastDecides (layers.map YamlDoc.doc) p).getD ((YamlDoc.empty : YamlDoc κ ι α).doc.seen p)

lemma doc_foldl_deepMerge (layers : List (YamlDoc κ ι α)) (base : YamlDoc κ ι α) :
    (layers.foldl YamlDoc.deepMerge base).doc =
      Doc.mergeAll base.doc (layers.map YamlDoc.doc) := by
  induction layers generalizing base with
  | nil => rfl
  | cons layer layers ih => exact ih (base.deepMerge layer)

lemma seen_mergeLayers (layers : List (YamlDoc κ ι α)) (p : List κ) :
    (mergeLayers layers).doc.seen p = decided layers p := by
  unfold mergeLayers decided
  rw [doc_foldl_deepMerge, Doc.seen_mergeAll]
  intro d hd
  obtain ⟨layer, -, rfl⟩ := List.mem_map.mp hd
  exact layer.distinct

lemma foldl_reduceOption {β γ : Type*} (add : β → γ → β) (b : β) (xs : List (Option γ)) :
    xs.foldl (fun b x => x.elim b (add b)) b = xs.reduceOption.foldl add b := by
  induction xs generalizing b with
  | nil => rfl
  | cons x xs ih => cases x <;> exact ih _

variable [Field α] [LinearOrder α] {safeLoad : PyStr → Except ε (YamlDoc κ ι α)}

variable (key lower safeLoad) in
/-- The layers of the files that exist and of the variables, in the order they count. -/
def layersOf (files : List (Option PyStr)) (environ : List (PyStr × PyStr)) :
    Except (ConfigErr κ ι α ε) (List (YamlDoc κ ι α)) :=
  ((files.filterMap id).mapM (fileLayer safeLoad)).bind fun layers =>
    (environ.mapM fun e => variableLayer key lower safeLoad e.1 e.2).map fun overrides =>
      layers ++ overrides.reduceOption

/-- The loop over the files reads the ones that exist, then merges them. -/
lemma foldlM_files (files : List (Option PyStr)) (base : YamlDoc κ ι α) :
    (files.foldlM (fun merged file => do
      match file with
      | none => pure merged
      | some content => pure (merged.deepMerge (← fileLayer safeLoad content))) base :
        Except (ConfigErr κ ι α ε) (YamlDoc κ ι α)) =
      ((files.filterMap id).mapM (fileLayer safeLoad)).map fun layers =>
        layers.foldl YamlDoc.deepMerge base := by
  rw [← foldlM_eq_map, List.foldlM_filterMap]
  congr
  funext merged file
  cases file with
  | none => rfl
  | some content =>
    dsimp only [id]
    cases (fileLayer safeLoad content : Except (ConfigErr κ ι α ε) _) <;> rfl

omit [Field α] [LinearOrder α] in
/-- The loop over the variables reads them all, then merges the layers among them. -/
lemma applyEnvOverrides_eq (environ : List (PyStr × PyStr)) (base : YamlDoc κ ι α) :
    applyEnvOverrides key lower safeLoad base environ =
      (environ.mapM fun e => variableLayer key lower safeLoad e.1 e.2).map fun overrides =>
        overrides.reduceOption.foldl YamlDoc.deepMerge base := by
  have hloop := foldlM_eq_map (fun e : PyStr × PyStr => variableLayer key lower safeLoad e.1 e.2)
    (fun (merged : YamlDoc κ ι α) layer => layer.elim merged merged.deepMerge) base environ
  have hfold : ∀ overrides : List (Option (YamlDoc κ ι α)),
      overrides.foldl (fun merged layer => layer.elim merged merged.deepMerge) base =
        overrides.reduceOption.foldl YamlDoc.deepMerge base :=
    foldl_reduceOption YamlDoc.deepMerge base
  simp only [hfold] at hloop
  rw [← hloop]
  unfold applyEnvOverrides
  congr
  funext merged ⟨name, raw⟩
  dsimp only
  cases (variableLayer key lower safeLoad name raw : Except (ConfigErr κ ι α ε) _) with
  | error e => rfl
  | ok layer => cases layer <;> rfl

variable [IsStrictOrderedRing α] {F : FloatFormat α}

/-- **What the loader computes**: the layers, one after another, then their merge. -/
lemma loadConfig_eq (files : List (Option PyStr)) (environ : List (PyStr × PyStr)) :
    loadConfig F key lower safeLoad files environ =
      (layersOf key lower safeLoad files environ).bind fun layers =>
        (validateSafety F key (mergeLayers layers).doc).map fun _ => mergeLayers layers := by
  unfold loadConfig layersOf
  rw [foldlM_files]
  cases ((files.filterMap id).mapM (fileLayer safeLoad) :
      Except (ConfigErr κ ι α ε) (List (YamlDoc κ ι α))) with
  | error e => rfl
  | ok layers =>
    simp only [Except.map, Except.bind, bind, applyEnvOverrides_eq]
    cases (environ.mapM fun e => variableLayer key lower safeLoad e.1 e.2 :
        Except (ConfigErr κ ι α ε) (List (Option (YamlDoc κ ι α)))) with
    | error e => rfl
    | ok overrides =>
      dsimp only
      unfold mergeLayers
      rw [List.foldl_append]

/-! ## What the checks let pass -/

/-- What the loader accepts as the cap: none at all, or a positive number that is not above the
hard cap. -/
def CapAllowed (F : FloatFormat α) : Doc.Seen κ (Scalar ι α) → Prop
  | .absent | .plain (.leaf .null) => True
  | .plain (.leaf (.int i)) =>
    (F.round i).isFinite = true ∧ 0 < i ∧ .fin (i : α) ≤ maxLinearVelocity F
  | .plain (.leaf (.float x)) => x.isFinite = true ∧ .fin 0 < x ∧ x ≤ maxLinearVelocity F
  | _ => False

/-- What the loader accepts as the battery scale. -/
def ScaleAllowed : Doc.Seen κ (Scalar ι α) → Prop
  | .absent | .plain (.leaf .null) => True
  | .plain (.leaf (.str s)) => s = text "percent" ∨ s = text "fraction"
  | _ => False

/-- A number is above the hard cap, or it is not. -/
lemma not_aboveHardCap_iff {x : α} :
    ¬ maxLinearVelocity F < .fin x ↔ .fin x ≤ maxLinearVelocity F :=
  ⟨PyFloat.le_of_not_lt (by simp) (F.round_ne_nan _), PyFloat.not_lt_of_le⟩

lemma checkCap_eq_ok {o : Option (Value κ ι α)} :
    checkCap F o = (.ok () : Except (ConfigErr κ ι α ε) Unit) ↔
      CapAllowed F (Doc.seenUnder o []) := by
  rcases o with _ | ((_ | b | i | x | s | ⟨truth, x⟩) | ds | es)
  · exact iff_of_true rfl trivial
  · exact iff_of_true rfl trivial
  · exact iff_of_false (fun h => by cases h) id
  · simp only [checkCap, CapAllowed, Doc.seenUnder, Doc.seen, Doc.decides, Option.getD_some]
    rw [← not_aboveHardCap_iff]
    split_ifs with hfin hpos habove
    · simp_all
    · simp_all
    · simp_all
    · simp_all
  · simp only [checkCap, CapAllowed, Doc.seenUnder, Doc.seen, Doc.decides, Option.getD_some]
    cases x with
    | fin x =>
      rw [← not_aboveHardCap_iff]
      split_ifs with hpos habove
      · simp_all
      · simp_all
      · simp_all
    | _ => simp
  · exact iff_of_false (fun h => by cases h) id
  · exact iff_of_false (fun h => by cases h) id
  · exact iff_of_false (fun h => by cases h) id
  · exact iff_of_false (fun h => by cases h) id

omit [Field α] [LinearOrder α] [IsStrictOrderedRing α] in
lemma checkScale_eq_ok {o : Option (Value κ ι α)} :
    checkScale o = (.ok () : Except (ConfigErr κ ι α ε) Unit) ↔
      ScaleAllowed (Doc.seenUnder o []) := by
  rcases o with _ | ((_ | b | i | x | s | ⟨truth, x⟩) | ds | es)
  case some.leaf.str =>
    simp only [checkScale, ScaleAllowed, Doc.seenUnder, Doc.seen, Doc.decides, Option.getD_some]
    split_ifs with hs
    · exact iff_of_true rfl hs
    · exact iff_of_false (fun h => by cases h) hs
  case none => exact iff_of_true rfl trivial
  case some.leaf.null => exact iff_of_true rfl trivial
  all_goals exact iff_of_false (fun h => by cases h) id

/-- The checks ask about two places only. -/
lemma validateSafety_eq_ok {cfg : Value κ ι α} :
    validateSafety F key cfg = (.ok () : Except (ConfigErr κ ι α ε) Unit) ↔
      CapAllowed F (cfg.seen [key (text "safety"), key (text "max_linear_velocity")]) ∧
        ScaleAllowed
          (cfg.seen [key (text "safety"), key (text "battery_percentage_scale")]) := by
  rcases cfg with v | ds | cfg
  · exact iff_of_true rfl ⟨trivial, trivial⟩
  · exact iff_of_true rfl ⟨trivial, trivial⟩
  · rw [validateSafety, Doc.seen_dict_cons, Doc.seen_dict_cons]
    rcases Dict.find cfg (key (text "safety")) with _ | (v | ds | safety)
    · exact iff_of_true rfl ⟨trivial, trivial⟩
    · exact iff_of_true rfl ⟨trivial, trivial⟩
    · exact iff_of_true rfl ⟨trivial, trivial⟩
    · rw [Doc.seenUnder, Doc.seenUnder, Doc.seen_dict_cons, Doc.seen_dict_cons, ← checkScale_eq_ok,
        ← checkCap_eq_ok]
      constructor
      · intro h
        obtain ⟨⟨⟩, hcap, hscale⟩ := exceptBind_eq_ok.mp h
        exact ⟨hcap, hscale⟩
      · rintro ⟨hcap, hscale⟩
        exact exceptBind_eq_ok.mpr ⟨(), hcap, hscale⟩

variable (key lower safeLoad F) in
/-- **Only the last word counts, and none can raise the cap.**  The loader returns a configuration
exactly when every layer can be read and what the layers decide about the cap and the battery scale
is allowed; and then every place shows what the last layer to decide about it decides.  So the
speed cap of an accepted configuration is a positive number not above the hard cap, or there is
none, whatever any of the layers holds. -/
theorem loadConfig_iff (files : List (Option PyStr)) (environ : List (PyStr × PyStr)) :
    (∀ cfg : YamlDoc κ ι α,
      loadConfig F key lower safeLoad files environ = .ok cfg ↔
        ∃ layers, layersOf key lower safeLoad files environ = .ok layers ∧
          CapAllowed F (decided layers [key (text "safety"), key (text "max_linear_velocity")]) ∧
          ScaleAllowed
            (decided layers [key (text "safety"), key (text "battery_percentage_scale")]) ∧
          cfg = mergeLayers layers) ∧
    ∀ cfg : YamlDoc κ ι α, loadConfig F key lower safeLoad files environ = .ok cfg →
      ∃ layers, layersOf key lower safeLoad files environ = .ok layers ∧
        ∀ p, cfg.doc.seen p = decided layers p := by
  have hiff : ∀ cfg : YamlDoc κ ι α, loadConfig F key lower safeLoad files environ = .ok cfg ↔
      ∃ layers, layersOf key lower safeLoad files environ = .ok layers ∧
        CapAllowed F (decided layers [key (text "safety"), key (text "max_linear_velocity")]) ∧
        ScaleAllowed
          (decided layers [key (text "safety"), key (text "battery_percentage_scale")]) ∧
        cfg = mergeLayers layers := by
    intro cfg
    rw [loadConfig_eq]
    constructor
    · intro h
      obtain ⟨layers, hlayers, hmap⟩ := exceptBind_eq_ok.mp h
      obtain ⟨⟨⟩, hvalid, rfl⟩ := exceptMap_eq_ok.mp hmap
      obtain ⟨hcap, hscale⟩ := validateSafety_eq_ok.mp hvalid
      rw [seen_mergeLayers] at hcap hscale
      exact ⟨layers, hlayers, hcap, hscale, rfl⟩
    · rintro ⟨layers, hlayers, hcap, hscale, rfl⟩
      rw [← seen_mergeLayers] at hcap hscale
      exact exceptBind_eq_ok.mpr ⟨layers, hlayers,
        exceptMap_eq_ok.mpr ⟨(), validateSafety_eq_ok.mpr ⟨hcap, hscale⟩, rfl⟩⟩
  refine ⟨hiff, fun cfg h => ?_⟩
  obtain ⟨layers, hlayers, -, -, rfl⟩ := (hiff cfg).mp h
  exact ⟨layers, hlayers, seen_mergeLayers layers⟩

end Layers

/-! ## What a variable reaches -/

section Variables

/-- The underscore. -/
def underscore : CodePoint := .ofChar '_'

/-- A name that may stand between separators: not empty, without two underscores in a row, and
without one at its end. -/
structure IsPart (part : PyStr) : Prop where
  ne_nil : part ≠ []
  noPair : ¬ [underscore, underscore] <:+: part
  last : part.getLast? ≠ some underscore

/-- `"__".join(parts)`. -/
def joinParts : List PyStr → PyStr
  | [] => []
  | [part] => part
  | part :: parts => part ++ underscore :: underscore :: joinParts parts

/-- No separator starts inside of a part. -/
lemma splitFrom_cons {c : CodePoint} {rest : PyStr}
    (h : ¬ [underscore, underscore] <+: c :: rest) (hrest : rest ≠ []) (read : PyStr) :
    splitFrom read (c :: rest) = splitFrom (c :: read) rest := by
  cases rest with
  | nil => exact absurd rfl hrest
  | cons d cs =>
    rw [splitFrom, if_neg]
    rintro ⟨rfl, rfl⟩
    exact h ⟨cs, rfl⟩

/-- The last part is read to its end. -/
lemma splitFrom_last {part : PyStr} (h : ¬ [underscore, underscore] <:+: part) (read : PyStr) :
    splitFrom read part = [read.reverse ++ part] := by
  induction part generalizing read with
  | nil => simp [splitFrom]
  | cons c rest ih =>
    cases rest with
    | nil => simp [splitFrom]
    | cons d cs =>
      have hprefix : ¬ [underscore, underscore] <+: c :: d :: cs := fun hp => h hp.isInfix
      have htail : ¬ [underscore, underscore] <:+: d :: cs :=
        fun hi => h (hi.trans (List.suffix_cons c _).isInfix)
      rw [splitFrom_cons hprefix (by simp), ih htail]
      simp

/-- A part is read up to the separator. -/
lemma splitFrom_separator {part : PyStr} (h : ¬ [underscore, underscore] <:+: part)
    (hlast : part.getLast? ≠ some underscore) (read rest : PyStr) :
    splitFrom read (part ++ underscore :: underscore :: rest) =
      (read.reverse ++ part) :: splitFrom [] rest := by
  induction part generalizing read with
  | nil =>
    rw [List.nil_append, splitFrom, if_pos ⟨rfl, rfl⟩, List.append_nil]
  | cons c cs ih =>
    have htail : ¬ [underscore, underscore] <:+: cs :=
      fun hi => h (hi.trans (List.suffix_cons c _).isInfix)
    have hprefix : ¬ [underscore, underscore] <+: c :: (cs ++ underscore :: underscore :: rest) := by
      cases cs with
      | nil =>
        intro hp
        simp only [List.nil_append, List.cons_prefix_cons] at hp
        exact hlast (by rw [← hp.1]; rfl)
      | cons d ds =>
        intro hp
        simp only [List.cons_append, List.cons_prefix_cons] at hp
        exact h ⟨[], ds, by simp [← hp.1, ← hp.2.1]⟩
    have hlast' : cs.getLast? ≠ some underscore := by
      cases cs with
      | nil => simp
      | cons d ds => simpa using hlast
    rw [List.cons_append, splitFrom_cons hprefix (by simp), ih htail hlast']
    simp

/-- **Names are read back.**  Joined parts are split into the parts. -/
lemma splitFrom_joinParts {parts : List PyStr} (hne : parts ≠ [])
    (h : ∀ part ∈ parts, IsPart part) : splitFrom [] (joinParts parts) = parts := by
  induction parts with
  | nil => exact absurd rfl hne
  | cons part parts ih =>
    have hpart := h part (by simp)
    cases parts with
    | nil => exact splitFrom_last hpart.noPair []
    | cons next parts =>
      rw [joinParts, splitFrom_separator hpart.noPair hpart.last, ih (by simp)
        fun p hp => h p (List.mem_cons_of_mem part hp)]
      · rfl
      · simp

variable (lower : PyStr → PyStr) in
/-- The keys of a variable that names some parts are the parts in lower case. -/
lemma envKeys_joinParts {parts : List PyStr} (hne : parts ≠ [])
    (h : ∀ part ∈ parts, IsPart part) :
    envKeys lower (envPrefix ++ joinParts parts) = some (parts.map lower) := by
  have hfilter : parts.filter (fun part => !part.isEmpty) = parts := by
    rw [List.filter_eq_self]
    intro part hpart
    simpa using (h part hpart).ne_nil
  unfold envKeys
  rw [if_pos (List.prefix_append _ _), List.drop_left, splitFrom_joinParts hne h, hfilter]

variable {κ ι α ε : Type*} [DecidableEq κ]

/-- What the layer of a variable decides about a place: about one below its keys what the value
does, and nothing about any other that is not on the way to them. -/
lemma decides_nest (key : PyStr → κ) (keys : List PyStr) (value : YamlDoc κ ι α) (p : List κ) :
    (nest key keys value).doc.decides (keys.map key ++ p) = value.doc.decides p ∧
      ∀ q, ¬ q <+: keys.map key → ¬ keys.map key <+: q →
        (nest key keys value).doc.decides q = none := by
  induction keys with
  | nil => exact ⟨rfl, fun q _ hq => absurd List.nil_prefix hq⟩
  | cons k keys ih =>
    have hdoc : (nest key (k :: keys) value).doc = .dict [(key k, (nest key keys value).doc)] := rfl
    refine ⟨?_, fun q hq hq' => ?_⟩
    · rw [hdoc, List.map_cons, List.cons_append, Doc.decides]
      simp [Dict.find, ih.1]
    · cases q with
      | nil => exact absurd List.nil_prefix hq
      | cons j q =>
        rw [hdoc, Doc.decides]
        by_cases hj : key k = j
        · subst hj
          simp only [List.map_cons, List.cons_prefix_cons, true_and] at hq hq'
          simp [Dict.find, ih.2 q hq hq']
        · simp [Dict.find, hj]

omit [DecidableEq κ] in
/-- A place that is comparable with neither end of a path is not comparable with one below it. -/
lemma not_prefix_append {path keys : List κ} (h : ¬ keys <+: path) (h' : ¬ path <+: keys)
    (p : List κ) : ¬ path ++ p <+: keys ∧ ¬ keys <+: path ++ p := by
  refine ⟨fun hp => h' ((List.prefix_append path p).trans hp), fun hk => ?_⟩
  rcases List.prefix_or_prefix_of_prefix hk (List.prefix_append path p) with hkeys | hpath
  · exact h hkeys
  · exact h' hpath

variable [Field α] [LinearOrder α] [IsStrictOrderedRing α] (F : FloatFormat α) (key : PyStr → κ)
  (lower : PyStr → PyStr) (safeLoad : PyStr → Except ε (YamlDoc κ ι α))

/-- The variable names keys of its own: none is on the way to the path, or below it. -/
def Elsewhere (path : List κ) (name : PyStr) : Prop :=
  ∀ keys ≠ [], envKeys lower name = some keys →
    ¬ keys.map key <+: path ∧ ¬ path <+: keys.map key

variable {key lower safeLoad}

omit [Field α] [LinearOrder α] [IsStrictOrderedRing α] in
/-- A variable with keys of its own decides nothing about the path or what is below it. -/
lemma decides_of_elsewhere {path : List κ} {name raw : PyStr}
    (h : Elsewhere key lower path name) {layer : YamlDoc κ ι α}
    (hlayer : (variableLayer key lower safeLoad name raw : Except (ConfigErr κ ι α ε) _) =
      .ok (some layer)) (p : List κ) : layer.doc.decides (path ++ p) = none := by
  unfold variableLayer at hlayer
  split at hlayer
  · cases hlayer
  · cases hlayer
  · next k keys hkeys =>
    split at hlayer
    · cases hlayer
    · next value hvalue =>
      obtain rfl := Option.some.inj (Except.ok.inj hlayer)
      obtain ⟨hon, hbelow⟩ := h (k :: keys) (by simp) hkeys
      obtain ⟨hon', hbelow'⟩ := not_prefix_append hon hbelow p
      exact (decides_nest key (k :: keys) value []).2 _ hon' hbelow'

omit [Field α] [LinearOrder α] [IsStrictOrderedRing α] in
/-- The layer of a variable that names some parts. -/
lemma variableLayer_joinParts {parts : List PyStr} (hne : parts ≠ [])
    (hparts : ∀ part ∈ parts, IsPart part) {raw : PyStr} {value : YamlDoc κ ι α}
    (hvalue : safeLoad raw = .ok value) :
    (variableLayer key lower safeLoad (envPrefix ++ joinParts parts) raw :
      Except (ConfigErr κ ι α ε) _) = .ok (some (nest key (parts.map lower) value)) := by
  cases parts with
  | nil => exact absurd rfl hne
  | cons part parts =>
    simp only [variableLayer, envKeys_joinParts lower hne hparts, List.map_cons, hvalue]

end Variables


/-! A file with the hard cap itself, and a variable that lowers it.  Keys are strings or
numbers. -/

/-- The document of the file. -/
def baseDoc : YamlDoc (PyStr ⊕ ℤ) Unit ℚ where
  doc := .dict [(.inl (text "safety"),
    .dict [(.inl (text "max_linear_velocity"), .leaf (.float (.fin (3 / 10))))])]
  distinct := rfl

/-- The document of a number. -/
def numberDoc (x : ℚ) : YamlDoc (PyStr ⊕ ℤ) Unit ℚ := ⟨.leaf (.float (.fin x)), rfl⟩

/-- A parser that knows the text of the file and one number. -/
def twoTexts (content : PyStr) : Except Unit (YamlDoc (PyStr ⊕ ℤ) Unit ℚ) :=
  if content = text "base" then .ok baseDoc else .ok (numberDoc (1 / 4))

/-- The parts of the path of the cap. -/
def capParts : List PyStr := [text "safety", text "max_linear_velocity"]

lemma isPart_capParts : ∀ part ∈ capParts, IsPart part := by
  intro part hpart
  have hdec : part ≠ [] ∧ ¬ [underscore, underscore] <:+: part ∧
      part.getLast? ≠ some underscore := by
    revert part
    decide +kernel
  exact ⟨hdec.1, hdec.2.1, hdec.2.2⟩

/-- The file and the variable. -/
def slowLayers : List (YamlDoc (PyStr ⊕ ℤ) Unit ℚ) := [baseDoc, nest .inl capParts (numberDoc (1 / 4))]

lemma layersOf_slow : (layersOf .inl id twoTexts [some (text "base"), none]
    [(envPrefix ++ joinParts capParts, text "0.25")] :
      Except (ConfigErr (PyStr ⊕ ℤ) Unit ℚ Unit) _) = .ok slowLayers := by
  have hvariable : (variableLayer .inl id twoTexts (envPrefix ++ joinParts capParts) (text "0.25") :
      Except (ConfigErr (PyStr ⊕ ℤ) Unit ℚ Unit) _) =
        .ok (some (nest .inl (capParts.map id) (numberDoc (1 / 4)))) :=
    variableLayer_joinParts (by decide) isPart_capParts rfl
  have hfile : (fileLayer twoTexts (text "base") : Except (ConfigErr (PyStr ⊕ ℤ) Unit ℚ Unit) _) =
      .ok baseDoc := rfl
  unfold layersOf
  rw [List.mapM_cons, hvariable]
  simp only [List.filterMap_cons, id, List.filterMap_nil, List.mapM_cons, hfile]
  rfl

lemma decided_slow_cap : decided slowLayers [.inl (text "safety"),
    .inl (text "max_linear_velocity")] = .plain (.leaf (.float (.fin (1 / 4)))) := rfl

lemma decided_slow_scale : decided slowLayers [.inl (text "safety"),
    .inl (text "battery_percentage_scale")] = .absent := rfl

lemma capAllowed_slow : CapAllowed (.exact ℚ)
    (decided slowLayers [.inl (text "safety"), .inl (text "max_linear_velocity")]) := by
  rw [decided_slow_cap]
  exact ⟨rfl, PyFloat.fin_lt_fin.mpr (by norm_num), PyFloat.fin_le_fin.mpr (by norm_num)⟩

lemma scaleAllowed_slow : ScaleAllowed
    (decided slowLayers [.inl (text "safety"), .inl (text "battery_percentage_scale")]) := by
  rw [decided_slow_scale]
  exact trivial

/-- The lowered cap is accepted. -/
theorem loadConfig_iff_slow :
    loadConfig (.exact ℚ) .inl id twoTexts [some (text "base"), none]
      [(envPrefix ++ joinParts capParts, text "0.25")] = .ok (mergeLayers slowLayers) := by
  have hiff := (loadConfig_iff Sum.inl id twoTexts (.exact ℚ) [some (text "base"), none]
    [(envPrefix ++ joinParts capParts, text "0.25")]).1 (mergeLayers slowLayers)
  exact hiff.mpr ⟨slowLayers, layersOf_slow, capAllowed_slow, scaleAllowed_slow, rfl⟩

end Config

end MiniatureWarehouse
