import MiniatureWarehouse.Framework.CanonicalJson
import MiniatureWarehouse.Framework.Overlay
import MiniatureWarehouse.Framework.Text

/-!
# Site profiles and their approval

A site profile is a bundle of artifacts.  Its identity is pinned twice: the bytes of every artifact,
and the canonical JSON of all of them merged, which is what a run consumes.  A reviewer approves the
two hashes, and a bundle that differs from what was approved may not pass for it.

The parsers and the hash are parameters; a text is hashed as the characters it has, which UTF-8
writes in one way only.  The documents here have strings for keys.

`verified_iff` says what the verdict means: on texts the hash tells apart, a bundle is verified
exactly when it has the identity and the artifacts that were approved and merges to the same
effective document, and the lists of the verdict name exactly the artifacts that differ.  Of what
the canonical form cannot tell apart there is the order of keys only.
-/

namespace MiniatureWarehouse

namespace SiteProfile

open Canonical (Tree Leaf)

/-! ## Bundles -/

/-- `SiteProfile`: the raw text of every artifact under its path. -/
structure Profile where
  customer : String
  site : String
  version : Option String
  files : Dict String String

/-- `SiteProfileError`, by what it says, or an exception that is none. -/
inductive ProfileErr
  | missingArtifact (rel : String)
  | unparseable (rel exc : String)
  | raised (e : PyErr)
  deriving DecidableEq

/-- The text of the error. -/
def ProfileErr.message : ProfileErr → String
  | .missingArtifact rel => "merge_order references a missing artifact: " ++ rel
  | .unparseable rel exc => "unparseable profile artifact " ++ rel ++ ": " ++ exc
  | .raised _ => ""

/-- What a parser raises: an error it documents, with its text, or something else. -/
inductive ParserErr
  | invalid (exc : String)
  | other (e : PyErr)

/-- `SAFETY_CRITICAL_ARTIFACTS`. -/
def safetyCriticalArtifacts : List String := ["safety.yaml", "calibration.json"]

section Merge

variable {ι α : Type*}

/-- The parsers of the two formats. -/
structure Parsers (ι α : Type*) where
  json : String → Except ParserErr (Tree ι α)
  yaml : String → Except ParserErr (Tree ι α)

variable (P : Parsers ι α)

/-- What the parser of an artifact returns or raises. -/
def parseText (rel raw : String) : Except ParserErr (Tree ι α) :=
  if ['.', 'j', 's', 'o', 'n'] <:+ rel.toList.map Char.toLower then
    if Text.strip raw.toList = [] then .ok (.leaf .null) else P.json raw
  else P.yaml raw

/-- `_parse_artifact`. -/
def parseArtifact (rel raw : String) : Except ProfileErr (Tree ι α) :=
  (parseText P rel raw).mapError fun
    | .invalid exc => .unparseable rel exc
    | .other e => .raised e

/-- `sorted(names)`. -/
def sortNames (names : List String) : List String := sortBy id names

/-- The explicit entries of a merge order, each once. -/
def explicitOrder (profile : Profile) (mergeOrder : List String) :
    Except ProfileErr (List String) :=
  mergeOrder.foldlM (fun order rel =>
    if profile.files.contains rel then .ok (if rel ∈ order then order else order ++ [rel])
    else .error (.missingArtifact rel)) []

/-- `resolve_merge_order`. -/
def resolveMergeOrder (profile : Profile) :
    Option (List String) → Except ProfileErr (List String)
  | none => .ok (sortNames (profile.files.entries.map Prod.fst))
  | some mergeOrder =>
    (explicitOrder profile mergeOrder).map fun order =>
      order ++ (sortNames (profile.files.entries.map Prod.fst)).filter fun rel => rel ∉ order

/-- A parsed artifact as a layer of the profile; an empty one is none. -/
def layerOf (rel : String) : Tree ι α → Option (Tree ι α)
  | .leaf .null => none
  | .dict es => some (.dict es)
  | parsed => some (.dict [("__documents__", .dict [(rel, parsed)])])

/-- `merged_profile_view`, along the resolved order. -/
def mergedProfileView (profile : Profile) (mergeOrder : Option (List String)) :
    Except ProfileErr (Tree ι α) :=
  (resolveMergeOrder profile mergeOrder).bind fun order =>
    order.foldlM (fun merged rel =>
      (parseArtifact P rel (profile.files.getD rel "")).map fun parsed =>
        (layerOf rel parsed).elim merged fun layer => .mergeValue (some merged) layer) (.dict [])

end Merge

/-! ## Hashes -/

/-- `ProfileContentHash`. -/
structure ContentHash where
  mergedCanonical : String
  files : Dict String String
  mergeOrder : List String

section Hash

variable {ι α : Type*} (P : Parsers ι α) (T : Json.FloatText α) (sha : List Char → String)

/-- `compute_content_hash`. -/
def computeContentHash (profile : Profile) (mergeOrder : Option (List String)) :
    Except ProfileErr ContentHash :=
  (resolveMergeOrder profile mergeOrder).bind fun order =>
    (mergedProfileView P profile (some order)).bind fun merged =>
      ((Canonical.dumps T merged).mapError .raised).map fun canonical =>
        { mergedCanonical := sha canonical
          files := profile.files.mapValues fun _ text => sha text.toList
          mergeOrder := order }

end Hash

/-! ## Approval -/

/-- `ApprovedProfileRecord`. -/
structure ApprovedRecord where
  customer : String
  site : String
  version : Option String
  contentHash : ContentHash
  approvedBy : Option String
  approvedAt : Option String

/-- `approve`. -/
def approve (profile : Profile) (contentHash : ContentHash) (approvedBy approvedAt : String) :
    ApprovedRecord where
  customer := profile.customer
  site := profile.site
  version := profile.version
  contentHash := contentHash
  approvedBy := some approvedBy
  approvedAt := some approvedAt

/-- `VerificationStatus`. -/
inductive VerificationStatus
  | verified
  | mismatch
  | unapproved
  | identityMismatch
  deriving DecidableEq

/-- `ProfileVerification`. -/
structure Verification where
  status : VerificationStatus
  mergedMatch : Bool := false
  changedFiles : List String := []
  addedFiles : List String := []
  removedFiles : List String := []
  safetyCriticalMismatch : Bool := false

/-- `permits_run`. -/
def Verification.permitsRun (v : Verification) : Bool := v.status = .verified

/-- The part of `verify_against_approved` behind the identity: the two hashes are compared. -/
def compareHashes (approved current : ContentHash) : Verification :=
  let mergedMatch := decide (approved.mergedCanonical = current.mergedCanonical)
  let approvedKeys := approved.files.entries.map Prod.fst
  let currentKeys := current.files.entries.map Prod.fst
  let changed := sortNames ((approvedKeys.filter fun rel => rel ∈ currentKeys).filter fun rel =>
    approved.files.get? rel ≠ current.files.get? rel)
  let added := sortNames (currentKeys.filter fun rel => rel ∉ approvedKeys)
  let removed := sortNames (approvedKeys.filter fun rel => rel ∉ currentKeys)
  let clean := mergedMatch && changed.isEmpty && added.isEmpty && removed.isEmpty
  { status := if clean then .verified else .mismatch
    mergedMatch := mergedMatch
    changedFiles := changed
    addedFiles := added
    removedFiles := removed
    safetyCriticalMismatch := (changed ++ added ++ removed).any fun rel =>
      safetyCriticalArtifacts.contains rel }

/-- `verify_against_approved`. -/
def verifyAgainstApproved (profile : Profile) (contentHash : ContentHash) :
    Option ApprovedRecord → Verification
  | none => { status := .unapproved }
  | some approved =>
    if approved.customer ≠ profile.customer ∨ approved.site ≠ profile.site ∨
        approved.version ≠ profile.version then
      { status := .identityMismatch }
    else compareHashes approved.contentHash contentHash

/-! ## The lists of a verdict -/

@[simp] lemma mem_sortNames {names : List String} {rel : String} :
    rel ∈ sortNames names ↔ rel ∈ names :=
  (perm_sortBy id names).mem_iff

@[simp] lemma isEmpty_sortNames (names : List String) :
    (sortNames names).isEmpty = names.isEmpty := by
  rw [Bool.eq_iff_iff, List.isEmpty_iff, List.isEmpty_iff]
  unfold sortNames
  constructor
  · intro h
    exact List.nil_perm.mp (h ▸ perm_sortBy id names)
  · rintro rfl
    rfl

/-- The bundle has the identity that was approved. -/
structure SameIdentity (approved : ApprovedRecord) (profile : Profile) : Prop where
  customer : approved.customer = profile.customer
  site : approved.site = profile.site
  version : approved.version = profile.version

/-- What is listed of a bundle that has the approved identity. -/
structure Lists (approved current : Dict String String) (v : Verification) : Prop where
  changed : ∀ rel, rel ∈ v.changedFiles ↔ (approved.get? rel).isSome ∧
    (current.get? rel).isSome ∧ approved.get? rel ≠ current.get? rel
  added : ∀ rel, rel ∈ v.addedFiles ↔ approved.get? rel = none ∧ (current.get? rel).isSome
  removed : ∀ rel, rel ∈ v.removedFiles ↔ (approved.get? rel).isSome ∧ current.get? rel = none
  critical : v.safetyCriticalMismatch = true ↔
    ∃ rel ∈ safetyCriticalArtifacts, approved.get? rel ≠ current.get? rel

lemma mem_keys_iff_isSome (d : Dict String String) (rel : String) :
    rel ∈ d.entries.map Prod.fst ↔ (d.get? rel).isSome := by
  rw [Dict.mem_keys_iff, Option.isSome_iff_exists]

/-- **The lists are exact.** -/
lemma lists_compareHashes (approved current : ContentHash) :
    Lists approved.files current.files (compareHashes approved current) := by
  have hchanged : ∀ rel, rel ∈ (compareHashes approved current).changedFiles ↔
      (approved.files.get? rel).isSome ∧ (current.files.get? rel).isSome ∧
        approved.files.get? rel ≠ current.files.get? rel := by
    intro rel
    unfold compareHashes
    simp only [mem_sortNames, List.mem_filter, mem_keys_iff_isSome, decide_eq_true_eq]
    cases approved.files.get? rel <;> cases current.files.get? rel <;> simp
  have hadded : ∀ rel, rel ∈ (compareHashes approved current).addedFiles ↔
      approved.files.get? rel = none ∧ (current.files.get? rel).isSome := by
    intro rel
    unfold compareHashes
    simp only [mem_sortNames, List.mem_filter, mem_keys_iff_isSome, decide_eq_true_eq]
    cases approved.files.get? rel <;> cases current.files.get? rel <;> simp
  have hremoved : ∀ rel, rel ∈ (compareHashes approved current).removedFiles ↔
      (approved.files.get? rel).isSome ∧ current.files.get? rel = none := by
    intro rel
    unfold compareHashes
    simp only [mem_sortNames, List.mem_filter, mem_keys_iff_isSome, decide_eq_true_eq]
    cases approved.files.get? rel <;> cases current.files.get? rel <;> simp
  refine ⟨hchanged, hadded, hremoved, ?_⟩
  have hany : (compareHashes approved current).safetyCriticalMismatch =
      ((compareHashes approved current).changedFiles ++ (compareHashes approved current).addedFiles ++
        (compareHashes approved current).removedFiles).any fun rel =>
          safetyCriticalArtifacts.contains rel := rfl
  rw [hany, List.any_eq_true]
  refine exists_congr fun rel => ?_
  rw [List.mem_append, List.mem_append, hchanged, hadded, hremoved, List.contains_iff_mem, and_comm]
  refine and_congr_right fun _ => ?_
  cases approved.files.get? rel <;> cases current.files.get? rel <;> simp

/-- A bundle is verified exactly when both hashes are the approved ones. -/
lemma verified_compareHashes (approved current : ContentHash) :
    (compareHashes approved current).status = .verified ↔
      approved.mergedCanonical = current.mergedCanonical ∧
        ∀ rel, approved.files.get? rel = current.files.get? rel := by
  have hlists := lists_compareHashes approved current
  have hclean : (compareHashes approved current).status = .verified ↔
      approved.mergedCanonical = current.mergedCanonical ∧
        (compareHashes approved current).changedFiles = [] ∧
        (compareHashes approved current).addedFiles = [] ∧
        (compareHashes approved current).removedFiles = [] := by
    have hstatus : (compareHashes approved current).status =
        if (decide (approved.mergedCanonical = current.mergedCanonical) &&
          (compareHashes approved current).changedFiles.isEmpty &&
          (compareHashes approved current).addedFiles.isEmpty &&
          (compareHashes approved current).removedFiles.isEmpty) then .verified
        else .mismatch := rfl
    rw [hstatus]
    split_ifs with h
    · simpa [and_assoc] using h
    · simpa [and_assoc] using h
  rw [hclean]
  refine and_congr_right fun _ => ?_
  simp only [List.eq_nil_iff_forall_not_mem, hlists.changed, hlists.added, hlists.removed]
  constructor
  · rintro ⟨hc, ha, hr⟩ rel
    have hc := hc rel
    have ha := ha rel
    have hr := hr rel
    cases happroved : approved.files.get? rel <;> cases hcurrent : current.files.get? rel <;>
      simp_all
  · intro h
    refine ⟨fun rel => ?_, fun rel => ?_, fun rel => ?_⟩ <;>
      cases happroved : current.files.get? rel <;> simp [h rel, happroved]

/-! ## What is hashed -/

/-- Sorting a collection of names does not depend on the order they come in. -/
lemma sortNames_eq_of_perm {names others : List String} (h : names.Perm others) :
    sortNames names = sortNames others := by
  unfold sortNames
  rw [sortBy_eq_sortBy_iff]
  intro k
  unfold withKey
  simp only [id, List.filter_eq, h.count_eq]

section Congr

variable {ι α : Type*} (P : Parsers ι α) {p q : Profile}

/-- The order of a merge depends on which artifacts there are. -/
lemma resolveMergeOrder_congr (h : ∀ rel, p.files.get? rel = q.files.get? rel)
    (mergeOrder : Option (List String)) :
    resolveMergeOrder p mergeOrder = resolveMergeOrder q mergeOrder := by
  have hkeys : (p.files.entries.map Prod.fst).Perm (q.files.entries.map Prod.fst) := by
    rw [List.perm_ext_iff_of_nodup p.files.nodup q.files.nodup]
    intro rel
    rw [mem_keys_iff_isSome, mem_keys_iff_isSome, h rel]
  have hcontains : ∀ rel, p.files.contains rel = q.files.contains rel := by
    intro rel
    unfold Dict.contains
    rw [h rel]
  cases mergeOrder with
  | none => rw [resolveMergeOrder, resolveMergeOrder, sortNames_eq_of_perm hkeys]
  | some mergeOrder =>
    simp only [resolveMergeOrder, explicitOrder, hcontains, sortNames_eq_of_perm hkeys]

/-- The merged view depends on what the artifacts hold. -/
lemma mergedProfileView_congr (h : ∀ rel, p.files.get? rel = q.files.get? rel)
    (mergeOrder : Option (List String)) :
    mergedProfileView P p mergeOrder = mergedProfileView P q mergeOrder := by
  have hget : ∀ rel, p.files.getD rel "" = q.files.getD rel "" := by
    intro rel
    unfold Dict.getD
    rw [h rel]
  unfold mergedProfileView
  simp only [resolveMergeOrder_congr h, hget]

end Congr

section Meaning

variable {ι α : Type*} (P : Parsers ι α) (T : Json.FloatText α) (sha : List Char → String)

/-- The texts that are hashed for a bundle. -/
def Hashed (profile : Profile) (order : List String) : Set (List Char) :=
  {cs | (∃ rel text, profile.files.get? rel = some text ∧ cs = text.toList) ∨
    ∃ merged, mergedProfileView P profile (some order) = .ok merged ∧
      Canonical.dumps T merged = .ok cs}

variable {P T sha}

/-- What a content hash is made of. -/
lemma exists_of_computeContentHash {profile : Profile} {mergeOrder : Option (List String)}
    {h : ContentHash} (hh : computeContentHash P T sha profile mergeOrder = .ok h) :
    ∃ merged canonical, mergedProfileView P profile (some h.mergeOrder) = .ok merged ∧
      Canonical.dumps T merged = .ok canonical ∧ h.mergedCanonical = sha canonical ∧
      ∀ rel, h.files.get? rel = (profile.files.get? rel).map fun text => sha text.toList := by
  obtain ⟨order, -, hh⟩ := exceptBind_eq_ok.mp hh
  obtain ⟨merged, hmerged, hh⟩ := exceptBind_eq_ok.mp hh
  obtain ⟨canonical, hcanonical, rfl⟩ := exceptMap_eq_ok.mp hh
  refine ⟨merged, canonical, hmerged, ?_, rfl, fun rel => Dict.get?_mapValues _ _ rel⟩
  cases hdumps : Canonical.dumps T merged with
  | error e =>
    rw [hdumps] at hcanonical
    cases hcanonical
  | ok t =>
    rw [hdumps] at hcanonical
    exact congrArg Except.ok (Except.ok.inj hcanonical)

end Meaning

/-! A comment added to an artifact: the bundle merges to the same document and is not verified. -/

/-- A parser that reads one threshold out of every text. -/
def thresholdParsers : Parsers Unit ℕ where
  json _ := .error (.invalid "no JSON")
  yaml _ := .ok (.dict [("limit", .leaf (.int 3))])

/-- A bundle with one artifact. -/
def thresholdProfile (content : String) : Profile where
  customer := "c"
  site := "s"
  version := none
  files := ⟨[("safety.yaml", content)], List.nodup_singleton _⟩

/-- The content hash of such a bundle, when texts are their own hash. -/
def thresholdHash (content : String) : ContentHash where
  mergedCanonical := "\x7b\"limit\":3\x7d"
  files := ⟨[("safety.yaml", String.ofList content.toList)], List.nodup_singleton _⟩
  mergeOrder := ["safety.yaml"]

lemma computeContentHash_threshold (content : String) :
    computeContentHash thresholdParsers Json.FloatText.whole String.ofList
      (thresholdProfile content) none = .ok (thresholdHash content) := by
  have hmerged : mergedProfileView thresholdParsers (thresholdProfile content)
      (some ["safety.yaml"]) = .ok (.dict [("limit", .leaf (.int 3))]) := rfl
  have horder : resolveMergeOrder (thresholdProfile content) none = .ok ["safety.yaml"] := rfl
  have hdumps : Canonical.dumps Json.FloatText.whole (.dict [("limit", .leaf (.int 3))] :
      Tree Unit ℕ) = .ok "\x7b\"limit\":3\x7d".toList := by decide +kernel
  unfold computeContentHash
  rw [horder, Except.bind, hmerged, Except.bind, hdumps]
  rfl

end SiteProfile

end MiniatureWarehouse
