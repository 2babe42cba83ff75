import Mathlib.Data.List.DropRight
import MiniatureWarehouse.WebBridge.Ingest

/-!
# What the event log keeps across a crash

The gateway gives every message the next number, writes its envelope as one line and hands it out.
A crash leaves some first bytes of the line being written, but never all of them, and the gateway
starts again from the highest number it finds in the files.

The log is read back line by line, so a line that was cut short is harmless as long as it stays a
line of its own.  The code does not see to that: a remnant has no line break, and the next line is
written right behind it.
-/

namespace MiniatureWarehouse

namespace WebBridge

variable {α : Type}

/-! ## Texts -/

lemma universalNewlines_of_no_return {cs : List Char} (h : '\r' ∉ cs) :
    universalNewlines cs = cs := by
  induction cs with
  | nil => rfl
  | cons c cs ih =>
    rw [List.mem_cons, not_or] at h
    rw [universalNewlines, ih h.2]
    · exact fun cs' hc _ => h.1 hc.symm
    · exact fun hc => h.1 hc.symm

lemma readText_utf8Encode {cs : List Char} (h : '\r' ∉ cs) : readText cs.utf8Encode = .ok cs := by
  unfold readText
  rw [List.utf8Decode?_utf8Encode]
  exact congrArg Except.ok (universalNewlines_of_no_return h)

/-- Text that can end a file without a line break: it is no line break itself, and nothing reads
it as a value. -/
structure Remnant (T : Json.FloatText α) (cs : List Char) : Prop where
  no_newline : '\n' ∉ cs
  no_return : '\r' ∉ cs
  rejected : cs ≠ [] → (Json.scan T).loads (String.ofList cs) = .error .valueError

lemma remnant_nil (T : Json.FloatText α) : Remnant T [] where
  no_newline := List.not_mem_nil
  no_return := List.not_mem_nil
  rejected h := absurd rfl h

section Lines

variable {T : Json.FloatText α}

lemma not_mem_dumps (v : PyVal α) {c : Char} (hc : c.toNat < 32) : c ∉ Json.dumps T v := by
  intro hmem
  have hprintable := Json.printable_dumps v c hmem
  omega

/-- What is no value is refused with a `ValueError`. -/
lemma loads_eq_error {s : String} (h : ∀ v, Json.scan T s ≠ .ok v) :
    (Json.scan T).loads s = .error .valueError := by
  have hscan : Json.scan T s = .error .valueError := by
    unfold Json.scan at h ⊢
    split
    · rfl
    · rename_i v rest hvalue
      split_ifs with hend
      · rw [hvalue] at h
        exact absurd (if_pos hend) (h v)
      · rfl
  unfold JsonScan.loads
  rw [hscan]
  rfl

/-- The lines of some events, one after another. -/
def linesOf (T : Json.FloatText α) (evs : List (ObsEvent α)) : List Char := evs.flatMap (lineOf T)

lemma linesOf_concat (evs : List (ObsEvent α)) (e : ObsEvent α) :
    linesOf T (evs ++ [e]) = linesOf T evs ++ lineOf T e := by
  unfold linesOf
  rw [List.flatMap_append, List.flatMap_singleton]

lemma no_return_linesOf (evs : List (ObsEvent α)) : '\r' ∉ linesOf T evs := by
  intro hmem
  obtain ⟨e, -, hline⟩ := List.mem_flatMap.mp hmem
  rcases List.mem_append.mp hline with hdumps | hbreak
  · exact not_mem_dumps e.toVal (by decide) hdumps
  · exact absurd (List.mem_singleton.mp hbreak) (by decide)

/-- A text of lines and a remnant splits into just these. -/
lemma splitOn_linesOf (evs : List (ObsEvent α)) {torn : List Char} (h : '\n' ∉ torn) :
    (linesOf T evs ++ torn).splitOn '\n' = evs.map (fun e => Json.dumps T e.toVal) ++ [torn] := by
  induction evs with
  | nil => exact List.splitOn_eq_singleton h
  | cons e evs ih =>
    have hline : linesOf T (e :: evs) ++ torn =
        Json.dumps T e.toVal ++ '\n' :: (linesOf T evs ++ torn) := by
      simp [linesOf, lineOf]
    rw [hline, List.splitOn_append_cons_self_of_not_mem (not_mem_dumps e.toVal (by decide)), ih]
    rfl

/-- Does a replay ask for this event? -/
def Replay.wants (r : Replay) (e : ObsEvent α) : Bool :=
  decide (r.sinceSeq < e.seq) && r.toSeq.all (fun last => decide ((e.seq : ℤ) ≤ last)) &&
    r.kind.all fun kind => decide (e.kind = kind)

lemma keeps_toVal (r : Replay) (e : ObsEvent α) : r.keeps e.toVal = r.wants e := by
  have hseq : e.toVal.get? "seq" = some (.int e.seq) := by
    simp [PyVal.get?, ObsEvent.toVal, Dict.find]
  have hkind : e.toVal.get? "kind" = some (.str e.kind) := by
    simp [PyVal.get?, ObsEvent.toVal, Dict.find]
  unfold Replay.keeps Replay.wants
  rw [hseq, hkind]
  simp [asOptStr]

/-- Every name of the event's dictionary is used once. -/
def ObsEvent.WellNamed (e : ObsEvent α) : Prop := (PyVal.dict e.payload).repeatsName = false

lemma replayLine_dumps (r : Replay) {e : ObsEvent α} (he : e.WellNamed) :
    replayLine (Json.scan T) r (Json.dumps T e.toVal) =
      .ok (if r.wants e then some e.toVal else none) := by
  have hne : Json.dumps T e.toVal ≠ [] := by
    simp [ObsEvent.toVal, Json.dumps]
  have hloads := Json.loads_dumps T (e.repeatsName_toVal he)
  unfold replayLine
  rw [if_neg hne, hloads, ← keeps_toVal]
  rfl

lemma replayLine_remnant (r : Replay) {torn : List Char}
    (h : torn ≠ [] → (Json.scan T).loads (String.ofList torn) = .error .valueError) :
    replayLine (Json.scan T) r torn = .ok none := by
  unfold replayLine
  split_ifs with hempty
  · rfl
  · rw [h hempty]

/-- What some lines of events and a line that gives nothing replay. -/
lemma replayLines (r : Replay) {evs : List (ObsEvent α)} (hevs : ∀ e ∈ evs, e.WellNamed)
    {rest : List (List Char)}
    (hrest : ∀ line ∈ rest, replayLine (Json.scan T) r line = .ok none) :
    ((evs.map (fun e => Json.dumps T e.toVal) ++ rest).mapM (replayLine (Json.scan T) r)).map
        List.reduceOption = .ok ((evs.filter r.wants).map ObsEvent.toVal) := by
  have hnothing : rest.mapM (replayLine (Json.scan T) r) =
      .ok (List.replicate rest.length none) := by
    induction rest with
    | nil => rfl
    | cons line rest ih =>
      rw [List.forall_mem_cons] at hrest
      rw [List.mapM_cons, hrest.1, ih hrest.2]
      rfl
  have hlines : (evs.map (fun e => Json.dumps T e.toVal) ++ rest).mapM
      (replayLine (Json.scan T) r) =
        .ok (evs.map (fun e => if r.wants e then some e.toVal else none) ++
          List.replicate rest.length none) := by
    induction evs with
    | nil => exact hnothing
    | cons e evs ih =>
      rw [List.forall_mem_cons] at hevs
      rw [List.map_cons, List.cons_append, List.mapM_cons, ih hevs.2, replayLine_dumps r hevs.1]
      rfl
  have hreduce : (evs.map (fun e => if r.wants e then some e.toVal else none) ++
      List.replicate rest.length none).reduceOption = (evs.filter r.wants).map ObsEvent.toVal := by
    clear hevs hlines
    induction evs with
    | nil => exact List.reduceOption_replicate_none
    | cons e evs ih =>
      rw [List.map_cons, List.cons_append, List.filter_cons]
      split_ifs with hwants
      · rw [List.reduceOption_cons_of_some, ih, List.map_cons]
      · rw [List.reduceOption_cons_of_none, ih]
  rw [hlines]
  exact congrArg Except.ok hreduce

/-- **What a segment replays**: its events, and nothing for the remnant at its end. -/
lemma replayText_linesOf (r : Replay) {evs : List (ObsEvent α)} (hevs : ∀ e ∈ evs, e.WellNamed)
    {torn : List Char} (h : Remnant T torn) :
    replayText (Json.scan T) r (linesOf T evs ++ torn) =
      .ok ((evs.filter r.wants).map ObsEvent.toVal) := by
  unfold replayText
  rw [splitOn_linesOf evs h.no_newline]
  exact replayLines r hevs (List.forall_mem_singleton.mpr (replayLine_remnant r h.rejected))

/-- The characters after the last line break of a file. -/
def tailOf (bytes : ByteArray) : Except PyErr (List Char) :=
  (readText bytes).map (List.rtakeWhile fun c => c ≠ '\n')

/-- A file holds the lines of some events and a remnant. -/
structure Holds (T : Json.FloatText α) (bytes : ByteArray) (evs : List (ObsEvent α))
    (torn : List Char) : Prop where
  bytes_eq : bytes = (linesOf T evs ++ torn).utf8Encode
  named : ∀ e ∈ evs, e.WellNamed
  remnant : Remnant T torn

lemma holds_empty (T : Json.FloatText α) : Holds T ByteArray.empty [] [] where
  bytes_eq := List.utf8Encode_nil.symm
  named _ he := absurd he List.not_mem_nil
  remnant := remnant_nil T

variable {bytes : ByteArray} {evs : List (ObsEvent α)} {torn : List Char}

lemma Holds.readText (h : Holds T bytes evs torn) :
    readText bytes = .ok (linesOf T evs ++ torn) := by
  rw [h.bytes_eq]
  refine readText_utf8Encode fun hmem => ?_
  rcases List.mem_append.mp hmem with hlines | htorn
  · exact no_return_linesOf evs hlines
  · exact h.remnant.no_return htorn

/-- Every replay reads just these events from a file. -/
def Replays (T : Json.FloatText α) (bytes : ByteArray) (evs : List (ObsEvent α)) : Prop :=
  ∀ r : Replay, (WebBridge.readText bytes).bind (replayText (Json.scan T) r) =
    .ok ((evs.filter r.wants).map ObsEvent.toVal)

lemma Holds.replays (h : Holds T bytes evs torn) : Replays T bytes evs := by
  intro r
  rw [h.readText]
  exact replayText_linesOf r h.named h.remnant

/-- **A line written behind a remnant is lost** when the two together are refused. -/
lemma Holds.replays_behind (h : Holds T bytes evs torn) {e : ObsEvent α}
    (hrefused : (Json.scan T).loads (String.ofList (torn ++ Json.dumps T e.toVal)) =
      .error .valueError) :
    Replays T (bytes ++ encode (lineOf T e)) evs := by
  have hmerged : '\n' ∉ torn ++ Json.dumps T e.toVal := fun hmem =>
    (List.mem_append.mp hmem).elim h.remnant.no_newline (not_mem_dumps e.toVal (by decide))
  have htext : linesOf T evs ++ torn ++ lineOf T e =
      linesOf T evs ++ (torn ++ Json.dumps T e.toVal) ++ ['\n'] := by
    simp [lineOf]
  have hread : WebBridge.readText (bytes ++ encode (lineOf T e)) =
      .ok (linesOf T evs ++ (torn ++ Json.dumps T e.toVal) ++ ['\n']) := by
    rw [h.bytes_eq, encode_eq, ← List.utf8Encode_append, htext]
    refine readText_utf8Encode fun hmem => ?_
    simp only [List.mem_append, List.mem_singleton] at hmem
    rcases hmem with (hlines | htorn | hdumps) | hbreak
    · exact no_return_linesOf evs hlines
    · exact h.remnant.no_return htorn
    · exact not_mem_dumps e.toVal (by decide) hdumps
    · exact absurd hbreak (by decide)
  have hsplit : (linesOf T evs ++ (torn ++ Json.dumps T e.toVal) ++ ['\n']).splitOn '\n' =
      evs.map (fun e => Json.dumps T e.toVal) ++ [torn ++ Json.dumps T e.toVal, []] := by
    rw [List.splitOn_append_cons_self, splitOn_linesOf evs hmerged, List.append_assoc]
    rfl
  intro r
  rw [hread]
  show replayText (Json.scan T) r _ = _
  unfold replayText
  rw [hsplit]
  refine replayLines r h.named ?_
  rw [List.forall_mem_cons, List.forall_mem_singleton]
  exact ⟨replayLine_remnant r fun _ => hrefused, rfl⟩

/-- What comes after the last line break of some lines and a text without one. -/
lemma rtakeWhile_linesOf (evs : List (ObsEvent α)) {cs : List Char} (h : '\n' ∉ cs) :
    (linesOf T evs ++ cs).rtakeWhile (fun c => c ≠ '\n') = cs := by
  induction cs using List.reverseRecOn with
  | nil =>
    rw [List.append_nil]
    induction evs using List.reverseRecOn with
    | nil => rfl
    | append_singleton evs e _ =>
      rw [linesOf_concat, lineOf, ← List.append_assoc, List.rtakeWhile_concat]
      rfl
  | append_singleton cs c ih =>
    rw [List.mem_append, not_or, List.mem_singleton] at h
    have hc : decide (c ≠ '\n') = true := decide_eq_true (Ne.symm h.2)
    rw [← List.append_assoc, List.rtakeWhile_concat, if_pos hc, ih h.1]

lemma Holds.tailOf (h : Holds T bytes evs torn) : tailOf bytes = .ok torn := by
  unfold WebBridge.tailOf
  rw [h.readText]
  exact congrArg Except.ok (rtakeWhile_linesOf evs h.remnant.no_newline)

/-- A line written behind a line break is one more line. -/
lemma Holds.write_line (h : Holds T bytes evs torn) (htail : WebBridge.tailOf bytes = .ok [])
    {e : ObsEvent α} (he : e.WellNamed) :
    Holds T (bytes ++ encode (lineOf T e)) (evs ++ [e]) [] := by
  obtain rfl : torn = [] := by
    rw [h.tailOf] at htail
    exact Except.ok.inj htail
  refine ⟨?_, ?_, remnant_nil T⟩
  · rw [h.bytes_eq, encode_eq, ← List.utf8Encode_append, List.append_nil, List.append_nil,
      linesOf_concat]
  · intro e' he'
    rcases List.mem_append.mp he' with hold | hnew
    · exact h.named e' hold
    · rwa [List.mem_singleton.mp hnew]

/-- A first part of a line, as characters. -/
lemma exists_cut {e : ObsEvent α} {cut rest : ByteArray}
    (hline : cut ++ rest = encode (lineOf T e)) (hrest : rest.size ≠ 0) {cs : List Char}
    (hcs : cs.utf8Encode = cut) : ∃ q, Json.dumps T e.toVal = cs ++ q := by
  have hprefix : cs <+: lineOf T e :=
    List.isPrefix_of_utf8Encode_append_eq_utf8Encode rest (by rw [hcs, hline, encode_eq])
  obtain ⟨q, hq⟩ := hprefix
  rcases List.eq_nil_or_concat q with rfl | ⟨q, c, rfl⟩
  · rw [List.append_nil] at hq
    have hsize := congrArg ByteArray.size hline
    rw [encode_eq, ← hq, hcs, ByteArray.size_append] at hsize
    omega
  · refine ⟨q, ?_⟩
    unfold lineOf at hq
    rw [List.concat_eq_append, ← List.append_assoc] at hq
    exact (List.append_inj' hq rfl).1.symm

/-- What a crash may leave at the end of a file: it decodes, and what comes after the last line
break is refused by `json.loads`. -/
def Harmless (T : Json.FloatText α) (bytes : ByteArray) : Prop :=
  ∃ torn, WebBridge.tailOf bytes = .ok torn ∧
    (torn ≠ [] → (Json.scan T).loads (String.ofList torn) = .error .valueError)

instance (x : Except LoadsErr (PyVal α)) (err : LoadsErr) : Decidable (x = .error err) :=
  match x with
  | .ok _ => .isFalse (fun h => by cases h)
  | .error err' => decidable_of_iff (err' = err) ⟨congrArg _, fun h => by cases h; rfl⟩

instance (T : Json.FloatText α) (bytes : ByteArray) : Decidable (Harmless T bytes) :=
  match h : WebBridge.tailOf bytes with
  | .error _ => .isFalse fun ⟨_, htail, _⟩ => by rw [h] at htail; cases htail
  | .ok torn =>
    decidable_of_iff (torn ≠ [] → (Json.scan T).loads (String.ofList torn) = .error .valueError)
      ⟨fun hrefused => ⟨torn, h, hrefused⟩, fun ⟨torn', htail, hrefused⟩ => by
        rw [h] at htail
        obtain rfl : torn = torn' := Except.ok.inj htail
        exact hrefused⟩

/-- A file that decodes. -/
lemma exists_of_readText {text : List Char} (h : WebBridge.readText bytes = .ok text) :
    ∃ cs : List Char, bytes = cs.utf8Encode ∧ text = universalNewlines cs := by
  unfold WebBridge.readText at h
  cases hdecode : bytes.utf8Decode? with
  | none =>
    rw [hdecode] at h
    cases h
  | some cs =>
    rw [hdecode] at h
    have hsome : bytes.utf8Decode?.isSome = true := by
      rw [hdecode]
      rfl
    have hget := ByteArray.utf8Encode_get_utf8Decode? (h := hsome)
    refine ⟨cs.toList, ?_, (Except.ok.inj h).symm⟩
    rw [← hget]
    simp only [hdecode, Option.get_some]

/-- **A cut that is harmless** leaves the events of the file as they were. -/
lemma Holds.write_cut (h : Holds T bytes evs torn) {e : ObsEvent α} {cut rest : ByteArray}
    (hline : cut ++ rest = encode (lineOf T e)) (hrest : rest.size ≠ 0)
    (hharmless : Harmless T (bytes ++ cut)) : ∃ torn', Holds T (bytes ++ cut) evs torn' := by
  obtain ⟨tail, htail, hrejected⟩ := hharmless
  obtain ⟨text, htext, htake⟩ := exceptMap_eq_ok.mp htail
  obtain ⟨cs, hcs, rfl⟩ := exists_of_readText htext
  -- the characters of the file go on from those that were there before
  obtain ⟨p, rfl⟩ : linesOf T evs ++ torn <+: cs :=
    List.isPrefix_of_utf8Encode_append_eq_utf8Encode cut (by rw [← h.bytes_eq, hcs])
  have hp : p.utf8Encode = cut := by
    rw [List.utf8Encode_append, ← h.bytes_eq] at hcs
    exact ((ByteArray.append_right_inj bytes).mp hcs).symm
  obtain ⟨q, hq⟩ := exists_cut hline hrest hp
  have hprintable : ∀ c : Char, c.toNat < 32 → c ∉ p := fun c hc hmem =>
    not_mem_dumps (T := T) e.toVal hc (hq ▸ List.mem_append_left q hmem)
  have hnewline : '\n' ∉ torn ++ p := fun hmem =>
    (List.mem_append.mp hmem).elim h.remnant.no_newline (hprintable _ (by decide))
  have hreturn : '\r' ∉ torn ++ p := fun hmem =>
    (List.mem_append.mp hmem).elim h.remnant.no_return (hprintable _ (by decide))
  have htext' : universalNewlines (linesOf T evs ++ torn ++ p) = linesOf T evs ++ (torn ++ p) := by
    rw [List.append_assoc]
    refine universalNewlines_of_no_return fun hmem => ?_
    exact (List.mem_append.mp hmem).elim (no_return_linesOf evs) hreturn
  refine ⟨torn ++ p, ?_, h.named, hnewline, hreturn, ?_⟩
  · rw [hcs, List.append_assoc]
  · rw [htext', rtakeWhile_linesOf evs hnewline] at htake
    rwa [htake]

/-- On a line of its own, every cut between two characters is harmless, except the one that takes
nothing but the line break. -/
lemma Holds.harmless_cut (h : Holds T bytes evs []) {e : ObsEvent α} {p q : List Char}
    (hq : Json.dumps T e.toVal = p ++ q) (hne : q ≠ []) : Harmless T (bytes ++ p.utf8Encode) := by
  have hprintable : ∀ c : Char, c.toNat < 32 → c ∉ p := fun c hc hmem =>
    not_mem_dumps (T := T) e.toVal hc (hq ▸ List.mem_append_left q hmem)
  have hholds : Holds T (bytes ++ p.utf8Encode) evs p := by
    refine ⟨?_, h.named, hprintable _ (by decide), hprintable _ (by decide), fun _ => ?_⟩
    · rw [h.bytes_eq, ← List.utf8Encode_append, List.append_nil]
    · exact loads_eq_error (Json.scan_prefix_of_dumps hq hne)
  exact ⟨p, hholds.tailOf, hholds.remnant.rejected⟩

end Lines

/-! ## The files of a run -/

section Files

variable {T : Json.FloatText α}

/-- The files hold these events, each segment its share, and a remnant at the end of each. -/
def Stored (T : Json.FloatText α) (files : RunFiles) (evs : List (ObsEvent α)) : Prop :=
  ∃ rolled current blocks last,
    Laid files rolled current ∧
    List.Forall₂ (fun bytes es => ∃ torn, Holds T bytes es torn) rolled blocks ∧
    (∃ torn, Holds T (current.getD ByteArray.empty) last torn) ∧
    (current = none → last = []) ∧ evs = blocks.flatten ++ last

lemma stored_empty (T : Json.FloatText α) : Stored T Dict.empty [] :=
  ⟨[], none, [], [], laid_empty, .nil, ⟨[], holds_empty T⟩, fun _ => rfl, rfl⟩

lemma mapM_of_forall₂ {β γ δ : Type} {f : β → Except PyErr δ} {g : γ → δ} {bs : List β}
    {cs : List γ} (h : List.Forall₂ (fun b c => f b = .ok (g c)) bs cs) :
    bs.mapM f = .ok (cs.map g) := by
  induction h with
  | nil => rfl
  | cons hhead _ ih =>
    rw [List.mapM_cons, hhead, ih]
    rfl

/-- What is read from each segment is read from the run. -/
lemma Laid.iterSince {files : RunFiles} {rolled : List ByteArray} {current : Option ByteArray}
    (h : Laid files rolled current) {blocks : List (List (ObsEvent α))}
    (hblocks : List.Forall₂ (Replays T) (rolled ++ current.toList) blocks) (r : Replay) :
    iterSince (Json.scan T) files r = .ok ((blocks.flatten.filter r.wants).map ObsEvent.toVal) := by
  have hall := mapM_of_forall₂ (hblocks.imp fun _ _ hreplays => hreplays r)
  unfold WebBridge.iterSince
  rw [h.segmentsInOrder, hall, List.filter_flatten, List.map_flatten, List.map_map]
  rfl

lemma replays_of_holds {rolled : List ByteArray} {blocks : List (List (ObsEvent α))}
    (h : List.Forall₂ (fun bytes es => ∃ torn, Holds T bytes es torn) rolled blocks) :
    List.Forall₂ (Replays T) rolled blocks :=
  h.imp fun _ _ ⟨_, hholds⟩ => hholds.replays

/-- **Replay**: what the files hold is read back whole, in its order. -/
theorem Stored.iterSince {files : RunFiles} {evs : List (ObsEvent α)} (h : Stored T files evs)
    (r : Replay) :
    iterSince (Json.scan T) files r = .ok ((evs.filter r.wants).map ObsEvent.toVal) := by
  obtain ⟨rolled, current, blocks, last, hlaid, hrolled, ⟨torn, hlast⟩, hnone, rfl⟩ := h
  have hall : List.Forall₂ (Replays T) (rolled ++ current.toList)
      (blocks ++ current.toList.map fun _ => last) := by
    refine List.rel_append (replays_of_holds hrolled) ?_
    cases current with
    | none => exact .nil
    | some bytes => exact .cons hlast.replays .nil
  have hflatten : (blocks ++ current.toList.map fun _ => last).flatten =
      blocks.flatten ++ last := by
    cases current with
    | none => simp [hnone rfl]
    | some bytes => simp
  rw [← hflatten]
  exact hlaid.iterSince hall r

/-- Rolling the current file over keeps every event in its place. -/
lemma Stored.makeRoom {files : RunFiles} {evs : List (ObsEvent α)} (h : Stored T files evs)
    (maxBytes : ℤ) (line : ByteArray) : Stored T (makeRoom maxBytes files line) evs := by
  obtain ⟨rolled, current, blocks, last, hlaid, hrolled, hlast, hnone, hevs⟩ := h
  rcases hlaid.makeRoom maxBytes line with hsame | ⟨bytes, rfl, hrotated⟩
  · exact ⟨rolled, current, blocks, last, hsame, hrolled, hlast, hnone, hevs⟩
  · refine ⟨rolled ++ [bytes], none, blocks ++ [last], [], hrotated, ?_, ⟨[], holds_empty T⟩,
      fun _ => rfl, ?_⟩
    · exact List.rel_append hrolled (.cons hlast .nil)
    · rw [hevs, List.flatten_append, List.flatten_singleton, List.append_nil]

/-- The file the next line goes to. -/
def currentFile (files : RunFiles) : ByteArray := files.getD 0 ByteArray.empty

lemma Laid.currentFile {files : RunFiles} {rolled : List ByteArray} {current : Option ByteArray}
    (h : Laid files rolled current) : currentFile files = current.getD ByteArray.empty := by
  unfold WebBridge.currentFile Dict.getD
  rw [h.get?_zero]

lemma currentFile_writeBytes (files : RunFiles) (bytes : ByteArray) :
    currentFile (writeBytes files bytes) = currentFile files ++ bytes := by
  unfold currentFile writeBytes
  rw [Dict.getD, Dict.get?_set_self, Option.getD_some]

lemma existing_eq (files : RunFiles) :
    ((files.get? 0).map ByteArray.size).getD 0 = (currentFile files).size := by
  unfold currentFile Dict.getD
  cases files.get? 0 <;> rfl

/-- A line that fits is written to the current file. -/
lemma makeRoom_of_fits {maxBytes : ℤ} {files : RunFiles} {line : ByteArray}
    (h : ((currentFile files).size + line.size : ℤ) ≤ maxBytes) :
    makeRoom maxBytes files line = files := by
  unfold makeRoom
  rw [existing_eq]
  dsimp only
  rw [if_neg (by push_cast; omega)]

/-- Where the size limit allows nothing, every line begins a file. -/
lemma currentFile_makeRoom_of_nonpos {maxBytes : ℤ} (h : maxBytes ≤ 0) (files : RunFiles)
    (line : ByteArray) : currentFile (makeRoom maxBytes files line) = ByteArray.empty := by
  unfold makeRoom
  rw [existing_eq]
  dsimp only
  split_ifs with hfull
  · unfold rotate currentFile Dict.getD
    cases hzero : files.get? 0 with
    | none => simp only [hzero, Option.getD_none]
    | some bytes =>
      have hne : 0 ≠ nextIdx files := by
        unfold nextIdx
        omega
      simp only [Dict.get?_set_of_ne _ _ hne, Dict.get?_erase_self, Option.getD_none]
  · have hsize : (currentFile files).size = 0 := by omega
    exact ByteArray.size_eq_zero_iff.mp hsize

/-- A line that begins behind a line break is stored. -/
lemma Stored.write_line {files : RunFiles} {evs : List (ObsEvent α)} (h : Stored T files evs)
    (htail : tailOf (currentFile files) = .ok []) {e : ObsEvent α} (he : e.WellNamed) :
    Stored T (writeBytes files (encode (lineOf T e))) (evs ++ [e]) := by
  obtain ⟨rolled, current, blocks, last, hlaid, hrolled, ⟨torn, hlast⟩, -, hevs⟩ := h
  rw [hlaid.currentFile] at htail
  have hlaid' := hlaid.set (currentFile files ++ encode (lineOf T e))
  refine ⟨rolled, _, blocks, last ++ [e], hlaid', hrolled, ⟨[], ?_⟩,
    fun hnone => absurd hnone (Option.some_ne_none _), ?_⟩
  · rw [Option.getD_some, hlaid.currentFile]
    exact hlast.write_line htail he
  · rw [hevs, List.append_assoc]

/-- **A line that begins behind a remnant is never replayed**, when the two are refused. -/
lemma Stored.write_behind {files : RunFiles} {evs : List (ObsEvent α)} (h : Stored T files evs)
    {torn : List Char} (htail : tailOf (currentFile files) = .ok torn) {e : ObsEvent α}
    (hrefused : (Json.scan T).loads (String.ofList (torn ++ Json.dumps T e.toVal)) =
      .error .valueError) (r : Replay) :
    WebBridge.iterSince (Json.scan T) (writeBytes files (encode (lineOf T e))) r =
      .ok ((evs.filter r.wants).map ObsEvent.toVal) := by
  obtain ⟨rolled, current, blocks, last, hlaid, hrolled, ⟨torn', hlast⟩, -, rfl⟩ := h
  rw [hlaid.currentFile, hlast.tailOf] at htail
  obtain rfl : torn' = torn := Except.ok.inj htail
  have hall : List.Forall₂ (Replays T)
      (rolled ++ (some (currentFile files ++ encode (lineOf T e))).toList) (blocks ++ [last]) := by
    refine List.rel_append (replays_of_holds hrolled) (.cons ?_ .nil)
    rw [hlaid.currentFile]
    exact hlast.replays_behind hrefused
  have hread := (hlaid.set (currentFile files ++ encode (lineOf T e))).iterSince hall r
  rwa [List.flatten_append, List.flatten_singleton] at hread

/-- A line that is cut short without harm changes nothing of what is stored. -/
lemma Stored.write_cut {files : RunFiles} {evs : List (ObsEvent α)} (h : Stored T files evs)
    {e : ObsEvent α} {cut rest : ByteArray} (hline : cut ++ rest = encode (lineOf T e))
    (hrest : rest.size ≠ 0) (hharmless : Harmless T (currentFile (writeBytes files cut))) :
    Stored T (writeBytes files cut) evs := by
  obtain ⟨rolled, current, blocks, last, hlaid, hrolled, ⟨torn, hlast⟩, -, hevs⟩ := h
  rw [currentFile_writeBytes, hlaid.currentFile] at hharmless
  obtain ⟨torn', hholds⟩ := hlast.write_cut hline hrest hharmless
  have hlaid' := hlaid.set (currentFile files ++ cut)
  refine ⟨rolled, _, blocks, last, hlaid', hrolled, ⟨torn', ?_⟩,
    fun hnone => absurd hnone (Option.some_ne_none _), hevs⟩
  rw [Option.getD_some, hlaid.currentFile]
  exact hholds

end Files

/-! ## Runs with crashes -/

/-- What happens to the gateway: a message comes in, a message comes in and the process dies when
the first bytes of its line are on the disk, or the process is started again. -/
inductive GatewayInput (α : Type)
  | ingest (topic raw : String) (receiveTs : PyFloat α) (writable : Bool)
  | crash (topic raw : String) (receiveTs : PyFloat α) (bytesWritten : ℕ)
  | restart

/-- The files of the run, and the counter of the process while one is running. -/
structure Gateway where
  files : RunFiles
  seq : Option ℕ

section Crashes

variable [Zero α] [DecidableEq α] (S : IngestSettings α)

/-- The files after a write that was cut short; the last byte of the line is never written. -/
def Ingestor.cutShort (w : Ingestor) (topic raw : String) (receiveTs : PyFloat α)
    (bytesWritten : ℕ) : RunFiles :=
  match S.event topic raw (w.seq + 1) receiveTs with
  | .error _ => w.files
  | .ok e =>
    let line := encode (lineOf S.text e)
    appendBytes S.maxBytes w.files line (line.extract 0 (min bytesWritten (line.size - 1)))

omit [Zero α] [DecidableEq α] in
/-- A process is started on the files; it does not come up where reading them raises. -/
def Gateway.boot (files : RunFiles) : Gateway :=
  match Ingestor.resume S files with
  | .ok w => ⟨w.files, some w.seq⟩
  | .error _ => ⟨files, none⟩

/-- What one input makes of the gateway, and the event that was completed. -/
def gatewayStep (g : Gateway) : GatewayInput α → Gateway × Option (ObsEvent α)
  | .ingest topic raw receiveTs writable =>
    match g.seq with
    | none => (g, none)
    | some seq =>
      let reply := Ingestor.ingest S ⟨g.files, seq⟩ topic raw receiveTs writable
      (⟨reply.1.files, some reply.1.seq⟩, reply.2.toOption)
  | .crash topic raw receiveTs bytesWritten =>
    match g.seq with
    | none => (g, none)
    | some seq =>
      (Gateway.boot S (Ingestor.cutShort S ⟨g.files, seq⟩ topic raw receiveTs bytesWritten), none)
  | .restart => (Gateway.boot S g.files, none)

/-- The gateway, with the events it has completed. -/
def gateway : Machine Gateway (GatewayInput α) (Option (ObsEvent α)) := ⟨gatewayStep S⟩

omit [Zero α] [DecidableEq α] in
/-- A run that has no files yet. -/
def Gateway.start : Gateway := Gateway.boot S Dict.empty

/-- The condition under which nothing is lost: a line is begun on a line of its own, and a crash
leaves behind the last line break of the current file only what decodes and is refused. -/
def KeepsLines (g : Gateway) : GatewayInput α → Prop
  | .ingest topic raw receiveTs writable =>
    ∀ seq ∈ g.seq, ∀ e ∈ (S.event topic raw (seq + 1) receiveTs).toOption, writable = true →
      tailOf (currentFile (makeRoom S.maxBytes g.files (encode (lineOf S.text e)))) = .ok []
  | .crash topic raw receiveTs bytesWritten =>
    ∀ seq ∈ g.seq, Harmless S.text (currentFile
      (Ingestor.cutShort S ⟨g.files, seq⟩ topic raw receiveTs bytesWritten))
  | .restart => True

instance (g : Gateway) (i : GatewayInput α) : Decidable (KeepsLines S g i) :=
  match i with
  | .ingest topic raw receiveTs writable =>
    inferInstanceAs (Decidable (∀ seq ∈ g.seq,
      ∀ e ∈ (S.event topic raw (seq + 1) receiveTs).toOption, writable = true →
        tailOf (currentFile (makeRoom S.maxBytes g.files (encode (lineOf S.text e)))) = .ok []))
  | .crash topic raw receiveTs bytesWritten =>
    inferInstanceAs (Decidable (∀ seq ∈ g.seq, Harmless S.text (currentFile
      (Ingestor.cutShort S ⟨g.files, seq⟩ topic raw receiveTs bytesWritten))))
  | .restart => inferInstanceAs (Decidable True)

omit [Zero α] [DecidableEq α] in
/-- What holds between the gateway and the events it has completed. -/
structure Gateway.Inv (g : Gateway) (evs : List (ObsEvent α)) : Prop where
  stored : Stored S.text g.files evs
  numbered : evs.map ObsEvent.seq = List.range' 1 evs.length
  counter : g.seq = some evs.length

variable {S}

omit [Zero α] [DecidableEq α] in
/-- The last number in the log is the number of its events. -/
lemma lastSeq_of_stored {files : RunFiles} {evs : List (ObsEvent α)} (h : Stored S.text files evs)
    (hnumbered : evs.map ObsEvent.seq = List.range' 1 evs.length) :
    lastSeq (Json.scan S.text) files = .ok evs.length := by
  have hall : evs.filter Replay.all.wants = evs := by
    refine List.filter_eq_self.mpr fun e he => ?_
    have hmem : e.seq ∈ List.range' 1 evs.length := hnumbered ▸ List.mem_map_of_mem he
    rw [List.mem_range'_1] at hmem
    have hpos : 0 < e.seq := by omega
    simp [Replay.wants, Replay.all, hpos]
  have hfold : ∀ evs : List (ObsEvent α), evs.map ObsEvent.seq = List.range' 1 evs.length →
      (evs.map ObsEvent.toVal).foldl higherSeq 0 = evs.length := by
    intro evs hseqs
    induction evs using List.reverseRecOn with
    | nil => rfl
    | append_singleton evs e ih =>
      rw [List.map_append, List.length_append, List.length_singleton, List.range'_concat,
        List.map_singleton] at hseqs
      obtain ⟨hinit, hlast⟩ := List.append_inj' hseqs rfl
      have hseq : e.toVal.get? "seq" = some (.int e.seq) := by
        simp [PyVal.get?, ObsEvent.toVal, Dict.find]
      have heq : e.seq = 1 + 1 * evs.length := (List.cons.inj hlast).1
      have hlt : (evs.length : ℤ) < e.seq := by omega
      rw [List.map_append, List.foldl_append, ih hinit, List.map_singleton, List.foldl_cons,
        List.foldl_nil, List.length_append, List.length_singleton]
      unfold higherSeq
      simp only [hseq, if_pos hlt]
      omega
  unfold lastSeq
  rw [h.iterSince, hall]
  exact congrArg Except.ok (hfold evs hnumbered)

omit [Zero α] [DecidableEq α] in
/-- **Reopening** resumes where the completed events end. -/
lemma boot_of_stored {files : RunFiles} {evs : List (ObsEvent α)} (h : Stored S.text files evs)
    (hnumbered : evs.map ObsEvent.seq = List.range' 1 evs.length) :
    (Gateway.boot S files).Inv S evs := by
  have hboot : Gateway.boot S files = ⟨files, some evs.length⟩ := by
    unfold Gateway.boot Ingestor.resume
    rw [lastSeq_of_stored h hnumbered]
    rfl
  rw [hboot]
  exact ⟨h, hnumbered, rfl⟩

/-- What one input that keeps the lines preserves. -/
lemma inv_step {g : Gateway} {evs : List (ObsEvent α)} (h : g.Inv S evs) {i : GatewayInput α}
    (hclean : KeepsLines S g i) :
    (gatewayStep S g i).1.Inv S (evs ++ (gatewayStep S g i).2.toList) := by
  cases i with
  | ingest topic raw receiveTs writable =>
    unfold gatewayStep Ingestor.ingest
    rw [h.counter]
    dsimp only
    cases hevent : S.event topic raw (evs.length + 1) receiveTs with
    | error err => simpa [Except.toOption] using ⟨h.stored, h.numbered, rfl⟩
    | ok e =>
      obtain ⟨hseq, hnames⟩ := IngestSettings.event_spec hevent
      have hroom := h.stored.makeRoom S.maxBytes (encode (lineOf S.text e))
      cases writable with
      | false => simpa [Except.toOption] using ⟨hroom, h.numbered, rfl⟩
      | true =>
        have htail := hclean evs.length (by rw [h.counter]; rfl) e (by rw [hevent]; rfl) rfl
        refine ⟨hroom.write_line htail hnames, ?_, ?_⟩
        · show (evs ++ [e]).map ObsEvent.seq = List.range' 1 (evs ++ [e]).length
          rw [List.map_append, h.numbered, List.length_append, List.length_singleton,
            List.range'_concat, List.map_singleton, hseq]
          congr 2
          omega
        · show some (evs.length + 1) = some (evs ++ [e]).length
          rw [List.length_append, List.length_singleton]
  | crash topic raw receiveTs bytesWritten =>
    have hharmless := hclean evs.length (by rw [h.counter]; rfl)
    unfold gatewayStep
    rw [h.counter]
    refine boot_of_stored ?_ (by simpa using h.numbered)
    rw [Option.toList_none, List.append_nil]
    unfold Ingestor.cutShort at hharmless ⊢
    cases hevent : S.event topic raw (evs.length + 1) receiveTs with
    | error err => exact h.stored
    | ok e =>
      rw [hevent] at hharmless
      have hroom := h.stored.makeRoom S.maxBytes (encode (lineOf S.text e))
      have hpos : 0 < (encode (lineOf S.text e)).size := by
        rw [encode_eq, lineOf, List.utf8Encode_append, ByteArray.size_append]
        have hbreak : (['\n'] : List Char).utf8Encode.size = 1 := by decide
        omega
      set line := encode (lineOf S.text e) with hlineDef
      have hline : line.extract 0 (min bytesWritten (line.size - 1)) ++
          line.extract (min bytesWritten (line.size - 1)) line.size = line := by
        rw [← ByteArray.extract_eq_extract_append_extract _ (Nat.zero_le _) (by omega)]
        exact ByteArray.extract_zero_size
      refine hroom.write_cut hline ?_ hharmless
      rw [ByteArray.size_extract]
      omega
  | restart =>
    show (Gateway.boot S g.files).Inv S (evs ++ [])
    rw [List.append_nil]
    exact boot_of_stored h.stored h.numbered

omit [Zero α] [DecidableEq α] in
lemma start_inv (S : IngestSettings α) : (Gateway.start S).Inv S [] :=
  boot_of_stored (stored_empty S.text) rfl

/-- **What is kept over a run**: the files hold the completed events, numbered from one. -/
lemma inv_run {inputs : List (GatewayInput α)}
    (h : (gateway S).AllSteps (KeepsLines S) (Gateway.start S) inputs) :
    ((gateway S).run (Gateway.start S) inputs).Inv S
      ((gateway S).emitted (Gateway.start S) inputs) := by
  refine Machine.run_history_of_allSteps
    (I := fun past g => g.Inv S ((gateway S).emitted (Gateway.start S) past)) (start_inv S) ?_ h
  intro past i hclean hinv
  rw [Machine.emitted_concat]
  exact inv_step hinv hclean

/-- **The log survives crashes.**  In a run that keeps its lines apart, every replay of the log
raises nothing and gives exactly the completed events that were asked for, and these are in strictly
increasing order of their numbers. -/
theorem log_survives_crashes (S : IngestSettings α) (inputs : List (GatewayInput α))
    (h : (gateway S).AllSteps (KeepsLines S) (Gateway.start S) inputs) (r : Replay) :
    iterSince (Json.scan S.text) ((gateway S).run (Gateway.start S) inputs).files r =
        .ok ((((gateway S).emitted (Gateway.start S) inputs).filter r.wants).map
          ObsEvent.toVal) ∧
      (((gateway S).emitted (Gateway.start S) inputs).map ObsEvent.seq).Pairwise (· < ·) := by
  have hinv := inv_run h
  refine ⟨hinv.stored.iterSince r, ?_⟩
  rw [hinv.numbered]
  exact List.pairwise_lt_range'

omit [Zero α] [DecidableEq α] in
/-- A file that does not decode keeps the gateway from coming up again. -/
theorem boot_of_undecodable (S : IngestSettings α) {files : RunFiles} {bytes : ByteArray}
    (hmem : bytes ∈ segmentsInOrder files) {err : PyErr} (h : readText bytes = .error err) :
    (Gateway.boot S files).seq = none := by
  have hraises : ∀ r, ¬ ∃ events, iterSince (Json.scan S.text) files r = .ok events := by
    rintro r ⟨events, hevents⟩
    obtain ⟨parts, hparts, -⟩ := exceptMap_eq_ok.mp hevents
    obtain ⟨part, hpart⟩ := exists_mapM_eq_ok.mp ⟨parts, hparts⟩ bytes hmem
    rw [h] at hpart
    cases hpart
  unfold Gateway.boot
  cases hresume : Ingestor.resume S files with
  | error err' => rfl
  | ok w =>
    obtain ⟨seq, hseq, -⟩ := exceptMap_eq_ok.mp hresume
    obtain ⟨events, hevents, -⟩ := exceptMap_eq_ok.mp hseq
    exact absurd ⟨events, hevents⟩ (hraises _)

end Crashes

/-! ## A first byte and the next line -/

section FirstByte

variable [Zero α] [DecidableEq α] {S : IngestSettings α}

omit [Zero α] [DecidableEq α] in
lemma exists_brace (T : Json.FloatText α) (e : ObsEvent α) :
    ∃ cs, Json.dumps T e.toVal = '{' :: cs :=
  ⟨_, by rw [ObsEvent.toVal, Json.dumps]⟩

omit [Zero α] [DecidableEq α] in
/-- The first byte of a line is a brace, and never its last byte. -/
lemma extract_one (T : Json.FloatText α) (e : ObsEvent α) :
    (encode (lineOf T e)).extract 0 (min 1 ((encode (lineOf T e)).size - 1)) = encode ['{'] := by
  obtain ⟨cs, hcs⟩ := exists_brace T e
  have hline : lineOf T e = ['{'] ++ (cs ++ ['\n']) := by
    unfold lineOf
    rw [hcs]
    rfl
  have hbrace : (['{'] : List Char).utf8Encode.size = 1 := by decide
  have hbreak : (['\n'] : List Char).utf8Encode.size = 1 := by decide
  rw [hline, encode_eq, encode_eq, List.utf8Encode_append, List.utf8Encode_append]
  refine ByteArray.extract_append_eq_left ?_
  simp only [ByteArray.size_append, hbrace, hbreak]
  omega

omit [Zero α] [DecidableEq α] in
/-- A brace in front of a line makes it one that is refused. -/
lemma loads_brace_dumps (T : Json.FloatText α) (e : ObsEvent α) :
    (Json.scan T).loads (String.ofList (['{'] ++ Json.dumps T e.toVal)) = .error .valueError := by
  obtain ⟨cs, hcs⟩ := exists_brace T e
  refine loads_eq_error fun v hscan => ?_
  unfold Json.scan at hscan
  rw [String.toList_ofList, hcs] at hscan
  cases hscan

omit [Zero α] [DecidableEq α] in
/-- Starting a process writes nothing. -/
lemma boot_files (S : IngestSettings α) (files : RunFiles) :
    (Gateway.boot S files).files = files := by
  unfold Gateway.boot Ingestor.resume
  cases lastSeq (Json.scan S.text) files <;> rfl

/-- The files when the first message of a run is cut after its first byte. -/
lemma currentFile_cutShort_start {topic raw : String} {receiveTs : PyFloat α} {e : ObsEvent α}
    (hevent : S.event topic raw 1 receiveTs = .ok e) :
    currentFile (Ingestor.cutShort S ⟨(Gateway.start S).files, 0⟩ topic raw receiveTs 1) =
      encode ['{'] := by
  have hroom : makeRoom S.maxBytes Dict.empty (encode (lineOf S.text e)) = Dict.empty := by
    unfold makeRoom
    exact if_neg fun h => absurd h.1 (Nat.lt_irrefl 0)
  unfold Ingestor.cutShort
  rw [Gateway.start, boot_files, Nat.zero_add, hevent]
  dsimp only [appendBytes]
  rw [hroom, currentFile_writeBytes, extract_one]
  exact ByteArray.empty_append

lemma keepsLines_start {topic raw : String} {receiveTs : PyFloat α} {e : ObsEvent α}
    (hevent : S.event topic raw 1 receiveTs = .ok e) :
    KeepsLines S (Gateway.start S) (.crash topic raw receiveTs 1) := by
  intro seq hseq
  rw [(start_inv S).counter] at hseq
  obtain rfl : 0 = seq := Option.some.inj hseq
  rw [currentFile_cutShort_start hevent]
  exact ⟨['{'], by decide, fun _ => loads_eq_error fun v hscan => by cases hscan⟩

/-- **A first byte swallows the next line.**  When the first message of a run is cut after its
first byte and the next one fits into the file, that one is completed and never replayed. -/
theorem first_byte_swallows_next {topic raw topic' raw' : String} {receiveTs receiveTs' : PyFloat α}
    {e e' : ObsEvent α} (hevent : S.event topic raw 1 receiveTs = .ok e)
    (hevent' : S.event topic' raw' 1 receiveTs' = .ok e')
    (hfits : (1 + (encode (lineOf S.text e')).size : ℤ) ≤ S.maxBytes) :
    let inputs := [.crash topic raw receiveTs 1, .ingest topic' raw' receiveTs' true]
    (gateway S).emitted (Gateway.start S) inputs = [e'] ∧
      ∀ r, iterSince (Json.scan S.text) ((gateway S).run (Gateway.start S) inputs).files r =
        .ok [] := by
  have hkeeps := keepsLines_start hevent
  have hcurrent := currentFile_cutShort_start hevent
  have hcounter := (start_inv S).counter
  have hinv := inv_step (start_inv S) hkeeps
  have hcrash : gatewayStep S (Gateway.start S) (.crash topic raw receiveTs 1) =
      (Gateway.boot S (Ingestor.cutShort S ⟨(Gateway.start S).files, 0⟩ topic raw receiveTs 1),
        none) := by
    unfold gatewayStep
    dsimp only
    rw [hcounter]
    rfl
  rw [hcrash] at hinv
  rw [← boot_files S (Ingestor.cutShort _ _ _ _ _ _)] at hcurrent
  generalize Gateway.boot S _ = g at hcrash hinv hcurrent
  have hroom : makeRoom S.maxBytes g.files (encode (lineOf S.text e')) = g.files := by
    refine makeRoom_of_fits ?_
    rw [hcurrent]
    exact hfits
  have hnext : gatewayStep S g (.ingest topic' raw' receiveTs' true) =
      (⟨writeBytes g.files (encode (lineOf S.text e')), some 1⟩, some e') := by
    have hseq : g.seq = some 0 := hinv.counter
    unfold gatewayStep Ingestor.ingest
    dsimp only
    rw [hseq]
    dsimp only
    rw [Nat.zero_add, hevent']
    dsimp only [appendBytes]
    rw [hroom]
    rfl
  have htail : tailOf (currentFile g.files) = .ok ['{'] := by
    rw [hcurrent]
    decide
  intro inputs
  constructor
  · show (gateway S).emitted (Gateway.start S) [_, _] = [e']
    rw [Machine.emitted_cons, Machine.emitted_singleton]
    show (gatewayStep S _ _).2.toList ++ (gatewayStep S (gatewayStep S _ _).1 _).2.toList = [e']
    rw [hcrash, hnext]
    rfl
  · intro r
    show iterSince _ (gatewayStep S (gatewayStep S _ _).1 _).1.files r = .ok []
    rw [hcrash, hnext]
    exact hinv.stored.write_behind htail (loads_brace_dumps S.text e') r

end FirstByte

/-! ## Two runs -/

/-- Settings without a trace deriver, with times in whole seconds. -/
def plainSettings (maxBytes : ℤ) : IngestSettings ℕ where
  text := Json.FloatText.whole
  runId := none
  maxBytes := maxBytes
  traceDeriver := none

/-- A message whose line is cut after its first byte, and the next one. -/
def cutThenNext : List (GatewayInput ℕ) :=
  [.crash "/llm/reasoning" "a" (.fin 1) 1, .ingest "/llm/reasoning" "b" (.fin 2) true]

/-- Where every line rolls the file over, the cut stays a line of its own. -/
theorem log_survives_crashes_rolled :
    (gateway (plainSettings 0)).AllSteps (KeepsLines (plainSettings 0))
        (Gateway.start (plainSettings 0)) cutThenNext ∧
      iterSince (Json.scan Json.FloatText.whole)
          ((gateway (plainSettings 0)).run (Gateway.start (plainSettings 0)) cutThenNext).files
          Replay.all =
        .ok ((((gateway (plainSettings 0)).emitted (Gateway.start (plainSettings 0))
          cutThenNext).filter Replay.all.wants).map ObsEvent.toVal) := by
  have hkeeps : (gateway (plainSettings 0)).AllSteps (KeepsLines (plainSettings 0))
      (Gateway.start (plainSettings 0)) cutThenNext := by
    refine ⟨keepsLines_start rfl, ?_, trivial⟩
    intro seq _ e _ _
    have hlimit : (plainSettings 0).maxBytes ≤ 0 := Int.le_refl 0
    rw [currentFile_makeRoom_of_nonpos hlimit]
    rfl
  exact ⟨hkeeps, (log_survives_crashes (plainSettings 0) cutThenNext hkeeps Replay.all).1⟩

/-- The event of the second message. -/
def nextEvent : ObsEvent ℕ :=
  ⟨1, .fin 2, "/llm/reasoning", "reasoning", none, none, none, none, none, none,
    [("text", .str "b")]⟩

/-- Where the file is not rolled over, the second message is completed and no replay gives it. -/
theorem torn_line_swallows_next :
    (gateway (plainSettings 8000000)).emitted (Gateway.start (plainSettings 8000000)) cutThenNext =
        [nextEvent] ∧
      ∀ r, iterSince (Json.scan Json.FloatText.whole)
        ((gateway (plainSettings 8000000)).run (Gateway.start (plainSettings 8000000))
          cutThenNext).files r = .ok [] := by
  have hfits : (1 + (encode (lineOf Json.FloatText.whole nextEvent)).size : ℤ) ≤ 8000000 := by
    decide +kernel
  exact first_byte_swallows_next (S := plainSettings 8000000) rfl rfl hfits

end WebBridge

end MiniatureWarehouse
