import MiniatureWarehouse.Framework.CodePoints
import MiniatureWarehouse.WebBridge.Ingest

/-!
# Numbers without gaps

The ingest point again, this time over strings that may hold surrogates and in an interpreter that
has room for so many levels of nesting only, because both decide whether a message is logged at
all.  `json.loads` is any function that returns a value or raises one of its two exceptions, and a
disk may fail at every call the log makes of it.

A number is given back whenever anything raises, so the numbers of the log have no gap whatever
comes in.  What can be lost is the message: text nested too deeply raises out of the decoder or the
encoder, and a surrogate, which an escape in the text of a message is enough to produce, out of the
encoding of the line.  `contiguity_iff` says that nothing else does.
-/

namespace MiniatureWarehouse

namespace WebBridge

namespace Raw

/-- A name or a word of the source. -/
def word (s : String) : PyStr := PyStr.ofChars s.toList

/-- The envelope, with its fields in the order in which they are written. -/
structure ObsEvent (α : Type) where
  seq : ℕ
  receiveTs : PyFloat α
  sourceTopic : String
  kind : String
  runId : Option PyStr
  genId : Option ℤ
  negotiationId : Option PyStr
  robot : Option PyStr
  traceId : Option PyStr
  personaSource : Option PyStr
  payload : List (PyStr × Decoded α)

variable {α : Type}

/-- A value or `None`. -/
def optional {β : Type} (f : β → Decoded α) : Option β → Decoded α
  | none => .null
  | some x => f x

/-- The envelope as the dictionary the code passes around. -/
def ObsEvent.toVal (e : ObsEvent α) : Decoded α :=
  .dict [(word "schema_version", .int schemaVersion), (word "seq", .int e.seq),
    (word "receive_ts", .float e.receiveTs), (word "source_topic", .str (word e.sourceTopic)),
    (word "kind", .str (word e.kind)), (word "run_id", optional .str e.runId),
    (word "gen_id", optional .int e.genId), (word "negotiation_id", optional .str e.negotiationId),
    (word "robot", optional .str e.robot), (word "trace_id", optional .str e.traceId),
    (word "persona_source", optional .str e.personaSource), (word "payload", .dict e.payload)]

section Normalize

variable [Zero α] [DecidableEq α]

/-- `bool(value)`. -/
def truthy : Decoded α → Bool
  | .null => false
  | .bool b => b
  | .int i => i ≠ 0
  | .float x => x ≠ .fin 0
  | .str s => !s.isEmpty
  | .list xs => !xs.isEmpty
  | .dict es => !es.isEmpty

omit [Zero α] [DecidableEq α] in
/-- `_as_opt_str`, of `data.get(...)`. -/
def asOptStr : Option (Decoded α) → Option PyStr
  | some (.str s) => some s
  | _ => none

omit [Zero α] [DecidableEq α] in
/-- `_extract_gen_id`. -/
def extractGenId (data : Decoded α) : Option ℤ :=
  match data.get? (word "gen_id") with
  | some (.int i) => some i
  | _ => none

/-- `_extract_robot`. -/
def extractRobot (data : Decoded α) : Option PyStr :=
  match data.get? (word "robot") with
  | some v => if truthy v then asOptStr (some v) else asOptStr (data.get? (word "bot"))
  | none => asOptStr (data.get? (word "bot"))

/-- `to_obs_event`, of a text message. -/
def toObsEvent (loads : PyStr → Except LoadsErr (Decoded α)) (sourceTopic : String) (raw : PyStr)
    (seq : ℕ) (receiveTs : PyFloat α) (runId : Option PyStr) : Except PyErr (ObsEvent α) :=
  let malformed : ObsEvent α :=
    ⟨seq, receiveTs, sourceTopic, kindMalformed, runId, none, none, none, none, none,
      [(word "raw", .str raw)]⟩
  if sourceTopic = textTopic then
    .ok ⟨seq, receiveTs, sourceTopic, "reasoning", runId, none, none, none, none, none,
      [(word "text", .str raw)]⟩
  else
    match loads raw with
    | .error .valueError => .ok malformed
    | .error .recursionError => .error .recursionError
    | .ok (.dict es) =>
      match kindByTopic sourceTopic with
      | none => .ok malformed
      | some kind =>
        .ok ⟨seq, receiveTs, sourceTopic, kind, runId, extractGenId (.dict es),
          asOptStr ((Decoded.dict es).get? (word "negotiation_id")), extractRobot (.dict es), none,
          none, es⟩
    | .ok _ => .ok malformed

end Normalize

/-! ## The log and the ingest point -/

/-- What an `Ingestor` is built with, the size limit of its log, and how many levels of nesting the
encoder has room for; two are those of an envelope. -/
structure Settings (α : Type) where
  text : Json.FloatText α
  loads : PyStr → Except LoadsErr (Decoded α)
  maxDepth : ℕ
  two_le_maxDepth : 2 ≤ maxDepth
  runId : Option PyStr
  maxBytes : ℤ
  traceDeriver : Option (Option PyStr → ℤ → Except PyErr (Option PyStr))

/-- What the disk does when an event is appended; a write that fails may leave first bytes of the
line behind. -/
inductive Disk
  | works
  | statFails
  | renameFails
  | openFails
  | writeFails (written : ℕ)
  deriving DecidableEq

/-- A failed write leaves nothing of its line behind. -/
def Disk.LeavesNothing (disk : Disk) : Prop := ∀ written, disk = .writeFails written → written = 0

/-- A message, and what the disk does when it comes in. -/
structure Message (α : Type) where
  topic : String
  raw : PyStr
  receiveTs : PyFloat α
  disk : Disk

section Ingest

/-- The end of `append`: the file is opened, which makes it, and the line is encoded and written. -/
def writeLine (files : RunFiles) (line : PyStr) (disk : Disk) : RunFiles × Except PyErr Unit :=
  if disk = .openFails then (files, .error .osError)
  else
    match PyStr.encode line with
    | .error err => (writeBytes files ByteArray.empty, .error err)
    | .ok bytes =>
      match disk with
      | .writeFails written => (writeBytes files (bytes.extract 0 written), .error .osError)
      | _ => (writeBytes files bytes, .ok ())

variable (S : Settings α)

/-- The line of an event. -/
def Settings.line (e : ObsEvent α) : PyStr :=
  Decoded.dumps S.text e.toVal ++ PyStr.ofChars ['\n']

/-- `append` of a line; the file is rolled over first when the line would take it past the
limit. -/
def Settings.appendLine (files : RunFiles) (line : PyStr) (disk : Disk) :
    RunFiles × Except PyErr Unit :=
  let existing := ((files.get? 0).map ByteArray.size).getD 0
  if disk = .statFails then (files, .error .osError)
  else if existing = 0 then writeLine files line disk
  else
    match PyStr.encode line with
    | .error err => (files, .error err)
    | .ok bytes =>
      if (existing + bytes.size : ℕ) ≤ S.maxBytes then writeLine files line disk
      else if disk = .renameFails then (files, .error .osError)
      else writeLine (rotate files) line disk

/-- `append`. -/
def Settings.append (files : RunFiles) (e : ObsEvent α) (disk : Disk) :
    RunFiles × Except PyErr Unit :=
  match Decoded.dumpsWithin S.text S.maxDepth e.toVal with
  | .error err => (files, .error err)
  | .ok text => S.appendLine files (text ++ PyStr.ofChars ['\n']) disk

/-- The trace id for a generation; a deriver that raises leaves it open. -/
def Settings.traceId (genId : Option ℤ) : Option PyStr :=
  match S.traceDeriver, genId with
  | some derive, some genId =>
    match derive S.runId genId with
    | .ok traceId => traceId
    | .error _ => none
  | _, _ => none

variable [Zero α] [DecidableEq α]

/-- The event a message becomes under a number. -/
def Settings.event (topic : String) (raw : PyStr) (seq : ℕ) (receiveTs : PyFloat α) :
    Except PyErr (ObsEvent α) :=
  (toObsEvent S.loads topic raw seq receiveTs S.runId).map fun e =>
    { e with traceId := S.traceId e.genId }

/-- `Ingestor.ingest`. -/
def ingest (w : Ingestor) (m : Message α) : Ingestor × Except PyErr (ObsEvent α) :=
  match S.event m.topic m.raw (w.seq + 1) m.receiveTs with
  | .error err => (w, .error err)
  | .ok e =>
    match S.append w.files e m.disk with
    | (files, .ok ()) => (⟨files, w.seq + 1⟩, .ok e)
    | (files, .error err) => (⟨files, w.seq⟩, .error err)

/-- The ingest point as a machine. -/
def ingestor : Machine Ingestor (Message α) (Except PyErr (ObsEvent α)) := ⟨ingest S⟩

end Ingest

/-! ## What the files hold -/

section Bytes

/-- The bytes of the log, in replay order. -/
def logBytes (files : RunFiles) : List UInt8 :=
  (segmentsInOrder files).flatMap fun bytes => bytes.data.toList

/-- The segments are numbered as they were rolled. -/
def Ordered (files : RunFiles) : Prop := ∃ rolled current, Laid files rolled current

lemma Laid.logBytes {files : RunFiles} {rolled : List ByteArray} {current : Option ByteArray}
    (h : Laid files rolled current) :
    logBytes files = (rolled ++ current.toList).flatMap fun bytes => bytes.data.toList := by
  unfold Raw.logBytes
  rw [h.segmentsInOrder]

/-- Rolling over moves no byte. -/
lemma Ordered.rotate {files : RunFiles} (h : Ordered files) :
    Ordered (rotate files) ∧ logBytes (rotate files) = logBytes files := by
  obtain ⟨rolled, current, hlaid⟩ := h
  cases current with
  | none =>
    have hsame : WebBridge.rotate files = files := by
      unfold WebBridge.rotate
      rw [hlaid.get?_zero]
    rw [hsame]
    exact ⟨⟨rolled, none, hlaid⟩, rfl⟩
  | some bytes =>
    refine ⟨⟨_, _, hlaid.rotate⟩, ?_⟩
    rw [Laid.logBytes hlaid.rotate, Laid.logBytes hlaid]
    simp

/-- Writing adds its bytes at the end. -/
lemma Ordered.writeBytes {files : RunFiles} (h : Ordered files) (bytes : ByteArray) :
    Ordered (writeBytes files bytes) ∧
      logBytes (writeBytes files bytes) = logBytes files ++ bytes.data.toList := by
  obtain ⟨rolled, current, hlaid⟩ := h
  have hset := hlaid.set (files.getD 0 ByteArray.empty ++ bytes)
  refine ⟨⟨_, _, hset⟩, ?_⟩
  have hcurrent : files.getD 0 ByteArray.empty = current.getD ByteArray.empty := by
    unfold Dict.getD
    rw [hlaid.get?_zero]
  unfold WebBridge.writeBytes
  rw [Laid.logBytes hset, Laid.logBytes hlaid, hcurrent]
  cases current <;> simp

end Bytes

section Append

variable (S : Settings α)

/-- The bytes of the line of an event, where it can be encoded. -/
def Settings.lineBytes (e : ObsEvent α) : List UInt8 :=
  match PyStr.encode (S.line e) with
  | .ok bytes => bytes.data.toList
  | .error _ => []

/-- What an append leaves in the files: its line when it returns, and else nothing. -/
structure Appended (files : RunFiles) (e : ObsEvent α) (after : RunFiles × Except PyErr Unit) :
    Prop where
  ordered : Ordered after.1
  logged : after.2 = .ok () → logBytes after.1 = logBytes files ++ S.lineBytes e
  failed : ∀ err, after.2 = .error err → logBytes after.1 = logBytes files

variable {S}

lemma appended_failed {files : RunFiles} (h : Ordered files) (e : ObsEvent α) (err : PyErr) :
    Appended S files e (files, .error err) := by
  refine ⟨h, fun hok => ?_, fun _ _ => rfl⟩
  cases hok

lemma appended_writeLine {files before : RunFiles} (h : Ordered files)
    (hbefore : logBytes files = logBytes before) (e : ObsEvent α) {disk : Disk}
    (hdisk : disk.LeavesNothing) : Appended S before e (writeLine files (S.line e) disk) := by
  have hempty := h.writeBytes ByteArray.empty
  have hnothing : logBytes (writeBytes files ByteArray.empty) = logBytes before := by
    rw [hempty.2, ← hbefore]
    exact List.append_nil _
  fun_cases writeLine files (S.line e) disk with
  | case1 =>
    refine ⟨h, fun hok => ?_, fun _ _ => hbefore⟩
    cases hok
  | case2 hopen err hencode =>
    refine ⟨hempty.1, fun hok => ?_, fun _ _ => hnothing⟩
    cases hok
  | case3 bytes hencode written hopen =>
    obtain rfl := hdisk written rfl
    have hzero : bytes.extract 0 0 = ByteArray.empty := by
      apply ByteArray.ext
      simp
    rw [hzero]
    refine ⟨hempty.1, fun hok => ?_, fun _ _ => hnothing⟩
    cases hok
  | case4 _ _ bytes hencode =>
    have hwrite := h.writeBytes bytes
    refine ⟨hwrite.1, fun _ => ?_, fun err herr => ?_⟩
    · rw [hwrite.2, hbefore]
      unfold Settings.lineBytes
      rw [hencode]
    · cases herr

lemma appended_appendLine {files : RunFiles} (h : Ordered files) (e : ObsEvent α) {disk : Disk}
    (hdisk : disk.LeavesNothing) :
    Appended S files e (S.appendLine files (S.line e) disk) := by
  fun_cases Settings.appendLine S files (S.line e) disk with
  | case1 => exact appended_failed h e _
  | case2 => exact appended_writeLine h rfl e hdisk
  | case3 => exact appended_failed h e _
  | case4 => exact appended_writeLine h rfl e hdisk
  | case5 => exact appended_failed h e _
  | case6 => exact appended_writeLine h.rotate.1 h.rotate.2 e hdisk

/-- **Appending** adds the line of the event or nothing. -/
lemma appended_append {files : RunFiles} (h : Ordered files) (e : ObsEvent α) {disk : Disk}
    (hdisk : disk.LeavesNothing) : Appended S files e (S.append files e disk) := by
  unfold Settings.append Decoded.dumpsWithin
  by_cases hdepth : e.toVal.depth ≤ S.maxDepth
  · rw [if_pos hdepth]
    exact appended_appendLine h e hdisk
  · rw [if_neg hdepth]
    exact appended_failed h e _

/-- An event can be written: it is nested no deeper than there is room for, and no text of it holds
a surrogate. -/
def Settings.Writes (S : Settings α) (e : ObsEvent α) : Prop :=
  e.toVal.depth ≤ S.maxDepth ∧ e.toVal.hasSurrogate = false

lemma encode_line (e : ObsEvent α) :
    (∃ bytes, PyStr.encode (S.line e) = .ok bytes) ↔ e.toVal.hasSurrogate = false := by
  rw [PyStr.encode_eq_ok_iff]
  unfold Settings.line
  rw [PyStr.hasSurrogate_append, PyStr.hasSurrogate_ofChars, Bool.or_false,
    Decoded.hasSurrogate_dumps]

lemma writeLine_works_iff (files : RunFiles) (e : ObsEvent α) :
    (writeLine files (S.line e) .works).2 = .ok () ↔ e.toVal.hasSurrogate = false := by
  rw [← encode_line (S := S)]
  unfold writeLine
  cases PyStr.encode (S.line e) <;> simp

lemma appendLine_works_iff (files : RunFiles) (e : ObsEvent α) :
    (S.appendLine files (S.line e) .works).2 = .ok () ↔ e.toVal.hasSurrogate = false := by
  have hwrite := writeLine_works_iff (S := S)
  fun_cases Settings.appendLine S files (S.line e) Disk.works with
  | case1 hdisk => cases hdisk
  | case2 => exact hwrite files e
  | case3 _ _ _ err hencode =>
    have hsurrogate : e.toVal.hasSurrogate ≠ false := fun hclean => by
      obtain ⟨bytes, hbytes⟩ := (encode_line (S := S) e).mpr hclean
      rw [hencode] at hbytes
      cases hbytes
    simp [hsurrogate]
  | case4 => exact hwrite files e
  | case5 _ _ _ _ _ _ hdisk => cases hdisk
  | case6 => exact hwrite (rotate files) e

/-- On a disk that works an append returns exactly for an event that can be written. -/
lemma append_works_iff (files : RunFiles) (e : ObsEvent α) :
    (S.append files e .works).2 = .ok () ↔ S.Writes e := by
  unfold Settings.append Settings.Writes Decoded.dumpsWithin
  by_cases hdepth : e.toVal.depth ≤ S.maxDepth
  · rw [if_pos hdepth, and_iff_right hdepth]
    exact appendLine_works_iff files e
  · rw [if_neg hdepth]
    simp [hdepth]

end Append

/-! ## Which messages are logged -/

section Condition

variable [Zero α] [DecidableEq α] (S : Settings α)

/-- Whether an optional text holds a surrogate. -/
def anySurrogate (s : Option PyStr) : Bool := s.any PyStr.hasSurrogate

/-- A message can be logged: the decoder does not run out of room, the payload is nested no deeper
than there is room for in the envelope, and no text that goes into the line holds a surrogate. -/
def Settings.Recordable (topic : String) (raw : PyStr) : Prop :=
  anySurrogate S.runId = false ∧
    if topic = textTopic then PyStr.hasSurrogate raw = false
    else
      match S.loads raw with
      | .error .recursionError => False
      | .ok (.dict es) =>
        if (kindByTopic topic).isSome then
          Decoded.hasSurrogateEntries es = false ∧ Decoded.depthEntries es + 2 ≤ S.maxDepth ∧
            anySurrogate (S.traceId (extractGenId (.dict es))) = false
        else PyStr.hasSurrogate raw = false
      | _ => PyStr.hasSurrogate raw = false

omit [Zero α] [DecidableEq α] in
lemma depth_optional {β : Type} {f : β → Decoded α} (hf : ∀ x, (f x).depth = 0) (x : Option β) :
    (optional f x).depth = 0 := by
  cases x with
  | none => rfl
  | some y => exact hf y

omit [Zero α] [DecidableEq α] in
lemma depth_toVal (e : ObsEvent α) : e.toVal.depth = Decoded.depthEntries e.payload + 2 := by
  have hstr (x : Option PyStr) : (optional (α := α) .str x).depth = 0 :=
    depth_optional (fun _ => rfl) x
  have hint (x : Option ℤ) : (optional (α := α) .int x).depth = 0 :=
    depth_optional (fun _ => rfl) x
  simp [ObsEvent.toVal, Decoded.depth, Decoded.depthEntries, hstr, hint]

omit [Zero α] [DecidableEq α] in
lemma hasSurrogate_optional (x : Option PyStr) :
    (optional (α := α) .str x).hasSurrogate = anySurrogate x := by
  cases x <;> rfl

omit [Zero α] [DecidableEq α] in
lemma hasSurrogate_toVal (e : ObsEvent α) :
    e.toVal.hasSurrogate = (anySurrogate e.runId || anySurrogate e.negotiationId ||
      anySurrogate e.robot || anySurrogate e.traceId || anySurrogate e.personaSource ||
      Decoded.hasSurrogateEntries e.payload) := by
  have hint (x : Option ℤ) : (optional (α := α) .int x).hasSurrogate = false := by
    cases x <;> rfl
  simp [ObsEvent.toVal, Decoded.hasSurrogate, Decoded.hasSurrogateEntries, hasSurrogate_optional,
    hint, word, Bool.or_assoc]

omit [Zero α] [DecidableEq α] in
/-- What is read off a payload without surrogates holds none. -/
lemma anySurrogate_asOptStr {es : List (PyStr × Decoded α)}
    (hes : Decoded.hasSurrogateEntries es = false) (name : PyStr) :
    anySurrogate (asOptStr ((Decoded.dict es).get? name)) = false := by
  have hget : (Decoded.dict es).get? name = Dict.find es name := rfl
  rw [hget]
  cases hfind : Dict.find es name with
  | none => rfl
  | some v =>
    have hv := Decoded.hasSurrogate_of_find hes hfind
    cases v with
    | str s => exact hv
    | _ => rfl

lemma anySurrogate_extractRobot {es : List (PyStr × Decoded α)}
    (hes : Decoded.hasSurrogateEntries es = false) :
    anySurrogate (extractRobot (.dict es)) = false := by
  have hrobot := anySurrogate_asOptStr hes (word "robot")
  have hbot := anySurrogate_asOptStr hes (word "bot")
  unfold extractRobot
  split
  · rename_i v hv
    rw [hv] at hrobot
    split_ifs
    · exact hrobot
    · exact hbot
  · exact hbot

variable {S}

omit [Zero α] [DecidableEq α] in
/-- An event that keeps a text as it came can be written when its texts can. -/
lemma writes_text (seq : ℕ) (receiveTs : PyFloat α) (topic kind name : String) (raw : PyStr) :
    S.Writes ⟨seq, receiveTs, topic, kind, S.runId, none, none, none, none, none,
        [(word name, .str raw)]⟩ ↔
      anySurrogate S.runId = false ∧ PyStr.hasSurrogate raw = false := by
  have hdepth := S.two_le_maxDepth
  unfold Settings.Writes
  rw [depth_toVal, hasSurrogate_toVal]
  simp [anySurrogate, Decoded.depthEntries, Decoded.depth, Decoded.hasSurrogateEntries,
    Decoded.hasSurrogate, word, hdepth]

/-- An event that carries a payload can be written when the payload and the other texts can. -/
lemma writes_payload (seq : ℕ) (receiveTs : PyFloat α) (topic kind : String)
    (es : List (PyStr × Decoded α)) :
    S.Writes ⟨seq, receiveTs, topic, kind, S.runId, extractGenId (.dict es),
        asOptStr ((Decoded.dict es).get? (word "negotiation_id")), extractRobot (.dict es),
        S.traceId (extractGenId (.dict es)), none, es⟩ ↔
      anySurrogate S.runId = false ∧ Decoded.hasSurrogateEntries es = false ∧
        Decoded.depthEntries es + 2 ≤ S.maxDepth ∧
        anySurrogate (S.traceId (extractGenId (.dict es))) = false := by
  unfold Settings.Writes
  rw [depth_toVal, hasSurrogate_toVal]
  simp only [Bool.or_eq_false_iff]
  constructor
  · rintro ⟨hdepth, ⟨⟨⟨⟨hrun, -⟩, -⟩, htrace⟩, -⟩, hes⟩
    exact ⟨hrun, hes, hdepth, htrace⟩
  · rintro ⟨hrun, hes, hdepth, htrace⟩
    exact ⟨hdepth, ⟨⟨⟨⟨hrun, anySurrogate_asOptStr hes _⟩, anySurrogate_extractRobot hes⟩, htrace⟩,
      rfl⟩, hes⟩

omit [Zero α] [DecidableEq α] in
lemma traceId_none : S.traceId none = none := by
  unfold Settings.traceId
  split
  · rename_i hsome
    cases hsome
  · rfl

/-- **Which messages can be logged**: those that become an event that can be written. -/
lemma recordable_iff (topic : String) (raw : PyStr) (seq : ℕ) (receiveTs : PyFloat α) :
    S.Recordable topic raw ↔ ∃ e, S.event topic raw seq receiveTs = .ok e ∧ S.Writes e := by
  have hkept (kind name : String) (e : ObsEvent α)
      (he : e = ⟨seq, receiveTs, topic, kind, S.runId, none, none, none, none, none,
        [(word name, .str raw)]⟩) :
      (∃ e', (Except.ok { e with traceId := S.traceId e.genId } : Except PyErr _) = .ok e' ∧
          S.Writes e') ↔ anySurrogate S.runId = false ∧ PyStr.hasSurrogate raw = false := by
    subst he
    rw [← writes_text seq receiveTs topic kind name raw]
    simp [traceId_none]
  unfold Settings.Recordable Settings.event toObsEvent
  dsimp only
  by_cases htext : topic = textTopic
  · rw [if_pos htext, if_pos htext]
    exact (hkept "reasoning" "text" _ rfl).symm
  · rw [if_neg htext, if_neg htext]
    cases hloads : S.loads raw with
    | error err =>
      cases err with
      | valueError => exact (hkept kindMalformed "raw" _ rfl).symm
      | recursionError => simp [Except.map]
    | ok v =>
      cases v with
      | dict es =>
        cases hkind : kindByTopic topic with
        | none => exact (hkept kindMalformed "raw" _ rfl).symm
        | some kind =>
          have hwrites := writes_payload (S := S) seq receiveTs topic kind es
          simp [Except.map, hwrites]
      | _ => exact (hkept kindMalformed "raw" _ rfl).symm

end Condition

/-! ## Runs -/

section Runs

variable [Zero α] [DecidableEq α] {S : Settings α}

lemma seq_of_event {topic : String} {raw : PyStr} {seq : ℕ} {receiveTs : PyFloat α}
    {e : ObsEvent α} (h : S.event topic raw seq receiveTs = .ok e) : e.seq = seq := by
  obtain ⟨e', hevent, rfl⟩ := exceptMap_eq_ok.mp h
  unfold toObsEvent at hevent
  dsimp only at hevent
  split at hevent
  · rw [← Except.ok.inj hevent]
  · split at hevent
    · rw [← Except.ok.inj hevent]
    · cases hevent
    · split at hevent
      · rw [← Except.ok.inj hevent]
      · rw [← Except.ok.inj hevent]
    · rw [← Except.ok.inj hevent]

/-- What one message does: it becomes the next event, whose line is the next of the log, or it
leaves the counter and the log alone. -/
inductive Ingested (S : Settings α) (w : Ingestor) (after : Ingestor × Except PyErr (ObsEvent α)) :
    Prop
  | logged (e : ObsEvent α) (hout : after.2 = .ok e) (hseq : e.seq = w.seq + 1)
      (hcounter : after.1.seq = w.seq + 1)
      (hlog : logBytes after.1.files = logBytes w.files ++ S.lineBytes e)
  | failed (err : PyErr) (hout : after.2 = .error err) (hcounter : after.1.seq = w.seq)
      (hlog : logBytes after.1.files = logBytes w.files)

lemma ingested_ingest {w : Ingestor} (hw : Ordered w.files) {m : Message α}
    (hdisk : m.disk.LeavesNothing) :
    Ordered (ingest S w m).1.files ∧ Ingested S w (ingest S w m) := by
  unfold ingest
  cases hevent : S.event m.topic m.raw (w.seq + 1) m.receiveTs with
  | error err => exact ⟨hw, .failed err rfl rfl rfl⟩
  | ok e =>
    obtain ⟨hordered, hlogged, hfailed⟩ := appended_append (S := S) hw e hdisk
    dsimp only
    generalize S.append w.files e m.disk = after at hordered hlogged hfailed
    obtain ⟨files, result⟩ := after
    cases result with
    | error err => exact ⟨hordered, .failed err rfl rfl (hfailed err rfl)⟩
    | ok u => exact ⟨hordered, .logged e rfl (seq_of_event hevent) rfl (hlogged rfl)⟩

/-- Whatever raises gives the number back. -/
lemma seq_of_ingest_eq_error {w : Ingestor} {m : Message α} {err : PyErr}
    (h : (ingest S w m).2 = .error err) : (ingest S w m).1.seq = w.seq := by
  unfold ingest at h ⊢
  cases hevent : S.event m.topic m.raw (w.seq + 1) m.receiveTs with
  | error err => rfl
  | ok e =>
    rw [hevent] at h
    dsimp only at h ⊢
    generalize S.append w.files e m.disk = after at h
    obtain ⟨files, result⟩ := after
    cases result with
    | error err => rfl
    | ok u => cases h

/-- On a disk that works a message becomes an event exactly when it can be logged. -/
lemma ingest_works_iff (w : Ingestor) {m : Message α} (hdisk : m.disk = .works) :
    (∃ e, (ingest S w m).2 = .ok e) ↔ S.Recordable m.topic m.raw := by
  rw [recordable_iff m.topic m.raw (w.seq + 1) m.receiveTs]
  unfold ingest
  cases hevent : S.event m.topic m.raw (w.seq + 1) m.receiveTs with
  | error err => simp
  | ok e =>
    have happend := append_works_iff (S := S) w.files e
    rw [hdisk]
    dsimp only
    generalize S.append w.files e .works = after at happend
    obtain ⟨files, result⟩ := after
    cases result with
    | error err => simp_all
    | ok u => simp_all

/-- The events that were handed out. -/
def eventsOf (outs : List (Except PyErr (ObsEvent α))) : List (ObsEvent α) :=
  outs.filterMap Except.toOption

/-- Every message on a disk that works is logged as one event, the numbers go on without a gap from
where they stood, the log has grown by the lines of just these events, and whatever fails leaves the
counter where it was. -/
structure Contiguous (S : Settings α) (w : Ingestor) (ms : List (Message α)) : Prop where
  every : ∀ p ∈ ms.zip ((ingestor S).outputs w ms), p.1.disk = .works → ∃ e, p.2 = .ok e
  log : logBytes ((ingestor S).run w ms).files =
    logBytes w.files ++ (eventsOf ((ingestor S).outputs w ms)).flatMap S.lineBytes
  seqs : (eventsOf ((ingestor S).outputs w ms)).map ObsEvent.seq =
    List.range' (w.seq + 1) (eventsOf ((ingestor S).outputs w ms)).length
  counter : ((ingestor S).run w ms).seq =
    w.seq + (eventsOf ((ingestor S).outputs w ms)).length
  failed : (ingestor S).AllSteps
    (fun w m => ∀ err, (ingest S w m).2 = .error err → (ingest S w m).1.seq = w.seq) w ms

/-- The log grows by the lines of the events, and the counter by their number. -/
lemma grows_run {w : Ingestor} (hw : Ordered w.files) {ms : List (Message α)}
    (hclean : ∀ m ∈ ms, m.disk.LeavesNothing) :
    logBytes ((ingestor S).run w ms).files =
        logBytes w.files ++ (eventsOf ((ingestor S).outputs w ms)).flatMap S.lineBytes ∧
      (eventsOf ((ingestor S).outputs w ms)).map ObsEvent.seq =
        List.range' (w.seq + 1) (eventsOf ((ingestor S).outputs w ms)).length ∧
      ((ingestor S).run w ms).seq =
        w.seq + (eventsOf ((ingestor S).outputs w ms)).length := by
  induction ms generalizing w with
  | nil => exact ⟨(List.append_nil _).symm, rfl, rfl⟩
  | cons m ms ih =>
    obtain ⟨hdisk, hlater⟩ := List.forall_mem_cons.mp hclean
    obtain ⟨hordered, hingested⟩ := ingested_ingest (S := S) hw hdisk
    obtain ⟨hlog, hseqs, hcounter⟩ := ih hordered hlater
    rw [Machine.outputs_cons, Machine.run_cons]
    have hstep : (ingestor S).step w m = ingest S w m := rfl
    rw [hstep]
    cases hingested with
    | logged e hout hseq hnext hline =>
      have hevents (outs : List (Except PyErr (ObsEvent α))) :
          eventsOf ((ingest S w m).2 :: outs) = e :: eventsOf outs := by
        rw [hout]
        rfl
      rw [hevents, List.flatMap_cons, List.map_cons, List.length_cons, List.range'_succ]
      refine ⟨?_, ?_, ?_⟩
      · rw [hlog, hline, List.append_assoc]
      · rw [hseqs, hnext, hseq]
      · rw [hcounter, hnext]
        omega
    | failed err hout hsame hline =>
      have hevents (outs : List (Except PyErr (ObsEvent α))) :
          eventsOf ((ingest S w m).2 :: outs) = eventsOf outs := by
        rw [hout]
        rfl
      rw [hevents, hlog, hseqs, hcounter, hsame, hline]
      exact ⟨rfl, rfl, rfl⟩

/-- Every message on a disk that works becomes an event exactly when all of them can be logged. -/
lemma every_iff (w : Ingestor) (ms : List (Message α)) :
    (∀ p ∈ ms.zip ((ingestor S).outputs w ms), p.1.disk = .works → ∃ e, p.2 = .ok e) ↔
      ∀ m ∈ ms, m.disk = .works → S.Recordable m.topic m.raw := by
  induction ms generalizing w with
  | nil => simp
  | cons m ms ih =>
    rw [Machine.outputs_cons, List.zip_cons_cons, List.forall_mem_cons, List.forall_mem_cons, ih]
    exact and_congr_left fun _ => forall_congr' fun h => ingest_works_iff w h

/-- **Numbers without gaps.**  From any log on, when no failed write leaves first bytes of a line
behind, the numbers are contiguous and every message is logged if and only if every message can be
logged. -/
theorem contiguity_iff (S : Settings α) {w : Ingestor} (hw : Ordered w.files)
    {ms : List (Message α)} (hclean : ∀ m ∈ ms, m.disk.LeavesNothing) :
    Contiguous S w ms ↔ ∀ m ∈ ms, m.disk = .works → S.Recordable m.topic m.raw := by
  rw [← every_iff (S := S) w ms]
  obtain ⟨hlog, hseqs, hcounter⟩ := grows_run (S := S) hw hclean
  refine ⟨Contiguous.every, fun hevery => ⟨hevery, hlog, hseqs, hcounter, ?_⟩⟩
  rw [Machine.allSteps_iff]
  exact fun _ _ _ _ _ h => seq_of_ingest_eq_error h

end Runs

/-! ### Two messages -/

section Examples

/-- An ingest point over times in whole seconds, with the decoder `loads`. -/
def wholeSettings (loads : PyStr → Except LoadsErr (Decoded ℕ)) : Settings ℕ where
  text := Json.FloatText.whole
  loads := loads
  maxDepth := 1000
  two_le_maxDepth := Nat.le_add_left 2 998
  runId := none
  maxBytes := 8000000
  traceDeriver := none

/-- The text of a speech whose words are an escaped high surrogate. -/
def surrogateSpeech : PyStr := word "\x7b\"text\": \"\\ud800\"\x7d"

/-- A decoder that reads that text, and refuses every other one. -/
def loadsSpeech (raw : PyStr) : Except LoadsErr (Decoded ℕ) :=
  if raw = surrogateSpeech then .ok (.dict [(word "text", .str [0xd800])]) else .error .valueError

/-- A message on a disk that works. -/
def arriving (topic : String) (raw : PyStr) : Message ℕ := ⟨topic, raw, .fin 0, .works⟩

/-- An ingest point at the start of a run. -/
def emptyLog : Ingestor := ⟨Dict.empty, 0⟩

lemma ordered_emptyLog : Ordered emptyLog.files := ⟨[], none, laid_empty⟩

lemma arriving_leavesNothing (topic : String) (raw : PyStr) :
    ∀ m ∈ [arriving topic raw], m.disk.LeavesNothing := by
  rw [List.forall_mem_singleton]
  intro written hfails
  cases hfails

/-- A line of reasoning is logged. -/
theorem contiguity_reasoning :
    Contiguous (wholeSettings loadsSpeech) emptyLog
      [arriving "/llm/reasoning" (word "the shelf is blocked")] := by
  refine (contiguity_iff (wholeSettings loadsSpeech) ordered_emptyLog
    (arriving_leavesNothing _ _)).mpr ?_
  rw [List.forall_mem_singleton]
  exact fun _ => ⟨rfl, PyStr.hasSurrogate_ofChars _⟩

lemma not_recordable_surrogateSpeech :
    ¬ (wholeSettings loadsSpeech).Recordable "/character/speech" surrogateSpeech := by
  have hloads : (wholeSettings loadsSpeech).loads surrogateSpeech =
      .ok (.dict [(word "text", .str [0xd800])]) := by
    show loadsSpeech surrogateSpeech = _
    unfold loadsSpeech
    exact if_pos rfl
  have htopic : "/character/speech" ≠ textTopic := by decide
  unfold Settings.Recordable
  rw [if_neg htopic, hloads]
  rintro ⟨-, hclean, -⟩
  have hsurrogate : CodePoint.isSurrogate 0xd800 = true := by decide
  simp [Decoded.hasSurrogateEntries, Decoded.hasSurrogate, hsurrogate] at hclean

/-- A speech that escapes a lone surrogate is decoded and then lost: nothing is handed out for it,
and the run of messages is not contiguous. -/
theorem surrogate_speech_lost :
    (¬ ∃ e, (ingest (wholeSettings loadsSpeech) emptyLog
        (arriving "/character/speech" surrogateSpeech)).2 = .ok e) ∧
      ¬ Contiguous (wholeSettings loadsSpeech) emptyLog
        [arriving "/character/speech" surrogateSpeech] := by
  constructor
  · rw [ingest_works_iff emptyLog (m := arriving "/character/speech" surrogateSpeech) rfl]
    exact not_recordable_surrogateSpeech
  · intro h
    have hlost := not_recordable_surrogateSpeech
    exact hlost ((every_iff emptyLog _).mp h.every _ (List.mem_singleton_self _) rfl)

end Examples

end Raw

end WebBridge

end MiniatureWarehouse
