import MiniatureWarehouse.Framework.Runs
import MiniatureWarehouse.WebBridge.EventLog

/-!
# The ingest point of the web gateway

Every message passes one place, under a lock: it gets the next number, becomes an envelope and is
appended to the log.  When anything of this raises, the number is given back.
-/

namespace MiniatureWarehouse

namespace WebBridge

variable {α : Type}

/-- What an `Ingestor` is built with, and the size limit of its log. -/
structure IngestSettings (α : Type) where
  text : Json.FloatText α
  runId : Option String
  maxBytes : ℤ
  traceDeriver : Option (Option String → ℤ → Except PyErr (Option String))

/-- The trace id of an event that carries a generation; a deriver that raises leaves it open. -/
def IngestSettings.derived (S : IngestSettings α) (e : ObsEvent α) : ObsEvent α :=
  match S.traceDeriver, e.genId with
  | some derive, some genId =>
    { e with traceId := match derive S.runId genId with
      | .ok traceId => traceId
      | .error _ => none }
  | _, _ => e

/-- What deriving the trace id leaves alone. -/
lemma IngestSettings.derived_spec (S : IngestSettings α) (e : ObsEvent α) :
    (S.derived e).seq = e.seq ∧ (S.derived e).kind = e.kind ∧
      (S.derived e).payload = e.payload := by
  unfold IngestSettings.derived
  split
  · exact ⟨rfl, rfl, rfl⟩
  · exact ⟨rfl, rfl, rfl⟩

/-- `Ingestor`. -/
structure Ingestor where
  files : RunFiles
  seq : ℕ

/-- `Ingestor.__init__`: the numbers go on from the last one in the log. -/
def Ingestor.resume (S : IngestSettings α) (files : RunFiles) : Except PyErr Ingestor :=
  (lastSeq (Json.scan S.text) files).map (Ingestor.mk files)

section Ingest

variable [Zero α] [DecidableEq α] (S : IngestSettings α)

/-- The event a message becomes under a number. -/
def IngestSettings.event (topic raw : String) (seq : ℕ) (receiveTs : PyFloat α) :
    Except PyErr (ObsEvent α) :=
  (toObsEvent (Json.scan S.text) topic raw seq receiveTs S.runId).map S.derived

/-- `ingest`.  On a disk that is not `writable` the current file cannot be opened. -/
def Ingestor.ingest (w : Ingestor) (topic raw : String) (receiveTs : PyFloat α)
    (writable : Bool) : Ingestor × Except PyErr (ObsEvent α) :=
  match S.event topic raw (w.seq + 1) receiveTs with
  | .error err => (w, .error err)
  | .ok e =>
    let line := encode (lineOf S.text e)
    if writable then (⟨appendBytes S.maxBytes w.files line line, w.seq + 1⟩, .ok e)
    else (⟨makeRoom S.maxBytes w.files line, w.seq⟩, .error .osError)

variable {S} in
lemma IngestSettings.event_spec {topic raw : String} {seq : ℕ} {receiveTs : PyFloat α}
    {e : ObsEvent α} (h : S.event topic raw seq receiveTs = .ok e) :
    e.seq = seq ∧ (PyVal.dict e.payload).repeatsName = false := by
  obtain ⟨e', hevent, rfl⟩ := exceptMap_eq_ok.mp h
  obtain ⟨hseq, hnames⟩ := toObsEvent_spec hevent
  obtain ⟨hseq', -, hpayload⟩ := S.derived_spec e'
  exact ⟨hseq'.trans hseq, by rwa [hpayload]⟩

/-- **The counter follows the log**: an event that is handed out has the next number, and a message
that fails leaves the number to the next one. -/
lemma Ingestor.ingest_seq (w : Ingestor) (topic raw : String) (receiveTs : PyFloat α)
    (writable : Bool) :
    (∃ e, (w.ingest S topic raw receiveTs writable).2 = .ok e ∧ e.seq = w.seq + 1 ∧
        (w.ingest S topic raw receiveTs writable).1.seq = w.seq + 1) ∨
      (∃ err, (w.ingest S topic raw receiveTs writable).2 = .error err) ∧
        (w.ingest S topic raw receiveTs writable).1.seq = w.seq := by
  unfold Ingestor.ingest
  cases hevent : S.event topic raw (w.seq + 1) receiveTs with
  | error err => exact .inr ⟨⟨err, rfl⟩, rfl⟩
  | ok e =>
    cases writable with
    | true => exact .inl ⟨e, rfl, (IngestSettings.event_spec hevent).1, rfl⟩
    | false => exact .inr ⟨⟨.osError, rfl⟩, rfl⟩

end Ingest

end WebBridge

end MiniatureWarehouse
