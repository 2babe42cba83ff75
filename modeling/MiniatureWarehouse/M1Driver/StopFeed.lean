import MiniatureWarehouse.Framework.JsonRoundTrip
import MiniatureWarehouse.M1Driver.StopOverlay
import MiniatureWarehouse.Safety.OperatorStop

/-!
# The stop feed from the guardian to the driver

The guardian publishes a stop state for every robot on every tick; the driver of a robot decodes
what reaches it and lets the wheels turn only under an unexpired permission.  The two packages
share no code: the window of the one, the ceiling of the other, the checks of the decoder and the
watermark of the core have to fit together over whole sequences.

Between them lies a channel that may lose and delay messages but keeps their order.  Deadlines
built from a clock that does not go back then never regress (`deadline_mono`), so the overlay
always shows the last message delivered (`mirrors_run`).
-/

namespace MiniatureWarehouse

namespace StopFeed

open EmergencyGuardian (Guardian GuardianConfig Bot tickDecisions checkSafety stopStatePayload
  defaultStopStateValidWindowS)

open M1Driver (Core NodeConfig decoded Accepts)

/-! ## What the guardian publishes -/

/-- A stop state on its way to the driver, with the clock reading and the decisions of the tick
that built it. -/
structure StopMessage (α : Type*) where
  now : PyFloat α
  decisions : List (Decision α)
  payload : PyVal α

/-- The payload of an effect that goes to the robot. -/
def payloadTo {α : Type*} (bot : Bot) : EmergencyGuardian.Effect α → Option (PyVal α)
  | .stopState name payload => if name = bot.name then some payload else none
  | _ => none

/-- The clock reading of a tick. -/
def tickTime? {α : Type*} : EmergencyGuardian.Event α → Option (PyFloat α)
  | .checkSafety now _ => some now
  | _ => none

section Producer

variable {α : Type*} [Field α] [LinearOrder α] [IsStrictOrderedRing α]
  (F : FloatFormat α) (L : MathLib α) (cfg : GuardianConfig α) (bot : Bot)

/-- The stop states a callback publishes for the robot. -/
def messagesOf (g : Guardian α) : EmergencyGuardian.Event α → List (StopMessage α)
  | .checkSafety now env =>
    ((checkSafety F L cfg g now env).2.filterMap (payloadTo bot)).map fun payload =>
      ⟨now, (tickDecisions F L cfg g now).2, payload⟩
  | _ => []

/-- The stop state a tick builds for the robot. -/
def tickMessage (g : Guardian α) (now : PyFloat α) : StopMessage α where
  now := now
  decisions := (tickDecisions F L cfg g now).2
  payload := stopStatePayload (stopRequestedFor (tickDecisions F L cfg g now).2 bot.name)
    (F.add now defaultStopStateValidWindowS)

/-- A tick publishes one stop state for the robot. -/
lemma messagesOf_checkSafety (g : Guardian α) (now : PyFloat α)
    (env : EmergencyGuardian.TickEnv α) :
    messagesOf F L cfg bot g (.checkSafety now env) = [tickMessage F L cfg bot g now] := by
  have hnone : ∀ effects : List (EmergencyGuardian.Effect α),
      (∀ name payload, .stopState name payload ∉ effects) →
      effects.filterMap (payloadTo bot) = [] := by
    intro effects heffects
    rw [List.filterMap_eq_nil_iff]
    intro effect heffect
    cases effect with
    | stopState name payload => exact absurd heffect (heffects name payload)
    | _ => rfl
  -- the loop over the decisions publishes none, and the two robots have different names
  have hcarry := hnone _ (EmergencyGuardian.stopState_notMem_carryOut env
    (EdgeLatch.rising (tickDecisions F L cfg g now).1.latch (tickDecisions F L cfg g now).2).2
    (tickDecisions F L cfg g now).1.seq (tickDecisions F L cfg g now).2)
  have hnames : (Bot.bot1.name = Bot.bot2.name) = False := by decide
  simp only [messagesOf, checkSafety]
  rw [List.filterMap_append, hcarry, List.nil_append]
  cases bot <;>
    simp [EmergencyGuardian.publishStopState, EmergencyGuardian.bots, payloadTo, tickMessage,
      hnames, Ne.symm]

variable [FloorRing α] (scan : JsonScan α)
  (parseTerrainCoverage : String → Option (TerrainCoverage α))

/-- The stop states a run of the guardian publishes for the robot, in order. -/
def published : Guardian α → List (EmergencyGuardian.Event α) → List (StopMessage α)
  | _, [] => []
  | g, e :: es => messagesOf F L cfg bot g e ++
      published ((EmergencyGuardian.node F L cfg scan parseTerrainCoverage).step g e).1 es

variable {F L cfg bot scan parseTerrainCoverage}

/-- A published stop state was built by a tick of the run. -/
lemma exists_tick_of_published {g : Guardian α} {es : List (EmergencyGuardian.Event α)}
    {m : StopMessage α} (h : m ∈ published F L cfg bot scan parseTerrainCoverage g es) :
    ∃ g', m = tickMessage F L cfg bot g' m.now := by
  induction es generalizing g with
  | nil => cases h
  | cons e es ih =>
    rcases List.mem_append.mp h with hnow | hlater
    · cases e with
      | checkSafety now env =>
        rw [messagesOf_checkSafety, List.mem_singleton] at hnow
        exact ⟨g, by rw [hnow]; rfl⟩
      | _ => cases hnow
    · exact ih hlater

/-- The clock readings of the published stop states are those of the ticks. -/
lemma map_now_published (g : Guardian α) (es : List (EmergencyGuardian.Event α)) :
    (published F L cfg bot scan parseTerrainCoverage g es).map StopMessage.now =
      es.filterMap tickTime? := by
  induction es generalizing g with
  | nil => rfl
  | cons e es ih =>
    unfold published
    rw [List.map_append, ih]
    cases e with
    | checkSafety now env => rw [messagesOf_checkSafety]; rfl
    | _ => rfl

end Producer

/-! ## What the driver receives -/

/-- An input of the driver: a delivered stop state with its time of receipt, or a callback of
another channel. -/
inductive FeedInput (α : Type*)
  | deliver (m : StopMessage α) (received : PyFloat α)
  | other (e : M1Driver.Event α) (h : ¬ e.IsStopState)

/-- The text of a message.  Its names are plain ASCII, which `ensure_ascii` leaves alone. -/
def StopMessage.text {α : Type*} (T : Json.FloatText α) (m : StopMessage α) : String :=
  String.ofList (Json.dumps T m.payload)

/-- The callback of the driver node an input is. -/
def FeedInput.toEvent {α : Type*} (T : Json.FloatText α) : FeedInput α → M1Driver.Event α
  | deliver m received => .stopState (m.text T) received
  | other e _ => e

/-- A delivered stop state with its time of receipt. -/
def FeedInput.delivery? {α : Type*} : FeedInput α → Option (StopMessage α × PyFloat α)
  | deliver m received => some (m, received)
  | other _ _ => none

/-- The deliveries among the inputs, in order. -/
def deliveries {α : Type*} (ins : List (FeedInput α)) : List (StopMessage α × PyFloat α) :=
  ins.filterMap FeedInput.delivery?

section Channel

variable {α : Type*} [Field α] [LinearOrder α] [IsStrictOrderedRing α] (F : FloatFormat α)

/-- A reading of the monotonic clock: a number of the format that is not negative. -/
def IsReading (t : PyFloat α) : Prop := ∃ x, t = .fin x ∧ 0 ≤ x ∧ F.round x = .fin x

/-- Readings of a clock that does not go back. -/
structure MonotonicClock (ts : List (PyFloat α)) : Prop where
  readings : ∀ t ∈ ts, IsReading F t
  sorted : ts.Pairwise (· ≤ ·)

/-- A channel that loses and delays but keeps the order: what is delivered was sent, in the order
it was sent, and the receipts are read from a clock that does not go back. -/
structure Delivery (sent : List (StopMessage α)) (ins : List (FeedInput α)) : Prop where
  inOrder : ((deliveries ins).map Prod.fst).Sublist sent
  clock : MonotonicClock F ((deliveries ins).map Prod.snd)

/-- What the format of the language has in common with exact arithmetic: it holds one half, and
adding one half to a number does not overflow. -/
structure ClockFormat : Prop where
  half : F.round (1 / 2) = .fin (1 / 2)
  half_added : ∀ x, F.round x = .fin x → (F.round (x + 1 / 2)).isFinite = true

lemma ClockFormat.exact : ClockFormat (FloatFormat.exact α) := ⟨rfl, fun _ _ => rfl⟩

end Channel

/-! ## Deadlines -/

section Deadline

variable {α : Type*} [Field α] [LinearOrder α] [IsStrictOrderedRing α]
  {F : FloatFormat α} {cfg : NodeConfig α}

variable (F cfg) in
/-- The deadline of a message received at some time: the window of the guardian, clipped to the
ceiling of the driver. -/
def deadline (d : StopMessage α × PyFloat α) : PyFloat α :=
  PyFloat.pyMin (F.add d.1.now defaultStopStateValidWindowS) (F.add d.2 cfg.maxValidity)

variable (F) in
/-- A message as a tick builds it, with both of its times read from the clock. -/
structure WellFormed (bot : Bot) (d : StopMessage α × PyFloat α) : Prop where
  payload : d.1.payload = stopStatePayload (stopRequestedFor d.1.decisions bot.name)
    (F.add d.1.now defaultStopStateValidWindowS)
  built : IsReading F d.1.now
  received : IsReading F d.2

lemma IsReading.ne_nan {t : PyFloat α} (h : IsReading F t) : t ≠ .nan := by
  obtain ⟨x, rfl, -⟩ := h
  simp

/-- The hardened ceiling is a positive number of the format. -/
lemma maxValidity_pos (hF : ClockFormat F) (hmax : F.Rep cfg.stopStateMaxValidityS) :
    ∃ y, cfg.maxValidity = .fin y ∧ 0 < y ∧ F.round y = .fin y := by
  have hdefault : ∃ y : α, M1Driver.defaultStopStateMaxValidityS = .fin y ∧ 0 < y ∧
      F.round y = .fin y := ⟨1 / 2, rfl, one_half_pos, hF.half⟩
  unfold NodeConfig.maxValidity M1Driver.positiveOrDefault
  split_ifs with hbad
  · exact hdefault
  · simp only [Bool.or_eq_true, Bool.not_eq_true', decide_eq_true_eq, not_or,
      Bool.not_eq_false] at hbad
    obtain ⟨x, hx⟩ := PyFloat.isFinite_iff.mp hbad.1
    have hpos : 0 < x := by
      have hnot := hbad.2
      rw [hx, PyFloat.fin_le_fin] at hnot
      exact not_le.mp hnot
    exact ⟨x, hx, hpos, hmax x hx⟩

/-- The deadline a tick announces is a positive number. -/
lemma add_window (hF : ClockFormat F) {t : PyFloat α} (ht : IsReading F t) :
    ∃ v, F.add t defaultStopStateValidWindowS = .fin v ∧ 0 < v := by
  obtain ⟨x, rfl, hx, hrep⟩ := ht
  obtain ⟨v, hv⟩ := PyFloat.isFinite_iff.mp (hF.half_added x hrep)
  have hle : F.round (1 / 2) ≤ F.round (x + 1 / 2) := F.round_mono (by linarith)
  rw [hF.half, hv, PyFloat.fin_le_fin] at hle
  exact ⟨v, hv, one_half_pos.trans_le hle⟩

/-- The ceiling at a receipt lies above zero, overflow included. -/
lemma add_ceiling (hF : ClockFormat F) (hmax : F.Rep cfg.stopStateMaxValidityS) {t : PyFloat α}
    (ht : IsReading F t) : ∃ y, 0 < y ∧ .fin y ≤ F.add t cfg.maxValidity := by
  obtain ⟨y, hy, hpos, hrep⟩ := maxValidity_pos hF hmax
  obtain ⟨x, rfl, hx, -⟩ := ht
  have hle : F.round y ≤ F.round (x + y) := F.round_mono (by linarith)
  rw [hrep] at hle
  rw [hy]
  exact ⟨y, hpos, hle⟩

/-- A deadline is a positive number. -/
lemma deadline_pos (hF : ClockFormat F) (hmax : F.Rep cfg.stopStateMaxValidityS) {bot : Bot}
    {d : StopMessage α × PyFloat α} (hd : WellFormed F bot d) :
    ∃ v, deadline F cfg d = .fin v ∧ 0 < v := by
  obtain ⟨v, hv, hvpos⟩ := add_window hF hd.built
  obtain ⟨y, hypos, hy⟩ := add_ceiling hF hmax hd.received
  unfold deadline PyFloat.pyMin
  rw [hv]
  split_ifs with hclip
  · cases hceil : F.add d.2 cfg.maxValidity with
    | fin c =>
      rw [hceil, PyFloat.fin_le_fin] at hy
      exact ⟨c, rfl, hypos.trans_le hy⟩
    | nan => exact absurd hceil (PyFloat.ne_nan_of_le hy).2
    | posInf =>
      rw [hceil] at hclip
      exact absurd hclip PyFloat.not_posInf_lt
    | negInf =>
      rw [hceil] at hy
      exact absurd hy PyFloat.not_fin_le_negInf
  · exact ⟨v, rfl, hvpos⟩

/-- Adding the same number to two readings keeps their order. -/
lemma add_mono {s t : PyFloat α} (hs : IsReading F s) (ht : IsReading F t) (hle : s ≤ t) (y : α) :
    F.add s (.fin y) ≤ F.add t (.fin y) := by
  obtain ⟨x, rfl, -⟩ := hs
  obtain ⟨z, rfl, -⟩ := ht
  rw [PyFloat.fin_le_fin] at hle
  exact F.round_mono (by linarith)

/-- **Deadlines do not regress.**  A message built no earlier and received no earlier than
another has no earlier deadline. -/
lemma deadline_mono (hF : ClockFormat F) (hmax : F.Rep cfg.stopStateMaxValidityS) {bot : Bot}
    {a b : StopMessage α × PyFloat α} (ha : WellFormed F bot a) (hb : WellFormed F bot b)
    (hbuilt : a.1.now ≤ b.1.now) (hreceived : a.2 ≤ b.2) :
    deadline F cfg a ≤ deadline F cfg b := by
  obtain ⟨y, hy, -⟩ := maxValidity_pos hF hmax
  unfold deadline
  rw [hy]
  exact PyFloat.pyMin_mono (add_mono ha.built hb.built hbuilt _)
    (add_mono ha.received hb.received hreceived _)

variable (cfg) in
/-- **What the guardian writes the driver reads**: the flag as it was, and the clipped
deadline. -/
lemma decoded_text (hF : ClockFormat F) (T : Json.FloatText α) {bot : Bot}
    {d : StopMessage α × PyFloat α} (hd : WellFormed F bot d) :
    decoded F (Json.scan T) cfg (d.1.text T) d.2 =
      .ok (stopRequestedFor d.1.decisions bot.name, deadline F cfg d) := by
  obtain ⟨v, hv, hvpos⟩ := add_window hF hd.built
  obtain ⟨y, hhard, hy⟩ := M1Driver.maxValidity_fin cfg
  have hload : JsonScan.loadsUnique (Json.scan T) (d.1.text T) =
      .ok (stopStatePayload (stopRequestedFor d.1.decisions bot.name) (.fin v)) := by
    unfold JsonScan.loadsUnique StopMessage.text
    rw [Json.scan_dumps, hd.payload, hv]
    rfl
  unfold decoded M1Driver.decodeStopState deadline
  rw [hload, hhard, hv, hy]
  simp [Except.mapError, stopStatePayload, PyVal.get?, Dict.find, M1Driver.deadline?,
    not_le.mpr hvpos]

end Deadline

/-! ## The overlay shows the last delivery -/

section Overlay

variable {α : Type*} [Field α] [LinearOrder α] [IsStrictOrderedRing α]
  {F : FloatFormat α} {L : MathLib α} {cfg : NodeConfig α} {T : Json.FloatText α} {bot : Bot}

variable (F cfg bot) in
/-- The overlay of the core is what the last delivery says: its deadline is the watermark, and
the permission too unless it asks for a stop. -/
structure Mirrors (c : Core α) (last : Option (StopMessage α × PyFloat α)) : Prop where
  watermark : c.overlayDeadlineWatermark = last.map (deadline F cfg)
  permit : c.overlayPermitUntil = last.bind fun d =>
    if stopRequestedFor d.1.decisions bot.name then none else some (deadline F cfg d)

variable (F bot) in
/-- Deliveries as they come out of the channel: well formed, and neither built nor received
before an earlier one. -/
structure Ordered (ds : List (StopMessage α × PyFloat α)) : Prop where
  wellFormed : ∀ d ∈ ds, WellFormed F bot d
  built : ds.Pairwise fun a b => a.1.now ≤ b.1.now
  received : ds.Pairwise fun a b => a.2 ≤ b.2

lemma Ordered.of_append {ds es : List (StopMessage α × PyFloat α)}
    (h : Ordered F bot (ds ++ es)) : Ordered F bot ds where
  wellFormed d hd := h.wellFormed d (List.mem_append_left es hd)
  built := (List.pairwise_append.mp h.built).1
  received := (List.pairwise_append.mp h.received).1

/-- **Step.**  A core that mirrors the deliveries so far accepts the next one. -/
lemma Mirrors.accepts (hF : ClockFormat F) (hmax : F.Rep cfg.stopStateMaxValidityS) {c : Core α}
    {ds : List (StopMessage α × PyFloat α)} {d : StopMessage α × PyFloat α}
    (h : Mirrors F cfg bot c ds.getLast?) (hds : Ordered F bot (ds ++ [d])) :
    Accepts c (deadline F cfg d) := by
  have hd : WellFormed F bot d := hds.wellFormed d (by simp)
  obtain ⟨v, hv, hvpos⟩ := deadline_pos hF hmax hd
  refine ⟨by rw [hv]; rfl, by rw [hv]; exact hvpos, ?_⟩
  unfold Core.regressed
  rw [h.watermark]
  cases hlast : ds.getLast? with
  | none => rfl
  | some prev =>
    have hmem : prev ∈ ds := List.mem_of_getLast? hlast
    have hprev : WellFormed F bot prev := hds.of_append.wellFormed prev hmem
    have hle : deadline F cfg prev ≤ deadline F cfg d :=
      deadline_mono hF hmax hprev hd
        ((List.pairwise_append.mp hds.built).2.2 prev hmem d (by simp))
        ((List.pairwise_append.mp hds.received).2.2 prev hmem d (by simp))
    have hnot : ¬ deadline F cfg d < deadline F cfg prev := PyFloat.not_lt_of_le hle
    simpa using hnot

/-- **Step.**  An accepted delivery becomes what the overlay shows. -/
lemma Mirrors.deliver (hen : cfg.stopOverlayEnabled = true) {c : Core α}
    (d : StopMessage α × PyFloat α) (hacc : Accepts c (deadline F cfg d)) :
    Mirrors F cfg bot (c.onStopState cfg.toConfig (stopRequestedFor d.1.decisions bot.name)
      (deadline F cfg d)) (some d) := by
  rcases M1Driver.onStopState_cases hen c (stopRequestedFor d.1.decisions bot.name)
    (deadline F cfg d) with ⟨-, hmark, hpermit⟩ | ⟨hno, -⟩
  · exact ⟨hmark, hpermit⟩
  · exact absurd hacc hno

variable (F L cfg T) in
/-- The core after some inputs. -/
def coreAfter (ins : List (FeedInput α)) : Core α :=
  (M1Driver.node F L (Json.scan T) cfg).run .init (ins.map (FeedInput.toEvent T))

lemma coreAfter_concat (ins : List (FeedInput α)) (i : FeedInput α) :
    coreAfter F L cfg T (ins ++ [i]) =
      ((M1Driver.node F L (Json.scan T) cfg).step (coreAfter F L cfg T ins) (i.toEvent T)).1 := by
  unfold coreAfter
  rw [List.map_append]
  exact Machine.run_concat _ _ _ _

/-- **Run.**  Whatever else the driver handles in between, its overlay mirrors the last
delivery. -/
lemma mirrors_run (hF : ClockFormat F) (hmax : F.Rep cfg.stopStateMaxValidityS)
    (hen : cfg.stopOverlayEnabled = true) (ins : List (FeedInput α))
    (h : Ordered F bot (deliveries ins)) :
    Mirrors F cfg bot (coreAfter F L cfg T ins) (deliveries ins).getLast? := by
  induction ins using List.reverseRecOn with
  | nil => exact ⟨rfl, rfl⟩
  | append_singleton ins i ih =>
    rw [coreAfter_concat]
    cases i with
    | deliver m received =>
      have hsplit : deliveries (ins ++ [.deliver m received]) =
          deliveries ins ++ [(m, received)] := by
        simp [deliveries, FeedInput.delivery?]
      rw [hsplit] at h ⊢
      have hacc := (ih h.of_append).accepts hF hmax h
      have hdec := decoded_text cfg hF T (h.wellFormed (m, received) (by simp))
      have hstep : ((M1Driver.node F L (Json.scan T) cfg).step (coreAfter F L cfg T ins)
          (.stopState (m.text T) received)).1 =
          (coreAfter F L cfg T ins).onStopState cfg.toConfig
            (stopRequestedFor m.decisions bot.name) (deadline F cfg (m, received)) := by
        simp only [M1Driver.node, hdec]
      rw [List.getLast?_concat]
      exact hstep ▸ Mirrors.deliver hen (m, received) hacc
    | other e he =>
      have hsame : deliveries (ins ++ [.other e he]) = deliveries ins := by
        simp [deliveries, FeedInput.delivery?]
      rw [hsame] at h ⊢
      obtain ⟨hpermit, hmark⟩ :=
        M1Driver.overlay_unchanged F L (Json.scan T) cfg he (coreAfter F L cfg T ins)
      exact ⟨hmark.trans (ih h).watermark, hpermit.trans (ih h).permit⟩

end Overlay

/-! ## The two runs together -/

section Feed

variable {α : Type*} [Field α] [LinearOrder α] [IsStrictOrderedRing α] [FloorRing α]
  (F : FloatFormat α) (L : MathLib α) (cfg : GuardianConfig α) (scan : JsonScan α)
  (parseTerrainCoverage : String → Option (TerrainCoverage α)) (driver : NodeConfig α)
  (T : Json.FloatText α) (bot : Bot)

variable {F L cfg scan parseTerrainCoverage bot} in
/-- What comes out of the channel is ordered. -/
lemma ordered_deliveries {g : Guardian α} {es : List (EmergencyGuardian.Event α)}
    (hclock : MonotonicClock F (es.filterMap tickTime?)) {ins : List (FeedInput α)}
    (h : Delivery F (published F L cfg bot scan parseTerrainCoverage g es) ins) :
    Ordered F bot (deliveries ins) := by
  have hsent : ∀ d ∈ deliveries ins,
      d.1 ∈ published F L cfg bot scan parseTerrainCoverage g es := by
    intro d hd
    exact h.inOrder.subset (List.mem_map_of_mem hd)
  refine ⟨fun d hd => ?_, ?_, List.pairwise_map.mp h.clock.sorted⟩
  · obtain ⟨g', hg'⟩ := exists_tick_of_published (hsent d hd)
    have hnow : d.1.now ∈ es.filterMap tickTime? := by
      rw [← map_now_published (F := F) (L := L)]
      exact List.mem_map_of_mem (hsent d hd)
    refine ⟨?_, hclock.readings _ hnow, h.clock.readings _ (List.mem_map_of_mem hd)⟩
    rw [hg']
    rfl
  · have hticks : (published F L cfg bot scan parseTerrainCoverage g es).Pairwise
        fun a b => a.now ≤ b.now := by
      rw [← List.pairwise_map (f := StopMessage.now) (R := (· ≤ ·)), map_now_published]
      exact hclock.sorted
    have hdelivered := hticks.sublist h.inOrder
    rwa [List.pairwise_map] at hdelivered

/-- **The stop feed.**  Take any run of the guardian whose ticks read a clock that does not go
back, any lossy delivery in order of the stop states it publishes for a robot, and any other
callbacks of the driver in between.  Every delivered payload is accepted; and at every time the
overlay permits motion exactly when something was delivered, the tick that built the last
delivery decided no stop for the robot, and neither the window from that tick nor the ceiling
from its receipt has run out. -/
theorem stop_feed_agrees (hF : ClockFormat F) (hen : driver.stopOverlayEnabled = true)
    (hmax : F.Rep driver.stopStateMaxValidityS) (g : Guardian α)
    (es : List (EmergencyGuardian.Event α))
    (hclock : MonotonicClock F (es.filterMap tickTime?)) (ins : List (FeedInput α))
    (hdeliver : Delivery F (published F L cfg bot scan parseTerrainCoverage g es) ins) :
    (∀ before m received after, ins = before ++ .deliver m received :: after →
      ∃ stop v, decoded F (Json.scan T) driver (m.text T) received = .ok (stop, v) ∧
        Accepts (coreAfter F L driver T before) v) ∧
    ∀ t : α, (coreAfter F L driver T ins).overlayBlocks driver.toConfig (.fin t) = false ↔
      ∃ m received, (deliveries ins).getLast? = some (m, received) ∧
        (¬ ∃ d ∈ m.decisions, d.bot = bot.name ∧ d.action = .estop) ∧
        .fin t ≤ F.add m.now defaultStopStateValidWindowS ∧
        .fin t ≤ F.add received driver.maxValidity := by
  have hordered := ordered_deliveries hclock hdeliver
  refine ⟨?_, fun t => ?_⟩
  · rintro before m received after rfl
    have hsplit : deliveries (before ++ .deliver m received :: after) =
        (deliveries before ++ [(m, received)]) ++ deliveries after := by
      simp [deliveries, FeedInput.delivery?]
    rw [hsplit] at hordered
    have hupto := hordered.of_append
    have hmirrors := mirrors_run (L := L) (T := T) hF hmax hen before hupto.of_append
    have hdec := decoded_text driver hF T (hupto.wellFormed (m, received) (by simp))
    exact ⟨_, _, hdec, hmirrors.accepts hF hmax hupto⟩
  · have hmirrors := mirrors_run (L := L) (T := T) hF hmax hen ins hordered
    unfold Core.overlayBlocks
    rw [hen, hmirrors.permit]
    cases hlast : (deliveries ins).getLast? with
    | none => simp
    | some d =>
      have hd := hordered.wellFormed d (List.mem_of_getLast? hlast)
      obtain ⟨v, hv, -⟩ := add_window hF hd.built
      obtain ⟨y, -, hy⟩ := add_ceiling hF hmax hd.received
      obtain ⟨w, hw, -⟩ := deadline_pos hF hmax hd
      have hmin : PyFloat.fin t ≤ deadline F driver d ↔
          .fin t ≤ F.add d.1.now defaultStopStateValidWindowS ∧
            .fin t ≤ F.add d.2 driver.maxValidity :=
        PyFloat.le_pyMin_iff (by rw [hv]; simp) (PyFloat.ne_nan_of_le hy).2
      have hstop := stopRequestedFor_iff d.1.decisions bot.name
      cases hflag : stopRequestedFor d.1.decisions bot.name with
      | true =>
        constructor
        · intro hopen
          simp [hflag] at hopen
        · rintro ⟨m, received, heq, hno, -⟩
          obtain rfl := Option.some.inj heq
          exact absurd (hstop.mp hflag) hno
      | false =>
        have hno : ¬ ∃ e ∈ d.1.decisions, e.bot = bot.name ∧ e.action = .estop := by
          intro hex
          rw [hstop.mpr hex] at hflag
          cases hflag
        have hopen : (¬ deadline F driver d < .fin t) ↔ .fin t ≤ deadline F driver d := by
          rw [hw]
          exact not_lt
        constructor
        · intro h
          have hnot : ¬ deadline F driver d < .fin t := by simpa [hflag] using h
          exact ⟨d.1, d.2, rfl, hno, hmin.mp (hopen.mp hnot)⟩
        · rintro ⟨m, received, heq, -, hle⟩
          obtain rfl := Option.some.inj heq
          have hnot := hopen.mpr (hmin.mpr hle)
          simpa [hflag] using hnot

end Feed

/-! A tick of a guardian without a reason to stop, and a driver that receives it late. -/

/-- The first tick of a fresh guardian. -/
def firstTick : EmergencyGuardian.Event ℚ := .checkSafety (.fin (1 / 2)) EmergencyGuardian.quietEnv

/-- The stop state it builds for the first robot. -/
def firstMessage : StopMessage ℚ :=
  tickMessage (.exact ℚ) .rational EmergencyGuardian.plainGuardian .bot1
    (Guardian.init (.exact ℚ) EmergencyGuardian.plainGuardian) (.fin (1 / 2))

/-- A watchdog tick, the delivery a quarter of a second after it was built, and a command. -/
def lateDelivery : List (FeedInput ℚ) :=
  [.other (.tick (.fin 0)) id, .deliver firstMessage (.fin (3 / 4)),
    .other (.cmdVel (.fin (1 / 10)) (.fin 0) (.fin 0) (.fin (4 / 5))) id]

/-- The late delivery lets the driver move until the window of the tick ends. -/
theorem stop_feed_agrees_late :
    (coreAfter (.exact ℚ) .rational M1Driver.overlayConfig Json.FloatText.rational
      lateDelivery).overlayBlocks M1Driver.overlayConfig.toConfig (.fin 1) = false := by
  have hpublished : published (.exact ℚ) .rational EmergencyGuardian.plainGuardian .bot1
      EmergencyGuardian.engageScan (fun _ => none)
      (Guardian.init (.exact ℚ) EmergencyGuardian.plainGuardian) [firstTick] = [firstMessage] := by
    unfold published firstTick
    rw [messagesOf_checkSafety]
    rfl
  have hreading : ∀ x : ℚ, 0 ≤ x → MonotonicClock (.exact ℚ) [.fin x] := by
    intro x hx
    refine ⟨fun t ht => ?_, List.pairwise_singleton _ _⟩
    exact ⟨x, List.mem_singleton.mp ht, hx, rfl⟩
  refine ((stop_feed_agrees (.exact ℚ) .rational EmergencyGuardian.plainGuardian
    EmergencyGuardian.engageScan (fun _ => none) M1Driver.overlayConfig Json.FloatText.rational
    .bot1 .exact rfl (fun _ _ => rfl) (Guardian.init (.exact ℚ) EmergencyGuardian.plainGuardian)
    [firstTick] (hreading (1 / 2) (by norm_num)) lateDelivery ?_).2 1).mpr ?_
  · rw [hpublished]
    exact ⟨List.Sublist.refl _, hreading (3 / 4) (by norm_num)⟩
  · refine ⟨firstMessage, .fin (3 / 4), rfl, ?_, ?_, ?_⟩ <;> decide +kernel

end StopFeed

end MiniatureWarehouse
