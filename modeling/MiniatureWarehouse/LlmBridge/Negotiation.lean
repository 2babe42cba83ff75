import MiniatureWarehouse.LlmBridge.Situation
import MiniatureWarehouse.Framework.Text

/-!
# The negotiation of two personas

Two personas speak in turn until one of them names an action that validates, the budget of turns or
of time is used up, or the episode is aborted.  Nothing is actuated: an agreement is a proposal to
the commander.

A turn waits for the persona and races it against the deadline and the abort.  An abort can come
over two channels, a callable that is polled and an event that is waited for.  The callable is asked
before the turn, during the race and once more when the race is over; the event only during the
race.

Everything the engine does not decide is an input of the turn: what the abort callable answers, what
the clocks read, which of the racing tasks were done when the wait returned, and what the persona
and the listener to the turns did.  What a persona is told is therefore left out.
-/

namespace MiniatureWarehouse

namespace LlmBridge

/-! ## Turns of a persona -/

/-- `TurnResult`. -/
structure TurnResult (α : Type) where
  speech : String
  agreedAction : Option (List (String × PyVal α))

/-- `NegotiationContext`: the bots are the keys of the states. -/
structure NegotiationContext where
  negotiationId : String
  genId : ℤ
  starter : String
  bots : List String

/-- `NegotiationStatus`. -/
inductive NegotiationStatus
  | agreed
  | noAgreement
  | timeout
  | aborted
  deriving DecidableEq, Repr

/-- `NegotiationOutcome`, its transcript as pairs of a speaker and a text. -/
structure NegotiationOutcome (α : Type) where
  status : NegotiationStatus
  transcript : List (String × String)
  proposal : Option (Proposal α)
  turns : ℕ

/-- `NegotiationEngine`, with the decoder, `str` on a decoded value, and the validation of an agreed
action. -/
structure NegotiationEngine (α : Type) where
  maxTurnsPerBot : ℕ
  maxTurnsTotal : ℕ
  deadlineSeconds : PyFloat α
  scan : JsonScan α
  str : PyVal α → Except PyErr String
  validate : List (String × PyVal α) → Option (AgreedAction α)

section Engine

variable {α : Type} (E : NegotiationEngine α)

/-- The `speech` of a decoded turn, as a string. -/
def NegotiationEngine.speechOf (data : List (String × PyVal α)) : Except PyErr String :=
  match Dict.find data "speech" with
  | none => .ok ""
  | some (.str s) => .ok s
  | some v => E.str v

/-- `parse_turn`. -/
def NegotiationEngine.parseTurn (raw : String) : Except PyErr (TurnResult α) :=
  let text := String.ofList (Text.strip raw.toList)
  match E.scan.loads text with
  | .error .valueError => .ok ⟨text, none⟩
  | .error .recursionError => .error .recursionError
  | .ok (.dict data) =>
    (E.speechOf data).map fun speech =>
      match Dict.find data "agreed_action" with
      | some (.dict agreed) => ⟨speech, some agreed⟩
      | _ => ⟨speech, none⟩
  | .ok _ => .ok ⟨text, none⟩

/-- `_try_build_proposal`. -/
def NegotiationEngine.tryBuildProposal (ctx : NegotiationContext)
    (agreedActionRaw : List (String × PyVal α)) (transcript : List (String × String))
    (now : PyFloat α) : Option (Proposal α) :=
  (E.validate agreedActionRaw).map fun agreed =>
    ⟨ctx.negotiationId, ctx.genId, agreed, transcript, now⟩

/-- `_other_bot`. -/
def otherBot (ctx : NegotiationContext) : Except PyErr String :=
  match ctx.bots.filter fun bot => bot ≠ ctx.starter with
  | [other] => .ok other
  | _ => .error .valueError

/-! ## The race of a turn -/

/-- Which tasks were done when the wait for the first of them returned. -/
structure Done where
  speak : Bool
  abort : Bool
  deadline : Bool
  first_completed : (speak || abort || deadline) = true

/-- What the engine meets in one turn. -/
structure TurnInput (α : Type) where
  /-- `abort()` before the turn. -/
  pollBefore : Except PyErr Bool
  /-- `monotonic()`. -/
  clock : PyFloat α
  done : Done
  /-- What the persona returns or raises. -/
  spoken : Except PyErr String
  /-- `abort()` when the output is there. -/
  pollAfter : Except PyErr Bool
  /-- Is the abort event set when the output is there? -/
  eventSet : Bool
  /-- What `on_turn` does. -/
  published : Except PyErr Unit
  /-- `now()`. -/
  epoch : PyFloat α

/-- Why a race brings no output: `_TurnAbortedError`, `_TurnTimedOutError`, or what the persona
raised. -/
inductive TurnError
  | aborted
  | timedOut
  | raised (e : PyErr)

/-- `_speak_with_guards`. -/
def speakWithGuards (input : TurnInput α) : Except TurnError String :=
  if input.done.abort then .error .aborted
  else if input.done.deadline then .error .timedOut
  else
    match input.spoken with
    | .ok raw => .ok raw
    | .error e => .error (.raised e)

/-! ## The episode -/

/-- What the engine does to its surroundings: it asks a persona to speak, or calls `on_turn`. -/
inductive Effect
  | speak (bot : String)
  | onTurn (speaker text : String) (turn : ℕ) (next : String)
  deriving DecidableEq

/-- What the loop carries from turn to turn. -/
structure Progress where
  transcript : List (String × String)
  perBot : Dict String ℕ

/-- How a turn ends: with the next one, out of the loop, or out of the function. -/
inductive TurnEnd (α : Type)
  | goOn (p : Progress)
  | leave
  | over (result : Except PyErr (NegotiationOutcome α))

/-- An episode as it is seen from outside. -/
structure Episode (α : Type) where
  effects : List Effect
  result : Except PyErr (NegotiationOutcome α)

/-- The persona whose turn it is. -/
def speakerAt (starter other : String) (turnIndex : ℕ) : String :=
  if turnIndex % 2 = 0 then starter else other

/-- The part of a turn after its output was accepted. -/
def NegotiationEngine.takeTurn (ctx : NegotiationContext) (speaker listener : String)
    (input : TurnInput α) (turnIndex : ℕ) (p : Progress) (turn : TurnResult α) :
    List Effect × TurnEnd α :=
  let transcript := p.transcript ++ [(speaker, turn.speech)]
  let effects := [.speak speaker, .onTurn speaker turn.speech (turnIndex + 1) listener]
  match input.published with
  | .error e => (effects, .over (.error e))
  | .ok () =>
    match turn.agreedAction.bind fun agreed =>
        E.tryBuildProposal ctx agreed transcript input.epoch with
    | some proposal =>
      (effects, .over (.ok ⟨.agreed, transcript, some proposal, turnIndex + 1⟩))
    | none => (effects, .goOn ⟨transcript, p.perBot⟩)

variable [Field α] [LinearOrder α]

/-- The body of the loop of `run`. -/
def NegotiationEngine.turn (ctx : NegotiationContext) (other : String) (deadlineAt : PyFloat α)
    (input : TurnInput α) (turnIndex : ℕ) (p : Progress) : List Effect × TurnEnd α :=
  let speaker := speakerAt ctx.starter other turnIndex
  let stopped (status : NegotiationStatus) : TurnEnd α :=
    .over (.ok ⟨status, p.transcript, none, turnIndex⟩)
  match input.pollBefore with
  | .error e => ([], .over (.error e))
  | .ok true => ([], stopped .aborted)
  | .ok false =>
    if deadlineAt ≤ input.clock then ([], stopped .timeout)
    else if E.maxTurnsPerBot ≤ p.perBot.getD speaker 0 then ([], .leave)
    else
      let perBot := p.perBot.set speaker (p.perBot.getD speaker 0 + 1)
      let listener := if speaker = ctx.starter then other else ctx.starter
      match speakWithGuards input with
      | .error .aborted => ([.speak speaker], stopped .aborted)
      | .error .timedOut => ([.speak speaker], stopped .timeout)
      | .error (.raised e) => ([.speak speaker], .over (.error e))
      | .ok raw =>
        match input.pollAfter with
        | .error e => ([.speak speaker], .over (.error e))
        | .ok true => ([.speak speaker], stopped .aborted)
        | .ok false =>
          match E.parseTurn raw with
          | .error e => ([.speak speaker], .over (.error e))
          | .ok turn =>
            E.takeTurn ctx speaker listener input turnIndex ⟨p.transcript, perBot⟩ turn

/-- The loop of `run`, with so many turns left; no agreement where it is left. -/
def NegotiationEngine.turns (ctx : NegotiationContext) (other : String) (deadlineAt : PyFloat α)
    (inputs : ℕ → TurnInput α) : ℕ → ℕ → Progress → Episode α
  | 0, _, p => ⟨[], .ok ⟨.noAgreement, p.transcript, none, p.transcript.length⟩⟩
  | left + 1, turnIndex, p =>
    match E.turn ctx other deadlineAt (inputs turnIndex) turnIndex p with
    | (effects, .goOn p') =>
      let rest := NegotiationEngine.turns ctx other deadlineAt inputs left (turnIndex + 1) p'
      ⟨effects ++ rest.effects, rest.result⟩
    | (effects, .leave) =>
      ⟨effects, .ok ⟨.noAgreement, p.transcript, none, p.transcript.length⟩⟩
    | (effects, .over result) => ⟨effects, result⟩

variable [IsStrictOrderedRing α]

/-- `run`, from the reading of the clock at its start. -/
def NegotiationEngine.run (F : FloatFormat α) (ctx : NegotiationContext) (start : PyFloat α)
    (inputs : ℕ → TurnInput α) : Episode α :=
  match otherBot ctx with
  | .error e => ⟨[], .error e⟩
  | .ok other =>
    E.turns ctx other (F.add start E.deadlineSeconds) inputs E.maxTurnsTotal 0
      ⟨[], (Dict.empty.set ctx.starter 0).set other 0⟩

end Engine

end LlmBridge

end MiniatureWarehouse
