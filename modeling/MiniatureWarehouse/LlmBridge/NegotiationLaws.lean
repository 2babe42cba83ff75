import MiniatureWarehouse.LlmBridge.Negotiation
import MiniatureWarehouse.Framework.JsonRoundTrip
import Mathlib.Algebra.Order.Field.Rat

/-!
# Laws of an episode

However the personas, the clocks and the two abort channels behave, an episode asks the personas in
strict alternation, no more often than the two budgets allow, and a proposal comes out of it exactly
when it ends in agreement.

What does not hold is that no agreement outlives an abort.  When the race of a turn is over, the
callable is polled again and the event is not: an event that is set in between does not keep the
output from being accepted.  `run_laws_iff` says that this is all that goes wrong.
-/

namespace MiniatureWarehouse

namespace LlmBridge

/-! ## What is claimed -/

/-- The persona an effect asks. -/
def Effect.asked? : Effect → Option String
  | .speak bot => some bot
  | .onTurn _ _ _ _ => none

/-- The personas an episode asked, in order. -/
def Episode.asked {α : Type} (ep : Episode α) : List String := ep.effects.filterMap Effect.asked?

/-- The two bots in turn, the starter first. -/
def Alternates (ctx : NegotiationContext) (bots : List String) : Prop :=
  match otherBot ctx with
  | .ok other =>
    other ≠ ctx.starter ∧ bots = (List.range bots.length).map (speakerAt ctx.starter other)
  | .error _ => bots = []

section Claims

variable {α : Type} (E : NegotiationEngine α) (ctx : NegotiationContext)

/-- What holds of an outcome: its turns alternate within the budgets, a proposal is there exactly on
agreement and carries the generation and the whole transcript, and no abort was on either channel
when the output of the agreeing turn was accepted. -/
structure NegotiationOutcome.Laws (inputs : ℕ → TurnInput α) (out : NegotiationOutcome α) :
    Prop where
  turns_eq : out.turns = out.transcript.length
  turns_le : out.turns ≤ E.maxTurnsTotal
  alternate : Alternates ctx (out.transcript.map Prod.fst)
  capped : ∀ bot, (out.transcript.map Prod.fst).count bot ≤ E.maxTurnsPerBot
  proposal_iff : out.proposal.isSome ↔ out.status = .agreed
  proposal : ∀ p, out.proposal = some p → p.genId = ctx.genId ∧ p.transcript = out.transcript
  no_abort : out.status = .agreed → (inputs (out.turns - 1)).pollAfter ≠ .ok true ∧
    (inputs (out.turns - 1)).eventSet = false

/-- What holds of an episode, whether it returns an outcome or raises. -/
structure Episode.Laws (inputs : ℕ → TurnInput α) (ep : Episode α) : Prop where
  asked_le : ep.asked.length ≤ E.maxTurnsTotal
  alternate : Alternates ctx ep.asked
  capped : ∀ bot, ep.asked.count bot ≤ E.maxTurnsPerBot
  outcome : ∀ out, ep.result = .ok out → out.Laws E ctx inputs

/-- The valid action a turn agrees on. -/
def NegotiationEngine.agreement (turn : TurnResult α) : Option (AgreedAction α) :=
  turn.agreedAction.bind E.validate

/-- A turn whose output is accepted: neither poll aborts, the clock reads a time before the
deadline, the persona alone was done, and what it said could be parsed and published. -/
structure NegotiationEngine.Accepts [Field α] [LinearOrder α] (deadlineAt : PyFloat α)
    (input : TurnInput α) (turn : TurnResult α) : Prop where
  pollBefore : input.pollBefore = .ok false
  inTime : ¬ deadlineAt ≤ input.clock
  spoken : ∃ raw, speakWithGuards input = .ok raw ∧ E.parseTurn raw = .ok turn
  pollAfter : input.pollAfter = .ok false
  published : input.published = .ok ()

/-- The turn in which the two agree: the first accepted output with a valid action. -/
structure NegotiationEngine.AgreedAt [Field α] [LinearOrder α] (deadlineAt : PyFloat α)
    (inputs : ℕ → TurnInput α) (turnIndex : ℕ) : Prop where
  pair : ∃ other, otherBot ctx = .ok other
  inBudget : turnIndex < E.maxTurnsTotal
  inCap : turnIndex / 2 < E.maxTurnsPerBot
  before : ∀ j < turnIndex, ∃ turn, E.Accepts deadlineAt (inputs j) turn ∧
    E.agreement turn = none
  agrees : ∃ turn action, E.Accepts deadlineAt (inputs turnIndex) turn ∧
    E.agreement turn = some action

end Claims

/-! ## Alternation -/

lemma otherBot_ne {ctx : NegotiationContext} {other : String} (h : otherBot ctx = .ok other) :
    other ≠ ctx.starter := by
  unfold otherBot at h
  split at h
  · rename_i other' hbots
    obtain rfl := Except.ok.inj h
    have hmem : other' ∈ ctx.bots.filter fun bot => bot ≠ ctx.starter := by
      rw [hbots]
      exact List.mem_singleton_self other'
    exact of_decide_eq_true (List.mem_filter.mp hmem).2
  · cases h

/-- The speakers of the first turns. -/
def speakers (starter other : String) (n : ℕ) : List String :=
  (List.range n).map (speakerAt starter other)

lemma speakers_succ (starter other : String) (n : ℕ) :
    speakers starter other (n + 1) = speakers starter other n ++ [speakerAt starter other n] := by
  unfold speakers
  rw [List.range_succ, List.map_append]
  rfl

lemma length_speakers (starter other : String) (n : ℕ) :
    (speakers starter other n).length = n := by
  unfold speakers
  rw [List.length_map, List.length_range]

lemma count_speakers {starter other : String} (h : other ≠ starter) (n : ℕ) :
    (speakers starter other n).count starter = (n + 1) / 2 ∧
      (speakers starter other n).count other = n / 2 := by
  induction n with
  | zero => exact ⟨rfl, rfl⟩
  | succ n ih =>
    obtain ⟨hstarter, hother⟩ := ih
    rw [speakers_succ, List.count_append, List.count_append, hstarter, hother]
    unfold speakerAt
    split_ifs with heven
    · rw [List.count_singleton_self, List.count_singleton, if_neg (by simpa using h.symm)]
      omega
    · rw [List.count_singleton_self, List.count_singleton, if_neg (by simpa using h)]
      omega

/-- Whoever is to speak has spoken in every second turn so far. -/
lemma count_speakerAt {starter other : String} (h : other ≠ starter) (n : ℕ) :
    (speakers starter other n).count (speakerAt starter other n) = n / 2 := by
  obtain ⟨hstarter, hother⟩ := count_speakers h n
  unfold speakerAt
  split_ifs with heven
  · rw [hstarter]
    omega
  · exact hother

lemma count_speakers_succ_le {starter other : String} {n cap : ℕ}
    (hcap : ∀ bot, (speakers starter other n).count bot ≤ cap)
    (hlt : (speakers starter other n).count (speakerAt starter other n) < cap) (bot : String) :
    (speakers starter other (n + 1)).count bot ≤ cap := by
  have hbot := hcap bot
  rw [speakers_succ, List.count_append, List.count_singleton]
  split_ifs with heq
  · rw [beq_iff_eq] at heq
    rw [heq] at hlt
    omega
  · omega

lemma alternates_speakers {ctx : NegotiationContext} {other : String}
    (h : otherBot ctx = .ok other) (n : ℕ) : Alternates ctx (speakers ctx.starter other n) := by
  unfold Alternates
  rw [h, length_speakers]
  exact ⟨otherBot_ne h, rfl⟩

/-! ## One turn -/

section Turn

variable {α : Type} {E : NegotiationEngine α} {ctx : NegotiationContext} {other : String}

lemma bind_tryBuildProposal (turn : TurnResult α) (transcript : List (String × String))
    (now : PyFloat α) :
    (turn.agreedAction.bind fun agreed => E.tryBuildProposal ctx agreed transcript now) =
      (E.agreement turn).map fun agreed =>
        ⟨ctx.negotiationId, ctx.genId, agreed, transcript, now⟩ := by
  unfold NegotiationEngine.tryBuildProposal NegotiationEngine.agreement
  cases turn.agreedAction <;> rfl

/-- A turn asks nobody, or the persona whose turn it is while that one has turns left. -/
def Asks (E : NegotiationEngine α) (ctx : NegotiationContext) (other : String) (turnIndex : ℕ)
    (p : Progress) (effects : List Effect) : Prop :=
  effects.filterMap Effect.asked? = [] ∨
    effects.filterMap Effect.asked? = [speakerAt ctx.starter other turnIndex] ∧
      p.perBot.getD (speakerAt ctx.starter other turnIndex) 0 < E.maxTurnsPerBot

variable [Field α] [LinearOrder α]

/-- What a turn can do. -/
inductive Turned (E : NegotiationEngine α) (ctx : NegotiationContext) (other : String)
    (deadlineAt : PyFloat α) (input : TurnInput α) (turnIndex : ℕ) (p : Progress) :
    List Effect × TurnEnd α → Prop
  /-- It is aborted or times out. -/
  | stopped {effects : List Effect} {status : NegotiationStatus} (hstatus : status ≠ .agreed)
      (hasks : Asks E ctx other turnIndex p effects) :
      Turned E ctx other deadlineAt input turnIndex p
        (effects, .over (.ok ⟨status, p.transcript, none, turnIndex⟩))
  /-- Something that is called raises. -/
  | raised {effects : List Effect} {e : PyErr} (hasks : Asks E ctx other turnIndex p effects) :
      Turned E ctx other deadlineAt input turnIndex p (effects, .over (.error e))
  /-- The persona has no turns left. -/
  | leave : Turned E ctx other deadlineAt input turnIndex p ([], .leave)
  /-- The output is accepted and agrees. -/
  | agreed {effects : List Effect} {turn : TurnResult α} {action : AgreedAction α}
      (hasks : Asks E ctx other turnIndex p effects)
      (hcap : p.perBot.getD (speakerAt ctx.starter other turnIndex) 0 < E.maxTurnsPerBot)
      (haccepts : E.Accepts deadlineAt input turn) (hagreement : E.agreement turn = some action)
      {transcript : List (String × String)}
      (htranscript : transcript =
        p.transcript ++ [(speakerAt ctx.starter other turnIndex, turn.speech)]) :
      Turned E ctx other deadlineAt input turnIndex p
        (effects, .over (.ok ⟨.agreed, transcript,
          some ⟨ctx.negotiationId, ctx.genId, action, transcript, input.epoch⟩, turnIndex + 1⟩))
  /-- The output is accepted and does not agree. -/
  | goOn {effects : List Effect} {turn : TurnResult α}
      (hasks : effects.filterMap Effect.asked? = [speakerAt ctx.starter other turnIndex])
      (hcap : p.perBot.getD (speakerAt ctx.starter other turnIndex) 0 < E.maxTurnsPerBot)
      (haccepts : E.Accepts deadlineAt input turn) (hagreement : E.agreement turn = none) :
      Turned E ctx other deadlineAt input turnIndex p
        (effects, .goOn
          ⟨p.transcript ++ [(speakerAt ctx.starter other turnIndex, turn.speech)],
            p.perBot.set (speakerAt ctx.starter other turnIndex)
              (p.perBot.getD (speakerAt ctx.starter other turnIndex) 0 + 1)⟩)

lemma turn_turned (deadlineAt : PyFloat α) (input : TurnInput α) (turnIndex : ℕ) (p : Progress) :
    Turned E ctx other deadlineAt input turnIndex p
      (E.turn ctx other deadlineAt input turnIndex p) := by
  unfold NegotiationEngine.turn
  dsimp only
  split
  · exact .raised (.inl rfl)
  · exact .stopped (by decide) (.inl rfl)
  · rename_i hbefore
    by_cases hlate : deadlineAt ≤ input.clock
    · rw [if_pos hlate]
      exact .stopped (by decide) (.inl rfl)
    rw [if_neg hlate]
    by_cases hspent : E.maxTurnsPerBot ≤ p.perBot.getD (speakerAt ctx.starter other turnIndex) 0
    · rw [if_pos hspent]
      exact .leave
    rw [if_neg hspent]
    have hcap := not_le.mp hspent
    split
    · exact .stopped (by decide) (.inr ⟨rfl, hcap⟩)
    · exact .stopped (by decide) (.inr ⟨rfl, hcap⟩)
    · exact .raised (.inr ⟨rfl, hcap⟩)
    · rename_i raw hraw
      split
      · exact .raised (.inr ⟨rfl, hcap⟩)
      · exact .stopped (by decide) (.inr ⟨rfl, hcap⟩)
      · rename_i hafter
        split
        · exact .raised (.inr ⟨rfl, hcap⟩)
        · rename_i turn hturn
          unfold NegotiationEngine.takeTurn
          dsimp only
          split
          · exact .raised (.inr ⟨rfl, hcap⟩)
          · rename_i hpublished
            have haccepts : E.Accepts deadlineAt input turn :=
              ⟨hbefore, hlate, ⟨raw, hraw, hturn⟩, hafter, hpublished⟩
            rw [bind_tryBuildProposal]
            cases hagreement : E.agreement turn with
            | none => exact .goOn rfl hcap haccepts hagreement
            | some action => exact .agreed (.inr ⟨rfl, hcap⟩) hcap haccepts hagreement rfl

/-- An accepted output is either the agreement or followed by the next turn. -/
lemma turn_of_accepts {deadlineAt : PyFloat α} {input : TurnInput α} {turnIndex : ℕ}
    {p : Progress} {turn : TurnResult α} (h : E.Accepts deadlineAt input turn)
    (hcap : p.perBot.getD (speakerAt ctx.starter other turnIndex) 0 < E.maxTurnsPerBot) :
    (E.agreement turn = none → ∃ p', (E.turn ctx other deadlineAt input turnIndex p).2 = .goOn p') ∧
      ((E.agreement turn).isSome → ∃ out,
        (E.turn ctx other deadlineAt input turnIndex p).2 = .over (.ok out) ∧
          out.status = .agreed ∧ out.turns = turnIndex + 1) := by
  obtain ⟨raw, hraw, hturn⟩ := h.spoken
  have hunfold : (E.turn ctx other deadlineAt input turnIndex p).2 =
      (E.takeTurn ctx (speakerAt ctx.starter other turnIndex)
        (if speakerAt ctx.starter other turnIndex = ctx.starter then other else ctx.starter) input
        turnIndex ⟨p.transcript, p.perBot.set (speakerAt ctx.starter other turnIndex)
          (p.perBot.getD (speakerAt ctx.starter other turnIndex) 0 + 1)⟩ turn).2 := by
    unfold NegotiationEngine.turn
    rw [h.pollBefore]
    dsimp only
    rw [if_neg h.inTime, if_neg (not_le.mpr hcap), hraw]
    dsimp only
    rw [h.pollAfter]
    dsimp only
    rw [hturn]
  rw [hunfold]
  unfold NegotiationEngine.takeTurn
  dsimp only
  rw [h.published]
  dsimp only
  rw [bind_tryBuildProposal]
  constructor
  · intro hnone
    rw [hnone]
    exact ⟨_, rfl⟩
  · intro hsome
    obtain ⟨action, haction⟩ := Option.isSome_iff_exists.mp hsome
    rw [haction]
    exact ⟨_, rfl, rfl, rfl⟩

end Turn

/-! ## A run of turns -/

section Run

variable {α : Type} [Field α] [LinearOrder α] {E : NegotiationEngine α} {ctx : NegotiationContext}
  {other : String} {deadlineAt : PyFloat α} {inputs : ℕ → TurnInput α}

/-- Where the loop stands before a turn: everybody spoke in turn and was counted, within the cap,
and nothing was agreed on. -/
structure Underway (E : NegotiationEngine α) (ctx : NegotiationContext) (other : String)
    (deadlineAt : PyFloat α) (inputs : ℕ → TurnInput α) (turnIndex : ℕ) (p : Progress) : Prop where
  spoken : p.transcript.map Prod.fst = speakers ctx.starter other turnIndex
  counted : ∀ bot, p.perBot.getD bot 0 = (speakers ctx.starter other turnIndex).count bot
  capped : ∀ bot, (speakers ctx.starter other turnIndex).count bot ≤ E.maxTurnsPerBot
  before : ∀ j < turnIndex, ∃ turn, E.Accepts deadlineAt (inputs j) turn ∧
    E.agreement turn = none

lemma Underway.length {turnIndex : ℕ} {p : Progress}
    (h : Underway E ctx other deadlineAt inputs turnIndex p) :
    p.transcript.length = turnIndex := by
  rw [← List.length_map (f := Prod.fst), h.spoken, length_speakers]

lemma underway_start :
    Underway E ctx other deadlineAt inputs 0
      ⟨[], (Dict.empty.set ctx.starter 0).set other 0⟩ where
  spoken := rfl
  counted bot := by
    unfold Dict.getD
    rw [Dict.get?_set, Dict.get?_set]
    split_ifs <;> rfl
  capped _ := Nat.zero_le _
  before j hj := absurd hj (Nat.not_lt_zero j)

/-- A turn after which the loop goes on. -/
lemma Underway.goOn {turnIndex : ℕ} {p : Progress}
    (h : Underway E ctx other deadlineAt inputs turnIndex p) {turn : TurnResult α}
    (hcap : p.perBot.getD (speakerAt ctx.starter other turnIndex) 0 < E.maxTurnsPerBot)
    (haccepts : E.Accepts deadlineAt (inputs turnIndex) turn)
    (hagreement : E.agreement turn = none) :
    Underway E ctx other deadlineAt inputs (turnIndex + 1)
      ⟨p.transcript ++ [(speakerAt ctx.starter other turnIndex, turn.speech)],
        p.perBot.set (speakerAt ctx.starter other turnIndex)
          (p.perBot.getD (speakerAt ctx.starter other turnIndex) 0 + 1)⟩ where
  spoken := by
    rw [List.map_append, h.spoken, speakers_succ]
    rfl
  counted bot := by
    have hbot := h.counted bot
    have hspeaker := h.counted (speakerAt ctx.starter other turnIndex)
    rw [speakers_succ, List.count_append, List.count_singleton]
    unfold Dict.getD at hbot hspeaker ⊢
    rw [Dict.get?_set]
    split_ifs with heq hbeq hbeq
    · rw [Option.getD_some, hspeaker, heq]
    · exact absurd (beq_iff_eq.mpr heq.symm) hbeq
    · exact absurd (beq_iff_eq.mp hbeq).symm heq
    · exact hbot
  capped := count_speakers_succ_le h.capped (by rwa [← h.counted])
  before j hj := by
    rcases Nat.lt_succ_iff_lt_or_eq.mp hj with hlt | rfl
    · exact h.before j hlt
    · exact ⟨turn, haccepts, hagreement⟩

/-- What holds of the rest of an episode, from a turn on: the personas that were asked go on with
the alternation, and an agreement is the first there is. -/
structure Continues (E : NegotiationEngine α) (ctx : NegotiationContext) (other : String)
    (deadlineAt : PyFloat α) (inputs : ℕ → TurnInput α) (turnIndex : ℕ) (ep : Episode α) :
    Prop where
  asked : ∃ n, n ≤ E.maxTurnsTotal ∧
    speakers ctx.starter other turnIndex ++ ep.asked = speakers ctx.starter other n ∧
      ∀ bot, (speakers ctx.starter other n).count bot ≤ E.maxTurnsPerBot
  spoken : ∀ out, ep.result = .ok out → ∃ n, n ≤ E.maxTurnsTotal ∧ out.turns = n ∧
    out.transcript.map Prod.fst = speakers ctx.starter other n ∧
      ∀ bot, (speakers ctx.starter other n).count bot ≤ E.maxTurnsPerBot
  unagreed : ∀ out, ep.result = .ok out → out.status ≠ .agreed → out.proposal = none
  agreed : ∀ out, ep.result = .ok out → out.status = .agreed →
    (∃ p, out.proposal = some p ∧ p.genId = ctx.genId ∧ p.transcript = out.transcript) ∧
      ∃ i, out.turns = i + 1 ∧ i < E.maxTurnsTotal ∧ i / 2 < E.maxTurnsPerBot ∧
        (∀ j < i, ∃ turn, E.Accepts deadlineAt (inputs j) turn ∧ E.agreement turn = none) ∧
          ∃ turn action, E.Accepts deadlineAt (inputs i) turn ∧ E.agreement turn = some action

/-- What a turn asks goes on with the alternation. -/
lemma Asks.extends {turnIndex : ℕ} {p : Progress} {effects : List Effect}
    (hasks : Asks E ctx other turnIndex p effects)
    (h : Underway E ctx other deadlineAt inputs turnIndex p) (hlt : turnIndex < E.maxTurnsTotal) :
    ∃ n, n ≤ E.maxTurnsTotal ∧
      speakers ctx.starter other turnIndex ++ effects.filterMap Effect.asked? =
        speakers ctx.starter other n ∧
      ∀ bot, (speakers ctx.starter other n).count bot ≤ E.maxTurnsPerBot := by
  rcases hasks with hnone | ⟨hone, hcap⟩
  · rw [hnone, List.append_nil]
    exact ⟨turnIndex, hlt.le, rfl, h.capped⟩
  · rw [h.counted] at hcap
    rw [hone]
    exact ⟨turnIndex + 1, hlt, (speakers_succ _ _ _).symm, count_speakers_succ_le h.capped hcap⟩

/-- An episode that ends without agreement before the output of a turn is accepted. -/
lemma Underway.ends {turnIndex : ℕ} {p : Progress}
    (h : Underway E ctx other deadlineAt inputs turnIndex p) (hle : turnIndex ≤ E.maxTurnsTotal)
    {effects : List Effect}
    (hasked : ∃ n, n ≤ E.maxTurnsTotal ∧
      speakers ctx.starter other turnIndex ++ effects.filterMap Effect.asked? =
        speakers ctx.starter other n ∧
      ∀ bot, (speakers ctx.starter other n).count bot ≤ E.maxTurnsPerBot)
    {result : Except PyErr (NegotiationOutcome α)}
    (hresult : ∀ out, result = .ok out → out.status ≠ .agreed ∧ out.proposal = none ∧
      out.transcript = p.transcript ∧ out.turns = turnIndex) :
    Continues E ctx other deadlineAt inputs turnIndex ⟨effects, result⟩ where
  asked := hasked
  spoken out hout := by
    obtain ⟨-, -, htranscript, hturns⟩ := hresult out hout
    exact ⟨turnIndex, hle, hturns, by rw [htranscript, h.spoken], h.capped⟩
  unagreed out hout _ := (hresult out hout).2.1
  agreed out hout hagreed := absurd hagreed (hresult out hout).1

/-- An episode that ends with the agreement of a turn. -/
lemma Underway.agrees {turnIndex : ℕ} {p : Progress}
    (h : Underway E ctx other deadlineAt inputs turnIndex p) (hother : other ≠ ctx.starter)
    (hlt : turnIndex < E.maxTurnsTotal) {effects : List Effect} {turn : TurnResult α}
    {action : AgreedAction α} (hasks : Asks E ctx other turnIndex p effects)
    (hcap : p.perBot.getD (speakerAt ctx.starter other turnIndex) 0 < E.maxTurnsPerBot)
    (haccepts : E.Accepts deadlineAt (inputs turnIndex) turn)
    (hagreement : E.agreement turn = some action) {transcript : List (String × String)}
    (htranscript : transcript =
      p.transcript ++ [(speakerAt ctx.starter other turnIndex, turn.speech)])
    (epoch : PyFloat α) :
    Continues E ctx other deadlineAt inputs turnIndex
      ⟨effects, .ok ⟨.agreed, transcript,
        some ⟨ctx.negotiationId, ctx.genId, action, transcript, epoch⟩, turnIndex + 1⟩⟩ := by
  rw [h.counted] at hcap
  have hspoken : transcript.map Prod.fst = speakers ctx.starter other (turnIndex + 1) := by
    rw [htranscript, List.map_append, h.spoken, speakers_succ]
    rfl
  constructor
  · exact hasks.extends h hlt
  · intro out hout
    obtain rfl := Except.ok.inj hout
    exact ⟨turnIndex + 1, hlt, rfl, hspoken, count_speakers_succ_le h.capped hcap⟩
  · intro out hout hne
    obtain rfl := Except.ok.inj hout
    exact absurd rfl hne
  · intro out hout _
    obtain rfl := Except.ok.inj hout
    rw [count_speakerAt hother] at hcap
    exact ⟨⟨_, rfl, rfl, rfl⟩, turnIndex, rfl, hlt, hcap, h.before, turn, action, haccepts,
      hagreement⟩

omit [Field α] [LinearOrder α] in
/-- An outcome without agreement. -/
lemma unagreed_outcome {status : NegotiationStatus} (hstatus : status ≠ .agreed)
    {transcript : List (String × String)} {turns : ℕ} {out : NegotiationOutcome α}
    (hout : (.ok ⟨status, transcript, none, turns⟩ : Except PyErr (NegotiationOutcome α)) =
      .ok out) : out.status ≠ .agreed ∧ out.proposal = none ∧ out.transcript = transcript ∧
        out.turns = turns := by
  obtain rfl := Except.ok.inj hout
  exact ⟨hstatus, rfl, rfl, rfl⟩

/-- **From any turn on** the episode continues what it began. -/
lemma turns_continues (hother : other ≠ ctx.starter) {left turnIndex : ℕ}
    (hbudget : turnIndex + left = E.maxTurnsTotal) {p : Progress}
    (h : Underway E ctx other deadlineAt inputs turnIndex p) :
    Continues E ctx other deadlineAt inputs turnIndex
      (E.turns ctx other deadlineAt inputs left turnIndex p) := by
  induction left generalizing turnIndex p with
  | zero =>
    rw [NegotiationEngine.turns, h.length]
    exact h.ends (by omega) ⟨turnIndex, by omega, List.append_nil _, h.capped⟩
      fun out hout => unagreed_outcome (by decide) hout
  | succ left ih =>
    have hlt : turnIndex < E.maxTurnsTotal := by omega
    rw [NegotiationEngine.turns]
    have hturn : Turned E ctx other deadlineAt (inputs turnIndex) turnIndex p
        (E.turn ctx other deadlineAt (inputs turnIndex) turnIndex p) :=
      turn_turned deadlineAt (inputs turnIndex) turnIndex p
    generalize E.turn ctx other deadlineAt (inputs turnIndex) turnIndex p = step at hturn
    cases hturn with
    | stopped hstatus hasks =>
      exact h.ends hlt.le (hasks.extends h hlt) fun out hout => unagreed_outcome hstatus hout
    | raised hasks =>
      exact h.ends hlt.le (hasks.extends h hlt) fun out hout => by cases hout
    | leave =>
      dsimp only
      rw [h.length]
      exact h.ends hlt.le ⟨turnIndex, hlt.le, List.append_nil _, h.capped⟩
        fun out hout => unagreed_outcome (by decide) hout
    | agreed hasks hcap haccepts hagreement htranscript =>
      exact h.agrees hother hlt hasks hcap haccepts hagreement htranscript _
    | goOn hasks hcap haccepts hagreement =>
      have hrest := ih (by omega) (h.goOn hcap haccepts hagreement)
      refine ⟨?_, hrest.spoken, hrest.unagreed, hrest.agreed⟩
      obtain ⟨n, hn, hspeakers, hcapped⟩ := hrest.asked
      refine ⟨n, hn, ?_, hcapped⟩
      rw [← hspeakers, speakers_succ, List.append_assoc, ← hasks]
      exact congrArg _ List.filterMap_append

/-- **The agreement is reached**: the loop goes on to the turn of the agreement and ends there. -/
lemma turns_of_agreed {i : ℕ} (hcap : i / 2 < E.maxTurnsPerBot)
    (hagrees : ∃ turn action, E.Accepts deadlineAt (inputs i) turn ∧
      E.agreement turn = some action)
    (hbefore : ∀ j < i, ∃ turn, E.Accepts deadlineAt (inputs j) turn ∧ E.agreement turn = none)
    (hother : other ≠ ctx.starter) {left turnIndex : ℕ} (hle : turnIndex ≤ i)
    (hleft : i < turnIndex + left) {p : Progress}
    (h : Underway E ctx other deadlineAt inputs turnIndex p) :
    ∃ out, (E.turns ctx other deadlineAt inputs left turnIndex p).result = .ok out ∧
      out.status = .agreed ∧ out.turns = i + 1 := by
  induction left generalizing turnIndex p with
  | zero => omega
  | succ left ih =>
    have hspeaker : p.perBot.getD (speakerAt ctx.starter other turnIndex) 0 < E.maxTurnsPerBot := by
      rw [h.counted, count_speakerAt hother]
      have hhalf : turnIndex / 2 ≤ i / 2 := Nat.div_le_div_right hle
      omega
    rw [NegotiationEngine.turns]
    have hturn : Turned E ctx other deadlineAt (inputs turnIndex) turnIndex p
        (E.turn ctx other deadlineAt (inputs turnIndex) turnIndex p) :=
      turn_turned deadlineAt (inputs turnIndex) turnIndex p
    rcases Nat.lt_or_eq_of_le hle with hlt | rfl
    · obtain ⟨turn, haccepts, hnone⟩ := hbefore turnIndex hlt
      obtain ⟨p', hgoes⟩ : ∃ p',
          (E.turn ctx other deadlineAt (inputs turnIndex) turnIndex p).2 = .goOn p' :=
        (turn_of_accepts haccepts hspeaker).1 hnone
      generalize E.turn ctx other deadlineAt (inputs turnIndex) turnIndex p = step at hturn hgoes
      cases hturn with
      | stopped | raised | leave | agreed => cases hgoes
      | goOn hasks hcap' haccepts' hagreement =>
        exact ih hlt (by omega) (h.goOn hcap' haccepts' hagreement)
    · obtain ⟨turn, action, haccepts, haction⟩ := hagrees
      obtain ⟨out, hover, hstatus, hturns⟩ : ∃ out,
          (E.turn ctx other deadlineAt (inputs turnIndex) turnIndex p).2 = .over (.ok out) ∧
            out.status = .agreed ∧ out.turns = turnIndex + 1 :=
        (turn_of_accepts haccepts hspeaker).2 (Option.isSome_iff_exists.mpr ⟨action, haction⟩)
      generalize E.turn ctx other deadlineAt (inputs turnIndex) turnIndex p = step at hover
      obtain ⟨effects, stepEnd⟩ := step
      obtain rfl : stepEnd = .over (.ok out) := hover
      exact ⟨out, rfl, hstatus, hturns⟩

end Run

/-! ## The laws -/

section Laws

variable {α : Type} [Field α] [LinearOrder α] [IsStrictOrderedRing α] (E : NegotiationEngine α)
  (F : FloatFormat α) (ctx : NegotiationContext) (start : PyFloat α) (inputs : ℕ → TurnInput α)

/-- What an episode is, apart from the aborts. -/
lemma run_continues {other : String} (hother : otherBot ctx = .ok other) :
    Continues E ctx other (F.add start E.deadlineSeconds) inputs 0
      (E.run F ctx start inputs) := by
  unfold NegotiationEngine.run
  rw [hother]
  exact turns_continues (otherBot_ne hother) (Nat.zero_add _) underway_start

variable {E F ctx start inputs}

lemma AgreedAt.run {i : ℕ}
    (h : E.AgreedAt ctx (F.add start E.deadlineSeconds) inputs i) :
    ∃ out, (E.run F ctx start inputs).result = .ok out ∧ out.status = .agreed ∧
      out.turns = i + 1 := by
  obtain ⟨other, hother⟩ := h.pair
  have hbudget := h.inBudget
  unfold NegotiationEngine.run
  rw [hother]
  exact turns_of_agreed h.inCap h.agrees h.before (otherBot_ne hother) (Nat.zero_le i) (by omega)
    underway_start

omit [IsStrictOrderedRing α] in
/-- An outcome of a pair of personas keeps every law that is not about aborts. -/
lemma Continues.outcome_laws {other : String} {deadlineAt : PyFloat α} {ep : Episode α}
    (h : Continues E ctx other deadlineAt inputs 0 ep) (hother : otherBot ctx = .ok other)
    {out : NegotiationOutcome α} (hout : ep.result = .ok out)
    (hquiet : ∀ i, E.AgreedAt ctx deadlineAt inputs i → (inputs i).eventSet = false) :
    out.Laws E ctx inputs := by
  obtain ⟨n, hn, hturns, hspoken, hcapped⟩ := h.spoken out hout
  have hlength : out.transcript.length = n := by
    rw [← List.length_map (f := Prod.fst), hspoken, length_speakers]
  refine ⟨by omega, by omega, ?_, ?_, ?_, ?_, ?_⟩
  · rw [hspoken]
    exact alternates_speakers hother n
  · rw [hspoken]
    exact hcapped
  · constructor
    · intro hsome
      by_contra hstatus
      rw [h.unagreed out hout hstatus] at hsome
      cases hsome
    · intro hstatus
      obtain ⟨⟨p, hp, -⟩, -⟩ := h.agreed out hout hstatus
      rw [hp]
      rfl
  · intro p hp
    have hstatus : out.status = .agreed := by
      by_contra hstatus
      rw [h.unagreed out hout hstatus] at hp
      cases hp
    obtain ⟨⟨p', hp', hlaws⟩, -⟩ := h.agreed out hout hstatus
    rw [hp] at hp'
    obtain rfl := Option.some.inj hp'
    exact hlaws
  · intro hstatus
    obtain ⟨-, i, hi, hbudget, hcap, hbefore, turn, action, haccepts, haction⟩ :=
      h.agreed out hout hstatus
    rw [hi, Nat.add_sub_cancel, haccepts.pollAfter]
    constructor
    · intro hpoll
      cases hpoll
    · exact hquiet i
        ⟨⟨other, hother⟩, hbudget, hcap, hbefore, turn, action, haccepts, haction⟩

/-- **When the laws hold.**  An episode keeps all of them if and only if the abort event is not set
when the output of the agreeing turn is accepted. -/
theorem run_laws_iff (E : NegotiationEngine α) (F : FloatFormat α) (ctx : NegotiationContext)
    (start : PyFloat α) (inputs : ℕ → TurnInput α) :
    (E.run F ctx start inputs).Laws E ctx inputs ↔
      ∀ i, E.AgreedAt ctx (F.add start E.deadlineSeconds) inputs i →
        (inputs i).eventSet = false := by
  constructor
  · intro h i hagreed
    obtain ⟨out, hout, hstatus, hturns⟩ := AgreedAt.run hagreed
    have hquiet := ((h.outcome out hout).no_abort hstatus).2
    rwa [hturns, Nat.add_sub_cancel] at hquiet
  · intro hquiet
    cases hother : otherBot ctx with
    | error e =>
      have hrun : E.run F ctx start inputs = ⟨[], .error e⟩ := by
        unfold NegotiationEngine.run
        rw [hother]
      rw [hrun]
      refine ⟨Nat.zero_le _, ?_, fun bot => Nat.zero_le _, fun out hout => by cases hout⟩
      unfold Alternates
      rw [hother]
      rfl
    | ok other =>
      have hcontinues := run_continues E F ctx start inputs hother
      obtain ⟨n, hn, hspeakers, hcapped⟩ := hcontinues.asked
      have hasked : (E.run F ctx start inputs).asked = speakers ctx.starter other n := hspeakers
      refine ⟨?_, ?_, ?_, fun out hout => hcontinues.outcome_laws hother hout hquiet⟩
      · rw [hasked, length_speakers]
        exact hn
      · rw [hasked]
        exact alternates_speakers hother n
      · rw [hasked]
        exact hcapped

end Laws

/-! ## An event between the race and the acceptance -/

/-- What a persona says that agrees at once. -/
def agreeingData : PyVal ℚ :=
  .dict [("speech", .str "ok"),
    ("agreed_action", .dict [("action", .str "wait"), ("by", .str "bot1")])]

/-- `AgreedAction.model_validate` of an object with a `by` whose action is to wait. -/
def validateWait (es : List (String × PyVal ℚ)) : Option (AgreedAction ℚ) :=
  match Dict.find es "action", Dict.find es "by" with
  | some (.str action), some (.str by_) =>
    if action = "wait" then some ⟨.wait, by_, none, none⟩ else none
  | _, _ => none

/-- The engine with its default limits. -/
def defaultEngine : NegotiationEngine ℚ where
  maxTurnsPerBot := 4
  maxTurnsTotal := 8
  deadlineSeconds := .fin 8
  scan := Json.scan .rational
  str _ := .error .typeError
  validate := validateWait

def twoBots : NegotiationContext := ⟨"n1", 3, "bot1", ["bot1", "bot2"]⟩

lemma speak_completed : (true || false || false) = true := rfl

/-- A turn in which the persona agrees at once. -/
def agreeingTurn (eventSet : Bool) : TurnInput ℚ where
  pollBefore := .ok false
  clock := .fin 0
  done := ⟨true, false, false, speak_completed⟩
  spoken := .ok (String.ofList (Json.dumps .rational agreeingData))
  pollAfter := .ok false
  eventSet := eventSet
  published := .ok ()
  epoch := .fin 0

/-- Without an abort the laws hold of an episode that agrees at once. -/
theorem run_laws_iff_calm :
    (defaultEngine.run (.exact ℚ) twoBots (.fin 0) fun _ => agreeingTurn false).Laws defaultEngine
      twoBots fun _ => agreeingTurn false :=
  (run_laws_iff defaultEngine (.exact ℚ) twoBots (.fin 0) fun _ => agreeingTurn false).mpr
    fun _ _ => rfl

lemma parseTurn_agreeing :
    defaultEngine.parseTurn (String.ofList (Json.dumps .rational agreeingData)) =
      .ok ⟨"ok", some [("action", .str "wait"), ("by", .str "bot1")]⟩ := by
  have hstrip : Text.strip (Json.dumps .rational agreeingData) =
      Json.dumps .rational agreeingData := by rfl
  have hloads : defaultEngine.scan.loads (String.ofList (Json.dumps .rational agreeingData)) =
      .ok agreeingData := Json.loads_dumps .rational rfl
  unfold NegotiationEngine.parseTurn
  dsimp only
  rw [String.toList_ofList, hstrip, hloads]
  rfl

lemma agreeingTurn_accepted (eventSet : Bool) :
    defaultEngine.Accepts (.fin 8) (agreeingTurn eventSet)
      ⟨"ok", some [("action", .str "wait"), ("by", .str "bot1")]⟩ where
  pollBefore := rfl
  inTime := by
    show ¬ (.fin 8 : PyFloat ℚ) ≤ .fin 0
    simp
  spoken := ⟨_, rfl, parseTurn_agreeing⟩
  pollAfter := rfl
  published := rfl

/-- The event is set when the race is over, and the agreement comes out all the same. -/
theorem event_after_race_agrees :
    ¬ (defaultEngine.run (.exact ℚ) twoBots (.fin 0) fun _ => agreeingTurn true).Laws defaultEngine
      twoBots fun _ => agreeingTurn true := by
  intro h
  have hdeadline : (FloatFormat.exact ℚ).add (.fin 0) defaultEngine.deadlineSeconds = .fin 8 := by
    show PyFloat.fin ((0 : ℚ) + 8) = .fin 8
    rw [zero_add]
  have hagreed : defaultEngine.AgreedAt twoBots
      ((FloatFormat.exact ℚ).add (.fin 0) defaultEngine.deadlineSeconds)
      (fun _ => agreeingTurn true) 0 := by
    rw [hdeadline]
    exact ⟨⟨"bot2", rfl⟩, Nat.zero_lt_succ 7, Nat.zero_lt_succ 3,
      fun j hj => absurd hj (Nat.not_lt_zero j), _, ⟨.wait, "bot1", none, none⟩,
      agreeingTurn_accepted true, rfl⟩
  obtain ⟨out, hout, hstatus, -⟩ := AgreedAt.run hagreed
  have hquiet := ((h.outcome out hout).no_abort hstatus).2
  cases hquiet

end LlmBridge

end MiniatureWarehouse
