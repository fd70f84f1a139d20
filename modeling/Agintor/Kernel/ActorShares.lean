import Agintor.Kernel.CompositeProvider
import Agintor.Kernel.CompositeRun
import Agintor.Kernel.LedgerCosts

/-!
# Actor shares

The environment of a composite run whose provider has no `provider_request_reservation` of its
own: each provider round reserves its call's part of the actor's share on the run's ledger. The
list of the rounds with what they asked for is kept for the statements; no code reads it.
-/

namespace Agintor.Kernel

open Agintor.Contracts Lib AggregateBudgetLedger

/-! ## The world of a run -/

/-- One provider round: whom it reserves for, what it asks for and what happens on the ledger. -/
structure ProviderTurn where
  actorId : String
  args : ProviderCallArgs
  entries : List Entry

/-- The ledger of a run, and what lies outside. -/
structure BudgetWorld (ρ : Type) where
  ledger : AggregateBudgetLedger
  turns : List ProviderTurn
  outside : ρ

variable {ρ α : Type}

/-- Tools see the ledger of the run, but none of its rounds. -/
def BudgetWorld.lift (action : AggregateBudgetLedger × ρ → α × AggregateBudgetLedger × ρ)
    (w : BudgetWorld ρ) : α × BudgetWorld ρ :=
  let (a, ledger, outside) := action (w.ledger, w.outside)
  (a, { w with ledger := ledger, outside := outside })

def liftTools (tools : ToolInterface (AggregateBudgetLedger × ρ)) :
    ToolInterface (BudgetWorld ρ) where
  invoke callId toolId arguments requestId :=
    BudgetWorld.lift (tools.invoke callId toolId arguments requestId)
  complete := tools.complete
  workspaceDiff maxPatchBytes := BudgetWorld.lift (tools.workspaceDiff maxPatchBytes)
  sourceSnapshotUnchanged := BudgetWorld.lift tools.sourceSnapshotUnchanged
  immutableBaseUnchanged := BudgetWorld.lift tools.immutableBaseUnchanged
  runPublicVerification callId := BudgetWorld.lift (tools.runPublicVerification callId)
  currentWorkspaceDigest := BudgetWorld.lift tools.currentWorkspaceDigest
  receipts := BudgetWorld.lift tools.receipts

/-! ## Rounds -/

def CallError.message : CallError → String
  | .ledger e => e.message
  | .invalidFailure => "ValidationError"
  | .cancelEscaped => "BaseException"
  | .waiting => ""

/-- What the runtime makes of a controlled call; a response is the turn it parses to, if any. -/
def ProviderRound.ofCall :
    Except CallError (ProviderCallResult (Option ActorTurn)) → ProviderRound
  | .error e => .raised e.message
  | .ok result =>
    if result.status ≠ .succeeded then .failed
    else
      match result.invocation, result.reservationId with
      | some invocation, some _ =>
        match invocation.response with
        | some answer => .turn answer
        | none => .invalidTurn
      | _, _ => .resultMissing

/-- What a round asks for: the default of `_provider_request_reservation`, and the cost that
`_execute_call` takes from the share of the call. -/
def providerArgs (runtime : CompositeRuntime) (request : ActorCallRequest) : ProviderCallArgs where
  inputTokens := request.inputTokenEstimate
  maxOutputTokens := request.maxOutputTokens
  estimatedCostUsd := runtime.task.ceilings.maxKnownCostUsd *
    (request.budgetShareBps /
      ((runtime.plan.actorCalls.filter (·.actorId = request.actorId)).length : ℚ)) / 10000
  expectedCostStatus := .known

/-- One round on the ledger. The runtime passes no cancellation event. -/
def providerTurn (runtime : CompositeRuntime)
    (behave : ActorCallRequest → ρ → Behaviour (Option ActorTurn) × ρ)
    (request : ActorCallRequest) (w : BudgetWorld ρ) : ProviderRound × BudgetWorld ρ :=
  let (b, outside) := behave request w.outside
  let args := providerArgs runtime request
  let (outcome, W) := CompositeProviderController.call { b with cancelledBefore := false } args
    ⟨w.ledger, []⟩
  (.ofCall outcome,
    { ledger := W.ledger
      turns := w.turns ++ [⟨request.actorId, args, W.entries⟩]
      outside := outside })

def sharedEnvironment (runtime : CompositeRuntime) (countTokens : ActorCallRequest → ℕ)
    (behave : ActorCallRequest → ρ → Behaviour (Option ActorTurn) × ρ)
    (tools : Option (ToolInterface (AggregateBudgetLedger × ρ))) :
    Environment (BudgetWorld ρ) where
  countTokens := countTokens
  reserve _ w := (true, w)
  call := providerTurn runtime behave
  tools := tools.map liftTools
  budgetHealthy w :=
    let snapshot := w.ledger.snapshot w.ledger.startedAt
    snapshot.reconciled && snapshot.healthy

/-- The world in which a runtime is constructed: its ledger is new. -/
def CompositeRuntime.newWorld (runtime : CompositeRuntime) (clock : ℚ) (outside : ρ) :
    BudgetWorld ρ where
  ledger := AggregateBudgetLedger.init runtime.plan.budgetLedger.aggregateCeiling clock
  turns := []
  outside := outside

/-- The world that a run leaves. -/
def CompositeRuntime.worldAfter (runtime : CompositeRuntime) (digests : RuntimeDigests)
    (countTokens : ActorCallRequest → ℕ)
    (behave : ActorCallRequest → ρ → Behaviour (Option ActorTurn) × ρ)
    (tools : Option (ToolInterface (AggregateBudgetLedger × ρ))) (clock : ℚ) (outside : ρ) :
    BudgetWorld ρ :=
  (run digests (sharedEnvironment runtime countTokens behave tools) runtime
    (runtime.start (runtime.newWorld clock outside))).2.world

/-! ## Shares -/

/-- The calls that are scheduled for an actor. -/
def scheduledCalls (plan : CompositeRunPlan) (actorId : String) : ℕ :=
  (plan.actorCalls.filter (·.actorId = actorId)).length

/-- The rounds of an actor. -/
def turnsOf (turns : List ProviderTurn) (actorId : String) : List ProviderTurn :=
  turns.filter (·.actorId = actorId)

/-- The part of a ceiling that an actor's share comes to. -/
def shareOf (actor : HarnessActor) (ceiling : ℚ) : ℚ := ceiling * actor.budgetShareBps / 10000

/-- What the rounds of an actor ask for adds up to at most its share. -/
structure WithinShare (ceilings : TaskCeilings) (actor : HarnessActor)
    (turns : List ProviderTurn) : Prop where
  output : (((turnsOf turns actor.actorId).map fun turn => (turn.args.maxOutputTokens : ℚ)).sum) ≤
    shareOf actor ceilings.maxOutputTokens
  input : (((turnsOf turns actor.actorId).map fun turn => (turn.args.inputTokens : ℚ)).sum) ≤
    shareOf actor ceilings.maxInputTokens
  cost : ((turnsOf turns actor.actorId).map fun turn => turn.args.estimatedCostUsd).sum ≤
    shareOf actor ceilings.maxKnownCostUsd

instance (ceilings : TaskCeilings) (actor : HarnessActor) (turns : List ProviderTurn) :
    Decidable (WithinShare ceilings actor turns) :=
  decidable_of_iff (_ ∧ _ ∧ _)
    ⟨fun h => ⟨h.1, h.2.1, h.2.2⟩, fun h => ⟨h.output, h.input, h.cost⟩⟩

/-- Before every round of the actor, fewer rounds than calls have been taken; and the part of a
call is at least one token. -/
structure Paced (plan : CompositeRunPlan) (ceilings : TaskCeilings) (actor : HarnessActor)
    (turns : List ProviderTurn) : Prop where
  rounds : ∀ before turn after, turns = before ++ turn :: after → turn.actorId = actor.actorId →
    (turnsOf before actor.actorId).length < scheduledCalls plan actor.actorId
  output : 10000 * scheduledCalls plan actor.actorId ≤
    ceilings.maxOutputTokens * actor.budgetShareBps
  input : 10000 * scheduledCalls plan actor.actorId ≤
    ceilings.maxInputTokens * actor.budgetShareBps

/-- A known cost that is reported is at most the known cost that its reservation holds. -/
def ProviderTurn.CostWithin (turn : ProviderTurn) : Prop :=
  ∀ f ∈ finalised turn.entries, f.totals.knownCostUsd ≤ f.reservation.knownCost

/-- The metrics an actor has a share of. -/
def sharedMetrics : List String := ["input_tokens", "output_tokens", "known_cost_usd"]

/-- The metric for which a call failed with a `BudgetExhaustedError`. -/
def AggregateBudgetLedger.Entry.exhausted? (e : Entry) : Option String :=
  match e.result with
  | .error (.exhausted metric _ _) => some metric
  | _ => none

/-- The reservation failed with a `BudgetExhaustedError` on the metric. -/
def ProviderTurn.ExhaustedOn (turn : ProviderTurn) (metric : String) : Prop :=
  turn.entries.head?.bind Entry.exhausted? = some metric

instance (turn : ProviderTurn) (metric : String) : Decidable (turn.ExhaustedOn metric) :=
  inferInstanceAs (Decidable (_ = _))

/-- The calls that the tools make on the ledger. -/
def IsToolCall : Call → Prop
  | .reserveToolCall _ _ => True
  | .completeToolCall _ _ _ _ => True
  | .cancelReservation _ r => r.kind = .tool
  | .snapshot _ => True
  | _ => False

/-- An action that makes only tool calls on the ledger. -/
def MakesToolCalls (action : AggregateBudgetLedger × ρ → α × AggregateBudgetLedger × ρ) : Prop :=
  ∀ L outside, ∃ calls, (∀ call ∈ calls, IsToolCall call) ∧
    (action (L, outside)).2.1 = L.after calls

/-- Tools that make only tool calls on the ledger, as the repair tools do. -/
structure ToolCallsOnly (tools : ToolInterface (AggregateBudgetLedger × ρ)) : Prop where
  invoke : ∀ callId toolId arguments requestId,
    MakesToolCalls (tools.invoke callId toolId arguments requestId)
  workspaceDiff : ∀ maxPatchBytes, MakesToolCalls (tools.workspaceDiff maxPatchBytes)
  sourceSnapshotUnchanged : MakesToolCalls tools.sourceSnapshotUnchanged
  immutableBaseUnchanged : MakesToolCalls tools.immutableBaseUnchanged
  runPublicVerification : ∀ callId, MakesToolCalls (tools.runPublicVerification callId)
  currentWorkspaceDigest : MakesToolCalls tools.currentWorkspaceDigest
  receipts : MakesToolCalls tools.receipts

end Agintor.Kernel
