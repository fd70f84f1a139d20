import Agintor.Kernel.LedgerOperations

/-!
# The history of a ledger

Every call on a ledger with what it gave back. Reservations are issued and finalised; what each
finalisation commits is added up without looking at the ledger, and the ledger's own totals are
that sum after every call.
-/

namespace Agintor.Kernel

open Agintor.Contracts Lib

/-! ## Calls and what they give back -/

namespace AggregateBudgetLedger

/-- What a call that did not raise gives back. -/
inductive Outcome
  | reserved (reservation : BudgetReservation)
  | taken (snapshot : AggregateBudgetSnapshot)

/-- A call, as the source performs it. -/
def operate : Call → Operation Outcome
  | .reserveProviderCall clock args => Outcome.reserved <$> Operation.reserveProviderCall clock args
  | .reserveToolCall clock maxOutputBytes =>
    Outcome.reserved <$> Operation.reserveToolCall clock maxOutputBytes
  | .cancelReservation clock r => Outcome.taken <$> Operation.cancelReservation clock r
  | .completeProviderCall clock r usage latencyMs requestSent =>
    Outcome.taken <$> Operation.completeProviderCall clock r usage latencyMs requestSent
  | .completeProviderFailure clock r requestSent usage latencyMs =>
    Outcome.taken <$> Operation.completeProviderFailure clock r requestSent usage latencyMs
  | .completeToolCall clock r outputBytes latencyMs =>
    Outcome.taken <$> Operation.completeToolCall clock r outputBytes latencyMs
  | .snapshot clock => Outcome.taken <$> Operation.takeSnapshot clock

structure Entry where
  call : Call
  result : Except BudgetError Outcome

/-- The calls with their results, from a ledger on. -/
def history (L : AggregateBudgetLedger) : List Call → List Entry
  | [] => []
  | call :: calls => ⟨call, (operate call L).1⟩ :: history (operate call L).2 calls

/-- The ledger after the calls. -/
def after (L : AggregateBudgetLedger) : List Call → AggregateBudgetLedger
  | [] => L
  | call :: calls => after (operate call L).2 calls

/-! ## Issued and finalised reservations -/

/-- How a reservation ended. -/
inductive Finalisation
  | cancelled (reservation : BudgetReservation)
  | providerCall (reservation : BudgetReservation) (usage : ProviderUsageReport) (latencyMs : ℚ)
      (requestSent : Bool)
  | toolCall (reservation : BudgetReservation) (outputBytes : ℤ) (latencyMs : ℚ)

def Finalisation.reservation : Finalisation → BudgetReservation
  | cancelled r => r
  | providerCall r _ _ _ => r
  | toolCall r _ _ => r

/-- A completion is of the kind its reservation was made for. -/
def Finalisation.MatchesKind : Finalisation → Prop
  | cancelled _ => True
  | providerCall r _ _ _ => r.kind = .provider
  | toolCall r _ _ => r.kind = .tool

def Entry.issued? (e : Entry) : Option BudgetReservation :=
  match e.result with
  | .ok (.reserved r) => some r
  | _ => none

/-- A failure that was never sent reports nothing. -/
def Entry.finalised? (e : Entry) : Option Finalisation :=
  match e.call, e.result with
  | .cancelReservation _ r, .ok _ => some (.cancelled r)
  | .completeProviderCall _ r usage latencyMs requestSent, .ok _ =>
    some (.providerCall r usage latencyMs requestSent)
  | .completeProviderFailure _ r requestSent usage latencyMs, .ok _ =>
    some (.providerCall r (if requestSent then usage.getD .unknown else .unknown) latencyMs
      requestSent)
  | .completeToolCall _ r outputBytes latencyMs, .ok _ => some (.toolCall r outputBytes latencyMs)
  | _, _ => none

def issued (entries : List Entry) : List BudgetReservation := entries.filterMap Entry.issued?

def finalised (entries : List Entry) : List Finalisation := entries.filterMap Entry.finalised?

/-- The kind of call that makes a reservation. -/
def Entry.reservesKind? (e : Entry) : Option ReservationKind :=
  match e.call with
  | .reserveProviderCall _ _ => some .provider
  | .reserveToolCall _ _ => some .tool
  | _ => none

end AggregateBudgetLedger

/-! ## Sums -/

/-- Field by field. -/
def Totals.plus (t u : Totals) : Totals where
  modelCalls := t.modelCalls + u.modelCalls
  inputTokens := t.inputTokens + u.inputTokens
  outputTokens := t.outputTokens + u.outputTokens
  cachedTokens := t.cachedTokens + u.cachedTokens
  cacheWriteTokens := t.cacheWriteTokens + u.cacheWriteTokens
  knownCostUsd := t.knownCostUsd + u.knownCostUsd
  estimatedCostUsd := t.estimatedCostUsd + u.estimatedCostUsd
  unknownCostEvents := t.unknownCostEvents + u.unknownCostEvents
  unknownUsageEvents := t.unknownUsageEvents + u.unknownUsageEvents
  toolCalls := t.toolCalls + u.toolCalls
  toolOutputBytes := t.toolOutputBytes + u.toolOutputBytes
  retries := t.retries + u.retries
  latencyMs := t.latencyMs + u.latencyMs

/-- What a report of a request that was sent adds. -/
def ProviderUsageReport.totals (usage : ProviderUsageReport) : Totals where
  modelCalls := 1
  inputTokens := usage.inputTokens.getD 0
  outputTokens := usage.outputTokens.getD 0
  cachedTokens := usage.cachedTokens.getD 0
  cacheWriteTokens := usage.cacheWriteTokens.getD 0
  knownCostUsd := if usage.costStatus = .known then usage.costUsd.getD 0 else 0
  estimatedCostUsd := if usage.costStatus = .estimated then usage.costUsd.getD 0 else 0
  unknownCostEvents := if usage.costStatus = .unknown then 1 else 0
  unknownUsageEvents := if usage.usageStatus = .unknown then 1 else 0

namespace AggregateBudgetLedger

/-- What a finalisation adds to the totals. -/
def Finalisation.totals : Finalisation → Totals
  | cancelled _ => {}
  | providerCall r usage latencyMs requestSent =>
    Totals.plus { retries := r.retries, latencyMs := latencyMs }
      (if requestSent then usage.totals else {})
  | toolCall _ outputBytes latencyMs =>
    { toolCalls := 1, toolOutputBytes := outputBytes.toNat, latencyMs := latencyMs }

/-- The totals that a list of finalisations comes to. -/
def reference (finalisations : List Finalisation) : Totals :=
  finalisations.foldl (fun t f => t.plus f.totals) {}

/-! ## What one call can do -/

/-- A provider call that is reserved has passed the capacity checks on money. -/
structure Affords (L : AggregateBudgetLedger) (args : ProviderCallArgs) : Prop where
  cost_nonneg : 0 ≤ args.estimatedCostUsd
  status : args.expectedCostStatus ≠ .unknown
  estimated : requireCapacity "estimated_cost_usd" (L.totals.knownCostUsd + L.totals.estimatedCostUsd)
    (L.reservations.values.map (·.estimatedCostUsd)).sum args.estimatedCostUsd
    L.ceilings.maxEstimatedCostUsd = .ok ()
  known : args.expectedCostStatus = .known → requireCapacity "known_cost_usd" L.totals.knownCostUsd
    ((L.reservations.values.filter (·.expectedCostStatus = some .known)).map
      (·.estimatedCostUsd)).sum
    args.estimatedCostUsd L.ceilings.maxKnownCostUsd = .ok ()

/-- What a finalisation does to the ledger once its reservation is out. -/
def Finalisation.settle : Finalisation → AggregateBudgetLedger → AggregateBudgetLedger
  | cancelled _, L => L
  | providerCall r usage latencyMs requestSent, L =>
    L.settleProviderCall usage latencyMs requestSent r
  | toolCall r outputBytes latencyMs, L => L.settleToolCall outputBytes latencyMs r

/-- A stored reservation is taken out and settled. -/
def finalise (L : AggregateBudgetLedger) (f : Finalisation) : AggregateBudgetLedger :=
  f.settle (L.dropReservation f.reservation.reservationId)

/-- The reservation a call makes. -/
inductive Makes (L : AggregateBudgetLedger) : Call → BudgetReservation → Prop
  | provider (clock : ℚ) (args : ProviderCallArgs) (haffords : L.Affords args) :
      Makes L (.reserveProviderCall clock args) (L.providerReservation args)
  | tool (clock : ℚ) (maxOutputBytes : ℤ) :
      Makes L (.reserveToolCall clock maxOutputBytes) (L.toolReservation maxOutputBytes)

/-- The effect of a call with its result. -/
inductive Happened (L : AggregateBudgetLedger) : Entry → AggregateBudgetLedger → Prop
  | raised (call : Call) (e : BudgetError) : Happened L ⟨call, .error e⟩ L
  | issued (call : Call) (r : BudgetReservation) (hmakes : Makes L call r) :
      Happened L ⟨call, .ok (.reserved r)⟩ (L.addReservation r)
  | finalised (call : Call) (f : Finalisation) (clock : ℚ)
      (hcall : Entry.finalised? ⟨call, .ok (.taken ((L.finalise f).snapshot clock))⟩ = some f)
      (hstored : L.reservations.get? f.reservation.reservationId = some f.reservation)
      (hkind : f.MatchesKind) :
      Happened L ⟨call, .ok (.taken ((L.finalise f).snapshot clock))⟩ (L.finalise f)
  | looked (clock : ℚ) : Happened L ⟨.snapshot clock, .ok (.taken (L.snapshot clock))⟩ L

end AggregateBudgetLedger
end Agintor.Kernel
