import Agintor.Kernel.LedgerHistory

/-!
# Controlled provider calls

`CompositeProviderController.call` of `runtime/kernel/composite_provider.py`: one call of a
provider against the aggregate ledger. The provider runs in a thread of its own and may answer
at any time or never, so what it does, the readings of the clocks and the caller's cancellation
are an argument.
-/

namespace Agintor.Kernel

open Agintor.Contracts Lib AggregateBudgetLedger

/-! ## Records -/

inductive ProviderCallStatus
  | succeeded | failed | rejected | cancelled | deadlineExceeded
deriving DecidableEq

def ProviderCallStatus.isFailure : ProviderCallStatus → Bool
  | .succeeded => false
  | _ => true

inductive ProviderFailureKind
  | budgetExhausted | preSendFailure | postSendFailure | deadlineExceeded | cancelled
  | invalidResult | accountingInvalid
deriving DecidableEq

structure ProviderInvocation (Response : Type) where
  response : Response
  usage : ProviderUsageReport

structure ProviderFailure where
  kind : ProviderFailureKind
  requestSent : Bool
  usageStatus : Option UsageStatus
  costStatus : Option CostStatus
  ambiguousPostSend : Bool
  accountingHealthy : Bool
  budgetMetric : Option String
  errorType : Option String
  providerErrorType : Option String
  providerErrorCode : Option String
  providerHttpStatus : Option ℤ
  providerRequestId : Option String
  http_status : ∀ s ∈ providerHttpStatus, 100 ≤ s ∧ s ≤ 599

/-- What a call returns; the checks of `validate_result_shape` are a field. -/
structure ProviderCallResult (Response : Type) where
  status : ProviderCallStatus
  reservationId : Option String
  timeoutMs : ℤ
  invocation : Option (ProviderInvocation Response)
  failure : Option ProviderFailure
  ledger : AggregateBudgetSnapshot
  promotionEligible : Bool
  shape : if status.isFailure then failure.isSome ∧ promotionEligible = false
    else invocation.isSome ∧ failure = none ∧ (promotionEligible → ledger.promotionEligible)

/-- The provider's own account of a failure. -/
structure ProviderInvocationError where
  requestSent : Bool
  usage : Option ProviderUsageReport
  cancelled : Bool
  deadlineExceeded : Bool
  providerErrorType : Option String
  providerErrorCode : Option String
  providerHttpStatus : Option ℤ
  providerRequestId : Option String
  unsent : requestSent = false → usage = none
  exclusive : ¬(cancelled ∧ deadlineExceeded)

/-- What leaves a call as an exception. -/
inductive CallError
  | ledger (e : BudgetError)
  | invalidFailure
  | cancelEscaped
  | waiting
deriving DecidableEq

/-! ## What happens around a call -/

variable {Response : Type}

/-- What the worker thread puts in the queue; a payload comes with the outcome of its validation,
an exception with the name of its type. -/
inductive Answer (Response : Type)
  | returned (validated : Except String (ProviderInvocation Response))
  | invocationError (errorType : String) (error : ProviderInvocationError)
  | otherError (errorType : String)

/-- One turn of the loop that waits: `answer` is what the queue gives within the turn's wait. -/
structure Turn (Response : Type) where
  cancelled : Bool
  lag : ℚ
  answer : Option (Answer Response)
  lag_nonneg : 0 ≤ lag

/-- The provider's `cancel`, when it has one; only an `Exception` is caught. -/
inductive CancelHook
  | quiet | raises | escapes
deriving DecidableEq

/-- The clock of the ledger is read three times, the clock of the wait at the start, in every turn
and once after. -/
structure Behaviour (Response : Type) where
  cancelledBefore : Bool
  reserveClock : ℚ
  timeoutClock : ℚ
  settleClock : ℚ
  startedAt : ℚ
  turns : ℕ → Turn Response
  cancelHook : CancelHook
  lag : ℚ
  lag_nonneg : 0 ≤ lag

/-- How the wait ends. -/
inductive Ending (Response : Type)
  | cancelled
  | deadlineExceeded
  | answered (answer : Answer Response)

/-- The `while True` loop from turn `k` and reading `now` on, with the last reading. The queue is
waited for at most a hundredth of a second, or until the deadline. -/
def waitLoop (deadline : ℚ) (turns : ℕ → Turn Response) :
    (fuel k : ℕ) → (now : ℚ) → Option (Ending Response × ℚ)
  | 0, _, _ => none
  | fuel + 1, k, now =>
    if (turns k).cancelled then some (.cancelled, now)
    else
      let now := now + (turns k).lag
      let remaining := deadline - now
      if remaining ≤ 0 then some (.deadlineExceeded, now)
      else
        match (turns k).answer with
        | some answer => some (.answered answer, now)
        | none => waitLoop deadline turns fuel (k + 1) (now + min remaining (1 / 100))

/-- How the wait of a call ends. -/
def Behaviour.ending (b : Behaviour Response) (timeoutMs : ℤ) : Option (Ending Response × ℚ) :=
  waitLoop (b.startedAt + timeoutMs / 1000) b.turns (timeoutMs.toNat / 10 + 2) 0 b.startedAt

/-! ## The ledger during a call -/

/-- The ledger with the calls that were made on it. -/
structure LedgerLog where
  ledger : AggregateBudgetLedger
  entries : List Entry

/-- A call on the ledger, which is logged with its result. -/
def logged {α : Type} (call : Call) (wrap : α → Outcome) (operation : Operation α) :
    Stateful LedgerLog CallError α := fun W =>
  let (result, L) := operation W.ledger
  (result.mapError .ledger, ⟨L, W.entries ++ [⟨call, wrap <$> result⟩]⟩)

namespace CompositeProviderController

def takeSnapshot (clock : ℚ) : Stateful LedgerLog CallError AggregateBudgetSnapshot :=
  logged (.snapshot clock) .taken (Operation.takeSnapshot clock)

def reserveProviderCall (clock : ℚ) (args : ProviderCallArgs) :
    Stateful LedgerLog CallError BudgetReservation :=
  logged (.reserveProviderCall clock args) .reserved (Operation.reserveProviderCall clock args)

/-- `except BudgetExhaustedError` -/
def tryReserve (clock : ℚ) (args : ProviderCallArgs) :
    Stateful LedgerLog CallError (Except String BudgetReservation) := fun W =>
  match reserveProviderCall clock args W with
  | (.ok r, W) => (.ok (.ok r), W)
  | (.error (.ledger (.exhausted metric _ _)), W) => (.ok (.error metric), W)
  | (.error e, W) => (.error e, W)

def cancelReservation (clock : ℚ) (r : BudgetReservation) :
    Stateful LedgerLog CallError AggregateBudgetSnapshot :=
  logged (.cancelReservation clock r) .taken (Operation.cancelReservation clock r)

def completeProviderCall (clock : ℚ) (r : BudgetReservation) (usage : ProviderUsageReport)
    (latencyMs : ℚ) : Stateful LedgerLog CallError AggregateBudgetSnapshot :=
  logged (.completeProviderCall clock r usage latencyMs true) .taken
    (Operation.completeProviderCall clock r usage latencyMs true)

def completeProviderFailure (clock : ℚ) (r : BudgetReservation) (requestSent : Bool)
    (usage : Option ProviderUsageReport) (latencyMs : ℚ) :
    Stateful LedgerLog CallError AggregateBudgetSnapshot :=
  logged (.completeProviderFailure clock r requestSent usage latencyMs) .taken
    (Operation.completeProviderFailure clock r requestSent usage latencyMs)

/-! ## Results -/

/-- The optional arguments of `_failure`. -/
structure FailureDetails where
  ambiguousPostSend : Bool := false
  budgetMetric : Option String := none
  errorType : Option String := none
  providerErrorType : Option String := none
  providerErrorCode : Option String := none
  providerHttpStatus : Option ℤ := none
  providerRequestId : Option String := none

/-- `_failure` -/
def failure (kind : ProviderFailureKind) (requestSent : Bool) (usage : Option ProviderUsageReport)
    (snapshot : AggregateBudgetSnapshot) (details : FailureDetails) :
    Except CallError ProviderFailure :=
  if h : ∀ s ∈ details.providerHttpStatus, 100 ≤ s ∧ s ≤ 599 then
    .ok {
      kind := kind
      requestSent := requestSent
      usageStatus := usage.map (·.usageStatus)
      costStatus := usage.map (·.costStatus)
      ambiguousPostSend := details.ambiguousPostSend
      accountingHealthy := snapshot.healthy
      budgetMetric := details.budgetMetric
      errorType := details.errorType
      providerErrorType := details.providerErrorType
      providerErrorCode := details.providerErrorCode
      providerHttpStatus := details.providerHttpStatus
      providerRequestId := details.providerRequestId
      http_status := h }
  else .error .invalidFailure

/-- A result that is not a success. -/
def failed (status : ProviderCallStatus) (hstatus : status.isFailure = true)
    (reservationId : Option String) (timeoutMs : ℤ)
    (invocation : Option (ProviderInvocation Response))
    (failure : ProviderFailure) (snapshot : AggregateBudgetSnapshot) :
    ProviderCallResult Response where
  status := status
  reservationId := reservationId
  timeoutMs := timeoutMs
  invocation := invocation
  failure := some failure
  ledger := snapshot
  promotionEligible := false
  shape := by
    rw [if_pos hstatus]
    exact ⟨rfl, rfl⟩

def succeeded (r : BudgetReservation) (timeoutMs : ℤ) (invocation : ProviderInvocation Response)
    (snapshot : AggregateBudgetSnapshot) : ProviderCallResult Response where
  status := .succeeded
  reservationId := some r.reservationId
  timeoutMs := timeoutMs
  invocation := some invocation
  failure := none
  ledger := snapshot
  promotionEligible := snapshot.promotionEligible
  shape := ⟨rfl, rfl, id⟩

/-! ## The call -/

/-- `_request_cancellation`: the event is set, and what the provider's own hook raises is
swallowed, as far as it is an `Exception`. -/
def requestCancellation (hook : CancelHook) : Stateful LedgerLog CallError Unit :=
  match hook with
  | .quiet => pure ()
  | .raises => pure ()
  | .escapes => Stateful.raise .cancelEscaped

/-- The exits that may have sent the request and know nothing of its use. -/
def failUnknown (b : Behaviour Response) (r : BudgetReservation) (timeoutMs : ℤ) (latencyMs : ℚ)
    (status : ProviderCallStatus) (hstatus : status.isFailure = true) (kind : ProviderFailureKind)
    (errorType : Option String) : Stateful LedgerLog CallError (ProviderCallResult Response) := do
  let snapshot ← completeProviderFailure b.settleClock r true none latencyMs
  let f ← Stateful.check (failure kind true (some .unknown) snapshot
    { ambiguousPostSend := true, errorType := errorType })
  return failed status hstatus (some r.reservationId) timeoutMs none f snapshot

end CompositeProviderController

namespace ProviderInvocationError

def status (error : ProviderInvocationError) : ProviderCallStatus :=
  if error.cancelled then .cancelled
  else if error.deadlineExceeded then .deadlineExceeded
  else .failed

lemma isFailure_status (error : ProviderInvocationError) : error.status.isFailure = true := by
  unfold status
  split
  · rfl
  · split <;> rfl

def kind (error : ProviderInvocationError) : ProviderFailureKind :=
  if error.cancelled then .cancelled
  else if error.deadlineExceeded then .deadlineExceeded
  else if error.requestSent then .postSendFailure
  else .preSendFailure

def ambiguous (error : ProviderInvocationError) : Bool :=
  error.requestSent && error.usage.all fun usage =>
    usage.usageStatus = .unknown ∨ usage.costStatus = .unknown

def effectiveUsage (error : ProviderInvocationError) : Option ProviderUsageReport :=
  error.usage <|> if error.requestSent then some .unknown else none

end ProviderInvocationError

namespace CompositeProviderController

/-- From the end of the wait on. -/
def settle (b : Behaviour Response) (r : BudgetReservation) (timeoutMs : ℤ)
    (ending : Ending Response) (latencyMs : ℚ) :
    Stateful LedgerLog CallError (ProviderCallResult Response) :=
  match ending with
  | .cancelled => do
    requestCancellation b.cancelHook
    failUnknown b r timeoutMs latencyMs .cancelled rfl .cancelled none
  | .deadlineExceeded => do
    requestCancellation b.cancelHook
    failUnknown b r timeoutMs latencyMs .deadlineExceeded rfl .deadlineExceeded none
  | .answered (.returned (.error errorType)) =>
    failUnknown b r timeoutMs latencyMs .failed rfl .invalidResult (some errorType)
  | .answered (.returned (.ok invocation)) => do
    let snapshot ← completeProviderCall b.settleClock r invocation.usage latencyMs
    if snapshot.healthy && !snapshot.deadlineExceeded then
      return succeeded r timeoutMs invocation snapshot
    let f ← Stateful.check (failure .accountingInvalid true (some invocation.usage) snapshot {})
    return failed .failed rfl (some r.reservationId) timeoutMs (some invocation) f snapshot
  | .answered (.invocationError errorType error) => do
    let snapshot ← completeProviderFailure b.settleClock r error.requestSent error.usage latencyMs
    let f ← Stateful.check (failure error.kind error.requestSent error.effectiveUsage snapshot
      { ambiguousPostSend := error.ambiguous
        errorType := some errorType
        providerErrorType := error.providerErrorType
        providerErrorCode := error.providerErrorCode
        providerHttpStatus := error.providerHttpStatus
        providerRequestId := error.providerRequestId })
    return failed error.status error.isFailure_status (some r.reservationId) timeoutMs none f
      snapshot
  | .answered (.otherError errorType) =>
    failUnknown b r timeoutMs latencyMs .failed rfl .postSendFailure (some errorType)

/-- From the start of the worker thread on. The last case is not reached: `ending_isSome`. -/
def dispatch (b : Behaviour Response) (r : BudgetReservation) (timeoutMs : ℤ) :
    Stateful LedgerLog CallError (ProviderCallResult Response) :=
  match b.ending timeoutMs with
  | some (ending, now) =>
    settle b r timeoutMs ending ((now + b.lag - b.startedAt) * 1000)
  | none => Stateful.raise .waiting

/-- `CompositeProviderController.call` -/
def call (b : Behaviour Response) (args : ProviderCallArgs) :
    Stateful LedgerLog CallError (ProviderCallResult Response) := do
  if b.cancelledBefore then
    let snapshot ← takeSnapshot b.settleClock
    let f ← Stateful.check (failure .cancelled false none snapshot {})
    return failed .cancelled rfl none 0 none f snapshot
  match ← tryReserve b.reserveClock args with
  | .error metric =>
    let snapshot ← takeSnapshot b.settleClock
    let f ← Stateful.check
      (failure .budgetExhausted false none snapshot { budgetMetric := some metric })
    return failed .rejected rfl none 0 none f snapshot
  | .ok r =>
    let W ← Stateful.get
    let timeoutMs := W.ledger.providerTimeoutMs b.timeoutClock
    if timeoutMs ≤ 0 then
      let snapshot ← cancelReservation b.settleClock r
      let f ← Stateful.check (failure .deadlineExceeded false none snapshot {})
      return failed .deadlineExceeded rfl (some r.reservationId) 0 none f snapshot
    dispatch b r timeoutMs

end CompositeProviderController
end Agintor.Kernel
