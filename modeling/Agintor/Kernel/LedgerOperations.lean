import Agintor.Kernel.CompositeBudgetTheorems
import Agintor.Lib.Stateful

/-!
# The operations of the ledger, statement by statement

The operations of `AggregateBudgetLedger` as the source performs them under the lock: what one
statement did to the ledger stays done when a later statement raises. Each of them makes all its
checks before its first change, so that it is the atomic transition of `CompositeBudget`.
-/

namespace Agintor.Kernel

open Agintor.Contracts Lib

namespace AggregateBudgetLedger

/-- A part of an operation: it may change the ledger and may raise. -/
abbrev Operation (α : Type) : Type := Stateful AggregateBudgetLedger BudgetError α

/-! ## Settling

What completing a call does to the ledger once its reservation is out. -/

def settleProviderCall (L : AggregateBudgetLedger) (usage : ProviderUsageReport) (latencyMs : ℚ)
    (requestSent : Bool) (stored : BudgetReservation) : AggregateBudgetLedger :=
  let L := { L with totals := { L.totals.add stored.retries .retries with
    latencyMs := L.totals.latencyMs + latencyMs } }
  if requestSent = false then L
  else
    let L := { L with totals := L.totals.add 1 .modelCalls }
    let L := tokenMetrics.foldl (commitObserved usage stored) L
    let L := { L with totals := commitCost usage L.totals }
    let L := L.addViolationIf (∃ cost ∈ usage.costUsd, cost > stored.estimatedCostUsd + tolerance)
      .costReservationExceeded
    L.recordCeilingViolations

def settleToolCall (L : AggregateBudgetLedger) (outputBytes : ℤ) (latencyMs : ℚ)
    (stored : BudgetReservation) : AggregateBudgetLedger :=
  let totals := (L.totals.add 1 .toolCalls).add outputBytes.toNat .toolOutputBytes
  let L := { L with totals := { totals with latencyMs := totals.latencyMs + latencyMs } }
  let L := L.addViolationIf (outputBytes > stored.toolOutputBytes)
    (.reservationExceeded .toolOutputBytes)
  L.recordCeilingViolations

theorem completeProviderCall_eq (L : AggregateBudgetLedger) (clock : ℚ)
    (reservation : BudgetReservation) (usage : ProviderUsageReport) (latencyMs : ℚ)
    (requestSent : Bool) :
    L.completeProviderCall clock reservation usage latencyMs requestSent = (do
      requireNonnegative "latency_ms" latencyMs
      raiseIf (requestSent = false ∧ (usage.usageStatus ≠ .unknown ∨ usage.costStatus ≠ .unknown))
        .preSendUsage
      let r ← L.popReservation reservation .provider
      .ok ((r.2.settleProviderCall usage latencyMs requestSent r.1).snapshot clock,
        r.2.settleProviderCall usage latencyMs requestSent r.1)) := by
  unfold completeProviderCall settleProviderCall
  by_cases hsent : requestSent = false
  · simp only [if_pos hsent]
    rfl
  · simp only [if_neg hsent]
    rfl

theorem completeToolCall_eq (L : AggregateBudgetLedger) (clock : ℚ)
    (reservation : BudgetReservation) (outputBytes : ℤ) (latencyMs : ℚ) :
    L.completeToolCall clock reservation outputBytes latencyMs = (do
      requireNonnegative "output_bytes" outputBytes
      requireNonnegative "latency_ms" latencyMs
      let r ← L.popReservation reservation .tool
      .ok ((r.2.settleToolCall outputBytes latencyMs r.1).snapshot clock,
        r.2.settleToolCall outputBytes latencyMs r.1)) := rfl

namespace Operation

/-! ## Reserving -/

/-- `_next_reservation_id_unlocked` -/
def nextReservationId (kind : ReservationKind) : Operation String := do
  Stateful.modify fun L => { L with sequence := L.sequence + 1 }
  let L ← Stateful.get
  return "budget." ++ kind.value ++ "." ++ zeroPad 6 L.sequence

/-- The checks on the ledger's own state, which both reserve calls make first. -/
def requireOpen (clock : ℚ) (unknownMetric : String) : Operation Unit := do
  let L ← Stateful.get
  Stateful.check (L.requireTime clock)
  Stateful.check (raiseIf (L.totals.unknownCostEvents ≠ 0 ∨ L.totals.unknownUsageEvents ≠ 0)
    (.exhausted unknownMetric 1 0))
  Stateful.check (raiseIf (L.violations ≠ []) (.exhausted "ledger_accounting_invalid" 1 0))

/-- The loop over the counted checks. -/
def requireAll (checks : List (CountedMetric × ℕ)) : Operation Unit :=
  checks.forM fun check => do
    let L ← Stateful.get
    Stateful.check (L.requireCounted check)

/-- The capacity checks on money. -/
def requireCost (args : ProviderCallArgs) : Operation Unit := do
  let L ← Stateful.get
  Stateful.check (requireCapacity "estimated_cost_usd"
    (L.totals.knownCostUsd + L.totals.estimatedCostUsd)
    (L.reservations.values.map (·.estimatedCostUsd)).sum args.estimatedCostUsd
    L.ceilings.maxEstimatedCostUsd)
  if args.expectedCostStatus = .known then
    Stateful.check (requireCapacity "known_cost_usd" L.totals.knownCostUsd
      ((L.reservations.values.filter (·.expectedCostStatus = some .known)).map
        (·.estimatedCostUsd)).sum
      args.estimatedCostUsd L.ceilings.maxKnownCostUsd)

/-- `self._reservations[reservation.reservation_id] = reservation` -/
def store (r : BudgetReservation) : Operation Unit :=
  Stateful.modify fun L => { L with reservations := L.reservations.set r.reservationId r }

def reserveProviderCall (clock : ℚ) (args : ProviderCallArgs) : Operation BudgetReservation := do
  Stateful.check (requireNonnegative "input_tokens" args.inputTokens)
  Stateful.check (requireNonnegative "max_output_tokens" args.maxOutputTokens)
  Stateful.check (requireNonnegative "max_cached_tokens" args.maxCachedTokens)
  Stateful.check (requireNonnegative "max_cache_write_tokens" args.maxCacheWriteTokens)
  Stateful.check (requireNonnegative "estimated_cost_usd" args.estimatedCostUsd)
  Stateful.check (raiseIf (args.inputTokens < args.maxCachedTokens ∨
    args.inputTokens < args.maxCacheWriteTokens) .cacheReservation)
  Stateful.check (raiseIf (args.expectedCostStatus = .unknown) .unboundedCost)
  requireOpen clock "provider_accounting_unknown"
  requireAll [(.modelCalls, 1), (.inputTokens, args.inputTokens.toNat),
    (.outputTokens, args.maxOutputTokens.toNat), (.cachedTokens, args.maxCachedTokens.toNat),
    (.cacheWriteTokens, args.maxCacheWriteTokens.toNat), (.retries, args.isRetry.toNat)]
  requireCost args
  let reservationId ← nextReservationId .provider
  let reservation : BudgetReservation :=
    { reservationId := reservationId
      kind := .provider
      modelCalls := 1
      inputTokens := args.inputTokens.toNat
      outputTokens := args.maxOutputTokens.toNat
      cachedTokens := args.maxCachedTokens.toNat
      cacheWriteTokens := args.maxCacheWriteTokens.toNat
      estimatedCostUsd := args.estimatedCostUsd
      expectedCostStatus := some args.expectedCostStatus
      retries := args.isRetry.toNat }
  store reservation
  return reservation

def reserveToolCall (clock : ℚ) (maxOutputBytes : ℤ) : Operation BudgetReservation := do
  Stateful.check (requireNonnegative "max_output_bytes" maxOutputBytes)
  requireOpen clock "ledger_accounting_unknown"
  requireAll [(.toolCalls, 1), (.toolOutputBytes, maxOutputBytes.toNat)]
  let reservationId ← nextReservationId .tool
  let reservation : BudgetReservation :=
    { reservationId := reservationId
      kind := .tool
      toolCalls := 1
      toolOutputBytes := maxOutputBytes.toNat }
  store reservation
  return reservation

/-! ## Finalising -/

/-- `_pop_reservation_unlocked` -/
def popReservation (reservation : BudgetReservation) (expectedKind : ReservationKind) :
    Operation BudgetReservation := do
  let L ← Stateful.get
  match L.reservations.get? reservation.reservationId with
  | none => Stateful.raise (.unknownReservation reservation.reservationId)
  | some stored => do
    Stateful.check (raiseIf (stored ≠ reservation ∨ stored.kind ≠ expectedKind)
      (.reservationMismatch reservation.reservationId))
    Stateful.modify fun L =>
      { L with reservations := L.reservations.erase reservation.reservationId }
    return stored

/-- `_snapshot_unlocked` -/
def takeSnapshot (clock : ℚ) : Operation AggregateBudgetSnapshot := do
  let L ← Stateful.get
  return L.snapshot clock

def cancelReservation (clock : ℚ) (reservation : BudgetReservation) :
    Operation AggregateBudgetSnapshot := do
  let _ ← popReservation reservation reservation.kind
  takeSnapshot clock

/-- One turn of the loop over `observed_tokens`. -/
def commitTokens (usage : ProviderUsageReport) (stored : BudgetReservation) (m : CountedMetric) :
    Operation Unit :=
  Stateful.modify fun L => commitObserved usage stored L m

def completeProviderCall (clock : ℚ) (reservation : BudgetReservation)
    (usage : ProviderUsageReport) (latencyMs : ℚ) (requestSent : Bool) :
    Operation AggregateBudgetSnapshot := do
  Stateful.check (requireNonnegative "latency_ms" latencyMs)
  Stateful.check (raiseIf (requestSent = false ∧
    (usage.usageStatus ≠ .unknown ∨ usage.costStatus ≠ .unknown)) .preSendUsage)
  let stored ← popReservation reservation .provider
  Stateful.modify fun L => { L with totals := L.totals.add stored.retries .retries }
  Stateful.modify fun L =>
    { L with totals := { L.totals with latencyMs := L.totals.latencyMs + latencyMs } }
  if requestSent = false then
    takeSnapshot clock
  else do
    Stateful.modify fun L => { L with totals := L.totals.add 1 .modelCalls }
    tokenMetrics.forM (commitTokens usage stored)
    Stateful.modify fun L => { L with totals := commitCost usage L.totals }
    Stateful.modify fun L => L.addViolationIf
      (∃ cost ∈ usage.costUsd, cost > stored.estimatedCostUsd + tolerance) .costReservationExceeded
    Stateful.modify recordCeilingViolations
    takeSnapshot clock

def completeProviderFailure (clock : ℚ) (reservation : BudgetReservation) (requestSent : Bool)
    (usage : Option ProviderUsageReport) (latencyMs : ℚ) : Operation AggregateBudgetSnapshot :=
  if requestSent then
    completeProviderCall clock reservation (usage.getD .unknown) latencyMs true
  else
    completeProviderCall clock reservation .unknown latencyMs false

def completeToolCall (clock : ℚ) (reservation : BudgetReservation) (outputBytes : ℤ)
    (latencyMs : ℚ) : Operation AggregateBudgetSnapshot := do
  Stateful.check (requireNonnegative "output_bytes" outputBytes)
  Stateful.check (requireNonnegative "latency_ms" latencyMs)
  let stored ← popReservation reservation .tool
  Stateful.modify fun L => { L with totals := L.totals.add 1 .toolCalls }
  Stateful.modify fun L => { L with totals := L.totals.add outputBytes.toNat .toolOutputBytes }
  Stateful.modify fun L =>
    { L with totals := { L.totals with latencyMs := L.totals.latencyMs + latencyMs } }
  Stateful.modify fun L => L.addViolationIf (outputBytes > stored.toolOutputBytes)
    (.reservationExceeded .toolOutputBytes)
  Stateful.modify recordCeilingViolations
  takeSnapshot clock

/-! ## Atomicity -/

section Atomicity

variable {α : Type} (f : AggregateBudgetLedger → Except BudgetError (α × AggregateBudgetLedger))

lemma requireOpen_bind (clock : ℚ) (unknownMetric : String) :
    (requireOpen clock unknownMetric >>= fun _ => Stateful.atomically f) =
      Stateful.atomically fun L => (do
        L.requireTime clock
        raiseIf (L.totals.unknownCostEvents ≠ 0 ∨ L.totals.unknownUsageEvents ≠ 0)
          (.exhausted unknownMetric 1 0)
        raiseIf (L.violations ≠ []) (.exhausted "ledger_accounting_invalid" 1 0)
        f L) := by
  unfold requireOpen
  simp only [bind_assoc, Stateful.check_bind_atomically, Stateful.get_bind_atomically]

lemma requireAll_bind (checks : List (CountedMetric × ℕ)) :
    (requireAll checks >>= fun _ => Stateful.atomically f) =
      Stateful.atomically fun L => (checks.forM fun check => L.requireCounted check) >>=
        fun _ => f L := by
  induction checks with
  | nil => rfl
  | cons check checks ih =>
    show ((do
      let L ← Stateful.get
      Stateful.check (L.requireCounted check)) >>= fun _ => requireAll checks) >>=
        (fun _ => Stateful.atomically f) =
      Stateful.atomically fun L =>
        (L.requireCounted check >>= fun _ => checks.forM fun check => L.requireCounted check) >>=
          fun _ => f L
    simp only [bind_assoc, ih, Stateful.check_bind_atomically, Stateful.get_bind_atomically]

lemma requireCost_bind (args : ProviderCallArgs) :
    (requireCost args >>= fun _ => Stateful.atomically f) =
      Stateful.atomically fun L => (do
        requireCapacity "estimated_cost_usd" (L.totals.knownCostUsd + L.totals.estimatedCostUsd)
          (L.reservations.values.map (·.estimatedCostUsd)).sum args.estimatedCostUsd
          L.ceilings.maxEstimatedCostUsd
        if args.expectedCostStatus = .known then
          requireCapacity "known_cost_usd" L.totals.knownCostUsd
            ((L.reservations.values.filter (·.expectedCostStatus = some .known)).map
              (·.estimatedCostUsd)).sum
            args.estimatedCostUsd L.ceilings.maxKnownCostUsd
        f L) := by
  unfold requireCost
  by_cases hknown : args.expectedCostStatus = .known
  · simp only [if_pos hknown, bind_assoc, Stateful.check_bind_atomically,
      Stateful.get_bind_atomically]
  · simp only [if_neg hknown, bind_assoc, pure_bind, Stateful.check_bind_atomically,
      Stateful.get_bind_atomically]

end Atomicity

theorem reserveProviderCall_eq (clock : ℚ) (args : ProviderCallArgs) :
    reserveProviderCall clock args =
      Stateful.atomically fun L => L.reserveProviderCall clock args := by
  have hissue : (do
      let reservationId ← nextReservationId .provider
      let reservation : BudgetReservation :=
        { reservationId := reservationId
          kind := .provider
          modelCalls := 1
          inputTokens := args.inputTokens.toNat
          outputTokens := args.maxOutputTokens.toNat
          cachedTokens := args.maxCachedTokens.toNat
          cacheWriteTokens := args.maxCacheWriteTokens.toNat
          estimatedCostUsd := args.estimatedCostUsd
          expectedCostStatus := some args.expectedCostStatus
          retries := args.isRetry.toNat }
      store reservation
      return reservation) = (Stateful.atomically fun L =>
        .ok (L.providerReservation args, L.addReservation (L.providerReservation args))) := rfl
  unfold reserveProviderCall
  rw [hissue]
  simp only [requireCost_bind, requireAll_bind, requireOpen_bind, Stateful.check_bind_atomically]
  rfl

theorem reserveToolCall_eq (clock : ℚ) (maxOutputBytes : ℤ) :
    reserveToolCall clock maxOutputBytes =
      Stateful.atomically fun L => L.reserveToolCall clock maxOutputBytes := by
  have hissue : (do
      let reservationId ← nextReservationId .tool
      let reservation : BudgetReservation :=
        { reservationId := reservationId
          kind := .tool
          toolCalls := 1
          toolOutputBytes := maxOutputBytes.toNat }
      store reservation
      return reservation) = (Stateful.atomically fun L =>
        .ok (L.toolReservation maxOutputBytes, L.addReservation (L.toolReservation maxOutputBytes))) :=
    rfl
  unfold reserveToolCall
  rw [hissue]
  simp only [requireAll_bind, requireOpen_bind, Stateful.check_bind_atomically]
  rfl

theorem popReservation_eq (reservation : BudgetReservation) (expectedKind : ReservationKind) :
    popReservation reservation expectedKind =
      Stateful.atomically fun L => L.popReservation reservation expectedKind := by
  funext L
  show (match L.reservations.get? reservation.reservationId with
    | none => Stateful.raise (BudgetError.unknownReservation reservation.reservationId)
    | some stored => (do
      Stateful.check (raiseIf (stored ≠ reservation ∨ stored.kind ≠ expectedKind)
        (.reservationMismatch reservation.reservationId))
      Stateful.modify fun L =>
        { L with reservations := L.reservations.erase reservation.reservationId }
      return stored : Operation BudgetReservation)) L = _
  unfold Stateful.atomically AggregateBudgetLedger.popReservation
  beta_reduce
  cases L.reservations.get? reservation.reservationId with
  | none => rfl
  | some stored =>
    by_cases hmatch : stored ≠ reservation ∨ stored.kind ≠ expectedKind
    · simp only [raiseIf_pos hmatch, error_bind]
      rfl
    · simp only [raiseIf_neg hmatch, ok_bind]
      rfl

lemma takeSnapshot_eq (clock : ℚ) :
    takeSnapshot clock = Stateful.atomically fun L => .ok (L.snapshot clock, L) := rfl

section

variable (clock : ℚ) (reservation : BudgetReservation)

theorem cancelReservation_eq :
    cancelReservation clock reservation =
      Stateful.atomically fun L => L.cancelReservation clock reservation := by
  unfold cancelReservation
  rw [popReservation_eq]
  exact Stateful.atomically_bind_total _ fun _ (L : AggregateBudgetLedger) => (L.snapshot clock, L)

theorem completeProviderCall_eq
    (usage : ProviderUsageReport) (latencyMs : ℚ) (requestSent : Bool) :
    completeProviderCall clock reservation usage latencyMs requestSent =
      Stateful.atomically fun L =>
        L.completeProviderCall clock reservation usage latencyMs requestSent := by
  unfold completeProviderCall
  have hloop (stored : BudgetReservation) : tokenMetrics.forM (commitTokens usage stored) =
      Stateful.modify fun L => tokenMetrics.foldl (commitObserved usage stored) L :=
    Stateful.forM_modify (commitObserved usage stored) tokenMetrics
  -- nothing after the pop raises
  have hrest (stored : BudgetReservation) : (do
      Stateful.modify fun L => { L with totals := L.totals.add stored.retries .retries }
      Stateful.modify fun L =>
        { L with totals := { L.totals with latencyMs := L.totals.latencyMs + latencyMs } }
      if requestSent = false then
        takeSnapshot clock
      else do
        Stateful.modify fun L => { L with totals := L.totals.add 1 .modelCalls }
        tokenMetrics.forM (commitTokens usage stored)
        Stateful.modify fun L => { L with totals := commitCost usage L.totals }
        Stateful.modify fun L => L.addViolationIf
          (∃ cost ∈ usage.costUsd, cost > stored.estimatedCostUsd + tolerance)
          .costReservationExceeded
        Stateful.modify recordCeilingViolations
        takeSnapshot clock : Operation AggregateBudgetSnapshot) = Stateful.atomically fun L =>
          .ok (let L := L.settleProviderCall usage latencyMs requestSent stored
            (L.snapshot clock, L)) := by
    rw [hloop]
    unfold settleProviderCall
    by_cases hsent : requestSent = false
    · simp only [if_pos hsent, takeSnapshot_eq, Stateful.modify_bind_total]
      rfl
    · simp only [if_neg hsent, takeSnapshot_eq, Stateful.modify_bind_total]
      rfl
  simp only [hrest, popReservation_eq, Stateful.atomically_bind_total,
    Stateful.check_bind_atomically]
  simp only [AggregateBudgetLedger.completeProviderCall_eq]

theorem completeProviderFailure_eq
    (requestSent : Bool) (usage : Option ProviderUsageReport) (latencyMs : ℚ) :
    completeProviderFailure clock reservation requestSent usage latencyMs =
      Stateful.atomically fun L =>
        L.completeProviderFailure clock reservation requestSent usage latencyMs := by
  cases requestSent with
  | true => exact completeProviderCall_eq clock reservation (usage.getD .unknown) latencyMs true
  | false => exact completeProviderCall_eq clock reservation .unknown latencyMs false

theorem completeToolCall_eq (outputBytes : ℤ)
    (latencyMs : ℚ) :
    completeToolCall clock reservation outputBytes latencyMs =
      Stateful.atomically fun L =>
        L.completeToolCall clock reservation outputBytes latencyMs := by
  unfold completeToolCall
  have hrest (stored : BudgetReservation) : (do
      Stateful.modify fun L => { L with totals := L.totals.add 1 .toolCalls }
      Stateful.modify fun L => { L with totals := L.totals.add outputBytes.toNat .toolOutputBytes }
      Stateful.modify fun L =>
        { L with totals := { L.totals with latencyMs := L.totals.latencyMs + latencyMs } }
      Stateful.modify fun L => L.addViolationIf (outputBytes > stored.toolOutputBytes)
        (.reservationExceeded .toolOutputBytes)
      Stateful.modify recordCeilingViolations
      takeSnapshot clock : Operation AggregateBudgetSnapshot) = Stateful.atomically fun L =>
        .ok (let L := L.settleToolCall outputBytes latencyMs stored
          (L.snapshot clock, L)) := rfl
  simp only [hrest, popReservation_eq, Stateful.atomically_bind_total,
    Stateful.check_bind_atomically]
  rfl

end

end Operation
end AggregateBudgetLedger
end Agintor.Kernel
