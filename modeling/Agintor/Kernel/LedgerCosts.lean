import Agintor.Kernel.LedgerHistoryTheorems
import Mathlib.Data.List.Infix

/-!
# Calls within their reservations

A completed call whose report stays within its own reservation records no violation, unless it
reports a known cost that was reserved as an estimate, or the tolerance of a capacity check was
granted twice. Otherwise what is committed and held of money stays within the ceilings.
-/

namespace Agintor.Kernel

open Agintor.Contracts Lib

/-- What a reservation holds of the known cost. -/
def BudgetReservation.knownCost (r : BudgetReservation) : ℚ :=
  if r.expectedCostStatus = some .known then r.estimatedCostUsd else 0

namespace AggregateBudgetLedger

/-! ## Reports within a reservation -/

/-- A report of known usage and a known or estimated cost, within what the reservation holds. -/
structure WithinReservation (r : BudgetReservation) (usage : ProviderUsageReport) : Prop where
  usage_known : usage.usageStatus = .known
  cost_reported : usage.costStatus ≠ .unknown
  tokens : ∀ m ∈ tokenMetrics, ∀ n ∈ usage.observed m, n ≤ r.amount m
  cost : ∀ c ∈ usage.costUsd, c ≤ r.estimatedCostUsd

instance (r : BudgetReservation) (usage : ProviderUsageReport) :
    Decidable (WithinReservation r usage) :=
  decidable_of_iff (usage.usageStatus = .known ∧ usage.costStatus ≠ .unknown ∧
      (∀ m ∈ tokenMetrics, ∀ n ∈ usage.observed m, n ≤ r.amount m) ∧
      ∀ c ∈ usage.costUsd, c ≤ r.estimatedCostUsd)
    ⟨fun ⟨h1, h2, h3, h4⟩ => ⟨h1, h2, h3, h4⟩, fun h => ⟨h.1, h.2, h.3, h.4⟩⟩

/-- A request that was not sent reports nothing. -/
def Finalisation.Within : Finalisation → Prop
  | cancelled _ => True
  | providerCall r usage _ requestSent => requestSent = true → WithinReservation r usage
  | toolCall r outputBytes _ => outputBytes ≤ r.toolOutputBytes

instance : (f : Finalisation) → Decidable f.Within
  | .cancelled _ => inferInstanceAs (Decidable True)
  | .providerCall r usage _ requestSent =>
    inferInstanceAs (Decidable (requestSent = true → WithinReservation r usage))
  | .toolCall r outputBytes _ => inferInstanceAs (Decidable (outputBytes ≤ (r.toolOutputBytes : ℤ)))

/-- Every completed call of a history stays within its own reservation. -/
def StaysWithin (entries : List Entry) : Prop := ∀ f ∈ finalised entries, f.Within

instance (entries : List Entry) : Decidable (StaysWithin entries) :=
  inferInstanceAs (Decidable (∀ f ∈ finalised entries, f.Within))

/-! ## Money -/

/-- The money the active reservations hold. -/
def heldCost (L : AggregateBudgetLedger) : ℚ :=
  (L.reservations.values.map (·.estimatedCostUsd)).sum

/-- The money held by the reservations that expect a known cost. -/
def heldKnownCost (L : AggregateBudgetLedger) : ℚ :=
  ((L.reservations.values.filter (·.expectedCostStatus = some .known)).map
    (·.estimatedCostUsd)).sum

/-- Where a ceiling is already overdrawn, within the tolerance, the new reservation still is. -/
structure Affordable (L : AggregateBudgetLedger) (args : ProviderCallArgs) : Prop where
  estimated : L.ceilings.maxEstimatedCostUsd <
      L.totals.knownCostUsd + L.totals.estimatedCostUsd + L.heldCost →
    L.totals.knownCostUsd + L.totals.estimatedCostUsd + L.heldCost + args.estimatedCostUsd ≤
      L.ceilings.maxEstimatedCostUsd + tolerance
  known : args.expectedCostStatus = .known →
    L.ceilings.maxKnownCostUsd < L.totals.knownCostUsd + L.heldKnownCost →
    L.totals.knownCostUsd + L.heldKnownCost + args.estimatedCostUsd ≤
      L.ceilings.maxKnownCostUsd + tolerance

instance (L : AggregateBudgetLedger) (args : ProviderCallArgs) : Decidable (L.Affordable args) :=
  decidable_of_iff (_ ∧ _) ⟨fun ⟨h1, h2⟩ => Affordable.mk h1 h2, fun h => ⟨h.1, h.2⟩⟩

/-- A known cost that was not reserved as known fits the known ceiling. -/
def CostExpected (L : AggregateBudgetLedger) (r : BudgetReservation)
    (usage : ProviderUsageReport) : Prop :=
  r.expectedCostStatus ≠ some .known → usage.costStatus = .known →
    ∀ c ∈ usage.costUsd, L.totals.knownCostUsd + L.heldKnownCost + c ≤
      L.ceilings.maxKnownCostUsd + tolerance

instance (L : AggregateBudgetLedger) (r : BudgetReservation) (usage : ProviderUsageReport) :
    Decidable (L.CostExpected r usage) :=
  inferInstanceAs (Decidable (_ → _ → ∀ _ ∈ usage.costUsd, _))

/-- The condition on one call. -/
def Covers (L : AggregateBudgetLedger) : Call → Prop
  | .reserveProviderCall _ args => L.Affordable args
  | .completeProviderCall _ r usage _ requestSent => requestSent = true → L.CostExpected r usage
  | .completeProviderFailure _ r requestSent usage _ =>
    requestSent = true → L.CostExpected r (usage.getD .unknown)
  | _ => True

instance (L : AggregateBudgetLedger) : (call : Call) → Decidable (L.Covers call)
  | .reserveProviderCall _ args => inferInstanceAs (Decidable (L.Affordable args))
  | .completeProviderCall _ r usage _ requestSent =>
    inferInstanceAs (Decidable (requestSent = true → L.CostExpected r usage))
  | .completeProviderFailure _ r requestSent usage _ =>
    inferInstanceAs (Decidable (requestSent = true → L.CostExpected r (usage.getD .unknown)))
  | .reserveToolCall _ _ => inferInstanceAs (Decidable True)
  | .cancelReservation _ _ => inferInstanceAs (Decidable True)
  | .completeToolCall _ _ _ _ => inferInstanceAs (Decidable True)
  | .snapshot _ => inferInstanceAs (Decidable True)

/-- The condition on every call of a run, in the state it finds. -/
def CoveredRun (L : AggregateBudgetLedger) : List Call → Prop
  | [] => True
  | call :: calls => L.Covers call ∧ CoveredRun (operate call L).2 calls

instance decidableCoveredRun : (L : AggregateBudgetLedger) → (calls : List Call) →
    Decidable (L.CoveredRun calls)
  | _, [] => inferInstanceAs (Decidable True)
  | L, call :: calls =>
    have := decidableCoveredRun (operate call L).2 calls
    inferInstanceAs (Decidable (L.Covers call ∧ CoveredRun (operate call L).2 calls))

/-- A ledger without violations, its costs within the ceilings up to the tolerance. -/
structure WithinCeilings (L : AggregateBudgetLedger) (ceilings : TaskCeilings) : Prop where
  violations : L.violations = []
  known : L.totals.knownCostUsd ≤ ceilings.maxKnownCostUsd + tolerance
  estimated : L.totals.knownCostUsd + L.totals.estimatedCostUsd ≤
    ceilings.maxEstimatedCostUsd + tolerance

/-! ## Sums over the reservations -/

lemma sum_filter_eq {α : Type} (l : List α) (p : α → Bool) (f : α → ℚ) :
    ((l.filter p).map f).sum = (l.map fun a => if p a then f a else 0).sum := by
  induction l with
  | nil => rfl
  | cons a l ih =>
    rw [List.filter_cons, List.map_cons, List.sum_cons]
    by_cases ha : p a = true
    · rw [if_pos ha, if_pos ha, List.map_cons, List.sum_cons, ih]
    · rw [if_neg ha, if_neg ha, ih, zero_add]

lemma heldKnownCost_eq (L : AggregateBudgetLedger) :
    L.heldKnownCost = (L.reservations.values.map (·.knownCost)).sum := by
  unfold heldKnownCost
  rw [sum_filter_eq]
  simp only [decide_eq_true_eq]
  rfl

variable {L : AggregateBudgetLedger}

/-- What holds of money while every call stays within its reservation. -/
structure Funded (L : AggregateBudgetLedger) : Prop where
  wellFormed : L.WellFormed
  violations : L.violations = []
  held_nonneg : ∀ r ∈ L.reservations.values, 0 ≤ r.estimatedCostUsd
  known : L.totals.knownCostUsd + L.heldKnownCost ≤ L.ceilings.maxKnownCostUsd + tolerance
  estimated : L.totals.knownCostUsd + L.totals.estimatedCostUsd + L.heldCost ≤
    L.ceilings.maxEstimatedCostUsd + tolerance

lemma tolerance_nonneg : 0 ≤ tolerance := by
  unfold tolerance
  norm_num

/-- What the capacity check on money lets through. -/
lemma le_of_requireCapacity {metric : String} {current held requested limit : ℚ}
    (h : requireCapacity metric current held requested limit = .ok ()) :
    current + held + requested ≤ limit + tolerance ∨ limit < current + held := by
  unfold requireCapacity at h
  rw [raiseIf_eq_ok_iff, not_lt] at h
  rcases le_total 0 (limit - current - held) with hroom | hnone
  · left
    rw [max_eq_right hroom] at h
    linarith
  · rcases hnone.lt_or_eq with hover | hexact
    · right
      linarith
    · left
      rw [hexact, max_self] at h
      linarith

/-! ## Violations -/

lemma addViolationIf_of_not {c : Prop} [Decidable c] (hc : ¬c) (v : Violation) :
    L.addViolationIf c v = L := if_neg hc

/-- Within the ceilings nothing is recorded. -/
lemma recordCeilingViolations_eq_self (hcount : ∀ m, L.totals.count m ≤ limit L.ceilings m)
    (hknown : L.totals.knownCostUsd ≤ L.ceilings.maxKnownCostUsd + tolerance)
    (hestimated : L.totals.knownCostUsd + L.totals.estimatedCostUsd ≤
      L.ceilings.maxEstimatedCostUsd + tolerance) : L.recordCeilingViolations = L := by
  have hcounted (ms : List CountedMetric) : ms.foldl (fun acc m => acc.addViolationIf
      ((L.totals.count m : ℚ) > (limit L.ceilings m : ℚ) + tolerance) (.ceilingExceeded m)) L =
        L := by
    induction ms with
    | nil => rfl
    | cons m ms ih =>
      have hle : (L.totals.count m : ℚ) ≤ limit L.ceilings m := by exact_mod_cast hcount m
      rw [List.foldl_cons, addViolationIf_of_not, ih]
      rw [not_lt]
      linarith [tolerance_nonneg]
  unfold recordCeilingViolations
  rw [hcounted]
  show (addViolationIf (L.addViolationIf _ _) _ _) = L
  rw [addViolationIf_of_not (not_lt.mpr hknown), addViolationIf_of_not (not_lt.mpr hestimated)]

/-- Counts within the reservation are no violation. -/
lemma foldl_commitObserved_violations (usage : ProviderUsageReport) (stored : BudgetReservation)
    {ms : List CountedMetric} (h : ∀ m ∈ ms, ∀ n ∈ usage.observed m, n ≤ stored.amount m)
    (L : AggregateBudgetLedger) :
    (ms.foldl (commitObserved usage stored) L).violations = L.violations := by
  induction ms generalizing L with
  | nil => rfl
  | cons m ms ih =>
    rw [List.foldl_cons, ih fun m' hm' => h m' (List.mem_cons_of_mem m hm')]
    unfold commitObserved
    cases hn : usage.observed m with
    | none => rfl
    | some n =>
      have hle := h m List.mem_cons_self n hn
      show (addViolationIf _ (n > stored.amount m) _).violations = _
      rw [addViolationIf_of_not (by omega)]

/-- Totals within the ceilings. -/
structure Bounded (ceilings : TaskCeilings) (t : Totals) : Prop where
  count : ∀ m, t.count m ≤ limit ceilings m
  known : t.knownCostUsd ≤ ceilings.maxKnownCostUsd + tolerance
  estimated : t.knownCostUsd + t.estimatedCostUsd ≤ ceilings.maxEstimatedCostUsd + tolerance

/-- The last two steps of a settlement within the reservation and the ceilings. -/
lemma Bounded.settled_violations {K : AggregateBudgetLedger} {c : Prop} [Decidable c]
    {v : Violation} (hc : ¬c) (hceilings : K.ceilings = L.ceilings)
    (h : Bounded L.ceilings (K.addViolationIf c v).recordCeilingViolations.totals) :
    (K.addViolationIf c v).recordCeilingViolations.violations = K.violations := by
  rw [recordCeilingViolations_totals, addViolationIf_totals, ← hceilings] at h
  rw [addViolationIf_of_not hc, recordCeilingViolations_eq_self h.count h.known h.estimated]

/-- The ledger when the tokens of a call that was sent are committed. -/
def sentCall (L : AggregateBudgetLedger) (latencyMs : ℚ) (stored : BudgetReservation) :
    AggregateBudgetLedger :=
  { L with totals := ({ L.totals.add stored.retries .retries with
      latencyMs := L.totals.latencyMs + latencyMs } : Totals).add 1 .modelCalls }

lemma settleProviderCall_sent (L : AggregateBudgetLedger) (usage : ProviderUsageReport)
    (latencyMs : ℚ) (stored : BudgetReservation) :
    L.settleProviderCall usage latencyMs true stored =
      (({ tokenMetrics.foldl (commitObserved usage stored) (L.sentCall latencyMs stored) with
          totals := commitCost usage (tokenMetrics.foldl (commitObserved usage stored)
            (L.sentCall latencyMs stored)).totals } : AggregateBudgetLedger).addViolationIf
        (∃ cost ∈ usage.costUsd, cost > stored.estimatedCostUsd + tolerance)
        .costReservationExceeded).recordCeilingViolations := by
  unfold settleProviderCall sentCall
  simp only [Bool.true_eq_false, if_false]

variable {stored : BudgetReservation} {call : Call}

lemma settleProviderCall_violations {usage : ProviderUsageReport} {latencyMs : ℚ}
    (hwithin : WithinReservation stored usage)
    (hbounded : Bounded L.ceilings (L.settleProviderCall usage latencyMs true stored).totals) :
    (L.settleProviderCall usage latencyMs true stored).violations = L.violations := by
  have hcost : ¬∃ cost ∈ usage.costUsd, cost > stored.estimatedCostUsd + tolerance := by
    rintro ⟨cost, hmem, hover⟩
    have hle := hwithin.cost cost hmem
    linarith [tolerance_nonneg]
  have hceilings : (tokenMetrics.foldl (commitObserved usage stored)
      (L.sentCall latencyMs stored)).ceilings = L.ceilings :=
    (charged_foldl (charged_commitObserved usage stored) _ tokenMetrics).ceilings
  have hviolations : (tokenMetrics.foldl (commitObserved usage stored)
      (L.sentCall latencyMs stored)).violations = L.violations :=
    foldl_commitObserved_violations usage stored hwithin.tokens _
  rw [settleProviderCall_sent] at hbounded ⊢
  generalize tokenMetrics.foldl (commitObserved usage stored) (L.sentCall latencyMs stored) = N
    at hceilings hviolations hbounded ⊢
  exact (Bounded.settled_violations (K := { N with totals := commitCost usage N.totals }) hcost
    hceilings hbounded).trans hviolations

lemma settleToolCall_violations {outputBytes : ℤ} {latencyMs : ℚ}
    (hwithin : outputBytes ≤ stored.toolOutputBytes)
    (hbounded : Bounded L.ceilings (L.settleToolCall outputBytes latencyMs stored).totals) :
    (L.settleToolCall outputBytes latencyMs stored).violations = L.violations :=
  hbounded.settled_violations (not_lt.mpr hwithin) rfl

variable {f : Finalisation} {r : BudgetReservation}

/-- Settling within the reservation and the ceilings records nothing. -/
theorem settle_violations (hwithin : f.Within) (hbounded : Bounded L.ceilings (f.settle L).totals) :
    (f.settle L).violations = L.violations := by
  cases f with
  | cancelled r => rfl
  | toolCall r outputBytes latencyMs => exact settleToolCall_violations hwithin hbounded
  | providerCall r usage latencyMs requestSent =>
    cases requestSent with
    | false => rfl
    | true => exact settleProviderCall_violations (hwithin rfl) hbounded

/-! ## What a finalisation within its reservation adds -/

lemma count_plus (t u : Totals) (m : CountedMetric) :
    (t.plus u).count m = t.count m + u.count m := by
  cases m <;> rfl

/-- No count exceeds what the reservation holds. -/
lemma Finalisation.Within.count_le (h : f.Within) (hkind : f.MatchesKind)
    (hcall : f.reservation.HoldsCall) (m : CountedMetric) :
    f.totals.count m ≤ f.reservation.amount m := by
  cases f with
  | cancelled r => cases m <;> exact Nat.zero_le _
  | toolCall r outputBytes latencyMs =>
    have hone : r.toolCalls = 1 := hcall.2 hkind
    have hbytes : outputBytes ≤ r.toolOutputBytes := h
    cases m with
    | toolCalls => exact hone.ge
    | toolOutputBytes =>
      show outputBytes.toNat ≤ r.toolOutputBytes
      omega
    | _ => exact Nat.zero_le _
  | providerCall r usage latencyMs requestSent =>
    cases requestSent with
    | false =>
      cases m with
      | retries => exact le_rfl
      | _ => exact Nat.zero_le _
    | true =>
      have hwithin : WithinReservation r usage := h rfl
      have hone : r.modelCalls = 1 := hcall.1 hkind
      have htokens (m : CountedMetric) (hm : m ∈ tokenMetrics) :
          (usage.observed m).getD 0 ≤ r.amount m := by
        cases hn : usage.observed m with
        | none => exact Nat.zero_le _
        | some n => exact hwithin.tokens m hm n hn
      cases m with
      | modelCalls => exact hone.ge
      | inputTokens =>
        have hle := htokens .inputTokens (by decide)
        show 0 + usage.inputTokens.getD 0 ≤ _
        rwa [zero_add]
      | outputTokens =>
        have hle := htokens .outputTokens (by decide)
        show 0 + usage.outputTokens.getD 0 ≤ _
        rwa [zero_add]
      | cachedTokens =>
        have hle := htokens .cachedTokens (by decide)
        show 0 + usage.cachedTokens.getD 0 ≤ _
        rwa [zero_add]
      | cacheWriteTokens =>
        have hle := htokens .cacheWriteTokens (by decide)
        show 0 + usage.cacheWriteTokens.getD 0 ≤ _
        rwa [zero_add]
      | retries => exact le_rfl
      | _ => exact Nat.zero_le _

/-- The condition of a call, for its finalisation. -/
def Finalisation.Expected (L : AggregateBudgetLedger) : Finalisation → Prop
  | providerCall r usage _ requestSent => requestSent = true → L.CostExpected r usage
  | _ => True

lemma expected_of_covers {o : Outcome} (hcovers : L.Covers call)
    (h : Entry.finalised? ⟨call, .ok o⟩ = some f) : f.Expected L := by
  cases call with
  | cancelReservation clock r =>
    obtain rfl : Finalisation.cancelled r = f := Option.some.inj h
    trivial
  | completeProviderCall clock r usage latencyMs requestSent =>
    obtain rfl : Finalisation.providerCall r usage latencyMs requestSent = f := Option.some.inj h
    exact hcovers
  | completeProviderFailure clock r requestSent usage latencyMs =>
    cases requestSent with
    | false =>
      obtain rfl : Finalisation.providerCall r .unknown latencyMs false = f := Option.some.inj h
      intro hsent
      exact absurd hsent (by decide)
    | true =>
      obtain rfl : Finalisation.providerCall r (usage.getD .unknown) latencyMs true = f :=
        Option.some.inj h
      exact hcovers
  | completeToolCall clock r outputBytes latencyMs =>
    obtain rfl : Finalisation.toolCall r outputBytes latencyMs = f := Option.some.inj h
    trivial
  | reserveProviderCall clock args => simp [Entry.finalised?] at h
  | reserveToolCall clock maxOutputBytes => simp [Entry.finalised?] at h
  | snapshot clock => simp [Entry.finalised?] at h

lemma knownCost_nonneg (h : 0 ≤ r.estimatedCostUsd) : 0 ≤ r.knownCost := by
  unfold BudgetReservation.knownCost
  split
  · exact h
  · exact le_rfl

/-- The money that a finalisation adds: both parts together are covered by the reservation, the
known part by what it holds of the known cost or by the room there is. -/
structure Costs (L : AggregateBudgetLedger) (f : Finalisation) : Prop where
  total : f.totals.knownCostUsd + f.totals.estimatedCostUsd ≤ f.reservation.estimatedCostUsd
  known : f.totals.knownCostUsd ≤ f.reservation.knownCost ∨
    f.reservation.knownCost = 0 ∧ L.totals.knownCostUsd + L.heldKnownCost + f.totals.knownCostUsd ≤
      L.ceilings.maxKnownCostUsd + tolerance

lemma Finalisation.Within.costs (h : f.Within) (hexpected : f.Expected L)
    (hnonneg : 0 ≤ f.reservation.estimatedCostUsd) : Costs L f := by
  -- a finalisation that reports no cost
  have hfree (hknown : f.totals.knownCostUsd = 0) (hestimated : f.totals.estimatedCostUsd = 0) :
      Costs L f := by
    refine ⟨?_, .inl ?_⟩
    · rw [hknown, hestimated, add_zero]
      exact hnonneg
    · rw [hknown]
      exact knownCost_nonneg hnonneg
  cases f with
  | cancelled r => exact hfree rfl rfl
  | toolCall r outputBytes latencyMs => exact hfree rfl rfl
  | providerCall r usage latencyMs requestSent =>
    cases requestSent with
    | false => exact hfree (add_zero 0) (add_zero 0)
    | true =>
      have hwithin : WithinReservation r usage := h rfl
      have hcost : usage.costUsd.getD 0 ≤ r.estimatedCostUsd := by
        cases hc : usage.costUsd with
        | none => exact hnonneg
        | some c => exact hwithin.cost c hc
      have hknown : (Finalisation.providerCall r usage latencyMs true).totals.knownCostUsd =
          if usage.costStatus = .known then usage.costUsd.getD 0 else 0 := zero_add _
      have hestimated : (Finalisation.providerCall r usage latencyMs true).totals.estimatedCostUsd =
          if usage.costStatus = .estimated then usage.costUsd.getD 0 else 0 := zero_add _
      cases hstatus : usage.costStatus with
      | unknown => exact absurd hstatus hwithin.cost_reported
      | estimated =>
        rw [hstatus, if_neg (by decide)] at hknown
        rw [hstatus, if_pos rfl] at hestimated
        refine ⟨?_, .inl ?_⟩
        · rw [hknown, hestimated, zero_add]
          exact hcost
        · rw [hknown]
          exact knownCost_nonneg hnonneg
      | known =>
        rw [hstatus, if_pos rfl] at hknown
        rw [hstatus, if_neg (by decide)] at hestimated
        refine ⟨?_, ?_⟩
        · rw [hknown, hestimated, add_zero]
          exact hcost
        · rw [hknown]
          show _ ≤ r.knownCost ∨ r.knownCost = 0 ∧ _
          unfold BudgetReservation.knownCost
          by_cases hheld : r.expectedCostStatus = some .known
          · left
            rw [if_pos hheld]
            exact hcost
          · right
            rw [if_neg hheld]
            refine ⟨rfl, ?_⟩
            have hsome : usage.costUsd.isSome := usage.cost_reported.mpr (by simp [hstatus])
            obtain ⟨c, hc⟩ := Option.isSome_iff_exists.mp hsome
            rw [hc]
            exact hexpected rfl hheld hstatus c hc

/-! ## One call -/

lemma funded_init (ceilings : TaskCeilings) (clock : ℚ) : (init ceilings clock).Funded where
  wellFormed := wellFormed_init ceilings clock
  violations := rfl
  held_nonneg := by
    intro r hr
    simp [init, Dict.empty, Dict.values] at hr
  known := by
    show (0 : ℚ) + 0 ≤ ceilings.maxKnownCostUsd + tolerance
    linarith [tolerance_nonneg, ceilings.knownCost_nonneg]
  estimated := by
    show (0 : ℚ) + 0 + 0 ≤ ceilings.maxEstimatedCostUsd + tolerance
    linarith [tolerance_nonneg, ceilings.knownCost_nonneg, ceilings.knownCost_le]

lemma heldCost_addReservation (h : r.reservationId ∉ L.reservations.keys) :
    (L.addReservation r).heldCost = L.heldCost + r.estimatedCostUsd :=
  Dict.sum_set_of_not_mem _ h

lemma heldKnownCost_addReservation (h : r.reservationId ∉ L.reservations.keys) :
    (L.addReservation r).heldKnownCost = L.heldKnownCost + r.knownCost := by
  rw [heldKnownCost_eq, heldKnownCost_eq]
  exact Dict.sum_set_of_not_mem _ h

lemma heldCost_finalise (h : L.reservations.get? f.reservation.reservationId = some f.reservation) :
    (L.finalise f).heldCost + f.reservation.estimatedCostUsd = L.heldCost := by
  unfold heldCost
  rw [finalise_reservations]
  exact Dict.sum_erase_of_get? _ h

lemma heldKnownCost_finalise
    (h : L.reservations.get? f.reservation.reservationId = some f.reservation) :
    (L.finalise f).heldKnownCost + f.reservation.knownCost = L.heldKnownCost := by
  rw [heldKnownCost_eq, heldKnownCost_eq, finalise_reservations]
  exact Dict.sum_erase_of_get? _ h

lemma heldCost_nonneg (h : ∀ r ∈ L.reservations.values, 0 ≤ r.estimatedCostUsd) :
    0 ≤ L.heldCost := by
  apply List.sum_nonneg
  intro cost hcost
  obtain ⟨r, hr, rfl⟩ := List.mem_map.mp hcost
  exact h r hr

lemma heldKnownCost_nonneg (h : ∀ r ∈ L.reservations.values, 0 ≤ r.estimatedCostUsd) :
    0 ≤ L.heldKnownCost := by
  rw [heldKnownCost_eq]
  apply List.sum_nonneg
  intro cost hcost
  obtain ⟨r, hr, rfl⟩ := List.mem_map.mp hcost
  exact knownCost_nonneg (h r hr)

/-- What a new reservation adds to the money held is covered. -/
structure Covered (L : AggregateBudgetLedger) (r : BudgetReservation) : Prop where
  nonneg : 0 ≤ r.estimatedCostUsd
  known : L.totals.knownCostUsd + L.heldKnownCost + r.knownCost ≤
    L.ceilings.maxKnownCostUsd + tolerance
  estimated : L.totals.knownCostUsd + L.totals.estimatedCostUsd + L.heldCost +
    r.estimatedCostUsd ≤ L.ceilings.maxEstimatedCostUsd + tolerance

/-- A reservation that passed the checks is covered, unless the tolerance is granted again. -/
lemma Affords.covered {args : ProviderCallArgs} (h : L.Affords args)
    (haffordable : L.Affordable args) (hfunded : L.Funded) :
    L.Covered (L.providerReservation args) := by
  refine ⟨h.cost_nonneg, ?_, ?_⟩
  · show _ + (if some args.expectedCostStatus = some .known then args.estimatedCostUsd else 0) ≤ _
    by_cases hk : args.expectedCostStatus = .known
    · rw [hk, if_pos rfl]
      rcases le_of_requireCapacity (h.known hk) with hle | hover
      · exact hle
      · exact haffordable.known hk hover
    · rw [if_neg (by simpa using hk), add_zero]
      exact hfunded.known
  · rcases le_of_requireCapacity h.estimated with hle | hover
    · exact hle
    · exact haffordable.estimated hover

/-- A tool call holds no money. -/
lemma Funded.covered_tool (h : L.Funded) (maxOutputBytes : ℤ) :
    L.Covered (L.toolReservation maxOutputBytes) where
  nonneg := le_rfl
  known := by
    show _ + (0 : ℚ) ≤ _
    rw [add_zero]
    exact h.known
  estimated := by
    show _ + (0 : ℚ) ≤ _
    rw [add_zero]
    exact h.estimated

lemma Funded.issue (h : L.Funded) (hwellFormed : (L.addReservation r).WellFormed)
    (hmakes : Makes L call r) (hcovered : L.Covered r) : (L.addReservation r).Funded := by
  have hfresh := hmakes.fresh h.wellFormed
  refine ⟨hwellFormed, h.violations, ?_, ?_, ?_⟩
  · intro r' hr'
    rcases Dict.mem_values_of_mem_set hr' with rfl | hold
    · exact hcovered.nonneg
    · exact h.held_nonneg r' hold
  · rw [heldKnownCost_addReservation hfresh, ← add_assoc]
    exact hcovered.known
  · rw [heldCost_addReservation hfresh, ← add_assoc]
    exact hcovered.estimated

/-- What a reservation holds of a counted metric is part of what is reserved. -/
lemma amount_le_reserved {id : String} (h : L.reservations.get? id = some r) (m : CountedMetric) :
    r.amount m ≤ L.reserved m := by
  have hsum := Dict.sum_erase_of_get? (fun r : BudgetReservation => r.amount m) h
  unfold reserved
  omega

lemma Funded.finalise (h : L.Funded) (hwellFormed : (L.finalise f).WellFormed)
    (hstored : L.reservations.get? f.reservation.reservationId = some f.reservation)
    (hkind : f.MatchesKind) (hwithin : f.Within) (hexpected : f.Expected L) :
    (L.finalise f).Funded := by
  have hmem : f.reservation ∈ L.reservations.values := Dict.mem_values_of_get? hstored
  have hcosts := hwithin.costs hexpected (h.held_nonneg _ hmem)
  have htotals := finalise_totals L f
  have hheld := heldCost_finalise hstored
  have hheldKnown := heldKnownCost_finalise hstored
  have hnonneg : ∀ r ∈ (L.finalise f).reservations.values, 0 ≤ r.estimatedCostUsd := by
    intro r hr
    rw [finalise_reservations] at hr
    exact h.held_nonneg r (Dict.mem_values_of_mem_erase hr)
  have hknown : (L.finalise f).totals.knownCostUsd + (L.finalise f).heldKnownCost ≤
      (L.finalise f).ceilings.maxKnownCostUsd + tolerance := by
    have hbound := h.known
    rw [htotals, finalise_ceilings]
    show L.totals.knownCostUsd + f.totals.knownCostUsd + _ ≤ _
    rcases hcosts.known with hle | ⟨hzero, hle⟩
    · linarith
    · linarith
  have hestimated : (L.finalise f).totals.knownCostUsd + (L.finalise f).totals.estimatedCostUsd +
      (L.finalise f).heldCost ≤ (L.finalise f).ceilings.maxEstimatedCostUsd + tolerance := by
    have hbound := h.estimated
    have htotal := hcosts.total
    rw [htotals, finalise_ceilings]
    show L.totals.knownCostUsd + f.totals.knownCostUsd +
      (L.totals.estimatedCostUsd + f.totals.estimatedCostUsd) + _ ≤ _
    linarith
  -- what is still held is not negative, so the totals alone are within the ceilings
  have hbounded : Bounded L.ceilings (L.finalise f).totals := by
    rw [finalise_ceilings] at hknown hestimated
    refine ⟨?_, ?_, ?_⟩
    · intro m
      have hcount := hwithin.count_le hkind (h.wellFormed.holdsCall _ hmem) m
      have hreserved := amount_le_reserved hstored m
      have hlimit := h.wellFormed.bounded h.violations m
      rw [htotals, count_plus]
      omega
    · linarith [heldKnownCost_nonneg hnonneg]
    · linarith [heldCost_nonneg hnonneg]
  refine ⟨hwellFormed, ?_, hnonneg, hknown, hestimated⟩
  exact (settle_violations (L := L.dropReservation f.reservation.reservationId) hwithin
    hbounded).trans h.violations

lemma Funded.called (h : L.Funded) (hcovers : L.Covers call)
    (hwithin : ∀ f ∈ Entry.finalised? ⟨call, (operate call L).1⟩, f.Within) :
    (operate call L).2.Funded := by
  have hwellFormed : (operate call L).2.WellFormed := by
    rw [operate_snd]
    exact h.wellFormed.effect (effect_step h.wellFormed call)
  have hstep := happened L call
  generalize hresult : operate call L = result at hstep hwellFormed hwithin ⊢
  obtain ⟨given, L'⟩ := result
  generalize hentry : (⟨call, given⟩ : Entry) = e at hstep hwithin
  cases hstep with
  | raised call' error => exact h
  | looked clock => exact h
  | issued call' r hmakes =>
    apply h.issue hwellFormed hmakes
    obtain ⟨rfl, rfl⟩ : call = call' ∧ given = _ := by simpa using hentry
    cases hmakes with
    | provider clock args haffords => exact haffords.covered hcovers h
    | tool clock maxOutputBytes => exact h.covered_tool maxOutputBytes
  | finalised call' f clock hcall hstored hkind =>
    obtain ⟨rfl, rfl⟩ : call = call' ∧ given = _ := by simpa using hentry
    exact h.finalise hwellFormed hstored hkind (hwithin f hcall) (expected_of_covers hcovers hcall)

/-! ## Runs -/

lemma StaysWithin.of_cons {e : Entry} {entries : List Entry} (h : StaysWithin (e :: entries)) :
    (∀ f ∈ e.finalised?, f.Within) ∧ StaysWithin entries := by
  constructor
  · intro f hf
    apply h f
    exact List.mem_filterMap.mpr ⟨e, List.mem_cons_self, hf⟩
  · intro f hf
    obtain ⟨e', he', hfinalised⟩ := List.mem_filterMap.mp hf
    exact h f (List.mem_filterMap.mpr ⟨e', List.mem_cons_of_mem e he', hfinalised⟩)

lemma Funded.after (h : L.Funded) {calls reached : List Call}
    (hwithin : StaysWithin (L.history calls)) (hcovered : L.CoveredRun calls)
    (hreached : reached <+: calls) : (L.after reached).Funded := by
  induction reached generalizing L calls with
  | nil => exact h
  | cons call reached ih =>
    obtain ⟨rest, rfl⟩ := hreached
    obtain ⟨hfirst, hrest⟩ := hwithin.of_cons
    exact ih (h.called hcovered.1 hfirst) hrest hcovered.2 (List.prefix_append reached rest)

lemma after_ceilings (calls : List Call) (h : L.WellFormed) :
    (L.after calls).ceilings = L.ceilings := by
  rw [after_eq_run]
  exact (h.run calls).2.1

lemma Funded.withinCeilings (h : L.Funded) : L.WithinCeilings L.ceilings where
  violations := h.violations
  known := by
    linarith [h.known, heldKnownCost_nonneg h.held_nonneg]
  estimated := by
    linarith [h.estimated, heldCost_nonneg h.held_nonneg]

/-- While every completed call stays within its reservation, no violation is recorded and the
costs stay within the ceilings, in every state that is reached. -/
theorem within_ceilings_of_stays_within (ceilings : TaskCeilings) (clock : ℚ) (calls : List Call)
    (hwithin : StaysWithin ((init ceilings clock).history calls))
    (hcovered : (init ceilings clock).CoveredRun calls) :
    ∀ reached, reached <+: calls →
      ((init ceilings clock).after reached).WithinCeilings ceilings := by
  intro reached hreached
  have hfunded := (funded_init ceilings clock).after hwithin hcovered hreached
  have hceilings := after_ceilings reached (wellFormed_init ceilings clock)
  have hbound := hfunded.withinCeilings
  rw [hceilings] at hbound
  exact hbound

/-- One unit of each counted kind and of known cost, two of estimated cost. -/
def unitCeilings : TaskCeilings where
  maxModelCalls := 1
  maxInputTokens := 1
  maxOutputTokens := 1
  maxCachedTokens := 1
  maxCacheWriteTokens := 1
  maxToolCalls := 1
  maxToolOutputBytes := 1
  maxArtifactBytes := 1
  maxPatchBytes := 1
  maxRetries := 1
  maxWallTimeMs := 1
  providerDeadlineMs := 1
  maxKnownCostUsd := 1
  maxEstimatedCostUsd := 2
  positive := ⟨Nat.one_pos, Nat.one_pos, Nat.one_pos, Nat.one_pos, Nat.one_pos, Nat.one_pos,
    Nat.one_pos, Nat.one_pos, Nat.one_pos⟩
  knownCost_nonneg := zero_le_one
  deadline_le := le_rfl
  knownCost_le := by decide

/-- A report of one token each way at a known cost. -/
def knownCostReport (cost : ℚ) (h : 0 ≤ cost) : ProviderUsageReport where
  usageStatus := .known
  inputTokens := some 1
  outputTokens := some 1
  cachedTokens := some 0
  cacheWriteTokens := some 0
  costStatus := .known
  costUsd := some cost
  responseId := none
  tokens_reported _ := ⟨rfl, rfl, rfl, rfl⟩
  cached_subcategories _ := by simp
  cost_reported := by simp
  cost_nonneg := by simpa using h

/-- One provider call, reserved and completed at the cost it reserved. -/
def oneCall (status : CostStatus) (cost : ℚ) (h : 0 ≤ cost) : List Call :=
  let args : ProviderCallArgs :=
    { inputTokens := 1
      maxOutputTokens := 1
      estimatedCostUsd := cost
      expectedCostStatus := status }
  [.reserveProviderCall 0 args,
    .completeProviderCall 0 ((init unitCeilings 0).providerReservation args)
      (knownCostReport cost h) 0 true]

theorem within_ceilings_of_stays_within_oneCall :
    ((init unitCeilings 0).after (oneCall .known 1 (by decide))).WithinCeilings unitCeilings :=
  within_ceilings_of_stays_within unitCeilings 0 (oneCall .known 1 (by decide))
    (by decide +kernel) (by decide +kernel) _ List.prefix_rfl

/-- A known cost that was reserved as an estimate can exceed the known ceiling. -/
theorem oneCall_estimated_violation :
    StaysWithin ((init unitCeilings 0).history (oneCall .estimated 2 (by decide))) ∧
      ((init unitCeilings 0).after (oneCall .estimated 2 (by decide))).violations =
        [.knownCostCeilingExceeded] := by
  constructor
  · decide +kernel
  · decide +kernel

end AggregateBudgetLedger
end Agintor.Kernel
