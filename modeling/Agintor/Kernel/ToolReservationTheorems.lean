import Agintor.Kernel.CompositeBudgetTheorems
import Agintor.Kernel.RepairTools

/-!
# What a tool call charges

A healthy ledger with nothing reserved stays healthy over a tool call exactly when the output the
call ends with is no larger than what it reserved. An output that is too large is replaced by an
error object of 29 bytes, so the call overruns its reservation when fewer bytes are left.
-/

namespace Agintor.Kernel

open Agintor.Contracts Agintor.Core Agintor.Repositories Agintor.Isolation Lib

namespace AggregateBudgetLedger

/-! ## Costs

The money committed stays within its two ceilings as long as no violation was recorded. -/

def CostsWithin (L : AggregateBudgetLedger) : Prop :=
  L.totals.knownCostUsd ≤ L.ceilings.maxKnownCostUsd + tolerance ∧
    L.totals.knownCostUsd + L.totals.estimatedCostUsd ≤
      L.ceilings.maxEstimatedCostUsd + tolerance

lemma costsWithin_congr {L L' : AggregateBudgetLedger} (hceilings : L'.ceilings = L.ceilings)
    (hknown : L'.totals.knownCostUsd = L.totals.knownCostUsd)
    (hestimated : L'.totals.estimatedCostUsd = L.totals.estimatedCostUsd) :
    L'.CostsWithin ↔ L.CostsWithin := by
  unfold CostsWithin
  rw [hceilings, hknown, hestimated]

variable {L : AggregateBudgetLedger} {p : AggregateBudgetSnapshot × AggregateBudgetLedger}
    {reservation : BudgetReservation} {clock : ℚ} {r : BudgetReservation} {n : ℕ}

lemma addViolationIf_violations_eq_nil_iff {c : Prop} [Decidable c] {v : Violation} :
    (L.addViolationIf c v).violations = [] ↔ L.violations = [] ∧ ¬c := by
  by_cases hc : c
  · exact ⟨fun h => absurd h (addViolationIf_violations_ne_nil hc), fun h => absurd hc h.2⟩
  · rw [addViolationIf, if_neg hc]
    exact ⟨fun h => ⟨h, hc⟩, fun h => h.1⟩

section Loop

variable {α : Type} {c : α → Prop} [DecidablePred c] {v : α → Violation}

lemma violations_foldl_addViolationIf (L : AggregateBudgetLedger) (as : List α) :
    (as.foldl (fun acc a => acc.addViolationIf (c a) (v a)) L).violations = [] ↔
      L.violations = [] ∧ ∀ a ∈ as, ¬c a := by
  induction as generalizing L with
  | nil => simp
  | cons a as ih =>
    rw [List.foldl_cons, ih, addViolationIf_violations_eq_nil_iff, List.forall_mem_cons, and_assoc]

end Loop

/-- Nothing is recorded for totals within the ceilings. -/
lemma violations_recordCeilingViolations_eq_nil_iff :
    L.recordCeilingViolations.violations = [] ↔
      L.violations = [] ∧ (∀ m, L.totals.count m ≤ limit L.ceilings m) ∧ L.CostsWithin := by
  have hcounted : ∀ m, ¬((L.totals.count m : ℚ) > (limit L.ceilings m : ℚ) + tolerance) ↔
      L.totals.count m ≤ limit L.ceilings m := by
    intro m
    have htol : 0 < tolerance ∧ tolerance < 1 := by
      unfold tolerance
      norm_num
    rw [not_lt]
    constructor
    · intro h
      have hlt : (L.totals.count m : ℚ) < (limit L.ceilings m + 1 : ℕ) := by
        push_cast
        linarith [htol.2]
      have hnat : L.totals.count m < limit L.ceilings m + 1 := by exact_mod_cast hlt
      omega
    · intro h
      have hcast : (L.totals.count m : ℚ) ≤ limit L.ceilings m := by exact_mod_cast h
      linarith [htol.1]
  have hall : (∀ m, L.totals.count m ≤ limit L.ceilings m) ↔
      ∀ m ∈ [CountedMetric.modelCalls, .inputTokens, .outputTokens, .cachedTokens,
        .cacheWriteTokens, .toolCalls, .toolOutputBytes, .retries],
        L.totals.count m ≤ limit L.ceilings m := by
    refine ⟨fun h m _ => h m, fun h m => h m ?_⟩
    cases m <;> simp
  rw [hall]
  unfold recordCeilingViolations CostsWithin
  rw [addViolationIf_violations_eq_nil_iff, addViolationIf_violations_eq_nil_iff,
    violations_foldl_addViolationIf, gt_iff_lt, gt_iff_lt, not_lt, not_lt, and_assoc, and_assoc]
  simp only [hcounted]

lemma costsWithin_recordCeilingViolations (h : L.recordCeilingViolations.violations = []) :
    L.recordCeilingViolations.CostsWithin := by
  have hceilings := (charged_recordCeilingViolations L).ceilings
  rw [costsWithin_congr hceilings (by simp) (by simp)]
  exact (violations_recordCeilingViolations_eq_nil_iff.mp h).2.2

/-- What holds of the counts and of the costs of every reachable ledger. -/
structure Within (L : AggregateBudgetLedger) : Prop where
  wellFormed : L.WellFormed
  costs : L.violations = [] → L.CostsWithin

lemma within_init (ceilings : TaskCeilings) (clock : ℚ) : (init ceilings clock).Within where
  wellFormed := wellFormed_init ceilings clock
  costs _ := by
    have htol : 0 < tolerance := by
      unfold tolerance
      norm_num
    have hknown := ceilings.knownCost_nonneg
    have hestimated := ceilings.knownCost_le
    constructor
    · show (0 : ℚ) ≤ ceilings.maxKnownCostUsd + tolerance
      linarith
    · show (0 : ℚ) + 0 ≤ ceilings.maxEstimatedCostUsd + tolerance
      linarith

lemma costs_popReservation {kind : ReservationKind} {p : BudgetReservation × AggregateBudgetLedger}
    (hcosts : L.violations = [] → L.CostsWithin) (h : L.popReservation reservation kind = .ok p) :
    p.2.violations = [] → p.2.CostsWithin := by
  obtain ⟨-, -, hp⟩ := popReservation_ok h
  rw [hp]
  exact hcosts

lemma costs_completeProviderCall {usage : ProviderUsageReport} {latencyMs : ℚ} {requestSent : Bool}
    (hcosts : L.violations = [] → L.CostsWithin)
    (h : L.completeProviderCall clock reservation usage latencyMs requestSent = .ok p) :
    p.2.violations = [] → p.2.CostsWithin := by
  unfold completeProviderCall at h
  simp only [bind_eq_ok_iff] at h
  obtain ⟨-, -, -, -, ⟨stored, L₁⟩, hpop, h⟩ := h
  have hpopped := costs_popReservation hcosts hpop
  by_cases hsent : requestSent = false
  · rw [if_pos hsent, pure_eq_ok, Except.ok.injEq] at h
    rw [← h]
    exact hpopped
  · -- the costs were checked last
    rw [if_neg hsent, pure_eq_ok, Except.ok.injEq] at h
    rw [← h]
    exact costsWithin_recordCeilingViolations

lemma costs_completeToolCall {outputBytes : ℤ} {latencyMs : ℚ}
    (h : L.completeToolCall clock reservation outputBytes latencyMs = .ok p) :
    p.2.violations = [] → p.2.CostsWithin := by
  unfold completeToolCall at h
  simp only [bind_eq_ok_iff] at h
  obtain ⟨-, -, -, -, ⟨stored, L₁⟩, hpop, h⟩ := h
  rw [pure_eq_ok, Except.ok.injEq] at h
  rw [← h]
  exact costsWithin_recordCeilingViolations

lemma costs_cancelReservation (hcosts : L.violations = [] → L.CostsWithin)
    (h : L.cancelReservation clock reservation = .ok p) :
    p.2.violations = [] → p.2.CostsWithin := by
  unfold cancelReservation at h
  simp only [bind_eq_ok_iff, pure_eq_ok, Except.ok.injEq] at h
  obtain ⟨q, hpop, rfl⟩ := h
  exact costs_popReservation hcosts hpop

/-- Reserving touches neither the totals nor the violations. -/
lemma costs_addReservation {L L' : AggregateBudgetLedger}
    (hcosts : L.violations = [] → L.CostsWithin) (hL' : L.addReservation r = L') :
    L'.violations = [] → L'.CostsWithin := by
  rw [← hL']
  exact hcosts

lemma addReservation_of_reserveProviderCall {L L' : AggregateBudgetLedger} {args : ProviderCallArgs}
    (h : L.reserveProviderCall clock args = .ok (r, L')) : L.addReservation r = L' := by
  unfold reserveProviderCall at h
  simp only [bind_eq_ok_iff] at h
  obtain ⟨-, -, -, -, -, -, -, -, -, -, -, -, -, -, -, -, -, -, -, -, -, -, -, -, hlast⟩ := h
  by_cases hk : args.expectedCostStatus = .known
  · simp only [if_pos hk, bind_eq_ok_iff, pure_eq_ok, Except.ok.injEq, Prod.mk.injEq] at hlast
    obtain ⟨-, -, hr, hL'⟩ := hlast
    rw [← hr]
    exact hL'
  · simp only [if_neg hk, pure_eq_ok, Except.ok.injEq, Prod.mk.injEq] at hlast
    rw [← hlast.1]
    exact hlast.2

lemma addReservation_of_reserveToolCall {L L' : AggregateBudgetLedger} {maxOutputBytes : ℤ}
    (h : L.reserveToolCall clock maxOutputBytes = .ok (r, L')) :
    r = L.toolReservation maxOutputBytes ∧ L.addReservation r = L' := by
  unfold reserveToolCall at h
  simp only [bind_eq_ok_iff] at h
  obtain ⟨-, -, -, -, -, -, -, -, -, -, hlast⟩ := h
  simp only [pure_eq_ok, Except.ok.injEq, Prod.mk.injEq] at hlast
  refine ⟨hlast.1.symm, ?_⟩
  rw [← hlast.1]
  exact hlast.2

lemma ok_of_map_snd {α : Type} {x : Except BudgetError (α × AggregateBudgetLedger)}
    (h : (·.2) <$> x = .ok L) : ∃ a, x = .ok (a, L) := by
  cases x with
  | error e => simp at h
  | ok p =>
    simp only [Functor.map, Except.map, Except.ok.injEq] at h
    exact ⟨p.1, by rw [← h]⟩

lemma Within.step (h : L.Within) (call : Call) : (L.step call).Within := by
  refine ⟨h.wellFormed.effect (effect_step h.wellFormed call), ?_⟩
  unfold AggregateBudgetLedger.step
  cases hp : L.perform call with
  | error e => exact h.costs
  | ok L' =>
    show L'.violations = [] → L'.CostsWithin
    cases call with
    | reserveProviderCall clock args =>
      obtain ⟨r, hr⟩ := ok_of_map_snd hp
      exact costs_addReservation h.costs (addReservation_of_reserveProviderCall hr)
    | reserveToolCall clock maxOutputBytes =>
      obtain ⟨r, hr⟩ := ok_of_map_snd hp
      exact costs_addReservation h.costs (addReservation_of_reserveToolCall hr).2
    | cancelReservation clock r =>
      obtain ⟨s, hs⟩ := ok_of_map_snd hp
      exact costs_cancelReservation h.costs hs
    | completeProviderCall clock r usage latencyMs requestSent =>
      obtain ⟨s, hs⟩ := ok_of_map_snd hp
      exact costs_completeProviderCall h.costs hs
    | completeProviderFailure clock r requestSent usage latencyMs =>
      obtain ⟨s, hs⟩ := ok_of_map_snd hp
      -- a failure is finalized as a call, with another report
      unfold completeProviderFailure at hs
      cases requestSent with
      | true => exact costs_completeProviderCall h.costs hs
      | false => exact costs_completeProviderCall h.costs hs
    | completeToolCall clock r outputBytes latencyMs =>
      obtain ⟨s, hs⟩ := ok_of_map_snd hp
      exact costs_completeToolCall hs
    | snapshot clock =>
      obtain rfl : L = L' := by simpa [perform] using hp
      exact h.costs

lemma Within.run (h : L.Within) (calls : List Call) : (L.run calls).Within := by
  induction calls generalizing L with
  | nil => exact h
  | cons call calls ih => exact ih (h.step call)

/-! ## Reserving and charging a tool call -/

/-- No tool call can be made any more: no time, no call or no byte of output is left. -/
def Unaffordable (L : AggregateBudgetLedger) (clock : ℚ) : Prop :=
  (L.ceilings.maxWallTimeMs : ℚ) - L.elapsedMs clock ≤ 0 ∨
    L.ceilings.maxToolCalls ≤ L.totals.toolCalls ∨
    L.ceilings.maxToolOutputBytes ≤ L.totals.toolOutputBytes

/-- A healthy ledger with nothing reserved, as any run of calls may leave it. -/
structure Idle (L : AggregateBudgetLedger) : Prop where
  within : L.Within
  healthy : ¬L.Tainted
  settled : L.reservations = .empty

lemma Idle.reserved (h : L.Idle) (m : CountedMetric) : L.reserved m = 0 := by
  unfold AggregateBudgetLedger.reserved
  rw [h.settled]
  rfl

lemma Idle.violations (h : L.Idle) : L.violations = [] := by
  by_contra hv
  exact h.healthy (Or.inl hv)

lemma requireCounted_eq_ok_iff {m : CountedMetric} (hn : 0 < n) :
    L.requireCounted (m, n) = .ok () ↔ L.totals.count m + L.reserved m + n ≤ limit L.ceilings m := by
  constructor
  · intro h
    rcases fits_of_requireCounted h with hzero | hfits
    · omega
    · exact hfits
  · intro h
    have hcast : (L.totals.count m + L.reserved m + n : ℚ) ≤ limit L.ceilings m := by
      exact_mod_cast h
    have htol : 0 < tolerance := by
      unfold tolerance
      norm_num
    unfold requireCounted requireCapacity
    rw [raiseIf_eq_ok_iff, not_lt]
    have hmax := le_max_right 0 ((limit L.ceilings m : ℚ) - L.totals.count m - L.reserved m)
    show (n : ℚ) ≤ _
    linarith

lemma requireCounted_eq_error {m : CountedMetric} (h : L.requireCounted (m, n) ≠ .ok ()) :
    ∃ requested remaining, L.requireCounted (m, n) = .error (.exhausted m.name requested remaining) := by
  unfold requireCounted requireCapacity at h ⊢
  rw [Ne, raiseIf_eq_ok_iff, not_not] at h
  exact ⟨_, _, raiseIf_pos h⟩

/-- Of an idle ledger only time and the two counts are checked. -/
lemma Idle.reserveToolCall_eq (h : L.Idle) (clock : ℚ) (n : ℕ) :
    L.reserveToolCall clock n = (do
      L.requireTime clock
      L.requireCounted (.toolCalls, 1)
      L.requireCounted (.toolOutputBytes, n)
      return (L.toolReservation n, L.addReservation (L.toolReservation n))) := by
  have hunknown : ¬(L.totals.unknownCostEvents ≠ 0 ∨ L.totals.unknownUsageEvents ≠ 0) :=
    fun hu => h.healthy (Or.inr hu)
  have hviolations : ¬L.violations ≠ [] := not_not.mpr h.violations
  have hnonneg : requireNonnegative "max_output_bytes" (n : ℤ) = .ok () := by
    refine raiseIf_neg ?_
    push_cast
    exact not_lt.mpr (Nat.cast_nonneg n)
  have hloop : ([CountedMetric.toolCalls, .toolOutputBytes].forM fun m =>
      L.requireCounted (m, (L.toolReservation n).amount m)) = (do
        L.requireCounted (.toolCalls, 1)
        L.requireCounted (.toolOutputBytes, n)) := by
    show (L.requireCounted (.toolCalls, 1) >>= fun _ =>
      L.requireCounted (.toolOutputBytes, n) >>= fun _ => Except.ok ()) = _
    cases L.requireCounted (.toolCalls, 1) with
    | error e => rfl
    | ok u => cases L.requireCounted (.toolOutputBytes, n) <;> rfl
  unfold AggregateBudgetLedger.reserveToolCall
  rw [hnonneg, raiseIf_neg hunknown, raiseIf_neg hviolations]
  show (L.requireTime clock >>= fun _ => ([CountedMetric.toolCalls, .toolOutputBytes].forM fun m =>
    L.requireCounted (m, (L.toolReservation n).amount m)) >>= fun _ => _) = _
  rw [hloop]
  cases L.requireTime clock with
  | error e => rfl
  | ok u =>
    cases L.requireCounted (.toolCalls, 1) with
    | error e => rfl
    | ok u => rfl

lemma Idle.remaining (h : L.Idle) :
    L.remainingToolOutputBytes = L.ceilings.maxToolOutputBytes - L.totals.toolOutputBytes := by
  unfold remainingToolOutputBytes
  rw [h.reserved, Nat.sub_zero]

/-- A call whose reservation is within what is left is refused only when it is unaffordable. -/
theorem Idle.reserveToolCall_refused (h : L.Idle) (hn : 0 < n)
    (hunaffordable : L.Unaffordable clock) :
    ∃ metric requested remaining,
      L.reserveToolCall clock n = .error (.exhausted metric requested remaining) := by
  rw [h.reserveToolCall_eq]
  by_cases htime : (L.ceilings.maxWallTimeMs : ℚ) - L.elapsedMs clock ≤ 0
  · refine ⟨"wall_time_ms", 1, 0, ?_⟩
    unfold requireTime
    rw [raiseIf_pos htime]
    rfl
  have hok : L.requireTime clock = .ok () := raiseIf_neg htime
  rw [hok]
  by_cases hcalls : L.requireCounted (.toolCalls, 1) = .ok ()
  · rw [hcalls]
    have hbytes : L.requireCounted (.toolOutputBytes, n) ≠ .ok () := by
      rw [requireCounted_eq_ok_iff one_pos, h.reserved] at hcalls
      rw [Ne, requireCounted_eq_ok_iff hn, h.reserved]
      show ¬L.totals.toolOutputBytes + 0 + n ≤ L.ceilings.maxToolOutputBytes
      change L.totals.toolCalls + 0 + 1 ≤ L.ceilings.maxToolCalls at hcalls
      rcases hunaffordable with htime' | hcalls' | hbytes'
      · exact absurd htime' htime
      · omega
      · omega
    obtain ⟨requested, remaining, herror⟩ := requireCounted_eq_error hbytes
    rw [herror]
    exact ⟨_, _, _, rfl⟩
  · obtain ⟨requested, remaining, herror⟩ := requireCounted_eq_error hcalls
    rw [herror]
    exact ⟨_, _, _, rfl⟩

theorem Idle.reserveToolCall_ok (h : L.Idle) (hn : 0 < n)
    (hle : n ≤ max 1 L.remainingToolOutputBytes) (haffordable : ¬L.Unaffordable clock) :
    L.reserveToolCall clock n =
      .ok (L.toolReservation n, L.addReservation (L.toolReservation n)) := by
  have htime : ¬(L.ceilings.maxWallTimeMs : ℚ) - L.elapsedMs clock ≤ 0 := fun ht =>
    haffordable (Or.inl ht)
  have hcalls : ¬L.ceilings.maxToolCalls ≤ L.totals.toolCalls := fun hc =>
    haffordable (Or.inr (Or.inl hc))
  have hbytes : ¬L.ceilings.maxToolOutputBytes ≤ L.totals.toolOutputBytes := fun hb =>
    haffordable (Or.inr (Or.inr hb))
  rw [h.remaining] at hle
  have hok : L.requireTime clock = .ok () := raiseIf_neg htime
  have hcallsOk : L.requireCounted (.toolCalls, 1) = .ok () := by
    rw [requireCounted_eq_ok_iff one_pos, h.reserved]
    show L.totals.toolCalls + 0 + 1 ≤ L.ceilings.maxToolCalls
    omega
  have hbytesOk : L.requireCounted (.toolOutputBytes, n) = .ok () := by
    rw [requireCounted_eq_ok_iff hn, h.reserved]
    show L.totals.toolOutputBytes + 0 + n ≤ L.ceilings.maxToolOutputBytes
    omega
  rw [h.reserveToolCall_eq, hok, hcallsOk, hbytesOk]
  rfl

/-- Charging a tool call on an otherwise idle ledger succeeds, and keeps the ledger healthy
exactly when the output is within the reservation. -/
theorem Idle.completeToolCall (h : L.Idle) {clock clock' : ℚ}
    (hle : n ≤ max 1 L.remainingToolOutputBytes) (haffordable : ¬L.Unaffordable clock')
    (bytes : ℕ) :
    ∃ snapshot L', (L.addReservation (L.toolReservation n)).completeToolCall clock
        (L.toolReservation n) bytes 0 = .ok (snapshot, L') ∧
      L'.totals.toolOutputBytes = L.totals.toolOutputBytes + bytes ∧
      (L'.Tainted ↔ n < bytes) := by
  let r := L.toolReservation n
  let M := L.addReservation r
  have hget : M.reservations.get? r.reservationId = some r := by
    show (L.reservations.set r.reservationId r).get? r.reservationId = some r
    rw [Dict.get?_set, if_pos rfl]
  have hpop : M.popReservation r .tool = .ok (r, M.dropReservation r.reservationId) := by
    unfold popReservation
    rw [hget]
    show (raiseIf (r ≠ r ∨ r.kind ≠ .tool) _ >>= _) = _
    rw [raiseIf_neg (by rintro (h | h) <;> exact h rfl)]
    rfl
  unfold AggregateBudgetLedger.completeToolCall
  have hbytes : requireNonnegative "output_bytes" ((bytes : ℤ) : ℚ) = .ok () :=
    raiseIf_neg (not_lt.mpr (by positivity))
  have hlatency : requireNonnegative "latency_ms" 0 = .ok () := raiseIf_neg (lt_irrefl _)
  rw [hbytes, hlatency]
  show ∃ snapshot L', (M.popReservation r .tool >>= _) = .ok (snapshot, L') ∧ _
  rw [hpop]
  let committed := (L.totals.add 1 .toolCalls).add bytes .toolOutputBytes
  let X : AggregateBudgetLedger := { M.dropReservation r.reservationId with
    totals := { committed with latencyMs := committed.latencyMs + 0 } }
  let Y := X.addViolationIf ((bytes : ℤ) > (n : ℤ).toNat) (.reservationExceeded .toolOutputBytes)
  have hX : ∀ m, X.totals.count m = L.totals.count m + (if m = .toolCalls then 1 else 0) +
      (if m = .toolOutputBytes then bytes else 0) := by
    intro m
    have hcount : X.totals.count m = committed.count m := by cases m <;> rfl
    rw [hcount, Totals.count_add, Totals.count_add]
  have hY : Y.totals = X.totals := addViolationIf_totals _ _ _
  have hceilings : Y.ceilings = L.ceilings := (charged_addViolationIf X _ _).ceilings
  refine ⟨_, Y.recordCeilingViolations, rfl, ?_, ?_⟩
  · rw [recordCeilingViolations_totals, hY]
    have hcount := hX .toolOutputBytes
    rw [if_neg (by decide), if_pos rfl] at hcount
    exact hcount
  have hunknown : ¬(Y.recordCeilingViolations.totals.unknownCostEvents ≠ 0 ∨
      Y.recordCeilingViolations.totals.unknownUsageEvents ≠ 0) := by
    rw [recordCeilingViolations_totals, hY]
    show ¬(committed.unknownCostEvents ≠ 0 ∨ committed.unknownUsageEvents ≠ 0)
    rw [Totals.unknownCostEvents_add, Totals.unknownCostEvents_add, Totals.unknownUsageEvents_add,
      Totals.unknownUsageEvents_add]
    exact fun hu => h.healthy (Or.inr hu)
  have htainted : Y.recordCeilingViolations.Tainted ↔ Y.recordCeilingViolations.violations ≠ [] := by
    unfold Tainted
    exact ⟨fun ht => ht.resolve_right hunknown, Or.inl⟩
  have hexceeded : Y.violations = [] ↔ bytes ≤ n := by
    rw [addViolationIf_violations_eq_nil_iff]
    refine ⟨fun hn => by omega, fun hn => ⟨h.violations, by omega⟩⟩
  rw [htainted, Ne, violations_recordCeilingViolations_eq_nil_iff, hexceeded, ← not_le,
    not_iff_not]
  refine ⟨fun hn => hn.1, fun hn => ⟨hn, ?_, ?_⟩⟩
  · -- what is committed was within the ceilings, and so is the call
    intro m
    have hbound := h.within.wellFormed.bounded h.violations m
    rw [h.reserved] at hbound
    have hcalls : ¬L.ceilings.maxToolCalls ≤ L.totals.toolCalls := fun hc =>
      haffordable (Or.inr (Or.inl hc))
    have hleft : ¬L.ceilings.maxToolOutputBytes ≤ L.totals.toolOutputBytes := fun hb =>
      haffordable (Or.inr (Or.inr hb))
    rw [h.remaining] at hle
    rw [hY, hX, hceilings]
    cases m <;> simp [limit, Totals.count] at hbound ⊢ <;> omega
  · have hcosts := h.within.costs h.violations
    rw [costsWithin_congr hceilings (by rw [hY]; rfl) (by rw [hY]; rfl)]
    exact hcosts

lemma healthy_iff : (L.snapshot clock).healthy = true ↔ ¬L.Tainted := by
  unfold snapshot Tainted
  simp only [decide_eq_true_eq]
  tauto

end AggregateBudgetLedger

/-! ## Sizes -/

lemma byteSize_errorOutput (F : FloatText) {code : String}
    (h : ∀ c ∈ code.toList, Json.escape c = none) :
    (TrustedRepairToolService.errorOutput code).byteSize F = 12 + code.utf8ByteSize := by
  have hkey : Json.quote "error".toList = "\"error\"".toList := by decide
  have hwrite : (TrustedRepairToolService.errorOutput code).write F =
      "\x7b\"error\":\"".toList ++ code.toList ++ "\"\x7d".toList := by
    show '{' :: Json.commaSeparated [Json.entryText ("error", Json.quote code.toList)] ++ ['}'] = _
    rw [Json.entryText, Json.quote_eq h, hkey]
    simp [Json.commaSeparated]
  have hsizes : "\x7b\"error\":\"".utf8ByteSize = 10 ∧ "\"\x7d".utf8ByteSize = 2 := ⟨rfl, rfl⟩
  rw [Json.byteSize_eq, hwrite, String.utf8Len_append, String.utf8Len_append,
    ← String.utf8ByteSize_ofList, ← String.utf8ByteSize_ofList, ← String.utf8ByteSize_ofList,
    String.ofList_toList, String.ofList_toList, String.ofList_toList, hsizes.1, hsizes.2]
  omega

lemma plain_of_all {text : List Char} (h : (text.all fun c => (Json.escape c).isNone) = true) :
    ∀ c ∈ text, Json.escape c = none := fun c hc =>
  Option.isNone_iff_eq_none.mp (List.all_eq_true.mp h c hc)

/-- The error object that replaces an output that is too large. -/
lemma byteSize_outputLimit (F : FloatText) :
    (TrustedRepairToolService.errorOutput "tool_output_limit").byteSize F = 29 :=
  byteSize_errorOutput F (plain_of_all (by decide +kernel))

namespace TrustedRepairToolService

variable {S : TrustedRepairToolService} {H : ToolHost}

/-! ## One call -/

/-- A call charges no more output than it reserved, leaves a healthy ledger healthy, and is
reported as rejected by the budget only when no call can be made. -/
structure KeepsReservation (S : TrustedRepairToolService) (H : ToolHost) (call : ToolCall)
    (now : ToolReadings) (st : ToolState) : Prop where
  charged : (S.invoke H call now st).2.ledger.totals.toolOutputBytes ≤
    st.ledger.totals.toolOutputBytes + S.callLimit st.ledger call.toolId
  healthy : ((S.invoke H call now st).2.ledger.snapshot now.settled).healthy = true
  rejected : ∀ r, (S.invoke H call now st).1 = .ok r → r.status = .budgetRejected →
    st.ledger.Unaffordable now.reserved

/-- The digests of the working copy can be taken before and after the call. -/
def Readable (S : TrustedRepairToolService) (H : ToolHost) (call : ToolCall) (st : ToolState) :
    Prop :=
  (S.currentWorkspaceDigest H st.tree).toBool = true ∧
    (S.currentWorkspaceDigest H (S.perform H st.sequence call st.tree).2).toBool = true

/-- A call is refused or raises, or what its tool gives fits, or at least the error object of 29
bytes does. -/
def OutputFits (S : TrustedRepairToolService) (H : ToolHost) (call : ToolCall)
    (now : ToolReadings) (st : ToolState) : Prop :=
  st.ledger.Unaffordable now.reserved ∨ ¬S.Readable H call st ∨
    S.Fits H (S.callLimit st.ledger call.toolId) (S.perform H st.sequence call st.tree).1.output ∨
    29 ≤ S.callLimit st.ledger call.toolId

lemma callLimit_pos (L : AggregateBudgetLedger) (toolId : String) : 0 < S.callLimit L toolId :=
  lt_of_lt_of_le one_pos (le_max_left _ _)

lemma callLimit_le (L : AggregateBudgetLedger) (toolId : String) :
    S.callLimit L toolId ≤ max 1 L.remainingToolOutputBytes :=
  max_le_max le_rfl (min_le_right _ _)

lemma ledger_record (r : RepairToolReceipt) (st : ToolState) :
    (record r st).2.ledger = st.ledger := by
  unfold record
  cases r.validateOrigin <;> rfl

variable {now : ToolReadings} {st : ToolState} {call : ToolCall}

lemma eq_of_record {r r' : RepairToolReceipt} (h : (record r st).1 = .ok r') : r' = r := by
  unfold record at h
  cases hv : r.validateOrigin with
  | error message => simp [hv] at h
  | ok u =>
    simp only [hv, Except.ok.injEq] at h
    exact h.symm

lemma settle_status (toolId : String)
    (result : Except ToolException (Json × List IsolatedCommandEvidence)) :
    (settle toolId result).status ≠ .budgetRejected := by
  cases result with
  | error e => cases e <;> simp [settle, raised]
  | ok r =>
    show (returned toolId r.1 r.2).status ≠ .budgetRejected
    unfold returned publicFailureStatus
    split_ifs <;> simp

/-- A tool that was run is never reported as rejected. -/
lemma perform_status (sequence : ℕ) (call : ToolCall) (T : FileTree) :
    (S.perform H sequence call T).1.status ≠ .budgetRejected := by
  unfold perform
  rcases S.execute H sequence call T with ⟨result, T'⟩
  by_cases hroots : S.immutableSourceUnchanged H T' = true
  · simp only [hroots, if_true]
    exact settle_status call.toolId result
  · simp [hroots]

lemma bounded_status {limit : ℕ} {outcome : ToolOutcome}
    (h : outcome.status ≠ .budgetRejected) : (S.bounded H limit outcome).status ≠ .budgetRejected := by
  unfold bounded
  split
  · exact h
  · simp

/-- The output a call ends with is within the limit when the tool's output fits or the error
object does. -/
lemma byteSize_bounded_le_iff {limit : ℕ} {outcome : ToolOutcome} :
    (S.bounded H limit outcome).output.byteSize H.floats ≤ limit ↔
      S.Fits H limit outcome.output ∨ 29 ≤ limit := by
  unfold bounded
  by_cases hfits : S.Fits H limit outcome.output
  · rw [if_pos hfits]
    exact ⟨fun _ => Or.inl hfits, fun _ => hfits.1⟩
  · rw [if_neg hfits]
    show (errorOutput "tool_output_limit").byteSize H.floats ≤ limit ↔ _
    rw [byteSize_outputLimit]
    exact ⟨Or.inr, fun h => h.resolve_left hfits⟩

/-- A call that leaves a healthy ledger alone keeps its reservation. -/
lemma keepsReservation_of_unchanged (hidle : st.ledger.Idle)
    (hledger : (S.invoke H call now st).2.ledger = st.ledger)
    (hrejected : ∀ r, (S.invoke H call now st).1 = .ok r → r.status = .budgetRejected →
      st.ledger.Unaffordable now.reserved) : S.KeepsReservation H call now st where
  charged := by
    rw [hledger]
    exact Nat.le_add_right _ _
  healthy := by
    rw [hledger, AggregateBudgetLedger.healthy_iff]
    exact hidle.healthy
  rejected := hrejected

/-- A call that is run charges the output it ends with, unless the working copy cannot be read
any more. -/
lemma invoke_charged {before : String} (hidle : st.ledger.Idle)
    (haffordable : ¬st.ledger.Unaffordable now.reserved)
    (hbefore : S.currentWorkspaceDigest H st.tree = .ok before) :
    let limit := S.callLimit st.ledger call.toolId
    let performed := S.perform H st.sequence call st.tree
    let outcome := S.bounded H limit performed.1
    (∀ message, S.currentWorkspaceDigest H performed.2 = .error message →
      S.invoke H call now st = (.error (.snapshot message), { st with
        tree := performed.2
        ledger := st.ledger.addReservation (st.ledger.toolReservation limit) })) ∧
    ∀ after, S.currentWorkspaceDigest H performed.2 = .ok after → ∃ snapshot L',
      S.invoke H call now st =
        record (S.receipt H call now { st with tree := performed.2, ledger := L' } before after
          outcome true snapshot) { st with tree := performed.2, ledger := L' } ∧
      L'.totals.toolOutputBytes =
        st.ledger.totals.toolOutputBytes + outcome.output.byteSize H.floats ∧
      (L'.Tainted ↔ limit < outcome.output.byteSize H.floats) := by
  intro limit performed outcome
  have hreserve := hidle.reserveToolCall_ok (S.callLimit_pos st.ledger call.toolId)
    (S.callLimit_le st.ledger call.toolId) haffordable
  have hinvoke : S.invoke H call now st = S.charge H call now limit before
      (st.ledger.toolReservation limit)
      { st with ledger := st.ledger.addReservation (st.ledger.toolReservation limit) } := by
    unfold invoke
    simp only [hbefore, hreserve]
    rfl
  constructor
  · intro message hafter
    rw [hinvoke]
    unfold charge
    simp only
    rw [hafter]
  · intro after hafter
    obtain ⟨snapshot, L', hcomplete, hbytes, htainted⟩ := hidle.completeToolCall
      (S.callLimit_le st.ledger call.toolId) haffordable (outcome.output.byteSize H.floats)
    refine ⟨snapshot, L', ?_, hbytes, htainted⟩
    rw [hinvoke]
    unfold charge
    simp only
    rw [hafter, hcomplete]

/-- The exact condition for one call on an idle ledger. -/
lemma keepsReservation_iff_outputFits (hidle : st.ledger.Idle) :
    S.KeepsReservation H call now st ↔ S.OutputFits H call now st := by
  rcases hbefore : S.currentWorkspaceDigest H st.tree with message | before
  · have hinvoke : S.invoke H call now st = (.error (.snapshot message), st) := by
      unfold invoke
      simp only [hbefore]
    have hunreadable : ¬S.Readable H call st := by
      intro h
      have hread := h.1
      rw [hbefore] at hread
      exact Bool.false_ne_true hread
    refine iff_of_true (keepsReservation_of_unchanged hidle (by rw [hinvoke]) ?_)
      (Or.inr (Or.inl hunreadable))
    intro r hr
    rw [hinvoke] at hr
    exact absurd hr (by simp)
  by_cases hunaffordable : st.ledger.Unaffordable now.reserved
  · obtain ⟨metric, requested, remaining, herror⟩ :=
      hidle.reserveToolCall_refused (S.callLimit_pos st.ledger call.toolId) hunaffordable
    have hledger : (S.invoke H call now st).2.ledger = st.ledger := by
      unfold invoke
      simp only [hbefore, herror]
      exact ledger_record _ _
    exact iff_of_true (keepsReservation_of_unchanged hidle hledger fun _ _ _ => hunaffordable)
      (Or.inl hunaffordable)
  obtain ⟨hfail, hrun⟩ := S.invoke_charged hidle hunaffordable hbefore
  rcases hafter : S.currentWorkspaceDigest H (S.perform H st.sequence call st.tree).2 with
    message | after
  · have hinvoke := hfail message hafter
    have hunreadable : ¬S.Readable H call st := by
      intro h
      have hread := h.2
      rw [hafter] at hread
      exact Bool.false_ne_true hread
    refine iff_of_true ⟨?_, ?_, ?_⟩ (Or.inr (Or.inl hunreadable))
    · rw [hinvoke]
      exact Nat.le_add_right _ _
    · rw [hinvoke, AggregateBudgetLedger.healthy_iff]
      exact hidle.healthy
    · intro r hr
      rw [hinvoke] at hr
      exact absurd hr (by simp)
  · obtain ⟨snapshot, L', hinvoke, hbytes, htainted⟩ := hrun after hafter
    have hledger : (S.invoke H call now st).2.ledger = L' := by
      rw [hinvoke]
      exact ledger_record _ _
    have hreadable : S.Readable H call st := by
      unfold Readable
      rw [hbefore, hafter]
      exact ⟨rfl, rfl⟩
    have hfits : S.OutputFits H call now st ↔
        (S.bounded H (S.callLimit st.ledger call.toolId)
          (S.perform H st.sequence call st.tree).1).output.byteSize H.floats ≤
            S.callLimit st.ledger call.toolId := by
      rw [byteSize_bounded_le_iff]
      exact ⟨fun h => (h.resolve_left hunaffordable).resolve_left (not_not.mpr hreadable),
        fun h => Or.inr (Or.inr h)⟩
    rw [hfits]
    constructor
    · intro h
      have hhealthy := h.healthy
      rw [hledger, AggregateBudgetLedger.healthy_iff, htainted, not_lt] at hhealthy
      exact hhealthy
    · intro hle
      refine ⟨?_, ?_, ?_⟩
      · rw [hledger, hbytes]
        omega
      · rw [hledger, AggregateBudgetLedger.healthy_iff, htainted, not_lt]
        exact hle
      · intro r hr hstatus
        rw [hinvoke] at hr
        rw [eq_of_record hr] at hstatus
        exact absurd hstatus (bounded_status (perform_status _ _ _))

/-! ## Every call -/

theorem isDigest_constant : Core.isDigest (String.ofList (List.replicate 64 '0')) = true :=
  isDigest_replicate (by decide)

/-- Digests that are all alike. -/
def constantDigests : SnapshotDigests where
  canonicalIdentityDigest _ _ := String.ofList (List.replicate 64 '0')
  isDigest _ _ := isDigest_constant
  sha256 _ := String.ofList (List.replicate 64 '0')

def sampleHost : ToolHost where
  digests := constantDigests
  floats := ⟨fun _ => "0.0", "NaN"⟩
  str _ := "value"
  processId := 7
  otherTool _ _ := pure (.null, [])

/-- Three empty roots. -/
def emptyTree : FileTree :=
  ⟨[(["source"], .directory), (["base"], .directory), (["work"], .directory)], by decide⟩

def emptyWorkspace : TaskWorkspace where
  snapshotDigest := String.ofList (List.replicate 64 '0')
  sourceRoot := ["source"]
  immutableBaseRoot := ["base"]
  workingRoot := ["work"]

/-- An edit without arguments. -/
def bareEdit : ToolCall where
  callId := "call"
  toolId := "repo.edit"
  arguments := []
  phase := .actorTool
  toolRequestId := some "request"
  verificationStepId := none

lemma digest_emptyTree : repositorySnapshotDigest constantDigests emptyTree ["work"] =
    .ok (String.ofList (List.replicate 64 '0')) := by
  rfl

lemma perform_bareEdit (ceilings : TaskCeilings) (limits : RepairToolLimits) (sequence : ℕ) :
    perform ⟨ceilings, limits, emptyWorkspace⟩ sampleHost sequence bareEdit emptyTree =
      (⟨.failed, some "invalid_arguments", errorOutput "invalid_arguments", []⟩, emptyTree) := by
  rfl

/-- With fewer than 29 bytes left, an edit without arguments overruns what it reserved: its own
error object has as many bytes as the one that would replace it. -/
lemma not_outputFits_bareEdit (S : TrustedRepairToolService) (htree : st.tree = emptyTree)
    (haffordable : ¬st.ledger.Unaffordable now.reserved)
    (hfew : S.ceilings.maxToolOutputBytes < 29 ∨ st.ledger.remainingToolOutputBytes < 29) :
    ¬OutputFits ⟨S.ceilings, S.limits, emptyWorkspace⟩ sampleHost bareEdit now st := by
  have hlimit : callLimit ⟨S.ceilings, S.limits, emptyWorkspace⟩ st.ledger "repo.edit" < 29 := by
    show max 1 (min (min 4096 S.ceilings.maxToolOutputBytes) _) < 29
    omega
  have hsize : (errorOutput "invalid_arguments").byteSize sampleHost.floats = 29 :=
    byteSize_errorOutput _ (plain_of_all (by decide +kernel))
  intro h
  rcases h with h | h | h | h
  · exact haffordable h
  · apply h
    unfold Readable
    rw [htree, perform_bareEdit]
    show (repositorySnapshotDigest constantDigests emptyTree ["work"]).toBool = true ∧
      (repositorySnapshotDigest constantDigests emptyTree ["work"]).toBool = true
    rw [digest_emptyTree]
    exact ⟨rfl, rfl⟩
  · rw [htree, perform_bareEdit] at h
    have hle := h.1
    rw [hsize] at hle
    exact absurd hlimit (not_lt.mpr hle)
  · exact absurd hlimit (not_lt.mpr h)

lemma le_callLimit {L : AggregateBudgetLedger} {toolId : String}
    (hceiling : 29 ≤ S.ceilings.maxToolOutputBytes) (hleft : 29 ≤ L.remainingToolOutputBytes) :
    29 ≤ S.callLimit L toolId := by
  have houtput : 29 ≤ S.outputLimit toolId := by
    unfold outputLimit
    refine le_min ?_ hceiling
    split_ifs <;> omega
  exact le_max_of_le_right (le_min houtput hleft)

/-- A tool call keeps within its reservation exactly when it is refused or raises, or its tool's
output fits, or 29 bytes are left. So in a given state every call does, whatever its tool, its
arguments, its workspace and the results of commands, exactly when no call can be made or at
least 29 bytes are left. -/
theorem invoke_keeps_reservation_iff (S : TrustedRepairToolService) (ceilings : TaskCeilings)
    (start clock : ℚ) (calls : List AggregateBudgetLedger.Call)
    (hhealthy : (((AggregateBudgetLedger.init ceilings start).run calls).snapshot clock).healthy
      = true)
    (hsettled : ((AggregateBudgetLedger.init ceilings start).run calls).reservations = .empty) :
    (∀ H call now st, st.ledger = (AggregateBudgetLedger.init ceilings start).run calls →
      (S.KeepsReservation H call now st ↔ S.OutputFits H call now st)) ∧
    ∀ reserved,
      (∀ workspace H call now st, st.ledger = (AggregateBudgetLedger.init ceilings start).run calls →
        now.reserved = reserved →
        KeepsReservation ⟨S.ceilings, S.limits, workspace⟩ H call now st) ↔
      ((AggregateBudgetLedger.init ceilings start).run calls).Unaffordable reserved ∨
        29 ≤ S.ceilings.maxToolOutputBytes ∧
        29 ≤ ((AggregateBudgetLedger.init ceilings start).run calls).remainingToolOutputBytes := by
  have hidle : ((AggregateBudgetLedger.init ceilings start).run calls).Idle := by
    refine ⟨(AggregateBudgetLedger.within_init ceilings start).run calls, ?_, hsettled⟩
    exact AggregateBudgetLedger.healthy_iff.mp hhealthy
  refine ⟨?_, ?_⟩
  · intro H call now st hledger
    apply keepsReservation_iff_outputFits
    rw [hledger]
    exact hidle
  intro reserved
  constructor
  · intro hall
    by_contra hnot
    rw [not_or, not_and_or, not_le, not_le] at hnot
    obtain ⟨haffordable, hfew⟩ := hnot
    let st : ToolState := ⟨emptyTree, (AggregateBudgetLedger.init ceilings start).run calls, 0, []⟩
    let now : ToolReadings := ⟨0, reserved, reserved, 0⟩
    have hkeeps := hall emptyWorkspace sampleHost bareEdit now st rfl rfl
    rw [keepsReservation_iff_outputFits hidle] at hkeeps
    exact S.not_outputFits_bareEdit rfl haffordable hfew hkeeps
  · intro hcond workspace H call now st hledger hreserved
    apply (keepsReservation_iff_outputFits (by rw [hledger]; exact hidle)).mpr
    rcases hcond with hunaffordable | hleft
    · left
      rw [hledger, hreserved]
      exact hunaffordable
    · right; right; right
      apply le_callLimit hleft.1
      rw [hledger]
      exact hleft.2

theorem thousand_pos : 0 < 1000 := by decide

theorem thousand_le : 1000 ≤ 1000 := Nat.le_refl 1000

theorem noCost_nonneg : (0 : ℚ) ≤ 0 := le_refl 0

/-- Ceilings with so many bytes of tool output. -/
def outputCeilings (bytes : ℕ) (hpos : 0 < bytes) : TaskCeilings where
  maxModelCalls := 1
  maxInputTokens := 1
  maxOutputTokens := 1
  maxCachedTokens := 0
  maxCacheWriteTokens := 0
  maxToolCalls := 1
  maxToolOutputBytes := bytes
  maxArtifactBytes := 1
  maxPatchBytes := 1
  maxRetries := 0
  maxWallTimeMs := 1000
  providerDeadlineMs := 1000
  maxKnownCostUsd := 0
  maxEstimatedCostUsd := 0
  positive := ⟨Nat.one_pos, Nat.one_pos, Nat.one_pos, Nat.one_pos, hpos, Nat.one_pos, Nat.one_pos,
    thousand_pos, thousand_pos⟩
  knownCost_nonneg := noCost_nonneg
  deadline_le := thousand_le
  knownCost_le := noCost_nonneg

/-- With 64 bytes of output an edit without arguments keeps its reservation as the first call. -/
theorem invoke_keeps_reservation_sixty_four :
    KeepsReservation ⟨outputCeilings 64 (by decide), {}, emptyWorkspace⟩ sampleHost bareEdit ⟨0, 0, 0, 0⟩
      ⟨emptyTree, AggregateBudgetLedger.init (outputCeilings 64 (by decide)) 0, 0, []⟩ :=
  ((invoke_keeps_reservation_iff ⟨outputCeilings 64 (by decide), {}, emptyWorkspace⟩
    (outputCeilings 64 (by decide)) 0 0 [] rfl rfl).2 0).mpr (Or.inr ⟨by decide, by decide⟩)
    emptyWorkspace sampleHost bareEdit ⟨0, 0, 0, 0⟩
    ⟨emptyTree, AggregateBudgetLedger.init (outputCeilings 64 (by decide)) 0, 0, []⟩ rfl rfl

/-- With 5 bytes of output the first call, an edit without arguments, does not: it charges 29. -/
theorem bareEdit_overruns : ¬KeepsReservation ⟨outputCeilings 5 (by decide), {}, emptyWorkspace⟩
    sampleHost bareEdit ⟨0, 0, 0, 0⟩
    ⟨emptyTree, AggregateBudgetLedger.init (outputCeilings 5 (by decide)) 0, 0, []⟩ := by
  have hidle : (AggregateBudgetLedger.init (outputCeilings 5 (by decide)) 0).Idle :=
    ⟨AggregateBudgetLedger.within_init _ _, (@AggregateBudgetLedger.healthy_iff _ 0).mp rfl, rfl⟩
  have haffordable : ¬(AggregateBudgetLedger.init (outputCeilings 5 (by decide)) 0).Unaffordable 0 := by
    rintro (h | h | h)
    · exact absurd h (by decide +kernel)
    · exact absurd h (by decide)
    · exact absurd h (by decide)
  rw [keepsReservation_iff_outputFits hidle]
  exact not_outputFits_bareEdit ⟨outputCeilings 5 (by decide), {}, emptyWorkspace⟩ rfl haffordable
    (Or.inl (by decide))

end TrustedRepairToolService
end Agintor.Kernel
