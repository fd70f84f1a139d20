import Agintor.Kernel.CompositeBudget
import Mathlib.Tactic.NormNum
import Mathlib.Tactic.Push

/-!
# Safety of the aggregate budget ledger

What a reservation holds plus what was committed stays within the ceilings as long as no
violation was recorded, over every interleaving of calls; and a ledger that has recorded a
violation or an unknown report never recovers.

Every call is classified once, by an inversion lemma: it leaves the ledger alone, adds one
reservation that fits, or takes one stored reservation out and charges at most what that
reservation held. The invariant is preserved by each of the three.
-/

namespace Agintor.Kernel

open Agintor.Contracts Lib

/-! ## Counted metrics -/

/-- Adding to one metric leaves the others. -/
lemma Totals.count_add (t : Totals) (n : ℕ) (m m' : CountedMetric) :
    (t.add n m).count m' = t.count m' + if m' = m then n else 0 := by
  cases m <;> cases m' <;> rfl

@[simp] lemma Totals.unknownCostEvents_add (t : Totals) (n : ℕ) (m : CountedMetric) :
    (t.add n m).unknownCostEvents = t.unknownCostEvents := by
  cases m <;> rfl

@[simp] lemma Totals.unknownUsageEvents_add (t : Totals) (n : ℕ) (m : CountedMetric) :
    (t.add n m).unknownUsageEvents = t.unknownUsageEvents := by
  cases m <;> rfl

/-- Every stored reservation holds the one call it stands for. -/
def BudgetReservation.HoldsCall (r : BudgetReservation) : Prop :=
  (r.kind = .provider → r.modelCalls = 1) ∧ (r.kind = .tool → r.toolCalls = 1)

namespace AggregateBudgetLedger

/-- A violation, an unknown usage report or an unknown cost report has been recorded. -/
def Tainted (L : AggregateBudgetLedger) : Prop :=
  L.violations ≠ [] ∨ L.totals.unknownCostEvents ≠ 0 ∨ L.totals.unknownUsageEvents ≠ 0

/-- Holding back `n` more of a metric keeps it within its ceiling. -/
def Fits (L : AggregateBudgetLedger) (m : CountedMetric) (n : ℕ) : Prop :=
  n = 0 ∨ L.totals.count m + L.reserved m + n ≤ limit L.ceilings m

variable {L : AggregateBudgetLedger} {p : AggregateBudgetSnapshot × AggregateBudgetLedger}
    {reservation : BudgetReservation} {h h' : CountedMetric → ℕ} {r : BudgetReservation}
    {clock : ℚ} {latencyMs : ℚ}

/-- On whole units the tolerance of the capacity check has no effect. -/
lemma fits_of_requireCounted {m : CountedMetric} {n : ℕ} (h : L.requireCounted (m, n) = .ok ()) :
    L.Fits m n := by
  unfold requireCounted requireCapacity at h
  rw [raiseIf_eq_ok_iff, not_lt] at h
  have htol : tolerance < 1 := by
    unfold tolerance
    norm_num
  by_cases hn : n = 0
  · exact Or.inl hn
  · right
    rcases le_total ((limit L.ceilings m : ℚ) - L.totals.count m - L.reserved m) 0 with hneg | hpos
    · -- nothing remains, so a request of at least one unit is refused
      rw [max_eq_left hneg, zero_add] at h
      have hone : (1 : ℚ) ≤ n := by exact_mod_cast Nat.one_le_iff_ne_zero.mpr hn
      exact absurd (lt_of_le_of_lt h htol) (not_lt.mpr hone)
    · rw [max_eq_right hpos] at h
      have hlt : ((L.totals.count m + L.reserved m + n : ℕ) : ℚ) < (limit L.ceilings m + 1 : ℕ) := by
        push_cast
        linarith
      have hnat : L.totals.count m + L.reserved m + n < limit L.ceilings m + 1 := by
        exact_mod_cast hlt
      omega

/-! ## What a charge may change

`Charged L L' held`: `L'` comes from `L` by committing totals and recording violations,
and, unless a violation was recorded, at most `held m` was committed of each metric. -/

structure Charged (L L' : AggregateBudgetLedger) (held : CountedMetric → ℕ) : Prop where
  ceilings : L'.ceilings = L.ceilings
  sequence : L'.sequence = L.sequence
  reservations : L'.reservations = L.reservations
  violations : L.violations ⊆ L'.violations
  unknownCost : L.totals.unknownCostEvents ≤ L'.totals.unknownCostEvents
  unknownUsage : L.totals.unknownUsageEvents ≤ L'.totals.unknownUsageEvents
  within : L'.violations = [] → ∀ m, L'.totals.count m ≤ L.totals.count m + held m

lemma Charged.refl (L : AggregateBudgetLedger) : Charged L L 0 :=
  ⟨rfl, rfl, rfl, List.Subset.refl _, le_rfl, le_rfl, fun _ _ => le_rfl⟩

lemma Charged.trans {L L' L'' : AggregateBudgetLedger} (h₁ : Charged L L' h)
    (h₂ : Charged L' L'' h') : Charged L L'' (h + h') where
  ceilings := h₂.ceilings.trans h₁.ceilings
  sequence := h₂.sequence.trans h₁.sequence
  reservations := h₂.reservations.trans h₁.reservations
  violations := List.Subset.trans h₁.violations h₂.violations
  unknownCost := h₁.unknownCost.trans h₂.unknownCost
  unknownUsage := h₁.unknownUsage.trans h₂.unknownUsage
  within := by
    intro hv m
    have hv' : L'.violations = [] := List.subset_nil.mp (hv ▸ h₂.violations)
    have hle := h₁.within hv' m
    have hle' := h₂.within hv m
    rw [Pi.add_apply]
    omega

lemma Charged.mono {L L' : AggregateBudgetLedger} (hc : Charged L L' h) (hle : ∀ m, h m ≤ h' m) :
    Charged L L' h' :=
  { hc with within := fun hv m => (hc.within hv m).trans (Nat.add_le_add_left (hle m) _) }

/-- Recording a violation commits nothing. -/
lemma charged_addViolationIf (L : AggregateBudgetLedger) (c : Prop) [Decidable c] (v : Violation) :
    Charged L (L.addViolationIf c v) 0 := by
  unfold addViolationIf
  by_cases hc : c
  · rw [if_pos hc]
    refine { Charged.refl L with violations := ?_, within := ?_ }
    · intro x hx
      exact List.mem_insert_of_mem hx
    · intro _ m
      exact le_rfl
  · rw [if_neg hc]
    exact Charged.refl L

lemma addViolationIf_violations_ne_nil {c : Prop} [Decidable c] {v : Violation} (hc : c) :
    (L.addViolationIf c v).violations ≠ [] := by
  unfold addViolationIf
  rw [if_pos hc]
  exact List.ne_nil_of_mem (List.mem_insert_self (a := v) (l := L.violations))

@[simp] lemma addViolationIf_totals (L : AggregateBudgetLedger) (c : Prop) [Decidable c]
    (v : Violation) : (L.addViolationIf c v).totals = L.totals := by
  unfold addViolationIf
  split <;> rfl

lemma totals_foldl_addViolationIf {α : Type} {c : α → Prop} [DecidablePred c] {v : α → Violation}
    (L : AggregateBudgetLedger) (as : List α) :
    (as.foldl (fun acc a => acc.addViolationIf (c a) (v a)) L).totals = L.totals := by
  induction as generalizing L with
  | nil => rfl
  | cons a as ih => rw [List.foldl_cons, ih, addViolationIf_totals]

@[simp] lemma recordCeilingViolations_totals (L : AggregateBudgetLedger) :
    L.recordCeilingViolations.totals = L.totals := by
  unfold recordCeilingViolations
  rw [addViolationIf_totals, addViolationIf_totals, totals_foldl_addViolationIf]

/-- A loop charges what its iterations charge together. -/
lemma charged_foldl {α : Type} {f : AggregateBudgetLedger → α → AggregateBudgetLedger}
    {held : α → CountedMetric → ℕ} (hf : ∀ L a, Charged L (f L a) (held a))
    (L : AggregateBudgetLedger) (as : List α) :
    Charged L (as.foldl f L) (fun m => (as.map fun a => held a m).sum) := by
  induction as generalizing L with
  | nil => exact Charged.refl L
  | cons a as ih => exact (hf L a).trans (ih (f L a))

lemma charged_recordCeilingViolations (L : AggregateBudgetLedger) :
    Charged L L.recordCeilingViolations 0 := by
  unfold recordCeilingViolations
  have hstep : ∀ (acc : AggregateBudgetLedger) (m : CountedMetric),
      Charged acc (acc.addViolationIf ((L.totals.count m : ℚ) > (limit L.ceilings m : ℚ) + tolerance)
        (.ceilingExceeded m)) ((fun _ => 0 : CountedMetric → CountedMetric → ℕ) m) := by
    intro acc m
    exact charged_addViolationIf acc _ _
  apply Charged.mono (((charged_foldl hstep L _).trans
    (charged_addViolationIf _ _ _)).trans (charged_addViolationIf _ _ _))
  intro m
  simp

/-- Committing `n` units of one metric charges them. -/
lemma charged_add (L : AggregateBudgetLedger) (n : ℕ) (m : CountedMetric) :
    Charged L { L with totals := L.totals.add n m } (fun m' => if m' = m then n else 0) where
  ceilings := rfl
  sequence := rfl
  reservations := rfl
  violations := List.Subset.refl _
  unknownCost := by simp
  unknownUsage := by simp
  within := by
    intro _ m'
    rw [Totals.count_add]

/-- A charge that exceeds what was held is recorded as a violation. -/
lemma Charged.orViolation {L L' : AggregateBudgetLedger} (hc : Charged L L' h) {c : Prop}
    [Decidable c] (v : Violation) (hle : ¬c → ∀ m, h m ≤ h' m) :
    Charged L (L'.addViolationIf c v) h' := by
  have hall := hc.trans (charged_addViolationIf L' c v)
  refine { hall with within := ?_ }
  intro hv m
  have hnot : ¬c := fun hcond => addViolationIf_violations_ne_nil hcond hv
  have hwithin := hall.within hv m
  rw [Pi.add_apply, Pi.zero_apply] at hwithin
  exact hwithin.trans (Nat.add_le_add_left (hle hnot m) _)

/-- Observed use is charged to the reservation, or recorded as a violation. -/
lemma charged_commitObserved (usage : ProviderUsageReport) (stored : BudgetReservation)
    (L : AggregateBudgetLedger) (m : CountedMetric) :
    Charged L (commitObserved usage stored L m)
      (fun m' => if m' = m then stored.amount m else 0) := by
  unfold commitObserved
  cases usage.observed m with
  | none => exact (Charged.refl L).mono fun m' => Nat.zero_le _
  | some observed =>
    apply (charged_add L observed m).orViolation
    intro hle m'
    by_cases hm : m' = m
    · rw [if_pos hm, if_pos hm]
      omega
    · rw [if_neg hm, if_neg hm]

/-- The cost part of a report commits no counted metric. -/
lemma charged_commitCost (usage : ProviderUsageReport) (L : AggregateBudgetLedger) :
    Charged L { L with totals := commitCost usage L.totals } 0 := by
  have hcount : ∀ m, (commitCost usage L.totals).count m = L.totals.count m := by
    intro m
    unfold commitCost
    split <;> split <;> cases m <;> rfl
  refine ⟨rfl, rfl, rfl, List.Subset.refl _, ?_, ?_, fun _ m => (hcount m).le⟩
  · show _ ≤ (commitCost usage L.totals).unknownCostEvents
    unfold commitCost
    split <;> split <;> simp
  · show _ ≤ (commitCost usage L.totals).unknownUsageEvents
    unfold commitCost
    split <;> split <;> simp

/-- Latency is not a counted metric. -/
lemma charged_latency (L : AggregateBudgetLedger) (latencyMs : ℚ) :
    Charged L { L with totals := { L.totals with latencyMs := latencyMs } } 0 := by
  refine ⟨rfl, rfl, rfl, List.Subset.refl _, le_rfl, le_rfl, fun _ m => ?_⟩
  cases m <;> exact le_rfl

/-! ## What a call can do -/

/-- The ledger without one of its stored reservations. -/
def dropReservation (L : AggregateBudgetLedger) (id : String) : AggregateBudgetLedger :=
  { L with reservations := L.reservations.erase id }

/-- The effect of a call: nothing, one new reservation that fits, or one stored reservation
taken out and charged. -/
inductive Effect (L : AggregateBudgetLedger) : AggregateBudgetLedger → Prop
  | unchanged : Effect L L
  | reserved (r : BudgetReservation) (hid : r.reservationId = L.nextReservationId r.kind)
      (hcall : r.HoldsCall) (hclean : ¬L.Tainted) (hfits : ∀ m, L.Fits m (r.amount m)) :
      Effect L (L.addReservation r)
  | finalized (id : String) (stored : BudgetReservation) (L' : AggregateBudgetLedger)
      (hstored : L.reservations.get? id = some stored)
      (hcharged : Charged (L.dropReservation id) L' stored.amount) : Effect L L'

lemma not_tainted_of_checks
    (hunknown : ¬(L.totals.unknownCostEvents ≠ 0 ∨ L.totals.unknownUsageEvents ≠ 0))
    (hviolations : ¬L.violations ≠ []) : ¬L.Tainted := by
  unfold Tainted
  tauto

lemma holdsCall_providerReservation (L : AggregateBudgetLedger) (args : ProviderCallArgs) :
    (L.providerReservation args).HoldsCall := by
  refine ⟨fun _ => rfl, ?_⟩
  show ReservationKind.provider = ReservationKind.tool → _
  intro h
  exact absurd h (by decide)

lemma holdsCall_toolReservation (L : AggregateBudgetLedger) (maxOutputBytes : ℤ) :
    (L.toolReservation maxOutputBytes).HoldsCall := by
  refine ⟨?_, fun _ => rfl⟩
  show ReservationKind.tool = ReservationKind.provider → _
  intro h
  exact absurd h (by decide)

lemma effect_reserveProviderCall {L L' : AggregateBudgetLedger} {args : ProviderCallArgs}
    (h : L.reserveProviderCall clock args = .ok (r, L')) : ¬L.Tainted ∧ Effect L L' := by
  unfold reserveProviderCall at h
  simp only [bind_eq_ok_iff, raiseIf_eq_ok_iff, forM_eq_ok_iff] at h
  obtain ⟨-, -, -, -, -, -, -, -, -, -, -, -, -, -, -, -, -, hunknown, -, hviolations, -, hcounted,
    -, -, hknown⟩ := h
  have hclean := not_tainted_of_checks hunknown hviolations
  have hL' : L.addReservation (L.providerReservation args) = L' := by
    by_cases hk : args.expectedCostStatus = .known
    · simp only [if_pos hk, bind_eq_ok_iff, pure_eq_ok, Except.ok.injEq, Prod.mk.injEq] at hknown
      obtain ⟨-, -, -, hret⟩ := hknown
      exact hret
    · simp only [if_neg hk, pure_eq_ok, Except.ok.injEq, Prod.mk.injEq] at hknown
      exact hknown.2
  refine ⟨hclean, ?_⟩
  rw [← hL']
  refine .reserved _ rfl (holdsCall_providerReservation L args) hclean fun m => ?_
  -- the metrics of tool calls are not checked: a provider reservation holds none of them
  cases m with
  | toolCalls => exact Or.inl rfl
  | toolOutputBytes => exact Or.inl rfl
  | _ => exact fits_of_requireCounted (hcounted _ (by simp))

lemma effect_reserveToolCall {L L' : AggregateBudgetLedger} {maxOutputBytes : ℤ}
    (h : L.reserveToolCall clock maxOutputBytes = .ok (r, L')) : ¬L.Tainted ∧ Effect L L' := by
  unfold reserveToolCall at h
  simp only [bind_eq_ok_iff, raiseIf_eq_ok_iff, forM_eq_ok_iff] at h
  obtain ⟨-, -, -, -, -, hunknown, -, hviolations, -, hcounted, hret⟩ := h
  have hclean := not_tainted_of_checks hunknown hviolations
  simp only [pure_eq_ok, Except.ok.injEq, Prod.mk.injEq] at hret
  refine ⟨hclean, ?_⟩
  rw [← hret.2]
  refine .reserved _ rfl (holdsCall_toolReservation L maxOutputBytes) hclean fun m => ?_
  cases m with
  | toolCalls => exact fits_of_requireCounted (hcounted _ (by simp))
  | toolOutputBytes => exact fits_of_requireCounted (hcounted _ (by simp))
  | _ => exact Or.inl rfl

/-- A reservation is popped only when it is stored, and stored exactly as the caller has it. -/
lemma popReservation_ok {kind : ReservationKind} {p : BudgetReservation × AggregateBudgetLedger}
    (h : L.popReservation reservation kind = .ok p) :
    L.reservations.get? reservation.reservationId = some p.1 ∧ p.1.kind = kind ∧
      p.2 = L.dropReservation reservation.reservationId := by
  unfold popReservation at h
  cases hget : L.reservations.get? reservation.reservationId with
  | none => simp [hget] at h
  | some stored =>
    simp only [hget, bind_eq_ok_iff, raiseIf_eq_ok_iff, not_or, not_not, pure_eq_ok,
      Except.ok.injEq] at h
    obtain ⟨-, ⟨-, hkind⟩, rfl⟩ := h
    exact ⟨rfl, hkind, rfl⟩

lemma effect_cancelReservation (h : L.cancelReservation clock reservation = .ok p) :
    Effect L p.2 := by
  unfold cancelReservation at h
  simp only [bind_eq_ok_iff, pure_eq_ok, Except.ok.injEq] at h
  obtain ⟨q, hpop, rfl⟩ := h
  obtain ⟨hstored, -, hq⟩ := popReservation_ok hpop
  refine .finalized _ _ _ hstored ?_
  rw [hq]
  exact (Charged.refl _).mono fun m => Nat.zero_le _

section

variable (hcalls : ∀ r ∈ L.reservations.values, r.HoldsCall)
include hcalls

lemma effect_completeProviderCall {usage : ProviderUsageReport} {requestSent : Bool}
    (h : L.completeProviderCall clock reservation usage latencyMs requestSent = .ok p) :
    Effect L p.2 := by
  unfold completeProviderCall at h
  simp only [bind_eq_ok_iff] at h
  obtain ⟨-, -, -, -, ⟨stored, L₁⟩, hpop, h⟩ := h
  obtain ⟨hstored, hkind, hL₁⟩ := popReservation_ok hpop
  simp only at hstored hkind hL₁ h
  have hone : stored.modelCalls = 1 := (hcalls _ (Dict.mem_values_of_get? hstored)).1 hkind
  refine .finalized _ _ _ hstored ?_
  rw [← hL₁]
  -- the retry is charged first, whether or not the request was sent
  have hretries := (charged_add L₁ stored.retries .retries).trans
    (charged_latency _ (L₁.totals.latencyMs + latencyMs))
  by_cases hsent : requestSent = false
  · rw [if_pos hsent, pure_eq_ok, Except.ok.injEq] at h
    rw [← h]
    refine hretries.mono fun m => ?_
    cases m <;> simp [BudgetReservation.amount]
  · rw [if_neg hsent, pure_eq_ok, Except.ok.injEq] at h
    rw [← h]
    refine Charged.mono ((((hretries.trans (charged_add _ 1 .modelCalls)).trans
      (charged_foldl (charged_commitObserved usage stored) _ tokenMetrics)).trans
      (charged_commitCost usage _)).trans ((charged_addViolationIf _ _ _).trans
        (charged_recordCeilingViolations _))) fun m => ?_
    cases m <;> simp [BudgetReservation.amount, tokenMetrics, hone]

lemma effect_completeProviderFailure {requestSent : Bool} {usage : Option ProviderUsageReport}
    (h : L.completeProviderFailure clock reservation requestSent usage latencyMs = .ok p) :
    Effect L p.2 := by
  unfold completeProviderFailure at h
  cases requestSent with
  | true => exact effect_completeProviderCall hcalls h
  | false => exact effect_completeProviderCall hcalls h

lemma effect_completeToolCall {outputBytes : ℤ}
    (h : L.completeToolCall clock reservation outputBytes latencyMs = .ok p) : Effect L p.2 := by
  unfold completeToolCall at h
  simp only [bind_eq_ok_iff] at h
  obtain ⟨-, -, -, -, ⟨stored, L₁⟩, hpop, h⟩ := h
  obtain ⟨hstored, hkind, hL₁⟩ := popReservation_ok hpop
  simp only at hstored hkind hL₁ h
  have hone : stored.toolCalls = 1 := (hcalls _ (Dict.mem_values_of_get? hstored)).2 hkind
  rw [pure_eq_ok, Except.ok.injEq] at h
  refine .finalized _ _ _ hstored ?_
  rw [← hL₁, ← h]
  have hcommit := ((charged_add L₁ 1 .toolCalls).trans
    (charged_add _ outputBytes.toNat .toolOutputBytes)).trans (charged_latency _
      (((L₁.totals.add 1 .toolCalls).add outputBytes.toNat .toolOutputBytes).latencyMs + latencyMs))
  have hheld : Charged L₁ _ stored.amount :=
    hcommit.orViolation (c := outputBytes > stored.toolOutputBytes)
      (.reservationExceeded .toolOutputBytes) (by
        intro hle m
        have hbytes : outputBytes.toNat ≤ stored.toolOutputBytes := by omega
        cases m <;> simp [BudgetReservation.amount, hone, hbytes])
  exact (hheld.trans (charged_recordCeilingViolations _)).mono fun m => le_rfl

end

/-! ## The invariant -/

/-- What holds of every reachable ledger. -/
structure WellFormed (L : AggregateBudgetLedger) : Prop where
  issued : ∀ k ∈ L.reservations.keys, ∃ (kind : ReservationKind) (n : ℕ), n ≤ L.sequence ∧
    k = "budget." ++ kind.value ++ "." ++ zeroPad 6 n
  holdsCall : ∀ r ∈ L.reservations.values, r.HoldsCall
  bounded : L.violations = [] → ∀ m, L.totals.count m + L.reserved m ≤ limit L.ceilings m

/-- The number in a reservation id can be read off the id. -/
lemma reservationId_injective {kind kind' : ReservationKind} {n n' : ℕ}
    (h : "budget." ++ kind.value ++ "." ++ zeroPad 6 n
      = "budget." ++ kind'.value ++ "." ++ zeroPad 6 n') : n = n' := by
  have hl := congrArg String.toList h
  simp only [String.toList_append, toList_zeroPad] at hl
  cases kind <;> cases kind' <;>
    simp [ReservationKind.value] at hl
  · exact zeroPadChars_injective 6 hl
  · exact zeroPadChars_injective 6 hl

/-- The next id has not been given out. -/
lemma WellFormed.nextReservationId_fresh (h : L.WellFormed) (kind : ReservationKind) :
    L.nextReservationId kind ∉ L.reservations.keys := by
  intro hmem
  obtain ⟨kind', n, hn, hk⟩ := h.issued _ hmem
  have heq : L.sequence + 1 = n := reservationId_injective hk
  omega

lemma wellFormed_init (ceilings : TaskCeilings) (clock : ℚ) : (init ceilings clock).WellFormed where
  issued := by
    intro k hk
    simp [init, Dict.empty, Dict.keys] at hk
  holdsCall := by
    intro r hr
    simp [init, Dict.empty, Dict.values] at hr
  bounded := by
    intro _ m
    cases m <;> exact Nat.zero_le _

/-- A reservation that fits keeps the bound. -/
lemma WellFormed.addReservation (h : L.WellFormed)
    (hid : r.reservationId = L.nextReservationId r.kind) (hcall : r.HoldsCall)
    (hfits : ∀ m, L.Fits m (r.amount m)) : (L.addReservation r).WellFormed := by
  have hfresh : r.reservationId ∉ L.reservations.keys := by
    rw [hid]
    exact h.nextReservationId_fresh r.kind
  refine ⟨?_, ?_, ?_⟩
  · intro k hk
    rcases Dict.mem_keys_set.mp hk with rfl | hold
    · exact ⟨r.kind, L.sequence + 1, le_rfl, hid⟩
    · obtain ⟨kind, n, hn, hkey⟩ := h.issued k hold
      exact ⟨kind, n, Nat.le_succ_of_le hn, hkey⟩
  · intro r' hr'
    rcases Dict.mem_values_of_mem_set hr' with rfl | hold
    · exact hcall
    · exact h.holdsCall r' hold
  · intro hv m
    have hsum : (L.addReservation r).reserved m = L.reserved m + r.amount m :=
      Dict.sum_set_of_not_mem _ hfresh
    have hbound := h.bounded hv m
    show L.totals.count m + (L.addReservation r).reserved m ≤ limit L.ceilings m
    rw [hsum]
    rcases hfits m with hzero | hle
    · omega
    · omega

/-- Charging at most what the dropped reservation held keeps the bound. -/
lemma WellFormed.finalize {L L' : AggregateBudgetLedger} (h : L.WellFormed) {id : String}
    {stored : BudgetReservation} (hstored : L.reservations.get? id = some stored)
    (hcharged : Charged (L.dropReservation id) L' stored.amount) : L'.WellFormed := by
  have hres : L'.reservations = L.reservations.erase id := hcharged.reservations
  refine ⟨?_, ?_, ?_⟩
  · intro k hk
    rw [hres, Dict.mem_keys_erase] at hk
    rw [show L'.sequence = L.sequence from hcharged.sequence]
    exact h.issued k hk.2
  · intro r hr
    rw [hres] at hr
    exact h.holdsCall r (Dict.mem_values_of_mem_erase hr)
  · intro hv m
    have hv₀ : L.violations = [] := List.subset_nil.mp (hv ▸ hcharged.violations)
    have hbound := h.bounded hv₀ m
    have hcount : L'.totals.count m ≤ L.totals.count m + stored.amount m := hcharged.within hv m
    have hsum : L'.reserved m + stored.amount m = L.reserved m := by
      unfold reserved
      rw [hres]
      exact Dict.sum_erase_of_get? _ hstored
    rw [show L'.ceilings = L.ceilings from hcharged.ceilings]
    omega

/-! ## One call -/

/-- Every call has one of the three effects. -/
lemma effect_step (h : L.WellFormed) (call : Call) : Effect L (L.step call) := by
  unfold step
  cases hp : L.perform call with
  | error e => exact .unchanged
  | ok L' =>
    have hmap : ∀ {α : Type} {x : Except BudgetError (α × AggregateBudgetLedger)},
        (·.2) <$> x = .ok L' → ∃ a, x = .ok (a, L') := by
      intro α x hx
      cases x with
      | error e => simp at hx
      | ok p =>
        obtain ⟨a, L''⟩ := p
        simp only [Functor.map, Except.map, Except.ok.injEq] at hx
        exact ⟨a, by rw [hx]⟩
    cases call with
    | reserveProviderCall clock args =>
      obtain ⟨r, hr⟩ := hmap hp
      exact (effect_reserveProviderCall hr).2
    | reserveToolCall clock maxOutputBytes =>
      obtain ⟨r, hr⟩ := hmap hp
      exact (effect_reserveToolCall hr).2
    | cancelReservation clock r =>
      obtain ⟨s, hs⟩ := hmap hp
      exact effect_cancelReservation hs
    | completeProviderCall clock r usage latencyMs requestSent =>
      obtain ⟨s, hs⟩ := hmap hp
      exact effect_completeProviderCall h.holdsCall hs
    | completeProviderFailure clock r requestSent usage latencyMs =>
      obtain ⟨s, hs⟩ := hmap hp
      exact effect_completeProviderFailure h.holdsCall hs
    | completeToolCall clock r outputBytes latencyMs =>
      obtain ⟨s, hs⟩ := hmap hp
      exact effect_completeToolCall h.holdsCall hs
    | snapshot clock =>
      unfold perform at hp
      obtain rfl : L = L' := by simpa using hp
      exact .unchanged

lemma WellFormed.effect {L L' : AggregateBudgetLedger} (h : L.WellFormed) (he : Effect L L') :
    L'.WellFormed := by
  cases he with
  | unchanged => exact h
  | reserved r hid hcall _ hfits => exact h.addReservation hid hcall hfits
  | finalized id stored _ hstored hcharged => exact h.finalize hstored hcharged

lemma Effect.ceilings {L L' : AggregateBudgetLedger} (he : Effect L L') :
    L'.ceilings = L.ceilings := by
  cases he with
  | unchanged => rfl
  | reserved r _ _ _ _ => rfl
  | finalized id stored _ _ hcharged => exact hcharged.ceilings

/-- A recorded violation or unknown report stays recorded. -/
lemma Effect.tainted {L L' : AggregateBudgetLedger} (he : Effect L L') (ht : L.Tainted) :
    L'.Tainted := by
  cases he with
  | unchanged => exact ht
  | reserved r _ _ _ _ => exact ht
  | finalized id stored _ _ hcharged =>
    have hcost : L.totals.unknownCostEvents ≤ L'.totals.unknownCostEvents := hcharged.unknownCost
    have husage : L.totals.unknownUsageEvents ≤ L'.totals.unknownUsageEvents :=
      hcharged.unknownUsage
    rcases ht with hv | hc | hu
    · left
      intro hv'
      exact hv (List.subset_nil.mp (hv' ▸ hcharged.violations))
    · right; left
      omega
    · right; right
      omega

/-! ## Runs -/

lemma WellFormed.run (h : L.WellFormed) (calls : List Call) :
    (L.run calls).WellFormed ∧ (L.run calls).ceilings = L.ceilings ∧
      (L.Tainted → (L.run calls).Tainted) := by
  induction calls generalizing L with
  | nil => exact ⟨h, rfl, id⟩
  | cons call calls ih =>
    have he := effect_step h call
    obtain ⟨hwf, hceil, htaint⟩ := ih (h.effect he)
    exact ⟨hwf, hceil.trans he.ceilings, fun ht => htaint (he.tainted ht)⟩

/-- A tainted ledger refuses every reservation. -/
lemma Tainted.reserve_refused (ht : L.Tainted) :
    (∀ clock args, ∃ e, L.reserveProviderCall clock args = .error e) ∧
      ∀ clock maxOutputBytes, ∃ e, L.reserveToolCall clock maxOutputBytes = .error e := by
  constructor
  · intro clock args
    cases h : L.reserveProviderCall clock args with
    | error e => exact ⟨e, rfl⟩
    | ok p => exact absurd ht (effect_reserveProviderCall h).1
  · intro clock maxOutputBytes
    cases h : L.reserveToolCall clock maxOutputBytes with
    | error e => exact ⟨e, rfl⟩
    | ok p => exact absurd ht (effect_reserveToolCall h).1

/-- A tainted ledger is not healthy. -/
lemma Tainted.not_healthy (ht : L.Tainted) (clock : ℚ) : (L.snapshot clock).healthy = false := by
  unfold snapshot
  simp only [decide_eq_false_iff_not]
  unfold Tainted at ht
  tauto

/-- Reserve-before-dispatch: as long as no violation was recorded, what was committed and
what is still held stay within each ceiling; and once a violation or an unknown report was
recorded, every later reservation is refused and no later snapshot is healthy. -/
theorem reserved_and_committed_within_ceilings (ceilings : TaskCeilings) (clock : ℚ)
    (calls : List Call) :
    (((init ceilings clock).run calls).violations = [] →
      ∀ m, ((init ceilings clock).run calls).totals.count m
        + ((init ceilings clock).run calls).reserved m ≤ limit ceilings m) ∧
    (((init ceilings clock).run calls).Tainted → ∀ later : List Call,
      (∀ now args, ∃ e,
        (((init ceilings clock).run calls).run later).reserveProviderCall now args = .error e) ∧
      (∀ now maxOutputBytes, ∃ e,
        (((init ceilings clock).run calls).run later).reserveToolCall now maxOutputBytes
          = .error e) ∧
      ∀ now, ((((init ceilings clock).run calls).run later).snapshot now).healthy = false) := by
  obtain ⟨hwf, hceil, -⟩ := (wellFormed_init ceilings clock).run calls
  constructor
  · intro hv m
    have hbound := hwf.bounded hv m
    rw [hceil] at hbound
    exact hbound
  · intro ht later
    have ht' := (hwf.run later).2.2 ht
    exact ⟨ht'.reserve_refused.1, ht'.reserve_refused.2, ht'.not_healthy⟩

end AggregateBudgetLedger
end Agintor.Kernel
