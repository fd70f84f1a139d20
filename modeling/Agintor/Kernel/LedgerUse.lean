import Agintor.Kernel.LedgerCosts

/-!
# What a run of calls uses

What is committed and held of a metric grows over any calls by no more than what the reservations
they issue hold, as long as no violation is recorded.
-/

namespace Agintor.Kernel

open Agintor.Contracts Lib

namespace AggregateBudgetLedger

variable {L L' : AggregateBudgetLedger} {e : Entry}

/-- What is committed and held of a counted metric. -/
def used (L : AggregateBudgetLedger) (m : CountedMetric) : ℕ := L.totals.count m + L.reserved m

/-- What is committed and held of the known cost. -/
def usedKnownCost (L : AggregateBudgetLedger) : ℚ := L.totals.knownCostUsd + L.heldKnownCost

/-- What holds of every ledger that is reached. -/
structure Sound (L : AggregateBudgetLedger) : Prop where
  wellFormed : L.WellFormed
  held_nonneg : ∀ r ∈ L.reservations.values, 0 ≤ r.estimatedCostUsd

lemma sound_init (ceilings : TaskCeilings) (clock : ℚ) : (init ceilings clock).Sound where
  wellFormed := wellFormed_init ceilings clock
  held_nonneg := (funded_init ceilings clock).held_nonneg

/-! ## One call -/

variable {r : BudgetReservation}

variable {args : ProviderCallArgs} {call : Call}

lemma Makes.cost_nonneg (h : Makes L call r) : 0 ≤ r.estimatedCostUsd := by
  cases h with
  | provider clock args haffords => exact haffords.cost_nonneg
  | tool clock maxOutputBytes => exact le_rfl

lemma Sound.operate (h : L.Sound) (call : Call) : (operate call L).2.Sound := by
  have hstep := happened L call
  constructor
  · rw [operate_snd]
    exact h.wellFormed.effect (effect_step h.wellFormed call)
  · generalize (AggregateBudgetLedger.operate call L).2 = L' at hstep
    generalize (⟨call, (AggregateBudgetLedger.operate call L).1⟩ : Entry) = e at hstep
    cases hstep with
    | raised call error => exact h.held_nonneg
    | looked clock => exact h.held_nonneg
    | issued call r hmakes =>
      intro r' hr'
      rcases Dict.mem_values_of_mem_set hr' with rfl | hold
      · exact hmakes.cost_nonneg
      · exact h.held_nonneg r' hold
    | finalised call f clock hcall hstored hkind =>
      intro r hr
      rw [finalise_reservations] at hr
      exact h.held_nonneg r (Dict.mem_values_of_mem_erase hr)

lemma Sound.after (h : L.Sound) (calls : List Call) : (L.after calls).Sound := by
  induction calls generalizing L with
  | nil => exact h
  | cons call calls ih => exact ih (h.operate call)

/-- Settling a call of its kind charges at most what its reservation holds. -/
lemma charged_of_matches (f : Finalisation) (K : AggregateBudgetLedger) (hkind : f.MatchesKind)
    (hcall : f.reservation.HoldsCall) : Charged K (f.settle K) f.reservation.amount := by
  cases f with
  | cancelled r => exact (Charged.refl K).mono fun m => Nat.zero_le _
  | toolCall r outputBytes latencyMs =>
    have hone : r.toolCalls = 1 := hcall.2 hkind
    have hcommit := ((charged_add K 1 .toolCalls).trans
      (charged_add _ outputBytes.toNat .toolOutputBytes)).trans (charged_latency _
        (((K.totals.add 1 .toolCalls).add outputBytes.toNat .toolOutputBytes).latencyMs +
          latencyMs))
    have hheld : Charged K _ r.amount :=
      hcommit.orViolation (c := outputBytes > r.toolOutputBytes)
        (.reservationExceeded .toolOutputBytes) (by
          intro hle m
          have hbytes : outputBytes.toNat ≤ r.toolOutputBytes := by omega
          cases m <;> simp [BudgetReservation.amount, hone, hbytes])
    exact (hheld.trans (charged_recordCeilingViolations _)).mono fun m => le_rfl
  | providerCall r usage latencyMs requestSent =>
    have hone : r.modelCalls = 1 := hcall.1 hkind
    have hretries := (charged_add K r.retries .retries).trans
      (charged_latency _ (K.totals.latencyMs + latencyMs))
    show Charged K (K.settleProviderCall usage latencyMs requestSent r) r.amount
    unfold settleProviderCall
    by_cases hsent : requestSent = false
    · rw [if_pos hsent]
      refine hretries.mono fun m => ?_
      cases m <;> simp [BudgetReservation.amount]
    · rw [if_neg hsent]
      refine ((((hretries.trans (charged_add _ 1 .modelCalls)).trans
        (charged_foldl (charged_commitObserved usage r) _ tokenMetrics)).trans
        (charged_commitCost usage _)).trans ((charged_addViolationIf _ _ _).trans
          (charged_recordCeilingViolations _))).mono fun m => ?_
      cases m <;> simp [BudgetReservation.amount, tokenMetrics, hone]

/-- A new reservation adds what it holds. -/
lemma used_addReservation (h : L.Sound) (hmakes : Makes L call r) (m : CountedMetric) :
    (L.addReservation r).used m = L.used m + r.amount m := by
  have hsum : (L.addReservation r).reserved m = L.reserved m + r.amount m :=
    Dict.sum_set_of_not_mem _ (hmakes.fresh h.wellFormed)
  show L.totals.count m + (L.addReservation r).reserved m = _
  rw [hsum, used]
  omega

lemma usedKnownCost_addReservation (h : L.Sound) (hmakes : Makes L call r) :
    (L.addReservation r).usedKnownCost = L.usedKnownCost + r.knownCost := by
  unfold usedKnownCost
  rw [heldKnownCost_addReservation (hmakes.fresh h.wellFormed)]
  exact (add_assoc _ _ _).symm

/-- The amounts that a list of reservations holds of a metric. -/
def amounts (m : CountedMetric) (rs : List BudgetReservation) : ℕ := (rs.map (·.amount m)).sum

lemma used_le_of_happened (h : L.Sound) (hstep : Happened L e L') (m : CountedMetric)
    (hviolations : L'.violations = []) :
    L.violations = [] ∧ L'.used m ≤ L.used m + amounts m e.issued?.toList := by
  cases hstep with
  | raised call error => exact ⟨hviolations, Nat.le_add_right _ _⟩
  | looked clock => exact ⟨hviolations, Nat.le_add_right _ _⟩
  | issued call r hmakes =>
    refine ⟨hviolations, ?_⟩
    rw [used_addReservation h hmakes]
    simp [Entry.issued?, amounts]
  | finalised call f clock hcall hstored hkind =>
    have hheld := h.wellFormed.holdsCall _ (Dict.mem_values_of_get? hstored)
    have hcharged := charged_of_matches f (L.dropReservation f.reservation.reservationId) hkind
      hheld
    have hcount : (L.finalise f).totals.count m ≤ L.totals.count m + f.reservation.amount m :=
      hcharged.within hviolations m
    have hsum : (L.finalise f).reserved m + f.reservation.amount m = L.reserved m := by
      unfold reserved
      rw [finalise_reservations]
      exact Dict.sum_erase_of_get? _ hstored
    refine ⟨List.subset_nil.mp (hviolations ▸ hcharged.violations), ?_⟩
    unfold used
    omega

/-- A finalisation that reports no known cost, or one that its reservation holds. -/
def Finalisation.CostHeld (f : Finalisation) : Prop :=
  f.totals.knownCostUsd = 0 ∨ f.totals.knownCostUsd ≤ f.reservation.knownCost

lemma usedKnownCost_le_of_happened (h : L.Sound) (hstep : Happened L e L')
    (hcosts : ∀ f ∈ e.finalised?, f.CostHeld) :
    L'.usedKnownCost ≤ L.usedKnownCost + (e.issued?.toList.map (·.knownCost)).sum := by
  cases hstep with
  | raised call error => simp [Entry.issued?]
  | looked clock => simp [Entry.issued?]
  | issued call r hmakes =>
    rw [usedKnownCost_addReservation h hmakes]
    simp [Entry.issued?]
  | finalised call f clock hcall hstored hkind =>
    have hnonneg := knownCost_nonneg (h.held_nonneg _ (Dict.mem_values_of_get? hstored))
    have hheld := heldKnownCost_finalise hstored
    have hcost : f.totals.knownCostUsd ≤ f.reservation.knownCost := by
      rcases hcosts f hcall with hzero | hle
      · rw [hzero]
        exact hnonneg
      · exact hle
    unfold usedKnownCost
    rw [finalise_totals]
    show L.totals.knownCostUsd + f.totals.knownCostUsd + _ ≤ _ + ([] : List ℚ).sum
    rw [List.sum_nil]
    linarith

/-! ## Runs -/

lemma issued_cons (e : Entry) (entries : List Entry) :
    issued (e :: entries) = e.issued?.toList ++ issued entries := by
  unfold issued
  rw [List.filterMap_cons]
  cases e.issued? <;> rfl

lemma mem_finalised_cons {e : Entry} {entries : List Entry} {f : Finalisation} :
    f ∈ finalised (e :: entries) ↔ e.finalised? = some f ∨ f ∈ finalised entries := by
  simp [finalised]

theorem used_le_after (h : L.Sound) (calls : List Call) (m : CountedMetric)
    (hviolations : (L.after calls).violations = []) :
    L.violations = [] ∧
      (L.after calls).used m ≤ L.used m + amounts m (issued (L.history calls)) := by
  induction calls generalizing L with
  | nil => exact ⟨hviolations, Nat.le_add_right _ _⟩
  | cons call calls ih =>
    obtain ⟨hclean, hrest⟩ := ih (h.operate call) hviolations
    obtain ⟨hfirst, hstep⟩ := used_le_of_happened h (happened L call) m hclean
    refine ⟨hfirst, ?_⟩
    have hsplit : amounts m (issued (L.history (call :: calls))) =
        amounts m (Entry.issued? ⟨call, (operate call L).1⟩).toList +
          amounts m (issued ((operate call L).2.history calls)) := by
      show amounts m (issued (_ :: (operate call L).2.history calls)) = _
      unfold amounts
      rw [issued_cons, List.map_append, List.sum_append]
    rw [hsplit]
    show ((operate call L).2.after calls).used m ≤ _
    omega

theorem usedKnownCost_le_after (h : L.Sound) (calls : List Call)
    (hcosts : ∀ f ∈ finalised (L.history calls), f.CostHeld) :
    (L.after calls).usedKnownCost ≤
      L.usedKnownCost + ((issued (L.history calls)).map (·.knownCost)).sum := by
  induction calls generalizing L with
  | nil => simp [AggregateBudgetLedger.after, history, issued]
  | cons call calls ih =>
    have hstep := usedKnownCost_le_of_happened h (happened L call) fun f hf =>
      hcosts f (mem_finalised_cons.mpr (.inl hf))
    have hrest := ih (h.operate call) fun f hf => hcosts f (mem_finalised_cons.mpr (.inr hf))
    unfold history
    rw [issued_cons, List.map_append, List.sum_append]
    show ((operate call L).2.after calls).usedKnownCost ≤ _
    linarith

/-- What is issued in a history was made by one of its calls. -/
lemma makes_of_issued {calls : List Call} (h : r ∈ issued (L.history calls)) :
    ∃ K, ∃ call ∈ calls, Makes K call r := by
  induction calls generalizing L with
  | nil => simp [history, issued] at h
  | cons call calls ih =>
    unfold history at h
    rw [issued_cons, List.mem_append, Option.mem_toList] at h
    rcases h with hfirst | hrest
    · have hstep := happened L call
      generalize (operate call L).2 = L' at hstep
      generalize hentry : (⟨call, (operate call L).1⟩ : Entry) = e at hstep hfirst
      cases hstep with
      | issued call' r' hmakes =>
        obtain rfl : call = call' := congrArg Entry.call hentry
        obtain rfl : r' = r := Option.some.inj hfirst
        exact ⟨L, call, List.mem_cons_self, hmakes⟩
      | raised call' error => simp [Entry.issued?] at hfirst
      | looked clock => simp [Entry.issued?] at hfirst
      | finalised call' f clock _ _ _ => simp [Entry.issued?] at hfirst
    · obtain ⟨K, call', hmem, hmakes⟩ := ih hrest
      exact ⟨K, call', List.mem_cons_of_mem _ hmem, hmakes⟩

/-! ## Refusals -/

lemma lt_of_requireCapacity {metric metric' : String}
    {current held requested limit requested' remaining : ℚ}
    (h : requireCapacity metric current held requested limit =
      .error (.exhausted metric' requested' remaining)) :
    metric = metric' ∧ limit < current + held + requested := by
  unfold requireCapacity at h
  simp only [raiseIf_eq_error_iff, BudgetError.exhausted.injEq] at h
  obtain ⟨hover, rfl, -, -⟩ := h
  have hmax := le_max_right 0 (limit - current - held)
  refine ⟨rfl, ?_⟩
  linarith [tolerance_nonneg]

/-- A reservation that is refused for tokens or known cost would have gone over the ceiling. -/
theorem reserveProviderCall_exhausted {clock : ℚ} {metric : String} {requested remaining : ℚ}
    (h : L.reserveProviderCall clock args = .error (.exhausted metric requested remaining))
    (hmetric : metric ∈ ["input_tokens", "output_tokens", "known_cost_usd"]) :
    L.violations = [] ∧
      ((∃ m ∈ [CountedMetric.inputTokens, .outputTokens],
        limit L.ceilings m < L.used m + (L.providerReservation args).amount m) ∨
      L.ceilings.maxKnownCostUsd < L.usedKnownCost + args.estimatedCostUsd) := by
  unfold reserveProviderCall requireNonnegative requireTime at h
  simp only [bind_eq_error_iff, raiseIf_eq_error_iff, raiseIf_eq_ok_iff, not_not, reduceCtorEq,
    and_false, false_or, BudgetError.exhausted.injEq] at h
  obtain ⟨-, -, -, -, -, -, -, -, -, -, -, -, -, -, htime | ⟨-, -, hunknown | ⟨-, -, hinvalid |
    ⟨-, hviolations, hrest⟩⟩⟩⟩ := h
  · rw [← htime.2.1] at hmetric
    exact absurd hmetric (by decide)
  · rw [← hunknown.2.1] at hmetric
    exact absurd hmetric (by decide)
  · rw [← hinvalid.2.1] at hmetric
    exact absurd hmetric (by decide)
  · refine ⟨hviolations, ?_⟩
    rcases hrest with hcounted | ⟨-, -, hestimated | ⟨-, -, hknown⟩⟩
    · left
      obtain ⟨m, -, herror⟩ := exists_error_of_forM hcounted
      obtain ⟨hname, hover⟩ := lt_of_requireCapacity herror
      have hnat : limit L.ceilings m < L.used m + (L.providerReservation args).amount m := by
        unfold used
        exact_mod_cast hover
      rw [← hname] at hmetric
      cases m with
      | inputTokens => exact ⟨_, by simp, hnat⟩
      | outputTokens => exact ⟨_, by simp, hnat⟩
      | _ => exact absurd hmetric (by simp [CountedMetric.name])
    · rw [← (lt_of_requireCapacity hestimated).1] at hmetric
      exact absurd hmetric (by decide)
    · right
      by_cases hk : args.expectedCostStatus = .known
      · rw [if_pos hk, bind_eq_error_iff] at hknown
        rcases hknown with herror | ⟨_, -, hpure⟩
        · exact (lt_of_requireCapacity herror).2
        · simp at hpure
      · rw [if_neg hk] at hknown
        simp at hknown

/-- The error of a reservation is the error of its call. -/
lemma reserveProviderCall_of_operate {clock : ℚ} {error : BudgetError}
    (h : (operate (.reserveProviderCall clock args) L).1 = .error error) :
    L.reserveProviderCall clock args = .error error := by
  rw [operate_reserveProviderCall, Stateful.map_apply] at h
  cases hreserve : L.reserveProviderCall clock args with
  | error e =>
    rw [Stateful.atomically_of_error hreserve] at h
    injection h with herror
    rw [herror]
  | ok reserved =>
    rw [Stateful.atomically_of_ok hreserve] at h
    cases h

end AggregateBudgetLedger
end Agintor.Kernel
