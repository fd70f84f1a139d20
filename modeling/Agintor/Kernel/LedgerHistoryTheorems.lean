import Agintor.Kernel.LedgerHistory

/-!
# Exact accounting

A call is classified once (`Happened`): it raises and changes nothing, issues a fresh reservation,
or takes one stored reservation out and adds what its finalisation reports. Over a whole history
the totals are then the sum of the finalisations.
-/

namespace Agintor.Kernel

open Agintor.Contracts Lib

/-! ## What is committed -/

lemma Totals.plus_empty (t : Totals) : t.plus {} = t := by
  simp [Totals.plus]

namespace AggregateBudgetLedger

/-- A count that is not reported adds nothing. -/
lemma commitObserved_totals (usage : ProviderUsageReport) (stored : BudgetReservation)
    (L : AggregateBudgetLedger) (m : CountedMetric) :
    (commitObserved usage stored L m).totals = L.totals.add ((usage.observed m).getD 0) m := by
  unfold commitObserved
  cases usage.observed m with
  | none => cases m <;> rfl
  | some n => exact addViolationIf_totals _ _ _

/-- The cost and the two kinds of unknown events, in the words of the report. -/
lemma commitCost_eq (usage : ProviderUsageReport) (t : Totals) :
    commitCost usage t = t.plus
      { knownCostUsd := usage.totals.knownCostUsd
        estimatedCostUsd := usage.totals.estimatedCostUsd
        unknownCostEvents := usage.totals.unknownCostEvents
        unknownUsageEvents := usage.totals.unknownUsageEvents } := by
  unfold commitCost ProviderUsageReport.totals Totals.plus
  by_cases husage : usage.usageStatus = .unknown
  · cases hcost : usage.costStatus <;> simp [husage]
  · cases hcost : usage.costStatus <;> simp [husage]

theorem settleProviderCall_totals (L : AggregateBudgetLedger) (usage : ProviderUsageReport)
    (latencyMs : ℚ) (requestSent : Bool) (stored : BudgetReservation) :
    (L.settleProviderCall usage latencyMs requestSent stored).totals =
      L.totals.plus (Finalisation.providerCall stored usage latencyMs requestSent).totals := by
  unfold settleProviderCall
  by_cases hsent : requestSent = false
  · rw [if_pos hsent, hsent]
    simp [Finalisation.totals, Totals.plus, Totals.add]
  · rw [if_neg hsent]
    have htrue : requestSent = true := by simpa using hsent
    simp only [recordCeilingViolations_totals, addViolationIf_totals, commitCost_eq, tokenMetrics,
      List.foldl_cons, List.foldl_nil, commitObserved_totals]
    simp [Finalisation.totals, Totals.plus, Totals.add, htrue, ProviderUsageReport.totals,
      ProviderUsageReport.observed]

theorem settleToolCall_totals (L : AggregateBudgetLedger) (outputBytes : ℤ) (latencyMs : ℚ)
    (stored : BudgetReservation) :
    (L.settleToolCall outputBytes latencyMs stored).totals =
      L.totals.plus (Finalisation.toolCall stored outputBytes latencyMs).totals := by
  unfold settleToolCall
  simp only [recordCeilingViolations_totals, addViolationIf_totals]
  simp [Finalisation.totals, Totals.plus, Totals.add]

/-! ## One call -/

lemma operate_reserveProviderCall (clock : ℚ) (args : ProviderCallArgs) :
    operate (.reserveProviderCall clock args) =
      Outcome.reserved <$> Stateful.atomically fun L => L.reserveProviderCall clock args := by
  rw [← Operation.reserveProviderCall_eq]
  rfl

lemma operate_reserveToolCall (clock : ℚ) (maxOutputBytes : ℤ) :
    operate (.reserveToolCall clock maxOutputBytes) =
      Outcome.reserved <$> Stateful.atomically fun L => L.reserveToolCall clock maxOutputBytes := by
  rw [← Operation.reserveToolCall_eq]
  rfl

section

variable (clock : ℚ) (r : BudgetReservation)

lemma operate_cancelReservation :
    operate (.cancelReservation clock r) =
      Outcome.taken <$> Stateful.atomically fun L => L.cancelReservation clock r := by
  rw [← Operation.cancelReservation_eq]
  rfl

lemma operate_completeProviderCall
    (usage : ProviderUsageReport) (latencyMs : ℚ) (requestSent : Bool) :
    operate (.completeProviderCall clock r usage latencyMs requestSent) =
      Outcome.taken <$> Stateful.atomically fun L =>
        L.completeProviderCall clock r usage latencyMs requestSent := by
  rw [← Operation.completeProviderCall_eq]
  rfl

lemma operate_completeProviderFailure (requestSent : Bool)
    (usage : Option ProviderUsageReport) (latencyMs : ℚ) :
    operate (.completeProviderFailure clock r requestSent usage latencyMs) =
      Outcome.taken <$> Stateful.atomically fun L =>
        L.completeProviderFailure clock r requestSent usage latencyMs := by
  rw [← Operation.completeProviderFailure_eq]
  rfl

lemma operate_completeToolCall (outputBytes : ℤ)
    (latencyMs : ℚ) :
    operate (.completeToolCall clock r outputBytes latencyMs) =
      Outcome.taken <$> Stateful.atomically fun L =>
        L.completeToolCall clock r outputBytes latencyMs := by
  rw [← Operation.completeToolCall_eq]
  rfl

end

variable {r : BudgetReservation} {s : AggregateBudgetSnapshot} {call : Call} {clock : ℚ}

/-- An atomic call either raises, and changes nothing, or makes its transition. -/
lemma operate_cases {α : Type} {g : α → Outcome}
    {f : AggregateBudgetLedger → Except BudgetError (α × AggregateBudgetLedger)}
    (h : operate call = g <$> Stateful.atomically f) (L : AggregateBudgetLedger) :
    (∃ e, operate call L = (.error e, L)) ∨
      ∃ a L', f L = .ok (a, L') ∧ operate call L = (.ok (g a), L') := by
  cases hf : f L with
  | error e =>
    left
    refine ⟨e, ?_⟩
    rw [h, Stateful.map_apply, Stateful.atomically_of_error hf]
    rfl
  | ok p =>
    right
    refine ⟨p.1, p.2, rfl, ?_⟩
    rw [h, Stateful.map_apply, Stateful.atomically_of_ok hf]
    rfl

/-- A reservation is popped only when it is the stored one. -/
lemma popReservation_stored {L : AggregateBudgetLedger} {reservation : BudgetReservation}
    {kind : ReservationKind} {p : BudgetReservation × AggregateBudgetLedger}
    (h : L.popReservation reservation kind = .ok p) : p.1 = reservation := by
  unfold popReservation at h
  cases hget : L.reservations.get? reservation.reservationId with
  | none => simp [hget] at h
  | some stored =>
    simp only [hget, bind_eq_ok_iff, raiseIf_eq_ok_iff, not_or, not_not, pure_eq_ok,
      Except.ok.injEq] at h
    obtain ⟨-, ⟨hstored, -⟩, rfl⟩ := h
    exact hstored

theorem reserveProviderCall_ok {L L' : AggregateBudgetLedger} {args : ProviderCallArgs}
    (h : L.reserveProviderCall clock args = .ok (r, L')) :
    r = L.providerReservation args ∧ L' = L.addReservation r ∧ L.Affords args := by
  unfold reserveProviderCall requireNonnegative at h
  simp only [bind_eq_ok_iff, raiseIf_eq_ok_iff, not_lt, forM_eq_ok_iff] at h
  obtain ⟨-, -, -, -, -, -, -, -, -, hcost, -, -, -, hstatus, -, -, -, -, -, -, -, -, _, hestimated,
    hknown⟩ := h
  by_cases hk : args.expectedCostStatus = .known
  · simp only [if_pos hk, bind_eq_ok_iff, pure_eq_ok, Except.ok.injEq, Prod.mk.injEq] at hknown
    obtain ⟨_, hcapacity, rfl, rfl⟩ := hknown
    exact ⟨rfl, rfl, hcost, hstatus, hestimated, fun _ => hcapacity⟩
  · simp only [if_neg hk, pure_eq_ok, Except.ok.injEq, Prod.mk.injEq] at hknown
    obtain ⟨rfl, rfl⟩ := hknown
    exact ⟨rfl, rfl, hcost, hstatus, hestimated, fun h => absurd h hk⟩

theorem reserveToolCall_ok {L L' : AggregateBudgetLedger} {maxOutputBytes : ℤ}
    (h : L.reserveToolCall clock maxOutputBytes = .ok (r, L')) :
    r = L.toolReservation maxOutputBytes ∧ L' = L.addReservation r := by
  unfold reserveToolCall at h
  simp only [bind_eq_ok_iff, raiseIf_eq_ok_iff, forM_eq_ok_iff] at h
  obtain ⟨-, -, -, -, -, -, -, -, -, -, hret⟩ := h
  simp only [pure_eq_ok, Except.ok.injEq, Prod.mk.injEq] at hret
  obtain ⟨rfl, rfl⟩ := hret
  exact ⟨rfl, rfl⟩

/-- Settling a provider call only commits totals and records violations. -/
lemma charged_settleProviderCall (L : AggregateBudgetLedger) (usage : ProviderUsageReport)
    (latencyMs : ℚ) (requestSent : Bool) (stored : BudgetReservation) :
    ∃ held, Charged L (L.settleProviderCall usage latencyMs requestSent stored) held := by
  unfold settleProviderCall
  have hretries := (charged_add L stored.retries .retries).trans
    (charged_latency _ (L.totals.latencyMs + latencyMs))
  by_cases hsent : requestSent = false
  · rw [if_pos hsent]
    exact ⟨_, hretries⟩
  · rw [if_neg hsent]
    exact ⟨_, (((hretries.trans (charged_add _ 1 .modelCalls)).trans
      (charged_foldl (charged_commitObserved usage stored) _ tokenMetrics)).trans
      (charged_commitCost usage _)).trans
        ((charged_addViolationIf _ _ _).trans (charged_recordCeilingViolations _))⟩

lemma charged_settleToolCall (L : AggregateBudgetLedger) (outputBytes : ℤ) (latencyMs : ℚ)
    (stored : BudgetReservation) :
    ∃ held, Charged L (L.settleToolCall outputBytes latencyMs stored) held := by
  unfold settleToolCall
  exact ⟨_, (((charged_add L 1 .toolCalls).trans
    (charged_add _ outputBytes.toNat .toolOutputBytes)).trans (charged_latency _
      (((L.totals.add 1 .toolCalls).add outputBytes.toNat .toolOutputBytes).latencyMs +
        latencyMs))).trans ((charged_addViolationIf _ _ _).trans
          (charged_recordCeilingViolations _))⟩

/-- Settling commits totals and records violations. -/
lemma charged_settle (f : Finalisation) (L : AggregateBudgetLedger) :
    ∃ held, Charged L (f.settle L) held := by
  cases f with
  | cancelled r => exact ⟨_, Charged.refl L⟩
  | providerCall r usage latencyMs requestSent =>
    exact charged_settleProviderCall L usage latencyMs requestSent r
  | toolCall r outputBytes latencyMs => exact charged_settleToolCall L outputBytes latencyMs r

section

variable (L : AggregateBudgetLedger) (f : Finalisation)

lemma finalise_reservations :
    (L.finalise f).reservations = L.reservations.erase f.reservation.reservationId := by
  obtain ⟨held, hcharged⟩ := charged_settle f (L.dropReservation f.reservation.reservationId)
  exact hcharged.reservations

lemma finalise_sequence :
    (L.finalise f).sequence = L.sequence := by
  obtain ⟨held, hcharged⟩ := charged_settle f (L.dropReservation f.reservation.reservationId)
  exact hcharged.sequence

lemma finalise_ceilings :
    (L.finalise f).ceilings = L.ceilings := by
  obtain ⟨held, hcharged⟩ := charged_settle f (L.dropReservation f.reservation.reservationId)
  exact hcharged.ceilings

theorem finalise_totals :
    (L.finalise f).totals = L.totals.plus f.totals := by
  cases f with
  | cancelled r => exact (Totals.plus_empty _).symm
  | providerCall r usage latencyMs requestSent =>
    exact settleProviderCall_totals _ usage latencyMs requestSent r
  | toolCall r outputBytes latencyMs => exact settleToolCall_totals _ outputBytes latencyMs r

end

/-- Completing a provider call, taken apart. -/
lemma happened_providerCall {L L' : AggregateBudgetLedger} {usage : ProviderUsageReport}
    {latencyMs : ℚ} {requestSent : Bool}
    (h : L.completeProviderCall clock r usage latencyMs requestSent = .ok (s, L'))
    (hcall : Entry.finalised? ⟨call, .ok (.taken s)⟩ =
      some (.providerCall r usage latencyMs requestSent)) :
    Happened L ⟨call, .ok (.taken s)⟩ L' := by
  rw [completeProviderCall_eq] at h
  simp only [bind_eq_ok_iff, Except.ok.injEq, Prod.mk.injEq] at h
  obtain ⟨-, -, -, -, p, hpop, rfl, rfl⟩ := h
  have hstored := popReservation_stored hpop
  have hok := popReservation_ok hpop
  rw [hstored] at hok hcall ⊢
  rw [hok.2.2] at hcall ⊢
  exact .finalised call (.providerCall r usage latencyMs requestSent) clock hcall hok.1 hok.2.1

lemma happened_toolCall {L L' : AggregateBudgetLedger} {outputBytes : ℤ} {latencyMs : ℚ}
    (h : L.completeToolCall clock r outputBytes latencyMs = .ok (s, L')) :
    Happened L ⟨.completeToolCall clock r outputBytes latencyMs, .ok (.taken s)⟩ L' := by
  rw [completeToolCall_eq] at h
  simp only [bind_eq_ok_iff, Except.ok.injEq, Prod.mk.injEq] at h
  obtain ⟨-, -, -, -, p, hpop, rfl, rfl⟩ := h
  have hstored := popReservation_stored hpop
  have hok := popReservation_ok hpop
  rw [hstored] at hok ⊢
  rw [hok.2.2]
  exact .finalised _ (.toolCall r outputBytes latencyMs) clock rfl hok.1 hok.2.1

lemma happened_cancel {L L' : AggregateBudgetLedger}
    (h : L.cancelReservation clock r = .ok (s, L')) :
    Happened L ⟨.cancelReservation clock r, .ok (.taken s)⟩ L' := by
  unfold cancelReservation at h
  simp only [bind_eq_ok_iff, pure_eq_ok, Except.ok.injEq, Prod.mk.injEq] at h
  obtain ⟨p, hpop, rfl, rfl⟩ := h
  have hstored := popReservation_stored hpop
  have hok := popReservation_ok hpop
  rw [hstored] at hok
  rw [hok.2.2]
  exact .finalised _ (.cancelled r) clock rfl hok.1 trivial

/-- Every call has one of the four effects. -/
theorem happened (L : AggregateBudgetLedger) (call : Call) :
    Happened L ⟨call, (operate call L).1⟩ (operate call L).2 := by
  cases call with
  | reserveProviderCall clock args =>
    rcases operate_cases (operate_reserveProviderCall clock args) L with ⟨e, he⟩ | ⟨r, L', hr, hok⟩
    · rw [he]
      exact .raised _ e
    · rw [hok]
      obtain ⟨rfl, rfl, haffords⟩ := reserveProviderCall_ok hr
      exact .issued _ _ (.provider clock args haffords)
  | reserveToolCall clock maxOutputBytes =>
    rcases operate_cases (operate_reserveToolCall clock maxOutputBytes) L with
      ⟨e, he⟩ | ⟨r, L', hr, hok⟩
    · rw [he]
      exact .raised _ e
    · rw [hok]
      obtain ⟨rfl, rfl⟩ := reserveToolCall_ok hr
      exact .issued _ _ (.tool clock maxOutputBytes)
  | cancelReservation clock r =>
    rcases operate_cases (operate_cancelReservation clock r) L with ⟨e, he⟩ | ⟨s, L', hs, hok⟩
    · rw [he]
      exact .raised _ e
    · rw [hok]
      exact happened_cancel hs
  | completeProviderCall clock r usage latencyMs requestSent =>
    rcases operate_cases (operate_completeProviderCall clock r usage latencyMs requestSent) L with
      ⟨e, he⟩ | ⟨s, L', hs, hok⟩
    · rw [he]
      exact .raised _ e
    · rw [hok]
      exact happened_providerCall hs rfl
  | completeProviderFailure clock r requestSent usage latencyMs =>
    rcases operate_cases (operate_completeProviderFailure clock r requestSent usage latencyMs) L
      with ⟨e, he⟩ | ⟨s, L', hs, hok⟩
    · rw [he]
      exact .raised _ e
    · rw [hok]
      cases requestSent with
      | true => exact happened_providerCall hs rfl
      | false => exact happened_providerCall hs rfl
  | completeToolCall clock r outputBytes latencyMs =>
    rcases operate_cases (operate_completeToolCall clock r outputBytes latencyMs) L with
      ⟨e, he⟩ | ⟨s, L', hs, hok⟩
    · rw [he]
      exact .raised _ e
    · rw [hok]
      exact happened_toolCall hs
  | snapshot clock => exact .looked clock

/-- The ledger that a call leaves is the one of the atomic transition. -/
theorem operate_snd (L : AggregateBudgetLedger) (call : Call) :
    (operate call L).2 = L.step call := by
  have hstep {α : Type} {g : α → Outcome}
      {f : AggregateBudgetLedger → Except BudgetError (α × AggregateBudgetLedger)}
      (h : operate call = g <$> Stateful.atomically f)
      (hperform : L.perform call = (·.2) <$> f L) : (operate call L).2 = L.step call := by
    unfold step
    rw [hperform, h, Stateful.map_apply]
    unfold Stateful.atomically
    cases f L with
    | error e => rfl
    | ok p => rfl
  cases call with
  | reserveProviderCall clock args => exact hstep (operate_reserveProviderCall clock args) rfl
  | reserveToolCall clock maxOutputBytes =>
    exact hstep (operate_reserveToolCall clock maxOutputBytes) rfl
  | cancelReservation clock r => exact hstep (operate_cancelReservation clock r) rfl
  | completeProviderCall clock r usage latencyMs requestSent =>
    exact hstep (operate_completeProviderCall clock r usage latencyMs requestSent) rfl
  | completeProviderFailure clock r requestSent usage latencyMs =>
    exact hstep (operate_completeProviderFailure clock r requestSent usage latencyMs) rfl
  | completeToolCall clock r outputBytes latencyMs =>
    exact hstep (operate_completeToolCall clock r outputBytes latencyMs) rfl
  | snapshot clock => rfl

/-- After any calls the ledger is that of the atomic run. -/
theorem after_eq_run (L : AggregateBudgetLedger) (calls : List Call) :
    L.after calls = L.run calls := by
  induction calls generalizing L with
  | nil => rfl
  | cons call calls ih =>
    unfold after run
    rw [List.foldl_cons, operate_snd]
    exact ih (L.step call)

/-! ## The invariant of a history -/

/-- The ids that were finalised. -/
def finalisedIds (entries : List Entry) : List String :=
  (finalised entries).map (·.reservation.reservationId)

def issuedIds (entries : List Entry) : List String := (issued entries).map (·.reservationId)

/-- What a ledger keeps of the history that led to it. -/
structure Accounted (L : AggregateBudgetLedger) (entries : List Entry) : Prop where
  numbered : ∀ r ∈ issued entries, ∃ n ≤ L.sequence,
    r.reservationId = "budget." ++ r.kind.value ++ "." ++ zeroPad 6 n
  issued_nodup : (issuedIds entries).Nodup
  issued_kind : ∀ e ∈ entries, ∀ r, e.issued? = some r → e.reservesKind? = some r.kind
  finalised_nodup : (finalisedIds entries).Nodup
  finalised_issued : ∀ f ∈ finalised entries, f.reservation ∈ issued entries ∧ f.MatchesKind
  stored : ∀ id r, L.reservations.get? id = some r ↔
    r ∈ issued entries ∧ r.reservationId = id ∧ id ∉ finalisedIds entries
  totals : L.totals = reference (finalised entries)
  active : L.reservations.entries.length + (finalised entries).length = (issued entries).length

lemma issued_append (entries : List Entry) (e : Entry) :
    issued (entries ++ [e]) = issued entries ++ e.issued?.toList := by
  simp only [issued, List.filterMap_append, List.filterMap_cons, List.filterMap_nil]
  cases e.issued? <;> rfl

lemma finalised_append (entries : List Entry) (e : Entry) :
    finalised (entries ++ [e]) = finalised entries ++ e.finalised?.toList := by
  simp only [finalised, List.filterMap_append, List.filterMap_cons, List.filterMap_nil]
  cases e.finalised? <;> rfl

lemma reference_append (fs : List Finalisation) (f : Finalisation) :
    reference (fs ++ [f]) = (reference fs).plus f.totals := by
  simp [reference]

/-- A call that raises finalises nothing. -/
lemma finalised?_error (call : Call) (e : BudgetError) :
    Entry.finalised? ⟨call, .error e⟩ = none := by
  cases call <;> rfl

variable {L L' : AggregateBudgetLedger} {entries : List Entry} {e : Entry}

/-- A call that reserves finalises nothing. -/
lemma Makes.finalised? (h : Makes L call r) :
    Entry.finalised? ⟨call, .ok (.reserved r)⟩ = none := by
  cases h <;> rfl

lemma Makes.reservationId (h : Makes L call r) : r.reservationId = L.nextReservationId r.kind := by
  cases h <;> rfl

lemma Makes.fresh (h : Makes L call r) (hwellFormed : L.WellFormed) :
    r.reservationId ∉ L.reservations.keys := by
  rw [h.reservationId]
  exact hwellFormed.nextReservationId_fresh r.kind

lemma Makes.kind (h : Makes L call r) :
    Entry.reservesKind? ⟨call, .ok (.reserved r)⟩ = some r.kind := by
  cases h <;> rfl

lemma accounted_init (ceilings : TaskCeilings) (clock : ℚ) :
    (init ceilings clock).Accounted [] where
  numbered := by simp [issued]
  issued_nodup := List.nodup_nil
  issued_kind := by simp
  finalised_nodup := List.nodup_nil
  finalised_issued := by simp [finalised]
  stored := by simp [init, issued]
  totals := rfl
  active := rfl

section

variable (h : L.Accounted entries)
include h

/-- An entry that neither issues nor finalises. -/
lemma Accounted.idle (hissued : e.issued? = none)
    (hfinalised : e.finalised? = none) : L.Accounted (entries ++ [e]) := by
  have hi : issued (entries ++ [e]) = issued entries := by
    rw [issued_append, hissued, Option.toList_none, List.append_nil]
  have hf : finalised (entries ++ [e]) = finalised entries := by
    rw [finalised_append, hfinalised, Option.toList_none, List.append_nil]
  refine ⟨?_, ?_, ?_, ?_, ?_, ?_, ?_, ?_⟩
  · rw [hi]
    exact h.numbered
  · rw [issuedIds, hi]
    exact h.issued_nodup
  · intro e' he' r hr
    rcases List.mem_append.mp he' with hold | hnew
    · exact h.issued_kind e' hold r hr
    · rw [List.mem_singleton.mp hnew, hissued] at hr
      simp at hr
  · rw [finalisedIds, hf]
    exact h.finalised_nodup
  · rw [hi, hf]
    exact h.finalised_issued
  · rw [finalisedIds, hi, hf]
    exact h.stored
  · rw [hf]
    exact h.totals
  · rw [hi, hf]
    exact h.active

/-- The id of a new reservation was never given out. -/
lemma Accounted.fresh (kind : ReservationKind) :
    L.nextReservationId kind ∉ issuedIds entries := by
  intro hmem
  obtain ⟨r, hr, hid⟩ := List.mem_map.mp hmem
  obtain ⟨n, hn, hnumber⟩ := h.numbered r hr
  rw [hnumber] at hid
  have heq : n = L.sequence + 1 := reservationId_injective hid
  omega

lemma Accounted.finalisedIds_subset :
    finalisedIds entries ⊆ issuedIds entries := by
  intro id hid
  obtain ⟨f, hf, rfl⟩ := List.mem_map.mp hid
  exact List.mem_map_of_mem (h.finalised_issued f hf).1

lemma Accounted.issue (hmakes : Makes L call r) :
    (L.addReservation r).Accounted (entries ++ [⟨call, .ok (.reserved r)⟩]) := by
  have hi : issued (entries ++ [⟨call, .ok (.reserved r)⟩]) = issued entries ++ [r] :=
    issued_append _ _
  have hf : finalised (entries ++ [⟨call, .ok (.reserved r)⟩]) = finalised entries := by
    rw [finalised_append, hmakes.finalised?, Option.toList_none, List.append_nil]
  have hfresh : r.reservationId ∉ issuedIds entries := by
    rw [hmakes.reservationId]
    exact h.fresh r.kind
  have hunfinalised : r.reservationId ∉ finalisedIds entries := fun hmem =>
    hfresh (h.finalisedIds_subset hmem)
  have hkeys : r.reservationId ∉ L.reservations.keys := by
    rw [← Dict.get?_eq_none_iff]
    cases hget : L.reservations.get? r.reservationId with
    | none => rfl
    | some r' =>
      have hstored := (h.stored _ _).mp hget
      exact absurd (hstored.2.1 ▸ List.mem_map_of_mem hstored.1) hfresh
  refine ⟨?_, ?_, ?_, ?_, ?_, ?_, ?_, ?_⟩
  · intro r' hr'
    rw [hi, List.mem_append, List.mem_singleton] at hr'
    rcases hr' with hold | rfl
    · obtain ⟨n, hn, hnumber⟩ := h.numbered r' hold
      exact ⟨n, Nat.le_succ_of_le hn, hnumber⟩
    · exact ⟨L.sequence + 1, le_rfl, hmakes.reservationId⟩
  · rw [issuedIds, hi, List.map_append, List.map_singleton, ← List.concat_eq_append]
    exact List.Nodup.concat hfresh h.issued_nodup
  · intro e' he' r' hr'
    rcases List.mem_append.mp he' with hold | hnew
    · exact h.issued_kind e' hold r' hr'
    · rw [List.mem_singleton.mp hnew] at hr' ⊢
      rw [hmakes.kind, Option.some.inj hr']
  · rw [finalisedIds, hf]
    exact h.finalised_nodup
  · rw [hi, hf]
    intro f hmem
    exact ⟨List.mem_append_left _ (h.finalised_issued f hmem).1, (h.finalised_issued f hmem).2⟩
  · intro id r'
    rw [finalisedIds, hi, hf]
    show (L.reservations.set r.reservationId r).get? id = some r' ↔ _
    rw [Dict.get?_set, List.mem_append, List.mem_singleton]
    by_cases hnew : r.reservationId = id
    · rw [if_pos hnew, Option.some.injEq]
      constructor
      · intro heq
        rw [← heq]
        exact ⟨.inr rfl, hnew, hnew ▸ hunfinalised⟩
      · rintro ⟨hold | rfl, hname, -⟩
        · exact absurd (by rw [hnew, ← hname]; exact List.mem_map_of_mem hold) hfresh
        · rfl
    · rw [if_neg hnew, h.stored]
      constructor
      · rintro ⟨hold, hname, hnot⟩
        exact ⟨.inl hold, hname, hnot⟩
      · rintro ⟨hold | rfl, hname, hnot⟩
        · exact ⟨hold, hname, hnot⟩
        · exact absurd hname hnew
  · rw [hf]
    exact h.totals
  · have hactive := h.active
    show (L.reservations.set r.reservationId r).entries.length + _ = _
    rw [hi, hf, Dict.entries_set_of_not_mem hkeys, List.length_append, List.length_append,
      List.length_singleton]
    simp only [List.length_singleton]
    omega

/-- Taking a stored reservation out adds its finalisation. -/
lemma Accounted.finalise {f : Finalisation} (hissued : e.issued? = none)
    (hfinalised : e.finalised? = some f)
    (hstored : L.reservations.get? f.reservation.reservationId = some f.reservation)
    (hkind : f.MatchesKind) : (L.finalise f).Accounted (entries ++ [e]) := by
  have hi : issued (entries ++ [e]) = issued entries := by
    rw [issued_append, hissued, Option.toList_none, List.append_nil]
  have hf : finalised (entries ++ [e]) = finalised entries ++ [f] := by
    rw [finalised_append, hfinalised]
    rfl
  obtain ⟨hmem, -, hnot⟩ := (h.stored _ _).mp hstored
  refine ⟨?_, ?_, ?_, ?_, ?_, ?_, ?_, ?_⟩
  · rw [hi, finalise_sequence]
    exact h.numbered
  · rw [issuedIds, hi]
    exact h.issued_nodup
  · intro e' he' r hr
    rcases List.mem_append.mp he' with hold | hnew
    · exact h.issued_kind e' hold r hr
    · rw [List.mem_singleton.mp hnew, hissued] at hr
      simp at hr
  · rw [finalisedIds, hf, List.map_append, List.map_singleton, ← List.concat_eq_append]
    exact List.Nodup.concat hnot h.finalised_nodup
  · intro f' hf'
    rw [hf, List.mem_append, List.mem_singleton] at hf'
    rw [hi]
    rcases hf' with hold | rfl
    · exact h.finalised_issued f' hold
    · exact ⟨hmem, hkind⟩
  · intro id r
    rw [finalisedIds, hi, hf, finalise_reservations, Dict.get?_erase, List.map_append,
      List.map_singleton, List.mem_append, List.mem_singleton]
    by_cases hid : f.reservation.reservationId = id
    · rw [if_pos hid]
      constructor
      · intro hnone
        simp at hnone
      · rintro ⟨-, -, hout⟩
        exact absurd (.inr hid.symm) hout
    · rw [if_neg hid, h.stored]
      constructor
      · rintro ⟨hold, hname, hout⟩
        refine ⟨hold, hname, ?_⟩
        rintro (hin | heq)
        · exact hout hin
        · exact hid heq.symm
      · rintro ⟨hold, hname, hout⟩
        exact ⟨hold, hname, fun hin => hout (.inl hin)⟩
  · rw [hf, reference_append, finalise_totals, h.totals]
  · have hactive := h.active
    have hlength := Dict.length_erase_of_get? hstored
    rw [hi, hf, finalise_reservations, List.length_append, List.length_singleton]
    omega

theorem Accounted.happened (hstep : Happened L e L') :
    L'.Accounted (entries ++ [e]) := by
  cases hstep with
  | raised call error => exact h.idle rfl (finalised?_error call error)
  | issued call r hmakes => exact h.issue hmakes
  | finalised call f clock hcall hstored hkind => exact h.finalise rfl hcall hstored hkind
  | looked clock => exact h.idle rfl rfl

/-- The invariant along a history. -/
theorem Accounted.after (calls : List Call) :
    (L.after calls).Accounted (entries ++ L.history calls) := by
  induction calls generalizing L entries with
  | nil => simpa [AggregateBudgetLedger.after, history] using h
  | cons call calls ih =>
    have hrest := ih (h.happened (AggregateBudgetLedger.happened L call))
    rw [List.append_assoc, List.singleton_append] at hrest
    exact hrest

end

/-- A call that raises leaves the ledger as it was. -/
theorem operate_error {error : BudgetError} (h : (operate call L).1 = .error error) :
    (operate call L).2 = L := by
  have hstep := AggregateBudgetLedger.happened L call
  rw [h] at hstep
  generalize (operate call L).2 = L' at hstep
  cases hstep
  rfl

/-- A snapshot that a call gives back is one of the ledger it leaves. -/
theorem operate_taken (h : (operate call L).1 = .ok (.taken s)) :
    ∃ now, s = (operate call L).2.snapshot now := by
  have hstep := AggregateBudgetLedger.happened L call
  rw [h] at hstep
  generalize (operate call L).2 = L' at hstep
  cases hstep with
  | finalised _ f clock _ _ _ => exact ⟨clock, rfl⟩
  | looked clock => exact ⟨clock, rfl⟩

/-! ## Accounts -/

/-- The accounts of a ledger agree with the history of its calls. -/
structure ExactAccounts (L : AggregateBudgetLedger) (entries : List Entry) : Prop where
  issued_fresh : (issuedIds entries).Nodup
  issued_kind : ∀ e ∈ entries, ∀ r, e.issued? = some r → e.reservesKind? = some r.kind
  finalised_once : (finalisedIds entries).Nodup
  finalised_kind : ∀ f ∈ finalised entries, f.reservation ∈ issued entries ∧ f.MatchesKind
  totals : ∀ now, (L.snapshot now).totals = reference (finalised entries)
  active : ∀ now, (L.snapshot now).activeReservations + (finalised entries).length =
    (issued entries).length

lemma Accounted.exactAccounts (h : L.Accounted entries) : ExactAccounts L entries where
  issued_fresh := h.issued_nodup
  issued_kind := h.issued_kind
  finalised_once := h.finalised_nodup
  finalised_kind := h.finalised_issued
  totals _ := h.totals
  active _ := h.active

/-- After any calls the accounts are exact; a further call that raises changes nothing, and a
snapshot that it gives back agrees with the history up to and with that call. -/
theorem accounts_exact (ceilings : TaskCeilings) (clock : ℚ) (calls : List Call) :
    ExactAccounts ((init ceilings clock).after calls) ((init ceilings clock).history calls) ∧
    ∀ call,
      (∀ error, (operate call ((init ceilings clock).after calls)).1 = .error error →
        (operate call ((init ceilings clock).after calls)).2 = (init ceilings clock).after calls) ∧
      ∀ s, (operate call ((init ceilings clock).after calls)).1 = .ok (.taken s) →
        let entries := (init ceilings clock).history calls ++ [⟨call, .ok (.taken s)⟩]
        s.totals = reference (finalised entries) ∧
          s.activeReservations + (finalised entries).length = (issued entries).length := by
  have haccounted := (accounted_init ceilings clock).after calls
  rw [List.nil_append] at haccounted
  refine ⟨haccounted.exactAccounts, fun call => ⟨fun error => operate_error, ?_⟩⟩
  intro s hs
  have hnext := haccounted.happened (AggregateBudgetLedger.happened _ call)
  rw [hs] at hnext
  obtain ⟨now, hnow⟩ := operate_taken hs
  rw [hnow] at hnext ⊢
  exact ⟨hnext.exactAccounts.totals now, hnext.exactAccounts.active now⟩

end AggregateBudgetLedger
end Agintor.Kernel
