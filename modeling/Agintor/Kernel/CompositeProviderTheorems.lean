import Agintor.Kernel.CompositeProvider
import Agintor.Kernel.LedgerHistoryTheorems

/-!
# A controlled call fails closed

However the provider, the clocks and the caller behave, a call that made a reservation finalises
it once before it returns, and a request of which nothing is known leaves its mark on the ledger.
-/

namespace Agintor.Kernel

open Agintor.Contracts Lib AggregateBudgetLedger

variable {Response : Type}

/-! ## The wait -/

section Wait

variable {deadline : ℚ} {turns : ℕ → Turn Response}

/-- Every turn without an answer takes a hundredth of a second, or reaches the deadline. -/
lemma waitLoop_isSome {fuel k : ℕ} {now : ℚ} (h : (deadline - now) * 100 ≤ fuel) :
    (waitLoop deadline turns (fuel + 1) k now).isSome := by
  induction fuel generalizing k now with
  | zero =>
    have hlate : deadline - (now + (turns k).lag) ≤ 0 := by
      have hlag := (turns k).lag_nonneg
      have hzero : (deadline - now) * 100 ≤ 0 := by exact_mod_cast h
      linarith
    unfold waitLoop
    by_cases hcancelled : (turns k).cancelled = true
    · rw [if_pos hcancelled]
      rfl
    · rw [if_neg hcancelled]
      simp only [if_pos hlate]
      rfl
  | succ fuel ih =>
    unfold waitLoop
    by_cases hcancelled : (turns k).cancelled = true
    · rw [if_pos hcancelled]
      rfl
    · rw [if_neg hcancelled]
      by_cases hlate : deadline - (now + (turns k).lag) ≤ 0
      · simp only [if_pos hlate]
        rfl
      · simp only [if_neg hlate]
        cases (turns k).answer with
        | some answer => rfl
        | none =>
          apply ih
          have hlag := (turns k).lag_nonneg
          push_cast at h
          have hfuel : (0 : ℚ) ≤ fuel := by exact_mod_cast Nat.zero_le fuel
          rcases le_total (deadline - (now + (turns k).lag)) (1 / 100) with hlast | hmore
          · rw [min_eq_left hlast]
            linarith
          · rw [min_eq_right hmore]
            linarith

/-- How the wait ended, with the last reading of the clock. -/
inductive WaitEnds (deadline : ℚ) (turns : ℕ → Turn Response) (start : ℚ) :
    Ending Response → ℚ → Prop
  | cancelled (k : ℕ) (now : ℚ) (hcancelled : (turns k).cancelled = true) (hstart : start ≤ now) :
      WaitEnds deadline turns start .cancelled now
  | deadlineExceeded (now : ℚ) (hlate : deadline ≤ now) (hstart : start ≤ now) :
      WaitEnds deadline turns start .deadlineExceeded now
  | answered (k : ℕ) (now : ℚ) (answer : Answer Response)
      (hanswer : (turns k).answer = some answer) (hearly : now < deadline) (hstart : start ≤ now) :
      WaitEnds deadline turns start (.answered answer) now

variable {ending : Ending Response}

lemma WaitEnds.start_le {start now : ℚ} (h : WaitEnds deadline turns start ending now) :
    start ≤ now := by
  cases h <;> assumption

lemma WaitEnds.mono {start start' now : ℚ} (h : WaitEnds deadline turns start ending now)
    (hle : start' ≤ start) : WaitEnds deadline turns start' ending now := by
  cases h with
  | cancelled k now hcancelled hstart => exact .cancelled k now hcancelled (hle.trans hstart)
  | deadlineExceeded now hlate hstart => exact .deadlineExceeded now hlate (hle.trans hstart)
  | answered k now answer hanswer hearly hstart =>
    exact .answered k now answer hanswer hearly (hle.trans hstart)

lemma waitLoop_ends {fuel k : ℕ} {start now : ℚ}
    (h : waitLoop deadline turns fuel k start = some (ending, now)) :
    WaitEnds deadline turns start ending now := by
  induction fuel generalizing k start with
  | zero => simp [waitLoop] at h
  | succ fuel ih =>
    have hlag := (turns k).lag_nonneg
    unfold waitLoop at h
    by_cases hcancelled : (turns k).cancelled = true
    · rw [if_pos hcancelled] at h
      obtain ⟨rfl, rfl⟩ : Ending.cancelled = ending ∧ start = now := by simpa using h
      exact .cancelled k _ hcancelled le_rfl
    · rw [if_neg hcancelled] at h
      by_cases hlate : deadline - (start + (turns k).lag) ≤ 0
      · simp only [if_pos hlate] at h
        obtain ⟨rfl, rfl⟩ : Ending.deadlineExceeded = ending ∧ start + (turns k).lag = now := by
          simpa using h
        exact .deadlineExceeded _ (by linarith) (by linarith)
      · simp only [if_neg hlate] at h
        rw [not_le] at hlate
        cases hanswer : (turns k).answer with
        | some answer =>
          rw [hanswer] at h
          obtain ⟨rfl, rfl⟩ : Ending.answered answer = ending ∧ start + (turns k).lag = now := by
            simpa using h
          exact .answered k _ answer hanswer (by linarith) (by linarith)
        | none =>
          rw [hanswer] at h
          have hwait : 0 ≤ min (deadline - (start + (turns k).lag)) (1 / 100) :=
            le_min hlate.le (by norm_num)
          exact (ih h).mono (by linarith)

end Wait

/-- The wait of a call ends: by the deadline at the latest. -/
theorem ending_isSome (b : Behaviour Response) {timeoutMs : ℤ} (h : 0 < timeoutMs) :
    (b.ending timeoutMs).isSome := by
  unfold Behaviour.ending
  apply waitLoop_isSome
  have hcast : (timeoutMs.toNat : ℚ) = timeoutMs := by
    exact_mod_cast Int.toNat_of_nonneg h.le
  have hdiv : timeoutMs.toNat ≤ (timeoutMs.toNat / 10 + 1) * 10 := by omega
  have hrat : (timeoutMs.toNat : ℚ) ≤ ((timeoutMs.toNat / 10 + 1 : ℕ) : ℚ) * 10 := by
    exact_mod_cast hdiv
  rw [hcast] at hrat
  linarith

theorem ending_ends (b : Behaviour Response) {timeoutMs : ℤ} {ending : Ending Response} {now : ℚ}
    (h : b.ending timeoutMs = some (ending, now)) :
    WaitEnds (b.startedAt + timeoutMs / 1000) b.turns b.startedAt ending now := waitLoop_ends h

/-! ## Answers -/

namespace Ending

/-- The usage the provider reported. -/
def usage : Ending Response → Option ProviderUsageReport
  | answered (.returned (.ok invocation)) => some invocation.usage
  | answered (.invocationError _ error) => error.usage
  | _ => none

/-- Whether the request may have been sent: only the provider's own word says that it was not. -/
def mayHaveBeenSent : Ending Response → Bool
  | answered (.invocationError _ error) => error.requestSent
  | _ => true

/-- How the reservation of a call ends. -/
def finalisation (ending : Ending Response) (r : BudgetReservation) (latencyMs : ℚ) :
    Finalisation :=
  .providerCall r
    (if ending.mayHaveBeenSent then ending.usage.getD .unknown else .unknown) latencyMs
    ending.mayHaveBeenSent

end Ending

/-! ## Calls on the ledger -/

/-- The calls on the ledger that a controlled call with these arguments makes. -/
def MadeBy (args : ProviderCallArgs) : Call → Prop
  | .reserveProviderCall _ args' => args' = args
  | .reserveToolCall _ _ => False
  | _ => True

/-- The ledger and its log after some of these calls. -/
def Logs (args : ProviderCallArgs) (W W' : LedgerLog) : Prop :=
  ∃ calls, (∀ call ∈ calls, MadeBy args call) ∧ W'.ledger = W.ledger.after calls ∧
    W'.entries = W.entries ++ W.ledger.history calls

lemma after_append (L : AggregateBudgetLedger) (calls calls' : List Call) :
    L.after (calls ++ calls') = (L.after calls).after calls' := by
  induction calls generalizing L with
  | nil => rfl
  | cons call calls ih => exact ih (operate call L).2

lemma history_append (L : AggregateBudgetLedger) (calls calls' : List Call) :
    L.history (calls ++ calls') = L.history calls ++ (L.after calls).history calls' := by
  induction calls generalizing L with
  | nil => rfl
  | cons call calls ih =>
    show _ :: (operate call L).2.history (calls ++ calls') = _
    rw [ih]
    rfl

variable {args : ProviderCallArgs}

lemma Logs.refl (W : LedgerLog) : Logs args W W := ⟨[], by simp, rfl, (List.append_nil _).symm⟩

lemma Logs.trans {W W' W'' : LedgerLog} (h : Logs args W W') (h' : Logs args W' W'') :
    Logs args W W'' := by
  obtain ⟨calls, hmade, hledger, hentries⟩ := h
  obtain ⟨calls', hmade', hledger', hentries'⟩ := h'
  refine ⟨calls ++ calls', ?_, ?_, ?_⟩
  · intro call hcall
    rcases List.mem_append.mp hcall with hfirst | hsecond
    · exact hmade call hfirst
    · exact hmade' call hsecond
  · rw [hledger', hledger, after_append]
  · rw [hentries', hentries, hledger, history_append, List.append_assoc]

/-- Programs whose calls on the ledger are all in the log. -/
def KeepsLog {α : Type} (args : ProviderCallArgs) (p : Stateful LedgerLog CallError α) : Prop :=
  ∀ W, Logs args W (p W).2

lemma logged_entries {α : Type} {call : Call} {wrap : α → Outcome} {operation : Operation α}
    (h : operate call = wrap <$> operation) (W : LedgerLog) :
    (logged call wrap operation W).2.entries =
      W.entries ++ [⟨call, (operate call W.ledger).1⟩] := by
  show W.entries ++ [⟨call, wrap <$> (operation W.ledger).1⟩] = _
  rw [h, Stateful.map_apply]
  rfl

/-- One operation logs one call. -/
lemma keepsLog_logged {α : Type} {call : Call} {wrap : α → Outcome} {operation : Operation α}
    (hmade : MadeBy args call) (h : operate call = wrap <$> operation) :
    KeepsLog args (logged call wrap operation) := by
  intro W
  refine ⟨[call], by simpa using hmade, ?_, logged_entries h W⟩
  show (operation W.ledger).2 = (operate call W.ledger).2
  rw [h, Stateful.map_apply]

lemma KeepsLog.bind {α β : Type} {p : Stateful LedgerLog CallError α}
    {k : α → Stateful LedgerLog CallError β} (hp : KeepsLog args p)
    (hk : ∀ a, KeepsLog args (k a)) : KeepsLog args (p >>= k) := by
  intro W
  cases hresult : (p W).1 with
  | error e =>
    rw [Stateful.bind_of_error hresult]
    exact hp W
  | ok a =>
    rw [Stateful.bind_of_ok hresult]
    exact (hp W).trans (hk a _)

lemma keepsLog_pure {α : Type} (a : α) :
    KeepsLog args (pure a : Stateful LedgerLog CallError α) := Logs.refl

lemma keepsLog_raise {α : Type} (e : CallError) :
    KeepsLog args (Stateful.raise e : Stateful LedgerLog CallError α) := Logs.refl

lemma keepsLog_check {α : Type} (x : Except CallError α) : KeepsLog args (Stateful.check x) := by
  cases x with
  | ok a => exact keepsLog_pure a
  | error e => exact keepsLog_raise e

variable {L' : AggregateBudgetLedger}

lemma logged_of_ok {α : Type} {call : Call} {wrap : α → Outcome} {operation : Operation α}
    {W : LedgerLog} {a : α} (h : operation W.ledger = (.ok a, L')) :
    logged call wrap operation W = (.ok a, ⟨L', W.entries ++ [⟨call, .ok (wrap a)⟩]⟩) := by
  unfold logged
  rw [h]
  rfl

lemma logged_of_error {α : Type} {call : Call} {wrap : α → Outcome} {operation : Operation α}
    {W : LedgerLog} {e : BudgetError} (h : operation W.ledger = (.error e, L')) :
    logged call wrap operation W =
      (.error (.ledger e), ⟨L', W.entries ++ [⟨call, .error e⟩]⟩) := by
  unfold logged
  rw [h]
  rfl

/-! ## Finalising a stored reservation -/

/-- A reservation of a provider call that the ledger holds. -/
structure Held (L : AggregateBudgetLedger) (r : BudgetReservation) : Prop where
  stored : L.reservations.get? r.reservationId = some r
  kind : r.kind = .provider

variable {L : AggregateBudgetLedger} {r : BudgetReservation}

lemma held_addReservation (args : ProviderCallArgs) :
    Held (L.addReservation (L.providerReservation args)) (L.providerReservation args) where
  stored := by
    show (L.reservations.set _ _).get? _ = _
    rw [Dict.get?_set, if_pos rfl]
  kind := rfl

lemma Held.popReservation (h : Held L r) :
    L.popReservation r .provider = .ok (r, L.dropReservation r.reservationId) := by
  have hpasses : ¬(r ≠ r ∨ r.kind ≠ .provider) := by
    simp [h.kind]
  unfold AggregateBudgetLedger.popReservation
  rw [h.stored]
  show (raiseIf (r ≠ r ∨ r.kind ≠ .provider) _ >>= fun _ => _) = _
  rw [raiseIf_neg hpasses]
  rfl

/-- What is reported is committed, and the reservation is gone. -/
lemma Held.completeProviderCall (h : Held L r) (clock : ℚ) {usage : ProviderUsageReport}
    {latencyMs : ℚ} {requestSent : Bool} (hlatency : 0 ≤ latencyMs)
    (hunsent : requestSent = false → usage = .unknown) :
    L.completeProviderCall clock r usage latencyMs requestSent =
      .ok ((L.finalise (.providerCall r usage latencyMs requestSent)).snapshot clock,
        L.finalise (.providerCall r usage latencyMs requestSent)) := by
  have hpasses : ¬(requestSent = false ∧
      (usage.usageStatus ≠ .unknown ∨ usage.costStatus ≠ .unknown)) := by
    rintro ⟨hsent, hreported⟩
    rw [hunsent hsent] at hreported
    rcases hreported with husage | hcost
    · exact husage rfl
    · exact hcost rfl
  rw [AggregateBudgetLedger.completeProviderCall_eq, requireNonnegative,
    raiseIf_neg (not_lt.mpr hlatency), raiseIf_neg hpasses, h.popReservation]
  rfl

lemma Held.completeProviderFailure (h : Held L r) (clock : ℚ) (requestSent : Bool)
    (usage : Option ProviderUsageReport) {latencyMs : ℚ} (hlatency : 0 ≤ latencyMs) :
    L.completeProviderFailure clock r requestSent usage latencyMs =
      .ok ((L.finalise (.providerCall r (if requestSent then usage.getD .unknown else .unknown)
          latencyMs requestSent)).snapshot clock,
        L.finalise (.providerCall r (if requestSent then usage.getD .unknown else .unknown)
          latencyMs requestSent)) := by
  cases requestSent with
  | true => exact h.completeProviderCall clock hlatency (by simp)
  | false => exact h.completeProviderCall clock hlatency fun _ => rfl

lemma Held.cancelReservation (h : Held L r) (clock : ℚ) :
    L.cancelReservation clock r =
      .ok ((L.finalise (.cancelled r)).snapshot clock, L.finalise (.cancelled r)) := by
  unfold AggregateBudgetLedger.cancelReservation
  rw [h.kind, h.popReservation]
  rfl

/-! ## Settling -/

namespace CompositeProviderController

/-- What the end of a call does to the ledger and what it gives back. -/
structure Settlement (W : LedgerLog) (ending : Ending Response) (f : Finalisation)
    (outcome : Except CallError (ProviderCallResult Response)) (W' : LedgerLog) : Prop where
  ledger : W'.ledger = W.ledger.finalise f
  entries : ∃ e : Entry, e.issued? = none ∧ e.finalised? = some f ∧ W'.entries = W.entries ++ [e]
  raised : ∀ error, outcome = .error error → error = .invalidFailure
  succeeded : ∀ result, outcome = .ok result → result.status = .succeeded →
    ∃ invocation, ending = .answered (.returned (.ok invocation)) ∧
      result.invocation = some invocation ∧ (∃ now, result.ledger = W'.ledger.snapshot now) ∧
      result.ledger.healthy = true ∧ result.ledger.deadlineExceeded = false

variable {result : ProviderFailure → ProviderCallResult Response}
    {built : Except CallError ProviderFailure} {snapshot : AggregateBudgetSnapshot}

lemma failure_raises {kind : ProviderFailureKind} {requestSent : Bool}
    {usage : Option ProviderUsageReport} {details : FailureDetails} {error : CallError}
    (h : failure kind requestSent usage snapshot details = .error error) :
    error = .invalidFailure := by
  unfold failure at h
  split at h
  · simp at h
  · exact (Except.error.inj h).symm

/-- A finalisation, then a failure that may not be built. -/
lemma bind_failed {complete : Stateful LedgerLog CallError AggregateBudgetSnapshot}
    {W W' : LedgerLog} (h : complete W = (.ok snapshot, W'))
    (built : AggregateBudgetSnapshot → Except CallError ProviderFailure)
    (result : ProviderFailure → AggregateBudgetSnapshot → ProviderCallResult Response) :
    (complete >>= fun s => Stateful.check (built s) >>= fun f => pure (result f s)) W =
      ((built snapshot).map fun f => result f snapshot, W') := by
  rw [Stateful.bind_of_ok (by rw [h]), h]
  exact Stateful.check_bind_pure _ _ _

/-- A failure that is built is returned; one that cannot be built is raised. -/
lemma map_failed (hbuilt : ∀ error, built = .error error → error = .invalidFailure)
    (hresult : ∀ failure, (result failure).status.isFailure = true) :
    (∀ error, built.map result = .error error → error = .invalidFailure) ∧
      ∀ r, built.map result = .ok r → r.status.isFailure = true := by
  cases built with
  | error error' =>
    refine ⟨?_, by simp [Except.map]⟩
    intro error herror
    obtain rfl := Except.error.inj herror
    exact hbuilt error' rfl
  | ok failure =>
    refine ⟨by simp [Except.map], ?_⟩
    intro r hr
    obtain rfl := Except.ok.inj hr
    exact hresult failure

lemma ne_succeeded {status : ProviderCallStatus} (h : status.isFailure = true) :
    status ≠ .succeeded := by
  intro hsucceeded
  rw [hsucceeded] at h
  exact absurd h (by decide)

/-- The settlement of the exits that fail. -/
lemma Settlement.of_failed {W : LedgerLog} {ending : Ending Response} {f : Finalisation} {e : Entry}
    (hissued : e.issued? = none) (hfinalised : e.finalised? = some f)
    (hbuilt : ∀ error, built = .error error → error = .invalidFailure)
    (hresult : ∀ failure, (result failure).status.isFailure = true) :
    Settlement W ending f (built.map result) ⟨W.ledger.finalise f, W.entries ++ [e]⟩ := by
  have hmap := map_failed hbuilt hresult
  refine ⟨rfl, ⟨e, hissued, hfinalised, rfl⟩, hmap.1, ?_⟩
  intro r hr hsucceeded
  exact absurd hsucceeded (ne_succeeded (hmap.2 r hr))

section Exits

variable {W : LedgerLog} {b : Behaviour Response} {latencyMs : ℚ}

section

variable (h : Held W.ledger r)
include h

lemma completeProviderFailure_apply (clock : ℚ) (requestSent : Bool)
    (usage : Option ProviderUsageReport) (hlatency : 0 ≤ latencyMs) :
    let L' := W.ledger.finalise (.providerCall r
      (if requestSent then usage.getD .unknown else .unknown) latencyMs requestSent)
    completeProviderFailure clock r requestSent usage latencyMs W =
      (.ok (L'.snapshot clock), ⟨L', W.entries ++
        [⟨.completeProviderFailure clock r requestSent usage latencyMs,
          .ok (.taken (L'.snapshot clock))⟩]⟩) := by
  apply logged_of_ok
  rw [Operation.completeProviderFailure_eq]
  exact Stateful.atomically_of_ok (h.completeProviderFailure clock requestSent usage hlatency)

lemma completeProviderCall_apply (clock : ℚ) (usage : ProviderUsageReport)
    (hlatency : 0 ≤ latencyMs) :
    let L' := W.ledger.finalise (.providerCall r usage latencyMs true)
    completeProviderCall clock r usage latencyMs W =
      (.ok (L'.snapshot clock), ⟨L', W.entries ++
        [⟨.completeProviderCall clock r usage latencyMs true,
          .ok (.taken (L'.snapshot clock))⟩]⟩) := by
  apply logged_of_ok
  rw [Operation.completeProviderCall_eq]
  exact Stateful.atomically_of_ok (h.completeProviderCall clock hlatency (by simp))

section

variable (hlatency : 0 ≤ latencyMs) (timeoutMs : ℤ)
include hlatency

/-- The exits of which nothing is known. -/
lemma settlement_failUnknown
    (status : ProviderCallStatus) (hstatus : status.isFailure = true) (kind : ProviderFailureKind)
    (errorType : Option String) (ending : Ending Response)
    (hunknown : ending.usage = none) (hsent : ending.mayHaveBeenSent = true) :
    Settlement W ending (ending.finalisation r latencyMs)
      (failUnknown b r timeoutMs latencyMs status hstatus kind errorType W).1
      (failUnknown b r timeoutMs latencyMs status hstatus kind errorType W).2 := by
  have hfinalisation : ending.finalisation r latencyMs = .providerCall r
      (if true then (none : Option ProviderUsageReport).getD .unknown else .unknown)
      latencyMs true := by
    unfold Ending.finalisation
    rw [hunknown, hsent]
  have hcomplete := completeProviderFailure_apply h b.settleClock true none hlatency
  have hrun := bind_failed hcomplete
    (fun s => failure kind true (some .unknown) s
      { ambiguousPostSend := true, errorType := errorType })
    (fun f s => (failed status hstatus (some r.reservationId) timeoutMs none f s :
      ProviderCallResult Response))
  rw [hfinalisation, show failUnknown b r timeoutMs latencyMs status hstatus kind errorType W = _
    from hrun]
  dsimp only
  apply Settlement.of_failed
  · rfl
  · rfl
  · intro error herror
    exact failure_raises herror
  · intro _
    exact hstatus

/-- The exits that ask the provider to stop first: its hook may break out. -/
lemma settlement_requestCancellation (status : ProviderCallStatus) (hstatus : status.isFailure = true)
    (kind : ProviderFailureKind) (ending : Ending Response) (hunknown : ending.usage = none)
    (hsent : ending.mayHaveBeenSent = true) :
    let run := (requestCancellation b.cancelHook >>= fun _ =>
      failUnknown b r timeoutMs latencyMs status hstatus kind none) W
    run = (.error .cancelEscaped, W) ∨
      Settlement W ending (ending.finalisation r latencyMs) run.1 run.2 := by
  have hfail := settlement_failUnknown (b := b) h hlatency timeoutMs status hstatus kind none ending
    hunknown hsent
  intro run
  cases hhook : b.cancelHook with
  | escapes =>
    left
    show (requestCancellation b.cancelHook >>= fun _ => _) W = _
    rw [hhook]
    rfl
  | quiet =>
    right
    have hrun : run = failUnknown b r timeoutMs latencyMs status hstatus kind none W := by
      show (requestCancellation b.cancelHook >>= fun _ => _) W = _
      rw [hhook]
      rfl
    rw [hrun]
    exact hfail
  | raises =>
    right
    have hrun : run = failUnknown b r timeoutMs latencyMs status hstatus kind none W := by
      show (requestCancellation b.cancelHook >>= fun _ => _) W = _
      rw [hhook]
      rfl
    rw [hrun]
    exact hfail

/-- A typed failure of the provider. -/
lemma settlement_invocationError
    (errorType : String) (error : ProviderInvocationError) :
    let ending : Ending Response := .answered (.invocationError errorType error)
    Settlement W ending (ending.finalisation r latencyMs)
      (settle b r timeoutMs ending latencyMs W).1 (settle b r timeoutMs ending latencyMs W).2 := by
  have hcomplete := completeProviderFailure_apply h b.settleClock error.requestSent error.usage
    hlatency
  have hrun := bind_failed hcomplete
    (fun s => failure error.kind error.requestSent error.effectiveUsage s
      { ambiguousPostSend := error.ambiguous
        errorType := some errorType
        providerErrorType := error.providerErrorType
        providerErrorCode := error.providerErrorCode
        providerHttpStatus := error.providerHttpStatus
        providerRequestId := error.providerRequestId })
    (fun f s =>
      (failed error.status error.isFailure_status (some r.reservationId) timeoutMs none f s :
      ProviderCallResult Response))
  intro ending
  rw [show settle b r timeoutMs ending latencyMs W = _ from hrun]
  dsimp only
  apply Settlement.of_failed
  · rfl
  · rfl
  · intro error herror
    exact failure_raises herror
  · intro _
    exact error.isFailure_status

/-- An answer that was validated: a success only when the ledger is still sound and in time. -/
lemma settlement_returned
    (invocation : ProviderInvocation Response) :
    let ending : Ending Response := .answered (.returned (.ok invocation))
    Settlement W ending (ending.finalisation r latencyMs)
      (settle b r timeoutMs ending latencyMs W).1 (settle b r timeoutMs ending latencyMs W).2 := by
  intro ending
  have hcomplete := completeProviderCall_apply h b.settleClock invocation.usage hlatency
  have hrun : settle b r timeoutMs ending latencyMs W =
      (completeProviderCall b.settleClock r invocation.usage latencyMs >>= fun snapshot =>
        if snapshot.healthy && !snapshot.deadlineExceeded then
          pure (succeeded r timeoutMs invocation snapshot)
        else
          Stateful.check (failure .accountingInvalid true (some invocation.usage) snapshot {}) >>=
            fun f => pure (failed .failed rfl (some r.reservationId) timeoutMs (some invocation) f
              snapshot)) W := rfl
  rw [Stateful.bind_of_ok (by rw [hcomplete]), hcomplete] at hrun
  rw [hrun]
  by_cases hsound : ((W.ledger.finalise (.providerCall r invocation.usage latencyMs true)).snapshot
      b.settleClock).healthy && !((W.ledger.finalise (.providerCall r invocation.usage latencyMs
        true)).snapshot b.settleClock).deadlineExceeded
  · rw [if_pos hsound]
    refine ⟨rfl, ⟨_, rfl, rfl, rfl⟩, ?_, ?_⟩
    · intro error herror
      simp [pure] at herror
    · intro result hresult _
      obtain rfl := Except.ok.inj hresult
      rw [Bool.and_eq_true, Bool.not_eq_true'] at hsound
      exact ⟨invocation, rfl, rfl, ⟨_, rfl⟩, hsound.1, hsound.2⟩
  · rw [if_neg hsound, Stateful.check_bind_pure]
    dsimp only
    apply Settlement.of_failed
    · rfl
    · rfl
    · intro error herror
      exact failure_raises herror
    · intro _
      rfl

/-- Every end of the wait settles the reservation, unless the provider's hook breaks out. -/
theorem settlement
    (ending : Ending Response) :
    settle b r timeoutMs ending latencyMs W = (.error .cancelEscaped, W) ∨
      Settlement W ending (ending.finalisation r latencyMs)
        (settle b r timeoutMs ending latencyMs W).1
        (settle b r timeoutMs ending latencyMs W).2 := by
  cases ending with
  | cancelled =>
    exact settlement_requestCancellation h hlatency timeoutMs _ _ _ .cancelled rfl rfl
  | deadlineExceeded =>
    exact settlement_requestCancellation h hlatency timeoutMs _ _ _ .deadlineExceeded rfl rfl
  | answered answer =>
    right
    cases answer with
    | returned validated =>
      cases validated with
      | error errorType =>
        exact settlement_failUnknown h hlatency timeoutMs _ _ _ _ _ rfl rfl
      | ok invocation => exact settlement_returned h hlatency timeoutMs invocation
    | invocationError errorType error =>
      exact settlement_invocationError h hlatency timeoutMs errorType error
    | otherError errorType =>
      exact settlement_failUnknown h hlatency timeoutMs _ _ _ _ _ rfl rfl

end

end

end Exits

/-! ## Refusals -/

/-- Every reservation is refused. -/
def Refuses (L : AggregateBudgetLedger) : Prop :=
  (∀ clock args, ∃ e, L.reserveProviderCall clock args = .error e) ∧
    ∀ clock maxOutputBytes, ∃ e, L.reserveToolCall clock maxOutputBytes = .error e

/-- No call takes an unknown event back. -/
lemma unknownUsage_le_of_happened {L' : AggregateBudgetLedger} {e : Entry} (h : Happened L e L') :
    L.totals.unknownUsageEvents ≤ L'.totals.unknownUsageEvents := by
  cases h with
  | raised call error => exact le_rfl
  | issued call r hmakes => exact le_rfl
  | looked clock => exact le_rfl
  | finalised call f clock hcall hstored hkind =>
    rw [finalise_totals]
    exact Nat.le_add_right _ _

lemma unknownUsage_le_after (L : AggregateBudgetLedger) (calls : List Call) :
    L.totals.unknownUsageEvents ≤ (L.after calls).totals.unknownUsageEvents := by
  induction calls generalizing L with
  | nil => exact le_rfl
  | cons call calls ih =>
    exact (unknownUsage_le_of_happened (happened L call)).trans (ih (operate call L).2)

theorem refuses_after (h : L.totals.unknownUsageEvents ≠ 0) (later : List Call) :
    Refuses (L.after later) := by
  have hle := unknownUsage_le_after L later
  have htainted : (L.after later).Tainted := by
    right; right
    omega
  exact htainted.reserve_refused

/-! ## The call -/

/-- The request is handed to the provider, with this timeout. -/
def Dispatched (b : Behaviour Response) (args : ProviderCallArgs) (L : AggregateBudgetLedger)
    (timeoutMs : ℤ) : Prop :=
  b.cancelledBefore = false ∧ ∃ p, L.reserveProviderCall b.reserveClock args = .ok p ∧
    p.2.providerTimeoutMs b.timeoutClock = timeoutMs ∧ 0 < timeoutMs

/-- What a call leaves behind, however the provider behaves; `cancelEscaped` is the exception that
the provider's own hook throws through the call. -/
structure FailsClosed (b : Behaviour Response) (args : ProviderCallArgs)
    (L : AggregateBudgetLedger)
    (run : Except CallError (ProviderCallResult Response) × LedgerLog) : Prop where
  ends : run.1 ≠ .error .waiting
  issued_le : (issued run.2.entries).length ≤ 1
  settled : run.1 ≠ .error .cancelEscaped →
    (finalised run.2.entries).map (·.reservation) = issued run.2.entries
  succeeded : ∀ result, run.1 = .ok result → result.status = .succeeded →
    ∃ invocation r latencyMs, result.invocation = some invocation ∧
      finalised run.2.entries = [.providerCall r invocation.usage latencyMs true] ∧
      run.2.ledger.totals =
        L.totals.plus (Finalisation.providerCall r invocation.usage latencyMs true).totals ∧
      (∃ now, result.ledger = run.2.ledger.snapshot now) ∧
      result.ledger.healthy = true ∧ result.ledger.deadlineExceeded = false
  unknown : run.1 ≠ .error .cancelEscaped → ∀ timeoutMs ending now,
    Dispatched b args L timeoutMs → b.ending timeoutMs = some (ending, now) →
    ending.mayHaveBeenSent = true → ending.usage = none →
    run.2.ledger.totals.unknownUsageEvents ≠ 0 ∧ run.2.ledger.totals.unknownCostEvents ≠ 0 ∧
      ∀ later, Refuses (run.2.ledger.after later)
  undispatched : (∀ timeoutMs, ¬Dispatched b args L timeoutMs) → run.2.ledger.totals = L.totals

section Call

variable {b : Behaviour Response} {args : ProviderCallArgs}

variable {W : LedgerLog} {clock : ℚ}

/-- A call that is turned away before the dispatch. -/
lemma FailsClosed.of_failed {built : Except CallError ProviderFailure}
    {result : ProviderFailure → ProviderCallResult Response}
    (hnot : ∀ timeoutMs, ¬Dispatched b args L timeoutMs)
    (hbuilt : ∀ error, built = .error error → error = .invalidFailure)
    (hresult : ∀ failure, (result failure).status.isFailure = true)
    (htotals : W.ledger.totals = L.totals) (hissued : (issued W.entries).length ≤ 1)
    (hsettled : (finalised W.entries).map (·.reservation) = issued W.entries) :
    FailsClosed b args L (built.map result, W) := by
  have hmap := map_failed hbuilt hresult
  refine ⟨?_, hissued, fun _ => hsettled, ?_, ?_, fun _ => htotals⟩
  · intro hwaiting
    exact absurd (hmap.1 _ hwaiting) (by decide)
  · intro r hr hsucceeded
    exact absurd hsucceeded (ne_succeeded (hmap.2 r hr))
  · intro _ timeoutMs _ _ hdispatched
    exact absurd hdispatched (hnot timeoutMs)

/-- What a finalisation of unknown use adds. -/
lemma unknown_finalise {f : Finalisation} {latencyMs : ℚ}
    (hf : f = .providerCall r .unknown latencyMs true) :
    (L.finalise f).totals.unknownUsageEvents ≠ 0 ∧ (L.finalise f).totals.unknownCostEvents ≠ 0 := by
  rw [finalise_totals, hf]
  exact ⟨Nat.succ_ne_zero _, Nat.succ_ne_zero _⟩

lemma takeSnapshot_apply (clock : ℚ) (W : LedgerLog) :
    takeSnapshot clock W = (.ok (W.ledger.snapshot clock),
      ⟨W.ledger, W.entries ++ [⟨.snapshot clock, .ok (.taken (W.ledger.snapshot clock))⟩]⟩) :=
  logged_of_ok rfl

lemma cancelReservation_apply (h : Held W.ledger r) (clock : ℚ) :
    let L' := W.ledger.finalise (.cancelled r)
    cancelReservation clock r W = (.ok (L'.snapshot clock),
      ⟨L', W.entries ++ [⟨.cancelReservation clock r, .ok (.taken (L'.snapshot clock))⟩]⟩) := by
  apply logged_of_ok
  rw [Operation.cancelReservation_eq]
  exact Stateful.atomically_of_ok (h.cancelReservation clock)

/-- Already cancelled: the ledger is only looked at. -/
lemma failsClosed_of_cancelledBefore (h : b.cancelledBefore = true) :
    FailsClosed b args L (call b args ⟨L, []⟩) := by
  unfold call
  rw [if_pos h, bind_failed (takeSnapshot_apply b.settleClock ⟨L, []⟩) _ _]
  apply FailsClosed.of_failed
  · intro timeoutMs hdispatched
    rw [hdispatched.1] at h
    exact absurd h (by decide)
  · intro error herror
    exact failure_raises herror
  · intro _
    rfl
  · rfl
  · exact Nat.zero_le 1
  · rfl

variable {L' : AggregateBudgetLedger} {e : BudgetError}

lemma reserveProviderCall_apply_of_ok (h : W.ledger.reserveProviderCall clock args = .ok (r, L')) :
    reserveProviderCall clock args W =
      (.ok r, ⟨L', W.entries ++ [⟨.reserveProviderCall clock args, .ok (.reserved r)⟩]⟩) := by
  apply logged_of_ok
  rw [Operation.reserveProviderCall_eq]
  exact Stateful.atomically_of_ok h

lemma reserveProviderCall_apply_of_error (h : W.ledger.reserveProviderCall clock args = .error e) :
    reserveProviderCall clock args W = (.error (.ledger e),
      ⟨W.ledger, W.entries ++ [⟨.reserveProviderCall clock args, .error e⟩]⟩) := by
  apply logged_of_error
  rw [Operation.reserveProviderCall_eq]
  exact Stateful.atomically_of_error h

lemma not_dispatched_of_error (h : L.reserveProviderCall b.reserveClock args = .error e)
    (timeoutMs : ℤ) : ¬Dispatched b args L timeoutMs := by
  rintro ⟨-, p, hp, -, -⟩
  rw [h] at hp
  simp at hp

/-- The reservation is refused: by a `BudgetExhaustedError`, or by an exception of its
arguments. -/
lemma failsClosed_of_refused (hbefore : b.cancelledBefore = false)
    (h : L.reserveProviderCall b.reserveClock args = .error e) :
    FailsClosed b args L (call b args ⟨L, []⟩) := by
  have hreserve := reserveProviderCall_apply_of_error (W := ⟨L, []⟩) h
  have hnot := not_dispatched_of_error h
  unfold call
  rw [if_neg (by rw [hbefore]; decide)]
  by_cases hexhausted : ∃ metric requested remaining, e = .exhausted metric requested remaining
  · obtain ⟨metric, requested, remaining, rfl⟩ := hexhausted
    have htry : tryReserve b.reserveClock args ⟨L, []⟩ = (.ok (.error metric),
        ⟨L, [⟨.reserveProviderCall b.reserveClock args,
          .error (.exhausted metric requested remaining)⟩]⟩) := by
      unfold tryReserve
      rw [hreserve]
      rfl
    rw [Stateful.bind_of_ok (by rw [htry]), htry]
    simp only
    rw [bind_failed (takeSnapshot_apply b.settleClock _) _ _]
    apply FailsClosed.of_failed hnot
    · intro error herror
      exact failure_raises herror
    · intro _
      rfl
    · rfl
    · exact Nat.zero_le 1
    · rfl
  · have htry : tryReserve b.reserveClock args ⟨L, []⟩ = (.error (.ledger e),
        ⟨L, [⟨.reserveProviderCall b.reserveClock args, .error e⟩]⟩) := by
      unfold tryReserve
      rw [hreserve]
      cases e with
      | exhausted metric requested remaining => exact absurd ⟨_, _, _, rfl⟩ hexhausted
      | _ => rfl
    rw [Stateful.bind_of_error (by rw [htry]), htry]
    refine ⟨by simp, Nat.zero_le 1, fun _ => rfl, by simp, ?_, fun _ => rfl⟩
    intro _ timeoutMs _ _ hdispatched
    exact absurd hdispatched (hnot timeoutMs)

/-- The ledger after the reservation of a call. -/
lemma held_of_reserved (h : L.reserveProviderCall clock args = .ok (r, L')) :
    Held L' r ∧ L'.totals = L.totals := by
  obtain ⟨rfl, rfl, -⟩ := reserveProviderCall_ok h
  exact ⟨held_addReservation args, rfl⟩

/-- The log behind a reservation and its finalisation. -/
lemma log_of_settled {e e' : Entry} {f : Finalisation} (hissued : e.issued? = some r)
    (hfinalised : e.finalised? = none) (hissued' : e'.issued? = none)
    (hfinalised' : e'.finalised? = some f) :
    issued ([e] ++ [e']) = [r] ∧ finalised ([e] ++ [e']) = [f] := by
  rw [issued_append, finalised_append, hissued', hfinalised']
  simp [issued, finalised, hissued, hfinalised]

/-- A call whose wait ended, once it is settled. -/
lemma Settlement.failsClosed {e : Entry} {ending : Ending Response} {now latencyMs : ℚ}
    {run : Except CallError (ProviderCallResult Response) × LedgerLog}
    (hsettled : Settlement ⟨L', [e]⟩ ending (ending.finalisation r latencyMs) run.1 run.2)
    (h : L.reserveProviderCall b.reserveClock args = .ok (r, L'))
    (hbefore : b.cancelledBefore = false) (hpos : 0 < L'.providerTimeoutMs b.timeoutClock)
    (hending : b.ending (L'.providerTimeoutMs b.timeoutClock) = some (ending, now))
    (hissued : e.issued? = some r) (hfinalised : e.finalised? = none) :
    FailsClosed b args L run := by
  obtain ⟨-, htotals⟩ := held_of_reserved h
  obtain ⟨e', hissued', hfinalised', hentries⟩ := hsettled.entries
  obtain ⟨hissues, hfinalises⟩ := log_of_settled hissued hfinalised hissued' hfinalised'
  have hlog : run.2.entries = [e] ++ [e'] := hentries
  have hledger : run.2.ledger = L'.finalise (ending.finalisation r latencyMs) := hsettled.ledger
  refine ⟨?_, ?_, ?_, ?_, ?_, ?_⟩
  · intro hwaiting
    exact absurd (hsettled.raised _ hwaiting) (by decide)
  · rw [hlog, hissues]
    exact le_rfl
  · intro _
    rw [hlog, hissues, hfinalises]
    rfl
  · intro result hresult hsucceeded
    obtain ⟨invocation, rfl, hinvocation, hsnapshot, hhealthy, hdeadline⟩ :=
      hsettled.succeeded result hresult hsucceeded
    refine ⟨invocation, r, latencyMs, hinvocation, ?_, ?_, hsnapshot, hhealthy, hdeadline⟩
    · rw [hlog]
      exact hfinalises
    · rw [hledger, finalise_totals, htotals]
      rfl
  · rintro _ timeoutMs ending' now' ⟨-, p, hp, rfl, -⟩ hending' hsent husage
    rw [h] at hp
    obtain rfl := Except.ok.inj hp
    obtain ⟨rfl, rfl⟩ : ending = ending' ∧ now = now' := by
      have heq := hending.symm.trans hending'
      simpa using heq
    have hunknown : ending.finalisation r latencyMs = .providerCall r .unknown latencyMs true := by
      unfold Ending.finalisation
      rw [husage, hsent]
      rfl
    obtain ⟨husages, hcosts⟩ := unknown_finalise (L := L') hunknown
    rw [hledger]
    exact ⟨husages, hcosts, refuses_after husages⟩
  · intro hnot
    exact absurd ⟨hbefore, _, h, rfl, hpos⟩ (hnot _)

/-- The exits behind a reservation. -/
lemma failsClosed_of_reserved (hbefore : b.cancelledBefore = false)
    (h : L.reserveProviderCall b.reserveClock args = .ok (r, L')) :
    FailsClosed b args L (call b args ⟨L, []⟩) := by
  obtain ⟨hheld, htotals⟩ := held_of_reserved h
  have htry : tryReserve b.reserveClock args ⟨L, []⟩ = (.ok (.ok r),
      ⟨L', [⟨.reserveProviderCall b.reserveClock args, .ok (.reserved r)⟩]⟩) := by
    unfold tryReserve
    rw [reserveProviderCall_apply_of_ok (W := ⟨L, []⟩) h]
    rfl
  generalize hentry : (⟨.reserveProviderCall b.reserveClock args, .ok (.reserved r)⟩ : Entry) = e
    at htry
  have hissued : e.issued? = some r := by
    rw [← hentry]
    rfl
  have hfinalised : e.finalised? = none := by
    rw [← hentry]
    rfl
  unfold call
  rw [if_neg (by rw [hbefore]; decide), Stateful.bind_of_ok (by rw [htry]), htry]
  simp only
  rw [Stateful.bind_of_ok (a := ⟨L', [e]⟩) rfl]
  by_cases htimeout : L'.providerTimeoutMs b.timeoutClock ≤ 0
  · -- no time left: the reservation is cancelled
    have hnot : ∀ timeoutMs, ¬Dispatched b args L timeoutMs := by
      rintro timeoutMs ⟨-, p, hp, rfl, hpos⟩
      rw [h] at hp
      obtain rfl := Except.ok.inj hp
      exact absurd htimeout (not_le.mpr hpos)
    have hcancelled : Entry.finalised? ⟨.cancelReservation b.settleClock r,
        .ok (.taken ((L'.finalise (.cancelled r)).snapshot b.settleClock))⟩ =
          some (.cancelled r) := rfl
    obtain ⟨hissues, hfinalises⟩ := log_of_settled hissued hfinalised rfl hcancelled
    simp only [Stateful.get, if_pos htimeout]
    rw [bind_failed (cancelReservation_apply (W := ⟨L', [e]⟩) hheld b.settleClock) _ _]
    apply FailsClosed.of_failed hnot
    · intro error herror
      exact failure_raises herror
    · intro _
      rfl
    · show (L'.finalise (.cancelled r)).totals = L.totals
      rw [finalise_totals, htotals]
      exact Totals.plus_empty _
    · rw [hissues]
      exact le_rfl
    · rw [hissues, hfinalises]
      rfl
  · have hpos : 0 < L'.providerTimeoutMs b.timeoutClock := by omega
    obtain ⟨⟨ending, now⟩, hending⟩ := Option.isSome_iff_exists.mp (ending_isSome b hpos)
    have hlatency : 0 ≤ (now + b.lag - b.startedAt) * 1000 := by
      have hstart := (ending_ends b hending).start_le
      have hlag := b.lag_nonneg
      linarith
    have hsettle := settlement (W := ⟨L', [e]⟩) (b := b) hheld hlatency
      (L'.providerTimeoutMs b.timeoutClock) ending
    simp only [Stateful.get, if_neg htimeout]
    unfold dispatch
    rw [hending]
    simp only
    generalize settle b r (L'.providerTimeoutMs b.timeoutClock) ending
      ((now + b.lag - b.startedAt) * 1000) ⟨L', [e]⟩ = run at hsettle ⊢
    rcases hsettle with rfl | hsettled
    · refine ⟨by simp, ?_, by simp, by simp, by simp, ?_⟩
      · simp [issued, hissued]
      · intro _
        exact htotals
    · exact hsettled.failsClosed h hbefore hpos hending hissued hfinalised

end Call

/-! ## The log of a call -/

section Log

variable (b : Behaviour Response) (r : BudgetReservation) {args : ProviderCallArgs}

lemma keepsLog_takeSnapshot (clock : ℚ) : KeepsLog args (takeSnapshot clock) :=
  keepsLog_logged trivial rfl

lemma keepsLog_completeProviderFailure (clock : ℚ) (requestSent : Bool)
    (usage : Option ProviderUsageReport) (latencyMs : ℚ) :
    KeepsLog args (completeProviderFailure clock r requestSent usage latencyMs) :=
  keepsLog_logged trivial rfl

lemma tryReserve_snd (clock : ℚ) (args : ProviderCallArgs) (W : LedgerLog) :
    (tryReserve clock args W).2 = (reserveProviderCall clock args W).2 := by
  unfold tryReserve
  split
  · next h => rw [h]
  · next h => rw [h]
  · next h => rw [h]

lemma keepsLog_tryReserve (clock : ℚ) (args : ProviderCallArgs) :
    KeepsLog args (tryReserve clock args) := by
  intro W
  have hmade : MadeBy args (.reserveProviderCall clock args) := rfl
  rw [tryReserve_snd]
  exact keepsLog_logged hmade rfl W

lemma keepsLog_failUnknown (timeoutMs : ℤ) (latencyMs : ℚ) (status : ProviderCallStatus)
    (hstatus : status.isFailure = true) (kind : ProviderFailureKind) (errorType : Option String) :
    KeepsLog args (failUnknown b r timeoutMs latencyMs status hstatus kind errorType) :=
  (keepsLog_completeProviderFailure r _ _ _ _).bind fun _ =>
    (keepsLog_check _).bind fun _ => keepsLog_pure _

lemma keepsLog_requestCancellation (hook : CancelHook) :
    KeepsLog args (requestCancellation hook) := by
  cases hook with
  | quiet => exact keepsLog_pure ()
  | raises => exact keepsLog_pure ()
  | escapes => exact keepsLog_raise .cancelEscaped

lemma keepsLog_settle (timeoutMs : ℤ) (ending : Ending Response) (latencyMs : ℚ) :
    KeepsLog args (settle b r timeoutMs ending latencyMs) := by
  cases ending with
  | cancelled =>
    exact (keepsLog_requestCancellation _).bind fun _ => keepsLog_failUnknown b r _ _ _ _ _ _
  | deadlineExceeded =>
    exact (keepsLog_requestCancellation _).bind fun _ => keepsLog_failUnknown b r _ _ _ _ _ _
  | answered answer =>
    cases answer with
    | otherError errorType => exact keepsLog_failUnknown b r _ _ _ _ _ _
    | invocationError errorType error =>
      exact (keepsLog_completeProviderFailure r _ _ _ _).bind fun _ =>
        (keepsLog_check _).bind fun _ => keepsLog_pure _
    | returned validated =>
      cases validated with
      | error errorType => exact keepsLog_failUnknown b r _ _ _ _ _ _
      | ok invocation =>
        have hcomplete :
            KeepsLog args (completeProviderCall b.settleClock r invocation.usage latencyMs) :=
          keepsLog_logged trivial rfl
        apply hcomplete.bind
        intro snapshot
        by_cases hsound : (snapshot.healthy && !snapshot.deadlineExceeded) = true
        · rw [if_pos hsound]
          exact keepsLog_pure _
        · rw [if_neg hsound]
          exact (keepsLog_check _).bind fun _ => keepsLog_pure _

/-- A call that was not cancelled before starts with its reservation. -/
lemma call_eq_bind (hbefore : b.cancelledBefore = false) (args : ProviderCallArgs) :
    ∃ k, (∀ reserved, KeepsLog args (k reserved)) ∧
      call b args = tryReserve b.reserveClock args >>= k := by
  refine ⟨_, ?_, if_neg (by rw [hbefore]; decide)⟩
  intro reserved
  cases reserved with
  | error metric =>
    exact (keepsLog_takeSnapshot _).bind fun _ => (keepsLog_check _).bind fun _ => keepsLog_pure _
  | ok r =>
    have hget : KeepsLog args (Stateful.get : Stateful LedgerLog CallError LedgerLog) := Logs.refl
    apply hget.bind
    intro W
    by_cases htimeout : W.ledger.providerTimeoutMs b.timeoutClock ≤ 0
    · have hcancel : KeepsLog args (cancelReservation b.settleClock r) :=
        keepsLog_logged trivial rfl
      simp only [if_pos htimeout]
      exact hcancel.bind fun _ => (keepsLog_check _).bind fun _ => keepsLog_pure _
    · simp only [if_neg htimeout]
      unfold dispatch
      cases b.ending (W.ledger.providerTimeoutMs b.timeoutClock) with
      | none => exact keepsLog_raise .waiting
      | some ended => exact keepsLog_settle b r _ _ _

theorem keepsLog_call (args : ProviderCallArgs) : KeepsLog args (call b args) := by
  cases hbefore : b.cancelledBefore with
  | true =>
    unfold call
    rw [if_pos hbefore]
    exact (keepsLog_takeSnapshot _).bind fun _ => (keepsLog_check _).bind fun _ => keepsLog_pure _
  | false =>
    obtain ⟨k, hk, hcall⟩ := call_eq_bind b hbefore args
    rw [hcall]
    exact (keepsLog_tryReserve _ _).bind hk

/-- The first entry of the log says what the reservation came to. -/
theorem first_entry (hbefore : b.cancelledBefore = false) (args : ProviderCallArgs)
    (L : AggregateBudgetLedger) :
    ∃ rest, (call b args ⟨L, []⟩).2.entries =
      ⟨.reserveProviderCall b.reserveClock args,
        (operate (.reserveProviderCall b.reserveClock args) L).1⟩ :: rest := by
  obtain ⟨k, hk, hcall⟩ := call_eq_bind b hbefore args
  have hfirst : (tryReserve b.reserveClock args ⟨L, []⟩).2.entries =
      [⟨.reserveProviderCall b.reserveClock args,
        (operate (.reserveProviderCall b.reserveClock args) L).1⟩] := by
    rw [tryReserve_snd]
    exact logged_entries rfl ⟨L, []⟩
  rw [hcall]
  cases hresult : (tryReserve b.reserveClock args ⟨L, []⟩).1 with
  | error e =>
    rw [Stateful.bind_of_error hresult, hfirst]
    exact ⟨[], rfl⟩
  | ok reserved =>
    obtain ⟨calls, -, -, hentries⟩ := hk reserved (tryReserve b.reserveClock args ⟨L, []⟩).2
    rw [Stateful.bind_of_ok hresult, hentries, hfirst]
    exact ⟨_, rfl⟩

end Log

/-- A call makes at most one reservation. -/
lemma length_issued_call_le (b : Behaviour Response) (args : ProviderCallArgs)
    (L : AggregateBudgetLedger) : (issued (call b args ⟨L, []⟩).2.entries).length ≤ 1 := by
  cases hbefore : b.cancelledBefore with
  | true => exact (failsClosed_of_cancelledBefore hbefore).issued_le
  | false =>
    cases hreserve : L.reserveProviderCall b.reserveClock args with
    | error e => exact (failsClosed_of_refused hbefore hreserve).issued_le
    | ok reserved => exact (failsClosed_of_reserved hbefore hreserve).issued_le

end CompositeProviderController

end Agintor.Kernel
