import Agintor.Kernel.ActorSharesTheorems

/-!
# The accounts of a run

Whatever the provider, the tools and the clocks do, the ledger that a run leaves is reached by
calls on a new one. A run that returns has finalised every reservation it made, once, and has
spent no more than the ceilings.
-/

namespace Agintor.Kernel

open Agintor.Contracts Agintor.Compiler Lib AggregateBudgetLedger

variable {L : AggregateBudgetLedger}

/-- Every reservation was finalised, and no other. -/
lemma AggregateBudgetLedger.Accounted.perm_of_reconciled {entries : List Entry}
    (h : L.Accounted entries) (hreconciled : L.reservations.entries = []) :
    (finalisedIds entries).Perm (issuedIds entries) := by
  refine (h.finalised_nodup.subperm h.finalisedIds_subset).perm_of_length_le ?_
  have hactive := h.active
  rw [hreconciled, List.length_nil, Nat.zero_add] at hactive
  unfold issuedIds finalisedIds
  rw [List.length_map, List.length_map, hactive]

variable {ρ : Type} {runtime : CompositeRuntime} {digests : RuntimeDigests}
  {countTokens : ActorCallRequest → ℕ}
  {behave : ActorCallRequest → ρ → Behaviour (Option ActorTurn) × ρ}
  {tools : Option (ToolInterface (AggregateBudgetLedger × ρ))}

/-- The ledger of the run is reached by calls on the one it started with. -/
def Reached (L : AggregateBudgetLedger) (w : BudgetWorld ρ) : Prop :=
  ∃ calls, w.ledger = L.after calls

lemma Reached.append {w w' : BudgetWorld ρ} (h : Reached L w) {calls : List Call}
    (hledger : w'.ledger = w.ledger.after calls) : Reached L w' := by
  obtain ⟨before, hbefore⟩ := h
  refine ⟨before ++ calls, ?_⟩
  rw [hledger, hbefore, after_eq_run, after_eq_run, after_eq_run]
  exact (List.foldl_append ..).symm

lemma preserves_reached {α : Type}
    {action : AggregateBudgetLedger × ρ → α × AggregateBudgetLedger × ρ}
    (haction : MakesToolCalls action) : Preserves (Reached L) (BudgetWorld.lift action) := by
  intro w hw
  obtain ⟨calls, -, hledger⟩ := haction w.ledger w.outside
  exact hw.append hledger

/-- What calls on the ledger can reach is all that a run can reach. -/
theorem reached_run (htools : ∀ tools' ∈ tools, ToolCallsOnly tools') (clock : ℚ) (outside : ρ) :
    Reached (init runtime.plan.budgetLedger.aggregateCeiling clock)
      (runtime.worldAfter digests countTokens behave tools clock outside) := by
  refine keeps_run (environmentPreserves ?_ preserves_reached htools) _ ⟨[], rfl⟩
  intro callId call hcall context turnIndex toolResults request hrequest w hw
  obtain ⟨calls, -, hledger, -⟩ := CompositeProviderController.keepsLog_call
    { (behave request w.outside).1 with cancelledBefore := false } (providerArgs runtime request)
    ⟨w.ledger, []⟩
  exact hw.append hledger

/-- A program that, when it returns, leaves a world with the property. -/
def Leaves {σ α : Type} (I : σ → Prop) (p : Run σ α) : Prop :=
  ∀ s a, (p s).1 = .ok a → I (p s).2.world

lemma leaves_bind {σ α β : Type} {I : σ → Prop} {p : Run σ α} {k : α → Run σ β}
    (hk : ∀ a, Leaves I (k a)) : Leaves I (p >>= k) := by
  intro s b hb
  cases hresult : (p s).1 with
  | error e =>
    rw [Stateful.bind_of_error hresult] at hb
    exact absurd hb (by simp)
  | ok a =>
    rw [Stateful.bind_of_ok hresult] at hb ⊢
    exact hk a _ b hb

/-- A run that returns has found the budget healthy. -/
theorem leaves_run {σ : Type} (env : Environment σ) :
    Leaves (fun w => env.budgetHealthy w = true) (run digests env runtime) := by
  refine leaves_bind fun _ => leaves_bind fun _ => leaves_bind fun _ => leaves_bind fun _ =>
    leaves_bind fun finalPatch => ?_
  have hend (result : CompositeRunResult) : Leaves (fun w => env.budgetHealthy w = true) (do
      let s ← Stateful.get
      Stateful.check (raiseIf (env.budgetHealthy s.world = false)
        (.composite "budget_reconciliation_failed"
          "aggregate provider accounting is incomplete or unhealthy"))
      return result : Run σ CompositeRunResult) := by
    intro s a hok
    rw [Stateful.get_bind_apply] at hok ⊢
    by_cases hhealthy : env.budgetHealthy s.world = true
    · rw [raiseIf, if_neg (by rw [hhealthy]; decide)]
      exact hhealthy
    · rw [Bool.not_eq_true] at hhealthy
      rw [raiseIf, if_pos hhealthy] at hok
      cases hok
  cases env.tools with
  | none => exact hend _
  | some tools => exact leaves_bind fun result => hend result

/-- Whatever the provider, the tools and the clocks do: as long as no violation is recorded, a run
has committed and holds back no more than the ceilings; and if it returns, every reservation it
made was finalised once and its totals are the sum of what was finalised. -/
theorem run_settles_accounts (htools : ∀ tools' ∈ tools, ToolCallsOnly tools') (clock : ℚ)
    (outside : ρ) :
    let L₀ := init runtime.plan.budgetLedger.aggregateCeiling clock
    let L := (runtime.worldAfter digests countTokens behave tools clock outside).ledger
    (L.violations = [] → ∀ m, L.totals.count m + L.reserved m ≤ limit L₀.ceilings m) ∧
    ∀ result, (run digests (sharedEnvironment runtime countTokens behave tools) runtime
        (runtime.start (runtime.newWorld clock outside))).1 = .ok result →
      L.violations = [] ∧ ∃ calls, L = L₀.after calls ∧
        (issuedIds (L₀.history calls)).Nodup ∧
        (finalisedIds (L₀.history calls)).Perm (issuedIds (L₀.history calls)) ∧
        L.totals = reference (finalised (L₀.history calls)) := by
  intro L₀ L
  obtain ⟨calls, hL⟩ : ∃ calls, L = L₀.after calls := reached_run htools clock outside
  constructor
  · intro hviolations
    have hceilings : L.ceilings = L₀.ceilings := by
      rw [hL, after_ceilings calls (wellFormed_init _ clock)]
    have hsound : L.Sound := hL ▸ (sound_init _ clock).after calls
    rw [← hceilings]
    exact hsound.wellFormed.bounded hviolations
  · intro result hresult
    have hhealthy := leaves_run (sharedEnvironment runtime countTokens behave tools) _ result hresult
    obtain ⟨hreconciled, hhealthy⟩ := Bool.and_eq_true_iff.mp hhealthy
    have haccounted := (accounted_init L₀.ceilings clock).after calls
    rw [List.nil_append] at haccounted
    have hnone : L.reservations.entries = [] := (of_decide_eq_true hreconciled).1
    rw [hL] at hnone
    exact ⟨(of_decide_eq_true hhealthy).1, calls, hL, haccounted.issued_nodup,
      haccounted.perm_of_reconciled hnone, hL ▸ haccounted.totals⟩

/-- A draft, a review and a patch. -/
def patching : ℕ → ActorTurn
  | 2 => .terminal ⟨"revision", Dict.empty, some "--- a/x\n+++ b/x"⟩
  | n => drafting n

/-- A run of the sample plan without tools. -/
def patchingRun (runtime : CompositeRuntime) :
    Except RuntimeError CompositeRunResult × RunState (BudgetWorld ℕ) :=
  run sampleRunDigests (sharedEnvironment runtime (fun _ => 5) (answering patching) none) runtime
    (runtime.start (runtime.newWorld 0 0))

/-- It returns after three rounds. -/
theorem run_settles_accounts_patching : ∃ runtime : CompositeRuntime,
    let L₀ := init runtime.plan.budgetLedger.aggregateCeiling 0
    let w := (patchingRun runtime).2.world
    w.turns.length = 3 ∧ w.ledger.violations = [] ∧ ∃ calls, w.ledger = L₀.after calls ∧
      (finalisedIds (L₀.history calls)).Perm (issuedIds (L₀.history calls)) := by
  obtain ⟨runtime, -, hrun⟩ := Option.map_eq_some_iff.mp (show
    (((samplePlan sampleProtocol).toOption.bind fun plan =>
      (initSample plan).toOption).map fun runtime => (patchingRun runtime).1.toBool &&
        decide ((patchingRun runtime).2.world.turns.length = 3)) = some true by decide +kernel)
  obtain ⟨hok, hlength⟩ := Bool.and_eq_true_iff.mp hrun
  cases hresult : (patchingRun runtime).1 with
  | error e =>
    rw [hresult] at hok
    cases hok
  | ok result =>
    obtain ⟨hviolations, calls, hcalls, -, hperm, -⟩ :=
      (run_settles_accounts (fun _ h => by cases h) 0 0).2 result hresult
    exact ⟨runtime, of_decide_eq_true hlength, hviolations, calls, hcalls, hperm⟩

end Agintor.Kernel
