import Agintor.Kernel.ActorShares
import Agintor.Kernel.CompositeProviderTheorems
import Agintor.Kernel.CompositeRuntimeTheorems
import Agintor.Kernel.LedgerUse
import Agintor.Kernel.RepairTools
import Agintor.Kernel.RunWorld

/-!
# Actors within their shares

The share of an actor is divided among its calls and spent by its rounds. As long as it takes no
more rounds than it has calls, and no part of a call is raised to one token, its rounds stay
within its share; and rounds that all stay within their shares never exhaust the tokens or the
known cost of another actor.
-/

namespace Agintor.Kernel

open Agintor.Contracts Agintor.Compiler Lib AggregateBudgetLedger

/-! ## What a round asks for -/

/-- The part of the share of an actor that falls to one of its calls. -/
def callPart (plan : CompositeRunPlan) (actor : HarnessActor) : ℚ :=
  actor.budgetShareBps / (scheduledCalls plan actor.actorId : ℚ)

/-- A round that asks for at most the part of one call. -/
structure Planned (plan : CompositeRunPlan) (ceilings : TaskCeilings) (actor : HarnessActor)
    (turn : ProviderTurn) : Prop where
  actorId : turn.actorId = actor.actorId
  output : turn.args.maxOutputTokens = tokenShare ceilings.maxOutputTokens (callPart plan actor)
  input : turn.args.inputTokens ≤ tokenShare ceilings.maxInputTokens (callPart plan actor)
  input_nonneg : 0 ≤ turn.args.inputTokens
  cost : turn.args.estimatedCostUsd = ceilings.maxKnownCostUsd * callPart plan actor / 10000
  status : turn.args.expectedCostStatus = .known

section Requests

variable {σ : Type} {env : Environment σ} {runtime : CompositeRuntime} {call : ActorCallPlan}
  {context : PreCallContextManifest} {turnIndex : ℕ} {toolResults : List ActorToolResultContext}
  {request : ActorCallRequest}

/-- What a request carries over from its call, and its two token limits. -/
lemma requestFor_ok
    (h : requestFor env runtime call context turnIndex toolResults = .ok request) :
    request.actorId = call.actorId ∧ request.budgetShareBps = call.budgetShareBps ∧
      request.maxOutputTokens = tokenShare runtime.task.ceilings.maxOutputTokens
        (callShareBps runtime.plan call) ∧
      request.inputTokenEstimate ≤ tokenShare runtime.task.ceilings.maxInputTokens
        (callShareBps runtime.plan call) := by
  unfold requestFor at h
  simp only [bind_eq_ok_iff, raiseIf_eq_ok_iff, not_lt, pure_eq_ok, Except.ok.injEq] at h
  obtain ⟨_, hestimate, rfl⟩ := h
  exact ⟨rfl, rfl, rfl, hestimate⟩

end Requests

section Compiled

variable {D : HarnessDigests} {task : TaskEnvelope} {protocol : HarnessProtocol}
  {dependencies : RuntimeDependencyManifest} {levels : List (List String)}
  {plan : CompositeRunPlan}

/-- Every call is one of an actor of the protocol, with its share. -/
lemma actor_of_call (h : Compiled D task protocol dependencies levels plan) {call : ActorCallPlan}
    (hcall : call ∈ plan.actorCalls) :
    ∃ actor ∈ protocol.actors, call.actorId = actor.actorId ∧
      call.budgetShareBps = actor.budgetShareBps := by
  rcases call_cases h hcall with ⟨actor, hactor, rfl⟩ | ⟨_, -, actor, hactor, -, rfl⟩
  · exact ⟨actor, hactor, rfl, rfl⟩
  · exact ⟨actor, hactor, rfl, rfl⟩

end Compiled

/-! ## Sums over the rounds of an actor -/

section Sums

variable {plan : CompositeRunPlan} {ceilings : TaskCeilings} {actor : HarnessActor}
  {turns : List ProviderTurn}

lemma turnsOf_append (turns turns' : List ProviderTurn) (actorId : String) :
    turnsOf (turns ++ turns') actorId = turnsOf turns actorId ++ turnsOf turns' actorId :=
  List.filter_append ..

/-- The pace before every round is the number of rounds at the end. -/
lemma rounds_iff (turns : List ProviderTurn) (actorId : String) {n : ℕ} :
    (∀ before turn after, turns = before ++ turn :: after → turn.actorId = actorId →
      (turnsOf before actorId).length < n) ↔ (turnsOf turns actorId).length ≤ n := by
  constructor
  · intro h
    induction turns using List.reverseRecOn with
    | nil => exact Nat.zero_le n
    | append_singleton turns turn ih =>
      rw [turnsOf_append]
      by_cases hactor : turn.actorId = actorId
      · have hlt := h turns turn [] rfl hactor
        simp [turnsOf, hactor] at hlt ⊢
        omega
      · have hle : (turnsOf turns actorId).length ≤ n := by
          apply ih
          intro before turn' after hsplit
          apply h before turn' (after ++ [turn])
          rw [hsplit, List.append_assoc, List.cons_append]
        simpa [turnsOf, hactor] using hle
  · intro h before turn after hsplit hactor
    rw [hsplit, turnsOf_append, List.length_append] at h
    have hone : 1 ≤ (turnsOf (turn :: after) actorId).length := by
      simp [turnsOf, hactor]
    omega

/-- Without the minimum of one token, the parts of the calls add up to at most the share. -/
lemma tokenShare_mul_le {ceiling bps n : ℕ} (hn : 0 < n) (h : 10000 * n ≤ ceiling * bps) :
    (tokenShare ceiling ((bps : ℚ) / n) : ℚ) * n ≤ ceiling * bps / 10000 := by
  have hpos : (0 : ℚ) < n := by exact_mod_cast hn
  have hpart : (ceiling : ℚ) * (bps / n) / 10000 * n = ceiling * bps / 10000 := by
    field_simp
  have hrat : (10000 : ℚ) * n ≤ ceiling * bps := by exact_mod_cast h
  have hone : (1 : ℚ) ≤ ceiling * (bps / n) / 10000 := by
    rw [le_div_iff₀ (by norm_num), ← mul_div_assoc, le_div_iff₀ hpos]
    linarith
  have hfloor : 1 ≤ ⌊(ceiling : ℚ) * (bps / n) / 10000⌋ := Int.le_floor.mpr (by exact_mod_cast hone)
  have hshare : (tokenShare ceiling ((bps : ℚ) / n) : ℚ) ≤ ceiling * (bps / n) / 10000 := by
    have hmax : tokenShare ceiling ((bps : ℚ) / n) = ⌊(ceiling : ℚ) * (bps / n) / 10000⌋.toNat := by
      unfold tokenShare
      omega
    have hcast : ((⌊(ceiling : ℚ) * (bps / n) / 10000⌋.toNat : ℤ) : ℚ) =
        (⌊(ceiling : ℚ) * (bps / n) / 10000⌋ : ℚ) := by
      rw [Int.toNat_of_nonneg (by omega)]
    rw [hmax]
    calc ((⌊(ceiling : ℚ) * (bps / n) / 10000⌋.toNat : ℕ) : ℚ)
        = (⌊(ceiling : ℚ) * (bps / n) / 10000⌋ : ℚ) := by exact_mod_cast hcast
      _ ≤ ceiling * (bps / n) / 10000 := Int.floor_le _
  calc (tokenShare ceiling ((bps : ℚ) / n) : ℚ) * n
      ≤ (ceiling : ℚ) * (bps / n) / 10000 * n := mul_le_mul_of_nonneg_right hshare hpos.le
    _ = ceiling * bps / 10000 := hpart

/-- As many amounts as calls at most, each at most the part of a call. -/
lemma sum_le_of_parts {f : ProviderTurn → ℚ} {n : ℕ} {share : ℚ} (part : ℚ)
    (hlength : (turnsOf turns actor.actorId).length ≤ n)
    (hpart : ∀ turn ∈ turnsOf turns actor.actorId, f turn ≤ part) (hnonneg : 0 ≤ part)
    (hshare : part * n ≤ share) : ((turnsOf turns actor.actorId).map f).sum ≤ share := by
  have hsum : ((turnsOf turns actor.actorId).map f).sum ≤
      (turnsOf turns actor.actorId).length • part := by
    have hcard := List.sum_le_card_nsmul ((turnsOf turns actor.actorId).map f) part (by
      intro x hx
      obtain ⟨turn, hturn, rfl⟩ := List.mem_map.mp hx
      exact hpart turn hturn)
    rwa [List.length_map] at hcard
  rw [nsmul_eq_mul] at hsum
  have hle : ((turnsOf turns actor.actorId).length : ℚ) ≤ n := by exact_mod_cast hlength
  calc ((turnsOf turns actor.actorId).map f).sum
      ≤ ((turnsOf turns actor.actorId).length : ℚ) * part := hsum
    _ ≤ n * part := mul_le_mul_of_nonneg_right hle hnonneg
    _ = part * n := mul_comm _ _
    _ ≤ share := hshare

/-- Rounds that keep the pace stay within the share. -/
theorem Paced.withinShare (h : Paced plan ceilings actor turns)
    (hcalls : 0 < scheduledCalls plan actor.actorId)
    (hplanned : ∀ turn ∈ turnsOf turns actor.actorId, Planned plan ceilings actor turn) :
    WithinShare ceilings actor turns := by
  have hlength := (rounds_iff turns actor.actorId).mp h.rounds
  have hpos : (0 : ℚ) < scheduledCalls plan actor.actorId := by exact_mod_cast hcalls
  refine ⟨?_, ?_, ?_⟩
  · apply sum_le_of_parts (tokenShare ceilings.maxOutputTokens (callPart plan actor)) hlength
    · intro turn hturn
      rw [(hplanned turn hturn).output]
      norm_cast
    · exact Nat.cast_nonneg _
    · exact tokenShare_mul_le hcalls h.output
  · apply sum_le_of_parts (tokenShare ceilings.maxInputTokens (callPart plan actor)) hlength
    · intro turn hturn
      have hle := (hplanned turn hturn).input
      exact_mod_cast hle
    · exact Nat.cast_nonneg _
    · exact tokenShare_mul_le hcalls h.input
  · apply sum_le_of_parts (ceilings.maxKnownCostUsd * callPart plan actor / 10000) hlength
    · intro turn hturn
      rw [(hplanned turn hturn).cost]
    · have hcost := ceilings.knownCost_nonneg
      unfold callPart
      positivity
    · apply le_of_eq
      unfold callPart shareOf
      field_simp

end Sums

/-! ## The rounds of a run -/

section Run

variable {D : HarnessDigests} {task : TaskEnvelope} {protocol : HarnessProtocol}
  {dependencies : RuntimeDependencyManifest} {levels : List (List String)}
  {plan : CompositeRunPlan} {scratchWorkspace : ScratchWorkspaceBinding}
  {session : Option HarnessPublicSessionContext} {runtime : CompositeRuntime}

lemma runtime_of_init
    (h : CompositeRuntime.init D plan task scratchWorkspace session = .ok runtime) :
    runtime.plan = plan ∧ runtime.task = task ∧ runtime.calls = callsById plan := by
  unfold CompositeRuntime.init at h
  simp only [bind_eq_ok_iff] at h
  obtain ⟨_, -, callStage, -, hstore⟩ := h
  cases hartifacts : ImmutableArtifactStore.init plan task.ceilings.maxArtifactBytes with
  | error e =>
    rw [hartifacts] at hstore
    cases e <;> simp at hstore
  | ok artifacts =>
    rw [hartifacts] at hstore
    obtain rfl := Except.ok.inj hstore
    exact ⟨rfl, rfl, rfl⟩

lemma aggregateCeiling_eq (h : Compiled D task protocol dependencies levels plan) :
    plan.budgetLedger.aggregateCeiling = task.ceilings :=
  congrArg (·.budgetLedger.aggregateCeiling) h.payload

/-- The constructed runtime of a compiled plan. -/
structure Constructed (D : HarnessDigests) (task : TaskEnvelope) (protocol : HarnessProtocol)
    (plan : CompositeRunPlan) (runtime : CompositeRuntime) : Prop where
  compiled : ∃ dependencies levels, Compiled D task protocol dependencies levels plan
  plan_eq : runtime.plan = plan
  task_eq : runtime.task = task
  calls_eq : runtime.calls = callsById plan

variable {ρ : Type} {countTokens : ActorCallRequest → ℕ}
  {behave : ActorCallRequest → ρ → Behaviour (Option ActorTurn) × ρ}
  {tools : Option (ToolInterface (AggregateBudgetLedger × ρ))}

/-- Every round is one of an actor, for the part of one of its calls. -/
def PlannedRounds (protocol : HarnessProtocol) (plan : CompositeRunPlan) (ceilings : TaskCeilings)
    (turns : List ProviderTurn) : Prop :=
  ∀ turn ∈ turns, ∃ actor ∈ protocol.actors, Planned plan ceilings actor turn

variable {toolResults : List ActorToolResultContext} {context : PreCallContextManifest}
    {request : ActorCallRequest} {r : BudgetReservation} {call : ActorCallPlan}
    {turn : ProviderTurn}

/-- What a request of the runtime asks for is planned. -/
lemma Constructed.planned (h : Constructed D task protocol plan runtime) {callId : String}
    (hcall : runtime.calls.get? callId = some call) {σ : Type} {env : Environment σ} {turnIndex : ℕ}
    (hrequest : requestFor env runtime call context turnIndex toolResults = .ok request)
    (entries : List Entry) :
    ∃ actor ∈ protocol.actors, Planned plan task.ceilings actor
      ⟨request.actorId, providerArgs runtime request, entries⟩ := by
  obtain ⟨dependencies, levels, hcompiled⟩ := h.compiled
  rw [h.calls_eq] at hcall
  have hmem := ((callsById_get? hcompiled).mp hcall).1
  obtain ⟨actor, hactor, hid, hshare⟩ := actor_of_call hcompiled hmem
  obtain ⟨hactorId, hbps, houtput, hinput⟩ := requestFor_ok hrequest
  have hpart : callShareBps runtime.plan call = callPart plan actor := by
    unfold callShareBps callPart scheduledCalls
    rw [h.plan_eq, hid, hshare]
  rw [h.task_eq, hpart] at houtput hinput
  refine ⟨actor, hactor, hactorId.trans hid, ?_, ?_, ?_, ?_, rfl⟩
  · show (request.maxOutputTokens : ℤ) = _
    rw [houtput]
  · show (request.inputTokenEstimate : ℤ) ≤ _
    exact_mod_cast hinput
  · exact Int.natCast_nonneg _
  · show runtime.task.ceilings.maxKnownCostUsd * (request.budgetShareBps / _) / 10000 = _
    unfold callPart scheduledCalls
    rw [h.task_eq, h.plan_eq, hbps, hshare, hactorId, hid]

/-- Every actor has a call. -/
lemma Constructed.scheduledCalls_pos (h : Constructed D task protocol plan runtime)
    {actor : HarnessActor} (hactor : actor ∈ protocol.actors) :
    0 < scheduledCalls plan actor.actorId := by
  obtain ⟨dependencies, levels, hcompiled⟩ := h.compiled
  have hcall : initialCall task protocol actor ∈ plan.actorCalls := by
    rw [actorCalls_eq hcompiled]
    exact (mem_compileCalls (levels_of_compiled hcompiled)).mpr (.inl ⟨actor, hactor, rfl⟩)
  exact List.length_pos_of_mem (List.mem_filter.mpr ⟨hcall, decide_eq_true rfl⟩)

variable {ceilings : TaskCeilings} {turns : List ProviderTurn} {actor : HarnessActor}

/-- The rounds of an actor are for the part of one of its own calls. -/
lemma PlannedRounds.of_turnsOf (h : PlannedRounds protocol plan ceilings turns)
    (hactor : actor ∈ protocol.actors) :
    ∀ turn ∈ turnsOf turns actor.actorId, Planned plan ceilings actor turn := by
  intro turn hturn
  obtain ⟨hmem, hid⟩ := List.mem_filter.mp hturn
  obtain ⟨other, hother, hplanned⟩ := h turn hmem
  have hsame : other.actorId = actor.actorId := hplanned.actorId.symm.trans (of_decide_eq_true hid)
  rwa [List.inj_on_of_nodup_map protocol.valid.actorIds_nodup hother hactor hsame] at hplanned

lemma PlannedRounds.withinShare (h : PlannedRounds protocol plan ceilings turns)
    (hactor : actor ∈ protocol.actors) (hcalls : 0 < scheduledCalls plan actor.actorId)
    (hpaced : Paced plan ceilings actor turns) : WithinShare ceilings actor turns :=
  hpaced.withinShare hcalls (h.of_turnsOf hactor)

/-! ## Shares against the ledger -/

/-- The shares of all actors come to the ceiling. -/
lemma sum_shareOf (protocol : HarnessProtocol) (ceiling : ℚ) :
    (protocol.actors.map fun actor => shareOf actor ceiling).sum = ceiling := by
  have hshares : ((protocol.actors.map fun actor => (actor.budgetShareBps : ℚ))).sum = 10000 := by
    have hsum := congrArg (Nat.cast (R := ℚ)) protocol.valid.shares_sum
    rwa [Nat.cast_list_sum, List.map_map] at hsum
  have hshare (actor : HarnessActor) :
      shareOf actor ceiling = ceiling / 10000 * actor.budgetShareBps := by
    unfold shareOf
    ring
  simp only [hshare]
  rw [List.sum_map_mul_left, hshares]
  ring

/-- What all rounds ask for, when the rounds of every actor stay within its share. -/
lemma sum_le_ceiling (hplanned : PlannedRounds protocol plan ceilings turns)
    (f : ProviderTurn → ℚ) {ceiling : ℚ}
    (hwithin : ∀ actor ∈ protocol.actors,
      ((turnsOf turns actor.actorId).map f).sum ≤ shareOf actor ceiling) :
    (turns.map f).sum ≤ ceiling := by
  have hactors : ∀ turn ∈ turns, turn.actorId ∈ protocol.actors.map (·.actorId) := by
    intro turn hturn
    obtain ⟨actor, hactor, h⟩ := hplanned turn hturn
    exact List.mem_map.mpr ⟨actor, hactor, h.actorId.symm⟩
  rw [sum_eq_sum_filter (·.actorId) f protocol.valid.actorIds_nodup hactors, List.map_map]
  calc _ ≤ (protocol.actors.map fun actor => shareOf actor ceiling).sum :=
        List.sum_le_sum hwithin
    _ = ceiling := sum_shareOf protocol ceiling

/-- What is asked for bounds what the ledger has committed and holds; so the ledger is never
exhausted by rounds within the shares. -/
structure Accounts (protocol : HarnessProtocol) (plan : CompositeRunPlan)
    (ceilings : TaskCeilings) (w : BudgetWorld ρ) : Prop where
  sound : w.ledger.Sound
  ceilings_eq : w.ledger.ceilings = ceilings
  planned : PlannedRounds protocol plan ceilings w.turns
  output : w.ledger.violations = [] → (w.ledger.used .outputTokens : ℚ) ≤
    (w.turns.map fun turn => (turn.args.maxOutputTokens : ℚ)).sum
  input : w.ledger.violations = [] → (w.ledger.used .inputTokens : ℚ) ≤
    (w.turns.map fun turn => (turn.args.inputTokens : ℚ)).sum
  cost : (∀ turn ∈ w.turns, turn.CostWithin) →
    w.ledger.usedKnownCost ≤ (w.turns.map fun turn => turn.args.estimatedCostUsd).sum
  affords : ∀ before turn after, w.turns = before ++ turn :: after →
    (∀ actor ∈ protocol.actors, WithinShare ceilings actor (before ++ [turn])) →
      (∀ earlier ∈ before, earlier.CostWithin) →
        ∀ metric ∈ sharedMetrics, ¬turn.ExhaustedOn metric

variable {w : BudgetWorld ρ}

/-- Some calls on the ledger, with the rounds they were made for. -/
lemma Accounts.step (h : Accounts protocol plan ceilings w) (calls : List Call)
    (new : List ProviderTurn) (outside : ρ)
    (hplanned : PlannedRounds protocol plan ceilings new)
    (houtput : (amounts .outputTokens (issued (w.ledger.history calls)) : ℚ) ≤
      (new.map fun turn => (turn.args.maxOutputTokens : ℚ)).sum)
    (hinput : (amounts .inputTokens (issued (w.ledger.history calls)) : ℚ) ≤
      (new.map fun turn => (turn.args.inputTokens : ℚ)).sum)
    (hcost : ((issued (w.ledger.history calls)).map (·.knownCost)).sum ≤
      (new.map fun turn => turn.args.estimatedCostUsd).sum)
    (hheld : (∀ turn ∈ new, turn.CostWithin) →
      ∀ f ∈ finalised (w.ledger.history calls), f.CostHeld)
    (haffords : ∀ before turn after, w.turns ++ new = before ++ turn :: after →
      (∀ actor ∈ protocol.actors, WithinShare ceilings actor (before ++ [turn])) →
        (∀ earlier ∈ before, earlier.CostWithin) →
          ∀ metric ∈ sharedMetrics, ¬turn.ExhaustedOn metric) :
    Accounts protocol plan ceilings ⟨w.ledger.after calls, w.turns ++ new, outside⟩ where
  sound := h.sound.after calls
  ceilings_eq := (after_ceilings calls h.sound.wellFormed).trans h.ceilings_eq
  planned turn hturn := (List.mem_append.mp hturn).elim (h.planned turn) (hplanned turn)
  output hviolations := by
    obtain ⟨hclean, hused⟩ := used_le_after h.sound calls .outputTokens hviolations
    have hold := h.output hclean
    have hcast : ((w.ledger.after calls).used .outputTokens : ℚ) ≤
        w.ledger.used .outputTokens + amounts .outputTokens (issued (w.ledger.history calls)) := by
      exact_mod_cast hused
    rw [List.map_append, List.sum_append]
    linarith
  input hviolations := by
    obtain ⟨hclean, hused⟩ := used_le_after h.sound calls .inputTokens hviolations
    have hold := h.input hclean
    have hcast : ((w.ledger.after calls).used .inputTokens : ℚ) ≤
        w.ledger.used .inputTokens + amounts .inputTokens (issued (w.ledger.history calls)) := by
      exact_mod_cast hused
    rw [List.map_append, List.sum_append]
    linarith
  cost hwithin := by
    have hold := h.cost fun turn hturn => hwithin turn (List.mem_append_left _ hturn)
    have hused := usedKnownCost_le_after h.sound calls
      (hheld fun turn hturn => hwithin turn (List.mem_append_right _ hturn))
    rw [List.map_append, List.sum_append]
    show (w.ledger.after calls).usedKnownCost ≤ _
    linarith
  affords := haffords

/-! ## Tool calls -/

variable {L : AggregateBudgetLedger} {calls : List Call}

/-- What a tool call issues holds no tokens and no known cost. -/
lemma of_isToolCall (hcalls : ∀ call ∈ calls, IsToolCall call) (hr : r ∈ issued (L.history calls)) :
    r.amount .outputTokens = 0 ∧ r.amount .inputTokens = 0 ∧ r.knownCost = 0 := by
  obtain ⟨K, call, hmem, hmakes⟩ := makes_of_issued hr
  have htool := hcalls call hmem
  cases hmakes with
  | provider clock args haffords => exact htool.elim
  | tool clock maxOutputBytes => exact ⟨rfl, rfl, rfl⟩

lemma finalised_isToolCall (hcalls : ∀ call ∈ calls, IsToolCall call) {f : Finalisation}
    (hf : f ∈ finalised (L.history calls)) : f.CostHeld := by
  left
  induction calls generalizing L with
  | nil => simp [AggregateBudgetLedger.history, finalised] at hf
  | cons call calls ih =>
    rcases mem_finalised_cons.mp hf with hfirst | hrest
    · have htool := hcalls call List.mem_cons_self
      unfold Entry.finalised? at hfirst
      dsimp only at hfirst
      split at hfirst
      · obtain rfl := Option.some.inj hfirst
        rfl
      · exact htool.elim
      · exact htool.elim
      · obtain rfl := Option.some.inj hfirst
        rfl
      · cases hfirst
    · exact ih (fun c hc => hcalls c (List.mem_cons_of_mem _ hc)) hrest

lemma sum_eq_zero_of_forall {α M : Type} [AddCommMonoid M] {l : List α} {f : α → M}
    (h : ∀ a ∈ l, f a = 0) : (l.map f).sum = 0 := by
  apply List.sum_eq_zero
  intro x hx
  obtain ⟨a, ha, rfl⟩ := List.mem_map.mp hx
  exact h a ha

/-- Tools change neither the list of rounds nor what is used of the shared metrics. -/
lemma preserves_lift {α : Type} {action : AggregateBudgetLedger × ρ → α × AggregateBudgetLedger × ρ}
    (haction : MakesToolCalls action) :
    Preserves (Accounts (ρ := ρ) protocol plan ceilings) (BudgetWorld.lift action) := by
  intro w hw
  obtain ⟨calls, hcalls, hledger⟩ := haction w.ledger w.outside
  have hstep := hw.step calls [] (action (w.ledger, w.outside)).2.2
    (fun turn hturn => by simp at hturn)
    (by
      rw [amounts, sum_eq_zero_of_forall fun r hr => (of_isToolCall hcalls hr).1]
      simp)
    (by
      rw [amounts, sum_eq_zero_of_forall fun r hr => (of_isToolCall hcalls hr).2.1]
      simp)
    (by
      rw [sum_eq_zero_of_forall fun r hr => (of_isToolCall hcalls hr).2.2]
      simp)
    (fun _ f hf => finalised_isToolCall hcalls hf)
    (by
      rw [List.append_nil]
      exact hw.affords)
  rw [List.append_nil, ← hledger] at hstep
  exact hstep

/-! ## Provider calls -/

/-- What a controlled call issues holds what was asked for, at most once. -/
lemma sum_issued_le {M : Type} [AddCommMonoid M] [PartialOrder M]
    {rs : List BudgetReservation} {f : BudgetReservation → M} {x : M} (hlength : rs.length ≤ 1)
    (hnonneg : 0 ≤ x) (hf : ∀ r ∈ rs, f r = x) : (rs.map f).sum ≤ x := by
  cases rs with
  | nil => simpa using hnonneg
  | cons r rs =>
    obtain rfl : rs = [] :=
      List.length_eq_zero_iff.mp (Nat.le_zero.mp (Nat.le_of_succ_le_succ hlength))
    rw [List.map_singleton, List.sum_singleton, hf r List.mem_cons_self]

lemma of_madeBy {args : ProviderCallArgs} (hcalls : ∀ call ∈ calls, MadeBy args call)
    (hr : r ∈ issued (L.history calls)) : ∃ K : AggregateBudgetLedger,
      r = K.providerReservation args := by
  obtain ⟨K, call, hmem, hmakes⟩ := makes_of_issued hr
  have hmade := hcalls call hmem
  cases hmakes with
  | provider clock args' haffords => exact ⟨K, by rw [show args' = args from hmade]⟩
  | tool clock maxOutputBytes => exact hmade.elim

lemma exists_entry_of_exhaustedOn {metric : String} (h : turn.ExhaustedOn metric) :
    ∃ e ∈ turn.entries.head?, ∃ requested remaining,
      e.result = .error (.exhausted metric requested remaining) := by
  obtain ⟨e, he, hmetric⟩ := Option.bind_eq_some_iff.mp h
  refine ⟨e, he, ?_⟩
  unfold Entry.exhausted? at hmetric
  split at hmetric
  · rename_i requested remaining hresult
    obtain rfl := Option.some.inj hmetric
    exact ⟨requested, remaining, hresult⟩
  · cases hmetric

/-- A round is not refused for a shared metric, when all rounds so far and this one are within
the shares. -/
lemma Accounts.not_exhausted (h : Accounts protocol plan ceilings w)
    (hplanned : PlannedRounds protocol plan ceilings (w.turns ++ [turn]))
    (hwithin : ∀ actor ∈ protocol.actors, WithinShare ceilings actor (w.turns ++ [turn]))
    (hcosts : ∀ earlier ∈ w.turns, earlier.CostWithin) {clock : ℚ}
    (hhead : ∀ e ∈ turn.entries.head?,
      e.result = (operate (.reserveProviderCall clock turn.args) w.ledger).1)
    (hnonneg : 0 ≤ turn.args.inputTokens ∧ 0 ≤ turn.args.maxOutputTokens) {metric : String}
    (hmetric : metric ∈ sharedMetrics) : ¬turn.ExhaustedOn metric := by
  intro hexhausted
  obtain ⟨e, he, requested, remaining, hresult⟩ := exists_entry_of_exhaustedOn hexhausted
  have hreserve := reserveProviderCall_of_operate ((hhead e he).symm.trans hresult)
  obtain ⟨hviolations, hover⟩ := reserveProviderCall_exhausted hreserve hmetric
  have houtput := sum_le_ceiling hplanned (fun turn => (turn.args.maxOutputTokens : ℚ))
    fun actor hactor => (hwithin actor hactor).output
  have hinput := sum_le_ceiling hplanned (fun turn => (turn.args.inputTokens : ℚ))
    fun actor hactor => (hwithin actor hactor).input
  have hcost := sum_le_ceiling hplanned (fun turn => turn.args.estimatedCostUsd)
    fun actor hactor => (hwithin actor hactor).cost
  simp only [List.map_append, List.sum_append, List.map_singleton, List.sum_singleton]
    at houtput hinput hcost
  rcases hover with ⟨m, hm, hlimit⟩ | hlimit
  · rw [h.ceilings_eq] at hlimit
    rcases List.mem_pair.mp hm with rfl | rfl
    · have hused := h.input hviolations
      have hasked : ((turn.args.inputTokens.toNat : ℕ) : ℚ) = turn.args.inputTokens := by
        exact_mod_cast Int.toNat_of_nonneg hnonneg.1
      have hcast : (ceilings.maxInputTokens : ℚ) <
          w.ledger.used .inputTokens + turn.args.inputTokens.toNat := by
        exact_mod_cast hlimit
      linarith
    · have hused := h.output hviolations
      have hasked : ((turn.args.maxOutputTokens.toNat : ℕ) : ℚ) = turn.args.maxOutputTokens := by
        exact_mod_cast Int.toNat_of_nonneg hnonneg.2
      have hcast : (ceilings.maxOutputTokens : ℚ) <
          w.ledger.used .outputTokens + turn.args.maxOutputTokens.toNat := by
        exact_mod_cast hlimit
      linarith
  · rw [h.ceilings_eq] at hlimit
    have hused := h.cost hcosts
    linarith

/-- One provider call keeps the accounts. -/
lemma preserves_providerTurn (h : Constructed D task protocol plan runtime) {callId : String}
    (hcall : runtime.calls.get? callId = some call) {σ : Type} {env : Environment σ} {turnIndex : ℕ}
    (hrequest : requestFor env runtime call context turnIndex toolResults = .ok request) :
    Preserves (Accounts protocol plan task.ceilings) (providerTurn runtime behave request) := by
  intro w hw
  let b : Behaviour (Option ActorTurn) :=
    { (behave request w.outside).1 with cancelledBefore := false }
  let args := providerArgs runtime request
  let log := (CompositeProviderController.call b args ⟨w.ledger, []⟩).2
  let turn : ProviderTurn := ⟨request.actorId, args, log.entries⟩
  obtain ⟨calls, hmade, hledger, (hentries : log.entries = w.ledger.history calls)⟩ :=
    CompositeProviderController.keepsLog_call b args ⟨w.ledger, []⟩
  have hplanned : PlannedRounds protocol plan task.ceilings [turn] := by
    intro t ht
    rw [List.mem_singleton.mp ht]
    exact h.planned hcall hrequest log.entries
  obtain ⟨actor, hactor, hturn⟩ := hplanned turn (List.mem_singleton.mpr rfl)
  have hall : PlannedRounds protocol plan task.ceilings (w.turns ++ [turn]) := fun t ht =>
    (List.mem_append.mp ht).elim (hw.planned t) (hplanned t)
  have houtput : 0 ≤ args.maxOutputTokens := by
    rw [show args.maxOutputTokens = _ from hturn.output]
    exact Int.natCast_nonneg _
  have hlength : (issued (w.ledger.history calls)).length ≤ 1 := by
    rw [← hentries]
    exact CompositeProviderController.length_issued_call_le b args w.ledger
  have hstep := hw.step calls [turn] (behave request w.outside).2 hplanned
    (by
      have hsum := sum_issued_le (f := (·.amount .outputTokens)) hlength
        (Nat.zero_le args.maxOutputTokens.toNat) (by
          intro r hr
          obtain ⟨K, rfl⟩ := of_madeBy hmade hr
          rfl)
      have hcast : ((args.maxOutputTokens.toNat : ℕ) : ℚ) = args.maxOutputTokens := by
        exact_mod_cast Int.toNat_of_nonneg houtput
      rw [List.map_singleton, List.sum_singleton, ← hcast]
      exact_mod_cast hsum)
    (by
      have hsum := sum_issued_le (f := (·.amount .inputTokens)) hlength
        (Nat.zero_le args.inputTokens.toNat) (by
          intro r hr
          obtain ⟨K, rfl⟩ := of_madeBy hmade hr
          rfl)
      have hcast : ((args.inputTokens.toNat : ℕ) : ℚ) = args.inputTokens := by
        exact_mod_cast Int.toNat_of_nonneg hturn.input_nonneg
      rw [List.map_singleton, List.sum_singleton, ← hcast]
      exact_mod_cast hsum)
    (by
      rw [List.map_singleton, List.sum_singleton]
      apply sum_issued_le hlength
      · rw [show args.estimatedCostUsd = _ from hturn.cost]
        have hceiling := task.ceilings.knownCost_nonneg
        unfold callPart
        positivity
      · intro r hr
        obtain ⟨K, rfl⟩ := of_madeBy hmade hr
        rfl)
    (by
      intro hwithin f hf
      right
      apply hwithin turn (List.mem_singleton.mpr rfl) f
      show f ∈ finalised log.entries
      rw [show log.entries = _ from hentries]
      exact hf)
    (by
      intro before t after hsplit hshares hcosts metric hmetric
      rcases List.eq_nil_or_concat after with rfl | ⟨after', last, rfl⟩
      · obtain ⟨rfl, heq⟩ := List.append_inj' hsplit rfl
        obtain rfl : turn = t := List.head_eq_of_cons_eq heq
        apply hw.not_exhausted hall hshares hcosts _ ⟨hturn.input_nonneg, houtput⟩ hmetric
        · exact b.reserveClock
        · intro e he
          obtain ⟨rest, hfirst⟩ :=
            CompositeProviderController.first_entry (b := b) rfl args w.ledger
          rw [show turn.entries = _ from hfirst] at he
          obtain rfl := Option.some.inj he
          rfl
      · rw [List.concat_eq_append, ← List.cons_append, ← List.append_assoc] at hsplit
        obtain ⟨hbefore, -⟩ := List.append_inj' hsplit rfl
        exact hw.affords before t after' hbefore hshares hcosts metric hmetric)
  have hworld : (providerTurn runtime behave request w).2 =
      ⟨w.ledger.after calls, w.turns ++ [turn], (behave request w.outside).2⟩ := by
    rw [← hledger]
    rfl
  rw [hworld]
  exact hstep

lemma accounts_newWorld (h : Constructed D task protocol plan runtime) (clock : ℚ) (outside : ρ) :
    Accounts protocol plan task.ceilings (runtime.newWorld clock outside) where
  sound := sound_init _ clock
  ceilings_eq := by
    obtain ⟨dependencies, levels, hcompiled⟩ := h.compiled
    show runtime.plan.budgetLedger.aggregateCeiling = task.ceilings
    rw [h.plan_eq]
    exact aggregateCeiling_eq hcompiled
  planned turn hturn := by simp [CompositeRuntime.newWorld] at hturn
  output _ := le_of_eq (by rfl)
  input _ := le_of_eq (by rfl)
  cost _ := by
    show (0 : ℚ) + 0 ≤ 0
    norm_num
  affords before turn after hsplit := by simp [CompositeRuntime.newWorld] at hsplit

/-- What the provider rounds and the tool calls preserve, the environment preserves. -/
lemma environmentPreserves {I : BudgetWorld ρ → Prop}
    (hturn : ∀ callId call, runtime.calls.get? callId = some call →
      ∀ context turnIndex toolResults request,
        requestFor (sharedEnvironment runtime countTokens behave tools) runtime call context turnIndex
          toolResults = .ok request → Preserves I (providerTurn runtime behave request))
    (hlift : ∀ {α : Type} {action : AggregateBudgetLedger × ρ → α × AggregateBudgetLedger × ρ},
      MakesToolCalls action → Preserves I (BudgetWorld.lift action))
    (htools : ∀ tools' ∈ tools, ToolCallsOnly tools') :
    EnvironmentPreserves (sharedEnvironment runtime countTokens behave tools) runtime I := by
  refine ⟨fun _ _ hw => hw, hturn, ?_⟩
  intro lifted hlifted
  obtain ⟨tools', htools', rfl⟩ := Option.map_eq_some_iff.mp hlifted
  have honly := htools tools' htools'
  exact ⟨fun callId toolId arguments requestId =>
      hlift (honly.invoke callId toolId arguments requestId),
    fun maxPatchBytes => hlift (honly.workspaceDiff maxPatchBytes),
    hlift honly.sourceSnapshotUnchanged, hlift honly.immutableBaseUnchanged,
    fun callId => hlift (honly.runPublicVerification callId),
    hlift honly.currentWorkspaceDigest, hlift honly.receipts⟩

theorem Constructed.accounts (h : Constructed D task protocol plan runtime)
    (htools : ∀ tools' ∈ tools, ToolCallsOnly tools') (digests : RuntimeDigests) (clock : ℚ)
    (outside : ρ) :
    Accounts protocol plan task.ceilings
      (runtime.worldAfter digests countTokens behave tools clock outside) := by
  refine keeps_run (environmentPreserves ?_ preserves_lift htools) _
    (accounts_newWorld h clock outside)
  intro callId call hcall context turnIndex toolResults request hrequest
  exact preserves_providerTurn h hcall hrequest

lemma PlannedRounds.of_prefix {reached : List ProviderTurn}
    (h : PlannedRounds protocol plan ceilings turns) (hreached : reached <+: turns) :
    PlannedRounds protocol plan ceilings reached := fun turn hturn =>
  h turn (hreached.subset hturn)

variable {metadata : CompositeCompilerMetadata} {reject : Option String}

/-- While every actor takes no more rounds than it has calls and no part of a call is raised to
one token, the rounds of every actor stay within its share; and as long as no report exceeds the
known cost that was reserved, no round is refused for tokens or known cost. -/
theorem actors_within_shares
    (hplan : compileCompositeRunPlan D metadata task protocol dependencies reject = .ok plan)
    (hruntime : CompositeRuntime.init D plan task scratchWorkspace session = .ok runtime)
    (htools : ∀ tools' ∈ tools, ToolCallsOnly tools') (digests : RuntimeDigests) (clock : ℚ)
    (outside : ρ) :
    let turns := (runtime.worldAfter digests countTokens behave tools clock outside).turns
    (∀ reached, reached <+: turns → ∀ actor ∈ protocol.actors,
      Paced plan task.ceilings actor reached → WithinShare task.ceilings actor reached) ∧
    ∀ before turn after, turns = before ++ turn :: after →
      (∀ actor ∈ protocol.actors, Paced plan task.ceilings actor (before ++ [turn])) →
        (∀ earlier ∈ before, earlier.CostWithin) →
          ∀ metric ∈ sharedMetrics, ¬turn.ExhaustedOn metric := by
  intro turns
  obtain ⟨-, ⟨levels, hcompiled⟩, -⟩ := compile_eq_ok_iff.mp hplan
  obtain ⟨hplanEq, htaskEq, hcallsEq⟩ := runtime_of_init hruntime
  have h : Constructed D task protocol plan runtime :=
    ⟨⟨dependencies, levels, hcompiled⟩, hplanEq, htaskEq, hcallsEq⟩
  have haccounts : Accounts protocol plan task.ceilings
      (runtime.worldAfter digests countTokens behave tools clock outside) :=
    h.accounts htools digests clock outside
  have hwithin : ∀ reached, reached <+: turns → ∀ actor ∈ protocol.actors,
      Paced plan task.ceilings actor reached → WithinShare task.ceilings actor reached := by
    intro reached hreached actor hactor hpaced
    exact (haccounts.planned.of_prefix hreached).withinShare hactor (h.scheduledCalls_pos hactor)
      hpaced
  refine ⟨hwithin, ?_⟩
  intro before turn after hsplit hpaced hcosts
  have hreached : before ++ [turn] <+: turns := ⟨after, by simp [hsplit]⟩
  exact haccounts.affords before turn after hsplit
    (fun actor hactor => hwithin _ hreached actor hactor (hpaced actor hactor)) hcosts

end Run

/-! ## Samples -/

/-- Five input tokens and three hundred output tokens, free of charge. -/
def freeReport : ProviderUsageReport where
  usageStatus := .known
  inputTokens := some 5
  outputTokens := some 300
  cachedTokens := some 0
  cacheWriteTokens := some 0
  costStatus := .known
  costUsd := some 0
  responseId := none
  tokens_reported _ := ⟨rfl, rfl, rfl, rfl⟩
  cached_subcategories _ := by simp
  cost_reported := by simp
  cost_nonneg := by simp

/-- A provider that answers at once. -/
def answering (answer : ℕ → ActorTurn) (_ : ActorCallRequest) (n : ℕ) :
    Behaviour (Option ActorTurn) × ℕ :=
  ({ cancelledBefore := false
     reserveClock := 0
     timeoutClock := 0
     settleClock := 0
     startedAt := 0
     turns := fun _ => ⟨false, 0, some (.returned (.ok ⟨some (answer n), freeReport⟩)), le_rfl⟩
     cancelHook := .quiet
     lag := 0
     lag_nonneg := le_rfl }, n + 1)

/-- Tools that leave the ledger alone. -/
def idleTools : ToolInterface (AggregateBudgetLedger × ℕ) where
  invoke _ _ _ _ w := (.receipt "receipt" "succeeded" "" "digest", w)
  complete := true
  workspaceDiff _ w := (.ok "", w)
  sourceSnapshotUnchanged w := (.ok true, w)
  immutableBaseUnchanged w := (.ok true, w)
  runPublicVerification _ w := (.ok true, w)
  currentWorkspaceDigest w := (.ok "digest", w)
  receipts w := (.ok [], w)

lemma idleTools_toolCallsOnly : ∀ tools ∈ some idleTools, ToolCallsOnly tools := by
  intro tools htools
  obtain rfl := Option.some.inj htools
  have hidle {α : Type} (action : AggregateBudgetLedger × ℕ → α × AggregateBudgetLedger × ℕ)
      (h : ∀ w, (action w).2 = w) : MakesToolCalls action := by
    intro L outside
    exact ⟨[], by simp, congrArg Prod.fst (h (L, outside))⟩
  exact ⟨fun _ _ _ _ => hidle _ fun _ => rfl, fun _ => hidle _ fun _ => rfl,
    hidle _ fun _ => rfl, hidle _ fun _ => rfl, fun _ => hidle _ fun _ => rfl,
    hidle _ fun _ => rfl, hidle _ fun _ => rfl⟩

def sampleRunDigests : RuntimeDigests := ⟨id, fun _ => "value", "none"⟩

def sampleProtocol : HarnessProtocol := reviewProtocol "Revise the draft." reviseDraft_trimmed

def initSample (plan : CompositeRunPlan) : Except RuntimeError CompositeRuntime :=
  CompositeRuntime.init sampleDigests plan (sampleTask ["pytest"] pytest_argv) sampleScratch none

/-- The rounds of a run of the sample plan. -/
def sampleTurns (answer : ℕ → ActorTurn) (runtime : CompositeRuntime) : List ProviderTurn :=
  (runtime.worldAfter sampleRunDigests (fun _ => 5) (answering answer) (some idleTools) 0 0).turns

/-- What holds of the sample plan and its run is computed. -/
lemma exists_sample (answer : ℕ → ActorTurn) {P : CompositeRunPlan → List ProviderTurn → Bool}
    (h : ((samplePlan sampleProtocol).toOption.bind fun plan =>
      (initSample plan).toOption.map fun runtime => P plan (sampleTurns answer runtime)) =
        some true) :
    ∃ plan runtime, samplePlan sampleProtocol = .ok plan ∧ initSample plan = .ok runtime ∧
      P plan (sampleTurns answer runtime) = true := by
  have hok {ε α : Type} {x : Except ε α} {a : α} (hx : x.toOption = some a) : x = .ok a := by
    cases x with
    | error e => cases hx
    | ok b => exact congrArg Except.ok (Option.some.inj hx)
  obtain ⟨plan, hplan, h⟩ := Option.bind_eq_some_iff.mp h
  obtain ⟨runtime, hruntime, h⟩ := Option.map_eq_some_iff.mp h
  exact ⟨plan, runtime, hok hplan, hok hruntime, h⟩

/-- The answers of a run without tools: a draft, a review, and the revised draft. -/
def drafting : ℕ → ActorTurn
  | 0 => .terminal ⟨"draft", Dict.empty.set "artifact.draft" "text", none⟩
  | 1 => .terminal ⟨"review", Dict.empty.set "artifact.review" "text", none⟩
  | _ => .terminal ⟨"revision", Dict.empty, some "patch"⟩

/-- Every actor takes as many rounds as it has calls. -/
theorem actors_within_shares_drafting :
    ∃ plan runtime, samplePlan sampleProtocol = .ok plan ∧ initSample plan = .ok runtime ∧
      (sampleTurns drafting runtime).length = 3 ∧ ∀ actor ∈ sampleProtocol.actors,
        WithinShare sampleCeilings actor (sampleTurns drafting runtime) := by
  obtain ⟨plan, runtime, hplan, hruntime, hrun⟩ := exists_sample drafting
    (P := fun plan turns => decide (turns.length = 3 ∧ ∀ actor ∈ sampleProtocol.actors,
      (turnsOf turns actor.actorId).length ≤ scheduledCalls plan actor.actorId ∧
        10000 * scheduledCalls plan actor.actorId ≤
          sampleCeilings.maxOutputTokens * actor.budgetShareBps ∧
        10000 * scheduledCalls plan actor.actorId ≤
          sampleCeilings.maxInputTokens * actor.budgetShareBps)) (by decide +kernel)
  obtain ⟨hlength, hactors⟩ := of_decide_eq_true hrun
  refine ⟨plan, runtime, hplan, hruntime, hlength, ?_⟩
  intro actor hactor
  obtain ⟨hrounds, houtput, hinput⟩ := hactors actor hactor
  exact (actors_within_shares hplan hruntime idleTools_toolCallsOnly sampleRunDigests 0 0).1 _
    List.prefix_rfl actor hactor ⟨(rounds_iff _ _).mpr hrounds, houtput, hinput⟩

/-- A draft after two tool requests. -/
def asking (n : ℕ) : ActorTurn :=
  if n < 2 then .toolRequest ⟨toString n, .read, "\x7b\x7d"⟩
  else .terminal ⟨"draft", Dict.empty.set "artifact.draft" "text", none⟩

/-- The fixer takes three rounds for one of its two calls: it is over its share, and the critic
is refused what its own share allows. -/
theorem asking_over_share :
    ∃ plan runtime, samplePlan sampleProtocol = .ok plan ∧ initSample plan = .ok runtime ∧
      (∃ fixer ∈ sampleProtocol.actors,
        ¬WithinShare sampleCeilings fixer (sampleTurns asking runtime)) ∧
      ∃ critic ∈ sampleProtocol.actors, ∃ turn ∈ sampleTurns asking runtime,
        turn.actorId = critic.actorId ∧
          WithinShare sampleCeilings critic (sampleTurns asking runtime) ∧
            turn.ExhaustedOn "output_tokens" := by
  obtain ⟨plan, runtime, hplan, hruntime, hrun⟩ := exists_sample asking
    (P := fun _ turns => decide ((∃ fixer ∈ sampleProtocol.actors,
        ¬WithinShare sampleCeilings fixer turns) ∧
      ∃ critic ∈ sampleProtocol.actors, ∃ turn ∈ turns, turn.actorId = critic.actorId ∧
        WithinShare sampleCeilings critic turns ∧ turn.ExhaustedOn "output_tokens"))
    (by decide +kernel)
  exact ⟨plan, runtime, hplan, hruntime, of_decide_eq_true hrun⟩

end Agintor.Kernel
