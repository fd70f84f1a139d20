import Agintor.Kernel.CompositeRun

/-!
# The world during a run

A run touches the world outside only through the provider and the tools. What each of their
actions preserves is preserved by the whole run, whether it returns or raises.
-/

namespace Agintor.Kernel

open Agintor.Contracts Lib

variable {σ α β : Type} {I : σ → Prop}

/-- A program that preserves a property of the world. -/
def Keeps (I : σ → Prop) (p : Run σ α) : Prop := ∀ s, I s.world → I (p s).2.world

lemma Keeps.bind {p : Run σ α} {k : α → Run σ β} (hp : Keeps I p) (hk : ∀ a, Keeps I (k a)) :
    Keeps I (p >>= k) := by
  intro s hs
  cases hresult : (p s).1 with
  | error e =>
    rw [Stateful.bind_of_error hresult]
    exact hp s hs
  | ok a =>
    rw [Stateful.bind_of_ok hresult]
    exact hk a _ (hp s hs)

lemma keeps_pure (a : α) : Keeps I (pure a : Run σ α) := fun _ hs => hs

lemma keeps_raise (e : RuntimeError) : Keeps I (Stateful.raise e : Run σ α) := fun _ hs => hs

lemma keeps_get : Keeps I (Stateful.get : Run σ (RunState σ)) := fun _ hs => hs

lemma keeps_check (x : Except RuntimeError α) : Keeps I (Stateful.check x : Run σ α) := by
  cases x with
  | ok a => exact keeps_pure a
  | error e => exact keeps_raise e

lemma keeps_modify {f : RunState σ → RunState σ} (hf : ∀ s, (f s).world = s.world) :
    Keeps I (Stateful.modify f : Run σ Unit) := by
  intro s hs
  show I (f s).world
  rw [hf]
  exact hs

lemma keeps_mapM {f : α → Run σ β} {l : List α} (hf : ∀ a, Keeps I (f a)) :
    Keeps I (l.mapM f) := by
  induction l with
  | nil =>
    rw [List.mapM_nil]
    exact keeps_pure _
  | cons a l ih =>
    rw [List.mapM_cons]
    exact (hf a).bind fun _ => ih.bind fun _ => keeps_pure _

/-- An action that preserves the property. -/
def Preserves (I : σ → Prop) (action : σ → α × σ) : Prop := ∀ w, I w → I (action w).2

lemma keeps_perform {action : σ → α × σ} (h : Preserves I action) : Keeps I (perform action) :=
  fun s hs => h s.world hs

lemma keeps_attempt {action : σ → Except String α × σ} (h : Preserves I action) :
    Keeps I (attempt action) := by
  refine (keeps_perform h).bind fun result => ?_
  cases result with
  | ok a => exact keeps_pure a
  | error message => exact keeps_raise _

lemma keeps_emit (event : RunEvent) : Keeps I (emit event : Run σ Unit) := keeps_modify fun _ => rfl

/-! ## The parts of a run -/

/-- Tools whose actions preserve the property. -/
structure ToolsPreserve (I : σ → Prop) (tools : ToolInterface σ) : Prop where
  invoke : ∀ callId toolId arguments requestId,
    Preserves I (tools.invoke callId toolId arguments requestId)
  workspaceDiff : ∀ maxPatchBytes, Preserves I (tools.workspaceDiff maxPatchBytes)
  sourceSnapshotUnchanged : Preserves I tools.sourceSnapshotUnchanged
  immutableBaseUnchanged : Preserves I tools.immutableBaseUnchanged
  runPublicVerification : ∀ callId, Preserves I (tools.runPublicVerification callId)
  currentWorkspaceDigest : Preserves I tools.currentWorkspaceDigest
  receipts : Preserves I tools.receipts

/-- A provider and tools that preserve the property; the provider is asked for the calls of the
runtime only. -/
structure EnvironmentPreserves (env : Environment σ) (runtime : CompositeRuntime) (I : σ → Prop) :
    Prop where
  reserve : ∀ request, Preserves I (env.reserve request)
  call : ∀ callId call, runtime.calls.get? callId = some call →
    ∀ context turnIndex toolResults request,
      requestFor env runtime call context turnIndex toolResults = .ok request →
        Preserves I (env.call request)
  tools : ∀ tools ∈ env.tools, ToolsPreserve I tools

section Parts

variable {digests : RuntimeDigests} {env : Environment σ} {runtime : CompositeRuntime}

lemma keeps_deliverRead (call : ActorCallPlan) (read : ContextReadPlan) :
    Keeps I (deliverRead call read : Run σ ActualContextRead) := by
  refine keeps_get.bind fun s => ?_
  cases s.artifacts.deliver read.sourceRef call.callId with
  | error e => exact keeps_raise _
  | ok delivered =>
    refine Keeps.bind (keeps_modify ?_) fun _ => keeps_pure _
    intro _
    rfl

lemma keeps_retainedRead (plan : CompositeRunPlan) (call : ActorCallPlan) (read : ContextReadPlan) :
    Keeps I (retainedRead plan call read : Run σ ActualContextRead) := by
  refine keeps_get.bind fun s => ?_
  cases retainedArtifactSource plan read.sourceRef call (callPositions plan) with
  | none => exact keeps_raise _
  | some priorConsumer =>
    refine (keeps_check _).bind fun _ => ?_
    cases s.artifacts.readRetained read.sourceRef call.callId with
    | error e => exact keeps_raise _
    | ok retained =>
      refine Keeps.bind (keeps_modify ?_) fun _ => keeps_pure _
      intro _
      rfl

lemma keeps_resolveRead (call : ActorCallPlan) (read : ContextReadPlan) :
    Keeps I (resolveRead digests runtime call read : Run σ ActualContextRead) := by
  unfold resolveRead
  cases read.sourceKind with
  | task =>
    show Keeps I (if read.sourceRef = "issue" then _ else _)
    split
    · exact keeps_pure _
    · split
      · exact keeps_pure _
      · exact keeps_raise _
  | workspace => exact keeps_pure _
  | artifact =>
    show Keeps I (if _ then deliverRead call read else _)
    split
    · exact keeps_deliverRead call read
    · exact keeps_retainedRead _ call read
  | priorActorOutput =>
    refine keeps_get.bind fun s => ?_
    cases s.outputs.get? read.sourceRef with
    | none => exact keeps_raise _
    | some prior => exact keeps_pure _
  | session =>
    show Keeps I (if read.sourceRef = "public_carryover" then _ else _)
    split
    · exact keeps_pure _
    · exact keeps_raise _

lemma keeps_contextFor (call : ActorCallPlan) :
    Keeps I (contextFor digests runtime call : Run σ PreCallContextManifest) := by
  refine (keeps_mapM fun read => keeps_resolveRead call read).bind fun reads => ?_
  refine Keeps.bind (keeps_modify ?_) fun _ => keeps_pure _
  intro _
  rfl

lemma keeps_writeArtifact (call : ActorCallPlan) (output : ActorCallOutput)
    (writePlan : ArtifactWritePlan) :
    Keeps I (writeArtifact digests call output writePlan : Run σ String) := by
  refine keeps_get.bind fun s => ?_
  cases output.artifactPayloads.get? writePlan.artifactId with
  | none => exact keeps_raise _
  | some payload =>
    dsimp only
    cases s.artifacts.write digests.payload writePlan call.callId payload with
    | error e => exact keeps_raise _
    | ok written =>
      refine Keeps.bind (keeps_modify ?_) fun _ => keeps_pure _
      intro _
      rfl

variable (h : EnvironmentPreserves env runtime I)
include h

lemma keeps_invokeTool (callId : String) (request : ActorToolRequest) :
    Keeps I (invokeTool env runtime callId request) := by
  unfold invokeTool
  cases runtime.calls.get? callId with
  | none => exact keeps_raise _
  | some call =>
    refine (keeps_check _).bind fun _ => ?_
    cases htools : env.tools with
    | none => exact keeps_raise _
    | some tools =>
      refine (keeps_perform ((h.tools tools htools).invoke callId request.toolId request.arguments
        request.requestId)).bind fun outcome => ?_
      cases outcome with
      | raised message => exact keeps_raise _
      | noReceipt => exact keeps_raise _
      | receipt receiptId status output outputDigest => exact keeps_pure _

variable {call : ActorCallPlan} {callId : String}

lemma keeps_providerRound (hcall : runtime.calls.get? callId = some call)
    {context : PreCallContextManifest} {turnIndex : ℕ} {toolResults : List ActorToolResultContext}
    {request : ActorCallRequest}
    (hrequest : requestFor env runtime call context turnIndex toolResults = .ok request) :
    Keeps I (providerRound env call turnIndex request) := by
  refine (keeps_perform (h.reserve request)).bind fun reserved => ?_
  refine (keeps_check _).bind fun _ => ?_
  refine (keeps_emit _).bind fun _ => ?_
  refine (keeps_perform (h.call callId call hcall context turnIndex toolResults request
    hrequest)).bind fun round => ?_
  cases round with
  | turn turn => exact keeps_pure turn
  | _ => exact keeps_raise _

omit h in
/-- A request that cannot be built is not sent. -/
lemma keeps_request {x : Except RuntimeError ActorCallRequest} {k : ActorCallRequest → Run σ β}
    (hk : ∀ request, x = .ok request → Keeps I (k request)) :
    Keeps I (Stateful.check x >>= k) := by
  cases x with
  | error e => exact keeps_raise e
  | ok request => exact hk request rfl

lemma keeps_rounds (hcall : runtime.calls.get? callId = some call)
    (context : PreCallContextManifest) (n : ℕ) (turnIndex : ℕ)
    (toolResults : List ActorToolResultContext) (seen : List String) :
    Keeps I (rounds env runtime call context n turnIndex toolResults seen) := by
  induction n generalizing turnIndex toolResults seen with
  | zero => exact keeps_raise _
  | succ n ih =>
    refine keeps_request fun request hrequest => ?_
    refine (keeps_providerRound h hcall hrequest).bind fun turn => ?_
    cases turn with
    | terminal output => exact (keeps_check _).bind fun _ => keeps_pure _
    | toolRequest toolRequest =>
      refine (keeps_check _).bind fun _ => ?_
      refine (keeps_invokeTool h call.callId toolRequest).bind fun result => ?_
      exact ih (turnIndex + 1) _ _

lemma keeps_executeCall (hcall : runtime.calls.get? callId = some call) (stageId : String) :
    Keeps I (executeCall digests env runtime call stageId) := by
  refine (keeps_emit _).bind fun _ => ?_
  refine (keeps_contextFor call).bind fun context => ?_
  refine (keeps_rounds h hcall context _ 0 [] []).bind fun terminal => ?_
  refine (keeps_mapM fun writePlan =>
    keeps_writeArtifact call terminal.1 writePlan).bind fun written => ?_
  exact keeps_modify fun _ => rfl

lemma keeps_runCall (stageId callId : String) :
    Keeps I (runCall digests env runtime stageId callId) := by
  unfold runCall
  cases hcall : runtime.calls.get? callId with
  | none => exact keeps_raise _
  | some call => exact (keeps_executeCall h hcall stageId).bind fun _ => keeps_pure _

lemma keeps_runStages (stages : List CompositePlanStage) (completed executed : List String) :
    Keeps I (runStages digests env runtime stages completed executed) := by
  induction stages generalizing completed executed with
  | nil => exact keeps_pure executed
  | cons stage rest ih =>
    refine (keeps_check _).bind fun _ => ?_
    refine (keeps_mapM fun callId => keeps_runCall h stage.stageId callId).bind fun order => ?_
    refine Keeps.bind (keeps_modify ?_) fun _ => ih _ _
    intro _
    rfl

omit h in
lemma keeps_reconcile (executedCalls : List String) :
    Keeps I (reconcile runtime executedCalls : Run σ String) := by
  refine keeps_get.bind fun s => ?_
  refine (keeps_check _).bind fun _ => ?_
  refine (keeps_check _).bind fun _ => ?_
  cases (s.outputs.get? runtime.plan.termination.finalActorCallId).bind (·.finalPatch) with
  | none => exact keeps_raise _
  | some finalPatch => exact keeps_pure finalPatch

omit h in
lemma keeps_requireUnchanged {tools : ToolInterface σ} (htools : ToolsPreserve I tools)
    (message : String) : Keeps I (requireUnchanged tools message) := by
  refine (keeps_attempt htools.sourceSnapshotUnchanged).bind fun sourceUnchanged => ?_
  refine (keeps_check _).bind fun _ => ?_
  refine (keeps_attempt htools.immutableBaseUnchanged).bind fun baseUnchanged => ?_
  exact (keeps_check _).bind fun _ => keeps_pure _

omit h in
lemma keeps_controlledResult {tools : ToolInterface σ} (htools : ToolsPreserve I tools)
    (finalPatch : String) : Keeps I (controlledResult runtime tools finalPatch) := by
  refine (keeps_check _).bind fun _ => ?_
  refine (keeps_attempt (htools.workspaceDiff _)).bind fun actualPatch => ?_
  refine (keeps_check _).bind fun _ => ?_
  refine (keeps_requireUnchanged htools _).bind fun _ => ?_
  refine (keeps_attempt (htools.runPublicVerification _)).bind fun passed => ?_
  refine (keeps_attempt htools.currentWorkspaceDigest).bind fun digest => ?_
  refine (keeps_requireUnchanged htools _).bind fun unchanged => ?_
  exact (keeps_attempt htools.receipts).bind fun _ => keeps_pure _

/-- A whole run preserves what the provider and the tools preserve. -/
theorem keeps_run : Keeps I (run digests env runtime) := by
  refine keeps_get.bind fun s => ?_
  refine (keeps_check _).bind fun _ => ?_
  refine Keeps.bind (keeps_modify ?_) fun _ => ?_
  · intro _
    rfl
  refine (keeps_runStages h _ _ _).bind fun executedCalls => ?_
  refine (keeps_reconcile executedCalls).bind fun finalPatch => ?_
  have hend (result : CompositeRunResult) : Keeps I (do
      let s ← Stateful.get
      Stateful.check (raiseIf (env.budgetHealthy s.world = false)
        (.composite "budget_reconciliation_failed"
          "aggregate provider accounting is incomplete or unhealthy"))
      return result : Run σ CompositeRunResult) :=
    keeps_get.bind fun _ => (keeps_check _).bind fun _ => keeps_pure _
  cases htools : env.tools with
  | none => exact hend _
  | some tools =>
    exact (keeps_controlledResult (h.tools tools htools) finalPatch).bind fun result => hend result

end Parts

end Agintor.Kernel
