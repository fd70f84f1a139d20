import Agintor.Core.JsonText
import Agintor.Isolation.CommandReplay
import Agintor.Kernel.CompositeBudget
import Agintor.Repositories.Snapshots

/-!
# The repair tools

`TrustedRepairToolService.invoke` of `runtime/kernel/repair_tools.py`: one tool call over a
materialized workspace, from the reservation of its output to its receipt. `repo.edit` is embedded;
the tools that only read, and the public tests, are what a `ToolHost` makes of them. The service
holds its lock throughout, so a call is one transition of the files, the ledger and the receipts.
-/

namespace Agintor.Kernel

open Agintor.Core Agintor.Contracts Agintor.Repositories Agintor.Isolation Lib

/-! ## Records -/

/-- `FIXED_REPAIR_TOOL_IDS` -/
def fixedRepairToolIds : List String :=
  ["repo.search", "repo.read", "repo.public_test", "repo.edit", "repo.diff"]

/-- `FIXED_PROTECTED_PATHS` -/
def fixedProtectedPaths : List String := [".agintor", ".git", "tests"]

inductive RepairToolStatus
  | succeeded | failed | timedOut | outputLimit | launchFailed | budgetRejected
deriving DecidableEq

structure RepairToolLimits where
  maxReadBytes : ℕ := 64000
  maxSearchOutputBytes : ℕ := 64000
  maxEditBytes : ℕ := 256000
  maxCommandOutputBytes : ℕ := 128000
  maxReceiptBytes : ℕ := 256000
  positive : 0 < maxReadBytes ∧ 0 < maxSearchOutputBytes ∧ 0 < maxEditBytes ∧
    0 < maxCommandOutputBytes ∧ 0 < maxReceiptBytes := by decide

structure TaskWorkspace where
  snapshotDigest : String
  sourceRoot : TreePath
  immutableBaseRoot : TreePath
  workingRoot : TreePath
deriving DecidableEq

structure IsolatedCommandEvidence where
  stepId : String
  command : List String
  workingDirectory : String
  status : IsolatedCommandStatus
  exitCode : Option ℤ
  stdout : String
  stderr : String
  outputTruncated : Bool
  passed : Bool

inductive ToolPhase
  | actorTool | terminalPublicVerification
deriving DecidableEq

structure RepairToolReceipt where
  receiptId : String
  callId : String
  toolId : String
  phase : ToolPhase
  toolRequestId : Option String
  verificationStepId : Option String
  status : RepairToolStatus
  argumentsDigest : String
  output : Json
  outputDigest : String
  outputBytes : ℕ
  startedAtMs : ℕ
  finishedAtMs : ℕ
  errorCode : Option String
  workspaceDigestBefore : String
  workspaceDigestAfter : String
  immutableBaseUnchanged : Bool
  sourceSnapshotUnchanged : Bool
  commandEvidence : List IsolatedCommandEvidence
  charged : Bool
  ledgerAfter : AggregateBudgetSnapshot

/-- `validate_origin` -/
def RepairToolReceipt.validateOrigin (r : RepairToolReceipt) : Except String Unit := do
  raiseIf (r.finishedAtMs < r.startedAtMs) "repair-tool receipt finish precedes start"
  match r.phase with
  | .actorTool =>
    raiseIf (r.toolRequestId.getD "" = "" ∨ r.verificationStepId ≠ none)
      "actor-tool receipts require only a tool_request_id"
  | .terminalPublicVerification =>
    raiseIf (r.toolId ≠ "repo.public_test" ∨ r.toolRequestId ≠ none ∨
        r.verificationStepId.getD "" = "")
      "terminal public-verification receipts require only a verification_step_id"

/-- What a tool may raise: `RepairToolError`, `RepositorySnapshotError`, or another exception, by
the name of its type. -/
inductive ToolException
  | repairTool (code : String)
  | snapshot (message : SnapshotError)
  | other (typeName : String)
deriving DecidableEq

/-- What `invoke` may raise. -/
inductive InvokeError
  | snapshot (message : SnapshotError)
  | budget (error : BudgetError)
  | validation (message : String)
deriving DecidableEq

/-- What the service asks of its process: digests, the texts Python gives to floats and to other
values than texts, the process id, and the tools other than `repo.edit`. -/
structure ToolHost where
  digests : SnapshotDigests
  floats : FloatText
  str : Json → String
  processId : ℕ
  otherTool : String → List (String × Json) →
    Stateful FileTree ToolException (Json × List IsolatedCommandEvidence)

/-- The arguments of `invoke`. -/
structure ToolCall where
  callId : String
  toolId : String
  arguments : List (String × Json)
  phase : ToolPhase
  toolRequestId : Option String
  verificationStepId : Option String

/-- The clock readings of a call. -/
structure ToolReadings where
  startedAtMs : ℕ
  reserved : ℚ
  settled : ℚ
  finishedAtMs : ℕ

structure ToolState where
  tree : FileTree
  ledger : AggregateBudgetLedger
  sequence : ℕ
  receipts : List RepairToolReceipt

structure TrustedRepairToolService where
  ceilings : TaskCeilings
  limits : RepairToolLimits
  workspace : TaskWorkspace

namespace TrustedRepairToolService

variable (S : TrustedRepairToolService) (H : ToolHost)

/-! ## Checks on the workspace -/

def currentWorkspaceDigest (T : FileTree) : Except SnapshotError String :=
  repositorySnapshotDigest H.digests T S.workspace.workingRoot

def sourceSnapshotUnchanged (T : FileTree) : Bool :=
  match repositorySnapshotDigest H.digests T S.workspace.sourceRoot with
  | .ok digest => digest = S.workspace.snapshotDigest
  | .error _ => false

def immutableBaseUnchanged (T : FileTree) : Bool :=
  match repositorySnapshotDigest H.digests T S.workspace.immutableBaseRoot with
  | .ok digest => digest = S.workspace.snapshotDigest
  | .error _ => false

def immutableSourceUnchanged (T : FileTree) : Bool :=
  S.sourceSnapshotUnchanged H T && S.immutableBaseUnchanged H T

/-- `_output_limit` -/
def outputLimit (toolId : String) : ℕ :=
  let perTool :=
    if toolId = "repo.search" then S.limits.maxSearchOutputBytes + 4096
    else if toolId = "repo.read" then S.limits.maxReadBytes + 4096
    else if toolId = "repo.public_test" then S.limits.maxCommandOutputBytes + 4096
    else if toolId = "repo.edit" then 4096
    else if toolId = "repo.diff" then S.ceilings.maxPatchBytes + 4096
    else 4096
  min perTool S.ceilings.maxToolOutputBytes

/-- The bytes a call reserves. -/
def callLimit (L : AggregateBudgetLedger) (toolId : String) : ℕ :=
  max 1 (min (S.outputLimit toolId) L.remainingToolOutputBytes)

/-! ## Editing -/

/-- `PurePosixPath(text).parts` without the root -/
def pureParts (text : String) : List String :=
  (parts text).filter fun part => part ≠ "" ∧ part ≠ "."

/-- `[A-Za-z]:[/\\]` at the front, where a backslash has become a slash -/
def isWindowsAbsolute (text : String) : Bool :=
  match text.toList with
  | letter :: ':' :: '/' :: _ => letter.isAlpha
  | _ => false

/-- `str(raw or ".").strip().replace("\\", "/") or "."` -/
def pathText (raw : Json) : String :=
  let text := if raw.truthy then match raw with
    | .str s => s
    | value => H.str value
  else "."
  let text := String.ofList ((strip text).toList.map fun c => if c = '\\' then '/' else c)
  if text = "" then "." else text

/-- `_relative_path` -/
def relativePath (T : FileTree) (raw : Json) (allowRoot : Bool) :
    Except ToolException (String × TreePath) := do
  let text := pathText H raw
  raiseIf ('\x00' ∈ text.toList ∨ isWindowsAbsolute text = true) (.repairTool "invalid_path")
  let pure := pureParts text
  raiseIf (text.toList.head? = some '/' ∨ ".." ∈ pure) (.repairTool "invalid_path")
  let normalized := posix pure
  raiseIf (normalized = "." ∧ allowRoot = false) (.repairTool "invalid_path")
  let candidate := T.resolve (S.workspace.workingRoot ++ pure)
  let working := T.resolve S.workspace.workingRoot
  raiseIf (¬working <+: candidate) (.repairTool "path_escape")
  return (normalized, candidate)

/-- `_is_protected` -/
def isProtected (relative : String) : Bool :=
  fixedProtectedPaths.any fun p => relative = p ∨ (p ++ "/").toList <+: relative.toList

/-- The checks of `_edit` before it touches a file: the path as named, the path that is meant, and
the new content. -/
def admitEdit (T : FileTree) (arguments : List (String × Json)) :
    Except ToolException (String × TreePath × String) := do
  raiseIf (sortedUnique (arguments.map Prod.fst) ≠ ["content", "path"])
    (.repairTool "invalid_arguments")
  let (relative, path) ← S.relativePath H T ((Json.get? "path" arguments).getD .null) false
  raiseIf (isProtected relative = true) (.repairTool "protected_path")
  match Json.get? "content" arguments with
  | some (.str content) => do
    raiseIf ('\x00' ∈ content.toList) (.repairTool "invalid_content")
    raiseIf (S.limits.maxEditBytes < (utf8 content).length) (.repairTool "edit_byte_limit")
    return (relative, path, content)
  | _ => .error (.repairTool "invalid_content")

/-- The temporary file of the call after `sequence` others. -/
def tempPath (parent : TreePath) (sequence : ℕ) : TreePath :=
  parent ++ [".agintor-edit-" ++ toString H.processId ++ "-" ++ toString (sequence + 1)]

/-- An exception of the operating system, raised out of a tool. -/
def system {α : Type} (p : Stateful FileTree String α) : Stateful FileTree ToolException α :=
  fun T => match p T with
    | (.ok a, T') => (.ok a, T')
    | (.error typeName, T') => (.error (.other typeName), T')

/-- Writing through the temporary file, which is removed at the end whatever happens. -/
def writeThrough (temp path : TreePath) (content : Lib.Bytes) : Stateful FileTree ToolException Unit :=
  fun T =>
    let (result, T') := system (do
      FileTree.writeFile temp content
      FileTree.replace temp path) T
    (result, FileTree.unlink temp T')

/-- The confirmation of an edit. -/
def editOutput (relative content : String) : Json :=
  .object [("path", .str relative), ("bytes_written", .int (utf8 content).length),
    ("content_digest",
      .str (H.digests.canonicalIdentityDigest "repair-edit-content" (.str content)))]

/-- `_edit` up to its temporary file: the path as named, the path that is meant, and the new
content. -/
def prepareEdit (arguments : List (String × Json)) :
    Stateful FileTree ToolException (String × TreePath × String) := do
  let T ← Stateful.get
  let admitted ← Stateful.check (S.admitEdit H T arguments)
  system (FileTree.makeDirectory admitted.2.1.dropLast)
  let T ← Stateful.get
  Stateful.check (raiseIf
    (¬T.resolve S.workspace.workingRoot <+: T.resolve admitted.2.1.dropLast)
    (.repairTool "path_escape"))
  return admitted

/-- `_edit` -/
def edit (sequence : ℕ) (arguments : List (String × Json)) : Stateful FileTree ToolException Json :=
  do
    let (relative, path, content) ← S.prepareEdit H arguments
    writeThrough (tempPath H path.dropLast sequence) path (utf8 content)
    return editOutput H relative content

/-! ## One call -/

/-- `_execute`, after the checks on the tool and on the roots. -/
def execute (sequence : ℕ) (call : ToolCall) :
    Stateful FileTree ToolException (Json × List IsolatedCommandEvidence) := do
  Stateful.check (raiseIf (call.toolId ∉ fixedRepairToolIds) (.repairTool "unsupported_tool"))
  let T ← Stateful.get
  Stateful.check (raiseIf (S.immutableSourceUnchanged H T = false)
    (.repairTool "immutable_source_changed"))
  if call.toolId = "repo.edit" then
    let output ← S.edit H sequence call.arguments
    return (output, [])
  else H.otherTool call.toolId call.arguments

/-- What became of a call: its status, its error code, its output and the commands it ran. -/
structure ToolOutcome where
  status : RepairToolStatus
  errorCode : Option String
  output : Json
  commandEvidence : List IsolatedCommandEvidence

/-- `{"error": code}` -/
def errorOutput (code : String) : Json := .object [("error", .str code)]

/-- `_public_failure_status` -/
def publicFailureStatus (evidence : List IsolatedCommandEvidence) : RepairToolStatus :=
  if evidence.any (·.status = .timedOut) then .timedOut
  else if evidence.any (·.status = .outputLimit) then .outputLimit
  else if evidence.any (·.status = .launchFailed) then .launchFailed
  else .failed

/-- `output.get("error") if isinstance(output, dict) and isinstance(output.get("error"), str)` -/
def outputError : Json → Option String
  | .object fields => match Json.get? "error" fields with
    | some (.str code) => some code
    | _ => none
  | _ => none

/-- The status of a tool that returned. -/
def returned (toolId : String) (output : Json) (evidence : List IsolatedCommandEvidence) :
    ToolOutcome :=
  if toolId = "repo.public_test" then
    if outputError output = some "public_test_workspace_changed" then
      ⟨.failed, outputError output, output, evidence⟩
    else if evidence.all (·.passed) then ⟨.succeeded, none, output, evidence⟩
    else ⟨publicFailureStatus evidence, some "public_reproduction_failed", output, evidence⟩
  else ⟨.succeeded, none, output, evidence⟩

/-- The status of a tool that raised. -/
def raised : ToolException → ToolOutcome
  | .repairTool code => ⟨.failed, some code, errorOutput code, []⟩
  | .snapshot _ => ⟨.failed, some "repository_integrity_error",
      errorOutput "repository_integrity_error", []⟩
  | .other typeName => ⟨.failed, some ("internal_" ++ typeName),
      errorOutput "repair_tool_internal_failure", []⟩

/-- The `try` statement of `invoke`. -/
def settle (toolId : String) :
    Except ToolException (Json × List IsolatedCommandEvidence) → ToolOutcome
  | .ok (output, evidence) => returned toolId output evidence
  | .error e => raised e

/-- The part of a call that runs the tool and then looks at the immutable roots. -/
def perform (sequence : ℕ) (call : ToolCall) (T : FileTree) : ToolOutcome × FileTree :=
  let (result, T') := S.execute H sequence call T
  let outcome := settle call.toolId result
  if S.immutableSourceUnchanged H T' then (outcome, T')
  else ({ outcome with
    status := .failed
    errorCode := some "immutable_source_changed"
    output := errorOutput "immutable_source_changed" }, T')

/-- Whether an output is within the reservation of its call and the limit on receipts. -/
def Fits (limit : ℕ) (output : Json) : Prop :=
  output.byteSize H.floats ≤ limit ∧ output.byteSize H.floats ≤ S.limits.maxReceiptBytes

instance (limit : ℕ) (output : Json) : Decidable (S.Fits H limit output) :=
  inferInstanceAs (Decidable (_ ∧ _))

/-- An output that does not fit is replaced. -/
def bounded (limit : ℕ) (outcome : ToolOutcome) : ToolOutcome :=
  if S.Fits H limit outcome.output then outcome
  else { outcome with
    status := .outputLimit
    errorCode := some "tool_output_limit"
    output := errorOutput "tool_output_limit" }

/-- `receipt_id` of the call after `sequence` others -/
def receiptId (sequence : ℕ) : String := "tool.receipt." ++ zeroPad 6 (sequence + 1)

/-- The receipt of a call. -/
def receipt (call : ToolCall) (now : ToolReadings) (st : ToolState) (before after : String)
    (outcome : ToolOutcome) (charged : Bool) (snapshot : AggregateBudgetSnapshot) :
    RepairToolReceipt where
  receiptId := receiptId st.sequence
  callId := call.callId
  toolId := call.toolId
  phase := call.phase
  toolRequestId := call.toolRequestId
  verificationStepId := call.verificationStepId
  status := outcome.status
  argumentsDigest := H.digests.canonicalIdentityDigest "repair-tool-arguments"
    (.object call.arguments)
  output := outcome.output
  outputDigest := H.digests.canonicalIdentityDigest "repair-tool-output" outcome.output
  outputBytes := outcome.output.byteSize H.floats
  startedAtMs := now.startedAtMs
  finishedAtMs := now.finishedAtMs
  errorCode := outcome.errorCode
  workspaceDigestBefore := before
  workspaceDigestAfter := after
  immutableBaseUnchanged := S.immutableBaseUnchanged H st.tree
  sourceSnapshotUnchanged := S.sourceSnapshotUnchanged H st.tree
  commandEvidence := outcome.commandEvidence
  charged := charged
  ledgerAfter := snapshot

/-- The end of a call: the receipt is checked and kept. -/
def record (r : RepairToolReceipt) : Stateful ToolState InvokeError RepairToolReceipt := fun st =>
  let st := { st with sequence := st.sequence + 1 }
  match r.validateOrigin with
  | .ok () => (.ok r, { st with receipts := st.receipts ++ [r] })
  | .error message => (.error (.validation message), st)

/-- The output of a call the ledger refuses. -/
def refusal (metric : String) : ToolOutcome where
  status := .budgetRejected
  errorCode := some "tool_budget_exhausted"
  output := .object [("error", .str "tool_budget_exhausted"), ("metric", .str metric)]
  commandEvidence := []

/-- A call with its reservation. -/
def charge (call : ToolCall) (now : ToolReadings) (limit : ℕ) (before : String)
    (reservation : BudgetReservation) : Stateful ToolState InvokeError RepairToolReceipt :=
  fun st =>
    let (outcome, tree) := S.perform H st.sequence call st.tree
    let outcome := S.bounded H limit outcome
    let st := { st with tree := tree }
    match S.currentWorkspaceDigest H tree with
    | .error message => (.error (.snapshot message), st)
    | .ok after =>
      match st.ledger.completeToolCall now.settled reservation
          (outcome.output.byteSize H.floats) 0 with
      | .error e => (.error (.budget e), st)
      | .ok (snapshot, ledger) =>
        let st := { st with ledger := ledger }
        record (S.receipt H call now st before after outcome true snapshot) st

/-- `invoke` -/
def invoke (call : ToolCall) (now : ToolReadings) :
    Stateful ToolState InvokeError RepairToolReceipt := fun st =>
  let limit := S.callLimit st.ledger call.toolId
  match S.currentWorkspaceDigest H st.tree with
  | .error message => (.error (.snapshot message), st)
  | .ok before =>
    match st.ledger.reserveToolCall now.reserved limit with
    | .error (.exhausted metric _ _) =>
      record (S.receipt H call now st before before (refusal metric) false
        (st.ledger.snapshot now.settled)) st
    | .error e => (.error (.budget e), st)
    | .ok (reservation, ledger) =>
      S.charge H call now limit before reservation { st with ledger := ledger }

end TrustedRepairToolService

end Agintor.Kernel
