import Agintor.Core.JsonRecord
import Mathlib.Data.Finset.Insert

/-!
# Reconciling side effect receipts

`_reconcile_side_effect_receipts` of `runtime/kernel/side_effects.py`: the receipts of a checkpoint
are gone through in order. A terminal receipt stays, a launched one takes over the terminal receipt
with its idempotency key, and what is left is decided from the handle table, the provider and the
files. Of the terminal receipts of one action kind and key only the first is kept. The outside state
does not change meanwhile; the events that are recorded are left out.
-/

namespace Agintor.Kernel

open Agintor.Core Lib

/-! ## Receipts -/

inductive ActionKind
  | toolLaunch | toolCompletion | providerRequest | providerCompletion | serviceAction
  | filesystemWrite
deriving DecidableEq

def ActionKind.text : ActionKind → String
  | .toolLaunch => "tool_launch"
  | .toolCompletion => "tool_completion"
  | .providerRequest => "provider_request"
  | .providerCompletion => "provider_completion"
  | .serviceAction => "service_action"
  | .filesystemWrite => "filesystem_write"

inductive ReceiptStatus
  | launched | completed | failed | reconciled | abandoned
deriving DecidableEq

/-- The values of `ReceiptReconciliationRecord.status` that are written here. -/
inductive ReconciliationStatus
  | terminalizedFromHandle | terminalizedFromProviderHook | blockedBestEffort
deriving DecidableEq

inductive ReconciliationSource
  | resumeReconciliation | branchCancellation
deriving DecidableEq

structure ReceiptReconciliationRecord where
  status : ReconciliationStatus
  source : ReconciliationSource
  details : List (String × Json)
  reconciledAt : ℚ

structure SideEffectReceipt where
  sideEffectId : String
  idempotencyKey : String
  actionKind : ActionKind
  nodeId : String
  status : ReceiptStatus
  resultRef : List (String × Json)
  reconciliation : Option ReceiptReconciliationRecord

namespace SideEffectReceipt

/-- `TERMINAL_RECEIPT_STATUSES` -/
def terminalReceiptStatuses : List ReceiptStatus := [.completed, .failed, .reconciled, .abandoned]

/-- `is_terminal_receipt` -/
def isTerminal (r : SideEffectReceipt) : Bool := terminalReceiptStatuses.contains r.status

/-- `receipt.status in {"failed", "abandoned"}` -/
def isUnsuccessful (r : SideEffectReceipt) : Bool :=
  [ReceiptStatus.failed, .abandoned].contains r.status

/-- The key under which a terminal receipt is kept only once. -/
def terminalKey (r : SideEffectReceipt) : Option (ActionKind × String) :=
  if r.isTerminal then some (r.actionKind, r.idempotencyKey) else none

end SideEffectReceipt

/-! ## The outside state -/

structure AsyncHandle where
  handleId : String
  state : String

inductive FileState
  | absent
  | unreadable
  | text (content : String)

/-- What reconciliation asks of its surroundings: the texts Python gives to other values than texts,
the clock, `stable_hash`, the handle table, the tool executor and the provider, where they have the
method that is asked, and the files. -/
structure ReconciliationHost where
  str : Json → String
  now : ℚ
  stableHash : String → String
  handles : String → Option AsyncHandle
  reconcileAsyncHandle : Option (AsyncHandle → List (String × Json))
  reconcileRequest : Option (String → SideEffectReceipt → Option (List (String × Json)))
  files : String → FileState

inductive ReconciliationPolicy
  | strict | bestEffort
deriving DecidableEq

/-- What reconciliation may raise: `ResumeRecoveryError`, or the `TypeError` of a loop over a value
that is no collection. -/
inductive ReconciliationError
  | resumeRecovery (failureKind message : String)
  | notIterable (value : Json)

/-- `RecoveryFailureKind.RECEIPT_RECONCILIATION_FAILED` -/
def receiptReconciliationFailed : String := "receipt_reconciliation_failed"

/-- `terminalize_receipt` -/
def terminalizeReceipt (now : ℚ) (r : SideEffectReceipt) (status : ReceiptStatus)
    (reconciliationStatus : ReconciliationStatus) (reconciliationSource : ReconciliationSource)
    (reconciliationDetails resultRefUpdates : List (String × Json)) : SideEffectReceipt :=
  if r.isTerminal then r
  else { r with
    status := status
    resultRef := Json.merged r.resultRef resultRefUpdates
    reconciliation :=
      some ⟨reconciliationStatus, reconciliationSource, reconciliationDetails, now⟩ }

namespace ReconciliationHost

variable (host : ReconciliationHost)

/-- `str(value)` -/
def text : Json → String
  | .str s => s
  | value => host.str value

/-- `str(fields.get(key, "") or "")` -/
def textOrEmpty (key : String) (fields : List (String × Json)) : String :=
  let value := Json.getD key (.str "") fields
  if value.truthy then host.text value else ""

/-! ## Files -/

/-- `_filesystem_write_matches_entry` -/
def filesystemWriteMatchesEntry (entry : List (String × Json)) (expectedState : String) : Bool :=
  let path := strip (host.textOrEmpty "path" entry)
  if path = "" then false
  else
    let expectedExists := (Json.getD (expectedState ++ "_exists") .null entry).truthy
    match host.files path with
    | .absent => !expectedExists
    | .unreadable => false
    | .text content =>
      let expectedDigest := strip (host.textOrEmpty (expectedState ++ "_digest") entry)
      expectedExists && expectedDigest ≠ "" && host.stableHash content = expectedDigest

def asMapping : Json → Option (List (String × Json))
  | .object fields => some fields
  | _ => none

/-- The entries of `receipt.result_ref.get("writes", [])` that are mappings. -/
def writeEntries (r : SideEffectReceipt) :
    Except ReconciliationError (List (List (String × Json))) :=
  match Json.getD "writes" (.array []) r.resultRef with
  | .array items => .ok (items.filterMap asMapping)
  | .object _ => .ok []
  | .str _ => .ok []
  | value => .error (.notIterable value)

inductive WriteState
  | unknown | completed | prewriteIntact | ambiguous
deriving DecidableEq

/-- `_filesystem_write_reconciliation_state` -/
def filesystemWriteReconciliationState (r : SideEffectReceipt) :
    Except ReconciliationError WriteState := do
  let writes ← writeEntries r
  if writes.isEmpty then return .unknown
  if writes.all fun entry => host.filesystemWriteMatchesEntry entry "after" then
    return .completed
  if writes.all fun entry => host.filesystemWriteMatchesEntry entry "before" then
    return .prewriteIntact
  return .ambiguous

/-! ## Handles -/

/-- The text of a field of `receipt.result_ref`, stripped. -/
def resultText (key : String) (r : SideEffectReceipt) : String :=
  strip (host.text (Json.getD key (.str "") r.resultRef))

/-- The handle of a launch, if the table has it. -/
def openHandle (r : SideEffectReceipt) : Option AsyncHandle :=
  if host.resultText "handle_id" r = "" then none
  else host.handles (host.resultText "handle_id" r)

def launchMode (r : SideEffectReceipt) : String := (host.resultText "launch_mode" r).toLower

/-- `(reconciliation or {})` -/
def reconciliation (handle : AsyncHandle) : List (String × Json) :=
  (host.reconcileAsyncHandle.map fun reconcile => reconcile handle).getD []

/-- `handle_status` -/
def handleStatus (handle : AsyncHandle) : String :=
  let status := Json.getD "status" (.str handle.state) (host.reconciliation handle)
  if status.truthy then host.text status else handle.state

def terminalHandleStatuses : List String := ["completed", "failed", "cancelled"]

/-! ## Open receipts -/

/-- What a turn of the loop does: it appends a receipt, and may block the node of this receipt. -/
structure Turn where
  appended : SideEffectReceipt
  blocks : Bool

/-- The end of every branch in which nothing settles a receipt: strict resumption is refused, and
otherwise the receipt is abandoned and its node blocked. -/
def giveUp (policy : ReconciliationPolicy) (r : SideEffectReceipt) (message : String)
    (details : List (String × Json)) : Except ReconciliationError Turn := do
  raiseIf (policy = .strict)
    (.resumeRecovery receiptReconciliationFailed (message ++ " " ++ r.sideEffectId))
  return ⟨terminalizeReceipt host.now r .abandoned .blockedBestEffort .resumeReconciliation
    ([("node_id", .str r.nodeId), ("action_kind", .str r.actionKind.text)] ++ details) [], true⟩

def giveUpUnresolved (policy : ReconciliationPolicy) (r : SideEffectReceipt) :
    Except ReconciliationError Turn :=
  host.giveUp policy r
    "strict resume requires reconciled side effects; unresolved receipt" []

/-- A launch whose handle has come to an end. -/
def terminalizedFromHandle (r : SideEffectReceipt) (handle : AsyncHandle) : SideEffectReceipt :=
  let status := host.handleStatus handle
  terminalizeReceipt host.now r
    (if status = "failed" then .failed else if status = "completed" then .reconciled
      else .abandoned)
    .terminalizedFromHandle .resumeReconciliation
    [("handle_id", .str handle.handleId), ("handle_state", .str status),
      ("reconciliation_source",
        Json.getD "reconciliation_source" .null (host.reconciliation handle))]
    [("handle_id", .str handle.handleId),
      ("output", Json.getD "output" .null (host.reconciliation handle)),
      ("handle_state", .str status)]

/-- The branch for `tool_launch`; a launch of another mode falls through to the end. -/
def reconcileToolLaunch (policy : ReconciliationPolicy) (r : SideEffectReceipt) :
    Except ReconciliationError Turn :=
  let withoutHandle : Except ReconciliationError Turn :=
    if host.launchMode r = "sync" then
      host.giveUp policy r "strict resume requires terminal proof for sync tool launch"
        [("launch_mode", .str "sync")]
    else host.giveUpUnresolved policy r
  match host.openHandle r with
  | none => withoutHandle
  | some handle =>
    if terminalHandleStatuses.contains (host.handleStatus handle) then
      let terminalized := host.terminalizedFromHandle r handle
      .ok ⟨terminalized, terminalized.isUnsuccessful⟩
    else if host.launchMode r = "async" then do
      raiseIf (policy = .strict) (.resumeRecovery receiptReconciliationFailed
        ("strict resume requires durable reconciliation for async tool launch " ++ r.sideEffectId))
      return ⟨r, true⟩
    else withoutHandle

/-- The branch for `provider_request`. -/
def reconcileProviderRequest (policy : ReconciliationPolicy) (r : SideEffectReceipt) :
    Except ReconciliationError Turn :=
  match host.reconcileRequest.bind fun hook => hook r.idempotencyKey r with
  | none => host.giveUpUnresolved policy r
  | some reconciled =>
    .ok ⟨terminalizeReceipt host.now r .reconciled .terminalizedFromProviderHook
      .resumeReconciliation [("idempotency_key", .str r.idempotencyKey)] reconciled, false⟩

/-- The branch for `filesystem_write`. -/
def reconcileFilesystemWrite (policy : ReconciliationPolicy) (r : SideEffectReceipt) :
    Except ReconciliationError Turn := do
  match ← host.filesystemWriteReconciliationState r with
  | .completed => return ⟨{ r with status := .reconciled }, false⟩
  | .prewriteIntact => return ⟨r, false⟩
  | _ => host.giveUp policy r ("strict resume requires filesystem writes to be fully reconciled " ++
      "or fully unapplied before reissue; unresolved receipt") []

/-- What becomes of a launched receipt whose key has no terminal receipt. -/
def reconcileOpen (policy : ReconciliationPolicy) (r : SideEffectReceipt) :
    Except ReconciliationError Turn :=
  match r.actionKind with
  | .toolLaunch => host.reconcileToolLaunch policy r
  | .providerRequest => host.reconcileProviderRequest policy r
  | .filesystemWrite => host.reconcileFilesystemWrite policy r
  | .serviceAction =>
    host.giveUp policy r "strict resume requires terminal proof for service action" []
  | _ => host.giveUpUnresolved policy r

/-! ## The loop -/

/-- `terminal_by_key`: of the terminal receipts with one idempotency key the last. -/
def terminalByKey (receipts : List SideEffectReceipt) (key : String) : Option SideEffectReceipt :=
  receipts.reverse.find? fun r => r.isTerminal && r.idempotencyKey = key

/-- A turn of the loop. -/
def reconcileReceipt (policy : ReconciliationPolicy) (receipts : List SideEffectReceipt)
    (r : SideEffectReceipt) : Except ReconciliationError Turn :=
  if r.isTerminal then .ok ⟨r, r.isUnsuccessful⟩
  else match terminalByKey receipts r.idempotencyKey with
    | some terminal => .ok ⟨terminal, terminal.isUnsuccessful⟩
    | none => host.reconcileOpen policy r

/-- The variables of the loop. -/
structure Resolution where
  resolved : List SideEffectReceipt := []
  blockedNodeIds : Finset String := ∅
  resolvedTerminalKeys : List (ActionKind × String) := []

/-- `append_resolved` -/
def Resolution.appendResolved (s : Resolution) (r : SideEffectReceipt) : Resolution :=
  match r.terminalKey with
  | none => { s with resolved := s.resolved ++ [r] }
  | some key =>
    if key ∈ s.resolvedTerminalKeys then s
    else { s with
      resolved := s.resolved ++ [r]
      resolvedTerminalKeys := key :: s.resolvedTerminalKeys }

/-- `blocked_node_ids.add(receipt.node_id)` -/
def Resolution.block (s : Resolution) (t : Turn) : Resolution :=
  if t.blocks && t.appended.nodeId ≠ "" then
    { s with blockedNodeIds := insert t.appended.nodeId s.blockedNodeIds }
  else s

def Resolution.take (s : Resolution) (t : Turn) : Resolution :=
  (s.appendResolved t.appended).block t

/-- `_reconcile_side_effect_receipts` -/
def reconcileSideEffectReceipts (policy : ReconciliationPolicy)
    (receipts : List SideEffectReceipt) :
    Except ReconciliationError (List SideEffectReceipt × Finset String) := do
  let final ← receipts.foldlM (fun s r => do
    let turn ← host.reconcileReceipt policy receipts r
    return Resolution.take s turn) {}
  return (final.resolved, final.blockedNodeIds)

end ReconciliationHost

end Agintor.Kernel
