import Agintor.Kernel.SideEffects
import Agintor.Lib.FirstOfKey

/-!
# What reconciliation leaves

Every receipt that is gone through leaves a terminal receipt of the list, a terminal receipt of its
own, or itself, launched; the result is the list of these without later terminal receipts of the
same action kind and key. What is dropped in this way has still blocked its node, and what is left
launched is replaced when a terminal receipt with its key has been written. The result is consistent
with the blocked nodes and stable exactly when neither happens.
-/

namespace Agintor.Kernel

open Agintor.Core Lib

/-! ## Receipts -/

namespace SideEffectReceipt

variable {r : SideEffectReceipt}

lemma isTerminal_iff : r.isTerminal ↔ r.status ≠ .launched := by
  cases h : r.status <;> simp [isTerminal, terminalReceiptStatuses, h]

lemma isUnsuccessful_iff : r.isUnsuccessful ↔ r.status = .failed ∨ r.status = .abandoned := by
  cases h : r.status <;> simp [isUnsuccessful, h]

lemma isTerminal_of_isUnsuccessful (h : r.isUnsuccessful) : r.isTerminal := by
  rw [isTerminal_iff]
  rcases isUnsuccessful_iff.mp h with hstatus | hstatus <;> simp [hstatus]

lemma terminalKey_eq_some_iff {key : ActionKind × String} :
    r.terminalKey = some key ↔ r.isTerminal ∧ (r.actionKind, r.idempotencyKey) = key := by
  by_cases h : r.isTerminal <;> simp [terminalKey, h]

lemma terminalKey_of_isTerminal (h : r.isTerminal) :
    r.terminalKey = some (r.actionKind, r.idempotencyKey) := terminalKey_eq_some_iff.mpr ⟨h, rfl⟩

lemma terminalKey_eq_none_iff : r.terminalKey = none ↔ r.status = .launched := by
  by_cases h : r.isTerminal
  · simp [terminalKey, h, isTerminal_iff.mp h]
  · simpa [terminalKey, h] using mt isTerminal_iff.mpr h

end SideEffectReceipt

section Terminalize

variable {now : ℚ} {r : SideEffectReceipt} {status : ReceiptStatus}
  {reconciliationStatus : ReconciliationStatus} {source : ReconciliationSource}
  {details updates : List (String × Json)}

@[simp] lemma terminalizeReceipt_idempotencyKey :
    (terminalizeReceipt now r status reconciliationStatus source details updates).idempotencyKey =
      r.idempotencyKey := by
  unfold terminalizeReceipt
  split <;> rfl

@[simp] lemma terminalizeReceipt_actionKind :
    (terminalizeReceipt now r status reconciliationStatus source details updates).actionKind =
      r.actionKind := by
  unfold terminalizeReceipt
  split <;> rfl

@[simp] lemma terminalizeReceipt_nodeId :
    (terminalizeReceipt now r status reconciliationStatus source details updates).nodeId =
      r.nodeId := by
  unfold terminalizeReceipt
  split <;> rfl

lemma terminalizeReceipt_status (h : r.status = .launched) :
    (terminalizeReceipt now r status reconciliationStatus source details updates).status =
      status := by
  have hopen : ¬r.isTerminal := by simp [SideEffectReceipt.isTerminal_iff, h]
  rw [terminalizeReceipt, if_neg hopen]

end Terminalize

/-! ## What becomes of an open receipt -/

namespace ReconciliationHost

variable (host : ReconciliationHost)

/-- An async tool launch with a handle that has not come to an end. -/
def isRunningLaunch (r : SideEffectReceipt) : Bool :=
  r.status = .launched && r.actionKind = .toolLaunch && host.launchMode r = "async" &&
    (host.openHandle r).any fun handle =>
      !terminalHandleStatuses.contains (host.handleStatus handle)

/-- A launched write none of whose targets has changed. -/
def isPrewriteIntact (r : SideEffectReceipt) : Bool :=
  r.status = .launched && r.actionKind = .filesystemWrite &&
    (host.filesystemWriteReconciliationState r).toOption = some .prewriteIntact

/-- Nothing is known of the launch, or that it has not begun: the receipt stays launched. -/
def isLeftLaunched (r : SideEffectReceipt) : Bool :=
  host.isRunningLaunch r || host.isPrewriteIntact r

/-- The handle, the provider or the files show that the action was completed. -/
def isSettled (r : SideEffectReceipt) : Bool :=
  match r.actionKind with
  | .toolLaunch => (host.openHandle r).any fun handle => host.handleStatus handle = "completed"
  | .providerRequest =>
    (host.reconcileRequest.bind fun hook => hook r.idempotencyKey r).isSome
  | .filesystemWrite => (host.filesystemWriteReconciliationState r).toOption = some .completed
  | _ => false

/-- The receipt ends as failed or abandoned, where it does not raise. -/
def isGivenUp (r : SideEffectReceipt) : Bool := !host.isSettled r && !host.isLeftLaunched r

/-- What a turn may do with an open receipt. -/
inductive OpenCase (policy : ReconciliationPolicy) (r : SideEffectReceipt) : Turn → Prop
  | closed (x : SideEffectReceipt) (idempotencyKey : x.idempotencyKey = r.idempotencyKey)
      (actionKind : x.actionKind = r.actionKind) (nodeId : x.nodeId = r.nodeId)
      (terminal : x.isTerminal) (unsuccessful : x.isUnsuccessful = host.isGivenUp r)
      (left : host.isLeftLaunched r = false) : OpenCase policy r ⟨x, x.isUnsuccessful⟩
  | running (running : host.isRunningLaunch r) (policy_ne : policy ≠ .strict) :
      OpenCase policy r ⟨r, true⟩
  | intact (intact : host.isPrewriteIntact r) : OpenCase policy r ⟨r, false⟩

variable {host} {policy : ReconciliationPolicy} {r : SideEffectReceipt} {t : Turn}

/-- A receipt that is terminalized, and blocks its node when this is not to success. -/
lemma openCase_terminalize {status : ReceiptStatus} {reconciliationStatus : ReconciliationStatus}
    {source : ReconciliationSource} {details updates : List (String × Json)} {blocks : Bool}
    (hlaunched : r.status = .launched) (hstatus : status ≠ .launched)
    (hleft : host.isLeftLaunched r = false)
    (hgiven : host.isGivenUp r = decide (status = .failed ∨ status = .abandoned))
    (hblocks : blocks = decide (status = .failed ∨ status = .abandoned)) :
    host.OpenCase policy r ⟨terminalizeReceipt host.now r status reconciliationStatus source
      details updates, blocks⟩ := by
  have hunsuccessful : (terminalizeReceipt host.now r status reconciliationStatus source details
      updates).isUnsuccessful = decide (status = .failed ∨ status = .abandoned) := by
    rw [Bool.eq_iff_iff, SideEffectReceipt.isUnsuccessful_iff, terminalizeReceipt_status hlaunched,
      decide_eq_true_iff]
  rw [hblocks, ← hunsuccessful]
  refine .closed _ terminalizeReceipt_idempotencyKey terminalizeReceipt_actionKind
    terminalizeReceipt_nodeId ?_ (hunsuccessful.trans hgiven.symm) hleft
  rw [SideEffectReceipt.isTerminal_iff, terminalizeReceipt_status hlaunched]
  exact hstatus

lemma openCase_giveUp {message : String} {details : List (String × Json)}
    (hlaunched : r.status = .launched) (hgiven : host.isGivenUp r)
    (h : host.giveUp policy r message details = .ok t) : host.OpenCase policy r t := by
  rw [giveUp, bind_eq_ok_iff] at h
  obtain ⟨-, -, h⟩ := h
  cases h
  have hleft : host.isLeftLaunched r = false := by
    rw [isGivenUp, Bool.and_eq_true] at hgiven
    simpa using hgiven.2
  exact openCase_terminalize hlaunched (by decide) hleft hgiven rfl

lemma isRunningLaunch_eq_false (h : r.actionKind ≠ .toolLaunch) :
    host.isRunningLaunch r = false := by
  simp [isRunningLaunch, h]

lemma isPrewriteIntact_eq_false (h : r.actionKind ≠ .filesystemWrite) :
    host.isPrewriteIntact r = false := by
  simp [isPrewriteIntact, h]

section

variable (hlaunched : r.status = .launched)
include hlaunched

lemma openCase_toolLaunch (hkind : r.actionKind = .toolLaunch)
    (h : host.reconcileToolLaunch policy r = .ok t) : host.OpenCase policy r t := by
  have hintact : host.isPrewriteIntact r = false := isPrewriteIntact_eq_false (by simp [hkind])
  -- a launch without a handle that shows its end, and that is not left running
  have hwithout (hsettled : host.isSettled r = false) (hrunning : host.isRunningLaunch r = false)
      (h : (if host.launchMode r = "sync" then
          host.giveUp policy r "strict resume requires terminal proof for sync tool launch"
            [("launch_mode", .str "sync")]
        else host.giveUpUnresolved policy r) = .ok t) : host.OpenCase policy r t := by
    have hgiven : host.isGivenUp r := by simp [isGivenUp, isLeftLaunched, *]
    split at h
    · exact openCase_giveUp hlaunched hgiven h
    · exact openCase_giveUp hlaunched hgiven h
  unfold reconcileToolLaunch at h
  cases hhandle : host.openHandle r with
  | none =>
    rw [hhandle] at h
    exact hwithout (by simp [isSettled, hkind, hhandle]) (by simp [isRunningLaunch, hhandle]) h
  | some handle =>
    simp only [hhandle] at h
    by_cases hend : terminalHandleStatuses.contains (host.handleStatus handle)
    · rw [if_pos hend] at h
      have hleft : host.isLeftLaunched r = false := by
        have hrunning : host.isRunningLaunch r = false := by
          simp only [isRunningLaunch, hhandle, Option.any_some, hend, Bool.not_true, Bool.and_false]
        rw [isLeftLaunched, hrunning, hintact, Bool.or_false]
      have hgiven : host.isGivenUp r = !decide (host.handleStatus handle = "completed") := by
        simp [isGivenUp, isSettled, hkind, hhandle, hleft]
      have hfate : host.isGivenUp r = (host.terminalizedFromHandle r handle).isUnsuccessful := by
        rw [hgiven, Bool.eq_iff_iff, SideEffectReceipt.isUnsuccessful_iff, terminalizedFromHandle,
          terminalizeReceipt_status hlaunched]
        by_cases hfailed : host.handleStatus handle = "failed"
        · simp [hfailed]
        · by_cases hcompleted : host.handleStatus handle = "completed" <;>
            simp [hfailed, hcompleted]
      cases h
      refine .closed _ terminalizeReceipt_idempotencyKey terminalizeReceipt_actionKind
        terminalizeReceipt_nodeId ?_ hfate.symm hleft
      rw [SideEffectReceipt.isTerminal_iff, terminalizedFromHandle,
        terminalizeReceipt_status hlaunched]
      split
      · decide
      · split <;> decide
    · have hsettled : host.isSettled r = false := by
        have hne : host.handleStatus handle ≠ "completed" := by
          intro heq
          exact hend (by rw [heq]; decide)
        simp [isSettled, hkind, hhandle, hne]
      rw [if_neg hend] at h
      by_cases hmode : host.launchMode r = "async"
      · rw [if_pos hmode, bind_eq_ok_iff] at h
        obtain ⟨_, hpolicy, h⟩ := h
        cases h
        have hend' : terminalHandleStatuses.contains (host.handleStatus handle) = false :=
          Bool.eq_false_iff.mpr hend
        refine .running ?_ (raiseIf_eq_ok_iff.mp hpolicy)
        simp only [isRunningLaunch, hlaunched, hkind, hmode, hhandle, Option.any_some, hend',
          decide_true, Bool.and_true, Bool.not_false]
      · rw [if_neg hmode] at h
        exact hwithout hsettled (by simp [isRunningLaunch, hmode]) h

lemma openCase_providerRequest
    (hkind : r.actionKind = .providerRequest)
    (h : host.reconcileProviderRequest policy r = .ok t) : host.OpenCase policy r t := by
  have hleft : host.isLeftLaunched r = false := by
    rw [isLeftLaunched, isRunningLaunch_eq_false (by simp [hkind]),
      isPrewriteIntact_eq_false (by simp [hkind]), Bool.or_false]
  unfold reconcileProviderRequest at h
  cases hhook : host.reconcileRequest.bind fun hook => hook r.idempotencyKey r with
  | none =>
    rw [hhook] at h
    exact openCase_giveUp hlaunched (by simp [isGivenUp, isSettled, hkind, hhook, hleft]) h
  | some reconciled =>
    rw [hhook] at h
    cases h
    refine openCase_terminalize hlaunched (by decide) hleft ?_ rfl
    simp [isGivenUp, isSettled, hkind, hhook]

lemma openCase_filesystemWrite
    (hkind : r.actionKind = .filesystemWrite)
    (h : host.reconcileFilesystemWrite policy r = .ok t) : host.OpenCase policy r t := by
  have hrunning : host.isRunningLaunch r = false := isRunningLaunch_eq_false (by simp [hkind])
  rw [reconcileFilesystemWrite, bind_eq_ok_iff] at h
  obtain ⟨state, hstate, h⟩ := h
  have hoption : (host.filesystemWriteReconciliationState r).toOption = some state := by
    rw [hstate]
    rfl
  cases state with
  | completed =>
    cases h
    have hleft : host.isLeftLaunched r = false := by
      simp [isLeftLaunched, hrunning, isPrewriteIntact, hoption]
    refine .closed { r with status := .reconciled } rfl rfl rfl rfl ?_ hleft
    simp [SideEffectReceipt.isUnsuccessful, isGivenUp, isSettled, hkind, hoption]
  | prewriteIntact =>
    cases h
    exact .intact (by simp [isPrewriteIntact, hlaunched, hkind, hoption])
  | unknown =>
    refine openCase_giveUp hlaunched ?_ h
    simp [isGivenUp, isSettled, isLeftLaunched, hrunning, isPrewriteIntact, hkind, hoption]
  | ambiguous =>
    refine openCase_giveUp hlaunched ?_ h
    simp [isGivenUp, isSettled, isLeftLaunched, hrunning, isPrewriteIntact, hkind, hoption]

/-- All that a turn may do with an open receipt. -/
theorem reconcileOpen_cases
    (h : host.reconcileOpen policy r = .ok t) : host.OpenCase policy r t := by
  have hother (htool : r.actionKind ≠ .toolLaunch) (hfile : r.actionKind ≠ .filesystemWrite)
      (hsettled : host.isSettled r = false) : host.isGivenUp r := by
    rw [isGivenUp, isLeftLaunched, hsettled, isRunningLaunch_eq_false htool,
      isPrewriteIntact_eq_false hfile]
    rfl
  unfold reconcileOpen at h
  cases hkind : r.actionKind with
  | toolLaunch =>
    simp only [hkind] at h
    exact openCase_toolLaunch hlaunched hkind h
  | providerRequest =>
    simp only [hkind] at h
    exact openCase_providerRequest hlaunched hkind h
  | filesystemWrite =>
    simp only [hkind] at h
    exact openCase_filesystemWrite hlaunched hkind h
  | serviceAction | toolCompletion | providerCompletion =>
    have hgiven : host.isGivenUp r :=
      hother (by simp [hkind]) (by simp [hkind]) (by simp [isSettled, hkind])
    simp only [hkind] at h
    exact openCase_giveUp hlaunched hgiven h

end

/-! ## What a turn of the loop does -/

/-- A launched receipt whose key has no terminal receipt. -/
def IsOpen (receipts : List SideEffectReceipt) (r : SideEffectReceipt) : Prop :=
  r.status = .launched ∧ ∀ s ∈ receipts, s.isTerminal → s.idempotencyKey ≠ r.idempotencyKey

lemma terminalByKey_eq_none_iff {receipts : List SideEffectReceipt} {key : String} :
    terminalByKey receipts key = none ↔
      ∀ s ∈ receipts, s.isTerminal → s.idempotencyKey ≠ key := by
  simp [terminalByKey, List.find?_eq_none]

/-- What a turn may do with a receipt: a terminal receipt of the list takes its place, or the turn
is one of an open receipt. -/
inductive TurnCase (host : ReconciliationHost) (policy : ReconciliationPolicy)
    (receipts : List SideEffectReceipt) (r : SideEffectReceipt) : Turn → Prop
  | terminal (s : SideEffectReceipt) (mem : s ∈ receipts) (terminal : s.isTerminal)
      (idempotencyKey : s.idempotencyKey = r.idempotencyKey) (self : r.isTerminal → s = r) :
      TurnCase host policy receipts r ⟨s, s.isUnsuccessful⟩
  | isOpen (isOpen : IsOpen receipts r) (t : Turn) (case : host.OpenCase policy r t) :
      TurnCase host policy receipts r t

variable {receipts : List SideEffectReceipt}

theorem reconcileReceipt_cases (hmem : r ∈ receipts)
    (h : host.reconcileReceipt policy receipts r = .ok t) :
    TurnCase host policy receipts r t := by
  unfold reconcileReceipt at h
  by_cases hterminal : r.isTerminal
  · rw [if_pos hterminal] at h
    cases h
    exact .terminal r hmem hterminal rfl fun _ => rfl
  · rw [if_neg hterminal] at h
    cases hfind : terminalByKey receipts r.idempotencyKey with
    | some s =>
      rw [hfind] at h
      cases h
      have hs : s ∈ receipts := List.mem_reverse.mp (List.mem_of_find?_eq_some hfind)
      have hfound := List.find?_some hfind
      rw [Bool.and_eq_true, decide_eq_true_iff] at hfound
      exact .terminal s hs hfound.1 hfound.2 fun hr => absurd hr hterminal
    | none =>
      rw [hfind] at h
      have hlaunched : r.status = .launched := by
        simpa [SideEffectReceipt.isTerminal_iff] using hterminal
      exact .isOpen ⟨hlaunched, terminalByKey_eq_none_iff.mp hfind⟩ t
        (reconcileOpen_cases hlaunched h)

lemma reconcileReceipt_of_isOpen (h : IsOpen receipts r) :
    host.reconcileReceipt policy receipts r = host.reconcileOpen policy r := by
  have hopen : ¬r.isTerminal := by simp [SideEffectReceipt.isTerminal_iff, h.1]
  rw [reconcileReceipt, if_neg hopen, terminalByKey_eq_none_iff.mpr h.2]

lemma reconcileReceipt_of_isTerminal (h : r.isTerminal) :
    host.reconcileReceipt policy receipts r = .ok ⟨r, r.isUnsuccessful⟩ := by
  rw [reconcileReceipt, if_pos h]

variable (host) in
/-- The receipts whose nodes are blocked. -/
def isBlocking (r : SideEffectReceipt) : Bool := r.isUnsuccessful || host.isRunningLaunch r

lemma status_of_isLeftLaunched (h : host.isLeftLaunched r) : r.status = .launched := by
  simp only [isLeftLaunched, isRunningLaunch, isPrewriteIntact, Bool.or_eq_true, Bool.and_eq_true,
    decide_eq_true_eq] at h
  rcases h with h | h
  · exact h.1.1.1
  · exact h.1.1

lemma isRunningLaunch_of_isTerminal (h : r.isTerminal) : host.isRunningLaunch r = false := by
  simp [isRunningLaunch, SideEffectReceipt.isTerminal_iff.mp h]

lemma isUnsuccessful_of_launched (h : r.status = .launched) : r.isUnsuccessful = false := by
  simp [SideEffectReceipt.isUnsuccessful, h]

lemma isRunningLaunch_of_isPrewriteIntact (h : host.isPrewriteIntact r) :
    host.isRunningLaunch r = false := by
  simp only [isPrewriteIntact, Bool.and_eq_true, decide_eq_true_eq] at h
  exact isRunningLaunch_eq_false (by simp [h.1.2])

/-- A turn blocks the node of the receipt that it appends when the receipt is one to block. -/
lemma TurnCase.blocks_eq (h : TurnCase host policy receipts r t) :
    t.blocks = host.isBlocking t.appended := by
  cases h with
  | terminal s _ hterminal _ _ =>
    rw [isBlocking, isRunningLaunch_of_isTerminal hterminal, Bool.or_false]
  | isOpen _ _ case =>
    cases case with
    | closed x _ _ _ hterminal _ _ =>
      rw [isBlocking, isRunningLaunch_of_isTerminal hterminal, Bool.or_false]
    | running hrunning _ => rw [isBlocking, hrunning, Bool.or_true]
    | intact hintact =>
      have hleft : host.isLeftLaunched r := by rw [isLeftLaunched, hintact, Bool.or_true]
      have hlaunched := status_of_isLeftLaunched hleft
      rw [isBlocking, isRunningLaunch_of_isPrewriteIntact hintact,
        isUnsuccessful_of_launched hlaunched, Bool.or_false]

/-! ## The loop -/

lemma resolved_foldl_take (turns : List Turn) (s : Resolution) :
    (turns.foldl Resolution.take s).resolved =
      s.resolved ++ firstOfKey SideEffectReceipt.terminalKey s.resolvedTerminalKeys
        (turns.map Turn.appended) := by
  induction turns generalizing s with
  | nil => simp
  | cons t turns ih =>
    have hblock (s : Resolution) : (s.block t).resolved = s.resolved ∧
        (s.block t).resolvedTerminalKeys = s.resolvedTerminalKeys := by
      unfold Resolution.block
      split <;> exact ⟨rfl, rfl⟩
    rw [List.foldl_cons, ih, Resolution.take, (hblock _).1, (hblock _).2, List.map_cons,
      Resolution.appendResolved]
    cases hkey : t.appended.terminalKey with
    | none => simp [firstOfKey_cons_of_none hkey]
    | some key =>
      by_cases hseen : key ∈ s.resolvedTerminalKeys
      · simp [hseen, firstOfKey_cons_of_mem hkey hseen]
      · simp [hseen, firstOfKey_cons_of_notMem hkey hseen]

lemma mem_blockedNodeIds_foldl_take (turns : List Turn) (s : Resolution) (node : String) :
    node ∈ (turns.foldl Resolution.take s).blockedNodeIds ↔ node ∈ s.blockedNodeIds ∨
      node ≠ "" ∧ ∃ t ∈ turns, t.blocks ∧ t.appended.nodeId = node := by
  induction turns generalizing s with
  | nil => simp
  | cons t turns ih =>
    have happend : (s.appendResolved t.appended).blockedNodeIds = s.blockedNodeIds := by
      unfold Resolution.appendResolved
      split
      · rfl
      · split <;> rfl
    rw [List.foldl_cons, ih, Resolution.take, Resolution.block]
    by_cases hblocks : t.blocks && t.appended.nodeId ≠ ""
    · rw [if_pos hblocks, Finset.mem_insert, happend]
      rw [Bool.and_eq_true, decide_eq_true_iff] at hblocks
      constructor
      · rintro ((rfl | h) | ⟨hne, u, hu, h⟩)
        · exact .inr ⟨hblocks.2, t, List.mem_cons_self, hblocks.1, rfl⟩
        · exact .inl h
        · exact .inr ⟨hne, u, List.mem_cons_of_mem _ hu, h⟩
      · rintro (h | ⟨hne, u, hu, h⟩)
        · exact .inl (.inr h)
        · rcases List.mem_cons.mp hu with rfl | hu
          · exact .inl (.inl h.2.symm)
          · exact .inr ⟨hne, u, hu, h⟩
    · rw [if_neg hblocks, happend]
      refine or_congr_right (and_congr_right fun hne => ?_)
      rw [List.exists_mem_cons_iff, or_iff_right]
      rintro ⟨ht, rfl⟩
      exact hblocks (by simp [ht, hne])

/-- The turn of a receipt, where it does not raise. -/
def turnOf (host : ReconciliationHost) (policy : ReconciliationPolicy)
    (receipts : List SideEffectReceipt) (r : SideEffectReceipt) : Turn :=
  match host.reconcileReceipt policy receipts r with
  | .ok t => t
  | .error _ => ⟨r, false⟩

lemma turnOf_of_ok (h : host.reconcileReceipt policy receipts r = .ok t) :
    turnOf host policy receipts r = t := by
  rw [turnOf, h]

/-- The receipt that is appended for a receipt. -/
def appendedOf (host : ReconciliationHost) (policy : ReconciliationPolicy)
    (receipts : List SideEffectReceipt) (r : SideEffectReceipt) : SideEffectReceipt :=
  (turnOf host policy receipts r).appended

variable {out : List SideEffectReceipt} {blocked : Finset String}

/-- What reconciliation returns: the appended receipts without later ones of a key, and the nodes
of all of them that are to block. -/
theorem reconcileSideEffectReceipts_eq_ok_iff :
    host.reconcileSideEffectReceipts policy receipts = .ok (out, blocked) ↔
      (∀ r ∈ receipts, ∃ t, host.reconcileReceipt policy receipts r = .ok t) ∧
      out = firstOfKey SideEffectReceipt.terminalKey []
        (receipts.map (appendedOf host policy receipts)) ∧
      ∀ node, node ∈ blocked ↔ node ≠ "" ∧ ∃ r ∈ receipts,
        host.isBlocking (appendedOf host policy receipts r) ∧
          (appendedOf host policy receipts r).nodeId = node := by
  have hblocks (hok : ∀ r ∈ receipts, ∃ t, host.reconcileReceipt policy receipts r = .ok t)
      {r : SideEffectReceipt} (hr : r ∈ receipts) : (turnOf host policy receipts r).blocks =
        host.isBlocking (appendedOf host policy receipts r) := by
    obtain ⟨t, ht⟩ := hok r hr
    rw [appendedOf, turnOf_of_ok ht]
    exact (reconcileReceipt_cases hr ht).blocks_eq
  have hnodes (hok : ∀ r ∈ receipts, ∃ t, host.reconcileReceipt policy receipts r = .ok t)
      (node : String) : node ∈ ((receipts.map (turnOf host policy receipts)).foldl
        Resolution.take {}).blockedNodeIds ↔ node ≠ "" ∧ ∃ r ∈ receipts,
          host.isBlocking (appendedOf host policy receipts r) ∧
            (appendedOf host policy receipts r).nodeId = node := by
    rw [mem_blockedNodeIds_foldl_take, or_iff_right (Finset.notMem_empty node)]
    refine and_congr_right fun _ => ?_
    constructor
    · rintro ⟨t, ht, hblock, hnode⟩
      obtain ⟨r, hr, rfl⟩ := List.mem_map.mp ht
      exact ⟨r, hr, hblocks hok hr ▸ hblock, hnode⟩
    · rintro ⟨r, hr, hblock, hnode⟩
      exact ⟨_, List.mem_map_of_mem hr, (hblocks hok hr).trans hblock, hnode⟩
  have hloop : host.reconcileSideEffectReceipts policy receipts = .ok (out, blocked) ↔
      ∃ turns, receipts.mapM (host.reconcileReceipt policy receipts) = .ok turns ∧
        ((turns.foldl Resolution.take {}).resolved,
          (turns.foldl Resolution.take {}).blockedNodeIds) = (out, blocked) := by
    rw [reconcileSideEffectReceipts, bind_eq_ok_iff]
    simp only [pure_eq_ok, foldlM_eq_ok_iff, Except.ok.injEq]
    constructor
    · rintro ⟨_, ⟨turns, hturns, rfl⟩, h⟩
      exact ⟨turns, hturns, h⟩
    · rintro ⟨turns, hturns, h⟩
      exact ⟨_, ⟨turns, hturns, rfl⟩, h⟩
  have hresolved :
      ((receipts.map (turnOf host policy receipts)).foldl Resolution.take {}).resolved =
        firstOfKey SideEffectReceipt.terminalKey []
          (receipts.map (appendedOf host policy receipts)) := by
    rw [resolved_foldl_take, List.nil_append, List.map_map]
    rfl
  rw [hloop]
  simp only [mapM_eq_ok_iff_map fun _ _ => turnOf_of_ok, Prod.mk.injEq]
  constructor
  · rintro ⟨_, ⟨hok, rfl⟩, rfl, rfl⟩
    exact ⟨hok, hresolved, hnodes hok⟩
  · rintro ⟨hok, hout, hblocked⟩
    refine ⟨_, ⟨hok, rfl⟩, hresolved.trans hout.symm, ?_⟩
    ext node
    rw [hnodes hok, hblocked]

/-! ## The appended receipts -/

section Appended

variable (hok : ∀ r ∈ receipts, ∃ t, host.reconcileReceipt policy receipts r = .ok t)
  (hr : r ∈ receipts)
include hok hr

lemma turnOf_cases : TurnCase host policy receipts r (turnOf host policy receipts r) := by
  obtain ⟨t, ht⟩ := hok r hr
  rw [turnOf_of_ok ht]
  exact reconcileReceipt_cases hr ht

lemma appendedOf_idempotencyKey :
    (appendedOf host policy receipts r).idempotencyKey = r.idempotencyKey := by
  have hcase := turnOf_cases hok hr
  rw [appendedOf]
  generalize turnOf host policy receipts r = t at hcase ⊢
  cases hcase with
  | terminal s _ _ hkey _ => exact hkey
  | isOpen _ _ case =>
    cases case with
    | closed x hkey _ _ _ _ _ => exact hkey
    | running _ _ => rfl
    | intact _ => rfl

/-- In the place of a receipt that is not open stands a terminal receipt of the list. -/
lemma appendedOf_of_not_isOpen (hopen : ¬IsOpen receipts r) :
    appendedOf host policy receipts r ∈ receipts ∧ (appendedOf host policy receipts r).isTerminal ∧
      (r.isTerminal → appendedOf host policy receipts r = r) := by
  have hcase := turnOf_cases hok hr
  rw [appendedOf]
  generalize turnOf host policy receipts r = t at hcase ⊢
  cases hcase with
  | terminal s hmem hterminal _ hself => exact ⟨hmem, hterminal, hself⟩
  | isOpen hopen' _ _ => exact absurd hopen' hopen

lemma openCase_turnOf (hopen : IsOpen receipts r) :
    host.OpenCase policy r (turnOf host policy receipts r) := by
  obtain ⟨t, ht⟩ := hok r hr
  rw [turnOf_of_ok ht]
  rw [reconcileReceipt_of_isOpen hopen] at ht
  exact reconcileOpen_cases hopen.1 ht

/-- An open receipt that is left launched is appended as it is. -/
lemma appendedOf_of_isLeftLaunched (hopen : IsOpen receipts r) (hleft : host.isLeftLaunched r) :
    appendedOf host policy receipts r = r := by
  have hcase := openCase_turnOf hok hr hopen
  rw [appendedOf]
  generalize turnOf host policy receipts r = t at hcase ⊢
  cases hcase with
  | closed x _ _ _ _ _ hnot => exact absurd hleft (by simp [hnot])
  | running _ _ => rfl
  | intact _ => rfl

/-- Of any other open receipt a terminal one is appended, of the same node, action and key. -/
lemma appendedOf_of_closed (hopen : IsOpen receipts r) (hleft : host.isLeftLaunched r = false) :
    (appendedOf host policy receipts r).terminalKey = some (r.actionKind, r.idempotencyKey) ∧
      (appendedOf host policy receipts r).nodeId = r.nodeId ∧
      (appendedOf host policy receipts r).isUnsuccessful = host.isGivenUp r := by
  have hcase := openCase_turnOf hok hr hopen
  rw [appendedOf]
  generalize turnOf host policy receipts r = t at hcase ⊢
  cases hcase with
  | closed x hkey hkind hnode hterminal hunsuccessful _ =>
    refine ⟨?_, hnode, hunsuccessful⟩
    rw [SideEffectReceipt.terminalKey_of_isTerminal hterminal, hkey, hkind]
  | running hrunning _ => simp [isLeftLaunched, hrunning] at hleft
  | intact hintact => simp [isLeftLaunched, hintact] at hleft

/-- What is left launched under any policy, and how. -/
lemma left_of_launched (hlaunched : (appendedOf host policy receipts r).status = .launched) :
    IsOpen receipts r ∧ appendedOf host policy receipts r = r ∧
      (host.isRunningLaunch r ∧ policy ≠ .strict ∨ host.isPrewriteIntact r) := by
  have hnot : ¬(appendedOf host policy receipts r).isTerminal := by
    simp [SideEffectReceipt.isTerminal_iff, hlaunched]
  by_cases hopen : IsOpen receipts r
  · refine ⟨hopen, ?_⟩
    have hcase := openCase_turnOf hok hr hopen
    rw [appendedOf] at hnot ⊢
    generalize turnOf host policy receipts r = t at hcase hnot ⊢
    cases hcase with
    | closed x _ _ _ hterminal _ _ => exact absurd hterminal hnot
    | running hrunning hpolicy => exact ⟨rfl, .inl ⟨hrunning, hpolicy⟩⟩
    | intact hintact => exact ⟨rfl, .inr hintact⟩
  · exact absurd (appendedOf_of_not_isOpen hok hr hopen).2.1 hnot

end Appended

/-! ## Consistency -/

/-- Every action kind and idempotency key has at most one terminal receipt. -/
def TerminalUnique (receipts : List SideEffectReceipt) : Prop :=
  (receipts.filterMap SideEffectReceipt.terminalKey).Nodup

instance : Decidable (TerminalUnique receipts) := inferInstanceAs (Decidable (List.Nodup _))

/-- What is asked of the receipts and the blocked nodes that reconciliation returns. -/
structure Reconciled (host : ReconciliationHost) (policy : ReconciliationPolicy)
    (receipts out : List SideEffectReceipt) (blocked : Finset String) : Prop where
  keys_occur : ∀ r ∈ receipts, ∃ s ∈ out, s.idempotencyKey = r.idempotencyKey
  terminal_unique : TerminalUnique out
  terminal_kept : ∀ r ∈ receipts, r.isTerminal → r ∈ out
  left_launched : ∀ r ∈ out, r.status = .launched →
    host.isRunningLaunch r ∧ (r.nodeId ≠ "" → r.nodeId ∈ blocked) ∧ policy ≠ .strict ∨
    r.actionKind = .filesystemWrite ∧ ∃ writes, writeEntries r = .ok writes ∧ writes ≠ [] ∧
      ∀ entry ∈ writes, host.filesystemWriteMatchesEntry entry "before"
  blocked_exact : ∀ node, node ∈ blocked ↔ node ≠ "" ∧
    ∃ r ∈ out, (r.isUnsuccessful ∨ host.isRunningLaunch r) ∧ r.nodeId = node
  again : host.reconcileSideEffectReceipts policy out = .ok (out, blocked)

/-- A receipt that keeps the node blocked in the result: a failed or abandoned one of the list, an
async launch that is still running, or an open one that is given up, and before which no open
receipt of its action kind and key comes to an end. -/
def KeepsBlocked (host : ReconciliationHost) (receipts : List SideEffectReceipt) (node : String) :
    Prop :=
  ∃ before s after, receipts = before ++ s :: after ∧ s.nodeId = node ∧
    (s.isUnsuccessful ∨ IsOpen receipts s ∧ host.isRunningLaunch s ∨
      IsOpen receipts s ∧ host.isGivenUp s ∧
        ∀ q ∈ before, IsOpen receipts q → host.isLeftLaunched q = false →
          (q.actionKind, q.idempotencyKey) ≠ (s.actionKind, s.idempotencyKey))

/-- When receipts do not get in each other's way: an open receipt that stays launched shares its
idempotency key with no open one that does not, and the node of every open receipt that is given up
is kept blocked. -/
structure Separate (host : ReconciliationHost) (receipts : List SideEffectReceipt) : Prop where
  keys : ∀ r ∈ receipts, IsOpen receipts r → host.isLeftLaunched r →
    ∀ s ∈ receipts, IsOpen receipts s → s.idempotencyKey = r.idempotencyKey →
      host.isLeftLaunched s
  nodes : ∀ r ∈ receipts, IsOpen receipts r → host.isGivenUp r → r.nodeId ≠ "" →
    KeepsBlocked host receipts r.nodeId

lemma writes_of_isPrewriteIntact (h : host.isPrewriteIntact r) :
    r.actionKind = .filesystemWrite ∧ ∃ writes, writeEntries r = .ok writes ∧ writes ≠ [] ∧
      ∀ entry ∈ writes, host.filesystemWriteMatchesEntry entry "before" := by
  simp only [isPrewriteIntact, Bool.and_eq_true, decide_eq_true_eq] at h
  obtain ⟨⟨-, hkind⟩, hstate⟩ := h
  refine ⟨hkind, ?_⟩
  cases hwrites : writeEntries r with
  | error e =>
    rw [filesystemWriteReconciliationState, hwrites] at hstate
    cases hstate
  | ok writes =>
    rw [filesystemWriteReconciliationState, hwrites, ok_bind] at hstate
    refine ⟨writes, rfl, ?_⟩
    by_cases hempty : writes.isEmpty
    · rw [if_pos hempty] at hstate
      cases hstate
    · rw [if_neg hempty] at hstate
      split at hstate
      · cases hstate
      · split at hstate
        · exact ⟨by simpa using hempty, List.all_eq_true.mp ‹_›⟩
        · cases hstate

lemma isLeftLaunched_of_isRunningLaunch (hrunning : host.isRunningLaunch r) :
    host.isLeftLaunched r := by
  rw [isLeftLaunched, hrunning, Bool.true_or]

section Returned

variable (hunique : TerminalUnique receipts)
  (h : host.reconcileSideEffectReceipts policy receipts = .ok (out, blocked))
include h

/-- An appended receipt that is launched is in the result. -/
lemma mem_out_of_launched (hr : r ∈ receipts)
    (hlaunched : (appendedOf host policy receipts r).status = .launched) :
    appendedOf host policy receipts r ∈ out := by
  obtain ⟨-, rfl, -⟩ := reconcileSideEffectReceipts_eq_ok_iff.mp h
  exact mem_firstOfKey_of_none (SideEffectReceipt.terminalKey_eq_none_iff.mpr hlaunched)
    (List.mem_map_of_mem hr)

variable {x : SideEffectReceipt} {s : SideEffectReceipt}

lemma exists_of_mem_out (hx : x ∈ out) : ∃ r ∈ receipts, appendedOf host policy receipts r = x := by
  obtain ⟨-, rfl, -⟩ := reconcileSideEffectReceipts_eq_ok_iff.mp h
  exact List.mem_map.mp (mem_of_mem_firstOfKey hx)

lemma keys_occur (hr : r ∈ receipts) : ∃ s ∈ out, s.idempotencyKey = r.idempotencyKey := by
  have hok := (reconcileSideEffectReceipts_eq_ok_iff.mp h).1
  have hkey := appendedOf_idempotencyKey hok hr
  by_cases hterminal : (appendedOf host policy receipts r).isTerminal
  · obtain ⟨-, rfl, -⟩ := reconcileSideEffectReceipts_eq_ok_iff.mp h
    obtain ⟨s, hs, hsk⟩ := exists_mem_firstOfKey (List.mem_map_of_mem hr)
      (SideEffectReceipt.terminalKey_of_isTerminal hterminal) List.not_mem_nil
    rw [SideEffectReceipt.terminalKey_eq_some_iff, Prod.mk.injEq] at hsk
    exact ⟨s, hs, hsk.2.2.trans hkey⟩
  · have hlaunched : (appendedOf host policy receipts r).status = .launched := by
      simpa [SideEffectReceipt.isTerminal_iff] using hterminal
    exact ⟨_, mem_out_of_launched h hr hlaunched, hkey⟩

lemma terminalUnique_out : TerminalUnique out := by
  obtain ⟨-, rfl, -⟩ := reconcileSideEffectReceipts_eq_ok_iff.mp h
  exact nodup_keys_firstOfKey

/-- What is launched in the result was open, and has been left so. -/
lemma left_of_mem_out (hx : x ∈ out) (hlaunched : x.status = .launched) :
    x ∈ receipts ∧ IsOpen receipts x ∧ appendedOf host policy receipts x = x ∧
      (host.isRunningLaunch x ∧ policy ≠ .strict ∨ host.isPrewriteIntact x) := by
  obtain ⟨r, hr, rfl⟩ := exists_of_mem_out h hx
  have hok := (reconcileSideEffectReceipts_eq_ok_iff.mp h).1
  obtain ⟨hopen, heq, hleft⟩ := left_of_launched hok hr hlaunched
  rw [heq]
  exact ⟨hr, hopen, heq, hleft⟩

/-- The nodes of the result that are to block are blocked. -/
lemma mem_blocked_of_mem_out (hx : x ∈ out) (hblocking : host.isBlocking x)
    (hnode : x.nodeId ≠ "") : x.nodeId ∈ blocked := by
  obtain ⟨r, hr, rfl⟩ := exists_of_mem_out h hx
  exact ((reconcileSideEffectReceipts_eq_ok_iff.mp h).2.2 _).mpr ⟨hnode, r, hr, hblocking, rfl⟩

lemma left_launched_of_mem_out (hx : x ∈ out) (hlaunched : x.status = .launched) :
    host.isRunningLaunch x ∧ (x.nodeId ≠ "" → x.nodeId ∈ blocked) ∧ policy ≠ .strict ∨
    x.actionKind = .filesystemWrite ∧ ∃ writes, writeEntries x = .ok writes ∧ writes ≠ [] ∧
      ∀ entry ∈ writes, host.filesystemWriteMatchesEntry entry "before" := by
  obtain ⟨-, -, -, ⟨hrunning, hpolicy⟩ | hintact⟩ := left_of_mem_out h hx hlaunched
  · have hblocking : host.isBlocking x := by rw [isBlocking, hrunning, Bool.or_true]
    exact .inl ⟨hrunning, mem_blocked_of_mem_out h hx hblocking, hpolicy⟩
  · exact .inr (writes_of_isPrewriteIntact hintact)

include hunique in
/-- A terminal receipt of the list is the only appended one with its action kind and key. -/
lemma appendedOf_eq_of_terminalKey (hs : s ∈ receipts) (hr : r ∈ receipts)
    (hterminal : s.isTerminal)
    (hkey : (appendedOf host policy receipts r).terminalKey = s.terminalKey) :
    appendedOf host policy receipts r = s := by
  have hok := (reconcileSideEffectReceipts_eq_ok_iff.mp h).1
  have hskey := SideEffectReceipt.terminalKey_of_isTerminal hterminal
  rw [hskey] at hkey
  by_cases hopen : IsOpen receipts r
  · -- an open receipt shares its key with no terminal one
    have hidempotency := appendedOf_idempotencyKey hok hr
    rw [SideEffectReceipt.terminalKey_eq_some_iff, Prod.mk.injEq] at hkey
    exact absurd (hkey.2.2.symm.trans hidempotency) (hopen.2 s hs hterminal)
  · exact eq_of_nodup_keys hunique (appendedOf_of_not_isOpen hok hr hopen).1 hs hkey hskey

include hunique in
theorem terminal_kept (hs : s ∈ receipts) (hterminal : s.isTerminal) : s ∈ out := by
  have hok := (reconcileSideEffectReceipts_eq_ok_iff.mp h).1
  have hnot : ¬IsOpen receipts s := fun hopen => hopen.2 s hs hterminal rfl
  have hself := (appendedOf_of_not_isOpen hok hs hnot).2.2 hterminal
  obtain ⟨-, rfl, -⟩ := reconcileSideEffectReceipts_eq_ok_iff.mp h
  refine mem_firstOfKey_of_unique (List.mem_map.mpr ⟨s, hs, hself⟩)
    (SideEffectReceipt.terminalKey_of_isTerminal hterminal) List.not_mem_nil ?_
  intro b hb hbk
  obtain ⟨r, hr, rfl⟩ := List.mem_map.mp hb
  exact appendedOf_eq_of_terminalKey hunique h hs hr hterminal
    (hbk.trans (SideEffectReceipt.terminalKey_of_isTerminal hterminal).symm)

/-! ### The blocked nodes -/

include hunique in
/-- The receipts that block the node in the result, by what they were in the list. -/
lemma exists_blocking_iff {node : String} :
    (∃ x ∈ out, host.isBlocking x ∧ x.nodeId = node) ↔ KeepsBlocked host receipts node := by
  have hok := (reconcileSideEffectReceipts_eq_ok_iff.mp h).1
  constructor
  · rintro ⟨x, hx, hblocking, rfl⟩
    by_cases hlaunched : x.status = .launched
    · obtain ⟨hmem, hopen, -, -⟩ := left_of_mem_out h hx hlaunched
      rw [isBlocking, isUnsuccessful_of_launched hlaunched, Bool.false_or] at hblocking
      obtain ⟨before, after, heq⟩ := List.append_of_mem hmem
      exact ⟨before, x, after, heq, rfl, .inr (.inl ⟨hopen, hblocking⟩)⟩
    have hterminal : x.isTerminal := SideEffectReceipt.isTerminal_iff.mpr hlaunched
    rw [isBlocking, isRunningLaunch_of_isTerminal hterminal, Bool.or_false] at hblocking
    have hsplit : ∃ before s after, receipts = before ++ s :: after ∧
        appendedOf host policy receipts s = x ∧ ∀ q ∈ before,
          (appendedOf host policy receipts q).terminalKey ≠ x.terminalKey := by
      obtain ⟨-, rfl, -⟩ := reconcileSideEffectReceipts_eq_ok_iff.mp h
      obtain ⟨before', after', heq, hfirst⟩ := mem_firstOfKey_iff.mp hx
      obtain ⟨before, rest, rfl, rfl, hrest⟩ := List.map_eq_append_iff.mp heq
      obtain ⟨s, after, rfl, hs, -⟩ := List.map_eq_cons_iff.mp hrest
      have hkey := SideEffectReceipt.terminalKey_of_isTerminal hterminal
      refine ⟨before, s, after, rfl, hs, fun q hq => ?_⟩
      rw [hkey]
      exact (hfirst _ hkey).2 _ (List.mem_map_of_mem hq)
    obtain ⟨before, s, after, heq, hs, hbefore⟩ := hsplit
    have hmem : s ∈ receipts := by simp [heq]
    by_cases hopen : IsOpen receipts s
    · have hleft : host.isLeftLaunched s = false := by
        rw [Bool.eq_false_iff]
        intro hleft
        rw [appendedOf_of_isLeftLaunched hok hmem hopen hleft] at hs
        exact hlaunched (hs ▸ hopen.1)
      obtain ⟨hskey, hsnode, hsfate⟩ := appendedOf_of_closed hok hmem hopen hleft
      rw [hs] at hskey hsnode hsfate
      refine ⟨before, s, after, heq, hsnode.symm, .inr (.inr ⟨hopen, hsfate ▸ hblocking, ?_⟩)⟩
      intro q hq hqopen hqleft hsame
      have hqmem : q ∈ receipts := by simp [heq, hq]
      refine hbefore q hq ?_
      rw [(appendedOf_of_closed hok hqmem hqopen hqleft).1, hskey, hsame]
    · obtain ⟨hxmem, -, -⟩ := appendedOf_of_not_isOpen hok hmem hopen
      rw [hs] at hxmem
      obtain ⟨before, after, heq⟩ := List.append_of_mem hxmem
      exact ⟨before, x, after, heq, rfl, .inl hblocking⟩
  · rintro ⟨before, s, after, heq, rfl, hcase⟩
    have hmem : s ∈ receipts := by simp [heq]
    rcases hcase with hunsuccessful | ⟨hopen, hrunning⟩ | ⟨hopen, hgiven, hfirst⟩
    · have hterminal := SideEffectReceipt.isTerminal_of_isUnsuccessful hunsuccessful
      have hout := terminal_kept hunique h hmem hterminal
      exact ⟨s, hout, by rw [isBlocking, hunsuccessful, Bool.true_or], rfl⟩
    · have hself := appendedOf_of_isLeftLaunched hok hmem hopen
        (isLeftLaunched_of_isRunningLaunch hrunning)
      have hout := mem_out_of_launched h hmem (by rw [hself]; exact hopen.1)
      rw [hself] at hout
      exact ⟨s, hout, by rw [isBlocking, hrunning, Bool.or_true], rfl⟩
    · have hleft : host.isLeftLaunched s = false := by
        rw [isGivenUp, Bool.and_eq_true] at hgiven
        simpa using hgiven.2
      obtain ⟨hskey, hsnode, hsfate⟩ := appendedOf_of_closed hok hmem hopen hleft
      refine ⟨appendedOf host policy receipts s, ?_, ?_, hsnode⟩
      · obtain ⟨-, rfl, -⟩ := reconcileSideEffectReceipts_eq_ok_iff.mp h
        refine mem_firstOfKey_iff.mpr ⟨before.map (appendedOf host policy receipts),
          after.map (appendedOf host policy receipts), by simp [heq], fun key hkey => ?_⟩
        rw [hskey, Option.some.injEq] at hkey
        refine ⟨List.not_mem_nil, fun b hb hbkey => ?_⟩
        -- what is appended before `s` under its key would be of an open receipt that ends
        obtain ⟨q, hq, rfl⟩ := List.mem_map.mp hb
        have hqmem : q ∈ receipts := by simp [heq, hq]
        have hsame : (appendedOf host policy receipts q).idempotencyKey = s.idempotencyKey := by
          rw [SideEffectReceipt.terminalKey_eq_some_iff, ← hkey, Prod.mk.injEq] at hbkey
          exact hbkey.2.2
        by_cases hqopen : IsOpen receipts q
        · by_cases hqleft : host.isLeftLaunched q
          · rw [appendedOf_of_isLeftLaunched hok hqmem hqopen hqleft,
              SideEffectReceipt.terminalKey_eq_none_iff.mpr hqopen.1] at hbkey
            cases hbkey
          · rw [Bool.not_eq_true] at hqleft
            rw [(appendedOf_of_closed hok hqmem hqopen hqleft).1, ← hkey,
              Option.some.injEq] at hbkey
            exact hfirst q hq hqopen hqleft hbkey
        · obtain ⟨hqin, hqterminal, -⟩ := appendedOf_of_not_isOpen hok hqmem hqopen
          exact hopen.2 _ hqin hqterminal hsame
      · rw [isBlocking, hsfate, hgiven, Bool.true_or]

include hunique in
/-- The blocked nodes are those of the result when each node of a receipt given up is kept
blocked. -/
lemma blocked_exact_iff :
    (∀ node, node ∈ blocked ↔ node ≠ "" ∧ ∃ x ∈ out, host.isBlocking x ∧ x.nodeId = node) ↔
      ∀ r ∈ receipts, IsOpen receipts r → host.isGivenUp r → r.nodeId ≠ "" →
        KeepsBlocked host receipts r.nodeId := by
  obtain ⟨hok, -, hblocked⟩ := reconcileSideEffectReceipts_eq_ok_iff.mp h
  constructor
  · intro hexact r hr hopen hgiven hnode
    have hleft : host.isLeftLaunched r = false := by
      rw [isGivenUp, Bool.and_eq_true] at hgiven
      simpa using hgiven.2
    obtain ⟨-, hrnode, hrfate⟩ := appendedOf_of_closed hok hr hopen hleft
    have hmem : r.nodeId ∈ blocked :=
      (hblocked _).mpr ⟨hnode, r, hr, by rw [isBlocking, hrfate, hgiven, Bool.true_or], hrnode⟩
    exact (exists_blocking_iff hunique h).mp ((hexact _).mp hmem).2
  · intro hnodes node
    constructor
    · intro hmem
      obtain ⟨hnode, r, hr, hblocking, rfl⟩ := (hblocked node).mp hmem
      refine ⟨hnode, ?_⟩
      by_cases hopen : IsOpen receipts r
      · by_cases hleft : host.isLeftLaunched r
        · have hself := appendedOf_of_isLeftLaunched hok hr hopen hleft
          have hout := mem_out_of_launched h hr (by rw [hself]; exact hopen.1)
          exact ⟨_, hout, hblocking, rfl⟩
        · rw [Bool.not_eq_true] at hleft
          obtain ⟨hkey, hrnode, hrfate⟩ := appendedOf_of_closed hok hr hopen hleft
          have hterminal := (SideEffectReceipt.terminalKey_eq_some_iff.mp hkey).1
          have hgiven : host.isGivenUp r := by
            rw [← hrfate]
            simpa [isBlocking, isRunningLaunch_of_isTerminal hterminal] using hblocking
          rw [hrnode] at hnode ⊢
          exact (exists_blocking_iff hunique h).mpr (hnodes r hr hopen hgiven hnode)
      · obtain ⟨hmem, hterminal, -⟩ := appendedOf_of_not_isOpen hok hr hopen
        exact ⟨_, terminal_kept hunique h hmem hterminal, hblocking, rfl⟩
    · rintro ⟨hnode, x, hx, hblocking, rfl⟩
      exact mem_blocked_of_mem_out h hx hblocking hnode

/-! ### Reconciling again -/

/-- A receipt of the result is its own turn in the next reconciliation, unless it is launched and
its key now has a terminal receipt. -/
lemma reconcileReceipt_again (hx : x ∈ out) (hopen : x.status = .launched → IsOpen out x) :
    ∃ blocks, host.reconcileReceipt policy out x = .ok ⟨x, blocks⟩ := by
  have hok := (reconcileSideEffectReceipts_eq_ok_iff.mp h).1
  by_cases hlaunched : x.status = .launched
  · obtain ⟨hmem, hbefore, hself, -⟩ := left_of_mem_out h hx hlaunched
    obtain ⟨⟨y, blocks⟩, ht⟩ := hok x hmem
    have hy : y = x := by
      rw [appendedOf, turnOf_of_ok ht] at hself
      exact hself
    refine ⟨blocks, ?_⟩
    rw [reconcileReceipt_of_isOpen (hopen hlaunched), ← reconcileReceipt_of_isOpen hbefore, ht, hy]
  · exact ⟨_, reconcileReceipt_of_isTerminal (SideEffectReceipt.isTerminal_iff.mpr hlaunched)⟩

/-- A launched receipt of the result is open in it when no receipt with its key comes to an end. -/
lemma isOpen_out (hkeys : ∀ r ∈ receipts, IsOpen receipts r → host.isLeftLaunched r →
      ∀ s ∈ receipts, IsOpen receipts s → s.idempotencyKey = r.idempotencyKey →
        host.isLeftLaunched s) (hx : x ∈ out) (hlaunched : x.status = .launched) :
    IsOpen out x := by
  have hok := (reconcileSideEffectReceipts_eq_ok_iff.mp h).1
  obtain ⟨hmem, hopen, -, hleft⟩ := left_of_mem_out h hx hlaunched
  have hleft : host.isLeftLaunched x := by
    rcases hleft with ⟨hrunning, -⟩ | hintact
    · exact isLeftLaunched_of_isRunningLaunch hrunning
    · rw [isLeftLaunched, hintact, Bool.or_true]
  refine ⟨hlaunched, fun y hy hterminal hsame => ?_⟩
  obtain ⟨s, hs, rfl⟩ := exists_of_mem_out h hy
  rw [appendedOf_idempotencyKey hok hs] at hsame
  by_cases hsopen : IsOpen receipts s
  · rw [appendedOf_of_isLeftLaunched hok hs hsopen (hkeys x hmem hopen hleft s hs hsopen hsame)]
      at hterminal
    exact SideEffectReceipt.isTerminal_iff.mp hterminal hsopen.1
  · obtain ⟨hsin, -, -⟩ := appendedOf_of_not_isOpen hok hs hsopen
    have hskey := appendedOf_idempotencyKey hok hs
    exact hopen.2 _ hsin hterminal (hskey.trans hsame)

include hunique in
theorem again_of_separate (hseparate : Separate host receipts) :
    host.reconcileSideEffectReceipts policy out = .ok (out, blocked) := by
  have hturn {x : SideEffectReceipt} (hx : x ∈ out) :=
    reconcileReceipt_again h hx fun hlaunched => isOpen_out h hseparate.keys hx hlaunched
  have hself {x : SideEffectReceipt} (hx : x ∈ out) : appendedOf host policy out x = x := by
    obtain ⟨blocks, hx⟩ := hturn hx
    rw [appendedOf, turnOf_of_ok hx]
  refine reconcileSideEffectReceipts_eq_ok_iff.mpr ⟨fun x hx => ?_, ?_, fun node => ?_⟩
  · obtain ⟨blocks, hx⟩ := hturn hx
    exact ⟨_, hx⟩
  · rw [List.map_congr_left fun x hx => hself hx, List.map_id']
    exact (firstOfKey_eq_self (terminalUnique_out h) fun _ _ => List.not_mem_nil).symm
  · rw [(blocked_exact_iff hunique h).mpr hseparate.nodes node]
    refine and_congr_right fun _ => exists_congr fun x => and_congr_right fun hx => ?_
    rw [hself hx]

/-- When the next reconciliation gives the same receipts, a receipt that was left launched shares
its key with none that came to an end. -/
lemma keys_of_again (hagain : host.reconcileSideEffectReceipts policy out = .ok (out, blocked))
    (hr : r ∈ receipts) (hopen : IsOpen receipts r) (hleft : host.isLeftLaunched r)
    (hs : s ∈ receipts) (hsopen : IsOpen receipts s) (hsame : s.idempotencyKey = r.idempotencyKey) :
    host.isLeftLaunched s := by
  by_contra hsleft
  rw [Bool.not_eq_true] at hsleft
  have hok := (reconcileSideEffectReceipts_eq_ok_iff.mp h).1
  have hout : r ∈ out := by
    have hself := appendedOf_of_isLeftLaunched hok hr hopen hleft
    rw [← hself]
    exact mem_out_of_launched h hr (by rw [hself]; exact hopen.1)
  -- the terminal receipt that `s` left, or an earlier one of its action, is in the result
  obtain ⟨z, hz, hzkey⟩ : ∃ z ∈ out, z.terminalKey = some (s.actionKind, s.idempotencyKey) := by
    have hclosed := (appendedOf_of_closed hok hs hsopen hsleft).1
    obtain ⟨-, rfl, -⟩ := reconcileSideEffectReceipts_eq_ok_iff.mp h
    exact exists_mem_firstOfKey (List.mem_map_of_mem hs) hclosed List.not_mem_nil
  rw [SideEffectReceipt.terminalKey_eq_some_iff, Prod.mk.injEq] at hzkey
  have hopen' := (left_of_mem_out hagain hout hopen.1).2.1
  exact hopen'.2 z hz hzkey.1 (hzkey.2.2.trans hsame)

end Returned

/-! ## When reconciliation is consistent and stable -/

/-- Reconciliation keeps all keys and terminal receipts and leaves launched only what is running or
has not begun; it is exact about the blocked nodes, and gives the same when it is done again,
exactly when the receipts are separate. -/
theorem reconciled_iff_separate (hunique : TerminalUnique receipts)
    (h : host.reconcileSideEffectReceipts policy receipts = .ok (out, blocked)) :
    Reconciled host policy receipts out blocked ↔ Separate host receipts := by
  have hblocking (x : SideEffectReceipt) :
      x.isUnsuccessful ∨ host.isRunningLaunch x ↔ host.isBlocking x := by
    rw [isBlocking, Bool.or_eq_true]
  constructor
  · intro hreconciled
    refine ⟨fun r hr hopen hleft s hs hsopen hsame => ?_, ?_⟩
    · exact keys_of_again h hreconciled.again hr hopen hleft hs hsopen hsame
    · exact (blocked_exact_iff hunique h).mp (by
        simpa only [hblocking] using hreconciled.blocked_exact)
  · intro hseparate
    exact {
      keys_occur := fun r hr => keys_occur h hr
      terminal_unique := terminalUnique_out h
      terminal_kept := fun r hr hterminal => terminal_kept hunique h hr hterminal
      left_launched := fun r hr hlaunched => left_launched_of_mem_out h hr hlaunched
      blocked_exact := by
        simpa only [hblocking] using (blocked_exact_iff hunique h).mpr hseparate.nodes
      again := again_of_separate hunique h hseparate }

/-- An outside state in which nothing is known of any launch. -/
def silentHost : ReconciliationHost where
  str := fun _ => ""
  now := 0
  stableHash := id
  handles := fun _ => none
  reconcileAsyncHandle := none
  reconcileRequest := none
  files := fun _ => .absent

/-- A receipt of the provider request "r", made for a node. -/
def requestReceipt (actionKind : ActionKind) (status : ReceiptStatus) (nodeId : String) :
    SideEffectReceipt where
  sideEffectId := "provider-request.r"
  idempotencyKey := "r"
  actionKind := actionKind
  nodeId := nodeId
  status := status
  resultRef := []
  reconciliation := none

/-- A request and its completion. -/
theorem reconciled_iff_separate_completed :
    Reconciled silentHost .strict
      [requestReceipt .providerRequest .launched "n",
        requestReceipt .providerCompletion .completed "n"]
      [requestReceipt .providerCompletion .completed "n"] ∅ ↔
    Separate silentHost [requestReceipt .providerRequest .launched "n",
      requestReceipt .providerCompletion .completed "n"] :=
  reconciled_iff_separate (by decide) rfl

/-- One request launched for two nodes: both nodes are blocked, but the receipt of the second is
dropped, and the next reconciliation blocks the first only. -/
theorem dropped_receipt_blocks : TerminalUnique [requestReceipt .providerRequest .launched "n",
      requestReceipt .providerRequest .launched "m"] ∧
    ∃ out blocked, silentHost.reconcileSideEffectReceipts .bestEffort
      [requestReceipt .providerRequest .launched "n",
        requestReceipt .providerRequest .launched "m"] = .ok (out, blocked) ∧
      ¬Reconciled silentHost .bestEffort
        [requestReceipt .providerRequest .launched "n",
          requestReceipt .providerRequest .launched "m"] out blocked := by
  refine ⟨by decide, [terminalizeReceipt 0 (requestReceipt .providerRequest .launched "n")
    .abandoned .blockedBestEffort .resumeReconciliation
    [("node_id", .str "n"), ("action_kind", .str "provider_request")] []], {"m", "n"}, rfl, ?_⟩
  intro hreconciled
  obtain ⟨-, r, hr, -, hnode⟩ := (hreconciled.blocked_exact "m").mp (by decide)
  rw [List.mem_singleton.mp hr, terminalizeReceipt_nodeId] at hnode
  exact absurd hnode (by decide)

end ReconciliationHost

end Agintor.Kernel
