import Agintor.Search.HarnessMutator

/-!
# The lineage of transactions

`_validate_lineage_dependencies` and `_validate_reversion_order` of `search/harness_mutator.py`: what
may follow the retained transactions and what may be reverted. Of a transaction these read its id,
its dependencies and its source paths, which its inverse protects.
-/

namespace Agintor.Search

open Agintor.Core Agintor.Compiler Lib

structure SemanticTransaction where
  transactionId : String
  dependencyTransactionIds : List String
  touchedSourcePaths : List String

structure DependencyInvalidTransactionError where
  message : String

def transactionIds (transactions : List SemanticTransaction) : List String :=
  transactions.map (·.transactionId)

/-- Whether a path of one transaction overlaps a path of the other. -/
def overlaps (parent child : SemanticTransaction) : Bool :=
  parent.touchedSourcePaths.any fun parentPath =>
    child.touchedSourcePaths.any (pathsOverlap parentPath)

/-- `_validate_lineage_dependencies` -/
def validateLineageDependencies (proposal : SemanticTransaction)
    (retained : List SemanticTransaction) : Except DependencyInvalidTransactionError Unit := do
  let ids := transactionIds retained
  raiseIf (¬ids.Nodup) ⟨"retained transaction lineage contains duplicate ids"⟩
  raiseIf (proposal.transactionId ∈ ids) ⟨"transaction_id already exists in retained lineage"⟩
  let missing := proposal.dependencyTransactionIds.filter (· ∉ ids)
  raiseIf (missing ≠ [])
    ⟨"transaction dependencies are not retained: " ++ reprList (sortedUnique missing)⟩
  retained.forM fun transaction => raiseIf (overlaps transaction proposal = true ∧
      transaction.transactionId ∉ proposal.dependencyTransactionIds)
    ⟨"transaction must depend on retained mutations whose source paths it overlaps: " ++
      quoted transaction.transactionId⟩

/-- `_depends_transitively`. What is being visited has distinct ids, so that one more than the number
of transactions bounds the recursion. -/
def dependsTransitively (targetId : String) (byId : String → Option SemanticTransaction) :
    ℕ → List String → SemanticTransaction → Except DependencyInvalidTransactionError Bool
  | 0, _, _ => .error ⟨"retained transaction dependency graph contains a cycle"⟩
  | fuel + 1, visiting, transaction =>
    if targetId ∈ transaction.dependencyTransactionIds then .ok true
    else if transaction.transactionId ∈ visiting then
      .error ⟨"retained transaction dependency graph contains a cycle"⟩
    else transaction.dependencyTransactionIds.anyM fun dependencyId =>
      match byId dependencyId with
      | none => .ok false
      | some dependency =>
        dependsTransitively targetId byId fuel (transaction.transactionId :: visiting) dependency

/-- `_validate_reversion_order` -/
def validateReversionOrder (transaction : SemanticTransaction)
    (active : List SemanticTransaction) : Except DependencyInvalidTransactionError Unit := do
  let ids := transactionIds active
  raiseIf (¬ids.Nodup) ⟨"active transaction lineage contains duplicate ids"⟩
  raiseIf (transaction.transactionId ∉ ids) ⟨"transaction to revert is not active"⟩
  let later := active.drop (ids.idxOf transaction.transactionId + 1)
  later.forM fun descendant => do
    let dependent ← dependsTransitively transaction.transactionId
      (fun id => active.find? (·.transactionId = id)) (active.length + 1) [] descendant
    raiseIf (dependent = true ∨ overlaps transaction descendant = true)
      ⟨"dependent or overlapping descendants must be reverted first: " ++
        quoted descendant.transactionId⟩

/-! ## Runs -/

inductive LineageStep
  | apply (proposal : SemanticTransaction)
  | revert (transaction : SemanticTransaction)

/-- An accepted transaction is retained, and an accepted reversion takes its transaction away. -/
def LineageStep.next (lineage : List SemanticTransaction) : LineageStep → List SemanticTransaction
  | apply proposal =>
    match validateLineageDependencies proposal lineage with
    | .ok _ => lineage ++ [proposal]
    | .error _ => lineage
  | revert transaction =>
    match validateReversionOrder transaction lineage with
    | .ok _ => lineage.filter (·.transactionId ≠ transaction.transactionId)
    | .error _ => lineage

/-- The dependencies of each transaction are active and stand before it, and it depends on whatever
it overlaps. -/
structure Closed (lineage : List SemanticTransaction) : Prop where
  unique : (transactionIds lineage).Nodup
  active : ∀ transaction ∈ lineage, ∀ id ∈ transaction.dependencyTransactionIds,
    id ∈ transactionIds lineage ∧ id ≠ transaction.transactionId
  order : lineage.Pairwise fun parent child =>
    child.transactionId ∉ parent.dependencyTransactionIds ∧
      (overlaps parent child = true → parent.transactionId ∈ child.dependencyTransactionIds)

namespace Closed

variable {lineage before after : List SemanticTransaction} {transaction other : SemanticTransaction}
  (h : Closed lineage)
include h

lemma apply (hok : validateLineageDependencies transaction lineage = .ok ()) :
    Closed (lineage ++ [transaction]) := by
  simp only [validateLineageDependencies, bind_eq_ok_iff, raiseIf_eq_ok_iff, forM_eq_ok_iff,
    not_not, List.filter_eq_nil_iff, decide_eq_true_iff] at hok
  obtain ⟨_, hunique, _, hfresh, _, hretained, hdeclared⟩ := hok
  obtain ⟨-, hactive, horder⟩ := h
  constructor <;> grind [transactionIds]

/-- What a transaction names stands before it. -/
lemma mem_before (heq : lineage = before ++ transaction :: after) (hother : other ∈ lineage)
    (hnamed : other.transactionId ∈ transaction.dependencyTransactionIds) : other ∈ before := by
  have horder := h.order
  rw [heq, List.pairwise_append, List.pairwise_cons] at horder
  rw [heq, List.mem_append, List.mem_cons] at hother
  rcases hother with hbefore | rfl | hafter
  · exact hbefore
  · exact absurd rfl (h.active _ (by simp [heq]) _ hnamed).2
  · exact absurd hnamed (horder.2.1.1 other hafter).1

/-- Where nothing names the target, no search finds it or meets a cycle. -/
lemma dependsTransitively_eq_false {targetId : String}
    (hunnamed : ∀ other ∈ lineage, targetId ∉ other.dependencyTransactionIds) {fuel : ℕ}
    {visiting : List String} (heq : lineage = before ++ transaction :: after)
    (hfuel : before.length < fuel)
    (hvisiting : ∀ id ∈ visiting, id ∉ transactionIds (before ++ [transaction])) :
    dependsTransitively targetId (fun id => lineage.find? (·.transactionId = id)) fuel visiting
      transaction = .ok false := by
  induction fuel generalizing before after visiting transaction with
  | zero => omega
  | succ fuel ih =>
    have hunique := h.unique
    rw [dependsTransitively, if_neg (hunnamed _ (by simp [heq])), if_neg (by grind [transactionIds]),
      ← List.map_id transaction.dependencyTransactionIds]
    refine (anyM_map_eq_any (g := fun _ => false) fun id hid => ?_).trans (by simp)
    dsimp only [id_eq]
    cases hfind : lineage.find? (·.transactionId = id) with
    | none => rfl
    | some dependency =>
      obtain rfl : dependency.transactionId = id := by simpa using List.find?_some hfind
      have hbefore := h.mem_before heq (List.mem_of_find?_eq_some hfind) hid
      obtain ⟨front, back, rfl⟩ := List.append_of_mem hbefore
      refine ih (by rw [heq, List.append_assoc, List.cons_append]) (by simp at hfuel; omega) ?_
      grind [transactionIds]

/-- The descendants of a transaction are those after it. -/
lemma drop_idxOf (heq : lineage = before ++ transaction :: after) :
    lineage.drop ((transactionIds lineage).idxOf transaction.transactionId + 1) = after := by
  have hunique := h.unique
  have hidx : (transactionIds lineage).idxOf transaction.transactionId = before.length := by
    grind [transactionIds]
  rw [hidx, heq]
  simp

lemma unnamed_of_accepted (hok : validateReversionOrder transaction lineage = .ok ())
    (hother : other ∈ lineage) : transaction.transactionId ∉ other.dependencyTransactionIds := by
  intro hnames
  simp only [validateReversionOrder, bind_eq_ok_iff, raiseIf_eq_ok_iff, not_not,
    forM_eq_ok_iff] at hok
  obtain ⟨_, -, _, hin, hlater⟩ := hok
  obtain ⟨target, htarget, hid⟩ := List.mem_map.mp hin
  rw [← hid] at hnames hlater
  obtain ⟨before, after, heq⟩ := List.append_of_mem hother
  obtain ⟨front, back, rfl⟩ := List.append_of_mem (h.mem_before heq htarget hnames)
  rw [List.append_assoc, List.cons_append] at heq
  rw [h.drop_idxOf heq] at hlater
  obtain ⟨dependent, hdependent, hnot⟩ := hlater other (by simp)
  rw [dependsTransitively, if_pos hnames] at hdependent
  cases hdependent
  exact hnot (.inl rfl)

lemma accepted_of_unnamed (hmem : transaction ∈ lineage)
    (hunnamed : ∀ other ∈ lineage, transaction.transactionId ∉ other.dependencyTransactionIds) :
    validateReversionOrder transaction lineage = .ok () := by
  simp only [validateReversionOrder, bind_eq_ok_iff, raiseIf_eq_ok_iff, not_not, forM_eq_ok_iff]
  refine ⟨(), h.unique, (), List.mem_map_of_mem hmem, fun descendant hlater => ⟨false, ?_, ?_⟩⟩
  · obtain ⟨before, after, heq⟩ := List.append_of_mem (List.mem_of_mem_drop hlater)
    have hfuel : before.length < lineage.length + 1 := by
      rw [heq, List.length_append]
      omega
    exact h.dependsTransitively_eq_false hunnamed heq hfuel (by simp)
  · obtain ⟨before, after, heq⟩ := List.append_of_mem hmem
    rw [h.drop_idxOf heq] at hlater
    have horder := h.order
    rw [heq, List.pairwise_append, List.pairwise_cons] at horder
    grind

lemma revert (hok : validateReversionOrder transaction lineage = .ok ()) :
    Closed (lineage.filter (·.transactionId ≠ transaction.transactionId)) := by
  refine ⟨h.unique.sublist (List.filter_sublist.map _), ?_, h.order.sublist List.filter_sublist⟩
  have hactive := h.active
  have hunnamed : ∀ other ∈ lineage, transaction.transactionId ∉ other.dependencyTransactionIds :=
    fun _ => h.unnamed_of_accepted hok
  grind [transactionIds]

lemma next (step : LineageStep) : Closed (step.next lineage) := by
  unfold LineageStep.next
  split
  · split
    · exact h.apply ‹_›
    · exact h
  · split
    · exact h.revert ‹_›
    · exact h

end Closed

/-- Through any transactions and reversions a lineage stays closed under dependencies, and what may
be reverted is exactly what no active transaction names. -/
theorem lineage_closed (steps : List LineageStep) : Closed (steps.foldl LineageStep.next []) ∧
    ∀ transaction ∈ steps.foldl LineageStep.next [],
      validateReversionOrder transaction (steps.foldl LineageStep.next []) = .ok () ↔
        ∀ other ∈ steps.foldl LineageStep.next [],
          transaction.transactionId ∉ other.dependencyTransactionIds := by
  have hclosed : Closed (steps.foldl LineageStep.next []) :=
    List.foldlRecOn steps _ ⟨List.nodup_nil, by simp, .nil⟩ fun _ h step _ => h.next step
  exact ⟨hclosed, fun transaction hmem =>
    ⟨fun hok _ => hclosed.unnamed_of_accepted hok, hclosed.accepted_of_unnamed hmem⟩⟩

end Agintor.Search
