import Agintor.Kernel.FrameExecution

/-!
# Child frames and the root frame

A child frame stores the output of its nodes a second time. This changes nothing as long as the
output of a frame with one node is no object with the key of the node, and the output of a frame
whose nodes share one key is no object with fields; then child frames, whatever they are, end as the
root frame does. Where the nodes have keys of their own, that is the only case in which they do.
-/

namespace Agintor.Kernel

open Lib Core Contracts

variable {D : Type}

/-- Whether a value is an object with a key. -/
def holdsKey (key : String) : Json → Bool
  | .object fields => (Json.get? key fields).isSome
  | _ => false

/-- Whether a value is an object with fields. -/
def hasFields : Json → Bool
  | .object fields => !fields.isEmpty
  | _ => false

/-- What a frame with one node stores: the field under the key of the node, if there is one. -/
def storedAgain (key : String) (output : Json) : Json :=
  match output with
  | .object fields => Json.getD key output fields
  | _ => output

/-- The value of a key is a part of the object. -/
lemma ne_object_of_get? {key : String} {value : Json} {fields : List (String × Json)}
    (h : Json.get? key fields = some value) : value ≠ .object fields := by
  obtain ⟨field, hfield, rfl⟩ := Option.map_eq_some_iff.mp h
  have hmem : sizeOf field < sizeOf fields :=
    List.sizeOf_lt_of_mem (List.mem_of_find?_eq_some hfield)
  have hpart : sizeOf field = 1 + sizeOf field.1 + sizeOf field.2 := by
    cases field
    simp
  intro heq
  have hsize : sizeOf field.2 = 1 + sizeOf fields := by
    rw [heq]
    simp
  omega

/-- An output is stored as it is if it is no object with the key. -/
lemma storedAgain_eq_iff {key : String} {output : Json} :
    storedAgain key output = output ↔ holdsKey key output = false := by
  cases output with
  | object fields =>
    show Json.getD key (.object fields) fields = .object fields ↔
      (Json.get? key fields).isSome = false
    cases hget : Json.get? key fields with
    | none => simp [Json.getD, hget]
    | some value => simp [Json.getD, hget, ne_object_of_get? hget]
  | _ => simp [storedAgain, holdsKey]

namespace NodeExecutor

variable (E : NodeExecutor D)

/-! ## What a node does -/

/-- The result of a node. -/
def resultOf (state : ExecutionState) (node : PlanNode D) : Json :=
  (reusedArtifact state node).getD
    (if state.planNodeStatus.get? node.nodeId = some "recovery_blocked" then E.blockedOutput node
    else E.output state.artifacts node)

/-- The state after a node. -/
def advance (state : ExecutionState) (node : PlanNode D) : ExecutionState where
  artifacts := state.artifacts.set node.outputKey (E.resultOf state node)
  planNodeStatus :=
    if (reusedArtifact state node).isSome ∨
        state.planNodeStatus.get? node.nodeId = some "recovery_blocked" then state.planNodeStatus
    else state.planNodeStatus.set node.nodeId "completed"

lemma executeOperation_eq (results : Dict String Json) (state : ExecutionState)
    (node : PlanNode D) : E.executeOperation results state node =
      (results.set node.outputKey (E.resultOf state node), E.advance state node) := by
  unfold executeOperation advance resultOf
  cases hreused : reusedArtifact state node with
  | some artifact =>
    have hstored : state.artifacts.get? node.outputKey = some artifact := by
      unfold reusedArtifact at hreused
      split at hreused
      · exact hreused
      · exact absurd hreused (by simp)
    simp [Dict.set_eq_self hstored]
  | none =>
    by_cases hblocked : state.planNodeStatus.get? node.nodeId = some "recovery_blocked"
    · simp [hblocked]
    · simp [hblocked]

/-! ## What a frame does -/

section Frame

variable (state : ExecutionState)

lemma executeEach_append (before : List (PlanNode D)) (last : PlanNode D) :
    E.executeEach state (before ++ [last]) =
      E.executeOperation (E.executeEach state before).1 (E.executeEach state before).2 last := by
  rw [executeEach, List.foldl_append]
  rfl

lemma state_executeEach (operations : List (PlanNode D)) :
    (E.executeEach state operations).2 = operations.foldl E.advance state := by
  induction operations using List.reverseRecOn with
  | nil => rfl
  | append_singleton before last ih =>
    rw [executeEach_append, executeOperation_eq, ih, List.foldl_append]
    rfl

lemma results_append (before : List (PlanNode D)) (last : PlanNode D) :
    (E.executeEach state (before ++ [last])).1 = (E.executeEach state before).1.set
      last.outputKey (E.resultOf (before.foldl E.advance state) last) := by
  rw [executeEach_append, executeOperation_eq, state_executeEach]

variable {operations : List (PlanNode D)} {key : String}

/-- The results are artifacts. -/
lemma get?_artifacts_of_results {value : Json}
    (h : (E.executeEach state operations).1.get? key = some value) :
    (operations.foldl E.advance state).artifacts.get? key = some value := by
  induction operations using List.reverseRecOn with
  | nil => exact absurd h (by simp [executeEach])
  | append_singleton before last ih =>
    rw [results_append, Dict.get?_set] at h
    rw [List.foldl_append]
    show ((before.foldl E.advance state).artifacts.set last.outputKey _).get? key = some value
    rw [Dict.get?_set]
    by_cases hlast : last.outputKey = key
    · rwa [if_pos hlast] at h ⊢
    · rw [if_neg hlast] at h ⊢
      exact ih h

lemma mem_keys_results :
    key ∈ (E.executeEach state operations).1.keys ↔ key ∈ operations.map (·.outputKey) := by
  induction operations using List.reverseRecOn with
  | nil => simp [executeEach, Dict.keys, Dict.empty]
  | append_singleton before last ih =>
    rw [results_append, Dict.mem_keys_set, ih, List.map_append, List.mem_append, or_comm]
    simp

/-- The last node of a frame has its result in the results. -/
lemma get?_results_last (before : List (PlanNode D)) (last : PlanNode D) :
    (E.executeEach state (before ++ [last])).1.get? last.outputKey =
      some (E.resultOf (before.foldl E.advance state) last) := by
  rw [results_append, Dict.get?_set, if_pos rfl]

lemma runChildFrame_eq (operations : List (PlanNode D)) :
    E.runChildFrame state operations = {
      artifacts := storeOutputArtifacts (operations.foldl E.advance state).artifacts operations
        (outputOf (E.executeEach state operations).1)
      planNodeStatus := (operations.foldl E.advance state).planNodeStatus } := by
  rw [← state_executeEach]
  rfl

/-- No frame touches the artifacts of other keys. -/
lemma get?_artifacts_foldl_advance (hkey : key ∉ operations.map (·.outputKey)) :
    (operations.foldl E.advance state).artifacts.get? key = state.artifacts.get? key := by
  induction operations using List.reverseRecOn with
  | nil => rfl
  | append_singleton before last ih =>
    rw [List.map_append, List.mem_append, not_or] at hkey
    have hlast : last.outputKey ≠ key := fun h => hkey.2 (by simp [h])
    rw [List.foldl_append]
    show ((before.foldl E.advance state).artifacts.set last.outputKey _).get? key = _
    rw [Dict.get?_set, if_neg hlast]
    exact ih hkey.1

end Frame

/-! ## What the second store changes -/

/-- The output of a frame stays what it is when it is stored once more. -/
structure KeepsOutput (state : ExecutionState) (operations : List (PlanNode D)) : Prop where
  /-- The result of the only node is no object with the key of the node. -/
  single : ∀ node, operations = [node] → holdsKey node.outputKey (E.resultOf state node) = false
  /-- The last result of several nodes with one key is no object with fields. -/
  shared : ∀ before last, operations = before ++ [last] → before ≠ [] →
    (∀ node ∈ before, node.outputKey = last.outputKey) →
    hasFields (E.resultOf (before.foldl E.advance state) last) = false

variable {state : ExecutionState} {operations : List (PlanNode D)}

/-- A frame with one node shares its key with no other. -/
lemma keepsOutput_singleton_iff {node : PlanNode D} :
    E.KeepsOutput state [node] ↔ holdsKey node.outputKey (E.resultOf state node) = false := by
  refine ⟨fun h => h.single node rfl, fun h => ⟨fun other heq => ?_, fun before last heq hne => ?_⟩⟩
  · cases heq
    exact h
  · have hlength := congrArg List.length heq
    rw [List.length_append, List.length_singleton, List.length_singleton] at hlength
    exact absurd (List.length_eq_zero_iff.mp (by omega)) hne

/-- No frame gives an output that the second store changes. -/
def KeepsOutputs : List (List (PlanNode D)) → ExecutionState → Prop
  | [], _ => True
  | frame :: frames, state =>
    E.KeepsOutput state frame ∧ KeepsOutputs frames (frame.foldl E.advance state)

/-- Storing fields that are artifacts changes nothing. -/
lemma foldl_set_eq_self {artifacts : Dict String Json} {fields : List (String × Json)}
    (h : ∀ field ∈ fields, artifacts.get? field.1 = some field.2) :
    fields.foldl (fun artifacts field => artifacts.set field.1 field.2) artifacts = artifacts := by
  induction fields with
  | nil => rfl
  | cons field fields ih =>
    rw [List.foldl_cons, Dict.set_eq_self (h field List.mem_cons_self)]
    exact ih fun other hother => h other (List.mem_cons_of_mem _ hother)

/-- The only result, or all of them. -/
lemma outputOf_cases (results : Dict String Json) :
    (∃ key, results.entries = [(key, outputOf results)]) ∨
      outputOf results = .object results.entries := by
  unfold outputOf
  split
  · next key result hentries => exact .inl ⟨key, hentries⟩
  · exact .inr rfl

lemma storeOutputArtifacts_of_one (artifacts : Dict String Json) (node : PlanNode D)
    (output : Json) : storeOutputArtifacts artifacts [node] output =
      artifacts.set node.outputKey (storedAgain node.outputKey output) := by
  cases output <;> rfl

lemma storeOutputArtifacts_of_two (artifacts : Dict String Json) (first second : PlanNode D)
    (rest : List (PlanNode D)) {output : Json} (h : ∀ fields, output = .object fields →
      ∀ field ∈ fields, artifacts.get? field.1 = some field.2) :
    storeOutputArtifacts artifacts (first :: second :: rest) output = artifacts := by
  cases output with
  | object fields => exact foldl_set_eq_self (h fields rfl)
  | _ => rfl

lemma outputOf_of_one (state : ExecutionState) (node : PlanNode D) :
    outputOf (E.executeEach state [node]).1 = E.resultOf state node := by
  have heach : E.executeEach state [node] = E.executeOperation Dict.empty state node := rfl
  rw [heach, executeOperation_eq]
  rfl

/-- The artifacts after a frame with one node. -/
lemma artifacts_runChildFrame_of_one (state : ExecutionState) (node : PlanNode D) :
    (E.runChildFrame state [node]).artifacts =
      state.artifacts.set node.outputKey (storedAgain node.outputKey (E.resultOf state node)) := by
  rw [runChildFrame_eq, storeOutputArtifacts_of_one, outputOf_of_one]
  exact Dict.set_set _ _ _ _

/-- A frame stores its output as it is, and so leaves what the nodes leave. -/
lemma runChildFrame_of_keepsOutput (h : E.KeepsOutput state operations) :
    E.runChildFrame state operations = operations.foldl E.advance state := by
  rw [runChildFrame_eq]
  suffices hstore : storeOutputArtifacts (operations.foldl E.advance state).artifacts operations
      (outputOf (E.executeEach state operations).1) =
        (operations.foldl E.advance state).artifacts by rw [hstore]
  match operations, h with
  | [], _ => rfl
  | [node], h =>
    rw [storeOutputArtifacts_of_one, outputOf_of_one, storedAgain_eq_iff.mpr (h.single node rfl)]
    exact Dict.set_set _ _ _ _
  | first :: second :: rest, h =>
    refine storeOutputArtifacts_of_two _ first second rest fun fields hfields field hfield => ?_
    refine E.get?_artifacts_of_results state ?_
    rcases outputOf_cases (E.executeEach state (first :: second :: rest)).1 with
      ⟨key, hentries⟩ | hall
    · -- one result: all nodes have its key, and it is that of the last node
      have hkeys : ∀ node ∈ first :: second :: rest, node.outputKey = key := by
        intro node hnode
        have hkey := (E.mem_keys_results state).mpr (List.mem_map_of_mem hnode)
        rw [Dict.keys, hentries] at hkey
        simpa using hkey
      obtain ⟨before, last, heq⟩ : ∃ before last, first :: second :: rest = before ++ [last] :=
        (List.eq_nil_or_concat' _).resolve_left (List.cons_ne_nil _ _)
      have hresult := E.get?_results_last state before last
      rw [← heq, Dict.get?_eq_some_iff, hentries, List.mem_singleton, Prod.mk.injEq] at hresult
      have hlast : ∀ node ∈ before, node.outputKey = last.outputKey := by
        intro node hnode
        rw [hresult.1]
        exact hkeys node (by simp [heq, hnode])
      have hnone := h.shared before last heq (fun hnil => by simp [hnil] at heq) hlast
      rw [hresult.2, hfields] at hnone
      have hnil : fields = [] := by simpa [hasFields] using hnone
      exact absurd hfield (by simp [hnil])
    · rw [hall] at hfields
      rw [Dict.get?_eq_some_iff]
      cases hfields
      exact hfield

variable {frames : List (List (PlanNode D))}

/-- Child frames that keep their outputs do what their nodes do one after another. -/
lemma runVertical_of_keepsOutputs (h : E.KeepsOutputs frames state) :
    E.runVertical frames state = frames.flatten.foldl E.advance state := by
  induction frames generalizing state with
  | nil => rfl
  | cons frame frames ih =>
    rw [List.flatten_cons, List.foldl_append, ← ih h.2, ← E.runChildFrame_of_keepsOutput h.1]
    rfl

/-! ## Nodes with keys of their own -/

/-- Among nodes with keys of their own, only frames with one node can change their output. -/
lemma keepsOutput_of_nodup (hkeys : (operations.map (·.outputKey)).Nodup)
    (hone : ∀ node, operations ≠ [node]) : E.KeepsOutput state operations := by
  refine ⟨fun node heq => absurd heq (hone node), fun before last heq hne hsame => ?_⟩
  obtain ⟨node, hnode⟩ := List.exists_mem_of_ne_nil before hne
  rw [heq, List.map_append, List.nodup_append] at hkeys
  exact absurd (hsame node hnode)
    (hkeys.2.2 _ (List.mem_map_of_mem hnode) _ (by simp))

/-- A child frame leaves the artifacts of other keys alone. -/
lemma get?_artifacts_runChildFrame {key : String} (hkeys : (operations.map (·.outputKey)).Nodup)
    (hkey : key ∉ operations.map (·.outputKey)) :
    (E.runChildFrame state operations).artifacts.get? key = state.artifacts.get? key := by
  by_cases hone : ∃ node, operations = [node]
  · obtain ⟨node, rfl⟩ := hone
    have hne : node.outputKey ≠ key := fun h => hkey (by simp [h])
    rw [artifacts_runChildFrame_of_one, Dict.get?_set, if_neg hne]
  · have hkeep : E.KeepsOutput state operations :=
      E.keepsOutput_of_nodup hkeys fun node heq => hone ⟨node, heq⟩
    rw [runChildFrame_of_keepsOutput E hkeep]
    exact E.get?_artifacts_foldl_advance state hkey

lemma get?_artifacts_runVertical {key : String} (hkeys : (frames.flatten.map (·.outputKey)).Nodup)
    (hkey : key ∉ frames.flatten.map (·.outputKey)) :
    (E.runVertical frames state).artifacts.get? key = state.artifacts.get? key := by
  induction frames generalizing state with
  | nil => rfl
  | cons frame frames ih =>
    rw [List.flatten_cons, List.map_append] at hkeys hkey
    rw [List.mem_append, not_or] at hkey
    rw [List.nodup_append] at hkeys
    show (E.runVertical frames (E.runChildFrame state frame)).artifacts.get? key = _
    rw [ih hkeys.2.1 hkey.2, E.get?_artifacts_runChildFrame hkeys.1 hkey.1]

/-- Child frames that end as their nodes do keep every output: an artifact that a frame changes is
not written again. -/
lemma keepsOutputs_of_sameOutcome (hkeys : (frames.flatten.map (·.outputKey)).Nodup)
    (h : SameOutcome (E.runVertical frames state) (frames.flatten.foldl E.advance state)) :
    E.KeepsOutputs frames state := by
  induction frames generalizing state with
  | nil => trivial
  | cons frame frames ih =>
    rw [List.flatten_cons, List.map_append, List.nodup_append] at hkeys
    rw [List.flatten_cons, List.foldl_append] at h
    have hkeep : E.KeepsOutput state frame := by
      by_cases hone : ∃ node, frame = [node]
      · obtain ⟨node, rfl⟩ := hone
        have hlater : node.outputKey ∉ frames.flatten.map (·.outputKey) := fun hmem =>
          hkeys.2.2 node.outputKey (by simp) node.outputKey hmem rfl
        have hstored : (E.runVertical ([node] :: frames) state).artifacts.get? node.outputKey =
            some (storedAgain node.outputKey (E.resultOf state node)) := by
          show (E.runVertical frames (E.runChildFrame state [node])).artifacts.get? _ = _
          rw [E.get?_artifacts_runVertical hkeys.2.1 hlater, artifacts_runChildFrame_of_one,
            Dict.get?_set, if_pos rfl]
        have hresult :
            (frames.flatten.foldl E.advance ([node].foldl E.advance state)).artifacts.get?
              node.outputKey = some (E.resultOf state node) := by
          rw [E.get?_artifacts_foldl_advance _ hlater]
          show (state.artifacts.set node.outputKey _).get? node.outputKey = _
          rw [Dict.get?_set, if_pos rfl]
        have hsame := h.1 node.outputKey
        rw [hstored, hresult, Option.some.injEq, storedAgain_eq_iff] at hsame
        exact E.keepsOutput_singleton_iff.mpr hsame
      · exact E.keepsOutput_of_nodup hkeys.1 fun node heq => hone ⟨node, heq⟩
    refine ⟨hkeep, ih hkeys.2.1 ?_⟩
    rw [← E.runChildFrame_of_keepsOutput hkeep] at h ⊢
    exact h

/-! ## The two modes -/

lemma runSingle_eq (nodes : List (PlanNode D)) (state : ExecutionState) :
    E.runSingle nodes state = (orderedExecutionNodes nodes).foldl E.advance state :=
  E.state_executeEach state _

/-- Child frames end as the root frame does if they keep their outputs, and, if the nodes have keys
of their own, only then. -/
theorem runVertical_agrees_iff {nodes : List (PlanNode D)} {frames : List (List (PlanNode D))}
    (hframes : frames.flatten = orderedExecutionNodes nodes) (state : ExecutionState) :
    (E.KeepsOutputs frames state → E.runVertical frames state = E.runSingle nodes state) ∧
      (((orderedExecutionNodes nodes).map (·.outputKey)).Nodup →
        (SameOutcome (E.runVertical frames state) (E.runSingle nodes state) ↔
          E.KeepsOutputs frames state)) := by
  rw [runSingle_eq, ← hframes]
  have hagree : E.KeepsOutputs frames state →
      E.runVertical frames state = frames.flatten.foldl E.advance state :=
    E.runVertical_of_keepsOutputs
  refine ⟨hagree, fun hkeys => ⟨E.keepsOutputs_of_sameOutcome hkeys, fun hkeep => ?_⟩⟩
  rw [hagree hkeep]
  exact ⟨fun _ => rfl, fun _ => rfl⟩

/-! ## A plan with two nodes -/

/-- A node that waits for others. -/
def nodeWaitingFor (nodeId : String) (dependencies : List String) : PlanNode Unit where
  nodeId := nodeId
  nodeKind := .builtinOp
  instruction := nodeId
  outputKey := nodeId
  dependencies := dependencies

/-- Nodes whose output is a number. -/
def counting : NodeExecutor Unit where
  operationKind := fun node => node.nodeKind.name
  output := fun artifacts _ => .int artifacts.entries.length

def emptyState : ExecutionState := ⟨Dict.empty, Dict.empty⟩

/-- Numbers stay what they are. -/
theorem runVertical_agrees_iff_chain :
    counting.runVertical [[nodeWaitingFor "a" []], [nodeWaitingFor "b" ["a"]]] emptyState =
        counting.runSingle [nodeWaitingFor "b" ["a"], nodeWaitingFor "a" []] emptyState ∧
      SameOutcome
        (counting.runVertical [[nodeWaitingFor "a" []], [nodeWaitingFor "b" ["a"]]] emptyState)
        (counting.runSingle [nodeWaitingFor "b" ["a"], nodeWaitingFor "a" []] emptyState) := by
  have horder : [[nodeWaitingFor "a" []], [nodeWaitingFor "b" ["a"]]].flatten =
      orderedExecutionNodes [nodeWaitingFor "b" ["a"], nodeWaitingFor "a" []] := by
    decide
  have hkeys : ((orderedExecutionNodes
      [nodeWaitingFor "b" ["a"], nodeWaitingFor "a" []]).map (·.outputKey)).Nodup := by
    decide
  have hkeep : counting.KeepsOutputs [[nodeWaitingFor "a" []], [nodeWaitingFor "b" ["a"]]]
      emptyState := by
    exact ⟨counting.keepsOutput_singleton_iff.mpr rfl, counting.keepsOutput_singleton_iff.mpr rfl,
      trivial⟩
  have hagree := counting.runVertical_agrees_iff horder emptyState
  exact ⟨hagree.1 hkeep, (hagree.2 hkeys).mpr hkeep⟩

/-- A plan with one node, which has no branch group. -/
def answerPlan : PlanContent Unit Unit where
  planId := "plan"
  originKind := "benchmark"
  nodes := [nodeWaitingFor "answer" []]
  rootNodeIds := ["answer"]
  terminalOutputKeys := ["answer"]
  verificationPlan := {}
  lifecycleState := "compiled"
  rest := ()

/-- A node whose output is an object with the key of the node. -/
def wrapping : NodeExecutor Unit where
  operationKind := fun node => node.nodeKind.name
  output := fun _ node => .object [(node.outputKey, .int 1)]

/-- The root frame keeps the object, the child frame only its field. -/
theorem wrapped_output_differs :
    validateContent (fun _ => .ok ()) answerPlan = .ok () ∧
      (∀ node ∈ answerPlan.nodes, node.group? = none) ∧
      [[nodeWaitingFor "answer" []]].flatten = orderedExecutionNodes answerPlan.nodes ∧
      ¬SameOutcome (wrapping.runVertical [[nodeWaitingFor "answer" []]] emptyState)
        (wrapping.runSingle answerPlan.nodes emptyState) := by
  refine ⟨by decide +kernel, by decide, by decide, fun h => ?_⟩
  have hartifact := h.1 "answer"
  have hvertical : (wrapping.runVertical [[nodeWaitingFor "answer" []]] emptyState).artifacts.get?
      "answer" = some (.int 1) := rfl
  have hsingle : (wrapping.runSingle answerPlan.nodes emptyState).artifacts.get? "answer" =
      some (.object [("answer", .int 1)]) := rfl
  rw [hvertical, hsingle] at hartifact
  cases hartifact

end NodeExecutor

end Agintor.Kernel
