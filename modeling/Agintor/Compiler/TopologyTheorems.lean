import Agintor.Compiler.CompositePlans
import Agintor.Lib.Lists
import Mathlib.Algebra.Order.BigOperators.Group.List

/-!
# Levels as a layering

The level loop of `_compile_topology` ends, and finds a level for every actor exactly when the
primary channels have no directed cycle. When the function returns, every actor has a path to the
one sink, which stands alone at the end.
-/

namespace Agintor.Compiler

open Agintor.Contracts Agintor.Core Lib Relation

variable {protocol : HarnessProtocol} {levels : List (List String)}

/-- A primary channel leads from the first actor to the second. -/
def PrimaryEdge (protocol : HarnessProtocol) (a b : String) : Prop :=
  ∃ channel ∈ primaryChannels protocol, channel.producerActorId = a ∧ channel.consumerActorId = b

/-- The primary channels have a directed cycle. -/
def Cyclic (protocol : HarnessProtocol) : Prop := ∃ a, TransGen (PrimaryEdge protocol) a a

/-- Where every path leads: the final actor, or the producer of the feedback. -/
def terminalSink (protocol : HarnessProtocol) : String :=
  match feedbackChannel protocol with
  | none => protocol.finalActorId
  | some feedback => feedback.producerActorId

/-- One more than the largest level among the producers of these channels, 0 without channels. -/
def levelAfter (levels : List (List String)) (channels : List HarnessArtifactChannel) : ℕ :=
  (channels.map fun channel => layerOf levels channel.producerActorId + 1).foldr max 0

/-- Every actor is on one level, which is as low as its producers allow, and levels keep the
order of declaration. -/
structure CorrectLevels (protocol : HarnessProtocol) (levels : List (List String)) : Prop where
  once : ∀ actor ∈ protocol.actors, ∃! i : ℕ, ∃ level, levels[i]? = some level ∧
    actor.actorId ∈ level
  number : ∀ (i : ℕ) (level : List String), levels[i]? = some level → ∀ a ∈ level,
    i = levelAfter levels ((primaryChannels protocol).filter (·.consumerActorId = a))
  order : ∀ level ∈ levels, level.Sublist (actorIds protocol)

/-- The stage of a level depends on the stages of the producers of its inbound primary channels,
each once; the stage of the revision depends on the stage of the feedback's producer. -/
structure CorrectStages (protocol : HarnessProtocol) (levels : List (List String)) : Prop where
  ofLevel : ∀ (i : ℕ) (level : List String), levels[i]? = some level →
    ∃ stage, (compileStages protocol levels)[i]? = some stage ∧ stage.dependsOnStageIds.Nodup ∧
      ∀ id, id ∈ stage.dependsOnStageIds ↔ ∃ channel ∈ primaryChannels protocol,
        channel.consumerActorId ∈ level ∧ id = stageId (layerOf levels channel.producerActorId)
  ofRevision : ∀ (i : ℕ) (stage : CompositePlanStage), levels.length ≤ i →
    (compileStages protocol levels)[i]? = some stage → ∃ feedback,
      feedbackChannel protocol = some feedback ∧
        stage.dependsOnStageIds = [stageId (layerOf levels feedback.producerActorId)]

/-- All paths lead to the sink, which has no consumer and is on the last level. -/
structure LeadsToSink (protocol : HarnessProtocol) (levels : List (List String)) : Prop where
  path : ∀ actor ∈ protocol.actors,
    ReflTransGen (PrimaryEdge protocol) actor.actorId (terminalSink protocol)
  sink : ∀ b, ¬PrimaryEdge protocol (terminalSink protocol) b
  last : ∃ level, levels.getLast? = some level ∧ terminalSink protocol ∈ level

/-! ## Edges -/

variable {a b : String}

lemma primaryEdge_iff_producer : PrimaryEdge protocol a b ↔ a ∈ producersOf protocol b := by
  rw [mem_producersOf]
  exact ⟨fun ⟨channel, hmem, hp, hc⟩ => ⟨channel, hmem, hc, hp⟩,
    fun ⟨channel, hmem, hc, hp⟩ => ⟨channel, hmem, hp, hc⟩⟩

lemma primaryEdge_iff_consumer :
    PrimaryEdge protocol a b ↔ b ∈ consumersOf protocol a := mem_consumersOf.symm

lemma primaryEdge_eq : PrimaryEdge protocol = fun p a => p ∈ producersOf protocol a := by
  funext a b
  exact propext primaryEdge_iff_producer

lemma mem_actorIds_of_edge (h : PrimaryEdge protocol a b) :
    a ∈ actorIds protocol ∧ b ∈ actorIds protocol := by
  obtain ⟨channel, hmem, rfl, rfl⟩ := h
  exact protocol.valid.endpoints_mem channel (mem_primaryChannels.mp hmem).1

/-! ## The level loop -/

lemma counts_producersOf (protocol : HarnessProtocol) :
    Counts (producersOf protocol) (actorIds protocol) fun actorId =>
      ((producersOf protocol actorId).length : ℤ) := by
  intro a _
  have hall : (producersOf protocol a).filter (· ∈ actorIds protocol) = producersOf protocol a := by
    rw [List.filter_eq_self]
    intro b hb
    exact decide_eq_true (producer_mem_actorIds hb)
  rw [hall]

/-- More rounds than actors change nothing: the loop has ended. -/
theorem compileLevels_ends {n : ℕ} (h : protocol.actors.length ≤ n) :
    layers (consumersOf protocol) n (actorIds protocol) (fun actorId =>
      ((producersOf protocol actorId).length : ℤ)) = compileLevels protocol := by
  have hlength : (actorIds protocol).length = protocol.actors.length := List.length_map ..
  exact layers_eq_of_le (by omega) (by omega)

/-- The loop finds no ready actor exactly when there is a cycle. -/
theorem compileLevels_eq_none_iff : compileLevels protocol = none ↔ Cyclic protocol := by
  constructor
  · intro hnone
    by_contra hcyclic
    have hacyclic : ∀ a, ¬TransGen (fun p a => p ∈ producersOf protocol a) a a := by
      intro a ha
      rw [← primaryEdge_eq] at ha
      exact hcyclic ⟨a, ha⟩
    have hsome := layers_isSome (opposite_primary protocol) hacyclic
      protocol.valid.actorIds_nodup (counts_producersOf protocol)
      (n := protocol.actors.length) (le_of_eq (List.length_map ..))
    exact absurd (hsome.symm.trans (congrArg Option.isSome hnone)) (by decide)
  · rintro ⟨a, ha⟩
    cases hlevels : compileLevels protocol with
    | none => rfl
    | some levels =>
      rw [primaryEdge_eq] at ha
      refine absurd ha ((levels_of_compileLevels hlevels).acyclic ?_ a)
      intro b p hp
      exact mem_actorIds_of_edge (primaryEdge_iff_producer.mpr hp)

/-! ## Numbers of levels -/

section Numbers

variable (h : Levels protocol levels)
include h

/-- The number of a level is that of its actors. -/
lemma layerOf_eq {i : ℕ} {level : List String} (hi : levels[i]? = some level) {a : String}
    (ha : a ∈ level) : layerOf levels a = i := by
  obtain ⟨hlt, hget⟩ := List.getElem?_eq_some_iff.mp hi
  have hmem : a ∈ actorIds protocol :=
    h.perm.mem_iff.mp (List.mem_flatten.mpr ⟨level, List.mem_of_getElem? hi, ha⟩)
  obtain ⟨level', hfirst, ha'⟩ := h.mem_layerOf hmem
  obtain ⟨hlt', hget'⟩ := List.getElem?_eq_some_iff.mp hfirst
  have hdisjoint := (List.nodup_flatten.mp (nodup_flatten h)).2
  rw [List.pairwise_iff_getElem] at hdisjoint
  rcases Nat.lt_trichotomy (layerOf levels a) i with hless | heq | hmore
  · have hnot := hdisjoint (layerOf levels a) i hlt' hlt hless
    rw [hget, hget'] at hnot
    exact absurd ha (hnot ha')
  · exact heq
  · have hnot := hdisjoint i (layerOf levels a) hlt hlt' hmore
    rw [hget, hget'] at hnot
    exact absurd ha' (hnot ha)

/-- Every actor is on exactly one level. -/
lemma existsUnique_level {actor : HarnessActor} (hactor : actor ∈ protocol.actors) :
    ∃! i : ℕ, ∃ level, levels[i]? = some level ∧ actor.actorId ∈ level := by
  obtain ⟨level, hlevel, hmem⟩ := h.mem_layerOf (List.mem_map.mpr ⟨actor, hactor, rfl⟩)
  refine ⟨layerOf levels actor.actorId, ⟨level, hlevel, hmem⟩, ?_⟩
  rintro i ⟨level', hi, hmem'⟩
  exact (layerOf_eq h hi hmem').symm

variable {channels : List HarnessArtifactChannel}

omit h in
lemma levelAfter_le {n : ℕ}
    (hle : ∀ channel ∈ channels, layerOf levels channel.producerActorId < n) :
    levelAfter levels channels ≤ n := by
  unfold levelAfter
  induction channels with
  | nil => exact Nat.zero_le n
  | cons channel channels ih =>
    have hfirst := hle channel List.mem_cons_self
    have hrest := ih fun other hother => hle other (List.mem_cons_of_mem channel hother)
    rw [List.map_cons, List.foldr_cons]
    omega

omit h in
lemma lt_levelAfter {channel : HarnessArtifactChannel} (hmem : channel ∈ channels) :
    layerOf levels channel.producerActorId < levelAfter levels channels := by
  unfold levelAfter
  induction channels with
  | nil => simp at hmem
  | cons other channels ih =>
    rw [List.map_cons, List.foldr_cons]
    rcases List.mem_cons.mp hmem with rfl | hrest
    · omega
    · have hlt := ih hrest
      omega

end Numbers

/-- The level of an actor is one after the last of its producers. -/
lemma layerOf_eq_levelAfter (h : compileLevels protocol = some levels) {a : String}
    (ha : a ∈ actorIds protocol) :
    layerOf levels a =
      levelAfter levels ((primaryChannels protocol).filter (·.consumerActorId = a)) := by
  have hlevels := levels_of_compileLevels h
  apply le_antisymm
  · rcases Nat.eq_zero_or_pos (layerOf levels a) with hzero | hpos
    · omega
    · obtain ⟨p, hp, -, hlayer⟩ := exists_predecessor_of_layers (opposite_primary protocol)
        protocol.valid.actorIds_nodup (counts_producersOf protocol) h ha hpos
      obtain ⟨channel, hmem, hconsumer, rfl⟩ := mem_producersOf.mp hp
      have hinbound : channel ∈ (primaryChannels protocol).filter (·.consumerActorId = a) :=
        List.mem_filter.mpr ⟨hmem, decide_eq_true hconsumer⟩
      rw [hlayer]
      exact lt_levelAfter hinbound
  · apply levelAfter_le
    intro channel hchannel
    obtain ⟨hmem, hconsumer⟩ := List.mem_filter.mp hchannel
    have hlt := layerOf_producer_lt hlevels hmem
    rwa [of_decide_eq_true hconsumer] at hlt

theorem correctLevels (h : compileLevels protocol = some levels) :
    CorrectLevels protocol levels where
  once actor hactor := existsUnique_level (levels_of_compileLevels h) hactor
  number i level hi a ha := by
    have hlevels := levels_of_compileLevels h
    have hmem : a ∈ actorIds protocol :=
      hlevels.perm.mem_iff.mp (List.mem_flatten.mpr ⟨level, List.mem_of_getElem? hi, ha⟩)
    rw [← layerOf_eq_levelAfter h hmem, layerOf_eq hlevels hi ha]
  order := sublist_of_layers h

/-! ## Stages -/

theorem correctStages (protocol : HarnessProtocol) (levels : List (List String)) :
    CorrectStages protocol levels where
  ofLevel i level hi := by
    refine ⟨_, getElem?_compileStages_of_lt hi, ?_, ?_⟩
    · show (List.map stageId (parentIndices levels _)).Nodup
      apply List.Nodup.map stageId_injective
      unfold parentIndices
      exact (List.perm_insertionSort _ _).nodup_iff.mpr (List.nodup_dedup _)
    · intro id
      simp only [levelStage, parentIndices, List.mem_map, List.mem_insertionSort, List.mem_dedup,
        List.mem_filter, decide_eq_true_eq]
      constructor
      · rintro ⟨j, ⟨channel, ⟨hmem, hconsumer⟩, rfl⟩, rfl⟩
        exact ⟨channel, hmem, hconsumer, rfl⟩
      · rintro ⟨channel, hmem, hconsumer, rfl⟩
        exact ⟨_, ⟨channel, ⟨hmem, hconsumer⟩, rfl⟩, rfl⟩
  ofRevision i stage hi hstage := by
    rcases getElem?_compileStages hstage with ⟨level, hlevel, -⟩ |
      ⟨-, revision, feedback, -, hfeedback, rfl⟩
    · have hlt := (List.getElem?_eq_some_iff.mp hlevel).1
      omega
    · exact ⟨feedback, hfeedback, rfl⟩

/-! ## Path searches -/

section Paths

variable {adjacency : String → List String} {target : String}

variable {pending visited : List String}

/-- A search that succeeds has found a path. -/
lemma path_of_pathLoop {n : ℕ} (h : pathLoop adjacency target n pending visited = true) :
    ∃ a ∈ pending, ReflTransGen (fun a b => b ∈ adjacency a) a target := by
  induction n generalizing pending visited with
  | zero => simp [pathLoop] at h
  | succ n ih =>
    cases pending with
    | nil => simp [pathLoop] at h
    | cons a pending =>
      unfold pathLoop at h
      split at h
      · rename_i htarget
        rw [htarget]
        exact ⟨target, List.mem_cons_self, .refl⟩
      · split at h
        · obtain ⟨b, hb, hpath⟩ := ih h
          exact ⟨b, List.mem_cons_of_mem a hb, hpath⟩
        · obtain ⟨b, hb, hpath⟩ := ih h
          rcases List.mem_append.mp hb with hnext | hold
          · have hedge : b ∈ adjacency a := by
              simpa [sortedUnique] using hnext
            exact ⟨a, List.mem_cons_self, .head hedge hpath⟩
          · exact ⟨b, List.mem_cons_of_mem a hold, hpath⟩

/-- The channels out of the actors that are not yet visited. -/
def unvisited (adjacency : String → List String) (nodes visited : List String) : ℕ :=
  ((nodes.filter (· ∉ visited)).map fun a => (adjacency a).length).sum

lemma unvisited_cons {nodes visited : List String} {a : String} (hnodup : nodes.Nodup)
    (ha : a ∈ nodes) (hnew : a ∉ visited) :
    unvisited adjacency nodes (a :: visited) + (adjacency a).length =
      unvisited adjacency nodes visited := by
  unfold unvisited
  have hperm : (nodes.filter (· ∉ visited)).Perm
      (a :: (nodes.filter (· ∉ a :: visited))) := by
    rw [List.perm_ext_iff_of_nodup (hnodup.filter _)
      (List.nodup_cons.mpr ⟨by simp, hnodup.filter _⟩)]
    intro b
    by_cases hb : b = a
    · subst hb
      simp [ha, hnew]
    · simp [hb]
  rw [(hperm.map _).sum_eq, List.map_cons, List.sum_cons]
  omega

/-- A search with rounds to spare that fails has closed off the target. -/
lemma closed_of_pathLoop {nodes : List String} (hnodup : nodes.Nodup)
    (hnodes : ∀ a b, b ∈ adjacency a → a ∈ nodes) {n : ℕ}
    (hrounds : pending.length + unvisited adjacency nodes visited ≤ n) (htarget : target ∉ visited)
    (hclosed : ∀ a ∈ visited, ∀ b ∈ adjacency a, b ∈ visited ∨ b ∈ pending)
    (h : pathLoop adjacency target n pending visited = false) :
    ∃ closed : List String, pending ⊆ closed ∧ visited ⊆ closed ∧ target ∉ closed ∧
      ∀ a ∈ closed, ∀ b ∈ adjacency a, b ∈ closed := by
  induction n generalizing pending visited with
  | zero =>
    obtain rfl : pending = [] := List.length_eq_zero_iff.mp (by omega)
    refine ⟨visited, by simp, List.Subset.refl _, htarget, ?_⟩
    intro a ha b hb
    exact (hclosed a ha b hb).resolve_right (by simp)
  | succ n ih =>
    cases pending with
    | nil =>
      refine ⟨visited, by simp, List.Subset.refl _, htarget, ?_⟩
      intro a ha b hb
      exact (hclosed a ha b hb).resolve_right (by simp)
    | cons a pending =>
      unfold pathLoop at h
      split at h
      · cases h
      · rename_i hne
        rw [List.length_cons] at hrounds
        split at h
        · rename_i hvisited
          obtain ⟨closed, hpending, hsub, hrest⟩ := ih (by omega) htarget (by
            intro c hc b hb
            rcases hclosed c hc b hb with hold | hpending
            · exact .inl hold
            · rcases List.mem_cons.mp hpending with rfl | hrest
              · exact .inl hvisited
              · exact .inr hrest) h
          exact ⟨closed, List.cons_subset.mpr ⟨hsub hvisited, hpending⟩, hsub, hrest⟩
        · rename_i hnew
          have hmem {b : String} : b ∈ sortedUnique (adjacency a) ↔ b ∈ adjacency a := by
            simp [sortedUnique]
          have hlength : (sortedUnique (adjacency a)).length ≤ (adjacency a).length := by
            unfold sortedUnique
            rw [List.length_insertionSort]
            exact (List.dedup_sublist _).length_le
          have hspent : (sortedUnique (adjacency a)).length +
              unvisited adjacency nodes (a :: visited) ≤ unvisited adjacency nodes visited := by
            by_cases ha : a ∈ nodes
            · have hcons : unvisited adjacency nodes (a :: visited) + (adjacency a).length =
                  unvisited adjacency nodes visited := unvisited_cons hnodup ha hnew
              omega
            · -- nothing leads out of an actor that is not one of the nodes
              have hnil : adjacency a = [] := by
                rw [List.eq_nil_iff_forall_not_mem]
                intro b hb
                exact ha (hnodes a b hb)
              have hfilter : nodes.filter (· ∉ a :: visited) = nodes.filter (· ∉ visited) := by
                apply List.filter_congr
                intro b hb
                have hba : b ≠ a := fun heq => ha (heq ▸ hb)
                simp [hba]
              have hzero : (sortedUnique (adjacency a)).length = 0 := by
                rw [hnil] at hlength ⊢
                exact Nat.le_zero.mp hlength
              unfold unvisited
              rw [hfilter]
              omega
          obtain ⟨closed, hpending, hsub, hrest⟩ := ih (by
              rw [List.length_append]
              omega)
            (by
              intro hmem'
              rcases List.mem_cons.mp hmem' with heq | hold
              · exact hne heq.symm
              · exact htarget hold) (by
              intro c hc b hb
              rcases List.mem_cons.mp hc with rfl | hold
              · exact .inr (List.mem_append_left _ (hmem.mpr hb))
              · rcases hclosed c hold b hb with hvisited | hpending
                · exact .inl (List.mem_cons_of_mem a hvisited)
                · rcases List.mem_cons.mp hpending with rfl | hrest
                  · exact .inl List.mem_cons_self
                  · exact .inr (List.mem_append_right _ hrest)) h
          obtain ⟨hfirst, hsub⟩ := List.cons_subset.mp hsub
          exact ⟨closed, List.cons_subset.mpr ⟨hfirst, fun b hb =>
            hpending (List.mem_append_right _ hb)⟩, hsub, hrest⟩

end Paths

/-- No more consumers than primary channels. -/
lemma unvisited_le (protocol : HarnessProtocol) :
    unvisited (consumersOf protocol) (actorIds protocol) [] ≤
      (primaryChannels protocol).length := by
  have hproducers : ∀ channel ∈ primaryChannels protocol,
      channel.producerActorId ∈ actorIds protocol := by
    intro channel hmem
    exact (protocol.valid.endpoints_mem channel (mem_primaryChannels.mp hmem).1).1
  have hsum := sum_eq_sum_filter (fun channel : HarnessArtifactChannel => channel.producerActorId)
    (fun _ => 1) protocol.valid.actorIds_nodup hproducers
  have hnil : (actorIds protocol).filter (· ∉ ([] : List String)) = actorIds protocol := by
    simp
  unfold unvisited
  rw [hnil]
  calc ((actorIds protocol).map fun a => (consumersOf protocol a).length).sum
      ≤ ((actorIds protocol).map fun a => (((primaryChannels protocol).filter
          (·.producerActorId = a)).map fun _ => 1).sum).sum := by
        apply List.sum_le_sum
        intro a _
        have hlength := (List.dedup_sublist (((primaryChannels protocol).filter
          (·.producerActorId = a)).map (·.consumerActorId))).length_le
        rw [List.length_map] at hlength
        simpa [consumersOf] using hlength
    _ = ((primaryChannels protocol).map fun _ => 1).sum := hsum.symm
    _ = (primaryChannels protocol).length := by simp

/-- `_path_exists` decides whether there is a path. -/
theorem pathExists_iff :
    pathExists protocol a b = true ↔ ReflTransGen (PrimaryEdge protocol) a b := by
  have hedge : (fun a b => b ∈ consumersOf protocol a) = PrimaryEdge protocol := by
    funext a b
    exact propext primaryEdge_iff_consumer.symm
  constructor
  · intro h
    obtain ⟨c, hc, hpath⟩ := path_of_pathLoop h
    rw [List.mem_singleton.mp hc, hedge] at hpath
    exact hpath
  · intro hpath
    by_contra hfalse
    have hrounds : [a].length + unvisited (consumersOf protocol) (actorIds protocol) [] ≤
        (primaryChannels protocol).length + 1 := by
      have hle := unvisited_le protocol
      rw [List.length_singleton]
      omega
    obtain ⟨closed, hpending, -, htarget, hclosed⟩ := closed_of_pathLoop
      protocol.valid.actorIds_nodup
      (fun c d hd => (mem_actorIds_of_edge (primaryEdge_iff_consumer.mpr hd)).1)
      hrounds (by simp) (by simp) (Bool.not_eq_true _ ▸ hfalse)
    have hreached : ∀ c, ReflTransGen (PrimaryEdge protocol) a c → c ∈ closed := by
      intro c hc
      induction hc with
      | refl => exact hpending List.mem_cons_self
      | tail _ hlast ih => exact hclosed _ ih _ (primaryEdge_iff_consumer.mp hlast)
    exact htarget (hreached b hpath)

/-! ## The sink -/

lemma terminalSink_mem (protocol : HarnessProtocol) :
    terminalSink protocol ∈ actorIds protocol := by
  unfold terminalSink
  cases hfeedback : feedbackChannel protocol with
  | none => exact protocol.valid.final_mem
  | some feedback =>
    obtain ⟨_, -, hfind⟩ := Option.bind_eq_some_iff.mp hfeedback
    exact (protocol.valid.endpoints_mem feedback (List.mem_of_find?_eq_some hfind)).1

/-- The checks on the sinks ask for a path from every actor. -/
lemma path_of_validateSinks (h : validateSinks protocol = .ok ()) {a : String}
    (ha : a ∈ actorIds protocol) : ReflTransGen (PrimaryEdge protocol) a (terminalSink protocol) := by
  unfold validateSinks at h
  unfold terminalSink
  cases hfeedback : feedbackChannel protocol with
  | none =>
    simp only [hfeedback, bind_eq_ok_iff, forM_eq_ok_iff, raiseIf_eq_ok_iff] at h
    obtain ⟨_, -, hpaths⟩ := h
    exact pathExists_iff.mp (by simpa using hpaths a ha)
  | some feedback =>
    simp only [hfeedback, bind_eq_ok_iff, forM_eq_ok_iff, raiseIf_eq_ok_iff] at h
    obtain ⟨_, -, hpaths⟩ := h
    exact pathExists_iff.mp (by simpa using hpaths a ha)

lemma layerOf_le_of_path (h : Levels protocol levels)
    (hpath : ReflTransGen (PrimaryEdge protocol) a b) : layerOf levels a ≤ layerOf levels b := by
  induction hpath with
  | refl => exact le_rfl
  | tail _ hlast ih =>
    obtain ⟨channel, hmem, rfl, rfl⟩ := hlast
    exact ih.trans (layerOf_producer_lt h hmem).le

/-- All paths lead to one sink, which comes last. -/
theorem leadsToSink (h : compileLevels protocol = some levels)
    (hsinks : validateSinks protocol = .ok ()) : LeadsToSink protocol levels where
  path actor hactor := path_of_validateSinks hsinks (List.mem_map.mpr ⟨actor, hactor, rfl⟩)
  sink b hedge := by
    -- a consumer of the sink has a path back to it
    have hback := path_of_validateSinks hsinks (mem_actorIds_of_edge hedge).2
    have hacyclic := compileLevels_eq_none_iff.not.mp (by rw [h]; exact Option.some_ne_none levels)
    exact hacyclic ⟨_, .head' hedge hback⟩
  last := by
    have hlevels := levels_of_compileLevels h
    have hlt := hlevels.layerOf_lt (terminalSink_mem protocol)
    have hlast : levels.length - 1 < levels.length := by omega
    refine ⟨levels[levels.length - 1], List.getLast?_eq_getElem? ▸ List.getElem?_eq_getElem hlast, ?_⟩
    -- whoever is on the last level has a path to the sink
    obtain ⟨a, ha⟩ := List.exists_mem_of_ne_nil _
      (hlevels.nonempty _ (List.getElem_mem hlast))
    have hmem : a ∈ actorIds protocol :=
      hlevels.perm.mem_iff.mp (List.mem_flatten.mpr ⟨_, List.getElem_mem hlast, ha⟩)
    have hle := layerOf_le_of_path hlevels (path_of_validateSinks hsinks hmem)
    rw [layerOf_eq hlevels (List.getElem?_eq_getElem hlast) ha] at hle
    obtain ⟨level, hlevel, hsink⟩ := hlevels.mem_layerOf (terminalSink_mem protocol)
    have heq : layerOf levels (terminalSink protocol) = levels.length - 1 := by omega
    rw [heq, List.getElem?_eq_getElem hlast] at hlevel
    rw [Option.some.inj hlevel]
    exact hsink

/-! ## What the compiler raises -/

/-- The error of a level loop without a ready actor. -/
def acyclicityError : CompileError :=
  .compilation "primary artifact channel graph must be acyclic"

/-- The messages of the other errors start with another letter. -/
lemma compilation_ne_acyclicityError {message : String} (h : message.toList.head? ≠ some 'p') :
    CompileError.compilation message ≠ acyclicityError := by
  intro heq
  rw [CompileError.compilation.inj heq] at h
  exact h (by decide +kernel)

lemma validateSinks_ne {e : CompileError} (h : validateSinks protocol = .error e) :
    e ≠ acyclicityError := by
  unfold validateSinks at h
  cases hfeedback : feedbackChannel protocol with
  | none =>
    simp only [hfeedback, bind_eq_error_iff, raiseIf_eq_error_iff] at h
    rcases h with ⟨-, rfl⟩ | ⟨_, -, hpaths⟩
    · exact compilation_ne_acyclicityError (by decide +kernel)
    · obtain ⟨actorId, -, herror⟩ := exists_error_of_forM hpaths
      obtain ⟨-, rfl⟩ := raiseIf_eq_error_iff.mp herror
      exact compilation_ne_acyclicityError (by simp [String.toList_append])
  | some feedback =>
    simp only [hfeedback, bind_eq_error_iff, raiseIf_eq_error_iff] at h
    rcases h with ⟨-, rfl⟩ | ⟨_, -, hpaths⟩
    · exact compilation_ne_acyclicityError (by decide +kernel)
    · obtain ⟨actorId, -, herror⟩ := exists_error_of_forM hpaths
      obtain ⟨-, rfl⟩ := raiseIf_eq_error_iff.mp herror
      exact compilation_ne_acyclicityError (by simp [String.toList_append])

lemma validateProducers_ne {e : CompileError} (h : validateProducers protocol = .error e) :
    e ≠ acyclicityError := by
  obtain ⟨actorId, -, herror⟩ := exists_error_of_forM h
  obtain ⟨-, rfl⟩ := raiseIf_eq_error_iff.mp herror
  exact compilation_ne_acyclicityError (by simp [String.toList_append])

/-- The error of the level loop is raised exactly for a cycle. -/
theorem compileTopology_acyclicity_iff :
    compileTopology protocol = .error acyclicityError ↔ Cyclic protocol := by
  rw [← compileLevels_eq_none_iff]
  unfold compileTopology
  constructor
  · intro h
    rcases bind_eq_error_iff.mp h with hexchange | ⟨_, -, h⟩
    · obtain ⟨-, herror⟩ := raiseIf_eq_error_iff.mp hexchange
      exact absurd herror (compilation_ne_acyclicityError (by decide +kernel))
    · cases hlevels : compileLevels protocol with
      | none => rfl
      | some levels =>
        simp only [hlevels] at h
        rcases bind_eq_error_iff.mp h with hsinks | ⟨_, -, h⟩
        · exact absurd rfl (validateSinks_ne hsinks)
        · rcases bind_eq_error_iff.mp h with hproducers | ⟨_, -, h⟩
          · exact absurd rfl (validateProducers_ne hproducers)
          · cases h
  · intro hnone
    -- a cycle has channels, so that the first check passes
    have hchannels : protocol.artifactChannels ≠ [] := by
      obtain ⟨a, hcycle⟩ := compileLevels_eq_none_iff.mp hnone
      obtain ⟨b, ⟨channel, hmem, -⟩, -⟩ := TransGen.head'_iff.mp hcycle
      exact List.ne_nil_of_mem (mem_primaryChannels.mp hmem).1
    rw [raiseIf_neg fun h => hchannels h.2, ok_bind, hnone]
    rfl

/-- The topology of every protocol is a correct layering: the loop ends, fails exactly for a
cycle, and otherwise numbers the actors as their producers ask; what is returned leads to the
sink. -/
theorem topology_is_layering (protocol : HarnessProtocol) :
    (∀ n, protocol.actors.length ≤ n → layers (consumersOf protocol) n (actorIds protocol)
      (fun actorId => ((producersOf protocol actorId).length : ℤ)) = compileLevels protocol) ∧
    (compileTopology protocol = .error acyclicityError ↔ Cyclic protocol) ∧
    (¬Cyclic protocol → ∃ levels, compileLevels protocol = some levels ∧
      CorrectLevels protocol levels ∧ CorrectStages protocol levels) ∧
    ∀ levels, compileTopology protocol = .ok levels →
      compileLevels protocol = some levels ∧ LeadsToSink protocol levels := by
  refine ⟨fun n => compileLevels_ends, compileTopology_acyclicity_iff, ?_, ?_⟩
  · intro hacyclic
    rw [← compileLevels_eq_none_iff] at hacyclic
    obtain ⟨levels, hlevels⟩ := Option.ne_none_iff_exists'.mp hacyclic
    exact ⟨levels, hlevels, correctLevels hlevels, correctStages protocol levels⟩
  · intro levels h
    obtain ⟨_, -, h⟩ := bind_eq_ok_iff.mp h
    cases hlevels : compileLevels protocol with
    | none => simp [hlevels] at h
    | some found =>
      simp only [hlevels, bind_eq_ok_iff, pure_eq_ok, Except.ok.injEq] at h
      obtain ⟨_, hsinks, _, -, rfl⟩ := h
      exact ⟨rfl, leadsToSink hlevels hsinks⟩

end Agintor.Compiler
