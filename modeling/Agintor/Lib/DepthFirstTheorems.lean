import Agintor.Lib.DepthFirst
import Mathlib.Data.Finset.Card
import Mathlib.Logic.Relation

/-!
# Depth-first search of a graph without cycles

In a graph in which no node leads back to itself the nodes have ranks that go down along every
edge, and a search needs no more steps than the rank of its first node: the search for cycles finds
none, the postorder lists every node once and after the nodes it leads to, and what is collected is
closed under the edges.
-/

namespace Lib

variable {α ε : Type} [DecidableEq α] {next : α → List α} {nodes : List α}

/-! ## Ranks -/

/-- No node leads back to itself. -/
def Acyclic (next : α → List α) (nodes : List α) : Prop :=
  ∀ a ∈ nodes, ¬Relation.TransGen (fun a b => b ∈ next a) a a

/-- The edges stay among the nodes, and lead to nodes of a lower rank. -/
structure Ranked (next : α → List α) (nodes : List α) (rank : α → ℕ) : Prop where
  closed : ∀ a ∈ nodes, ∀ b ∈ next a, b ∈ nodes
  lower : ∀ a ∈ nodes, ∀ b ∈ next a, rank b < rank a

variable {rank : α → ℕ} {fuel : ℕ} {a : α}

omit [DecidableEq α] in
lemma Ranked.lower_of_transGen (h : Ranked next nodes rank) {a b : α}
    (hab : Relation.TransGen (fun a b => b ∈ next a) a b) (ha : a ∈ nodes) :
    b ∈ nodes ∧ rank b < rank a := by
  induction hab with
  | single hb => exact ⟨h.closed _ ha _ hb, h.lower _ ha _ hb⟩
  | tail _ hc ih => exact ⟨h.closed _ ih.1 _ hc, (h.lower _ ih.1 _ hc).trans ih.2⟩

omit [DecidableEq α] in
theorem Ranked.acyclic (h : Ranked next nodes rank) : Acyclic next nodes :=
  fun _ ha hcycle => lt_irrefl _ (h.lower_of_transGen hcycle ha).2

open Classical in
/-- The number of nodes that a node leads to. -/
noncomputable def height (next : α → List α) (nodes : List α) (a : α) : ℕ :=
  (nodes.toFinset.filter fun b => Relation.TransGen (fun a b => b ∈ next a) a b).card

/-- Where a node leads to depends on the nodes next to it only. -/
lemma height_congr {a b : α} (h : next a = next b) : height next nodes a = height next nodes b := by
  have hreach (c : α) : Relation.TransGen (fun a b => b ∈ next a) a c ↔
      Relation.TransGen (fun a b => b ∈ next a) b c := by
    rw [Relation.TransGen.head'_iff, Relation.TransGen.head'_iff, h]
  unfold height
  congr 1
  ext c
  simp only [Finset.mem_filter, hreach c]

theorem Acyclic.ranked (h : Acyclic next nodes) (hclosed : ∀ a ∈ nodes, ∀ b ∈ next a, b ∈ nodes) :
    Ranked next nodes (height next nodes) := by
  classical
  refine ⟨hclosed, fun a ha b hb => Finset.card_lt_card ?_⟩
  rw [Finset.ssubset_iff_of_subset]
  · -- `b` itself is what `a` leads to and `b` does not
    refine ⟨b, ?_, ?_⟩
    · rw [Finset.mem_filter, List.mem_toFinset]
      exact ⟨hclosed a ha b hb, .single hb⟩
    · rw [Finset.mem_filter, not_and]
      exact fun _ => h b (hclosed a ha b hb)
  · intro c hc
    rw [Finset.mem_filter] at hc ⊢
    exact ⟨hc.1, .head hb hc.2⟩

theorem Acyclic.height_lt (h : Acyclic next nodes) (ha : a ∈ nodes) :
    height next nodes a < nodes.length := by
  classical
  have hlt : height next nodes a < nodes.toFinset.card := by
    refine Finset.card_lt_card ?_
    rw [Finset.ssubset_iff_of_subset (Finset.filter_subset _ _)]
    refine ⟨a, List.mem_toFinset.mpr ha, ?_⟩
    rw [Finset.mem_filter, not_and]
    exact fun _ => h a ha
  exact hlt.trans_le nodes.toFinset_card_le

/-! ## The search for cycles -/

/-- A search finds no cycle, whatever has been left before, when the nodes of the path have higher
ranks. -/
theorem Ranked.exists_visit (h : Ranked next nodes rank) (cyclic : ε) {path visited : List α}
    (ha : a ∈ nodes) (hfuel : rank a < fuel) (hpath : ∀ p ∈ path, rank a < rank p) :
    ∃ visited', visit next cyclic fuel path visited a = .ok visited' := by
  induction fuel generalizing path visited a with
  | zero => omega
  | succ fuel ih =>
    rw [visit]
    by_cases hvisited : a ∈ visited
    · exact ⟨visited, if_pos hvisited⟩
    · have hnew : a ∉ path := fun hmem => lt_irrefl _ (hpath a hmem)
      rw [if_neg hvisited, if_neg hnew]
      have hnext : ∀ b ∈ next a, ∀ visited, ∃ visited',
          visit next cyclic fuel (a :: path) visited b = .ok visited' := by
        intro b hb visited
        have hlower := h.lower a ha b hb
        refine ih (h.closed a ha b hb) (by omega) fun p hp => ?_
        rcases List.mem_cons.mp hp with rfl | hp
        · exact hlower
        · exact hlower.trans (hpath p hp)
      obtain ⟨visited', hvisited'⟩ := exists_foldlM_eq_ok hnext (b := visited)
      exact ⟨visited' ++ [a], by rw [hvisited', ok_bind, pure_eq_ok]⟩

/-! ## Postorder -/

/-- Every node comes after the nodes that it leads to. -/
def NextFirst (next : α → List α) (l : List α) : Prop :=
  ∀ before a after, l = before ++ a :: after → ∀ b ∈ next a, b ∈ before

omit [DecidableEq α] in
lemma NextFirst.concat {l : List α} (h : NextFirst next l) (ha : ∀ b ∈ next a, b ∈ l) :
    NextFirst next (l ++ [a]) := by
  intro before c after heq
  rcases List.eq_nil_or_concat' after with rfl | ⟨after', d, rfl⟩
  · obtain ⟨rfl, hlast⟩ := List.append_inj' heq rfl
    cases hlast
    exact ha
  · rw [← List.cons_append, ← List.append_assoc] at heq
    exact h before c after' (List.append_inj' heq rfl).1

/-- A list of nodes, each once and after the nodes that it leads to. -/
structure Postordered (next : α → List α) (nodes l : List α) : Prop where
  nodup : l.Nodup
  mem_nodes : ∀ a ∈ l, a ∈ nodes
  nextFirst : NextFirst next l

/-- What a search adds to a list: nodes of a rank below a bound. -/
structure Extends (next : α → List α) (nodes : List α) (rank : α → ℕ) (bound : ℕ)
    (l l' : List α) : Prop where
  postordered : Postordered next nodes l'
  subset : ∀ a ∈ l, a ∈ l'
  added : ∀ a ∈ l', a ∈ l ∨ rank a < bound

lemma Ranked.extends_postorder (h : Ranked next nodes rank) {l : List α} (ha : a ∈ nodes)
    (hfuel : rank a < fuel) (hl : Postordered next nodes l) :
    Extends next nodes rank (rank a + 1) l (postorder next nodes fuel l a) ∧
      a ∈ postorder next nodes fuel l a := by
  induction fuel generalizing l a with
  | zero => omega
  | succ fuel ih =>
    rw [postorder]
    by_cases hmem : a ∈ l
    · rw [if_pos (.inl hmem)]
      exact ⟨⟨hl, fun _ hb => hb, fun _ hb => .inl hb⟩, hmem⟩
    · have hcond : ¬(a ∈ l ∨ a ∉ nodes) := by
        rw [not_or, not_not]
        exact ⟨hmem, ha⟩
      rw [if_neg hcond]
      -- the nodes next to `a` are of lower rank, so what is listed for them does not contain `a`
      have hfold : ∀ bs : List α, (∀ b ∈ bs, b ∈ next a) → ∀ l, Postordered next nodes l →
          Extends next nodes rank (rank a) l (bs.foldl (postorder next nodes fuel) l) ∧
            ∀ b ∈ bs, b ∈ bs.foldl (postorder next nodes fuel) l := by
        intro bs
        induction bs with
        | nil =>
          intro _ l hl
          exact ⟨⟨hl, fun _ hb => hb, fun _ hb => .inl hb⟩, fun _ hb => absurd hb List.not_mem_nil⟩
        | cons b bs ihbs =>
          intro hbs l hl
          have hb : b ∈ next a := hbs b List.mem_cons_self
          have hlower := h.lower a ha b hb
          obtain ⟨hext, hin⟩ := ih (h.closed a ha b hb) (by omega) hl
          obtain ⟨hrest, hall⟩ := ihbs (fun c hc => hbs c (List.mem_cons_of_mem _ hc)) _
            hext.postordered
          rw [List.foldl_cons]
          refine ⟨⟨hrest.postordered, fun c hc => hrest.subset c (hext.subset c hc), ?_⟩, ?_⟩
          · intro c hc
            rcases hrest.added c hc with hc | hc
            · rcases hext.added c hc with hc | hc
              · exact .inl hc
              · exact .inr (by omega)
            · exact .inr hc
          · intro c hc
            rcases List.mem_cons.mp hc with rfl | hc
            · exact hrest.subset _ hin
            · exact hall c hc
      obtain ⟨hext, hall⟩ := hfold (next a) (fun _ hb => hb) l hl
      have hnew : a ∉ (next a).foldl (postorder next nodes fuel) l := by
        intro hin
        rcases hext.added a hin with hin | hlt
        · exact hmem hin
        · omega
      refine ⟨⟨⟨?_, ?_, hext.postordered.nextFirst.concat hall⟩, ?_, ?_⟩, by simp⟩
      · rw [← List.concat_eq_append]
        exact List.Nodup.concat hnew hext.postordered.nodup
      · intro b hb
        rcases List.mem_append.mp hb with hb | hb
        · exact hext.postordered.mem_nodes b hb
        · exact List.mem_singleton.mp hb ▸ ha
      · exact fun b hb => List.mem_append_left _ (hext.subset b hb)
      · intro b hb
        rcases List.mem_append.mp hb with hb | hb
        · exact (hext.added b hb).imp_right fun hlt => by omega
        · exact .inr (by rw [List.mem_singleton.mp hb]; omega)

/-- The postorder of an acyclic graph lists every node once, and after the nodes it leads to. -/
theorem Ranked.postordered (h : Ranked next nodes rank) (hfuel : ∀ a ∈ nodes, rank a < fuel) :
    Postordered next nodes (nodes.foldl (postorder next nodes fuel) []) ∧
      ∀ a ∈ nodes, a ∈ nodes.foldl (postorder next nodes fuel) [] := by
  have hfold : ∀ as : List α, (∀ a ∈ as, a ∈ nodes) → ∀ l, Postordered next nodes l →
      Postordered next nodes (as.foldl (postorder next nodes fuel) l) ∧
        ∀ a, a ∈ as ∨ a ∈ l → a ∈ as.foldl (postorder next nodes fuel) l := by
    intro as
    induction as with
    | nil => exact fun _ l hl => ⟨hl, fun _ ha => ha.resolve_left List.not_mem_nil⟩
    | cons a as ih =>
      intro has l hl
      have ha : a ∈ nodes := has a List.mem_cons_self
      obtain ⟨hext, hin⟩ := h.extends_postorder ha (hfuel a ha) hl
      obtain ⟨hrest, hall⟩ := ih (fun b hb => has b (List.mem_cons_of_mem _ hb)) _ hext.postordered
      refine ⟨hrest, fun b hb => ?_⟩
      rcases hb with hb | hb
      · rcases List.mem_cons.mp hb with rfl | hb
        · exact hall _ (.inr hin)
        · exact hall _ (.inl hb)
      · exact hall _ (.inr (hext.subset b hb))
  have hempty : Postordered next nodes [] := by
    refine ⟨List.nodup_nil, fun _ ha => absurd ha List.not_mem_nil, fun before a after heq => ?_⟩
    exact absurd heq (by simp)
  obtain ⟨hpost, hall⟩ := hfold nodes (fun _ ha => ha) [] hempty
  exact ⟨hpost, fun a ha => hall a (.inl ha)⟩

/-! ## What can be reached -/

/-- What a search collects: everything that it adds is closed under the edges. -/
structure Collects (next : α → List α) (l l' : List α) : Prop where
  subset : ∀ a ∈ l, a ∈ l'
  closed : ∀ a ∈ l', a ∈ l ∨ ∀ b ∈ next a, b ∈ l'

omit [DecidableEq α] in
lemma Collects.trans {l l' l'' : List α} (h : Collects next l l') (h' : Collects next l' l'') :
    Collects next l l'' := by
  refine ⟨fun a ha => h'.subset a (h.subset a ha), fun a ha => ?_⟩
  rcases h'.closed a ha with ha | ha
  · exact (h.closed a ha).imp_right fun hnext b hb => h'.subset b (hnext b hb)
  · exact .inr ha

lemma Ranked.collects_mark (h : Ranked next nodes rank) {l : List α} (ha : a ∈ nodes)
    (hfuel : rank a < fuel) : Collects next l (mark next fuel l a) ∧ a ∈ mark next fuel l a := by
  induction fuel generalizing l a with
  | zero => omega
  | succ fuel ih =>
    rw [mark]
    by_cases hmem : a ∈ l
    · rw [if_pos hmem]
      exact ⟨⟨fun _ hb => hb, fun _ hb => .inl hb⟩, hmem⟩
    · rw [if_neg hmem]
      have hfold : ∀ bs : List α, (∀ b ∈ bs, b ∈ next a) → ∀ l,
          Collects next l (bs.foldl (mark next fuel) l) ∧
            ∀ b ∈ bs, b ∈ bs.foldl (mark next fuel) l := by
        intro bs
        induction bs with
        | nil =>
          intro _ l
          exact ⟨⟨fun _ hb => hb, fun _ hb => .inl hb⟩, fun _ hb => absurd hb List.not_mem_nil⟩
        | cons b bs ihbs =>
          intro hbs l
          have hb : b ∈ next a := hbs b List.mem_cons_self
          have hlower := h.lower a ha b hb
          obtain ⟨hfirst, hin⟩ := ih (l := l) (h.closed a ha b hb) (by omega)
          obtain ⟨hrest, hall⟩ := ihbs (fun c hc => hbs c (List.mem_cons_of_mem _ hc))
            (mark next fuel l b)
          rw [List.foldl_cons]
          refine ⟨hfirst.trans hrest, fun c hc => ?_⟩
          rcases List.mem_cons.mp hc with rfl | hc
          · exact hrest.subset _ hin
          · exact hall c hc
      obtain ⟨hcollects, hall⟩ := hfold (next a) (fun _ hb => hb) (a :: l)
      refine ⟨⟨fun b hb => hcollects.subset b (List.mem_cons_of_mem _ hb), fun b hb => ?_⟩,
        hcollects.subset a List.mem_cons_self⟩
      rcases hcollects.closed b hb with hb | hb
      · rcases List.mem_cons.mp hb with rfl | hb
        · exact .inr hall
        · exact .inl hb
      · exact .inr hb

/-- What is collected from some nodes contains them, and with a node the nodes next to it. -/
theorem Ranked.collected (h : Ranked next nodes rank) {roots : List α}
    (hroots : ∀ a ∈ roots, a ∈ nodes) (hfuel : ∀ a ∈ nodes, rank a < fuel) :
    (∀ a ∈ roots, a ∈ roots.foldl (mark next fuel) []) ∧
      ∀ a ∈ roots.foldl (mark next fuel) [], ∀ b ∈ next a,
        b ∈ roots.foldl (mark next fuel) [] := by
  have hfold : ∀ as : List α, (∀ a ∈ as, a ∈ nodes) → ∀ l,
      Collects next l (as.foldl (mark next fuel) l) ∧
        ∀ a ∈ as, a ∈ as.foldl (mark next fuel) l := by
    intro as
    induction as with
    | nil =>
      intro _ l
      exact ⟨⟨fun _ hb => hb, fun _ hb => .inl hb⟩, fun _ hb => absurd hb List.not_mem_nil⟩
    | cons a as ih =>
      intro has l
      have ha : a ∈ nodes := has a List.mem_cons_self
      obtain ⟨hfirst, hin⟩ := h.collects_mark (l := l) ha (hfuel a ha)
      obtain ⟨hrest, hall⟩ := ih (fun b hb => has b (List.mem_cons_of_mem _ hb))
        (mark next fuel l a)
      refine ⟨hfirst.trans hrest, fun b hb => ?_⟩
      rcases List.mem_cons.mp hb with rfl | hb
      · exact hrest.subset _ hin
      · exact hall b hb
  obtain ⟨hcollects, hall⟩ := hfold roots hroots []
  exact ⟨hall, fun a ha => (hcollects.closed a ha).resolve_left List.not_mem_nil⟩

end Lib
