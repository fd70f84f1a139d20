import Agintor.Lib.Dict
import Agintor.Lib.Raise

/-!
# Maps that refuse a key twice

A loop that checks the items of a list and puts each under its key, and raises at a key that it
has met before. The map of a permutation of the list has the same entries in another order.
-/

namespace Lib

variable {ε κ α : Type} [DecidableEq κ]

section Loop

variable (key : α → κ) (check : α → Except ε Unit) (duplicate : κ → ε)

def mapByKey (mapped : Dict κ α) : List α → Except ε (Dict κ α)
  | [] => .ok mapped
  | a :: as => do
    check a
    raiseIf (key a ∈ mapped.keys) (duplicate (key a))
    mapByKey (mapped.set (key a) a) as

/-- The items that the loop accepts: all pass the check, and no two have one key. -/
structure Keyed (as : List α) : Prop where
  checked : ∀ a ∈ as, check a = .ok ()
  distinct : (as.map key).Nodup

end Loop

variable {key : α → κ} {check : α → Except ε Unit} {duplicate : κ → ε} {as as' : List α}
  {mapped m : Dict κ α}

/-- What the loop accepts from any map on, and the map that it leaves. -/
lemma mapByKey_eq_ok_iff : mapByKey key check duplicate mapped as = .ok m ↔
    (∀ a ∈ as, check a = .ok ()) ∧ (mapped.keys ++ as.map key).Nodup ∧
      m.entries = mapped.entries ++ as.map fun a => (key a, a) := by
  induction as generalizing mapped with
  | nil =>
    show Except.ok mapped = .ok m ↔ _
    rw [List.map_nil, List.map_nil, List.append_nil, List.append_nil]
    constructor
    · intro h
      obtain rfl := Except.ok.inj h
      exact ⟨fun a ha => absurd ha List.not_mem_nil, mapped.nodup, rfl⟩
    · intro h
      rw [Dict.ext h.2.2]
  | cons a as ih =>
    have hkeys : mapped.keys ++ (a :: as).map key = mapped.keys ++ [key a] ++ as.map key := by
      simp
    have hset : key a ∉ mapped.keys → (mapped.set (key a) a).keys = mapped.keys ++ [key a] := by
      intro h
      unfold Dict.keys
      rw [Dict.entries_set_of_not_mem h, List.map_append]
      rfl
    unfold mapByKey
    rw [bind_eq_ok_iff]
    simp only [bind_eq_ok_iff, raiseIf_eq_ok_iff]
    constructor
    · intro h
      obtain ⟨_, hcheck, _, hnew, hrest⟩ := h
      obtain ⟨hall, hnodup, hentries⟩ := ih.mp hrest
      rw [hset hnew, ← hkeys] at hnodup
      rw [Dict.entries_set_of_not_mem hnew, List.append_assoc] at hentries
      exact ⟨List.forall_mem_cons.mpr ⟨hcheck, hall⟩, hnodup, hentries⟩
    · intro h
      obtain ⟨hall, hnodup, hentries⟩ := h
      have hnew : key a ∉ mapped.keys := by
        rw [List.nodup_append] at hnodup
        intro hmem
        exact hnodup.2.2 _ hmem _ List.mem_cons_self rfl
      refine ⟨(), (List.forall_mem_cons.mp hall).1, (), hnew, ih.mpr ⟨?_, ?_, ?_⟩⟩
      · exact (List.forall_mem_cons.mp hall).2
      · rw [hset hnew, ← hkeys]
        exact hnodup
      · rw [Dict.entries_set_of_not_mem hnew, List.append_assoc]
        exact hentries

/-- What the loop accepts. -/
theorem mapByKey_empty_eq_ok_iff : mapByKey key check duplicate .empty as = .ok m ↔
    Keyed key check as ∧ m.entries = as.map fun a => (key a, a) := by
  rw [mapByKey_eq_ok_iff]
  constructor
  · intro h
    exact ⟨⟨h.1, h.2.1⟩, h.2.2⟩
  · intro h
    exact ⟨h.1.checked, h.1.distinct, h.2⟩

lemma keys_of_mapByKey (h : mapByKey key check duplicate .empty as = .ok m) :
    m.keys = as.map key := by
  unfold Dict.keys
  rw [(mapByKey_empty_eq_ok_iff.mp h).2, List.map_map]
  rfl

lemma get?_of_mapByKey (h : mapByKey key check duplicate .empty as = .ok m) {k : κ} {a : α} :
    m.get? k = some a ↔ a ∈ as ∧ key a = k := by
  rw [Dict.get?_eq_some_iff, (mapByKey_empty_eq_ok_iff.mp h).2, List.mem_map]
  constructor
  · rintro ⟨b, hb, heq⟩
    obtain ⟨rfl, rfl⟩ := Prod.mk.inj heq
    exact ⟨hb, rfl⟩
  · rintro ⟨ha, rfl⟩
    exact ⟨a, ha, rfl⟩

/-- A permutation of the items is accepted too, and mapped to the same entries. -/
theorem mapByKey_perm (hperm : as.Perm as') (h : mapByKey key check duplicate .empty as = .ok m) :
    ∃ m', mapByKey key check duplicate .empty as' = .ok m' ∧ m.entries.Perm m'.entries := by
  obtain ⟨hkeyed, hentries⟩ := mapByKey_empty_eq_ok_iff.mp h
  have hkeyed' : Keyed key check as' :=
    ⟨fun a ha => hkeyed.checked a (hperm.mem_iff.mpr ha),
      (hperm.map key).nodup_iff.mp hkeyed.distinct⟩
  have hnodup : ((as'.map fun a => (key a, a)).map Prod.fst).Nodup := by
    rw [List.map_map]
    exact hkeyed'.distinct
  refine ⟨⟨as'.map fun a => (key a, a), hnodup⟩, mapByKey_empty_eq_ok_iff.mpr ⟨hkeyed', rfl⟩, ?_⟩
  rw [hentries]
  exact hperm.map _

end Lib
