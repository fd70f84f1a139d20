import Mathlib.Data.List.Sort
import Mathlib.Data.String.Basic
import Agintor.Lib.Decimal
import Agintor.Lib.Dict
import Agintor.Lib.Raise

/-!
# Numbered directories

A log kept as one directory entry for each item, named by the zero-padded index of the item and
its identity. Readers list the names in string order. Up to `10 ^ w` items that is the order in
which they were added; the item after these comes back in the wrong place.
-/

namespace Lib

/-- `f"{index:0wd}_{identity}"` -/
def numberedName (w : ℕ) (index : ℤ) (identity : String) : String :=
  zeroPadInt w index ++ "_" ++ identity

variable {D M ε : Type}

/-- `sorted(directory.iterdir(), key=name)` -/
def listing (dirs : Dict String D) : List (String × D) :=
  dirs.entries.insertionSort fun e e' => e.1 ≤ e'.1

/-- Every item, in the order of the names. -/
def readAll (read : String → D → Except ε M) (dirs : Dict String D) : Except ε (List M) :=
  (listing dirs).mapM fun e => read e.1 e.2

/-- The item with the last name. -/
def readLast (read : String → D → Except ε M) (dirs : Dict String D) : Except ε (Option M) :=
  match (listing dirs).reverse with
  | [] => .ok none
  | e :: _ => (read e.1 e.2).map some

/-- `0 if latest is None else latest.index + 1` -/
def nextIndex (index : M → ℤ) : Option M → ℤ
  | none => 0
  | some m => index m + 1

/-! ## Names -/

theorem toList_numberedName (w n : ℕ) (identity : String) :
    (numberedName w n identity).toList = zeroPadChars w n ++ '_' :: identity.toList := by
  simp [numberedName, zeroPadInt]

theorem numberedName_inj {w m n : ℕ} {a b : String} :
    numberedName w m a = numberedName w n b ↔ m = n ∧ a = b := by
  constructor
  · intro h
    have hchars := congrArg String.toList h
    rw [toList_numberedName, toList_numberedName] at hchars
    obtain ⟨hmn, hab⟩ := zeroPadChars_append_cons_inj (by decide) hchars
    exact ⟨hmn, String.toList_inj.mp hab⟩
  · rintro ⟨rfl, rfl⟩
    rfl

theorem numberedName_lt {w m n : ℕ} (hw : 0 < w) (hmn : m < n) (hn : n < 10 ^ w) (a b : String) :
    numberedName w m a < numberedName w n b := by
  rw [String.lt_iff, toList_numberedName, toList_numberedName]
  exact zeroPadChars_append_lt hw hmn hn _ _

/-! ## Other entries -/

/-- Names that come before the others in the listing and are no items of the log do not change which
item is the last, as long as there is one. -/
theorem readLast_filterKeys {read : String → D → Except ε M} {dirs : Dict String D}
    {p : String → Bool}
    (hfirst : ∀ k ∈ dirs.keys, p k = false → ∀ k' ∈ dirs.keys, p k' = true → k ≤ k')
    (hne : (dirs.filterKeys p).entries ≠ []) :
    readLast read dirs = readLast read (dirs.filterKeys p) := by
  let rest := dirs.filterKeys fun k => !p k
  have hperm : (listing rest ++ listing (dirs.filterKeys p)).Perm (listing dirs) := by
    refine ((List.perm_insertionSort _ _).append (List.perm_insertionSort _ _)).trans ?_
    refine List.Perm.trans ?_ (List.perm_insertionSort _ _).symm
    exact List.perm_append_comm.trans (List.filter_append_perm (fun e : String × D => p e.1) dirs.entries)
  have hsorted : ∀ d : Dict String D, (listing d).Pairwise fun e e' => e.1 ≤ e'.1 := by
    intro d
    have : Std.Total fun e e' : String × D => e.1 ≤ e'.1 := ⟨fun e e' => le_total e.1 e'.1⟩
    have : IsTrans (String × D) fun e e' => e.1 ≤ e'.1 := ⟨fun _ _ _ => le_trans⟩
    exact List.pairwise_insertionSort _ _
  have hmem : ∀ (d : Dict String D) e, e ∈ listing d ↔ e ∈ d.entries := by
    intro d e
    exact (List.perm_insertionSort _ _).mem_iff
  have heq : listing rest ++ listing (dirs.filterKeys p) = listing dirs := by
    apply List.Perm.eq_of_pairwise _ _ (hsorted dirs) hperm
    · -- two entries under one name are one entry
      intro e e' he he' hle hge
      have hin := (hmem dirs e).mp (hperm.mem_iff.mp he)
      have hin' := (hmem dirs e').mp he'
      exact List.inj_on_of_nodup_map dirs.nodup hin hin' (le_antisymm hle hge)
    · rw [List.pairwise_append]
      refine ⟨hsorted _, hsorted _, ?_⟩
      intro e he e' he'
      have hin := List.mem_filter.mp ((hmem _ e).mp he)
      have hin' := List.mem_filter.mp ((hmem _ e').mp he')
      apply hfirst
      · exact Dict.mem_keys_of_mem hin.1
      · simpa using hin.2
      · exact Dict.mem_keys_of_mem hin'.1
      · exact hin'.2
  have hlast : (listing (dirs.filterKeys p)).reverse ≠ [] := by
    intro hnil
    have hlength := (List.perm_insertionSort (fun e e' : String × D => e.1 ≤ e'.1)
      (dirs.filterKeys p).entries).length_eq
    rw [List.reverse_eq_nil_iff] at hnil
    apply hne
    rw [← List.length_eq_zero_iff, ← hlength]
    exact List.length_eq_zero_iff.mpr hnil
  unfold readLast
  rw [← heq, List.reverse_append]
  cases hreverse : (listing (dirs.filterKeys p)).reverse with
  | nil => exact absurd hreverse hlast
  | cons e es => rfl
/-! ## Logs -/

/-- The entries are those of the items `recorded`, in this order: numbered from zero, each read
back as it is, and few enough for the names to be in order. -/
structure Numbered (w : ℕ) (index : M → ℤ) (identity : M → String)
    (read : String → D → Except ε M) (dirs : Dict String D) (recorded : List M) : Prop where
  entries : List.Forall₂ (fun e m => e.1 = numberedName w (index m) (identity m) ∧
    read e.1 e.2 = .ok m) dirs.entries recorded
  indexes : recorded.map index = (List.range recorded.length).map fun i : ℕ => (i : ℤ)
  bounded : recorded.length ≤ 10 ^ w

namespace Numbered

variable {w : ℕ} {index : M → ℤ} {identity : M → String} {read : String → D → Except ε M}
  {dirs : Dict String D} {recorded : List M}

theorem empty : Numbered w index identity read .empty [] where
  entries := .nil
  indexes := rfl
  bounded := Nat.zero_le _

section

variable (h : Numbered w index identity read dirs recorded)
include h

/-- The item at a position has it as its index. -/
theorem index_eq {i : ℕ} {m : M}
    (hm : recorded[i]? = some m) : index m = i := by
  have hlt := (List.getElem?_eq_some_iff.mp hm).1
  have hi := congrArg (·[i]?) h.indexes
  simp only [List.getElem?_map, hm, List.getElem?_range hlt, Option.map_some,
    Option.some.injEq] at hi
  exact hi

theorem pairwise_index :
    recorded.Pairwise fun m m' => index m < index m' := by
  rw [List.pairwise_iff_getElem]
  intro i j hi hj hij
  rw [h.index_eq (List.getElem?_eq_getElem hi), h.index_eq (List.getElem?_eq_getElem hj)]
  omega

theorem length_entries :
    dirs.entries.length = recorded.length := h.entries.length_eq

/-- The names are in strict order. -/
theorem pairwise_lt (hw : 0 < w) :
    dirs.entries.Pairwise fun e e' => e.1 < e'.1 := by
  have hname : ∀ (i : ℕ) (hi : i < dirs.entries.length), ∃ m, recorded[i]? = some m ∧
      dirs.entries[i].1 = numberedName w i (identity m) := by
    intro i hi
    have hi' : i < recorded.length := h.length_entries ▸ hi
    have hm : recorded[i]? = some recorded[i] := List.getElem?_eq_getElem hi'
    refine ⟨recorded[i], hm, ?_⟩
    rw [← h.index_eq hm]
    exact ((List.forall₂_iff_get.mp h.entries).2 i hi hi').1
  rw [List.pairwise_iff_getElem]
  intro i j hi hj hij
  obtain ⟨m, -, hm⟩ := hname i hi
  obtain ⟨m', -, hm'⟩ := hname j hj
  rw [hm, hm']
  have hbound := h.bounded
  have hlength := h.length_entries
  exact numberedName_lt hw hij (by omega) _ _

theorem listing_eq (hw : 0 < w) :
    listing dirs = dirs.entries := by
  apply List.Pairwise.insertionSort_eq
  exact (h.pairwise_lt hw).imp fun hlt => le_of_lt hlt

/-- Readers get the items in the order in which they were added. -/
theorem readAll_eq (hw : 0 < w) :
    readAll read dirs = .ok recorded := by
  rw [readAll, h.listing_eq hw, mapM_eq_ok_iff]
  exact h.entries.imp fun _ _ he => he.2

theorem readLast_eq (hw : 0 < w) :
    readLast read dirs = .ok recorded.getLast? := by
  have hreverse := List.rel_reverse h.entries
  rw [readLast, h.listing_eq hw]
  cases hentries : dirs.entries.reverse with
  | nil =>
    rw [hentries, List.forall₂_nil_left_iff, List.reverse_eq_nil_iff] at hreverse
    rw [hreverse]
    rfl
  | cons e es =>
    rw [hentries] at hreverse
    obtain ⟨m, ms, he, -, hms⟩ := List.forall₂_cons_left_iff.mp hreverse
    have hlast : recorded.getLast? = some m := by
      rw [← List.head?_reverse, hms, List.head?_cons]
    rw [hlast]
    show (read e.1 e.2).map some = _
    rw [he.2]
    rfl

/-- The index after the last one is the number of items. -/
theorem nextIndex_eq :
    nextIndex index recorded.getLast? = recorded.length := by
  cases hlast : recorded.getLast? with
  | none =>
    rw [List.getLast?_eq_none_iff.mp hlast]
    rfl
  | some m =>
    rw [List.getLast?_eq_getElem?] at hlast
    have hm := h.index_eq hlast
    have hlt := (List.getElem?_eq_some_iff.mp hlast).1
    show index m + 1 = _
    omega

/-- A name with the next index is not taken. -/
theorem not_mem_keys (a : String) :
    numberedName w recorded.length a ∉ dirs.keys := by
  intro hmem
  obtain ⟨e, he, hname⟩ := List.mem_map.mp hmem
  obtain ⟨i, hi, hget⟩ := List.getElem_of_mem he
  have hi' : i < recorded.length := h.length_entries ▸ hi
  have hm : recorded[i]? = some recorded[i] := List.getElem?_eq_getElem hi'
  have hentry := ((List.forall₂_iff_get.mp h.entries).2 i hi hi').1
  simp only [List.get_eq_getElem, hget] at hentry
  rw [hname, h.index_eq hm, numberedName_inj] at hentry
  omega

/-- Add the next item. -/
theorem append {m : M} {d : D}
    (hlt : recorded.length < 10 ^ w) (hindex : index m = recorded.length)
    (hread : read (numberedName w (index m) (identity m)) d = .ok m) :
    Numbered w index identity read (dirs.set (numberedName w (index m) (identity m)) d)
      (recorded ++ [m]) where
  entries := by
    have hfresh : numberedName w (index m) (identity m) ∉ dirs.keys := by
      rw [hindex]
      exact h.not_mem_keys _
    rw [Dict.entries_set_of_not_mem hfresh]
    exact List.rel_append h.entries (.cons ⟨rfl, hread⟩ .nil)
  indexes := by
    rw [List.map_append, h.indexes, List.length_append, List.length_singleton, List.range_succ,
      List.map_append, List.map_singleton, List.map_singleton, hindex]
  bounded := by
    rw [List.length_append, List.length_singleton]
    omega

end

end Numbered

end Lib
