import Mathlib.Data.List.Nodup
import Mathlib.Data.List.Basic
import Mathlib.Data.List.Induction
import Mathlib.Algebra.BigOperators.Group.List.Basic
import Mathlib.Algebra.GroupWithZero.Nat
import Mathlib.Algebra.Order.BigOperators.Group.List

/-!
# Insertion-ordered dictionaries

A `Dict κ α` is a finite map that remembers the order in which its keys were first
inserted: assignment to a key that is present replaces the value in place, assignment to a
new key appends. The keys are distinct by construction.

The same type serves as a directory of files: `get?` opens a file, `set` creates or
replaces one, `erase` unlinks it and `entries` lists the directory.
-/

namespace Lib

/-- A finite map with distinct keys, listed in insertion order. -/
structure Dict (κ α : Type) where
  entries : List (κ × α)
  nodup : (entries.map Prod.fst).Nodup

namespace Dict

variable {κ α : Type}

@[ext]
theorem ext {d d' : Dict κ α} (h : d.entries = d'.entries) : d = d' := by
  cases d; cases d'; congr

instance [DecidableEq κ] [DecidableEq α] : DecidableEq (Dict κ α) := fun d d' =>
  decidable_of_iff (d.entries = d'.entries) ⟨ext, fun h => h ▸ rfl⟩

/-- The dictionary without entries. -/
def empty : Dict κ α := ⟨[], List.nodup_nil⟩

instance : Inhabited (Dict κ α) := ⟨empty⟩

/-- The keys, in insertion order. -/
def keys (d : Dict κ α) : List κ := d.entries.map Prod.fst

/-- The values, in insertion order of their keys. -/
def values (d : Dict κ α) : List α := d.entries.map Prod.snd

theorem nodup_entries (d : Dict κ α) : d.entries.Nodup := d.nodup.of_map

variable [DecidableEq κ]

/-- The value at `k` in a list of entries. -/
def lookup (k : κ) : List (κ × α) → Option α
  | [] => none
  | (k', v) :: es => if k' = k then some v else lookup k es

/-- Replace the value at `k` in place, or append a new entry. -/
def assign (k : κ) (v : α) : List (κ × α) → List (κ × α)
  | [] => [(k, v)]
  | (k', v') :: es => if k' = k then (k, v) :: es else (k', v') :: assign k v es

variable {d : Dict κ α} {k : κ} {es : List (κ × α)} {v : α} {p : κ → Bool}

theorem mem_keys_assign {k x : κ} :
    x ∈ (assign k v es).map Prod.fst ↔ x = k ∨ x ∈ es.map Prod.fst := by
  induction es with
  | nil => simp [assign]
  | cons e es ih =>
    obtain ⟨k', v'⟩ := e
    by_cases h : k' = k
    · simp [assign, h]
    · simp only [assign, if_neg h, List.map_cons, List.mem_cons, ih]
      tauto

theorem nodup_assign (h : (es.map Prod.fst).Nodup) : ((assign k v es).map Prod.fst).Nodup := by
  induction es with
  | nil => simp [assign]
  | cons e es ih =>
    obtain ⟨k', v'⟩ := e
    simp only [List.map_cons, List.nodup_cons] at h
    by_cases hk : k' = k
    · subst hk
      simpa [assign] using h
    · simp only [assign, if_neg hk, List.map_cons, List.nodup_cons]
      refine ⟨?_, ih h.2⟩
      rw [mem_keys_assign]
      rintro (rfl | hmem)
      · exact hk rfl
      · exact h.1 hmem

/-- The value at `k`. -/
def get? (d : Dict κ α) (k : κ) : Option α := lookup k d.entries

/-- Whether `k` is a key. -/
def contains (d : Dict κ α) (k : κ) : Bool := (d.get? k).isSome

/-- Assignment `d[k] = v`. -/
def set (d : Dict κ α) (k : κ) (v : α) : Dict κ α := ⟨assign k v d.entries, nodup_assign d.nodup⟩

/-- Deletion `del d[k]`; an absent key leaves the dictionary as it is. -/
def erase (d : Dict κ α) (k : κ) : Dict κ α :=
  ⟨d.entries.filter (fun e => e.1 ≠ k), d.nodup.sublist (List.filter_sublist.map _)⟩

/-- The entries whose keys pass a test. -/
def filterKeys (d : Dict κ α) (p : κ → Bool) : Dict κ α :=
  ⟨d.entries.filter (fun e => p e.1), d.nodup.sublist (List.filter_sublist.map _)⟩

/-! ## Lookup -/

theorem lookup_eq_some_iff (h : (es.map Prod.fst).Nodup) : lookup k es = some v ↔ (k, v) ∈ es := by
  induction es with
  | nil => simp [lookup]
  | cons e es ih =>
    obtain ⟨k', v'⟩ := e
    simp only [List.map_cons, List.nodup_cons] at h
    by_cases hk : k' = k
    · subst hk
      have hnot : (k', v) ∉ es := fun hmem => h.1 (List.mem_map_of_mem (f := Prod.fst) hmem)
      simp [lookup, hnot, eq_comm]
    · have hne : (k, v) ≠ (k', v') := fun he => hk (congrArg Prod.fst he).symm
      simp [lookup, hk, ih h.2, hne]

theorem lookup_eq_none_iff : lookup k es = none ↔ k ∉ es.map Prod.fst := by
  induction es with
  | nil => simp [lookup]
  | cons e es ih =>
    obtain ⟨k', v'⟩ := e
    by_cases hk : k' = k
    · simp [lookup, hk]
    · simp only [lookup, if_neg hk, ih, List.map_cons, List.mem_cons, not_or]
      exact ⟨fun h => ⟨fun he => hk he.symm, h⟩, fun h => h.2⟩

/-- `get?` finds exactly the listed entries. -/
theorem get?_eq_some_iff :
    d.get? k = some v ↔ (k, v) ∈ d.entries := lookup_eq_some_iff d.nodup

theorem get?_eq_none_iff : d.get? k = none ↔ k ∉ d.keys :=
  lookup_eq_none_iff

@[simp] theorem get?_empty (k : κ) : (empty : Dict κ α).get? k = none := rfl

theorem contains_iff_mem_keys : d.contains k = true ↔ k ∈ d.keys := by
  rw [contains, ← not_iff_not, ← get?_eq_none_iff]
  cases d.get? k <;> simp

omit [DecidableEq κ] in
theorem mem_keys_of_mem (h : (k, v) ∈ d.entries) : k ∈ d.keys :=
  List.mem_map_of_mem (f := Prod.fst) h

theorem mem_values_of_get? (h : d.get? k = some v) : v ∈ d.values :=
  List.mem_map_of_mem (f := Prod.snd) (get?_eq_some_iff.mp h)

theorem mem_values_iff : v ∈ d.values ↔ ∃ k, d.get? k = some v := by
  simp only [values, List.mem_map, Prod.exists, exists_eq_right, get?_eq_some_iff]

/-- The order of the entries does not matter to a lookup. -/
theorem get?_eq_of_perm {d d' : Dict κ α} (h : d.entries.Perm d'.entries) (k : κ) :
    d.get? k = d'.get? k := by
  ext v
  rw [get?_eq_some_iff, get?_eq_some_iff, h.mem_iff]

/-- A sum over the values, taken key by key. -/
theorem sum_map_get? {M : Type} [AddCommMonoid M] (d : Dict κ α) (f : α → M) :
    (d.keys.map fun k => ((d.get? k).map f).getD 0).sum = (d.values.map f).sum := by
  unfold keys values
  rw [List.map_map, List.map_map]
  congr 1
  apply List.map_congr_left
  intro e he
  have hget : d.get? e.1 = some e.2 := get?_eq_some_iff.mpr he
  simp [hget]

/-! ## Assignment and deletion -/

theorem lookup_assign (k x : κ) (v : α) (es : List (κ × α)) :
    lookup x (assign k v es) = if k = x then some v else lookup x es := by
  induction es with
  | nil => rfl
  | cons e es ih =>
    obtain ⟨k', v'⟩ := e
    by_cases hk : k' = k
    · subst hk
      by_cases hx : k' = x <;> simp [assign, lookup, hx]
    · simp only [assign, if_neg hk, lookup, ih]
      by_cases hx : k' = x
      · subst hx
        simp [Ne.symm hk]
      · simp [hx]

@[simp] theorem get?_set (d : Dict κ α) (k x : κ) (v : α) :
    (d.set k v).get? x = if k = x then some v else d.get? x := lookup_assign k x v d.entries

theorem lookup_filter (k x : κ) (es : List (κ × α)) :
    lookup x (es.filter (fun e => e.1 ≠ k)) = if k = x then none else lookup x es := by
  induction es with
  | nil => simp [lookup]
  | cons e es ih =>
    obtain ⟨k', v'⟩ := e
    by_cases hk : k' = k
    · subst hk
      rw [List.filter_cons_of_neg (by simp), ih]
      by_cases hx : k' = x <;> simp [lookup, hx]
    · rw [List.filter_cons_of_pos (by simpa using hk)]
      simp only [lookup, ih]
      by_cases hx : k' = x
      · subst hx
        simp [Ne.symm hk]
      · simp [hx]

@[simp] theorem get?_erase (d : Dict κ α) (k x : κ) :
    (d.erase k).get? x = if k = x then none else d.get? x := lookup_filter k x d.entries

theorem lookup_filterKeys (p : κ → Bool) (x : κ) (es : List (κ × α)) :
    lookup x (es.filter (fun e => p e.1)) = if p x = true then lookup x es else none := by
  induction es with
  | nil => simp [lookup]
  | cons e es ih =>
    obtain ⟨k, v⟩ := e
    by_cases hk : p k = true
    · rw [List.filter_cons_of_pos (by exact hk)]
      simp only [lookup, ih]
      by_cases hx : k = x
      · subst hx
        simp [hk]
      · simp [hx]
    · rw [List.filter_cons_of_neg (by exact hk), ih]
      by_cases hx : k = x
      · subst hx
        simp [hk]
      · simp [lookup, hx]

@[simp] theorem get?_filterKeys (d : Dict κ α) (p : κ → Bool) (x : κ) :
    (d.filterKeys p).get? x = if p x = true then d.get? x else none :=
  lookup_filterKeys p x d.entries

theorem mem_keys_set {k x : κ} :
    x ∈ (d.set k v).keys ↔ x = k ∨ x ∈ d.keys := mem_keys_assign

theorem mem_keys_erase {k x : κ} : x ∈ (d.erase k).keys ↔ x ≠ k ∧ x ∈ d.keys := by
  rw [← not_iff_not, ← get?_eq_none_iff, get?_erase]
  by_cases h : k = x
  · simp [h]
  · simp [h, Ne.symm h, get?_eq_none_iff]

theorem assign_eq_append (h : k ∉ es.map Prod.fst) : assign k v es = es ++ [(k, v)] := by
  induction es with
  | nil => rfl
  | cons e es ih =>
    obtain ⟨k', v'⟩ := e
    simp only [List.map_cons, List.mem_cons, not_or] at h
    rw [assign, if_neg (fun he => h.1 he.symm), ih h.2, List.cons_append]

/-- Assigning to a new key appends one entry. -/
theorem entries_set_of_not_mem (h : k ∉ d.keys) :
    (d.set k v).entries = d.entries ++ [(k, v)] := assign_eq_append h

/-- Assignment replaces the entry of the key, up to the order. -/
theorem entries_set_perm (d : Dict κ α) (k : κ) (v : α) :
    (d.set k v).entries.Perm ((d.erase k).entries ++ [(k, v)]) := by
  have hnew : (k, v) ∉ (d.erase k).entries := by
    intro hmem
    exact (mem_keys_erase.mp (mem_keys_of_mem hmem)).1 rfl
  have hnodup : ((d.erase k).entries ++ [(k, v)]).Nodup := by
    rw [List.nodup_append_comm]
    exact List.nodup_cons.mpr ⟨hnew, (d.erase k).nodup_entries⟩
  rw [List.perm_ext_iff_of_nodup (d.set k v).nodup_entries hnodup]
  rintro ⟨x, w⟩
  rw [List.mem_append, ← get?_eq_some_iff, ← get?_eq_some_iff, get?_set, get?_erase,
    List.mem_singleton, Prod.mk.injEq]
  by_cases hx : k = x
  · subst hx
    simp [eq_comm]
  · simp [hx, Ne.symm hx]

/-- Assignment to a key that is present keeps the keys. -/
theorem keys_set_of_mem (h : k ∈ d.keys) : (d.set k v).keys = d.keys := by
  have hassign : ∀ es : List (κ × α), k ∈ es.map Prod.fst →
      (assign k v es).map Prod.fst = es.map Prod.fst := by
    intro es hes
    induction es with
    | nil => simp at hes
    | cons e es ih =>
      unfold assign
      split
      · next hk => simp [hk]
      · next hk =>
        rw [List.map_cons, List.map_cons, ih]
        obtain hhead | htail := List.mem_cons.mp hes
        · exact absurd hhead.symm hk
        · exact htail
  exact hassign d.entries h

/-- Deleting the entry listed last removes just this entry. -/
theorem entries_erase_of_last (h : d.entries = es ++ [(k, v)]) : (d.erase k).entries = es := by
  have hnodup := d.nodup
  rw [h, List.map_append, List.nodup_append] at hnodup
  have hkeep : ∀ e ∈ es, e.1 ≠ k := fun e he =>
    hnodup.2.2 e.1 (List.mem_map_of_mem he) k (by simp)
  show d.entries.filter (fun e => e.1 ≠ k) = es
  rw [h, List.filter_append, List.filter_eq_self.mpr fun e he => by simpa using hkeep e he]
  simp

/-- A second assignment overwrites the first. -/
@[simp] theorem set_set (d : Dict κ α) (k : κ) (v v' : α) : (d.set k v).set k v' = d.set k v' := by
  ext1
  show assign k v' (assign k v d.entries) = assign k v' d.entries
  induction d.entries with
  | nil => simp [assign]
  | cons e es ih =>
    by_cases hk : e.1 = k
    · simp [assign, hk]
    · simp [assign, hk, ih]

/-- Assigning the value that is there changes nothing. -/
theorem set_eq_self (h : d.get? k = some v) : d.set k v = d := by
  have hassign : ∀ es : List (κ × α), lookup k es = some v → assign k v es = es := by
    intro es hes
    induction es with
    | nil => simp [lookup] at hes
    | cons e es ih =>
      obtain ⟨k', v'⟩ := e
      by_cases hk : k' = k
      · simp only [lookup, if_pos hk, Option.some.injEq] at hes
        simp [assign, hk, hes]
      · simp only [lookup, if_neg hk] at hes
        simp [assign, hk, ih hes]
  exact ext (hassign d.entries h)

/-- Deleting a key that was added gives the dictionary back. -/
theorem erase_set_of_not_mem (h : k ∉ d.keys) : (d.set k v).erase k = d :=
  ext (entries_erase_of_last (entries_set_of_not_mem h))

/-- Deleting a key that is not there changes nothing. -/
theorem erase_of_not_mem (h : k ∉ d.keys) : d.erase k = d := by
  refine ext (List.filter_eq_self.mpr ?_)
  intro e he
  have hne : e.1 ≠ k := fun hk => h (hk ▸ List.mem_map_of_mem he)
  simpa using hne

theorem mem_values_of_mem_set {v w : α} (h : w ∈ (d.set k v).values) : w = v ∨ w ∈ d.values := by
  obtain ⟨x, hx⟩ := mem_values_iff.mp h
  rw [get?_set] at hx
  by_cases hk : k = x
  · rw [if_pos hk, Option.some.injEq] at hx
    exact .inl hx.symm
  · rw [if_neg hk] at hx
    exact .inr (mem_values_of_get? hx)

theorem mem_values_of_mem_erase {w : α} (h : w ∈ (d.erase k).values) : w ∈ d.values := by
  obtain ⟨x, hx⟩ := mem_values_iff.mp h
  rw [get?_erase] at hx
  by_cases hk : k = x
  · simp [hk] at hx
  · rw [if_neg hk] at hx
    exact mem_values_of_get? hx

/-! ## Sums over the values -/

section Sums

variable {M : Type} [AddCommMonoid M] (f : α → M)

/-- Assigning `v` to a new key adds `f v` to a sum over the values. -/
theorem sum_set_of_not_mem {d : Dict κ α} {k : κ} {v : α} (h : k ∉ d.keys) :
    ((d.set k v).values.map f).sum = (d.values.map f).sum + f v := by
  simp [values, entries_set_of_not_mem h]

theorem sum_filter_of_mem {k : κ} {v : α} {es : List (κ × α)}
    (hnd : (es.map Prod.fst).Nodup) (h : (k, v) ∈ es) :
    (((es.filter (fun e => e.1 ≠ k)).map Prod.snd).map f).sum + f v
      = ((es.map Prod.snd).map f).sum := by
  induction es with
  | nil => simp at h
  | cons e es ih =>
    obtain ⟨k', v'⟩ := e
    simp only [List.map_cons, List.nodup_cons] at hnd
    by_cases hk : k' = k
    · subst hk
      have hv : v = v' := by
        rcases List.mem_cons.mp h with he | hmem
        · exact congrArg Prod.snd he
        · exact absurd (List.mem_map_of_mem (f := Prod.fst) hmem) hnd.1
      have hkeep : es.filter (fun e => e.1 ≠ k') = es := by
        refine List.filter_eq_self.mpr fun e he => ?_
        have : e.1 ≠ k' := fun hek => hnd.1 (hek ▸ List.mem_map_of_mem (f := Prod.fst) he)
        simpa using this
      rw [List.filter_cons_of_neg (by simp), hkeep, hv]
      simp [add_comm]
    · have hmem : (k, v) ∈ es := by
        rcases List.mem_cons.mp h with he | hmem
        · exact absurd (congrArg Prod.fst he).symm hk
        · exact hmem
      rw [List.filter_cons_of_pos (by simpa using hk)]
      simp only [List.map_cons, List.sum_cons]
      rw [add_assoc, ih hnd.2 hmem]

/-- Deleting a key takes its value's share out of a sum over the values. -/
theorem sum_erase_of_get? {d : Dict κ α} {k : κ} {v : α} (h : d.get? k = some v) :
    ((d.erase k).values.map f).sum + f v = (d.values.map f).sum :=
  sum_filter_of_mem f d.nodup (get?_eq_some_iff.mp h)

end Sums

/-- Deleting a key that is there leaves one entry less. -/
theorem length_erase_of_get? (h : d.get? k = some v) :
    (d.erase k).entries.length + 1 = d.entries.length := by
  have hlength (d : Dict κ α) : (d.values.map fun _ => 1).sum = d.entries.length := by
    rw [List.map_const', List.sum_replicate_nat, values, List.length_map, mul_one]
  have hcount := sum_erase_of_get? (fun _ => 1) h
  rwa [hlength, hlength] at hcount

/-- Assigning fresh keys one after another lists them in that order. -/
theorem entries_foldl_set {β : Type} {key : β → κ} {value : β → α} {l : List β}
    (h : (d.keys ++ l.map key).Nodup) :
    (l.foldl (fun d b => d.set (key b) (value b)) d).entries =
      d.entries ++ l.map fun b => (key b, value b) := by
  induction l generalizing d with
  | nil => simp
  | cons b l ih =>
    have hfresh : key b ∉ d.keys := by
      intro hb
      rw [List.nodup_append] at h
      exact h.2.2 _ hb _ (by simp) rfl
    have hset : (d.set (key b) (value b)).entries = d.entries ++ [(key b, value b)] :=
      entries_set_of_not_mem hfresh
    have hkeys : (d.set (key b) (value b)).keys = d.keys ++ [key b] := by
      simp [keys, hset]
    rw [List.foldl_cons, ih (by simpa [hkeys] using h), hset]
    simp

/-- A dictionary made from a list of distinct keys. -/
theorem get?_foldl_set {β : Type} {key : β → κ} {value : β → α} {l : List β}
    (h : (l.map key).Nodup) :
    (l.foldl (fun d b => d.set (key b) (value b)) empty).get? k = some v ↔
      ∃ b ∈ l, key b = k ∧ value b = v := by
  rw [get?_eq_some_iff, entries_foldl_set (by simpa [keys, empty] using h)]
  simp [empty]

/-- A dictionary made from a list in which a key comes with one value only. -/
theorem get?_foldl_set_of_functional {β : Type} {key : β → κ} {value : β → α} {l : List β}
    (h : ∀ b ∈ l, ∀ c ∈ l, key b = key c → value b = value c) :
    (l.foldl (fun d b => d.set (key b) (value b)) empty).get? k = some v ↔
      ∃ b ∈ l, key b = k ∧ value b = v := by
  induction l using List.reverseRecOn with
  | nil => simp
  | append_singleton l b ih =>
    have hrest := ih fun c hc c' hc' =>
      h c (List.mem_append_left _ hc) c' (List.mem_append_left _ hc')
    rw [List.foldl_append, List.foldl_cons, List.foldl_nil, get?_set]
    by_cases hk : key b = k
    · rw [if_pos hk, Option.some.injEq]
      constructor
      · rintro rfl
        exact ⟨b, by simp, hk, rfl⟩
      · rintro ⟨c, hc, hck, rfl⟩
        exact h b (by simp) c hc (hk.trans hck.symm)
    · rw [if_neg hk, hrest]
      refine exists_congr fun c => and_congr_left fun hc => ?_
      rw [List.mem_append, List.mem_singleton, or_iff_left]
      rintro rfl
      exact hk hc.1

/-! ## Entries that pass a test -/

theorem filterKeys_set_of_neg (hk : p k = false) : (d.set k v).filterKeys p = d.filterKeys p := by
  have hassign : ∀ es : List (κ × α),
      (assign k v es).filter (fun e => p e.1) = es.filter fun e => p e.1 := by
    intro es
    induction es with
    | nil => simp [assign, hk]
    | cons e es ih =>
      obtain ⟨k', v'⟩ := e
      by_cases heq : k' = k
      · subst heq
        simp [assign, hk]
      · simp only [assign, if_neg heq, List.filter_cons, ih]
  exact ext (hassign d.entries)

theorem filterKeys_set_of_pos (hk : p k = true) :
    (d.set k v).filterKeys p = (d.filterKeys p).set k v := by
  have hassign : ∀ es : List (κ × α),
      (assign k v es).filter (fun e => p e.1) = assign k v (es.filter fun e => p e.1) := by
    intro es
    induction es with
    | nil => simp [assign, hk]
    | cons e es ih =>
      obtain ⟨k', v'⟩ := e
      by_cases heq : k' = k
      · subst heq
        simp [assign, hk]
      · by_cases hk' : p k' = true
        · simp only [assign, if_neg heq, List.filter_cons, hk', if_true, ih]
        · simp only [assign, if_neg heq, List.filter_cons, hk', ih]
          rfl
  exact ext (hassign d.entries)

theorem filterKeys_erase_of_neg (hk : p k = false) : (d.erase k).filterKeys p = d.filterKeys p := by
  apply ext
  show (d.entries.filter _).filter _ = d.entries.filter _
  rw [List.filter_filter]
  apply List.filter_congr
  intro e _
  by_cases heq : e.1 = k
  · simp [heq, hk]
  · simp [heq]

omit [DecidableEq κ] in
theorem mem_keys_filterKeys : k ∈ (d.filterKeys p).keys ↔ p k = true ∧ k ∈ d.keys := by
  show k ∈ (d.entries.filter _).map Prod.fst ↔ _ ∧ k ∈ d.entries.map Prod.fst
  simp only [List.mem_map, List.mem_filter]
  constructor
  · intro ⟨e, ⟨he, hp⟩, hek⟩
    exact ⟨hek ▸ hp, e, he, hek⟩
  · intro ⟨hp, e, he, hek⟩
    exact ⟨e, ⟨he, hek ▸ hp⟩, hek⟩
end Dict
end Lib
