import Agintor.Contracts.RunEvidence
import Mathlib.Data.List.Perm.Subperm

/-!
# Equality of observed values

`==` of JSON values is transitive, and symmetric where no object has a key twice.
-/

namespace Agintor.Core.Json

/-- A property of scalars that arrays and objects inherit from what they hold. -/
theorem induct {P : Json → Prop}
    (scalar : ∀ value, (∀ items, value ≠ .array items) → (∀ fields, value ≠ .object fields) → P value)
    (array : ∀ items, (∀ item ∈ items, P item) → P (.array items))
    (object : ∀ fields : List (String × Json), (∀ field ∈ fields, P field.2) → P (.object fields))
    (value : Json) : P value := by
  refine Json.rec (motive_1 := P) (motive_2 := fun items => ∀ item ∈ items, P item)
    (motive_3 := fun fields => ∀ field ∈ fields, P field.2) (motive_4 := fun field => P field.2)
    ?_ ?_ ?_ ?_ ?_ ?_ array object ?_ ?_ ?_ ?_ ?_ value
  · exact scalar _ (fun _ h => nomatch h) (fun _ h => nomatch h)
  · exact fun _ => scalar _ (fun _ h => nomatch h) (fun _ h => nomatch h)
  · exact fun _ => scalar _ (fun _ h => nomatch h) (fun _ h => nomatch h)
  · exact fun _ => scalar _ (fun _ h => nomatch h) (fun _ h => nomatch h)
  · exact scalar _ (fun _ h => nomatch h) (fun _ h => nomatch h)
  · exact fun _ => scalar _ (fun _ h => nomatch h) (fun _ h => nomatch h)
  · exact fun item h => absurd h List.not_mem_nil
  · exact fun item items hitem hitems => List.forall_mem_cons.mpr ⟨hitem, hitems⟩
  · exact fun field h => absurd h List.not_mem_nil
  · exact fun field fields hfield hfields => List.forall_mem_cons.mpr ⟨hfield, hfields⟩
  · exact fun key item hitem => hitem

end Agintor.Core.Json

namespace Agintor.Contracts

open Core

mutual

/-- No object in the value has a key twice, as no dictionary has. -/
def distinctKeys : Json → Bool
  | .array items => distinctKeysItems items
  | .object fields => (fields.map Prod.fst).Nodup && distinctKeysFields fields
  | _ => true

def distinctKeysItems : List Json → Bool
  | [] => true
  | item :: items => distinctKeys item && distinctKeysItems items

def distinctKeysFields : List (String × Json) → Bool
  | [] => true
  | (_, item) :: fields => distinctKeys item && distinctKeysFields fields

end

lemma distinctKeysItems_eq_true {items : List Json} :
    distinctKeysItems items = true ↔ ∀ item ∈ items, distinctKeys item = true := by
  induction items with
  | nil => exact ⟨fun _ item h => absurd h List.not_mem_nil, fun _ => rfl⟩
  | cons item items ih =>
    show (distinctKeys item && distinctKeysItems items) = true ↔ _
    rw [Bool.and_eq_true, ih, List.forall_mem_cons]

variable {fields : List (String × Json)} {other : Json}

lemma distinctKeysFields_eq_true :
    distinctKeysFields fields = true ↔ ∀ field ∈ fields, distinctKeys field.2 = true := by
  induction fields with
  | nil => exact ⟨fun _ field h => absurd h List.not_mem_nil, fun _ => rfl⟩
  | cons field fields ih =>
    show (distinctKeys field.2 && distinctKeysFields fields) = true ↔ _
    rw [Bool.and_eq_true, ih, List.forall_mem_cons]

variable {items others : List Json}

lemma sameItems_eq_true :
    sameItems items others = true ↔
      List.Forall₂ (fun item other => sameJson item other = true) items others := by
  induction items generalizing others with
  | nil =>
    cases others with
    | nil => exact ⟨fun _ => List.Forall₂.nil, fun _ => rfl⟩
    | cons other others => exact ⟨fun h => absurd h Bool.false_ne_true, fun h => nomatch h⟩
  | cons item items ih =>
    cases others with
    | nil => exact ⟨fun h => absurd h Bool.false_ne_true, fun h => nomatch h⟩
    | cons other others =>
      show (sameJson item other && sameItems items others) = true ↔ _
      rw [Bool.and_eq_true, ih, List.forall₂_cons]

lemma sameFields_eq_true {fields others : List (String × Json)} :
    sameFields fields others = true ↔ ∀ field ∈ fields,
      ∃ other, Json.get? field.1 others = some other ∧ sameJson field.2 other = true := by
  induction fields with
  | nil => exact ⟨fun _ field h => absurd h List.not_mem_nil, fun _ => rfl⟩
  | cons field fields ih =>
    show ((Json.get? field.1 others).any (sameJson field.2) && sameFields fields others) = true ↔ _
    rw [Bool.and_eq_true, ih, List.forall_mem_cons, Option.any_eq_true]

lemma mem_of_get? {key : String} {item : Json} (h : Json.get? key fields = some item) :
    (key, item) ∈ fields := by
  unfold Json.get? at h
  obtain ⟨field, hfind, rfl⟩ := Option.map_eq_some_iff.mp h
  have hkey : field.1 = key := by simpa using List.find?_some hfind
  subst hkey
  exact List.mem_of_find?_eq_some hfind

lemma get?_of_mem {key : String} {item : Json} (hnodup : (fields.map Prod.fst).Nodup)
    (h : (key, item) ∈ fields) : Json.get? key fields = some item := by
  unfold Json.get?
  obtain ⟨field, hfind⟩ := Option.isSome_iff_exists.mp
    (List.find?_isSome.mpr ⟨(key, item), h, by simp⟩ : (fields.find? fun field => field.1 = key).isSome)
  have hkey : field.1 = key := by simpa using List.find?_some hfind
  have heq := List.inj_on_of_nodup_map hnodup (List.mem_of_find?_eq_some hfind) h hkey
  rw [hfind, heq]
  rfl

/-- Objects are the same if the others' keys are theirs and the items under them are the same. -/
lemma sameJson_object {fields others : List (String × Json)} :
    sameJson (.object fields) (.object others) = true ↔ fields.length = others.length ∧
      ∀ field ∈ fields,
        ∃ other, Json.get? field.1 others = some other ∧ sameJson field.2 other = true := by
  show (fields.length == others.length && sameFields fields others) = true ↔ _
  rw [Bool.and_eq_true, beq_iff_eq, sameFields_eq_true]

lemma sameJson_array :
    sameJson (.array items) (.array others) = true ↔
      List.Forall₂ (fun item other => sameJson item other = true) items others := by
  show sameItems items others = true ↔ _
  rw [sameItems_eq_true]

lemma sameJson_null : sameJson .null other = true ↔ other = .null := by
  cases other with
  | null => exact ⟨fun _ => rfl, fun _ => rfl⟩
  | _ => exact ⟨fun h => absurd h Bool.false_ne_true, fun h => nomatch h⟩

lemma sameJson_str {text : String} : sameJson (.str text) other = true ↔ other = .str text := by
  cases other with
  | str value =>
    show (text == value) = true ↔ _
    rw [beq_iff_eq, Json.str.injEq]
    exact eq_comm
  | _ => exact ⟨fun h => absurd h Bool.false_ne_true, fun h => nomatch h⟩

lemma sameJson_number {value other : Json} {q : ℚ} (h : jsonNumber value = some q) :
    sameJson value other = true ↔ jsonNumber other = some q := by
  have hsame : sameJson value other = ((jsonNumber value).isSome && jsonNumber value == jsonNumber other) := by
    cases value with
    | bool b => cases other <;> rfl
    | int n => cases other <;> rfl
    | float r => cases other <;> rfl
    | _ => exact absurd h (by simp [jsonNumber])
  rw [hsame, h, Option.isSome_some, Bool.true_and, beq_iff_eq]
  exact eq_comm

/-- Scalars that are the same as anything. -/
lemma scalar_of_same {value other : Json} (harray : ∀ items, value ≠ .array items)
    (hobject : ∀ fields, value ≠ .object fields) (h : sameJson value other = true) :
    value = .null ∨ (∃ text, value = .str text) ∨ ∃ q, jsonNumber value = some q := by
  cases value with
  | array items => exact absurd rfl (harray items)
  | object fields => exact absurd rfl (hobject fields)
  | null => exact Or.inl rfl
  | str text => exact Or.inr (Or.inl ⟨text, rfl⟩)
  | nonFinite =>
    have hfalse : sameJson .nonFinite other = false := by cases other <;> rfl
    rw [hfalse] at h
    cases h
  | bool b => exact Or.inr (Or.inr ⟨_, rfl⟩)
  | int n => exact Or.inr (Or.inr ⟨_, rfl⟩)
  | float q => exact Or.inr (Or.inr ⟨_, rfl⟩)

lemma sameJson_array_left {items : List Json} (h : sameJson (.array items) other = true) :
    ∃ others, other = .array others := by
  cases other with
  | array others => exact ⟨others, rfl⟩
  | _ => exact absurd h Bool.false_ne_true

lemma sameJson_object_left (h : sameJson (.object fields) other = true) :
    ∃ others, other = .object others := by
  cases other with
  | object others => exact ⟨others, rfl⟩
  | _ => exact absurd h Bool.false_ne_true

theorem sameJson_trans (a : Json) :
    ∀ b c, sameJson a b = true → sameJson b c = true → sameJson a c = true := by
  induction a using Json.induct with
  | scalar a harray hobject =>
    intro b c hab hbc
    rcases scalar_of_same harray hobject hab with rfl | ⟨text, rfl⟩ | ⟨q, ha⟩
    · rw [sameJson_null] at hab
      rwa [hab] at hbc
    · rw [sameJson_str] at hab
      rwa [hab] at hbc
    · rw [sameJson_number ha] at hab ⊢
      rwa [sameJson_number hab] at hbc
  | array items ih =>
    intro b c hab hbc
    obtain ⟨others, rfl⟩ := sameJson_array_left hab
    obtain ⟨thirds, rfl⟩ := sameJson_array_left hbc
    rw [sameJson_array] at hab hbc ⊢
    induction hab generalizing thirds with
    | nil => exact hbc
    | cons hhead htail ihtail =>
      obtain ⟨third, rest, hthird, hrest, rfl⟩ := List.forall₂_cons_left_iff.mp hbc
      exact List.Forall₂.cons (ih _ List.mem_cons_self _ _ hhead hthird)
        (ihtail (fun item hitem => ih item (List.mem_cons_of_mem _ hitem)) rest hrest)
  | object fields ih =>
    intro b c hab hbc
    obtain ⟨others, rfl⟩ := sameJson_object_left hab
    obtain ⟨thirds, rfl⟩ := sameJson_object_left hbc
    rw [sameJson_object] at hab hbc ⊢
    refine ⟨hab.1.trans hbc.1, fun field hfield => ?_⟩
    obtain ⟨other, hget, hsame⟩ := hab.2 field hfield
    obtain ⟨third, hget', hsame'⟩ := hbc.2 _ (mem_of_get? hget)
    exact ⟨third, hget', ih field hfield _ _ hsame hsame'⟩

theorem sameJson_symm (a : Json) :
    ∀ b, distinctKeys a = true → sameJson a b = true → sameJson b a = true := by
  induction a using Json.induct with
  | scalar a harray hobject =>
    intro b _ hab
    rcases scalar_of_same harray hobject hab with rfl | ⟨text, rfl⟩ | ⟨q, ha⟩
    · rw [sameJson_null.mp hab, sameJson_null]
    · rw [sameJson_str.mp hab, sameJson_str]
    · rw [sameJson_number ha] at hab
      rwa [sameJson_number hab]
  | array items ih =>
    intro b hdistinct hab
    obtain ⟨others, rfl⟩ := sameJson_array_left hab
    rw [sameJson_array] at hab ⊢
    change distinctKeysItems items = true at hdistinct
    rw [distinctKeysItems_eq_true] at hdistinct
    induction hab with
    | nil => exact List.Forall₂.nil
    | cons hhead _ ihtail =>
      rw [List.forall_mem_cons] at ih hdistinct
      exact List.Forall₂.cons (ih.1 _ hdistinct.1 hhead) (ihtail ih.2 hdistinct.2)
  | object fields ih =>
    intro b hdistinct hab
    obtain ⟨others, rfl⟩ := sameJson_object_left hab
    rw [sameJson_object] at hab ⊢
    change ((fields.map Prod.fst).Nodup && distinctKeysFields fields) = true at hdistinct
    rw [Bool.and_eq_true, decide_eq_true_eq, distinctKeysFields_eq_true] at hdistinct
    obtain ⟨hlength, hfields⟩ := hab
    -- the keys are those of the other object, each once
    have hsubset : fields.map Prod.fst ⊆ others.map Prod.fst := by
      intro key hkey
      obtain ⟨field, hfield, rfl⟩ := List.mem_map.mp hkey
      obtain ⟨other, hget, -⟩ := hfields field hfield
      exact List.mem_map.mpr ⟨(field.1, other), mem_of_get? hget, rfl⟩
    have hperm := (List.subperm_of_subset hdistinct.1 hsubset).perm_of_length_le
      (by rw [List.length_map, List.length_map, hlength])
    have hnodup : (others.map Prod.fst).Nodup := hperm.nodup_iff.mp hdistinct.1
    refine ⟨hlength.symm, fun field hfield => ?_⟩
    obtain ⟨own, hown, hkey⟩ := List.mem_map.mp (hperm.mem_iff.mpr (List.mem_map_of_mem hfield))
    obtain ⟨other, hget, hsame⟩ := hfields own hown
    have hother : other = field.2 := by
      have hget' := get?_of_mem hnodup (show (field.1, field.2) ∈ others from hfield)
      rw [hkey] at hget
      exact Option.some.inj (hget.symm.trans hget')
    refine ⟨own.2, ?_, ?_⟩
    · rw [← hkey]
      exact get?_of_mem hdistinct.1 hown
    · rw [← hother]
      exact ih own hown other (hdistinct.2 own hown) hsame

namespace ObservedValue

variable {a b : ObservedValue}

lemma same_eq_true : a.same b = true ↔
    sameJson a.value b.value = true ∧ a.valueDigest = b.valueDigest ∧
      a.serializedBytes = b.serializedBytes := by
  unfold same
  simp only [Bool.and_eq_true, beq_iff_eq, and_assoc]

theorem same_trans {a b c : ObservedValue} (hab : a.same b = true) (hbc : b.same c = true) :
    a.same c = true := by
  rw [same_eq_true] at *
  exact ⟨sameJson_trans _ _ _ hab.1 hbc.1, hab.2.1.trans hbc.2.1, hab.2.2.trans hbc.2.2⟩

theorem same_symm (ha : distinctKeys a.value = true) (hab : a.same b = true) : b.same a = true := by
  rw [same_eq_true] at *
  exact ⟨sameJson_symm _ _ ha hab.1, hab.2.1.symm, hab.2.2.symm⟩

end ObservedValue

end Agintor.Contracts
