import Agintor.Core.Json
import Agintor.Lib.Raise

/-!
# Models read from JSON

What `model_validate` does with a dictionary under `extra="forbid"`: every key must be the name of
a field, a field that is not there takes its default, and every value is read by the validator of
its field. How a value of another type is taken for a number or a boolean is left open.
-/

namespace Agintor.Core

open Lib

/-- A float. -/
inductive FloatValue
  | finite (q : ℚ)
  | nonFinite

def FloatValue.toJson : FloatValue → Json
  | .finite q => .float q
  | .nonFinite => .nonFinite

/-- The conversions that validators make of values of another type, where they make one. A value
of the type itself is taken as it is. -/
structure LaxMode where
  int : Json → Option ℤ
  float : Json → Option FloatValue
  bool : Json → Option Bool
  int_int : ∀ n, int (.int n) = some n
  float_float : ∀ x : FloatValue, float x.toJson = some x
  bool_bool : ∀ b, bool (.bool b) = some b

/-- No conversions: what validators do in strict mode, but that an integer is no float. -/
def LaxMode.strict : LaxMode where
  int := fun value => match value with
    | .int n => some n
    | _ => none
  float := fun value => match value with
    | .float q => some (.finite q)
    | .nonFinite => some .nonFinite
    | _ => none
  bool := fun value => match value with
    | .bool b => some b
    | _ => none
  int_int := fun _ => rfl
  float_float := fun x => by cases x <;> rfl
  bool_bool := fun _ => rfl

/-- What `model_validate` raises, which is a `ValueError`. -/
inductive ValidationError
  | missing (field : String)
  | extraForbidden (field : String)
  | wrongType
  | value (message : String)
deriving DecidableEq

namespace Json

/-! ## Values -/

def readStr : Json → Except ValidationError String
  | .null => .error .wrongType
  | .str s => .ok s
  | _ => .error .wrongType

/-- The text that a value is, if it is one. -/
def text? : Json → Option String
  | .null => none
  | .str s => some s
  | _ => none

/-- `Optional[str]` -/
def readOptionalStr : Json → Except ValidationError (Option String)
  | .null => .ok none
  | .str s => .ok (some s)
  | _ => .error .wrongType

/-- `dict[str, Any]` -/
def readDict : Json → Except ValidationError (List (String × Json))
  | .null => .error .wrongType
  | .object fields => .ok fields
  | _ => .error .wrongType

def readList {α : Type} (read : Json → Except ValidationError α) :
    Json → Except ValidationError (List α)
  | .array items => items.mapM read
  | _ => .error .wrongType

/-- What a conversion of `LaxMode` makes of a value. -/
def readLax {α : Type} (convert : Json → Option α) (value : Json) : Except ValidationError α :=
  (convert value).elim (.error .wrongType) .ok

/-- `Literal[...]`: the names of the members of an enumeration. -/
def readLiteral {α : Type} (name : α → String) (members : List α) :
    Json → Except ValidationError α
  | .null => .error .wrongType
  | .str s => (members.find? fun member => name member = s).elim (.error .wrongType) .ok
  | _ => .error .wrongType

/-- The fields of a model, all of them known. -/
def readObject (known : List String) : Json → Except ValidationError (List (String × Json))
  | .null => .error .wrongType
  | .object fields =>
    (fields.find? fun field => !known.contains field.1).elim (.ok fields) fun field =>
      .error (.extraForbidden field.1)
  | _ => .error .wrongType

/-- The value of a field. -/
def readField {α : Type} (key : String) (read : Json → Except ValidationError α)
    (default : Option α) (fields : List (String × Json)) : Except ValidationError α :=
  (get? key fields).elim (default.elim (.error (.missing key)) .ok) read

/-! ## Dictionaries -/

/-- `fields[key] = value` -/
def set (key : String) (value : Json) : List (String × Json) → List (String × Json)
  | [] => [(key, value)]
  | field :: fields =>
    if field.1 = key then (key, value) :: fields else field :: set key value fields

/-- The dump of `model_copy(update=patch)`: an attribute that is no field is not dumped. -/
def overridden (patch fields : List (String × Json)) : List (String × Json) :=
  fields.map fun field => (field.1, (get? field.1 patch).getD field.2)

/-- `{**fields, **patch}` -/
def merged (fields patch : List (String × Json)) : List (String × Json) :=
  patch.foldl (fun fields field => set field.1 field.2 fields) fields

/-- `value.get(key, default)` of a dictionary. -/
def getD (key : String) (default : Json) (fields : List (String × Json)) : Json :=
  (get? key fields).getD default

@[simp] theorem get?_nil (key : String) : get? key [] = none := rfl

theorem get?_cons (key : String) (field : String × Json) (fields : List (String × Json)) :
    get? key (field :: fields) = if field.1 = key then some field.2 else get? key fields := by
  by_cases h : field.1 = key <;> simp [get?, h]

theorem get?_append (key : String) (fields rest : List (String × Json)) :
    get? key (fields ++ rest) = (get? key fields).or (get? key rest) := by
  induction fields with
  | nil => simp
  | cons field fields ih =>
    rw [List.cons_append, get?_cons, get?_cons, ih]
    by_cases h : field.1 = key <;> simp [h]

theorem mem_set_self (key : String) (value : Json) (fields : List (String × Json)) :
    (key, value) ∈ set key value fields := by
  induction fields with
  | nil => exact List.mem_singleton_self _
  | cons field fields ih =>
    unfold set
    split
    · exact List.mem_cons_self
    · exact List.mem_cons_of_mem _ ih

variable {key : String} {value : Json}

theorem mem_set_of_mem {field : String × Json} {fields : List (String × Json)} (h : field ∈ fields)
    (hne : field.1 ≠ key) : field ∈ set key value fields := by
  induction fields with
  | nil => exact absurd h List.not_mem_nil
  | cons first fields ih =>
    unfold set
    rcases List.mem_cons.mp h with rfl | h
    · rw [if_neg hne]
      exact List.mem_cons_self
    · split
      · exact List.mem_cons_of_mem _ h
      · exact List.mem_cons_of_mem _ (ih h)

theorem of_mem_set {field : String × Json} {fields : List (String × Json)}
    (h : field ∈ set key value fields) : field = (key, value) ∨ field ∈ fields := by
  induction fields with
  | nil => exact Or.inl (List.mem_singleton.mp h)
  | cons first fields ih =>
    unfold set at h
    split at h
    · exact (List.mem_cons.mp h).imp_right (List.mem_cons_of_mem first)
    · rcases List.mem_cons.mp h with rfl | h
      · exact Or.inr List.mem_cons_self
      · exact (ih h).imp_right (List.mem_cons_of_mem first)

/-! ## Reading what was dumped -/

variable {α : Type} {fields : List (String × Json)}

@[simp] theorem readStr_str (s : String) : readStr (.str s) = .ok s := rfl

@[simp] theorem readOptionalStr_str (s : String) : readOptionalStr (.str s) = .ok (some s) := rfl

@[simp] theorem readOptionalStr_null : readOptionalStr .null = .ok none := rfl

@[simp] theorem readDict_object (fields : List (String × Json)) :
    readDict (.object fields) = .ok fields := rfl

@[simp] theorem readLax_int (L : LaxMode) (n : ℤ) : readLax L.int (.int n) = .ok n := by
  rw [readLax, L.int_int]
  rfl

@[simp] theorem readLax_float (L : LaxMode) (x : FloatValue) : readLax L.float x.toJson = .ok x := by
  rw [readLax, L.float_float]
  rfl

@[simp] theorem readLax_bool (L : LaxMode) (b : Bool) : readLax L.bool (.bool b) = .ok b := by
  rw [readLax, L.bool_bool]
  rfl

/-- Dumped values are read back one by one. -/
theorem readList_map {read : Json → Except ValidationError α} {dump : α → Json} {xs : List α}
    (h : ∀ x ∈ xs, read (dump x) = .ok x) : readList read (.array (xs.map dump)) = .ok xs := by
  show (xs.map dump).mapM read = .ok xs
  induction xs with
  | nil => rfl
  | cons x xs ih =>
    rw [List.map_cons, List.mapM_cons, h x List.mem_cons_self,
      ih fun y hy => h y (List.mem_cons_of_mem x hy)]
    rfl

@[simp] theorem readList_str (xs : List String) :
    readList readStr (.array (xs.map .str)) = .ok xs := readList_map fun _ _ => rfl

theorem readObject_of_known {known : List String} (h : ∀ key ∈ fields.map Prod.fst, key ∈ known) :
    readObject known (.object fields) = .ok fields := by
  have hnone : (fields.find? fun field => !known.contains field.1) = none := by
    rw [List.find?_eq_none]
    intro field hfield
    simpa using h field.1 (List.mem_map_of_mem hfield)
  simp only [readObject, hnone, Option.elim_none]

theorem readField_of_get? {read : Json → Except ValidationError α} {default : Option α}
    (h : get? key fields = some value) :
    readField key read default fields = read value := by
  unfold readField
  rw [h, Option.elim_some]

theorem readField_of_none {read : Json → Except ValidationError α} {x : α}
    (h : get? key fields = none) : readField key read (some x) fields = .ok x := by
  unfold readField
  rw [h]
  rfl

/-- A field is read the same from dictionaries that agree on it. -/
theorem readField_congr {read : Json → Except ValidationError α} {default : Option α}
    {fields' : List (String × Json)} (h : get? key fields = get? key fields') :
    readField key read default fields = readField key read default fields' := by
  unfold readField
  rw [h]

end Json

end Agintor.Core
