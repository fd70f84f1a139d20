import Agintor.Core.Text
import Mathlib.Data.Rat.Defs

/-!
# JSON values

What `json.loads` and `model_dump(mode="json")` give. An integer and a float are different values,
as they are in Python.
-/

namespace Agintor.Core

inductive Json
  | null
  | bool (b : Bool)
  | int (n : ℤ)
  | float (q : ℚ)
  /-- NaN and the infinities. -/
  | nonFinite
  | str (s : String)
  | array (items : List Json)
  | object (fields : List (String × Json))

namespace Json

mutual

/-- Whether every leaf passes the first check, and every entry of an object the second. -/
def all (leaf : Json → Bool) (entry : String → Json → Bool) : Json → Bool
  | .array items => allItems leaf entry items
  | .object fields => allFields leaf entry fields
  | value => leaf value

def allItems (leaf : Json → Bool) (entry : String → Json → Bool) : List Json → Bool
  | [] => true
  | item :: items => all leaf entry item && allItems leaf entry items

def allFields (leaf : Json → Bool) (entry : String → Json → Bool) : List (String × Json) → Bool
  | [] => true
  | (key, item) :: fields =>
    entry key item && all leaf entry item && allFields leaf entry fields

end

variable {leaf : Json → Bool} {entry : String → Json → Bool}

@[simp] theorem all_array (items : List Json) :
    all leaf entry (.array items) = items.all (all leaf entry) := by
  show allItems leaf entry items = _
  induction items with
  | nil => rfl
  | cons item items ih => rw [allItems, ih, List.all_cons]

@[simp] theorem all_object (fields : List (String × Json)) :
    all leaf entry (.object fields) =
      fields.all fun field => entry field.1 field.2 && all leaf entry field.2 := by
  show allFields leaf entry fields = _
  induction fields with
  | nil => rfl
  | cons field fields ih => rw [allFields, ih, List.all_cons]

/-- `value.get(key)` -/
def get? (key : String) (fields : List (String × Json)) : Option Json :=
  (fields.find? fun field => field.1 = key).map Prod.snd

/-- `bool(value)` -/
def truthy : Json → Bool
  | .null => false
  | .bool b => b
  | .int n => n ≠ 0
  | .float q => q ≠ 0
  | .nonFinite => true
  | .str s => s ≠ ""
  | .array items => !items.isEmpty
  | .object fields => !fields.isEmpty

end Json

/-- `canonical_identity_digest` of JSON payloads: a lowercase SHA-256 digest for each domain and
payload. -/
structure Identities where
  canonicalIdentityDigest : String → Json → String
  isDigest : ∀ domain payload, isDigest (canonicalIdentityDigest domain payload) = true

end Agintor.Core
