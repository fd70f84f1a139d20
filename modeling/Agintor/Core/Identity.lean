import Agintor.Core.Text
import Agintor.Lib.Framing
import Agintor.Lib.Raise
import Mathlib.Data.Finset.Basic

/-!
# Canonical identities

The typed encoding of `core/identity.py`. A `Value` is a finite tree of the supported
Python types. A pydantic model or a dataclass is encoded as the mapping of its fields
(`Value.record`), so it is no constructor of its own; a tree has no cycles, so the check for
cyclic containers has nothing to refuse.
-/

namespace Agintor.Core

open Lib

/-! ## Values -/

/-- A binary64 number as the encoding sees it: all NaNs are one, zeros keep their sign. -/
inductive PyFloat
  | nan
  | inf (negative : Bool)
  | finite (negative : Bool) (exponent : Fin 2047) (fraction : Fin (2 ^ 52))
deriving DecidableEq

inductive Value
  | none
  /-- An enum member: the qualified name of its class, and its `value`. -/
  | enum (typeName : String) (value : Value)
  | bool (b : Bool)
  | int (n : ℤ)
  | float (x : PyFloat)
  | str (s : String)
  | bytes (b : Bytes)
  /-- A pure path, by `as_posix()`. -/
  | path (posix : String)
  | mapping (entries : List (Value × Value))
  | list (items : List Value)
  | tuple (items : List Value)
  | set (items : List Value)
  | frozenset (items : List Value)

/-- A model or a dataclass stands for the mapping from its field names to its fields. -/
def Value.record (fields : List (String × Value)) : Value :=
  .mapping (fields.map fun f => (.str f.1, f.2))

/-! ## Text forms -/

def hexDigit (d : ℕ) : Char := Nat.digitChar d

/-- The text of a finite number after its sign. -/
def PyFloat.hexBody (exponent : Fin 2047) (fraction : Fin (2 ^ 52)) : List Char :=
  if exponent = 0 ∧ fraction = 0 then "0x0.0p+0".toList
  else if exponent = 0 then
    "0x0.".toList ++ (positional hexDigit 16 13 fraction ++ "p-1022".toList)
  else
    "0x1.".toList ++ (positional hexDigit 16 13 fraction ++ 'p' ::
      if 1023 ≤ exponent.val then '+' :: Nat.toDigits 10 (exponent.val - 1023)
      else '-' :: Nat.toDigits 10 (1023 - exponent.val))

def signText (negative : Bool) : List Char := if negative then ['-'] else []

/-- `float.hex()`, and `"nan"` for every NaN. -/
def PyFloat.hex : PyFloat → List Char
  | .nan => "nan".toList
  | .inf negative => signText negative ++ "inf".toList
  | .finite negative exponent fraction => signText negative ++ hexBody exponent fraction

/-- `str(n)` for an `int`. -/
def intText (n : ℤ) : List Char :=
  if n < 0 then '-' :: Nat.toDigits 10 n.natAbs else Nat.toDigits 10 n.natAbs

/-! ## Encoding -/

inductive IdentityError
  /-- `OverflowError` of `int.to_bytes`. -/
  | intTooBig
  /-- `ValueError("canonical identity domain may not be empty")` -/
  | emptyDomain
deriving DecidableEq

/-- `n.to_bytes(8, byteorder="big", signed=False)` -/
def toBytes8 (n : ℕ) : Except IdentityError Bytes := do
  raiseIf (2 ^ 64 ≤ n) .intTooBig
  return bigEndian 8 n

/-- A one-byte ASCII literal, as used for the tags. -/
def ascii (c : Char) : UInt8 := UInt8.ofNat c.toNat

/-- `_frame` -/
def frame (tag : Char) (payload : Bytes) : Except IdentityError Bytes := do
  let length ← toBytes8 payload.length
  return ascii tag :: (length ++ payload)

/-- The order in which mapping entries are sorted: by encoded key, then by encoded item. -/
def EntryLe (e e' : Bytes × Bytes) : Prop := e.1 < e'.1 ∨ e.1 = e'.1 ∧ e.2 ≤ e'.2

instance : DecidableRel EntryLe := fun _ _ => inferInstanceAs (Decidable (_ ∨ _))

mutual

/-- `_encode` -/
def encode : Value → Except IdentityError Bytes
  | .none => frame 'n' []
  | .enum typeName value => do
    let c ← frame 'c' (utf8 typeName)
    let v ← encode value
    frame 'e' (c ++ v)
  | .bool b => frame 'b' [ascii (if b then '1' else '0')]
  | .int n => frame 'i' (utf8 (String.ofList (intText n)))
  | .float x => frame 'f' (utf8 (String.ofList x.hex))
  | .str s => frame 's' (utf8 s)
  | .bytes b => frame 'y' b
  | .path posix => frame 'p' (utf8 posix)
  | .mapping entries => do
    let encoded ← encodeEntries entries
    let sorted := encoded.insertionSort EntryLe
    let count ← toBytes8 sorted.length
    frame 'm' (count ++ (sorted.map fun e => e.1 ++ e.2).flatten)
  | .list items => do
    let count ← toBytes8 items.length
    let encoded ← encodeItems items
    frame 'l' (count ++ encoded.flatten)
  | .tuple items => do
    let count ← toBytes8 items.length
    let encoded ← encodeItems items
    frame 't' (count ++ encoded.flatten)
  | .set items => do
    let sorted := (← encodeItems items).insertionSort (· ≤ ·)
    let count ← toBytes8 sorted.length
    frame 'u' (count ++ sorted.flatten)
  | .frozenset items => do
    let sorted := (← encodeItems items).insertionSort (· ≤ ·)
    let count ← toBytes8 sorted.length
    frame 'r' (count ++ sorted.flatten)

/-- The encodings of the items of a container, in iteration order. -/
def encodeItems : List Value → Except IdentityError (List Bytes)
  | [] => return []
  | item :: items => do
    let b ← encode item
    let bs ← encodeItems items
    return b :: bs

/-- The encodings of the entries of a mapping, in iteration order. -/
def encodeEntries : List (Value × Value) → Except IdentityError (List (Bytes × Bytes))
  | [] => return []
  | (key, item) :: entries => do
    let k ← encode key
    let v ← encode item
    let es ← encodeEntries entries
    return (k, v) :: es

end

/-- `CANONICAL_IDENTITY_VERSION` -/
def canonicalIdentityVersion : String := "agintor.identity.v1"

/-- `_FORMAT_PREFIX` -/
def formatPrefix : Bytes := utf8 canonicalIdentityVersion ++ [0]

def canonicalIdentityBytes (value : Value) : Except IdentityError Bytes := do
  let b ← encode value
  return formatPrefix ++ b

/-! ## Domains -/

/-- The byte string `canonical_identity_digest` hashes. -/
def digestPayload (value : Value) (domain : String) : Except IdentityError Bytes := do
  let normalizedDomain := strip domain
  raiseIf (normalizedDomain = "") .emptyDomain
  let d ← frame 'D' (utf8 normalizedDomain)
  let v ← encode value
  return formatPrefix ++ d ++ v

end Agintor.Core
