import Agintor.Lib.Dict
import Agintor.Lib.Substitution
import Mathlib.Data.List.Dedup

/-!
# Redaction

`redact_sensitive_text` of `core/redaction.py`. Texts are lists of characters. The order in which
Python lists a set is a parameter.
-/

namespace Agintor.Core.Redaction

open Lib

def placeholder : List Char := "[REDACTED_CREDENTIAL]".toList

def credentialEnvMarkers : List (List Char) :=
  ["API_KEY".toList, "AUTH".toList, "CREDENTIAL".toList, "KEY_FILE".toList, "PASSWORD".toList,
    "SECRET".toList, "TOKEN".toList]

/-- `c.upper()`. A character whose upper case has no ASCII letter is left as it is: no marker has
it. -/
def upperChar (c : Char) : List Char :=
  match c.toNat with
  | 0x00DF => ['S', 'S']
  | 0x0131 => ['I']
  | 0x0149 => ['ʼ', 'N']
  | 0x017F => ['S']
  | 0x01F0 => ['J', Char.ofNat 0x030C]
  | 0x1E96 => ['H', Char.ofNat 0x0331]
  | 0x1E97 => ['T', Char.ofNat 0x0308]
  | 0x1E98 => ['W', Char.ofNat 0x030A]
  | 0x1E99 => ['Y', Char.ofNat 0x030A]
  | 0x1E9A => ['A', Char.ofNat 0x02BE]
  | 0xFB00 => ['F', 'F']
  | 0xFB01 => ['F', 'I']
  | 0xFB02 => ['F', 'L']
  | 0xFB03 => ['F', 'F', 'I']
  | 0xFB04 => ['F', 'F', 'L']
  | 0xFB05 => ['S', 'T']
  | 0xFB06 => ['S', 'T']
  | _ => [c.toUpper]

def upper (name : List Char) : List Char := name.flatMap upperChar

/-! ## The pattern of an API key -/

/-- `[A-Za-z0-9]`, where case is ignored: four characters outside ASCII fold into it. -/
def isAlnum (c : Char) : Bool := c.isAlphanum || c.toNat ∈ [0x0130, 0x0131, 0x017F, 0x212A]

/-- `[A-Za-z0-9._-]` -/
def isKeyChar (c : Char) : Bool := isAlnum c || c = '.' || c = '_' || c = '-'

def startsWithAlnum : List Char → Bool
  | c :: _ => isAlnum c
  | [] => false

/-- `s`, where case is ignored -/
def isS (s : Char) : Bool := s = 's' || s = 'S' || s.toNat = 0x017F

/-- `k`, where case is ignored -/
def isK (k : Char) : Bool := k = 'k' || k = 'K' || k.toNat = 0x212A

/-- How many characters the pattern matches at the start of a text. The longest run comes first,
and shorter ones are tried as long as the lookahead fails. -/
def matchLength? : List Char → Option ℕ
  | s :: k :: '-' :: text =>
    if isS s && isK k then
      let run := (text.takeWhile isKeyChar).length
      ((List.range (run + 1)).reverse.find? fun n =>
        12 ≤ n && !startsWithAlnum (text.drop n)).map (· + 3)
    else none
  | _ => none

/-- `_API_KEY_PATTERN.search`: whether there is a match, where `behind` says that a character of
`[A-Za-z0-9]` stands before the text. -/
def searchKey (behind : Bool) : List Char → Bool
  | [] => false
  | c :: text => (!behind && (matchLength? (c :: text)).isSome) || searchKey (isAlnum c) text

/-- `_API_KEY_PATTERN.sub`, where the last match ends `skip` characters away. -/
def subKeysFrom (behind : Bool) : ℕ → List Char → List Char
  | _, [] => []
  | 0, c :: text =>
    match if behind then none else matchLength? (c :: text) with
    | some length => placeholder ++ subKeysFrom (isAlnum c) (length - 1) text
    | none => c :: subKeysFrom (isAlnum c) 0 text
  | skip + 1, c :: text => subKeysFrom (isAlnum c) skip text

def subKeys (text : List Char) : List Char := subKeysFrom false 0 text

def hasKey (text : List Char) : Bool := searchKey false text

/-! ## The redaction -/

/-- An environment, by the names of its variables. -/
abbrev Environment := Dict (List Char) (List Char)

/-- How Python lists a set of texts. -/
structure SetOrder where
  list : List (List Char) → List (List Char)
  perm : ∀ texts, (list texts).Perm texts

def isCredential (name secret : List Char) : Bool :=
  4 ≤ secret.length && credentialEnvMarkers.any fun marker => decide (marker <:+: upper name)

/-- The set `candidates`. -/
def candidates (source : Environment) : List (List Char) :=
  ((source.entries.filter fun entry => isCredential entry.1 entry.2).map Prod.snd).dedup

/-- `sorted(candidates, key=len, reverse=True)` -/
def longestFirst (order : SetOrder) (source : Environment) : List (List Char) :=
  (order.list (candidates source)).mergeSort fun secret other => other.length ≤ secret.length

def redactSensitiveText (order : SetOrder) (source : Environment) (value : List Char) :
    List Char :=
  subKeys ((longestFirst order source).foldl (fun text secret => replaceAll secret placeholder text)
    value)

end Agintor.Core.Redaction
