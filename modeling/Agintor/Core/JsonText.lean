import Mathlib
import Agintor.Core.Json

/-!
# JSON text

`json.dumps(value, sort_keys=True, separators=(",", ":"), ensure_ascii=False)`.
-/

namespace Agintor.Core

/-- How Python writes floats. -/
structure FloatText where
  repr : ℚ → String
  nonFinite : String

namespace Json

/-- The escape of a character that may not stand in a string literal as it is. -/
def escape (c : Char) : Option (List Char) :=
  if c = '"' then some ['\\', '"']
  else if c = '\\' then some ['\\', '\\']
  else if c = '\n' then some ['\\', 'n']
  else if c = '\r' then some ['\\', 'r']
  else if c = '\t' then some ['\\', 't']
  else if c = '\x0c' then some ['\\', 'f']
  else if c = '\x08' then some ['\\', 'b']
  else if c.toNat < 0x20 then
    some ['\\', 'u', '0', '0', Nat.digitChar (c.toNat / 16), Nat.digitChar (c.toNat % 16)]
  else none

def quote (text : List Char) : List Char :=
  '"' :: (text.flatMap fun c => (escape c).getD [c]) ++ ['"']

/-- Plain text is quoted as it is. -/
theorem quote_eq {text : List Char} (h : ∀ c ∈ text, escape c = none) :
    quote text = '"' :: text ++ ['"'] := by
  have hplain : text.flatMap (fun c => (escape c).getD [c]) = text := by
    induction text with
    | nil => rfl
    | cons c text ih =>
      rw [List.flatMap_cons, ih fun d hd => h d (List.mem_cons_of_mem c hd), h c List.mem_cons_self]
      rfl
  rw [quote, hplain]

def commaSeparated (texts : List (List Char)) : List Char := (texts.intersperse [',']).flatten

/-- The entry of a key, given the text of its value. -/
def entryText (field : String × List Char) : List Char :=
  quote field.1.toList ++ ':' :: field.2

mutual

def write (F : FloatText) : Json → List Char
  | .null => ['n', 'u', 'l', 'l']
  | .bool true => ['t', 'r', 'u', 'e']
  | .bool false => ['f', 'a', 'l', 's', 'e']
  | .int n => (toString n).toList
  | .float q => (F.repr q).toList
  | .nonFinite => F.nonFinite.toList
  | .str s => quote s.toList
  | .array items => '[' :: commaSeparated (writeItems F items) ++ [']']
  | .object fields =>
    let sorted := (writeFields F fields).insertionSort fun a b => a.1 ≤ b.1
    '{' :: commaSeparated (sorted.map entryText) ++ ['}']

def writeItems (F : FloatText) : List Json → List (List Char)
  | [] => []
  | item :: items => write F item :: writeItems F items

def writeFields (F : FloatText) : List (String × Json) → List (String × List Char)
  | [] => []
  | (key, item) :: fields => (key, write F item) :: writeFields F fields

end

/-- `json.dumps(value, …)` -/
def dumps (F : FloatText) (value : Json) : String := String.ofList (value.write F)

/-- `len(json.dumps(value, …).encode("utf-8"))` -/
def byteSize (F : FloatText) (value : Json) : ℕ := (value.dumps F).utf8ByteSize

theorem byteSize_eq (F : FloatText) (value : Json) :
    value.byteSize F = String.utf8Len (value.write F) :=
  String.utf8ByteSize_ofList _

example :
    (object [("b", .array [.int (-1), .null]), ("a", .str "\"\n")]).write ⟨fun _ => "", ""⟩
      = "\x7b\"a\":\"\\\"\\n\",\"b\":[-1,null]\x7d".toList := by
  decide +kernel

/-! ## With `ensure_ascii` -/

/-- `"\\u{0:04x}".format(n)` -/
def unicodeEscape (n : ℕ) : List Char :=
  ['\\', 'u', Nat.digitChar (n / 0x1000 % 16), Nat.digitChar (n / 0x100 % 16),
    Nat.digitChar (n / 0x10 % 16), Nat.digitChar (n % 16)]

/-- What `ensure_ascii` writes for a character that may stand as it is without it: a character
beyond the basic plane has two escapes. -/
def asciiEscape (c : Char) : List Char :=
  if ' ' ≤ c ∧ c ≤ '~' then [c]
  else if c.toNat < 0x10000 then unicodeEscape c.toNat
  else
    unicodeEscape (0xD800 + (c.toNat - 0x10000) / 0x400) ++
      unicodeEscape (0xDC00 + (c.toNat - 0x10000) % 0x400)

/-- `json.dumps(value, sort_keys=True, separators=(",", ":"))` -/
def writeAscii (F : FloatText) (value : Json) : List Char := (value.write F).flatMap asciiEscape

example : (str "a\x7fé😀").writeAscii ⟨fun _ => "", ""⟩ =
    "\"a\\u007f\\u00e9\\ud83d\\ude00\"".toList := by
  decide +kernel

/-- The length of a text after escaping. -/
def asciiLength (text : List Char) : ℕ := (text.flatMap asciiEscape).length

@[simp] theorem asciiLength_append (s t : List Char) :
    asciiLength (s ++ t) = asciiLength s + asciiLength t := by
  unfold asciiLength
  rw [List.flatMap_append, List.length_append]

theorem asciiLength_cons (c : Char) (t : List Char) :
    asciiLength (c :: t) = asciiLength [c] + asciiLength t := asciiLength_append [c] t

/-- Printable ASCII stays as it is. -/
theorem asciiLength_of_plain {text : List Char} (h : ∀ c ∈ text, ' ' ≤ c ∧ c ≤ '~') :
    asciiLength text = text.length := by
  induction text with
  | nil => rfl
  | cons c text ih =>
    have hc : asciiLength [c] = 1 := by
      unfold asciiLength
      rw [List.flatMap_singleton, asciiEscape, if_pos (h c List.mem_cons_self),
        List.length_singleton]
    rw [asciiLength_cons, hc, ih fun d hd => h d (List.mem_cons_of_mem c hd), List.length_cons]
    omega

theorem asciiLength_commaSeparated (texts : List (List Char)) :
    asciiLength (commaSeparated texts) = (texts.map asciiLength).sum + (texts.length - 1) := by
  unfold commaSeparated
  induction texts with
  | nil => rfl
  | cons text texts ih =>
    cases texts with
    | nil => simp
    | cons text' texts =>
      have hcomma : asciiLength [','] = 1 := by decide
      rw [List.intersperse_cons_cons, List.flatten_cons, List.flatten_cons, asciiLength_append,
        asciiLength_append, ih, hcomma]
      simp only [List.map_cons, List.sum_cons, List.length_cons]
      omega

theorem writeFields_eq_map (F : FloatText) (fields : List (String × Json)) :
    writeFields F fields = fields.map fun field => (field.1, field.2.write F) := by
  induction fields with
  | nil => rfl
  | cons field fields ih =>
    show (field.1, field.2.write F) :: writeFields F fields = _
    rw [ih, List.map_cons]

/-- The length of an entry after escaping. -/
def entryLength (F : FloatText) (field : String × Json) : ℕ :=
  asciiLength (quote field.1.toList) + 1 + asciiLength (field.2.write F)

/-- Sorting the entries of an object does not change how long it is. -/
theorem asciiLength_object (F : FloatText) (fields : List (String × Json)) :
    asciiLength ((object fields).write F) =
      (fields.map (entryLength F)).sum + (fields.length - 1) + 2 := by
  have hentry : ∀ field : String × Json,
      asciiLength (entryText (field.1, field.2.write F)) = entryLength F field := by
    intro field
    have hcolon : asciiLength [':'] = 1 := by decide
    show asciiLength (quote field.1.toList ++ ':' :: field.2.write F) = entryLength F field
    rw [asciiLength_append, asciiLength_cons, hcolon, entryLength]
    omega
  let sorted := (writeFields F fields).insertionSort fun a b => a.1 ≤ b.1
  have hperm : sorted.Perm (writeFields F fields) := List.perm_insertionSort _ _
  have hsum : ((sorted.map entryText).map asciiLength).sum = (fields.map (entryLength F)).sum := by
    rw [((hperm.map entryText).map asciiLength).sum_nat, writeFields_eq_map, List.map_map,
      List.map_map]
    congr 1
    exact List.map_congr_left fun field _ => hentry field
  have hlength : (sorted.map entryText).length = fields.length := by
    rw [List.length_map, hperm.length_eq, writeFields_eq_map, List.length_map]
  have hopen : asciiLength ['\x7b'] = 1 := by decide
  have hclose : asciiLength ['\x7d'] = 1 := by decide
  show asciiLength ('\x7b' :: commaSeparated (sorted.map entryText) ++ ['\x7d']) = _
  rw [asciiLength_append, asciiLength_cons, asciiLength_commaSeparated, hsum, hlength, hopen,
    hclose]
  omega

theorem asciiLength_int (F : FloatText) (n : ℕ) :
    asciiLength ((int n).write F) = (Nat.toDigits 10 n).length := by
  have hwrite : (int n).write F = Nat.toDigits 10 n := by
    show (toString (Int.ofNat n)).toList = _
    exact Nat.toList_repr
  rw [hwrite]
  refine asciiLength_of_plain fun c hc => ?_
  have hdigit := Nat.isDigit_of_mem_toDigits (by decide) (by decide) hc
  have hbounds : '0' ≤ c ∧ c ≤ '9' := by
    simpa [Char.isDigit, Char.le_def] using hdigit
  exact ⟨le_trans (by decide) hbounds.1, le_trans hbounds.2 (by decide)⟩

/-- Text with nothing to escape is as long as it is, and has its quotes. -/
theorem asciiLength_str {F : FloatText} {s : String}
    (h : ∀ c ∈ s.toList, escape c = none ∧ ' ' ≤ c ∧ c ≤ '~') :
    asciiLength ((str s).write F) = s.length + 2 := by
  have hwrite : (str s).write F = '"' :: s.toList ++ ['"'] := quote_eq fun c hc => (h c hc).1
  have hquote : asciiLength ['"'] = 1 := by decide
  rw [hwrite, asciiLength_append, asciiLength_cons, hquote,
    asciiLength_of_plain fun c hc => (h c hc).2, String.length_toList]
  omega

end Json

end Agintor.Core
