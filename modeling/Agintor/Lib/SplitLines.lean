import Mathlib.Data.List.Basic

/-!
# Lines of a text

`splitlines` cuts a text after each line break, as `str.splitlines(keepends=True)` does. Only its
last line may lack a break. A line that has one is found again at the front of whatever it is
put before.
-/

namespace Lib

/-- The characters at which `str.splitlines` cuts. -/
def isLineBreak (c : Char) : Bool :=
  let n := c.toNat
  (0x0A ≤ n && n ≤ 0x0D) || (0x1C ≤ n && n ≤ 0x1E) || n == 0x85 || n == 0x2028 || n == 0x2029

/-- `text.splitlines(keepends=True)`. A carriage return in front of a newline does not cut. -/
def splitlines : List Char → List (List Char)
  | [] => []
  | c :: cs =>
    if isLineBreak c ∧ ¬(c = '\r' ∧ cs.head? = some '\n') then [c] :: splitlines cs
    else
      match splitlines cs with
      | [] => [[c]]
      | l :: ls => (c :: l) :: ls

example : splitlines ['a', '\r', '\n', '\n', 'b'] = [['a', '\r', '\n'], ['\n'], ['b']] := by decide

/-- The lines make up the text. -/
theorem flatten_splitlines (text : List Char) : (splitlines text).flatten = text := by
  induction text with
  | nil => rfl
  | cons c cs ih =>
    rw [splitlines]
    split
    · rw [List.flatten_cons, ih]
      rfl
    · cases hcs : splitlines cs with
      | nil =>
        rw [hcs] at ih
        simpa using ih
      | cons l ls =>
        rw [hcs] at ih
        simpa using ih

theorem splitlines_injective : Function.Injective splitlines := by
  intro s t h
  rw [← flatten_splitlines s, h, flatten_splitlines]

/-! ## Lines and their breaks -/

/-- No character of the text is a line break. -/
def Unbroken (text : List Char) : Prop := ∀ c ∈ text, isLineBreak c = false

lemma unbroken_cons {c : Char} {text : List Char} :
    Unbroken (c :: text) ↔ isLineBreak c = false ∧ Unbroken text := List.forall_mem_cons

lemma unbroken_append {s t : List Char} : Unbroken (s ++ t) ↔ Unbroken s ∧ Unbroken t :=
  List.forall_mem_append

/-- A line with its break. -/
def Ended (line : List Char) : Prop :=
  ∃ body, Unbroken body ∧
    ((∃ c, isLineBreak c = true ∧ line = body ++ [c]) ∨ line = body ++ ['\r', '\n'])

variable {line : List Char}

lemma Ended.not_unbroken (h : Ended line) : ¬Unbroken line := by
  obtain ⟨body, -, ⟨c, hc, rfl⟩ | rfl⟩ := h
  · intro hline
    exact absurd (hline c (by simp)) (by simp [hc])
  · intro hline
    exact absurd (hline '\n' (by simp)) (by decide)

lemma Ended.cons {c : Char} (hc : isLineBreak c = false) (h : Ended line) : Ended (c :: line) := by
  obtain ⟨body, hbody, ⟨d, hd, rfl⟩ | rfl⟩ := h
  · exact ⟨c :: body, unbroken_cons.mpr ⟨hc, hbody⟩, Or.inl ⟨d, hd, rfl⟩⟩
  · exact ⟨c :: body, unbroken_cons.mpr ⟨hc, hbody⟩, Or.inr rfl⟩

/-- A list of lines: only the last one may lack its break. -/
def Lines : List (List Char) → Prop
  | [] => True
  | [line] => Ended line ∨ Unbroken line
  | line :: line' :: lines => Ended line ∧ Lines (line' :: lines)

variable {lines : List (List Char)}

lemma Lines.cons (hline : Ended line) (h : Lines lines) : Lines (line :: lines) := by
  cases lines with
  | nil => exact Or.inl hline
  | cons l ls => exact ⟨hline, h⟩

theorem lines_splitlines (text : List Char) : Lines (splitlines text) := by
  induction text with
  | nil => trivial
  | cons c cs ih =>
    rw [splitlines]
    split
    · next hcut => exact .cons ⟨[], by simp [Unbroken], Or.inl ⟨c, hcut.1, rfl⟩⟩ ih
    · next hcut =>
      by_cases hc : isLineBreak c = true
      · -- the first two characters are one break
        have hcrlf : c = '\r' ∧ cs.head? = some '\n' := by
          by_contra hnot
          exact hcut ⟨hc, hnot⟩
        obtain ⟨rfl, hhead⟩ := hcrlf
        cases cs with
        | nil => simp at hhead
        | cons d rest =>
          obtain rfl : d = '\n' := by simpa using hhead
          have hfirst : splitlines ('\n' :: rest) = ['\n'] :: splitlines rest := rfl
          rw [hfirst] at ih ⊢
          have hended : Ended ['\r', '\n'] := ⟨[], by simp [Unbroken], Or.inr rfl⟩
          cases hrest : splitlines rest with
          | nil => exact Or.inl hended
          | cons l ls =>
            rw [hrest] at ih
            exact ⟨hended, ih.2⟩
      · have hc : isLineBreak c = false := by simpa using hc
        cases hcs : splitlines cs with
        | nil => exact Or.inr (unbroken_cons.mpr ⟨hc, by simp [Unbroken]⟩)
        | cons l ls =>
          rw [hcs] at ih
          cases ls with
          | nil => exact ih.imp (Ended.cons hc) fun hl => unbroken_cons.mpr ⟨hc, hl⟩
          | cons l' ls => exact ⟨ih.1.cons hc, ih.2⟩

/-- Which line may lack its break. -/
lemma Lines.getElem? (h : Lines lines) {k : ℕ} (hline : lines[k]? = some line) :
    Ended line ∨ (k + 1 = lines.length ∧ Unbroken line) := by
  induction lines generalizing k with
  | nil => simp at hline
  | cons l ls ih =>
    cases k with
    | zero =>
      obtain rfl : l = line := by simpa using hline
      cases ls with
      | nil => exact h.imp_right fun hl => ⟨rfl, hl⟩
      | cons l' ls => exact Or.inl h.1
    | succ k =>
      rw [List.getElem?_cons_succ] at hline
      cases ls with
      | nil => simp at hline
      | cons l' ls =>
        obtain hended | ⟨hlast, hunbroken⟩ := ih h.2 hline
        · exact Or.inl hended
        · exact Or.inr ⟨by rw [List.length_cons, hlast], hunbroken⟩

/-! ## The first line of a text -/

/-- The first line of a text with its break, and the rest. -/
def breakLine : List Char → List Char × List Char
  | [] => ([], [])
  | c :: cs =>
    if isLineBreak c then
      if c = '\r' ∧ cs.head? = some '\n' then (['\r', '\n'], cs.tail) else ([c], cs)
    else (c :: (breakLine cs).1, (breakLine cs).2)

lemma breakLine_append {body : List Char} (h : Unbroken body) (text : List Char) :
    breakLine (body ++ text) = (body ++ (breakLine text).1, (breakLine text).2) := by
  induction body with
  | nil => rfl
  | cons c body ih =>
    obtain ⟨hc, hbody⟩ := unbroken_cons.mp h
    rw [List.cons_append, breakLine, if_neg (by simp [hc]), ih hbody]
    rfl

lemma breakLine_unbroken {text : List Char} (h : Unbroken text) : breakLine text = (text, []) := by
  have happend := breakLine_append h []
  rwa [List.append_nil, breakLine, List.append_nil] at happend

lemma breakLine_append_newline {body : List Char} (h : Unbroken body) (text : List Char) :
    breakLine (body ++ '\n' :: text) = (body ++ ['\n'], text) := by
  rw [breakLine_append h]
  rfl

/-- A line with its break is found again, unless a carriage return is completed by what
follows. -/
theorem Ended.breakLine_append {line text : List Char} (h : Ended line)
    (htext : text.head? ≠ some '\n') : breakLine (line ++ text) = (line, text) := by
  obtain ⟨body, hbody, ⟨c, hc, rfl⟩ | rfl⟩ := h
  · rw [List.append_assoc, Lib.breakLine_append hbody, List.singleton_append, breakLine,
      if_pos hc, if_neg fun h => htext h.2]
  · rw [List.append_assoc, Lib.breakLine_append hbody]
    rfl

end Lib
