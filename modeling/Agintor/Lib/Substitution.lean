import Mathlib.Data.List.Basic
import Mathlib.Data.List.Infix

/-!
# Replacing stretches of a text

A text is a list over any alphabet. `replaceAll` replaces the occurrences of a word from left to
right, as `str.replace` does. `Rewrites` is what such passes have in common: they keep letters and
put one word, the placeholder, in place of stretches. A word that can not overlap the placeholder
comes into no text by rewriting.
-/

namespace Lib

variable {α : Type}

/-- Stretches of a text give way to a placeholder. A letter is kept only where `Keeps` holds of the
text from it on. -/
inductive Rewrites (Keeps : List α → Prop) (placeholder : List α) : List α → List α → Prop
  | nil : Rewrites Keeps placeholder [] []
  | keep {c : α} {text new : List α} : Keeps (c :: text) → Rewrites Keeps placeholder text new →
      Rewrites Keeps placeholder (c :: text) (c :: new)
  | cut {text new : List α} (stretch : List α) : Rewrites Keeps placeholder text new →
      Rewrites Keeps placeholder (stretch ++ text) (placeholder ++ new)

/-- The word and the placeholder can not overlap: none is part of the other, and the word neither
ends with a part that begins the placeholder nor begins with a part that ends it. -/
structure Apart (placeholder word : List α) : Prop where
  notInside : ¬ word <:+: placeholder
  notAround : ¬ placeholder <:+: word
  tails : ∀ tail ∈ word.tails, tail ≠ [] → ¬ tail <+: placeholder
  heads : ∀ head ∈ word.inits, head ≠ [] → ¬ head <:+ placeholder

instance [DecidableEq α] (placeholder word : List α) : Decidable (Apart placeholder word) :=
  decidable_of_iff (¬ word <:+: placeholder ∧ ¬ placeholder <:+: word ∧
      (∀ tail ∈ word.tails, tail ≠ [] → ¬ tail <+: placeholder) ∧
      ∀ head ∈ word.inits, head ≠ [] → ¬ head <:+ placeholder)
    ⟨fun h => ⟨h.1, h.2.1, h.2.2.1, h.2.2.2⟩,
      fun h => ⟨h.notInside, h.notAround, h.tails, h.heads⟩⟩

/-! ## Words that come into no text -/

namespace Rewrites

variable {Keeps : List α → Prop} {word placeholder text new kept : List α}

lemma mem {c : α} (h : Rewrites Keeps placeholder text new) (hc : c ∈ new) :
    c ∈ text ∨ c ∈ placeholder := by
  induction h with
  | nil => exact .inl hc
  | keep _ _ ih =>
    rcases List.mem_cons.mp hc with rfl | hc
    · exact .inl List.mem_cons_self
    · exact (ih hc).imp_left (List.mem_cons_of_mem _)
  | cut stretch _ ih =>
    rcases List.mem_append.mp hc with hc | hc
    · exact .inr hc
    · exact (ih hc).imp_left (List.mem_append_right stretch)

section

variable (hapart : Apart placeholder word)
include hapart

/-- A beginning of a text that starts with the placeholder ends the word in it. -/
lemma not_isPrefix_append {head tail : List α}
    (hword : word = head ++ tail) (htail : tail ≠ []) : ¬ tail <+: placeholder ++ new := by
  intro h
  rcases List.prefix_or_prefix_of_prefix h (List.prefix_append placeholder new) with h | h
  · exact hapart.tails tail ((List.mem_tails _ _).mpr ⟨head, hword.symm⟩) htail h
  · exact hapart.notAround (h.isInfix.trans ⟨head, [], by rw [List.append_nil, hword]⟩)

/-- Behind a placeholder the word lies in the rest of the text. -/
lemma isInfix_of_placeholder
    (h : word <:+: placeholder ++ new) : word <:+: new := by
  rcases List.infix_append_iff_ne_nil.mp h with h | h | ⟨head, tail, hhead, _, hword, hsuffix, _⟩
  · exact absurd h hapart.notInside
  · exact h
  · exact absurd hsuffix
      (hapart.heads head ((List.mem_inits _ _).mpr ⟨tail, hword.symm⟩) hhead)

section

variable (h : Rewrites Keeps placeholder text new)
include h

/-- A word that begins among kept letters lies among them. -/
lemma isPrefix
    (hword : word <+: kept ++ new) : word <+: kept ++ text := by
  induction h generalizing kept with
  | nil => exact hword
  | @keep c text new _ _ ih =>
    have hword' : word <+: (kept ++ [c]) ++ new := by simpa using hword
    simpa using ih hword'
  | @cut text new stretch _ _ =>
    obtain ⟨rest, hrest⟩ := hword
    rcases List.append_eq_append_iff.mp hrest with ⟨tail, hkept, _⟩ | ⟨tail, hword, hnew⟩
    · rw [hkept, List.append_assoc]
      exact List.prefix_append word _
    · by_cases htail : tail = []
      · rw [hword, htail, List.append_nil]
        exact List.prefix_append kept _
      · exact absurd ⟨rest, hnew.symm⟩ (not_isPrefix_append hapart hword htail)

/-- No word comes in that can not overlap the placeholder. -/
theorem isInfix
    (hword : word <:+: kept ++ new) : word <:+: kept ++ text := by
  induction h generalizing kept with
  | nil => exact hword
  | @keep c text new _ _ ih =>
    have hword' : word <:+: (kept ++ [c]) ++ new := by simpa using hword
    simpa using ih hword'
  | @cut text new stretch _ ih =>
    rcases List.infix_append_iff_ne_nil.mp hword with
      h | h | ⟨head, tail, _, htail, hsplit, _, hprefix⟩
    · exact h.trans (List.prefix_append kept _).isInfix
    · have hnew : word <:+: [] ++ new := isInfix_of_placeholder hapart h
      have htext : word <:+: text := ih hnew
      exact htext.trans ⟨kept ++ stretch, [], by simp⟩
    · exact absurd hprefix (not_isPrefix_append hapart hsplit htail)

theorem isInfix_new
    (hword : word <:+: new) : word <:+: text :=
  have hkept : word <:+: [] ++ new := hword
  isInfix hapart h hkept

end

/-- A word goes out when no letter that begins it is kept. -/
theorem not_isInfix (hne : word ≠ [])
    (hkeeps : ∀ text, Keeps text → ¬ word <+: text) (h : Rewrites Keeps placeholder text new) :
    ¬ word <:+: new := by
  induction h with
  | nil => simpa using hne
  | @keep c text new hkeep hrest ih =>
    intro hword
    rcases List.infix_cons_iff.mp hword with hword | hword
    · have hkept : word <+: [c] ++ text := isPrefix hapart hrest hword
      exact hkeeps _ hkeep hkept
    · exact ih hword
  | cut stretch _ ih => exact fun hword => ih (isInfix_of_placeholder hapart hword)

end

end Rewrites

/-! ## Replacing a word -/

section Replace

variable [DecidableEq α]

/-- Occurrences are looked for from the end of the last one, `skip` letters away. -/
def replaceFrom (word placeholder : List α) : ℕ → List α → List α
  | _, [] => []
  | 0, c :: text =>
    if word <+: c :: text then
      placeholder ++ replaceFrom word placeholder (word.length - 1) text
    else c :: replaceFrom word placeholder 0 text
  | skip + 1, _ :: text => replaceFrom word placeholder skip text

/-- `text.replace(word, placeholder)`, for a word with letters. -/
def replaceAll (word placeholder text : List α) : List α := replaceFrom word placeholder 0 text

variable {word placeholder text : List α}

lemma replaceFrom_rewrites (skip : ℕ) (text : List α) :
    Rewrites (fun text => ¬ word <+: text) placeholder (text.drop skip)
      (replaceFrom word placeholder skip text) := by
  induction text generalizing skip with
  | nil =>
    rw [List.drop_nil, replaceFrom]
    exact .nil
  | cons c text ih =>
    cases skip with
    | succ skip => exact ih skip
    | zero =>
      rw [List.drop_zero, replaceFrom]
      split
      · have hcut := Rewrites.cut (c :: text.take (word.length - 1)) (ih (word.length - 1))
        rwa [List.cons_append, List.take_append_drop] at hcut
      · exact .keep (by assumption) (ih 0)

theorem replaceAll_rewrites : Rewrites (fun text => ¬ word <+: text) placeholder text
    (replaceAll word placeholder text) := replaceFrom_rewrites 0 text

theorem replaceAll_of_not_isInfix (h : ¬ word <:+: text) :
    replaceAll word placeholder text = text := by
  induction text with
  | nil => rfl
  | cons c text ih =>
    rw [List.infix_cons_iff, not_or] at h
    rw [replaceAll, replaceFrom, if_neg h.1]
    exact congrArg (c :: ·) (ih h.2)

theorem isInfix_replaceAll (h : word <:+: text) (hne : word ≠ []) :
    placeholder <:+: replaceAll word placeholder text := by
  induction text with
  | nil => exact absurd (List.infix_nil.mp h) hne
  | cons c text ih =>
    rw [replaceAll, replaceFrom]
    split
    · exact (List.prefix_append placeholder _).isInfix
    · rename_i hprefix
      have htext : word <:+: text := (List.infix_cons_iff.mp h).resolve_left hprefix
      exact (ih htext).trans (List.suffix_cons c _).isInfix

end Replace

end Lib
