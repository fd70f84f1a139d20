import Agintor.Core.Patches
import Agintor.Lib.Raise

/-!
# Theorems about the patches

A match of the pattern is a built patch whose delimiters occur nowhere earlier. So patches parse
back exactly when neither text of a block runs into a delimiter, and then the one occurrence of the
search text is replaced.
-/

namespace Agintor.Core

open Lib

/-- Neither text of the block runs into the delimiter behind it. -/
def WellDelimited (block : SearchReplaceBlock) : Prop :=
  ¬divider <:+: block.search ++ ['\n'] ∧ ¬footer <:+: block.replace

lemma delimited_divider {text : List Char} :
    Delimited divider text ↔ ¬divider <:+: text ++ ['\n'] :=
  delimited_iff (by decide) (by decide) (by decide)

lemma delimited_footer {text : List Char} : Delimited footer text ↔ ¬footer <:+: text := by
  have h : Delimited footer text ↔ ¬footer <:+: text ++ [] :=
    delimited_iff (List.nil_prefix) (by decide) (by decide)
  rwa [List.append_nil] at h

/-! ## The pattern -/

lemma matchReplace_isSome (replace rest : List Char) (between : List Char) :
    (matchReplace (divider ++ (between ++ (replace ++ footer ++ rest)))).isSome := by
  rw [matchReplace, literal_append, Option.bind_some, ← List.append_assoc between,
    ← List.append_assoc between]
  rw [List.append_assoc (between ++ replace)]
  apply lazily_isSome
  rw [literal_append]
  rfl

/-- The divider ends the search text where it first occurs. -/
lemma lazily_matchReplace {text search replace rest : List Char} :
    lazily matchReplace text = some (search, replace, rest) ↔
      text = search ++ divider ++ (replace ++ footer ++ rest) ∧
        Delimited divider search ∧ Delimited footer replace := by
  rw [lazily_eq_some_iff]
  constructor
  · rintro ⟨behind, rfl, hbehind, hearlier⟩
    obtain ⟨body, hbody, hfooter⟩ := Option.bind_eq_some_iff.mp hbehind
    rw [literal_eq_some_iff] at hbody
    rw [lazily_literal_eq_some_iff] at hfooter
    obtain ⟨rfl, hreplace⟩ := hfooter
    subst hbody
    refine ⟨(List.append_assoc _ _ _).symm, fun i hi hoccurs => ?_, hreplace⟩
    -- an earlier divider would match, as the footer follows it
    obtain ⟨between, hbetween⟩ := hoccurs
    have hnone := hearlier i hi
    have hlength : i ≤ (search ++ divider).length := by
      rw [List.length_append]
      omega
    rw [← List.append_assoc, List.drop_append_of_le_length hlength, ← hbetween,
      List.append_assoc] at hnone
    have hsome := matchReplace_isSome replace rest between
    rw [hnone] at hsome
    exact absurd hsome (by simp)
  · rintro ⟨rfl, hsearch, hreplace⟩
    refine ⟨divider ++ (replace ++ footer ++ rest), List.append_assoc _ _ _, ?_, fun i hi => ?_⟩
    · rw [matchReplace, literal_append, Option.bind_some, lazily_literal_eq_some_iff]
      exact ⟨rfl, hreplace⟩
    · have hnone : literal divider
          ((search ++ divider ++ (replace ++ footer ++ rest)).drop i) = none := by
        rw [literal_eq_none, prefix_drop_append hi.le]
        exact hsearch i hi
      rw [matchReplace, hnone, Option.bind_none]

variable {block : SearchReplaceBlock}

theorem matchBlock_eq_some_iff {text rest : List Char} :
    matchBlock text = some (block, rest) ↔
      text = buildPatch block ++ rest ∧ WellDelimited block := by
  have hassoc : header ++ (block.search ++ divider ++ (block.replace ++ footer ++ rest)) =
      buildPatch block ++ rest := by
    simp only [buildPatch, List.append_assoc]
  rw [matchBlock, Option.map_eq_some_iff, WellDelimited, ← delimited_divider, ← delimited_footer]
  constructor
  · rintro ⟨⟨search, replace, left⟩, hfound, heq⟩
    obtain ⟨rfl, rfl⟩ := Prod.mk.inj heq
    obtain ⟨body, hheader, hbody⟩ := Option.bind_eq_some_iff.mp hfound
    obtain ⟨rfl, hdelimited⟩ := lazily_matchReplace.mp hbody
    exact ⟨(literal_eq_some_iff.mp hheader).trans hassoc, hdelimited⟩
  · rintro ⟨rfl, hdelimited⟩
    refine ⟨(block.search, block.replace, rest), ?_, rfl⟩
    rw [← hassoc, literal_append, Option.bind_some, lazily_matchReplace]
    exact ⟨rfl, hdelimited⟩

/-- A built patch matches, if not always as itself. -/
lemma matchBlock_isSome (block : SearchReplaceBlock) (rest : List Char) :
    (matchBlock (buildPatch block ++ rest)).isSome := by
  have hassoc : buildPatch block ++ rest = header ++ (block.search ++
      (divider ++ ([] ++ (block.replace ++ footer ++ rest)))) := by
    simp only [buildPatch, List.append_assoc, List.nil_append]
  rw [matchBlock, Option.isSome_map, hassoc, literal_append, Option.bind_some]
  exact lazily_isSome _ (matchReplace_isSome block.replace rest [])

lemma buildPatch_ne_nil (block : SearchReplaceBlock) : buildPatch block ≠ [] := by
  intro hnil
  have hheader := (List.append_eq_nil_iff.mp hnil).1
  exact absurd hheader (by decide)

/-! ## Round trip -/

/-- Patches are read back exactly when every block is well delimited. -/
theorem findIter_flatMap_buildPatch (blocks : List SearchReplaceBlock) :
    findIter matchBlock (blocks.flatMap buildPatch) = blocks ↔
      ∀ block ∈ blocks, WellDelimited block := by
  induction blocks with
  | nil => simp [findIter, findIterFrom]
  | cons block blocks ih =>
    obtain ⟨⟨found, rest⟩, hfound⟩ := Option.isSome_iff_exists.mp
      (matchBlock_isSome block (blocks.flatMap buildPatch))
    obtain ⟨htext, hwell⟩ := matchBlock_eq_some_iff.mp hfound
    have hiter : findIter matchBlock ((block :: blocks).flatMap buildPatch) =
        found :: findIter matchBlock rest := by
      rw [List.flatMap_cons, htext]
      rw [htext] at hfound
      exact findIter_append (buildPatch_ne_nil found) hfound
    rw [hiter, List.cons.injEq, List.forall_mem_cons, ← ih]
    constructor
    · rintro ⟨rfl, hrest⟩
      rw [List.append_cancel_left htext]
      exact ⟨hwell, hrest⟩
    · rintro ⟨hblock, hrest⟩
      -- a well-delimited patch matches as itself
      have hself : matchBlock (buildPatch block ++ blocks.flatMap buildPatch) =
          some (block, blocks.flatMap buildPatch) := matchBlock_eq_some_iff.mpr ⟨rfl, hblock⟩
      rw [hfound] at hself
      obtain ⟨rfl, rfl⟩ := Prod.mk.inj (Option.some.inj hself)
      exact ⟨rfl, hrest⟩

theorem parsePatch_flatMap_buildPatch (blocks : List SearchReplaceBlock) :
    parsePatch (blocks.flatMap buildPatch) = .ok blocks ↔
      blocks ≠ [] ∧ ∀ block ∈ blocks, WellDelimited block := by
  rw [← findIter_flatMap_buildPatch, parsePatch]
  split
  · rename_i hnone
    constructor
    · intro h
      exact absurd h (by simp)
    · rintro ⟨hne, hblocks⟩
      exact absurd (hblocks.symm.trans hnone) hne
  · rename_i hsome
    constructor
    · intro h
      have heq := Except.ok.inj h
      exact ⟨heq ▸ hsome, heq⟩
    · rintro ⟨_, hblocks⟩
      rw [hblocks]

/-! ## The edits -/

section Edits

variable {source needle : List Char}

lemma uniqueSearchMatch_of_nil (h : occurrences needle source = []) :
    uniqueSearchMatch source needle = -1 := by
  rw [uniqueSearchMatch, findFrom_zero, h]
  rfl

lemma uniqueSearchMatch_of_cons {first : ℕ} {more : List ℕ}
    (h : occurrences needle source = first :: more) :
    uniqueSearchMatch source needle = if more = [] then (first : ℤ) else -2 := by
  rw [uniqueSearchMatch, findFrom_zero, h, List.head?_cons]
  dsimp only
  rw [findFrom_succ h]
  cases more with
  | nil => rfl
  | cons second more => rfl

/-- The one occurrence is replaced. -/
theorem applyBlock_of_unique {block : SearchReplaceBlock} {i : ℕ}
    (h : occurrences block.search source = [i]) :
    applyBlock source block =
      .ok (source.take i ++ block.replace ++ source.drop (i + block.search.length)) := by
  have hmatch := uniqueSearchMatch_of_cons h
  rw [if_pos rfl] at hmatch
  rw [applyBlock, hmatch, if_neg (by omega), if_neg (by omega), replaceFirst, findFrom_zero, h]
  rfl

/-- A block fails exactly when its search text occurs zero or several times. -/
theorem applyBlock_eq_error_iff {block : SearchReplaceBlock} {e : String} :
    applyBlock source block = .error e ↔
      (occurrences block.search source).length = 0 ∧ e = "SEARCH block not found" ∨
      2 ≤ (occurrences block.search source).length ∧
        e = "SEARCH block matched multiple locations" := by
  cases h : occurrences block.search source with
  | nil =>
    rw [applyBlock, uniqueSearchMatch_of_nil h]
    simp [eq_comm]
  | cons first more =>
    cases more with
    | nil =>
      rw [applyBlock_of_unique h]
      simp
    | cons second more =>
      rw [applyBlock, uniqueSearchMatch_of_cons h]
      simp [eq_comm]

end Edits

/-- What the loop raises is raised by one of its blocks. -/
lemma foldlM_applyBlock_eq_error_iff {blocks : List SearchReplaceBlock} {source : List Char}
    {e : String} :
    blocks.foldlM applyBlock source = .error e ↔
      ∃ before block after edited, blocks = before ++ block :: after ∧
        before.foldlM applyBlock source = .ok edited ∧ applyBlock edited block = .error e := by
  induction blocks generalizing source with
  | nil => simp
  | cons block blocks ih =>
    rw [List.foldlM_cons, bind_eq_error_iff]
    constructor
    · rintro (hhead | ⟨edited, hhead, htail⟩)
      · exact ⟨[], block, blocks, source, rfl, rfl, hhead⟩
      · obtain ⟨before, failing, after, edited', rfl, hbefore, hfails⟩ := ih.mp htail
        refine ⟨block :: before, failing, after, edited', rfl, ?_, hfails⟩
        rw [List.foldlM_cons, hhead, ok_bind, hbefore]
    · rintro ⟨before, failing, after, edited, hsplit, hbefore, hfails⟩
      rcases before with _ | ⟨first, before⟩
      · obtain ⟨rfl, rfl⟩ := List.cons.inj hsplit
        rw [List.foldlM_nil, pure_eq_ok] at hbefore
        rw [Except.ok.inj hbefore]
        exact Or.inl hfails
      · obtain ⟨rfl, rfl⟩ := List.cons.inj hsplit
        rw [List.foldlM_cons, bind_eq_ok_iff] at hbefore
        obtain ⟨middle, hmiddle, hrest⟩ := hbefore
        exact Or.inr ⟨middle, hmiddle, ih.mpr ⟨before, failing, after, edited, rfl, hrest, hfails⟩⟩

/-- A patch is applied block by block. It fails when it has no block, or when the search text of a
block occurs zero or several times in the text as edited so far. -/
theorem applyPatchToText_eq_error_iff {source patchText : List Char} {e : String} :
    applyPatchToText source patchText = .error e ↔
      findIter matchBlock patchText = [] ∧ e = "patch contained no SEARCH/REPLACE blocks" ∨
      ∃ before block after edited, findIter matchBlock patchText = before ++ block :: after ∧
        before.foldlM applyBlock source = .ok edited ∧
        ((occurrences block.search edited).length = 0 ∧ e = "SEARCH block not found" ∨
          2 ≤ (occurrences block.search edited).length ∧
            e = "SEARCH block matched multiple locations") := by
  simp only [← applyBlock_eq_error_iff, ← foldlM_applyBlock_eq_error_iff]
  rw [applyPatchToText, parsePatch]
  split
  · rename_i hnone
    rw [hnone, error_bind, Except.error.injEq, List.foldlM_nil]
    simp [eq_comm]
  · rename_i hsome
    rw [ok_bind]
    simp [hsome]

/-- The one occurrence of a well-delimited block's search text is replaced. -/
theorem applyPatchToText_buildPatch (hblock : WellDelimited block) {before after : List Char}
    (honce : (occurrences block.search (before ++ block.search ++ after)).length = 1) :
    applyPatchToText (before ++ block.search ++ after) (buildPatch block) =
      .ok (before ++ block.replace ++ after) := by
  have hparse : parsePatch (buildPatch block) = .ok [block] := by
    have h := parsePatch_flatMap_buildPatch [block]
    rw [List.flatMap_singleton] at h
    exact h.mpr ⟨by simp, by simpa using hblock⟩
  obtain ⟨i, hi⟩ := List.length_eq_one_iff.mp honce
  have hbefore := mem_occurrences_append before block.search after
  rw [hi, List.mem_singleton] at hbefore
  rw [applyPatchToText, hparse, ok_bind, List.foldlM_cons, applyBlock_of_unique hi, ← hbefore]
  rw [ok_bind, List.foldlM_nil, pure_eq_ok, ← List.length_append, List.drop_left,
    List.append_assoc before, List.take_left]

/-! ## Round trip and edits together -/

/-- A block whose search text contains a divider. -/
def dividedBlock : SearchReplaceBlock := ⟨"a\n=======\nb".toList, ['c']⟩

/-- The block is read back as another one, so the edit is another one too. And a patch without
blocks fails on every source. -/
theorem divided_search_text :
    (occurrences dividedBlock.search dividedBlock.search).length = 1 ∧
      applyPatchToText dividedBlock.search (buildPatch dividedBlock) ≠ .ok dividedBlock.replace ∧
      parsePatch (buildPatch dividedBlock) = .ok [⟨['a'], "b\n=======\nc".toList⟩] ∧
      applyPatchToText ['a'] [] = .error "patch contained no SEARCH/REPLACE blocks" := by
  decide

/-- Patches of well-delimited blocks round-trip and edit exactly one place. -/
theorem patches_round_trip :
    (∀ block before after, WellDelimited block →
      (occurrences block.search (before ++ block.search ++ after)).length = 1 →
      applyPatchToText (before ++ block.search ++ after) (buildPatch block) =
        .ok (before ++ block.replace ++ after)) ∧
    (∀ blocks, parsePatch (blocks.flatMap buildPatch) = .ok blocks ↔
      blocks ≠ [] ∧ ∀ block ∈ blocks, WellDelimited block) ∧
    (∀ source patchText e, applyPatchToText source patchText = .error e ↔
      findIter matchBlock patchText = [] ∧ e = "patch contained no SEARCH/REPLACE blocks" ∨
      ∃ before block after edited, findIter matchBlock patchText = before ++ block :: after ∧
        before.foldlM applyBlock source = .ok edited ∧
        ((occurrences block.search edited).length = 0 ∧ e = "SEARCH block not found" ∨
          2 ≤ (occurrences block.search edited).length ∧
            e = "SEARCH block matched multiple locations")) :=
  ⟨fun _ _ _ hblock honce => applyPatchToText_buildPatch hblock honce,
    parsePatch_flatMap_buildPatch, fun _ _ _ => applyPatchToText_eq_error_iff⟩

end Agintor.Core
