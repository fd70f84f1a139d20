import Agintor.Core.Redaction

/-!
# What survives a redaction

No API key survives. A secret survives only if it overlaps the placeholder: one that is part of it
comes back with every redaction, and one that is completed by it may come back. Secrets that can not
overlap the placeholder are gone.
-/

namespace Agintor.Core.Redaction

open Lib

/-! ## The statement -/

/-- What a redaction promises. The set may be listed in another order the second time. -/
structure Hides (order : SetOrder) (source : Environment) (text : List Char) : Prop where
  noSecret : ∀ secret ∈ candidates source, ¬ secret <:+: redactSensitiveText order source text
  noKey : hasKey (redactSensitiveText order source text) = false
  again : ∀ order', redactSensitiveText order' source (redactSensitiveText order source text) =
    redactSensitiveText order source text

/-- There is nothing to redact. -/
def Clean (source : Environment) (text : List Char) : Prop :=
  (∀ secret ∈ candidates source, ¬ secret <:+: text) ∧ hasKey text = false

/-- The secret can not overlap the placeholder, or it has a character that stands neither in the
text nor in the placeholder. -/
def KeptOut (text secret : List Char) : Prop :=
  Apart placeholder secret ∨ ∃ c ∈ secret, c ∉ text ∧ c ∉ placeholder

instance (source : Environment) (text : List Char) : Decidable (Clean source text) :=
  inferInstanceAs (Decidable (_ ∧ _))

instance (text secret : List Char) : Decidable (KeptOut text secret) :=
  inferInstanceAs (Decidable (_ ∨ _))

/-! ## The key pattern -/

section Key

variable {text : List Char}

variable {c : Char} {behind : Bool}

lemma isKeyChar_of_isAlnum (h : isAlnum c = true) : isKeyChar c = true := by
  simp [isKeyChar, h]

/-- The longest run ends where no character of the class follows, so the lookahead holds there and
shorter runs are not tried. -/
lemma startsWithAlnum_dropWhile (text : List Char) :
    startsWithAlnum (text.drop (text.takeWhile isKeyChar).length) = false := by
  induction text with
  | nil => rfl
  | cons c text ih =>
    rw [List.takeWhile_cons]
    cases h : isKeyChar c with
    | true => exact ih
    | false =>
      show isAlnum c = false
      cases hc : isAlnum c with
      | false => rfl
      | true => rw [isKeyChar_of_isAlnum hc] at h; cases h

lemma matchLength?_eq (s k : Char) (text : List Char) : matchLength? (s :: k :: '-' :: text) =
    if isS s && isK k && decide (12 ≤ (text.takeWhile isKeyChar).length) then
      some ((text.takeWhile isKeyChar).length + 3)
    else none := by
  have hend := startsWithAlnum_dropWhile text
  rw [matchLength?]
  cases isS s && isK k with
  | false => rfl
  | true =>
    dsimp only
    generalize (text.takeWhile isKeyChar).length = run at hend ⊢
    rw [if_pos rfl, Bool.true_and, List.range_succ, List.reverse_append, List.reverse_singleton,
      List.singleton_append, List.find?_cons, hend]
    by_cases hrun : 12 ≤ run
    · simp [hrun]
    · have hshorter : (List.range run).reverse.find? (fun n =>
          12 ≤ n && !startsWithAlnum (text.drop n)) = none := by
        rw [List.find?_eq_none]
        intro n hn
        have hlt : n < run := List.mem_range.mp (List.mem_reverse.mp hn)
        have hn12 : ¬ 12 ≤ n := by omega
        simp [hn12]
      simp [hrun, hshorter]

/-- A match is three characters and a run of the class. -/
lemma matchLength?_isSome_iff : (matchLength? text).isSome = true ↔
    ∃ s k run rest, text = s :: k :: '-' :: (run ++ rest) ∧ isS s = true ∧ isK k = true ∧
      12 ≤ run.length ∧ ∀ c ∈ run, isKeyChar c = true := by
  constructor
  · intro h
    have hshape : ∃ s k rest, text = s :: k :: '-' :: rest := by
      unfold matchLength? at h
      split at h
      · exact ⟨_, _, _, rfl⟩
      · cases h
    obtain ⟨s, k, rest, rfl⟩ := hshape
    rw [matchLength?_eq] at h
    split at h
    · rename_i hmatch
      rw [Bool.and_eq_true, Bool.and_eq_true, decide_eq_true_iff] at hmatch
      refine ⟨s, k, rest.takeWhile isKeyChar, rest.dropWhile isKeyChar, ?_, hmatch.1.1, hmatch.1.2,
        hmatch.2, List.all_eq_true.mp List.all_takeWhile⟩
      rw [List.takeWhile_append_dropWhile]
    · cases h
  · rintro ⟨s, k, run, rest, rfl, hs, hk, hlength, hrun⟩
    have hlong : 12 ≤ ((run ++ rest).takeWhile isKeyChar).length := by
      rw [List.takeWhile_append_of_pos hrun, List.length_append]
      omega
    rw [matchLength?_eq, hs, hk, decide_eq_true hlong]
    rfl

/-- A match begins with an `s`, has other characters, and no character of `[A-Za-z0-9]` follows. -/
lemma of_matchLength? {length : ℕ} (h : matchLength? (c :: text) = some length) :
    isS c = true ∧ 0 < length ∧ startsWithAlnum (text.drop (length - 1)) = false := by
  have hsome : (matchLength? (c :: text)).isSome = true := by
    rw [h]
    rfl
  obtain ⟨s, k, run, rest, heq, hs, _⟩ := matchLength?_isSome_iff.mp hsome
  obtain ⟨rfl, rfl⟩ := List.cons.inj heq
  rw [matchLength?_eq] at h
  split at h
  · have hlength := Option.some.inj h
    refine ⟨hs, by omega, ?_⟩
    have hdrop : length - 1 = ((run ++ rest).takeWhile isKeyChar).length + 2 := by omega
    rw [hdrop]
    exact startsWithAlnum_dropWhile _
  · cases h

lemma isAlnum_of_isS (h : isS c = true) : isAlnum c = true := by
  unfold isS at h
  rw [Bool.or_eq_true, Bool.or_eq_true, decide_eq_true_iff, decide_eq_true_iff,
    decide_eq_true_iff] at h
  rcases h with (rfl | rfl) | h
  · decide
  · decide
  · simp [isAlnum, h]

lemma matchLength?_eq_none (h : isS c = false) : matchLength? (c :: text) = none := by
  cases hmatch : matchLength? (c :: text) with
  | none => rfl
  | some length =>
    rw [(of_matchLength? hmatch).1] at h
    cases h

/-! ### One pass -/

lemma ne_bracket_of_isKeyChar (h : isKeyChar c = true) : c ≠ '[' := by
  rintro rfl
  revert h
  decide

/-- What the text after a pass begins with, as far as there is no placeholder, the text begins
with. -/
lemma isPrefix_of_subKeysFrom {start : List Char} (h : start <+: subKeysFrom behind 0 text) (hstart : '[' ∉ start) : start <+: text := by
  induction text generalizing start behind with
  | nil => exact h
  | cons c text ih =>
    cases start with
    | nil => exact List.nil_prefix
    | cons d start =>
      rw [subKeysFrom] at h
      split at h
      · obtain ⟨rfl, -⟩ := List.cons_prefix_cons.mp h
        exact absurd List.mem_cons_self hstart
      · obtain ⟨rfl, htail⟩ := List.cons_prefix_cons.mp h
        exact List.cons_prefix_cons.mpr
          ⟨rfl, ih htail fun hmem => hstart (List.mem_cons_of_mem _ hmem)⟩

/-- Where no character of `[A-Za-z0-9]` begins the text, it does not matter what stands before. -/
lemma subKeysFrom_congr (behind behind' : Bool) (h : startsWithAlnum text = false) :
    subKeysFrom behind 0 text = subKeysFrom behind' 0 text := by
  cases text with
  | nil => rfl
  | cons c text =>
    have hc : isS c = false := by
      cases hs : isS c with
      | false => rfl
      | true =>
        have halnum : isAlnum c = false := h
        rw [isAlnum_of_isS hs] at halnum
        cases halnum
    rw [subKeysFrom, subKeysFrom, matchLength?_eq_none hc, ite_self, ite_self]

/-- Without an `s` there is no match, and a bracket ends the word. -/
lemma searchKey_append {word : List Char} (behind : Bool) (h : ∀ c ∈ word, isS c = false) :
    searchKey behind (word ++ ']' :: text) = searchKey false text := by
  induction word generalizing behind with
  | nil =>
    have hbracket : isS ']' = false := by decide
    rw [List.nil_append, searchKey, matchLength?_eq_none hbracket]
    simp only [Option.isSome_none, Bool.and_false, Bool.false_or]
    rfl
  | cons c word ih =>
    rw [List.cons_append, searchKey, matchLength?_eq_none (h c List.mem_cons_self)]
    simp only [Option.isSome_none, Bool.and_false, Bool.false_or]
    exact ih (isAlnum c) fun d hd => h d (List.mem_cons_of_mem _ hd)

lemma searchKey_placeholder (behind : Bool) :
    searchKey behind (placeholder ++ text) = searchKey false text := by
  have hplaceholder : placeholder = "[REDACTED_CREDENTIAL".toList ++ [']'] := by decide
  rw [hplaceholder, List.append_assoc]
  have hword : "[REDACTED_CREDENTIAL".toList.all (fun c => !isS c) = true := by decide
  refine searchKey_append behind fun c hc => ?_
  simpa using List.all_eq_true.mp hword c hc

/-- No match is left after a pass, wherever it starts. -/
lemma searchKey_subKeysFrom (text : List Char) :
    (∀ behind, searchKey behind (subKeysFrom behind 0 text) = false) ∧
    ∀ behind skip, startsWithAlnum (text.drop skip) = false →
      searchKey false (subKeysFrom behind skip text) = false := by
  induction text with
  | nil => exact ⟨fun _ => rfl, fun _ skip _ => by rw [subKeysFrom]; rfl⟩
  | cons c text ih =>
    have hpass (behind : Bool) : searchKey behind (subKeysFrom behind 0 (c :: text)) = false := by
      rw [subKeysFrom]
      split
      · rename_i length hmatch
        rw [searchKey_placeholder]
        cases behind with
        | true => cases hmatch
        | false => exact ih.2 _ _ (of_matchLength? hmatch).2.2
      · rename_i hmatch
        rw [searchKey, ih.1, Bool.or_false]
        cases behind with
        | true => rfl
        | false =>
          rw [Bool.not_false, Bool.true_and, Option.isSome_eq_false_iff, Option.isNone_iff_eq_none]
          by_contra hsome
          obtain ⟨s, k, run, rest, heq, hs, hk, hlength, hrun⟩ :=
            matchLength?_isSome_iff.mp (Option.isSome_iff_ne_none.mpr hsome)
          obtain ⟨rfl, htail⟩ := List.cons.inj heq
          -- the match has no bracket: the same characters stand in the text before the pass
          have hprefix : k :: '-' :: run <+: subKeysFrom (isAlnum c) 0 text := by
            rw [htail]
            exact List.prefix_append (k :: '-' :: run) rest
          have hbracket : '[' ∉ k :: '-' :: run := by
            rw [List.mem_cons, List.mem_cons, not_or, not_or]
            refine ⟨fun heq => ?_, by decide, fun hmem => ne_bracket_of_isKeyChar (hrun _ hmem) rfl⟩
            rw [← heq] at hk
            revert hk
            decide
          obtain ⟨rest', rfl⟩ := isPrefix_of_subKeysFrom hprefix hbracket
          have hmatch' : (matchLength? (c :: k :: '-' :: (run ++ rest'))).isSome = true :=
            matchLength?_isSome_iff.mpr ⟨c, k, run, rest', rfl, hs, hk, hlength, hrun⟩
          rw [show matchLength? (c :: k :: '-' :: (run ++ rest')) = none from hmatch] at hmatch'
          cases hmatch'
    refine ⟨hpass, fun behind skip hstart => ?_⟩
    cases skip with
    | zero =>
      exact (congrArg _ (subKeysFrom_congr behind false hstart)).trans (hpass false)
    | succ skip => exact ih.2 _ skip hstart

lemma subKeysFrom_of_not_searchKey (h : searchKey behind text = false) :
    subKeysFrom behind 0 text = text := by
  induction text generalizing behind with
  | nil => rfl
  | cons c text ih =>
    rw [searchKey, Bool.or_eq_false_iff] at h
    rw [subKeysFrom]
    split
    · rename_i length hmatch
      cases behind with
      | true => cases hmatch
      | false =>
        rw [if_neg Bool.false_ne_true] at hmatch
        rw [hmatch] at h
        cases h.1
    · rw [ih h.2]

lemma isInfix_subKeysFrom (h : searchKey behind text = true) :
    placeholder <:+: subKeysFrom behind 0 text := by
  induction text generalizing behind with
  | nil => cases h
  | cons c text ih =>
    rw [searchKey, Bool.or_eq_true] at h
    rw [subKeysFrom]
    split
    · exact (List.prefix_append placeholder _).isInfix
    · rename_i hmatch
      rcases h with h | h
      · rw [Bool.and_eq_true, Bool.not_eq_true'] at h
        rw [h.1, if_neg Bool.false_ne_true] at hmatch
        rw [hmatch] at h
        cases h.2
      · exact (ih h).trans (List.suffix_cons c _).isInfix

lemma subKeysFrom_rewrites (behind : Bool) (skip : ℕ) (text : List Char) :
    Rewrites (fun _ => True) placeholder (text.drop skip) (subKeysFrom behind skip text) := by
  induction text generalizing behind skip with
  | nil =>
    rw [List.drop_nil, subKeysFrom]
    exact .nil
  | cons c text ih =>
    cases skip with
    | succ skip => exact ih (isAlnum c) skip
    | zero =>
      rw [List.drop_zero, subKeysFrom]
      split
      · rename_i length _
        have hcut := Rewrites.cut (c :: text.take (length - 1)) (ih (isAlnum c) (length - 1))
        rwa [List.cons_append, List.take_append_drop] at hcut
      · exact .keep trivial (ih (isAlnum c) 0)

end Key

/-! ## The passes for the secrets -/

section Secrets

variable {order : SetOrder} {source : Environment} {text secret : List Char}
  {secrets : List (List Char)}

/-- One pass for each secret. -/
def replaceSecrets (secrets : List (List Char)) (text : List Char) : List Char :=
  secrets.foldl (fun text secret => replaceAll secret placeholder text) text

lemma replaceSecrets_cons : replaceSecrets (secret :: secrets) text =
    replaceSecrets secrets (replaceAll secret placeholder text) := rfl

lemma redactSensitiveText_eq : redactSensitiveText order source text =
    subKeys (replaceSecrets (longestFirst order source) text) := rfl

lemma mem_longestFirst : secret ∈ longestFirst order source ↔ secret ∈ candidates source :=
  ((List.mergeSort_perm _ _).trans (order.perm _)).mem_iff

lemma ne_nil_of_mem (h : secret ∈ candidates source) : secret ≠ [] := by
  obtain ⟨⟨name, _⟩, hentry, rfl⟩ := List.mem_map.mp (List.mem_dedup.mp h)
  have hcredential : isCredential name _ = true := (List.mem_filter.mp hentry).2
  rintro hnil
  rw [isCredential, hnil] at hcredential
  simp at hcredential

lemma replaceSecrets_of_clean (h : ∀ secret ∈ secrets, ¬ secret <:+: text) :
    replaceSecrets secrets text = text := by
  induction secrets with
  | nil => rfl
  | cons secret secrets ih =>
    rw [replaceSecrets_cons, replaceAll_of_not_isInfix (h secret List.mem_cons_self)]
    exact ih fun other hother => h other (List.mem_cons_of_mem _ hother)

/-- A secret that is gone does not come back. -/
lemma not_isInfix_replaceSecrets (hapart : Apart placeholder secret) (h : ¬ secret <:+: text) :
    ¬ secret <:+: replaceSecrets secrets text := by
  induction secrets generalizing text with
  | nil => exact h
  | cons other secrets ih =>
    exact ih fun hmem => h (replaceAll_rewrites.isInfix_new hapart hmem)

/-- A secret is gone after its own pass. -/
lemma not_isInfix_of_mem (hapart : Apart placeholder secret) (hne : secret ≠ [])
    (hmem : secret ∈ secrets) : ¬ secret <:+: replaceSecrets secrets text := by
  induction secrets generalizing text with
  | nil => cases hmem
  | cons other secrets ih =>
    rcases List.mem_cons.mp hmem with rfl | hmem
    · rw [replaceSecrets_cons]
      exact not_isInfix_replaceSecrets hapart
        (Rewrites.not_isInfix hapart hne (fun _ h => h) replaceAll_rewrites)
    · exact ih hmem

lemma mem_replaceSecrets {c : Char} (h : c ∈ replaceSecrets secrets text) :
    c ∈ text ∨ c ∈ placeholder := by
  induction secrets generalizing text with
  | nil => exact .inl h
  | cons other secrets ih =>
    rcases ih h with h | h
    · exact replaceAll_rewrites.mem h
    · exact .inr h

lemma placeholder_isInfix_replaceSecrets (hne : ∀ secret ∈ secrets, secret ≠ [])
    (h : placeholder <:+: text ∨ ∃ secret ∈ secrets, secret <:+: text) :
    placeholder <:+: replaceSecrets secrets text := by
  induction secrets generalizing text with
  | nil => exact h.resolve_right (by simp)
  | cons secret secrets ih =>
    rw [replaceSecrets_cons]
    refine ih (fun other hother => hne other (List.mem_cons_of_mem _ hother)) ?_
    by_cases hsecret : secret <:+: text
    · exact .inl (isInfix_replaceAll hsecret (hne secret List.mem_cons_self))
    · rw [replaceAll_of_not_isInfix hsecret]
      refine h.imp_right fun hex => ?_
      obtain ⟨other, hother, hwithin⟩ := hex
      rcases List.mem_cons.mp hother with rfl | hother
      · exact absurd hwithin hsecret
      · exact ⟨other, hother, hwithin⟩

end Secrets

/-! ## The theorem -/

section Theorem

variable {order : SetOrder} {source : Environment} {text : List Char}

lemma redactSensitiveText_of_clean (h : Clean source text) :
    redactSensitiveText order source text = text := by
  rw [redactSensitiveText_eq,
    replaceSecrets_of_clean fun secret hsecret => h.1 secret (mem_longestFirst.mp hsecret)]
  exact subKeysFrom_of_not_searchKey h.2

/-- No key is left, so a text without secrets is left alone the second time. -/
lemma hides_of_noSecret
    (h : ∀ secret ∈ candidates source, ¬ secret <:+: redactSensitiveText order source text) :
    Hides order source text :=
  have hkey : hasKey (redactSensitiveText order source text) = false :=
    (searchKey_subKeysFrom _).1 false
  ⟨h, hkey, fun _ => redactSensitiveText_of_clean ⟨h, hkey⟩⟩

lemma not_isInfix_of_keptOut {secret : List Char} (hsecret : secret ∈ candidates source)
    (h : KeptOut text secret) : ¬ secret <:+: redactSensitiveText order source text := by
  have hkeys := subKeysFrom_rewrites false 0 (replaceSecrets (longestFirst order source) text)
  intro hwithin
  rcases h with hapart | ⟨c, hc, htext, hplaceholder⟩
  · exact not_isInfix_of_mem hapart (ne_nil_of_mem hsecret) (mem_longestFirst.mpr hsecret)
      (hkeys.isInfix_new hapart hwithin)
  · rcases hkeys.mem (hwithin.subset hc) with hmem | hmem
    · exact (mem_replaceSecrets hmem).elim htext hplaceholder
    · exact hplaceholder hmem

/-- Where something is redacted, the placeholder stands in the result. -/
lemma placeholder_isInfix_of_not_clean (h : ¬ Clean source text) :
    placeholder <:+: redactSensitiveText order source text := by
  rw [redactSensitiveText_eq]
  have hne : ∀ secret ∈ longestFirst order source, secret ≠ [] :=
    fun secret hsecret => ne_nil_of_mem (mem_longestFirst.mp hsecret)
  have hkeys (text : List Char) (h : placeholder <:+: text ∨ hasKey text = true) :
      placeholder <:+: subKeys text := by
    cases hkey : hasKey text with
    | true => exact isInfix_subKeysFrom hkey
    | false =>
      rw [subKeys, subKeysFrom_of_not_searchKey hkey]
      exact h.resolve_right (by simp [hkey])
  by_cases hsecret : ∃ secret ∈ longestFirst order source, secret <:+: text
  · exact hkeys _ (.inl (placeholder_isInfix_replaceSecrets hne (.inr hsecret)))
  · have hnone : ∀ secret ∈ longestFirst order source, ¬ secret <:+: text :=
      fun secret hmem hwithin => hsecret ⟨secret, hmem, hwithin⟩
    rw [replaceSecrets_of_clean hnone]
    refine hkeys text (.inr ?_)
    by_contra hkey
    exact h ⟨fun secret hmem => hnone secret (mem_longestFirst.mpr hmem),
      Bool.eq_false_of_not_eq_true hkey⟩

/-- Credentials survive no redaction when there are none, or when no secret can overlap the
placeholder; and they survive where one is part of the placeholder and something is redacted. -/
theorem redactSensitiveText_hides (order : SetOrder) (source : Environment) (text : List Char) :
    (Clean source text ∨ (∀ secret ∈ candidates source, KeptOut text secret) →
      Hides order source text) ∧
    (Hides order source text →
      Clean source text ∨ ∀ secret ∈ candidates source, ¬ secret <:+: placeholder) := by
  constructor
  · rintro (hclean | hout)
    · refine hides_of_noSecret ?_
      rw [redactSensitiveText_of_clean hclean]
      exact hclean.1
    · exact hides_of_noSecret fun secret hsecret =>
        not_isInfix_of_keptOut hsecret (hout secret hsecret)
  · intro h
    by_cases hclean : Clean source text
    · exact .inl hclean
    · exact .inr fun secret hsecret hinside => h.noSecret secret hsecret
        (hinside.trans (placeholder_isInfix_of_not_clean hclean))

end Theorem

/-! ## A secret that is part of the placeholder -/

def asListed : SetOrder := ⟨id, fun texts => List.Perm.refl texts⟩

/-- A variable `TOKEN` with the value `REDACTED`. -/
def tokenEnvironment : Environment :=
  ⟨[("TOKEN".toList, "REDACTED".toList)], List.nodup_singleton _⟩

/-- The secret is replaced by a placeholder that contains it. -/
theorem secret_in_placeholder_survives :
    "REDACTED".toList ∈ candidates tokenEnvironment ∧
    redactSensitiveText asListed tokenEnvironment "REDACTED".toList = placeholder ∧
    ¬Hides asListed tokenEnvironment "REDACTED".toList := by
  have hmem : candidates tokenEnvironment = ["REDACTED".toList] := by decide
  have hlist : longestFirst asListed tokenEnvironment = ["REDACTED".toList] := by
    rw [longestFirst, hmem]
    exact List.mergeSort_singleton _
  have hresult : redactSensitiveText asListed tokenEnvironment "REDACTED".toList =
      placeholder := by
    rw [redactSensitiveText, hlist]
    decide
  have hmember : "REDACTED".toList ∈ candidates tokenEnvironment := by
    rw [hmem]
    exact List.mem_singleton_self _
  refine ⟨hmember, hresult, fun h => h.noSecret _ hmember ?_⟩
  rw [hresult]
  exact ⟨['['], "_CREDENTIAL]".toList, by decide⟩

end Agintor.Core.Redaction
