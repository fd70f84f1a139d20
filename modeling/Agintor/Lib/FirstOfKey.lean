import Mathlib.Data.List.Basic

/-!
# The first element of each key

A list in which some elements have a key and some have none is thinned out: the elements without
a key all stay, and of those with one key only the first does. Which elements stay is a matter of
their positions, and a list in which no key comes twice stays as it is.
-/

namespace Lib

variable {α κ : Type} [DecidableEq κ]

/-- The elements without a key and the first of each key that is not one of `seen`. -/
def firstOfKey (key : α → Option κ) (seen : List κ) : List α → List α
  | [] => []
  | a :: as =>
    match key a with
    | none => a :: firstOfKey key seen as
    | some k =>
      if k ∈ seen then firstOfKey key seen as else a :: firstOfKey key (k :: seen) as

variable {key : α → Option κ} {seen : List κ} {as : List α} {a : α} {k : κ}

@[simp] lemma firstOfKey_nil : firstOfKey key seen [] = [] := rfl

lemma firstOfKey_cons_of_none (h : key a = none) :
    firstOfKey key seen (a :: as) = a :: firstOfKey key seen as := by
  simp [firstOfKey, h]

lemma firstOfKey_cons_of_mem (h : key a = some k) (hk : k ∈ seen) :
    firstOfKey key seen (a :: as) = firstOfKey key seen as := by
  simp [firstOfKey, h, hk]

lemma firstOfKey_cons_of_notMem (h : key a = some k) (hk : k ∉ seen) :
    firstOfKey key seen (a :: as) = a :: firstOfKey key (k :: seen) as := by
  simp [firstOfKey, h, hk]

/-- An element stays when its key is not one of `seen` and no element before it has the key. -/
theorem mem_firstOfKey_iff : a ∈ firstOfKey key seen as ↔
    ∃ before after, as = before ++ a :: after ∧
      ∀ k, key a = some k → k ∉ seen ∧ ∀ b ∈ before, key b ≠ some k := by
  induction as generalizing seen with
  | nil => simp
  | cons b as ih =>
    -- `a` stands at the head, or it stands further on and the head is one more element before it
    have hsplit : (∃ before after, b :: as = before ++ a :: after ∧
          ∀ k, key a = some k → k ∉ seen ∧ ∀ b ∈ before, key b ≠ some k) ↔
        (a = b ∧ ∀ k, key a = some k → k ∉ seen) ∨ ∃ before after, as = before ++ a :: after ∧
          ∀ k, key a = some k → (k ∉ seen ∧ key b ≠ some k) ∧ ∀ b ∈ before, key b ≠ some k := by
      constructor
      · rintro ⟨before, after, heq, hfirst⟩
        cases before with
        | nil =>
          rw [List.nil_append, List.cons.injEq] at heq
          exact .inl ⟨heq.1.symm, fun k hk => (hfirst k hk).1⟩
        | cons c before =>
          rw [List.cons_append, List.cons.injEq] at heq
          refine .inr ⟨before, after, heq.2, fun k hk => ?_⟩
          have hbefore := List.forall_mem_cons.mp (hfirst k hk).2
          exact ⟨⟨(hfirst k hk).1, heq.1 ▸ hbefore.1⟩, hbefore.2⟩
      · rintro (⟨rfl, hseen⟩ | ⟨before, after, rfl, hfirst⟩)
        · exact ⟨[], as, rfl, fun k hk => ⟨hseen k hk, fun _ hb => absurd hb List.not_mem_nil⟩⟩
        · refine ⟨b :: before, after, rfl, fun k hk => ⟨(hfirst k hk).1.1, ?_⟩⟩
          exact List.forall_mem_cons.mpr ⟨(hfirst k hk).1.2, (hfirst k hk).2⟩
    rw [hsplit]
    cases hb : key b with
    | none =>
      rw [firstOfKey_cons_of_none hb, List.mem_cons, ih]
      refine or_congr (and_iff_left_of_imp ?_).symm ?_
      · rintro rfl k hk
        exact absurd (hb.symm.trans hk) (by simp)
      · simp
    | some k =>
      by_cases hk : k ∈ seen
      · rw [firstOfKey_cons_of_mem hb hk, ih]
        constructor
        · rintro ⟨before, after, heq, hfirst⟩
          refine .inr ⟨before, after, heq, fun k' hk' => ?_⟩
          refine ⟨⟨(hfirst k' hk').1, ?_⟩, (hfirst k' hk').2⟩
          rintro ⟨⟩
          exact (hfirst k hk').1 hk
        · rintro (⟨rfl, hseen⟩ | ⟨before, after, heq, hfirst⟩)
          · exact absurd hk (hseen k hb)
          · exact ⟨before, after, heq, fun k' hk' => ⟨(hfirst k' hk').1.1, (hfirst k' hk').2⟩⟩
      · rw [firstOfKey_cons_of_notMem hb hk, List.mem_cons, ih]
        refine or_congr (and_iff_left_of_imp ?_).symm ?_
        · rintro rfl k' hk'
          cases hb.symm.trans hk'
          exact hk
        · refine exists_congr fun before => exists_congr fun after => and_congr_right fun _ =>
            forall_congr' fun k' => imp_congr_right fun _ => and_congr_left fun _ => ?_
          rw [List.mem_cons, not_or, and_comm, Ne, Option.some.injEq, eq_comm]

lemma mem_of_mem_firstOfKey (h : a ∈ firstOfKey key seen as) : a ∈ as := by
  obtain ⟨before, after, rfl, -⟩ := mem_firstOfKey_iff.mp h
  simp

lemma mem_firstOfKey_of_none (h : key a = none) (ha : a ∈ as) : a ∈ firstOfKey key seen as := by
  obtain ⟨before, after, rfl⟩ := List.append_of_mem ha
  refine mem_firstOfKey_iff.mpr ⟨before, after, rfl, fun k hk => ?_⟩
  rw [h] at hk
  cases hk

/-- Of each key that occurs and is not one of `seen` an element stays. -/
theorem exists_mem_firstOfKey (ha : a ∈ as) (h : key a = some k) (hk : k ∉ seen) :
    ∃ b ∈ firstOfKey key seen as, key b = some k := by
  induction as generalizing seen with
  | nil => exact absurd ha List.not_mem_nil
  | cons b as ih =>
    cases hb : key b with
    | none =>
      rw [firstOfKey_cons_of_none hb]
      have htail : a ∈ as := (List.mem_cons.mp ha).resolve_left (by rintro rfl; simp [h] at hb)
      obtain ⟨c, hc, hck⟩ := ih htail hk
      exact ⟨c, List.mem_cons_of_mem _ hc, hck⟩
    | some k' =>
      by_cases heq : k' = k
      · rw [heq] at hb
        rw [firstOfKey_cons_of_notMem hb hk]
        exact ⟨b, List.mem_cons_self, hb⟩
      · have htail : a ∈ as := (List.mem_cons.mp ha).resolve_left (by
          rintro rfl
          exact heq (Option.some.inj (hb.symm.trans h)))
        by_cases hseen : k' ∈ seen
        · rw [firstOfKey_cons_of_mem hb hseen]
          exact ih htail hk
        · rw [firstOfKey_cons_of_notMem hb hseen]
          have hk' : k ∉ k' :: seen := by
            rw [List.mem_cons, not_or]
            exact ⟨Ne.symm heq, hk⟩
          obtain ⟨c, hc, hck⟩ := ih htail hk'
          exact ⟨c, List.mem_cons_of_mem _ hc, hck⟩

/-- No key comes twice in what stays. -/
theorem nodup_keys_firstOfKey : ((firstOfKey key seen as).filterMap key).Nodup := by
  induction as generalizing seen with
  | nil => simp
  | cons b as ih =>
    cases hb : key b with
    | none =>
      rw [firstOfKey_cons_of_none hb, List.filterMap_cons_none hb]
      exact ih
    | some k =>
      by_cases hk : k ∈ seen
      · rw [firstOfKey_cons_of_mem hb hk]
        exact ih
      · rw [firstOfKey_cons_of_notMem hb hk, List.filterMap_cons_some hb, List.nodup_cons]
        refine ⟨fun hmem => ?_, ih⟩
        obtain ⟨c, hc, hck⟩ := List.mem_filterMap.mp hmem
        obtain ⟨_, _, -, hfirst⟩ := mem_firstOfKey_iff.mp hc
        exact (hfirst k hck).1 List.mem_cons_self

/-- A list in which no key comes twice, and none that is one of `seen`, stays as it is. -/
theorem firstOfKey_eq_self (hnodup : (as.filterMap key).Nodup)
    (hseen : ∀ k ∈ as.filterMap key, k ∉ seen) : firstOfKey key seen as = as := by
  induction as generalizing seen with
  | nil => rfl
  | cons b as ih =>
    cases hb : key b with
    | none =>
      rw [List.filterMap_cons_none hb] at hnodup hseen
      rw [firstOfKey_cons_of_none hb, ih hnodup hseen]
    | some k =>
      rw [List.filterMap_cons_some hb] at hnodup hseen
      rw [List.nodup_cons] at hnodup
      have hk : k ∉ seen := hseen k List.mem_cons_self
      have hrest : ∀ k' ∈ as.filterMap key, k' ∉ k :: seen := by
        intro k' hk'
        rw [List.mem_cons, not_or]
        exact ⟨fun heq => hnodup.1 (heq ▸ hk'), hseen k' (List.mem_cons_of_mem _ hk')⟩
      rw [firstOfKey_cons_of_notMem hb hk, ih hnodup.2 hrest]

omit [DecidableEq κ] in
/-- Where no key comes twice, a key belongs to one element. -/
lemma eq_of_nodup_keys (hnodup : (as.filterMap key).Nodup) {b : α} (ha : a ∈ as) (hb : b ∈ as)
    (hak : key a = some k) (hbk : key b = some k) : a = b := by
  induction as with
  | nil => exact absurd ha List.not_mem_nil
  | cons c as ih =>
    have hrest : (as.filterMap key).Nodup := by
      cases hc : key c with
      | none => rwa [List.filterMap_cons_none hc] at hnodup
      | some k' =>
        rw [List.filterMap_cons_some hc] at hnodup
        exact hnodup.of_cons
    -- the key of the head is none of the rest
    have hhead {d : α} (hd : d ∈ as) (hdk : key d = some k) (hck : key c = some k) : False := by
      rw [List.filterMap_cons_some hck] at hnodup
      exact (List.nodup_cons.mp hnodup).1 (List.mem_filterMap.mpr ⟨d, hd, hdk⟩)
    rcases List.mem_cons.mp ha with rfl | ha' <;> rcases List.mem_cons.mp hb with rfl | hb'
    · rfl
    · exact (hhead hb' hbk hak).elim
    · exact (hhead ha' hak hbk).elim
    · exact ih hrest ha' hb'

/-- The first element with its key, where no other element of the list has the key. -/
lemma mem_firstOfKey_of_unique (ha : a ∈ as) (h : key a = some k) (hk : k ∉ seen)
    (hunique : ∀ b ∈ as, key b = some k → b = a) : a ∈ firstOfKey key seen as := by
  obtain ⟨b, hb, hbk⟩ := exists_mem_firstOfKey ha h hk
  exact hunique b (mem_of_mem_firstOfKey hb) hbk ▸ hb

end Lib
