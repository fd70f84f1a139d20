import Agintor.Isolation.CommandReplayTheorems

/-!
# Validating a request twice

A captured request is validated again when its command is recorded. The second validation changes
its working directory where the first one has left whitespace at an end, and nothing else.
-/

namespace Agintor.Isolation

open Core Contracts Lib

variable {U : UnicodeTables}

/-! ## Environments -/

lemma validateCommand_ok {command normalized : List String}
    (h : validateCommand command = .ok normalized) : normalized = command := by
  unfold validateCommand at h
  simp only [bind_eq_ok_iff, raiseIf_eq_ok_iff, exists_const, pure_eq_ok, Except.ok.injEq] at h
  exact h.2.2.symm

/-- A variable that a second validation leaves as it is. -/
structure NormalVariable (U : UnicodeTables) (entry : String × String) : Prop where
  name : isEnvName entry.1 = true
  unmarked : secretEnvMarkers.any (fun marker => decide (marker.toList <:+: entry.1.toList)) = false
  value : entry.2.toList.contains '\x00' = false
  shown : isPublic U (.object [(entry.1, .str entry.2)]) = true

lemma isEnvName_chars {name : String} (h : isEnvName name = true) :
    ∀ c ∈ name.toList, (c.isUpper || c.isDigit || c == '_') = true := by
  unfold isEnvName at h
  cases hname : name.toList with
  | nil => simp
  | cons first rest =>
    simp only [hname, Bool.and_eq_true, List.all_eq_true] at h
    intro c hc
    rcases List.mem_cons.mp hc with rfl | hc
    · have hfirst := h.1
      simp only [Bool.or_eq_true] at hfirst ⊢
      exact hfirst.elim (fun hupper => Or.inl (Or.inl hupper)) Or.inr
    · exact h.2 c hc

lemma not_isSpace_of_envChar {c : Char} (h : (c.isUpper || c.isDigit || c == '_') = true) :
    isSpace c = false ∧ c.toUpper = c := by
  have hnat : 48 ≤ c.toNat ∧ c.toNat ≤ 57 ∨ 65 ≤ c.toNat ∧ c.toNat ≤ 90 ∨ c.toNat = 95 := by
    simp only [Bool.or_eq_true, beq_iff_eq, Char.isDigit, Bool.and_eq_true, decide_eq_true_eq,
      ge_iff_le, UInt32.le_iff_toNat_le] at h
    rcases h with (hupper | ⟨hlo, hhi⟩) | rfl
    · have hrange : c.val ≥ 65 ∧ c.val ≤ 90 := of_decide_eq_true hupper
      simp only [ge_iff_le, UInt32.le_iff_toNat_le] at hrange
      exact Or.inr (Or.inl hrange)
    · exact Or.inl ⟨hlo, hhi⟩
    · exact Or.inr (Or.inr rfl)
  constructor
  · simp only [isSpace, Bool.or_eq_false_iff, Bool.and_eq_false_iff, decide_eq_false_iff_not,
      beq_eq_false_iff_ne]
    omega
  · unfold Char.toUpper
    rw [dif_neg]
    intro hlower
    have hle := UInt32.le_iff_toNat_le.mp hlower.1
    change 97 ≤ c.toNat at hle
    omega

/-- Names in normal form stay as they are. -/
lemma toUpper_strip_of_isEnvName {name : String} (h : isEnvName name = true) :
    (strip name).toUpper = name := by
  have hchars := isEnvName_chars h
  rw [strip_of_no_space fun c hc => (not_isSpace_of_envChar (hchars c hc)).1]
  apply String.toList_inj.mp
  rw [String.toUpper, String.toList_map]
  exact (List.map_congr_left fun c hc => (not_isSpace_of_envChar (hchars c hc)).2).trans
    (List.map_id _)

variable {normalized result : Dict String String} {entry : String × String}

lemma validateVariable_ok (h : validateVariable U normalized entry = .ok result) :
    ∃ name, NormalVariable U (name, entry.2) ∧ result = normalized.set name entry.2 := by
  unfold validateVariable at h
  simp only [bind_eq_ok_iff, raiseIf_eq_ok_iff, exists_const, pure_eq_ok, Except.ok.injEq] at h
  obtain ⟨hname, hmarked, hvalue, hpublic, rfl⟩ := h
  exact ⟨_, ⟨by simpa using hname, by simpa using hmarked, by simpa using hvalue,
    by simpa using hpublic⟩, rfl⟩

lemma validateVariable_of_normal {normalized : Dict String String} (h : NormalVariable U entry) :
    validateVariable U normalized entry = .ok (normalized.set entry.1 entry.2) := by
  unfold validateVariable
  rw [toUpper_strip_of_isEnvName h.name]
  dsimp only
  rw [raiseIf_neg (by simp [h.name]), ok_bind, raiseIf_neg (by simp [h.unmarked]), ok_bind,
    raiseIf_neg (by rw [h.value]; simp), ok_bind, raiseIf_neg (by simp [h.shown]), ok_bind]
  rfl

lemma mem_assign {κ α : Type} [DecidableEq κ] {key : κ} {value : α} {entries : List (κ × α)}
    {entry : κ × α} (h : entry ∈ Dict.assign key value entries) :
    entry = (key, value) ∨ entry ∈ entries := by
  induction entries with
  | nil => exact Or.inl (List.mem_singleton.mp h)
  | cons first rest ih =>
    rw [Dict.assign] at h
    split at h
    · rcases List.mem_cons.mp h with h | h
      · exact Or.inl h
      · exact Or.inr (List.mem_cons_of_mem first h)
    · rcases List.mem_cons.mp h with rfl | h
      · exact Or.inr List.mem_cons_self
      · exact (ih h).imp id (List.mem_cons_of_mem first)

lemma foldlM_validateVariable_ok {environment : List (String × String)}
    (hstart : ∀ entry ∈ normalized.entries, NormalVariable U entry)
    (h : environment.foldlM (validateVariable U) normalized = .ok result) :
    ∀ entry ∈ result.entries, NormalVariable U entry := by
  induction environment generalizing normalized with
  | nil =>
    obtain rfl := Except.ok.inj h
    exact hstart
  | cons first rest ih =>
    rw [List.foldlM_cons, bind_eq_ok_iff] at h
    obtain ⟨next, hnext, hrest⟩ := h
    obtain ⟨name, hnormal, rfl⟩ := validateVariable_ok hnext
    refine ih (fun entry hentry => ?_) hrest
    rcases mem_assign hentry with rfl | hentry
    · exact hnormal
    · exact hstart entry hentry

/-- Variables in normal form, under different names, are kept in their order. -/
lemma foldlM_validateVariable_of_normal {entries : List (String × String)}
    (normalized : Dict String String) (hnormal : ∀ entry ∈ entries, NormalVariable U entry)
    (hnodup : ((normalized.entries ++ entries).map Prod.fst).Nodup) :
    ∃ result, entries.foldlM (validateVariable U) normalized = .ok result ∧
      result.entries = normalized.entries ++ entries := by
  induction entries generalizing normalized with
  | nil => exact ⟨normalized, rfl, (List.append_nil _).symm⟩
  | cons entry rest ih =>
    have hfresh : entry.1 ∉ normalized.keys := by
      rw [List.map_append, List.map_cons] at hnodup
      exact fun hmem => (List.nodup_append.mp hnodup).2.2 _ hmem _ List.mem_cons_self rfl
    have hentries := Dict.entries_set_of_not_mem (v := entry.2) hfresh
    obtain ⟨result, hresult, hall⟩ := ih (normalized.set entry.1 entry.2)
      (fun other hother => hnormal other (List.mem_cons_of_mem entry hother))
      (by rwa [hentries, List.append_assoc, List.singleton_append])
    refine ⟨result, ?_, ?_⟩
    · rw [List.foldlM_cons, validateVariable_of_normal (hnormal entry List.mem_cons_self), ok_bind]
      exact hresult
    · rw [hall, hentries, List.append_assoc, List.singleton_append]

/-- A validated environment is validated as it is. -/
lemma validateEnvironment_again {environment validated : List (String × String)}
    (h : validateEnvironment U environment = .ok validated) :
    validateEnvironment U validated = .ok validated := by
  unfold validateEnvironment at h ⊢
  simp only [bind_eq_ok_iff, pure_eq_ok, Except.ok.injEq] at h
  obtain ⟨normalized, hfold, rfl⟩ := h
  have hperm := List.perm_insertionSort (fun a b : String × String => a.1 ≤ b.1) normalized.entries
  have hnormal := foldlM_validateVariable_ok (fun entry hentry => absurd hentry List.not_mem_nil)
    hfold
  obtain ⟨result, hresult, hentries⟩ := foldlM_validateVariable_of_normal (U := U) .empty
    (fun entry hentry => hnormal entry (hperm.mem_iff.mp hentry))
    ((hperm.map Prod.fst).nodup_iff.mpr normalized.nodup)
  rw [hresult, ok_bind, hentries]
  show Except.ok (List.insertionSort _ (List.insertionSort _ _)) = _
  have hsorted := List.pairwise_insertionSort (fun a b : String × String => a.1 ≤ b.1)
    normalized.entries
  rw [hsorted.insertionSort_eq]

/-! ## Working directories -/

lemma not_mem_of_mem_splitOn {text part : List Char} (h : part ∈ text.splitOn '/') :
    '/' ∉ part ∧ ∀ c ∈ part, c ∈ text := by
  induction text generalizing part with
  | nil =>
    rw [List.splitOn_nil, List.mem_singleton] at h
    simp [h]
  | cons c text ih =>
    rw [List.splitOn_cons_eq_if_modifyHead] at h
    split at h
    · rcases List.mem_cons.mp h with rfl | h
      · simp
      · exact ⟨(ih h).1, fun d hd => List.mem_cons_of_mem c ((ih h).2 d hd)⟩
    · next hc =>
      cases hsplit : text.splitOn '/' with
      | nil => exact absurd hsplit (List.splitOn_ne_nil '/' text)
      | cons head rest =>
        rw [hsplit, List.modifyHead_cons] at h
        rw [hsplit] at ih
        rcases List.mem_cons.mp h with rfl | h
        · have hhead := ih List.mem_cons_self
          refine ⟨?_, ?_⟩
          · rw [List.mem_cons, not_or]
            exact ⟨fun heq => hc (by simp [← heq]), hhead.1⟩
          · intro d hd
            rcases List.mem_cons.mp hd with rfl | hd
            · exact List.mem_cons_self
            · exact List.mem_cons_of_mem c (hhead.2 d hd)
        · have hpart := ih (List.mem_cons_of_mem head h)
          exact ⟨hpart.1, fun d hd => List.mem_cons_of_mem c (hpart.2 d hd)⟩

/-- Leaving parts out makes a path no longer. -/
lemma length_intercalate_filter_le (p : List Char → Bool) (parts : List (List Char)) :
    (['/'].intercalate (parts.filter p)).length ≤ (['/'].intercalate parts).length := by
  induction parts with
  | nil => simp
  | cons part rest ih =>
    cases rest with
    | nil =>
      rw [List.filter_cons]
      split <;> simp
    | cons next rest =>
      rw [List.intercalate_cons_cons]
      rw [List.filter_cons]
      split
      · cases hkept : (next :: rest).filter p with
        | nil => simp
        | cons kept others =>
          rw [hkept] at ih
          rw [List.intercalate_cons_cons]
          simp only [List.length_append, List.length_singleton] at ih ⊢
          omega
      · simp only [List.length_append, List.length_singleton] at ih ⊢
        omega

lemma strip_shorter (text : String) :
    strip text = text ∨ (strip text).toList.length < text.toList.length := by
  have hfront := List.dropWhile_sublist (l := text.toList) isSpace
  have hback := List.dropWhile_sublist (l := (text.toList.dropWhile isSpace).reverse) isSpace
  have hstrip : (strip text).toList =
      ((text.toList.dropWhile isSpace).reverse.dropWhile isSpace).reverse := by simp [strip]
  by_cases hlength : (strip text).toList.length < text.toList.length
  · exact Or.inr hlength
  · left
    have hle := hback.length_le
    rw [hstrip, List.length_reverse] at hlength
    rw [List.length_reverse] at hle
    -- nothing has been dropped at either end
    have hfrontEq := hfront.eq_of_length_le (by omega)
    rw [hfrontEq] at hback hlength
    have hbackEq := hback.eq_of_length_le (by rw [List.length_reverse]; omega)
    apply String.toList_inj.mp
    rw [hstrip, hfrontEq, hbackEq, List.reverse_reverse]

/-- A path of parts, none of them empty or a dot, without a colon. -/
structure NormalParts (parts : List (List Char)) : Prop where
  proper : ∀ part ∈ parts, part ≠ [] ∧ part ≠ ['.'] ∧ part ≠ ['.', '.']
  chars : ∀ part ∈ parts, ∀ c ∈ part, c ≠ '/' ∧ c ≠ '\\' ∧ c ≠ ':'

/-- The text of such a path. -/
def directoryText (parts : List (List Char)) : String :=
  if parts = [] then "." else String.ofList (['/'].intercalate parts)

lemma mem_intercalate {c : Char} {parts : List (List Char)} (h : c ∈ ['/'].intercalate parts) :
    c = '/' ∨ ∃ part ∈ parts, c ∈ part := by
  induction parts with
  | nil => simp at h
  | cons part rest ih =>
    cases rest with
    | nil => exact Or.inr ⟨part, List.mem_cons_self, by simpa using h⟩
    | cons next rest =>
      rw [List.intercalate_cons_cons, List.append_assoc] at h
      rcases List.mem_append.mp h with h | h
      · exact Or.inr ⟨part, List.mem_cons_self, h⟩
      · rcases List.mem_cons.mp h with rfl | h
        · exact Or.inl rfl
        · rcases ih h with rfl | ⟨other, hother, hc⟩
          · exact Or.inl rfl
          · exact Or.inr ⟨other, List.mem_cons_of_mem part hother, hc⟩

lemma not_mem_withSlashes (text : List Char) : '\\' ∉ withSlashes text := by
  intro h
  obtain ⟨c, -, hc⟩ := List.mem_map.mp h
  split at hc
  · exact absurd hc (by decide)
  · next hne => exact hne hc

lemma not_mem_orDot (text : List Char) :
    '\\' ∉ (if withSlashes text = [] then ['.'] else withSlashes text) := by
  split
  · simp
  · exact not_mem_withSlashes text

/-- What is left of a working directory. -/
lemma validateWorkingDirectory_ok {value directory : String}
    (h : validateWorkingDirectory value = .ok directory) :
    ∃ parts, NormalParts parts ∧ directory = directoryText parts := by
  unfold validateWorkingDirectory at h
  simp only [bind_eq_ok_iff, raiseIf_eq_ok_iff, exists_const, pure_eq_ok, Except.ok.injEq] at h
  obtain ⟨hchecks, rfl⟩ := h
  rw [not_or, not_or] at hchecks
  refine ⟨_, ⟨?_, ?_⟩, rfl⟩
  · intro part hpart
    have hkept := (List.mem_filter.mp hpart).2
    simp only [decide_eq_true_eq] at hkept
    exact ⟨hkept.1, hkept.2, fun hup => hchecks.2.1 ⟨part, hpart, hup⟩⟩
  · intro part hpart c hc
    have hmem := not_mem_of_mem_splitOn (List.mem_filter.mp hpart).1
    have hin := hmem.2 c hc
    exact ⟨fun heq => hmem.1 (heq ▸ hc), fun heq => not_mem_orDot _ (heq ▸ hin),
      fun heq => hchecks.2.2 (heq ▸ hin)⟩

lemma directoryText_nil : directoryText [] = "." := if_pos rfl

section NormalParts

variable {parts : List (List Char)}

lemma toList_directoryText (hne : parts ≠ []) :
    (directoryText parts).toList = ['/'].intercalate parts := by
  rw [directoryText, if_neg hne, String.toList_ofList]

/-- The text starts with its first part, which is not empty. -/
lemma exists_head_intercalate (h : NormalParts parts) (hne : parts ≠ []) :
    ∃ c rest, ['/'].intercalate parts = c :: rest ∧ c ≠ '/' := by
  cases parts with
  | nil => exact absurd rfl hne
  | cons part others =>
    cases part with
    | nil => exact absurd rfl (h.proper [] List.mem_cons_self).1
    | cons c cs =>
      have hc := (h.chars (c :: cs) List.mem_cons_self c List.mem_cons_self).1
      cases others with
      | nil => exact ⟨c, cs, List.intercalate_singleton, hc⟩
      | cons next others => exact ⟨c, _, by rw [List.intercalate_cons_cons]; rfl, hc⟩

/-- A directory without whitespace at its ends is in normal form. -/
lemma validateWorkingDirectory_of_strip (h : NormalParts parts)
    (hstrip : strip (directoryText parts) = directoryText parts) :
    validateWorkingDirectory (directoryText parts) = .ok (directoryText parts) := by
  by_cases hne : parts = []
  · rw [hne, directoryText_nil]
    decide +kernel
  · have htext := toList_directoryText hne
    obtain ⟨c, rest, hhead, hc⟩ := exists_head_intercalate h hne
    have hnonempty : directoryText parts ≠ "" := by
      intro hempty
      rw [hempty, hhead] at htext
      cases htext
    have hslashes : withSlashes (['/'].intercalate parts) = ['/'].intercalate parts := by
      refine (List.map_congr_left fun d hd => if_neg ?_).trans (List.map_id _)
      rcases mem_intercalate hd with rfl | ⟨part, hpart, hd⟩
      · decide
      · exact (h.chars part hpart d hd).2.1
    have hsplit := List.splitOn_intercalate '/'
      (fun part hpart hmem => (h.chars part hpart '/' hmem).1 rfl) hne
    have hfilter : parts.filter (fun part => part ≠ [] ∧ part ≠ ['.']) = parts :=
      List.filter_eq_self.mpr fun part hpart => by
        simp [(h.proper part hpart).1, (h.proper part hpart).2.1]
    have hcolon : ':' ∉ ['/'].intercalate parts := by
      intro hmem
      rcases mem_intercalate hmem with heq | ⟨part, hpart, hmem⟩
      · exact absurd heq (by decide)
      · exact (h.chars part hpart ':' hmem).2.2 rfl
    unfold validateWorkingDirectory
    dsimp only
    rw [if_neg hnonempty, hstrip, htext, hslashes, if_neg (by rw [hhead]; simp), hsplit, hfilter,
      raiseIf_neg, ok_bind]
    · rfl
    · rw [not_or, not_or]
      refine ⟨?_, fun hup => (h.proper _ (exists_eq_right.mp hup)).2.2 rfl, hcolon⟩
      rw [hhead]
      simpa using hc

/-- The text of a path is no longer than the text it has been cut from, but for the single dot. -/
lemma length_directoryText_le {value directory : String}
    (h : validateWorkingDirectory value = .ok directory) :
    directory = "." ∨ directory.toList.length ≤ (strip value).toList.length := by
  by_cases hempty : value = ""
  · left
    rw [hempty] at h
    have hdot : validateWorkingDirectory "" = .ok "." := by decide +kernel
    exact Except.ok.inj (h.symm.trans hdot)
  · unfold validateWorkingDirectory at h
    simp only [bind_eq_ok_iff, raiseIf_eq_ok_iff, exists_const, pure_eq_ok, Except.ok.injEq,
      if_neg hempty] at h
    obtain ⟨-, rfl⟩ := h
    by_cases hslashes : withSlashes (strip value).toList = []
    · left
      rw [if_pos hslashes]
      decide +kernel
    · rw [if_neg hslashes]
      split
      · exact Or.inl rfl
      · right
        rw [String.toList_ofList]
        refine (length_intercalate_filter_le _ _).trans ?_
        rw [List.intercalate_splitOn, withSlashes, List.length_map]

/-- Whitespace at an end is lost by a second validation. -/
lemma strip_of_validateWorkingDirectory_again {directory : String}
    (hagain : validateWorkingDirectory directory = .ok directory) : strip directory = directory := by
  rcases strip_shorter directory with hsame | hshorter
  · exact hsame
  · rcases length_directoryText_le hagain with hdot | hle
    · rw [hdot]
      decide +kernel
    · omega

end NormalParts

/-! ## Requests -/

section Requests

variable {ids : CommandIdentities} {request : IsolatedCommandRequest}
  {captured : IsolatedCommandReplayRequest}

/-- What a captured request takes from the request. -/
structure CapturedFrom (ids : CommandIdentities) (U : UnicodeTables)
    (request : IsolatedCommandRequest) (captured : IsolatedCommandReplayRequest) : Prop where
  command : captured.command = request.command
  timeout : captured.timeoutS = request.timeoutS
  positive : ∀ timeout ∈ captured.timeoutS, 0 < timeout
  directory : validateWorkingDirectory request.workingDirectory = .ok captured.workingDirectory
  environment : validateEnvironment U captured.environment = .ok captured.environment
  accepted : validateCommand captured.command = .ok captured.command ∧
    captured.timeoutS.any (fun timeout => timeout ≤ 0 ∨ 3600 < timeout) = false
  digest : isDigest captured.workspaceContentDigest = true
  identity : captured.requestDigest = captured.identity ids
  shown : isPublic U captured.dump = true

lemma capturedFrom_of_fromRequest (h : fromRequest ids U (some request) = .ok captured) :
    CapturedFrom ids U request captured := by
  unfold fromRequest at h
  dsimp only at h
  split at h
  · cases h
  · next digest hdigest =>
    have hbound := validateRequest_bound h
    obtain ⟨fields, hfields, -, rfl, hpublic⟩ := validateRequest_ok h
    unfold validateFields at hfields
    simp only [bind_eq_ok_iff, raiseIf_eq_ok_iff, exists_const, pure_eq_ok, Except.ok.injEq]
      at hfields
    obtain ⟨command, hcommand, digest', hdigest', directory, hdirectory, environment, henvironment,
      htimeout, rfl⟩ := hfields
    have heq := validateCommand_ok hcommand
    rw [heq] at hcommand
    refine ⟨heq, rfl, ?_, hdirectory, validateEnvironment_again henvironment,
      ⟨by rw [← heq] at hcommand; exact hcommand, by simpa using htimeout⟩, hbound.1, hbound.2,
      hpublic⟩
    intro timeout hmem
    have hnone : request.timeoutS = some timeout := hmem
    rw [hnone] at htimeout
    simp only [Option.any_some, decide_eq_true_eq, not_or, not_le] at htimeout
    exact htimeout.1

/-- A captured request stays as it is, if its working directory does. -/
lemma validateRequest_again (h : CapturedFrom ids U request captured)
    (hagain : validateWorkingDirectory captured.workingDirectory = .ok captured.workingDirectory) :
    validateRequest ids U captured = .ok captured := by
  have hfields : validateFields U captured = .ok captured := by
    unfold validateFields
    rw [h.accepted.1, ok_bind, requireDigest_of_isDigest h.digest, ok_bind, hagain, ok_bind,
      h.environment, ok_bind, raiseIf_neg (by rw [h.accepted.2]; simp), ok_bind]
    rfl
  unfold validateRequest
  rw [hfields, ok_bind]
  unfold bindRequest
  have hidentity := h.identity
  unfold IsolatedCommandReplayRequest.identity at hidentity
  rw [← hidentity]
  dsimp only
  rw [raiseIf_neg fun hne => hne.2 rfl, ok_bind, raiseIf_neg (by simp [h.shown]), ok_bind]
  rfl

/-- When the second validation succeeds. -/
lemma validateRequest_again_iff (hcaptured : fromRequest ids U (some request) = .ok captured)
    (hdistinct : Distinguished ids U (some request)) :
    (∃ again, validateRequest ids U captured = .ok again) ↔
      strip captured.workingDirectory = captured.workingDirectory := by
  have h := capturedFrom_of_fromRequest hcaptured
  constructor
  · rintro ⟨again, hagain⟩
    obtain rfl := revalidated_eq hdistinct hcaptured hagain
    obtain ⟨fields, hfields, -, heq, -⟩ := validateRequest_ok hagain
    unfold validateFields at hfields
    simp only [bind_eq_ok_iff, raiseIf_eq_ok_iff, exists_const, pure_eq_ok, Except.ok.injEq]
      at hfields
    obtain ⟨command, -, digest, -, directory, hdirectory, environment, -, -, rfl⟩ := hfields
    have hsame : again.workingDirectory = directory := by
      rw [heq]
    rw [← hsame] at hdirectory
    exact strip_of_validateWorkingDirectory_again hdirectory
  · intro hstrip
    obtain ⟨parts, hparts, heq⟩ := validateWorkingDirectory_ok h.directory
    refine ⟨captured, validateRequest_again h ?_⟩
    rw [heq] at hstrip ⊢
    exact validateWorkingDirectory_of_strip hparts hstrip

end Requests

end Agintor.Isolation
