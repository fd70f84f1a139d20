import Agintor.Evaluation.CommandPlans
import Agintor.Isolation.CommandRequestTheorems

/-!
# One command, planned and requested

The plan of a command and the request for it have the same directory whenever they have one, and
the same environment exactly when no two names that differ only in case leave different values
behind. `CommandAgrees` says of a command, without its plan or its request, that both are made and
are the same.
-/

namespace Agintor.Evaluation.CommandPlans

open Lib Core

/-! ## Directories -/

lemma isSpace_withSlash (c : Char) : isSpace (if c = '\\' then '/' else c) = isSpace c := by
  split
  · subst c
    decide
  · rfl

lemma dropWhile_withSlashes (text : List Char) :
    (Isolation.withSlashes text).dropWhile isSpace =
      Isolation.withSlashes (text.dropWhile isSpace) := by
  unfold Isolation.withSlashes
  rw [List.dropWhile_map]
  congr 2
  funext c
  exact isSpace_withSlash c

/-- It does not matter whether backslashes are replaced before or after stripping. -/
lemma strip_withSlashes (value : String) :
    (strip (String.ofList (Isolation.withSlashes value.toList))).toList =
      Isolation.withSlashes (strip value).toList := by
  have hreverse (text : List Char) :
      (Isolation.withSlashes text).reverse = Isolation.withSlashes text.reverse := by
    unfold Isolation.withSlashes
    rw [List.map_reverse]
  unfold strip
  rw [String.toList_ofList, String.toList_ofList, String.toList_ofList, dropWhile_withSlashes,
    hreverse, dropWhile_withSlashes, hreverse]

/-- The text of a directory as both checks see it. -/
def directoryText (workingDirectory : String) : List Char :=
  Isolation.withSlashes (strip (repoDirectory workingDirectory)).toList

/-- The directory stays below the evaluation root. -/
def DirectoryStays (workingDirectory : String) : Prop :=
  ['.', '.'] ∉ pathParts (directoryText workingDirectory)

def posixDirectory (workingDirectory : String) : String :=
  if pathParts (directoryText workingDirectory) = [] then "."
  else String.ofList (['/'].intercalate (pathParts (directoryText workingDirectory)))

lemma exists_repoDirectory (workingDirectory : String) :
    ∃ rest, (repoDirectory workingDirectory).toList = 'r' :: rest := by
  unfold repoDirectory
  split
  · exact ⟨"epo".toList, rfl⟩
  · rw [String.toList_append]
    exact ⟨"epo/".toList ++ workingDirectory.toList, rfl⟩

lemma exists_directoryText (workingDirectory : String) :
    ∃ rest, directoryText workingDirectory = 'r' :: rest := by
  obtain ⟨rest, hrest⟩ := exists_repoDirectory workingDirectory
  -- stripping keeps a first character that is no white space
  have hreverse : (('r' :: rest).reverse.dropWhile isSpace).reverse =
      'r' :: (rest.reverse.dropWhile isSpace).reverse := by
    rw [List.reverse_cons, List.dropWhile_append]
    split
    · rename_i hempty
      rw [List.isEmpty_iff] at hempty
      rw [hempty]
      rfl
    · rw [List.reverse_append]
      rfl
  unfold directoryText strip
  rw [hrest, List.dropWhile_cons_of_neg (by decide), hreverse, String.toList_ofList]
  exact ⟨_, rfl⟩

lemma insidePath_directoryText (message workingDirectory : String) :
    insidePath message (orDot (directoryText workingDirectory)) =
      if ['.', '.'] ∈ pathParts (directoryText workingDirectory) then .error (.value message)
      else .ok (posixDirectory workingDirectory) := by
  obtain ⟨rest, hrest⟩ := exists_directoryText workingDirectory
  have hne : directoryText workingDirectory ≠ [] := by rw [hrest]; simp
  have hhead : (directoryText workingDirectory).head? ≠ some '/' := by rw [hrest]; simp
  unfold insidePath orDot
  rw [if_neg hne]
  by_cases hup : ['.', '.'] ∈ pathParts (directoryText workingDirectory)
  · rw [raiseIf_pos (Or.inr (exists_eq_right.mpr hup)), if_pos hup]
    rfl
  · rw [raiseIf_neg (not_or.mpr ⟨hhead, mt exists_eq_right.mp hup⟩), if_neg hup]
    rfl

lemma planDirectory_repoDirectory (workingDirectory : String) :
    planDirectory (repoDirectory workingDirectory) =
      if ['.', '.'] ∈ pathParts (directoryText workingDirectory) then
        .error (.value "dry-run working directory must stay inside the scratch mount")
      else .ok (posixDirectory workingDirectory) := by
  obtain ⟨rest, hrest⟩ := exists_repoDirectory workingDirectory
  have hne : repoDirectory workingDirectory ≠ "" := by
    intro hempty
    rw [hempty] at hrest
    simp at hrest
  unfold planDirectory
  rw [if_neg hne]
  exact insidePath_directoryText _ _

lemma requestDirectory_repoDirectory (workingDirectory : String) :
    requestDirectory (repoDirectory workingDirectory) =
      if ['.', '.'] ∈ pathParts (directoryText workingDirectory) then
        .error (.value "working_directory must stay within the mounted workspace")
      else .ok (posixDirectory workingDirectory) := by
  unfold requestDirectory
  rw [strip_withSlashes]
  exact insidePath_directoryText _ _

/-! ## Assignments -/

/-- The value that a name is given last. -/
def lastOf (assignments : List (String × String)) (name : String) : Option String :=
  (assignments.reverse.find? fun entry => entry.1 = name).map Prod.snd

lemma lastOf_append (assignments later : List (String × String)) (name : String) :
    lastOf (assignments ++ later) name = (lastOf later name).or (lastOf assignments name) := by
  unfold lastOf
  rw [List.reverse_append, List.find?_append]
  cases later.reverse.find? fun entry => decide (entry.1 = name) <;> rfl

lemma lastOf_concat (assignments : List (String × String)) (entry : String × String)
    (name : String) :
    lastOf (assignments ++ [entry]) name =
      if entry.1 = name then some entry.2 else lastOf assignments name := by
  rw [lastOf_append]
  by_cases hname : entry.1 = name
  · simp [lastOf, hname]
  · simp [lastOf, hname]

variable {assignments : List (String × String)} {entry : String × String}

lemma mem_of_lastOf {name value : String} (h : lastOf assignments name = some value) :
    (name, value) ∈ assignments := by
  unfold lastOf at h
  obtain ⟨entry, hentry, rfl⟩ := Option.map_eq_some_iff.mp h
  have hname := List.find?_some hentry
  have hmem := List.mem_of_find?_eq_some hentry
  rw [decide_eq_true_eq] at hname
  rw [← hname]
  exact List.mem_reverse.mp hmem

lemma exists_lastOf (h : entry ∈ assignments) :
    ∃ value, lastOf assignments entry.1 = some value := by
  cases hlast : lastOf assignments entry.1 with
  | some value => exact ⟨value, rfl⟩
  | none =>
    unfold lastOf at hlast
    rw [Option.map_eq_none_iff, List.find?_eq_none] at hlast
    have hentry := hlast entry (List.mem_reverse.mpr h)
    simp at hentry

lemma get?_update (mapping : Dict String String) (assignments : List (String × String))
    (name : String) :
    (update mapping assignments).get? name = (lastOf assignments name).or (mapping.get? name) := by
  unfold update
  induction assignments using List.reverseRecOn with
  | nil => rfl
  | append_singleton assignments entry ih =>
    rw [List.foldl_append, List.foldl_cons, List.foldl_nil, Dict.get?_set, lastOf_concat, ih]
    split <;> rfl

lemma get?_dictOf (assignments : List (String × String)) (name : String) :
    (dictOf assignments).get? name = lastOf assignments name := by
  unfold dictOf
  rw [get?_update, Dict.get?_empty, Option.or_none]

lemma lastOf_entries (mapping : Dict String String) (name : String) :
    lastOf mapping.entries name = mapping.get? name := by
  cases hlast : lastOf mapping.entries name with
  | some value => exact (Dict.get?_eq_some_iff.mpr (mem_of_lastOf hlast)).symm
  | none =>
    cases hget : mapping.get? name with
    | none => rfl
    | some value =>
      obtain ⟨value', hvalue'⟩ := exists_lastOf (Dict.get?_eq_some_iff.mp hget)
      rw [hlast] at hvalue'
      cases hvalue'

/-- Sorted items are the same when the mappings are. -/
lemma sortedItems_eq_iff {mapping mapping' : Dict String String} :
    sortedItems mapping = sortedItems mapping' ↔
      ∀ name, mapping.get? name = mapping'.get? name := by
  have htotal : ∀ a b, EntryLe a b ∨ EntryLe b a := by
    intro a b
    unfold EntryLe
    rcases lt_trichotomy a.1 b.1 with hlt | heq | hlt
    · exact Or.inl (Or.inl hlt)
    · exact (le_total a.2 b.2).imp (fun hle => Or.inr ⟨heq, hle⟩)
        fun hle => Or.inr ⟨heq.symm, hle⟩
    · exact Or.inr (Or.inl hlt)
  have htrans : ∀ a b c, EntryLe a b → EntryLe b c → EntryLe a c := by
    intro a b c hab hbc
    unfold EntryLe at *
    rcases hab with hab | ⟨hab, hab'⟩
    · rcases hbc with hbc | ⟨hbc, -⟩
      · exact Or.inl (hab.trans hbc)
      · exact Or.inl (hbc ▸ hab)
    · rcases hbc with hbc | ⟨hbc, hbc'⟩
      · exact Or.inl (hab ▸ hbc)
      · exact Or.inr ⟨hab.trans hbc, hab'.trans hbc'⟩
  have hantisymm : ∀ a b, EntryLe a b → EntryLe b a → a = b := by
    intro a b hab hba
    rcases hab with hab | ⟨hab, hab'⟩
    · rcases hba with hba | ⟨hba, -⟩
      · exact absurd hba (lt_asymm hab)
      · exact absurd hab (hba ▸ lt_irrefl _)
    · rcases hba with hba | ⟨-, hba'⟩
      · exact absurd hba (hab ▸ lt_irrefl _)
      · exact Prod.ext hab (le_antisymm hab' hba')
  unfold sortedItems
  rw [insertionSort_eq_iff_perm htotal htrans hantisymm]
  constructor
  · intro hperm name
    exact Dict.get?_eq_of_perm hperm name
  · intro hget
    rw [List.perm_ext_iff_of_nodup mapping.nodup_entries mapping'.nodup_entries]
    intro entry
    rw [← Dict.get?_eq_some_iff, ← Dict.get?_eq_some_iff, hget]

lemma mem_sortedItems {mapping : Dict String String} :
    entry ∈ sortedItems mapping ↔ mapping.get? entry.1 = some entry.2 := by
  unfold sortedItems
  rw [List.mem_insertionSort, Dict.get?_eq_some_iff]

/-! ## Names -/

lemma upperChar_of_isSpace {c : Char} (h : isSpace c = true) : Redaction.upperChar c = [c] := by
  simp only [isSpace, Bool.or_eq_true, Bool.and_eq_true, decide_eq_true_eq, beq_iff_eq] at h
  have hupper : c.toUpper = c := by
    unfold Char.toUpper
    rw [dif_neg]
    intro hlower
    have hle := UInt32.le_iff_toNat_le.mp hlower.1
    have hge := UInt32.le_iff_toNat_le.mp hlower.2
    change 97 ≤ c.toNat at hle
    change c.toNat ≤ 122 at hge
    omega
  unfold Redaction.upperChar
  split
  case h_18 => rw [hupper]
  all_goals omega

/-- A name that is valid in upper case has no white space. -/
lemma strip_of_isEnvName_upper {name : String} (h : Isolation.isEnvName (upper name) = true) :
    strip name = name := by
  apply strip_of_no_space
  intro c hc
  by_contra hspace
  rw [Bool.not_eq_false] at hspace
  have hmem : c ∈ (upper name).toList := by
    unfold upper Redaction.upper
    rw [String.toList_ofList, List.mem_flatMap]
    exact ⟨c, hc, by rw [upperChar_of_isSpace hspace]; exact List.mem_singleton_self c⟩
  have hnot := (Isolation.not_isSpace_of_envChar (Isolation.isEnvName_chars h c hmem)).1
  rw [hspace] at hnot
  cases hnot

lemma ne_empty_of_isEnvName {name : String} (h : Isolation.isEnvName name = true) : name ≠ "" := by
  rintro rfl
  cases h

/-- A variable that both checks let pass, apart from credentials. -/
structure Passes (name value : String) : Prop where
  valid : Isolation.isEnvName name = true
  notSecret : isSecretName name = false
  nulFree : hasNul value = false

lemma checkVariable_eq_ok_iff {u : Unit} :
    checkVariable entry = .ok u ↔ Passes entry.1 entry.2 := by
  unfold checkVariable
  simp only [bind_eq_ok_iff, raiseIf_eq_ok_iff, exists_const, Bool.not_eq_false, Bool.not_eq_true]
  exact ⟨fun h => ⟨h.1, h.2.1, h.2.2⟩,
    fun h => ⟨h.valid, h.notSecret, h.nulFree⟩⟩

/-- Nothing about a variable is a resolved credential. -/
def CredentialFree (U : Contracts.UnicodeTables) (entry : String × String) : Prop :=
  (Contracts.normalizeKey entry.1 ∈ Contracts.secretKeys → entry.2 = "") ∧
    Contracts.isSecretValue U entry.2 = false

variable {U : Contracts.UnicodeTables}

lemma noResolvedCredentials_entries {entries : List (String × String)} :
    Contracts.noResolvedCredentials U
        (.object (entries.map fun entry => (entry.1, .str entry.2))) = true ↔
      ∀ entry ∈ entries, entry.1 ≠ "" ∧ CredentialFree U entry := by
  unfold Contracts.noResolvedCredentials Contracts.isCanonicalJson CredentialFree
  rw [Json.all_object, Json.all_object]
  simp only [List.all_map, Bool.and_eq_true, List.all_eq_true, ← forall₂_and]
  refine forall₂_congr fun entry _ => ?_
  simp [Json.all, Contracts.isBlank, and_assoc, imp_iff_not_or]

/-! ## Environments -/

/-- Everything that is assigned to the environment of a command, in order. -/
def assigned (fixture : RepoPatchFixture) (command : RepoPatchCommand) : List (String × String) :=
  isolatedBaseEnvironment ++ fixture.commandEnv.entries ++ command.env.entries

section Environments

variable {fixture : RepoPatchFixture} {command : RepoPatchCommand}

lemma get?_plannedVariables (name : String) :
    (plannedVariables fixture command).get? name =
      lastOf ((assigned fixture command).map upperName) name := by
  have hbase : isolatedBaseEnvironment.map upperName = isolatedBaseEnvironment := by decide
  unfold plannedVariables assigned
  rw [get?_update, get?_update, get?_dictOf, lastOf_entries, lastOf_entries, get?_dictOf,
    get?_dictOf, List.map_append, List.map_append, lastOf_append, lastOf_append, hbase]

lemma get?_effectiveVariables (name : String) :
    (effectiveVariables fixture command).get? name = lastOf (assigned fixture command) name := by
  unfold effectiveVariables assigned
  rw [get?_update, get?_update, get?_dictOf, lastOf_append, lastOf_append]

variable {entry : String × String}

lemma mem_effectiveCommandEnv :
    entry ∈ effectiveCommandEnv fixture command ↔
      lastOf (assigned fixture command) entry.1 = some entry.2 := by
  unfold effectiveCommandEnv
  rw [mem_sortedItems, get?_effectiveVariables]

variable {normalized result : Dict String String} {environment : List (String × String)}

lemma commandEnvironment_eq_ok_iff :
    commandEnvironment U fixture command = .ok environment ↔
      environment = sortedItems (plannedVariables fixture command) ∧
        ∀ entry ∈ environment, Passes entry.1 entry.2 ∧ CredentialFree U entry := by
  unfold commandEnvironment
  simp only [bind_eq_ok_iff, raiseIf_eq_ok_iff, exists_const, pure_eq_ok, Except.ok.injEq,
    forM_eq_ok_iff, checkVariable_eq_ok_iff, Bool.not_eq_false, noResolvedCredentials_entries]
  constructor
  · rintro ⟨hpass, hcredential, rfl⟩
    exact ⟨rfl, fun entry hentry => ⟨hpass entry hentry, (hcredential entry hentry).2⟩⟩
  · rintro ⟨rfl, h⟩
    refine ⟨fun entry hentry => (h entry hentry).1, fun entry hentry => ?_, rfl⟩
    exact ⟨ne_empty_of_isEnvName (h entry hentry).1.valid, (h entry hentry).2⟩

/-- The name that the request gives to a variable. -/
def requestName (entry : String × String) : String × String := (upper (strip entry.1), entry.2)

lemma requestVariable_eq_ok_iff :
    requestVariable normalized entry = .ok result ↔
      Passes (upper (strip entry.1)) entry.2 ∧
        result = normalized.set (upper (strip entry.1)) entry.2 := by
  unfold requestVariable
  simp only [bind_eq_ok_iff, raiseIf_eq_ok_iff, exists_const, pure_eq_ok, Except.ok.injEq,
    Bool.not_eq_false, Bool.not_eq_true]
  constructor
  · rintro ⟨hname, hsecret, hvalue, rfl⟩
    exact ⟨⟨hname, hsecret, hvalue⟩, rfl⟩
  · rintro ⟨h, rfl⟩
    exact ⟨h.valid, h.notSecret, h.nulFree, rfl⟩

lemma foldlM_requestVariable_eq_ok_iff :
    environment.foldlM requestVariable normalized = .ok result ↔
      (∀ entry ∈ environment, Passes (upper (strip entry.1)) entry.2) ∧
        result = update normalized (environment.map requestName) := by
  induction environment generalizing normalized with
  | nil => simp [update, eq_comm]
  | cons entry environment ih =>
    have hcons : update normalized ((entry :: environment).map requestName) =
        update (normalized.set (upper (strip entry.1)) entry.2) (environment.map requestName) := by
      simp only [update, List.map_cons, List.foldl_cons, requestName]
    simp only [List.foldlM_cons, bind_eq_ok_iff, requestVariable_eq_ok_iff, ih,
      List.forall_mem_cons, hcons]
    constructor
    · rintro ⟨middle, ⟨hentry, rfl⟩, hrest, rfl⟩
      exact ⟨⟨hentry, hrest⟩, rfl⟩
    · rintro ⟨⟨hentry, hrest⟩, rfl⟩
      exact ⟨_, ⟨hentry, rfl⟩, hrest, rfl⟩

lemma requestEnvironment_eq_ok_iff {environment normalized : List (String × String)} :
    requestEnvironment environment = .ok normalized ↔
      (∀ entry ∈ environment, Passes (upper (strip entry.1)) entry.2) ∧
        normalized = sortedItems (dictOf (environment.map requestName)) := by
  unfold requestEnvironment
  simp only [bind_eq_ok_iff, pure_eq_ok, Except.ok.injEq, foldlM_requestVariable_eq_ok_iff]
  constructor
  · rintro ⟨result, ⟨hpass, rfl⟩, rfl⟩
    exact ⟨hpass, rfl⟩
  · rintro ⟨hpass, rfl⟩
    exact ⟨_, ⟨hpass, rfl⟩, rfl⟩

/-- The environment of a command, planned and requested, is one. -/
structure EnvironmentAgrees (U : Contracts.UnicodeTables) (fixture : RepoPatchFixture)
    (command : RepoPatchCommand) : Prop where
  /-- Every name is one of a variable, and of none that holds a secret. -/
  name : ∀ entry ∈ assigned fixture command,
    Isolation.isEnvName (upper entry.1) = true ∧ isSecretName (upper entry.1) = false
  value : ∀ entry ∈ effectiveCommandEnv fixture command, hasNul entry.2 = false
  /-- Of the names that differ only in case, the one assigned last and the one that sorts last have
  the same value. -/
  case : ∀ name, lastOf ((assigned fixture command).map upperName) name =
    lastOf ((effectiveCommandEnv fixture command).map upperName) name
  credential : ∀ name value,
    lastOf ((assigned fixture command).map upperName) name = some value →
      CredentialFree U (name, value)

lemma requestName_eq_upperName (h : Isolation.isEnvName (upper entry.1) = true) :
    requestName entry = upperName entry := by
  unfold requestName upperName
  rw [strip_of_isEnvName_upper h]

lemma exists_assigned_of_mem (h : entry ∈ effectiveCommandEnv fixture command) :
    entry ∈ assigned fixture command :=
  mem_of_lastOf (mem_effectiveCommandEnv.mp h)

theorem environmentAgrees_iff :
    (∃ environment, commandEnvironment U fixture command = .ok environment ∧
        requestEnvironment (effectiveCommandEnv fixture command) = .ok environment) ↔
      EnvironmentAgrees U fixture command := by
  constructor
  · rintro ⟨environment, hplan, hrequest⟩
    obtain ⟨rfl, hpass⟩ := commandEnvironment_eq_ok_iff.mp hplan
    obtain ⟨hrequested, hsame⟩ := requestEnvironment_eq_ok_iff.mp hrequest
    have hname : ∀ entry ∈ assigned fixture command,
        Isolation.isEnvName (upper entry.1) = true ∧ isSecretName (upper entry.1) = false := by
      intro entry hentry
      obtain ⟨value, hvalue⟩ := exists_lastOf (List.mem_map_of_mem (f := upperName) hentry)
      have hmem : (upper entry.1, value) ∈ sortedItems (plannedVariables fixture command) :=
        mem_sortedItems.mpr ((get?_plannedVariables _).trans hvalue)
      exact ⟨(hpass _ hmem).1.valid, (hpass _ hmem).1.notSecret⟩
    refine ⟨hname, fun entry hentry => (hrequested entry hentry).nulFree, ?_, ?_⟩
    · intro name
      have hmap : (effectiveCommandEnv fixture command).map requestName =
          (effectiveCommandEnv fixture command).map upperName :=
        List.map_congr_left fun entry hentry =>
          requestName_eq_upperName (hname entry (exists_assigned_of_mem hentry)).1
      have hget := sortedItems_eq_iff.mp hsame name
      rwa [get?_plannedVariables, get?_dictOf, hmap] at hget
    · intro name value hvalue
      exact (hpass (name, value) (mem_sortedItems.mpr ((get?_plannedVariables _).trans hvalue))).2
  · intro h
    have hmap : (effectiveCommandEnv fixture command).map requestName =
        (effectiveCommandEnv fixture command).map upperName :=
      List.map_congr_left fun entry hentry =>
        requestName_eq_upperName (h.name entry (exists_assigned_of_mem hentry)).1
    have hpass : ∀ entry ∈ effectiveCommandEnv fixture command,
        Passes (upper entry.1) entry.2 := by
      intro entry hentry
      have hname := h.name entry (exists_assigned_of_mem hentry)
      exact ⟨hname.1, hname.2, h.value entry hentry⟩
    have hrequested : ∀ entry ∈ effectiveCommandEnv fixture command,
        Passes (upper (strip entry.1)) entry.2 := by
      intro entry hentry
      rw [strip_of_isEnvName_upper (hpass entry hentry).valid]
      exact hpass entry hentry
    have hsame : sortedItems (plannedVariables fixture command) =
        sortedItems (dictOf ((effectiveCommandEnv fixture command).map requestName)) := by
      rw [sortedItems_eq_iff]
      intro name
      rw [get?_plannedVariables, get?_dictOf, hmap, h.case]
    refine ⟨sortedItems (plannedVariables fixture command), ?_,
      requestEnvironment_eq_ok_iff.mpr ⟨hrequested, hsame⟩⟩
    rw [commandEnvironment_eq_ok_iff]
    refine ⟨rfl, fun entry hentry => ?_⟩
    have hlast := mem_sortedItems.mp hentry
    rw [get?_plannedVariables] at hlast
    refine ⟨?_, h.credential entry.1 entry.2 hlast⟩
    -- the value that survives is one of those that the request checks
    rw [h.case] at hlast
    obtain ⟨source, hsource, heq⟩ := List.mem_map.mp (mem_of_lastOf hlast)
    unfold upperName at heq
    obtain ⟨hname, hvalue⟩ := Prod.mk.inj heq
    rw [← hname, ← hvalue]
    exact hpass source hsource

end Environments

/-! ## Commands -/

section Commands

variable {fixture : RepoPatchFixture} {command : RepoPatchCommand} {phase : Phase}

/-- A request and what the evaluator judges it by. -/
def IsolatedCommandRequest.line (request : IsolatedCommandRequest) (expectedExitCodes : List ℤ) :
    CommandLine :=
  ⟨request.command, request.workingDirectory, request.environment, request.timeoutS,
    expectedExitCodes⟩

/-- What a command is written as is an argument list that can be sent. -/
def HasArgv (command : RepoPatchCommand) : Prop :=
  ∃ parts, command.command = .argv parts ∧ isArgv parts = true

lemma commandArgv_eq_ok_iff {text : CommandText} {argv : List String} :
    commandArgv text = .ok argv ↔ text = .argv argv ∧ isArgv argv = true := by
  cases text with
  | shell text => simp [commandArgv]
  | argv parts =>
    unfold commandArgv fixedArgv
    simp only [bind_eq_ok_iff, raiseIf_eq_ok_iff, exists_const, pure_eq_ok, Except.ok.injEq,
      Bool.not_eq_false, CommandText.argv.injEq]
    constructor
    · rintro ⟨hparts, rfl⟩
      exact ⟨rfl, hparts⟩
    · rintro ⟨rfl, hparts⟩
      exact ⟨hparts, rfl⟩

lemma exists_commandArgv_iff :
    (∃ argv, commandArgv command.command = .ok argv) ↔ HasArgv command :=
  exists_congr fun _ => commandArgv_eq_ok_iff

/-- A command with arguments has a name. -/
lemma name_ne_of_argv {argv : List String} (h : commandArgv command.command = .ok argv) :
    command.name ≠ "" := by
  obtain ⟨htext, hargv⟩ := commandArgv_eq_ok_iff.mp h
  intro hname
  have hempty := command.named hname
  rw [htext, CommandText.text] at hempty
  cases argv with
  | nil => cases hargv
  | cons part parts =>
    have hpart : part ≠ "" := by
      simp only [isArgv, List.all_cons, Bool.and_eq_true, bne_iff_ne] at hargv
      exact hargv.2.1.1
    have hlist := congrArg String.toList hempty
    cases parts with
    | nil =>
      apply hpart
      simpa using hlist
    | cons next rest => simp at hlist

/-- The request that a command is run by. -/
def requestOf (fixture : RepoPatchFixture) (command : RepoPatchCommand) :
    Except EvaluationError IsolatedCommandRequest := do
  let argv ← commandArgv command.command
  makeRequest ⟨argv, repoDirectory command.workingDirectory, effectiveCommandEnv fixture command,
    command.timeoutS, command.expectedExitCodes⟩

/-- A command is planned as it is requested. -/
structure CommandAgrees (U : Contracts.UnicodeTables) (fixture : RepoPatchFixture)
    (command : RepoPatchCommand) : Prop where
  directory : DirectoryStays command.workingDirectory
  timeout : command.timeoutS ≤ 3600
  environment : EnvironmentAgrees U fixture command

lemma commandPlan_eq_ok_iff {plan : HarnessEvaluationCommandPlan} :
    commandPlan U fixture phase command = .ok plan ↔
      ∃ argv environment, commandArgv command.command = .ok argv ∧
        commandEnvironment U fixture command = .ok environment ∧
        DirectoryStays command.workingDirectory ∧
        plan = ⟨⟨argv, posixDirectory command.workingDirectory, environment, command.timeoutS,
          command.expectedExitCodes⟩, phase, command.name⟩ := by
  unfold commandPlan makePlan
  simp only [bind_eq_ok_iff, raiseIf_eq_ok_iff, exists_const, pure_eq_ok, Except.ok.injEq,
    Bool.not_eq_false, planDirectory_repoDirectory, not_or, not_not, not_le]
  constructor
  · rintro ⟨argv, hargv, environment, henvironment, -, -, directory, hdirectory, -, -, rfl⟩
    refine ⟨argv, environment, hargv, henvironment, ?_⟩
    split at hdirectory
    · cases hdirectory
    · rename_i hstays
      obtain rfl := Except.ok.inj hdirectory
      exact ⟨hstays, rfl⟩
  · rintro ⟨argv, environment, hargv, henvironment, hstays, rfl⟩
    refine ⟨argv, hargv, environment, henvironment, name_ne_of_argv hargv,
      (commandArgv_eq_ok_iff.mp hargv).2, posixDirectory command.workingDirectory, if_neg hstays,
      command.timeout_pos, ⟨command.codes_ne_nil, command.codes_nodup⟩, rfl⟩

lemma requestOf_eq_ok_iff {request : IsolatedCommandRequest} :
    requestOf fixture command = .ok request ↔
      ∃ argv environment, commandArgv command.command = .ok argv ∧
        requestEnvironment (effectiveCommandEnv fixture command) = .ok environment ∧
        DirectoryStays command.workingDirectory ∧ command.timeoutS ≤ 3600 ∧
        request = ⟨argv, posixDirectory command.workingDirectory, environment,
          command.timeoutS⟩ := by
  unfold requestOf makeRequest
  simp only [bind_eq_ok_iff, raiseIf_eq_ok_iff, exists_const, pure_eq_ok, Except.ok.injEq,
    Bool.not_eq_false, requestDirectory_repoDirectory, not_or, not_le, not_lt]
  constructor
  · rintro ⟨argv, hargv, -, directory, hdirectory, environment, henvironment, ⟨-, htimeout⟩, rfl⟩
    refine ⟨argv, environment, hargv, henvironment, ?_⟩
    split at hdirectory
    · cases hdirectory
    · rename_i hstays
      obtain rfl := Except.ok.inj hdirectory
      exact ⟨hstays, htimeout, rfl⟩
  · rintro ⟨argv, environment, hargv, henvironment, hstays, htimeout, rfl⟩
    exact ⟨argv, hargv, (commandArgv_eq_ok_iff.mp hargv).2, _, if_neg hstays, environment,
      henvironment, ⟨command.timeout_pos, htimeout⟩, rfl⟩

/-- Plan and request of a command are made and are the same exactly when it agrees. -/
theorem commandAgrees_iff (phase : Phase) (hargv : HasArgv command) :
    (∃ plan request, commandPlan U fixture phase command = .ok plan ∧
        requestOf fixture command = .ok request ∧
        request.line command.expectedExitCodes = plan.toCommandLine) ↔
      CommandAgrees U fixture command := by
  constructor
  · rintro ⟨plan, request, hplan, hrequest, hline⟩
    obtain ⟨argv, environment, -, henvironment, hstays, rfl⟩ := commandPlan_eq_ok_iff.mp hplan
    obtain ⟨argv', environment', -, henvironment', -, htimeout, rfl⟩ :=
      requestOf_eq_ok_iff.mp hrequest
    have hsame : environment' = environment := congrArg CommandLine.environment hline
    rw [hsame] at henvironment'
    exact ⟨hstays, htimeout, environmentAgrees_iff.mp ⟨environment, henvironment, henvironment'⟩⟩
  · intro h
    obtain ⟨argv, hargv⟩ := exists_commandArgv_iff.mpr hargv
    obtain ⟨environment, hplan, hrequest⟩ := environmentAgrees_iff.mpr h.environment
    have hplanned : commandPlan U fixture phase command = .ok _ :=
      commandPlan_eq_ok_iff.mpr ⟨argv, environment, hargv, hplan, h.directory, rfl⟩
    have hrequested := requestOf_eq_ok_iff.mpr
      ⟨argv, environment, hargv, hrequest, h.directory, h.timeout, rfl⟩
    refine ⟨_, _, hplanned, hrequested, ?_⟩
    simp only [IsolatedCommandRequest.line]

/-! ## The patch -/

lemma requestEnvironment_base :
    requestEnvironment isolatedBaseEnvironment = .ok isolatedBaseEnvironment := by
  rfl

variable {backend : CommandBackend}

lemma isArgv_applyArgv : isArgv backend.applyArgv = true := by
  have hgit := backend.git_fixed
  unfold isArgv at hgit ⊢
  unfold CommandBackend.applyArgv
  rw [Bool.and_eq_true] at hgit
  rw [Bool.and_eq_true, List.all_append, Bool.and_eq_true]
  exact ⟨by simp, hgit.2, by decide⟩

/-- The patch is planned as it is requested. -/
lemma makePlan_applyLine :
    makePlan .patchApply "apply_patch" (applyLine backend fixture) =
      .ok ⟨applyLine backend fixture, .patchApply, "apply_patch"⟩ := by
  have hdirectory : planDirectory "repo" = .ok "repo" := by rfl
  unfold makePlan applyLine
  rw [raiseIf_neg (by decide), ok_bind, raiseIf_neg (by simp [isArgv_applyArgv]), ok_bind,
    hdirectory, ok_bind, raiseIf_neg (not_le.mpr fixture.timeout_pos), ok_bind,
    raiseIf_neg (by simp), ok_bind]
  rfl

lemma makeRequest_applyLine (htimeout : fixture.timeoutS ≤ 3600) :
    makeRequest (applyLine backend fixture) =
      .ok ⟨backend.applyArgv, "repo", isolatedBaseEnvironment, fixture.timeoutS⟩ := by
  have hdirectory : requestDirectory "repo" = .ok "repo" := by rfl
  unfold makeRequest applyLine
  rw [raiseIf_neg (by simp [isArgv_applyArgv]), ok_bind, hdirectory, ok_bind,
    requestEnvironment_base, ok_bind,
    raiseIf_neg (not_or.mpr ⟨not_le.mpr fixture.timeout_pos, not_lt.mpr htimeout⟩), ok_bind]
  rfl

lemma makeRequest_applyLine_of_lt (htimeout : 3600 < fixture.timeoutS) :
    ∃ e, makeRequest (applyLine backend fixture) = .error e := by
  have hdirectory : requestDirectory "repo" = .ok "repo" := by rfl
  unfold makeRequest applyLine
  rw [raiseIf_neg (by simp [isArgv_applyArgv]), ok_bind, hdirectory, ok_bind,
    requestEnvironment_base, ok_bind, raiseIf_pos (Or.inr htimeout)]
  exact ⟨_, rfl⟩

end Commands

end Agintor.Evaluation.CommandPlans
