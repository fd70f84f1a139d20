import Mathlib.Data.List.Pairwise
import Agintor.Runtime.AsyncHandles

/-!
# Handles and their outcomes

Two launches are kept apart by the first eight digits of their hashes, and the result file of a
launch is there exactly when its process succeeded with an output. From both it follows that a
handle is reported completed only with the output it has succeeded with.
-/

namespace Agintor.Runtime.AsyncHandles

open Lib Core

/-! ## Paths -/

lemma takeChars_takeChars (n m : ℕ) (s : String) :
    takeChars n (takeChars m s) = takeChars (min n m) s := by
  unfold takeChars
  rw [String.toList_ofList, List.take_take]

/-- Paths with one suffix are those of one stem, and its last eight characters are the handle's. -/
lemma takeChars_eq_of_artifactPath {workspace workspace' toolName toolName' id id' suffix : String}
    (hid : 8 ≤ id.toList.length) (hid' : 8 ≤ id'.toList.length)
    (h : artifactPath workspace (asyncArtifactStem toolName id) suffix =
      artifactPath workspace' (asyncArtifactStem toolName' id') suffix) :
    takeChars 8 id = takeChars 8 id' := by
  have hlist := congrArg String.toList h
  unfold artifactPath asyncArtifactStem at hlist
  simp only [String.toList_append] at hlist
  have hstem := List.append_cancel_right hlist
  simp only [← List.append_assoc] at hstem
  have hlength : (takeChars 8 id).toList.length = (takeChars 8 id').toList.length := by
    unfold takeChars
    rw [String.toList_ofList, String.toList_ofList, List.length_take, List.length_take]
    omega
  exact String.toList_inj.mp (List.append_inj_right' hstem hlength)

/-- Paths that end differently are different. -/
lemma artifactPath_ne {workspace workspace' stem stem' suffix suffix' : String} (c c' : Char)
    (hc : suffix.toList.getLast? = some c) (hc' : suffix'.toList.getLast? = some c')
    (hne : c ≠ c') :
    artifactPath workspace stem suffix ≠ artifactPath workspace' stem' suffix' := by
  intro h
  have hlast := congrArg (fun path => path.toList.getLast?) h
  simp only [artifactPath, String.toList_append, List.getLast?_append, hc, hc'] at hlast
  exact hne (Option.some.inj hlast)

/-! ## Launches -/

section Launches

variable {Args : Type}

/-- The handle of a launch, in a workspace. -/
def launchedHandle (workspace handleId toolName timeout : String) : AsyncHandle :=
  ⟨handleId, toolName, timeout,
    some (artifactPath workspace (asyncArtifactStem toolName handleId) ".stdout"),
    some (artifactPath workspace (asyncArtifactStem toolName handleId) ".stderr"), .running,
    [artifactPath workspace (asyncArtifactStem toolName handleId) ".result.json"]⟩

/-- The handle is as it was launched. -/
def Launch.Proper (l : Launch Args) : Prop :=
  8 ≤ l.handle.handleId.toList.length ∧ ∃ workspace,
    l.handle = launchedHandle workspace l.handle.handleId l.handle.toolName l.handle.timeout

/-- The files of a handle. -/
def AsyncHandle.paths (handle : AsyncHandle) : List String :=
  handle.stdoutPath.toList ++ handle.stderrPath.toList ++ handle.artifactRefs

variable {path : String}

lemma Launch.Proper.refs {l : Launch Args} (h : l.Proper) :
    path ∈ l.handle.artifactRefs ↔ l.handle.artifactRefs = [path] := by
  obtain ⟨-, workspace, heq⟩ := h
  rw [heq, launchedHandle, List.mem_singleton, List.singleton_inj]
  exact eq_comm

/-- The result file of a launch is no file of another one. -/
lemma Launch.Proper.not_mem_paths {l l' : Launch Args} (h : l.Proper) (h' : l'.Proper)
    (hne : takeChars 8 l.handle.handleId ≠ takeChars 8 l'.handle.handleId)
    (hpath : path ∈ l.handle.artifactRefs) : path ∉ l'.handle.paths := by
  obtain ⟨hlength, workspace, heq⟩ := h
  obtain ⟨hlength', workspace', heq'⟩ := h'
  rw [heq, launchedHandle, List.mem_singleton] at hpath
  rw [heq']
  intro hmem
  simp only [AsyncHandle.paths, launchedHandle, Option.toList_some, List.mem_append,
    List.mem_singleton] at hmem
  rcases hmem with (hmem | hmem) | hmem
  · exact artifactPath_ne 'n' 't' rfl rfl (by decide) (hpath.symm.trans hmem)
  · exact artifactPath_ne 'n' 'r' rfl rfl (by decide) (hpath.symm.trans hmem)
  · exact hne (takeChars_eq_of_artifactPath hlength hlength' (hpath.symm.trans hmem))

/-- What is printed does not go to the result file. -/
lemma Launch.Proper.not_printed {l : Launch Args} (h : l.Proper)
    (hpath : path ∈ l.handle.artifactRefs) :
    l.handle.stdoutPath ≠ some path ∧ l.handle.stderrPath ≠ some path := by
  obtain ⟨-, workspace, heq⟩ := h
  rw [heq, launchedHandle, List.mem_singleton] at hpath
  subst hpath
  rw [heq]
  refine ⟨fun hstdout => ?_, fun hstderr => ?_⟩
  · exact artifactPath_ne 't' 'n' rfl rfl (by decide) (Option.some.inj hstdout)
  · exact artifactPath_ne 'r' 'n' rfl rfl (by decide) (Option.some.inj hstderr)

end Launches

/-! ## Files -/

section Files

variable {J : JsonModule}

variable {files : Files}

lemma get?_writeText {path : Option String} {text other : String} (h : path ≠ some other) :
    (writeText files path text).1.get? other = files.get? other := by
  cases path with
  | none => rfl
  | some path =>
    show (files.set path text).get? other = _
    rw [Dict.get?_set, if_neg fun heq => h (congrArg some heq)]

variable {stdout stderr path : String} {output : Option J.Value} {handle : AsyncHandle}

/-- The result file is written when there is an output. -/
lemma get?_writeAsyncArtifacts (hrefs : handle.artifactRefs = [path])
    (hstdout : handle.stdoutPath ≠ some path) (hstderr : handle.stderrPath ≠ some path) :
    (writeAsyncArtifacts J files handle.stdoutPath handle.stderrPath handle.artifactRefs.head?
        stdout stderr output).1.get? path =
      (output.map J.dumps).or (files.get? path) := by
  unfold writeAsyncArtifacts
  rw [hrefs, List.head?_cons]
  cases output with
  | none =>
    show (writeText (writeText files handle.stdoutPath stdout).1 handle.stderrPath stderr).1.get?
      path = _
    rw [get?_writeText hstderr, get?_writeText hstdout]
    rfl
  | some value =>
    show (Dict.set _ path (J.dumps value)).get? path = _
    rw [Dict.get?_set, if_pos rfl]
    rfl

/-- No other file is written. -/
lemma get?_writeAsyncArtifacts_of_not_mem (h : path ∉ handle.paths) :
    (writeAsyncArtifacts J files handle.stdoutPath handle.stderrPath handle.artifactRefs.head?
        stdout stderr output).1.get? path = files.get? path := by
  simp only [AsyncHandle.paths, List.mem_append, not_or, Option.mem_toList] at h
  obtain ⟨⟨hstdout, hstderr⟩, hrefs⟩ := h
  have hhead : handle.artifactRefs.head? ≠ some path := fun hhead =>
    hrefs (List.mem_of_mem_head? hhead)
  unfold writeAsyncArtifacts
  cases output with
  | none =>
    show (writeText (writeText files handle.stdoutPath stdout).1 handle.stderrPath stderr).1.get?
      path = _
    rw [get?_writeText hstderr, get?_writeText hstdout]
  | some value =>
    show (writeText (writeText (writeText files handle.stdoutPath stdout).1 handle.stderrPath
      stderr).1 handle.artifactRefs.head? (J.dumps value)).1.get? path = _
    rw [get?_writeText hhead, get?_writeText hstderr, get?_writeText hstdout]

end Files

/-! ## What holds in every state of a run -/

section Runs

variable {Args : Type} {J : JsonModule}

/-- The ids of the processes that have ended. -/
def World.ended (world : World J Args) : List String := world.outcomes.map Prod.fst

/-- A copy of the handle of a launch. -/
structure Known (world : World J Args) (id : String) (handle : AsyncHandle) : Prop where
  launched : ∃ l ∈ world.launches, l.handle.handleId = id ∧ handle.handleId = id ∧
    handle.stdoutPath = l.handle.stdoutPath ∧ handle.stderrPath = l.handle.stderrPath ∧
    (handle.state = .running ∨ handle.state = .completed →
      handle.artifactRefs = l.handle.artifactRefs)
  completed : handle.state = .completed → ∃ output, (id, .finished true output) ∈ world.outcomes

variable {world : World J Args} {table : OpenHandleTable} {handle : AsyncHandle}
    {shells : List Shell}

lemma Known.mono {world world' : World J Args} {id : String} (h : Known world id handle)
    (hlaunches : ∀ l ∈ world.launches, l ∈ world'.launches)
    (houtcomes : ∀ outcome ∈ world.outcomes, outcome ∈ world'.outcomes) :
    Known world' id handle := by
  obtain ⟨l, hl, hfields⟩ := h.launched
  refine ⟨⟨l, hlaunches l hl, hfields⟩, fun hstate => ?_⟩
  obtain ⟨output, houtput⟩ := h.completed hstate
  exact ⟨output, houtcomes _ houtput⟩

def KnownTable (world : World J Args) (table : OpenHandleTable) : Prop :=
  ∀ id handle, table.get? id = some handle → Known world id handle

lemma KnownTable.mono {world world' : World J Args} (h : KnownTable world table)
    (hlaunches : ∀ l ∈ world.launches, l ∈ world'.launches)
    (houtcomes : ∀ outcome ∈ world.outcomes, outcome ∈ world'.outcomes) : KnownTable world' table :=
  fun id handle hget => (h id handle hget).mono hlaunches houtcomes

lemma KnownTable.set (h : KnownTable world table) {id : String} (hknown : Known world id handle) :
    KnownTable world (table.set id handle) := by
  intro id' handle' hget
  rw [Dict.get?_set] at hget
  split at hget
  · next heq =>
    obtain rfl := Option.some.inj hget
    exact heq ▸ hknown
  · exact h id' handle' hget

/-- A shell knows the handles it has, and tracks processes that have not ended. -/
structure Held (world : World J Args) (shell : Shell) : Prop where
  persists : shell.executor.persistArtifacts = true
  table : KnownTable world shell.openHandles
  tracked : ∀ id ∈ shell.executor.asyncProcesses, id ∉ world.ended ∧
    ∃ handle, shell.openHandles.get? id = some handle ∧ handle.state = .running

/-- What a shell holds stays while no process ends. -/
lemma Held.mono {world world' : World J Args} {shell : Shell} (h : Held world shell)
    (hlaunches : ∀ l ∈ world.launches, l ∈ world'.launches)
    (houtcomes : world'.outcomes = world.outcomes) : Held world' shell where
  persists := h.persists
  table := h.table.mono hlaunches fun _ ho => houtcomes ▸ ho
  tracked := by
    intro id hid
    obtain ⟨hnot, hrunning⟩ := h.tracked id hid
    exact ⟨by rwa [World.ended, houtcomes], hrunning⟩

/-- No process is tracked by two executors. -/
def Alone (shells : List Shell) : Prop :=
  ∀ (i j : ℕ) (shell shell' : Shell), shells[i]? = some shell → shells[j]? = some shell' →
    i ≠ j → ∀ id ∈ shell.executor.asyncProcesses, id ∉ shell'.executor.asyncProcesses

lemma Alone.append (h : Alone shells) {shell : Shell} (hnone : shell.executor.asyncProcesses = []) :
    Alone (shells ++ [shell]) := by
  intro i j s t hi hj hij id hs ht
  rw [List.getElem?_append] at hi hj
  split at hi
  · split at hj
    · exact h i j s t hi hj hij id hs ht
    · obtain rfl := List.mem_singleton.mp (List.mem_of_getElem? hj)
      rw [hnone] at ht
      cases ht
  · obtain rfl := List.mem_singleton.mp (List.mem_of_getElem? hi)
    rw [hnone] at hs
    cases hs

/-- A shell changes that tracks nothing but what it did and what nobody does. -/
lemma Alone.set (h : Alone shells) {i : ℕ} {shell shell' : Shell} (hi : shells[i]? = some shell)
    (hsub : ∀ id ∈ shell'.executor.asyncProcesses, id ∈ shell.executor.asyncProcesses ∨
      ∀ other ∈ shells, id ∉ other.executor.asyncProcesses) : Alone (shells.set i shell') := by
  have hlt := (List.getElem?_eq_some_iff.mp hi).1
  -- what the changed shell tracks no other one does
  have hother : ∀ (j : ℕ) (t : Shell), shells[j]? = some t → i ≠ j →
      ∀ id ∈ shell'.executor.asyncProcesses, id ∉ t.executor.asyncProcesses := by
    intro j t hj hij id hid
    rcases hsub id hid with hold | hnew
    · exact h i j shell t hi hj hij id hold
    · exact hnew t (List.mem_of_getElem? hj)
  intro a b s t ha hb hab id hs ht
  rw [List.getElem?_set] at ha hb
  split at ha
  · next hia =>
    obtain rfl := Option.some.inj ha
    subst hia
    rw [if_neg hab] at hb
    exact hother b t hb hab id hs ht
  · split at hb
    · next hib =>
      obtain rfl := Option.some.inj hb
      subst hib
      exact hother a s ha (Ne.symm hab) id ht hs
    · exact h a b s t ha hb hab id hs ht

structure Invariant (world : World J Args) : Prop where
  proper : ∀ l ∈ world.launches, l.Proper
  apart : world.launches.Pairwise fun l l' =>
    takeChars 8 l.handle.handleId ≠ takeChars 8 l'.handle.handleId
  held : ∀ shell ∈ world.shells, Held world shell
  alone : Alone world.shells
  saved : ∀ table ∈ world.checkpoints, KnownTable world table
  /-- The result file of a launch has the output its process succeeded with. -/
  results : ∀ l ∈ world.launches, ∀ path ∈ l.handle.artifactRefs, ∀ text,
    world.files.get? path = some text ↔ ∃ value, text = J.dumps value ∧
      (l.handle.handleId, .finished true (some value)) ∈ world.outcomes
  files : ∀ path, world.files.get? path ≠ none → ∃ l ∈ world.launches, path ∈ l.handle.paths
  once : world.ended.Nodup
  endedLaunched : ∀ id ∈ world.ended, ∃ l ∈ world.launches, l.handle.handleId = id
  reports : ∀ report ∈ world.reports, report.status = .completed →
    (report.handleId, .finished true report.output) ∈ world.outcomes

lemma inv_start : Invariant (World.start J : World J Args) where
  proper := fun _ h => by cases h
  apart := List.Pairwise.nil
  held := fun _ h => by cases h
  alone := fun i _ _ _ h => by cases i <;> cases h
  saved := fun _ h => by cases h
  results := fun _ h => by cases h
  files := fun _ h => absurd rfl h
  once := List.nodup_nil
  endedLaunched := fun _ h => by cases h
  reports := fun _ h => by cases h

namespace Invariant

variable {world : World J Args} (h : Invariant world)

include h

/-- Two launches are told apart by the first eight digits of their ids. -/
lemma apart_of_ne {l l' : Launch Args} (hl : l ∈ world.launches) (hl' : l' ∈ world.launches)
    (hne : l ≠ l') : takeChars 8 l.handle.handleId ≠ takeChars 8 l'.handle.handleId := by
  have hsymm : Std.Symm fun l l' : Launch Args =>
      takeChars 8 l.handle.handleId ≠ takeChars 8 l'.handle.handleId := ⟨fun _ _ => Ne.symm⟩
  exact h.apart.forall hl hl' hne

/-- The launch of an id is the only one. -/
lemma launch_unique {l l' : Launch Args} (hl : l ∈ world.launches) (hl' : l' ∈ world.launches)
    (hid : l.handle.handleId = l'.handle.handleId) : l = l' := by
  by_contra hne
  exact h.apart_of_ne hl hl' hne (congrArg (takeChars 8) hid)

/-- A table more is saved, of handles that are known. -/
lemma save {table : OpenHandleTable} (htable : KnownTable world table) :
    Invariant { world with checkpoints := world.checkpoints ++ [table] } where
  __ := h
  held := fun shell hshell => (h.held shell hshell).mono (fun _ hl => hl) rfl
  saved := by
    intro table' htable'
    rcases List.mem_append.mp htable' with hold | hnew
    · exact (h.saved table' hold).mono (fun _ hl => hl) fun _ ho => ho
    · obtain rfl := List.mem_singleton.mp hnew
      exact htable.mono (fun _ hl => hl) fun _ ho => ho

variable {shell : Shell} {id : String} {executor : ToolExecutor} {i : ℕ}

/-- A shell more, that tracks nothing. -/
lemma addShell (hpersists : shell.executor.persistArtifacts = true)
    (hnone : shell.executor.asyncProcesses = []) (htable : KnownTable world shell.openHandles) :
    Invariant { world with shells := world.shells ++ [shell] } where
  __ := h
  held := by
    intro shell' hshell
    rcases List.mem_append.mp hshell with hold | hnew
    · exact (h.held shell' hold).mono (fun _ hl => hl) rfl
    · obtain rfl := List.mem_singleton.mp hnew
      refine ⟨hpersists, htable.mono (fun _ hl => hl) fun _ ho => ho, fun id hid => ?_⟩
      rw [hnone] at hid
      cases hid
  alone := h.alone.append hnone
  saved := fun table htable => (h.saved table htable).mono (fun _ hl => hl) fun _ ho => ho

variable {handle : AsyncHandle} {l : Launch Args}

/-- A handle of a shell changes whose process the shell does not track. -/
lemma setHandle (hi : world.shells[i]? = some shell)
    (huntracked : id ∉ shell.executor.asyncProcesses) (hknown : Known world id handle) :
    Invariant { world with
      shells := world.shells.set i { shell with
        openHandles := shell.openHandles.set id handle } } where
  __ := h
  held := by
    intro shell' hshell
    have hmem := List.mem_of_getElem? hi
    rcases List.mem_or_eq_of_mem_set hshell with hold | rfl
    · exact (h.held shell' hold).mono (fun _ hl => hl) rfl
    · have htable := (h.held shell hmem).table.set hknown
      refine ⟨(h.held shell hmem).persists, htable.mono (fun _ hl => hl) fun _ ho => ho, ?_⟩
      intro id' hid'
      obtain ⟨hended, handle', hget, hrunning⟩ := (h.held shell hmem).tracked id' hid'
      refine ⟨hended, handle', ?_, hrunning⟩
      rw [Dict.get?_set, if_neg, hget]
      rintro rfl
      exact huntracked hid'
  alone := h.alone.set hi fun id hid => .inl hid
  saved := fun table htable => (h.saved table htable).mono (fun _ hl => hl) fun _ ho => ho

/-- A report more. -/
lemma addReport {report : Report J} (hreport : report.status = .completed →
      (report.handleId, .finished true report.output) ∈ world.outcomes) :
    Invariant { world with reports := world.reports ++ [report] } where
  __ := h
  held := fun shell hshell => (h.held shell hshell).mono (fun _ hl => hl) rfl
  saved := fun table htable => (h.saved table htable).mono (fun _ hl => hl) fun _ ho => ho
  reports := by
    intro report' hmem hcompleted
    rcases List.mem_append.mp hmem with hold | hnew
    · exact h.reports report' hold hcompleted
    · obtain rfl := List.mem_singleton.mp hnew
      exact hreport hcompleted

/-- A tracked process ends: its files are written, a result file only on success, and the shell
lets go of it. -/
lemma settle (hi : world.shells[i]? = some shell) (htracked : id ∈ shell.executor.asyncProcesses)
    (hl : l ∈ world.launches) (hid : l.handle.handleId = id) {outcome : Outcome J} {files : Files}
    (hother : ∀ path, path ∉ l.handle.paths → files.get? path = world.files.get? path)
    (hresult : ∀ path ∈ l.handle.artifactRefs, ∀ text, files.get? path = some text ↔
      ∃ value, text = J.dumps value ∧ outcome = .finished true (some value))
    (hknown : Known { world with outcomes := world.outcomes ++ [(id, outcome)] } id handle) :
    Invariant { world with
      files := files
      shells := world.shells.set i { shell with
        executor := shell.executor.pop id
        openHandles := shell.openHandles.set id handle }
      outcomes := world.outcomes ++ [(id, outcome)] } where
  proper := h.proper
  apart := h.apart
  held := by
    intro shell' hshell
    have hmem := List.mem_of_getElem? hi
    have hextend {table : OpenHandleTable} (htable : KnownTable world table) :
        KnownTable { world with outcomes := world.outcomes ++ [(id, outcome)] } table :=
      htable.mono (fun _ hl => hl) fun _ ho => List.mem_append_left _ ho
    have hended : ∀ id', id' ≠ id → id' ∉ world.ended →
        id' ∉ (world.outcomes ++ [(id, outcome)]).map Prod.fst := by
      intro id' hne hnot hin
      rw [List.map_append, List.map_singleton, List.mem_append, List.mem_singleton] at hin
      exact hin.elim hnot hne
    obtain ⟨j, hj⟩ := List.mem_iff_getElem?.mp hshell
    rw [List.getElem?_set] at hj
    split at hj
    · rw [if_pos (List.getElem?_eq_some_iff.mp hi).1] at hj
      obtain rfl := Option.some.inj hj
      have htable := (hextend (h.held shell hmem).table).set hknown
      refine ⟨(h.held shell hmem).persists, htable.mono (fun _ hl => hl) fun _ ho => ho, ?_⟩
      intro id' hid'
      obtain ⟨hold, hne⟩ := List.mem_filter.mp hid'
      have hne : id' ≠ id := of_decide_eq_true hne
      obtain ⟨hnot, handle', hget, hrunning⟩ := (h.held shell hmem).tracked id' hold
      refine ⟨hended id' hne hnot, handle', ?_, hrunning⟩
      rw [Dict.get?_set, if_neg (Ne.symm hne), hget]
    · next hij =>
      have hold := List.mem_of_getElem? hj
      refine ⟨(h.held shell' hold).persists, (hextend (h.held shell' hold).table).mono
        (fun _ hl => hl) fun _ ho => ho, fun id' hid' => ?_⟩
      obtain ⟨hnot, hrunning⟩ := (h.held shell' hold).tracked id' hid'
      refine ⟨hended id' ?_ hnot, hrunning⟩
      rintro rfl
      exact h.alone i j shell shell' hi hj hij _ htracked hid'
  alone := h.alone.set hi fun id' hid' => .inl (List.mem_of_mem_filter hid')
  saved := fun table htable =>
    (h.saved table htable).mono (fun _ hl => hl) fun _ ho => List.mem_append_left _ ho
  results := by
    intro l' hl' path hpath text
    have hnot : id ∉ world.ended := ((h.held shell (List.mem_of_getElem? hi)).tracked id htracked).1
    have hsplit : ∀ value, (l'.handle.handleId, Outcome.finished true (some value)) ∈
        world.outcomes ++ [(id, outcome)] ↔
          (l'.handle.handleId, Outcome.finished true (some value)) ∈ world.outcomes ∨
            l'.handle.handleId = id ∧ outcome = .finished true (some value) := by
      intro value
      rw [List.mem_append, List.mem_singleton, Prod.mk.injEq]
      exact or_congr_right (and_congr_right fun _ => eq_comm)
    by_cases hsame : l'.handle.handleId = id
    · obtain rfl := h.launch_unique hl hl' (hid.trans hsame.symm)
      rw [hresult path hpath text]
      refine exists_congr fun value => and_congr_right fun _ => ?_
      rw [hsplit value, or_iff_right, and_iff_right hid]
      intro hin
      exact hnot (hid ▸ List.mem_map_of_mem (f := Prod.fst) hin)
    · have hdiff : takeChars 8 l'.handle.handleId ≠ takeChars 8 l.handle.handleId := by
        refine h.apart_of_ne hl' hl ?_
        rintro rfl
        exact hsame hid
      rw [hother path ((h.proper l' hl').not_mem_paths (h.proper l hl) hdiff hpath),
        h.results l' hl' path hpath text]
      refine exists_congr fun value => and_congr_right fun _ => ?_
      rw [hsplit value, or_iff_left fun hin => hsame hin.1]
  files := by
    intro path hpath
    by_cases hmem : path ∈ l.handle.paths
    · exact ⟨l, hl, hmem⟩
    · rw [hother path hmem] at hpath
      exact h.files path hpath
  once := by
    have hnot : id ∉ world.ended := ((h.held shell (List.mem_of_getElem? hi)).tracked id htracked).1
    show ((world.outcomes ++ [(id, outcome)]).map Prod.fst).Nodup
    rw [List.map_append, List.map_singleton, ← List.concat_eq_append]
    exact List.Nodup.concat hnot h.once
  endedLaunched := by
    intro id' hid'
    have hsplit : id' ∈ world.ended ∨ id' = id := by
      have hin : id' ∈ (world.outcomes ++ [(id, outcome)]).map Prod.fst := hid'
      rw [List.map_append, List.map_singleton, List.mem_append, List.mem_singleton] at hin
      exact hin
    rcases hsplit with hold | rfl
    · exact h.endedLaunched id' hold
    · exact ⟨l, hl, hid⟩
  reports := fun report hreport hcompleted =>
    List.mem_append_left _ (h.reports report hreport hcompleted)

/-- A launch whose id differs from the earlier ones. -/
lemma launch (hi : world.shells[i]? = some shell) (hproper : l.Proper)
    (hfresh : ∀ l' ∈ world.launches,
      takeChars 8 l'.handle.handleId ≠ takeChars 8 l.handle.handleId)
    (hpersists : executor.persistArtifacts = true) (hprocesses : ∀ id ∈ executor.asyncProcesses,
      id = l.handle.handleId ∨ id ∈ shell.executor.asyncProcesses) :
    Invariant { world with
      shells := world.shells.set i ⟨shell.workspace, executor,
        shell.openHandles.set l.handle.handleId l.handle⟩
      launches := world.launches ++ [l] } := by
  have hmem := List.mem_of_getElem? hi
  have hnew : ∀ l' ∈ world.launches, l'.handle.handleId ≠ l.handle.handleId :=
    fun l' hl' heq => hfresh l' hl' (congrArg (takeChars 8) heq)
  have hrunning : l.handle.state = .running := by
    obtain ⟨-, workspace, heq⟩ := hproper
    rw [heq, launchedHandle]
  have hended : l.handle.handleId ∉ world.ended := by
    intro hin
    obtain ⟨l', hl', hid⟩ := h.endedLaunched _ hin
    exact hnew l' hl' hid
  -- nobody tracks the new id
  have huntracked : ∀ other ∈ world.shells, l.handle.handleId ∉ other.executor.asyncProcesses := by
    intro other hother hin
    obtain ⟨-, handle, hget, -⟩ := (h.held other hother).tracked _ hin
    obtain ⟨l', hl', hid, -⟩ := ((h.held other hother).table _ handle hget).launched
    exact hnew l' hl' hid
  refine ⟨?_, ?_, ?_, ?_, ?_, ?_, ?_, h.once, ?_, h.reports⟩
  · intro l' hl'
    rcases List.mem_append.mp hl' with hold | hlast
    · exact h.proper l' hold
    · exact List.mem_singleton.mp hlast ▸ hproper
  · refine List.pairwise_append.mpr
      ⟨h.apart, List.pairwise_singleton _ _, fun l' hl' l'' hl'' => ?_⟩
    rw [List.mem_singleton.mp hl'']
    exact hfresh l' hl'
  · intro shell' hshell
    rcases List.mem_or_eq_of_mem_set hshell with hold | rfl
    · exact (h.held shell' hold).mono (fun _ hl => List.mem_append_left _ hl) rfl
    · have hknown : Known { world with launches := world.launches ++ [l] } l.handle.handleId
          l.handle := by
        refine ⟨⟨l, List.mem_append_right _ (List.mem_singleton_self l), rfl, rfl, rfl, rfl,
          fun _ => rfl⟩, fun hcompleted => ?_⟩
        rw [hrunning] at hcompleted
        cases hcompleted
      have htable : KnownTable { world with launches := world.launches ++ [l] }
          shell.openHandles :=
        (h.held shell hmem).table.mono (fun _ hl => List.mem_append_left _ hl) fun _ ho => ho
      refine ⟨hpersists, (htable.set hknown).mono (fun _ hl => hl) fun _ ho => ho, fun id hid => ?_⟩
      by_cases heq : l.handle.handleId = id
      · subst heq
        exact ⟨hended, l.handle, by rw [Dict.get?_set, if_pos rfl], hrunning⟩
      · obtain ⟨hnot, handle, hget, hstate⟩ :=
          (h.held shell hmem).tracked id ((hprocesses id hid).resolve_left (Ne.symm heq))
        exact ⟨hnot, handle, by rw [Dict.get?_set, if_neg heq, hget], hstate⟩
  · refine h.alone.set hi fun id hid => ?_
    rcases hprocesses id hid with rfl | hold
    · exact .inr huntracked
    · exact .inl hold
  · intro table htable
    exact (h.saved table htable).mono (fun _ hl => List.mem_append_left _ hl) fun _ ho => ho
  · intro l' hl' path hpath text
    rcases List.mem_append.mp hl' with hold | hlast
    · exact h.results l' hold path hpath text
    · obtain rfl := List.mem_singleton.mp hlast
      -- there is no such file yet
      have hnone : world.files.get? path = none := by
        by_contra hsome
        obtain ⟨l'', hl'', hfile⟩ := h.files path hsome
        exact hproper.not_mem_paths (h.proper l'' hl'') (Ne.symm (hfresh l'' hl'')) hpath hfile
      refine iff_of_false (fun hsome => ?_) fun hvalue => ?_
      · rw [hnone] at hsome
        cases hsome
      · obtain ⟨value, -, hin⟩ := hvalue
        exact hended (List.mem_map_of_mem (f := Prod.fst) hin)
  · intro path hpath
    obtain ⟨l', hl', hfile⟩ := h.files path hpath
    exact ⟨l', List.mem_append_left _ hl', hfile⟩
  · intro id hid
    obtain ⟨l', hl', heq⟩ := h.endedLaunched id hid
    exact ⟨l', List.mem_append_left _ hl', heq⟩

/-- A launch that raised has only counted. -/
lemma count (hi : world.shells[i]? = some shell) (hpersists : executor.persistArtifacts = true)
    (hprocesses : executor.asyncProcesses = shell.executor.asyncProcesses) :
    Invariant { world with shells := world.shells.set i { shell with executor } } where
  __ := h
  held := by
    intro shell' hshell
    have hmem := List.mem_of_getElem? hi
    rcases List.mem_or_eq_of_mem_set hshell with hold | rfl
    · exact (h.held shell' hold).mono (fun _ hl => hl) rfl
    · exact ⟨hpersists, (h.held shell hmem).table.mono (fun _ hl => hl) fun _ ho => ho,
        fun id hid => (h.held shell hmem).tracked id (hprocesses ▸ hid)⟩
  alone := h.alone.set hi fun id hid => .inl (hprocesses ▸ hid)
  saved := fun table htable => (h.saved table htable).mono (fun _ hl => hl) fun _ ho => ho

/-! ## What is known of a handle -/

/-- A process ends once. -/
lemma outcome_unique {outcome outcome' : Outcome J} (ho : (id, outcome) ∈ world.outcomes)
    (ho' : (id, outcome') ∈ world.outcomes) : outcome = outcome' :=
  congrArg Prod.snd (List.inj_on_of_nodup_map h.once ho ho' rfl)

lemma result_absent (hl : l ∈ world.launches) (hended : l.handle.handleId ∉ world.ended)
    {path : String} (hpath : path ∈ l.handle.artifactRefs) : world.files.get? path = none := by
  by_contra hsome
  obtain ⟨text, htext⟩ := Option.ne_none_iff_exists'.mp hsome
  obtain ⟨value, -, hin⟩ := (h.results l hl path hpath text).mp htext
  exact hended (List.mem_map_of_mem (f := Prod.fst) hin)

/-- What the result file of a handle says. -/
lemma loadResult_eq (hknown : Known world id handle)
    (hstate : handle.state = .running ∨ handle.state = .completed) {output : Option J.Value}
    (hload : loadResult J world.files handle.artifactRefs.head? = some output) :
    ∃ value, output = some value ∧ (id, .finished true (some value)) ∈ world.outcomes := by
  obtain ⟨l, hl, hid, -, -, -, hrefs⟩ := hknown.launched
  rw [hrefs hstate] at hload
  obtain ⟨text, htext, houtput⟩ := Option.map_eq_some_iff.mp hload
  obtain ⟨path, hpath, hget⟩ := Option.bind_eq_some_iff.mp htext
  obtain ⟨value, rfl, hin⟩ :=
    (h.results l hl path (List.mem_of_mem_head? hpath) text).mp hget
  refine ⟨value, ?_, hid ▸ hin⟩
  rw [J.loads_dumps] at houtput
  exact houtput.symm

/-- A completed handle is reported with the output of its process. -/
lemma join_loadResult (hknown : Known world id handle) (hstate : handle.state = .completed) :
    (id, .finished true (loadResult J world.files handle.artifactRefs.head?).join) ∈
      world.outcomes := by
  obtain ⟨output, houtput⟩ := hknown.completed hstate
  cases hload : loadResult J world.files handle.artifactRefs.head? with
  | some loaded =>
    obtain ⟨value, rfl, hin⟩ := h.loadResult_eq hknown (.inr hstate) hload
    exact hin
  | none =>
    cases output with
    | none => exact houtput
    | some value =>
      -- the output would be in the result file
      obtain ⟨l, hl, hid, -, -, -, hrefs⟩ := hknown.launched
      obtain ⟨-, workspace, heq⟩ := h.proper l hl
      have hrefs' := hrefs (.inr hstate)
      rw [heq, launchedHandle] at hrefs'
      have hget := (h.results l hl _ (by rw [heq, launchedHandle]; exact List.mem_singleton_self _)
        (J.dumps value)).mpr ⟨value, rfl, hid ▸ houtput⟩
      rw [hrefs', List.head?_cons] at hload
      unfold loadResult at hload
      rw [Option.bind_some, hget] at hload
      cases hload

end Invariant

/-! ## The end of a process -/

/-- What a process prints that parses to a value other than null, it prints in success. -/
def Honest (J : JsonModule) (ending : Ending) : Prop :=
  ∀ stdout stderr returnCode value, ending = .exited stdout stderr returnCode →
    parseStdout J stdout = .ok (some value) → returnCode = 0 ∧ strip stderr = ""

lemma success_of_judge {stdout stderr : String} {returnCode : ℤ} {value : J.Value}
    (h : Honest J (.exited stdout stderr returnCode))
    (hvalue : (judge J stdout stderr returnCode).1 = some value) :
    ((judge J stdout stderr returnCode).2.2 && decide (returnCode = 0)) = true := by
  unfold judge at hvalue ⊢
  cases hparse : parseStdout J stdout with
  | error exc =>
    rw [hparse] at hvalue
    cases hvalue
  | ok output =>
    rw [hparse] at hvalue
    obtain rfl : output = some value := hvalue
    obtain ⟨hcode, hstderr⟩ := h stdout stderr returnCode value rfl hparse
    simp [hcode, hstderr]

namespace Invariant

variable {world : World J Args} (h : Invariant world) {i : ℕ} {shell : Shell}
  (hi : world.shells[i]? = some shell) {id : String}

include h hi

variable {ending : Ending} {shell' : Shell} {files : Files}

/-- Waiting for a tracked process that is honest. -/
lemma awaitHandle_of_tracked (htracked : id ∈ shell.executor.asyncProcesses)
    (hhonest : Honest J ending) :
    ∃ result shell' files, awaitHandle J shell world.files id ending = .ok (result, shell', files) ∧
      Invariant { world with
        files := files
        shells := world.shells.set i shell'
        outcomes := world.outcomes ++ [(id, .finished result.success result.output)] } := by
  have hheld := h.held shell (List.mem_of_getElem? hi)
  obtain ⟨hended, handle, hget, hrunning⟩ := hheld.tracked id htracked
  obtain ⟨l, hl, hid, hhandle, hstdout, hstderr, hrefs⟩ := (hheld.table id handle hget).launched
  have hrefs := hrefs (.inl hrunning)
  have hpaths : l.handle.paths = handle.paths := by
    unfold AsyncHandle.paths
    rw [hstdout, hstderr, hrefs]
  have hknown : ∀ (outcome : Outcome J) (state : HandleState),
      (state = .completed → ∃ output, outcome = .finished true output) →
      Known { world with outcomes := world.outcomes ++ [(id, outcome)] } id
        { handle with handleId := id, state := state } := by
    intro outcome state hcompleted
    refine ⟨⟨l, hl, hid, rfl, hstdout, hstderr, fun _ => hrefs⟩, fun hstate => ?_⟩
    obtain ⟨output, rfl⟩ := hcompleted hstate
    exact ⟨output, List.mem_append_right _ (List.mem_singleton_self _)⟩
  unfold awaitHandle waitAsync
  rw [hget]
  dsimp only
  rw [hhandle, if_pos htracked]
  cases ending with
  | timedOut stdout stderr =>
    dsimp only
    refine ⟨_, _, _, rfl, h.settle hi htracked hl hid (fun _ _ => rfl) (fun path hpath text => ?_)
      (hknown _ _ fun hstate => by cases hstate)⟩
    rw [h.result_absent hl (hid ▸ hended) hpath]
    refine iff_of_false (fun hsome => by cases hsome) fun hvalue => ?_
    obtain ⟨value, -, heq⟩ := hvalue
    cases heq
  | exited stdout stderr returnCode =>
    dsimp only
    refine ⟨_, _, _, rfl, h.settle hi htracked hl hid (fun path hpath => ?_)
      (fun path hpath text => ?_) (hknown _ _ fun hstate => ?_)⟩
    · exact get?_writeAsyncArtifacts_of_not_mem (hpaths ▸ hpath)
    · have hpath' : handle.artifactRefs = [path] := by
        rw [hrefs]
        exact (h.proper l hl).refs.mp hpath
      obtain ⟨hnotStdout, hnotStderr⟩ := (h.proper l hl).not_printed hpath
      rw [get?_writeAsyncArtifacts hpath' (hstdout ▸ hnotStdout) (hstderr ▸ hnotStderr),
        h.result_absent hl (hid ▸ hended) hpath, Option.or_none, Option.map_eq_some_iff]
      refine exists_congr fun value => ?_
      constructor
      · rintro ⟨hvalue, rfl⟩
        rw [success_of_judge hhonest hvalue, hvalue]
        exact ⟨rfl, rfl⟩
      · rintro ⟨rfl, houtcome⟩
        exact ⟨(Outcome.finished.inj houtcome).2, rfl⟩
    · refine ⟨_, congrArg₂ Outcome.finished ?_ rfl⟩
      split at hstate
      · assumption
      · cases hstate

/-- Waiting for a process that the executor does not track. -/
lemma awaitHandle_of_untracked (hnot : id ∉ shell.executor.asyncProcesses)
    {result : ToolExecutionResult J}
    (hok : awaitHandle J shell world.files id ending = .ok (result, shell', files)) :
    Invariant { world with files := files, shells := world.shells.set i shell' } := by
  unfold awaitHandle waitAsync at hok
  split at hok
  · cases hok
  · next handle hget =>
    have hknown := (h.held shell (List.mem_of_getElem? hi)).table id handle hget
    obtain ⟨l, hl, hid, hhandle, hstdout, hstderr, -⟩ := hknown.launched
    dsimp only at hok
    rw [hhandle, if_neg hnot] at hok
    cases hok
    refine h.setHandle hi hnot ⟨⟨l, hl, hid, rfl, hstdout, hstderr, fun hstate => ?_⟩,
      fun hstate => ?_⟩
    · rcases hstate with hstate | hstate <;> cases hstate
    · cases hstate

/-- Cancelling leaves no result file. -/
lemma cancel {stdout stderr : String} {returnCode : ℤ}
    (hok : cancelAsyncHandle J shell world.files id stdout stderr returnCode =
      .ok (shell', files)) :
    Invariant { world with
      files := files
      shells := world.shells.set i shell'
      outcomes := world.outcomes ++ [(id, .cancelled)] } := by
  unfold cancelAsyncHandle at hok
  split at hok
  · cases hok
  · next handle hget =>
    split at hok
    · next htracked =>
      have hheld := h.held shell (List.mem_of_getElem? hi)
      obtain ⟨hended, handle', hget', hrunning⟩ := hheld.tracked id htracked
      obtain rfl := Option.some.inj (hget.symm.trans hget')
      obtain ⟨l, hl, hid, hhandle, hstdout, hstderr, hrefs⟩ := (hheld.table id handle hget).launched
      have hrefs := hrefs (.inl hrunning)
      have hpaths : l.handle.paths = handle.paths := by
        unfold AsyncHandle.paths
        rw [hstdout, hstderr, hrefs]
      obtain ⟨rfl, rfl⟩ := Prod.mk.inj (Except.ok.inj hok)
      have hwritten : ∀ path, path ∉ l.handle.paths →
          (writeAsyncArtifacts J world.files handle.stdoutPath handle.stderrPath
            handle.artifactRefs.head? stdout (terminatedStderr stderr returnCode) none).1.get?
              path =
          world.files.get? path :=
        fun path hpath => get?_writeAsyncArtifacts_of_not_mem (hpaths ▸ hpath)
      refine h.settle hi htracked hl hid hwritten (fun path hpath text => ?_)
        ⟨⟨l, hl, hid, hhandle, hstdout, hstderr, fun hstate => ?_⟩, fun hstate => ?_⟩
      · have hpath' : handle.artifactRefs = [path] := by
          rw [hrefs]
          exact (h.proper l hl).refs.mp hpath
        obtain ⟨hnotStdout, hnotStderr⟩ := (h.proper l hl).not_printed hpath
        have hnone : (writeAsyncArtifacts J world.files handle.stdoutPath handle.stderrPath
            handle.artifactRefs.head? stdout (terminatedStderr stderr returnCode) none).1.get?
              path =
            none := by
          rw [get?_writeAsyncArtifacts hpath' (hstdout ▸ hnotStdout) (hstderr ▸ hnotStderr),
            h.result_absent hl (hid ▸ hended) hpath]
          rfl
        refine iff_of_false (fun hsome => ?_) fun hvalue => ?_
        · cases hnone.symm.trans hsome
        · obtain ⟨value, -, heq⟩ := hvalue
          cases heq
      · rcases hstate with hstate | hstate <;> cases hstate
      · cases hstate
    · cases hok

/-- A report by an executor that does not track the process. -/
lemma reconcile_of_untracked (hnot : id ∉ shell.executor.asyncProcesses) {report : Report J}
    (hok : reconcileAsyncHandle J shell world.files id ending = .ok (report, shell', files)) :
    Invariant { world with
      files := files
      shells := world.shells.set i shell'
      reports := world.reports ++ [report] } := by
  have hsame : world.shells.set i shell = world.shells := by
    obtain ⟨hlt, heq⟩ := List.getElem?_eq_some_iff.mp hi
    rw [← heq, List.set_getElem_self hlt]
  unfold reconcileAsyncHandle at hok
  split at hok
  · cases hok
  · next handle hget =>
    have hknown := (h.held shell (List.mem_of_getElem? hi)).table id handle hget
    rw [if_neg hnot] at hok
    split at hok
    · obtain ⟨rfl, hrest⟩ := Prod.mk.inj (Except.ok.inj hok)
      obtain ⟨rfl, rfl⟩ := Prod.mk.inj hrest
      rw [hsame]
      exact h.addReport fun hcompleted => h.join_loadResult hknown hcompleted
    · split at hok
      · obtain ⟨rfl, hrest⟩ := Prod.mk.inj (Except.ok.inj hok)
        obtain ⟨rfl, rfl⟩ := Prod.mk.inj hrest
        rw [hsame]
        exact h.addReport fun hcompleted => by cases hcompleted
      · next hrunning =>
        have hrunning : handle.state = .running := not_not.mp hrunning
        split at hok
        · next output hload =>
          obtain ⟨rfl, hrest⟩ := Prod.mk.inj (Except.ok.inj hok)
          obtain ⟨rfl, rfl⟩ := Prod.mk.inj hrest
          obtain ⟨value, rfl, hin⟩ := h.loadResult_eq hknown (.inl hrunning) hload
          obtain ⟨l, hl, hid, hhandle, hstdout, hstderr, hrefs⟩ := hknown.launched
          have hcompleted : Known world id { handle with state := .completed } :=
            ⟨⟨l, hl, hid, hhandle, hstdout, hstderr, fun _ => hrefs (.inl hrunning)⟩,
              fun _ => ⟨_, hin⟩⟩
          exact (h.setHandle hi hnot hcompleted).addReport fun _ => hin
        · obtain ⟨rfl, hrest⟩ := Prod.mk.inj (Except.ok.inj hok)
          obtain ⟨rfl, rfl⟩ := Prod.mk.inj hrest
          rw [hsame]
          exact h.addReport fun hcompleted => by cases hcompleted

end Invariant

/-! ## Runs -/

variable (H : StableHash Args)

/-- What a step may meet. A launch has a hash that differs in its first eight digits from those of
the launches before it, so that no executor has launched this tool with these arguments at this
count; and a process that is waited for is honest. -/
def Meets (world : World J Args) : Action Args → Prop
  | .launch shell tool args => ∀ launching, world.shells[shell]? = some launching →
      ∀ l ∈ world.launches, takeChars 8 (H.digest l.toolName l.args l.counter) ≠
        takeChars 8 (H.digest tool.name args (launching.executor.asyncLaunchCounter + 1))
  | .await shell handleId ending => ∀ waiting, world.shells[shell]? = some waiting →
      handleId ∈ waiting.executor.asyncProcesses → Honest J ending
  | .reconcile shell handleId ending => ∀ asking, world.shells[shell]? = some asking →
      handleId ∈ asking.executor.asyncProcesses → Honest J ending
  | _ => True

/-- Every step of a run meets the condition in the state before it. -/
def MeetsAlong (world : World J Args) : List (Action Args) → Prop
  | [] => True
  | action :: actions => Meets H world action ∧ MeetsAlong (world.step H action) actions

/-- The ids are cut from the hashes. -/
def Hashed (world : World J Args) : Prop :=
  ∀ l ∈ world.launches,
    l.handle.handleId = takeChars 16 (H.digest l.toolName l.args l.counter)

lemma takeChars_handleId (h : Hashed H world) {l : Launch Args} (hl : l ∈ world.launches) :
    takeChars 8 l.handle.handleId = takeChars 8 (H.digest l.toolName l.args l.counter) := by
  rw [h l hl, takeChars_takeChars]
  rfl

lemma launchAsync_eq {executor : ToolExecutor} (hpersists : executor.persistArtifacts = true)
    (tool : Tool) (args : Args) (workspace : String) :
    (tool.fileExists = true ∧ ∃ executor', launchAsync H executor tool args workspace =
        (.ok (launchedHandle workspace
          (takeChars 16 (H.digest tool.name args (executor.asyncLaunchCounter + 1))) tool.name
          tool.timeout), executor') ∧
      executor'.persistArtifacts = true ∧ ∀ id ∈ executor'.asyncProcesses,
        id = takeChars 16 (H.digest tool.name args (executor.asyncLaunchCounter + 1)) ∨
          id ∈ executor.asyncProcesses) ∨
    ∃ e executor', launchAsync H executor tool args workspace = (.error e, executor') ∧
      executor'.persistArtifacts = true ∧
      executor'.asyncProcesses = executor.asyncProcesses := by
  unfold launchAsync artifactPaths
  rw [hpersists]
  cases htool : tool.fileExists with
  | true =>
    refine .inl ⟨rfl, _, rfl, rfl, fun id hid => ?_⟩
    rcases List.mem_cons.mp hid with rfl | hold
    · exact .inl rfl
    · exact .inr (List.mem_of_mem_filter hold)
  | false => exact .inr ⟨_, _, rfl, rfl, rfl⟩

/-- A step that meets the condition keeps the invariant. -/
theorem Invariant.step (h : Invariant world) (hhashed : Hashed H world) {action : Action Args}
    (hmeets : Meets H world action) :
    Invariant (world.step H action) ∧ Hashed H (world.step H action) := by
  cases action with
  | root workspace =>
    refine ⟨h.addShell rfl rfl fun id handle hget => ?_, hhashed⟩
    cases hget
  | fork shell branchId =>
    cases hi : world.shells[shell]? with
    | none =>
      simp only [World.step, hi]
      exact ⟨h, hhashed⟩
    | some parent =>
      simp only [World.step, hi]
      exact ⟨h.addShell rfl rfl (h.held parent (List.mem_of_getElem? hi)).table, hhashed⟩
  | checkpoint shell =>
    cases hi : world.shells[shell]? with
    | none =>
      simp only [World.step, hi]
      exact ⟨h, hhashed⟩
    | some saved =>
      simp only [World.step, hi]
      exact ⟨h.save (h.held saved (List.mem_of_getElem? hi)).table, hhashed⟩
  | resume checkpoint workspace =>
    cases hi : world.checkpoints[checkpoint]? with
    | none =>
      simp only [World.step, hi]
      exact ⟨h, hhashed⟩
    | some table =>
      simp only [World.step, hi]
      exact ⟨h.addShell rfl rfl (h.saved table (List.mem_of_getElem? hi)), hhashed⟩
  | launch shell tool args =>
    cases hi : world.shells[shell]? with
    | none =>
      simp only [World.step, hi]
      exact ⟨h, hhashed⟩
    | some launching =>
      rcases launchAsync_eq H (h.held launching (List.mem_of_getElem? hi)).persists tool args
          (launching.workspace ++ "/handles") with
        ⟨-, executor', heq, hpersists, hprocesses⟩ | ⟨e, executor', heq, hpersists, hprocesses⟩
      · simp only [World.step, hi, heq]
        have hlength : (takeChars 16 (H.digest tool.name args
            (launching.executor.asyncLaunchCounter + 1))).toList.length = 16 := by
          unfold takeChars
          rw [String.toList_ofList, List.length_take, H.length_digest]
          rfl
        refine ⟨h.launch (l := ⟨tool.name, args, launching.executor.asyncLaunchCounter + 1, _⟩) hi
          ⟨?_, launching.workspace ++ "/handles", rfl⟩ (fun l' hl' => ?_) hpersists hprocesses,
          fun l hl => ?_⟩
        · show 8 ≤ (takeChars 16 _).toList.length
          omega
        · rw [takeChars_handleId H hhashed hl']
          show _ ≠ takeChars 8 (takeChars 16 _)
          rw [takeChars_takeChars]
          exact hmeets launching hi l' hl'
        · rcases List.mem_append.mp hl with hold | hnew
          · exact hhashed l hold
          · rw [List.mem_singleton.mp hnew]
            rfl
      · simp only [World.step, hi, heq]
        exact ⟨h.count hi hpersists hprocesses, hhashed⟩
  | await shell handleId ending =>
    cases hi : world.shells[shell]? with
    | none =>
      simp only [World.step, hi]
      exact ⟨h, hhashed⟩
    | some waiting =>
      by_cases htracked : handleId ∈ waiting.executor.asyncProcesses
      · obtain ⟨result, waiting', files, heq, hafter⟩ :=
          h.awaitHandle_of_tracked hi htracked (hmeets waiting hi htracked)
        simp only [World.step, hi, heq, waited, decide_eq_true htracked, if_true]
        exact ⟨hafter, hhashed⟩
      · cases heq : awaitHandle J waiting world.files handleId ending with
        | error e =>
          simp only [World.step, hi, heq]
          exact ⟨h, hhashed⟩
        | ok done =>
          have hafter := h.awaitHandle_of_untracked hi htracked heq
          simp only [World.step, hi, heq, waited, decide_eq_false htracked, List.append_nil,
            Bool.false_eq_true, if_false]
          exact ⟨hafter, hhashed⟩
  | cancel shell handleId stdout stderr returnCode =>
    cases hi : world.shells[shell]? with
    | none =>
      simp only [World.step, hi]
      exact ⟨h, hhashed⟩
    | some cancelling =>
      cases heq : cancelAsyncHandle J cancelling world.files handleId stdout stderr returnCode with
      | error e =>
        simp only [World.step, hi, heq]
        exact ⟨h, hhashed⟩
      | ok done =>
        simp only [World.step, hi, heq]
        exact ⟨h.cancel hi heq, hhashed⟩
  | reconcile shell handleId ending =>
    cases hi : world.shells[shell]? with
    | none =>
      simp only [World.step, hi]
      exact ⟨h, hhashed⟩
    | some asking =>
      by_cases htracked : handleId ∈ asking.executor.asyncProcesses
      · obtain ⟨result, asking', files, heq, hafter⟩ :=
          h.awaitHandle_of_tracked hi htracked (hmeets asking hi htracked)
        obtain ⟨-, handle, hget, -⟩ :=
          (h.held asking (List.mem_of_getElem? hi)).tracked handleId htracked
        have hreconcile : reconcileAsyncHandle J asking world.files handleId ending =
            .ok (⟨handleId, if result.success then .completed else .failed, result.output⟩, asking',
              files) := by
          unfold reconcileAsyncHandle
          rw [hget]
          dsimp only
          rw [if_pos htracked, heq]
          rfl
        have hsuccess : decide ((if result.success = true then HandleState.completed
            else HandleState.failed) = HandleState.completed) = result.success := by
          cases result.success <;> rfl
        simp only [World.step, hi, hreconcile, waited, decide_eq_true htracked, if_true, hsuccess]
        refine ⟨hafter.addReport fun hcompleted => ?_, hhashed⟩
        have hok : result.success = true := by
          cases hresult : result.success with
          | true => rfl
          | false => simp [hresult] at hcompleted
        exact List.mem_append_right _ (List.mem_singleton.mpr (by rw [hok]))
      · cases heq : reconcileAsyncHandle J asking world.files handleId ending with
        | error e =>
          simp only [World.step, hi, heq]
          exact ⟨h, hhashed⟩
        | ok done =>
          have hafter := h.reconcile_of_untracked hi htracked heq
          simp only [World.step, hi, heq, waited, decide_eq_false htracked, List.append_nil,
            Bool.false_eq_true, if_false]
          exact ⟨hafter, hhashed⟩

/-- What reconciling after a crash promises: launches are told apart, and what is reported completed
succeeded, with this output, and ended in no other way. -/
structure Agrees (world : World J Args) : Prop where
  launches : world.launches.Pairwise fun l l' => l.handle.handleId ≠ l'.handle.handleId ∧
    ∀ path ∈ l.handle.artifactRefs, path ∉ l'.handle.artifactRefs
  reports : ∀ report ∈ world.reports, report.status = .completed →
    (report.handleId, .finished true report.output) ∈ world.outcomes ∧
      ∀ outcome, (report.handleId, outcome) ∈ world.outcomes →
        outcome = .finished true report.output

lemma Invariant.agrees (h : Invariant world) : Agrees world where
  launches := by
    refine h.apart.imp_of_mem fun {l l'} hl hl' hne => ⟨fun heq => ?_, fun path hpath hpath' => ?_⟩
    · exact hne (congrArg (takeChars 8) heq)
    · exact (h.proper l hl).not_mem_paths (h.proper l' hl') hne hpath
        (List.mem_append_right _ hpath')
  reports := fun report hreport hcompleted =>
    ⟨h.reports report hreport hcompleted, fun _ hin =>
      h.outcome_unique hin (h.reports report hreport hcompleted)⟩

lemma invariant_run (h : Invariant world) (hhashed : Hashed H world) {actions : List (Action Args)}
    (hmeets : MeetsAlong H world actions) : Invariant (world.run H actions) := by
  induction actions generalizing world with
  | nil => exact h
  | cons action actions ih =>
    obtain ⟨hstep, hhashed'⟩ := h.step H hhashed hmeets.1
    exact ih hstep hhashed' hmeets.2

lemma MeetsAlong.before {before after : List (Action Args)}
    (h : MeetsAlong H world (before ++ after)) : MeetsAlong H world before := by
  induction before generalizing world with
  | nil => trivial
  | cons action before ih => exact ⟨h.1, ih h.2⟩

/-- In a run whose steps meet the condition, reconciling agrees with the live outcome in every state
reached. -/
theorem agrees_throughout (actions : List (Action Args))
    (h : MeetsAlong H (World.start J) actions) (before after : List (Action Args))
    (hactions : actions = before ++ after) : Agrees ((World.start J).run H before) := by
  subst hactions
  exact (invariant_run H inv_start (fun _ hl => by cases hl) (h.before H)).agrees

end Runs

/-! ## A tool that prints a result and fails -/

/-- JSON of one value. -/
def trueJson : JsonModule where
  Value := Unit
  loads := fun text =>
    if text = "true" ∨ text = "true\n" then .ok (some ()) else
      if text = "null" then .ok none else .error "Expecting value: line 1 column 1 (char 0)"
  dumps := fun _ => "true"
  loads_dumps := fun _ => rfl

def zeroHash : StableHash Unit where
  digest := fun _ _ _ => String.ofList (List.replicate 64 '0')
  length_digest := fun _ _ _ => by rw [String.toList_ofList, List.length_replicate]

/-- A launch, a checkpoint, the end of the process and a new attempt that asks for the handle. -/
def crashRun (returnCode : ℤ) : List (Action Unit) :=
  [.root "run", .launch 0 ⟨"check", "5.0", false, true⟩ (), .checkpoint 0,
    .await 0 "0000000000000000" (.exited "true\n" "" returnCode), .resume 0 "run",
    .reconcile 1 "0000000000000000" (.timedOut "" "")]

theorem crashRun_agrees : Agrees ((World.start trueJson).run zeroHash (crashRun 0)) := by
  refine agrees_throughout zeroHash (crashRun 0) ?_ (crashRun 0) [] (List.append_nil _).symm
  refine ⟨trivial, fun _ _ l hl => (by cases hl), trivial, fun _ _ _ => ?_, trivial,
    fun _ _ _ => ?_, trivial⟩
  · intro stdout stderr returnCode value heq _
    cases heq
    exact ⟨rfl, rfl⟩
  · intro stdout stderr returnCode value heq
    cases heq

/-- The process exits with 1, and its handle is reported completed. -/
theorem failed_process_reported_completed :
    ¬ Agrees ((World.start trueJson).run zeroHash (crashRun 1)) := by
  intro h
  have hreports : ((World.start trueJson).run zeroHash (crashRun 1)).reports =
      [⟨"0000000000000000", .completed, some ()⟩] := rfl
  have houtcomes : ((World.start trueJson).run zeroHash (crashRun 1)).outcomes =
      [("0000000000000000", .finished false (some ()))] := rfl
  have hreport := (h.reports ⟨"0000000000000000", .completed, some ()⟩
    (by rw [hreports]; exact List.mem_singleton_self _) rfl).1
  rw [houtcomes, List.mem_singleton] at hreport
  cases hreport

end Agintor.Runtime.AsyncHandles
