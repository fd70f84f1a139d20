import Agintor.Evaluation.CommandLinesTheorems

/-!
# The dry run and the run

A loop over commands sends the requests of the commands one after the other and stops early only
when a command has no request or when one has left something changed. So an evaluation sends a
first part of its plan, and all of it when nothing was changed, exactly when every command is
planned as it is requested.
-/

namespace Agintor.Evaluation.CommandPlans

open Lib Core

variable {σ : Type}

/-! ## What a run has sent -/

def Sent.line (e : Sent σ) : CommandLine := e.request.line e.expectedExitCodes

/-- The digests of the copy before and after a request, as the back end has recorded them or as
they are on the disk. -/
def World.transition (world : World σ) (e : Sent σ) :
    Except EvaluationError (String × String) := do
  let before ← world.copyDigest e.before
  let after ← world.copyDigest e.after
  return authoritativeWorkspaceTransition (world.lastWorkspaceTransition e.after) before after

/-- A request has changed neither the source nor a protected path. -/
structure Spares (world : World σ) (e : Sent σ) : Prop where
  source : world.sourceDigest e.after = world.sourceDigest e.before
  protectedPaths : ∃ before after, world.protectedDigest e.before = .ok before ∧
    world.protectedDigest e.after = .ok after ∧ changedProtectedPaths before after = []

/-- A request has moreover left the copy as the patch had left it. -/
structure Untouched (world : World σ) (patched : String) (e : Sent σ) : Prop where
  spares : Spares world e
  copy : world.transition e = .ok (patched, patched)

/-- The patch applies, and no command changes the copy that the patch has left, a protected path or
the source. -/
structure Undisturbed (world : World σ) (patch : Sent σ) (checks : List (Sent σ)) : Prop where
  applies : exitCodeOf patch.result = 0
  spares : Spares world patch
  copy : ∃ before patched, world.transition patch = .ok (before, patched) ∧
    ∀ e ∈ checks, Untouched world patched e

/-- The requests of an evaluation that starts in state `s`. -/
def sentBy (world : World σ) (backend : CommandBackend) (fixture : RepoPatchFixture) (s : σ) :
    List (Sent σ) :=
  (run world backend fixture ⟨s, []⟩).2.sent

/-- The evaluation sends what is planned, in order, and all of it if nothing disturbs it. Where
there is no plan it sends nothing. -/
structure RunsAsPlanned (U : Contracts.UnicodeTables) (world : World σ) (backend : CommandBackend)
    (fixture : RepoPatchFixture) (s : σ) : Prop where
  planned : ∀ plans, commandPlans U backend fixture = .ok plans →
    (sentBy world backend fixture s).map Sent.line <+: plans.map fun plan => plan.toCommandLine
  whole : ∀ plans, commandPlans U backend fixture = .ok plans →
    ∀ patch checks, sentBy world backend fixture s = patch :: checks →
      Undisturbed world patch checks →
        (sentBy world backend fixture s).map Sent.line = plans.map fun plan => plan.toCommandLine
  refused : ∀ e, commandPlans U backend fixture = .error e → sentBy world backend fixture s = []

/-- No request leaves anything in the mounted tree that keeps the next one from being prepared. -/
structure World.KeepsMount (world : World σ) : Prop where
  mount : ∀ request s prepared, world.prepareMount s = .ok prepared →
    ∃ t, world.prepareMount (world.run request prepared).2 = .ok t
  workspace : ∀ request s prepared, world.prepareMount s = .ok prepared →
    world.validateWorkspace s = .ok () →
      world.validateWorkspace (world.run request prepared).2 = .ok ()

/-! ## Protected paths -/

lemma changedProtectedPaths_eq_nil_iff {before after : Dict String String} :
    changedProtectedPaths before after = [] ↔
      ∀ path, (before.get? path).getD "" = (after.get? path).getD "" := by
  unfold changedProtectedPaths
  simp only [List.filter_eq_nil_iff, List.mem_insertionSort, List.mem_dedup, List.mem_append,
    decide_eq_true_eq, not_not, ne_eq]
  constructor
  · intro h path
    by_cases hpath : path ∈ before.keys ∨ path ∈ after.keys
    · exact h path hpath
    · rw [not_or] at hpath
      rw [Dict.get?_eq_none_iff.mpr hpath.1, Dict.get?_eq_none_iff.mpr hpath.2]
  · intro h path _
    exact h path

lemma changedProtectedPaths_trans {first second third : Dict String String}
    (h : changedProtectedPaths first second = []) (h' : changedProtectedPaths first third = []) :
    changedProtectedPaths second third = [] := by
  rw [changedProtectedPaths_eq_nil_iff] at *
  intro path
  rw [← h path, h' path]

lemma changedProtectedPaths_self (paths : Dict String String) :
    changedProtectedPaths paths paths = [] := by
  rw [changedProtectedPaths_eq_nil_iff]
  intro path
  rfl

/-! ## One request -/

section Steps

variable {world : World σ} {m : Machine σ}

/-- The record of a request that is run on a prepared disk. -/
def sentOn (world : World σ) (request : IsolatedCommandRequest) (expectedExitCodes : List ℤ)
    (before prepared : σ) : Sent σ :=
  ⟨request, expectedExitCodes, (world.run request prepared).1, before,
    (world.run request prepared).2⟩

variable {request : IsolatedCommandRequest} {e : EvaluationError} {line : CommandLine}
    {before : String}

lemma execute_of_error (h : makeRequest line = .error e) :
    execute world line m = (.error e, m) := by
  unfold execute
  rw [Stateful.bind_apply, Stateful.andThen, h]
  rfl

/-- A request that can be made and prepared is sent. -/
lemma execute_of_ok {prepared : σ} (hrequest : makeRequest line = .ok request)
    (hworkspace : world.validateWorkspace m.disk = .ok ())
    (hbefore : world.copyDigest m.disk = .ok before)
    (hmount : world.prepareMount m.disk = .ok prepared) :
    execute world line m =
      ((world.transition (sentOn world request line.expectedExitCodes m.disk prepared)).map
          fun digests => ⟨exitCodeOf (world.run request prepared).1, line.expectedExitCodes,
            digests.1, digests.2⟩,
        ⟨(world.run request prepared).2,
          m.sent ++ [sentOn world request line.expectedExitCodes m.disk prepared]⟩) := by
  have hlaunch : launch world request line.expectedExitCodes m.disk m =
      (.ok (exitCodeOf (world.run request prepared).1),
        ⟨(world.run request prepared).2,
          m.sent ++ [sentOn world request line.expectedExitCodes m.disk prepared]⟩) := by
    unfold launch
    rw [hmount]
    rfl
  unfold execute
  rw [Stateful.check_bind_of_ok hrequest, Stateful.get_bind_apply,
    Stateful.check_bind_of_ok hworkspace, Stateful.check_bind_of_ok hbefore, Stateful.bind_apply,
    Stateful.andThen, hlaunch]
  show (Stateful.check (world.copyDigest (world.run request prepared).2) >>=
    fun physicalAfter => pure _) _ = _
  rw [Stateful.check_bind_pure]
  unfold World.transition sentOn
  rw [hbefore, ok_bind]
  cases world.copyDigest (world.run request prepared).2 with
  | error e => rfl
  | ok after => rfl

variable {fixture : RepoPatchFixture} {command : RepoPatchCommand}

lemma runCommand_of_error (h : requestOf fixture command = .error e) :
    runCommand world fixture command m = (.error e, m) := by
  unfold runCommand
  unfold requestOf at h
  cases hargv : commandArgv command.command with
  | error e' =>
    rw [hargv, error_bind] at h
    cases h
    exact Stateful.check_bind_of_error rfl
  | ok argv =>
    rw [hargv, ok_bind] at h
    rw [Stateful.check_bind_of_ok rfl]
    exact execute_of_error h

lemma runCommand_of_ok {prepared : σ} (hrequest : requestOf fixture command = .ok request)
    (hworkspace : world.validateWorkspace m.disk = .ok ())
    (hbefore : world.copyDigest m.disk = .ok before)
    (hmount : world.prepareMount m.disk = .ok prepared) :
    runCommand world fixture command m =
      ((world.transition (sentOn world request command.expectedExitCodes m.disk prepared)).map
          fun digests => ⟨exitCodeOf (world.run request prepared).1, command.expectedExitCodes,
            digests.1, digests.2⟩,
        ⟨(world.run request prepared).2,
          m.sent ++ [sentOn world request command.expectedExitCodes m.disk prepared]⟩) := by
  unfold runCommand
  obtain ⟨argv, hargv, hline⟩ := bind_eq_ok_iff.mp hrequest
  rw [Stateful.check_bind_of_ok hargv]
  exact execute_of_ok hline hworkspace hbefore hmount

/-- A scan reads the disk and leaves everything as it is. -/
lemma scanAfter_apply (protectedBefore : Dict String String) (scans : Scans) :
    scanAfter world protectedBefore scans m =
      ((do
        let source ← world.sourceDigest m.disk
        let protectedNow ← world.protectedDigest m.disk
        return { scans with
          tamperedPaths := scans.tamperedPaths ++ changedProtectedPaths protectedBefore protectedNow
          sourceIntegrityScans := scans.sourceIntegrityScans ++ [source] }), m) := by
  unfold scanAfter
  rw [Stateful.get_bind_apply]
  cases world.sourceDigest m.disk with
  | error e => rfl
  | ok source =>
    rw [Stateful.check_bind_of_ok rfl, Stateful.check_bind_pure, ok_bind]
    cases world.protectedDigest m.disk with
    | error e => rfl
    | ok now => rfl

/-! ## One round -/

/-- The disk is as the patch left it, as far as scans compare it, and a request can be prepared. -/
structure Steady (world : World σ) (base : Baseline) (s : σ) : Prop where
  source : world.sourceDigest s = .ok base.repoDigest
  protectedPaths : ∃ now, world.protectedDigest s = .ok now ∧
    changedProtectedPaths base.protectedBefore now = []
  copy : ∃ digest, world.copyDigest s = .ok digest
  workspace : world.validateWorkspace s = .ok ()
  mount : ∃ prepared, world.prepareMount s = .ok prepared

variable {base : Baseline} {scans : Scans}

/-- What the scans after a round compare. -/
def Unchanged (base : Baseline) (changed : List String) (source : String)
    (result : RepoPatchCommandResult) : Prop :=
  changed = [] ∧ source = base.repoDigest ∧ result.workspaceDigestAfter = base.patchedCleanDigest ∧
    result.workspaceDigestBefore = base.patchedCleanDigest

section Scans

variable {changed : List String} {source : String} {result : RepoPatchCommandResult}

section

variable (hpatched : base.patchedCleanDigest ≠ "")
include hpatched

lemma matches_eq_true_iff :
    workspaceMatches base.patchedCleanDigest result = true ↔
      result.workspaceDigestAfter = base.patchedCleanDigest ∧
        result.workspaceDigestBefore = base.patchedCleanDigest := by
  unfold workspaceMatches
  simp only [Bool.and_eq_true, bne_iff_ne, beq_iff_eq, hpatched, not_false_eq_true, ne_eq, true_and]

lemma quiet_after_iff (hquiet : scans.Quiet base) :
    Scans.Quiet base ⟨scans.tamperedPaths ++ changed, scans.sourceIntegrityScans ++ [source],
        scans.matched ++ [workspaceMatches base.patchedCleanDigest result]⟩ ↔
      Unchanged base changed source result := by
  obtain ⟨⟨htampered, hsources⟩, hmatched⟩ := hquiet
  have hmatches : workspaceMatches base.patchedCleanDigest result = true ↔ _ :=
    matches_eq_true_iff hpatched
  unfold Scans.Quiet Scans.Unchanged Unchanged
  simp only [htampered, List.nil_append, List.mem_append, List.mem_singleton, or_imp, forall_and,
    forall_eq, hmatched, false_or, eq_comm (a := false), Bool.not_eq_false, hmatches, and_assoc]
  constructor
  · intro h
    exact ⟨h.1, h.2.2⟩
  · intro h
    exact ⟨h.1, hsources, h.2⟩

lemma stops_after_iff (hquiet : scans.Quiet base) :
    Scans.Stops base ⟨scans.tamperedPaths ++ changed, scans.sourceIntegrityScans ++ [source],
        scans.matched ++ [workspaceMatches base.patchedCleanDigest result]⟩ ↔
      ¬Unchanged base changed source result := by
  obtain ⟨⟨htampered, -⟩, hmatched⟩ := hquiet
  have hmatches : workspaceMatches base.patchedCleanDigest result = true ↔ _ :=
    matches_eq_true_iff hpatched
  unfold Scans.Stops Unchanged
  simp only [htampered, List.nil_append, List.getLast?_concat, ne_eq, Option.some.injEq,
    List.mem_append, List.mem_singleton, hmatched, false_or, eq_comm (a := false), not_and_or]
  rw [← Bool.not_eq_true, hmatches, not_and_or]

end

/-- A request touches nothing exactly when the scans after it find everything unchanged. -/
lemma untouched_iff {e : Sent σ} {now : Dict String String} {digests : String × String}
    (hsteady : Steady world base e.before) (hsource : world.sourceDigest e.after = .ok source)
    (hnow : world.protectedDigest e.after = .ok now)
    (htransition : world.transition e = .ok digests) (code : ℤ) (codes : List ℤ) :
    Untouched world base.patchedCleanDigest e ↔
      Unchanged base (changedProtectedPaths base.protectedBefore now) source
        ⟨code, codes, digests.1, digests.2⟩ := by
  obtain ⟨before, hbefore, hsame⟩ := hsteady.protectedPaths
  constructor
  · intro h
    obtain ⟨before', now', hbefore', hnow', hspared⟩ := h.spares.protectedPaths
    obtain rfl := Except.ok.inj (hbefore.symm.trans hbefore')
    obtain rfl := Except.ok.inj (hnow.symm.trans hnow')
    have hcopy := Except.ok.inj (htransition.symm.trans h.copy)
    have hrepo := (hsource.symm.trans h.spares.source).trans hsteady.source
    refine ⟨?_, Except.ok.inj hrepo, congrArg Prod.snd hcopy, congrArg Prod.fst hcopy⟩
    rw [changedProtectedPaths_eq_nil_iff] at *
    intro path
    rw [hsame path, hspared path]
  · rintro ⟨hchanged, hrepo, hafter, hbefore'⟩
    refine ⟨⟨?_, before, now, hbefore, hnow, changedProtectedPaths_trans hsame hchanged⟩, ?_⟩
    · rw [hsource, hsteady.source, hrepo]
    · rw [htransition]
      exact congrArg Except.ok (Prod.ext hbefore' hafter)

end Scans

/-- What one round of a loop does with a command that has a request. -/
inductive Round (world : World σ) (fixture : RepoPatchFixture) (base : Baseline)
    (commands : List RepoPatchCommand) (m : Machine σ) (e : Sent σ)
    (outcome : Except EvaluationError (List RepoPatchCommandResult × Scans) × Machine σ) : Prop
  /-- The loop goes on. -/
  | goesOn (result : RepoPatchCommandResult) (scans : Scans)
      (untouched : Untouched world base.patchedCleanDigest e) (quiet : scans.Quiet base)
      (steady : Steady world base e.after)
      (eq : outcome =
        ((runCommands world fixture base commands scans ⟨e.after, m.sent ++ [e]⟩).1.map
            fun rest => (result :: rest.1, rest.2),
          (runCommands world fixture base commands scans ⟨e.after, m.sent ++ [e]⟩).2))
  /-- The loop ends. -/
  | ends (touched : ¬Untouched world base.patchedCleanDigest e)
      (sent : outcome.2 = ⟨e.after, m.sent ++ [e]⟩)
      (noticed : ∀ results, outcome.1 = .ok results → ¬results.2.Quiet base)

theorem round_of_ok (commands : List RepoPatchCommand) (hkeeps : world.KeepsMount)
    (hpatched : base.patchedCleanDigest ≠ "") (hsteady : Steady world base m.disk)
    (hquiet : scans.Quiet base) (hrequest : requestOf fixture command = .ok request) :
    ∃ e : Sent σ, e.line = request.line command.expectedExitCodes ∧
      Round world fixture base commands m e
        (runCommands world fixture base (command :: commands) scans m) := by
  obtain ⟨before, hbefore⟩ := hsteady.copy
  obtain ⟨prepared, hmount⟩ := hsteady.mount
  obtain ⟨protectedBefore, hprotected, hsame⟩ := hsteady.protectedPaths
  have hrun := runCommand_of_ok hrequest hsteady.workspace hbefore hmount
  refine ⟨sentOn world request command.expectedExitCodes m.disk prepared, rfl, ?_⟩
  generalize he : sentOn world request command.expectedExitCodes m.disk prepared = e at hrun ⊢
  have hdisk : (world.run request prepared).2 = e.after := by rw [← he]; rfl
  have hstart : e.before = m.disk := by rw [← he]; rfl
  rw [hdisk] at hrun
  have hloop : runCommands world fixture base (command :: commands) scans m =
      Stateful.andThen (runCommand world fixture command) (fun result => do
        let scans ← scanAfter world base.protectedBefore
          { scans with
            matched := scans.matched ++ [workspaceMatches base.patchedCleanDigest result] }
        if scans.Stops base then
          return ([result], scans)
        let rest ← runCommands world fixture base commands scans
        return (result :: rest.1, rest.2)) m := rfl
  rw [hloop, Stateful.andThen, hrun]
  cases htransition : world.transition e with
  | error e' =>
    refine .ends (fun h => ?_) rfl fun results hresults => ?_
    · rw [h.copy] at htransition
      cases htransition
    · cases hresults
  | ok digests =>
    show Round world fixture base commands m e (Stateful.andThen _ _ _)
    rw [Stateful.andThen, scanAfter_apply]
    cases hsource : world.sourceDigest e.after with
    | error e' =>
      refine .ends (fun h => ?_) rfl fun results hresults => ?_
      · rw [h.spares.source, hstart, hsteady.source] at hsource
        cases hsource
      · cases hresults
    | ok source =>
      cases hnow : world.protectedDigest e.after with
      | error e' =>
        refine .ends (fun h => ?_) rfl fun results hresults => ?_
        · obtain ⟨-, now, -, hafter, -⟩ := h.spares.protectedPaths
          rw [hnow] at hafter
          cases hafter
        · cases hresults
      | ok now =>
        let result : RepoPatchCommandResult :=
          ⟨exitCodeOf (world.run request prepared).1, command.expectedExitCodes, digests.1,
            digests.2⟩
        let scans' : Scans :=
          ⟨scans.tamperedPaths ++ changedProtectedPaths base.protectedBefore now,
            scans.sourceIntegrityScans ++ [source],
            scans.matched ++ [workspaceMatches base.patchedCleanDigest result]⟩
        have huntouched : Untouched world base.patchedCleanDigest e ↔
            Unchanged base (changedProtectedPaths base.protectedBefore now) source result :=
          untouched_iff (hstart ▸ hsteady) hsource hnow htransition _ _
        have hquiet' : scans'.Quiet base ↔ _ := quiet_after_iff hpatched hquiet
        have hstops' : scans'.Stops base ↔ _ := stops_after_iff hpatched hquiet
        show Round world fixture base commands m e
          ((if scans'.Stops base then pure ([result], scans')
            else runCommands world fixture base commands scans' >>= fun rest =>
              pure (result :: rest.1, rest.2)) ⟨e.after, m.sent ++ [e]⟩)
        by_cases hunchanged :
            Unchanged base (changedProtectedPaths base.protectedBefore now) source result
        · rw [if_neg (mt hstops'.mp (not_not.mpr hunchanged))]
          refine .goesOn result scans' (huntouched.mpr hunchanged) (hquiet'.mpr hunchanged) ?_ ?_
          · refine ⟨?_, ⟨now, hnow, hunchanged.1⟩, ?_, ?_, ?_⟩
            · rw [hsource, hunchanged.2.1]
            · obtain ⟨digest, -, hdigest⟩ := bind_eq_ok_iff.mp htransition
              obtain ⟨after, hafter, -⟩ := bind_eq_ok_iff.mp hdigest
              exact ⟨after, hafter⟩
            · rw [← hdisk]
              exact hkeeps.workspace request m.disk prepared hmount hsteady.workspace
            · rw [← hdisk]
              exact hkeeps.mount request m.disk prepared hmount
          · exact Stateful.map_apply _ _ _
        · rw [if_pos (hstops'.mpr hunchanged)]
          refine .ends (mt huntouched.mp hunchanged) rfl fun results hresults => ?_
          obtain rfl := Except.ok.inj hresults
          exact mt hquiet'.mp hunchanged

/-! ## Loops -/

/-- The request for a command, if there is one. -/
def requestLine (fixture : RepoPatchFixture) (command : RepoPatchCommand) : Option CommandLine :=
  (requestOf fixture command).toOption.map fun request => request.line command.expectedExitCodes

lemma requestLine_of_ok (h : requestOf fixture command = .ok request) :
    requestLine fixture command = some (request.line command.expectedExitCodes) := by
  unfold requestLine
  rw [h]
  rfl

lemma requestLine_of_error (h : requestOf fixture command = .error e) :
    requestLine fixture command = none := by
  unfold requestLine
  rw [h]
  rfl

/-- What a loop over commands does. -/
inductive Loop (world : World σ) (fixture : RepoPatchFixture) (base : Baseline)
    (commands : List RepoPatchCommand) (m : Machine σ)
    (outcome : Except EvaluationError (List RepoPatchCommandResult × Scans) × Machine σ) : Prop
  /-- Every command was sent, and none has touched anything. -/
  | through (results : List RepoPatchCommandResult) (scans : Scans) (sent : List (Sent σ))
      (ok : outcome.1 = .ok (results, scans)) (length : results.length = commands.length)
      (quiet : scans.Quiet base) (steady : Steady world base outcome.2.disk)
      (sent_eq : outcome.2.sent = m.sent ++ sent)
      (lines : commands.map (requestLine fixture) = sent.map fun e => some e.line)
      (untouched : ∀ e ∈ sent, Untouched world base.patchedCleanDigest e)
  /-- A first part was sent, until a command had no request or had touched something. -/
  | stopped (done rest : List RepoPatchCommand) (sent : List (Sent σ))
      (split : commands = done ++ rest) (sent_eq : outcome.2.sent = m.sent ++ sent)
      (lines : done.map (requestLine fixture) = sent.map fun e => some e.line)
      (noticed : ∀ results, outcome.1 = .ok results → ¬results.2.Quiet base)
      (reason : (∃ command ∈ rest, requestLine fixture command = none) ∨
        ∃ e ∈ sent, ¬Untouched world base.patchedCleanDigest e)

section

variable (hkeeps : world.KeepsMount) (hpatched : base.patchedCleanDigest ≠ "")
  (hsteady : Steady world base m.disk) (hquiet : scans.Quiet base)
include hkeeps hpatched hsteady hquiet

theorem runCommands_loop {commands : List RepoPatchCommand} :
    Loop world fixture base commands m (runCommands world fixture base commands scans m) := by
  induction commands generalizing scans m with
  | nil =>
    exact .through [] scans [] rfl rfl hquiet hsteady (List.append_nil _).symm rfl
      fun e he => absurd he List.not_mem_nil
  | cons command commands ih =>
    cases hrequest : requestOf fixture command with
    | error e =>
      have hrun : runCommand world fixture command m = (.error e, m) := runCommand_of_error hrequest
      have hloop : runCommands world fixture base (command :: commands) scans m =
          (.error e, m) :=
        (Stateful.bind_of_error (by rw [hrun])).trans (by rw [hrun])
      rw [hloop]
      exact .stopped [] (command :: commands) [] rfl (List.append_nil _).symm rfl
        (fun results hresults => by cases hresults)
        (Or.inl ⟨command, List.mem_cons_self, requestLine_of_error hrequest⟩)
    | ok request =>
      have hline := requestLine_of_ok hrequest
      obtain ⟨e, he, hround⟩ := round_of_ok commands hkeeps hpatched hsteady hquiet hrequest
      cases hround with
      | ends touched sent noticed =>
        refine .stopped [command] commands [e] rfl ?_ ?_ noticed
          (Or.inr ⟨e, List.mem_singleton_self e, touched⟩)
        · rw [sent]
        · rw [List.map_singleton, List.map_singleton, hline, he]
      | goesOn result scans' untouched quiet steady eq =>
        rw [eq]
        cases ih (m := ⟨e.after, m.sent ++ [e]⟩) steady quiet with
        | through results scans'' sent ok length quiet' steady' sent_eq lines untouched' =>
          refine .through (result :: results) scans'' (e :: sent) ?_ ?_ quiet' steady' ?_ ?_ ?_
          · rw [ok]
            rfl
          · rw [List.length_cons, List.length_cons, length]
          · rw [sent_eq, List.append_assoc, List.singleton_append]
          · rw [List.map_cons, List.map_cons, lines, hline, he]
          · exact List.forall_mem_cons.mpr ⟨untouched, untouched'⟩
        | stopped done rest sent split sent_eq lines noticed reason =>
          refine .stopped (command :: done) rest (e :: sent) ?_ ?_ ?_ ?_ ?_
          · rw [split, List.cons_append]
          · rw [sent_eq, List.append_assoc, List.singleton_append]
          · rw [List.map_cons, List.map_cons, lines, hline, he]
          · intro results hresults
            obtain ⟨rest', hrest', rfl⟩ := map_eq_ok_iff.mp hresults
            exact noticed rest' hrest'
          · exact reason.imp_right fun ⟨e', he', htouched⟩ =>
              ⟨e', List.mem_cons_of_mem e he', htouched⟩

/-- The two loops of an evaluation are one loop over all commands. -/
theorem runChecks_loop :
    Loop world fixture base fixture.commands m (runChecks world fixture base scans m) := by
  have hchecks : runChecks world fixture base scans m =
      Stateful.andThen (runCommands world fixture base fixture.publicTestCommands scans)
        (fun checks =>
          if checks.1.length = fixture.publicTestCommands.length ∧ checks.2.Quiet base then
            runCommands world fixture base fixture.sealedTestCommands checks.2 >>=
              fun sealedChecks => pure (checks.1 ++ sealedChecks.1, sealedChecks.2)
          else pure checks) m := by
    unfold runChecks
    rw [if_pos hquiet.1]
    rfl
  have hpublic : Loop world fixture base fixture.publicTestCommands m _ :=
    runCommands_loop hkeeps hpatched hsteady hquiet
  rw [hchecks, Stateful.andThen]
  generalize runCommands world fixture base fixture.publicTestCommands scans m = outcome at hpublic
  obtain ⟨result, m'⟩ := outcome
  cases hpublic with
  | stopped done rest sent split sent_eq lines noticed reason =>
    have hsplit : fixture.commands = done ++ (rest ++ fixture.sealedTestCommands) := by
      rw [RepoPatchFixture.commands, split, List.append_assoc]
    have hunread (h : ∃ command ∈ rest, requestLine fixture command = none) :
        ∃ command ∈ rest ++ fixture.sealedTestCommands, requestLine fixture command = none := by
      obtain ⟨command, hcommand, hnone⟩ := h
      exact ⟨command, List.mem_append_left _ hcommand, hnone⟩
    have hreason := reason.imp_left hunread
    cases result with
    | error e =>
      exact .stopped done _ sent hsplit sent_eq lines (fun _ h => by cases h) hreason
    | ok checks =>
      have hnot := noticed checks rfl
      show Loop world fixture base fixture.commands m
        ((if checks.1.length = fixture.publicTestCommands.length ∧ checks.2.Quiet base then _
          else pure checks : Stateful (Machine σ) EvaluationError _) m')
      rw [if_neg fun h => hnot h.2]
      exact .stopped done _ sent hsplit sent_eq lines noticed hreason
  | through results scans' sent ok length quiet steady sent_eq lines untouched =>
    obtain rfl : result = .ok (results, scans') := ok
    show Loop world fixture base fixture.commands m
      ((if results.length = fixture.publicTestCommands.length ∧ scans'.Quiet base then
          runCommands world fixture base fixture.sealedTestCommands scans' >>= fun sealedChecks =>
            pure (results ++ sealedChecks.1, sealedChecks.2)
        else pure (results, scans')) m')
    have hsealed : Loop world fixture base fixture.sealedTestCommands m' _ :=
      runCommands_loop hkeeps hpatched steady quiet
    rw [if_pos ⟨length, quiet⟩, ← map_eq_pure_bind, Stateful.map_apply]
    generalize runCommands world fixture base fixture.sealedTestCommands scans' m' = outcome
      at hsealed
    cases hsealed with
    | stopped done rest sent' split sent_eq' lines' noticed reason =>
      refine .stopped (fixture.publicTestCommands ++ done) rest (sent ++ sent') ?_ ?_ ?_ ?_ ?_
      · rw [RepoPatchFixture.commands, split, List.append_assoc]
      · rw [sent_eq', sent_eq, List.append_assoc]
      · rw [List.map_append, List.map_append, lines, lines']
      · intro out hout
        obtain ⟨rest', hrest', rfl⟩ := map_eq_ok_iff.mp hout
        exact noticed rest' hrest'
      · rcases reason with hunread | ⟨e, he, htouched⟩
        · exact .inl hunread
        · exact .inr ⟨e, List.mem_append_right sent he, htouched⟩
    | through results' scans'' sent' ok' length' quiet' steady' sent_eq' lines' untouched' =>
      refine .through (results ++ results') scans'' (sent ++ sent') ?_ ?_ quiet' steady' ?_ ?_ ?_
      · rw [ok']
        rfl
      · rw [List.length_append, length, length', RepoPatchFixture.commands, List.length_append]
      · rw [sent_eq', sent_eq, List.append_assoc]
      · rw [RepoPatchFixture.commands, List.map_append, List.map_append, lines, lines']
      · exact List.forall_mem_append.mpr ⟨untouched, untouched'⟩

end

/-! ## The patch -/

variable {backend : CommandBackend}

/-- What the attempt to apply the patch does. -/
inductive Attempt (world : World σ) (backend : CommandBackend) (fixture : RepoPatchFixture)
    (m : Machine σ) (outcome : Except EvaluationError RepoPatchCommandResult × Machine σ) : Prop
  /-- Nothing is sent, and the patch is not applied. -/
  | unsent (result : RepoPatchCommandResult) (ok : outcome.1 = .ok result)
      (code : result.exitCode ≠ 0) (sent_eq : outcome.2.sent = m.sent)
  /-- A request is sent, after which the copy can be read or not. -/
  | sent (e : Sent σ) (line : e.line = applyLine backend fixture)
      (timeout : fixture.timeoutS ≤ 3600)
      (source : world.sourceDigest e.before = world.sourceDigest m.disk)
      (protectedPaths : world.protectedDigest e.before = world.protectedDigest m.disk)
      (after : outcome.2 = ⟨e.after, m.sent ++ [e]⟩)
      (workspace : world.validateWorkspace e.after = .ok ())
      (mount : ∃ prepared, world.prepareMount e.after = .ok prepared)
      (result : (∀ digests, world.transition e ≠ .ok digests) ∧ outcome.1 = .ok failedResult ∨
        ∃ digests, world.transition e = .ok digests ∧
          outcome.1 = .ok ⟨exitCodeOf e.result, [0], digests.1, digests.2⟩)

lemma makeRequest_line (h : makeRequest (applyLine backend fixture) = .ok request) :
    request.line [0] = applyLine backend fixture ∧ fixture.timeoutS ≤ 3600 := by
  by_cases htimeout : fixture.timeoutS ≤ 3600
  · rw [makeRequest_applyLine htimeout] at h
    obtain rfl := Except.ok.inj h
    exact ⟨rfl, htimeout⟩
  · obtain ⟨e, he⟩ : ∃ e, makeRequest (applyLine backend fixture) = .error e :=
      makeRequest_applyLine_of_lt (not_le.mp htimeout)
    rw [he] at h
    cases h

section

variable (hrequest : makeRequest line = .ok request)
include hrequest

lemma execute_of_unaccepted
    (hworkspace : world.validateWorkspace m.disk = .error e) :
    execute world line m = (.error e, m) := by
  unfold execute
  rw [Stateful.check_bind_of_ok hrequest, Stateful.get_bind_apply,
    Stateful.check_bind_of_error hworkspace]

lemma execute_of_unreadable
    (hworkspace : world.validateWorkspace m.disk = .ok ())
    (hbefore : world.copyDigest m.disk = .error e) : execute world line m = (.error e, m) := by
  unfold execute
  rw [Stateful.check_bind_of_ok hrequest, Stateful.get_bind_apply,
    Stateful.check_bind_of_ok hworkspace, Stateful.check_bind_of_error hbefore]

/-- A request that cannot be prepared fails and is not sent. -/
lemma execute_of_unprepared
    (hworkspace : world.validateWorkspace m.disk = .ok ())
    (hbefore : world.copyDigest m.disk = .ok before)
    (hmount : world.prepareMount m.disk = .error e) :
    ∃ result, execute world line m = (.ok result, m) ∧ result.exitCode ≠ 0 := by
  have hlaunch : launch world request line.expectedExitCodes m.disk m =
      (.ok launchFailed.code, m) := by
    unfold launch
    rw [hmount]
  unfold execute
  rw [Stateful.check_bind_of_ok hrequest, Stateful.get_bind_apply,
    Stateful.check_bind_of_ok hworkspace, Stateful.check_bind_of_ok hbefore, Stateful.bind_apply,
    Stateful.andThen, hlaunch]
  refine ⟨_, Stateful.check_bind_of_ok hbefore, ?_⟩
  show launchFailed.code ≠ 0
  decide

end

/-- The attempt, once the candidate is written. -/
lemma applyCandidatePatch_of_written {written : σ}
    (h : world.writeCandidate m.disk = .ok written) :
    applyCandidatePatch world backend fixture m =
      Stateful.recover (execute world (applyLine backend fixture)) (fun _ => failedResult)
        (setDisk written m) := by
  have hstart : (do
      let m ← Stateful.get
      let written ← Stateful.check (world.writeCandidate m.disk)
      Stateful.modify (setDisk written)
      execute world (applyLine backend fixture) : Stateful (Machine σ) EvaluationError _) m =
        execute world (applyLine backend fixture) (setDisk written m) := by
    rw [Stateful.get_bind_apply, Stateful.check_bind_of_ok h]
    rfl
  unfold applyCandidatePatch Stateful.recover
  rw [hstart]

theorem applyCandidatePatch_attempt (hkeeps : world.KeepsMount) :
    Attempt world backend fixture m (applyCandidatePatch world backend fixture m) := by
  have hfailed : failedResult.exitCode ≠ 0 := by decide
  cases hwritten : world.writeCandidate m.disk with
  | error e =>
    have hraise : (do
        let m ← Stateful.get
        let written ← Stateful.check (world.writeCandidate m.disk)
        Stateful.modify (setDisk written)
        execute world (applyLine backend fixture) : Stateful (Machine σ) EvaluationError _) m =
          (.error e, m) := by
      rw [Stateful.get_bind_apply, Stateful.check_bind_of_error hwritten]
    unfold applyCandidatePatch
    rw [Stateful.recover_of_error hraise]
    exact .unsent failedResult rfl hfailed rfl
  | ok written =>
    have hsource := world.writeCandidate_source m.disk written hwritten
    have hprotected := world.writeCandidate_protected m.disk written hwritten
    rw [applyCandidatePatch_of_written hwritten]
    cases hrequest : makeRequest (applyLine backend fixture) with
    | error e =>
      rw [Stateful.recover_of_error (execute_of_error hrequest)]
      exact .unsent failedResult rfl hfailed rfl
    | ok request =>
      cases hworkspace : world.validateWorkspace written with
      | error e =>
        rw [Stateful.recover_of_error (execute_of_unaccepted hrequest hworkspace)]
        exact .unsent failedResult rfl hfailed rfl
      | ok u =>
        cases hbefore : world.copyDigest written with
        | error e =>
          rw [Stateful.recover_of_error (execute_of_unreadable hrequest hworkspace hbefore)]
          exact .unsent failedResult rfl hfailed rfl
        | ok before =>
          cases hmount : world.prepareMount written with
          | error e =>
            obtain ⟨result, hresult, hcode⟩ :=
              execute_of_unprepared (m := setDisk written m) hrequest hworkspace hbefore hmount
            rw [Stateful.recover_of_ok hresult]
            exact .unsent result rfl hcode rfl
          | ok prepared =>
            have hexecute :=
              execute_of_ok (m := setDisk written m) hrequest hworkspace hbefore hmount
            generalize he : sentOn world request (applyLine backend fixture).expectedExitCodes
              (setDisk written m).disk prepared = e at hexecute
            have hline : e.line = applyLine backend fixture := by
              rw [← he]
              exact (makeRequest_line hrequest).1
            have hafter : (world.run request prepared).2 = e.after := by rw [← he]; rfl
            have hstart : e.before = written := by rw [← he]; rfl
            have hresult : e.result = (world.run request prepared).1 := by rw [← he]; rfl
            rw [hafter, ← hresult] at hexecute
            have hworkspace' : world.validateWorkspace e.after = .ok () := by
              rw [← hafter]
              exact hkeeps.workspace request written prepared hmount hworkspace
            have hmount' : ∃ t, world.prepareMount e.after = .ok t := by
              rw [← hafter]
              exact hkeeps.mount request written prepared hmount
            rw [← hstart] at hsource hprotected
            cases htransition : world.transition e with
            | error e' =>
              rw [htransition] at hexecute
              rw [Stateful.recover_of_error hexecute]
              refine .sent e hline (makeRequest_line hrequest).2 hsource hprotected rfl hworkspace'
                hmount' (Or.inl ⟨?_, rfl⟩)
              intro digests hdigests
              rw [htransition] at hdigests
              cases hdigests
            | ok digests =>
              rw [htransition] at hexecute
              rw [Stateful.recover_of_ok hexecute]
              exact .sent e hline (makeRequest_line hrequest).2 hsource hprotected rfl hworkspace'
                hmount' (Or.inr ⟨digests, htransition, rfl⟩)

/-! ## The whole run -/

lemma transition_ne {e : Sent σ} {digests : String × String}
    (h : world.transition e = .ok digests) : digests.2 ≠ "" := by
  unfold World.transition at h
  obtain ⟨before, -, h⟩ := bind_eq_ok_iff.mp h
  obtain ⟨after, hafter, h⟩ := bind_eq_ok_iff.mp h
  obtain rfl := Except.ok.inj h
  have hne : after ≠ "" := by
    rintro rfl
    exact world.copyDigest_ne _ hafter
  unfold authoritativeWorkspaceTransition
  cases hfull : fullTransition (world.lastWorkspaceTransition e.after) with
  | none => exact hne
  | some t =>
    unfold fullTransition at hfull
    rw [Option.filter_eq_some_iff] at hfull
    simp only [Bool.and_eq_true, bne_iff_ne] at hfull
    show (if t.source = "replay_manifest" then (t.before, t.after) else (before, after)).2 ≠ ""
    split
    · exact hfull.2.1.2
    · exact hne

/-- What is sent once the patch was: the requests of a first part of the commands, which ends early
only where a command has no request or something was disturbed. -/
inductive Checked (world : World σ) (fixture : RepoPatchFixture) (patch : Sent σ) :
    List (Sent σ) → Prop
  | intro (checks : List (Sent σ)) (done rest : List RepoPatchCommand)
      (split : fixture.commands = done ++ rest)
      (lines : done.map (requestLine fixture) = checks.map fun e => some e.line)
      (reason : rest = [] ∨ (∃ command ∈ rest, requestLine fixture command = none) ∨
        ¬Undisturbed world patch checks) : Checked world fixture patch (patch :: checks)

lemma Checked.undone {patch : Sent σ} (h : ¬Undisturbed world patch []) :
    Checked world fixture patch [patch] :=
  .intro [] [] fixture.commands rfl rfl (Or.inr (Or.inr h))

/-- What an evaluation sends: nothing, or the patch and then the commands. -/
inductive Course (world : World σ) (backend : CommandBackend) (fixture : RepoPatchFixture) :
    List (Sent σ) → Prop
  | nothing : Course world backend fixture []
  | patched (patch : Sent σ) (sent : List (Sent σ)) (line : patch.line = applyLine backend fixture)
      (timeout : fixture.timeoutS ≤ 3600) (checked : Checked world fixture patch sent) :
      Course world backend fixture sent

/-- The scans of the patch. -/
def patchScans (repoDigest source : String) (protectedBefore now : Dict String String)
    (matched : List Bool) : Scans :=
  ⟨[] ++ changedProtectedPaths protectedBefore now, [repoDigest] ++ [source], matched⟩

section Phases

variable {result : RepoPatchCommandResult} {repoDigest source : String}
  {protectedBefore now : Dict String String}

lemma runPhases_of_unscanned {e : EvaluationError}
    (h : world.sourceDigest m.disk = .error e ∨ world.protectedDigest m.disk = .error e) :
    (runPhases world fixture repoDigest protectedBefore result m).2 = m := by
  unfold runPhases
  rw [Stateful.bind_apply, Stateful.andThen, scanAfter_apply]
  cases hsource : world.sourceDigest m.disk with
  | error e => rfl
  | ok source =>
    have hnow := h.resolve_left (by rw [hsource]; exact fun h => (by cases h))
    rw [hnow]
    rfl

/-- After a patch that was not applied nothing is sent. -/
lemma runPhases_of_failed (h : result.exitCode ≠ 0) :
    (runPhases world fixture repoDigest protectedBefore result m).2 = m := by
  cases hsource : world.sourceDigest m.disk with
  | error e => exact runPhases_of_unscanned (Or.inl hsource)
  | ok source =>
    cases hnow : world.protectedDigest m.disk with
    | error e => exact runPhases_of_unscanned (Or.inr hnow)
    | ok now =>
      unfold runPhases
      rw [Stateful.bind_apply, Stateful.andThen, scanAfter_apply, hsource, hnow]
      simp only [ok_bind, pure_eq_ok, if_neg h]
      rfl

/-- After a patch that was applied the commands are run against what it has left. -/
lemma runPhases_of_applied (hsource : world.sourceDigest m.disk = .ok source)
    (hnow : world.protectedDigest m.disk = .ok now) (h : result.exitCode = 0)
    (hpatched : result.workspaceDigestAfter ≠ "") :
    (runPhases world fixture repoDigest protectedBefore result m).2 =
      (runChecks world fixture ⟨repoDigest, protectedBefore, result.workspaceDigestAfter⟩
        (patchScans repoDigest source protectedBefore now [true]) m).2 := by
  have hmatched : (result.workspaceDigestAfter != "" &&
      result.workspaceDigestAfter == result.workspaceDigestAfter) = true := by
    rw [bne_iff_ne.mpr hpatched, beq_self_eq_true]
    rfl
  unfold runPhases
  rw [Stateful.bind_apply, Stateful.andThen, scanAfter_apply, hsource, hnow]
  simp only [ok_bind, pure_eq_ok, if_pos h, if_neg hpatched]
  rw [Stateful.get_bind_apply, pure_bind, hmatched, ← map_eq_pure_bind, Stateful.map_apply]
  rfl

lemma quiet_patchScans_iff {patched : String} :
    (patchScans repoDigest source protectedBefore now [true]).Quiet
        ⟨repoDigest, protectedBefore, patched⟩ ↔
      changedProtectedPaths protectedBefore now = [] ∧ source = repoDigest := by
  unfold Scans.Quiet Scans.Unchanged patchScans
  simp

/-- Without a quiet start no command is run. -/
lemma runChecks_of_not_quiet (h : ¬(scans.Unchanged base.repoDigest)) :
    (runChecks world fixture base scans m).2 = m := by
  unfold runChecks
  rw [if_neg h, pure_bind]
  beta_reduce
  rw [if_neg fun hquiet => h hquiet.2.1]
  rfl

end Phases

theorem runPhases_checked {e : Sent σ} {result : RepoPatchCommandResult} {repoDigest : String}
    {protectedBefore : Dict String String} (hkeeps : world.KeepsMount)
    (hsource : world.sourceDigest e.before = .ok repoDigest)
    (hprotected : world.protectedDigest e.before = .ok protectedBefore)
    (hworkspace : world.validateWorkspace e.after = .ok ())
    (hmount : ∃ prepared, world.prepareMount e.after = .ok prepared)
    (hresult : (∀ digests, world.transition e ≠ .ok digests) ∧ result = failedResult ∨
      ∃ digests, world.transition e = .ok digests ∧
        result = ⟨exitCodeOf e.result, [0], digests.1, digests.2⟩) :
    Checked world fixture e
      (runPhases world fixture repoDigest protectedBefore result ⟨e.after, [e]⟩).2.sent := by
  cases hafter : world.sourceDigest e.after with
  | error error =>
    rw [runPhases_of_unscanned (Or.inl hafter)]
    refine .undone fun h => ?_
    rw [h.spares.source, hsource] at hafter
    cases hafter
  | ok source =>
    cases hnow : world.protectedDigest e.after with
    | error error =>
      rw [runPhases_of_unscanned (Or.inr hnow)]
      refine .undone fun h => ?_
      obtain ⟨-, now, -, hnow', -⟩ := h.spares.protectedPaths
      rw [hnow'] at hnow
      cases hnow
    | ok now =>
      rcases hresult with ⟨htransition, rfl⟩ | ⟨digests, htransition, rfl⟩
      · rw [runPhases_of_failed (by decide)]
        refine .undone fun h => ?_
        obtain ⟨before, patched, hcopy, -⟩ := h.copy
        exact htransition _ hcopy
      · by_cases hcode : exitCodeOf e.result = 0
        · rw [runPhases_of_applied hafter hnow hcode (transition_ne htransition)]
          by_cases hquiet : changedProtectedPaths protectedBefore now = [] ∧ source = repoDigest
          · obtain ⟨hchanged, rfl⟩ := hquiet
            have hcopy : ∃ digest, world.copyDigest e.after = .ok digest := by
              obtain ⟨digest, -, hdigest⟩ := bind_eq_ok_iff.mp htransition
              obtain ⟨after, hafter, -⟩ := bind_eq_ok_iff.mp hdigest
              exact ⟨after, hafter⟩
            have hsteady : Steady world ⟨source, protectedBefore, digests.2⟩ e.after :=
              ⟨hafter, ⟨now, hnow, hchanged⟩, hcopy, hworkspace, hmount⟩
            have hloop : Loop world fixture _ fixture.commands ⟨e.after, [e]⟩ _ :=
              runChecks_loop hkeeps (transition_ne htransition) hsteady
                (quiet_patchScans_iff.mpr ⟨hchanged, rfl⟩)
            cases hloop with
            | through results scans checks ok length quiet steady sent_eq lines untouched =>
              rw [sent_eq]
              exact .intro checks fixture.commands [] (List.append_nil _).symm lines (Or.inl rfl)
            | stopped done rest checks split sent_eq lines noticed reason =>
              rw [sent_eq]
              refine .intro checks done rest split lines (Or.inr (reason.imp_right ?_))
              rintro ⟨check, hcheck, htouched⟩ h
              obtain ⟨before, patched, hcopy, hchecks⟩ := h.copy
              obtain rfl := Except.ok.inj (htransition.symm.trans hcopy)
              exact htouched (hchecks check hcheck)
          · rw [runChecks_of_not_quiet fun h =>
              hquiet (quiet_patchScans_iff.mp ⟨h, by simp [patchScans]⟩)]
            refine .undone fun h => hquiet ?_
            obtain ⟨before, now', hbefore, hnow', hspared⟩ := h.spares.protectedPaths
            obtain rfl := Except.ok.inj (hprotected.symm.trans hbefore)
            obtain rfl := Except.ok.inj (hnow.symm.trans hnow')
            have hrepo := (hafter.symm.trans h.spares.source).trans hsource
            exact ⟨hspared, Except.ok.inj hrepo⟩
        · rw [runPhases_of_failed hcode]
          exact .undone fun h => hcode h.applies

/-- What is known of the disk when the patch is tried. -/
structure Prepared (world : World σ) (m : Machine σ)
    (start : String × Dict String String × Bool) : Prop where
  unsent : m.sent = []
  source : world.sourceDigest m.disk = .ok start.1
  protectedPaths : world.protectedDigest m.disk = .ok start.2.1

lemma prepareCopy_sat (world : World σ) (fixture : RepoPatchFixture) :
    Stateful.Sat (fun m : Machine σ => m.sent = []) (prepareCopy world fixture)
      (fun start m => Prepared world m start) fun _ m => m.sent = [] := by
  have hcheck {α : Type} (x : Except EvaluationError α) :
      Stateful.Sat (fun m : Machine σ => m.sent = []) (Stateful.check x) (fun _ m => m.sent = [])
        fun _ m => m.sent = [] :=
    Stateful.Sat.check (fun _ _ _ hm => hm) fun _ _ _ hm => hm
  unfold prepareCopy
  refine (hcheck _).bind fun _ => (hcheck _).bind fun _ => Stateful.Sat.get_bind fun m hm => ?_
  intro m' hm'
  subst hm'
  cases hrepo : world.sourceDigest m'.disk with
  | error e =>
    rw [Stateful.check_bind_of_error rfl]
    exact hm
  | ok repoDigest =>
    rw [Stateful.check_bind_of_ok rfl]
    cases world.fixtureDigest m'.disk with
    | error e =>
      rw [Stateful.check_bind_of_error rfl]
      exact hm
    | ok fixtureDigest =>
      rw [Stateful.check_bind_of_ok rfl]
      cases hcopied : world.copySnapshot m'.disk with
      | error e =>
        rw [Stateful.check_bind_of_error rfl]
        exact hm
      | ok copied =>
        rw [Stateful.check_bind_of_ok rfl, Stateful.modify_bind_apply]
        cases world.copyDigest copied with
        | error e =>
          rw [Stateful.check_bind_of_error rfl]
          exact hm
        | ok cleanBefore =>
          rw [Stateful.check_bind_of_ok rfl]
          cases hprotected : world.protectedDigest copied with
          | error e =>
            rw [Stateful.check_bind_of_error rfl]
            exact hm
          | ok protectedBefore =>
            rw [Stateful.check_bind_of_ok rfl]
            exact ⟨hm, (world.copySnapshot_source m'.disk copied hcopied).trans hrepo, hprotected⟩

theorem run_course (hkeeps : world.KeepsMount) (s : σ) :
    Course world backend fixture (sentBy world backend fixture s) := by
  have hprepare := prepareCopy_sat world fixture ⟨s, []⟩ rfl
  unfold sentBy run
  rw [Stateful.bind_apply, Stateful.andThen]
  generalize prepareCopy world fixture ⟨s, []⟩ = outcome at hprepare
  obtain ⟨start, m⟩ := outcome
  cases start with
  | error e =>
    have hsent : m.sent = [] := hprepare
    show Course world backend fixture m.sent
    rw [hsent]
    exact .nothing
  | ok start =>
    have hstart : Prepared world m start := hprepare
    obtain ⟨repoDigest, protectedBefore, matched⟩ := start
    cases matched with
    | false =>
      show Course world backend fixture
        ((runPhases world fixture repoDigest protectedBefore failedResult >>= fun checks =>
          pure (failedResult, checks)) m).2.sent
      rw [← map_eq_pure_bind, Stateful.map_apply, runPhases_of_failed (by decide), hstart.unsent]
      exact .nothing
    | true =>
      have hattempt : Attempt world backend fixture m _ := applyCandidatePatch_attempt hkeeps
      show Course world backend fixture
        ((applyCandidatePatch world backend fixture >>= fun patchApply =>
          runPhases world fixture repoDigest protectedBefore patchApply >>= fun checks =>
            pure (patchApply, checks)) m).2.sent
      rw [Stateful.bind_apply, Stateful.andThen]
      generalize applyCandidatePatch world backend fixture m = outcome at hattempt
      obtain ⟨tried, m'⟩ := outcome
      have hrest (result : RepoPatchCommandResult) :
          (((runPhases world fixture repoDigest protectedBefore result >>= fun checks =>
            pure (result, checks)) : Stateful (Machine σ) EvaluationError _) m').2 =
          (runPhases world fixture repoDigest protectedBefore result m').2 := by
        rw [← map_eq_pure_bind, Stateful.map_apply]
      cases hattempt with
      | unsent result ok code sent_eq =>
        obtain rfl : tried = .ok result := ok
        have hsent : m'.sent = [] := sent_eq.trans hstart.unsent
        show Course world backend fixture (_ : Machine σ).sent
        rw [hrest, runPhases_of_failed code, hsent]
        exact .nothing
      | sent e line timeout source protectedPaths after workspace mount result =>
        obtain rfl : m' = ⟨e.after, [e]⟩ := by
          have hm : m' = ⟨e.after, m.sent ++ [e]⟩ := after
          rw [hm, hstart.unsent, List.nil_append]
        have hresult : ∃ result', tried = .ok result' ∧
            ((∀ digests, world.transition e ≠ .ok digests) ∧ result' = failedResult ∨
              ∃ digests, world.transition e = .ok digests ∧
                result' = ⟨exitCodeOf e.result, [0], digests.1, digests.2⟩) := by
          rcases result with ⟨hnone, hfailed⟩ | ⟨digests, hdigests, hok⟩
          · exact ⟨failedResult, hfailed, Or.inl ⟨hnone, rfl⟩⟩
          · exact ⟨_, hok, Or.inr ⟨digests, hdigests, rfl⟩⟩
        obtain ⟨result', rfl, hcases⟩ := hresult
        show Course world backend fixture (_ : Machine σ).sent
        rw [hrest]
        exact .patched e _ line timeout (runPhases_checked hkeeps (source.trans hstart.source)
          (protectedPaths.trans hstart.protectedPaths) workspace mount hcases)

end Steps

end Agintor.Evaluation.CommandPlans
