import Agintor.Evaluation.CommandPlansTheorems

/-!
# When the dry run is what is run

An evaluation sends what its dry run plans, for every back end that leaves the mounted tree usable,
exactly when it sends nothing at all or every command is planned as it is requested. That the
second is needed is seen with a back end that does nothing: it lets every request pass that can be
made.
-/

namespace Agintor.Evaluation.CommandPlans

open Lib Core

variable {U : Contracts.UnicodeTables} {backend : CommandBackend} {fixture : RepoPatchFixture}

/-! ## Fixtures of which nothing is run -/

/-- The run of the fixture raises before it sends anything, or has no request for the patch. -/
inductive Idle (fixture : RepoPatchFixture) : Prop
  | argv (command : RepoPatchCommand) (mem : command ∈ fixture.commands)
      (not_argv : ¬HasArgv command)
  | authority (missing : fixture.expectedRepoSnapshotDigest = "" ∨
      fixture.authorityFixtureDigest = "" ∨ fixture.evaluationContractDigest = "")
  | timeout (long : 3600 < fixture.timeoutS)

section Runs

variable {σ : Type} {world : World σ}

lemma checkShapes_eq_ok_iff {u : Unit} :
    checkShapes fixture = .ok u ↔ ∀ command ∈ fixture.commands, HasArgv command := by
  unfold checkShapes
  rw [forM_eq_ok_iff]
  refine forall₂_congr fun command _ => ?_
  rw [← exists_commandArgv_iff]
  cases commandArgv command.command with
  | error e => exact ⟨fun h => (by cases h), fun ⟨_, h⟩ => (by cases h)⟩
  | ok argv => exact ⟨fun _ => ⟨argv, rfl⟩, fun _ => rfl⟩

lemma sentBy_of_unprepared {s : σ} {e : EvaluationError}
    (h : prepareCopy world fixture ⟨s, []⟩ = (.error e, ⟨s, []⟩)) :
    sentBy world backend fixture s = [] := by
  unfold sentBy run
  rw [Stateful.bind_apply, Stateful.andThen, h]

theorem sentBy_of_idle (hkeeps : world.KeepsMount) (h : Idle fixture) (s : σ) :
    sentBy world backend fixture s = [] := by
  cases h with
  | argv command mem not_argv =>
    cases hshapes : checkShapes fixture with
    | ok u => exact absurd (checkShapes_eq_ok_iff.mp hshapes command mem) not_argv
    | error e =>
      apply sentBy_of_unprepared (e := e)
      exact Stateful.check_bind_of_error hshapes
  | authority missing =>
    cases hshapes : checkShapes fixture with
    | error e =>
      apply sentBy_of_unprepared (e := e)
      exact Stateful.check_bind_of_error hshapes
    | ok u =>
      apply sentBy_of_unprepared
      unfold prepareCopy
      rw [Stateful.check_bind_of_ok hshapes]
      exact Stateful.check_bind_of_error (raiseIf_pos missing)
  | timeout long =>
    have hcourse : Course world backend fixture _ := run_course hkeeps s
    generalize sentBy world backend fixture s = sent at hcourse
    cases hcourse with
    | nothing => rfl
    | patched patch _ line timeout checked => exact absurd timeout (not_le.mpr long)

end Runs

/-! ## Plans -/

variable {plans : List HarnessEvaluationCommandPlan} {commands : List RepoPatchCommand}

lemma exists_plans (phase : Phase)
    (h : ∀ command ∈ commands, HasArgv command ∧ CommandAgrees U fixture command) :
    ∃ plans, commands.mapM (commandPlan U fixture phase) = .ok plans ∧
      commands.map (requestLine fixture) = plans.map fun plan => some plan.toCommandLine := by
  induction commands with
  | nil => exact ⟨[], rfl, rfl⟩
  | cons command commands ih =>
    obtain ⟨hcommand, hrest⟩ := List.forall_mem_cons.mp h
    obtain ⟨plan, request, hplan, hrequest, hline⟩ :=
      (commandAgrees_iff phase hcommand.1).mpr hcommand.2
    obtain ⟨plans, hplans, hlines⟩ := ih hrest
    refine ⟨plan :: plans, ?_, ?_⟩
    · rw [List.mapM_cons, hplan, ok_bind, hplans, ok_bind]
      rfl
    · rw [List.map_cons, List.map_cons, hlines, requestLine_of_ok hrequest, hline]

lemma commandPlans_eq_ok_iff :
    commandPlans U backend fixture = .ok plans ↔
      ∃ checks sealedChecks,
        fixture.publicTestCommands.mapM (commandPlan U fixture .publicCheck) = .ok checks ∧
        fixture.sealedTestCommands.mapM (commandPlan U fixture .sealedCheck) = .ok sealedChecks ∧
        plans = ⟨applyLine backend fixture, .patchApply, "apply_patch"⟩ ::
          (checks ++ sealedChecks) := by
  unfold commandPlans
  rw [makePlan_applyLine, ok_bind]
  simp only [bind_eq_ok_iff, pure_eq_ok, Except.ok.injEq]
  constructor
  · rintro ⟨checks, hchecks, sealedChecks, hsealed, rfl⟩
    exact ⟨checks, sealedChecks, hchecks, hsealed, rfl⟩
  · rintro ⟨checks, sealedChecks, hchecks, hsealed, rfl⟩
    exact ⟨checks, hchecks, sealedChecks, hsealed, rfl⟩

/-- A first part of the requests is a first part of the plan. -/
lemma exists_append_of_map_some {α : Type} {sent planned : List α} {rest : List (Option α)}
    (h : planned.map some = sent.map some ++ rest) : ∃ later, planned = sent ++ later ∧
      later.map some = rest := by
  obtain ⟨first, later, rfl, hfirst, hlater⟩ := List.map_eq_append_iff.mp h
  rw [List.map_injective_iff.mpr (Option.some_injective α) hfirst]
  exact ⟨later, rfl, hlater⟩

section Sufficient

variable {σ : Type} {world : World σ}

lemma map_map_some {α β : Type} (f : α → β) (l : List α) :
    (l.map fun a => some (f a)) = (l.map f).map some := by
  rw [List.map_map]
  rfl

theorem runsAsPlanned_of_agrees (hkeeps : world.KeepsMount) (s : σ)
    (hargv : ∀ command ∈ fixture.commands, HasArgv command)
    (h : ∀ command ∈ fixture.commands, CommandAgrees U fixture command) :
    RunsAsPlanned U world backend fixture s := by
  have hall := fun command hcommand => And.intro (hargv command hcommand) (h command hcommand)
  obtain ⟨hpublic, hsealed⟩ := List.forall_mem_append.mp hall
  obtain ⟨checks, hchecks, hlines⟩ := exists_plans .publicCheck hpublic
  obtain ⟨sealedChecks, hsealedChecks, hsealedLines⟩ := exists_plans .sealedCheck hsealed
  have hplans : commandPlans U backend fixture = .ok _ :=
    commandPlans_eq_ok_iff.mpr ⟨checks, sealedChecks, hchecks, hsealedChecks, rfl⟩
  -- every command has a request, and it is the planned line
  have hcommands : fixture.commands.map (requestLine fixture) =
      ((checks ++ sealedChecks).map fun plan => plan.toCommandLine).map some := by
    rw [RepoPatchFixture.commands, List.map_append, hlines, hsealedLines, ← List.map_append,
      map_map_some]
  have hnone : ∀ command ∈ fixture.commands, requestLine fixture command ≠ none := by
    intro command hcommand hrequest
    have hmem : requestLine fixture command ∈ fixture.commands.map (requestLine fixture) :=
      List.mem_map_of_mem hcommand
    rw [hrequest, hcommands, List.mem_map] at hmem
    obtain ⟨line, -, hline⟩ := hmem
    cases hline
  have hcourse : Course world backend fixture _ := run_course hkeeps s
  have hsame {plans : List HarnessEvaluationCommandPlan}
      (hplans' : commandPlans U backend fixture = .ok plans) :
      (plans.map fun plan => plan.toCommandLine) = applyLine backend fixture ::
        (checks ++ sealedChecks).map fun plan => plan.toCommandLine := by
    obtain rfl := Except.ok.inj (hplans.symm.trans hplans')
    rw [List.map_cons]
  generalize hsent : sentBy world backend fixture s = sent at hcourse
  refine ⟨fun plans hplans' => ?_, fun plans hplans' patch rest hpatch hundisturbed => ?_,
    fun e he => ?_⟩
  · rw [hsent, hsame hplans']
    cases hcourse with
    | nothing => exact List.nil_prefix
    | patched patch _ line timeout checked =>
      cases checked with
      | intro sentChecks done rest split lines reason =>
        rw [split, List.map_append, lines, map_map_some] at hcommands
        obtain ⟨later, hlater, -⟩ := exists_append_of_map_some hcommands.symm
        rw [List.map_cons, line, hlater]
        exact (List.prefix_cons_inj _).mpr (List.prefix_append _ _)
  · rw [hsent, hsame hplans']
    rw [hsent] at hpatch
    rw [hpatch] at hcourse ⊢
    cases hcourse with
    | patched patch' _ line timeout checked =>
      cases checked with
      | intro sentChecks done later split lines reason =>
        rcases reason with rfl | ⟨command, hcommand, hrequest⟩ | hdisturbed
        · rw [List.append_nil] at split
          rw [split, lines, map_map_some] at hcommands
          rw [List.map_cons, line,
            List.map_injective_iff.mpr (Option.some_injective CommandLine) hcommands]
        · rw [split] at hnone
          exact absurd hrequest (hnone command (List.mem_append_right done hcommand))
        · exact absurd hundisturbed hdisturbed
  · rw [hplans] at he
    cases he

end Sufficient

/-! ## Back ends that change nothing that is compared -/

section Still

variable {σ : Type}

/-- Every request is answered with exit code 0, and what it leaves behind no digest shows. The
mounted tree can be prepared while it is `plain`. -/
def stillWorld (fixture : RepoPatchFixture) (h : fixture.expectedRepoSnapshotDigest ≠ "")
    (plain : σ → Bool) (leave : σ → σ) : World σ where
  sourceDigest _ := .ok fixture.expectedRepoSnapshotDigest
  copyDigest _ := .ok fixture.expectedRepoSnapshotDigest
  protectedDigest _ := .ok .empty
  fixtureDigest _ := .ok fixture.authorityFixtureDigest
  copySnapshot s := .ok s
  writeCandidate s := .ok s
  validateWorkspace _ := .ok ()
  prepareMount s := if plain s then .ok s
    else .error (.disk "container mount tree contains a link or junction")
  run _ s := (.ok ⟨.completed, some 0⟩, leave s)
  lastWorkspaceTransition _ := none
  copyDigest_ne _ hempty := h (Except.ok.inj hempty)
  copySnapshot_source _ _ _ := rfl
  writeCandidate_source _ _ _ := rfl
  writeCandidate_protected _ _ _ := rfl

variable {h : fixture.expectedRepoSnapshotDigest ≠ ""} {plain : σ → Bool} {leave : σ → σ}

lemma stillWorld_untouched (e : Sent σ) :
    Untouched (stillWorld fixture h plain leave) fixture.expectedRepoSnapshotDigest e :=
  ⟨⟨rfl, .empty, .empty, rfl, rfl, changedProtectedPaths_self _⟩, rfl⟩

lemma stillWorld_prepareCopy (hidle : ¬Idle fixture) (s : σ) :
    prepareCopy (stillWorld fixture h plain leave) fixture ⟨s, []⟩ =
      (.ok (fixture.expectedRepoSnapshotDigest, .empty, true), ⟨s, []⟩) := by
  have hshapes : checkShapes fixture = .ok () := by
    rw [checkShapes_eq_ok_iff]
    intro command hcommand
    by_contra hnot
    exact hidle (.argv command hcommand hnot)
  have hauthority : validateFixtureAuthority fixture = .ok () :=
    raiseIf_neg fun hmissing => hidle (.authority hmissing)
  unfold prepareCopy
  rw [Stateful.check_bind_of_ok hshapes, Stateful.check_bind_of_ok hauthority]
  show (Except.ok (fixture.expectedRepoSnapshotDigest, Dict.empty,
    fixture.expectedRepoSnapshotDigest == fixture.expectedRepoSnapshotDigest &&
      ((fixture.expectedRepoSnapshotDigest == "" ||
        fixture.expectedRepoSnapshotDigest == fixture.expectedRepoSnapshotDigest) &&
      (fixture.authorityFixtureDigest == "" ||
        fixture.authorityFixtureDigest == fixture.authorityFixtureDigest))), _) = _
  simp only [beq_self_eq_true, Bool.or_true, Bool.and_true]
  rfl

/-- The result of the patch there. -/
def stillResult (fixture : RepoPatchFixture) : RepoPatchCommandResult :=
  ⟨0, [0], fixture.expectedRepoSnapshotDigest, fixture.expectedRepoSnapshotDigest⟩

/-- There the patch is sent and applies, and nothing is disturbed. -/
theorem stillWorld_patch (backend : CommandBackend) (h : fixture.expectedRepoSnapshotDigest ≠ "")
    (plain : σ → Bool) (leave : σ → σ) (hidle : ¬Idle fixture) {s : σ} (hplain : plain s = true) :
    ∃ patch : Sent σ, patch.after = leave s ∧
      sentBy (stillWorld fixture h plain leave) backend fixture s =
        (runPhases (stillWorld fixture h plain leave) fixture fixture.expectedRepoSnapshotDigest
          .empty (stillResult fixture) ⟨leave s, [patch]⟩).2.sent ∧
      exitCodeOf patch.result = 0 ∧
      ∀ checks, Undisturbed (stillWorld fixture h plain leave) patch checks := by
  have htimeout : fixture.timeoutS ≤ 3600 := not_lt.mp fun hlong => hidle (.timeout hlong)
  have hrequest : makeRequest (applyLine backend fixture) = .ok _ := makeRequest_applyLine htimeout
  let request : IsolatedCommandRequest :=
    ⟨backend.applyArgv, "repo", isolatedBaseEnvironment, fixture.timeoutS⟩
  let patch : Sent σ := sentOn (stillWorld fixture h plain leave) request [0] s s
  have hmount : (stillWorld fixture h plain leave).prepareMount s = .ok s := if_pos hplain
  have hexecute :
      execute (stillWorld fixture h plain leave) (applyLine backend fixture) ⟨s, []⟩ =
      (.ok (stillResult fixture), ⟨leave s, [patch]⟩) :=
    execute_of_ok hrequest rfl rfl hmount
  have hpatch : applyCandidatePatch (stillWorld fixture h plain leave) backend fixture ⟨s, []⟩ =
      (.ok (stillResult fixture), ⟨leave s, [patch]⟩) := by
    rw [applyCandidatePatch_of_written rfl]
    exact Stateful.recover_of_ok hexecute
  refine ⟨patch, rfl, ?_, rfl, fun checks => ⟨rfl, (stillWorld_untouched patch).spares, _, _,
    (stillWorld_untouched patch).copy, fun e _ => stillWorld_untouched e⟩⟩
  unfold sentBy run
  rw [Stateful.bind_apply, Stateful.andThen, stillWorld_prepareCopy hidle]
  show ((applyCandidatePatch (stillWorld fixture h plain leave) backend fixture >>=
    fun patchApply => runPhases (stillWorld fixture h plain leave) fixture
      fixture.expectedRepoSnapshotDigest .empty patchApply >>= fun checks =>
        pure (patchApply, checks)) ⟨s, []⟩).2.sent = _
  rw [Stateful.bind_apply, Stateful.andThen, hpatch]
  show ((runPhases (stillWorld fixture h plain leave) fixture fixture.expectedRepoSnapshotDigest
    .empty (stillResult fixture) >>= fun checks =>
      pure (stillResult fixture, checks)) ⟨leave s, [patch]⟩).2.sent = _
  rw [← map_eq_pure_bind, Stateful.map_apply]

/-! ## A back end that does nothing -/

/-- Nothing is left behind. -/
def quietWorld (fixture : RepoPatchFixture) (h : fixture.expectedRepoSnapshotDigest ≠ "") :
    World Unit :=
  stillWorld fixture h (fun _ => true) id

lemma quietWorld_keepsMount : (quietWorld fixture h).KeepsMount :=
  ⟨fun _ _ _ _ => ⟨(), rfl⟩, fun _ _ _ _ _ => rfl⟩

theorem quietWorld_checked (backend : CommandBackend)
    (h : fixture.expectedRepoSnapshotDigest ≠ "") (hidle : ¬Idle fixture) :
    ∃ patch, Checked (quietWorld fixture h) fixture patch
        (sentBy (quietWorld fixture h) backend fixture ()) ∧
      ∀ checks, Undisturbed (quietWorld fixture h) patch checks := by
  obtain ⟨patch, hafter, hsent, hcode, hundisturbed⟩ :=
    stillWorld_patch backend h (fun _ => true) id hidle rfl
  refine ⟨patch, ?_, hundisturbed⟩
  unfold quietWorld
  rw [hsent, ← hafter]
  exact runPhases_checked quietWorld_keepsMount rfl rfl rfl ⟨(), rfl⟩
    (Or.inr ⟨_, (stillWorld_untouched patch).copy, by rw [hcode]; rfl⟩)

end Still

/-! ## A back end that leaves a link behind -/

section Link

variable {σ : Type} {world : World σ} {m : Machine σ}

/-- A program leaves the machine as it is, whether it returns or raises. -/
def Stays {α : Type} (m : Machine σ) (p : Stateful (Machine σ) EvaluationError α) : Prop :=
  Stateful.Sat (fun m' => m' = m) p (fun _ m' => m' = m) fun _ m' => m' = m

namespace Stays

variable {α β : Type}

lemma pure (a : α) : Stays m (Pure.pure a) := Stateful.Sat.pure fun _ hm => hm

lemma check (x : Except EvaluationError α) : Stays m (Stateful.check x) :=
  Stateful.Sat.check (fun _ _ _ hm => hm) fun _ _ _ hm => hm

variable {p : Stateful (Machine σ) EvaluationError α}

lemma bind {k : α → Stateful (Machine σ) EvaluationError β} (hp : Stays m p)
    (hk : ∀ a, Stays m (k a)) : Stays m (p >>= k) :=
  Stateful.Sat.bind hp hk

lemma get_bind {k : Machine σ → Stateful (Machine σ) EvaluationError β} (hk : Stays m (k m)) :
    Stays m (Stateful.get >>= k) :=
  Stateful.Sat.get_bind fun _ hm => hm ▸ hk

lemma eq (h : Stays m p) : (p m).2 = m := by
  have hpost := h m rfl
  generalize p m = outcome at hpost
  obtain ⟨result, m'⟩ := outcome
  cases result with
  | error e => exact hpost
  | ok a => exact hpost

end Stays

variable {e : EvaluationError}

/-- On a disk that cannot be prepared nothing is sent. -/
lemma execute_stays (hmount : world.prepareMount m.disk = .error e) (line : CommandLine) :
    Stays m (execute world line) := by
  have hlaunch (request : IsolatedCommandRequest) (codes : List ℤ) (before : σ) :
      Stays m (launch world request codes before) := by
    rintro m' rfl
    unfold launch
    rw [hmount]
  unfold execute
  exact (Stays.check _).bind fun request => Stays.get_bind <| (Stays.check _).bind fun _ =>
    (Stays.check _).bind fun before => (hlaunch request _ _).bind fun code => Stays.get_bind <|
      (Stays.check _).bind fun after => Stays.pure _

lemma scanAfter_stays (protectedBefore : Dict String String) (scans : Scans) :
    Stays m (scanAfter world protectedBefore scans) :=
  Stays.get_bind <| (Stays.check _).bind fun _ => (Stays.check _).bind fun _ => Stays.pure _

lemma runCommands_stays (hmount : world.prepareMount m.disk = .error e) (base : Baseline)
    (commands : List RepoPatchCommand) (scans : Scans) :
    Stays m (runCommands world fixture base commands scans) := by
  induction commands generalizing scans with
  | nil => exact Stays.pure _
  | cons command commands ih =>
    unfold runCommands
    refine ((Stays.check _).bind fun argv => execute_stays hmount _).bind fun result =>
      (scanAfter_stays _ _).bind fun scans => ?_
    split
    · exact Stays.pure _
    · exact (ih scans).bind fun rest => Stays.pure _

lemma runPhases_stays (hmount : world.prepareMount m.disk = .error e) (repoDigest : String)
    (protectedBefore : Dict String String) (result : RepoPatchCommandResult) :
    Stays m (runPhases world fixture repoDigest protectedBefore result) := by
  have hchecks (base : Baseline) (scans : Scans) :
      Stays m (runChecks world fixture base scans) := by
    have hsealed (checks : List RepoPatchCommandResult × Scans) :
        Stays m (do
          let sealedChecks ← runCommands world fixture base fixture.sealedTestCommands checks.2
          return (checks.1 ++ sealedChecks.1, sealedChecks.2)) :=
      (runCommands_stays hmount _ _ _).bind fun rest => Stays.pure _
    unfold runChecks
    dsimp only
    split
    · refine (runCommands_stays hmount _ _ _).bind fun checks => ?_
      split
      · exact hsealed checks
      · exact Stays.pure _
    · refine (Stays.pure _).bind fun checks => ?_
      split
      · exact hsealed checks
      · exact Stays.pure _
  have hrest (patched : String) (scans : Scans) : Stays m (do
      let checks ← runChecks world fixture ⟨repoDigest, protectedBefore, patched⟩ scans
      return checks.1) :=
    (hchecks _ _).bind fun _ => Stays.pure _
  unfold runPhases
  refine (scanAfter_stays _ _).bind fun scans => ?_
  split
  · refine Stays.get_bind ?_
    dsimp only
    split
    · exact (Stays.check _).bind fun patched => hrest patched _
    · exact (Stays.pure _).bind fun patched => hrest patched _
  · exact Stays.pure _

/-- The first request leaves a link where no digest looks. -/
def linkWorld (fixture : RepoPatchFixture) (h : fixture.expectedRepoSnapshotDigest ≠ "") :
    World Bool :=
  stillWorld fixture h id fun _ => false

/-- There the patch is the last request, though nothing is disturbed. -/
theorem linkWorld_not_runsAsPlanned (hidle : ¬Idle fixture)
    (h : fixture.expectedRepoSnapshotDigest ≠ "") :
    ¬RunsAsPlanned U (linkWorld fixture h) backend fixture true := by
  intro hruns
  obtain ⟨patch, -, hsent, -, hundisturbed⟩ :=
    stillWorld_patch backend h id (fun _ => false) hidle rfl
  have hmount : (linkWorld fixture h).prepareMount false =
      .error (.disk "container mount tree contains a link or junction") := rfl
  have hstays : Stays ⟨false, [patch]⟩ (runPhases (linkWorld fixture h) fixture
      fixture.expectedRepoSnapshotDigest .empty (stillResult fixture)) :=
    runPhases_stays hmount _ _ _
  have hall : sentBy (linkWorld fixture h) backend fixture true = [patch] :=
    hsent.trans (congrArg Machine.sent hstays.eq)
  cases hplans : commandPlans U backend fixture with
  | error e =>
    have hempty := hruns.refused e hplans
    rw [hall] at hempty
    cases hempty
  | ok plans =>
    have hwhole := hruns.whole plans hplans patch [] hall (hundisturbed [])
    obtain ⟨checks, sealedChecks, hpublic, hsealed, rfl⟩ := commandPlans_eq_ok_iff.mp hplans
    have hlength := congrArg List.length hwhole
    rw [hall] at hlength
    simp only [List.length_map, List.length_cons, List.length_nil, List.length_append,
      ← (mapM_eq_ok_iff.mp hpublic).length_eq, ← (mapM_eq_ok_iff.mp hsealed).length_eq] at hlength
    -- a fixture has a command
    rcases fixture.has_command with hcommand | hcommand
    · have hpos := List.length_pos_iff.mpr hcommand
      omega
    · have hpos := List.length_pos_iff.mpr hcommand
      omega

end Link

/-! ## When planned and run commands are the same -/

/-- The plan of a command at its place. -/
lemma agrees_of_lines {phase : Phase} (hargv : ∀ command ∈ commands, HasArgv command)
    (hplans : List.Forall₂ (fun command plan => commandPlan U fixture phase command = .ok plan)
      commands plans)
    (hlines : commands.map (requestLine fixture) = plans.map fun plan => some plan.toCommandLine) :
    ∀ command ∈ commands, CommandAgrees U fixture command := by
  induction hplans with
  | nil => exact fun command hcommand => absurd hcommand List.not_mem_nil
  | @cons command plan commands plans hplan hrest ih =>
    obtain ⟨hcommand, hargv⟩ := List.forall_mem_cons.mp hargv
    rw [List.map_cons, List.map_cons, List.cons.injEq] at hlines
    refine List.forall_mem_cons.mpr ⟨?_, ih hargv hlines.2⟩
    have hline := hlines.1
    cases hrequest : requestOf fixture command with
    | error e =>
      rw [requestLine_of_error hrequest] at hline
      cases hline
    | ok request =>
      rw [requestLine_of_ok hrequest] at hline
      exact (commandAgrees_iff phase hcommand).mp
        ⟨plan, request, hplan, hrequest, Option.some.inj hline⟩

theorem agrees_of_runsAsPlanned (hidle : ¬Idle fixture)
    (h : ∀ (σ : Type) (world : World σ) (s : σ), world.KeepsMount →
      RunsAsPlanned U world backend fixture s) :
    ∀ command ∈ fixture.commands, CommandAgrees U fixture command := by
  have hdigest : fixture.expectedRepoSnapshotDigest ≠ "" := fun hempty =>
    hidle (.authority (Or.inl hempty))
  obtain ⟨patch, hchecked, hundisturbed⟩ :=
    quietWorld_checked backend hdigest hidle
  have hruns := h Unit (quietWorld fixture hdigest) () quietWorld_keepsMount
  generalize hsent : sentBy (quietWorld fixture hdigest) backend fixture () = sent at hchecked
  obtain ⟨checks, done, rest, split, lines, -⟩ := hchecked
  cases hplans : commandPlans U backend fixture with
  | error e =>
    have hempty := hruns.refused e hplans
    rw [hsent] at hempty
    cases hempty
  | ok plans =>
    have hwhole := hruns.whole plans hplans patch checks hsent (hundisturbed checks)
    obtain ⟨plannedChecks, sealedChecks, hpublic, hsealed, rfl⟩ := commandPlans_eq_ok_iff.mp hplans
    rw [hsent, List.map_cons, List.map_cons, List.cons.injEq] at hwhole
    have hpublic' := mapM_eq_ok_iff.mp hpublic
    have hsealed' := mapM_eq_ok_iff.mp hsealed
    -- as many requests were sent as there are commands
    have hrest : rest = [] := by
      have hsentLength := congrArg List.length lines
      have hplannedLength := congrArg List.length hwhole.2
      have hsplitLength := congrArg List.length split
      simp only [List.length_map, List.length_append, RepoPatchFixture.commands, hpublic'.length_eq,
        hsealed'.length_eq] at hsentLength hplannedLength hsplitLength
      exact List.length_eq_zero_iff.mp (by omega)
    rw [hrest, List.append_nil] at split
    rw [← split, map_map_some, hwhole.2, ← map_map_some, RepoPatchFixture.commands, List.map_append,
      List.map_append] at lines
    obtain ⟨hpublicLines, hsealedLines⟩ := List.append_inj lines (by
      rw [List.length_map, List.length_map, hpublic'.length_eq])
    have hargv : ∀ command ∈ fixture.commands, HasArgv command := by
      intro command hcommand
      by_contra hnot
      exact hidle (.argv command hcommand hnot)
    obtain ⟨hpublicArgv, hsealedArgv⟩ := List.forall_mem_append.mp hargv
    exact List.forall_mem_append.mpr ⟨agrees_of_lines hpublicArgv hpublic' hpublicLines,
      agrees_of_lines hsealedArgv hsealed' hsealedLines⟩

/-- An evaluation sends what its dry run plans, whatever the back end does and leaves behind, as
long as it leaves the mounted tree usable, exactly when it sends nothing or every command is
planned as it is requested. No fixture of which something is sent can do without the mounted
tree. -/
theorem runs_as_planned_iff :
    ((∀ (σ : Type) (world : World σ) (s : σ), world.KeepsMount →
        RunsAsPlanned U world backend fixture s) ↔
      Idle fixture ∨ ∀ command ∈ fixture.commands, CommandAgrees U fixture command) ∧
    (¬Idle fixture → ∃ (σ : Type) (world : World σ) (s : σ),
      ¬RunsAsPlanned U world backend fixture s) := by
  constructor
  · constructor
    · intro h
      by_cases hidle : Idle fixture
      · exact Or.inl hidle
      · exact Or.inr (agrees_of_runsAsPlanned hidle h)
    · intro h σ world s hkeeps
      by_cases hidle : Idle fixture
      · have hsent : sentBy world backend fixture s = [] := sentBy_of_idle hkeeps hidle s
        refine ⟨fun plans _ => ?_, fun plans _ patch checks hpatch => ?_, fun _ _ => hsent⟩
        · rw [hsent]
          exact List.nil_prefix
        · rw [hsent] at hpatch
          cases hpatch
      · refine runsAsPlanned_of_agrees hkeeps s (fun command hcommand => ?_) (h.resolve_left hidle)
        by_contra hnot
        exact hidle (.argv command hcommand hnot)
  · intro hidle
    have hdigest : fixture.expectedRepoSnapshotDigest ≠ "" := fun hempty =>
      hidle (.authority (Or.inl hempty))
    exact ⟨Bool, linkWorld fixture hdigest, true, linkWorld_not_runsAsPlanned hidle hdigest⟩

/-! ## A variable with a secret name -/

def sampleTables : Contracts.UnicodeTables := ⟨fun _ => false⟩

lemma git_fixed : isArgv ["git"] = true := by decide

def gitBackend : CommandBackend := ⟨["git"], git_fixed⟩

lemma one_second_pos : (0 : ℚ) < 1 := by norm_num

lemma check_named : "unit" = "" → (CommandText.argv ["pytest"]).text = "" := by decide

lemma sampleEnv_nodup : ([("SESSION_TOKEN", "x")].map Prod.fst : List String).Nodup := by decide

/-- A hidden check with one variable. -/
def tokenCheck : RepoPatchCommand where
  name := "unit"
  command := .argv ["pytest"]
  workingDirectory := "."
  timeoutS := 1
  expectedExitCodes := [0]
  env := ⟨[("SESSION_TOKEN", "x")], sampleEnv_nodup⟩
  timeout_pos := one_second_pos
  codes_ne_nil := List.cons_ne_nil 0 []
  codes_nodup := List.nodup_singleton 0
  named := check_named

def sampleDigest : String := String.ofList (List.replicate 64 'a')

lemma sampleDigest_ne : sampleDigest ≠ "" := by decide

def tokenFixture : RepoPatchFixture where
  expectedRepoSnapshotDigest := sampleDigest
  authorityFixtureDigest := sampleDigest
  evaluationContractDigest := sampleDigest
  publicTestCommands := []
  sealedTestCommands := [tokenCheck]
  commandEnv := .empty
  timeoutS := 1
  timeout_pos := one_second_pos
  has_command := Or.inr (List.cons_ne_nil tokenCheck [])

/-- The dry run refuses the fixture, and the evaluation applies the patch. -/
theorem refused_fixture_runs_patch :
    commandPlans sampleTables gitBackend tokenFixture =
        .error (.rejected "command_environment_invalid"
          "evaluation command may not receive secret-bearing environment variables") ∧
      (sentBy (quietWorld tokenFixture sampleDigest_ne) gitBackend tokenFixture ()).map Sent.line =
        [applyLine gitBackend tokenFixture] := by
  constructor
  · rfl
  · rfl

end Agintor.Evaluation.CommandPlans
