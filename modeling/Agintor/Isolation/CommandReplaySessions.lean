import Agintor.Isolation.CommandReplayTheorems

/-!
# Sessions of replayed commands

What a backend does in a session of calls: driven as recorded it gives every result; driven
otherwise, the calls that it answers are still the first commands of the recording. A refused call
leaves its mark only where it shows the backend a workspace that has caught up with the recording.
-/

namespace Agintor.Isolation

open Core Contracts Lib

variable {ids : CommandIdentities} {U : UnicodeTables} {manifest : IsolatedCommandReplayManifest}

/-- The calls made on a backend that has just been opened. -/
def runAll (ids : CommandIdentities) (U : UnicodeTables) (manifest : IsolatedCommandReplayManifest)
    (requests : List (Option IsolatedCommandRequest)) :
    List (Option IsolatedCommandRequest × Except ReplayError IsolatedCommandResult) ×
      BackendState :=
  playAll (run ids U manifest) requests .empty

/-! ## Driven as recorded -/

/-- From the row at the cursor on, the recorded requests get the recorded results. -/
lemma playAll_recorded {state : BackendState} {requests : List (Option IsolatedCommandRequest)}
    {before rows : List IsolatedCommandReplayRow} (hrows : manifest.rows = before ++ rows)
    (hcursor : state.cursor = before.length) (hcancelled : state.cancelled = false)
    (hrequests : requests.map (fromRequest ids U) = rows.map fun row => .ok row.request) :
    (playAll (run ids U manifest) requests state).1.map Prod.snd = rows.map (fun row => .ok row.result) ∧
      (playAll (run ids U manifest) requests state).2.cursor = manifest.rows.length := by
  induction rows generalizing state requests before with
  | nil =>
    obtain rfl : requests = [] := by simpa using hrequests
    refine ⟨rfl, ?_⟩
    show state.cursor = manifest.rows.length
    rw [hcursor, hrows, List.append_nil]
  | cons row rows ih =>
    cases requests with
    | nil => simp at hrequests
    | cons request requests =>
      obtain ⟨hrequest, hrest⟩ := List.cons.inj hrequests
      have hget : manifest.rows[state.cursor]? = some row := by
        rw [hrows, hcursor, List.getElem?_append_right (le_refl _)]
        simp
      have hrun := run_of_selects ⟨hrequest, hcancelled, hget⟩ (Or.inl rfl) rfl
      have happend : manifest.rows = (before ++ [row]) ++ rows := by
        rw [hrows, List.append_assoc, List.singleton_append]
      have hnext := @ih (run ids U manifest request state).2 requests _ happend ?_ ?_ hrest
      · refine ⟨?_, hnext.2⟩
        show (run ids U manifest request state).1 :: _ = _
        rw [hnext.1, hrun]
        rfl
      · rw [hrun, List.length_append, List.length_singleton]
        show state.cursor + 1 = before.length + 1
        rw [hcursor]
      · rw [hrun]
        exact hcancelled

/-- A backend is reconciled when its cursor is past the last row. -/
lemma assertReconciled_of_done {state : BackendState}
    (hdigest : isDigest manifest.manifestDigest = true)
    (hcursor : state.cursor = manifest.rows.length) :
    assertReconciled manifest state = .ok state.cursor := by
  unfold assertReconciled
  simp only
  rw [hcursor, List.drop_length, raiseIf_neg (lt_irrefl _), ok_bind, raiseIf_neg (by simp), ok_bind,
    requireDigest_of_isDigest hdigest, ok_bind]
  show (raiseIf _ _ >>= fun _ => _) = _
  rw [raiseIf_neg (by simp), ok_bind]
  rfl

/-! ## Any session -/

/-- The `k`-th call answered is the `k`-th command recorded, in the recorded workspace or in that of
the call answered before it. -/
def AnsweredBy (ids : CommandIdentities) (U : UnicodeTables)
    (manifest : IsolatedCommandReplayManifest)
    (calls : List (Option IsolatedCommandRequest × IsolatedCommandResult)) (k : ℕ)
    (call : Option IsolatedCommandRequest × IsolatedCommandResult) : Prop :=
  ∃ request row, fromRequest ids U call.1 = .ok request ∧ manifest.rows[k]? = some row ∧
    call.2 = row.result ∧ request.shape = row.request.shape ∧
    (request.workspaceContentDigest = row.request.workspaceContentDigest ∨
      ∃ j previous previousRequest, k = j + 1 ∧ calls[j]? = some previous ∧
        fromRequest ids U previous.1 = .ok previousRequest ∧
        request.workspaceContentDigest = previousRequest.workspaceContentDigest)

/-- The workspace digests that the backend keeps. -/
structure Tracks (ids : CommandIdentities) (U : UnicodeTables)
    (manifest : IsolatedCommandReplayManifest)
    (calls : List (Option IsolatedCommandRequest × IsolatedCommandResult)) (state : BackendState) :
    Prop where
  cursor : state.cursor = calls.length
  answers : ∀ k call, calls[k]? = some call → AnsweredBy ids U manifest calls k call
  /-- The physical one is that of the last call answered, or that of the next row. -/
  physical : ∀ k call, state.cursor = k + 1 → calls[k]? = some call →
    ∃ digest, state.physicalWorkspaceDigest = some digest ∧
      ((∃ request, fromRequest ids U call.1 = .ok request ∧
          digest = request.workspaceContentDigest) ∨
        ∃ row, manifest.rows[k + 1]? = some row ∧ digest = row.request.workspaceContentDigest)
  /-- The virtual one is that of the next row. -/
  virtual : Chained manifest.rows → ∀ k row, state.cursor = k + 1 →
    manifest.rows[k + 1]? = some row →
    state.virtualWorkspaceDigest = some row.request.workspaceContentDigest
  started : ∀ k, state.cursor = k + 1 → state.virtualWorkspaceDigest.isSome = true

section Tracking

variable {calls : List (Option IsolatedCommandRequest × IsolatedCommandResult)}
  {state : BackendState} {request : Option IsolatedCommandRequest}
  {replayRequest : IsolatedCommandReplayRequest} {row : IsolatedCommandReplayRow}

lemma begin_eq_self {physical expected : String}
    (h : state.virtualWorkspaceDigest.isSome = true) : state.begin physical expected = state := by
  obtain ⟨digest, hdigest⟩ := Option.isSome_iff_exists.mp h
  unfold BackendState.begin
  rw [hdigest]

lemma chained_next {rows : List IsolatedCommandReplayRow} (h : Chained rows) {k : ℕ}
    {previous next : IsolatedCommandReplayRow} (hprevious : rows[k]? = some previous)
    (hnext : rows[k + 1]? = some next) :
    previous.workspaceContentDigestAfter = next.request.workspaceContentDigest := by
  obtain ⟨hk, rfl⟩ := List.getElem?_eq_some_iff.mp hprevious
  obtain ⟨hk', rfl⟩ := List.getElem?_eq_some_iff.mp hnext
  exact List.isChain_iff_getElem.mp h k hk'

section

variable (h : Tracks ids U manifest calls state)
include h

/-- A backend that has answered nothing, whatever it was shown. -/
lemma Tracks.of_cursor_eq_zero {state' : BackendState}
    (hzero : state.cursor = 0) (hsame : state'.cursor = state.cursor) :
    Tracks ids U manifest calls state' := by
  refine ⟨hsame.trans h.cursor, h.answers, ?_, ?_, ?_⟩
  · intro k call hk
    omega
  · intro _ k row hk
    omega
  · intro k hk
    omega

section

variable (hselects : Selects ids U manifest state request replayRequest row)
  (hstarts : MayStart state replayRequest.workspaceContentDigest row.request.workspaceContentDigest)
include hselects hstarts

/-- Which workspace a call that may start is in. -/
lemma Tracks.workspace :
    replayRequest.workspaceContentDigest = row.request.workspaceContentDigest ∨
      ∃ k call previousRequest, state.cursor = k + 1 ∧ calls[k]? = some call ∧
        fromRequest ids U call.1 = .ok previousRequest ∧
        replayRequest.workspaceContentDigest = previousRequest.workspaceContentDigest := by
  rcases hstarts with hsame | ⟨hne, hphysical, -⟩
  · exact Or.inl hsame
  · obtain ⟨k, hk⟩ := Nat.exists_eq_succ_of_ne_zero hne
    rw [begin_eq_self (h.started k hk)] at hphysical
    have hlt : k < calls.length := by
      have hcursor := h.cursor
      omega
    obtain ⟨digest, hdigest, horigin⟩ := h.physical k calls[k] hk (List.getElem?_eq_getElem hlt)
    rw [hphysical] at hdigest
    obtain rfl := Option.some.inj hdigest
    rcases horigin with ⟨previousRequest, hprevious, hsame⟩ | ⟨row', hrow', hsame⟩
    · exact Or.inr ⟨k, calls[k], previousRequest, hk, List.getElem?_eq_getElem hlt, hprevious, hsame⟩
    · left
      have hrow := hselects.2.2
      rw [hk, hrow'] at hrow
      rw [hsame, Option.some.inj hrow]

/-- A refused call keeps track. -/
lemma Tracks.located :
    Tracks ids U manifest calls
      (state.located replayRequest.workspaceContentDigest row.request.workspaceContentDigest) := by
  have hworkspace := h.workspace hselects hstarts
  refine ⟨h.cursor, h.answers, ?_, ?_, fun _ _ => rfl⟩
  · intro k call hk hcall
    refine ⟨_, rfl, ?_⟩
    change state.cursor = k + 1 at hk
    rcases hworkspace with hsame | ⟨k', call', previousRequest, hk', hcall', hprevious, hsame⟩
    · right
      rw [← hk]
      exact ⟨row, hselects.2.2, hsame⟩
    · left
      obtain rfl : k' = k := by omega
      rw [hcall] at hcall'
      obtain rfl := Option.some.inj hcall'
      exact ⟨previousRequest, hprevious, hsame⟩
  · intro _ k next hk hnext
    change state.cursor = k + 1 at hk
    have hrow := hselects.2.2
    rw [hk, hnext] at hrow
    rw [Option.some.inj hrow]
    rfl

/-- An answered call is the next one. -/
lemma Tracks.advance
    (hshape : row.request.shape = replayRequest.shape) :
    Tracks ids U manifest (calls ++ [(request, row.result)])
      ((state.located replayRequest.workspaceContentDigest
        row.request.workspaceContentDigest).advance row) := by
  have hrow := hselects.2.2
  have hcursor := h.cursor
  have hlast : (calls ++ [(request, row.result)])[calls.length]? = some (request, row.result) := by
    rw [List.getElem?_append_right (le_refl _)]
    simp
  have hkeep : ∀ {k : ℕ} {call : Option IsolatedCommandRequest × IsolatedCommandResult},
      calls[k]? = some call →
      (calls ++ [(request, row.result)])[k]? = some call := by
    intro k call hcall
    obtain ⟨hk, -⟩ := List.getElem?_eq_some_iff.mp hcall
    rw [List.getElem?_append_left hk]
    exact hcall
  constructor
  · rw [List.length_append, List.length_singleton, ← hcursor]
    rfl
  · intro k call hcall
    rcases Nat.lt_or_ge k calls.length with hk | hk
    · rw [List.getElem?_append_left hk] at hcall
      obtain ⟨request', row', hrequest', hrow', hresult, hshape', hworkspace⟩ := h.answers k call hcall
      refine ⟨request', row', hrequest', hrow', hresult, hshape', hworkspace.imp_right ?_⟩
      rintro ⟨j, previous, previousRequest, hj, hprevious, hrest⟩
      exact ⟨j, previous, previousRequest, hj, hkeep hprevious, hrest⟩
    · -- the new call
      obtain ⟨hlt, -⟩ := List.getElem?_eq_some_iff.mp hcall
      rw [List.length_append, List.length_singleton] at hlt
      obtain rfl : k = calls.length := by omega
      rw [hlast] at hcall
      obtain rfl := Option.some.inj hcall
      rw [hcursor] at hrow
      refine ⟨replayRequest, row, hselects.1, hrow, rfl, hshape.symm, ?_⟩
      refine (h.workspace hselects hstarts).imp_right ?_
      rintro ⟨j, previous, previousRequest, hj, hprevious, hrest⟩
      exact ⟨j, previous, previousRequest, by omega, hkeep hprevious, hrest⟩
  · intro k call hk hcall
    change state.cursor + 1 = k + 1 at hk
    obtain rfl : k = calls.length := by omega
    rw [hlast] at hcall
    obtain rfl := Option.some.inj hcall
    exact ⟨_, rfl, Or.inl ⟨replayRequest, hselects.1, rfl⟩⟩
  · intro hchained k next hk hnext
    change state.cursor + 1 = k + 1 at hk
    obtain rfl : k = state.cursor := by omega
    exact congrArg some (chained_next hchained hrow hnext)
  · intro k hk
    rfl

end

end

end Tracking

lemma tracks_runAll (requests : List (Option IsolatedCommandRequest)) :
    Tracks ids U manifest (answered (runAll ids U manifest requests).1)
      (runAll ids U manifest requests).2 := by
  refine playAll_invariant (I := fun log state => Tracks ids U manifest (answered log) state) ?_ ?_
  · intro log state request _ h
    have hrefused : ∀ e : ReplayError, answered (log ++ [(request, .error e)]) = answered log := by
      intro e
      rw [answered_append, answered_cons_error, answered_nil, List.append_nil]
    have houtcome : Outcome ids U manifest state request (run ids U manifest request state) :=
      run_outcome
    generalize run ids U manifest request state = result at houtcome ⊢
    cases houtcome with
    | unselected e =>
      rw [hrefused]
      exact h
    | elsewhere e selects not =>
      rw [hrefused]
      by_cases hzero : state.cursor = 0
      · exact h.of_cursor_eq_zero hzero (begin_cursor _ _ _)
      · obtain ⟨k, hk⟩ := Nat.exists_eq_succ_of_ne_zero hzero
        rw [begin_eq_self (h.started k hk)]
        exact h
    | mismatched e selects starts =>
      rw [hrefused]
      exact h.located selects starts
    | answered selects starts shape =>
      rw [answered_append, answered_cons_ok, answered_nil]
      exact h.advance selects starts shape
  · refine ⟨rfl, by simp, ?_, ?_, ?_⟩
    · intro k call hk
      cases hk
    · intro _ k row hk
      cases hk
    · intro k hk
      cases hk

/-! ## Refused calls -/

/-- States that no later call tells apart: before the first answer the workspace digests do not
matter. -/
def Alike (state state' : BackendState) : Prop :=
  state = state' ∨ state.cursor = 0 ∧ state'.cursor = 0 ∧ state.cancelled = state'.cancelled ∧
    state.lastWorkspaceTransition = state'.lastWorkspaceTransition

section Refused

variable {state state' : BackendState} {request : Option IsolatedCommandRequest}

lemma Alike.begin (h : Alike state state') (hzero : state.cursor = 0) (physical expected : String) :
    Alike (state.begin physical expected) (state'.begin physical expected) := by
  rcases h with rfl | ⟨-, hzero', hcancelled, htransition⟩
  · exact Or.inl rfl
  · right
    refine ⟨(begin_cursor _ _ _).trans hzero, (begin_cursor _ _ _).trans hzero', ?_, ?_⟩
    · unfold BackendState.begin
      cases state.virtualWorkspaceDigest <;> cases state'.virtualWorkspaceDigest <;> exact hcancelled
    · unfold BackendState.begin
      cases state.virtualWorkspaceDigest <;> cases state'.virtualWorkspaceDigest <;>
        exact htransition

/-- A call does the same in states that are alike. -/
lemma Alike.run (h : Alike state state') (request : Option IsolatedCommandRequest) :
    (Isolation.run ids U manifest request state).1 =
        (Isolation.run ids U manifest request state').1 ∧
      Alike (Isolation.run ids U manifest request state).2
        (Isolation.run ids U manifest request state').2 := by
  rcases h with rfl | ⟨hzero, hzero', hcancelled, htransition⟩
  · exact ⟨rfl, Or.inl rfl⟩
  have halike : Alike state state' := Or.inr ⟨hzero, hzero', hcancelled, htransition⟩
  have hselect : selectRow ids U manifest state request = selectRow ids U manifest state' request := by
    unfold selectRow
    rw [hzero, hzero', hcancelled]
  unfold Isolation.run
  rw [← hselect]
  cases selectRow ids U manifest state request with
  | error e => exact ⟨rfl, halike⟩
  | ok selected =>
    obtain ⟨replayRequest, row⟩ := selected
    simp only
    by_cases hsame : replayRequest.workspaceContentDigest = row.request.workspaceContentDigest
    · -- in the recorded workspace both states become one
      have hlocated : ∀ physical expected,
          state.located physical expected = state'.located physical expected := by
        intro physical expected
        unfold BackendState.located
        rw [hzero, hzero', hcancelled, htransition]
      rw [trackWorkspace_of_mayStart row.sequenceNo (Or.inl hsame),
        trackWorkspace_of_mayStart row.sequenceNo (Or.inl hsame), hlocated]
      exact ⟨rfl, Or.inl rfl⟩
    · have helsewhere : ∀ s : BackendState, s.cursor = 0 →
          trackWorkspace s replayRequest.workspaceContentDigest row.request.workspaceContentDigest
            row.sequenceNo =
          (.error (.replay "workspace_state_mismatch"
            "isolated command replay initial workspace differs from its recording"
            (some row.sequenceNo)),
            s.begin replayRequest.workspaceContentDigest row.request.workspaceContentDigest) := by
        intro s hs
        unfold trackWorkspace
        simp only
        rw [if_pos ⟨(begin_cursor _ _ _).trans hs, hsame⟩]
      rw [helsewhere state hzero, helsewhere state' hzero']
      exact ⟨rfl, halike.begin hzero _ _⟩

lemma Alike.playAll (h : Alike state state') (requests : List (Option IsolatedCommandRequest)) :
    (Lib.playAll (Isolation.run ids U manifest) requests state).1 =
      (Lib.playAll (Isolation.run ids U manifest) requests state').1 := by
  induction requests generalizing state state' with
  | nil => rfl
  | cons request requests ih =>
    obtain ⟨houtcome, hnext⟩ := @Alike.run ids U manifest _ _ h request
    show (_, _) :: _ = (_, _) :: _
    rw [houtcome, ih hnext]

/-- The request is in a workspace that has caught up with the next command recorded, and that the
backend has not seen. -/
def CaughtUp (ids : CommandIdentities) (U : UnicodeTables) (manifest : IsolatedCommandReplayManifest)
    (state : BackendState) (request : Option IsolatedCommandRequest) : Prop :=
  ∃ replayRequest row, fromRequest ids U request = .ok replayRequest ∧
    manifest.rows[state.cursor]? = some row ∧ state.cursor ≠ 0 ∧
    replayRequest.workspaceContentDigest = row.request.workspaceContentDigest ∧
    state.physicalWorkspaceDigest ≠ some replayRequest.workspaceContentDigest

/-- A refused call leaves a state that is alike, unless its workspace has caught up. -/
lemma alike_of_refused {calls : List (Option IsolatedCommandRequest × IsolatedCommandResult)}
    {e : ReplayError} (htracks : Tracks ids U manifest calls state)
    (hchained : Chained manifest.rows)
    (herror : (Isolation.run ids U manifest request state).1 = .error e)
    (hnot : ¬CaughtUp ids U manifest state request) :
    Alike (Isolation.run ids U manifest request state).2 state := by
  have houtcome : Outcome ids U manifest state request
    (Isolation.run ids U manifest request state) := run_outcome
  generalize Isolation.run ids U manifest request state = result at houtcome herror ⊢
  cases houtcome with
  | unselected e => exact Or.inl rfl
  | elsewhere e selects not =>
    by_cases hzero : state.cursor = 0
    · right
      refine ⟨(begin_cursor _ _ _).trans hzero, hzero, ?_, ?_⟩
      · unfold BackendState.begin
        cases state.virtualWorkspaceDigest <;> rfl
      · unfold BackendState.begin
        cases state.virtualWorkspaceDigest <;> rfl
    · obtain ⟨k, hk⟩ := Nat.exists_eq_succ_of_ne_zero hzero
      exact Or.inl (begin_eq_self (htracks.started k hk))
  | @mismatched replayRequest row e selects starts =>
    by_cases hzero : state.cursor = 0
    · exact Or.inr ⟨hzero, hzero, rfl, rfl⟩
    · left
      obtain ⟨k, hk⟩ := Nat.exists_eq_succ_of_ne_zero hzero
      have hrow := selects.2.2
      have hvirtual := htracks.virtual hchained k row hk (by rw [← hrow, hk])
      refine located_eq_self ?_ hvirtual
      rcases starts with hsame | ⟨-, hphysical, -⟩
      · by_contra hne
        exact hnot ⟨replayRequest, row, selects.1, hrow, hzero, hsame, hne⟩
      · rwa [begin_eq_self (htracks.started k hk)] at hphysical
  | answered selects starts shape => cases herror

end Refused

/-! ## The transcript -/

/-- Recording and replaying a run of commands. -/
structure Transcribes (ids : CommandIdentities) (U : UnicodeTables)
    (binding : IsolatedCommandReplayBinding) (runs : List CommandRun) : Prop where
  /-- There is a manifest if a command was recorded and the binding is public; it opens under the
  same binding. -/
  finalizes : (∃ manifest, (finalize ids U binding (recordAll ids U runs).2).1 = .ok manifest ∧
      openBackend ids U manifest binding = .ok manifest) ↔
    recordedRuns (recordAll ids U runs).1 ≠ [] ∧ isPublic U binding.dump = true
  /-- The requests recorded, in the workspaces recorded, get the results recorded, and then the
  replay is reconciled. -/
  replays : ∀ manifest, (finalize ids U binding (recordAll ids U runs).2).1 = .ok manifest →
    openBackend ids U manifest binding = .ok manifest ∧
    (runAll ids U manifest ((recordedRuns (recordAll ids U runs).1).map (·.request))).1.map Prod.snd =
      manifest.rows.map (fun row => .ok row.result) ∧
    (recordedRuns (recordAll ids U runs).1).map (·.result) =
      manifest.rows.map (fun row => some row.result) ∧
    ∃ count, assertReconciled manifest
      (runAll ids U manifest ((recordedRuns (recordAll ids U runs).1).map (·.request))).2 = .ok count

lemma transcribes {binding : IsolatedCommandReplayBinding} {runs : List CommandRun}
    (hdistinct : ∀ run ∈ runs, Distinguished ids U run.request) :
    Transcribes ids U binding runs := by
  have hlog := recordLog hdistinct
  have hrecorded := hlog.recorded
  constructor
  · have hempty : recordedRuns (recordAll ids U runs).1 ≠ [] ↔ (recordAll ids U runs).2.rows ≠ [] := by
      have hlength := congrArg List.length hrecorded.commands
      rw [List.length_map, List.length_map] at hlength
      rw [ne_eq, ne_eq, ← List.length_eq_zero_iff, ← List.length_eq_zero_iff, hlength]
    rw [hempty, ← hrecorded.exists_manifest_iff, finalize_apply]
    constructor
    · rintro ⟨manifest, hmanifest, -⟩
      obtain ⟨bound, hbind, -, -⟩ := Stateful.commit_ok hmanifest
      exact ⟨bound, hbind⟩
    · rintro ⟨manifest, hbind⟩
      have hfinalize : (finalize ids U binding (recordAll ids U runs).2).1 = .ok manifest := by
        rw [finalize_apply, hbind]
        rfl
      exact ⟨manifest, by rw [← finalize_apply]; exact hfinalize,
        (openBackend_of_finalized hrecorded hfinalize).1⟩
  · intro manifest hmanifest
    obtain ⟨hopen, hrows, hdigest⟩ := openBackend_of_finalized hrecorded hmanifest
    have hrequests : ((recordedRuns (recordAll ids U runs).1).map (·.request)).map
        (fromRequest ids U) = manifest.rows.map fun row => .ok row.request := by
      have hfirst := congrArg (List.map Prod.fst) hrecorded.commands
      rw [List.map_map, List.map_map] at hfirst
      rw [List.map_map, hrows]
      exact hfirst
    have hresults : (recordedRuns (recordAll ids U runs).1).map (·.result) =
        manifest.rows.map (fun row => some row.result) := by
      have hsecond := congrArg (List.map Prod.snd) hrecorded.commands
      rw [List.map_map, List.map_map] at hsecond
      rw [hrows]
      exact hsecond
    obtain ⟨hanswers, hcursor⟩ := @playAll_recorded ids U manifest .empty _ [] _ rfl rfl rfl hrequests
    exact ⟨hopen, hanswers, hresults, _, assertReconciled_of_done hdigest hcursor⟩

/-- Recording and replaying commands fit together; in any session of calls of a valid manifest the
calls answered are the first commands recorded, and a refused call changes nothing for later ones,
unless its workspace has caught up with the recording. -/
theorem transcript_of_commands (ids : CommandIdentities) (U : UnicodeTables) :
    (∀ binding runs, (∀ run ∈ runs, Distinguished ids U run.request) →
      Transcribes ids U binding runs) ∧
    (∀ manifest requests k call, validateManifest ids U manifest = .ok manifest →
      (answered (runAll ids U manifest requests).1)[k]? = some call →
      AnsweredBy ids U manifest (answered (runAll ids U manifest requests).1) k call) ∧
    (∀ manifest requests request e, validateManifest ids U manifest = .ok manifest →
      (run ids U manifest request (runAll ids U manifest requests).2).1 = .error e →
      ¬CaughtUp ids U manifest (runAll ids U manifest requests).2 request →
      ∀ later, (playAll (run ids U manifest) later
          (run ids U manifest request (runAll ids U manifest requests).2).2).1 =
        (playAll (run ids U manifest) later (runAll ids U manifest requests).2).1) := by
  refine ⟨fun binding runs hdistinct => transcribes hdistinct, ?_, ?_⟩
  · intro manifest requests k call _ hcall
    exact (tracks_runAll requests).answers k call hcall
  · intro manifest requests request e hvalid herror hnot later
    have hchained : Chained manifest.rows := by
      unfold validateManifest at hvalid
      obtain ⟨rows, -, hbind⟩ := bind_eq_ok_iff.mp hvalid
      exact (bindManifest_bound hbind).2.2.1
    exact (alike_of_refused (tracks_runAll requests) hchained herror hnot).playAll later

/-! ## A recording of two commands -/

def repeated (c : Char) : String := String.ofList (List.replicate 64 c)

def sampleIds : CommandIdentities where
  canonicalIdentityDigest _ _ := repeated '0'
  isDigest _ _ := by decide
  sha256Text _ := repeated '0'

def asciiTables : UnicodeTables := ⟨fun _ => false⟩

def sampleBinding : IsolatedCommandReplayBinding where
  releaseDigest := repeated '0'
  epochId := "epoch-1"
  epochManifestDigest := repeated '0'
  taskEnvelopeDigest := repeated '0'
  workspaceSnapshotId := "snapshot-1"
  workspaceSnapshotDigest := repeated '0'
  commandPolicyDigest := repeated '0'

/-- `name` in the workspace with this digest. -/
def sampleRequest (name : String) (workspace : Char) : Option IsolatedCommandRequest :=
  some ⟨[name], some (repeated workspace), ".", [], none⟩

def sampleResult (name : String) : IsolatedCommandResult where
  status := .completed
  command := [name]
  containerName := "container-1"
  exitCode := some 0
  stdout := ""
  stderr := ""
  stdoutDigest := repeated '0'
  stderrDigest := repeated '0'
  durationS := 1
  outputTruncated := false
  failureDetail := none

def sampleCaptured (name : String) (workspace : Char) : IsolatedCommandReplayRequest where
  command := [name]
  workspaceContentDigest := repeated workspace
  workingDirectory := "."
  environment := []
  timeoutS := none
  requestDigest := repeated '0'

def sampleRun (name : String) (before after : Char) : CommandRun where
  request := sampleRequest name before
  result := some (sampleResult name)
  workspaceAfter := some (some (repeated after))

/-- `build` takes workspace `a` to `b`, `test` leaves `b` as it is. -/
def sampleManifest : IsolatedCommandReplayManifest where
  schemaVersion := isolatedCommandReplaySchemaVersion
  binding := sampleBinding
  rows :=
    [⟨0, sampleCaptured "build" 'a', repeated 'b', sampleResult "build", repeated '0'⟩,
      ⟨1, sampleCaptured "test" 'b', repeated 'b', sampleResult "test", repeated '0'⟩]
  manifestDigest := repeated '0'

/-- A command that a replay takes. -/
structure Plain (name : String) : Prop where
  command : validateCommand [name] = .ok [name]
  isPublic : isPublic asciiTables (.str name) = true

lemma plain_build : Plain "build" := ⟨by decide +kernel, by decide +kernel⟩

lemma plain_test : Plain "test" := ⟨by decide +kernel, by decide +kernel⟩

lemma plain_lint : Plain "lint" := ⟨by decide +kernel, by decide +kernel⟩

/-- A digit of a digest. -/
abbrev IsHex (c : Char) : Prop := (c.isDigit || ('a' ≤ c && c ≤ 'f')) = true

lemma isPublic_repeated {c : Char} (h : IsHex c) : isPublic asciiTables (.str (repeated c)) = true :=
  isPublic_of_isDigest (isDigest_replicate h)

lemma isPublic_of_fields {fields : List (String × Json)}
    (hkeys : ∀ field ∈ fields, field.1 ∈ transcriptKeys)
    (hvalues : ∀ field ∈ fields, isPublic asciiTables field.2 = true) :
    isPublic asciiTables (.object fields) = true :=
  (isPublic_object_of_plain fun field hfield =>
    plainKey_of_mem_transcriptKeys _ (hkeys field hfield)).mpr hvalues

section Samples

variable {name : String} {workspace after : Char}

lemma isPublic_command (h : Plain name) : isPublic asciiTables (texts [name]) = true := by
  refine isPublic_array.mpr ?_
  intro item hitem
  obtain rfl := List.mem_singleton.mp hitem
  exact h.isPublic

section

variable (h : Plain name) (hworkspace : IsHex workspace)
include h hworkspace

lemma validateFields_sample (requestDigest : String) :
    validateFields asciiTables { sampleCaptured name workspace with requestDigest := requestDigest } =
      .ok { sampleCaptured name workspace with requestDigest := requestDigest } := by
  have hdirectory : validateWorkingDirectory "." = .ok "." := by decide +kernel
  have hdigest : requireDigest (repeated workspace) "workspace_content_digest" =
      .ok (repeated workspace) := requireDigest_of_isDigest (isDigest_replicate hworkspace) _
  unfold validateFields
  dsimp only [sampleCaptured]
  rw [h.command, ok_bind, hdigest, ok_bind, hdirectory]
  rfl

lemma isPublic_sample_request :
    isPublic asciiTables (sampleCaptured name workspace).dump = true := by
  refine isPublic_of_fields ?_ ?_
  · show ∀ field ∈ ([(_, _), (_, _), (_, _), (_, _), (_, _), (_, _)] : List (String × Json)), _
    simp only [List.forall_mem_cons]
    refine ⟨by decide, by decide, by decide, by decide, by decide, by decide, ?_⟩
    exact fun _ h => absurd h List.not_mem_nil
  · show ∀ field ∈ ([(_, _), (_, _), (_, _), (_, _), (_, _), (_, _)] : List (String × Json)), _
    simp only [List.forall_mem_cons]
    refine ⟨isPublic_command h, isPublic_repeated hworkspace, ?_, ?_, ?_,
      isPublic_repeated (by decide), fun _ h => absurd h List.not_mem_nil⟩
    · show isPublic asciiTables (.str ".") = true
      decide +kernel
    · show isPublic asciiTables (.object []) = true
      decide +kernel
    · show isPublic asciiTables .null = true
      decide +kernel

lemma bindRequest_sample {requestDigest : String}
    (hdigest : ¬(requestDigest ≠ "" ∧ requestDigest ≠ repeated '0')) :
    bindRequest sampleIds asciiTables
      { sampleCaptured name workspace with requestDigest := requestDigest } =
        .ok (sampleCaptured name workspace) := by
  have hpublic : ¬isPublic asciiTables (sampleCaptured name workspace).dump = false := by
    rw [isPublic_sample_request h hworkspace]
    decide
  show (raiseIf (requestDigest ≠ "" ∧ requestDigest ≠ repeated '0') _ >>= fun _ =>
    raiseIf (isPublic asciiTables (sampleCaptured name workspace).dump = false) _ >>= fun _ =>
      pure (sampleCaptured name workspace)) = _
  rw [raiseIf_neg hdigest, ok_bind, raiseIf_neg hpublic]
  rfl

lemma fromRequest_sample :
    fromRequest sampleIds asciiTables (sampleRequest name workspace) =
      .ok (sampleCaptured name workspace) := by
  show (validateFields asciiTables { sampleCaptured name workspace with requestDigest := "" } >>=
    bindRequest sampleIds asciiTables) = _
  rw [validateFields_sample h hworkspace, ok_bind]
  exact bindRequest_sample h hworkspace (by simp)

lemma distinguished_sample :
    Distinguished sampleIds asciiTables (sampleRequest name workspace) := by
  intro captured fields hcaptured hfields _
  rw [fromRequest_sample h hworkspace] at hcaptured
  obtain rfl := Except.ok.inj hcaptured
  rw [show validateFields asciiTables (sampleCaptured name workspace) = .ok _ from
    validateFields_sample h hworkspace _] at hfields
  rw [← Except.ok.inj hfields]
  rfl

end

/-- The row of a command that was run in one workspace and left another. -/
def sampleRow (sequenceNo : ℕ) (name : String) (before after : Char) : IsolatedCommandReplayRow :=
  ⟨sequenceNo, sampleCaptured name before, repeated after, sampleResult name, repeated '0'⟩

lemma isPublic_sample_result (h : Plain name) :
    isPublic asciiTables (sampleResult name).dump = true := by
  refine isPublic_of_fields ?_ ?_
  · show ∀ field ∈ ([(_, _), (_, _), (_, _), (_, _), (_, _), (_, _), (_, _), (_, _), (_, _), (_, _),
      (_, _)] : List (String × Json)), _
    simp only [List.forall_mem_cons]
    refine ⟨by decide, by decide, by decide, by decide, by decide, by decide, by decide, by decide,
      by decide, by decide, by decide, ?_⟩
    exact fun _ h => absurd h List.not_mem_nil
  · show ∀ field ∈ ([(_, _), (_, _), (_, _), (_, _), (_, _), (_, _), (_, _), (_, _), (_, _), (_, _),
      (_, _)] : List (String × Json)), _
    simp only [List.forall_mem_cons]
    have hempty : isPublic asciiTables (.str "") = true := by decide +kernel
    refine ⟨?_, isPublic_command h, ?_, ?_, hempty, hempty, isPublic_repeated (by decide),
      isPublic_repeated (by decide), ?_, ?_, ?_, fun _ h => absurd h List.not_mem_nil⟩
    · show isPublic asciiTables (.str "completed") = true
      decide +kernel
    · show isPublic asciiTables (.str "container-1") = true
      decide +kernel
    · show isPublic asciiTables (.int 0) = true
      decide +kernel
    · show isPublic asciiTables (.float 1) = true
      decide +kernel
    · show isPublic asciiTables (.bool false) = true
      decide +kernel
    · show isPublic asciiTables .null = true
      decide +kernel

lemma isPublic_sample_row (h : Plain name) (hworkspace : IsHex workspace) (hafter : IsHex after)
    (sequenceNo : ℕ) : isPublic asciiTables (sampleRow sequenceNo name workspace after).dump = true := by
  refine isPublic_of_fields ?_ ?_
  · show ∀ field ∈ ([(_, _), (_, _), (_, _), (_, _), (_, _)] : List (String × Json)), _
    simp only [List.forall_mem_cons]
    refine ⟨by decide, by decide, by decide, by decide, by decide, ?_⟩
    exact fun _ h => absurd h List.not_mem_nil
  · show ∀ field ∈ ([(_, _), (_, _), (_, _), (_, _), (_, _)] : List (String × Json)), _
    simp only [List.forall_mem_cons]
    refine ⟨?_, isPublic_sample_request h hworkspace, isPublic_repeated hafter,
      isPublic_sample_result h, isPublic_repeated (by decide), ?_⟩
    · show isPublic asciiTables (.int sequenceNo) = true
      simp [isPublic, noResolvedCredentials, isCanonicalJson, hasPublicKeys, Json.all]
    · exact fun _ h => absurd h List.not_mem_nil

lemma validateRow_sample (h : Plain name) (hworkspace : IsHex workspace) (hafter : IsHex after)
    (sequenceNo : ℕ) :
    validateRow sampleIds asciiTables (sampleRow sequenceNo name workspace after) =
      .ok (sampleRow sequenceNo name workspace after) := by
  have hrequest : validateRequest sampleIds asciiTables (sampleCaptured name workspace) =
      .ok (sampleCaptured name workspace) := by
    unfold validateRequest
    rw [show validateFields asciiTables (sampleCaptured name workspace) = .ok _ from
      validateFields_sample h hworkspace _, ok_bind]
    exact bindRequest_sample h hworkspace (by simp)
  unfold validateRow
  rw [show validateRequest _ _ (sampleRow sequenceNo name workspace after).request = _ from hrequest,
    ok_bind]
  have hdigest : requireDigest (repeated after) "workspace_content_digest_after" =
      .ok (repeated after) := requireDigest_of_isDigest (isDigest_replicate hafter) _
  have hpublic : ¬isPublic asciiTables (sampleRow sequenceNo name workspace after).dump = false := by
    rw [isPublic_sample_row h hworkspace hafter]
    decide
  unfold bindRow
  dsimp only [sampleRow]
  rw [hdigest, ok_bind]
  show (raiseIf ([name] ≠ [name]) _ >>= fun _ =>
    raiseIf (repeated '0' ≠ repeated '0') _ >>= fun _ =>
    raiseIf (repeated '0' ≠ repeated '0') _ >>= fun _ =>
    checkResult (sampleCaptured name workspace) (sampleResult name) >>= fun _ =>
    raiseIf (repeated '0' ≠ "" ∧ repeated '0' ≠ repeated '0') _ >>= fun _ =>
    raiseIf (isPublic asciiTables (sampleRow sequenceNo name workspace after).dump = false) _ >>=
      fun _ => pure (sampleRow sequenceNo name workspace after)) = _
  rw [raiseIf_neg (not_not.mpr rfl), ok_bind, raiseIf_neg (not_not.mpr rfl), ok_bind,
    raiseIf_neg (not_not.mpr rfl), ok_bind,
    show checkResult (sampleCaptured name workspace) (sampleResult name) = .ok () by rfl, ok_bind,
    raiseIf_neg (fun h => h.2 rfl), ok_bind, raiseIf_neg hpublic]
  rfl

end Samples

lemma sampleManifest_valid :
    validateManifest sampleIds asciiTables sampleManifest = .ok sampleManifest := by
  have hrows : ∀ row ∈ sampleManifest.rows, validateRow sampleIds asciiTables row = .ok row ∧
      isPublic asciiTables row.dump = true := by
    show ∀ row ∈ [sampleRow 0 "build" 'a' 'b', sampleRow 1 "test" 'b' 'b'], _
    simp only [List.forall_mem_cons]
    exact ⟨⟨validateRow_sample plain_build (by decide) (by decide) 0,
        isPublic_sample_row plain_build (by decide) (by decide) 0⟩,
      ⟨validateRow_sample plain_test (by decide) (by decide) 1,
        isPublic_sample_row plain_test (by decide) (by decide) 1⟩,
      fun _ h => absurd h List.not_mem_nil⟩
  have hbinding : isPublic asciiTables sampleBinding.dump = true := by
    refine isPublic_of_fields ?_ ?_
    · show ∀ field ∈ ([(_, _), (_, _), (_, _), (_, _), (_, _), (_, _), (_, _)] :
        List (String × Json)), _
      simp only [List.forall_mem_cons]
      refine ⟨by decide, by decide, by decide, by decide, by decide, by decide, by decide, ?_⟩
      exact fun _ h => absurd h List.not_mem_nil
    · show ∀ field ∈ ([(_, _), (_, _), (_, _), (_, _), (_, _), (_, _), (_, _)] :
        List (String × Json)), _
      simp only [List.forall_mem_cons]
      have hzeros := isPublic_repeated (c := '0') (by decide)
      refine ⟨hzeros, by decide +kernel, hzeros, hzeros, by decide +kernel, hzeros, hzeros, ?_⟩
      exact fun _ h => absurd h List.not_mem_nil
  have hpublic : isPublic asciiTables sampleManifest.dump = true := by
    refine (isPublic_transcript (by decide +kernel) (isDigest_replicate (by decide)) ?_).mpr hbinding
    intro dump hdump
    obtain ⟨row, hrow, rfl⟩ := List.mem_map.mp hdump
    exact (hrows row hrow).2
  have hmap : sampleManifest.rows.mapM (validateRow sampleIds asciiTables) =
      .ok sampleManifest.rows := by
    rw [mapM_eq_ok_iff, List.forall₂_same]
    exact fun row hrow => (hrows row hrow).1
  have hpublic' : ¬isPublic asciiTables sampleManifest.dump = false := by
    rw [hpublic]
    decide
  unfold validateManifest
  rw [hmap, ok_bind]
  show (raiseIf (isolatedCommandReplaySchemaVersion ≠ isolatedCommandReplaySchemaVersion) _ >>=
      fun _ =>
    raiseIf (sampleManifest.rows = []) _ >>= fun _ =>
    raiseIf ([0, 1] ≠ List.range 2) _ >>= fun _ =>
    raiseIf (¬Chained sampleManifest.rows) _ >>= fun _ =>
    raiseIf (repeated '0' ≠ "" ∧ repeated '0' ≠ repeated '0') _ >>= fun _ =>
    raiseIf (isPublic asciiTables sampleManifest.dump = false) _ >>= fun _ =>
      pure sampleManifest) = _
  rw [raiseIf_neg (not_not.mpr rfl), ok_bind, raiseIf_neg (by simp [sampleManifest]), ok_bind,
    raiseIf_neg (by decide), ok_bind, raiseIf_neg (not_not.mpr (.cons_cons rfl (.singleton _))),
    ok_bind, raiseIf_neg (fun h => h.2 rfl), ok_bind, raiseIf_neg hpublic']
  rfl

/-- After `build`. -/
def sampleState : BackendState where
  cursor := 1
  cancelled := false
  physicalWorkspaceDigest := some (repeated 'a')
  virtualWorkspaceDigest := some (repeated 'b')
  lastWorkspaceTransition := some (repeated 'a', repeated 'b')

lemma run_build : run sampleIds asciiTables sampleManifest (sampleRequest "build" 'a') .empty =
    (.ok (sampleResult "build"), sampleState) := by
  have hhex : IsHex 'a' := by decide
  have hselects : Selects sampleIds asciiTables sampleManifest .empty (sampleRequest "build" 'a')
      (sampleCaptured "build" 'a') (sampleRow 0 "build" 'a' 'b') :=
    ⟨fromRequest_sample plain_build hhex, rfl, rfl⟩
  exact run_of_selects hselects (Or.inl rfl) rfl

lemma runAll_build : runAll sampleIds asciiTables sampleManifest [sampleRequest "build" 'a'] =
    ([(sampleRequest "build" 'a', .ok (sampleResult "build"))], sampleState) := by
  show ([(_, (run _ _ _ _ _).1)], (run _ _ _ _ _).2) = _
  rw [run_build]

/-- `lint` is not what comes next. -/
lemma run_lint {workspace : Char} (hworkspace : workspace ∈ ['a', 'b']) :
    run sampleIds asciiTables sampleManifest (sampleRequest "lint" workspace) sampleState =
      (.error (.replay "request_mismatch"
        "isolated command request differs from the next replay row" (some 1)),
        sampleState.located (repeated workspace) (repeated 'b')) := by
  have hhex : IsHex workspace := by
    rcases List.mem_cons.mp hworkspace with rfl | hworkspace
    · decide
    · obtain rfl := List.mem_singleton.mp hworkspace
      decide
  have hselects : Selects sampleIds asciiTables sampleManifest sampleState
      (sampleRequest "lint" workspace) (sampleCaptured "lint" workspace)
      (sampleRow 1 "test" 'b' 'b') := ⟨fromRequest_sample plain_lint hhex, rfl, rfl⟩
  have hstarts : MayStart sampleState (repeated workspace) (repeated 'b') := by
    rcases List.mem_cons.mp hworkspace with rfl | hworkspace
    · exact Or.inr ⟨by decide, rfl, rfl⟩
    · obtain rfl := List.mem_singleton.mp hworkspace
      exact Or.inl rfl
  have htrack : trackWorkspace sampleState (sampleCaptured "lint" workspace).workspaceContentDigest
      (sampleRow 1 "test" 'b' 'b').request.workspaceContentDigest 1 = _ :=
    trackWorkspace_of_mayStart 1 hstarts
  unfold run
  rw [selectRow_of_selects hselects]
  simp only
  rw [show (sampleRow 1 "test" 'b' 'b').sequenceNo = 1 from rfl, htrack]
  simp only
  rw [if_pos]
  · rfl
  · intro hshape
    have hcommand : ["test"] = ["lint"] := (Prod.mk.inj hshape).1
    exact absurd hcommand (by decide)

theorem transcript_of_commands_sample :
    Transcribes sampleIds asciiTables sampleBinding
        [sampleRun "build" 'a' 'b', sampleRun "test" 'b' 'b'] ∧
      AnsweredBy sampleIds asciiTables sampleManifest
        [(sampleRequest "build" 'a', sampleResult "build")] 0
        (sampleRequest "build" 'a', sampleResult "build") ∧
      (playAll (run sampleIds asciiTables sampleManifest) [sampleRequest "test" 'b']
          (run sampleIds asciiTables sampleManifest (sampleRequest "lint" 'a') sampleState).2).1 =
        (playAll (run sampleIds asciiTables sampleManifest) [sampleRequest "test" 'b']
          sampleState).1 := by
  have h := transcript_of_commands sampleIds asciiTables
  refine ⟨h.1 sampleBinding _ ?_, ?_, ?_⟩
  · intro command hcommand
    simp only [List.mem_cons, List.not_mem_nil, or_false] at hcommand
    rcases hcommand with rfl | rfl
    · exact distinguished_sample plain_build (by decide)
    · exact distinguished_sample plain_test (by decide)
  · have hanswered := h.2.1 sampleManifest [sampleRequest "build" 'a'] 0
      (sampleRequest "build" 'a', sampleResult "build") sampleManifest_valid
    rw [runAll_build] at hanswered
    exact hanswered rfl
  · have hrefused := h.2.2 sampleManifest [sampleRequest "build" 'a'] (sampleRequest "lint" 'a')
      (.replay "request_mismatch" "isolated command request differs from the next replay row"
        (some 1)) sampleManifest_valid
    rw [runAll_build] at hrefused
    refine hrefused (congrArg Prod.fst (run_lint (by simp))) ?_ [sampleRequest "test" 'b']
    rintro ⟨request, row, hrequest, hrow, -, hsame, -⟩
    rw [fromRequest_sample plain_lint (by decide)] at hrequest
    obtain rfl := Except.ok.inj hrequest
    obtain rfl := Option.some.inj hrow
    revert hsame
    decide

/-- No command makes no manifest; and `lint`, refused in workspace `b`, has `test` refused in
workspace `a`, where it would have been answered. -/
theorem not_transcript_of_commands :
    (¬∃ manifest, (finalize sampleIds asciiTables sampleBinding
      (recordAll sampleIds asciiTables []).2).1 = .ok manifest) ∧
    ¬∀ manifest requests request e, validateManifest sampleIds asciiTables manifest = .ok manifest →
      (run sampleIds asciiTables manifest request
        (runAll sampleIds asciiTables manifest requests).2).1 = .error e →
      ∀ later, (playAll (run sampleIds asciiTables manifest) later
          (run sampleIds asciiTables manifest request
            (runAll sampleIds asciiTables manifest requests).2).2).1 =
        (playAll (run sampleIds asciiTables manifest) later
          (runAll sampleIds asciiTables manifest requests).2).1 := by
  constructor
  · rintro ⟨manifest, h⟩
    have herror : (finalize sampleIds asciiTables sampleBinding
        (recordAll sampleIds asciiTables []).2).1 =
      .error (.validation "Tuple should have at least 1 item after validation") := rfl
    rw [herror] at h
    cases h
  · intro h
    have hsame := h sampleManifest [sampleRequest "build" 'a'] (sampleRequest "lint" 'b')
      (.replay "request_mismatch" "isolated command request differs from the next replay row"
        (some 1)) sampleManifest_valid
    rw [runAll_build] at hsame
    have hlater := hsame (congrArg Prod.fst (run_lint (by simp))) [sampleRequest "test" 'a']
    have hbools := congrArg (List.map fun entry => entry.2.toBool) hlater
    revert hbools
    decide +kernel

end Agintor.Isolation
