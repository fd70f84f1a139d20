import Agintor.Isolation.CommandReplay
import Mathlib.Data.List.Chain

/-!
# What a replay of isolated commands gives back

The recorder keeps its rows linked: each starts from the workspace that the row before it left. The
backend reads them once, in order, in the recorded workspaces or in one that no longer changes.
-/

namespace Agintor.Isolation

open Core Contracts Lib

variable {ids : CommandIdentities} {U : UnicodeTables}

/-! ## Requests -/

lemma requireDigest_eq_ok_iff {value fieldName digest : String} :
    requireDigest value fieldName = .ok digest ↔
      (strip value).toLower = digest ∧ isDigest digest = true := by
  unfold requireDigest
  simp only [bind_eq_ok_iff, raiseIf_eq_ok_iff, exists_const, pure_eq_ok, Except.ok.injEq,
    Bool.not_eq_false]
  constructor
  · rintro ⟨hdigest, rfl⟩
    exact ⟨rfl, hdigest⟩
  · rintro ⟨rfl, hdigest⟩
    exact ⟨hdigest, rfl⟩

lemma requireDigest_of_isDigest {digest : String} (h : isDigest digest = true)
    (fieldName : String) : requireDigest digest fieldName = .ok digest :=
  requireDigest_eq_ok_iff.mpr ⟨toLower_strip_of_isDigest h, h⟩

/-- The digest that `bind_request` computes. -/
def IsolatedCommandReplayRequest.identity (ids : CommandIdentities)
    (request : IsolatedCommandReplayRequest) : String :=
  ids.canonicalIdentityDigest "isolated-command-replay-request-v1" (.object request.content)

lemma texts_inj {a b : List String} (h : texts a = texts b) : a = b := by
  have hmap := Json.array.inj h
  exact List.map_injective_iff.mpr (fun _ _ => Json.str.inj) hmap

/-- The content of a request is all of it, but for its digest. -/
lemma unbound_eq_of_content {a b : IsolatedCommandReplayRequest} (h : a.content = b.content) :
    a.unbound = b.unbound := by
  simp only [IsolatedCommandReplayRequest.content, List.cons.injEq, Prod.mk.injEq, true_and,
    and_true, Json.str.injEq, Json.object.injEq] at h
  obtain ⟨hcommand, hdigest, hdirectory, henvironment, htimeout⟩ := h
  have hentries : a.environment = b.environment := by
    refine List.map_injective_iff.mpr ?_ henvironment
    intro x y hxy
    obtain ⟨hname, hvalue⟩ := Prod.mk.inj hxy
    exact Prod.ext hname (Json.str.inj hvalue)
  have htimeouts : a.timeoutS = b.timeoutS := by
    cases ha : a.timeoutS <;> cases hb : b.timeoutS <;> simp_all
  have hcommands := texts_inj hcommand
  unfold IsolatedCommandReplayRequest.unbound
  rw [hcommands, hdigest, hdirectory, hentries, htimeouts]

lemma validateFields_digest {request fields : IsolatedCommandReplayRequest}
    (h : validateFields U request = .ok fields) :
    isDigest fields.workspaceContentDigest = true ∧
      fields.requestDigest = request.requestDigest := by
  unfold validateFields at h
  simp only [bind_eq_ok_iff, raiseIf_eq_ok_iff, exists_const, pure_eq_ok, Except.ok.injEq] at h
  obtain ⟨command, -, digest, hdigest, directory, -, environment, -, -, rfl⟩ := h
  exact ⟨(requireDigest_eq_ok_iff.mp hdigest).2, rfl⟩

variable {raw request : IsolatedCommandReplayRequest}

lemma validateRequest_ok (h : validateRequest ids U raw = .ok request) :
    ∃ fields, validateFields U raw = .ok fields ∧
      (raw.requestDigest = "" ∨ raw.requestDigest = fields.identity ids) ∧
      request = { fields with requestDigest := fields.identity ids } ∧
      isPublic U request.dump = true := by
  unfold validateRequest bindRequest at h
  simp only [bind_eq_ok_iff, raiseIf_eq_ok_iff, exists_const, pure_eq_ok, Except.ok.injEq] at h
  obtain ⟨fields, hfields, hdigest, hpublic, rfl⟩ := h
  refine ⟨fields, hfields, ?_, rfl, by simpa using hpublic⟩
  rw [(validateFields_digest hfields).2] at hdigest
  by_cases hempty : raw.requestDigest = ""
  · exact Or.inl hempty
  · exact Or.inr (not_not.mp fun hne => hdigest ⟨hempty, hne⟩)

/-- What a valid request carries. -/
lemma validateRequest_bound (h : validateRequest ids U raw = .ok request) :
    isDigest request.workspaceContentDigest = true ∧ request.requestDigest = request.identity ids := by
  obtain ⟨fields, hfields, -, rfl, -⟩ := validateRequest_ok h
  exact ⟨(validateFields_digest hfields).1, rfl⟩

lemma fromRequest_ok {request : Option IsolatedCommandRequest}
    {captured : IsolatedCommandReplayRequest} (h : fromRequest ids U request = .ok captured) :
    ∃ raw, validateRequest ids U raw = .ok captured := by
  unfold fromRequest at h
  split at h
  · cases h
  · split at h
    · cases h
    · exact ⟨_, h⟩

/-- The hash does not confuse a captured request with what a second validation makes of it. -/
def Distinguished (ids : CommandIdentities) (U : UnicodeTables)
    (request : Option IsolatedCommandRequest) : Prop :=
  ∀ captured fields, fromRequest ids U request = .ok captured →
    validateFields U captured = .ok fields → fields.identity ids = captured.identity ids →
    fields.content = captured.content

/-- A second validation that succeeds changes nothing. -/
lemma revalidated_eq {request : Option IsolatedCommandRequest}
    {captured again : IsolatedCommandReplayRequest} (hdistinct : Distinguished ids U request)
    (hcaptured : fromRequest ids U request = .ok captured)
    (h : validateRequest ids U captured = .ok again) : again = captured := by
  obtain ⟨raw, hraw⟩ := fromRequest_ok hcaptured
  have hidentity := (validateRequest_bound hraw).2
  obtain ⟨fields, hfields, hdigest, rfl, -⟩ := validateRequest_ok h
  have hne : captured.requestDigest ≠ "" := by
    intro hempty
    have hdigest' := ids.isDigest "isolated-command-replay-request-v1" (.object captured.content)
    rw [IsolatedCommandReplayRequest.identity] at hidentity
    rw [← hidentity, hempty] at hdigest'
    exact absurd hdigest' (by decide)
  have hsame := (hdigest.resolve_left hne).symm.trans hidentity
  have hcontent := hdistinct captured fields hcaptured hfields hsame
  have hunbound := unbound_eq_of_content hcontent
  calc ({ fields with requestDigest := fields.identity ids } : IsolatedCommandReplayRequest)
      = { fields.unbound with requestDigest := captured.requestDigest } := by
        rw [hsame, ← hidentity]
        rfl
    _ = captured := by
        rw [hunbound]
        rfl

/-! ## Rows -/

section Rows

variable {row bound : IsolatedCommandReplayRow}

/-- Binding a row sets its digest, and the digest of the workspace after it in normal form. -/
lemma bindRow_fields (h : bindRow ids U row = .ok bound) :
    bound.sequenceNo = row.sequenceNo ∧ bound.request = row.request ∧ bound.result = row.result ∧
      isDigest bound.workspaceContentDigestAfter = true ∧
      (isDigest row.workspaceContentDigestAfter = true →
        bound.workspaceContentDigestAfter = row.workspaceContentDigestAfter) ∧
      isPublic U bound.dump = true := by
  unfold bindRow at h
  simp only [bind_eq_ok_iff, raiseIf_eq_ok_iff, exists_const, pure_eq_ok, Except.ok.injEq,
    requireDigest_eq_ok_iff] at h
  obtain ⟨after, ⟨hnormal, hafter⟩, -, -, -, -, -, -, hpublic, rfl⟩ := h
  refine ⟨rfl, rfl, rfl, hafter, ?_, by simpa using hpublic⟩
  intro hdigest
  show after = row.workspaceContentDigestAfter
  rw [← hnormal, toLower_strip_of_isDigest hdigest]

/-- What `bind_row` returns passes it again. -/
lemma bindRow_bound (h : bindRow ids U row = .ok bound) : bindRow ids U bound = .ok bound := by
  unfold bindRow at h ⊢
  simp only [bind_eq_ok_iff, raiseIf_eq_ok_iff, exists_const, pure_eq_ok, Except.ok.injEq,
    requireDigest_eq_ok_iff] at h ⊢
  obtain ⟨after, ⟨-, hafter⟩, hcommand, hout, herr, _, hresult, -, hpublic, rfl⟩ := h
  exact ⟨after, ⟨toLower_strip_of_isDigest hafter, hafter⟩, hcommand, hout, herr, (), hresult,
    fun hne => hne.2 rfl, hpublic, rfl⟩

end Rows

/-! ## Recording -/

section Recording

variable {recorder : IsolatedCommandReplayRecorder} {captured : IsolatedCommandReplayRequest}
  {rows rows' : List IsolatedCommandReplayRow}

/-- What a command is recorded as. -/
def CommandRun.exchange (ids : CommandIdentities) (U : UnicodeTables) (run : CommandRun) :
    Except ReplayError IsolatedCommandReplayRequest × Option IsolatedCommandResult :=
  (fromRequest ids U run.request, run.result)

def IsolatedCommandReplayRow.exchange (row : IsolatedCommandReplayRow) :
    Except ReplayError IsolatedCommandReplayRequest × Option IsolatedCommandResult :=
  (.ok row.request, some row.result)

/-- The rows of a recorder. -/
structure Recorded (ids : CommandIdentities) (U : UnicodeTables) (runs : List CommandRun)
    (rows : List IsolatedCommandReplayRow) : Prop where
  commands : runs.map (·.exchange ids U) = rows.map (·.exchange)
  requests : ∀ row ∈ rows, validateRequest ids U row.request = .ok row.request
  bound : ∀ row ∈ rows, bindRow ids U row = .ok row
  numbered : rows.map (·.sequenceNo) = List.range rows.length
  chained : Chained rows

/-- Every row that ends the list ends in the workspace. -/
def EndsIn (rows : List IsolatedCommandReplayRow) (digest : String) : Prop :=
  ∀ row ∈ rows.getLast?, row.workspaceContentDigestAfter = digest

variable {runs : List CommandRun}

/-- Linking changes at most where the last row ends. -/
lemma relink_ok (hdigest : isDigest captured.workspaceContentDigest = true)
    (h : relink ids U rows captured = .ok rows') (hrecorded : Recorded ids U runs rows) :
    Recorded ids U runs rows' ∧ EndsIn rows' captured.workspaceContentDigest := by
  unfold relink at h
  split at h
  case h_1 hlast =>
    obtain rfl := Except.ok.inj h
    refine ⟨hrecorded, ?_⟩
    intro row hrow
    rw [hlast] at hrow
    cases hrow
  case h_2 previous hlast =>
    split at h
    case isTrue hsame =>
      obtain rfl := Except.ok.inj h
      refine ⟨hrecorded, ?_⟩
      intro row hrow
      rw [hlast] at hrow
      rwa [← Option.some.inj hrow]
    case isFalse =>
      simp only [bind_eq_ok_iff, pure_eq_ok, Except.ok.injEq] at h
      obtain ⟨row, hrow, rfl⟩ := h
      obtain ⟨before, rfl⟩ := List.getLast?_eq_some_iff.mp hlast
      obtain ⟨hnumber, hrequest, hresult, -, hafter, -⟩ := bindRow_fields hrow
      rw [List.dropLast_concat]
      have hprevious : previous ∈ before ++ [previous] := by simp
      have hmem : ∀ {P : IsolatedCommandReplayRow → Prop},
          (∀ r ∈ before ++ [previous], P r) → P row → ∀ r ∈ before ++ [row], P r := by
        intro P hold hnew r hr
        rcases List.mem_append.mp hr with hr | hr
        · exact hold r (List.mem_append_left _ hr)
        · rwa [List.mem_singleton.mp hr]
      constructor
      · constructor
        · rw [hrecorded.commands, List.map_append, List.map_append, List.map_singleton,
            List.map_singleton, IsolatedCommandReplayRow.exchange, IsolatedCommandReplayRow.exchange,
            hrequest, hresult]
        · refine hmem hrecorded.requests ?_
          rw [hrequest]
          exact hrecorded.requests previous hprevious
        · exact hmem hrecorded.bound (bindRow_bound hrow)
        · have hnumbered := hrecorded.numbered
          rw [List.map_append, List.map_singleton, List.length_append] at hnumbered ⊢
          rwa [hnumber]
        · have hchained := hrecorded.chained
          unfold Chained at hchained ⊢
          rw [List.isChain_append] at hchained ⊢
          refine ⟨hchained.1, List.isChain_singleton _, ?_⟩
          intro x hx y hy
          obtain rfl : row = y := by simpa using hy
          rw [hrequest]
          exact hchained.2.2 x hx previous (by simp)
      · intro r hr
        obtain rfl : row = r := by simpa using hr
        exact hafter hdigest

lemma captureRequest_apply (request : Option IsolatedCommandRequest)
    (recorder : IsolatedCommandReplayRecorder) :
    captureRequest ids U request recorder =
      Stateful.commit (fromRequest ids U request >>= linkRows ids U recorder)
        (fun linked recorder => { recorder with rows := linked.2 }) Prod.fst recorder :=
  Stateful.commit_apply _ _ _ _ _

lemma record_apply (result : Option IsolatedCommandResult)
    (workspaceAfter : Option (Option String)) (recorder : IsolatedCommandReplayRecorder) :
    record ids U captured result workspaceAfter recorder =
      Stateful.commit (normalizeCommand ids U captured result >>= nextRow ids U workspaceAfter recorder)
        (fun row recorder => { recorder with rows := recorder.rows ++ [row] }) id recorder :=
  Stateful.commit_apply _ _ _ id _

lemma captureRequest_refused {request : Option IsolatedCommandRequest} {e : ReplayError}
    (h : (captureRequest ids U request recorder).1 = .error e) :
    (captureRequest ids U request recorder).2 = recorder := by
  rw [captureRequest_apply] at h ⊢
  exact (Stateful.commit_error h).2

lemma record_refused {result : Option IsolatedCommandResult}
    {workspaceAfter : Option (Option String)} {e : ReplayError}
    (h : (record ids U captured result workspaceAfter recorder).1 = .error e) :
    (record ids U captured result workspaceAfter recorder).2 = recorder := by
  rw [record_apply] at h ⊢
  exact (Stateful.commit_error h).2

/-- What is recorded of the commands so far. -/
structure RecordLog (ids : CommandIdentities) (U : UnicodeTables) (runs : List CommandRun)
    (recorder : IsolatedCommandReplayRecorder) : Prop where
  notFinalized : recorder.finalized = false
  recorded : Recorded ids U runs recorder.rows

lemma RecordLog.empty : RecordLog ids U [] .empty :=
  ⟨rfl, rfl, by simp [IsolatedCommandReplayRecorder.empty],
    by simp [IsolatedCommandReplayRecorder.empty], rfl, .nil⟩

/-- A captured request finds the last row where it starts. -/
lemma capture_ok {request : Option IsolatedCommandRequest} (h : RecordLog ids U runs recorder)
    (hok : (captureRequest ids U request recorder).1 = .ok captured) :
    fromRequest ids U request = .ok captured ∧
      RecordLog ids U runs (captureRequest ids U request recorder).2 ∧
      EndsIn (captureRequest ids U request recorder).2.rows captured.workspaceContentDigest := by
  rw [captureRequest_apply] at hok ⊢
  obtain ⟨linked, hchecks, hcaptured, hstate⟩ := Stateful.commit_ok hok
  rw [hstate]
  simp only [bind_eq_ok_iff, linkRows, raiseIf_eq_ok_iff, exists_const, pure_eq_ok,
    Except.ok.injEq] at hchecks
  obtain ⟨request', hrequest, -, rows', hrows, rfl⟩ := hchecks
  obtain rfl : request' = captured := hcaptured
  obtain ⟨raw, hraw⟩ := fromRequest_ok hrequest
  obtain ⟨hrecorded, hends⟩ := relink_ok (validateRequest_bound hraw).1 hrows h.recorded
  exact ⟨hrequest, ⟨h.notFinalized, hrecorded⟩, hends⟩

/-- A captured command that is recorded becomes the next row. -/
lemma record_ok {run : CommandRun} {row : IsolatedCommandReplayRow}
    (hdistinct : Distinguished ids U run.request) (h : RecordLog ids U runs recorder)
    (hcaptured : fromRequest ids U run.request = .ok captured)
    (hends : EndsIn recorder.rows captured.workspaceContentDigest)
    (hok : (record ids U captured run.result run.workspaceAfter recorder).1 = .ok row) :
    RecordLog ids U (runs ++ [run]) (record ids U captured run.result run.workspaceAfter recorder).2 := by
  rw [record_apply] at hok ⊢
  obtain ⟨bound, hchecks, -, hstate⟩ := Stateful.commit_ok hok
  rw [hstate]
  simp only [bind_eq_ok_iff, normalizeCommand, nextRow, raiseIf_eq_ok_iff, exists_const, pure_eq_ok,
    Except.ok.injEq] at hchecks
  obtain ⟨command, ⟨again, hagain, result, hresult, rfl⟩, -, after, hafter, hbound⟩ := hchecks
  obtain rfl := revalidated_eq hdistinct hcaptured hagain
  obtain ⟨hnumber, hrequest, hresult', -, -, -⟩ := bindRow_fields hbound
  have hrun : run.result = some result := by
    cases hrun : run.result with
    | none => simp [hrun] at hresult
    | some r =>
      rw [hrun] at hresult
      exact congrArg some (Except.ok.inj hresult)
  refine ⟨h.notFinalized, ?_, ?_, ?_, ?_, ?_⟩
  · rw [List.map_append, List.map_append, h.recorded.commands, List.map_singleton,
      List.map_singleton, CommandRun.exchange, IsolatedCommandReplayRow.exchange, hcaptured, hrun,
      hrequest, hresult']
  · intro r hr
    rcases List.mem_append.mp hr with hr | hr
    · exact h.recorded.requests r hr
    · rw [List.mem_singleton.mp hr, hrequest]
      exact hagain
  · intro r hr
    rcases List.mem_append.mp hr with hr | hr
    · exact h.recorded.bound r hr
    · rw [List.mem_singleton.mp hr]
      exact bindRow_bound hbound
  · rw [List.map_append, List.length_append, List.length_singleton, List.range_succ,
      h.recorded.numbered, List.map_singleton, hnumber]
  · unfold Chained
    rw [List.isChain_append]
    refine ⟨h.recorded.chained, List.isChain_singleton _, ?_⟩
    intro x hx y hy
    obtain rfl : bound = y := by simpa using hy
    rw [hrequest]
    exact hends x hx

/-- The runs whose commands were recorded. -/
def recordedRuns (log : List (CommandRun × Except ReplayError IsolatedCommandReplayRow)) :
    List CommandRun := (answered log).map Prod.fst

/-- The recorder after a run of commands. -/
def recordAll (ids : CommandIdentities) (U : UnicodeTables) (runs : List CommandRun) :
    List (CommandRun × Except ReplayError IsolatedCommandReplayRow) ×
      IsolatedCommandReplayRecorder :=
  playAll (recordCommand ids U) runs .empty

lemma recordLog (hdistinct : ∀ run ∈ runs, Distinguished ids U run.request) :
    RecordLog ids U (recordedRuns (recordAll ids U runs).1) (recordAll ids U runs).2 := by
  refine playAll_invariant (I := fun log recorder => RecordLog ids U (recordedRuns log) recorder)
    ?_ RecordLog.empty
  intro log recorder run hrun h
  have hrefused : ∀ e, recordedRuns (log ++ [(run, .error e)]) = recordedRuns log := by
    intro e
    rw [recordedRuns, answered_append, answered_cons_error, answered_nil, List.append_nil]
    rfl
  unfold recordCommand
  cases hcapture : (captureRequest ids U run.request recorder).1 with
  | error e =>
    rw [Stateful.bind_of_error hcapture, hrefused, captureRequest_refused hcapture]
    exact h
  | ok captured =>
    obtain ⟨hcaptured, hlog, hends⟩ := capture_ok h hcapture
    rw [Stateful.bind_of_ok hcapture]
    cases hrecord : (record ids U captured run.result run.workspaceAfter
        (captureRequest ids U run.request recorder).2).1 with
    | error e =>
      rw [hrefused, record_refused hrecord]
      exact hlog
    | ok row =>
      have hmore : recordedRuns (log ++ [(run, .ok row)]) = recordedRuns log ++ [run] := by
        rw [recordedRuns, answered_append, List.map_append]
        rfl
      rw [hmore]
      exact record_ok (hdistinct run hrun) hlog hcaptured hends hrecord

end Recording

/-! ## Manifests -/

section Manifests

variable {binding : IsolatedCommandReplayBinding} {rows : List IsolatedCommandReplayRow}
  {runs : List CommandRun}

/-- The manifest of the rows, before it is bound. -/
def manifestOf (binding : IsolatedCommandReplayBinding) (rows : List IsolatedCommandReplayRow) :
    IsolatedCommandReplayManifest where
  schemaVersion := isolatedCommandReplaySchemaVersion
  binding := binding
  rows := rows
  manifestDigest := ""

/-- Recorded rows make a manifest if there are any and the binding is public. -/
lemma Recorded.exists_manifest_iff (h : Recorded ids U runs rows) :
    (∃ manifest, bindManifest ids U (manifestOf binding rows) = .ok manifest) ↔
      rows ≠ [] ∧ isPublic U binding.dump = true := by
  have hpublic : ∀ digest, isDigest digest = true →
      (isPublic U { manifestOf binding rows with manifestDigest := digest }.dump = true ↔
        isPublic U binding.dump = true) := by
    intro digest hdigest
    have hschema : isPublic U (.str isolatedCommandReplaySchemaVersion) = true := rfl
    refine isPublic_transcript hschema hdigest ?_
    intro item hitem
    obtain ⟨row, hrow, rfl⟩ := List.mem_map.mp hitem
    exact (bindRow_fields (h.bound row hrow)).2.2.2.2.2
  unfold bindManifest
  simp only [bind_eq_ok_iff, raiseIf_eq_ok_iff, exists_const, pure_eq_ok, Except.ok.injEq]
  constructor
  · rintro ⟨manifest, -, hne, -, -, -, hdump, -⟩
    rw [Bool.not_eq_false, hpublic _ (ids.isDigest _ _)] at hdump
    exact ⟨hne, hdump⟩
  · rintro ⟨hne, hbinding⟩
    refine ⟨_, fun hschema => hschema rfl, hne, fun hnumbers => hnumbers h.numbered,
      fun hchained => hchained h.chained, fun hdigest => hdigest.1 rfl, ?_, rfl⟩
    rw [Bool.not_eq_false, hpublic _ (ids.isDigest _ _)]
    exact hbinding

/-- What a bound manifest is made of; it passes its check again. -/
lemma bindManifest_bound {manifest bound : IsolatedCommandReplayManifest}
    (h : bindManifest ids U manifest = .ok bound) :
    bound = { manifest with manifestDigest := bound.manifestDigest } ∧
      isDigest bound.manifestDigest = true ∧ Chained bound.rows ∧
      bindManifest ids U bound = .ok bound := by
  unfold bindManifest at h ⊢
  simp only [bind_eq_ok_iff, raiseIf_eq_ok_iff, exists_const, pure_eq_ok, Except.ok.injEq] at h ⊢
  obtain ⟨hschema, hne, hnumbers, hchained, -, hpublic, rfl⟩ := h
  exact ⟨rfl, ids.isDigest _ _, not_not.mp hchained, hschema, hne, hnumbers, hchained,
    fun hdigest => hdigest.2 rfl, hpublic, rfl⟩

lemma finalize_apply (recorder : IsolatedCommandReplayRecorder) :
    finalize ids U binding recorder =
      Stateful.commit (bindManifest ids U (manifestOf binding recorder.rows))
        (fun _ recorder => { recorder with finalized := true }) id recorder :=
  Stateful.commit_apply (.ok ())
    (fun (recorder : IsolatedCommandReplayRecorder) (_ : Unit) =>
      bindManifest ids U (manifestOf binding recorder.rows))
    (fun _ recorder => { recorder with finalized := true }) id recorder

/-- A manifest that has been finalized opens as it is. -/
lemma openBackend_of_finalized {recorder : IsolatedCommandReplayRecorder}
    {manifest : IsolatedCommandReplayManifest} (hrecorded : Recorded ids U runs recorder.rows)
    (h : (finalize ids U binding recorder).1 = .ok manifest) :
    openBackend ids U manifest binding = .ok manifest ∧ manifest.rows = recorder.rows ∧
      isDigest manifest.manifestDigest = true := by
  rw [finalize_apply] at h
  obtain ⟨bound, hbind, hbound, -⟩ := Stateful.commit_ok h
  obtain rfl : bound = manifest := hbound
  obtain ⟨hfields, hdigest, -, hagain⟩ := bindManifest_bound hbind
  have hrows : bound.rows = recorder.rows := by rw [hfields]; rfl
  have hbinding : bound.binding = binding := by rw [hfields]; rfl
  refine ⟨?_, hrows, hdigest⟩
  have hmapM : bound.rows.mapM (validateRow ids U) = .ok bound.rows := by
    rw [mapM_eq_ok_iff, List.forall₂_same, hrows]
    intro row hrow
    unfold validateRow
    rw [hrecorded.requests row hrow, ok_bind]
    exact hrecorded.bound row hrow
  unfold openBackend validateManifest
  rw [hmapM, ok_bind, hagain, ok_bind, raiseIf_neg (not_not.mpr hbinding)]
  rfl

end Manifests

/-! ## Calls of the backend -/

section Backend

variable {manifest : IsolatedCommandReplayManifest} {state : BackendState}
  {request : Option IsolatedCommandRequest}

/-- The state with both workspace digests set. -/
def BackendState.located (state : BackendState) (physical expected : String) : BackendState :=
  { state with
    physicalWorkspaceDigest := some physical
    virtualWorkspaceDigest := some expected }

/-- The workspace in which a request may be answered. -/
def MayStart (state : BackendState) (physical expected : String) : Prop :=
  physical = expected ∨ state.cursor ≠ 0 ∧
    (state.begin physical expected).physicalWorkspaceDigest = some physical ∧
    (state.begin physical expected).virtualWorkspaceDigest = some expected

lemma begin_located (physical expected : String) :
    (state.begin physical expected).located physical expected = state.located physical expected := by
  unfold BackendState.begin
  cases state.virtualWorkspaceDigest <;> rfl

lemma begin_cursor (state : BackendState) (physical expected : String) :
    (state.begin physical expected).cursor = state.cursor := by
  unfold BackendState.begin
  cases state.virtualWorkspaceDigest <;> rfl

variable {physical expected : String}

lemma located_eq_self (hphysical : state.physicalWorkspaceDigest = some physical)
    (hvirtual : state.virtualWorkspaceDigest = some expected) :
    state.located physical expected = state := by
  unfold BackendState.located
  rw [← hphysical, ← hvirtual]

lemma trackWorkspace_of_mayStart (sequenceNo : ℕ) (h : MayStart state physical expected) :
    trackWorkspace state physical expected sequenceNo = (.ok (), state.located physical expected) := by
  have hcursor := begin_cursor state physical expected
  unfold trackWorkspace
  simp only
  rw [← begin_located]
  rcases h with rfl | ⟨hne, hphysical, hvirtual⟩
  · rw [if_neg (by simp), if_pos rfl]
    rfl
  · rw [if_neg (by simp [hcursor, hne])]
    split
    · rfl
    · rw [if_pos ⟨hphysical, hvirtual⟩, located_eq_self hphysical hvirtual]

lemma trackWorkspace_of_not_mayStart (sequenceNo : ℕ) (h : ¬MayStart state physical expected) :
    ∃ e, trackWorkspace state physical expected sequenceNo =
      (.error e, state.begin physical expected) := by
  have hcursor := begin_cursor state physical expected
  unfold MayStart at h
  unfold trackWorkspace
  simp only
  split
  · exact ⟨_, rfl⟩
  · rename_i hzero
    have hne : physical ≠ expected := fun heq => h (Or.inl heq)
    rw [if_neg hne, if_neg]
    · exact ⟨_, rfl⟩
    · intro hboth
      refine h (Or.inr ⟨fun hstart => hzero ⟨?_, hne⟩, hboth⟩)
      rw [hcursor, hstart]

/-- The request and the row that a call is about, if it gets that far. -/
def Selects (ids : CommandIdentities) (U : UnicodeTables) (manifest : IsolatedCommandReplayManifest)
    (state : BackendState) (request : Option IsolatedCommandRequest)
    (replayRequest : IsolatedCommandReplayRequest) (row : IsolatedCommandReplayRow) : Prop :=
  fromRequest ids U request = .ok replayRequest ∧ state.cancelled = false ∧
    manifest.rows[state.cursor]? = some row

lemma selectRow_ok {selected : IsolatedCommandReplayRequest × IsolatedCommandReplayRow}
    (h : selectRow ids U manifest state request = .ok selected) :
    Selects ids U manifest state request selected.1 selected.2 := by
  unfold selectRow at h
  cases hrequest : fromRequest ids U request with
  | error e => simp [hrequest, Except.mapError] at h
  | ok replayRequest =>
    simp only [hrequest, Except.mapError, ok_bind, bind_eq_ok_iff, raiseIf_eq_ok_iff] at h
    obtain ⟨_, hcancelled, hrow⟩ := h
    split at hrow
    case h_1 row hget =>
      obtain rfl := Except.ok.inj hrow
      exact ⟨hrequest, by simpa using hcancelled, hget⟩
    case h_2 => cases hrow

variable {replayRequest : IsolatedCommandReplayRequest} {row : IsolatedCommandReplayRow}

lemma selectRow_of_selects (h : Selects ids U manifest state request replayRequest row) :
    selectRow ids U manifest state request = .ok (replayRequest, row) := by
  obtain ⟨hrequest, hcancelled, hrow⟩ := h
  unfold selectRow
  rw [hrequest, Except.mapError, ok_bind, raiseIf_neg (by simp [hcancelled]), ok_bind, hrow]
  rfl

/-- All that a call can do. -/
inductive Outcome (ids : CommandIdentities) (U : UnicodeTables)
    (manifest : IsolatedCommandReplayManifest) (state : BackendState)
    (request : Option IsolatedCommandRequest) :
    Except ReplayError IsolatedCommandResult × BackendState → Prop
  /-- No row is looked at. -/
  | unselected (error : ReplayError) : Outcome ids U manifest state request (.error error, state)
  | elsewhere {replayRequest : IsolatedCommandReplayRequest} {row : IsolatedCommandReplayRow}
      (error : ReplayError) (selects : Selects ids U manifest state request replayRequest row)
      (not : ¬MayStart state replayRequest.workspaceContentDigest row.request.workspaceContentDigest) :
      Outcome ids U manifest state request
        (.error error,
          state.begin replayRequest.workspaceContentDigest row.request.workspaceContentDigest)
  | mismatched {replayRequest : IsolatedCommandReplayRequest} {row : IsolatedCommandReplayRow}
      (error : ReplayError) (selects : Selects ids U manifest state request replayRequest row)
      (starts : MayStart state replayRequest.workspaceContentDigest
        row.request.workspaceContentDigest) :
      Outcome ids U manifest state request
        (.error error,
          state.located replayRequest.workspaceContentDigest row.request.workspaceContentDigest)
  | answered {replayRequest : IsolatedCommandReplayRequest} {row : IsolatedCommandReplayRow}
      (selects : Selects ids U manifest state request replayRequest row)
      (starts : MayStart state replayRequest.workspaceContentDigest
        row.request.workspaceContentDigest)
      (shape : row.request.shape = replayRequest.shape) :
      Outcome ids U manifest state request
        (.ok row.result,
          (state.located replayRequest.workspaceContentDigest
            row.request.workspaceContentDigest).advance row)

lemma run_outcome : Outcome ids U manifest state request (run ids U manifest request state) := by
  unfold run
  cases hselect : selectRow ids U manifest state request with
  | error e => exact .unselected e
  | ok selected =>
    obtain ⟨replayRequest, row⟩ := selected
    have hselects := selectRow_ok hselect
    simp only
    by_cases hstarts : MayStart state replayRequest.workspaceContentDigest
      row.request.workspaceContentDigest
    · rw [trackWorkspace_of_mayStart row.sequenceNo hstarts]
      simp only
      split
      · exact .mismatched _ hselects hstarts
      · rename_i hshape
        exact .answered hselects hstarts (not_not.mp hshape)
    · obtain ⟨e, htrack⟩ := trackWorkspace_of_not_mayStart row.sequenceNo hstarts
      rw [htrack]
      exact .elsewhere e hselects hstarts

/-- A call in the recorded workspace with the recorded fields is answered. -/
lemma run_of_selects (h : Selects ids U manifest state request replayRequest row)
    (hstarts : MayStart state replayRequest.workspaceContentDigest
      row.request.workspaceContentDigest) (hshape : row.request.shape = replayRequest.shape) :
    run ids U manifest request state =
      (.ok row.result, (state.located replayRequest.workspaceContentDigest
        row.request.workspaceContentDigest).advance row) := by
  unfold run
  rw [selectRow_of_selects h]
  simp only
  rw [trackWorkspace_of_mayStart row.sequenceNo hstarts]
  simp only
  rw [if_neg (not_not.mpr hshape)]

end Backend

end Agintor.Isolation
