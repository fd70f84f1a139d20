import Agintor.Kernel.CompositeReplay

/-!
# A replay gives back the recording

The recorder keeps what the manifest asks for: rows that pass their own check, numbered in order,
with distinct requests and responses. The provider reads them once, in order.
-/

namespace Agintor.Kernel.Replay

open Core Contracts Lib

variable {ids : Identities} {U : UnicodeTables} {binding : CompositeReplayBinding}

/-! ## Rows and manifests -/

variable {row bound : CompositeReplayRow}

/-- What `bind_row` returns passes it again. -/
lemma bindRow_bound (h : bindRow ids U row = .ok bound) : bindRow ids U bound = .ok bound := by
  unfold bindRow at h ⊢
  simp only [bind_eq_ok_iff, raiseIf_eq_ok_iff, exists_const, pure_eq_ok,
    Except.ok.injEq] at h ⊢
  obtain ⟨husage, hcost, hid, hlength, -, hpublic, rfl⟩ := h
  exact ⟨husage, hcost, hid, hlength, fun hne => hne.2 rfl, hpublic, rfl⟩

/-- Binding a row sets its digest and nothing else. -/
lemma bindRow_fields (h : bindRow ids U row = .ok bound) :
    bound.sequenceNo = row.sequenceNo ∧ bound.requestDigest = row.requestDigest ∧
      bound.turn = row.turn ∧ bound.usage = row.usage := by
  unfold bindRow at h
  simp only [bind_eq_ok_iff, raiseIf_eq_ok_iff, exists_const, pure_eq_ok, Except.ok.injEq] at h
  obtain ⟨-, -, -, -, -, -, rfl⟩ := h
  exact ⟨rfl, rfl, rfl, rfl⟩

lemma bindRow_public (h : bindRow ids U row = .ok bound) : isPublic U bound.dump = true := by
  unfold bindRow at h
  simp only [bind_eq_ok_iff, raiseIf_eq_ok_iff, exists_const, pure_eq_ok,
    Except.ok.injEq] at h
  obtain ⟨-, -, -, -, -, hpublic, rfl⟩ := h
  simpa using hpublic

/-- A manifest is public if its binding and its rows are. -/
lemma isPublic_manifest {manifest : CompositeReplayManifest}
    (hschema : manifest.schemaVersion = compositeReplaySchemaVersion)
    (hdigest : isDigest manifest.manifestDigest = true)
    (hrows : ∀ row ∈ manifest.rows, isPublic U row.dump = true) :
    isPublic U manifest.dump = true ↔ isPublic U manifest.binding.dump = true := by
  refine isPublic_transcript ?_ hdigest ?_
  · rw [hschema]
    rfl
  · intro item hitem
    obtain ⟨row, hrow, rfl⟩ := List.mem_map.mp hitem
    exact hrows row hrow

/-- The rows of a recorder. -/
structure Recorded (ids : Identities) (U : UnicodeTables) (rows : List CompositeReplayRow) :
    Prop where
  bound : ∀ row ∈ rows, bindRow ids U row = .ok row
  numbered : rows.map (·.sequenceNo) = List.range rows.length
  requests : (rows.map (·.requestDigest)).Nodup
  responses : (rows.map (·.usage.responseId)).Nodup

variable {rows : List CompositeReplayRow}

/-- The manifest of the rows, before it is bound. -/
def manifestOf (binding : CompositeReplayBinding) (rows : List CompositeReplayRow) :
    CompositeReplayManifest where
  schemaVersion := compositeReplaySchemaVersion
  binding := binding
  rows := rows
  manifestDigest := ""

/-- Recorded rows make a manifest if there are any and the binding is public. -/
lemma Recorded.exists_manifest_iff (h : Recorded ids U rows) :
    (∃ manifest, bindManifest ids U (manifestOf binding rows) = .ok manifest) ↔
      rows ≠ [] ∧ isPublic U binding.dump = true := by
  have hpublic : ∀ digest, isDigest digest = true →
      (isPublic U { manifestOf binding rows with manifestDigest := digest }.dump = true ↔
        isPublic U binding.dump = true) := by
    intro digest hdigest
    exact isPublic_manifest rfl hdigest fun row hrow => bindRow_public (h.bound row hrow)
  unfold bindManifest
  simp only [bind_eq_ok_iff, raiseIf_eq_ok_iff, exists_const, pure_eq_ok,
    Except.ok.injEq]
  constructor
  · rintro ⟨manifest, -, hne, -, -, -, -, hdump, -⟩
    rw [Bool.not_eq_false, hpublic _ (ids.isDigest _ _)] at hdump
    exact ⟨hne, hdump⟩
  · rintro ⟨hne, hbinding⟩
    refine ⟨_, fun hschema => hschema rfl, hne, fun hnumbers => hnumbers h.numbered,
      fun hrequests => hrequests h.requests, fun hresponses => hresponses h.responses,
      fun hdigest => hdigest.1 rfl, ?_, rfl⟩
    rw [Bool.not_eq_false, hpublic _ (ids.isDigest _ _)]
    exact hbinding

/-- What a bound manifest is made of; it passes its check again. -/
lemma bindManifest_bound {manifest bound : CompositeReplayManifest}
    (h : bindManifest ids U manifest = .ok bound) :
    bound = { manifest with manifestDigest := bound.manifestDigest } ∧
      isDigest bound.manifestDigest = true ∧ bindManifest ids U bound = .ok bound := by
  unfold bindManifest at h ⊢
  simp only [bind_eq_ok_iff, raiseIf_eq_ok_iff, exists_const, pure_eq_ok,
    Except.ok.injEq] at h ⊢
  obtain ⟨hschema, hne, hnumbers, hrequests, hresponses, -, hpublic, rfl⟩ := h
  exact ⟨rfl, ids.isDigest _ _, hschema, hne, hnumbers, hrequests, hresponses,
    fun hdigest => hdigest.2 rfl, hpublic, rfl⟩

/-! ## Recording -/

section Recording

variable {recorder : CompositeReplayRecorder} {call : RecordCall}

lemma record_apply (call : RecordCall) (recorder : CompositeReplayRecorder) :
    record ids U binding call recorder =
      Stateful.commit (normalizeExchange ids U binding call >>= nextRow ids U recorder)
        (fun row recorder => { recorder with rows := recorder.rows ++ [row] }) id recorder :=
  Stateful.commit_apply _ _ _ id _

/-- A rejected record leaves the recorder as it was. -/
lemma record_rejected {e : ReplayError} (h : (record ids U binding call recorder).1 = .error e) :
    (record ids U binding call recorder).2 = recorder := by
  rw [record_apply] at h ⊢
  exact (Stateful.commit_error h).2

/-- An accepted record is a row with the request's digest, the turn and the usage. -/
def Records (ids : Identities) (call : RecordCall) (row : CompositeReplayRow) : Prop :=
  ∃ request usage, call.request = some request ∧ row.requestDigest = request.requestDigest ids ∧
    call.turn = .turn row.turn ∧ call.usage = some usage ∧ row.usage = usage

lemma validated_eq_ok_iff {α ε : Type} {argument : Option α} {error : ε} {a : α} :
    validated argument error = .ok a ↔ argument = some a := by
  cases argument <;> simp [validated]

lemma record_accepted {row : CompositeReplayRow}
    (h : (record ids U binding call recorder).1 = .ok row) :
    (record ids U binding call recorder).2 = { recorder with rows := recorder.rows ++ [row] } ∧
      Records ids call row ∧ (Recorded ids U recorder.rows →
        Recorded ids U (recorder.rows ++ [row])) := by
  rw [record_apply] at h ⊢
  obtain ⟨row', hchecks, hrow', hstate⟩ := Stateful.commit_ok h
  obtain rfl : row' = row := hrow'
  refine ⟨hstate, ?_⟩
  rw [bind_eq_ok_iff] at hchecks
  obtain ⟨exchange, hexchange, hrow⟩ := hchecks
  unfold nextRow at hrow
  simp only [bind_eq_ok_iff, raiseIf_eq_ok_iff, exists_const, pure_eq_ok,
    Except.ok.injEq] at hrow
  obtain ⟨-, bound, hbound, hrequest, hresponse, rfl⟩ := hrow
  obtain ⟨hnumber, hdigest, hboundTurn, hboundUsage⟩ := bindRow_fields hbound
  constructor
  · unfold normalizeExchange at hexchange
    simp only [bind_eq_ok_iff, raiseIf_eq_ok_iff, exists_const, pure_eq_ok,
      Except.ok.injEq, validated_eq_ok_iff] at hexchange
    obtain ⟨request, hrequest', -, -, session, -, -, turn, hturn, usage, husage, rfl⟩ := hexchange
    refine ⟨request, usage, hrequest', hdigest, ?_, husage, hboundUsage⟩
    have hturn' : call.turn = .turn turn := by
      unfold normalizeTurn at hturn
      cases hcall : call.turn with
      | turn t =>
        rw [hcall] at hturn
        rw [Except.ok.inj hturn]
      | invalid => simp [hcall] at hturn
      | notMapping => simp [hcall] at hturn
      | unknownKind => simp [hcall] at hturn
    rw [hturn', hboundTurn]
  · intro h
    constructor
    · intro row hmem
      rcases List.mem_append.mp hmem with hold | hnew
      · exact h.bound row hold
      · rw [List.mem_singleton.mp hnew]
        exact bindRow_bound hbound
    · rw [List.map_append, List.length_append, List.length_singleton, List.range_succ, h.numbered,
        List.map_singleton, hnumber]
    · rw [List.map_append, List.map_singleton]
      rw [← List.concat_eq_append]
      exact h.requests.concat hrequest
    · rw [List.map_append, List.map_singleton]
      rw [← List.concat_eq_append]
      exact h.responses.concat hresponse

/-- The recorder after a session of records. -/
def recordAll (ids : Identities) (U : UnicodeTables) (binding : CompositeReplayBinding)
    (calls : List RecordCall) :
    List (RecordCall × Except ReplayError CompositeReplayRow) × CompositeReplayRecorder :=
  playAll (record ids U binding) calls .empty

/-- The rows are the accepted records, in order. -/
structure RecordLog (ids : Identities) (U : UnicodeTables)
    (log : List (RecordCall × Except ReplayError CompositeReplayRow))
    (recorder : CompositeReplayRecorder) : Prop where
  rows : recorder.rows = (answered log).map Prod.snd
  notFinalized : recorder.finalized = false
  records : ∀ entry ∈ answered log, Records ids entry.1 entry.2
  recorded : Recorded ids U recorder.rows

lemma recordLog (calls : List RecordCall) :
    RecordLog ids U (recordAll ids U binding calls).1 (recordAll ids U binding calls).2 := by
  refine playAll_invariant (I := RecordLog ids U) ?_ ?_
  · intro log recorder call _ h
    cases houtcome : (record ids U binding call recorder).1 with
    | error e =>
      have hsame : answered (log ++ [(call, .error e)]) = answered log := by
        rw [answered_append, answered_cons_error, answered_nil, List.append_nil]
      rw [record_rejected houtcome]
      exact ⟨by rw [hsame, h.rows], h.notFinalized, by rw [hsame]; exact h.records, h.recorded⟩
    | ok row =>
      obtain ⟨hstate, hrow, hkeep⟩ := record_accepted houtcome
      have hmore : answered (log ++ [(call, .ok row)]) = answered log ++ [(call, row)] := by
        rw [answered_append, answered_cons_ok, answered_nil]
      rw [hstate]
      refine ⟨by rw [hmore, List.map_append, h.rows]; rfl, h.notFinalized, ?_, hkeep h.recorded⟩
      rw [hmore]
      intro entry hentry
      rcases List.mem_append.mp hentry with hold | hnew
      · exact h.records entry hold
      · rw [List.mem_singleton.mp hnew]
        exact hrow
  · refine ⟨rfl, rfl, by simp, ?_⟩
    exact ⟨by simp [CompositeReplayRecorder.empty], rfl, List.nodup_nil, List.nodup_nil⟩

lemma finalize_apply (recorder : CompositeReplayRecorder) :
    finalize ids U binding recorder =
      Stateful.commit (bindManifest ids U (manifestOf binding recorder.rows))
        (fun _ recorder => { recorder with finalized := true }) id recorder :=
  Stateful.commit_apply (.ok ())
    (fun (recorder : CompositeReplayRecorder) (_ : Unit) =>
      bindManifest ids U (manifestOf binding recorder.rows))
    (fun _ recorder => { recorder with finalized := true }) id recorder

end Recording

/-! ## Replaying -/

section Replaying

variable {manifest : CompositeReplayManifest} {state : ProviderState} {call : InvokeCall}

lemma invoke_apply (call : InvokeCall) (state : ProviderState) :
    invoke ids U manifest call state =
      Stateful.commit (authorize ids U manifest call >>= selectRow ids manifest state call)
        (fun row state =>
          { cursor := state.cursor + 1
            consumedRequestDigests := state.consumedRequestDigests ++ [row.requestDigest] })
        (fun row => { response := row.turn, usage := row.usage }) state :=
  Stateful.commit_apply _ _ _ _ _

/-- The digest of the request of a call, if it has a valid one. -/
def InvokeCall.requestDigest (ids : Identities) (call : InvokeCall) : Option String :=
  call.request.map (·.requestDigest ids)

/-- The row answers the request. -/
def Fits (ids : Identities) (row : CompositeReplayRow) (call : InvokeCall) : Prop :=
  call.requestDigest ids = some row.requestDigest

def CompositeReplayRow.answer (row : CompositeReplayRow) : ProviderInvocation :=
  { response := row.turn, usage := row.usage }

/-- A call is answered from the row at the cursor. -/
lemma readsOnce : ReadsOnce (invoke ids U manifest) manifest.rows ProviderState.cursor
    CompositeReplayRow.answer (Fits ids) where
  answers := by
    intro state call answer h
    rw [invoke_apply] at h ⊢
    obtain ⟨row, hchecks, hanswer, hstate⟩ := Stateful.commit_ok h
    rw [bind_eq_ok_iff] at hchecks
    obtain ⟨request, hauthorize, hselect⟩ := hchecks
    unfold authorize at hauthorize
    unfold selectRow at hselect
    simp only [bind_eq_ok_iff, raiseIf_eq_ok_iff, exists_const, pure_eq_ok, Except.ok.injEq,
      validated_eq_ok_iff] at hauthorize hselect
    obtain ⟨-, -, -, request', hrequest, -, -, -, -, rfl⟩ := hauthorize
    obtain ⟨-, -, -, row', hrow, hdigest, -, -, rfl⟩ := hselect
    refine ⟨row', hrow, ?_, hanswer, by rw [hstate]⟩
    unfold Fits InvokeCall.requestDigest
    rw [hrequest, Option.map_some, not_not.mp hdigest]
  refuses := by
    intro state call e h
    rw [invoke_apply] at h ⊢
    rw [(Stateful.commit_error h).2]

variable {e : InvokeError}

lemma invoke_refused (h : (invoke ids U manifest call state).1 = .error e) :
    (invoke ids U manifest call state).2 = state := by
  rw [invoke_apply] at h ⊢
  exact (Stateful.commit_error h).2

/-- A refusal that says that nothing was sent. -/
def RefusedBeforeSend (e : InvokeError) : Prop := ∃ error, e = .refused error ∧ error.requestSent = false

lemma refusedBeforeSend (code : String) (sequenceNo : Option ℕ) (cancelled expired : Bool) :
    RefusedBeforeSend (invocationError code sequenceNo cancelled expired) := ⟨_, rfl, rfl⟩

lemma checkControl_error {reading : ControlReading} (h : checkControl reading = .error e) :
    RefusedBeforeSend e := by
  unfold checkControl at h
  simp only [bind_eq_error_iff, raiseIf_eq_error_iff] at h
  rcases h with ⟨-, rfl⟩ | ⟨_, -, -, rfl⟩
  · exact refusedBeforeSend _ _ _ _
  · exact refusedBeforeSend _ _ _ _

lemma validated_eq_error_iff {α ε : Type} {argument : Option α} {error e : ε} :
    validated argument error = .error e ↔ argument = none ∧ error = e := by
  cases argument <;> simp [validated]

/-- A request whose session context read has a `context_digest` that is no digest. -/
def MalformedSession (ids : Identities) (call : InvokeCall) : Prop :=
  ∃ request message, call.request = some request ∧
    requestPublicSessionContextDigest ids request = .error (.validation message)

variable {request : ActorCallRequest}

lemma checkSession_error (h : checkSession ids manifest request = .error e) : RefusedBeforeSend e ∨
      ∃ message, requestPublicSessionContextDigest ids request = .error (.validation message) := by
  unfold checkSession at h
  split at h
  · rw [raiseIf_eq_error_iff] at h
    rw [← h.2]
    exact Or.inl (refusedBeforeSend _ _ _ _)
  · rw [← Except.error.inj h]
    exact Or.inl (refusedBeforeSend _ _ _ _)
  case h_3 message hdigest => exact Or.inr ⟨message, hdigest⟩

lemma authorize_error (h : authorize ids U manifest call = .error e) :
    RefusedBeforeSend e ∨ MalformedSession ids call := by
  unfold authorize at h
  simp only [bind_eq_error_iff, raiseIf_eq_error_iff, raiseIf_eq_ok_iff, validated_eq_error_iff,
    validated_eq_ok_iff] at h
  rcases h with hentry | ⟨_, -, hcredential | ⟨_, -, hinvalid | ⟨request, hrequest, hrest⟩⟩⟩
  · exact Or.inl (checkControl_error hentry)
  · rw [← hcredential.2]
    exact Or.inl (refusedBeforeSend _ _ _ _)
  · rw [← hinvalid.2]
    exact Or.inl (refusedBeforeSend _ _ _ _)
  · rcases hrest with hpublic | ⟨_, -, hidentity | ⟨_, -, hsession | ⟨_, -, hdone⟩⟩⟩
    · rw [← hpublic.2]
      exact Or.inl (refusedBeforeSend _ _ _ _)
    · rw [← hidentity.2]
      exact Or.inl (refusedBeforeSend _ _ _ _)
    · rcases checkSession_error hsession with hrefused | ⟨message, hmessage⟩
      · exact Or.inl hrefused
      · exact Or.inr ⟨request, message, hrequest, hmessage⟩
    · simp at hdone

lemma selectRow_error (h : selectRow ids manifest state call request = .error e) :
    RefusedBeforeSend e := by
  unfold selectRow at h
  simp only [bind_eq_error_iff, raiseIf_eq_error_iff, raiseIf_eq_ok_iff, validated_eq_error_iff,
    validated_eq_ok_iff] at h
  rcases h with hlock | ⟨_, -, hreuse | ⟨_, -, hmissing | ⟨row, -, hrest⟩⟩⟩
  · exact checkControl_error hlock
  · rw [← hreuse.2]
    exact refusedBeforeSend _ _ _ _
  · rw [← hmissing.2]
    exact refusedBeforeSend _ _ _ _
  · rcases hrest with hmismatch | ⟨_, -, hanswer | ⟨_, -, hdone⟩⟩
    · rw [← hmismatch.2]
      exact refusedBeforeSend _ _ _ _
    · exact checkControl_error hanswer
    · simp at hdone

lemma invoke_error (h : (invoke ids U manifest call state).1 = .error e) :
    RefusedBeforeSend e ∨ MalformedSession ids call := by
  rw [invoke_apply] at h
  rcases bind_eq_error_iff.mp (Stateful.commit_error h).1 with hauthorize | ⟨request, -, hselect⟩
  · exact authorize_error hauthorize
  · exact Or.inl (selectRow_error hselect)

/-! ## Reconciliation -/

/-- A provider is reconciled when its cursor is past the last row. -/
lemma exists_assertReconciled_iff (hdigest : isDigest manifest.manifestDigest = true)
    (hle : state.cursor ≤ manifest.rows.length) :
    (∃ reconciliation, assertReconciled manifest state = .ok reconciliation) ↔
      state.cursor = manifest.rows.length := by
  have hlength : (manifest.rows.take state.cursor).length = state.cursor := by
    rw [List.length_take]
    omega
  unfold assertReconciled reconciliation validateReconciliation
  simp only [bind_eq_ok_iff, raiseIf_eq_ok_iff, exists_const, pure_eq_ok, Except.ok.injEq,
    List.length_map, List.length_drop, hlength, toLower_strip_of_isDigest hdigest, hdigest]
  constructor
  · rintro ⟨reconciliation, validated, hvalidated, hcomplete, -⟩
    obtain ⟨-, -, -, -, -, rfl⟩ := hvalidated
    simpa using hcomplete
  · intro hcursor
    refine ⟨_, _, ⟨by simp, by omega, by simp, by simp, by simp, rfl⟩, ?_, rfl⟩
    simpa using hcursor

/-! ## Sessions -/

/-- The calls made on a provider that has just been opened. -/
def invokeAll (ids : Identities) (U : UnicodeTables) (manifest : CompositeReplayManifest)
    (calls : List InvokeCall) :
    List (InvokeCall × Except InvokeError ProviderInvocation) × ProviderState :=
  playAll (invoke ids U manifest) calls .empty

/-- The digests of the requests that were answered. -/
def answeredDigests (ids : Identities) (log : List (InvokeCall × Except InvokeError ProviderInvocation)) :
    List (Option String) :=
  (answered log).map fun entry => entry.1.requestDigest ids

/-- What a replay of `manifest` does in a session of calls. -/
structure Replays (ids : Identities) (U : UnicodeTables) (manifest : CompositeReplayManifest)
    (calls : List InvokeCall) : Prop where
  /-- The answers are the turns and usages of the first rows, in order. -/
  answers : (answered (invokeAll ids U manifest calls).1).map Prod.snd =
    (manifest.rows.take (answered (invokeAll ids U manifest calls).1).length).map (·.answer)
  /-- The requests answered are the first requests of the recording, in order. -/
  requests : answeredDigests ids (invokeAll ids U manifest calls).1 =
    (manifest.rows.take (answered (invokeAll ids U manifest calls).1).length).map
      fun row => some row.requestDigest
  /-- No row is answered twice. -/
  once : (answeredDigests ids (invokeAll ids U manifest calls).1).Nodup
  /-- A refused call changes nothing. -/
  refused : ∀ call state e, (invoke ids U manifest call state).1 = .error e →
    (invoke ids U manifest call state).2 = state
  /-- It reports that nothing was sent, unless its session context has no digest. -/
  notSent : ∀ call state e, (invoke ids U manifest call state).1 = .error e →
    ¬MalformedSession ids call → RefusedBeforeSend e
  /-- The replay is reconciled exactly when every recorded request has been answered. -/
  reconciled : (∃ reconciliation,
      assertReconciled manifest (invokeAll ids U manifest calls).2 = .ok reconciliation) ↔
    ∀ row ∈ manifest.rows,
      some row.requestDigest ∈ answeredDigests ids (invokeAll ids U manifest calls).1

lemma replays (hrows : (manifest.rows.map (·.requestDigest)).Nodup)
    (hdigest : isDigest manifest.manifestDigest = true) (calls : List InvokeCall) :
    Replays ids U manifest calls := by
  have hreads : ReadsOnce (invoke ids U manifest) manifest.rows ProviderState.cursor
      CompositeReplayRow.answer (Fits ids) := readsOnce
  have hsession := hreads.session (s := .empty) rfl calls
  have hle := hreads.length_le (s := .empty) rfl calls
  have hrequests : answeredDigests ids (invokeAll ids U manifest calls).1 =
      (manifest.rows.take (answered (invokeAll ids U manifest calls).1).length).map
        fun row => some row.requestDigest :=
    map_eq_map_of_forall₂ hsession.2 fun entry row hrow => hrow.1
  have hnodup : (manifest.rows.map fun row => some row.requestDigest).Nodup := by
    have hsome := hrows.map (Option.some_injective String)
    rwa [List.map_map] at hsome
  have htake : ∀ n, ((manifest.rows.take n).map fun row => some row.requestDigest) =
      (manifest.rows.map fun row => some row.requestDigest).take n := fun n => List.map_take
  refine ⟨hreads.answers_eq rfl calls, hrequests, ?_, fun call state e h => invoke_refused h,
    fun call state e h hsession => (invoke_error h).resolve_right hsession, ?_⟩
  · rw [hrequests, htake]
    exact hnodup.sublist (List.take_sublist _ _)
  · have hcursor : (invokeAll ids U manifest calls).2.cursor =
        (answered (invokeAll ids U manifest calls).1).length := hsession.1
    rw [exists_assertReconciled_iff hdigest (by rw [hcursor]; exact hle), hcursor, hrequests]
    constructor
    · intro hall row hrow
      rw [hall, List.take_length]
      exact List.mem_map.mpr ⟨row, hrow, rfl⟩
    · intro hall
      -- distinct digests, all of which are among the first ones
      have hsubset : (manifest.rows.map fun row => some row.requestDigest) ⊆
          (manifest.rows.map fun row => some row.requestDigest).take
            (answered (invokeAll ids U manifest calls).1).length := by
        intro digest hmem
        obtain ⟨row, hrow, rfl⟩ := List.mem_map.mp hmem
        rw [← htake]
        exact hall row hrow
      have hcard := (List.subperm_of_subset hnodup hsubset).length_le
      rw [List.length_take, List.length_map] at hcard
      have hle' : (answered (invokeAll ids U manifest calls).1).length ≤ manifest.rows.length := hle
      omega

end Replaying

/-- What recording does in a session of records. -/
structure Recording (ids : Identities) (U : UnicodeTables) (binding : CompositeReplayBinding)
    (calls : List RecordCall) : Prop where
  /-- A rejected record changes nothing. -/
  rejected : ∀ call recorder e, (record ids U binding call recorder).1 = .error e →
    (record ids U binding call recorder).2 = recorder
  /-- The rows are the accepted records, in order. -/
  rows : (recordAll ids U binding calls).2.rows =
    (answered (recordAll ids U binding calls).1).map Prod.snd
  records : ∀ entry ∈ answered (recordAll ids U binding calls).1, Records ids entry.1 entry.2
  /-- `finalize` gives a manifest that the provider accepts, if a record was accepted and the
  binding is public, and raises otherwise. -/
  finalizes : (∃ manifest,
      (finalize ids U binding (recordAll ids U binding calls).2).1 = .ok manifest ∧
        openReplay ids U manifest binding = .ok manifest) ↔
    answered (recordAll ids U binding calls).1 ≠ [] ∧ isPublic U binding.dump = true

/-- A recording is replayed as it was made. -/
theorem replay_of_recording (ids : Identities) (U : UnicodeTables)
    (binding : CompositeReplayBinding) (records : List RecordCall) :
    Recording ids U binding records ∧
      ∀ manifest, (finalize ids U binding (recordAll ids U binding records).2).1 = .ok manifest →
        openReplay ids U manifest binding = .ok manifest ∧
          manifest.rows = (recordAll ids U binding records).2.rows ∧
          ∀ calls, Replays ids U manifest calls := by
  have hlog : RecordLog ids U (recordAll ids U binding records).1
    (recordAll ids U binding records).2 := recordLog records
  generalize hrecorder : (recordAll ids U binding records).2 = recorder at hlog ⊢
  have hopen : ∀ manifest, (finalize ids U binding recorder).1 = .ok manifest →
      openReplay ids U manifest binding = .ok manifest ∧ manifest.rows = recorder.rows ∧
        isDigest manifest.manifestDigest = true := by
    intro manifest h
    rw [finalize_apply] at h
    obtain ⟨bound, hbind, hbound, -⟩ := Stateful.commit_ok h
    obtain rfl : bound = manifest := hbound
    obtain ⟨hfields, hdigest, hagain⟩ := bindManifest_bound hbind
    have hrows : bound.rows = recorder.rows := by rw [hfields]; rfl
    have hbinding : bound.binding = binding := by rw [hfields]; rfl
    refine ⟨?_, hrows, hdigest⟩
    have hmapM : bound.rows.mapM (bindRow ids U) = .ok bound.rows := by
      rw [mapM_eq_ok_iff, List.forall₂_same, hrows]
      exact hlog.recorded.bound
    unfold openReplay normalizeManifest
    rw [hmapM, ok_bind, hagain, ok_bind, raiseIf_neg (not_not.mpr hbinding)]
    rfl
  constructor
  · refine ⟨fun call recorder e h => record_rejected h, hrecorder ▸ hlog.rows, hlog.records, ?_⟩
    have hne : answered (recordAll ids U binding records).1 ≠ [] ↔ recorder.rows ≠ [] := by
      rw [hlog.rows, ne_eq, ne_eq, List.map_eq_nil_iff]
    rw [hrecorder, hne, ← hlog.recorded.exists_manifest_iff, finalize_apply]
    constructor
    · rintro ⟨manifest, hmanifest, -⟩
      obtain ⟨bound, hbind, -, -⟩ := Stateful.commit_ok hmanifest
      exact ⟨bound, hbind⟩
    · rintro ⟨manifest, hbind⟩
      have hfinalize : (finalize ids U binding recorder).1 = .ok manifest := by
        rw [finalize_apply, hbind]
        rfl
      exact ⟨manifest, by rw [← finalize_apply]; exact hfinalize, (hopen manifest hfinalize).1⟩
  · intro manifest hmanifest
    obtain ⟨haccepted, hrows, hdigest⟩ := hopen manifest hmanifest
    refine ⟨haccepted, hrows, fun calls => replays ?_ hdigest calls⟩
    rw [hrows]
    exact hlog.recorded.requests

/-! ## Recordings with one exchange, and with none -/

def zeroDigest : String := "0000000000000000000000000000000000000000000000000000000000000000"

def sampleIds : Identities := ⟨fun _ _ => zeroDigest, fun _ _ => by decide⟩

def asciiTables : UnicodeTables := ⟨fun _ => false⟩

def sampleBinding : CompositeReplayBinding where
  releaseDigest := zeroDigest
  epochId := "epoch-1"
  epochManifestDigest := zeroDigest
  deployment := ⟨"replay", "recorded", "model-1", zeroDigest, zeroDigest, zeroDigest, zeroDigest⟩
  sourceProtocolDigest := zeroDigest
  taskEnvelopeDigest := zeroDigest
  compiledSemanticDigest := zeroDigest
  publicSessionContextDigest := zeroDigest

def sampleRequest : ActorCallRequest where
  runId := "run-1"
  compiledSemanticDigest := zeroDigest
  callId := "call.repairer.initial"
  actorId := "repairer"
  callKind := .initial
  instruction := "Repair the defect."
  revisionInstruction := none
  allowedToolIds := []
  budgetShareBps := 10000
  context := ⟨"call.repairer.initial", "repairer", zeroDigest, []⟩
  turnIndex := 0
  toolResults := []
  inputTokenEstimate := 100
  maxOutputTokens := 500

def sampleUsage : ProviderUsageReport where
  usageStatus := .known
  inputTokens := some 90
  outputTokens := some 40
  cachedTokens := some 0
  cacheWriteTokens := some 0
  costStatus := .known
  costUsd := some 1
  responseId := some "response-1"
  tokens_reported := by simp
  cached_subcategories := by simp
  cost_reported := by simp
  cost_nonneg := by simp

def sampleRecord : RecordCall where
  request := some sampleRequest
  turn := .turn (.terminal ⟨"done", [], none⟩)
  usage := some sampleUsage

theorem replay_of_recording_exchange :
    ∃ manifest, (finalize sampleIds asciiTables sampleBinding
        (recordAll sampleIds asciiTables sampleBinding [sampleRecord]).2).1 = .ok manifest ∧
      manifest.rows = (recordAll sampleIds asciiTables sampleBinding [sampleRecord]).2.rows ∧
      ∀ calls, Replays sampleIds asciiTables manifest calls := by
  have h := replay_of_recording sampleIds asciiTables sampleBinding [sampleRecord]
  have haccepted : (answered (recordAll sampleIds asciiTables sampleBinding [sampleRecord]).1).length
      = 1 := by decide +kernel
  obtain ⟨manifest, hfinalize, -⟩ := h.1.finalizes.mpr
    ⟨fun hnil => by simp [hnil] at haccepted, by decide +kernel⟩
  obtain ⟨-, hrows, hreplays⟩ := h.2 manifest hfinalize
  exact ⟨manifest, hfinalize, hrows, hreplays⟩

/-- Without a record there is no manifest. -/
theorem not_finalized_of_no_record :
    ¬∃ manifest, (finalize sampleIds asciiTables sampleBinding
      (recordAll sampleIds asciiTables sampleBinding []).2).1 = .ok manifest := by
  rintro ⟨manifest, h⟩
  have herror : (finalize sampleIds asciiTables sampleBinding
      (recordAll sampleIds asciiTables sampleBinding []).2).1 =
    .error (.validation "Tuple should have at least 1 item after validation") := rfl
  rw [herror] at h
  cases h

end Agintor.Kernel.Replay
