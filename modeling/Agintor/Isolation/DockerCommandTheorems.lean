import Agintor.Isolation.DockerCommand
import Agintor.Isolation.CommandRequestTheorems

/-!
# Recording what a container returned

The command backend and the replay row have rules of their own about a result. Whether a result can
be recorded depends on the bytes of the streams, on the exit code of a process that was killed, and
on how the time it took compares with the timeout of the request.
-/

namespace Agintor.Isolation

open Core Contracts Lib

/-! ## Streams -/

/-- What a process wrote to a stream. -/
def written (chunks : List Bytes) : Bytes := (chunks.takeWhile fun chunk => chunk ≠ []).flatten

/-- A buffer that has been given these bytes. -/
structure Buffers (limit : ℕ) (bytes : Bytes) (buffer : BoundedBytes) : Prop where
  value : buffer.value = bytes.take limit
  size : buffer.size = min bytes.length limit
  overflow : buffer.overflow = decide (limit < bytes.length)

lemma buffers_empty (limit : ℕ) : Buffers limit [] .empty :=
  ⟨by simp [BoundedBytes.empty, BoundedBytes.value], by simp [BoundedBytes.empty],
    by simp [BoundedBytes.empty]⟩

variable {result : IsolatedCommandResult} {buffer : BoundedBytes} {c : Char}

/-- A chunk more. -/
lemma Buffers.append {limit : ℕ} {bytes chunk : Bytes} (h : Buffers limit bytes buffer) :
    Buffers limit (bytes ++ chunk) (buffer.append limit chunk) := by
  unfold BoundedBytes.append
  split
  · next hempty =>
    rw [hempty, List.append_nil]
    exact h
  · next hchunk =>
    have hlength : 0 < chunk.length := List.length_pos_iff.mpr hchunk
    have hremaining : limit - buffer.size = limit - bytes.length := by
      rw [h.size]
      omega
    have hoverflow : (buffer.overflow || decide (limit - buffer.size < chunk.length)) =
        decide (limit < (bytes ++ chunk).length) := by
      rw [h.overflow, hremaining, List.length_append, ← Bool.decide_or, decide_eq_decide]
      omega
    dsimp only
    split
    · next hroom =>
      refine ⟨?_, ?_, hoverflow⟩
      · show (buffer.chunks ++ [_]).flatten = _
        rw [List.flatten_append, List.flatten_singleton, List.take_append, hremaining]
        exact congrArg (· ++ _) h.value
      · show buffer.size + (chunk.take _).length = _
        rw [List.length_take, List.length_append, h.size]
        omega
    · next hfull =>
      refine ⟨?_, ?_, hoverflow⟩
      · have hzero : limit - bytes.length = 0 := by omega
        rw [List.take_append, hzero, List.take_zero, List.append_nil]
        exact h.value
      · show buffer.size = _
        rw [List.length_append, h.size]
        omega

variable {text : List Char} {bytes : Bytes}

/-- A stream is kept up to the limit, and the event says whether there was more. -/
lemma buffers_drainStream {limit : ℕ} (chunks : List Bytes) (h : Buffers limit bytes buffer) :
    Buffers limit (bytes ++ written chunks) (drainStream limit chunks buffer) := by
  induction chunks generalizing bytes buffer with
  | nil =>
    rw [written, List.takeWhile_nil, List.flatten_nil, List.append_nil]
    exact h
  | cons chunk chunks ih =>
    rw [drainStream]
    by_cases hchunk : chunk = []
    · rw [if_pos hchunk, written, List.takeWhile_cons_of_neg (by simpa using hchunk),
        List.flatten_nil, List.append_nil]
      exact h
    · rw [if_neg hchunk, written, List.takeWhile_cons_of_pos (by simpa using hchunk),
        List.flatten_cons, ← List.append_assoc]
      exact ih h.append

lemma buffers_drained (limit : ℕ) (chunks : List Bytes) :
    Buffers limit (written chunks) (drainStream limit chunks .empty) :=
  buffers_drainStream chunks (buffers_empty limit)

/-- The chunks that have been read so far are part of what was written. -/
lemma length_written_take_le (chunks : List Bytes) (n : ℕ) :
    (written (chunks.take n)).length ≤ (written chunks).length := by
  induction chunks generalizing n with
  | nil => simp [written]
  | cons chunk chunks ih =>
    cases n with
    | zero => simp [written]
    | succ n =>
      rw [List.take_succ_cons, written, written, List.takeWhile_cons, List.takeWhile_cons]
      split
      · rw [List.flatten_cons, List.flatten_cons, List.length_append, List.length_append]
        exact Nat.add_le_add_left (ih n) _
      · exact Nat.le_refl _

/-! ## Supervision -/

variable {policy : IsolatedCommandPolicy} {request : IsolatedCommandRequest} {process : Process}
  {timeoutS deadline : ℚ} {rounds : List Round}

/-- An event that is set stays set. -/
lemma overflowed_all {m n : ℕ} (h : process.overflowed policy m n = true) :
    ((drainStream policy.outputBytes process.stdout .empty).overflow ||
      (drainStream policy.outputBytes process.stderr .empty).overflow) = true := by
  unfold Process.overflowed at h
  rw [(buffers_drained _ _).overflow, (buffers_drained _ _).overflow] at h ⊢
  simp only [Bool.or_eq_true, decide_eq_true_eq] at h ⊢
  have hout := length_written_take_le process.stdout m
  have herr := length_written_take_le process.stderr n
  omega

/-- A round that the supervisor goes on after. -/
def GoesOn (policy : IsolatedCommandPolicy) (process : Process) (deadline : ℚ) (round : Round) :
    Prop :=
  process.overflowed policy round.stdoutRead round.stderrRead = false ∧ round.clock < deadline

/-- The first round that the supervisor does not go on after is one where the deadline has passed,
and no stream has exceeded its limit. -/
def RunsOut (policy : IsolatedCommandPolicy) (process : Process) (deadline : ℚ)
    (rounds : List Round) : Prop :=
  ∃ front round rest, rounds = front ++ round :: rest ∧
    (∀ earlier ∈ front, GoesOn policy process deadline earlier) ∧
    process.overflowed policy round.stdoutRead round.stderrRead = false ∧ deadline ≤ round.clock

lemma runsOut_cons {round : Round} (h : GoesOn policy process deadline round) :
    RunsOut policy process deadline (round :: rounds) ↔ RunsOut policy process deadline rounds := by
  constructor
  · rintro ⟨front, other, rest, heq, hfront, hout, hdeadline⟩
    cases front with
    | nil =>
      obtain ⟨rfl, rfl⟩ := List.cons.inj heq
      exact absurd hdeadline (not_le.mpr h.2)
    | cons first front =>
      obtain ⟨rfl, rfl⟩ := List.cons.inj heq
      exact ⟨front, other, rest, rfl, fun earlier hmem => hfront earlier
        (List.mem_cons_of_mem _ hmem), hout, hdeadline⟩
  · rintro ⟨front, other, rest, rfl, hfront, hout, hdeadline⟩
    refine ⟨round :: front, other, rest, rfl, ?_, hout, hdeadline⟩
    intro earlier hmem
    rcases List.mem_cons.mp hmem with rfl | hmem
    · exact h
    · exact hfront earlier hmem

/-- How the loop ends. -/
inductive Ending (policy : IsolatedCommandPolicy) (process : Process) (timeoutS deadline : ℚ)
    (rounds : List Round) : IsolatedCommandStatus × Option String → Prop
  | completed : (∀ round ∈ rounds, GoesOn policy process deadline round) →
      Ending policy process timeoutS deadline rounds (.completed, none)
  | outputLimit {round : Round} : round ∈ rounds →
      process.overflowed policy round.stdoutRead round.stderrRead = true →
      ¬RunsOut policy process deadline rounds →
      Ending policy process timeoutS deadline rounds (.outputLimit,
        some ("combined stream exceeded per-stream limit of " ++ zeroPad 0 policy.outputBytes ++
          " bytes"))
  | timedOut : RunsOut policy process deadline rounds →
      Ending policy process timeoutS deadline rounds (.timedOut,
        some ("command exceeded " ++ fixed3 timeoutS ++ "s deadline"))

variable (policy process timeoutS deadline) in
lemma supervise_ending (rounds : List Round) : Ending policy process timeoutS deadline rounds
    (supervise policy process timeoutS deadline rounds) := by
  induction rounds with
  | nil => exact .completed fun round hround => absurd hround List.not_mem_nil
  | cons round rounds ih =>
    rw [supervise]
    split_ifs with hoverflow hdeadline
    · refine .outputLimit List.mem_cons_self hoverflow ?_
      rintro ⟨front, other, rest, heq, hfront, hout, -⟩
      cases front with
      | nil =>
        obtain ⟨rfl, -⟩ := List.cons.inj heq
        simp [hoverflow] at hout
      | cons first front =>
        obtain ⟨rfl, -⟩ := List.cons.inj heq
        have hgoes := hfront round List.mem_cons_self
        simp [GoesOn, hoverflow] at hgoes
    · exact .timedOut ⟨[], round, rounds, rfl, fun _ hmem => absurd hmem List.not_mem_nil,
        by simpa using hoverflow, hdeadline⟩
    · have hgoes : GoesOn policy process deadline round :=
        ⟨by simpa using hoverflow, not_le.mp hdeadline⟩
      generalize supervise policy process timeoutS deadline rounds = ended at ih
      cases ih with
      | completed hall =>
        refine .completed fun other hother => ?_
        rcases List.mem_cons.mp hother with rfl | hother
        · exact hgoes
        · exact hall other hother
      | outputLimit hmem hover hnot =>
        exact .outputLimit (List.mem_cons_of_mem _ hmem) hover fun h => hnot ((runsOut_cons hgoes).mp h)
      | timedOut hout => exact .timedOut ((runsOut_cons hgoes).mpr hout)

/-! ## Texts that hold no secret -/

variable {U : UnicodeTables}

/-- Two characters that do not follow each other in a bearer token: an `r` and a space. -/
def NotBearer (c d : Char) : Prop := ¬(c.toLower = 'r' ∧ isSpace d = true)

instance (c d : Char) : Decidable (NotBearer c d) := inferInstanceAs (Decidable ¬(_ ∧ _))

/-- Text without what a secret must have: the `k` of `sk-`, the `B` of `BEGIN`, and an `r` before a
space. -/
structure Harmless (text : List Char) : Prop where
  letters : ∀ c ∈ text, c ≠ 'k' ∧ c ≠ 'B'
  bearer : text.IsChain NotBearer

lemma Harmless.tail (h : Harmless (c :: text)) : Harmless text :=
  ⟨fun d hd => h.letters d (List.mem_cons_of_mem c hd), h.bearer.tail⟩

lemma startsBearer_of_harmless (h : Harmless text) : startsBearer text = false := by
  by_contra hne
  have hstarts : startsBearer text = true := by simpa using hne
  simp only [startsBearer, Bool.and_eq_true, beq_iff_eq, bne_iff_ne] at hstarts
  obtain ⟨⟨hword, hspace⟩, -⟩ := hstarts
  have hlength : 6 ≤ text.length := by
    have := congrArg List.length hword
    simp only [List.length_map, List.length_take, List.length_cons, List.length_nil] at this
    omega
  -- the last letter is followed by a space
  have hget : text.drop 5 = text[5] :: text.drop 6 := List.drop_eq_getElem_cons (by omega)
  have hlast : (text[5]).toLower = 'r' := by
    have := congrArg (fun word : List Char => word[5]?) hword
    simpa [List.getElem?_take, List.getElem?_eq_getElem (by omega : 5 < text.length)] using this
  have hchain : (text.drop 5).IsChain NotBearer := h.bearer.drop 5
  rw [hget] at hchain
  cases hrest : text.drop 6 with
  | nil => simp [hrest] at hspace
  | cons d rest =>
    rw [hrest, List.isChain_cons_cons] at hchain
    refine hchain.1 ⟨hlast, ?_⟩
    by_contra hd
    rw [hrest, List.takeWhile_cons_of_neg hd] at hspace
    exact hspace rfl

lemma not_startsPrivateKey (h : ∀ c ∈ text, c ≠ 'B') : startsPrivateKey text = false := by
  unfold startsPrivateKey
  rw [List.any_eq_false]
  intro kind _ hprefix
  have hmem : 'B' ∈ text := by
    refine (List.isPrefixOf_iff_prefix.mp hprefix).subset ?_
    rw [List.mem_append, String.toList_append, String.toList_append]
    exact Or.inr (List.mem_append_left _ (List.mem_append_left _ (by decide)))
  exact h 'B' hmem rfl

lemma not_startsSecretKey (h : ∀ c ∈ text, c ≠ 'k') : startsSecretKey U text = false := by
  by_contra hne
  have hstarts : startsSecretKey U text = true := by simpa using hne
  simp only [startsSecretKey, Bool.and_eq_true, beq_iff_eq] at hstarts
  have hmem : 'k' ∈ text.take 3 := by
    rw [hstarts.1]
    decide
  exact h 'k' (List.mem_of_mem_take hmem) rfl

lemma findsSecret_of_harmless (atBoundary : Bool) (h : Harmless text) :
    findsSecret U atBoundary text = false := by
  induction text generalizing atBoundary with
  | nil => rfl
  | cons c text ih =>
    unfold findsSecret
    rw [startsBearer_of_harmless h, not_startsSecretKey fun d hd => (h.letters d hd).1,
      not_startsPrivateKey fun d hd => (h.letters d hd).2, ih _ h.tail]
    simp

/-- Digits in the middle of harmless text. -/
lemma harmless_of_pieces {front back : String} {middle : List Char}
    (hfront : (front.toList.all fun c => decide (c ≠ 'k' ∧ c ≠ 'B')) = true)
    (hback : (back.toList.all fun c => decide (c ≠ 'k' ∧ c ≠ 'B')) = true)
    (hmiddle : ∀ c ∈ middle, c ≠ 'k' ∧ c ≠ 'B' ∧ c.toLower ≠ 'r')
    (hlast : front.toList.getLast?.all (fun c => decide (c.toLower ≠ 'r')) = true)
    (hfrontChain : front.toList.IsChain NotBearer) (hbackChain : back.toList.IsChain NotBearer) :
    Harmless (front.toList ++ (middle ++ back.toList)) := by
  have hmiddleChain : middle.IsChain NotBearer :=
    List.Pairwise.isChain (List.pairwise_of_forall_mem_list fun c hc d _ hcd =>
      (hmiddle c hc).2.2 hcd.1)
  refine ⟨?_, ?_⟩
  · intro c hc
    rcases List.mem_append.mp hc with hc | hc
    · exact forall_mem_of_all hfront c hc
    · rcases List.mem_append.mp hc with hc | hc
      · exact ⟨(hmiddle c hc).1, (hmiddle c hc).2.1⟩
      · exact forall_mem_of_all hback c hc
  · refine List.isChain_append.mpr ⟨hfrontChain, List.isChain_append.mpr
      ⟨hmiddleChain, hbackChain, ?_⟩, ?_⟩
    · intro c hc d _ hcd
      exact (hmiddle c (List.mem_of_getLast? hc)).2.2 hcd.1
    · intro c hc d _ hcd
      rw [Option.mem_def.mp hc, Option.all_some, decide_eq_true_eq] at hlast
      exact hlast hcd.1

lemma plain_of_mem_hexDigits : ∀ c ∈ hexDigits, c ≠ 'k' ∧ c ≠ 'B' ∧ c.toLower ≠ 'r' :=
  forall_mem_of_all (by decide +kernel)

lemma plain_of_isDigit (h : c.isDigit = true) : c ≠ 'k' ∧ c ≠ 'B' ∧ c.toLower ≠ 'r' :=
  plain_of_mem_hexDigits c (mem_hexDigits (by simp [h]))

lemma plain_of_mem_zeroPad {width n : ℕ} (h : c ∈ (zeroPad width n).toList) :
    c ≠ 'k' ∧ c ≠ 'B' ∧ c.toLower ≠ 'r' := by
  rw [toList_zeroPad] at h
  exact plain_of_isDigit (isDigit_of_mem_zeroPadChars h)

lemma isSecretValue_name (container : Container) : isSecretValue U container.name = false := by
  have hharmless : Harmless
      ("agintor-cmd-".toList ++ (container.uuid.toList ++ "".toList)) :=
    harmless_of_pieces (by decide) (by decide)
      (fun c hc => plain_of_mem_hexDigits c (container.isHex c hc)) (by decide) (by decide)
      (by decide)
  unfold isSecretValue Container.name
  rw [String.toList_append]
  exact findsSecret_of_harmless true (by simpa using hharmless)

/-- The details of a failure that the supervisor gives. -/
lemma isSecretValue_detail {ended : IsolatedCommandStatus × Option String}
    (h : Ending policy process timeoutS deadline rounds ended) :
    ∀ detail ∈ ended.2, isSecretValue U detail = false := by
  intro detail hdetail
  cases h with
  | completed => cases hdetail
  | outputLimit =>
    obtain rfl := Option.some.inj hdetail
    have hharmless : Harmless ("combined stream exceeded per-stream limit of ".toList ++
        ((zeroPad 0 policy.outputBytes).toList ++ " bytes".toList)) :=
      harmless_of_pieces (by decide +kernel) (by decide) (fun c hc => plain_of_mem_zeroPad hc)
        (by decide) (by decide +kernel) (by decide)
    unfold isSecretValue
    rw [String.toList_append, String.toList_append, List.append_assoc]
    exact findsSecret_of_harmless true hharmless
  | timedOut =>
    obtain rfl := Option.some.inj hdetail
    have hnumber : ∀ c ∈ (fixed3 timeoutS).toList, c ≠ 'k' ∧ c ≠ 'B' ∧ c.toLower ≠ 'r' := by
      intro c hc
      unfold fixed3 at hc
      rw [String.toList_append, String.toList_append] at hc
      rcases List.mem_append.mp hc with hc | hc
      · rcases List.mem_append.mp hc with hc | hc
        · exact plain_of_mem_zeroPad hc
        · obtain rfl : c = '.' := by simpa using hc
          decide
      · exact plain_of_mem_zeroPad hc
    have hharmless : Harmless ("command exceeded ".toList ++
        ((fixed3 timeoutS).toList ++ "s deadline".toList)) :=
      harmless_of_pieces (by decide) (by decide) hnumber (by decide) (by decide) (by decide)
    unfold isSecretValue
    rw [String.toList_append, String.toList_append, List.append_assoc]
    exact findsSecret_of_harmless true hharmless

/-! ## Rows of a container -/

/-- What is kept of a stream. -/
def keptBytes (limit : ℕ) (chunks : List Bytes) : Bytes := (written chunks).take limit

/-- Bytes that are the encoding of a text. -/
def IsUtf8 (bytes : Bytes) : Prop := ByteArray.IsValidUTF8 ⟨bytes.toArray⟩

lemma isUtf8_encodeUtf8 (text : String) : IsUtf8 (encodeUtf8 text) := by
  unfold IsUtf8 encodeUtf8
  rw [Array.toArray_toList]
  exact text.isValidUTF8

lemma encodeUtf8_decodeReplace : encodeUtf8 (decodeReplace bytes) = bytes ↔ IsUtf8 bytes := by
  constructor
  · intro h
    rw [← h]
    exact isUtf8_encodeUtf8 _
  · intro h
    unfold IsUtf8 at h
    rw [decodeReplace, dif_pos h, encodeUtf8]

/-- The hash does not confuse bytes with the encoding of their text. -/
def Sha256.TellsApart (sha : Sha256) (bytes : Bytes) : Prop :=
  sha.hexdigest (encodeUtf8 (decodeReplace bytes)) = sha.hexdigest bytes →
    encodeUtf8 (decodeReplace bytes) = bytes

lemma hexdigest_decodeReplace {sha : Sha256} (h : sha.TellsApart bytes) :
    sha.hexdigest bytes = sha.hexdigest (encodeUtf8 (decodeReplace bytes)) ↔ IsUtf8 bytes := by
  rw [← encodeUtf8_decodeReplace]
  constructor
  · intro heq
    exact h heq.symm
  · intro heq
    rw [heq]

/-- When the rules about status, exit code and duration are kept. -/
lemma checkResult_ok_iff {request : IsolatedCommandReplayRequest} :
    checkResult request result = .ok () ↔
      (result.status = .completed → result.exitCode ≠ none) ∧
      (result.status = .timedOut ∨ result.status = .launchFailed → result.exitCode = none) ∧
      (result.status = .outputLimit → result.outputTruncated = true) ∧
      (result.status = .timedOut → ∀ timeout ∈ request.timeoutS, timeout ≤ result.durationS) ∧
      (result.status ≠ .timedOut → ∀ timeout ∈ request.timeoutS, result.durationS ≤ timeout) := by
  unfold checkResult
  simp only [bind_eq_ok_iff, raiseIf_eq_ok_iff, exists_const, not_and, Bool.not_eq_false,
    Option.any_eq_true, decide_eq_true_eq, not_exists, not_lt, ne_eq, not_not, Option.mem_def]

lemma isPublic_object_of_transcriptKeys {fields : List (String × Json)}
    (h : ∀ key ∈ fields.map Prod.fst, key ∈ transcriptKeys) :
    isPublic U (.object fields) = true ↔ ∀ field ∈ fields, isPublic U field.2 = true :=
  isPublic_object_of_plain fun _ hfield =>
    plainKey_of_mem_transcriptKeys _ (h _ (List.mem_map_of_mem hfield))

/-- What a result shows besides its command. -/
structure ShowsNoSecret (U : UnicodeTables) (result : IsolatedCommandResult) : Prop where
  stdout : isSecretValue U result.stdout = false
  stderr : isSecretValue U result.stderr = false
  detail : ∀ detail ∈ result.failureDetail, isSecretValue U detail = false

lemma isPublic_result_iff (hcommand : isPublic U (texts result.command) = true)
    (hname : isSecretValue U result.containerName = false)
    (hout : isDigest result.stdoutDigest = true) (herr : isDigest result.stderrDigest = true) :
    isPublic U result.dump = true ↔ ShowsNoSecret U result := by
  have hstatus : isPublic U (.str result.status.text) = true := by
    cases result.status <;> rfl
  have hexit : isPublic U (result.exitCode.elim .null .int) = true := by
    cases result.exitCode <;> rfl
  have hdetail : isPublic U (result.failureDetail.elim .null .str) = true ↔
      ∀ detail ∈ result.failureDetail, isSecretValue U detail = false := by
    cases result.failureDetail with
    | none => exact ⟨fun _ detail hmem => absurd hmem (Option.not_mem_none detail), fun _ => rfl⟩
    | some detail =>
      rw [Option.elim_some, isPublic_str]
      constructor
      · intro h other hother
        rwa [← Option.some.inj hother]
      · intro h
        exact h detail rfl
  unfold IsolatedCommandResult.dump
  rw [isPublic_object_of_transcriptKeys]
  · simp only [List.forall_mem_cons, List.not_mem_nil, false_implies, implies_true, and_true,
      hstatus, hcommand, hexit, hdetail, isPublic_of_isDigest hout, isPublic_of_isDigest herr,
      isPublic_str.mpr hname, true_and]
    rw [isPublic_str, isPublic_str]
    constructor
    · rintro ⟨hstdout, hstderr, -, -, hshown⟩
      exact ⟨hstdout, hstderr, hshown⟩
    · rintro ⟨hstdout, hstderr, hshown⟩
      exact ⟨hstdout, hstderr, rfl, rfl, hshown⟩
  · show ∀ key ∈ ["status", "command", "container_name", "exit_code", "stdout", "stderr",
      "stdout_digest", "stderr_digest", "duration_s", "output_truncated", "failure_detail"], _
    decide +kernel

/-- A row of a valid request shows what its result shows. -/
lemma isPublic_row_iff (row : IsolatedCommandReplayRow)
    (hrequest : isPublic U row.request.dump = true)
    (hafter : isDigest row.workspaceContentDigestAfter = true)
    (hdigest : isDigest row.rowDigest = true) :
    isPublic U row.dump = true ↔ isPublic U row.result.dump = true := by
  unfold IsolatedCommandReplayRow.dump IsolatedCommandReplayRow.content
  rw [isPublic_object_of_transcriptKeys]
  · simp only [List.cons_append, List.nil_append, List.forall_mem_cons, List.not_mem_nil,
      false_implies, implies_true, and_true, hrequest, isPublic_of_isDigest hafter,
      isPublic_of_isDigest hdigest, true_and]
    exact ⟨And.right, fun h => ⟨rfl, h⟩⟩
  · show ∀ key ∈ ["sequence_no", "request", "workspace_content_digest_after", "result",
      "row_digest"], _
    decide +kernel

lemma isPublic_command_of_request {request : IsolatedCommandReplayRequest}
    (h : isPublic U request.dump = true) : isPublic U (texts request.command) = true := by
  unfold IsolatedCommandReplayRequest.dump IsolatedCommandReplayRequest.content at h
  exact (isPublic_object.mp h ("command", texts request.command) List.mem_cons_self).2

/-- When a row with a new result can be bound. -/
lemma bindRow_ok_iff {ids : CommandIdentities} (row : IsolatedCommandReplayRow)
    (hrequest : isPublic U row.request.dump = true) (hempty : row.rowDigest = "")
    (hafter : isDigest row.workspaceContentDigestAfter = true)
    (hcommand : row.result.command = row.request.command)
    (hname : isSecretValue U row.result.containerName = false)
    (hout : isDigest row.result.stdoutDigest = true)
    (herr : isDigest row.result.stderrDigest = true) :
    (∃ bound, bindRow ids U row = .ok bound) ↔
      row.result.stdoutDigest = ids.sha256Text row.result.stdout ∧
      row.result.stderrDigest = ids.sha256Text row.result.stderr ∧
      checkResult row.request row.result = .ok () ∧ ShowsNoSecret U row.result := by
  have hresult : isPublic U row.result.dump = true ↔ ShowsNoSecret U row.result := by
    refine isPublic_result_iff ?_ hname hout herr
    rw [hcommand]
    exact isPublic_command_of_request hrequest
  have hrow : ∀ digest, isDigest digest = true →
      (isPublic U { row with rowDigest := digest }.dump = true ↔ ShowsNoSecret U row.result) := by
    intro digest hdigest
    rw [← hresult]
    exact isPublic_row_iff { row with rowDigest := digest } hrequest hafter hdigest
  unfold bindRow
  rw [requireDigest_of_isDigest hafter, ok_bind]
  simp only [bind_eq_ok_iff, raiseIf_eq_ok_iff, exists_const, pure_eq_ok, Except.ok.injEq,
    not_not, ne_eq, Bool.not_eq_false, hrow _ (ids.isDigest _ _), hempty, not_true, false_and,
    not_false_iff, true_and]
  constructor
  · rintro ⟨bound, -, hstdout, hstderr, _, hcheck, hshown, -⟩
    exact ⟨hstdout, hstderr, hcheck, hshown⟩
  · rintro ⟨hstdout, hstderr, hcheck, hshown⟩
    exact ⟨_, hcommand, hstdout, hstderr, (), hcheck, hshown, rfl⟩

/-! ## What can be recorded -/

section Recordable

variable (U) (policy) (request) (container : Container)

/-- The deadline of a request. -/
def commandDeadline : ℚ := container.started + effectiveTimeout policy request

/-- A process whose result can be recorded: what is kept of its streams is text without secrets; if
it runs out of time it leaves no exit code other than zero, and has taken as long as the request
allows; otherwise it takes no longer than that. -/
structure Recordable (process : Process) : Prop where
  stdout : IsUtf8 (keptBytes policy.outputBytes process.stdout)
  stderr : IsUtf8 (keptBytes policy.outputBytes process.stderr)
  shownStdout : isSecretValue U (decodeReplace (keptBytes policy.outputBytes process.stdout)) = false
  shownStderr : isSecretValue U (decodeReplace (keptBytes policy.outputBytes process.stderr)) = false
  late : RunsOut policy process (commandDeadline policy request container) process.rounds →
    (∀ code ∈ process.killed, code = 0) ∧
      ∀ timeout ∈ request.timeoutS, timeout ≤ container.finished - container.started
  inTime : ¬RunsOut policy process (commandDeadline policy request container) process.rounds →
    ∀ timeout ∈ request.timeoutS, container.finished - container.started ≤ timeout

/-- When the result of a container can be recorded and replayed. -/
structure Replayable (workspaceAfter : Option (Option String)) : Prop where
  /-- The working directory has no whitespace at its ends once it has been normalized. -/
  directory : ∀ directory, validateWorkingDirectory request.workingDirectory = .ok directory →
    strip directory = directory
  /-- The workspace afterwards, if one is given, can be read. -/
  workspace : workspaceAfter ≠ some none
  process : ∀ process, container.launch = .ok process →
    Recordable policy request U container process
  failed : ∀ message, container.launch = .error message → isSecretValue U message = false ∧
    ∀ timeout ∈ request.timeoutS, container.finished - container.started ≤ timeout

/-- What a result says of the process. -/
structure TellsOf (sha : Sha256) (process : Process) (result : IsolatedCommandResult) : Prop where
  stdout : result.stdout = decodeReplace (keptBytes policy.outputBytes process.stdout)
  stderr : result.stderr = decodeReplace (keptBytes policy.outputBytes process.stderr)
  stdoutDigest : result.stdoutDigest = sha.hexdigest (keptBytes policy.outputBytes process.stdout)
  stderrDigest : result.stderrDigest = sha.hexdigest (keptBytes policy.outputBytes process.stderr)
  truncated : result.outputTruncated = true ↔
    policy.outputBytes < (written process.stdout).length ∨
      policy.outputBytes < (written process.stderr).length
  completed : result.status = .completed ↔
    ∀ round ∈ process.rounds, GoesOn policy process (commandDeadline policy request container) round
  succeeded : result.succeeded = true ↔ result.status = .completed ∧ process.polled = 0

/-- What a result says of the container. -/
structure Account (sha : Sha256) (result : IsolatedCommandResult) : Prop where
  process : ∀ process, container.launch = .ok process →
    TellsOf policy request container sha process result
  failed : ∀ message, container.launch = .error message → result.status = .launchFailed ∧
    result.succeeded = false ∧ result.outputTruncated = false ∧ result.stdout = "" ∧
    result.stderr = ""

end Recordable

section Results

variable {sha : Sha256} {container : Container} {result : IsolatedCommandResult}

lemma runContainer_ok (h : runContainer policy request sha container = .ok result) :
    (∀ message, container.launch = .error message →
      result = launchFailed request sha container message) ∧
    ∀ process, container.launch = .ok process →
      result = superviseProcess policy request sha container process := by
  unfold runContainer at h
  simp only [bind_eq_ok_iff, raiseIf_eq_ok_iff, exists_const] at h
  obtain ⟨-, h⟩ := h
  constructor
  · intro message hlaunch
    rw [hlaunch] at h
    exact (Except.ok.inj h).symm
  · intro process hlaunch
    rw [hlaunch] at h
    exact (Except.ok.inj h).symm

lemma value_drained (chunks : List Bytes) :
    (drainStream policy.outputBytes chunks .empty).value = keptBytes policy.outputBytes chunks :=
  (buffers_drained policy.outputBytes chunks).value

lemma superviseProcess_tellsOf (process : Process) :
    TellsOf policy request container sha process
      (superviseProcess policy request sha container process) := by
  have hending := supervise_ending policy process (effectiveTimeout policy request)
    (commandDeadline policy request container) process.rounds
  have hcompleted : (superviseProcess policy request sha container process).status = .completed ↔
      ∀ round ∈ process.rounds,
        GoesOn policy process (commandDeadline policy request container) round := by
    show (supervise policy process _ (commandDeadline policy request container) _).1 = _ ↔ _
    generalize supervise policy process (effectiveTimeout policy request)
      (commandDeadline policy request container) process.rounds = ended at hending
    cases hending with
    | completed hall => exact ⟨fun _ => hall, fun _ => rfl⟩
    | outputLimit hmem hover =>
      refine ⟨fun h => (nomatch h), fun hall => ?_⟩
      have hgoes := (hall _ hmem).1
      rw [hover] at hgoes
      cases hgoes
    | timedOut hout =>
      refine ⟨fun h => (nomatch h), fun hall => ?_⟩
      obtain ⟨front, round, rest, heq, -, -, hdeadline⟩ := hout
      have hgoes := (hall round (by rw [heq]; simp)).2
      exact absurd hdeadline (not_le.mpr hgoes)
  refine ⟨?_, ?_, ?_, ?_, ?_, hcompleted, ?_⟩
  · exact congrArg decodeReplace (value_drained _)
  · exact congrArg decodeReplace (value_drained _)
  · exact congrArg sha.hexdigest (value_drained _)
  · exact congrArg sha.hexdigest (value_drained _)
  · show ((drainStream _ _ _).overflow || (drainStream _ _ _).overflow) = true ↔ _
    rw [(buffers_drained _ _).overflow, (buffers_drained _ _).overflow]
    simp
  · unfold IsolatedCommandResult.succeeded
    rw [Bool.and_eq_true, decide_eq_true_eq, decide_eq_true_eq]
    refine and_congr_right fun hstatus => ?_
    have hended : (supervise policy process (effectiveTimeout policy request)
        (container.started + effectiveTimeout policy request) process.rounds).1 = .completed :=
      hstatus
    show (if _ = IsolatedCommandStatus.completed then some process.polled else _) = some 0 ↔ _
    rw [if_pos hended, Option.some.injEq]

/-- Whatever the container does, the result tells of it. -/
lemma account_of_runContainer (h : runContainer policy request sha container = .ok result) :
    Account policy request container sha result := by
  obtain ⟨hfailed, hprocess⟩ := runContainer_ok h
  constructor
  · intro process hlaunch
    rw [hprocess process hlaunch]
    exact superviseProcess_tellsOf process
  · intro message hlaunch
    rw [hfailed message hlaunch]
    have hempty : decodeReplace [] = "" := by decide +kernel
    exact ⟨rfl, rfl, rfl, hempty, hempty⟩

variable {captured : IsolatedCommandReplayRequest}

/-- The rules of the row about the result of a process. -/
lemma checkResult_superviseProcess {process : Process}
    (htimeout : captured.timeoutS = request.timeoutS)
    (hpositive : ∀ timeout ∈ captured.timeoutS, 0 < timeout) :
    checkResult captured (superviseProcess policy request sha container process) = .ok () ↔
      (RunsOut policy process (commandDeadline policy request container) process.rounds →
        (∀ code ∈ process.killed, code = 0) ∧
          ∀ timeout ∈ request.timeoutS, timeout ≤ container.finished - container.started) ∧
      (¬RunsOut policy process (commandDeadline policy request container) process.rounds →
        ∀ timeout ∈ request.timeoutS, container.finished - container.started ≤ timeout) := by
  have hlong : (∀ timeout ∈ captured.timeoutS,
      timeout ≤ max (container.finished - container.started) 0) ↔
      ∀ timeout ∈ request.timeoutS, timeout ≤ container.finished - container.started := by
    rw [htimeout] at hpositive ⊢
    refine forall₂_congr fun timeout hmem => ?_
    rw [le_max_iff, or_iff_left (not_le.mpr (hpositive timeout hmem))]
  have hshort : (∀ timeout ∈ captured.timeoutS,
      max (container.finished - container.started) 0 ≤ timeout) ↔
      ∀ timeout ∈ request.timeoutS, container.finished - container.started ≤ timeout := by
    rw [htimeout] at hpositive ⊢
    refine forall₂_congr fun timeout hmem => ?_
    rw [max_le_iff, and_iff_left (hpositive timeout hmem).le]
  have hkilled : (process.killed.filter fun code => code ≠ 0) = none ↔
      ∀ code ∈ process.killed, code = 0 := by
    rw [Option.filter_eq_none_iff]
    simp
  have hending := supervise_ending policy process (effectiveTimeout policy request)
    (commandDeadline policy request container) process.rounds
  rw [checkResult_ok_iff, ← hlong, ← hshort, ← hkilled]
  unfold superviseProcess commandResult
  dsimp only
  change Ending _ _ _ _ _ (supervise policy process (effectiveTimeout policy request)
    (container.started + effectiveTimeout policy request) process.rounds) at hending
  generalize supervise policy process (effectiveTimeout policy request)
    (container.started + effectiveTimeout policy request) process.rounds = ended at hending
  cases hending with
  | completed hall =>
    have hnot : ¬RunsOut policy process (commandDeadline policy request container)
        process.rounds := by
      rintro ⟨front, round, rest, heq, -, -, hdeadline⟩
      exact absurd hdeadline (not_le.mpr (hall round (by rw [heq]; simp)).2)
    simp [hnot]
  | outputLimit hmem hover hnot =>
    simp [hnot, overflowed_all hover]
  | timedOut hout =>
    simp [show RunsOut policy process (commandDeadline policy request container) process.rounds
      from hout]

lemma detail_superviseProcess (process : Process) :
    ∀ detail ∈ (superviseProcess policy request sha container process).failureDetail,
      isSecretValue U detail = false :=
  isSecretValue_detail (supervise_ending policy process (effectiveTimeout policy request)
    (container.started + effectiveTimeout policy request) process.rounds)

/-- What a row asks of the result of a container. -/
lemma row_of_container {ids : Identities}
    (hrun : runContainer policy request sha container = .ok result)
    (hfrom : CapturedFrom (sha.identities ids) U request captured)
    (hsha : ∀ process, container.launch = .ok process →
      sha.TellsApart (keptBytes policy.outputBytes process.stdout) ∧
        sha.TellsApart (keptBytes policy.outputBytes process.stderr)) :
    result.stdoutDigest = (sha.identities ids).sha256Text result.stdout ∧
        result.stderrDigest = (sha.identities ids).sha256Text result.stderr ∧
        checkResult captured result = .ok () ∧ ShowsNoSecret U result ↔
      (∀ process, container.launch = .ok process →
        Recordable policy request U container process) ∧
      ∀ message, container.launch = .error message → isSecretValue U message = false ∧
        ∀ timeout ∈ request.timeoutS, container.finished - container.started ≤ timeout := by
  obtain ⟨hfailed, hprocess⟩ := runContainer_ok hrun
  have hempty : decodeReplace [] = "" := by decide +kernel
  have hencoded : encodeUtf8 "" = [] := by decide +kernel
  cases hlaunch : container.launch with
  | error message =>
    rw [hfailed message hlaunch, checkResult_ok_iff]
    unfold launchFailed commandResult Sha256.identities
    dsimp only
    rw [hempty, hencoded, hfrom.timeout]
    have hpositive := hfrom.positive
    rw [hfrom.timeout] at hpositive
    constructor
    · rintro ⟨-, -, ⟨-, -, -, -, htime⟩, hshown⟩
      refine ⟨fun process h => (nomatch h), ?_⟩
      intro other hother
      obtain rfl := Except.error.inj hother
      refine ⟨hshown.detail _ rfl, fun timeout hmem => ?_⟩
      exact (le_max_left _ _).trans (htime (by decide) timeout hmem)
    · rintro ⟨-, h⟩
      obtain ⟨hmessage, htime⟩ := h message rfl
      refine ⟨rfl, rfl, ⟨fun h => (nomatch h), fun _ => rfl, fun h => (nomatch h),
        fun h => (nomatch h), ?_⟩, ⟨rfl, rfl, ?_⟩⟩
      · intro _ timeout hmem
        exact max_le (htime timeout hmem) (hpositive timeout hmem).le
      · intro detail hdetail
        rwa [← Option.some.inj hdetail]
  | ok process =>
    have htells : TellsOf policy request container sha process result := by
      rw [hprocess process hlaunch]
      exact superviseProcess_tellsOf process
    have hcheck := (checkResult_superviseProcess hfrom.timeout hfrom.positive :
      checkResult captured (superviseProcess policy request sha container process) = .ok () ↔ _)
    rw [← hprocess process hlaunch] at hcheck
    have hdetail : ∀ detail ∈ result.failureDetail, isSecretValue U detail = false := by
      rw [hprocess process hlaunch]
      exact detail_superviseProcess process
    obtain ⟨hout, herr⟩ := hsha process hlaunch
    rw [hcheck]
    unfold Sha256.identities
    dsimp only
    rw [htells.stdoutDigest, htells.stderrDigest, htells.stdout, htells.stderr,
      hexdigest_decodeReplace hout, hexdigest_decodeReplace herr]
    constructor
    · rintro ⟨hutfOut, hutfErr, ⟨hlate, hinTime⟩, hshown⟩
      have hstdout := hshown.stdout
      have hstderr := hshown.stderr
      rw [htells.stdout] at hstdout
      rw [htells.stderr] at hstderr
      refine ⟨fun other hother => ?_, fun message h => (nomatch h)⟩
      obtain rfl := Except.ok.inj hother
      exact ⟨hutfOut, hutfErr, hstdout, hstderr, hlate, hinTime⟩
    · rintro ⟨h, -⟩
      have hrecordable := h process rfl
      refine ⟨hrecordable.stdout, hrecordable.stderr, ⟨hrecordable.late, hrecordable.inTime⟩,
        ⟨?_, ?_, hdetail⟩⟩
      · rw [htells.stdout]
        exact hrecordable.shownStdout
      · rw [htells.stderr]
        exact hrecordable.shownStderr

lemma command_of_runContainer (h : runContainer policy request sha container = .ok result) :
    result.command = request.command ∧ result.containerName = container.name ∧
      isDigest result.stdoutDigest = true ∧ isDigest result.stderrDigest = true := by
  obtain ⟨hfailed, hprocess⟩ := runContainer_ok h
  cases hlaunch : container.launch with
  | error message =>
    rw [hfailed message hlaunch]
    exact ⟨rfl, rfl, sha.isDigest _, sha.isDigest _⟩
  | ok process =>
    rw [hprocess process hlaunch]
    exact ⟨rfl, rfl, sha.isDigest _, sha.isDigest _⟩

end Results

/-! ## Recording and replaying -/

section Recording

variable {ids : CommandIdentities} {recorder : IsolatedCommandReplayRecorder}
  {captured : IsolatedCommandReplayRequest} {result : IsolatedCommandResult}
  {workspaceAfter : Option (Option String)}

/-- A request is captured under a recorder that is open, and leaves it open. -/
lemma captureRequest_open
    (h : (captureRequest ids U (some request) recorder).1 = .ok captured) :
    fromRequest ids U (some request) = .ok captured ∧
      (captureRequest ids U (some request) recorder).2.finalized = false := by
  rw [captureRequest_apply] at h ⊢
  obtain ⟨linked, hchecks, hcaptured, hstate⟩ := Stateful.commit_ok h
  rw [hstate]
  simp only [bind_eq_ok_iff, linkRows, raiseIf_eq_ok_iff, exists_const, pure_eq_ok,
    Except.ok.injEq] at hchecks
  obtain ⟨request', hrequest, hopen, rows', -, rfl⟩ := hchecks
  obtain rfl : request' = captured := hcaptured
  exact ⟨hrequest, by simpa using hopen⟩

/-- The result is recorded for the request, and each replay of its row gives it. -/
def RecordsAndReplays (ids : CommandIdentities) (U : UnicodeTables)
    (request : IsolatedCommandRequest) (captured : IsolatedCommandReplayRequest)
    (result : IsolatedCommandResult) (workspaceAfter : Option (Option String))
    (recorder : IsolatedCommandReplayRecorder) : Prop :=
  ∃ row, (record ids U captured (some result) workspaceAfter recorder).1 = .ok row ∧
    row.result = result ∧
    ∀ manifest state, state.cancelled = false → manifest.rows[state.cursor]? = some row →
      (run ids U manifest (some request) state).1 = .ok result

/-- A result is recorded if the request is valid again and the row can be bound. -/
lemma record_ok_iff {row : IsolatedCommandReplayRow} (hopen : recorder.finalized = false) :
    (record ids U captured (some result) workspaceAfter recorder).1 = .ok row ↔
      ∃ again after, validateRequest ids U captured = .ok again ∧
        digestAfter again workspaceAfter = .ok after ∧
        bindRow ids U ⟨recorder.rows.length, again, after, result, ""⟩ = .ok row := by
  rw [record_apply]
  constructor
  · intro h
    obtain ⟨bound, hchecks, hbound, -⟩ := Stateful.commit_ok h
    obtain rfl : bound = row := hbound
    simp only [bind_eq_ok_iff, normalizeCommand, nextRow, raiseIf_eq_ok_iff, exists_const,
      pure_eq_ok, Except.ok.injEq, Option.elim_some] at hchecks
    obtain ⟨command, ⟨again, hagain, other, rfl, rfl⟩, -, after, hafter, hbind⟩ := hchecks
    exact ⟨again, after, hagain, hafter, hbind⟩
  · rintro ⟨again, after, hagain, hafter, hbind⟩
    unfold normalizeCommand nextRow
    rw [hagain, ok_bind, Option.elim_some, ok_bind]
    show (Stateful.commit ((raiseIf _ _ >>= fun _ => _)) _ _ _).1 = _
    rw [raiseIf_neg (by simp [hopen]), ok_bind, hafter, ok_bind, hbind]
    rfl

/-- For a request that has been captured, the result of a container is recorded and replayed, and
tells of what the container did, exactly if it is replayable. -/
theorem container_recorded_iff {sha : Sha256} {ids : Identities} {container : Container}
    (hcaptured : (captureRequest (sha.identities ids) U (some request) recorder).1 = .ok captured)
    (hrun : runContainer policy request sha container = .ok result)
    (hafter : ∀ digest, workspaceAfter = some (some digest) → isDigest digest = true)
    (hdistinct : Distinguished (sha.identities ids) U (some request))
    (hsha : ∀ process, container.launch = .ok process →
      sha.TellsApart (keptBytes policy.outputBytes process.stdout) ∧
        sha.TellsApart (keptBytes policy.outputBytes process.stderr)) :
    RecordsAndReplays (sha.identities ids) U request captured result workspaceAfter
          (captureRequest (sha.identities ids) U (some request) recorder).2 ∧
        Account policy request container sha result ↔
      Replayable policy request U container workspaceAfter := by
  obtain ⟨hfrom, hopen⟩ := captureRequest_open hcaptured
  have hvalid := capturedFrom_of_fromRequest hfrom
  have hagainIff := validateRequest_again_iff hfrom hdistinct
  have hrow := row_of_container hrun hvalid hsha
  obtain ⟨hcommand, hname, hout, herr⟩ := command_of_runContainer hrun
  rw [← hvalid.command] at hcommand
  have hshownName : isSecretValue U result.containerName = false := by
    rw [hname]
    exact isSecretValue_name container
  have hdirectory : (∀ directory, validateWorkingDirectory request.workingDirectory = .ok directory →
      strip directory = directory) ↔ strip captured.workingDirectory = captured.workingDirectory := by
    constructor
    · intro h
      exact h _ hvalid.directory
    · intro h directory hother
      rw [Except.ok.inj (hother.symm.trans hvalid.directory)]
      exact h
  -- the workspace afterwards is known by a digest, if it can be read
  have hdigest : ∀ {after}, digestAfter captured workspaceAfter = .ok after →
      isDigest after = true := by
    intro after h
    unfold digestAfter at h
    split at h
    · rw [← Except.ok.inj h]
      exact hvalid.digest
    · cases h
    · next digest => rw [← Except.ok.inj h]; exact hafter digest rfl
  have hbind : ∀ {after}, isDigest after = true → ((∃ bound, bindRow (sha.identities ids) U
      ⟨(captureRequest (sha.identities ids) U (some request) recorder).2.rows.length, captured,
        after, result, ""⟩ = .ok bound) ↔ _) := fun hafter =>
    (bindRow_ok_iff ⟨_, captured, _, result, ""⟩ hvalid.shown rfl hafter hcommand
      hshownName hout herr).trans hrow
  constructor
  · rintro ⟨⟨row, hrecord, -, -⟩, -⟩
    obtain ⟨again, after, hagain, hafterOk, hbound⟩ := (record_ok_iff hopen).mp hrecord
    obtain rfl := revalidated_eq hdistinct hfrom hagain
    obtain ⟨hprocess, hfailed⟩ := (hbind (hdigest hafterOk)).mp ⟨row, hbound⟩
    refine ⟨hdirectory.mpr (hagainIff.mp ⟨again, hagain⟩), ?_, hprocess, hfailed⟩
    rintro rfl
    cases hafterOk
  · intro h
    refine ⟨?_, account_of_runContainer hrun⟩
    obtain ⟨again, hagain⟩ := hagainIff.mpr (hdirectory.mp h.directory)
    obtain rfl := revalidated_eq hdistinct hfrom hagain
    have hreadable : ∃ after, digestAfter again workspaceAfter = .ok after := by
      unfold digestAfter
      split
      · exact ⟨_, rfl⟩
      · exact absurd rfl h.workspace
      · exact ⟨_, rfl⟩
    obtain ⟨after, hafterOk⟩ := hreadable
    obtain ⟨row, hbound⟩ := (hbind (hdigest hafterOk)).mpr ⟨h.process, h.failed⟩
    obtain ⟨-, hrequest, hresult, -, -, -⟩ := bindRow_fields hbound
    refine ⟨row, (record_ok_iff hopen).mpr ⟨again, after, hagain, hafterOk, hbound⟩, hresult, ?_⟩
    intro manifest state hcancelled hget
    have hstarts : again.workspaceContentDigest = row.request.workspaceContentDigest := by
      rw [hrequest]
    rw [run_of_selects ⟨hfrom, hcancelled, hget⟩ (Or.inl hstarts) (by rw [hrequest])]
    exact congrArg Except.ok hresult

end Recording

/-! ## A command that writes one byte -/

/-- A hash that knows the texts of one byte. -/
def sampleSha : Sha256 where
  hexdigest bytes := String.ofList (List.replicate 64 (if bytes.length = 1 then '1' else '0'))
  isDigest bytes := by
    split <;> decide

def sampleIdentities : Identities where
  canonicalIdentityDigest _ _ := String.ofList (List.replicate 64 '0')
  isDigest _ _ := by decide

def plainTables : UnicodeTables := ⟨fun _ => false⟩

def samplePolicy : IsolatedCommandPolicy := ⟨30, 1024, []⟩

def sampleCommand : IsolatedCommandRequest :=
  ⟨["build"], some (String.ofList (List.replicate 64 'a')), ".", [], some 60⟩

def sampleCommandCaptured : IsolatedCommandReplayRequest where
  command := ["build"]
  workspaceContentDigest := String.ofList (List.replicate 64 'a')
  workingDirectory := "."
  environment := []
  timeoutS := some 60
  requestDigest := String.ofList (List.replicate 64 '0')

/-- A container whose process writes one byte in one second. -/
def sampleContainer (byte : UInt8) : Container where
  uuid := "0"
  isHex := forall_mem_of_all (by decide)
  started := 0
  finished := 1
  launch := .ok ⟨[[byte]], [], [], 0, none⟩

lemma sampleCommand_captured : fromRequest (sampleSha.identities sampleIdentities) plainTables
    (some sampleCommand) = .ok sampleCommandCaptured := by
  decide +kernel

lemma sampleCommand_fields :
    validateFields plainTables sampleCommandCaptured = .ok sampleCommandCaptured := by
  decide +kernel

lemma sampleCommand_captureRequest : (captureRequest (sampleSha.identities sampleIdentities)
    plainTables (some sampleCommand) .empty).1 = .ok sampleCommandCaptured := by
  rw [captureRequest_apply, sampleCommand_captured]
  rfl

lemma sampleCommand_distinguished :
    Distinguished (sampleSha.identities sampleIdentities) plainTables (some sampleCommand) := by
  intro captured fields hcaptured hfields _
  rw [sampleCommand_captured] at hcaptured
  obtain rfl := Except.ok.inj hcaptured
  rw [sampleCommand_fields] at hfields
  rw [Except.ok.inj hfields]

lemma sampleContainer_run (byte : UInt8) :
    runContainer samplePolicy sampleCommand sampleSha (sampleContainer byte) =
      .ok (superviseProcess samplePolicy sampleCommand sampleSha (sampleContainer byte)
        ⟨[[byte]], [], [], 0, none⟩) := rfl

lemma tellsApart_sample (byte : UInt8) (h : encodeUtf8 (decodeReplace [byte]) = [byte] ∨
    (encodeUtf8 (decodeReplace [byte])).length = 3) : sampleSha.TellsApart [byte] := by
  intro heq
  rcases h with h | h
  · exact h
  · have hsha : sampleSha.hexdigest (encodeUtf8 (decodeReplace [byte])) =
        String.ofList (List.replicate 64 '0') := by
      simp [sampleSha, h]
    have hone : sampleSha.hexdigest [byte] = String.ofList (List.replicate 64 '1') := rfl
    rw [hsha, hone] at heq
    exact absurd heq (by decide)

lemma tellsApart_nil : sampleSha.TellsApart [] := fun _ => by decide +kernel

/-- The result for one byte. -/
def sampleOutput (byte : UInt8) : IsolatedCommandResult :=
  superviseProcess samplePolicy sampleCommand sampleSha (sampleContainer byte)
    ⟨[[byte]], [], [], 0, none⟩

/-- A byte that is no text. -/
theorem container_not_recorded :
    ¬∀ (container : Container) (result : IsolatedCommandResult),
      (captureRequest (sampleSha.identities sampleIdentities) plainTables (some sampleCommand)
        .empty).1 = .ok sampleCommandCaptured →
      runContainer samplePolicy sampleCommand sampleSha container = .ok result →
      (∀ process, container.launch = .ok process →
        sampleSha.TellsApart (keptBytes samplePolicy.outputBytes process.stdout) ∧
          sampleSha.TellsApart (keptBytes samplePolicy.outputBytes process.stderr)) →
      RecordsAndReplays (sampleSha.identities sampleIdentities) plainTables sampleCommand
        sampleCommandCaptured result none
        (captureRequest (sampleSha.identities sampleIdentities) plainTables (some sampleCommand)
          .empty).2 := by
  intro h
  obtain ⟨row, hrecord, -, -⟩ := h (sampleContainer 255) (sampleOutput 255)
    sampleCommand_captureRequest (sampleContainer_run 255) (by
      intro process hprocess
      obtain rfl := Except.ok.inj hprocess
      exact ⟨tellsApart_sample 255 (Or.inr (by decide +kernel)), tellsApart_nil⟩)
  obtain ⟨-, hopen⟩ := captureRequest_open sampleCommand_captureRequest
  obtain ⟨again, after, -, -, hbind⟩ := (record_ok_iff hopen).mp hrecord
  unfold bindRow at hbind
  simp only [bind_eq_ok_iff, raiseIf_eq_ok_iff, exists_const, pure_eq_ok, Except.ok.injEq,
    not_not, ne_eq] at hbind
  obtain ⟨-, -, -, hstdout, -⟩ := hbind
  have hdigests : (sampleOutput 255).stdoutDigest ≠
      (sampleSha.identities sampleIdentities).sha256Text (sampleOutput 255).stdout := by
    decide +kernel
  exact hdigests hstdout

theorem container_recorded_iff_sample :
    RecordsAndReplays (sampleSha.identities sampleIdentities) plainTables sampleCommand
        sampleCommandCaptured (sampleOutput 97) none
        (captureRequest (sampleSha.identities sampleIdentities) plainTables (some sampleCommand)
          .empty).2 ∧
      Account samplePolicy sampleCommand (sampleContainer 97) sampleSha (sampleOutput 97) := by
  have hkept : keptBytes samplePolicy.outputBytes [[97]] = [97] := by decide
  have hnone : keptBytes samplePolicy.outputBytes [] = [] := rfl
  have htext : encodeUtf8 (decodeReplace [97]) = [97] := by decide +kernel
  have hempty : encodeUtf8 (decodeReplace []) = [] := by decide +kernel
  have hnot : ∀ deadline, ¬RunsOut samplePolicy ⟨[[97]], [], [], 0, none⟩ deadline [] := by
    rintro deadline ⟨front, round, rest, heq, -⟩
    simp at heq
  refine (container_recorded_iff sampleCommand_captureRequest (sampleContainer_run 97)
    (fun digest h => absurd h (by simp)) sampleCommand_distinguished ?_).mpr ⟨?_, ?_, ?_, ?_⟩
  · intro process hprocess
    obtain rfl := Except.ok.inj hprocess
    exact ⟨tellsApart_sample 97 (Or.inl htext), tellsApart_nil⟩
  · intro directory hdirectory
    have hdot : validateWorkingDirectory sampleCommand.workingDirectory = .ok "." := by
      decide +kernel
    rw [← Except.ok.inj (hdot.symm.trans hdirectory)]
    decide +kernel
  · exact fun h => nomatch h
  · intro process hprocess
    obtain rfl := Except.ok.inj hprocess
    refine ⟨?_, ?_, ?_, ?_, fun hout => absurd hout (hnot _), ?_⟩
    · rw [hkept, ← encodeUtf8_decodeReplace]
      exact htext
    · rw [hnone, ← encodeUtf8_decodeReplace]
      exact hempty
    · rw [hkept]
      decide +kernel
    · rw [hnone]
      decide +kernel
    · intro _ timeout htimeout
      obtain rfl : 60 = timeout := Option.some.inj htimeout
      show (1 : ℚ) - 0 ≤ 60
      norm_num
  · exact fun message h => nomatch h

end Agintor.Isolation
