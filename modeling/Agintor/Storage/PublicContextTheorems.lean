import Agintor.Contracts.PublicPayload
import Agintor.Lib.Throughout
import Agintor.Storage.HarnessSessionTheorems
import Agintor.Storage.PublicContext

/-!
# A stored session has a public context

What the session store admits, the public contracts admit again: the checks of a reference change
nothing the second time, and the entries take fewer bytes line by line than as one list. So the
context of every session that the store can have written is public.
-/

namespace Agintor.Contracts.PublicSession

open Agintor.Core Lib

/-! ## Checks made twice -/

lemma map_dropWhile {α : Type} {p : α → Bool} {f : α → α} (hp : ∀ a, p (f a) = p a) (l : List α) :
    (l.map f).dropWhile p = (l.dropWhile p).map f := by
  induction l with
  | nil => rfl
  | cons a l ih =>
    rw [List.map_cons, List.dropWhile_cons, List.dropWhile_cons, hp]
    split
    · exact ih
    · rfl

/-- Neither of the two slashes is a space. -/
lemma strip_replaceBackslashes (text : String) :
    strip (replaceBackslashes text) = replaceBackslashes (strip text) := by
  have hspace : ∀ c : Char, isSpace (if c = '\\' then '/' else c) = isSpace c := by
    intro c
    split
    · rename_i hc
      rw [hc]
      rfl
    · rfl
  have hmap : ∀ l : List Char, String.ofList (l.map fun c => if c = '\\' then '/' else c) =
      replaceBackslashes (String.ofList l) := by
    intro l
    rw [← String.toList_inj, replaceBackslashes, String.toList_map, String.toList_ofList,
      String.toList_ofList]
  rw [strip, strip, ← hmap, replaceBackslashes, String.toList_map, map_dropWhile hspace,
    ← List.map_reverse, map_dropWhile hspace, ← List.map_reverse]

lemma replaceBackslashes_replaceBackslashes (text : String) :
    replaceBackslashes (replaceBackslashes text) = replaceBackslashes text := by
  rw [← String.toList_inj]
  simp only [replaceBackslashes, String.toList_map, List.map_map]
  apply List.map_congr_left
  intro c _
  by_cases hc : c = '\\'
  · simp [hc]
  · simp [hc]

/-- The reference that was made is safe as it is. -/
lemma safeArtifactRef_again {value ref : String} (h : safeArtifactRef value = .ok ref) :
    safeArtifactRef (trim ref) = .ok ref := by
  simp only [safeArtifactRef, bind_eq_ok_iff, raiseIf_eq_ok_iff, pure_eq_ok, Except.ok.injEq] at h
  obtain ⟨_, hempty, _, habsolute, _, htraverse, rfl⟩ := h
  have hstrip : strip (replaceBackslashes (strip value)) = replaceBackslashes (strip value) := by
    rw [strip_replaceBackslashes, strip_strip]
  rw [trim_of_strip hstrip]
  simp only [safeArtifactRef, hstrip, replaceBackslashes_replaceBackslashes, raiseIf_neg hempty,
    raiseIf_neg habsolute, raiseIf_neg htraverse, ok_bind, pure_eq_ok]

variable {value fieldName : String}

lemma requireDigest_of_isDigest (h : isDigest value = true) :
    Contracts.PublicSession.requireDigest (trim value) fieldName = .ok value := by
  rw [trim_of_strip (strip_of_isDigest h)]
  simp only [Contracts.PublicSession.requireDigest, toLower_strip_of_isDigest h]
  rw [raiseIf_neg (by simp [h])]
  rfl

lemma isDigest_of_requireDigest {value fieldName digest : String}
    (h : Contracts.PublicSession.requireDigest value fieldName = .ok digest) :
    isDigest digest = true := by
  simp only [Contracts.PublicSession.requireDigest, bind_eq_ok_iff, raiseIf_eq_ok_iff, pure_eq_ok,
    Except.ok.injEq] at h
  obtain ⟨_, hdigest, rfl⟩ := h
  simpa using hdigest

lemma requireNonempty_again {value fieldName text : String}
    (h : requireNonempty value fieldName = .ok text) :
    requireNonempty (trim text) fieldName = .ok text := by
  simp only [requireNonempty, bind_eq_ok_iff, raiseIf_eq_ok_iff, pure_eq_ok, Except.ok.injEq] at h
  obtain ⟨_, hempty, rfl⟩ := h
  rw [trim_of_strip (strip_strip value), requireNonempty, strip_strip, raiseIf_neg hempty]
  rfl

/-- A portable identifier with nothing to strip. -/
lemma requirePortableId_of_strip (hstrip : strip value = value)
    (hportable : isPortableIdentifier value = true) :
    requirePortableId (trim value) fieldName = .ok value := by
  have hempty : ¬value = "" := by
    intro hempty
    rw [hempty] at hportable
    exact absurd hportable (by decide)
  rw [trim_of_strip hstrip, requirePortableId, requireNonempty, hstrip, raiseIf_neg hempty]
  show (raiseIf (isPortableIdentifier value = false) _ >>= fun _ => pure value) = _
  rw [raiseIf_neg (by simp [hportable])]
  rfl

/-! ## Sizes -/

lemma utf8Len_commaSeparated (texts : List (List Char)) :
    String.utf8Len (Json.commaSeparated texts) =
      (texts.map String.utf8Len).sum + (texts.length - 1) := by
  induction texts with
  | nil => rfl
  | cons text texts ih =>
    cases texts with
    | nil => simp [Json.commaSeparated]
    | cons text' texts =>
      have hcomma : String.utf8Len [','] = 1 := rfl
      have hcons : Json.commaSeparated (text :: text' :: texts) =
          text ++ ([','] ++ Json.commaSeparated (text' :: texts)) := rfl
      rw [hcons, String.utf8Len_append, String.utf8Len_append, ih, hcomma]
      simp only [List.map_cons, List.sum_cons, List.length_cons]
      omega

lemma writeItems_eq (F : FloatText) (items : List Json) :
    Json.writeItems F items = items.map (·.write F) := by
  induction items with
  | nil => rfl
  | cons item items ih => rw [Json.writeItems, ih, List.map_cons]

/-- A list takes a byte for each comma and two for the brackets. -/
lemma byteSize_array (F : FloatText) (items : List Json) :
    (Json.array items).byteSize F = (items.map (·.byteSize F)).sum + (items.length - 1) + 2 := by
  have hwrite : (Json.array items).write F =
      ['['] ++ (Json.commaSeparated (items.map (·.write F)) ++ [']']) := by
    rw [Json.write, writeItems_eq]
    rfl
  have hbracket : String.utf8Len ['['] = 1 ∧ String.utf8Len [']'] = 1 := ⟨rfl, rfl⟩
  rw [Json.byteSize_eq, hwrite, String.utf8Len_append, String.utf8Len_append, hbracket.1, hbracket.2,
    utf8Len_commaSeparated, List.map_map, List.length_map]
  simp only [Function.comp_def, ← Json.byteSize_eq]
  omega

/-- A digest is quoted in 66 bytes. -/
lemma utf8Len_quote_of_isDigest {digest : String} (h : isDigest digest = true) :
    String.utf8Len (Json.quote digest.toList) = 66 := by
  have hplain : ∀ c ∈ hexDigits, Json.escape c = none ∧ c.utf8Size = 1 :=
    forall_mem_of_all (by decide +kernel)
  have hhex := mem_hexDigits_of_isDigest h
  have hlength : digest.toList.length = 64 := by
    simp only [isDigest, Bool.and_eq_true, beq_iff_eq] at h
    exact h.1
  have hascii : ∀ {cs : List Char}, (∀ c ∈ cs, c ∈ hexDigits) → String.utf8Len cs = cs.length := by
    intro cs
    induction cs with
    | nil => intro _; rfl
    | cons c cs ih =>
      intro hcs
      rw [String.utf8Len_cons, ih fun d hd => hcs d (List.mem_cons_of_mem c hd),
        (hplain c (hcs c List.mem_cons_self)).2, List.length_cons]
  have hquote : String.utf8Len ['"'] = 1 := rfl
  rw [Json.quote_eq fun c hc => (hplain c (hhex c hc)).1, List.cons_append, String.utf8Len_cons,
    String.utf8Len_append, hascii hhex, hlength, hquote]
  rfl

lemma write_modelDump (F : FloatText) (entry : CarryoverFields) (digest : String) :
    (entry.modelDump digest).write F = '{' :: Json.commaSeparated ([
      ("artifact_digest", Json.quote entry.artifactDigest.toList),
      ("artifact_ref", Json.quote entry.artifactRef.toList),
      ("carryover_digest", Json.quote digest.toList),
      ("public_safe", ['t', 'r', 'u', 'e']),
      ("summary", Json.quote entry.summary.toList)].map Json.entryText) ++ ['}'] := by
  have hsort : ∀ a b c d e : List Char,
      [("artifact_ref", a), ("artifact_digest", b), ("summary", c), ("public_safe", d),
        ("carryover_digest", e)].insertionSort (fun x y => x.1 ≤ y.1) =
      [("artifact_digest", b), ("artifact_ref", a), ("carryover_digest", e), ("public_safe", d),
        ("summary", c)] := by
    intro a b c d e
    simp [List.insertionSort]
  simp only [CarryoverFields.modelDump, Json.write, Json.writeFields, hsort]

/-- Which digest an entry carries is no matter of its size. -/
lemma byteSize_modelDump (F : FloatText) (entry : CarryoverFields) {digest digest' : String}
    (h : isDigest digest = true) (h' : isDigest digest' = true) :
    (entry.modelDump digest).byteSize F = (entry.modelDump digest').byteSize F := by
  have hentry : String.utf8Len (Json.entryText ("carryover_digest", Json.quote digest.toList)) =
      String.utf8Len (Json.entryText ("carryover_digest", Json.quote digest'.toList)) := by
    simp only [Json.entryText, String.utf8Len_append, String.utf8Len_cons,
      utf8Len_quote_of_isDigest h, utf8Len_quote_of_isDigest h']
  rw [Json.byteSize_eq, Json.byteSize_eq, write_modelDump, write_modelDump, List.cons_append,
    List.cons_append, String.utf8Len_cons, String.utf8Len_cons, String.utf8Len_append,
    String.utf8Len_append, utf8Len_commaSeparated, utf8Len_commaSeparated]
  simp only [List.map_cons, List.map_nil, List.sum_cons, List.length_cons, hentry]

end Agintor.Contracts.PublicSession

namespace Agintor.Storage

open Agintor.Core Agintor.Contracts Agintor.Contracts.PublicSession Lib

/-- The digests of the store are SHA-256 digests in hexadecimal. -/
structure SessionDigests.Hexadecimal (D : SessionDigests) : Prop where
  carryoverRef : ∀ entry, isDigest (D.carryoverRef entry) = true
  messageSeed : ∀ seed, isDigest (D.messageSeed seed) = true
  manifest : ∀ manifest, isDigest (D.manifest manifest) = true

namespace HarnessSessionStore

variable {S : HarnessSessionStore}

/-! ## Admitted carryover -/

/-- What `_normalize_carryover` admits. -/
structure Normalized (S : HarnessSessionStore) (limits : HarnessSessionLimits)
    (entries : List HarnessCarryoverRef) : Prop where
  entries_le : entries.length ≤ limits.maxEntries
  refs_nodup : (entries.map (·.artifactRef)).Nodup
  summary_safe : ∀ entry ∈ entries, S.unsafeReason entry.summary = none
  summary_le : ∀ entry ∈ entries, entry.summary.utf8ByteSize ≤ limits.maxSummaryBytes
  total_le : S.encodedSize entries ≤ limits.maxTotalBytes

lemma assertPublicSafeText_ok {value fieldName : String} {u : Unit}
    (h : S.assertPublicSafeText value fieldName = .ok u) : S.unsafeReason value = none := by
  unfold assertPublicSafeText at h
  cases hreason : S.unsafeReason value with
  | none => rfl
  | some reason =>
    rw [hreason] at h
    cases h

variable {p : HarnessSessionPrepare} {limits : HarnessSessionLimits} {P : PublicContracts}

lemma checkCarryover_ok {seen : List String} {entries : List HarnessCarryoverRef} {u : Unit}
    (h : S.checkCarryover limits seen entries = .ok u) :
    (entries.map (·.artifactRef)).Nodup ∧ (∀ entry ∈ entries, entry.artifactRef ∉ seen ∧
      S.unsafeReason entry.summary = none ∧
      entry.summary.utf8ByteSize ≤ limits.maxSummaryBytes) := by
  induction entries generalizing seen with
  | nil => simp
  | cons entry entries ih =>
    simp only [checkCarryover, bind_eq_ok_iff, raiseIf_eq_ok_iff, not_lt] at h
    obtain ⟨_, hfresh, _, -, _, hsafe, _, hsize, hrest⟩ := h
    obtain ⟨hnodup, hall⟩ := ih hrest
    rw [List.map_cons, List.nodup_cons, List.forall_mem_cons]
    refine ⟨⟨?_, hnodup⟩, ⟨hfresh, assertPublicSafeText_ok hsafe, hsize⟩, ?_⟩
    · intro hmem
      obtain ⟨entry', hentry', heq⟩ := List.mem_map.mp hmem
      exact (hall entry' hentry').1 (heq ▸ List.mem_cons_self)
    · intro entry' hentry'
      have hold := hall entry' hentry'
      exact ⟨fun hseen => hold.1 (List.mem_cons_of_mem _ hseen), hold.2⟩

lemma normalizeCarryover_ok {entries normalized : List HarnessCarryoverRef}
    (h : S.normalizeCarryover entries limits = .ok normalized) :
    normalized = entries ∧ Normalized S limits entries := by
  simp only [normalizeCarryover, bind_eq_ok_iff, raiseIf_eq_ok_iff, pure_eq_ok, Except.ok.injEq,
    not_lt] at h
  obtain ⟨_, hcount, _, hcheck, _, htotal, heq⟩ := h
  obtain ⟨hnodup, hall⟩ := checkCarryover_ok hcheck
  exact ⟨heq.symm, hcount, hnodup, fun entry hentry => (hall entry hentry).2.1,
    fun entry hentry => (hall entry hentry).2.2, htotal⟩

/-! ## The invariant -/

/-- A manifest whose context is public. -/
structure Shareable (S : HarnessSessionStore) (manifest : HarnessSessionManifest) : Prop where
  session : strip manifest.sessionId = manifest.sessionId ∧ isSessionId manifest.sessionId = true
  release : isDigest manifest.activeReleaseDigest = true
  limits : manifest.limits.InBounds
  head : ∀ id, manifest.lastMessageId = some id → strip id = id ∧ isPortableIdentifier id = true
  made : ∀ entry ∈ manifest.carryover, entry.Made
  normalized : manifest.carryover = [] ∨ Normalized S manifest.limits manifest.carryover

/-- The manifest of a session, and those that are prepared for it. -/
structure ShareableDisk (S : HarnessSessionStore) (d : SessionDisk) : Prop where
  manifest : ∀ manifest, d.manifest = some manifest → Shareable S manifest
  prepared : ∀ id p, d.prepares.get? id = some (.whole p) → Shareable S p.nextManifest

namespace ShareableDisk

variable {d : SessionDisk}

lemma setManifest (h : ShareableDisk S d) {manifest : HarnessSessionManifest}
    (hmanifest : Shareable S manifest) : ShareableDisk S { d with manifest := some manifest } where
  manifest := by
    intro m hm
    cases hm
    exact hmanifest
  prepared := h.prepared

lemma setPrepare (h : ShareableDisk S d) {id : String} {f : File HarnessSessionPrepare}
    (hf : ∀ p, f = .whole p → Shareable S p.nextManifest) :
    ShareableDisk S { d with prepares := d.prepares.set id f } where
  manifest := h.manifest
  prepared := by
    intro id' p hp
    rw [Dict.get?_set] at hp
    split at hp
    · exact hf p (Option.some.inj hp)
    · exact h.prepared id' p hp

lemma erasePrepare (h : ShareableDisk S d) (id : String) :
    ShareableDisk S { d with prepares := d.prepares.erase id } where
  manifest := h.manifest
  prepared := by
    intro id' p hp
    rw [Dict.get?_erase] at hp
    split at hp
    · cases hp
    · exact h.prepared id' p hp

end ShareableDisk

/-! ## The calls keep the invariant -/

lemma throughout_readRecord {α : Type} {f : Option (File α)} {path : String} :
    Throughout (ShareableDisk S) (readRecord f path) fun a => f = some (.whole a) := by
  unfold readRecord
  split
  · exact .pure rfl
  · exact .raise

lemma throughout_readManifest : Throughout (ShareableDisk S) readManifest (Shareable S) := by
  unfold readManifest
  apply Throughout.read_bind
  intro d hd
  cases hmanifest : d.manifest with
  | none => exact .raise
  | some manifest => exact .pure (hd.manifest manifest hmanifest)

variable {m : Machine SessionStep SessionDisk} {manifest : HarnessSessionManifest}
    {clock : SessionClock}

lemma throughout_writeManifest (h : Shareable S manifest) :
    Throughout (ShareableDisk S) (writeManifest manifest) fun _ => True :=
  .step (fun _ hd => hd.setManifest h) fun _ hd => hd

/-- What is written to the other records is no matter of the invariant. -/
lemma throughout_writeMessageFile {message : HarnessSessionMessage} :
    Throughout (ShareableDisk S) (writeMessageFile message) fun _ => True :=
  .writeOnce (fun _ hd => ⟨hd.manifest, hd.prepared⟩) fun _ hd => ⟨hd.manifest, hd.prepared⟩

lemma throughout_writeCommit {commit : HarnessSessionCommit} :
    Throughout (ShareableDisk S) (writeCommit commit) fun _ => True :=
  .writeOnce (fun _ hd => ⟨hd.manifest, hd.prepared⟩) fun _ hd => ⟨hd.manifest, hd.prepared⟩

lemma throughout_writePrepare (h : Shareable S p.nextManifest) :
    Throughout (ShareableDisk S) (writePrepare p) fun _ => True := by
  apply Throughout.writeOnce
  · intro d hd
    apply hd.setPrepare
    intro p' hp'
    cases hp'
    exact h
  · intro d hd
    apply hd.setPrepare
    intro p' hp'
    cases hp'

lemma throughout_rollBack {path : String} :
    Throughout (ShareableDisk S) (S.rollBack p path) fun _ => True := by
  have hunlink : Throughout (ShareableDisk S) (S.unlinkMessage p) fun _ => True := by
    unfold unlinkMessage
    apply Throughout.read_bind
    intro d _
    cases d.messages.get? (messageFile p.message) with
    | none => exact .pure trivial
    | some f =>
      apply throughout_readRecord.bind
      intro recorded _
      split
      · exact .step (fun _ hd => ⟨hd.manifest, hd.prepared⟩) fun _ hd => hd
      · exact .raise
  apply hunlink.bind
  intro _ _
  exact .step (fun _ hd => hd.erasePrepare path) fun _ hd => hd

lemma throughout_rollForward {c : HarnessSessionCommit} (h : Shareable S p.nextManifest) :
    Throughout (ShareableDisk S) (S.rollForward p c) fun _ => True := by
  have hmessage : Throughout (ShareableDisk S) (S.restoreMessage p) fun _ => True := by
    unfold restoreMessage
    apply Throughout.read_bind
    intro d _
    cases d.messages.get? (messageFile p.message) with
    | none => exact throughout_writeMessageFile
    | some f =>
      apply throughout_readRecord.bind
      intro recorded _
      exact .check fun _ _ => trivial
  have hmanifest : Throughout (ShareableDisk S) (restoreManifest p) fun _ => True := by
    unfold restoreManifest
    apply throughout_readManifest.bind
    intro current _
    split
    · exact throughout_writeManifest h
    · split
      · exact .pure trivial
      · exact .raise
  have hcheck : Throughout (ShareableDisk S) (.check (S.assertCommitMatches p c) : SessionProg Unit)
      fun _ => True := .check fun _ _ => trivial
  exact hcheck.bind fun _ _ => hmessage.bind fun _ _ => hmanifest

lemma throughout_recoverUnlocked :
    Throughout (ShareableDisk S) S.recoverUnlocked (Shareable S) := by
  have hprepare : ∀ path, Throughout (ShareableDisk S) (S.recoverPrepare path) fun _ => True := by
    intro path
    unfold recoverPrepare
    apply Throughout.read_bind
    intro d hd
    apply throughout_readRecord.bind
    intro p hp
    have hnext := hd.prepared path p hp
    have hcheck : Throughout (ShareableDisk S) (.check (raiseIf (p.sessionId ≠ S.sessionId)
        (.validation "prepare record crossed session identity")) : SessionProg Unit)
        fun _ => True := .check fun _ _ => trivial
    apply hcheck.bind
    intro _ _
    apply Throughout.read_bind
    intro d' _
    cases d'.commits.get? (commitId p.message) with
    | none => exact throughout_rollBack
    | some f =>
      apply throughout_readRecord.bind
      intro c _
      exact throughout_rollForward hnext
  unfold recoverUnlocked
  apply throughout_readManifest.bind
  intro _ _
  apply Throughout.read_bind
  intro d _
  apply (Throughout.forM hprepare).bind
  intro _ _
  exact throughout_readManifest

lemma throughout_recover {digest : Option String} :
    Throughout (ShareableDisk S) (S.recover digest) (Shareable S) := by
  have hlocked : Throughout (ShareableDisk S) (.withLock S.writerLock S.recoverUnlocked)
      (Shareable S) :=
    .withLock (fun _ _ hd => ⟨hd.manifest, hd.prepared⟩) throughout_recoverUnlocked
  unfold recover
  apply hlocked.bind
  intro manifest hmanifest
  cases digest with
  | none => exact .pure hmanifest
  | some digest =>
    have hcheck : Throughout (ShareableDisk S)
        (.check (assertRelease manifest digest) : SessionProg Unit) fun _ => True :=
      .check fun _ _ => trivial
    exact hcheck.bind fun _ _ => .pure hmanifest

/-- The context is read off a shareable manifest. -/
def ContextOf (S : HarnessSessionStore) (context : HarnessNextContext) : Prop :=
  ∃ manifest, Shareable S manifest ∧ context =
    { sessionId := manifest.sessionId
      activeReleaseDigest := manifest.activeReleaseDigest
      sessionManifestDigest := S.digests.manifest manifest
      parentMessageId := manifest.lastMessageId
      nextSequence := manifest.nextSequence
      limits := manifest.limits
      carryover := manifest.carryover }

lemma throughout_contextForNext {digest : String} :
    Throughout (ShareableDisk S) (S.contextForNext digest) (ContextOf S) := by
  unfold contextForNext
  apply throughout_recover.bind
  intro manifest hmanifest
  have hcheck : Throughout (ShareableDisk S)
      (.check (assertRelease manifest digest) : SessionProg Unit) fun _ => True :=
    .check fun _ _ => trivial
  exact hcheck.bind fun _ _ => .pure ⟨manifest, hmanifest, rfl⟩

/-! ### Appending -/

/-- `hmsg.` and the first 20 digits of a digest are a portable identifier. -/
lemma portable_messageId (hD : S.digests.Hexadecimal) (manifest : HarnessSessionManifest)
    (messageSummary : String) (carryover : List HarnessCarryoverRef) (nonce : String) :
    strip (S.messageId manifest messageSummary carryover nonce) =
        S.messageId manifest messageSummary carryover nonce ∧
      isPortableIdentifier (S.messageId manifest messageSummary carryover nonce) = true := by
  obtain ⟨digest, hdigest, hid⟩ : ∃ digest, isDigest digest = true ∧
      S.messageId manifest messageSummary carryover nonce = "hmsg." ++ takeChars 20 digest :=
    ⟨_, hD.messageSeed _, rfl⟩
  have hhex := mem_hexDigits_of_isDigest hdigest
  have hplain : ∀ c ∈ hexDigits, isSpace c = false ∧ c ≠ '.' ∧
      (c.isAlphanum || c == '_' || c == '.' || c == '-') = true :=
    forall_mem_of_all (by decide +kernel)
  have hlist : ("hmsg." ++ takeChars 20 digest).toList =
      'h' :: (['m', 's', 'g', '.'] ++ digest.toList.take 20) := by
    have hfront : "hmsg.".toList = ['h', 'm', 's', 'g', '.'] := by decide
    rw [String.toList_append, hfront, takeChars, String.toList_ofList]
    rfl
  have htake : ∀ c ∈ digest.toList.take 20, c ∈ hexDigits := fun c hc =>
    hhex c (List.mem_of_mem_take hc)
  rw [hid]
  constructor
  · apply strip_of_no_space
    rw [hlist]
    intro c hc
    have hfront : (['h', 'm', 's', 'g', '.'].all fun c => !isSpace c) = true := by decide
    rw [← List.cons_append, List.mem_append] at hc
    rcases hc with hc | hc
    · simpa using List.all_eq_true.mp hfront c hc
    · exact (hplain c (htake c hc)).1
  · have hdots : ¬['.', '.'] <:+: 'h' :: (['m', 's', 'g', '.'] ++ digest.toList.take 20) := by
      intro hinfix
      -- the one dot is followed by a digit or by nothing
      have hcount := hinfix.sublist.count_le '.'
      have hnone : (digest.toList.take 20).count '.' = 0 :=
        List.count_eq_zero.mpr fun hmem => (hplain '.' (htake '.' hmem)).2.1 rfl
      simp [hnone] at hcount
    have hall : ((['m', 's', 'g', '.'] ++ digest.toList.take 20).all fun d =>
        d.isAlphanum || d == '_' || d == '.' || d == '-') = true := by
      rw [List.all_append, Bool.and_eq_true]
      exact ⟨by decide, List.all_eq_true.mpr fun c hc => (hplain c (htake c hc)).2.2⟩
    have hlength : (['m', 's', 'g', '.'] ++ digest.toList.take 20).length ≤ 127 := by
      rw [List.length_append, List.length_take]
      simp only [List.length_cons, List.length_nil]
      omega
    simp only [isPortableIdentifier, hlist, hall, hdots, decide_eq_true hlength, decide_false,
      Bool.and_true, Bool.not_false]
    decide

/-- The manifest after an admitted message is shareable. -/
lemma shareable_next (hD : S.digests.Hexadecimal) (hmanifest : Shareable S manifest)
    {args : AppendArgs} {carryover : List HarnessCarryoverRef}
    (hmade : ∀ entry ∈ carryover, entry.Made) (hnormalized : Normalized S manifest.limits carryover)
    (hp : S.buildPrepare manifest args carryover clock = .ok p) : Shareable S p.nextManifest := by
  unfold buildPrepare at hp
  simp only [bind_eq_ok_iff] at hp
  obtain ⟨summary, -, hp⟩ := hp
  split at hp
  · simp only [pure_eq_ok, Except.ok.injEq] at hp
    rw [← hp]
    refine ⟨hmanifest.session, hmanifest.release, hmanifest.limits, ?_, hmade, Or.inr hnormalized⟩
    intro id hid
    cases hid
    exact portable_messageId hD _ _ _ _
  · cases hp

lemma throughout_appendMessage (hD : S.digests.Hexadecimal) {args : AppendArgs}
    (hmade : ∀ entry ∈ args.carryover, entry.Made) :
    Throughout (ShareableDisk S) (S.appendMessage args clock) fun _ => True := by
  have hcheck : ∀ {α : Type} (x : Except SessionError α), Throughout (ShareableDisk S)
      (.check x : SessionProg α) fun a => x = .ok a := fun _ => .check fun _ ha => ha
  unfold appendMessage
  apply Throughout.withLock fun _ _ hd => ⟨hd.manifest, hd.prepared⟩
  apply throughout_recoverUnlocked.bind
  intro manifest hmanifest
  apply (hcheck _).bind
  intro _ _
  apply (hcheck _).bind
  intro _ _
  apply (hcheck _).bind
  intro _ _
  apply (hcheck _).bind
  intro _ _
  apply (hcheck _).bind
  intro carryover hcarryover
  obtain ⟨rfl, hnormalized⟩ := normalizeCarryover_ok hcarryover
  apply (hcheck _).bind
  intro p hp
  have hnext := shareable_next hD hmanifest hmade hnormalized hp
  apply (throughout_writePrepare hnext).bind
  intro _ _
  apply throughout_writeMessageFile.bind
  intro _ _
  apply throughout_writeCommit.bind
  intro _ _
  apply (throughout_writeManifest hnext).bind
  intro _ _
  exact .pure trivial

/-! ### Runs -/

/-- The carryover of a message is made of references. -/
def Call.WellTyped : Call → Prop
  | .appendMessage args _ => ∀ entry ∈ args.carryover, entry.Made
  | _ => True

/-- Whatever call is made, and wherever it stops. -/
lemma shareable_execute (hD : S.digests.Hexadecimal) (hm : ShareableDisk S m.state) {e : Event}
    (he : e.call.WellTyped) : ShareableDisk S (S.execute m e).2.state := by
  have hprogram : Throughout (ShareableDisk S) (S.program e) fun _ => True := by
    unfold program
    cases hcall : e.call with
    | appendMessage args clock =>
      rw [hcall] at he
      exact (throughout_appendMessage hD he).bind fun _ _ => .pure trivial
    | contextForNext digest => exact throughout_contextForNext.bind fun _ _ => .pure trivial
    | recover digest => exact throughout_recover.bind fun _ _ => .pure trivial
  exact (hprogram { m with fault := e.fault } hm).1

lemma shareable_run (hD : S.digests.Hexadecimal) (hm : ShareableDisk S m.state)
    {events : List Event} (hevents : ∀ e ∈ events, e.call.WellTyped) :
    ShareableDisk S (S.run m events).state := by
  induction events generalizing m with
  | nil => exact hm
  | cons e events ih =>
    rw [List.forall_mem_cons] at hevents
    exact ih (shareable_execute hD hm hevents.1) hevents.2

/-- A created session is shareable. -/
lemma shareable_create {projectDir digest sessionId : String} {createdAt : ℕ} {id : String}
    {disk : SessionDisk} (hlimits : limits.InBounds)
    (h : createSession projectDir digest sessionId limits createdAt = .ok (id, disk)) :
    ShareableDisk S disk := by
  simp only [createSession, bind_eq_ok_iff, pure_eq_ok, Except.ok.injEq, Prod.mk.injEq] at h
  obtain ⟨release, hrelease, allocated, hallocated, -, rfl⟩ := h
  simp only [HarnessSessionStore.requireDigest, bind_eq_ok_iff, raiseIf_eq_ok_iff, pure_eq_ok,
    Except.ok.injEq] at hrelease
  simp only [assertSafeSessionId, bind_eq_ok_iff, raiseIf_eq_ok_iff, pure_eq_ok,
    Except.ok.injEq] at hallocated
  obtain ⟨_, hdigest, rfl⟩ := hrelease
  obtain ⟨_, hsafe, rfl⟩ := hallocated
  rw [Bool.not_eq_false] at hdigest hsafe
  constructor
  case manifest =>
    intro manifest hmanifest
    cases hmanifest
    constructor
    case session => exact ⟨strip_strip _, hsafe⟩
    case release => exact hdigest
    case limits => exact hlimits
    case head => intro id hid; cases hid
    case made => intro entry hentry; cases hentry
    case normalized => exact Or.inl rfl
  case prepared =>
    intro id p hp
    cases hp

/-! ## The public context -/

/-- A session id is a portable one. -/
lemma portable_of_isSessionId {id : String} (h : isSessionId id = true) :
    isPortableIdentifier id = true := by
  unfold isSessionId at h
  unfold isPortableIdentifier
  cases hid : id.toList with
  | nil =>
    rw [hid] at h
    cases h
  | cons c cs =>
    rw [hid] at h
    simp only [Bool.and_eq_true, decide_eq_true_eq] at h ⊢
    exact ⟨⟨⟨h.1.1.1, by omega⟩, h.1.2⟩, h.2⟩

/-- A reference of the class, whose summary the store has scanned, is a public reference. -/
lemma publicCarryoverRef_of_made {entry : HarnessCarryoverRef} (hmade : entry.Made)
    (hsafe : P.unsafeReason entry.summary = none) :
    P.publicCarryoverRef entry.artifactRef entry.artifactDigest entry.summary =
      .ok ⟨entry.fields, P.carryoverRefDigest entry.fields⟩ := by
  obtain ⟨artifactRef, artifactDigest, summary, hcreate⟩ := hmade
  simp only [HarnessCarryoverRef.create, bind_eq_ok_iff, pure_eq_ok, Except.ok.injEq] at hcreate
  obtain ⟨ref, href, digest, hdigest, text, htext, rfl⟩ := hcreate
  have hscan : P.assertPublicSessionText text "summary" = .ok () := by
    simp only [PublicContracts.assertPublicSessionText, hsafe]
  simp only [PublicContracts.publicCarryoverRef, safeArtifactRef_again href,
    requireDigest_of_isDigest (isDigest_of_requireDigest hdigest), requireNonempty_again htext,
    hscan, ok_bind, pure_eq_ok]
  rfl

/-- Line by line the entries take no more bytes than as one list. -/
lemma sum_entrySize_le {D : SessionDigests} (hD : D.Hexadecimal)
    (hP : ∀ fields, isDigest (P.carryoverRefDigest fields) = true)
    (entries : List HarnessCarryoverRef) :
    ((entries.map fun entry => (⟨entry.fields, P.carryoverRefDigest entry.fields⟩ :
      HarnessPublicCarryoverRef)).map P.entrySize).sum ≤ canonicalSize P.floats D entries := by
  have hsize : ∀ entry : HarnessCarryoverRef,
      P.entrySize ⟨entry.fields, P.carryoverRefDigest entry.fields⟩ =
        (entry.fields.modelDump (D.carryoverRef entry)).byteSize P.floats + 1 := by
    intro entry
    rw [PublicContracts.entrySize, byteSize_modelDump P.floats entry.fields (hP _)
      (hD.carryoverRef entry)]
  rw [canonicalSize, byteSize_array, List.map_map, List.map_map, List.length_map]
  simp only [Function.comp_def, hsize]
  have hlines : (entries.map fun _ => 1).sum = entries.length := by simp
  rw [List.sum_map_add, hlines]
  omega

/-- What the public context keeps of the context of a session. -/
structure Preserves (context : HarnessNextContext) (pub : HarnessPublicSessionContext) : Prop where
  session : pub.fields.sessionId = context.sessionId
  parent : pub.fields.parentMessageId = context.parentMessageId
  sequence : pub.fields.nextSequence = context.nextSequence
  limits : pub.fields.limits = ⟨context.limits.maxEntries, context.limits.maxTotalBytes,
    context.limits.maxSummaryBytes⟩
  carryover : pub.fields.carryover.map (·.fields) = context.carryover.map (·.fields)

/-- The context of a shareable manifest is public. -/
theorem toPublic_of_shareable {D : SessionDigests} {projectDir sessionId : String}
    (hD : D.Hexadecimal) (hP : ∀ fields, isDigest (P.carryoverRefDigest fields) = true)
    {context : HarnessNextContext} (h : ContextOf (ofProject P D projectDir sessionId) context) :
    ∃ pub, context.toPublicRuntimeContext P = .ok pub ∧ Preserves context pub := by
  obtain ⟨manifest, hmanifest, rfl⟩ := h
  obtain ⟨hentries, hbytes, hsummary⟩ := hmanifest.limits
  have hlimits : HarnessPublicSessionLimits.create manifest.limits.maxEntries
      manifest.limits.maxTotalBytes manifest.limits.maxSummaryBytes =
      .ok ⟨manifest.limits.maxEntries, manifest.limits.maxTotalBytes,
        manifest.limits.maxSummaryBytes⟩ := by
    simp only [HarnessPublicSessionLimits.create, raiseIf_neg (not_lt.mpr hentries),
      raiseIf_neg (not_lt.mpr hbytes), raiseIf_neg (not_lt.mpr hsummary), ok_bind, pure_eq_ok]
  set refs : List HarnessPublicCarryoverRef := manifest.carryover.map fun entry =>
    ⟨entry.fields, P.carryoverRefDigest entry.fields⟩ with hrefs
  have hsafe : ∀ entry ∈ manifest.carryover, P.unsafeReason entry.summary = none := by
    intro entry hentry
    rcases hmanifest.normalized with hnil | hnormalized
    · rw [hnil] at hentry
      cases hentry
    · exact hnormalized.summary_safe entry hentry
  have hcarryover : (manifest.carryover.mapM fun entry =>
      P.publicCarryoverRef entry.artifactRef entry.artifactDigest entry.summary) = .ok refs :=
    mapM_eq_map fun entry hentry =>
      publicCarryoverRef_of_made (hmanifest.made entry hentry) (hsafe entry hentry)
  set fields : PublicContextFields :=
    { sessionId := manifest.sessionId
      activeReleaseDigest := manifest.activeReleaseDigest
      sessionManifestDigest := D.manifest manifest
      nextSequence := manifest.nextSequence
      parentMessageId := manifest.lastMessageId
      limits := ⟨manifest.limits.maxEntries, manifest.limits.maxTotalBytes,
        manifest.limits.maxSummaryBytes⟩
      carryover := refs } with hfields
  have hvalid : P.validateContext fields = .ok () := by
    have hchecks : refs.length ≤ manifest.limits.maxEntries ∧
        (refs.map (·.fields.artifactRef)).Nodup ∧
        (∀ ref ∈ refs, ref.fields.summary.utf8ByteSize ≤ manifest.limits.maxSummaryBytes) ∧
        (refs.map P.entrySize).sum ≤ manifest.limits.maxTotalBytes := by
      rcases hmanifest.normalized with hnil | hnormalized
      · simp [hrefs, hnil]
      · refine ⟨?_, ?_, ?_, ?_⟩
        · rw [hrefs, List.length_map]
          exact hnormalized.entries_le
        · rw [hrefs, List.map_map]
          exact hnormalized.refs_nodup
        · intro ref href
          obtain ⟨entry, hentry, rfl⟩ := List.mem_map.mp href
          exact hnormalized.summary_le entry hentry
        · exact (sum_entrySize_le hD hP manifest.carryover).trans hnormalized.total_le
    obtain ⟨hcount, hnodup, hsummaries, htotal⟩ := hchecks
    have hnone : ¬∃ ref ∈ refs, manifest.limits.maxSummaryBytes < ref.fields.summary.utf8ByteSize := by
      intro hlong
      obtain ⟨ref, href, hlt⟩ := hlong
      exact absurd hlt (not_lt.mpr (hsummaries ref href))
    simp only [PublicContracts.validateContext, hfields, raiseIf_neg (not_lt.mpr hcount),
      raiseIf_neg (not_not_intro hnodup), raiseIf_neg hnone, raiseIf_neg (not_lt.mpr htotal),
      ok_bind]
  have hcontext : P.publicSessionContext fields = .ok ⟨fields, P.contextDigest fields⟩ := by
    have hsession : requirePortableId (trim manifest.sessionId) "session_id" =
        .ok manifest.sessionId :=
      requirePortableId_of_strip hmanifest.session.1 (portable_of_isSessionId hmanifest.session.2)
    have hparent : requireOptionalId manifest.lastMessageId "parent_message_id" =
        .ok manifest.lastMessageId := by
      cases hlast : manifest.lastMessageId with
      | none => rfl
      | some id =>
        have hid := hmanifest.head id hlast
        rw [requireOptionalId, requirePortableId_of_strip hid.1 hid.2]
        rfl
    simp only [PublicContracts.publicSessionContext, hfields, hsession, hparent,
      requireDigest_of_isDigest hmanifest.release, requireDigest_of_isDigest (hD.manifest manifest),
      ok_bind]
    rw [← hfields, hvalid]
    rfl
  refine ⟨⟨fields, P.contextDigest fields⟩, ?_, ⟨rfl, rfl, rfl, rfl, ?_⟩⟩
  · show (HarnessPublicSessionLimits.create _ _ _ >>= fun limits => _) = _
    rw [hlimits, ok_bind, hcarryover, ok_bind]
    exact hcontext
  · show (manifest.carryover.map _).map _ = _
    rw [List.map_map]
    rfl

/-- Whatever was called on a session, and wherever the calls stopped: the context for its next
message has a public form, which keeps what it says. -/
theorem public_context_of_next (P : PublicContracts) (D : SessionDigests)
    {projectDir digest sessionId id : String} {limits : HarnessSessionLimits} {createdAt : ℕ}
    {disk : SessionDisk} (hD : D.Hexadecimal)
    (hP : ∀ fields, isDigest (P.carryoverRefDigest fields) = true) (hlimits : limits.InBounds)
    (hcreate : createSession projectDir digest sessionId limits createdAt = .ok (id, disk))
    (events : List Event) (hevents : ∀ e ∈ events, e.call.WellTyped)
    (release : String) (fault : Option (Fault SessionStep)) {context : HarnessNextContext}
    (hnext : ((ofProject P D projectDir id).contextForNext release
      { (ofProject P D projectDir id).run { state := disk } events with fault := fault }).1 =
      .ok context) :
    ∃ pub, context.toPublicRuntimeContext P = .ok pub ∧ Preserves context pub := by
  have hrun : ShareableDisk (ofProject P D projectDir id)
      ((ofProject P D projectDir id).run { state := disk } events).state :=
    shareable_run hD (shareable_create hlimits hcreate) hevents
  have hcall : Throughout (ShareableDisk (ofProject P D projectDir id))
      ((ofProject P D projectDir id).contextForNext release)
      (ContextOf (ofProject P D projectDir id)) := throughout_contextForNext
  have hcontext := hcall
    { (ofProject P D projectDir id).run { state := disk } events with fault := fault } hrun
  exact toPublic_of_shareable hD hP (hcontext.2 context hnext)

/-! ### A session with a message -/

def sampleContracts : PublicContracts where
  floats := ⟨fun _ => "", ""⟩
  unsafeReason := fun _ => none
  carryoverRefDigest := fun _ => sampleRelease
  contextDigest := fun _ => sampleRelease

def sampleDigests : SessionDigests where
  carryoverRef := fun _ => sampleRelease
  messageSeed := fun _ => sampleRelease
  manifest := fun _ => sampleRelease
  message := fun _ => sampleRelease
  prepare := fun _ => sampleRelease

def sampleEntry : HarnessCarryoverRef := ⟨"runs/1/result.json", sampleRelease, "done"⟩

/-- A message that carries one reference over. -/
def carryingAppend : Event where
  call := .appendMessage ⟨sampleRelease, 0, "first", [sampleEntry]⟩ ⟨0, 0, "nonce"⟩

/-- The context after a message with one reference. -/
theorem public_context_of_next_first :
    ∃ context pub, context.carryover = [sampleEntry] ∧
      context.toPublicRuntimeContext sampleContracts = .ok pub ∧ Preserves context pub := by
  have hdigest : isDigest sampleRelease = true := by decide +kernel
  have hcreate : createSession "project" sampleRelease "hsess.1" {} 0 =
      .ok ("hsess.1", sampleDisk) := by decide +kernel
  have hmade : sampleEntry.Made :=
    ⟨"runs/1/result.json", sampleRelease, "done", by decide +kernel⟩
  have hreturns : (((ofProject sampleContracts sampleDigests "project" "hsess.1").contextForNext
      sampleRelease { (ofProject sampleContracts sampleDigests "project" "hsess.1").run
        { state := sampleDisk } [carryingAppend] with fault := none }).1.toOption.map
      (·.carryover)) = some [sampleEntry] := by decide +kernel
  have htyped : ∀ e ∈ [carryingAppend], e.call.WellTyped := by
    intro e he
    rw [List.mem_singleton.mp he]
    show ∀ entry ∈ [sampleEntry], entry.Made
    intro entry hentry
    exact List.mem_singleton.mp hentry ▸ hmade
  cases hnext : ((ofProject sampleContracts sampleDigests "project" "hsess.1").contextForNext
      sampleRelease { (ofProject sampleContracts sampleDigests "project" "hsess.1").run
        { state := sampleDisk } [carryingAppend] with fault := none }).1 with
  | error e =>
    rw [hnext] at hreturns
    cases hreturns
  | ok context =>
    rw [hnext] at hreturns
    obtain ⟨pub, hpub, hkeeps⟩ := public_context_of_next sampleContracts sampleDigests
      ⟨fun _ => hdigest, fun _ => hdigest, fun _ => hdigest⟩ (fun _ => hdigest) (by decide) hcreate
      [carryingAppend] htyped sampleRelease none hnext
    exact ⟨context, pub, Option.some.inj hreturns, hpub, hkeeps⟩

end HarnessSessionStore

end Agintor.Storage
