import Agintor.Core.Json
import Mathlib.Tactic.IntervalCases

/-!
# Payloads that may cross a public boundary

`assert_no_resolved_credentials` (`contracts/run_evidence.py`) and `assert_public_payload`
(`authority/public_tasks.py`), as the two replays call them one after the other, without canary
values. Both raise `ValueError` and change nothing, so that a payload is public or it is not.
-/

namespace Agintor.Contracts

open Core

/-- The part of the Unicode tables that the patterns below consult beyond ASCII. -/
structure UnicodeTables where
  isAlnum : Char → Bool

/-! ## Keys -/

/-- `c.casefold()`, as far as it is about `[a-z0-9]`: no other character folds to one of these. -/
def caseFold (c : Char) : List Char :=
  match c.toNat with
  | 0xDF | 0x1E9E => ['s', 's']
  | 0x130 => ['i', '\u0307']
  | 0x149 => ['\u02BC', 'n']
  | 0x17F => ['s']
  | 0x1F0 => ['j', '\u030C']
  | 0x1E96 => ['h', '\u0331']
  | 0x1E97 => ['t', '\u0308']
  | 0x1E98 => ['w', '\u030A']
  | 0x1E99 => ['y', '\u030A']
  | 0x1E9A => ['a', '\u02BE']
  | 0x212A => ['k']
  | 0xFB00 => ['f', 'f']
  | 0xFB01 => ['f', 'i']
  | 0xFB02 => ['f', 'l']
  | 0xFB03 => ['f', 'f', 'i']
  | 0xFB04 => ['f', 'f', 'l']
  | 0xFB05 | 0xFB06 => ['s', 't']
  | _ => [c.toLower]

/-- `[a-z0-9]` -/
def isKeyChar (c : Char) : Bool := c.isLower || c.isDigit

/-- `re.sub(r"[^a-z0-9]+", "_", ...)`, inside a run of other characters or not. -/
def collapse : Bool → List Char → List Char
  | _, [] => []
  | inRun, c :: cs =>
    if isKeyChar c then c :: collapse false cs
    else if inRun then collapse true cs
    else '_' :: collapse true cs

/-- `_normalize_key` and `_normalized_key` -/
def normalizeKey (key : String) : String :=
  let collapsed := collapse false (key.toList.flatMap caseFold)
  String.ofList (((collapsed.dropWhile (· = '_')).reverse.dropWhile (· = '_')).reverse)

/-- `_SECRET_KEYS` -/
def secretKeys : List String :=
  ["access_token", "api_key", "authorization", "credential", "credentials", "password",
    "private_key", "refresh_token", "secret", "token"]

/-- `_FORBIDDEN_KEY_PREFIXES` -/
def forbiddenKeyPrefixes : List String :=
  ["private_", "sealed_", "hidden_", "evaluator_", "oracle_private_", "gold_"]

/-- `_FORBIDDEN_KEYS` -/
def forbiddenKeys : List String :=
  ["answer_key", "evaluation_contract", "evaluation_contract_digest", "exclusions",
    "expected_answer", "expected_output", "fixture_path", "hidden_checks", "hidden_tests",
    "operation_dag", "outcome_authority", "protected_paths", "repair_decomposition",
    "repair_plan", "scoring", "sealed_fixture", "target_files", "target_location",
    "validation_plan"]

/-! ## Secret values -/

/-- `\w` -/
def isWordChar (U : UnicodeTables) (c : Char) : Bool :=
  if c.toNat < 128 then c.isAlphanum || c == '_' else U.isAlnum c

/-- `[A-Za-z0-9._~+/=-]`, and what the letters among them match without regard to case. -/
def isTokenChar (c : Char) : Bool :=
  c.isAlphanum || "._~+/=-".toList.contains c || [0x130, 0x131, 0x17F, 0x212A].contains c.toNat

/-- `Bearer\s+[A-Za-z0-9._~+/=-]{16,}`, without regard to case. -/
def startsBearer (cs : List Char) : Bool :=
  let rest := cs.drop 6
  (cs.take 6).map Char.toLower == ['b', 'e', 'a', 'r', 'e', 'r'] && (rest.takeWhile isSpace) != [] &&
    16 ≤ ((rest.dropWhile isSpace).takeWhile isTokenChar).length

/-- `[A-Za-z0-9_-]*` up to a word boundary, where at least `n` more characters are needed. -/
def endsAtBoundary (U : UnicodeTables) : ℕ → Char → List Char → Bool
  | n, last, [] => n == 0 && isWordChar U last
  | n, last, c :: cs =>
    (n == 0 && isWordChar U last != isWordChar U c) ||
      ((c.isAlphanum || c == '_' || c == '-') && endsAtBoundary U (n - 1) c cs)

/-- `sk-(?:ant-)?[A-Za-z0-9_-]{16,}\b`: the optional `ant-` is made of the characters that may
follow it. -/
def startsSecretKey (U : UnicodeTables) (cs : List Char) : Bool :=
  cs.take 3 == ['s', 'k', '-'] && endsAtBoundary U 16 '-' (cs.drop 3)

/-- `-----BEGIN (?:RSA |EC |OPENSSH )?PRIVATE KEY-----` -/
def startsPrivateKey (cs : List Char) : Bool :=
  ["", "RSA ", "EC ", "OPENSSH "].any fun kind =>
    (List.replicate 5 '-' ++ ("BEGIN " ++ kind ++ "PRIVATE KEY-----").toList).isPrefixOf cs

/-- Whether one of `_SECRET_VALUE_PATTERNS` is found; `atBoundary` says whether a word can start
here. -/
def findsSecret (U : UnicodeTables) : Bool → List Char → Bool
  | _, [] => false
  | atBoundary, c :: cs =>
    (atBoundary && (startsBearer (c :: cs) || startsSecretKey U (c :: cs))) ||
      startsPrivateKey (c :: cs) || findsSecret U (!isWordChar U c) cs

def isSecretValue (U : UnicodeTables) (value : String) : Bool := findsSecret U true value.toList

/-! ## Payloads -/

/-- `None`, `""`, `[]` and `{}`. -/
def isBlank : Json → Bool
  | .null => true
  | .str s => s == ""
  | .array items => items.isEmpty
  | .object fields => fields.isEmpty
  | _ => false

/-- `_normalize_json_value` -/
def isCanonicalJson (value : Json) : Bool :=
  value.all (fun leaf => match leaf with
    | .nonFinite => false
    | _ => true) fun key item => key != "" && (!secretKeys.contains (normalizeKey key) || isBlank item)

/-- `assert_no_resolved_credentials` -/
def noResolvedCredentials (U : UnicodeTables) (value : Json) : Bool :=
  isCanonicalJson value && value.all (fun leaf => match leaf with
    | .str s => !isSecretValue U s
    | _ => true) fun _ _ => true

/-- `assert_public_payload` -/
def isPublicKey (key : String) : Bool :=
  !forbiddenKeys.contains (normalizeKey key) &&
    !forbiddenKeyPrefixes.any fun text => text.toList.isPrefixOf (normalizeKey key).toList

def hasPublicKeys (value : Json) : Bool := value.all (fun _ => true) fun key _ => isPublicKey key

def isPublic (U : UnicodeTables) (value : Json) : Bool :=
  noResolvedCredentials U value && hasPublicKeys value

/-! ## Composing payloads -/

variable {U : UnicodeTables}

/-- What is asked of an entry itself. -/
def PublicEntry (key : String) (item : Json) : Prop :=
  key ≠ "" ∧ (normalizeKey key ∈ secretKeys → isBlank item = true) ∧ isPublicKey key = true

theorem isPublic_array {items : List Json} :
    isPublic U (.array items) = true ↔ ∀ item ∈ items, isPublic U item = true := by
  unfold isPublic noResolvedCredentials isCanonicalJson hasPublicKeys
  simp only [Json.all_array, Bool.and_eq_true, List.all_eq_true]
  constructor
  · intro ⟨⟨hcanonical, hsecret⟩, hkeys⟩ item hitem
    exact ⟨⟨hcanonical item hitem, hsecret item hitem⟩, hkeys item hitem⟩
  · intro h
    exact ⟨⟨fun item hitem => (h item hitem).1.1, fun item hitem => (h item hitem).1.2⟩,
      fun item hitem => (h item hitem).2⟩

variable {fields : List (String × Json)} {c : Char}

theorem isPublic_object :
    isPublic U (.object fields) = true ↔
      ∀ field ∈ fields, PublicEntry field.1 field.2 ∧ isPublic U field.2 = true := by
  unfold isPublic noResolvedCredentials isCanonicalJson hasPublicKeys PublicEntry
  simp only [Json.all_object, Bool.and_eq_true, List.all_eq_true, Bool.true_and, bne_iff_ne,
    Bool.or_eq_true, Bool.not_eq_true', List.contains_eq_mem, decide_eq_false_iff_not, ne_eq]
  constructor
  · intro ⟨⟨hcanonical, hsecret⟩, hkeys⟩ field hfield
    obtain ⟨⟨hne, hblank⟩, hitem⟩ := hcanonical field hfield
    obtain ⟨hkey, hitem'⟩ := hkeys field hfield
    refine ⟨⟨hne, fun hmem => ?_, hkey⟩, ⟨hitem, hsecret field hfield⟩, hitem'⟩
    exact hblank.resolve_left fun hnot => hnot hmem
  · intro h
    refine ⟨⟨fun field hfield => ?_, fun field hfield => (h field hfield).2.1.2⟩,
      fun field hfield => ⟨(h field hfield).1.2.2, (h field hfield).2.2⟩⟩
    obtain ⟨⟨hne, hblank, -⟩, ⟨hitem, -⟩, -⟩ := h field hfield
    refine ⟨⟨hne, ?_⟩, hitem⟩
    by_cases hmem : normalizeKey field.1 ∈ secretKeys
    · exact Or.inr (hblank hmem)
    · exact Or.inl hmem

variable {text : String} {cs : List Char}

theorem isPublic_str : isPublic U (.str text) = true ↔ isSecretValue U text = false := by
  simp [isPublic, noResolvedCredentials, isCanonicalJson, hasPublicKeys, Json.all]

/-- The digits of a digest. -/
def hexDigits : List Char := "0123456789abcdef".toList

theorem mem_hexDigits (h : (c.isDigit || ('a' ≤ c && c ≤ 'f')) = true) : c ∈ hexDigits := by
  have hnat : 48 ≤ c.toNat ∧ c.toNat ≤ 57 ∨ 97 ≤ c.toNat ∧ c.toNat ≤ 102 := by
    simp only [Bool.or_eq_true, Bool.and_eq_true, decide_eq_true_eq] at h
    rcases h with hdigit | ⟨hlo, hhi⟩
    · simp only [Char.isDigit, Bool.and_eq_true, decide_eq_true_eq] at hdigit
      exact Or.inl ⟨UInt32.le_iff_toNat_le.mp hdigit.1, UInt32.le_iff_toNat_le.mp hdigit.2⟩
    · exact Or.inr ⟨UInt32.le_iff_toNat_le.mp hlo, UInt32.le_iff_toNat_le.mp hhi⟩
  rw [← Char.ofNat_toNat c]
  generalize c.toNat = n at hnat
  have hn : n < 103 := by omega
  revert hnat
  interval_cases n <;> decide

lemma startsBearer_of_hex (h : ∀ c ∈ cs, c ∈ hexDigits) : startsBearer cs = false := by
  by_contra hne
  have hstarts : startsBearer cs = true := by simpa using hne
  simp only [startsBearer, Bool.and_eq_true, beq_iff_eq] at hstarts
  -- the fourth letter is no digit
  have hr : 'r' ∈ (cs.take 6).map Char.toLower := by
    rw [hstarts.1.1]
    decide
  obtain ⟨c, hc, hlower⟩ := List.mem_map.mp hr
  have hhex : ∀ c ∈ hexDigits, c.toLower ≠ 'r' :=
    forall_mem_of_all (by decide +kernel)
  exact hhex c (h c (List.mem_of_mem_take hc)) hlower

lemma startsSecretKey_of_hex (h : c ∈ hexDigits) : startsSecretKey U (c :: cs) = false := by
  have hhex : ∀ c ∈ hexDigits, c ≠ 's' :=
    forall_mem_of_all (by decide +kernel)
  have hne : (c :: cs.take 2 == ['s', 'k', '-']) = false := by
    rw [beq_eq_false_iff_ne]
    intro heq
    exact hhex c h (List.cons.inj heq).1
  unfold startsSecretKey
  rw [List.take_succ_cons, hne, Bool.false_and]

lemma startsPrivateKey_of_hex (h : c ∈ hexDigits) : startsPrivateKey (c :: cs) = false := by
  have hhex : ∀ c ∈ hexDigits, ('-' == c) = false :=
    forall_mem_of_all (by decide +kernel)
  unfold startsPrivateKey
  simp [List.replicate, List.isPrefixOf, hhex c h]

lemma findsSecret_of_hex (b : Bool) (h : ∀ c ∈ cs, c ∈ hexDigits) : findsSecret U b cs = false := by
  induction cs generalizing b with
  | nil => rfl
  | cons c cs ih =>
    have hc := h c List.mem_cons_self
    unfold findsSecret
    rw [startsBearer_of_hex h, startsSecretKey_of_hex hc, startsPrivateKey_of_hex hc,
      ih _ fun d hd => h d (List.mem_cons_of_mem c hd)]
    simp

section

variable (h : isDigest text = true)
include h

lemma mem_hexDigits_of_isDigest : ∀ c ∈ text.toList, c ∈ hexDigits := by
  intro c hc
  simp only [isDigest, Bool.and_eq_true, List.all_eq_true] at h
  exact mem_hexDigits (by simpa using h.2 c hc)

/-- A digest is no secret. -/
theorem isPublic_of_isDigest : isPublic U (.str text) = true := by
  rw [isPublic_str]
  exact findsSecret_of_hex true (mem_hexDigits_of_isDigest h)

theorem strip_of_isDigest : strip text = text := by
  have hspace : ∀ c ∈ hexDigits, isSpace c = false :=
    forall_mem_of_all (by decide +kernel)
  exact strip_of_no_space fun c hc => hspace c (mem_hexDigits_of_isDigest h c hc)

/-- `_require_digest` leaves a digest as it is. -/
theorem toLower_strip_of_isDigest : (strip text).toLower = text := by
  have hhex := mem_hexDigits_of_isDigest h
  have hlower : ∀ c ∈ hexDigits, c.toLower = c :=
    forall_mem_of_all (by decide +kernel)
  rw [strip_of_isDigest h]
  rw [← String.toList_inj]
  show (text.map Char.toLower).toList = text.toList
  rw [String.toList_map]
  exact (List.map_congr_left fun c hc => hlower c (hhex c hc)).trans (List.map_id _)

end

/-- A key that no value makes secret. -/
def PlainKey (key : String) : Prop :=
  key ≠ "" ∧ normalizeKey key ∉ secretKeys ∧ isPublicKey key = true

instance (key : String) : Decidable (PlainKey key) := inferInstanceAs (Decidable (_ ∧ _ ∧ _))

/-- Under plain keys a payload is public if its values are. -/
theorem isPublic_object_of_plain (hkeys : ∀ field ∈ fields, PlainKey field.1) :
    isPublic U (.object fields) = true ↔ ∀ field ∈ fields, isPublic U field.2 = true := by
  rw [isPublic_object]
  constructor
  · intro h field hfield
    exact (h field hfield).2
  · intro h field hfield
    have hkey := hkeys field hfield
    exact ⟨⟨hkey.1, fun hmem => absurd hmem hkey.2.1, hkey.2.2⟩, h field hfield⟩

/-- The keys of the replay transcripts. -/
def transcriptKeys : List String :=
  ["schema_version", "binding", "rows", "manifest_digest", "release_digest", "epoch_id",
    "epoch_manifest_digest", "task_envelope_digest", "workspace_snapshot_id",
    "workspace_snapshot_digest", "command_policy_digest", "sequence_no", "request",
    "workspace_content_digest_after", "result", "row_digest", "command",
    "workspace_content_digest", "working_directory", "environment", "timeout_s", "request_digest",
    "status", "container_name", "exit_code", "stdout", "stderr", "stdout_digest", "stderr_digest",
    "duration_s", "output_truncated", "failure_detail"]

theorem plainKey_of_mem_transcriptKeys : ∀ key ∈ transcriptKeys, PlainKey key := by decide +kernel

/-- The manifest of a transcript is public if its binding and its rows are. -/
theorem isPublic_transcript {schema digest : String} {binding : Json} {rows : List Json}
    (hschema : isPublic U (.str schema) = true) (hdigest : isDigest digest = true)
    (hrows : ∀ row ∈ rows, isPublic U row = true) :
    isPublic U (.object
      [("schema_version", .str schema), ("binding", binding), ("rows", .array rows),
        ("manifest_digest", .str digest)]) = true ↔ isPublic U binding = true := by
  rw [isPublic_object_of_plain]
  · constructor
    · intro h
      exact h ("binding", binding) (by simp)
    · intro hbinding field hfield
      simp only [List.mem_cons, List.not_mem_nil, or_false] at hfield
      rcases hfield with rfl | rfl | rfl | rfl
      · exact hschema
      · exact hbinding
      · exact isPublic_array.mpr hrows
      · exact isPublic_of_isDigest hdigest
  · intro field hfield
    apply plainKey_of_mem_transcriptKeys
    simp only [List.mem_cons, List.not_mem_nil, or_false] at hfield
    rcases hfield with rfl | rfl | rfl | rfl <;> simp [transcriptKeys]

end Agintor.Contracts
