import Agintor.Core.JsonText
import Agintor.Lib.Raise

/-!
# Public session contexts

`HarnessPublicSessionContext` and the contracts it is made of (`contracts/harness.py`). The text
fields of these classes are trimmed before their validators see them. The scan for credentials and
private state, and the digests, are parameters. Left out: the literal schema version, and
`public_safe`, which is always true.
-/

namespace Agintor.Contracts.PublicSession

open Agintor.Core Lib

/-! ## Field checks -/

def requireDigest (value fieldName : String) : Except String String := do
  let normalized := (strip value).toLower
  raiseIf (isDigest normalized = false) (fieldName ++ " must be a lowercase SHA-256 digest")
  return normalized

def requireNonempty (value fieldName : String) : Except String String := do
  let normalized := strip value
  raiseIf (normalized = "") (fieldName ++ " may not be empty")
  return normalized

def requirePortableId (value fieldName : String) : Except String String := do
  let normalized ← requireNonempty value fieldName
  raiseIf (isPortableIdentifier normalized = false)
    (fieldName ++ " must be a portable public identifier")
  return normalized

/-- A field that may be missing -/
def requireOptionalId (value : Option String) (fieldName : String) :
    Except String (Option String) :=
  match value with
  | none => .ok none
  | some id => (requirePortableId (trim id) fieldName).map some

/-- `replace("\\", "/")` -/
def replaceBackslashes (text : String) : String := text.map fun c => if c = '\\' then '/' else c

/-- `PurePosixPath(text).parts` of a relative path -/
def pathParts (text : String) : List (List Char) :=
  (text.toList.splitOn '/').filter fun part => part ≠ [] ∧ part ≠ ['.']

def safeArtifactRef (value : String) : Except String String := do
  let normalized := replaceBackslashes (strip value)
  raiseIf (normalized = "") "artifact_ref may not be empty"
  raiseIf ("://".toList <:+: normalized.toList ∨ normalized.toList.head? = some '/' ∨
      normalized.toList.head? = some '.')
    "artifact_ref may not traverse or reference absolute/hidden filesystem state"
  raiseIf (['.', '.'] ∈ pathParts normalized ∨
      ∃ part ∈ pathParts normalized, part.head? = some '.')
    "artifact_ref may not traverse or hide filesystem state"
  return normalized

/-! ## The contracts -/

structure HarnessPublicSessionLimits where
  maxEntries : ℕ := 8
  maxTotalBytes : ℕ := 4096
  maxSummaryBytes : ℕ := 512
deriving DecidableEq, Repr

/-- The bounds of the three fields. -/
def HarnessPublicSessionLimits.create (maxEntries maxTotalBytes maxSummaryBytes : ℕ) :
    Except String HarnessPublicSessionLimits := do
  raiseIf (64 < maxEntries) "Input should be less than or equal to 64"
  raiseIf (262144 < maxTotalBytes) "Input should be less than or equal to 262144"
  raiseIf (16384 < maxSummaryBytes) "Input should be less than or equal to 16384"
  return ⟨maxEntries, maxTotalBytes, maxSummaryBytes⟩

/-- The fields of a carryover reference apart from its digest. -/
structure CarryoverFields where
  artifactRef : String
  artifactDigest : String
  summary : String
deriving DecidableEq, Repr

/-- `entry.model_dump(mode="json")` -/
def CarryoverFields.modelDump (entry : CarryoverFields) (carryoverDigest : String) : Json :=
  .object [("artifact_ref", .str entry.artifactRef), ("artifact_digest", .str entry.artifactDigest),
    ("summary", .str entry.summary), ("public_safe", .bool true),
    ("carryover_digest", .str carryoverDigest)]

structure HarnessPublicCarryoverRef where
  fields : CarryoverFields
  carryoverDigest : String
deriving DecidableEq, Repr

/-- What a context says apart from its digest. -/
structure PublicContextFields where
  sessionId : String
  activeReleaseDigest : String
  sessionManifestDigest : String
  nextSequence : ℕ
  parentMessageId : Option String
  limits : HarnessPublicSessionLimits
  carryover : List HarnessPublicCarryoverRef
deriving DecidableEq, Repr

structure HarnessPublicSessionContext where
  fields : PublicContextFields
  contextDigest : String
deriving DecidableEq, Repr

/-- What the contracts take from elsewhere: how floats are written, the scan of a text, and the
digests. -/
structure PublicContracts where
  floats : FloatText
  /-- The reason why a text is not public-safe. -/
  unsafeReason : String → Option String
  /-- `harness_public_carryover_ref_digest` -/
  carryoverRefDigest : CarryoverFields → String
  /-- `public_session_context_digest` -/
  contextDigest : PublicContextFields → String

namespace PublicContracts

variable (P : PublicContracts)

def assertPublicSessionText (value fieldName : String) : Except String Unit :=
  match P.unsafeReason value with
  | some reason => .error (fieldName ++ " " ++ reason)
  | none => .ok ()

/-- `HarnessPublicCarryoverRef(artifact_ref=…, artifact_digest=…, summary=…)` -/
def publicCarryoverRef (artifactRef artifactDigest summary : String) :
    Except String HarnessPublicCarryoverRef := do
  let artifactRef ← safeArtifactRef (trim artifactRef)
  let artifactDigest ← requireDigest (trim artifactDigest) "artifact_digest"
  let summary ← requireNonempty (trim summary) "summary"
  P.assertPublicSessionText summary "summary"
  let fields : CarryoverFields := ⟨artifactRef, artifactDigest, summary⟩
  return ⟨fields, P.carryoverRefDigest fields⟩

/-- `len(_canonical_public_session_bytes(entry.model_dump(mode="json")))` -/
def entrySize (entry : HarnessPublicCarryoverRef) : ℕ :=
  (entry.fields.modelDump entry.carryoverDigest).byteSize P.floats + 1

/-- `validate_context`, up to the digest -/
def validateContext (context : PublicContextFields) : Except String Unit := do
  raiseIf (context.limits.maxEntries < context.carryover.length)
    "public session carryover exceeds the configured entry limit"
  raiseIf (¬(context.carryover.map (·.fields.artifactRef)).Nodup)
    "public session carryover artifact_refs must be unique"
  raiseIf (∃ entry ∈ context.carryover,
      context.limits.maxSummaryBytes < entry.fields.summary.utf8ByteSize)
    "public session carryover summary exceeds the configured summary byte limit"
  raiseIf (context.limits.maxTotalBytes < (context.carryover.map P.entrySize).sum)
    "public session carryover exceeds the configured total byte limit"

/-- `HarnessPublicSessionContext(…)`, on references that are made already -/
def publicSessionContext (context : PublicContextFields) :
    Except String HarnessPublicSessionContext := do
  let sessionId ← requirePortableId (trim context.sessionId) "session_id"
  let activeReleaseDigest ← requireDigest (trim context.activeReleaseDigest) "active_release_digest"
  let sessionManifestDigest ←
    requireDigest (trim context.sessionManifestDigest) "session_manifest_digest"
  let parentMessageId ← requireOptionalId context.parentMessageId "parent_message_id"
  let fields := { context with
    sessionId := sessionId, activeReleaseDigest := activeReleaseDigest
    sessionManifestDigest := sessionManifestDigest, parentMessageId := parentMessageId }
  P.validateContext fields
  return ⟨fields, P.contextDigest fields⟩

end PublicContracts

end Agintor.Contracts.PublicSession
