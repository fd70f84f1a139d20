import Agintor.Contracts.PublicSession
import Agintor.Storage.HarnessSession

/-!
# The public context of a session

`HarnessNextContext.to_public_runtime_context` of `storage/harness_session_store.py`, on a store
whose text scan is the one of the public contracts and whose carryover is measured by its JSON text.
The checks of `HarnessCarryoverRef` have the same bodies in both files, and so one definition here.
-/

namespace Agintor.Storage

open Agintor.Core Agintor.Contracts.PublicSession Lib

def HarnessSessionLimits.InBounds (limits : HarnessSessionLimits) : Prop :=
  limits.maxEntries ≤ 64 ∧ limits.maxTotalBytes ≤ 262144 ∧ limits.maxSummaryBytes ≤ 16384

instance (limits : HarnessSessionLimits) : Decidable limits.InBounds :=
  inferInstanceAs (Decidable (_ ∧ _ ∧ _))

namespace HarnessCarryoverRef

/-- `HarnessCarryoverRef(artifact_ref=…, artifact_digest=…, summary=…)` -/
def create (artifactRef artifactDigest summary : String) : Except String HarnessCarryoverRef := do
  let artifactRef ← safeArtifactRef artifactRef
  let artifactDigest ← Contracts.PublicSession.requireDigest artifactDigest "artifact_digest"
  let summary ← requireNonempty summary "summary"
  return ⟨artifactRef, artifactDigest, summary⟩

/-- An object of the class. -/
def Made (entry : HarnessCarryoverRef) : Prop :=
  ∃ artifactRef artifactDigest summary, create artifactRef artifactDigest summary = .ok entry

def fields (entry : HarnessCarryoverRef) : CarryoverFields :=
  ⟨entry.artifactRef, entry.artifactDigest, entry.summary⟩

end HarnessCarryoverRef

namespace HarnessSessionStore

/-- `len(_canonical_bytes([entry.model_dump(mode="json") for entry in normalized]))` -/
def canonicalSize (F : FloatText) (D : SessionDigests) (entries : List HarnessCarryoverRef) : ℕ :=
  (Json.array (entries.map fun entry => entry.fields.modelDump (D.carryoverRef entry))).byteSize F
    + 1

def ofProject (P : PublicContracts) (D : SessionDigests) (projectDir sessionId : String) :
    HarnessSessionStore where
  projectDir := projectDir
  sessionId := sessionId
  digests := D
  unsafeReason := P.unsafeReason
  encodedSize := canonicalSize P.floats D

end HarnessSessionStore

namespace HarnessNextContext

/-- `to_public_runtime_context` -/
def toPublicRuntimeContext (P : PublicContracts) (context : HarnessNextContext) :
    Except String HarnessPublicSessionContext := do
  let limits ← HarnessPublicSessionLimits.create context.limits.maxEntries
    context.limits.maxTotalBytes context.limits.maxSummaryBytes
  let carryover ← context.carryover.mapM fun entry =>
    P.publicCarryoverRef entry.artifactRef entry.artifactDigest entry.summary
  P.publicSessionContext
    { sessionId := context.sessionId
      activeReleaseDigest := context.activeReleaseDigest
      sessionManifestDigest := context.sessionManifestDigest
      nextSequence := context.nextSequence
      parentMessageId := context.parentMessageId
      limits := limits
      carryover := carryover }

end HarnessNextContext

end Agintor.Storage
