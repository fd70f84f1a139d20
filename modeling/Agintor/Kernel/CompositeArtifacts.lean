import Agintor.Contracts.Harness
import Agintor.Lib.Dict
import Agintor.Lib.Raise

/-!
# The artifact store

`runtime/kernel/composite_artifacts.py`: run-local text artifacts that are written once and
delivered as the plan directs.
-/

namespace Agintor.Kernel

open Agintor.Contracts Lib

/-- What the store raises. -/
inductive ArtifactStoreError
  | store (message : String)
  | value (message : String)
deriving DecidableEq

/-- `{text!r}` of a text without quotes. -/
def quoted (text : String) : String := "'" ++ text ++ "'"

structure StoredArtifact where
  artifactId : String
  channelId : String
  producerCallId : String
  payload : String
  payloadDigest : String
  byteSize : ℕ
  maxBytes : ℕ
  intendedConsumerCallIds : List String
deriving DecidableEq

structure ArtifactDeliveryEvidence where
  channelId : String
  artifactId : String
  producerCallId : String
  consumerCallId : String
  payload : String
  payloadDigest : String
  byteSize : ℕ
deriving DecidableEq

structure ImmutableArtifactStore where
  maxTotalBytes : ℕ
  writePlans : Dict String ArtifactWritePlan
  deliveryPlans : Dict (String × String) ArtifactDeliveryPlan
  intended : Dict String (List String)
  artifacts : Dict String StoredArtifact := Dict.empty
  deliveries : List ArtifactDeliveryEvidence := []
  deliveredKeys : List (String × String) := []
  actualReaders : Dict String (List String) := Dict.empty
  totalBytes : ℕ := 0

/-- `defaultdict(list)[key].append(value)` -/
def appendAt (d : Dict String (List String)) (key value : String) : Dict String (List String) :=
  d.set key ((d.get? key).getD [] ++ [value])

namespace ImmutableArtifactStore

def declareWrite (plans : Dict String ArtifactWritePlan) (write : ArtifactWritePlan) :
    Except ArtifactStoreError (Dict String ArtifactWritePlan) := do
  raiseIf (plans.contains write.artifactId = true)
    (.store ("artifact " ++ quoted write.artifactId ++ " has multiple write declarations"))
  return plans.set write.artifactId write

/-- The deliveries declared so far, and for each artifact its consumers. -/
structure DeclaredDeliveries where
  plans : Dict (String × String) ArtifactDeliveryPlan := Dict.empty
  intended : Dict String (List String) := Dict.empty

def declareDelivery (writes : Dict String ArtifactWritePlan) (declared : DeclaredDeliveries)
    (delivery : ArtifactDeliveryPlan) : Except ArtifactStoreError DeclaredDeliveries := do
  let key := (delivery.artifactId, delivery.consumerCallId)
  raiseIf (declared.plans.contains key = true)
    (.store ("artifact " ++ quoted delivery.artifactId ++ " has a duplicate delivery"))
  match writes.get? delivery.artifactId with
  | none => .error (.store ("delivery references undeclared artifact " ++
      quoted delivery.artifactId))
  | some write => do
    raiseIf (delivery.channelId ≠ write.channelId ∨ delivery.producerCallId ≠ write.producerCallId)
      (.store ("delivery for " ++ quoted delivery.artifactId ++
        " does not match its write declaration"))
    return { plans := declared.plans.set key delivery
             intended := appendAt declared.intended delivery.artifactId delivery.consumerCallId }

/-- `ImmutableArtifactStore.__init__` -/
def init (plan : CompositeRunPlan) (maxTotalBytes : ℕ) :
    Except ArtifactStoreError ImmutableArtifactStore := do
  raiseIf (maxTotalBytes = 0) (.value "max_total_bytes must be positive")
  let writes ← (plan.actorCalls.flatMap (·.artifactWrites)).foldlM declareWrite Dict.empty
  let declared ← plan.artifactDeliveries.foldlM (declareDelivery writes) {}
  writes.keys.forM fun artifactId =>
    raiseIf ((declared.intended.get? artifactId).getD [] = [])
      (.store ("declared artifact " ++ quoted artifactId ++ " has no intended consumer"))
  return { maxTotalBytes := maxTotalBytes
           writePlans := writes
           deliveryPlans := declared.plans
           intended := declared.intended }

/-- `write`, under the digest of payloads. -/
def write (payloadDigest : String → String) (store : ImmutableArtifactStore)
    (writePlan : ArtifactWritePlan) (producerCallId payload : String) :
    Except ArtifactStoreError (StoredArtifact × ImmutableArtifactStore) := do
  raiseIf (store.writePlans.get? writePlan.artifactId ≠ some writePlan)
    (.store ("artifact write " ++ quoted writePlan.artifactId ++
      " was not declared by the run plan"))
  raiseIf (producerCallId ≠ writePlan.producerCallId)
    (.store ("call " ++ quoted producerCallId ++ " cannot produce artifact " ++
      quoted writePlan.artifactId))
  raiseIf (store.artifacts.contains writePlan.artifactId = true)
    (.store ("artifact " ++ quoted writePlan.artifactId ++ " is immutable"))
  let byteSize := payload.utf8ByteSize
  raiseIf (writePlan.maxBytes < byteSize)
    (.store ("artifact " ++ quoted writePlan.artifactId ++ " exceeds its " ++
      toString writePlan.maxBytes ++ "-byte limit"))
  raiseIf (store.maxTotalBytes < store.totalBytes + byteSize)
    (.store "aggregate artifact byte ceiling exceeded")
  let artifact : StoredArtifact :=
    { artifactId := writePlan.artifactId
      channelId := writePlan.channelId
      producerCallId := producerCallId
      payload := payload
      payloadDigest := payloadDigest payload
      byteSize := byteSize
      maxBytes := writePlan.maxBytes
      intendedConsumerCallIds := (store.intended.get? writePlan.artifactId).getD [] }
  return (artifact, { store with
    artifacts := store.artifacts.set artifact.artifactId artifact
    totalBytes := store.totalBytes + byteSize })

def deliver (store : ImmutableArtifactStore) (artifactId consumerCallId : String) :
    Except ArtifactStoreError (ArtifactDeliveryEvidence × ImmutableArtifactStore) := do
  let key := (artifactId, consumerCallId)
  match store.deliveryPlans.get? key with
  | none => .error (.store ("artifact " ++ quoted artifactId ++ " is not declared for call " ++
      quoted consumerCallId))
  | some delivery => do
    raiseIf (store.deliveredKeys.contains key = true)
      (.store ("artifact " ++ quoted artifactId ++ " was already delivered to " ++
        quoted consumerCallId))
    match store.artifacts.get? artifactId with
    | none => .error (.store ("required artifact " ++ quoted artifactId ++
        " has not been produced"))
    | some artifact =>
      let evidence : ArtifactDeliveryEvidence :=
        { channelId := delivery.channelId
          artifactId := artifact.artifactId
          producerCallId := artifact.producerCallId
          consumerCallId := consumerCallId
          payload := artifact.payload
          payloadDigest := artifact.payloadDigest
          byteSize := artifact.byteSize }
      return (evidence, { store with
        deliveries := store.deliveries ++ [evidence]
        deliveredKeys := key :: store.deliveredKeys
        actualReaders := appendAt store.actualReaders artifactId consumerCallId })

def wasDelivered (store : ImmutableArtifactStore) (artifactId consumerCallId : String) : Bool :=
  store.deliveredKeys.contains (artifactId, consumerCallId)

def readRetained (store : ImmutableArtifactStore) (artifactId consumerCallId : String) :
    Except ArtifactStoreError (StoredArtifact × ImmutableArtifactStore) := do
  match store.artifacts.get? artifactId with
  | none => .error (.store ("artifact " ++ quoted artifactId ++ " does not exist"))
  | some artifact => do
    raiseIf (consumerCallId ∈ (store.actualReaders.get? artifactId).getD [])
      (.store ("artifact " ++ quoted artifactId ++ " was already read by " ++ quoted consumerCallId))
    return (artifact, { store with
      actualReaders := appendAt store.actualReaders artifactId consumerCallId })

end ImmutableArtifactStore

end Agintor.Kernel
