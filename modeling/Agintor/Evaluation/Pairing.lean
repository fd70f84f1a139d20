import Agintor.Lib.Keyed
import Agintor.Search.Promotion

/-!
# Joined outcomes

`evaluation/pairing.py`: the receipts of a parent and of a child are joined by their PairKeys into
a panel of pairs, in the order of the digests of the keys.
-/

namespace Agintor.Evaluation

open Agintor.Contracts Core Lib Search

/-- A `PairingError`, or a `ValidationError` of the panel. -/
inductive PairingError
  | pairing (message : String)
  | validation (message : String)
deriving DecidableEq

/-- One parent and one child outcome of the same PairKey. -/
structure JoinedOutcomePair where
  pairKey : PairKey
  pairKeyDigest : String
  parentReceipt : OutcomeReceipt
  childReceipt : OutcomeReceipt
  parent_eq : parentReceipt.pairKey = pairKey
  child_eq : childReceipt.pairKey = pairKey

/-- The fields of a panel that its digest covers. -/
structure PanelPayload where
  joinId : String
  epochId : String
  epochManifestDigest : String
  parentProtocolDigest : String
  childProtocolDigest : String
  expectedPairKeyDigests : List String
  pairs : List JoinedOutcomePair

structure JoinedOutcomePanel extends PanelPayload where
  joinDigest : String
  nonempty : pairs ≠ []
  covers : pairs.map (·.pairKeyDigest) = expectedPairKeyDigests
  canonical : expectedPairKeyDigests.insertionSort (· ≤ ·) = expectedPairKeyDigests
  unique : expectedPairKeyDigests.Nodup

/-- The digests that a join makes. -/
structure PairingDigests extends PromotionDigests where
  joinIdentity : String → List String → List String → String
  joinPanel : PanelPayload → String

variable (D : PairingDigests)

/-! ## Validation -/

/-- `JoinedOutcomePair.validate_pair` -/
def validatePair (pairKey : PairKey) (pairKeyDigest : String)
    (parentReceipt childReceipt : OutcomeReceipt) : Except PairingError JoinedOutcomePair :=
  if pairKeyDigest ≠ D.pairKey pairKey then
    .error (.validation "JoinedOutcomePair pair_key_digest mismatch")
  else if hparent : parentReceipt.pairKey = pairKey then
    if hchild : childReceipt.pairKey = pairKey then
      .ok ⟨pairKey, pairKeyDigest, parentReceipt, childReceipt, hparent, hchild⟩
    else
      .error (.validation "child receipt crossed JoinedOutcomePair PairKey")
  else
    .error (.validation "parent receipt crossed JoinedOutcomePair PairKey")

/-- `JoinedOutcomePanel.validate_panel`, of a panel without a digest. -/
def validatePanel (payload : PanelPayload) : Except PairingError JoinedOutcomePanel :=
  if hne : payload.pairs = [] then
    .error (.validation "Tuple should have at least 1 item after validation")
  else if hcovers : payload.pairs.map (·.pairKeyDigest) = payload.expectedPairKeyDigests then
    if hcanonical :
        payload.expectedPairKeyDigests.insertionSort (· ≤ ·) = payload.expectedPairKeyDigests ∧
          payload.expectedPairKeyDigests.Nodup then
      .ok { payload with
            joinDigest := D.joinPanel payload
            nonempty := hne
            covers := hcovers
            canonical := hcanonical.1
            unique := hcanonical.2 }
    else
      .error (.validation "joined PairKeys must be unique and canonical")
  else
    .error (.validation "joined pairs do not exactly cover expected PairKeys")

/-! ## Maps -/

/-- The check of one receipt in `_receipt_map`. -/
def checkReceipt (side : String) (epoch : ResearchEpochManifest) (receipt : OutcomeReceipt) :
    Except PairingError Unit :=
  (assertAuthoritativeOutcomeReceipt D.toPromotionDigests receipt epoch).mapError fun refusal =>
    .pairing ("unhealthy or unauthorized " ++ side ++ " outcome: " ++ refusal)

def receiptMap (receipts : List OutcomeReceipt) (side : String) (epoch : ResearchEpochManifest) :
    Except PairingError (Dict String OutcomeReceipt) :=
  mapByKey (fun receipt => D.pairKey receipt.pairKey) (checkReceipt D side epoch)
    (fun digest => .pairing ("duplicate " ++ side ++ " outcome for PairKey " ++ digest)) .empty
    receipts

/-- The check of one key in `_expected_map`. -/
def checkExpected (epoch : ResearchEpochManifest) (pairKey : PairKey) : Except PairingError Unit :=
  raiseIf (pairKey.providerConfigDigest ≠ epoch.deployment.providerConfigDigest)
    (.pairing "expected PairKey provider configuration crossed the epoch")

def expectedMap (pairKeys : List PairKey) (epoch : ResearchEpochManifest) :
    Except PairingError (Dict String PairKey) := do
  raiseIf (pairKeys = []) (.pairing "an explicit nonempty expected PairKey panel is required")
  mapByKey D.pairKey (checkExpected epoch)
    (fun digest => .pairing ("duplicate expected PairKey " ++ digest)) .empty pairKeys

/-! ## Joining -/

def dataStateText : DataState → String
  | .development => "development"
  | .sealedConfirmation => "sealed_confirmation"

/-- The fields that `_assert_pair_configuration` compares. -/
def pairConfigurationFields :
    List (String × (OutcomeReceipt → String) × (OutcomeReceipt → String)) :=
  [("runtime_contract_version", (·.runtimeContractVersion), (·.runtimeContractVersion)),
    ("capability_epoch", (·.capabilityEpoch), (·.capabilityEpoch)),
    ("data_state", (dataStateText ·.dataState), (dataStateText ·.dataState)),
    ("epoch_id", (·.epochId), (·.epochId)),
    ("epoch_manifest_digest", (·.epochManifestDigest), (·.epochManifestDigest)),
    ("release_digest", (·.releaseDigest), (·.releaseDigest)),
    ("release_manifest_digest", (·.releaseManifestDigest), (·.releaseManifestDigest)),
    ("profile_digest", (·.profileDigest), (·.profileDigest)),
    ("split_manifest_digest", (·.splitManifestDigest), (·.splitManifestDigest)),
    ("task_manifest_id", (·.taskManifestId), (·.taskManifestId)),
    ("task_manifest_digest", (·.taskManifestDigest), (·.taskManifestDigest)),
    ("evaluation_contract_id", (·.evaluationContractId), (·.evaluationContractId)),
    ("evaluation_contract_digest", (·.evaluationContractDigest), (·.evaluationContractDigest)),
    ("evaluator_id", (·.evaluatorId), (·.evaluatorId)),
    ("evaluator_identity_digest", (·.evaluatorIdentityDigest), (·.evaluatorIdentityDigest)),
    ("evaluation_policy_digest", (·.evaluationPolicyDigest), (·.evaluationPolicyDigest)),
    ("compiler_digest", (·.compilerDigest), (·.compilerDigest)),
    ("kernel_digest", (·.kernelDigest), (·.kernelDigest)),
    ("tool_manifest_digest", (·.toolManifestDigest), (·.toolManifestDigest)),
    ("provider_config_digest", (·.providerConfigDigest), (·.providerConfigDigest)),
    ("decoding_policy_digest", (·.decodingPolicyDigest), (·.decodingPolicyDigest)),
    ("price_schedule_digest", (·.priceScheduleDigest), (·.priceScheduleDigest)),
    ("command_container_policy_digest", (·.commandContainerPolicyDigest),
      (·.commandContainerPolicyDigest)),
    ("evaluator_environment_digest", (·.evaluatorEnvironmentDigest),
      (·.evaluatorEnvironmentDigest))]

def assertPairConfiguration (parent child : OutcomeReceipt) : Except PairingError Unit :=
  let crossedFields := crossed pairConfigurationFields parent child
  raiseIf (crossedFields ≠ [])
    (.pairing ("parent/child configuration mismatch for " ++ commaJoin crossedFields))

/-- `sorted(left - right)` of two sets of digests. -/
def sortedDifference (left right : List String) : List String :=
  (left.filter (· ∉ right)).insertionSort (· ≤ ·)

/-- The text of a list of digests. -/
def listText (digests : List String) : String := "[" ++ commaJoin (digests.map quoted) ++ "]"

/-- What is said of the keys that are missing, or not expected. -/
def coverageDetail (label : String) (digests : List String) : List String :=
  if digests = [] then [] else [label ++ "=" ++ listText digests]

def assertCoverage (side : String) (expected mapped : List String) : Except PairingError Unit :=
  let missing := sortedDifference expected mapped
  let unexpected := sortedDifference mapped expected
  raiseIf (missing ≠ [] ∨ unexpected ≠ [])
    (.pairing (side ++ " PairKey coverage mismatch: " ++
      String.intercalate " " (coverageDetail "missing" missing ++
        coverageDetail "unexpected" unexpected)))

/-- The one protocol of a side. -/
def sideProtocol (mapped : Dict String OutcomeReceipt) : Option String :=
  match (mapped.values.map (·.protocolDigest)).dedup with
  | [protocol] => some protocol
  | _ => none

/-- `mapped[digest]` -/
def itemAt {α : Type} (mapped : Dict String α) (digest : String) : Except PairingError α :=
  match mapped.get? digest with
  | some item => .ok item
  | none => .error (.pairing ("KeyError: " ++ digest))

/-- The pair of one key. -/
def joinPair (expected : Dict String PairKey) (parent child : Dict String OutcomeReceipt)
    (digest : String) : Except PairingError JoinedOutcomePair := do
  let parentReceipt ← itemAt parent digest
  let childReceipt ← itemAt child digest
  assertPairConfiguration parentReceipt childReceipt
  let pairKey ← itemAt expected digest
  validatePair D pairKey digest parentReceipt childReceipt

/-- `join_outcome_receipts`, once the three sequences are mapped by their keys. -/
def joinMaps (epoch : ResearchEpochManifest) (expected : Dict String PairKey)
    (parent child : Dict String OutcomeReceipt) : Except PairingError JoinedOutcomePanel := do
  assertCoverage "parent" expected.keys parent.keys
  assertCoverage "child" expected.keys child.keys
  match sideProtocol parent, sideProtocol child with
  | some parentProtocol, some childProtocol => do
    let orderedKeys := expected.keys.insertionSort (· ≤ ·)
    let pairs ← orderedKeys.mapM (joinPair D expected parent child)
    let joinId := "pair-join." ++ takeChars 24 (D.joinIdentity epoch.epochManifestDigest
      (pairs.map (·.parentReceipt.receiptDigest)) (pairs.map (·.childReceipt.receiptDigest)))
    validatePanel D
      { joinId := joinId
        epochId := epoch.epochId
        epochManifestDigest := epoch.epochManifestDigest
        parentProtocolDigest := parentProtocol
        childProtocolDigest := childProtocol
        expectedPairKeyDigests := orderedKeys
        pairs := pairs }
  | _, _ => .error (.pairing "each outcome side must identify exactly one protocol")

def joinOutcomeReceipts (epoch : ResearchEpochManifest) (expectedPairKeys : List PairKey)
    (parentReceipts childReceipts : List OutcomeReceipt) :
    Except PairingError JoinedOutcomePanel := do
  let expected ← expectedMap D expectedPairKeys epoch
  let parent ← receiptMap D parentReceipts "parent" epoch
  let child ← receiptMap D childReceipts "child" epoch
  joinMaps D epoch expected parent child

end Agintor.Evaluation
