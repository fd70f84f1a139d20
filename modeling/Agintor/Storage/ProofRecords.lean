import Agintor.Contracts.Outcomes
import Agintor.Core.Text
import Agintor.Lib.Dict
import Agintor.Lib.Interrupts
import Agintor.Lib.Raise

/-!
# The immutable proof store

`ImmutableProofRecordStore` of `storage/proof_records.py`. An append takes a lock file, writes the
store manifest, the record and the link of its outcome receipt, each one once, and removes the
lock file. A process can die between two steps, or in the middle of a write.

Of a record only the fields that the store reads are kept: the digest of a record stands for the
others. The payload of a file is the value it is read back as.
-/

namespace Agintor.Storage.ProofRecords

open Agintor.Contracts Agintor.Core Lib

structure RunEvidence where
  evidenceDigest : String
  pairKey : PairKey
  protocolDigest : String
deriving DecidableEq

structure OutcomeReceipt where
  receiptDigest : String
  pairKey : PairKey
  digest : isDigest receiptDigest = true
deriving DecidableEq

structure RunProofRecord where
  proofRecordDigest : String
  runEvidence : RunEvidence
  outcomeReceipt : Option OutcomeReceipt
  crossed : ∀ receipt ∈ outcomeReceipt, receipt.pairKey = runEvidence.pairKey
deriving DecidableEq

/-- `runs/<pair key>/<protocol>/<evidence>.json` -/
structure RecordPath where
  pairKeyDigest : String
  protocolDigest : String
  evidenceDigest : String
deriving DecidableEq

def RecordPath.text (path : RecordPath) : String :=
  "runs/" ++ path.pairKeyDigest ++ "/" ++ path.protocolDigest ++ "/" ++ path.evidenceDigest ++ ".json"

/-- The order of paths, component by component. -/
def RecordPath.Le (a b : RecordPath) : Prop :=
  a.pairKeyDigest < b.pairKeyDigest ∨ a.pairKeyDigest = b.pairKeyDigest ∧
    (a.protocolDigest < b.protocolDigest ∨ a.protocolDigest = b.protocolDigest ∧
      a.evidenceDigest ++ ".json" ≤ b.evidenceDigest ++ ".json")

instance : DecidableRel RecordPath.Le := fun a b =>
  inferInstanceAs (Decidable (a.pairKeyDigest < b.pairKeyDigest ∨
    a.pairKeyDigest = b.pairKeyDigest ∧
      (a.protocolDigest < b.protocolDigest ∨ a.protocolDigest = b.protocolDigest ∧
        a.evidenceDigest ++ ".json" ≤ b.evidenceDigest ++ ".json")))

structure OutcomeProofLink where
  outcomeReceiptDigest : String
  proofRecordDigest : String
  runEvidenceDigest : String
  pairKeyDigest : String
  recordPath : RecordPath
deriving DecidableEq

/-- The files of the store, and the record whose append has completed each link. -/
structure ProofStore where
  lock : Bool
  manifest : Option (File Unit)
  records : Dict RecordPath (File RunProofRecord)
  links : Dict String (File OutcomeProofLink)
  linkedBy : Dict String RunProofRecord

def ProofStore.empty : ProofStore := ⟨false, none, .empty, .empty, .empty⟩

inductive ProofError
  /-- "proof store already has an active writer" -/
  | activeWriter
  /-- "immutable proof path already contains different bytes: {path}" -/
  | differentBytes (path : String)
  /-- Another `ProofStoreError`. -/
  | value (text : String)
  /-- A file that is missing, or is no JSON text. -/
  | unreadable (path : String)
deriving DecidableEq

/-- `_sha256_digest` -/
def sha256Digest (value fieldName : String) : Except ProofError String := do
  let normalized := (strip value).toLower
  raiseIf (isDigest normalized = false) (.value (fieldName ++ " must be a lowercase SHA-256 digest"))
  return normalized

/-! ## Reading -/

namespace ProofStore

variable (s : ProofStore)

def load (path : RecordPath) : Except ProofError RunProofRecord :=
  match s.records.get? path with
  | some (.whole record) => .ok record
  | _ => .error (.unreadable path.text)

def lookupOutcome (outcomeReceiptDigest : String) :
    Except ProofError RunProofRecord := do
  let digest ← sha256Digest outcomeReceiptDigest "outcome_receipt_digest"
  match s.links.get? digest with
  | some (.whole link) =>
    let record ← s.load link.recordPath
    raiseIf (record.proofRecordDigest ≠ link.proofRecordDigest)
      (.value "outcome link crossed proof record digest")
    raiseIf (record.runEvidence.evidenceDigest ≠ link.runEvidenceDigest)
      (.value "outcome link crossed run evidence digest")
    raiseIf (record.outcomeReceipt.map (·.receiptDigest) ≠ some digest)
      (.value "outcome link does not resolve to its receipt")
    return record
  | _ => .error (.unreadable ("outcome_links/" ++ digest ++ ".json"))

def iterRecords : Except ProofError (List RunProofRecord) :=
  (s.records.keys.insertionSort RecordPath.Le).mapM s.load

end ProofStore

/-! ## Appending -/

inductive ProofFile
  | manifest
  | record
  | link
deriving DecidableEq

/-- The file-system steps of an append. -/
inductive ProofStep
  | createLock
  | writeLock
  | write (file : ProofFile)
  | removeLock
deriving DecidableEq

abbrev ProofProg := Prog ProofStep ProofStore ProofError

/-- The death of a process after it has created the lock file: before the step, or in the middle
of it. -/
structure Crash where
  step : ProofStep
  kind : Interrupt
  later : step ≠ .createLock
  death : kind = .kill ∨ kind = .tear

structure Call where
  record : RunProofRecord
  crash : Option Crash

structure ImmutableProofRecordStore where
  pairKeyDigest : PairKey → String

namespace ImmutableProofRecordStore

variable (S : ImmutableProofRecordStore)

/-- `_record_relative_path` -/
def recordRelativePath (record : RunProofRecord) : RecordPath where
  pairKeyDigest := S.pairKeyDigest record.runEvidence.pairKey
  protocolDigest := record.runEvidence.protocolDigest
  evidenceDigest := record.runEvidence.evidenceDigest

def proofLink (record : RunProofRecord) (receipt : OutcomeReceipt) : OutcomeProofLink where
  outcomeReceiptDigest := receipt.receiptDigest
  proofRecordDigest := record.proofRecordDigest
  runEvidenceDigest := record.runEvidence.evidenceDigest
  pairKeyDigest := S.pairKeyDigest receipt.pairKey
  recordPath := S.recordRelativePath record

/-- `_ensure_manifest` -/
def ensureManifest : ProofProg Unit :=
  Prog.writeOnce (.write .manifest) (·.manifest) (fun f s => { s with manifest := some f }) ()
    (.differentBytes "store_manifest.json")

def writeRecord (record : RunProofRecord) : ProofProg Unit :=
  let path := S.recordRelativePath record
  Prog.writeOnce (.write .record) (·.records.get? path)
    (fun f s => { s with records := s.records.set path f }) record (.differentBytes path.text)

def writeLink (record : RunProofRecord) : ProofProg Unit :=
  match record.outcomeReceipt with
  | none => pure ()
  | some receipt =>
    Prog.writeOnce (.write .link) (·.links.get? receipt.receiptDigest)
      (fun f s =>
        { s with
          links := s.links.set receipt.receiptDigest f
          linkedBy :=
            if f = .torn then s.linkedBy else s.linkedBy.set receipt.receiptDigest record })
      (S.proofLink record receipt)
      (.differentBytes ("outcome_links/" ++ receipt.receiptDigest ++ ".json"))

/-- `append`. The file is created by the step that takes the lock, and the process number is
written to it by the next one. -/
def append (record : RunProofRecord) : ProofProg RecordPath := do
  let s ← Prog.read
  Prog.check (raiseIf (s.lock = true) ProofError.activeWriter)
  Prog.step .createLock id fun s => { s with lock := true }
  Prog.tryFinally
    (do
      Prog.step .writeLock id id
      ensureManifest
      S.writeRecord record
      S.writeLink record)
    (Prog.step .removeLock id fun s => { s with lock := false })
  return S.recordRelativePath record

/-! ## Runs -/

def perform (s : ProofStore) (c : Call) :
    Except (Stop ProofError) RecordPath × Machine ProofStep ProofStore :=
  S.append c.record { state := s, fault := c.crash.map fun crash => ⟨crash.step, 0, crash.kind⟩ }

/-- The store after a sequence of appends, each by a process of its own. -/
def run (s : ProofStore) (calls : List Call) : ProofStore :=
  calls.foldl (fun s c => (S.perform s c).2.state) s

end ImmutableProofRecordStore

end Agintor.Storage.ProofRecords
