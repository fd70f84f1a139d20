import Agintor.Isolation.CommandReplay
import Agintor.Lib.Decimal

/-!
# Running a command container

`DockerCommandBackend.run` of `isolation/commands.py`: a container process is supervised until it
ends, writes too much or runs too long, and its streams are kept up to a limit. What the process
does, and when, is a `Container`.
-/

namespace Agintor.Isolation

open Core Contracts Lib

/-! ## Text of bytes -/

abbrev Bytes := List UInt8

/-- `text.encode("utf-8")` -/
def encodeUtf8 (text : String) : Bytes := text.toByteArray.data.toList

/-- The ranges of the bytes that may follow a first byte. -/
def followers (first : UInt8) : List (ℕ × ℕ) :=
  let n := first.toNat
  if 0xC2 ≤ n ∧ n ≤ 0xDF then [(0x80, 0xBF)]
  else if n = 0xE0 then [(0xA0, 0xBF), (0x80, 0xBF)]
  else if n = 0xED then [(0x80, 0x9F), (0x80, 0xBF)]
  else if 0xE1 ≤ n ∧ n ≤ 0xEF then [(0x80, 0xBF), (0x80, 0xBF)]
  else if n = 0xF0 then [(0x90, 0xBF), (0x80, 0xBF), (0x80, 0xBF)]
  else if n = 0xF4 then [(0x80, 0x8F), (0x80, 0xBF), (0x80, 0xBF)]
  else if 0xF1 ≤ n ∧ n ≤ 0xF3 then [(0x80, 0xBF), (0x80, 0xBF), (0x80, 0xBF)]
  else []

/-- How many bytes are in the ranges, one after the other. -/
def countFollowers : List (ℕ × ℕ) → Bytes → ℕ
  | range :: ranges, b :: bytes =>
    if range.1 ≤ b.toNat ∧ b.toNat ≤ range.2 then countFollowers ranges bytes + 1 else 0
  | _, _ => 0

/-- The character of a first byte and its followers. -/
def charOfBytes (first : UInt8) (rest : Bytes) : Char :=
  let start := match rest.length with
    | 0 => first.toNat
    | 1 => first.toNat - 0xC0
    | 2 => first.toNat - 0xE0
    | _ => first.toNat - 0xF0
  Char.ofNat (rest.foldl (fun value b => value * 64 + (b.toNat - 0x80)) start)

/-- The characters of bytes, where what is no character, as far as it could have become one, is a
replacement character. The first bytes are skipped. -/
def decodeFrom : ℕ → Bytes → List Char
  | _, [] => []
  | skipped + 1, _ :: bytes => decodeFrom skipped bytes
  | 0, first :: bytes =>
    let ranges := followers first
    let found := countFollowers ranges bytes
    let complete := first.toNat < 0x80 ∨ (ranges ≠ [] ∧ found = ranges.length)
    (if complete then charOfBytes first (bytes.take found) else '\uFFFD') ::
      decodeFrom found bytes

/-- `bytes.decode("utf-8", errors="replace")` -/
def decodeReplace (bytes : Bytes) : String :=
  if h : ByteArray.IsValidUTF8 ⟨bytes.toArray⟩ then .ofByteArray ⟨bytes.toArray⟩ h
  else String.ofList (decodeFrom 0 bytes)

/-- `hashlib.sha256(...).hexdigest()` -/
structure Sha256 where
  hexdigest : Bytes → String
  isDigest : ∀ bytes, isDigest (hexdigest bytes) = true

/-- The hash functions of a transcript, where texts are hashed as UTF-8. -/
def Sha256.identities (sha : Sha256) (ids : Identities) : CommandIdentities :=
  { ids with sha256Text := fun text => sha.hexdigest (encodeUtf8 text) }

/-! ## Streams -/

/-- `_BoundedBytes`, and whether it has set the overflow event. -/
structure BoundedBytes where
  chunks : List Bytes
  size : ℕ
  overflow : Bool

def BoundedBytes.empty : BoundedBytes := ⟨[], 0, false⟩

/-- `append` -/
def BoundedBytes.append (limit : ℕ) (buffer : BoundedBytes) (chunk : Bytes) : BoundedBytes :=
  if chunk = [] then buffer
  else
    let remaining := limit - buffer.size
    let accepted := chunk.take remaining
    let kept := if 0 < remaining then
        { buffer with chunks := buffer.chunks ++ [accepted], size := buffer.size + accepted.length }
      else buffer
    { kept with overflow := buffer.overflow || decide (remaining < chunk.length) }

/-- `value` -/
def BoundedBytes.value (buffer : BoundedBytes) : Bytes := buffer.chunks.flatten

/-- `_drain_stream`: the chunks are appended up to an empty one. -/
def drainStream (limit : ℕ) : List Bytes → BoundedBytes → BoundedBytes
  | [], buffer => buffer
  | chunk :: chunks, buffer =>
    if chunk = [] then buffer else drainStream limit chunks (buffer.append limit chunk)

/-! ## Containers -/

/-- What the supervisor sees in one round of its loop, where the process has not ended: how many
chunks have been read, and the clock. -/
structure Round where
  stdoutRead : ℕ
  stderrRead : ℕ
  clock : ℚ

/-- A container process. Its readers read every chunk in the end. -/
structure Process where
  stdout : List Bytes
  stderr : List Bytes
  /-- The rounds before the process is seen to have ended. -/
  rounds : List Round
  /-- The exit code, when the process is seen to have ended. -/
  polled : ℤ
  /-- The exit code after the process has been removed and killed, if there is one by then. -/
  killed : Option ℤ

structure Container where
  /-- `uuid.uuid4().hex` -/
  uuid : String
  isHex : ∀ c ∈ uuid.toList, c ∈ hexDigits
  started : ℚ
  finished : ℚ
  /-- The process, or the text of what launching it raised. -/
  launch : Except String Process

/-- `container_name` -/
def Container.name (container : Container) : String := "agintor-cmd-" ++ container.uuid

/-- The limits of `IsolatedCommandPolicy` that the supervisor enforces. -/
structure IsolatedCommandPolicy where
  timeoutS : ℚ
  outputBytes : ℕ
  environmentAllowlist : List String

/-! ## Supervision -/

/-- `f"{value:.3f}"` of a number that is not negative, rounded half to even. -/
def fixed3 (value : ℚ) : String :=
  let scaled := value * 1000
  let low := scaled.floor.toNat
  let above := scaled - low
  let rounded := if 1 / 2 < above ∨ (above = 1 / 2 ∧ low % 2 = 1) then low + 1 else low
  zeroPad 0 (rounded / 1000) ++ "." ++ zeroPad 3 (rounded % 1000)

variable (policy : IsolatedCommandPolicy) (request : IsolatedCommandRequest)

/-- `min(request.timeout_s or self.policy.timeout_s, self.policy.timeout_s)` -/
def effectiveTimeout : ℚ :=
  min ((request.timeoutS.filter fun timeout => timeout ≠ 0).getD policy.timeoutS) policy.timeoutS

/-- `overflow.is_set()`, once so many chunks have been read. -/
def Process.overflowed (process : Process) (stdoutRead stderrRead : ℕ) : Bool :=
  (drainStream policy.outputBytes (process.stdout.take stdoutRead) .empty).overflow ||
    (drainStream policy.outputBytes (process.stderr.take stderrRead) .empty).overflow

/-- The supervising loop: how it ends, and the detail of a failure. -/
def supervise (process : Process) (timeoutS deadline : ℚ) :
    List Round → IsolatedCommandStatus × Option String
  | [] => (.completed, none)
  | round :: rounds =>
    if process.overflowed policy round.stdoutRead round.stderrRead = true then
      (.outputLimit, some ("combined stream exceeded per-stream limit of " ++
        zeroPad 0 policy.outputBytes ++ " bytes"))
    else if deadline ≤ round.clock then
      (.timedOut, some ("command exceeded " ++ fixed3 timeoutS ++ "s deadline"))
    else supervise process timeoutS deadline rounds

/-- `_result` -/
def commandResult (sha : Sha256) (container : Container) (status : IsolatedCommandStatus)
    (exitCode : Option ℤ) (stdout stderr : Bytes) (outputTruncated : Bool)
    (failureDetail : Option String) : IsolatedCommandResult where
  status := status
  command := request.command
  containerName := container.name
  exitCode := exitCode
  stdout := decodeReplace stdout
  stderr := decodeReplace stderr
  stdoutDigest := sha.hexdigest stdout
  stderrDigest := sha.hexdigest stderr
  durationS := max (container.finished - container.started) 0
  outputTruncated := outputTruncated
  failureDetail := failureDetail

/-- What `run` makes of a launch that failed. -/
def launchFailed (sha : Sha256) (container : Container) (message : String) :
    IsolatedCommandResult :=
  commandResult request sha container .launchFailed none [] [] false (some message)

/-- What `run` makes of a process. -/
def superviseProcess (sha : Sha256) (container : Container) (process : Process) :
    IsolatedCommandResult :=
  let timeoutS := effectiveTimeout policy request
  let ended := supervise policy process timeoutS (container.started + timeoutS) process.rounds
  let stdout := drainStream policy.outputBytes process.stdout .empty
  let stderr := drainStream policy.outputBytes process.stderr .empty
  let exitCode := if ended.1 = .completed then some process.polled
    else process.killed.filter fun code => code ≠ 0
  commandResult request sha container ended.1 exitCode stdout.value stderr.value
    (stdout.overflow || stderr.overflow) ended.2

/-- `run` -/
def runContainer (sha : Sha256) (container : Container) :
    Except ReplayError IsolatedCommandResult := do
  let unexpected := sortedUnique ((request.environment.map Prod.fst).filter fun name =>
    name ∉ policy.environmentAllowlist)
  raiseIf (unexpected ≠ [])
    (.validation ("isolated command environment keys are not allowed: [" ++
      ", ".intercalate (unexpected.map quoted) ++ "]"))
  match container.launch with
  | .error message => .ok (launchFailed request sha container message)
  | .ok process => .ok (superviseProcess policy request sha container process)

/-- `succeeded` -/
def IsolatedCommandResult.succeeded (result : IsolatedCommandResult) : Bool :=
  result.status = .completed && result.exitCode = some 0

end Agintor.Isolation
