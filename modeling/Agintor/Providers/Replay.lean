import Mathlib.Data.List.Basic
import Mathlib.Data.List.Range

/-!
# The replay provider

`ReplayAllocator` and `ReplayCoordinator` of `providers/replay.py`, over rows of any type. One
allocator is shared by all clones of a provider; a window clone has a cursor of its own.
-/

namespace Agintor.Providers

structure ReplayAllocation where
  allocationKey : String
  cursorStart : ℤ := 0
  cursorEnd : ℤ := 0
  nextCursor : ℤ := 0
deriving DecidableEq, Repr

structure ReplayAllocator (Row : Type) where
  rows : List Row
  cursor : ℕ

structure ReplayCoordinator where
  useAllocatorCursor : Bool
  cursorStart : ℕ
  cursorEnd : ℕ
  cursor : ℕ
deriving DecidableEq, Repr

/-- The arguments `cursor`, `cursor_start` and `cursor_end` of a provider or a coordinator. -/
structure CursorArguments where
  cursor : Option ℤ := none
  cursorStart : Option ℤ := none
  cursorEnd : Option ℤ := none
deriving DecidableEq, Repr

variable {Row : Type}

namespace ReplayAllocator

/-- `ReplayAllocator(rows, cursor=cursor)` -/
def create (rows : List Row) (cursor : ℤ) : ReplayAllocator Row where
  rows := rows
  cursor := (max 0 (min cursor rows.length)).toNat

end ReplayAllocator

namespace ReplayCoordinator

/-- `ReplayCoordinator(allocator, ...)` -/
def create (allocator : ReplayAllocator Row) (arguments : CursorArguments)
    (useAllocatorCursor : Bool) : ReplayCoordinator :=
  let rowCount : ℤ := allocator.rows.length
  let defaultStart : ℤ := if useAllocatorCursor then allocator.cursor else 0
  let cursorStart := max 0 (min (arguments.cursorStart.getD defaultStart) rowCount)
  let cursorEnd := max cursorStart (min (arguments.cursorEnd.getD rowCount) rowCount)
  { useAllocatorCursor := useAllocatorCursor
    cursorStart := cursorStart.toNat
    cursorEnd := cursorEnd.toNat
    cursor :=
      if useAllocatorCursor then allocator.cursor
      else (max cursorStart (min (arguments.cursor.getD cursorStart) cursorEnd)).toNat }

/-- `next_row`: the index of a row and the row. -/
def nextRow (allocator : ReplayAllocator Row) (c : ReplayCoordinator) :
    Except String ((ℕ × Row) × ReplayAllocator Row × ReplayCoordinator) :=
  if c.useAllocatorCursor then
    match allocator.rows[allocator.cursor]? with
    | none => .error "Replay provider exhausted: no more recorded responses"
    | some row => .ok ((allocator.cursor, row), { allocator with cursor := allocator.cursor + 1 },
        { c with cursor := allocator.cursor + 1 })
  else if c.cursorEnd ≤ c.cursor then
    .error "Replay provider exhausted: no more reserved responses"
  else
    match allocator.rows[c.cursor]? with
    | none => .error "list index out of range"
    | some row => .ok ((c.cursor, row), allocator, { c with cursor := c.cursor + 1 })

/-- `reserve_window` -/
def reserveWindow (allocator : ReplayAllocator Row) (c : ReplayCoordinator) (rowCount : ℤ)
    (allocationKey : String) :
    Except String (ReplayAllocation × ReplayAllocator Row × ReplayCoordinator) :=
  let size := (max 0 rowCount).toNat
  let start := allocator.cursor
  if allocator.rows.length < start + size then
    .error s!"Replay provider exhausted while reserving {size} rows for {allocationKey}"
  else .ok (⟨allocationKey, start, (start + size : ℕ), start⟩,
    { allocator with cursor := start + size },
    if c.useAllocatorCursor then { c with cursor := start + size } else c)

/-- `clone_shared` -/
def cloneShared (allocator : ReplayAllocator Row) : ReplayCoordinator :=
  create allocator {} true

/-- `clone_window` -/
def cloneWindow (allocator : ReplayAllocator Row) (allocation : ReplayAllocation) :
    ReplayCoordinator :=
  create allocator ⟨some allocation.nextCursor, some allocation.cursorStart,
    some allocation.cursorEnd⟩ false

/-- `current_allocation` -/
def currentAllocation (c : ReplayCoordinator) (allocationKey : String) : Option ReplayAllocation :=
  if c.useAllocatorCursor then none
  else some ⟨allocationKey, c.cursorStart, c.cursorEnd, c.cursor⟩

/-- `can_apply_allocation` -/
def canApplyAllocation (allocator : ReplayAllocator Row) (allocation : ReplayAllocation) : Bool :=
  allocation.cursorEnd ≤ allocator.rows.length

/-- The cursors of `snapshot_payload`. A cursor that is zero is left out. -/
def snapshotPayload (allocator : ReplayAllocator Row) (c : ReplayCoordinator) : CursorArguments :=
  let cursorValue := if c.useAllocatorCursor then allocator.cursor else c.cursor
  { cursor := if cursorValue = 0 then none else some cursorValue
    cursorStart := if c.useAllocatorCursor then none else some c.cursorStart
    cursorEnd := if c.useAllocatorCursor then none else some c.cursorEnd }

end ReplayCoordinator

/-! ## Runs -/

/-- A provider on the allocator: its coordinator, and the cursor that this had at first. -/
structure ReplayClone where
  coordinator : ReplayCoordinator
  first : ℕ
deriving DecidableEq, Repr

def ReplayClone.create (coordinator : ReplayCoordinator) : ReplayClone :=
  ⟨coordinator, coordinator.cursor⟩

/-- The providers on one allocator, the allocations reserved and not cloned yet, the allocations
cloned, and the index of each row that was returned, with the clone that returned it. -/
structure ReplayRun (Row : Type) where
  allocator : ReplayAllocator Row
  clones : List ReplayClone
  reserved : List ReplayAllocation := []
  cloned : List ReplayAllocation := []
  returned : List (ℕ × ℕ) := []

inductive ReplayEvent
  | reserveRows (clone : ℕ) (rowCount : ℤ) (allocationKey : String)
  | cloneForAllocation (clone : ℕ) (allocation : ReplayAllocation)
  | sharedClone (clone : ℕ)
  | generate (clone : ℕ)

namespace ReplayRun

/-- `ReplayProvider(rows, cursor=..., cursor_start=..., cursor_end=...)` -/
def start (rows : List Row) (arguments : CursorArguments) : ReplayRun Row :=
  let allocator := ReplayAllocator.create rows (arguments.cursor.getD 0)
  let useAllocatorCursor := arguments.cursorStart.isNone && arguments.cursorEnd.isNone
  { allocator := allocator
    clones := [.create (.create allocator { arguments with cursor := some (arguments.cursor.getD 0) }
      useAllocatorCursor)] }

def replaceClone (s : ReplayRun Row) (i : ℕ) (clone : ReplayClone)
    (coordinator : ReplayCoordinator) : List ReplayClone :=
  s.clones.set i { clone with coordinator := coordinator }

def reserveRows (s : ReplayRun Row) (i : ℕ) (clone : ReplayClone) (rowCount : ℤ)
    (allocationKey : String) : ReplayRun Row :=
  match clone.coordinator.reserveWindow s.allocator rowCount allocationKey with
  | .error _ => s
  | .ok (allocation, allocator, coordinator) => { s with
      allocator := allocator
      clones := s.replaceClone i clone coordinator
      reserved := s.reserved ++ [allocation] }

def cloneForAllocation (s : ReplayRun Row) (allocation : ReplayAllocation) : ReplayRun Row :=
  { s with
    clones := s.clones ++ [.create (.cloneWindow s.allocator allocation)]
    reserved := s.reserved.erase allocation
    cloned := s.cloned ++ [allocation] }

def sharedClone (s : ReplayRun Row) : ReplayRun Row :=
  { s with clones := s.clones ++ [.create (.cloneShared s.allocator)] }

def generate (s : ReplayRun Row) (i : ℕ) (clone : ReplayClone) : ReplayRun Row :=
  match clone.coordinator.nextRow s.allocator with
  | .error _ => s
  | .ok ((recordIndex, _), allocator, coordinator) => { s with
      allocator := allocator
      clones := s.replaceClone i clone coordinator
      returned := s.returned ++ [(i, recordIndex)] }

/-- One call on the clone that an event names. A call that raises changes nothing. -/
def step (s : ReplayRun Row) : ReplayEvent → ReplayRun Row
  | .reserveRows i rowCount allocationKey =>
    (s.clones[i]?.map fun clone => s.reserveRows i clone rowCount allocationKey).getD s
  | .cloneForAllocation i allocation =>
    (s.clones[i]?.map fun _ => s.cloneForAllocation allocation).getD s
  | .sharedClone i => (s.clones[i]?.map fun _ => s.sharedClone).getD s
  | .generate i => (s.clones[i]?.map fun clone => s.generate i clone).getD s

/-- An allocation is cloned once: a reserved one, or a persisted one that can be applied. -/
def Admits (s : ReplayRun Row) : ReplayEvent → Prop
  | .cloneForAllocation _ allocation =>
    ReplayCoordinator.canApplyAllocation s.allocator allocation ∧
      (allocation ∈ s.reserved ∨ allocation ∉ s.cloned)
  | _ => True

end ReplayRun

end Agintor.Providers
