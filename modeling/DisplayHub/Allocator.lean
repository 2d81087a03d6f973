import DisplayHub.Failure
import DisplayHub.Journal

/-!
# Buffers and allocators

Backing storage for layers, counted rather than held.

An allocator numbers the buffers it hands out and counts those that were not
given back. It keeps no list of them, so a buffer that was made elsewhere can
be given back to it; the count then stops at nothing instead of running below.

A request can end in four ways. It is refused if it is empty or above the
allocator's limit, and for nothing else. Any other request takes a number and
is counted before there is a block for it. If no block can have the size, the
program is torn down in the middle of the allocation. Otherwise it is up to
the system: the buffer is granted if the system has a block of that size, and
if it has none the system ends the process on the spot.

## Main definitions

* `Buffer`, `Allocator`: A buffer handed out, and who hands it out.
* `Allocator.refusal?`: Why an allocator refuses a size.
* `Allocation`: The four ways a request can end.
* `Allocator.allocate`, `Allocator.free`: Handing out and taking back.

## Theorems

* `Allocator.allocate_of_block`: A size that a block can have is granted within
  the limit, if the system has the block.
* `Allocator.free_outstanding`: Giving back takes one from the count, down to
  nothing.
-/

namespace DisplayHub

/-- A buffer that was handed out. -/
structure Buffer where
  id : Nat
  size : Nat
deriving DecidableEq, Repr

/-- Who hands buffers out. -/
structure Allocator where
  /-- The largest size that is granted. The default holds a 4K surface. -/
  limit : Nat := 3840 * 2160 * 4
  nextId : Nat := 1
  /-- The buffers handed out and not given back. -/
  outstanding : Nat := 0
deriving DecidableEq, Repr

/-- How a request for a buffer ends. -/
inductive Allocation where
  | refused (f : Failure)
  | granted (buffer : Buffer) (allocator : Allocator)
  /-- No block can have the size, and the program is torn down. -/
  | collapsed (allocator : Allocator)
  /-- The system has no block of the size, and ends the process. -/
  | aborted
deriving DecidableEq, Repr

namespace Allocator

/-- The largest size that a block of memory can have. -/
def largestBlock : Nat := 0x7fffffffffffffff

/-- The allocator after it gave a number and counted a buffer. -/
def issue (a : Allocator) : Allocator :=
  { a with nextId := a.nextId + 1, outstanding := a.outstanding + 1 }

/-- Why the allocator refuses a size, if it does. -/
def refusal? (a : Allocator) (size : Nat) : Option Failure :=
  if size = 0 then some .parameters
  else if a.limit < size then some .memory
  else none

/-- Asks for a buffer. Whether the system has a block of the size is for the
    system to say. -/
def allocate (a : Allocator) (size : Nat) (served : Bool) : Allocation :=
  match a.refusal? size with
  | some f => .refused f
  | none =>
    if largestBlock < size then .collapsed a.issue
    else if served then .granted ⟨a.nextId, size⟩ a.issue
    else .aborted

/-- Gives a buffer back. Where nothing is outstanding, nothing changes. -/
def free (a : Allocator) : Allocator :=
  { a with outstanding := a.outstanding - 1 }

/-- What is noted about a request, before there is a block for it. -/
def allocationNotes (a : Allocator) (size : Nat) : List Note :=
  match a.refusal? size with
  | some .memory => [⟨.debug, "HeapBufferAllocator: refusing " ++ toString size
      ++ " bytes (limit " ++ toString a.limit ++ ")"⟩]
  | some _ => []
  | none => [⟨.trace, "HeapBufferAllocator: allocated buffer " ++ toString a.nextId ++ " ("
      ++ toString size ++ " bytes)"⟩]

/-- What is noted about a buffer given back. -/
def freeNotes (a : Allocator) (buffer : Buffer) : List Note :=
  if a.outstanding = 0 then
    [⟨.warn, "HeapBufferAllocator: freed buffer " ++ toString buffer.id
      ++ " with nothing outstanding"⟩]
  else [⟨.trace, "HeapBufferAllocator: freed buffer " ++ toString buffer.id⟩]

/-- Where the system has a block, only the limit can stand in the way of a size that
    a block can have. -/
theorem allocate_of_block (a : Allocator) {size : Nat} (positive : 0 < size)
    (fits : size ≤ largestBlock) : a.allocate size true =
      if a.limit < size then .refused .memory else .granted ⟨a.nextId, size⟩ a.issue := by
  unfold allocate refusal?
  rw [if_neg (Nat.ne_of_gt positive)]
  by_cases above : a.limit < size
  · rw [if_pos above, if_pos above]
  · rw [if_neg above, if_neg above]
    dsimp only
    rw [if_neg (Nat.not_lt_of_le fits), if_pos rfl]

/-- Giving back takes one from the count, down to nothing. -/
theorem free_outstanding (a : Allocator) : a.free.outstanding = a.outstanding - 1 := rfl

end Allocator

end DisplayHub
