import DisplayHub.Allocator
import DisplayHub.Reply

/-!
# Pools

Several allocators, and the buffers that they handed out.

A buffer can be given back to another allocator than the one that made it,
but only once. The buffers are numbered in the order in which they were
handed out, over all allocators.

A run on a pool may end before its last step, since a request can bring down
the program. Then the steps before it have no answers either: nobody is left
to give them.

## Main definitions

* `Pool`: The allocators, the buffers, and the system that has the blocks.
* `PoolStep`, `Pool.step`: Handing out and giving back.
* `Pool.Ending`: How a step can end the run.
* `Pool.run`: Steps, one after the other.
-/

namespace DisplayHub

/-- Several allocators, and the buffers that they handed out. -/
structure Pool where
  /-- Whether the system has a block of a size to give. -/
  serves : Nat → Bool
  allocators : List Allocator
  /-- Every buffer that was handed out, or nothing where it was given back. -/
  buffers : List (Option Buffer) := []
  notes : List Note := []

/-- One step. The allocator is given by its place. -/
inductive PoolStep where
  | allocate (size on : Nat)
  | free (buffer on : Nat)

namespace Pool

/-- How a step can end the run. -/
inductive Ending where
  /-- No block can have the size, and the program is torn down. What was changed
      until then stays changed for those who outlive it. -/
  | collapsed (left : Pool)
  /-- The system has no block of the size, and ends the process. -/
  | aborted

/-- How many buffers each allocator counts. -/
def outstanding (p : Pool) : List Nat :=
  p.allocators.map (·.outstanding)

/-- The pool with one allocator changed and more notes. -/
def update (p : Pool) (on : Nat) (a : Allocator) (notes : List Note) : Pool :=
  { p with allocators := p.allocators.set on a, notes := p.notes ++ notes }

/-- What a step answers and changes, if it does not end the run. An allocator
    that is not there is not asked. -/
def step (p : Pool) : PoolStep → Except Ending (Outcome × Pool)
  | .allocate size on => match p.allocators[on]? with
    | none => .ok (.trouble .noBuffer, p)
    | some a =>
      let notes := a.allocationNotes size
      match a.allocate size (p.serves size) with
      | .refused f => .ok (.trouble (.stop (.failure f)), p.update on a notes)
      | .granted buffer a =>
        let p := p.update on a notes
        .ok (.value (.buffer p.buffers.length buffer),
          { p with buffers := p.buffers ++ [some buffer] })
      | .collapsed a => .error (.collapsed (p.update on a notes))
      | .aborted => .error .aborted
  | .free place on => match p.buffers[place]?.join, p.allocators[on]? with
    | some buffer, some a =>
      let p := p.update on a.free (a.freeNotes buffer)
      .ok (.done, { p with buffers := p.buffers.set place none })
    | _, _ => .ok (.trouble .noBuffer, p)

/-- Steps, one after the other: the answer of each and what the allocators count
    after it, and the pool in the end. A step that ends the run leaves no
    answers. -/
def run (p : Pool) : List PoolStep → Except Ending (List (Outcome × List Nat) × Pool)
  | [] => .ok ([], p)
  | step :: rest => do
    let (outcome, next) ← p.step step
    let (answers, last) ← next.run rest
    return ((outcome, next.outstanding) :: answers, last)

end Pool

end DisplayHub
