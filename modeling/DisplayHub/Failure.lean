/-!
# Failures

What every public operation answers when it does not do what was asked.

The collaborators of the hub fail with the same type as the hub itself, so a
failure of theirs is handed to the caller as it is. A failure is a value and
never ends the program; a collaborator that gives up altogether is the other
way to stop, and `Stop` holds both.

## Main definitions

* `Failure`: The causes, and their wording in `Failure.message`.
* `Failure.ofStatus`: The failure that an extension's status code stands for.
* `Stop`: A failure, or a collaborator that gave up.
-/

namespace DisplayHub

/-- Why an operation did not do what was asked. -/
inductive Failure where
  /-- An argument is missing or names nothing. -/
  | parameters
  /-- An allocation could not be met. -/
  | memory
  /-- A collaborator failed in an unforeseen way. -/
  | undefined (detail : String)
  /-- The hardware cannot do this. -/
  | notSupported
  /-- The hardware's composition resources are used up. -/
  | resources
  /-- The hardware layer failed. -/
  | hardware (detail : String)
  /-- The hub was not brought up yet. -/
  | notInitialized
deriving DecidableEq, Repr

namespace Failure

/-- The wording of a failure. -/
def message : Failure → String
  | parameters => "invalid parameters"
  | memory => "out of memory"
  | undefined detail => "undefined error: " ++ detail
  | notSupported => "operation not supported"
  | resources => "insufficient hardware resources"
  | hardware detail => "hardware error: " ++ detail
  | notInitialized => "display core is not initialized"

/-- The failure that a status other than zero stands for. The numbering is
    that of the vendor interface; a status outside it keeps its number. -/
def ofStatus (status : Int32) : Failure :=
  match status.toInt with
  | 1 => undefined "extension reported an undefined failure"
  | 2 => notSupported
  | 3 => undefined "extension rejected the interface version"
  | 4 => parameters
  | 5 => memory
  | 6 => resources
  | 7 => hardware "extension reported a hardware failure"
  | other => undefined ("extension status " ++ toString other)

end Failure

/-- How an operation can end without a value. -/
inductive Stop where
  /-- It failed, and says why. -/
  | failure (f : Failure)
  /-- A collaborator gave up, and everything on the way out was released. -/
  | collapse
deriving DecidableEq, Repr

end DisplayHub
