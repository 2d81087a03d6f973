/-!
# Faults in JSON texts

Why a text was not accepted.

A reader of a typed value can be let down in three ways, and the difference
matters to whoever has to mend the text: it ends too early, it is not JSON at
all, or it is JSON of another shape than was asked for. Only the first fault
in reading order is ever reported.

## Main definitions

* `Fault`: The three ways.
-/

namespace DisplayHub

namespace Json

/-- Why a text was not accepted. -/
inductive Fault where
  /-- The text ends where more of it is needed. -/
  | unfinished
  /-- The text breaks the rules of JSON. -/
  | malformed
  /-- The text is JSON as far as it was read, but not of the shape asked for. -/
  | mistyped
deriving DecidableEq, Repr

end Json

end DisplayHub
