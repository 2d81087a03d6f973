/-!
# Paths

A path is a text in which slashes divide the names of directories. This
module joins and divides such texts and knows nothing of any files.

Joining keeps the directory's own text as it is given. One slash is put in
between, unless the directory is empty or already ends with one, and a name
that starts at the root stands by itself whatever it is joined to.

## Main definitions

* `join`: The path of a name within a directory.
* `components`: The names a path passes, in order.
* `isPlain`: Whether a name holds no slash, so that it names no directory.
-/

namespace DisplayHub

namespace Path

/-- Whether a path starts at the root. -/
def isRooted (path : String) : Bool :=
  path.toList.head? == some '/'

/-- Whether a path ends with a slash. -/
def endsOpen (path : String) : Bool :=
  path.toList.getLast? == some '/'

/-- The path of `name` within `dir`. -/
def join (dir name : String) : String :=
  if isRooted name || dir.isEmpty then name
  else if endsOpen dir then dir ++ name
  else dir ++ "/" ++ name

/-- Divides a text at every slash. There is always one piece more than there
    are slashes. -/
def pieces : List Char → List (List Char)
  | [] => [[]]
  | '/' :: rest => [] :: pieces rest
  | c :: rest => match pieces rest with
    | [] => [[c]]
    | piece :: more => (c :: piece) :: more

/-- The names that a path passes, in order. Doubled slashes and a slash at
    either end pass no name. -/
def components (path : String) : List String :=
  ((pieces path.toList).filter (· ≠ [])).map String.ofList

/-- Whether a name holds no slash, so that it names no directory. -/
def isPlain (name : String) : Bool :=
  !name.toList.contains '/'

/-- Whether a text holds the character NUL, which ends every name that the
    operating system is given. -/
def holdsNul (path : String) : Bool :=
  path.toList.contains '\x00'

end Path

end DisplayHub
