import DisplayHub.Failure
import DisplayHub.Text.Blank

/-!
# Kinds of display

The closed set of kinds that a display can have.

A kind has three spellings. Hardware reports and extensions give it as a
number, settings as a name, and messages as a word. People may also give it
by hand, and then some other words are understood, in capitals or not.

## Main definitions

* `Variant`: The three kinds.
* `Variant.code`, `Variant.ofCode`: The number of a kind and back.
* `Variant.word`: The word used in messages.
* `Variant.ofWords`: The kind that somebody means.

## Theorems

* `Variant.ofCode_eq_some_iff`: A number has a kind exactly if it is the
  number of that kind.
-/

namespace DisplayHub

/-- The kinds of display. -/
inductive Variant where
  /-- A panel wired into the device. -/
  | builtIn
  /-- An external panel behind a pluggable connector. -/
  | pluggable
  /-- An off-screen target with no panel behind it. -/
  | offscreen
deriving DecidableEq, Repr

namespace Variant

/-- Every kind, in the order of their numbers. -/
def all : List Variant := [builtIn, pluggable, offscreen]

/-- The number of a kind in hardware reports and across the extension
    interface. -/
def code : Variant → Int32
  | builtIn => 0
  | pluggable => 1
  | offscreen => 2

/-- The kind with a number, if there is one. -/
def ofCode (code : Int32) : Option Variant :=
  all.find? fun v => v.code = code

/-- The word for a kind in messages. -/
def word : Variant → String
  | builtIn => "builtin"
  | pluggable => "pluggable"
  | offscreen => "virtual"

/-- The name of a kind in settings. -/
def name : Variant → String
  | builtIn => "built_in"
  | pluggable => "pluggable"
  | offscreen => "virtual"

/-- The kind with a name in settings. -/
def ofName (name : String) : Option Variant :=
  all.find? fun v => v.name = name

/-- The words by which people name a kind. -/
def words : Variant → List String
  | builtIn => ["builtin", "built_in", "primary"]
  | pluggable => ["pluggable", "external"]
  | offscreen => ["virtual"]

/-- The kind that somebody means. Space around the word and the case of its
    ASCII letters do not matter. -/
def ofWords (text : String) : Option Variant :=
  let word := String.ofList ((Text.trim text.toList).map Char.toLower)
  all.find? fun v => v.words.contains word

/-- A number has a kind exactly if it is the number of that kind. -/
theorem ofCode_eq_some_iff {c : Int32} {v : Variant} : ofCode c = some v ↔ v.code = c := by
  constructor
  · intro h
    simpa using List.find?_some h
  · rintro rfl
    cases v <;> rfl

end Variant

end DisplayHub
