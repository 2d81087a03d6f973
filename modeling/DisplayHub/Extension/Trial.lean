import DisplayHub.Session

/-!
# Trials

Loading an extension for its own sake.

A trial loads the extension, looks at it and lets it go at once, as often as
is wanted. What the library sees is divided at the point between.

## Main definitions

* `Trial`: What one time of loading and letting go gave.
* `trials`: Several times, one after the other.
-/

namespace DisplayHub

/-- What one time of loading and letting go gave. -/
structure Trial where
  outcome : Outcome
  whileLoading : List LibraryEvent
  afterwards : List LibraryEvent

/-- A hub that does nothing but load an extension. -/
def trialHub (loader : Loader) (storage : Storage) (override : Option String) : Hub :=
  { storage, override, loader,
    hardware := { resource := .ok {}, listing := .described [], announced := false } }

/-- Loads the extension once and lets it go. -/
def trial (h : Hub) : Trial × Hub :=
  let (result, loaded) := Act.loadExtension h
  let after := match result with
    | .ok extension => loaded.letGo? extension
    | .error _ => loaded
  (⟨.ofResult Session.showExtension result, (h.journal.since loaded.journal).library,
    (loaded.journal.since after.journal).library⟩, after)

/-- Loads the extension several times, one after the other. -/
def trials : Nat → Hub → List Trial × Hub
  | 0, h => ([], h)
  | times + 1, h =>
    let (first, h) := trial h
    let (rest, h) := trials times h
    (first :: rest, h)

end DisplayHub
