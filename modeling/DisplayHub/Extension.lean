import DisplayHub.Extension.Library

/-!
# The vendor extension

An interface that was handed out, as its holders see it.

The hub never calls into the extension itself. It passes the interface on to
the compositor, and both hold it. The last one to let go destroys it, so a
holder has to know whether what it holds is the very thing that another one
holds: every interface handed out has a serial number of its own.

## Main definitions

* `Extension`: An interface that somebody holds.
* `Loader`: How the hub comes by an extension.
-/

namespace DisplayHub

/-- An interface that somebody holds. -/
structure Extension where
  /-- Sets this one apart from every other that was ever handed out. -/
  serial : Nat
  /-- The interface in a library, or none for a stand-in. -/
  opened : Option OpenInterface
deriving DecidableEq, Repr

/-- The version that an interface was created with. -/
def Extension.versionTag (e : Extension) : UInt32 :=
  match e.opened with
  | some i => i.versionTag
  | none => interfaceVersion

/-- How the hub comes by an extension. -/
inductive Loader where
  /-- There never is one. -/
  | disabled
  /-- From the vendor's library. -/
  | library (settings : ExtensionSettings)
  /-- A stand-in is given, or is not, or its loading fails. -/
  | standIn (outcome : Except Failure Bool)

/-- The loader that settings ask for. -/
def ExtensionSettings.loader (s : ExtensionSettings) : Loader :=
  if s.enabled then .library s else .disabled

end DisplayHub
