import DisplayHub.Failure
import DisplayHub.Journal
import DisplayHub.Storage

/-!
# Sockets

The sockets on which the platform's display daemons listen.

All of them live in one directory, under names that never change. Connecting
needs somebody who listens; a path that leads to anything else is refused,
and the address of a socket has room for 107 bytes.

## Main definitions

* `SocketKind`: The daemons.
* `Socket.path`: Where a daemon's socket lives.
* `Socket.reach`: Whether somebody listens there.
* `Socket.connect`: Connecting, as an operation of the hub.
-/

namespace DisplayHub

/-- The daemons that listen on sockets. -/
inductive SocketKind where
  /-- Color and ambient light. -/
  | postProcessing
  | diagnostics
deriving DecidableEq, Repr

/-- The name of a daemon's socket. -/
def SocketKind.fileName : SocketKind → String
  | postProcessing => "pps"
  | diagnostics => "display-diag"

namespace Socket

/-- Where a daemon's socket lives. -/
def path (directory : String) (kind : SocketKind) : String :=
  Path.join directory kind.fileName

/-- Whether somebody listens under a path. -/
def reach (storage : Storage) (path : String) : Except OsFault Unit :=
  if Path.holdsNul path then .error .nulInAddress
  else if 108 ≤ path.utf8ByteSize then .error .addressTooLong
  else do
    match ← storage.item? path with
    | .listener => return ()
    | _ => .error .connectionRefused

/-- Connects to a daemon. -/
def connect (storage : Storage) (directory : String) (kind : SocketKind) :
    Except Failure Unit × List Note :=
  let path := path directory kind
  match reach storage path with
  | .ok () => (.ok (), [])
  | .error fault =>
    (.error (.hardware ("connect " ++ path ++ ": " ++ fault.message)),
      [⟨.debug, "UnixSocketHandler: connect " ++ path ++ " failed: " ++ fault.message⟩])

end Socket

end DisplayHub
