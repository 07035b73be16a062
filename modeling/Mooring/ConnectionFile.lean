import Mooring.Credentials.Printer
import Mooring.Credentials.Reader
import Mooring.Host.Files
import Mooring.Host.Sockets

/-! Connection files: writing them so that only their owner can read them, with a port for every
channel, and reading them. -/

namespace Mooring.ConnectionFile

open Host (Place)

def ownerOnly : Nat := 0o600

def restrict (host : Host) (path : String) (place : Place) : Except Error Unit × Host :=
  match host.disk.restriction with
  | some fault => (.error (.io fault), host)
  | none =>
    let mode := host.disk.forcedMode.getD ownerOnly
    let host := host.setMode place mode
    if mode &&& 0o777 = ownerOnly then (.ok (), host)
    else (.error (.insecurePermissions path (mode &&& 0o777)), host)

def fillSecret (host : Host) (path : String) (place : Place) (content : Bytes) :
    Except Error Unit × Host :=
  match restrict host path place with
  | (.error error, host) => (.error error, host)
  | (.ok (), host) =>
    match host.fill place content with
    | (.error fault, host) => (.error (.io fault), host)
    | (.ok (), host) =>
      match host.disk.flush with
      | some fault => (.error (.io fault), host)
      | none => (.ok (), host)

/-- Replaces whatever file is at a path by a new one that only its owner can read. If the new file
cannot be completed, it is removed. -/
def secureWrite (host : Host) (path : String) (content : Bytes) : Except Error Unit × Host :=
  let create (host : Host) : Except Error Unit × Host :=
    match host.createFile path ownerOnly with
    | (.error fault, host) => (.error (.io fault), host)
    | (.ok place, host) =>
      match fillSecret host path place content with
      | (.ok (), host) => (.ok (), host)
      | (.error error, host) => (.error error, (host.removeFile path).2)
  match host.removeFile path with
  | (.ok (), host) => create host
  | (.error fault, host) => if fault = .notFound then create host else (.error (.io fault), host)

/-- The first index from `next` on whose socket path is free. Indexes have 16 bits. -/
def nextIndex? (host : Host) (ip : String) : Nat → UInt16 → Option UInt16
  | 0, _ => none
  | fuel + 1, next =>
    if host.pathExists (Credentials.socketPath ip next) then nextIndex? host ip fuel (next + 1)
    else some next

def freeIndexes? (host : Host) (ip : String) : Nat → UInt16 → Option (List UInt16)
  | 0, _ => some []
  | count + 1, next =>
    match nextIndex? host ip UInt16.size next with
    | none => none
    | some index => (freeIndexes? host ip count (index + 1)).map (index :: ·)

/-- Ports for channels that have none. Where no socket path at all is free, not even that of index zero,
the search for one goes on for good: there is no answer then, and the error stands for that. -/
def freshPorts (host : Host) (transport : Transport) (ip : String) (count : Nat) :
    Except Error (List UInt16) × Host :=
  match transport with
  | .tcp =>
    let (answer, host) := host.freePorts ip count
    (answer.mapError .io, host)
  | .ipc =>
    match freeIndexes? host ip count 1 with
    | some indexes => (.ok indexes, host)
    | none => (.error (.invalidState ("no free socket path for " ++ ip)), host)

def tempTries : Nat := 65536

def tempPath (host : Host) : Except Error String × Host :=
  let (answer, host) := host.createTempFile "kernel-" ".json" tempTries
  (answer.mapError .io, host)

def choosePath (host : Host) (path : Option String) : Except Error String × Host :=
  match path.filter (fun path => !path.isEmpty) with
  | some path => (.ok path, host)
  | none => tempPath host

def complete (credentials : Credentials) (fresh : List UInt16) : Credentials :=
  { credentials with
    ports := credentials.ports.assign credentials.ports.unsetChannels fresh }

/-- Writes credentials, with a fresh port for every channel that has none. Gives the path and the
credentials as written. -/
def write (host : Host) (path : Option String) (credentials : Credentials) :
    Except Error (String × Credentials) × Host :=
  let credentials :=
    if credentials.ip.isEmpty then { credentials with ip := localhost } else credentials
  match Utf8.decode credentials.key with
  | .error _ => (.error (.invalidKey "key must be UTF-8 text"), host)
  | .ok _ =>
    match choosePath host path with
    | (.error error, host) => (.error error, host)
    | (.ok path, host) =>
      match freshPorts host credentials.transport credentials.ip
          credentials.ports.unsetChannels.length with
      | (.error error, host) => (.error error, host)
      | (.ok fresh, host) =>
        let credentials := complete credentials fresh
        match credentials.fileText with
        | .error error => (.error error, host)
        | .ok text =>
          match secureWrite host path (Utf8.ofString text) with
          | (.error error, host) => (.error error, host)
          | (.ok (), host) => (.ok (path, credentials), host.markDirectorySticky path)

def read (host : Host) (path : String) : Except Error CredentialsPatch :=
  match host.readText path with
  | .error fault => .error (.io fault)
  | .ok text => CredentialsPatch.parse text

end Mooring.ConnectionFile
