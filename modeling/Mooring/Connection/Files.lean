import Mooring.Connection.Basic

/-! Writing, loading and cleaning up the connection file of a connection. -/

namespace Mooring.Connection

/-- What a connection is after its file was written. The address is kept, so that another file name
cannot move socket paths any more. -/
def afterWrite (connection : Connection) (path : String) (written : Credentials) : Connection :=
  { connection.recordAllocated with
    ports := written.ports
    configuredIp := some written.ip
    file := some path
    written := true }

def currentFile? (connection : Connection) (host : Host) : Option String :=
  if connection.written then connection.file.filter host.pathExists else none

/-- Writes the connection file, with a fresh port for every channel that has none, unless it is
still there from the last time. -/
def write (connection : Connection) (host : Host) : Except Error String × Connection × Host :=
  match connection.currentFile? host with
  | some path => (.ok path, connection, host)
  | none =>
    match ConnectionFile.write host connection.file connection.credentials with
    | (.error error, host) => (.error error, connection, host)
    | (.ok (path, written), host) => (.ok path, connection.afterWrite path written, host)

def takePorts (connection : Connection) (patch : CredentialsPatch) : Connection :=
  let port (channel : Channel) : UInt16 :=
    let own := connection.ports.get channel
    if own = 0 then (patch.ports.get channel).getD 0 else own
  { connection with ports := PerChannel.ofFn port }

def setKey (connection : Connection) (key : Bytes) : Connection :=
  { connection with session := { connection.session with key := key } }

/-- Everything of a patch but its signature scheme. A missing address is the default one again. -/
def takeUnchecked (connection : Connection) (patch : CredentialsPatch) : Connection :=
  let connection := connection.setTransport (patch.transport.getD connection.transport)
  let connection := connection.setIp (patch.ip.getD "")
  let connection := connection.recordAllocated.takePorts patch
  connection.setKey (patch.key.getD connection.session.key)

/-- Applies a patch. The signature scheme comes last and can be refused. -/
def loadPatch (connection : Connection) (patch : CredentialsPatch) : Except Error Unit × Connection :=
  let connection := connection.takeUnchecked patch
  match patch.signatureScheme with
  | none => (.ok (), connection)
  | some scheme =>
    match connection.session.setScheme scheme with
    | .error error => (.error error, connection)
    | .ok session => (.ok (), { connection with session := session })

def load (connection : Connection) (host : Host) (path : Option String) :
    Except Error Unit × Connection :=
  match path.orElse (fun _ => connection.file) with
  | none => (.error (.invalidState "no connection file to load"), connection)
  | some path =>
    match ConnectionFile.read host path with
    | .error error => (.error error, connection)
    | .ok patch => connection.loadPatch patch

def force (connection : Connection) (patch : CredentialsPatch) (host : Host) :
    Except Error String × Connection × Host :=
  let cleared := { connection with written := false, ports := Ports.unset }
  match cleared.loadPatch patch with
  | (.error error, connection) => (.error error, connection, host)
  | (.ok (), connection) => connection.write host

/-- Removes the connection file if this connection wrote it. -/
def cleanupFile (connection : Connection) (host : Host) : Connection × Host :=
  if connection.written then
    ({ connection with written := false },
      match connection.file with
      | some path => (host.removeFile path).2
      | none => host)
  else (connection, host)

def cleanupSockets (connection : Connection) (host : Host) : Host :=
  match connection.transport with
  | .tcp => host
  | .ipc =>
    Channel.all.foldl
      (fun host channel => (host.removeFile (connection.credentials.ipcPath channel)).2) host

/-- Forgets the ports that were chosen and removes the connection file, so that the next write
chooses ports again. -/
def cleanupAllocated (connection : Connection) (host : Host) : Connection × Host :=
  match connection.allocated.filter (fun channels => !channels.isEmpty) with
  | none => (connection, host)
  | some channels =>
    let ports := channels.foldl (fun ports channel => ports.set channel 0) connection.ports
    { connection with ports := ports }.cleanupFile host

/-- A connection made from a snapshot. A live session is taken over as it is; of an exported one
the parameters are loaded. -/
def ofSnapshot (snapshot : Snapshot) (host : Host) : Except Error Connection × Host :=
  let (connection, host) := fresh host
  match connection.loadPatch snapshot.toPatch with
  | (.error error, _) => (.error error, host)
  | (.ok (), connection) =>
    match snapshot.auth with
    | .live session => (.ok { connection with session := session }, host)
    | .exported .. => (.ok connection, host)

end Mooring.Connection
