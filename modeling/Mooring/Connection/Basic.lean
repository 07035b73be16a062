import Mooring.Session
import Mooring.ConnectionFile
import Mooring.Path.Raw
import Mooring.Socket

/-! The credentials of one kernel, with the file that they are kept in. Ports that were configured
win over ports that are loaded, and only a file that this connection wrote is ever removed. -/

namespace Mooring

structure Connection where
  file : Option String := none
  written : Bool := false
  transport : Transport := .tcp
  configuredIp : Option String := none
  kernelName : String := ""
  ports : Ports := Ports.unset
  /-- The channels whose ports were chosen, not configured; fixed once it is known. -/
  allocated : Option (List Channel) := none
  session : Session

/-- How a snapshot passes the session on: within the process, or as mere parameters. -/
inductive SessionAuth
  | live (session : Session)
  | exported (key : Bytes) (signatureScheme : String)

def SessionAuth.key : SessionAuth → Bytes
  | .live session => session.key
  | .exported key _ => key

def SessionAuth.signatureScheme : SessionAuth → String
  | .live session => session.signatureScheme
  | .exported _ scheme => scheme

structure Snapshot where
  transport : Transport
  ip : String
  ports : Ports
  auth : SessionAuth

def Snapshot.toPatch (snapshot : Snapshot) : CredentialsPatch where
  transport := some snapshot.transport
  ip := some snapshot.ip
  ports := snapshot.ports.map some
  key := some snapshot.auth.key
  signatureScheme := some snapshot.auth.signatureScheme

namespace Connection

def withSession (session : Session) : Connection := { session := session }

def fresh (host : Host) : Connection × Host :=
  let (uuid, host) := host.drawUuid
  (withSession (Session.withKey (Utf8.ofString uuid)), host)

/-- A star stands for every address of the machine, and no text for no address. -/
def readIp (ip : String) : Option String :=
  if ip.isEmpty then none else if ip = "*" then some "0.0.0.0" else some ip

def setIp (connection : Connection) (ip : String) : Connection :=
  { connection with configuredIp := readIp ip }

def setTransport (connection : Connection) (transport : Transport) : Connection :=
  { connection with transport := transport }

def setPort (connection : Connection) (channel : Channel) (port : UInt16) : Connection :=
  { connection with ports := connection.ports.set channel port }

def setFile (connection : Connection) (path : String) : Connection :=
  { connection with file := some path }

/-- The address of socket files beside a connection file. It is text, whatever the path of the file is. -/
def ipBeside (file : RawPath) : String := file.withoutExtension.shown ++ "-ipc"

/-- The address when none is configured: loopback, or a path beside the connection file. -/
def defaultIp (transport : Transport) (file : Option String) : String :=
  match transport, file with
  | .tcp, _ => localhost
  | .ipc, some path => ipBeside (Utf8.ofString path)
  | .ipc, none => "kernel-ipc"

def ip (connection : Connection) : String :=
  connection.configuredIp.getD (defaultIp connection.transport connection.file)

def credentials (connection : Connection) : Credentials where
  ports := connection.ports
  ip := connection.ip
  key := connection.session.key
  transport := connection.transport
  signatureScheme := connection.session.signatureScheme
  kernelName := connection.kernelName

def snapshot (connection : Connection) (live : Bool) : Snapshot where
  transport := connection.transport
  ip := connection.ip
  ports := connection.ports
  auth :=
    if live then .live connection.session.fork
    else .exported connection.session.key connection.session.signatureScheme

def url (connection : Connection) (channel : Channel) : String := connection.credentials.url channel

/-- The channels without a port become known as those whose ports are chosen, once, and only while
the transport is tcp. -/
def recordAllocated (connection : Connection) : Connection :=
  if connection.transport ≠ .tcp ∨ connection.allocated.isSome then connection
  else
    { connection with
      allocated := some (Channel.all.filter (fun channel => decide (connection.ports.get channel = 0))) }

def connectChannel (connection : Connection) (channel : Channel) (identity : Option Bytes) :
    Except Error Socket :=
  Socket.connect channel (connection.url channel) identity

def inspectAllocated (channels : List Channel) : String :=
  "RandomPortSet([" ++ String.intercalate ", " (channels.map Channel.inspect) ++ "])"

def inspect (connection : Connection) : String :=
  Text.record "KernelConnection"
    [("connection_file", Text.optional (connection.file.map Text.quotedPath)),
      ("file_written", toString connection.written),
      ("transport", connection.transport.inspect),
      ("ip", Text.quoted connection.ip),
      ("kernel_name", Text.quoted connection.kernelName),
      ("ports", connection.ports.inspect),
      ("random_ports", Text.optional (connection.allocated.map inspectAllocated)),
      ("session", connection.session.inspect)]
    true

end Connection
end Mooring
