import Mooring.Ssh.Server
import Mooring.Credentials.Reader
import Mooring.Host.Sockets

/-! Tunnels to a remote kernel: five local ports, each of which leads through a server to one channel
of the kernel. -/

namespace Mooring.Ssh

inductive Source
  | info (credentials : Credentials)
  | file (path : String)

def Source.load (source : Source) (host : Host) : Except Error Credentials :=
  match source with
  | .info credentials => .ok credentials
  | .file path =>
    match host.readText path with
    | .error fault => .error (.io fault)
    | .ok text => Credentials.parse text

structure Forward where
  channel : Channel
  localPort : UInt16
  remoteIp : String
  remotePort : UInt16
  deriving DecidableEq, Repr

/-- Which local port leads to which port of the kernel. -/
def forwardPlan (remote : Credentials) (localPorts : List UInt16) : List Forward :=
  (Channel.tunnelOrder.zip localPorts).map
    (fun pair => ⟨pair.1, pair.2, remote.ip, remote.ports.get pair.1⟩)

structure Tunnel where
  target : Target
  remoteIp : String
  ports : Ports := Ports.unset
  forwards : List Forward := []
  deriving DecidableEq, Repr

namespace Tunnel

def localPorts (tunnel : Tunnel) : List UInt16 := Channel.tunnelOrder.map tunnel.ports.get

/-- The credentials with which a client reaches the kernel through the tunnel. -/
def localInfo (tunnel : Tunnel) (remote : Credentials) : Credentials :=
  remote.throughPorts tunnel.ports

def add (host : Host) (tunnel : Tunnel) (forward : Forward) : Except Error Tunnel :=
  match host.listen localhost forward.localPort with
  | .error fault => .error (.io fault)
  | .ok () =>
    .ok { tunnel with
      ports := tunnel.ports.set forward.channel forward.localPort
      forwards := tunnel.forwards ++ [forward] }

end Tunnel

def establish (host : Host) (remote : Credentials) (target : Target) (localPorts : List UInt16) :
    Except Error Tunnel :=
  (forwardPlan remote localPorts).foldlM (Tunnel.add host) { target := target, remoteIp := remote.ip }

/-- Everything that opening a tunnel reads and changes. -/
structure Scene where
  host : Host
  known : KnownHosts := {}
  server : Server := {}
  prompts : List Target := []

def connect (remote : Credentials) (target : Target) (localPorts : List UInt16) (keyring : Keyring)
    (password : Except Error String) (scene : Scene) : Except Error Tunnel × Scene :=
  let visit := enter scene.host (fun known _ => known.standing) (fun known _ => known.learn) scene.known
    scene.server.hostKey Server.respond target keyring password scene.server
  let scene := { scene with
    known := visit.known, server := visit.server, prompts := scene.prompts ++ visit.prompts }
  match visit.result with
  | .error error => (.error error, scene)
  | .ok () => (establish scene.host remote target localPorts, scene)

/-- Opens a tunnel to the kernel of a source, through a server that is given as text. -/
def openTunnel (source : Source) (serverText : String) (keyring : Keyring)
    (password : Except Error String) (scene : Scene) : Except Error Tunnel × Scene :=
  match source.load scene.host with
  | .error error => (.error error, scene)
  | .ok remote =>
    match Target.parseWith (defaultUser scene.host.env?) serverText with
    | .error error => (.error error, scene)
    | .ok target =>
      match scene.host.freePorts localhost Channel.tunnelOrder.length with
      | (.error fault, host) => (.error (.io fault), { scene with host := host })
      | (.ok localPorts, host) =>
        connect remote target localPorts keyring password { scene with host := host }

end Mooring.Ssh
