import Mooring.Host.Basic

/-! Sockets, as far as ports go: the address that a text stands for, and the port that the system
picks for a socket bound to it. -/

namespace Mooring.Host

def loopbackText : String := "127.0.0.1"

/-- An address in figures stands for itself, and an empty text for the loopback address. The older
numeric forms are known, too; all else is a name. -/
def resolve (host : Host) (ip : String) : Except Fault Address :=
  let ip := if ip.isEmpty then loopbackText else ip
  match Address.parse? ip with
  | some address => .ok address
  | none =>
    if ip.toList.contains (Char.ofNat 0) then .error .nulByte
    else
      match Address.parseOlder? ip with
      | some address => .ok address
      | none => host.network.lookup ip

/-- The port of a socket that is bound for a moment. Each answer of the system is used once; with
none left, every port is in use. -/
def bindPort (host : Host) (address : Address) : Except Fault UInt16 × Host :=
  match host.network.bindFault address with
  | some fault => (.error fault, host)
  | none =>
    match host.ports with
    | [] => (.error .addressInUse, host)
    | answer :: rest => (answer, { host with ports := rest })

def freePort (host : Host) (ip : String) : Except Fault UInt16 × Host :=
  match host.resolve ip with
  | .error fault => (.error fault, host)
  | .ok address => host.bindPort address

def freePorts (host : Host) (ip : String) : Nat → Except Fault (List UInt16) × Host
  | 0 => (.ok [], host)
  | count + 1 =>
    match host.freePort ip with
    | (.error fault, host) => (.error fault, host)
    | (.ok port, host) =>
      match freePorts host ip count with
      | (.error fault, host) => (.error fault, host)
      | (.ok ports, host) => (.ok (port :: ports), host)

def listen (host : Host) (ip : String) (port : UInt16) : Except Fault Unit :=
  match host.resolve ip with
  | .error fault => .error fault
  | .ok address =>
    match host.network.listenFault address port with
    | some fault => .error fault
    | none => .ok ()

/-- Loopback and unspecified addresses are local, and so is every other to which a socket can be
bound. -/
def isLocal (host : Host) (ip : String) : Bool × Host :=
  match host.resolve ip with
  | .error _ => (false, host)
  | .ok address =>
    if address.isLoopback || address.isUnspecified then (true, host)
    else
      let (answer, host) := host.bindPort address
      (answer.toBool, host)

end Mooring.Host
