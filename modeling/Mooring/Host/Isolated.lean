import Mooring.Host.Arrangement
import Mooring.Host.Fresh

/-! A machine that is a value and nothing else, for trying things out. It has no network interface
but can still bind sockets, its fresh names follow one another, and its files are empty
directories. -/

namespace Mooring.Host.Isolated

def isMapped (groups : List UInt16) : Bool := groups.take 6 = [0, 0, 0, 0, 0, 0xFFFF]

def isLinkLocal (groups : List UInt16) : Bool := (groups.headD 0).toNat &&& 0xFFC0 = 0xFE80

def isMulticast (groups : List UInt16) : Bool := (groups.headD 0).toNat &&& 0xFF00 = 0xFF00

/-- Without interfaces, sockets are bound to every address of version 4. Of version 6 only the
unspecified address and those that stand for version 4 are left. -/
def bindFault (address : Address) : Option Fault :=
  match address with
  | .v4 _ => none
  | .v6 groups =>
    if address.isUnspecified || isMapped groups.toList then none
    else if isLinkLocal groups.toList || isMulticast groups.toList then some Fault.invalidArgument
    else some Fault.addressNotAvailable

def connectFault (server : String) : Fault :=
  match Address.parse? server with
  | some (.v6 groups) =>
    if isMapped groups.toList || isMulticast groups.toList then Fault.networkUnreachable
    else if isLinkLocal groups.toList then Fault.invalidArgument
    else Fault.addressNotAvailable
  | _ => Fault.networkUnreachable

def network : Network where
  bindFault := bindFault
  lookup := fun _ => .error .unresolved
  connectFault := fun server _ => some (connectFault server)

def epoch : Int := 1700000000

def directory : Node := .directory 0o755 epoch

def directoriesAt (places : List Place) : FileTree :=
  .ofList (places.map (fun place => (place, directory)))

/-- A machine with these directories, where the system gives out these ports. -/
def machine (places : List Place) (ports : List UInt16) : Host where
  files := directoriesAt places
  workDir := []
  environment := Table.empty
  network := network
  uuidAt := uuidText
  tempNameAt := tempNameText
  ports := ports.map .ok

def dynamicPorts : List Nat := (List.range 32767).map (· + 32768)

end Mooring.Host.Isolated
