import Mooring.Host.Sockets

/-! The ports that the kernels of one process have claimed, so that no two of them share one. -/

namespace Mooring

structure PortClaims where
  ports : List UInt16 := []
  nodup : ports.Nodup := by decide

namespace PortClaims

open Host (Fault PortAnswer)

def none_ : PortClaims := {}

def isClaimed (claims : PortClaims) (port : UInt16) : Bool := decide (port ∈ claims.ports)

def count (claims : PortClaims) : Nat := claims.ports.length

def claim? (claims : PortClaims) (port : UInt16) : Option PortClaims :=
  if h : port ∈ claims.ports then none
  else some ⟨port :: claims.ports, List.nodup_cons.mpr ⟨h, claims.nodup⟩⟩

def release (claims : PortClaims) (port : UInt16) : PortClaims :=
  ⟨claims.ports.erase port, claims.nodup.erase port⟩

def releaseAll (claims : PortClaims) (ports : List UInt16) : PortClaims :=
  ports.foldl release claims

/-- Takes answers of the system until one is a port that is not claimed yet, and claims it. -/
def claimFirst (claims : PortClaims) :
    List PortAnswer → Except Fault UInt16 × PortClaims × List PortAnswer
  | [] => (.error .addressInUse, claims, [])
  | .error fault :: rest => (.error fault, claims, rest)
  | .ok port :: rest =>
    match claims.claim? port with
    | some claims => (.ok port, claims, rest)
    | none => claimFirst claims rest

def findAvailable (claims : PortClaims) (host : Host) (ip : String) :
    Except Fault UInt16 × PortClaims × Host :=
  match host.resolve ip with
  | .error fault => (.error fault, claims, host)
  | .ok address =>
    match host.network.bindFault address with
    | some fault => (.error fault, claims, host)
    | none =>
      let (answer, claims, rest) := claims.claimFirst host.ports
      (answer, claims, { host with ports := rest })

end PortClaims
end Mooring
