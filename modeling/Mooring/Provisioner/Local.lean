import Mooring.Connection.Files
import Mooring.KernelSpec
import Mooring.PortClaims

/-! The provisioner for kernels on this machine. It claims a port for every channel that has none,
once, so that restarts use the same ports again, and gives them back at the end. -/

namespace Mooring

structure LocalProvisioner where
  name : String
  kernelId : String
  spec : KernelSpec := {}
  config : Json.Members := []
  /-- Whether ports are claimed at all, or chosen when the file is written. -/
  cachePorts : Bool := true
  cachedPorts : List UInt16 := []
  portsCached : Bool := false
  info : Option Snapshot := none

namespace LocalProvisioner

structure Stage where
  provisioner : LocalProvisioner
  connection : Connection
  claims : PortClaims
  host : Host

namespace Stage

def claimPort (stage : Stage) (ip : String) (channel : Channel) : Except Error Unit × Stage :=
  if stage.connection.ports.get channel ≠ 0 then (.ok (), stage)
  else
    match stage.claims.findAvailable stage.host ip with
    | (.error fault, claims, host) =>
      (.error (.io fault), { stage with claims := claims, host := host })
    | (.ok port, claims, host) =>
      (.ok (),
        { provisioner :=
            { stage.provisioner with cachedPorts := stage.provisioner.cachedPorts ++ [port] }
          connection := stage.connection.setPort channel port
          claims := claims
          host := host })

def claimPorts (ip : String) : List Channel → Stage → Except Error Unit × Stage
  | [], stage =>
    (.ok (), { stage with provisioner := { stage.provisioner with portsCached := true } })
  | channel :: rest, stage =>
    match stage.claimPort ip channel with
    | (.error error, stage) => (.error error, stage)
    | (.ok (), stage) => claimPorts ip rest stage

def checkLocal (stage : Stage) : Except Error Unit × Stage :=
  match stage.connection.transport with
  | .ipc => (.ok (), stage)
  | .tcp =>
    let (isLocal, host) := stage.host.isLocal stage.connection.ip
    (if isLocal then .ok () else .error (.nonLocalAddress stage.connection.ip),
      { stage with host := host })

def claimAll (stage : Stage) : Except Error Unit × Stage :=
  if stage.connection.transport = .tcp ∧ stage.provisioner.cachePorts
      ∧ ¬ stage.provisioner.portsCached then
    claimPorts stage.connection.ip Channel.allocationOrder stage
  else (.ok (), stage)

def writeFile (stage : Stage) : Except Error Unit × Stage :=
  match stage.connection.write stage.host with
  | (.error error, connection, host) =>
    (.error error, { stage with connection := connection, host := host })
  | (.ok _, connection, host) =>
    (.ok (),
      { stage with
        provisioner := { stage.provisioner with info := some (connection.snapshot false) }
        connection := connection
        host := host })

/-- Makes the credentials of a kernel final and writes them, before the kernel starts. -/
def preLaunch (stage : Stage) : Except Error Unit × Stage :=
  match stage.checkLocal with
  | (.error error, stage) => (.error error, stage)
  | (.ok (), stage) =>
    match stage.claimAll with
    | (.error error, stage) => (.error error, stage)
    | (.ok (), stage) => stage.writeFile

end Stage

/-- Gives back the ports, also those of a launch that failed half way, unless the kernel is about
to start again. -/
def cleanup (provisioner : LocalProvisioner) (claims : PortClaims) (restart : Bool) :
    LocalProvisioner × PortClaims :=
  if restart then (provisioner, claims)
  else
    ({ provisioner with cachedPorts := [], portsCached := false },
      claims.releaseAll provisioner.cachedPorts)

end LocalProvisioner
end Mooring
