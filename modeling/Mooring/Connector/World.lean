import Mooring.Provisioner.Registry

/-! All connectors of a process and what they share: the machine, the port claims, the kernels that
were ever prepared, and what plugins told. -/

namespace Mooring

structure ProvisionerContext where
  claims : Nat
  cachePorts : Bool := true

inductive Provisioner
  | local_ (claims : Nat) (state : LocalProvisioner)
  | plugin (work : Plugin) (kernelId name : String) (spec : KernelSpec) (config : Json.Members)
    (launches : Nat) (info : Option Snapshot)

namespace Provisioner

def name : Provisioner → String
  | .local_ _ state => state.name
  | .plugin _ _ name _ _ _ _ => name

def kernelId : Provisioner → String
  | .local_ _ state => state.kernelId
  | .plugin _ id _ _ _ _ _ => id

def spec : Provisioner → KernelSpec
  | .local_ _ state => state.spec
  | .plugin _ _ _ spec _ _ _ => spec

def config : Provisioner → Json.Members
  | .local_ _ state => state.config
  | .plugin _ _ _ _ config _ _ => config

def info : Provisioner → Option Snapshot
  | .local_ _ state => state.info
  | .plugin _ _ _ _ _ _ info => info

end Provisioner

/-- A kernel that was prepared. While one operation works on it, all others have to wait. -/
structure Kernel where
  connection : Connection
  provisioner : Provisioner
  busy : Bool := false

/-- What a kernel id stands for in a connector. -/
inductive Slot
  | preparing
  | ready (handle : Nat)
  deriving DecidableEq, Repr

structure Connector where
  directory : String
  transport : Transport := .tcp
  ip : Option String := none
  cachePorts : Bool := true
  claims : Nat
  registry : Registry
  slots : Table String Slot := Table.empty

structure World where
  host : Host
  claims : Table Nat PortClaims := Table.empty
  connectors : Table Nat Connector := Table.empty
  kernels : Table Nat Kernel := Table.empty
  nextClaims : Nat := 0
  nextConnector : Nat := 0
  nextKernel : Nat := 0
  journal : List Event := []

namespace World

def claimsOf (world : World) (key : Nat) : PortClaims := (world.claims.get? key).getD PortClaims.none_

def setClaims (world : World) (key : Nat) (claims : PortClaims) : World :=
  { world with claims := world.claims.set key claims }

/-- A new set of claims, shared by all who are given its number. -/
def newClaims (world : World) : Nat × World :=
  (world.nextClaims,
    { world.setClaims world.nextClaims PortClaims.none_ with nextClaims := world.nextClaims + 1 })

def addConnector (world : World) (connector : Connector) : Nat × World :=
  (world.nextConnector,
    { world with
      connectors := world.connectors.set world.nextConnector connector
      nextConnector := world.nextConnector + 1 })

def addKernel (world : World) (kernel : Kernel) : Nat × World :=
  (world.nextKernel,
    { world with
      kernels := world.kernels.set world.nextKernel kernel
      nextKernel := world.nextKernel + 1 })

def setKernel (world : World) (handle : Nat) (kernel : Kernel) : World :=
  { world with kernels := world.kernels.set handle kernel }

def tell (world : World) (event : Event) : World := { world with journal := world.journal ++ [event] }

def connector? (world : World) (index : Nat) : Option Connector := world.connectors.get? index

def slot? (world : World) (index : Nat) (id : String) : Option Slot :=
  (world.connector? index).bind (fun connector => connector.slots.get? id)

def modifySlots (world : World) (index : Nat) (change : Table String Slot → Table String Slot) :
    World :=
  { world with
    connectors := world.connectors.modify index
      (fun connector => { connector with slots := change connector.slots }) }

def setSlot (world : World) (index : Nat) (id : String) (slot : Slot) : World :=
  world.modifySlots index (fun slots => slots.set id slot)

def freeSlot (world : World) (index : Nat) (id : String) : World :=
  world.modifySlots index (fun slots => slots.erase id)

def setRegistry (world : World) (index : Nat) (registry : Registry) : World :=
  { world with
    connectors := world.connectors.modify index
      (fun connector => { connector with registry := registry }) }

def select (world : World) : ConnectorChoice → Option Nat
  | .numbered index => if (world.connector? index).isSome then some index else none
  | .newest => if world.nextConnector = 0 then none else some (world.nextConnector - 1)

end World
end Mooring
