import Mooring.Connector.Launch

/-! What a connector does. Preparing a kernel reserves its id first, and restarting and releasing
take two steps each: finding the kernel, and working on it while nobody else does. -/

namespace Mooring

namespace World

/-- Ids name files, so they may not lead out of their directory. -/
def isValidId (id : String) : Bool := !id.isEmpty && !id.toList.contains '/' && !id.toList.contains '\\'

def reserve (world : World) (index : Nat) (id : String) : Except Error Unit × World :=
  if !isValidId id then (.error (.invalidKernelId id), world)
  else if (world.slot? index id).isSome then (.error (.kernelExists id), world)
  else (.ok (), world.setSlot index id .preparing)

def fileName (id : String) : String := "kernel-" ++ id ++ ".json"

def newConnection (connector : Connector) (id : String) (spec : KernelSpec) (host : Host) :
    Connection × Host :=
  let (connection, host) := Connection.fresh host
  let connection :=
    { connection with
      transport := connector.transport
      file := some (Path.join connector.directory (fileName id))
      kernelName := spec.displayName }
  (match connector.ip with
    | some ip => connection.setIp ip
    | none => connection, host)

/-- Undoes what a failed launch has done. -/
def abandon (answer : Answerer) (provisioner : Provisioner) (connection : Connection)
    (world : World) : World :=
  let (_, _, connection, world) := provisioner.cleanup answer connection false world
  let (connection, host) := connection.cleanupFile world.host
  { world with host := connection.cleanupSockets host }

def launch (answer : Answerer) (index : Nat) (connector : Connector) (id : String)
    (spec : KernelSpec) (world : World) : Except Error Kernel × World :=
  match world.host.createDirectories connector.directory with
  | (.error fault, host) => (.error (.io fault), { world with host := host })
  | (.ok (), host) =>
    let (connection, host) := newConnection connector id spec host
    let world := { world with host := host }
    match Provisioner.ofRegistry connector.registry ⟨connector.claims, connector.cachePorts⟩ id spec
        world with
    | (.error error, registry, world) => (.error error, world.setRegistry index registry)
    | (.ok provisioner, registry, world) =>
      let world := world.setRegistry index registry
      match provisioner.preLaunch answer connection world with
      | (.error error, provisioner, connection, world) =>
        (.error error, world.abandon answer provisioner connection)
      | (.ok (), provisioner, connection, world) =>
        (.ok { connection := connection, provisioner := provisioner }, world)

/-- Prepares a kernel under an id of its own. The reservation is freed again if the launch fails. -/
def prepareAs (answer : Answerer) (index : Nat) (id : String) (spec : KernelSpec) (world : World) :
    Except Error String × World :=
  match world.reserve index id with
  | (.error error, world) => (.error error, world)
  | (.ok (), world) =>
    match world.connector? index with
    | none => (.error (.kernelNotFound id), world)
    | some connector =>
      match launch answer index connector id spec world with
      | (.error error, world) => (.error error, world.freeSlot index id)
      | (.ok kernel, world) =>
        let (handle, world) := world.addKernel kernel
        (.ok id, world.setSlot index id (.ready handle))

def prepare (answer : Answerer) (index : Nat) (id : Option String) (spec : KernelSpec)
    (world : World) : Except Error String × World :=
  match id with
  | some id => prepareAs answer index id spec world
  | none =>
    let (id, host) := world.host.drawUuid
    prepareAs answer index id spec { world with host := host }

def handle? (world : World) (index : Nat) (id : String) : Option Nat :=
  match world.slot? index id with
  | some (.ready handle) => some handle
  | some .preparing => none
  | none => none

/-- A kernel that is being prepared is not found. -/
def findKernel (world : World) (index : Nat) (id : String) : Except Error Nat :=
  match world.handle? index id with
  | some handle => .ok handle
  | none => .error (.kernelNotFound id)

def contains (world : World) (index : Nat) (id : String) : Bool := (world.handle? index id).isSome

def ids (world : World) (index : Nat) : List String :=
  match world.connector? index with
  | none => []
  | some connector =>
    (connector.slots.rows.filterMap (fun row =>
      match row.2 with
      | .ready _ => some row.1
      | .preparing => none)).mergeSort (fun a b => decide (a ≤ b))

def restartKernel (answer : Answerer) (handle : Nat) (world : World) : Except Error Unit × World :=
  match world.kernels.get? handle with
  | none => (.ok (), world)
  | some kernel =>
    let world := world.setKernel handle { kernel with busy := true }
    match kernel.provisioner.cleanup answer kernel.connection true world with
    | (.error error, provisioner, connection, world) =>
      (.error error, world.setKernel handle ⟨connection, provisioner, false⟩)
    | (.ok (), provisioner, connection, world) =>
      let (result, provisioner, connection, world) :=
        provisioner.preLaunch answer connection world
      (result, world.setKernel handle ⟨connection, provisioner, false⟩)

def restart (answer : Answerer) (index : Nat) (id : String) (world : World) :
    Except Error Unit × World :=
  match world.findKernel index id with
  | .error error => (.error error, world)
  | .ok handle => restartKernel answer handle world

def takeKernel (world : World) (index : Nat) (id : String) : Except Error Nat × World :=
  match world.findKernel index id with
  | .error error => (.error error, world)
  | .ok handle => (.ok handle, world.freeSlot index id)

/-- Cleans up a kernel and removes the files that its connection wrote, also when the cleanup
fails. -/
def releaseKernel (answer : Answerer) (handle : Nat) (world : World) : Except Error Unit × World :=
  match world.kernels.get? handle with
  | none => (.ok (), world)
  | some kernel =>
    let world := world.setKernel handle { kernel with busy := true }
    let (result, provisioner, connection, world) :=
      kernel.provisioner.cleanup answer kernel.connection false world
    let (connection, host) := connection.cleanupFile world.host
    let host := connection.cleanupSockets host
    (result, { world with host := host }.setKernel handle ⟨connection, provisioner, false⟩)

def release (answer : Answerer) (index : Nat) (id : String) (world : World) :
    Except Error Unit × World :=
  match world.takeKernel index id with
  | (.error error, world) => (.error error, world)
  | (.ok handle, world) => releaseKernel answer handle world

def firstError (a b : Except Error Unit) : Except Error Unit :=
  match a with
  | .error error => .error error
  | .ok () => b

def releaseEach (answer : Answerer) (index : Nat) : List String → World → Except Error Unit × World
  | [], world => (.ok (), world)
  | id :: rest, world =>
    let (result, world) := release answer index id world
    let (results, world) := releaseEach answer index rest world
    (firstError result results, world)

/-- Releases every kernel that is ready, whatever fails, and gives the first error. -/
def releaseAll (answer : Answerer) (index : Nat) (world : World) : Except Error Unit × World :=
  releaseEach answer index (world.ids index) world

def connectionOf (world : World) (index : Nat) (id : String) : Except Error Connection :=
  match world.findKernel index id with
  | .error error => .error error
  | .ok handle =>
    match world.kernels.get? handle with
    | some kernel => .ok kernel.connection
    | none => .error (.kernelNotFound id)

def info (world : World) (index : Nat) (id : String) (live : Bool) : Except Error Snapshot :=
  (world.connectionOf index id).map (fun connection => connection.snapshot live)

def connectionFile (world : World) (index : Nat) (id : String) : Except Error String :=
  match world.connectionOf index id with
  | .error error => .error error
  | .ok connection =>
    match connection.file with
    | some path => .ok path
    | none => .error (.invalidState ("kernel " ++ id ++ " has no file"))

def connectChannel (world : World) (index : Nat) (id : String) (channel : Channel)
    (identity : Option Bytes) : Except Error Socket :=
  match world.connectionOf index id with
  | .error error => .error error
  | .ok connection => connection.connectChannel channel identity

def inspect (world : World) (index : Nat) : String :=
  match world.connector? index with
  | none => ""
  | some connector =>
    let kernel (id : String) : String := "KernelId(" ++ Text.quoted id ++ ")"
    Text.record "KernelConnector"
      [("connection_dir", Text.quotedPath connector.directory),
        ("transport", connector.transport.inspect),
        ("kernels", "[" ++ String.intercalate ", " ((world.ids index).map kernel) ++ "]")]
      true

end World
end Mooring
