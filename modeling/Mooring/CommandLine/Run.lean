import Mooring.CommandLine.Help
import Mooring.Connector.Calls
import Mooring.Search
import Mooring.Ssh.Tunnel

/-! Running a command. Most commands end at once; two of them hold what they have made until they
are interrupted. -/

namespace Mooring

def Error.causes : Error → List String
  | .io fault => [fault.message]
  | .serialization fault => [serializationMessage fault]
  | _ => []

namespace CommandLine

structure Report where
  code : Nat := 0
  out : String := ""
  errors : String := ""
  deriving DecidableEq, Repr

inductive Held
  | kernels (world : World) (connector : Nat)
  | tunnel (tunnel : Ssh.Tunnel)

inductive Progress
  | ended (report : Report)
  | holding (out : String) (held : Held)

/-- Everything around a run: the machine, and the server that tunnels go through with the answer to
its question for a password. -/
structure Surroundings where
  scene : Ssh.Scene
  readKey : Bytes → Option String := fun _ => none
  password : Except Error String := .error (.authentication "failed to read password")

namespace Surroundings

def host (around : Surroundings) : Host := around.scene.host

def withHost (around : Surroundings) (host : Host) : Surroundings :=
  { around with scene := { around.scene with host := host } }

end Surroundings

def printed (lines : List String) : String := String.join (lines.map (fun line => line ++ "\n"))

def causeLines : List String → List String
  | [] => []
  | [cause] => ["", "Caused by:", "    " ++ cause]
  | causes =>
    ["", "Caused by:"]
      ++ causes.mapIdx (fun index cause => "    " ++ toString index ++ ": " ++ cause)

def failure (message : String) (causes : List String) : Report :=
  { code := 1, errors := String.intercalate "\n" (("Error: " ++ message) :: causeLines causes) }

def failed (error : Error) : Report := failure error.message error.causes

def failedWhile (activity : String) (error : Error) : Report :=
  failure activity (error.message :: error.causes)

def write (file : Option String) (transport : Transport) (ip : Option String) (kernelName : String)
    (host : Host) : Report × Host :=
  let (connection, host) := Connection.fresh host
  let connection := { connection with transport := transport, kernelName := kernelName, file := file }
  let connection := (ip.map connection.setIp).getD connection
  match connection.write host with
  | (.error error, _, host) => (failed error, host)
  | (.ok path, _, host) => ({ out := printed [path] }, host)

def find (pattern : String) (directories : List String) (host : Host) : Report :=
  match Search.find host pattern (directories ++ Search.defaultDirectories host) with
  | .error error => failed error
  | .ok path => { out := printed [path] }

def redacted : String := "<redacted>"

def hideKey (member : String × Json.Value) : String × Json.Value :=
  if member.1 = "key" then ("key", .text redacted) else member

def shown (patch : CredentialsPatch) : Except Error String :=
  match patch.toValue with
  | .error fault => .error (.serialization fault)
  | .ok value =>
    .ok (Json.Value.sortedObject ((value.members?.getD []).map hideKey)).pretty

def describe (file : String) (host : Host) : Report :=
  match ConnectionFile.read host file with
  | .error error => failedWhile ("reading " ++ file) error
  | .ok patch =>
    match shown patch with
    | .error error => failed error
    | .ok text => { out := printed [text] }

def deliver (credentials : Credentials) (output : Option String) (host : Host) :
    Except Error String × Host :=
  match credentials.fileText with
  | .error error => (.error error, host)
  | .ok text =>
    match output with
    | none => (.ok (printed [text]), host)
    | some path =>
      match ConnectionFile.secureWrite host path (Utf8.ofString text) with
      | (.error error, host) => (.error error, host)
      | (.ok (), host) => (.ok "", host)

def tunnel (file server : String) (key output : Option String) (around : Surroundings) :
    Progress × Surroundings :=
  let source := Ssh.Source.file file
  match source.load around.host with
  | .error error => (.ended (failed error), around)
  | .ok remote =>
    let keyring : Ssh.Keyring := { explicit := key, readKey := around.readKey }
    match Ssh.openTunnel source server keyring around.password around.scene with
    | (.error error, scene) => (.ended (failed error), { around with scene := scene })
    | (.ok tunnel, scene) =>
      let around := { around with scene := scene }
      match deliver (tunnel.localInfo remote) output around.host with
      | (.error error, host) => (.ended (failed error), around.withHost host)
      | (.ok out, host) => (.holding out (.tunnel tunnel), around.withHost host)

/-- Nothing calls back into the connector of a command. -/
def answerer : Answerer := World.answer 0

def prepareOne (connector : Nat) (spec : KernelSpec) (id : Option String) (world : World) :
    Except Error (String × String) × World :=
  match world.prepare answerer connector id spec with
  | (.error error, world) => (.error error, world)
  | (.ok id, world) =>
    match world.connectionFile connector id with
    | .error error => (.error error, world)
    | .ok path => (.ok (id, path), world)

def prepareEach (connector : Nat) (spec : KernelSpec) :
    List (Option String) → World → Except Error (List (String × String)) × World
  | [], world => (.ok [], world)
  | id :: rest, world =>
    match prepareOne connector spec id world with
    | (.error error, world) => (.error error, world)
    | (.ok kernel, world) =>
      match prepareEach connector spec rest world with
      | (.error error, world) => (.error error, world)
      | (.ok kernels, world) => (.ok (kernel :: kernels), world)

/-- Prepares kernels. If one of them fails, those before it are released. -/
def prepareKernels (connector : Nat) (spec : KernelSpec) (ids : List (Option String))
    (world : World) : Except Error (List (String × String)) × World :=
  match prepareEach connector spec ids world with
  | (.error error, world) => (.error error, (world.releaseAll answerer connector).2)
  | (.ok kernels, world) => (.ok kernels, world)

def connectorIn (directory : String) (transport : Transport) (host : Host) : Nat × World :=
  let (claims, world) := ({ host := host } : World).newClaims
  world.addConnector
    { directory := directory
      transport := transport
      claims := claims
      registry := Registry.withBuiltins host }

def prepare (ids : List (Option String)) (directory : Option String) (transport : Transport)
    (displayName : String) (host : Host) : Progress × Host :=
  let (connector, world) :=
    connectorIn (directory.getD (Search.runtimeDirectory host)) transport host
  match prepareKernels connector { displayName := displayName } ids world with
  | (.error error, world) => (.ended (failedWhile "preparing kernels" error), world.host)
  | (.ok kernels, world) =>
    (.holding (printed (kernels.map (fun kernel => kernel.1 ++ "\t" ++ kernel.2)))
      (.kernels world connector), world.host)

def provisioners (host : Host) : Report :=
  let registry := Registry.withBuiltins host
  let line (row : String × String) : String :=
    row.1 ++ "\t" ++ row.2 ++ (if row.1 = registry.defaultName then " (default)" else "")
  { out := printed (registry.listing.map line) }

def run (command : Command) (around : Surroundings) : Progress × Surroundings :=
  match command with
  | .write file transport ip kernelName =>
    let (report, host) := write file transport ip kernelName around.host
    (.ended report, around.withHost host)
  | .find pattern directories => (.ended (find pattern directories around.host), around)
  | .describe file => (.ended (describe file around.host), around)
  | .tunnel file server key output => tunnel file server key output around
  | .prepare ids directory transport displayName =>
    let (progress, host) := prepare ids directory transport displayName around.host
    (progress, around.withHost host)
  | .provisioners => (.ended (provisioners around.host), around)

def start (arguments : List String) (around : Surroundings) : Progress × Surroundings :=
  let key := around.host.env? keyVariable
  match Command.parse arguments key with
  | .error (.usage name) => (.ended { code := 2, errors := usageLine name }, around)
  | .error (.help name) => (.ended { out := printed (helpLines name key) }, around)
  | .ok command => run command around

/-- What an interrupt does: everything that is held is let go of. -/
def Held.letGo (held : Held) (host : Host) : Except Error Unit × Host :=
  match held with
  | .kernels world connector =>
    let (result, world) := { world with host := host }.releaseAll answerer connector
    (result, world.host)
  | .tunnel _ => (.ok (), host)

def Progress.interrupt (progress : Progress) (host : Host) : Report × Host :=
  match progress with
  | .ended report => (report, host)
  | .holding out held =>
    match held.letGo host with
    | (.error error, host) => ({ failed error with out := out }, host)
    | (.ok (), host) => ({ out := out }, host)

end CommandLine
end Mooring
