import Std.Async.Signal
import Std.Async.TCP
import Mooring.CommandLine.Run
import Mooring.Host.Fresh

/-! The command line on a real machine. Everything that a command may want to know about the machine
is asked beforehand; the command runs on that, and what it did to the files is done to the machine.
There is no SSH client here, so that no server is ever reached. -/

namespace Mooring.Machine

open Host (Address FileTree Node Place)

def environmentNames : List String :=
  ["HOME", "TMPDIR", "USER", "USERNAME", "XDG_DATA_HOME", Search.runtimeVariable,
    Registry.defaultVariable, CommandLine.keyVariable]

def environment : IO (Table String String) := do
  let rows ← environmentNames.filterMapM (fun name => do
    return (← IO.getEnv name).map (fun value => (name, value)))
  return Table.ofList rows

def nodeAt (place : Place) (isWanted : Bool) : IO (Option Node) := do
  try
    let path := (← IO.currentDir) / Place.text place
    let entry ← path.metadata
    if entry.type == .dir then return some (.directory 0o755 entry.accessed.sec)
    let content ← if isWanted then IO.FS.readBinFile path else pure ByteArray.empty
    return some (.file content.toList 0o644 entry.accessed.sec)
  catch _ => return none

def namesIn (place : Place) : IO (List String) := do
  try return (← ((← IO.currentDir) / Place.text place).readDir).toList.map IO.FS.DirEntry.fileName
  catch _ => return []

/-- A node that was read already is read again only for its content. -/
def addNode (tree : FileTree) (place : Place) (isWanted : Bool) : IO FileTree := do
  if tree.contains place && !isWanted then return tree
  match ← nodeAt place isWanted with
  | some node => return tree.insert place node
  | none => return tree

def addChildren (tree : FileTree) (place : Place) : IO FileTree := do
  (← namesIn place).foldlM (fun tree name => addNode tree (place ++ [name]) false) tree

def addPlace (tree : FileTree) (place : Place) : IO FileTree := do
  let above := (List.range place.length).map place.take
  let tree ← above.foldlM (fun tree place => addNode tree place false) tree
  addNode (← addChildren (← addChildren tree place.dropLast) place) place true

def valueOf (argument : String) : String :=
  match CommandLine.longOption? argument with
  | some (_, some value) => value
  | _ => argument

def pathsOf (host : Host) (values : List String) : List String :=
  let directories := Search.defaultDirectories host ++ values
  host.tempDir :: host.workDirText :: directories
    ++ directories.flatMap (fun directory => values.map (Path.join directory))

def filesFor (host : Host) (values : List String) : IO FileTree := do
  let places := (pathsOf host values).map (fun path =>
    Path.names (Path.absoluteFrom host.workDirText path))
  places.eraseDups.foldlM addPlace ∅

def socketAddress : Address → Std.Net.SocketAddress
  | .v4 octets => .v4 ⟨⟨octets⟩, 0⟩
  | .v6 groups => .v6 ⟨⟨groups⟩, 0⟩

def canBind (address : Address) : IO Bool := do
  try
    let socket ← Std.Async.TCP.Socket.Server.mk
    socket.bind (socketAddress address)
    return true
  catch _ => return false

def freePorts (count : Nat) : IO (List UInt16) := do
  let sockets ← (List.range count).mapM (fun _ => do
    let socket ← Std.Async.TCP.Socket.Server.mk
    socket.bind (socketAddress (Address.ofOctets [0, 0, 0, 0]))
    return socket)
  sockets.mapM (fun socket => return (← socket.getSockName).port)

def randomBits : IO Nat := do
  return (← IO.getRandomBytes 16).toList.foldl (fun bits byte => bits * 256 + byte.toNat) 0

def kernelCount (arguments : List String) : Nat :=
  match CommandLine.Command.parse arguments none with
  | .ok (.prepare ids ..) => ids.length
  | _ => 1

def networkFor (values : List String) : IO Host.Network := do
  let refused ← (values.filterMap Address.parse?).filterM (fun address => do
    return !(← canBind address))
  return {
    bindFault := fun address =>
      if refused.contains address then some Host.Fault.addressNotAvailable else none
    lookup := fun _ => .error .unresolved
    connectFault := fun _ _ => some Host.Fault.networkUnreachable }

/-- The machine as far as a command may look at it. -/
def load (arguments : List String) : IO Host := do
  let values := arguments.map valueOf
  let seed ← randomBits
  let host : Host :=
    { files := ∅
      workDir := Path.names (← IO.currentDir).toString
      environment := ← environment
      network := ← networkFor values
      uuidAt := fun n => Host.uuidText (seed + n)
      tempNameAt := fun n => Host.tempNameText (seed + n)
      ports := (← freePorts (5 * kernelCount arguments)).map .ok }
  return { host with files := ← filesFor host values }

def writeSecret (path : String) (content : Bytes) : IO Unit := do
  try IO.FS.removeFile path catch _ => pure ()
  let handle ← IO.FS.Handle.mk path .writeNew
  IO.setAccessRights path ⟨⟨true, true, false⟩, ⟨false, false, false⟩, ⟨false, false, false⟩⟩
  handle.write ⟨content.toArray⟩

def settle (before after : FileTree) : IO Unit := do
  for place in before.keys do
    unless after.contains place do IO.FS.removeFile (Place.text place)
  for (place, node) in after.toList.mergeSort (fun a b => decide (a.1.length ≤ b.1.length)) do
    match node, before[place]? with
    | .directory .., none => IO.FS.createDirAll (Place.text place)
    | .file content .., none => writeSecret (Place.text place) content
    | .file content _ accessed, some (.file old _ before) =>
      unless content = old && accessed = before do writeSecret (Place.text place) content
    | _, _ => pure ()

def waitForInterrupt : IO Unit := do
  let waiter ← Std.Async.Signal.Waiter.mk .sigint false
  let _ ← IO.wait (← waiter.wait)

def exitCode (report : CommandLine.Report) : IO UInt32 := do
  unless report.errors.isEmpty do IO.eprintln report.errors
  return UInt32.ofNat report.code

end Mooring.Machine

def main (arguments : List String) : IO UInt32 := do
  let host ← Mooring.Machine.load arguments
  let (progress, around) := Mooring.CommandLine.start arguments ⟨⟨host, {}, {}, []⟩, fun _ => none,
    .error (.authentication "no terminal")⟩
  Mooring.Machine.settle host.files around.host.files
  match progress with
  | .ended report =>
    IO.print report.out
    Mooring.Machine.exitCode report
  | .holding out _ =>
    IO.print out
    (← IO.getStdout).flush
    Mooring.Machine.waitForInterrupt
    let files ← Mooring.Machine.filesFor around.host (arguments.map Mooring.Machine.valueOf)
    let (report, host) := progress.interrupt { around.host with files := files }
    Mooring.Machine.settle files host.files
    Mooring.Machine.exitCode report
