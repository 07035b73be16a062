import Mooring.Host.Basic

/-! Requests on files. A query gives an answer; a change gives an answer and the host after it, and
a refused change leaves the files as they were. -/

namespace Mooring.Host

def find (host : Host) (follow : Bool) (path : String) : Except Fault Spot :=
  host.files.find host.workDir follow path

def entry? (host : Host) (path : String) : Except Fault (Place × Node) :=
  match host.find true path with
  | .ok (.taken place node) => .ok (place, node)
  | .ok (.vacant ..) => .error .notFound
  | .error fault => .error fault

/-- Like `entry?`, but a link at the end is the entry itself. -/
def linkEntry? (host : Host) (path : String) : Except Fault (Place × Node) :=
  match host.find false path with
  | .ok (.taken place node) => .ok (place, node)
  | .ok (.vacant ..) => .error .notFound
  | .error fault => .error fault

def pathExists (host : Host) (path : String) : Bool := (host.entry? path).toBool

def isFile (host : Host) (path : String) : Bool :=
  match host.entry? path with
  | .ok (_, node) => node.isFile
  | .error _ => false

def isDirectory (host : Host) (path : String) : Bool :=
  match host.entry? path with
  | .ok (_, node) => node.isDirectory
  | .error _ => false

def readBytes (host : Host) (path : String) : Except Fault Bytes :=
  match host.entry? path with
  | .ok (_, .file content _ _) => .ok content
  | .ok _ => .error .isDirectory
  | .error fault => .error fault

def readText (host : Host) (path : String) : Except Fault String :=
  match host.readBytes path with
  | .error fault => .error fault
  | .ok content =>
    match Utf8.decode? content with
    | some text => .ok text
    | none => .error .notUtf8

def namesIn (host : Host) (path : String) : Except Fault (List String) :=
  match host.entry? path with
  | .ok (place, .directory ..) => .ok (host.files.namesIn place)
  | .ok _ => .error .notDirectory
  | .error fault => .error fault

def describe (host : Host) (path : String) : String :=
  match host.linkEntry? path with
  | .error _ => "missing"
  | .ok (_, .link target) => "symlink " ++ target
  | .ok (_, node) =>
    (if node.isFile then "file " else "dir ") ++ Text.padZeros 4 (Text.octalText node.mode)

def withNode (host : Host) (place : Place) (node : Node) : Host :=
  { host with files := host.files.insert place node }

def withoutNode (host : Host) (place : Place) : Host :=
  { host with files := host.files.erase place }

def tick (host : Host) : Host := { host with now := host.now + 1 }

/-- Removes a file or a link, never a directory. -/
def removeFile (host : Host) (path : String) : Except Fault Unit × Host :=
  match host.files.findParent host.workDir path with
  | .error fault => (.error fault, host)
  | .ok (_, none, _) => (.error .isDirectory, host)
  | .ok (directory, some name, slash) =>
    let place := directory ++ [name]
    match host.files.nodeAt place with
    | none => (.error .notFound, host)
    | some (.directory ..) => (.error .isDirectory, host)
    | some _ => if slash then (.error .notDirectory, host) else (.ok (), host.withoutNode place)

def createFile (host : Host) (path : String) (mode : Nat) : Except Fault Place × Host :=
  match host.files.findParent host.workDir path with
  | .error fault => (.error fault, host)
  | .ok (_, none, _) => (.error .exists_, host)
  | .ok (directory, some name, slash) =>
    let place := directory ++ [name]
    if slash then (.error .isDirectory, host)
    else
      match host.files.nodeAt place with
      | some _ => (.error .exists_, host)
      | none =>
        match host.disk.creation with
        | some fault => (.error fault, host)
        | none => (.ok place, (host.withNode place (.file [] mode host.now)).tick)

/-- Writes the bytes of an open file, as far as the disk lets it grow. -/
def fill (host : Host) (place : Place) (content : Bytes) : Except Fault Unit × Host :=
  match host.files.nodeAt place with
  | some (.file _ mode accessed) =>
    match host.disk.capacity with
    | some (limit, fault) =>
      if limit < content.length then
        (.error fault, host.withNode place (.file (content.take limit) mode accessed))
      else (.ok (), host.withNode place (.file content mode accessed))
    | none => (.ok (), host.withNode place (.file content mode accessed))
  | _ => (.error .notFound, host)

def setMode (host : Host) (place : Place) (mode : Nat) : Host :=
  match host.files.nodeAt place with
  | some node => host.withNode place (node.withMode mode)
  | none => host

def directoryMode (host : Host) (parent : Place) : Nat :=
  match host.files.nodeAt parent with
  | some node => 0o755 ||| (node.mode &&& 0o2000)
  | none => 0o755

def createDirectory (host : Host) (path : String) : Except Fault Unit × Host :=
  match host.files.findParent host.workDir path with
  | .error fault => (.error fault, host)
  | .ok (_, none, _) => (.error .exists_, host)
  | .ok (directory, some name, _) =>
    let place := directory ++ [name]
    match host.files.nodeAt place with
    | some _ => (.error .exists_, host)
    | none =>
      match host.disk.creation with
      | some fault => (.error fault, host)
      | none =>
        (.ok (), (host.withNode place (.directory (host.directoryMode directory) host.now)).tick)

/-- What creating a directory means when it may be there already. -/
def settleDirectory (path : String) (attempt : Except Fault Unit × Host) : Except Fault Unit × Host :=
  match attempt.1 with
  | .ok () => attempt
  | .error _ => if attempt.2.isDirectory path then (.ok (), attempt.2) else attempt

/-- Creates a directory and all that are missing above it. A parent has a shorter path, so the
length of the path suffices as `fuel`. -/
def createDirectoriesFrom : Nat → Host → String → Except Fault Unit × Host
  | 0, host, _ => (.error .noWholeTree, host)
  | fuel + 1, host, path =>
    if path.isEmpty then (.ok (), host)
    else
      match host.createDirectory path with
      | (.error (.system 2), host) =>
        match Path.parent? path with
        | none => (.error .noWholeTree, host)
        | some parent =>
          match createDirectoriesFrom fuel host parent with
          | (.error fault, host) => (.error fault, host)
          | (.ok (), host) => settleDirectory path (host.createDirectory path)
      | attempt => settleDirectory path attempt

def createDirectories (host : Host) (path : String) : Except Fault Unit × Host :=
  createDirectoriesFrom (path.length + 1) host path

def markDirectorySticky (host : Host) (path : String) : Host :=
  match (Path.parent? path).filter (fun parent => !parent.isEmpty) with
  | none => host
  | some parent =>
    match host.entry? parent with
    | .error _ => host
    | .ok (place, node) => host.setMode place (node.mode ||| 0o1000)

/-- Creates an empty file with a fresh name in the directory for temporary files. A name that is
taken is passed over, `attempts` times at most. -/
def createTempFile (leading ending : String) : Nat → Host → Except Fault String × Host
  | 0, host => (.error .exists_, host)
  | attempts + 1, host =>
    let (middle, host) := host.drawTempName
    let base := if Path.isAbsolute host.tempDir then host.tempDir
      else Path.join host.workDirText host.tempDir
    let path := Path.join base (leading ++ middle ++ ending)
    match host.createFile path 0o600 with
    | (.ok _, host) => (.ok path, host)
    | (.error fault, host) =>
      if fault = .exists_ then createTempFile leading ending attempts host
      else (.error (.placed fault path), host)

end Mooring.Host
