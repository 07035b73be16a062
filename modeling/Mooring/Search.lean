import Mooring.Glob
import Mooring.Error
import Mooring.Host.Files

/-! Finding connection files: an exact name first, then a pattern for the names in the directories
that are searched. -/

namespace Mooring.Search

def runtimeVariable : String := "KCONNECT_RUNTIME_DIR"

def dataDirectory? (host : Host) : Option String :=
  match (host.env? "XDG_DATA_HOME").filter Path.isAbsolute with
  | some directory => some directory
  | none => host.home?.map (fun home => Path.join home ".local/share")

def runtimeDirectoryFrom (host : Host) (value : Option String) : String :=
  match value.filter (fun directory => !directory.isEmpty) with
  | some directory => directory
  | none =>
    let base := (dataDirectory? host).getD host.tempDir
    Path.join (Path.join base "kconnect") "runtime"

def runtimeDirectory (host : Host) : String :=
  runtimeDirectoryFrom host (host.env? runtimeVariable)

def defaultDirectories (host : Host) : List String := [".", runtimeDirectory host]

/-- A path seen from the working directory. A relative one has none when that directory is gone. -/
def absolute (host : Host) (path : String) : Except Host.Fault String :=
  if Path.isAbsolute path || host.isDirectory "." then .ok (Path.absoluteFrom host.workDirText path)
  else .error .notFound

/-- A regular file of exactly this name. An absolute name is looked up once, a relative one in each
directory. -/
def findExact (host : Host) (name : String) (directories : List String) :
    Except Host.Fault (Option String) :=
  if Path.isAbsolute name then .ok (if host.isFile name then some name else none)
  else
    match directories.find? (fun directory => host.isFile (Path.join directory name)) with
    | some directory => (absolute host (Path.join directory name)).map some
    | none => .ok none

def isWild (c : Char) : Bool := c = '*' || c = '?' || c = '['

/-- A name without wild characters is a fragment of a file name. -/
def patternOf (name : String) : String :=
  if name.toList.any isWild then name else "*" ++ name ++ "*"

def isHidden (name : String) : Bool := name.toList.head? = some '.'

/-- The names in one directory that fit, in order. A directory that cannot be read has none. -/
def fitting (host : Host) (glob : Glob) (hidden : Bool) (directory : String) : List String :=
  match host.namesIn directory with
  | .error _ => []
  | .ok names =>
    (names.filter (fun name => (hidden || !isHidden name) && glob.fits name)).mergeSort
      (fun a b => decide (a ≤ b))

def candidates (host : Host) (glob : Glob) (hidden : Bool) (directories : List String) :
    List String :=
  directories.flatMap (fun directory =>
    (fitting host glob hidden directory).map (Path.join directory))

def accessTime (host : Host) (path : String) : Int :=
  match host.entry? path with
  | .ok (_, node) => node.accessed
  | .error _ => 0

/-- The last of those with the greatest access time. -/
def latest? (host : Host) : List String → Option String
  | [] => none
  | path :: rest =>
    match latest? host rest with
    | none => some path
    | some later =>
      if accessTime host later < accessTime host path then some path else some later

def find (host : Host) (name : String) (directories : List String) : Except Error String :=
  match findExact host name directories with
  | .error fault => .error (.io fault)
  | .ok (some path) => .ok path
  | .ok none =>
    let pattern := patternOf name
    match Glob.parse pattern with
    | .error fault => .error (.invalidPattern (pattern ++ ": " ++ fault.message pattern))
    | .ok glob =>
      match (candidates host glob (isHidden pattern) directories).mapM (absolute host) with
      | .error fault => .error (.io fault)
      | .ok paths =>
        match latest? host paths with
        | some path => .ok path
        | none => .error (.connectionFileNotFound name directories)

end Mooring.Search
