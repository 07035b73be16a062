import Mooring.Host.Files

/-! Arranging files from outside: what users and other programs do to the files of a host. -/

namespace Mooring.Host

/-- Writes a file with all directories above it. A file that is there keeps its mode. -/
def putFile (host : Host) (path : String) (content : Bytes) (accessed : Int) :
    Except Fault Unit × Host :=
  match host.createDirectories ((Path.parent? path).getD "") with
  | (.error fault, host) => (.error fault, host)
  | (.ok (), host) =>
    match host.find true path with
    | .error fault => (.error fault, host)
    | .ok (.taken _ (.directory ..)) => (.error .isDirectory, host)
    | .ok (.taken place node) => (.ok (), host.withNode place (.file content node.mode accessed))
    | .ok (.vacant directory name) =>
      if Path.endsWithSlash path then (.error .isDirectory, host)
      else (.ok (), host.withNode (directory ++ [name]) (.file content 0o644 accessed))

def touch (host : Host) (path : String) (accessed : Int) : Except Fault Unit × Host :=
  match host.entry? path with
  | .error fault => (.error fault, host)
  | .ok (place, node) => (.ok (), host.withNode place (node.withAccessed accessed))

def changeMode (host : Host) (path : String) (mode : Nat) : Except Fault Unit × Host :=
  match host.entry? path with
  | .error fault => (.error fault, host)
  | .ok (place, node) => (.ok (), host.withNode place (node.withMode mode))

def putLink (host : Host) (path target : String) : Except Fault Unit × Host :=
  match host.files.findParent host.workDir path with
  | .error fault => (.error fault, host)
  | .ok (_, none, _) => (.error .exists_, host)
  | .ok (directory, some name, _) =>
    if (host.files.nodeAt (directory ++ [name])).isSome then (.error .exists_, host)
    else (.ok (), host.withNode (directory ++ [name]) (.link target))

def removeAll (host : Host) (path : String) : Except Fault Unit × Host :=
  match host.linkEntry? path with
  | .error fault => (.error fault, host)
  | .ok (place, _) => (.ok (), { host with files := host.files.removeTree place })

def enter (host : Host) (path : String) : Except Fault Unit × Host :=
  match host.entry? path with
  | .error fault => (.error fault, host)
  | .ok (place, .directory ..) => (.ok (), { host with workDir := place })
  | .ok _ => (.error .notDirectory, host)

end Mooring.Host
