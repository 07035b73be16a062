import Std.Data.TreeMap
import Mooring.Path
import Mooring.Text.Utf8
import Mooring.Host.Fault

/-! A tree of files, directories and symbolic links, keyed by the names that lead from the root to
each of them, and the walk along a path. -/

namespace Mooring.Host

/-- The names from the root. -/
abbrev Place := List String

inductive Node
  | file (content : Bytes) (mode : Nat) (accessed : Int)
  | directory (mode : Nat) (accessed : Int)
  | link (target : String)
  deriving DecidableEq, Repr, Inhabited

def Node.isFile : Node → Bool
  | .file .. => true
  | _ => false

def Node.isDirectory : Node → Bool
  | .directory .. => true
  | _ => false

def Node.accessed : Node → Int
  | .file _ _ accessed => accessed
  | .directory _ accessed => accessed
  | .link _ => 0

def Node.withAccessed (accessed : Int) : Node → Node
  | .file content mode _ => .file content mode accessed
  | .directory mode _ => .directory mode accessed
  | .link target => .link target

def Node.mode : Node → Nat
  | .file _ mode _ => mode
  | .directory mode _ => mode
  | .link _ => 0o777

def Node.withMode (mode : Nat) : Node → Node
  | .file content _ accessed => .file content mode accessed
  | .directory _ accessed => .directory mode accessed
  | .link target => .link target

/-- Found by their places in so few steps that a directory may hold as many files as it likes. -/
abbrev FileTree := Std.TreeMap Place Node

/-- Where a walk ends: at an entry, or at a name that is free in its directory. -/
inductive Spot
  | taken (place : Place) (node : Node)
  | vacant (directory : Place) (name : String)
  deriving Repr

namespace FileTree

def ofList (rows : List (Place × Node)) : FileTree := Std.TreeMap.ofList rows

/-- The root needs no row to be a directory. -/
def nodeAt (tree : FileTree) (place : Place) : Option Node :=
  match tree[place]? with
  | some node => some node
  | none => if place.isEmpty then some (.directory 0o755 0) else none

def linkLimit : Nat := 40

def nameLimit : Nat := 255

def pathLimit : Nat := 4096

def byteLength (text : String) : Nat := (Utf8.ofString text).length

/-- Walks from a directory along names, up to the first link that has to be followed: any link on
the way, and one at the end on request. -/
def walkToLink (tree : FileTree) (follow : Bool)
    (atLink : Place → String → List String → Except Fault Spot) (place : Place) :
    List String → Except Fault Spot
  | [] =>
    match tree.nodeAt place with
    | some node => .ok (.taken place node)
    | none => .error .notFound
  | name :: rest =>
    if name = "." then walkToLink tree follow atLink place rest
    else if name = ".." then walkToLink tree follow atLink place.dropLast rest
    else if nameLimit < byteLength name then .error .nameTooLong
    else
      let next := place ++ [name]
      match tree.nodeAt next with
      | none => if rest.isEmpty then .ok (.vacant place name) else .error .notFound
      | some (.file content mode accessed) =>
        if rest.isEmpty then .ok (.taken next (.file content mode accessed))
        else .error .notDirectory
      | some (.directory ..) => walkToLink tree follow atLink next rest
      | some (.link target) =>
        if rest.isEmpty && !follow then .ok (.taken next (.link target))
        else atLink place target rest

/-- Walks from a directory along names and through so many links at most. -/
def walk (tree : FileTree) (follow : Bool) : Nat → Place → List String → Except Fault Spot
  | 0 => tree.walkToLink follow (fun _ _ _ => .error .tooManyLinks)
  | links + 1 => tree.walkToLink follow (fun place target rest =>
    if target.isEmpty then .error .notFound
    else
      walk tree follow links (if Path.isAbsolute target then [] else place)
        (Path.names target ++ rest))

def pathFault? (path : String) : Option Fault :=
  if path.toList.contains (Char.ofNat 0) then some .nulByte
  else if path.isEmpty then some .notFound
  else if pathLimit ≤ byteLength path then some .nameTooLong
  else none

def start (workDir : Place) (path : String) : Place := if Path.isAbsolute path then [] else workDir

def find (tree : FileTree) (workDir : Place) (follow : Bool) (path : String) : Except Fault Spot :=
  match pathFault? path with
  | some fault => .error fault
  | none => walk tree follow linkLimit (start workDir path) (Path.names path)

/-- The directory in which the last name of a path stands, that name, and whether a slash follows
it. No name is given for the root and for a path that ends in dots. -/
def findParent (tree : FileTree) (workDir : Place) (path : String) :
    Except Fault (Place × Option String × Bool) :=
  match pathFault? path with
  | some fault => .error fault
  | none =>
    let slash := Path.endsWithSlash path
    let names := Path.names path
    let names := if slash then names.dropLast else names
    match names.getLast? with
    | none => .ok ([], none, slash)
    | some last =>
      match walk tree true linkLimit (start workDir path) names.dropLast with
      | .error fault => .error fault
      | .ok (.vacant ..) => .error .notFound
      | .ok (.taken place node) =>
        if !node.isDirectory then .error .notDirectory
        else if last = "." || last = ".." then .ok (place, none, slash)
        else if nameLimit < byteLength last then .error .nameTooLong
        else .ok (place, some last, slash)

def namesIn (tree : FileTree) (place : Place) : List String :=
  tree.keys.filterMap (fun key =>
    match key.getLast? with
    | some name => if key.dropLast = place then some name else none
    | none => none)

def isWithin (place key : Place) : Bool := key.take place.length = place

def removeTree (tree : FileTree) (place : Place) : FileTree :=
  tree.filter (fun key _ => !isWithin place key)

end FileTree

def Place.text (place : Place) : String :=
  if place.isEmpty then "/" else String.join (place.map (fun name => "/" ++ name))

end Mooring.Host
