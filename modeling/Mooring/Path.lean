/-! Paths as text. Components stand between slashes; empty components and a dot behind the first
place say nothing. These functions look at the text only and never at a file system. -/

namespace Mooring.Path

/-- The text between slashes, with empty pieces. -/
def pieces : List Char → List (List Char)
  | [] => [[]]
  | c :: rest =>
    if c = '/' then [] :: pieces rest
    else
      match pieces rest with
      | [] => [[c]]
      | piece :: more => (c :: piece) :: more

def joinPieces : List (List Char) → List Char
  | [] => []
  | [piece] => piece
  | piece :: rest => piece ++ '/' :: joinPieces rest

def isIdle (piece : List Char) : Bool := piece.isEmpty || piece = ['.']

def isUp (piece : List Char) : Bool := piece = ['.', '.']

def isAbsolute (path : String) : Bool :=
  match path.toList with
  | '/' :: _ => true
  | _ => false

def endsWithSlash (path : String) : Bool := path.toList.getLast? = some '/'

/-- The names to walk through, with a dot at the end when the path ends in a slash. -/
def names (path : String) : List String :=
  let found := ((pieces path.toList).filter (fun piece => !piece.isEmpty)).map String.ofList
  if endsWithSlash path && !found.isEmpty then found ++ ["."] else found

def join (base path : String) : String :=
  if isAbsolute path then path
  else if base.isEmpty || endsWithSlash base then base ++ path
  else base ++ "/" ++ path

def dropIdle : List (List Char) → List (List Char)
  | [] => []
  | [first] => [first]
  | piece :: next :: rest => if isIdle piece then dropIdle (next :: rest) else piece :: next :: rest

def reversedPieces (path : String) : List (List Char) := dropIdle (pieces path.toList).reverse

def textOf (reversed : List (List Char)) : String :=
  match reversed with
  | [[]] => "/"
  | _ => String.ofList (joinPieces reversed.reverse)

def parent? (path : String) : Option String :=
  match reversedPieces path with
  | [] => none
  | [[]] => none
  | [_] => some ""
  | _ :: rest => some (textOf (dropIdle rest))

def fileName? (path : String) : Option String :=
  match reversedPieces path with
  | [] => none
  | piece :: _ => if isIdle piece || isUp piece then none else some (String.ofList piece)

/-- A name in front of and behind its last dot. A name with no dot but the first has one part. -/
def splitExtension (name : List Char) : List Char × Option (List Char) :=
  let extension := (name.reverse.takeWhile (· ≠ '.')).reverse
  let stem := name.take (name.length - extension.length - 1)
  if stem.isEmpty then (name, none) else (stem, some extension)

def stemOnly (path : String) : String :=
  match reversedPieces path with
  | [] => path
  | piece :: rest =>
    if isIdle piece || isUp piece then path
    else textOf ((splitExtension piece).1 :: rest)

/-- Takes the extension off the last component. The text loses as many characters as the extension
has, and then what follows the stem of the component that is the last now. -/
def withoutExtension (path : String) : String :=
  match reversedPieces path with
  | [] => path
  | piece :: _ =>
    if isIdle piece || isUp piece then path
    else
      match (splitExtension piece).2 with
      | none => stemOnly path
      | some extension =>
        let text := path.toList
        stemOnly (String.ofList (text.take (text.length - extension.length)))

/-- The path seen from a working directory, without pieces that say nothing. Two slashes at the
front stay, and so does a slash at the end. -/
def absoluteFrom (workDir path : String) : String :=
  let text := path.toList
  let meaningful := ((pieces text).filter (fun piece => !isIdle piece)).map String.ofList
  let doubled := text.take 2 = ['/', '/'] ∧ text.take 3 ≠ ['/', '/', '/']
  let base := if isAbsolute path then (if doubled then "//" else "/") else workDir
  let joined := meaningful.foldl join base
  if endsWithSlash path then join joined "" else joined

end Mooring.Path
