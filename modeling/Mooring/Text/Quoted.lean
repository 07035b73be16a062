import Mooring.Text.Ascii
import Mooring.Text.Unprintable

/-! Text between double quotes, as inspection output shows it: a quote and a backslash are escaped,
the usual control characters have their letters, and what cannot be shown is written as its code
point in hexadecimal. -/

namespace Mooring.Text

def escaped (c : Char) : List Char :=
  if c = '"' then ['\\', '"']
  else if c = '\\' then ['\\', '\\']
  else if c = '\n' then ['\\', 'n']
  else if c = '\r' then ['\\', 'r']
  else if c = '\t' then ['\\', 't']
  else if c = Char.ofNat 0 then ['\\', '0']
  else if isUnprintable c then
    ['\\', 'u', Char.ofNat 0x7B] ++ Nat.toDigits 16 c.toNat ++ [Char.ofNat 0x7D]
  else [c]

def quoted (text : String) : String :=
  String.ofList ('"' :: text.toList.flatMap escaped ++ ['"'])

def escapedInPath (c : Char) : List Char := if c = '\'' then ['\\', '\''] else escaped c

def quotedPath (path : String) : String :=
  String.ofList ('"' :: path.toList.flatMap escapedInPath ++ ['"'])

def quotedPaths (paths : List String) : String :=
  "[" ++ String.intercalate ", " (paths.map quotedPath) ++ "]"

/-- The inspection text of a record: a name and its fields, `open_` when it hides some. -/
def record (name : String) (fields : List (String × String)) (open_ : Bool) : String :=
  let shown := fields.map (fun field => field.1 ++ ": " ++ field.2)
  let body := String.intercalate ", " (if open_ then shown ++ [".."] else shown)
  name ++ " \x7b " ++ body ++ " \x7d"

def optional (value : Option String) : String :=
  match value with
  | some text => "Some(" ++ text ++ ")"
  | none => "None"

end Mooring.Text
