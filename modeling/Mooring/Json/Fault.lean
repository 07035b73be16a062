import Mooring.Json.Printer
import Mooring.Text.Quoted

/-! Why a JSON text is refused. The first fault in the order of the text decides. -/

namespace Mooring.Json

/-- A text is malformed, ends inside a value, or holds a value that its place does not take. -/
inductive Fault
  | malformed
  | truncated
  | rejected (message : String)
  deriving DecidableEq, Repr, Inhabited

namespace Fault

def missingField (name : String) : Fault := .rejected ("missing field `" ++ name ++ "`")

def duplicateField (name : String) : Fault := .rejected ("duplicate field `" ++ name ++ "`")

def invalidType (found wanted : String) : Fault :=
  .rejected ("invalid type: " ++ found ++ ", expected " ++ wanted)

def invalidValue (found wanted : String) : Fault :=
  .rejected ("invalid value: " ++ found ++ ", expected " ++ wanted)

def invalidLength (length : Nat) (wanted : String) : Fault :=
  .rejected ("invalid length " ++ toString length ++ ", expected " ++ wanted)

end Fault

def Number.description (n : Number) : String :=
  match n with
  | .float value => "floating point `" ++ String.ofList value.chars ++ "`"
  | whole => "integer `" ++ String.ofList whole.chars ++ "`"

def booleanDescription (value : Bool) : String :=
  if value then "boolean `true`" else "boolean `false`"

def textDescription (text : String) : String := "string " ++ Text.quoted text

def Value.description : Value → String
  | .null => "null"
  | .boolean value => booleanDescription value
  | .number n => n.description
  | .text s => textDescription s
  | .list _ => "sequence"
  | .object _ => "map"

end Mooring.Json
