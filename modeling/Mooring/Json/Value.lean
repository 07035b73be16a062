import Mooring.Decimal.Shortest

/-! JSON values. The members of an object stand in the order of their names when the object was
read, and in the order of the writer when it is to be written. -/

namespace Mooring.Json

/-- Whole numbers between -2⁶³ and 2⁶⁴ are exact, all others are binary values. -/
inductive Number
  | natural (n : Nat)
  | negative (n : Nat)
  | float (value : Decimal.Binary64)
  deriving DecidableEq, Repr, Inhabited

def Number.chars : Number → List Char
  | .natural n => Decimal.digitChars n
  | .negative n => '-' :: Decimal.digitChars n
  | .float value => value.chars

inductive Value
  | null
  | boolean (value : Bool)
  | number (value : Number)
  | text (value : String)
  | list (items : List Value)
  | object (members : List (String × Value))
  deriving Inhabited

abbrev Members := List (String × Value)

def Members.get? (members : Members) (name : String) : Option Value :=
  (members.find? (fun member => decide (member.1 = name))).map Prod.snd

def insertByName {α : Type} (name : String) (value : α) : List (String × α) → List (String × α)
  | [] => [(name, value)]
  | row :: rest =>
    if name = row.1 then (name, value) :: rest
    else if name < row.1 then (name, value) :: row :: rest
    else row :: insertByName name value rest

namespace Value

def natural (n : Nat) : Value := .number (.natural n)

def member? : Value → String → Option Value
  | .object members, name => Members.get? members name
  | _, _ => none

def text? : Value → Option String
  | .text value => some value
  | _ => none

def members? : Value → Option Members
  | .object members => some members
  | _ => none

def sortedObject (members : Members) : Value :=
  .object (members.foldl (fun sorted member => insertByName member.1 member.2 sorted) [])

end Value
end Mooring.Json
