import Mooring.Json.Printer

/-! JSON for readers that know ASCII only. All objects have their members sorted by name, and every
other character is written by its UTF-16 units. -/

namespace Mooring.Json

def unitEscape (unit : Nat) : List Char := '\\' :: 'u' :: (Text.padZeros 4 (Text.hexText unit)).toList

/-- A character beyond 16 bits takes two units. -/
def asciiOnly (c : Char) : List Char :=
  if c.toNat < 0x80 then [c]
  else if c.toNat < 0x10000 then unitEscape c.toNat
  else
    let code := c.toNat - 0x10000
    unitEscape (0xD800 + code / 0x400) ++ unitEscape (0xDC00 + code % 0x400)

namespace Value

mutual
def sorted : Value → Value
  | .list items => .list (sortedItems items)
  | .object members => sortedObject (sortedMembers members)
  | other => other

def sortedItems : List Value → List Value
  | [] => []
  | item :: rest => item.sorted :: sortedItems rest

def sortedMembers : List (String × Value) → List (String × Value)
  | [] => []
  | (name, value) :: rest => (name, value.sorted) :: sortedMembers rest
end

def ascii (value : Value) : String := String.ofList (value.sorted.chars.flatMap asciiOnly)

end Value
end Mooring.Json
