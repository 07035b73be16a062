import Mooring.Json.Value
import Mooring.Text.Ascii

/-! The text of a JSON value, on one line without blanks or on many lines with an indent of two
blanks. Only quotes, backslashes and control characters are escaped. -/

namespace Mooring.Json

def controlEscape (code : Nat) : List Char :=
  ['\\', 'u', '0', '0'] ++ (Text.padZeros 2 (Text.hexText code)).toList

def escaped (c : Char) : List Char :=
  if c = '"' then ['\\', '"']
  else if c = '\\' then ['\\', '\\']
  else if c.toNat = 8 then ['\\', 'b']
  else if c.toNat = 12 then ['\\', 'f']
  else if c = '\n' then ['\\', 'n']
  else if c = '\r' then ['\\', 'r']
  else if c = '\t' then ['\\', 't']
  else if c.toNat < 0x20 then controlEscape c.toNat
  else [c]

def quotedChars (text : List Char) : List Char := '"' :: text.flatMap escaped ++ ['"']

def quoted (text : String) : List Char := quotedChars text.toList

def openBrace : Char := Char.ofNat 0x7B

def closeBrace : Char := Char.ofNat 0x7D

namespace Value

mutual
def chars : Value → List Char
  | .null => ['n', 'u', 'l', 'l']
  | .boolean true => ['t', 'r', 'u', 'e']
  | .boolean false => ['f', 'a', 'l', 's', 'e']
  | .number n => n.chars
  | .text s => quoted s
  | .list items => '[' :: itemsChars true items ++ [']']
  | .object members => openBrace :: membersChars true members ++ [closeBrace]

def itemsChars (first : Bool) : List Value → List Char
  | [] => []
  | item :: rest => (if first then [] else [',']) ++ item.chars ++ itemsChars false rest

def membersChars (first : Bool) : List (String × Value) → List Char
  | [] => []
  | (name, value) :: rest =>
    (if first then [] else [',']) ++ quoted name ++ ':' :: value.chars ++ membersChars false rest
end

def indent (depth : Nat) : List Char := '\n' :: List.replicate (2 * depth) ' '

mutual
/-- `depth` counts the lists and objects around the value. -/
def prettyChars (depth : Nat) : Value → List Char
  | .null => ['n', 'u', 'l', 'l']
  | .boolean true => ['t', 'r', 'u', 'e']
  | .boolean false => ['f', 'a', 'l', 's', 'e']
  | .number n => n.chars
  | .text s => quoted s
  | .list [] => ['[', ']']
  | .list (item :: rest) =>
    '[' :: prettyItems (depth + 1) true (item :: rest) ++ indent depth ++ [']']
  | .object [] => [openBrace, closeBrace]
  | .object (member :: rest) =>
    openBrace :: prettyMembers (depth + 1) true (member :: rest) ++ indent depth ++ [closeBrace]

def prettyItems (depth : Nat) (first : Bool) : List Value → List Char
  | [] => []
  | item :: rest =>
    (if first then [] else [',']) ++ indent depth ++ item.prettyChars depth
      ++ prettyItems depth false rest

def prettyMembers (depth : Nat) (first : Bool) : List (String × Value) → List Char
  | [] => []
  | (name, value) :: rest =>
    (if first then [] else [',']) ++ indent depth ++ quoted name ++ ':' :: ' ' ::
      value.prettyChars depth ++ prettyMembers depth false rest
end

def compact (value : Value) : String := String.ofList value.chars

def pretty (value : Value) : String := String.ofList (value.prettyChars 0)

end Value
end Mooring.Json
