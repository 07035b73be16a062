/-! The letters and digits of ASCII, for the formats that know no others. -/

namespace Mooring.Text

def isAsciiUpper (c : Char) : Bool := decide ('A' ≤ c) && decide (c ≤ 'Z')

/-- Letters outside ASCII stay as they are. -/
def asciiLower (c : Char) : Char := if isAsciiUpper c then Char.ofNat (c.toNat + 32) else c

def lowerAscii (text : String) : String := String.ofList (text.toList.map asciiLower)

def digit? (c : Char) : Option Nat :=
  if '0' ≤ c ∧ c ≤ '9' then some (c.toNat - '0'.toNat) else none

def isDigit (c : Char) : Bool := (digit? c).isSome

def hexDigit? (c : Char) : Option Nat :=
  if '0' ≤ c ∧ c ≤ '9' then some (c.toNat - '0'.toNat)
  else if 'a' ≤ c ∧ c ≤ 'f' then some (c.toNat - 'a'.toNat + 10)
  else if 'A' ≤ c ∧ c ≤ 'F' then some (c.toNat - 'A'.toNat + 10)
  else none

def isAlphanumeric (c : Char) : Bool :=
  isDigit c || isAsciiUpper c || (decide ('a' ≤ c) && decide (c ≤ 'z'))

def valueOfDigits (digits : List Nat) : Nat := digits.foldl (fun value d => value * 10 + d) 0

def natural? (text : List Char) : Option Nat :=
  let digits := match text with
    | '+' :: rest => rest
    | _ => text
  if digits.isEmpty then none else (digits.mapM digit?).map valueOfDigits

def hexText (n : Nat) : String := String.ofList (Nat.toDigits 16 n)

def octalText (n : Nat) : String := String.ofList (Nat.toDigits 8 n)

def padZeros (width : Nat) (text : String) : String :=
  String.ofList (List.replicate (width - text.length) '0') ++ text

end Mooring.Text
