import Mooring.Text.Ascii

/-! Internet addresses: their textual forms as read, and the one canonical form as written. -/

namespace Mooring.Host

inductive Address
  | v4 (octets : Vector UInt8 4)
  | v6 (groups : Vector UInt16 8)
  deriving DecidableEq, Repr

namespace Address

def takeDigits (base : Nat) : List Char → List Nat × List Char
  | [] => ([], [])
  | c :: rest =>
    match (Text.hexDigit? c).filter (· < base) with
    | some d => let more := takeDigits base rest; (d :: more.1, more.2)
    | none => ([], c :: rest)

def valueIn (base : Nat) (digits : List Nat) : Nat := digits.foldl (fun value d => value * base + d) 0

def readOctet (text : List Char) : Option (UInt8 × List Char) :=
  let (digits, rest) := takeDigits 10 text
  if digits.isEmpty || decide (3 < digits.length) then none
  else if digits.head? = some 0 && decide (1 < digits.length) then none
  else if valueIn 10 digits < 256 then some (UInt8.ofNat (valueIn 10 digits), rest)
  else none

def readGroup (text : List Char) : Option (UInt16 × List Char) :=
  let (digits, rest) := takeDigits 16 text
  if digits.isEmpty || decide (4 < digits.length) then none
  else some (UInt16.ofNat (valueIn 16 digits), rest)

def readSeparator (separator : Char) (first : Bool) (text : List Char) : Option (List Char) :=
  if first then some text
  else
    match text with
    | c :: rest => if c = separator then some rest else none
    | [] => none

def readOctets : Nat → Bool → List Char → Option (List UInt8 × List Char)
  | 0, _, text => some ([], text)
  | count + 1, first, text => do
    let text ← readSeparator '.' first text
    let (octet, text) ← readOctet text
    let (octets, text) ← readOctets count false text
    return (octet :: octets, text)

def readV4 (text : List Char) : Option (List UInt8 × List Char) := readOctets 4 true text

def joinOctets (high low : UInt8) : UInt16 := UInt16.ofNat (high.toNat * 256 + low.toNat)

def readTail (first : Bool) (text : List Char) : Option (List UInt16 × List Char) := do
  let text ← readSeparator ':' first text
  match ← readV4 text with
  | ([a, b, c, d], text) => some ([joinOctets a b, joinOctets c d], text)
  | _ => none

/-- As many groups as stand here, `limit` at most, and whether they end in octets. -/
def readGroups : Nat → Bool → List Char → List UInt16 × Bool × List Char
  | 0, _, text => ([], false, text)
  | limit + 1, first, text =>
    match if limit = 0 then none else readTail first text with
    | some (groups, text) => (groups, true, text)
    | none =>
      match (readSeparator ':' first text).bind readGroup with
      | some (group, text) =>
        let (groups, octets, text) := readGroups limit false text
        (group :: groups, octets, text)
      | none => ([], false, text)

def ofGroups (groups : List UInt16) : Address := .v6 (Vector.ofFn (fun i => groups.getD i 0))

def ofOctets (octets : List UInt8) : Address := .v4 (Vector.ofFn (fun i => octets.getD i 0))

def readV6 (text : List Char) : Option (List UInt16 × List Char) :=
  let (head, octets, rest) := readGroups 8 true text
  if head.length = 8 then some (head, rest)
  else if octets then none
  else
    match rest with
    | ':' :: ':' :: rest =>
      let (tail, _, rest) := readGroups (7 - head.length) true rest
      some (head ++ List.replicate (8 - head.length - tail.length) 0 ++ tail, rest)
    | _ => none

def parse? (text : String) : Option Address :=
  match readV4 text.toList with
  | some (octets, []) => some (ofOctets octets)
  | some _ => none
  | none =>
    match readV6 text.toList with
    | some (groups, []) => some (ofGroups groups)
    | _ => none

def readOlderNumber (text : List Char) : Option (Nat × List Char) :=
  let found := match text with
    | '0' :: 'x' :: rest => takeDigits 16 rest
    | '0' :: 'X' :: rest => takeDigits 16 rest
    | '0' :: rest => let (digits, rest) := takeDigits 8 rest; (0 :: digits, rest)
    | _ => takeDigits 10 text
  let base := match text with
    | '0' :: 'x' :: _ => 16
    | '0' :: 'X' :: _ => 16
    | '0' :: _ => 8
    | _ => 10
  if found.1.isEmpty then none else some (valueIn base found.1, found.2)

def readOlder : Nat → List Char → Option (List Nat)
  | 0, _ => none
  | count + 1, text => do
    let (value, rest) ← readOlderNumber text
    match rest with
    | [] => some [value]
    | '.' :: rest => return value :: (← readOlder count rest)
    | _ => none

def parseOlder? (text : String) : Option Address := do
  let numbers ← readOlder 4 text.toList
  let last ← numbers.getLast?
  let front := numbers.dropLast
  if front.all (· < 256) ∧ last < Nat.pow 256 (4 - front.length) then
    let value := front.zipIdx.foldl (fun sum part => sum + part.1 * Nat.pow 256 (3 - part.2)) last
    some (ofOctets ([3, 2, 1, 0].map (fun k => UInt8.ofNat (value / Nat.pow 256 k % 256))))
  else none

def dotted (octets : List UInt8) : String :=
  String.intercalate "." (octets.map (fun octet => toString octet.toNat))

def mappedOctets? (groups : List UInt16) : Option (List UInt8) :=
  match groups with
  | [a, b, c, d, e, f, high, low] =>
    if [a, b, c, d, e] = [0, 0, 0, 0, 0] ∧ f = 0xFFFF then
      some ([high, low].flatMap (fun group => [UInt8.ofNat (group.toNat / 256), UInt8.ofNat group.toNat]))
    else none
  | _ => none

def zeroRuns : List UInt16 → List Nat
  | [] => []
  | group :: rest => ((group :: rest).takeWhile (· = 0)).length :: zeroRuns rest

/-- Start and length of the first longest run of zeros. -/
def longestZeros (groups : List UInt16) : Nat × Nat :=
  (zeroRuns groups).zipIdx.foldl
    (fun best run => if best.2 < run.1 then (run.2, run.1) else best) (0, 0)

def grouped (groups : List UInt16) : String :=
  String.intercalate ":" (groups.map (fun group => Text.hexText group.toNat))

/-- A run of at least two zero groups is written as a double colon. -/
def text : Address → String
  | .v4 octets => dotted octets.toList
  | .v6 groups =>
    let groups := groups.toList
    match mappedOctets? groups with
    | some octets => "::ffff:" ++ dotted octets
    | none =>
      let (start, length) := longestZeros groups
      if 1 < length then
        grouped (groups.take start) ++ "::" ++ grouped (groups.drop (start + length))
      else grouped groups

def withPort (address : Address) (port : UInt16) : String :=
  match address with
  | .v4 _ => address.text ++ ":" ++ toString port.toNat
  | .v6 _ => "[" ++ address.text ++ "]:" ++ toString port.toNat

def isLoopback : Address → Bool
  | .v4 octets => octets[0] = 127
  | .v6 groups => groups.toList = [0, 0, 0, 0, 0, 0, 0, 1]

def isUnspecified : Address → Bool
  | .v4 octets => octets.toList = [0, 0, 0, 0]
  | .v6 groups => groups.toList = [0, 0, 0, 0, 0, 0, 0, 0]

end Address
end Mooring.Host
