/-! Bytes and the text that they may hold. `decode` is strict: it takes the shortest form of each
character only, no surrogates, and nothing above U+10FFFF. A fault says how many bytes are good
and, unless the bytes end inside a character, how many bytes the bad sequence has. -/

namespace Mooring

abbrev Bytes := List UInt8

namespace Utf8

structure Fault where
  validUpTo : Nat
  badLength : Option Nat
  deriving DecidableEq, Repr

def Fault.message (fault : Fault) : String :=
  match fault.badLength with
  | some n => "invalid utf-8 sequence of " ++ toString n ++ " bytes from index " ++ toString fault.validUpTo
  | none => "incomplete utf-8 byte sequence from index " ++ toString fault.validUpTo

def encode (text : List Char) : Bytes := text.flatMap String.utf8EncodeChar

def ofString (text : String) : Bytes := encode text.toList

def isTail (b : UInt8) : Bool := decide (0x80 ≤ b) && decide (b ≤ 0xBF)

/-- The second bytes that may follow a first byte of three- and four-byte characters. -/
def isSecond (first second : UInt8) : Bool :=
  if first = 0xE0 then decide (0xA0 ≤ second) && decide (second ≤ 0xBF)
  else if first = 0xED then decide (0x80 ≤ second) && decide (second ≤ 0x9F)
  else if first = 0xF0 then decide (0x90 ≤ second) && decide (second ≤ 0xBF)
  else if first = 0xF4 then decide (0x80 ≤ second) && decide (second ≤ 0x8F)
  else isTail second

def charOf (code : Nat) : Char := Char.ofNat code

def decodeAt : Nat → Bytes → Except Fault (List Char)
  | _, [] => .ok []
  | at_, a :: r1 =>
    if a < 0x80 then
      (decodeAt (at_ + 1) r1).map (charOf a.toNat :: ·)
    else if a < 0xC2 then .error ⟨at_, some 1⟩
    else match r1 with
      | [] => if a < 0xF5 then .error ⟨at_, none⟩ else .error ⟨at_, some 1⟩
      | b :: r2 =>
        if a < 0xE0 then
          if isTail b then
            (decodeAt (at_ + 2) r2).map (charOf ((a.toNat - 0xC0) * 64 + (b.toNat - 0x80)) :: ·)
          else .error ⟨at_, some 1⟩
        else if 0xF5 ≤ a then .error ⟨at_, some 1⟩
        else if ¬ isSecond a b then .error ⟨at_, some 1⟩
        else match r2 with
          | [] => .error ⟨at_, none⟩
          | c :: r3 =>
            if ¬ isTail c then .error ⟨at_, some 2⟩
            else if a < 0xF0 then
              (decodeAt (at_ + 3) r3).map
                (charOf ((a.toNat - 0xE0) * 4096 + (b.toNat - 0x80) * 64 + (c.toNat - 0x80)) :: ·)
            else match r3 with
              | [] => .error ⟨at_, none⟩
              | d :: r4 =>
                if isTail d then
                  (decodeAt (at_ + 4) r4).map
                    (charOf ((a.toNat - 0xF0) * 262144 + (b.toNat - 0x80) * 4096
                      + (c.toNat - 0x80) * 64 + (d.toNat - 0x80)) :: ·)
                else .error ⟨at_, some 3⟩

def decode (bytes : Bytes) : Except Fault (List Char) := decodeAt 0 bytes

def decode? (bytes : Bytes) : Option String :=
  match decode bytes with
  | .ok text => some (String.ofList text)
  | .error _ => none

def replacement : Char := Char.ofNat 0xFFFD

/-- What is no text becomes a replacement character: a byte that starts no character, or as much of a
character as there is in front of a byte that does not belong to it. -/
def lossy : Bytes → List Char
  | [] => []
  | a :: r1 =>
    if a < 0x80 then charOf a.toNat :: lossy r1
    else if a < 0xC2 then replacement :: lossy r1
    else match r1 with
      | [] => [replacement]
      | b :: r2 =>
        if a < 0xE0 then
          if isTail b then charOf ((a.toNat - 0xC0) * 64 + (b.toNat - 0x80)) :: lossy r2
          else replacement :: lossy (b :: r2)
        else if 0xF5 ≤ a then replacement :: lossy (b :: r2)
        else if ¬ isSecond a b then replacement :: lossy (b :: r2)
        else match r2 with
          | [] => [replacement]
          | c :: r3 =>
            if ¬ isTail c then replacement :: lossy (c :: r3)
            else if a < 0xF0 then
              charOf ((a.toNat - 0xE0) * 4096 + (b.toNat - 0x80) * 64 + (c.toNat - 0x80)) :: lossy r3
            else match r3 with
              | [] => [replacement]
              | d :: r4 =>
                if isTail d then
                  charOf ((a.toNat - 0xF0) * 262144 + (b.toNat - 0x80) * 4096
                    + (c.toNat - 0x80) * 64 + (d.toNat - 0x80)) :: lossy r4
                else replacement :: lossy (d :: r4)

end Utf8
end Mooring
