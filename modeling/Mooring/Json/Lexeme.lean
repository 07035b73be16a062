import Mooring.Json.Fault
import Mooring.Text.Utf8

/-! The smallest parts of a JSON text: blanks, words, numbers and the inside of strings. A string
can be read, or passed over: passing over checks only that each escape has its shape. -/

namespace Mooring.Json

abbrev Reader (α : Type) := List Char → Except Fault (α × List Char)

def isBlank (c : Char) : Bool := c = ' ' || c = '\n' || c = '\r' || c = '\t'

def skipBlank (text : List Char) : List Char := text.dropWhile isBlank

def readWord : List Char → List Char → Except Fault (List Char)
  | [], text => .ok text
  | _ :: _, [] => .error .truncated
  | letter :: word, c :: text => if c = letter then readWord word text else .error .malformed

/-- The parts of a number as written. -/
structure NumberText where
  negative : Bool
  whole : List Nat
  fraction : List Nat
  exponent : Option (Bool × List Nat)
  deriving Repr

def takeDigits : List Char → List Nat × List Char
  | [] => ([], [])
  | c :: rest =>
    match Text.digit? c with
    | some d => let more := takeDigits rest; (d :: more.1, more.2)
    | none => ([], c :: rest)

def digitFault : List Char → Fault
  | [] => .truncated
  | _ :: _ => .malformed

def readWhole (text : List Char) : Except Fault (List Nat × List Char) :=
  match takeDigits text with
  | ([], rest) => .error (digitFault rest)
  | (0 :: _ :: _, _) => .error .malformed
  | (digits, rest) => .ok (digits, rest)

def readFraction : Reader (List Nat)
  | '.' :: rest =>
    match takeDigits rest with
    | ([], rest) => .error (digitFault rest)
    | (digits, rest) => .ok (digits, rest)
  | text => .ok ([], text)

def isExponentMark (c : Char) : Bool := c = 'e' || c = 'E'

def readExponent : Reader (Option (Bool × List Nat))
  | [] => .ok (none, [])
  | c :: rest =>
    if isExponentMark c then
      let (negative, rest) := match rest with
        | '-' :: more => (true, more)
        | '+' :: more => (false, more)
        | other => (false, other)
      match takeDigits rest with
      | ([], rest) => .error (digitFault rest)
      | (digits, rest) => .ok (some (negative, digits), rest)
    else .ok (none, c :: rest)

def readNumberText (text : List Char) : Except Fault (NumberText × List Char) :=
  let (negative, rest) := match text with
    | '-' :: more => (true, more)
    | other => (false, other)
  match readWhole rest with
  | .error fault => .error fault
  | .ok (whole, rest) =>
    match readFraction rest with
    | .error fault => .error fault
    | .ok (fraction, rest) =>
      match readExponent rest with
      | .error fault => .error fault
      | .ok (exponent, rest) => .ok (⟨negative, whole, fraction, exponent⟩, rest)

def wordLimit : Nat := UInt64.size

/-- Appends digits to a number while it stays below 2⁶⁴; also tells how many were not taken. -/
def gather (value : Nat) : List Nat → Nat × Nat
  | [] => (value, 0)
  | d :: rest =>
    if value * 10 + d < wordLimit then gather (value * 10 + d) rest else (value, rest.length + 1)

def exponentLimit : Nat := 0x80000000

def negativeLimit : Nat := 0x8000000000000000

/-- The value of a number, `none` when it is too great. A whole number without fraction and
exponent is exact as far as 64 bits hold it, but a negative zero is a binary value. -/
def NumberText.value? (number : NumberText) : Option Number :=
  let (leading, wholeLeft) := gather 0 number.whole
  if wholeLeft = 0 ∧ number.fraction.isEmpty ∧ number.exponent.isNone then
    if ¬ number.negative then some (.natural leading)
    else if 0 < leading ∧ leading ≤ negativeLimit then some (.negative leading)
    else (Decimal.Binary64.ofDecimal true leading 0).map .float
  else
    let (significand, fractionLeft) := gather leading number.fraction
    let scale : Int := (wholeLeft : Int) - ((number.fraction.length : Int) - fractionLeft)
    match number.exponent with
    | none => (Decimal.Binary64.ofDecimal number.negative significand scale).map .float
    | some (negative, digits) =>
      let exponent := Text.valueOfDigits digits
      if exponentLimit ≤ exponent then
        if significand ≠ 0 ∧ ¬ negative then none
        else some (.float (.zero number.negative))
      else
        (Decimal.Binary64.ofDecimal number.negative significand
          (if negative then scale - exponent else scale + exponent)).map .float

def readNumber (text : List Char) : Except Fault (Number × List Char) :=
  match readNumberText text with
  | .error fault => .error fault
  | .ok (number, rest) =>
    match number.value? with
    | some value => .ok (value, rest)
    | none => .error .malformed

/-- A number that is passed over has only to be well formed; a text that ends inside it counts as
malformed. -/
def skipNumber (text : List Char) : Except Fault (List Char) :=
  match readNumberText text with
  | .error _ => .error .malformed
  | .ok (_, rest) => .ok rest

def simpleEscape? (c : Char) : Option Char :=
  if c = '"' then some '"'
  else if c = '\\' then some '\\'
  else if c = '/' then some '/'
  else if c = 'b' then some (Char.ofNat 8)
  else if c = 'f' then some (Char.ofNat 12)
  else if c = 'n' then some '\n'
  else if c = 'r' then some '\r'
  else if c = 't' then some '\t'
  else none

/-- With fewer than four bytes left a text ends where four digits have to stand. -/
def unitFault (text : List Char) : Fault :=
  if (Utf8.encode (text.take 4)).length < 4 then .truncated else .malformed

def unitOf? (a b c d : Char) : Option Nat :=
  match Text.hexDigit? a, Text.hexDigit? b, Text.hexDigit? c, Text.hexDigit? d with
  | some a, some b, some c, some d => some (((a * 16 + b) * 16 + c) * 16 + d)
  | _, _, _, _ => none

def readUnit (text : List Char) : Except Fault (Nat × List Char) :=
  match text with
  | a :: b :: c :: d :: rest =>
    match unitOf? a b c d with
    | some unit => .ok (unit, rest)
    | none => .error (unitFault text)
  | _ => .error (unitFault text)

def isLeading (unit : Nat) : Bool := decide (0xD800 ≤ unit) && decide (unit < 0xDC00)

def isTrailing (unit : Nat) : Bool := decide (0xDC00 ≤ unit) && decide (unit < 0xE000)

def readTrailing (text : List Char) : Except Fault (Nat × List Char) :=
  match text with
  | [] => .error .truncated
  | '\\' :: [] => .error .truncated
  | '\\' :: 'u' :: rest =>
    match readUnit rest with
    | .error fault => .error fault
    | .ok (unit, rest) => if isTrailing unit then .ok (unit, rest) else .error .malformed
  | _ => .error .malformed

def readEscape (text : List Char) : Except Fault (Char × List Char) :=
  match text with
  | [] => .error .truncated
  | 'u' :: rest =>
    match readUnit rest with
    | .error fault => .error fault
    | .ok (unit, rest) =>
      if isTrailing unit then .error .malformed
      else if isLeading unit then
        match readTrailing rest with
        | .error fault => .error fault
        | .ok (second, rest) =>
          .ok (Char.ofNat (0x10000 + (unit - 0xD800) * 0x400 + (second - 0xDC00)), rest)
      else .ok (Char.ofNat unit, rest)
  | c :: rest =>
    match simpleEscape? c with
    | some meaning => .ok (meaning, rest)
    | none => .error .malformed

def skipEscape (text : List Char) : Except Fault (List Char) :=
  match text with
  | [] => .error .truncated
  | 'u' :: rest =>
    match readUnit rest with
    | .error fault => .error fault
    | .ok (_, rest) => .ok rest
  | c :: rest => if (simpleEscape? c).isSome then .ok rest else .error .malformed

theorem readUnit_length {text rest : List Char} {unit : Nat}
    (h : readUnit text = .ok (unit, rest)) : rest.length < text.length := by
  unfold readUnit at h
  split at h
  · split at h
    · cases h
      simp only [List.length_cons]
      omega
    · cases h
  · cases h

theorem readTrailing_length {text rest : List Char} {unit : Nat}
    (h : readTrailing text = .ok (unit, rest)) : rest.length < text.length := by
  unfold readTrailing at h
  split at h
  · cases h
  · cases h
  · split at h
    · cases h
    · rename_i found
      split at h
      · cases h
        have := readUnit_length found
        simp only [List.length_cons]
        omega
      · cases h
  · cases h

theorem readEscape_length {text rest : List Char} {c : Char}
    (h : readEscape text = .ok (c, rest)) : rest.length < text.length := by
  unfold readEscape at h
  split at h
  · cases h
  · split at h
    · cases h
    · rename_i found
      have first := readUnit_length found
      split at h
      · cases h
      · split at h
        · split at h
          · cases h
          · rename_i second
            simp only [Except.ok.injEq, Prod.mk.injEq] at h
            have := readTrailing_length second
            simp only [List.length_cons, ← h.2]
            omega
        · simp only [Except.ok.injEq, Prod.mk.injEq] at h
          simp only [List.length_cons, ← h.2]
          omega
  · split at h
    · cases h
      simp
    · cases h

theorem skipEscape_length {text rest : List Char}
    (h : skipEscape text = .ok rest) : rest.length < text.length := by
  unfold skipEscape at h
  split at h
  · cases h
  · split at h
    · cases h
    · rename_i found
      cases h
      have := readUnit_length found
      simp only [List.length_cons]
      omega
  · split at h
    · cases h
      simp
    · cases h

def readBody (text : List Char) : Except Fault (List Char × List Char) :=
  match text with
  | [] => .error .truncated
  | '"' :: rest => .ok ([], rest)
  | '\\' :: rest =>
    match _read : readEscape rest with
    | .error fault => .error fault
    | .ok (c, more) =>
      match readBody more with
      | .error fault => .error fault
      | .ok (body, left) => .ok (c :: body, left)
  | c :: rest =>
    if c.toNat < 0x20 then .error .malformed
    else
      match readBody rest with
      | .error fault => .error fault
      | .ok (body, left) => .ok (c :: body, left)
  termination_by text.length
  decreasing_by
    · have := readEscape_length _read
      simp only [List.length_cons]
      omega
    · simp

def skipBody (text : List Char) : Except Fault (List Char) :=
  match text with
  | [] => .error .truncated
  | '"' :: rest => .ok rest
  | '\\' :: rest =>
    match _read : skipEscape rest with
    | .error fault => .error fault
    | .ok more => skipBody more
  | c :: rest => if c.toNat < 0x20 then .error .malformed else skipBody rest
  termination_by text.length
  decreasing_by
    · have := skipEscape_length _read
      simp only [List.length_cons]
      omega
    · simp

end Mooring.Json
