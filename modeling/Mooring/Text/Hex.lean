import Mooring.Text.Ascii
import Mooring.Text.Utf8

/-! Bytes written as pairs of hexadecimal digits. -/

namespace Mooring.Text

def hexPair (b : UInt8) : List Char := (padZeros 2 (hexText b.toNat)).toList

def hexOfBytes (bytes : Bytes) : String := String.ofList (bytes.flatMap hexPair)

/-- A text that is not made of pairs of digits stands for no bytes. -/
def readHexPairs : List Char → Option Bytes
  | [] => some []
  | high :: low :: rest => do
    let high ← hexDigit? high
    let low ← hexDigit? low
    let bytes ← readHexPairs rest
    return UInt8.ofNat (high * 16 + low) :: bytes
  | [_] => none

def bytesOfHex? (text : String) : Option Bytes := readHexPairs text.toList

end Mooring.Text
