import Mooring.Text.Ascii

/-! Fresh names made of random bits. -/

namespace Mooring.Host

def uuidVariants : List Char := ['8', '9', 'a', 'b']

def uuidDigitValues : Nat := Nat.pow 16 30

/-- A version 4 UUID, which holds 122 bits. -/
def uuidText (bits : Nat) : String :=
  let digits := (Text.padZeros 30 (Text.hexText (bits % uuidDigitValues))).toList
  let group (start count : Nat) : List Char := (digits.drop start).take count
  let variant := uuidVariants.getD (bits / uuidDigitValues % 4) '8'
  String.ofList
    (group 0 8 ++ '-' :: group 8 4 ++ '-' :: '4' :: group 12 3 ++ '-' :: variant :: group 15 3
      ++ '-' :: group 18 12)

def letterAt (n : Nat) : Char := Char.ofNat ('a'.toNat + n % 26)

def tempNameText (bits : Nat) : String :=
  String.ofList ([5, 4, 3, 2, 1, 0].map (fun place => letterAt (bits / Nat.pow 26 place)))

end Mooring.Host
