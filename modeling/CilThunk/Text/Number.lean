/-!
# Numbers as text

The spellings that messages and listings use: decimal, decimal with its sign always shown, and lower-case hexadecimal,
the last two forms padded with zeros on the left.  A number wider than its padding is written in full.
-/
namespace CilThunk
namespace Text

def decimal (n : Nat) : String := String.ofList (Nat.toDigits 10 n)

/-- Decimal, at least `width` digits. -/
def decimalPadded (width n : Nat) : String := String.ofList ((Nat.toDigits 10 n).leftpad width '0')

/-- Hexadecimal without a mark in front, at least `width` digits. -/
def hexPadded (width n : Nat) : String := String.ofList ((Nat.toDigits 16 n).leftpad width '0')

/-- Hexadecimal behind `0x`, at least `width` digits. -/
def hexMarked (width n : Nat) : String := "0x" ++ hexPadded width n

/-- Decimal with a minus sign below zero. -/
def integer : Int → String
  | .ofNat n => decimal n
  | .negSucc n => "-" ++ decimal (n + 1)

/-- Decimal with a sign in front always; zero counts as positive. -/
def signed : Int → String
  | .ofNat n => "+" ++ decimal n
  | .negSucc n => "-" ++ decimal (n + 1)

def hexByte (b : UInt8) : String := hexPadded 2 b.toNat

end Text
end CilThunk
