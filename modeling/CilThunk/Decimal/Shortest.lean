import CilThunk.Decimal.Binary64
import CilThunk.Text.Number
/-!
# The shortest decimal of a binary number

The decimals that round to a number form an interval around it, half a step wide on each side (a quarter below a power
of two, where the steps change), with its ends exactly if the significand is even.  Among all decimals in it the
shortest has the fewest digits, and of those it is the nearest to the number; of two that are equally near it is the
greater.  A number of `n` digits in the interval has one of the number's two neighbours on that grid in it too, so only
those are tried, for one digit, two digits and so on; seventeen are always enough.
-/
namespace CilThunk
namespace Binary64

/-- A decimal `digits · 10 ^ exponent`. -/
structure Decimal where
  digits : Nat
  exponent : Int
  deriving DecidableEq, Repr

/-- `x · 2 ^ e / 10 ^ p` as a quotient of naturals, with a denominator that does not depend on `x`. -/
def overGrid (e p : Int) (x : Nat) : Nat × Nat :=
  (x * Nat.pow 2 e.toNat * Nat.pow 10 (-p).toNat, Nat.pow 2 (-e).toNat * Nat.pow 10 p.toNat)

/-- The least `k` with `significand · 2 ^ exponent < 10 ^ k`, for a positive number. -/
def decimalMagnitude (significand : Nat) (exponent : Int) : Int :=
  let below (k : Int) : Bool :=
    let (n, d) := overGrid exponent k significand
    n < d
  match (List.range 660).find? (fun i : Nat => below ((i : Int) - 330)) with
  | some i => (i : Int) - 330
  | none => 330

/-- The neighbour of a positive number that rounds to it, on the grid of decimals with `n` digits.  The upper one may
be the power of ten that ends the grid, which has one digit. -/
def onGrid? (significand : Nat) (exponent : Int) (magnitude : Int) (n : Nat) : Option Decimal :=
  let p := magnitude - n
  let e := exponent - 2
  let quarterBelow := significand = Nat.pow 2 52 ∧ minExponent < exponent
  let (value, unit) := overGrid e p (4 * significand)
  let (low, _) := overGrid e p (if quarterBelow then 4 * significand - 1 else 4 * significand - 2)
  let (high, _) := overGrid e p (4 * significand + 2)
  let lower := value / unit
  let upper := lower + 1
  let isEven := significand % 2 = 0
  let lowerFits := if isEven then low ≤ lower * unit else low < lower * unit
  let upperFits := if isEven then upper * unit ≤ high else upper * unit < high
  if lowerFits ∧ (¬ upperFits ∨ value - lower * unit < upper * unit - value) then some ⟨lower, p⟩
  else if upperFits then some (if upper = Nat.pow 10 n then ⟨Nat.pow 10 (n - 1), p + 1⟩ else ⟨upper, p⟩)
  else none

/-- The shortest decimal that rounds to a positive number. -/
def shortest (significand : Nat) (exponent : Int) : Decimal :=
  let magnitude := decimalMagnitude significand exponent
  ((List.range 17).findSome? (fun i => onGrid? significand exponent magnitude (i + 1))).getD ⟨0, 0⟩

/-- A decimal in positional notation, with a point and a digit behind it in any case. -/
def Decimal.positional (d : Decimal) : String :=
  let digits := Nat.toDigits 10 d.digits
  match d.exponent with
  | .ofNat k => String.ofList (digits ++ List.replicate k '0' ++ ['.', '0'])
  | .negSucc k =>
    let padded := digits.leftpad (k + 2) '0'
    String.ofList (padded.take (padded.length - (k + 1)) ++ '.' :: padded.drop (padded.length - (k + 1)))

/-- The text of a number: its shortest decimal, never with an exponent. -/
def text : Binary64 → String
  | nan => "NaN"
  | infinite negative => if negative then "-inf" else "inf"
  | finite negative m e =>
    (if negative then "-" else "") ++ if m = 0 then "0.0" else (shortest m e).positional

end Binary64
end CilThunk
