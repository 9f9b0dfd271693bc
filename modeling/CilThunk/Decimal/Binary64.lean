/-!
# Binary floating-point numbers of 64 bits

A number is its sign, a significand below 2⁵³ and a power of two, beside the infinities and what is no number.  A
decimal is rounded to the nearest such number, and to the even one of two that are equally near; from half a step past
the largest number on it becomes infinite.  All of it is exact arithmetic on natural numbers.
-/
namespace CilThunk

inductive Binary64
  | nan
  | infinite (negative : Bool)
  /-- `significand · 2 ^ exponent`, with a sign of its own so that zero has two. -/
  | finite (negative : Bool) (significand : Nat) (exponent : Int)
  deriving DecidableEq, Repr

namespace Binary64

def minExponent : Int := -1074

def maxExponent : Int := 971

/-- The integer nearest to a quotient, the even one of two. -/
def roundHalfEven (num den : Nat) : Nat :=
  let q := num / den
  let r := num % den
  if 2 * r < den then q
  else if den < 2 * r then q + 1
  else q + q % 2

/-- `num / den / 2 ^ e` as a quotient of naturals. -/
def scale (num den : Nat) (e : Int) : Nat × Nat :=
  match e with
  | .ofNat k => (num, den * Nat.pow 2 k)
  | .negSucc k => (num * Nat.pow 2 (k + 1), den)

/-- The exponent at which a quotient has a significand of 53 bits, or the least one. -/
def exponentOf (num den : Nat) : Int :=
  let guess : Int := (num.log2 : Int) - den.log2 - 52
  let (n, d) := scale num den guess
  max minExponent (if n / d < Nat.pow 2 52 then guess - 1 else guess)

/-- The number nearest to a positive quotient. -/
def ofQuotient (negative : Bool) (num den : Nat) : Binary64 :=
  let e := exponentOf num den
  let (n, d) := scale num den e
  let m := roundHalfEven n d
  let (m, e) := if m = Nat.pow 2 53 then (Nat.pow 2 52, e + 1) else (m, e)
  if maxExponent < e then infinite negative else finite negative m e

/-- The number nearest to `digits · 10 ^ exponent`.  What is clearly too large or too small is told by the number of
digits before any power is taken. -/
def ofDecimal (negative : Bool) (digits : Nat) (exponent : Int) : Binary64 :=
  let magnitude : Int := (Nat.toDigits 10 digits).length + exponent
  if digits = 0 ∨ magnitude < -330 then finite negative 0 minExponent
  else if 330 < magnitude then infinite negative
  else
    match exponent with
    | .ofNat k => ofQuotient negative (digits * Nat.pow 10 k) 1
    | .negSucc k => ofQuotient negative digits (Nat.pow 10 (k + 1))

end Binary64
end CilThunk
