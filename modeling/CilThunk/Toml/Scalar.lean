import CilThunk.Toml.Text
/-!
# Numbers, dates and words

Values without parts.  Whether a value that starts like a number is a date or a time is told by the character after its
first digits.  Integers have 64 bits.  A float has a fraction or an exponent; too large a positive one is refused, while
too large a negative one is infinite, and infinity has a name of its own as well.
-/
namespace CilThunk
namespace Toml

/-! ## Digits -/

/-- Digits, with an underscore between two of them where one likes; the first was read before. -/
def moreDigits (isDigit : Char → Bool) (read : List Char) : Reader (List Char)
  | '_' :: c :: rest => if isDigit c then moreDigits isDigit (c :: read) rest else none
  | '_' :: [] => none
  | c :: rest => if isDigit c then moreDigits isDigit (c :: read) rest else some (read.reverse, c :: rest)
  | [] => some (read.reverse, [])

def digits (isDigit : Char → Bool) : Reader (List Char)
  | c :: rest => if isDigit c then moreDigits isDigit [c] rest else none
  | [] => none

def ofDigits (base : Nat) (ds : List Char) : Nat := ds.foldl (fun n c => base * n + hexValue c) 0

def sign : List Char → Bool × List Char
  | '-' :: rest => (true, rest)
  | '+' :: rest => (false, rest)
  | s => (false, s)

/-- The digits of a decimal integer: a lone zero or digits that do not start with it. -/
def decimalDigits : Reader (List Char)
  | '0' :: rest => some (['0'], rest)
  | s => digits Char.isDigit s

/-! ## Numbers -/

def integerOf (i : Int) : Option Value :=
  if -9223372036854775808 ≤ i ∧ i ≤ 9223372036854775807 then some (.integer i) else none

/-- An integer to another base, behind its mark. -/
def basedInteger (base : Nat) (isDigit : Char → Bool) (s : List Char) : Option (Value × List Char) :=
  match digits isDigit s with
  | none => none
  | some (ds, rest) => (integerOf (ofDigits base ds)).map (·, rest)

/-- The exponent of a float, zero if there is none. -/
def exponent : Reader Int
  | c :: rest =>
    if c = 'e' ∨ c = 'E' then
      let (negative, rest) := sign rest
      (digits Char.isDigit rest).map (fun (ds, rest) =>
        (if negative then -(ofDigits 10 ds : Int) else ofDigits 10 ds, rest))
    else some (0, c :: rest)
  | [] => some (0, [])

def floatOf (negative : Bool) (whole fraction : List Char) (exponent : Int) : Option Value :=
  match Binary64.ofDecimal negative (ofDigits 10 (whole ++ fraction)) (exponent - fraction.length) with
  | .infinite false => none
  | x => some (.float x)

/-- What follows the digits before the point makes a float of them, if it can. -/
def numberRest (negative : Bool) (whole : List Char) (s : List Char) : Option (Value × List Char) :=
  match s with
  | '.' :: rest =>
    match digits Char.isDigit rest with
    | none => none
    | some (fraction, rest) =>
      match exponent rest with
      | none => none
      | some (e, rest) => (floatOf negative whole fraction e).map (·, rest)
  | 'e' :: _ | 'E' :: _ =>
    match exponent s with
    | none => none
    | some (e, rest) => (floatOf negative whole [] e).map (·, rest)
  | _ => (integerOf (if negative then -(ofDigits 10 whole : Int) else ofDigits 10 whole)).map (·, s)

def number (s : List Char) : Option (Value × List Char) :=
  match s with
  | '0' :: 'x' :: rest => basedInteger 16 isHexDigit rest
  | '0' :: 'o' :: rest => basedInteger 8 (fun c => '0' ≤ c && c ≤ '7') rest
  | '0' :: 'b' :: rest => basedInteger 2 (fun c => c == '0' || c == '1') rest
  | _ =>
    match sign s with
    | (negative, 'i' :: 'n' :: 'f' :: rest) => some (.float (.infinite negative), rest)
    | (_, 'n' :: 'a' :: 'n' :: rest) => some (.float .nan, rest)
    | (negative, rest) =>
      match decimalDigits rest with
      | none => none
      | some (whole, rest) => numberRest negative whole rest

/-! ## Dates and times -/

def field (count low high : Nat) (s : List Char) : Option (Nat × List Char) :=
  let ds := s.take count
  if ds.length = count ∧ ds.all Char.isDigit ∧ low ≤ ofDigits 10 ds ∧ ofDigits 10 ds ≤ high then
    some (ofDigits 10 ds, s.drop count)
  else none

def expect (c : Char) : List Char → Option (List Char)
  | d :: rest => if d = c then some rest else none
  | [] => none

def isLeapYear (year : Nat) : Bool := year % 4 == 0 && (year % 100 != 0 || year % 400 == 0)

def daysIn (year month : Nat) : Nat :=
  if month = 2 then (if isLeapYear year then 29 else 28)
  else if month = 4 ∨ month = 6 ∨ month = 9 ∨ month = 11 then 30
  else 31

def afterDate (s : List Char) : Option (List Char) := do
  let (year, s) ← field 4 0 9999 s
  let s ← expect '-' s
  let (month, s) ← field 2 1 12 s
  let s ← expect '-' s
  let (_, s) ← field 2 1 (daysIn year month) s
  return s

/-- The text behind a time.  A minute may have a leap second. -/
def afterTime (s : List Char) : Option (List Char) := do
  let (_, s) ← field 2 0 23 s
  let s ← expect ':' s
  let (_, s) ← field 2 0 59 s
  let s ← expect ':' s
  let (_, s) ← field 2 0 60 s
  match s with
  | '.' :: c :: rest => return if c.isDigit then rest.dropWhile Char.isDigit else s
  | s => return s

/-- The text behind an offset from universal time, if there is one. -/
def afterOffset (s : List Char) : Option (List Char) :=
  let numeric (s : List Char) : Option (List Char) := do
    let (_, s) ← field 2 0 23 s
    let s ← expect ':' s
    let (_, s) ← field 2 0 59 s
    return s
  match s with
  | 'Z' :: rest => some rest
  | 'z' :: rest => some rest
  | '+' :: rest => numeric rest
  | '-' :: rest => numeric rest
  | s => some s

/-- The text behind a date and, if it goes on with one, a time.  A space is part of it only before a time. -/
def afterDateTime (s : List Char) : Option (List Char) :=
  match afterDate s with
  | none => none
  | some s =>
    match s with
    | c :: rest =>
      if c = 'T' ∨ c = 't' ∨ c = ' ' then
        match afterTime rest with
        | some s => afterOffset s
        | none => some (c :: rest)
      else some (c :: rest)
    | [] => some []

def numeric (s : List Char) : Option (Value × List Char) :=
  let behind (after? : Option (List Char)) : Option (Value × List Char) :=
    after?.map (fun rest => (.datetime (String.ofList (s.take (s.length - rest.length))), rest))
  let count := (s.takeWhile Char.isDigit).length
  match s.drop count with
  | '-' :: _ => if count = 4 then behind (afterDateTime s) else number s
  | ':' :: _ => if count = 2 then behind (afterTime s) else number s
  | _ => number s

/-- `true`, `false`, or a number that is none. -/
def word : Reader Value
  | 't' :: 'r' :: 'u' :: 'e' :: rest => some (.boolean true, rest)
  | 'f' :: 'a' :: 'l' :: 's' :: 'e' :: rest => some (.boolean false, rest)
  | s => number s

end Toml
end CilThunk
