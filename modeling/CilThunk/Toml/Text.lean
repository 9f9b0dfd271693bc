import CilThunk.Toml.Value
/-!
# Blanks, comments and strings

The spaces between the parts of a document, its line ends and comments, and its four kinds of strings: in double
quotes with escapes, in single quotes as they stand, and both again in three quotes, where they may go over lines.
No control character but the tab stands for itself anywhere; a carriage return only stands before a line feed.
-/
namespace CilThunk
namespace Toml

def isSpace (c : Char) : Bool := c == ' ' || c == '\t'

def skipSpaces (s : List Char) : List Char := s.dropWhile isSpace

/-- A character that may stand in a comment. -/
def isPlain (c : Char) : Bool := c == '\t' || (0x20 ≤ c.toNat && c.toNat != 0x7F)

def afterNewline? : List Char → Option (List Char)
  | '\n' :: rest => some rest
  | '\r' :: '\n' :: rest => some rest
  | _ => none

/-- The text after a line that has nothing more to say: spaces, perhaps a comment, and its end or that of the text. -/
def endOfLine (s : List Char) : Option (List Char) :=
  let s := match skipSpaces s with
    | '#' :: comment => comment.dropWhile isPlain
    | s => s
  if s.isEmpty then some [] else afterNewline? s

/-- The text after spaces, line ends and comments, as arrays may have them anywhere. -/
def skipLines (inComment : Bool) : List Char → Option (List Char)
  | [] => if inComment then none else some []
  | '\n' :: rest => skipLines false rest
  | '\r' :: '\n' :: rest => skipLines false rest
  | c :: rest =>
    if inComment then (if isPlain c then skipLines true rest else none)
    else if isSpace c then skipLines false rest
    else if c = '#' then skipLines true rest
    else some (c :: rest)

/-! ## Escapes -/

def isHexDigit (c : Char) : Bool := c.isDigit || ('a' ≤ c && c ≤ 'f') || ('A' ≤ c && c ≤ 'F')

def hexValue (c : Char) : Nat :=
  if c.isDigit then c.toNat - '0'.toNat
  else if 'a' ≤ c then c.toNat - 'a'.toNat + 10
  else c.toNat - 'A'.toNat + 10

def ofHexDigits (digits : List Char) : Nat := digits.foldl (fun n c => 16 * n + hexValue c) 0

/-- The character whose code point `count` hexadecimal digits give. -/
def codePoint (count : Nat) (s : List Char) : Option (Char × List Char) :=
  let digits := s.take count
  if digits.length = count ∧ digits.all isHexDigit ∧ (ofHexDigits digits).isValidChar then
    some (Char.ofNat (ofHexDigits digits), s.drop count)
  else none

/-- The character that an escape stands for, behind its backslash. -/
def escape : Reader Char
  | 'b' :: rest => some ('\x08', rest)
  | 't' :: rest => some ('\t', rest)
  | 'n' :: rest => some ('\n', rest)
  | 'f' :: rest => some ('\x0c', rest)
  | 'r' :: rest => some ('\r', rest)
  | '"' :: rest => some ('"', rest)
  | '\\' :: rest => some ('\\', rest)
  | 'u' :: rest => codePoint 4 rest
  | 'U' :: rest => codePoint 8 rest
  | _ => none

theorem codePoint_length {count : Nat} {s rest : List Char} {c : Char} (h : codePoint count s = some (c, rest)) :
    rest.length ≤ s.length := by
  simp only [codePoint] at h
  split at h
  · cases h; simp
  · cases h

theorem escape_length {s rest : List Char} {c : Char} (h : escape s = some (c, rest)) : rest.length < s.length := by
  unfold escape at h
  split at h
  case h_8 => exact Nat.lt_succ_of_le (codePoint_length h)
  case h_9 => exact Nat.lt_succ_of_le (codePoint_length h)
  all_goals cases h
  all_goals simp

/-! ## Strings in one line -/

/-- The rest of a string in double quotes, after what was read of it before, last character first. -/
def basicRest (read : List Char) (s : List Char) : Option (String × List Char) :=
  match s with
  | [] => none
  | '"' :: rest => some (String.ofList read.reverse, rest)
  | '\\' :: rest =>
    match h : escape rest with
    | none => none
    | some (c, after) =>
      have := escape_length h
      basicRest (c :: read) after
  | c :: rest => if isPlain c then basicRest (c :: read) rest else none
termination_by s.length

def literalRest (s : List Char) : Option (String × List Char) :=
  match s.dropWhile (fun c => isPlain c && c != '\'') with
  | '\'' :: rest => some (String.ofList (s.takeWhile (fun c => isPlain c && c != '\'')), rest)
  | _ => none

/-! ## Strings over lines -/

/-- A line feed right after the opening quotes is no part of the string. -/
def skipNewline (s : List Char) : List Char := (afterNewline? s).getD s

def skipBlankLines : List Char → List Char
  | '\n' :: rest => skipBlankLines rest
  | '\r' :: '\n' :: rest => skipBlankLines rest
  | c :: rest => if isSpace c then skipBlankLines rest else c :: rest
  | [] => []

/-- The text that goes on behind a backslash at the end of a line: the next that is neither a space nor a line end. -/
def continuation? (s : List Char) : Option (List Char) := (afterNewline? (skipSpaces s)).map skipBlankLines

theorem afterNewline?_length {s rest : List Char} (h : afterNewline? s = some rest) : rest.length < s.length := by
  unfold afterNewline? at h
  split at h <;> cases h <;> simp only [List.length_cons] <;> omega

theorem skipBlankLines_length (s : List Char) : (skipBlankLines s).length ≤ s.length := by
  fun_induction skipBlankLines s <;> simp only [List.length_cons, Nat.le_refl] <;> omega

theorem continuation?_length {s rest : List Char} (h : continuation? s = some rest) : rest.length < s.length := by
  simp only [continuation?, Option.map_eq_some_iff] at h
  obtain ⟨after, ha, rfl⟩ := h
  have := afterNewline?_length ha
  have := skipBlankLines_length after
  have := (List.dropWhile_suffix isSpace (l := s)).length_le
  unfold skipSpaces at *
  omega

/-- The end of a string in three quotes `q`: of five quotes in a row the first two are still part of it. -/
def closing (q : Char) (read : List Char) (rest : List Char) : String × List Char :=
  match rest with
  | a :: b :: after =>
    if a = q ∧ b = q then (String.ofList (q :: q :: read).reverse, after)
    else if a = q then (String.ofList (q :: read).reverse, b :: after)
    else (String.ofList read.reverse, a :: b :: after)
  | [a] => if a = q then (String.ofList (q :: read).reverse, []) else (String.ofList read.reverse, [a])
  | [] => (String.ofList read.reverse, [])

def basicLinesRest (read : List Char) (s : List Char) : Option (String × List Char) :=
  match s with
  | [] => none
  | '"' :: '"' :: '"' :: rest => some (closing '"' read rest)
  | '\r' :: '\n' :: rest => basicLinesRest ('\n' :: read) rest
  | '\\' :: rest =>
    match hc : continuation? rest with
    | some after =>
      have := continuation?_length hc
      basicLinesRest read after
    | none =>
      match he : escape rest with
      | none => none
      | some (c, after) =>
        have := escape_length he
        basicLinesRest (c :: read) after
  | c :: rest => if c = '\n' ∨ isPlain c then basicLinesRest (c :: read) rest else none
termination_by s.length

def literalLinesRest (read : List Char) : List Char → Option (String × List Char)
  | [] => none
  | '\'' :: '\'' :: '\'' :: rest => some (closing '\'' read rest)
  | '\r' :: '\n' :: rest => literalLinesRest ('\n' :: read) rest
  | c :: rest => if c = '\n' ∨ isPlain c then literalLinesRest (c :: read) rest else none

def string : Reader String
  | '"' :: '"' :: '"' :: rest => basicLinesRest [] (skipNewline rest)
  | '"' :: rest => basicRest [] rest
  | '\'' :: '\'' :: '\'' :: rest => literalLinesRest [] (skipNewline rest)
  | '\'' :: rest => literalRest rest
  | _ => none

end Toml
end CilThunk
