import CilThunk.Text.Number
import CilThunk.Text.Printable
/-!
# Quoted text

A text between quotes, as messages show a string that was given: the quote, the backslash and the usual controls
behind a backslash, any other character that cannot stand for itself as `\u` and its code point in braces.
-/
namespace CilThunk
namespace Text

def quotedChar (c : Char) : String :=
  match c with
  | '\x00' => "\\0"
  | '\t' => "\\t"
  | '\r' => "\\r"
  | '\n' => "\\n"
  | '\\' => "\\\\"
  | '"' => "\\\""
  | c => if isExtending c || !isPrintable c then "\\u\x7b" ++ hexPadded 1 c.toNat ++ "\x7d" else c.toString

def quoted (s : String) : String := "\"" ++ String.join (s.toList.map quotedChar) ++ "\""

end Text
end CilThunk
