import ScriptHost.Text.Unprinted

/-!
# Quoted text in diagnostics

Diagnostics show a text between double quotes.  Quotes, the backslash and the
common control characters are written with a backslash; other characters without
a glyph of their own are written by their hexadecimal code point; every other
character stands for itself.
-/

namespace ScriptHost.Text

/-- A character as it stands in quoted text. -/
def quoteChar (c : Char) : String :=
  match c with
  | '\t' => "\\t"
  | '\n' => "\\n"
  | '\r' => "\\r"
  | '\x00' => "\\0"
  | '"' => "\\\""
  | '\'' => "\\'"
  | '\\' => "\\\\"
  | c =>
    if isUnprinted c then
      "\\u\x7b" ++ String.ofList (Nat.toDigits 16 c.toNat) ++ "\x7d"
    else c.toString

/-- A text between quotes. -/
def quoted (s : String) : String :=
  "\"" ++ String.join (s.toList.map quoteChar) ++ "\""

end ScriptHost.Text
