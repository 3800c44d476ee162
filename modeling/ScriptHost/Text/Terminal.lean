/-!
# Text that a terminal only shows

A terminal acts on some characters instead of showing them: the escape character
and those like it begin commands, the bell rings, backspace and form feed move
the cursor.  What is printed must not steer the terminal by names that others
have chosen, so such characters are written by their code points.  The ends of
lines and the tab stay.
-/

namespace ScriptHost.Text

/-- A character as a terminal may be given it. -/
def terminalChar (c : Char) : String :=
  match c with
  | '\x07' => "\\x07"
  | '\x08' => "\\x08"
  | '\x0c' => "\\x0c"
  | '\x1b' => "\\x1b"
  | '\x7f' => "\\x7f"
  | c =>
    if 0x80 ≤ c.toNat && c.toNat ≤ 0x9f then
      "\\u\x7b" ++ String.ofList (Nat.toDigits 16 c.toNat) ++ "\x7d"
    else c.toString

/-- A text as a terminal may be given it. -/
def forTerminal (s : String) : String :=
  String.join (s.toList.map terminalChar)

end ScriptHost.Text
