/-!
# TOML's characters, blanks and strings

A reader takes characters off the front of a text and gives what it read and the
rest, or nothing if the text does not begin with what it reads.

Strings come in four forms: basic strings with escapes between double quotes,
literal strings between single quotes, and both over several lines between three
quotes.  A line end in a string counts as one newline however it is written.
-/

namespace ScriptHost.Toml

/-- Reads an `α` off the front of a text. -/
abbrev Reader (α : Type) : Type :=
  List Char → Option (α × List Char)

/-- Blanks within a line. -/
def isBlank (c : Char) : Bool :=
  c = ' ' || c = '\t'

/-- What may stand in comments and literal strings: everything but control
characters, and the tab. -/
def isVisible (c : Char) : Bool :=
  c = '\t' || (0x20 ≤ c.toNat && c.toNat ≠ 0x7f)

/-- Skip blanks. -/
def skipBlanks (cs : List Char) : List Char :=
  cs.dropWhile isBlank

/-- The rest behind a line end. -/
def newline? : List Char → Option (List Char)
  | '\n' :: rest => some rest
  | '\r' :: '\n' :: rest => some rest
  | _ => none

/-- The rest behind a comment, if there is one. -/
def skipComment : List Char → List Char
  | '#' :: rest => rest.dropWhile isVisible
  | cs => cs

/-- The rest behind the end of a line: blanks, perhaps a comment, and a line end
or the end of the text. -/
def lineEnd? (cs : List Char) : Option (List Char) :=
  match skipComment (skipBlanks cs) with
  | [] => some []
  | cs => newline? cs

/-- Skip blanks, line ends and comments.  A comment ends with its line. -/
def skipSpace : Nat → List Char → Option (List Char)
  | 0, cs => some cs
  | fuel + 1, cs =>
    match skipBlanks cs with
    | '#' :: rest => (newline? (rest.dropWhile isVisible)).bind (skipSpace fuel)
    | cs =>
      match newline? cs with
      | some rest => skipSpace fuel rest
      | none => some cs

/-- The value of a hexadecimal digit. -/
def hexDigit? (c : Char) : Option Nat :=
  if '0' ≤ c ∧ c ≤ '9' then some (c.toNat - '0'.toNat)
  else if 'a' ≤ c ∧ c ≤ 'f' then some (c.toNat - 'a'.toNat + 10)
  else if 'A' ≤ c ∧ c ≤ 'F' then some (c.toNat - 'A'.toNat + 10)
  else none

/-- The character of a code point in hexadecimal digits, if it has one. -/
def codePoint? (digits : List Char) : Option Char :=
  (digits.foldlM (fun n c => (hexDigit? c).map (n * 16 + ·)) 0).bind fun n =>
    if n < 0xd800 ∨ (0xe000 ≤ n ∧ n < 0x110000) then some (Char.ofNat n) else none

/-- The character an escape of one letter stands for. -/
def escape? : Char → Option Char
  | 'b' => some '\x08'
  | 't' => some '\t'
  | 'n' => some '\n'
  | 'f' => some '\x0c'
  | 'r' => some '\r'
  | '"' => some '"'
  | '\\' => some '\\'
  | _ => none

/-- Put a character in front of what was read. -/
def put (c : Char) (r : Option (List Char × List Char)) : Option (List Char × List Char) :=
  r.map fun (s, rest) => (c :: s, rest)

/-- A basic string, behind its opening quote. -/
def basicString : Reader (List Char)
  | '"' :: rest => some ([], rest)
  | '\\' :: 'u' :: a :: b :: c :: d :: rest =>
    (codePoint? [a, b, c, d]).bind fun x => put x (basicString rest)
  | '\\' :: 'U' :: a :: b :: c :: d :: e :: f :: g :: h :: rest =>
    (codePoint? [a, b, c, d, e, f, g, h]).bind fun x => put x (basicString rest)
  | '\\' :: c :: rest => (escape? c).bind fun x => put x (basicString rest)
  | c :: rest => if isVisible c then put c (basicString rest) else none
  | [] => none

/-- A literal string, behind its opening quote. -/
def literalString : Reader (List Char)
  | '\'' :: rest => some ([], rest)
  | c :: rest => if isVisible c then put c (literalString rest) else none
  | [] => none

/-- Whether a backslash before this text ends its line. -/
def endsLine (cs : List Char) : Bool :=
  (newline? (skipBlanks cs)).isSome

/-- A basic string over several lines, behind its opening quotes.  Behind a
backslash at the end of a line, blanks and line ends are `skipping`. -/
def basicLines (skipping : Bool) : Reader (List Char)
  | '"' :: '"' :: '"' :: '"' :: '"' :: rest => some (['"', '"'], rest)
  | '"' :: '"' :: '"' :: '"' :: rest => some (['"'], rest)
  | '"' :: '"' :: '"' :: rest => some ([], rest)
  | '\\' :: 'u' :: a :: b :: c :: d :: rest =>
    (codePoint? [a, b, c, d]).bind fun x => put x (basicLines false rest)
  | '\\' :: 'U' :: a :: b :: c :: d :: e :: f :: g :: h :: rest =>
    (codePoint? [a, b, c, d, e, f, g, h]).bind fun x => put x (basicLines false rest)
  | '\\' :: c :: rest =>
    if endsLine (c :: rest) then basicLines true (c :: rest)
    else (escape? c).bind fun x => put x (basicLines false rest)
  | '\r' :: '\n' :: rest =>
    if skipping then basicLines true rest else put '\n' (basicLines false rest)
  | c :: rest =>
    if skipping && (isBlank c || c = '\n') then basicLines true rest
    else if isVisible c || c = '\n' then put c (basicLines false rest)
    else none
  | [] => none

/-- A literal string over several lines, behind its opening quotes. -/
def literalLines : Reader (List Char)
  | '\'' :: '\'' :: '\'' :: '\'' :: '\'' :: rest => some (['\'', '\''], rest)
  | '\'' :: '\'' :: '\'' :: '\'' :: rest => some (['\''], rest)
  | '\'' :: '\'' :: '\'' :: rest => some ([], rest)
  | '\r' :: '\n' :: rest => put '\n' (literalLines rest)
  | c :: rest => if isVisible c || c = '\n' then put c (literalLines rest) else none
  | [] => none

/-- The text without the line end it may begin with. -/
def dropNewline (cs : List Char) : List Char :=
  (newline? cs).getD cs

/-- A string in any of its forms. -/
def stringValue (cs : List Char) : Option (String × List Char) :=
  let read :=
    match cs with
    | '"' :: '"' :: '"' :: rest => basicLines false (dropNewline rest)
    | '\'' :: '\'' :: '\'' :: rest => literalLines (dropNewline rest)
    | '"' :: rest => basicString rest
    | '\'' :: rest => literalString rest
    | _ => none
  read.map fun (s, rest) => (String.ofList s, rest)

/-- What a key without quotes is made of. -/
def isBare (c : Char) : Bool :=
  c.isAlphanum || c = '_' || c = '-'

/-- One key. -/
def simpleKey (cs : List Char) : Option (String × List Char) :=
  match cs with
  | '"' :: rest => (basicString rest).map fun (s, rest) => (String.ofList s, rest)
  | '\'' :: rest => (literalString rest).map fun (s, rest) => (String.ofList s, rest)
  | _ =>
    let s := cs.takeWhile isBare
    if s.isEmpty then none else some (String.ofList s, cs.dropWhile isBare)

/-- Keys with dots between them, and blanks around each. -/
def dottedKey : Nat → Reader (List String)
  | 0, _ => none
  | fuel + 1, cs =>
    (simpleKey (skipBlanks cs)).bind fun (k, rest) =>
      match skipBlanks rest with
      | '.' :: rest => (dottedKey fuel rest).map fun (ks, rest) => (k :: ks, rest)
      | rest => some ([k], rest)

end ScriptHost.Toml
