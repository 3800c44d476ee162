import ScriptHost.Toml.Value

/-!
# TOML's words: numbers, truth values and dates

Values other than strings, arrays and tables are single words; what a word means
depends on the word alone.  Integers have 64 bits, and digits may be grouped by
single underscores.  Dates have to exist and times to be on the clock, with
room for a leap second.
-/

namespace ScriptHost.Toml

/-- Digits, grouped by single underscores. -/
def areDigits (isDigit : Char → Bool) : List Char → Bool
  | [] => false
  | [c] => isDigit c
  | c :: '_' :: rest => isDigit c && areDigits isDigit rest
  | c :: rest => isDigit c && areDigits isDigit rest

/-- Digits of a number that does not begin with a superfluous zero. -/
def areLeadingDigits (cs : List Char) : Bool :=
  areDigits Char.isDigit cs && (cs.length = 1 || cs.head? ≠ some '0')

/-- The number that digits in a base stand for. -/
def numeral (base : Nat) (cs : List Char) : Nat :=
  (cs.filter (· ≠ '_')).foldl
    (fun n c =>
      n * base +
        (if c.isDigit then c.toNat - '0'.toNat
         else if c.isLower then c.toNat - 'a'.toNat + 10
         else c.toNat - 'A'.toNat + 10))
    0

/-- Digits of numbers in base sixteen. -/
def isHexDigit (c : Char) : Bool :=
  c.isDigit || ('a' ≤ c && c ≤ 'f') || ('A' ≤ c && c ≤ 'F')

/-- Digits of numbers in base eight. -/
def isOctDigit (c : Char) : Bool :=
  '0' ≤ c && c ≤ '7'

/-- Digits of numbers in base two. -/
def isBinDigit (c : Char) : Bool :=
  c = '0' || c = '1'

/-- An integer, if it fits 64 bits. -/
def fitting (i : Int) : Option Int :=
  if Int64.minValue.toInt ≤ i ∧ i ≤ Int64.maxValue.toInt then some i else none

/-- A number without the sign in front of it, and whether that was a minus. -/
def unsigned : List Char → Bool × List Char
  | '-' :: rest => (true, rest)
  | '+' :: rest => (false, rest)
  | cs => (false, cs)

/-- The integer a word is the spelling of. -/
def integer? (word : List Char) : Option Int :=
  match word with
  | '0' :: 'x' :: ds =>
    if areDigits isHexDigit ds then fitting (numeral 16 ds) else none
  | '0' :: 'o' :: ds =>
    if areDigits isOctDigit ds then fitting (numeral 8 ds) else none
  | '0' :: 'b' :: ds =>
    if areDigits isBinDigit ds then fitting (numeral 2 ds) else none
  | _ =>
    let (negative, ds) := unsigned word
    if areLeadingDigits ds then
      fitting (if negative then -(numeral 10 ds : Int) else numeral 10 ds)
    else none

/-- Whether `n * 10 ^ e` is too large for a double. -/
def isTooLarge (n : Nat) (e : Int) : Bool :=
  if n = 0 then false
  else
    let digits : Int := (Nat.toDigits 10 n).length
    if digits + e < 309 then false
    else if 309 < digits + e then true
    else
      let limit := Nat.pow 2 1024 - Nat.pow 2 970
      if 0 ≤ e then limit ≤ n * Nat.pow 10 e.toNat else limit * Nat.pow 10 (-e).toNat ≤ n

/-- Whether a word is the spelling of a float.  A positive float has to be
finite. -/
def isFloat (word : List Char) : Bool :=
  let (negative, cs) := unsigned word
  if cs = ['i', 'n', 'f'] || cs = ['n', 'a', 'n'] then true
  else
    let isMark (c : Char) : Bool := c = 'e' || c = 'E'
    let mantissa := cs.takeWhile fun c => !isMark c
    let exponent := cs.dropWhile fun c => !isMark c
    let whole := mantissa.takeWhile (· ≠ '.')
    let fraction := mantissa.dropWhile (· ≠ '.')
    let (expNegative, expDigits) := unsigned (exponent.drop 1)
    let shaped :=
      areLeadingDigits whole
        && (fraction.isEmpty || areDigits Char.isDigit (fraction.drop 1))
        && (exponent.isEmpty || areDigits Char.isDigit expDigits)
        && !(fraction.isEmpty && exponent.isEmpty)
    let n := numeral 10 (whole ++ fraction.drop 1)
    let places : Int := ((fraction.drop 1).filter (· ≠ '_')).length
    let e : Int := numeral 10 expDigits
    shaped && (negative || !isTooLarge n ((if expNegative then -e else e) - places))

/-- The number two digits stand for. -/
def twoDigits? : List Char → Option (Nat × List Char)
  | a :: b :: rest => if a.isDigit && b.isDigit then some (numeral 10 [a, b], rest) else none
  | _ => none

/-- How many days a month has. -/
def daysIn (year month : Nat) : Nat :=
  if month = 2 then
    if year % 4 = 0 ∧ (year % 100 ≠ 0 ∨ year % 400 = 0) then 29 else 28
  else if month = 4 ∨ month = 6 ∨ month = 9 ∨ month = 11 then 30
  else 31

/-- The rest of a word behind a date. -/
def afterDate? : List Char → Option (List Char)
  | a :: b :: c :: d :: '-' :: e :: f :: '-' :: g :: h :: rest =>
    if [a, b, c, d, e, f, g, h].all Char.isDigit then
      let year := numeral 10 [a, b, c, d]
      let month := numeral 10 [e, f]
      let day := numeral 10 [g, h]
      if 1 ≤ month ∧ month ≤ 12 ∧ 1 ≤ day ∧ day ≤ daysIn year month then some rest else none
    else none
  | _ => none

/-- The rest of a word behind a time of day. -/
def afterTime? (cs : List Char) : Option (List Char) := do
  let (hour, cs) ← twoDigits? cs
  let ':' :: cs := cs | none
  let (minute, cs) ← twoDigits? cs
  let ':' :: cs := cs | none
  let (second, cs) ← twoDigits? cs
  if 23 < hour || 59 < minute || 60 < second then none
  else
    match cs with
    | '.' :: rest =>
      if (rest.head?.map Char.isDigit).getD false then some (rest.dropWhile Char.isDigit) else none
    | _ => some cs

/-- Whether a text is an offset from universal time, or empty. -/
def isOffset : List Char → Bool
  | [] => true
  | ['Z'] | ['z'] => true
  | sign :: cs =>
    (sign = '+' || sign = '-') &&
      (match twoDigits? cs with
       | some (hour, ':' :: cs) =>
         (match twoDigits? cs with
          | some (minute, []) => hour ≤ 23 && minute ≤ 59
          | _ => false)
       | _ => false)

/-- Whether a text is a time of day with or without an offset. -/
def isTimeWithOffset (cs : List Char) : Bool :=
  (afterTime? cs).any isOffset

/-- Whether a word is a date alone. -/
def isDate (word : List Char) : Bool :=
  afterDate? word = some []

/-- Whether a text is a date, a time of day, or both. -/
def isDatetime (cs : List Char) : Bool :=
  afterTime? cs = some [] ||
    (match afterDate? cs with
     | some [] => true
     | some (c :: rest) => (c = 'T' || c = 't' || c = ' ') && isTimeWithOffset rest
     | none => false)

/-- What words are made of. -/
def isWordChar (c : Char) : Bool :=
  c.isAlphanum || c = '_' || c = '+' || c = '-' || c = '.' || c = ':'

/-- The value a word stands for. -/
def word? (word : List Char) : Option Value :=
  if word = ['t', 'r', 'u', 'e'] then some (.boolean true)
  else if word = ['f', 'a', 'l', 's', 'e'] then some (.boolean false)
  else
    match integer? word with
    | some i => some (.integer i)
    | none =>
      if isFloat word then some (.float (String.ofList word))
      else if isDatetime word then some (.datetime (String.ofList word))
      else none

/-- Read a word.  A date goes on behind a blank if a time of day follows. -/
def readWord (cs : List Char) : Option (Value × List Char) :=
  let word := cs.takeWhile isWordChar
  let rest := cs.dropWhile isWordChar
  match isDate word, rest with
  | true, ' ' :: rest' =>
    let time := rest'.takeWhile isWordChar
    if isTimeWithOffset time then
      some (.datetime (String.ofList (word ++ ' ' :: time)), rest'.dropWhile isWordChar)
    else some (.datetime (String.ofList word), rest)
  | _, _ => (word? word).map fun v => (v, rest)

end ScriptHost.Toml
