import ScriptHost.Toml.Draft
import ScriptHost.Toml.Number
import ScriptHost.Toml.Text

/-!
# TOML documents

Values, key–value pairs, headers, and whole documents.  Arrays and inline
tables nest at most `maxDepth` deep; arrays may be broken over lines and end in
a comma, inline tables may not.
-/

namespace ScriptHost.Toml

/-- How deep values may nest. -/
def maxDepth : Nat :=
  79

/-- The items of an array, behind its opening bracket. -/
def arrayItems (item : Reader Value) : Nat → Reader (List Value)
  | 0, _ => none
  | fuel + 1, cs =>
    (skipSpace cs.length cs).bind fun cs =>
      match cs with
      | ']' :: rest => some ([], rest)
      | _ =>
        (item cs).bind fun (v, cs) =>
          (skipSpace cs.length cs).bind fun cs =>
            match cs with
            | ',' :: cs => (arrayItems item fuel cs).map fun (vs, rest) => (v :: vs, rest)
            | ']' :: rest => some ([v], rest)
            | _ => none

/-- A key and its value, as the path and the last part of the key. -/
structure Pair where
  path : List String
  key : String
  value : Value

/-- A key, an equals sign and a value. -/
def readPair (value : Reader Value) (cs : List Char) : Option (Pair × List Char) :=
  (dottedKey cs.length cs).bind fun (keys, cs) =>
    match keys.getLast?, cs with
    | some key, '=' :: cs =>
      if maxDepth < keys.length then none
      else (value (skipBlanks cs)).map fun (v, rest) => (⟨keys.dropLast, key, v⟩, rest)
    | _, _ => none

/-- The pairs of an inline table, behind its opening brace or a comma. -/
def inlinePairs (value : Reader Value) : Nat → Draft → Reader Draft
  | 0, _, _ => none
  | fuel + 1, d, cs =>
    (readPair value cs).bind fun (p, cs) =>
      (d.assign p.path p.key p.value).bind fun d =>
        match skipBlanks cs with
        | ',' :: cs => inlinePairs value fuel d cs
        | '\x7d' :: rest => some (d, rest)
        | _ => none

/-- An inline table, behind its opening brace. -/
def inlineTable (value : Reader Value) (cs : List Char) : Option (Value × List Char) :=
  match skipBlanks cs with
  | '\x7d' :: rest => some (.table [], rest)
  | cs => (inlinePairs value (cs.length + 1) .empty cs).map fun (d, rest) => (.table d.finish, rest)

/-- A value that nests at most so deep. -/
def readValue : Nat → Reader Value
  | depth, cs =>
    match cs with
    | '[' :: rest =>
      match depth with
      | 0 => none
      | depth + 1 =>
        (arrayItems (readValue depth) (rest.length + 1) rest).map fun (vs, rest) =>
          (.array vs, rest)
    | '\x7b' :: rest =>
      match depth with
      | 0 => none
      | depth + 1 => inlineTable (readValue depth) rest
    | '"' :: _ | '\'' :: _ => (stringValue cs).map fun (s, rest) => (.string s, rest)
    | _ => readWord cs

/-- A document in the making: its root, and the header its pairs stand under. -/
structure Progress where
  root : Draft
  header : List String

/-- The key of a header, up to what closes it. -/
def headerKey (cs : List Char) : Option ((List String × String) × List Char) :=
  (dottedKey cs.length cs).bind fun (keys, rest) =>
    keys.getLast?.bind fun key =>
      if maxDepth < keys.length then none else some ((keys.dropLast, key), rest)

/-- One line of a document that is neither blank nor a comment, up to the end
of the line. -/
def readLine (p : Progress) (cs : List Char) : Option (Progress × List Char) :=
  match cs with
  | '[' :: '[' :: rest =>
    (headerKey rest).bind fun ((path, key), rest) =>
      match rest with
      | ']' :: ']' :: rest =>
        (p.root.descend false (Draft.defineNext key) path).map fun root =>
          (⟨root, path ++ [key]⟩, rest)
      | _ => none
  | '[' :: rest =>
    (headerKey rest).bind fun ((path, key), rest) =>
      match rest with
      | ']' :: rest =>
        (p.root.descend false (Draft.define key) path).map fun root => (⟨root, path ++ [key]⟩, rest)
      | _ => none
  | _ =>
    (readPair (readValue maxDepth) cs).bind fun (pair, rest) =>
      (p.root.descend false (Draft.assign pair.path pair.key pair.value) p.header).map fun root =>
        ({ p with root }, rest)

/-- The lines of a document. -/
def readLines : Nat → Progress → List Char → Option Progress
  | 0, _, _ => none
  | fuel + 1, p, cs =>
    match skipBlanks cs with
    | [] => some p
    | '#' :: rest => (lineEnd? ('#' :: rest)).bind (readLines fuel p)
    | cs =>
      match newline? cs with
      | some rest => readLines fuel p rest
      | none =>
        (readLine p cs).bind fun (p, rest) => (lineEnd? rest).bind (readLines fuel p)

/-- The table a document describes, if it is a document. -/
def parse (text : String) : Option Table :=
  let cs := text.toList
  let cs := if cs.head? = some '\ufeff' then cs.drop 1 else cs
  (readLines (cs.length + 1) ⟨.empty, []⟩ cs).map fun p => p.root.finish

end ScriptHost.Toml
