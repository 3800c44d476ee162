import ScriptHost.Path.Basic

/-!
# Stem and extension of a file name

A file name splits at its **last** dot: what stands before is the stem, what
stands after is the extension.  A name without a dot, or whose only dot is its
first letter, is all stem and has no extension.  Names are text: those that are not
UTF-8 are not modelled (see `Path.Basic`).
-/

namespace ScriptHost.Path

/-- The parts before and after the last dot, if there is a dot. -/
def splitAtLastDot : List Char → Option (List Char × List Char)
  | [] => none
  | c :: cs =>
    match splitAtLastDot cs with
    | some (before, after) => some (c :: before, after)
    | none => if c = '.' then some ([], cs) else none

/-- The stem of a file name. -/
def stemOf (name : String) : String :=
  match splitAtLastDot name.toList with
  | none | some ([], _) => name
  | some (before, _) => String.ofList before

/-- The extension of a file name. -/
def extensionOf? (name : String) : Option String :=
  match splitAtLastDot name.toList with
  | none | some ([], _) => none
  | some (_, after) => some (String.ofList after)

/-- The stem of the name a path ends in. -/
def stem? (p : Path) : Option String :=
  p.fileName?.map stemOf

/-- The extension of the name a path ends in. -/
def extension? (p : Path) : Option String :=
  p.fileName?.bind extensionOf?

end ScriptHost.Path
