/-!
# TOML values

What a TOML document says.  Numbers that no setting uses — floats and dates —
keep their spelling.
-/

namespace ScriptHost.Toml

/-- A TOML value. -/
inductive Value where
  | string (s : String)
  | integer (i : Int)
  | float (spelling : String)
  | boolean (b : Bool)
  | datetime (spelling : String)
  | array (items : List Value)
  | table (entries : List (String × Value))

/-- A table: keys with their values, each key once. -/
abbrev Table : Type :=
  List (String × Value)

end ScriptHost.Toml
