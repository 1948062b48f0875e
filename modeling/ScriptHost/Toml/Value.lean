import ScriptHost.Number.Binary

/-!
# TOML values

The values of TOML 1.0. Tables keep their members in order, and no key twice.
-/

namespace ScriptHost.Toml

/-- A value. -/
inductive Value where
  | string (s : String)
  | integer (n : Int)
  | float (x : Number.Double)
  | boolean (b : Bool)
  /-- A date, a time, or both, by its normal text. -/
  | dateTime (text : String)
  | array (elements : List Value)
  | table (members : List (String × Value))

/-- The members of a table. -/
abbrev Table := List (String × Value)

/-- The key under which a date-time shows itself to a reader that asks for a table. -/
def dateTimeKey : String := "$__toml_private_datetime"

/-- The value as a table. A date-time passes for a table of one member, its text. -/
def Value.table? : Value → Option Table
  | .table members => some members
  | .dateTime text => some [(dateTimeKey, .string text)]
  | _ => none

end ScriptHost.Toml
