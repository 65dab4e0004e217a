/-
TOML values.

Floats are kept as they are written: no configuration holds one, and they are
only told from what it does hold. A date has its text in normal form, and can
be taken for a table that holds this text.
-/
namespace GraphCalls

/-- A TOML value. Members of a table that was read are in increasing order of
their names. -/
inductive Toml where
  | string (value : String)
  | integer (value : Int)
  | float (text : String)
  | boolean (value : Bool)
  | datetime (text : String)
  | array (items : List Toml)
  | table (members : List (String × Toml))

namespace Toml

/-- The least integer that a document may hold: that of 128 bits with a sign. -/
def minInt : Int := -170141183460469231731687303715884105728

/-- The greatest integer that a document may hold: that of 128 bits without
sign. -/
def maxInt : Int := 340282366920938463463374607431768211455

/-- Characters of keys that stand without quotes. -/
def isKeyChar (c : Char) : Bool := c.isAlphanum || c == '_' || c == '-'

/-- The name of the member that a date has when it is taken for a table. -/
def datetimeMember : String := "$__toml_private_datetime"

/-- The members of a table. A date has its text as its only one. -/
def members? : Toml → Option (List (String × Toml))
  | .table ms => some ms
  | .datetime text => some [(datetimeMember, .string text)]
  | _ => none

/-- The member of a table with a given name. -/
def get? (name : String) (t : Toml) : Option Toml :=
  (t.members?.getD []).find? (·.1 == name) |>.map Prod.snd

end Toml
end GraphCalls
