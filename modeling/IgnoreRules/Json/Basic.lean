import IgnoreRules.Text.Basic

/-!
# JSON values

The values that JSON texts denote.  Numbers are kept the way they are written, since nothing here
computes with them; objects keep their fields in order, each key once.
-/

namespace IgnoreRules

/-- A JSON value. -/
inductive Json
  | null
  | bool (b : Bool)
  /-- A number, as it is written. -/
  | number (literal : Text)
  | string (t : Text)
  | array (items : List Json)
  | object (fields : List (Text × Json))
  deriving Inhabited

namespace Json

/-- The number written with the decimal digits of `n`. -/
def ofNat (n : Nat) : Json :=
  .number (toString n).toList

/-- The number written with the decimal digits of `n`, behind a dash if it is negative. -/
def ofInt (n : Int) : Json :=
  .number (toString n).toList

/-- A value of wording. -/
def ofString (s : String) : Json :=
  .string s.toList

/-- Sets a field: the value of a key that is there is replaced in its place, a new key comes last. -/
def setField (fields : List (Text × Json)) (key : Text) (value : Json) : List (Text × Json) :=
  if fields.any (·.1 = key) then
    fields.map fun field => if field.1 = key then (key, value) else field
  else
    fields ++ [(key, value)]

/-- Fields in the order their keys first appear, each with the value given last. -/
def mergeFields (fields : List (Text × Json)) : List (Text × Json) :=
  fields.foldl (fun merged field => setField merged field.1 field.2) []

/-! ## Texts among values -/

/-- Whether a number is written as an integer. -/
def isInteger (literal : Text) : Bool :=
  literal.all fun c => c == '-' || c.isDigit

/-- The name of the kind that a value is of. -/
def kind : Json → String
  | .null => "NoneType"
  | .bool _ => "bool"
  | .number literal => if isInteger literal then "int" else "float"
  | .string _ => "str"
  | .array _ => "list"
  | .object _ => "dict"

/-- Why some values are no texts: the first of them that is no string, and its place. -/
structure NotText where
  place : Nat
  value : Json

/-- The wording of the reason. -/
def NotText.message (e : NotText) : String :=
  s!"sequence item {e.place}: expected str instance, {e.value.kind} found"

/-- The texts that values are, the first of them standing at `place`. -/
def textsFrom (place : Nat) : List Json → Except NotText (List Text)
  | [] => .ok []
  | .string t :: values => (textsFrom (place + 1) values).map (t :: ·)
  | value :: _ => .error ⟨place, value⟩

end Json

end IgnoreRules
