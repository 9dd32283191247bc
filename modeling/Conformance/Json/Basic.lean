import Conformance.Number.Double
import Conformance.OrderedMap

/-!
# JSON values

The values of the JSON format.  Whole numbers and numbers with a fraction or an exponent are kept
apart, since they are written differently, and the members of an object keep their order.

**Operations.**  `Json.member?` looks a member of an object up, `Json.ofText?` stands for a text that
may be missing.
-/

namespace Conformance

/-- A JSON value. -/
inductive Json
  | null
  | bool (b : Bool)
  | int (n : Int)
  | real (x : Double)
  | str (s : String)
  | arr (items : List Json)
  | obj (members : List (String × Json))
deriving Inhabited, Repr

namespace Json

/-- The first member of this name, if the value is an object that has one. -/
def member? (name : String) : Json → Option Json
  | .obj members => OrderedMap.lookup name members
  | _ => none

/-- The members of an object. -/
def members? : Json → Option (List (String × Json))
  | .obj members => some members
  | _ => none

/-- The items of an array. -/
def items? : Json → Option (List Json)
  | .arr items => some items
  | _ => none

/-- The text of a string. -/
def str? : Json → Option String
  | .str s => some s
  | _ => none

/-- The names of an object's members, in order. -/
def memberNames (members : List (String × Json)) : List String :=
  members.map Prod.fst

/-- A text, or `null` where there is none. -/
def ofText? : Option String → Json
  | none => .null
  | some s => .str s

end Json
end Conformance
