import BodyScrub.Entries
import BodyScrub.Number.Double

/-!
# JSON values

An integer and a double are different numbers, however they are written. The members of an object are in the
order of their names' first appearance.
-/

namespace BodyScrub.Json

inductive Value where
  | null
  | bool (b : Bool)
  | integer (i : Int)
  | real (x : Double)
  | string (s : Text)
  | array (items : List Value)
  | object (members : List (Text × Value))

instance : Inhabited Value := ⟨.null⟩

/-- The six kinds of JSON value. -/
inductive Kind where
  | object
  | array
  | string
  | number
  | boolean
  | null
deriving DecidableEq

def Kind.text : Kind → Text
  | .object => "object"
  | .array => "array"
  | .string => "string"
  | .number => "number"
  | .boolean => "boolean"
  | .null => "null"

namespace Value

def kind : Value → Kind
  | null => .null
  | bool _ => .boolean
  | integer _ => .number
  | real _ => .number
  | string _ => .string
  | array _ => .array
  | object _ => .object

/-- A double that is an integer becomes that integer, so that `1.0` is written as `1`. -/
def canonical : Value → Value
  | real x => if x.isIntegral then integer x.truncate else real x
  | v => v

end Value

end BodyScrub.Json
