import BodyScrub.Json.Value
import BodyScrub.Number.Decimal
import BodyScrub.Text.Quoted

/-!
# Values in messages

A value that stands where another kind was expected is shown in the message about it.
-/

namespace BodyScrub.Json.Value

mutual

/-- A value as it is shown in a message. -/
def display : Value → Text
  | null => "None"
  | bool true => "True"
  | bool false => "False"
  | integer i => Text.ofInt i
  | real x => x.display
  | string s => s.quoted
  | array [] => "[]"
  | array (v :: vs) => ('[' : CodePoint) :: v.display ++ displayItems vs ++ [(']' : CodePoint)]
  | object [] => "\x7b\x7d"
  | object ((n, v) :: ms) =>
    CodePoint.openBrace :: n.quoted ++ (": " : Text) ++ v.display ++ displayMembers ms
      ++ [CodePoint.closeBrace]

/-- Further items, each after a comma. -/
def displayItems : List Value → Text
  | [] => []
  | v :: vs => (", " : Text) ++ v.display ++ displayItems vs

/-- Further members, each after a comma. -/
def displayMembers : List (Text × Value) → Text
  | [] => []
  | (n, v) :: ms => (", " : Text) ++ n.quoted ++ (": " : Text) ++ v.display ++ displayMembers ms

end

/-- The word for what a value is, in messages about a literal of the wrong kind. -/
def typeWord : Value → Text
  | null => "NoneType"
  | bool _ => "bool"
  | integer _ => "int"
  | real _ => "float"
  | string _ => "str"
  | array _ => "list"
  | object _ => "dict"

end BodyScrub.Json.Value
