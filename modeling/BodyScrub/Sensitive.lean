import BodyScrub.Json.Value
import BodyScrub.Text.Case

/-!
# Sensitive names

Names whose values are never logged. Redaction blanks the members under such names, in any letter case, and goes
on into objects and into the objects that arrays hold; arrays that stand in arrays are left as they are.
-/

namespace BodyScrub

open Json (Value)

namespace Sensitive

def tokenNames : List Text := ["access_token", "refresh_token", "open_id", "id_token"]

/-- Other names of credentials, and the names under which bodies are logged. -/
def otherNames : List Text :=
  ["password", "passwd", "secret", "token", "api_key", "apikey", "authorization", "client_secret",
    "private_key", "cookie", "body", "content"]

/-- The names that are blanked where no others are given. -/
def names : List Text := tokenNames ++ otherNames

/-- What stands in place of a sensitive value. -/
def blank : Value := .string "[REDACTED]"

/-- Whether a name is one of some names given in lower case. -/
def isNamed (names : List Text) (name : Text) : Bool := names.contains name.lower

mutual

/-- Members with those under some names blanked; `deep` goes on into their values. -/
def redact (names : List Text) (deep : Bool) : List (Text × Value) → List (Text × Value)
  | [] => []
  | (n, v) :: ms =>
    (n, if isNamed names n then blank else if deep then redactValue names v else v) :: redact names deep ms

/-- A value with the members of objects inside it redacted. -/
def redactValue (names : List Text) : Value → Value
  | .object members => .object (redact names true members)
  | .array items => .array (redactItems names items)
  | v => v

/-- Items with the members of the objects among them redacted. -/
def redactItems (names : List Text) : List Value → List Value
  | [] => []
  | .object members :: items => .object (redact names true members) :: redactItems names items
  | v :: items => v :: redactItems names items

end

end Sensitive

end BodyScrub
