import BodyScrub.Text.Blank
import BodyScrub.Text.Case

/-!
# Media types

A body is scrubbed as JSON only if its declared media type says that it is JSON: `application/json`, or any type
with a subtype that ends in `+json`. Parameters, blanks and letter case do not matter.
-/

namespace BodyScrub.MediaType

/-- The media type without its parameters, without blanks around it, in lower case. -/
def essence (mediaType : Text) : Text :=
  Text.lower (Text.strip (mediaType.takeWhile (· ≠ CodePoint.ofChar ';')))

/-- The suffix of subtypes that are written in JSON. -/
def jsonSuffix : Text := "+json"

/-- Whether a type and a subtype mean JSON. -/
def isJsonPair (type subtype : Text) : Bool :=
  !type.isEmpty
    && ((type = "application" && subtype = "json")
      || (subtype.length > jsonSuffix.length && jsonSuffix.isSuffixOf subtype))

/-- Whether a declared media type means JSON. A body without one is not JSON. -/
def isJson : Option Text → Bool
  | none => false
  | some mediaType =>
    match Text.cut? '/' (essence mediaType) with
    | some (type, subtype) => isJsonPair type subtype
    | none => false

end BodyScrub.MediaType
