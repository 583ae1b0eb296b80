import BodyScrub.Json.Writer
import BodyScrub.Sensitive
import BodyScrub.Text.Blank
import BodyScrub.Text.Word

/-!
# Property filters

A property filter masks the values of named members in the raw text of a body, without reading it as JSON, so it
also works on bodies that are cut off or broken. A member is a name between quotes, a colon and a value, with
blanks around the colon; its value is replaced by one fixed string. Names are compared as they are spelled in the
body.
-/

namespace BodyScrub

/-- The values that a property filter masks. -/
inductive PropertyFilter.Kind where
  /-- Strings. -/
  | string
  /-- Numbers, booleans and null. -/
  | primitive
deriving DecidableEq

/-- A filter that masks the values of named members. -/
structure PropertyFilter where
  kind : PropertyFilter.Kind
  /-- In order, each once. -/
  names : List Text
  replacement : Text
deriving DecidableEq

namespace PropertyFilter

def Kind.text : Kind → Text
  | .string => "string"
  | .primitive => "primitive"

/-- The kind that a word means. -/
def Kind.ofText? (t : Text) : Option Kind := [Kind.string, Kind.primitive].find? (·.text = t)

/-- The names in order, each once. -/
def normalNames (names : List Text) : List Text := (names.mergeSort Text.le).eraseDups

/-- The filter for some names, in whatever order. -/
def ofNames (kind : Kind) (names : List Text) (replacement : Text) : PropertyFilter :=
  ⟨kind, normalNames names, replacement⟩

/-- The filter that masks access tokens. -/
def accessTokens : PropertyFilter := ofNames .string Sensitive.tokenNames "XXX"

/-! ## Values in raw text -/

/-- What follows a string after its opening quote. A backslash may stand before anything but a line feed. -/
def afterStringBody : Text → Option Text
  | [] => none
  | c :: t =>
    if c = CodePoint.quote then some t
    else if c = CodePoint.backslash then
      match t with
      | [] => none
      | e :: t => if e = CodePoint.newline then none else afterStringBody t
    else afterStringBody t

def afterString : Text → Option Text
  | [] => none
  | c :: t => if c = CodePoint.quote then afterStringBody t else none

/-- What follows a run of digits of any script, which may not be empty. -/
def afterDigits (t : Text) : Option Text :=
  let (digits, r) := Text.span CodePoint.isDigit t
  if digits.isEmpty then none else some r

/-- What follows one code point of a class, or the text itself if none comes. -/
def afterOptional (p : CodePoint → Bool) : Text → Text
  | [] => []
  | c :: t => if p c then t else c :: t

/-- What follows the fraction of a number, or the text itself if none comes. -/
def afterFraction : Text → Text
  | [] => []
  | c :: t => if c = '.' then (afterDigits t).getD (c :: t) else c :: t

/-- What follows the exponent of a number, or the text itself if none comes. -/
def afterExponent : Text → Text
  | [] => []
  | c :: t =>
    if c = 'e' || c = 'E' then
      (afterDigits (afterOptional (fun d => d = '+' || d = '-') t)).getD (c :: t)
    else c :: t

def afterNumber (t : Text) : Option Text :=
  (afterDigits (afterOptional (· = CodePoint.ofChar '-') t)).map fun r => afterExponent (afterFraction r)

/-- Whether a primitive value may end before `t`. -/
def endsPrimitive : Text → Bool
  | [] => true
  | c :: _ => !(c.isWord || c = '.')

/-- What follows a number, a boolean or null. -/
def afterPrimitive (t : Text) : Option Text :=
  ((((afterNumber t).or (Text.after? "true" t)).or (Text.after? "false" t)).or (Text.after? "null" t)).filter
    endsPrimitive

def Kind.after : Kind → Text → Option Text
  | .string => afterString
  | .primitive => afterPrimitive

/-! ## Members in raw text -/

/-- The text without white space at its beginning. -/
def skipBlanks (t : Text) : Text := t.dropWhile CodePoint.isBlank

/-- The value of a member, for the text after the opening quote of its name. -/
def afterName (name t : Text) : Option Text :=
  match Text.after? (name ++ [CodePoint.quote]) t with
  | none => none
  | some r =>
    match skipBlanks r with
    | [] => none
    | c :: r => if c = ':' then some (skipBlanks r) else none

/-- Where a value begins, and what follows it. -/
structure Extent where
  start : Text
  rest : Text

/-- The value of a member that begins with `t`, by the first of the names that fits. -/
def memberAt (kind : Kind) (names : List Text) (t : Text) : Option Extent :=
  match t with
  | [] => none
  | c :: t =>
    if c = CodePoint.quote then
      names.findSome? fun name =>
        (afterName name t).bind fun start => (kind.after start).map fun rest => ⟨start, rest⟩
    else none

/-- The text with members masked, after its first `skipped` code points, which are already written. -/
def maskFrom (f : PropertyFilter) : (skipped : Nat) → Text → Text
  | _, [] => []
  | skipped + 1, _ :: t => maskFrom f skipped t
  | 0, c :: t =>
    match memberAt f.kind f.names (c :: t) with
    | some value =>
      (c :: t).take ((c :: t).length - value.start.length) ++ Json.writeString false f.replacement
        ++ maskFrom f (t.length - value.rest.length) t
    | none => c :: maskFrom f 0 t

/-- The text with the values of the named members replaced. -/
def mask (f : PropertyFilter) (body : Text) : Text := maskFrom f 0 body

/-! ## Merging -/

/-- The filter that masks what either masks, if they mask the same kind in the same way. -/
def merge? (f g : PropertyFilter) : Option PropertyFilter :=
  if g.kind = f.kind && g.replacement = f.replacement then
    some (ofNames f.kind (f.names ++ g.names) f.replacement)
  else none

end PropertyFilter

end BodyScrub
