import BodyScrub.Entries
import BodyScrub.Json.Display
import BodyScrub.Settings
import BodyScrub.Text.Case

/-!
# Where settings come from

A field takes the value given for it, else that of its environment variable, else the built-in one. The value may
come as text or as another kind that means the same. All fields that do not hold a valid value are reported at
once, in the order of their declaration.
-/

namespace BodyScrub

open Json (Value)

namespace Settings

/-- The fields of the settings, in the order of their declaration. -/
inductive Field where
  | asciiOnly
  | compact
  | allowNonFinite
  | maxPathLength
  | logLevel
  | logFormat
deriving DecidableEq

namespace Field

def all : List Field := [asciiOnly, compact, allowNonFinite, maxPathLength, logLevel, logFormat]

/-- The name under which a field is given. -/
def name : Field → Text
  | asciiOnly => "ensure_ascii"
  | compact => "compact"
  | allowNonFinite => "allow_nan"
  | maxPathLength => "max_path_length"
  | logLevel => "log_level"
  | logFormat => "log_format"

/-- The name of the environment variable of a field, in lower case. -/
def variableName (f : Field) : Text := ("trafficlog_" : Text) ++ f.name

end Field

/-- Why a value is not valid for a field. -/
inductive Fault where
  | unknownFlag
  | notFlag
  | unreadableInteger
  | integerTooLong
  | fractional
  | notFinite
  | notInteger
  | notText
  | notPositive (n : Int)
  | unknownLevel (t : Text)
  | unknownFormat (t : Text)
deriving DecidableEq

namespace Fault

/-- The kind of a fault, for programs. -/
def code : Fault → Text
  | unknownFlag => "bool_parsing"
  | notFlag => "bool_type"
  | unreadableInteger => "int_parsing"
  | integerTooLong => "int_parsing_size"
  | fractional => "int_from_float"
  | notFinite => "finite_number"
  | notInteger => "int_type"
  | notText => "string_type"
  | notPositive _ => "value_error"
  | unknownLevel _ => "value_error"
  | unknownFormat _ => "value_error"

/-- The names of a choice, sorted, as they are listed in a message. -/
def choices (names : List Text) : Text :=
  (Value.array ((names.mergeSort Text.le).map Value.string)).display

def text : Fault → Text
  | unknownFlag => "Input should be a valid boolean, unable to interpret input"
  | notFlag => "Input should be a valid boolean"
  | unreadableInteger => "Input should be a valid integer, unable to parse string as an integer"
  | integerTooLong => "Unable to parse input string as an integer, exceeded maximum size"
  | fractional => "Input should be a valid integer, got a number with a fractional part"
  | notFinite => "Input should be a finite number"
  | notInteger => "Input should be a valid integer"
  | notText => "Input should be a valid string"
  | notPositive n => "Value error, max_path_length must be positive, got " ++ Text.ofInt n
  | unknownLevel t =>
    "Value error, log_level must be one of " ++ choices (Level.all.map Level.text) ++ ", got " ++ t.quoted
  | unknownFormat t =>
    "Value error, log_format must be one of " ++ choices (LogFormat.all.map LogFormat.text) ++ ", got "
      ++ t.quoted

end Fault

/-- A field without a valid value. -/
structure Problem where
  field : Field
  fault : Fault
deriving DecidableEq

/-! ## Reading a value -/

/-- The words for a flag that is off, and for one that is on. -/
def offWords : List Text := ["0", "f", "n", "no", "off", "false"]

def onWords : List Text := ["1", "t", "y", "yes", "on", "true"]

/-- The flag that a text writes, in either case of its letters. -/
def flagOfText (t : Text) : Except Fault Bool :=
  let word := t.map CodePoint.asciiLower
  if onWords.contains word then .ok true
  else if offWords.contains word then .ok false
  else .error .unknownFlag

/-- The flag that an integer means. -/
def flagOfInteger (i : Int) : Except Fault Bool :=
  if i = 1 then .ok true else if i = 0 then .ok false else .error .unknownFlag

/-- The magnitude of the least signed word of 64 bits. -/
def wordBound : Nat := Nat.pow 2 63

/-- Whether an integer fits into a signed word of 64 bits. -/
def fitsWord (i : Int) : Bool := -(wordBound : Int) ≤ i && i < wordBound

/-- The integer that a finite double is, which has to lie below `wordBound` in magnitude. -/
def integerOfDouble (x : Double) : Except Fault Int :=
  if !x.isFinite then .error .notFinite
  else if !x.isIntegral then .error .fractional
  else if wordBound ≤ x.truncate.natAbs then .error .integerTooLong
  else .ok x.truncate

/-- The flag that a value means. Numbers beyond a word are not flags at all. -/
def flagOf : Value → Except Fault Bool
  | .bool b => .ok b
  | .string t => flagOfText t
  | .integer i => if fitsWord i then flagOfInteger i else .error .notFlag
  | .real x =>
    match integerOfDouble x with
    | .ok i => flagOfInteger i
    | .error _ => .error .notFlag
  | _ => .error .notFlag

/-- Blanks that may stand around the text of an integer: white space except the information separators. -/
def isOuterBlank (c : CodePoint) : Bool := c.isBlank && !(0x1C ≤ c.val && c.val ≤ 0x1F)

/-- The digits `0` to `9` of a text in which single underscores may stand between digits. -/
def plainDigits? (t : Text) : Option (List Nat) :=
  if t.all fun c => c.isAsciiDigit || c = '_' then Text.ungroup? t else none

/-- The text without a point and zeros at its end, if it has a point. -/
def dropZeroFraction (t : Text) : Text :=
  match Text.cut? '.' t with
  | some (whole, fraction) => if fraction.all (· = CodePoint.ofChar '0') then whole else t
  | none => t

/-- The integer that a text writes, with blanks around it, a sign, and nothing but zeros after a point. -/
def integerOfText (t : Text) : Except Fault Int :=
  let t := t.trim isOuterBlank
  if maxIntegerDigits < t.length then .error .integerTooLong
  else
    let magnitude (digits : Text) : Except Fault Nat :=
      match plainDigits? (dropZeroFraction digits) with
      | some vs => .ok (Text.spelled 10 vs)
      | none => .error .unreadableInteger
    match t with
    | [] => .error .unreadableInteger
    | c :: digits =>
      if c = '-' then (magnitude digits).map fun n => -(n : Int)
      else if c = '+' then (magnitude digits).map Int.ofNat
      else (magnitude (c :: digits)).map Int.ofNat

/-- The integer that a value means. -/
def integerOf : Value → Except Fault Int
  | .integer i => .ok i
  | .bool b => .ok (if b then 1 else 0)
  | .string t => integerOfText t
  | .real x => integerOfDouble x
  | _ => .error .notInteger

/-- The text that a value is. -/
def textOf : Value → Except Fault Text
  | .string t => .ok t
  | _ => .error .notText

/-- The length that a value means, which has to be positive. -/
def lengthOf (v : Value) : Except Fault Int :=
  (integerOf v).bind fun n => if n ≤ 0 then .error (.notPositive n) else .ok n

/-- The level that a value names, in any letter case. -/
def levelOf (v : Value) : Except Fault Level :=
  (textOf v).bind fun t =>
    match Level.all.find? (·.text = t.upper) with
    | some l => .ok l
    | none => .error (.unknownLevel t)

/-- The format that a value names, in any letter case. -/
def formatOf (v : Value) : Except Fault LogFormat :=
  (textOf v).bind fun t =>
    match LogFormat.all.find? (·.text = t.lower) with
    | some f => .ok f
    | none => .error (.unknownFormat t)

/-! ## Settings from their sources -/

/-- An environment: variables in the order in which they were first set. -/
abbrev Environment := Entries Text

/-- The value of a variable whose name is given in lower case; names differ in letter case only, and of several
such variables the last counts. -/
def lookUp (name : Text) (env : Environment) : Option Text :=
  (env.reverse.find? fun (n, _) => n.lower = name).map (·.2)

/-- The fault of a reading, if it failed. -/
def faultOf? {α : Type} : Except Fault α → Option Fault
  | .ok _ => none
  | .error e => some e

/-- Where the values of the fields come from. -/
structure Sources where
  given : Entries Value
  environment : Environment

namespace Sources

/-- The value that counts for a field; none means the built-in one. -/
def value? (s : Sources) (f : Field) : Option Value :=
  match s.given.get? f.name with
  | some v => some v
  | none => (lookUp f.variableName s.environment).map Value.string

/-- A field read from the value that counts, or its built-in value. -/
def field {α : Type} (s : Sources) (f : Field) (builtIn : α) (ofValue : Value → Except Fault α) :
    Except Fault α :=
  match s.value? f with
  | some v => ofValue v
  | none => .ok builtIn

/-- What is wrong with the value that counts for a field. -/
def fault? (s : Sources) (f : Field) : Option Fault :=
  (s.value? f).bind fun v =>
    match f with
    | .asciiOnly | .compact | .allowNonFinite => faultOf? (flagOf v)
    | .maxPathLength => faultOf? (lengthOf v)
    | .logLevel => faultOf? (levelOf v)
    | .logFormat => faultOf? (formatOf v)

/-- The fields without a valid value, in the order of their declaration. -/
def problems (s : Sources) : List Problem :=
  Field.all.filterMap fun f => (s.fault? f).map (⟨f, ·⟩)

end Sources

/-- The settings that sources give, or all fields without a valid value. -/
def build (s : Sources) : Except (List Problem) Settings :=
  match s.field .asciiOnly builtIn.asciiOnly flagOf, s.field .compact builtIn.compact flagOf,
      s.field .allowNonFinite builtIn.allowNonFinite flagOf,
      s.field .maxPathLength builtIn.maxPathLength lengthOf,
      s.field .logLevel builtIn.logLevel levelOf, s.field .logFormat builtIn.logFormat formatOf with
  | .ok asciiOnly, .ok compact, .ok allowNonFinite, .ok maxPathLength, .ok logLevel, .ok logFormat =>
    .ok ⟨asciiOnly, compact, allowNonFinite, maxPathLength, logLevel, logFormat⟩
  | _, _, _, _, _, _ => .error s.problems

end Settings

end BodyScrub
