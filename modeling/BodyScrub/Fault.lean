import BodyScrub.Failure
import BodyScrub.Json.Reader
import BodyScrub.Json.Writer
import BodyScrub.Path.Reader
import BodyScrub.Pattern.Token
import BodyScrub.Settings.Sources

/-!
# Faults

All that can go wrong, by its cause, and how each cause is reported: as a failure of the library, or, where the
fault lies outside its subject, as it came.
-/

namespace BodyScrub

open Json (Value Kind)

inductive Fault where
  | path (f : PathFault)
  /-- A literal of a kind that cannot be put into a document; the word says which. -/
  | literalKind (word : Text)
  | literalNotFinite (x : Double)
  | pattern (source : Text) (f : Pattern.Fault)
  /-- A text is not a pattern under flags of its own. -/
  | flaggedPattern (f : Pattern.Fault)
  /-- A value that is no text stands where a pattern should. -/
  | patternKind (v : Value)
  | templateKind
  | template (t : Text) (f : Pattern.Fault)
  | notFunction
  /-- A function gave something else than a text; the word says what. -/
  | functionResult (path word : Text)
  /-- A function failed by itself. -/
  | functionRaised (text : Text)
  | rootDeleted (path : Text)
  /-- A function was to be applied to a node of another kind. -/
  | target (path : Text) (kind : Kind)
  | unreadable (f : Json.ReadFault)
  | unwritable (f : Json.WriteFault)
  /-- The environment gives no valid settings. -/
  | environment (problems : List Settings.Problem)
  /-- Values that were given for settings are not valid, or the environment is not. -/
  | settings (problems : List Settings.Problem)
  | propertyKind (word : Text)
  | emptyChain

/-- A fault outside the library's own subject. -/
inductive Accident where
  | badValue
  | tooLarge
  | badPattern
deriving DecidableEq

/-- How a fault is reported. -/
inductive Report where
  | failure (f : Failure)
  /-- A failure because of some fields of the settings. -/
  | configuration (f : Failure) (problems : List Settings.Problem)
  /-- Fields of the settings by themselves. -/
  | rejected (problems : List Settings.Problem)
  | accident (kind : Accident) (text : Text)

namespace Fault

/-- A failure about something that was to be put into documents. -/
def replacement (message : Text) (detail : Option Text) : Report :=
  .failure (Failure.ofKind .replacement none (some message) detail [])

/-- How a fault of a pattern is reported by itself. -/
def accidentOf : Pattern.Fault → Accident
  | .at _ _ _ => .badPattern
  | .whole _ => .badPattern
  | .repetitionTooLarge => .tooLarge
  | .digits _ => .badValue
  | .scriptFlags => .badValue

/-- How a fault of a pattern or a template is reported, where its words are the detail of `message`. Limits that
are passed are reported by themselves. -/
def ofPattern (message : Text) (f : Pattern.Fault) : Report :=
  match accidentOf f with
  | .badPattern => replacement message (some f.text)
  | kind => .accident kind f.text

/-- The message about something that is not a pattern. -/
def patternMessage (shown : Text) : Text := "Invalid replacement pattern " ++ shown ++ ("." : Text)

/-- Why a value cannot be a pattern. -/
def patternKindDetail (v : Value) : Text :=
  match v.kind with
  | .array | .object => "unhashable type: " ++ v.typeWord.quoted
  | _ => "first argument must be string or compiled pattern"

/-- How a fault is reported. -/
def report : Fault → Report
  | path (.invalid t reason position) =>
    .failure (Failure.ofPath t reason.text (position.map Int.ofNat) none none [])
  | path (.indexDigits count) => .accident .badValue (tooManyDigits count)
  | literalKind word =>
    replacement ("Static replacements must be a string, number or boolean, got " ++ word ++ ("." : Text)) none
  | literalNotFinite x =>
    replacement ("Static replacement " ++ x.display ++ (" is not a finite number." : Text)) none
  | pattern source f => ofPattern (patternMessage source.quoted) f
  | flaggedPattern f => .accident (accidentOf f) f.text
  | patternKind v => replacement (patternMessage v.display) (some (patternKindDetail v))
  | templateKind => replacement "Replacement template must be a string." none
  | template t f => ofPattern ("Invalid replacement template " ++ t.quoted ++ ("." : Text)) f
  | notFunction => replacement "Transform requires a callable taking and returning a string." none
  | functionResult place word =>
    replacement ("Transform at " ++ place.quoted ++ (" returned " : Text) ++ word ++ (", expected str." : Text)) none
  | functionRaised text => .accident .badValue text
  | rootDeleted place =>
    .failure (Failure.ofKind .modification none (some "The document root cannot be deleted.") none
      [("path", .string place)])
  | target place kind => .failure (Failure.ofTarget place kind.text none none [])
  | unreadable f =>
    .failure (Failure.ofKind .document none none (some ("JSON parse failed: " ++ f.text)) [])
  | unwritable f =>
    .failure (Failure.ofKind .document none (some "Filtered document could not be serialized.")
      (some ("JSON serialization failed: " ++ f.text)) [])
  | environment problems =>
    .configuration (Failure.ofKind .settings none (some "Invalid TRAFFICLOG_* configuration.") none []) problems
  | settings problems => .rejected problems
  | propertyKind word => .accident .badValue ("Unknown property kind " ++ word.quoted)
  | emptyChain => .accident .badValue "ChainedBodyFilter needs at least one filter"

end Fault

end BodyScrub
