import BodyScrub.Json.Value
import BodyScrub.Text.Numeral
import BodyScrub.Text.Quoted

/-!
# Failures

What is reported to the caller when something fails: a stable code for programs, a message that is meant to be
logged, and a detail for those who look into it. The values of a body do not get into a message. A message about a
node quotes the path of that node, though, and with it the names of the members on the way there, those that a
wildcard reached among them.
-/

namespace BodyScrub

open Json (Value)

inductive Failure.Kind where
  | general
  | path
  | replacement
  | modification
  | settings
  | document
  | target
deriving DecidableEq

/-- What a failure is about, beyond its message. -/
inductive Failure.Subject where
  | nothing
  | path (path reason : Text) (position : Option Int)
  | node (path kind : Text)
deriving DecidableEq

/-- A failure as it is reported. -/
structure Failure where
  kind : Failure.Kind
  code : Text
  message : Text
  detail : Text
  metadata : Entries Value
  subject : Failure.Subject

namespace Failure

/-- The code of a kind, where none is given. -/
def Kind.code : Kind → Text
  | .general => "filter_error"
  | .path => "path_syntax_error"
  | .replacement => "invalid_replacement"
  | .modification => "invalid_modification"
  | .settings => "configuration_error"
  | .document => "malformed_document"
  | .target => "unsupported_dynamic_target"

/-- The message of a kind, where none is given. -/
def Kind.message : Kind → Text
  | .document => "Body declared as JSON could not be parsed."
  | _ => "Body filtering failed."

/-- A failure of a kind. Without a code it has that of its kind, and without a detail its message is the detail. -/
def ofKind (kind : Kind) (code message detail : Option Text) (metadata : Entries Value) : Failure :=
  let text := message.getD kind.message
  ⟨kind, Text.orElse code kind.code, text, Text.orElse detail text, metadata, .nothing⟩

/-- The message about a text that is not a path. -/
def pathMessage (path reason : Text) (position : Option Int) : Text :=
  "Invalid path expression " ++ path.quoted ++ (": " : Text) ++ reason
    ++ (match position with
      | some p => " at position " ++ Text.ofInt p
      | none => [])
    ++ ("." : Text)

/-- A failure about a text that is not a path. -/
def ofPath (path reason : Text) (position : Option Int) (code detail : Option Text) (more : Entries Value) :
    Failure :=
  { ofKind .path code (some (pathMessage path reason position)) detail
      (more.insertAll [("path", .string path)]) with
    subject := .path path reason position }

/-- The message about a node that no function can be applied to. -/
def targetMessage (path kind : Text) : Text :=
  "Function replacement at " ++ path.quoted ++ (" requires a string, got " : Text) ++ kind ++ ("." : Text)

/-- A failure about a node that no function can be applied to. -/
def ofTarget (path kind : Text) (code detail : Option Text) (more : Entries Value) : Failure :=
  { ofKind .target code (some (targetMessage path kind)) detail
      (more.insertAll [("path", .string path), ("node_type", .string kind)]) with
    subject := .node path kind }

/-- The failure as a JSON object for programs. -/
def toValue (f : Failure) : Value :=
  let place : Entries Value := match f.subject with
    | .path path _ (some position) => [("path", .string path), ("position", .integer position)]
    | .path path _ none => [("path", .string path)]
    | _ => []
  let known : Entries Value := [("code", .string f.code), ("message", .string f.message)]
  .object [("error", .object (known ++ place))]

end Failure

end BodyScrub
