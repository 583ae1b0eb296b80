import BodyScrub.Sensitive
import BodyScrub.Settings

/-!
# The journal

What the library logs about its own work: events with a level, a logger and fields. The journal is set up once, by
the settings of whoever opens it first; later settings change nothing. An event takes over the context, in which
its own fields win, and is redacted before it is written.
-/

namespace BodyScrub

open Json (Value)

/-- Something worth logging. The names `self`, `event` and `method_name` are not names of fields here: a logger
refuses a call with a field of such a name before there is any event, so no notice comes of it. -/
structure Notice where
  level : Level
  event : Text
  fields : Entries Value

/-- How the journal was set up. -/
structure Journal.Setup where
  level : Level
  format : LogFormat
deriving DecidableEq

/-- The state of the journal. -/
structure Journal where
  setup : Option Journal.Setup
  /-- The fields that all events take over. -/
  context : Entries Value

namespace Journal

/-- The journal before anything is set up. -/
def initial : Journal := ⟨none, []⟩

/-- The logger of the library. -/
def libraryLogger : Text := "trafficlog_sdk"

/-- The logger that is asked for under a name, which may be missing or empty. -/
def loggerNamed (name : Option Text) : Text := Text.orElse name libraryLogger

/-- The logger of the filters that work by path. -/
def pathLogger : Text := libraryLogger ++ (".tier2_filters.json_path" : Text)

/-- Loggers are named from the library's down; others have nothing to do with the journal. -/
def belongs (logger : Text) : Bool :=
  logger = libraryLogger || (Text.after? (libraryLogger ++ (".": Text)) logger).isSome

/-- The journal, set up by some settings unless it is already. -/
def openWith (settings : Settings) (j : Journal) : Journal :=
  match j.setup with
  | some _ => j
  | none => { j with setup := some ⟨settings.logLevel, settings.logFormat⟩ }

def bind (fields : Entries Value) (j : Journal) : Journal := { j with context := fields.insertAll j.context }

def clear (j : Journal) : Journal := { j with context := [] }

/-- Names that the journal sets by itself. -/
def ownFields (logger : Text) (n : Notice) : Entries Value :=
  [("event", .string n.event), ("level", .string n.level.text.lower), ("logger", .string logger)]

/-- An event as it is written. -/
def eventOf (j : Journal) (logger : Text) (n : Notice) : Entries Value :=
  Sensitive.redact Sensitive.names true
    (Entries.erase "timestamp" ((ownFields logger n).insertAll (n.fields.insertAll j.context)))

def admits (j : Journal) (logger : Text) (n : Notice) : Bool :=
  match j.setup with
  | some setup => setup.level.severity ≤ n.level.severity && belongs logger
  | none => false

/-- The events that some notices write. -/
def events (j : Journal) (logger : Text) (ns : List Notice) : List (Entries Value) :=
  (ns.filter (j.admits logger)).map (j.eventOf logger)

end Journal

end BodyScrub
