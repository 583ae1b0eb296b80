import BodyScrub.Json.Writer

/-!
# Settings

How bodies are read and written, how long a path may be, and what the library itself logs. Settings are compared
when filters are merged.
-/

namespace BodyScrub

/-- The severity of a log event, least first. -/
inductive Level where
  | debug
  | info
  | warning
  | error
  | critical
deriving DecidableEq

namespace Level

def all : List Level := [debug, info, warning, error, critical]

def text : Level → Text
  | debug => "DEBUG"
  | info => "INFO"
  | warning => "WARNING"
  | error => "ERROR"
  | critical => "CRITICAL"

def severity : Level → Nat
  | debug => 10
  | info => 20
  | warning => 30
  | error => 40
  | critical => 50

end Level

/-- The form of log lines. -/
inductive LogFormat where
  | json
  | console
deriving DecidableEq

namespace LogFormat

def all : List LogFormat := [json, console]

def text : LogFormat → Text
  | json => "json"
  | console => "console"

end LogFormat

structure Settings where
  asciiOnly : Bool
  compact : Bool
  allowNonFinite : Bool
  maxPathLength : Int
  logLevel : Level
  logFormat : LogFormat
deriving DecidableEq

namespace Settings

/-- What holds where nothing is set. -/
def builtIn : Settings := ⟨false, true, false, 1024, .info, .json⟩

def itemSeparator (s : Settings) : Text := if s.compact then "," else ", "

def nameSeparator (s : Settings) : Text := if s.compact then ":" else ": "

def style (s : Settings) : Json.Style := ⟨s.asciiOnly, s.itemSeparator, s.nameSeparator⟩

end Settings

end BodyScrub
