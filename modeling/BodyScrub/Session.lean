import BodyScrub.Filter

/-!
# Sessions

What lasts from one call to the next: the environment, the default settings once they could be built from it, and
the journal. The default settings are kept until they are reset; a failure to build them is not kept.
-/

namespace BodyScrub

open Json (Value)

/-- What lasts from one call to the next. -/
structure Session where
  environment : Settings.Environment
  /-- The default settings, once they were built. -/
  defaults : Option Settings
  journal : Journal

namespace Session

/-- The session before the first call. -/
def initial : Session := ⟨[], none, Journal.initial⟩

/-! ## The environment and the settings -/

def setVariable (name value : Text) (s : Session) : Session :=
  { s with environment := s.environment.insert name value }

def unsetVariable (name : Text) (s : Session) : Session :=
  { s with environment := s.environment.erase name }

def reset (s : Session) : Session := { s with defaults := none }

/-- Settings from given values and the environment. -/
def buildSettings (given : Entries Value) (s : Session) : Except Fault Settings :=
  (Settings.build ⟨given, s.environment⟩).mapError Fault.settings

/-- The default settings: those that are kept, or else new ones from the environment. -/
def defaultSettings (s : Session) : Session × Except Fault Settings :=
  match s.defaults with
  | some settings => (s, .ok settings)
  | none =>
    match Settings.build ⟨[], s.environment⟩ with
    | .ok settings => ({ s with defaults := some settings }, .ok settings)
    | .error problems => (s, .error (.environment problems))

/-- Settings from given values, or the default settings where none are given. -/
def settingsFor (given : Option (Entries Value)) (s : Session) : Session × Except Fault Settings :=
  match given with
  | some given => (s, s.buildSettings given)
  | none => s.defaultSettings

/-! ## The journal -/

abbrev Event := Entries Value

/-- Opens the journal with some settings, else with the default ones, else with the built-in ones. -/
def openJournal (given : Option Settings) (s : Session) : Session :=
  match s.journal.setup with
  | some _ => s
  | none =>
    match given with
    | some settings => { s with journal := s.journal.openWith settings }
    | none =>
      let (s, r) := s.defaultSettings
      { s with journal := s.journal.openWith (r.toOption.getD Settings.builtIn) }

/-- Logs a notice, which opens the journal. A call that the logger refuses for the names of its fields gives no notice
and is not told here. -/
def log (logger : Text) (n : Notice) (s : Session) : Session × List Event :=
  let s := s.openJournal none
  (s, s.journal.events logger [n])

def bindContext (fields : Entries Value) (s : Session) : Session :=
  { s with journal := s.journal.bind fields }

def clearContext (s : Session) : Session := { s with journal := s.journal.clear }

/-! ## Filters -/

/-- Starts a filter by path, under given settings or the default ones. Default settings that are built for it are kept
even if the path is refused. -/
def buildPath (given : Option (Entries Value)) (path : Value) (s : Session) :
    Session × Except Fault Filter.Builder :=
  let (s, r) := s.settingsFor given
  (s, r.bind fun settings => Filter.Builder.ofValue settings path)

/-- Logs what filters by path have to say. -/
def logPasses : List Filter.Pass → Session → Session × List Event
  | [], s => (s, [])
  | p :: passes, s =>
    let s := s.openJournal (some p.settings)
    let (t, events) := logPasses passes s
    (t, s.journal.events Journal.pathLogger p.notices ++ events)

/-- Applies a filter to a body and logs what it has to say. -/
def applyFilter (f : Filter) (mediaType : Option Text) (body : Text) (s : Session) :
    Session × List Event × Except Fault Text :=
  let r := f.run mediaType body
  let (s, events) := s.logPasses r.passes
  (s, events, r.result)

end Session

end BodyScrub
