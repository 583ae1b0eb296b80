import BodyScrub.Session

/-!
# Runs

What callers do to a session, one call after another. Calls about the settings change the environment and ask for the
default settings; calls about filters and the journal leave the environment alone.
-/

namespace BodyScrub

open Json (Value)

namespace Session

/-- The session in an environment before the first call. -/
def start (env : Settings.Environment) : Session := { initial with environment := env }

/-! ## Calls about the settings -/

/-- What a caller does about the settings. -/
inductive SettingsCall where
  | setVariable (name value : Text)
  | unsetVariable (name : Text)
  | reset
  /-- Builds settings from given values, for the caller alone. -/
  | construct (given : Entries Value)
  /-- Asks for the default settings. -/
  | get

/-- Default settings, and which of those that were built they are. What was built at two times are two objects, be
they equal or not. -/
structure Built where
  number : Nat
  settings : Settings

/-- A session that numbers its default settings as it builds them. -/
structure Numbered where
  session : Session
  /-- How many were built; those that are kept are the last. -/
  builds : Nat

namespace Numbered

def start (env : Settings.Environment) : Numbered := ⟨Session.start env, 0⟩

/-- Asks for the default settings: those that are kept, or else newly built ones under the next number. -/
def get (s : Numbered) : Numbered × Except Fault Built :=
  match s.session.defaultSettings with
  | (t, .ok settings) =>
    let builds := if s.session.defaults.isSome then s.builds else s.builds + 1
    (⟨t, builds⟩, .ok ⟨builds, settings⟩)
  | (t, .error e) => (⟨t, s.builds⟩, .error e)

/-- The numbers are only added: a get does to the session what asking for the default settings does. -/
theorem session_get (s : Numbered) : s.get.1.session = s.session.defaultSettings.1 := by
  unfold get
  split <;> simp [*]

/-- What a get answers has the settings that asking for the default settings gives. -/
theorem settings_get (s : Numbered) : s.get.2.map Built.settings = s.session.defaultSettings.2 := by
  unfold get
  split <;> simp [*, Except.map]

/-- The session after a call. Settings that a caller builds leave no trace. -/
def perform (s : Numbered) : SettingsCall → Numbered
  | .setVariable name value => { s with session := s.session.setVariable name value }
  | .unsetVariable name => { s with session := s.session.unsetVariable name }
  | .reset => { s with session := s.session.reset }
  | .construct _ => s
  | .get => s.get.1

/-- The session after calls. -/
def after (calls : List SettingsCall) (s : Numbered) : Numbered := calls.foldl perform s

end Numbered

/-! ## Calls about filters and the journal -/

/-- What a caller does with filters and the journal. -/
inductive Call where
  /-- Starts a filter by path, under given settings or else the default ones. All other filters are built without the
  session. -/
  | build (given : Option (Entries Value)) (path : Value)
  | apply (f : Filter) (mediaType : Option Text) (body : Text)
  /-- Asks for a logger, under given settings or else the default ones. -/
  | openJournal (given : Option (Entries Value))
  | log (logger : Text) (n : Notice)
  | bindContext (fields : Entries Value)
  | clearContext

/-- The session after a call, and the events that the call writes. -/
def perform (s : Session) : Call → Session × List Event
  | .build given path => ((s.buildPath given path).1, [])
  | .apply f mediaType body =>
    let (t, events, _) := s.applyFilter f mediaType body
    (t, events)
  | .openJournal none => (s.openJournal none, [])
  | .openJournal (some given) =>
    match s.buildSettings given with
    | .ok settings => (s.openJournal (some settings), [])
    | .error _ => (s, [])
  | .log logger n => s.log logger n
  | .bindContext fields => (s.bindContext fields, [])
  | .clearContext => (s.clearContext, [])

/-- The session after calls. -/
def after (calls : List Call) (s : Session) : Session := calls.foldl (fun s c => (s.perform c).1) s

end Session

end BodyScrub
