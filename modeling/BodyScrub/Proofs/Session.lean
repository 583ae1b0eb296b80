import BodyScrub.Proofs.Filter.Leaves
import BodyScrub.Session.Run

/-!
# What calls do to a session

A call about filters and the journal leaves the environment alone. It may keep default settings, which are then those of
the environment, and it may ask for a logger: the first call that does so opens the journal. What it has to say is
written under the journal as the call leaves it.

* **`defaultSettings_cases`**: all that asking for the default settings can do.
* **`Advances`**: what a piece of a call did to a session, and the settings with which it first asked for a logger.
  Pieces are put together by `Advances.trans`.
* **`head?_passes_run`**: a filter asks for a logger with the settings of its first leaf that is a filter by path.
* **`advances_perform`**, **`events_perform`**: what one call does, and what it writes.
* **`consistent_after`**: what all calls keep.
-/

namespace BodyScrub

open Json (Value)

namespace Filter

/-! ## The first filter by path -/

/-- The settings of a filter by path. -/
def pathSettings? : Filter → Option Settings
  | path _ settings => some settings
  | _ => none

/-- The settings of the first filter by path that a filter applies. -/
def firstSettings? (f : Filter) : Option Settings := f.leaves.findSome? pathSettings?

/-- A filter by path asks for its logger once, with its own settings. A body that cannot be read is no exception. -/
theorem passes_runPath (steps : List ScrubStep) (settings : Settings) (mediaType : Option Text) (body : Text) :
    ∃ notices, (runPath steps settings mediaType body).passes = [⟨settings, notices⟩] := by
  unfold runPath
  cases Document.read settings body with
  | error e => exact ⟨_, rfl⟩
  | ok d => exact ⟨_, rfl⟩

/-- Filters before the first filter by path neither fail nor have anything to say, and that one opens the journal
before it can fail. -/
theorem head?_passes_runAll {fs : List Filter} (hfs : ∀ f ∈ fs, f.isLeaf = true) (mediaType : Option Text)
    (body : Text) :
    (runAll mediaType fs body).passes.head?.map Pass.settings
      = if MediaType.isJson mediaType then fs.findSome? pathSettings? else none := by
  induction fs generalizing body with
  | nil => simp [runAll]
  | cons f fs ih =>
    have hrest := ih fun g hg => hfs g (List.mem_cons_of_mem _ hg)
    rw [runAll_cons]
    cases f with
    | noOp => cases hfs _ List.mem_cons_self
    | chain init last => cases hfs _ List.mem_cons_self
    | path steps settings =>
      rw [run]
      split
      -- the filter by path asks, and whatever follows it does not count
      · obtain ⟨notices, hpasses⟩ := passes_runPath steps settings mediaType body
        generalize runPath steps settings mediaType body = r at hpasses
        obtain ⟨passes, result⟩ := r
        obtain rfl : passes = [⟨settings, notices⟩] := hpasses
        cases result <;> rfl
      · next hjson => rw [Run.andThen_ok, hrest, if_neg hjson]
    | property p =>
      rw [run, Run.andThen_ok, hrest]
      rfl
    | external label g =>
      rw [run, Run.andThen_ok, hrest]
      rfl

/-- A filter first opens the journal with the settings of its first filter by path, and only for JSON. Where that
one stands in the chain, and what it makes of the body, does not matter. -/
theorem head?_passes_run (f : Filter) (mediaType : Option Text) (body : Text) :
    (f.run mediaType body).passes.head?.map Pass.settings
      = if MediaType.isJson mediaType then f.firstSettings? else none := by
  rw [run_eq_runAll_leaves]
  exact head?_passes_runAll (fun g hg => isLeaf_of_mem_leaves hg) mediaType body

/-- What a filter has to say about a body. -/
def notices (f : Filter) (mediaType : Option Text) (body : Text) : List Notice :=
  (f.run mediaType body).passes.flatMap Pass.notices

end Filter

/-- How settings set the journal up. -/
def Journal.Setup.ofSettings (settings : Settings) : Journal.Setup := ⟨settings.logLevel, settings.logFormat⟩

/-- Notices are written one by one, so two rows of them give two rows of events. A journal does not change by being
written to. -/
theorem Journal.events_append (j : Journal) (logger : Text) (ns ms : List Notice) :
    j.events logger (ns ++ ms) = j.events logger ns ++ j.events logger ms := by
  simp [events]

namespace Session

variable {s t u : Session}

/-! ## The default settings -/

/-- The default settings that are built anew in an environment. -/
def defaultsIn (env : Settings.Environment) : Except Fault Settings :=
  (Settings.build ⟨[], env⟩).mapError Fault.environment

/-- Asking for the default settings gives what is kept, or builds and keeps what it gives, or fails and leaves
everything as it was. Every statement about default settings goes back to these three cases. -/
theorem defaultSettings_cases (s : Session) :
    (∃ settings, s.defaults = some settings ∧ s.defaultSettings = (s, .ok settings))
      ∨ (∃ settings, s.defaults = none ∧ defaultsIn s.environment = .ok settings
        ∧ s.defaultSettings = ({ s with defaults := some settings }, .ok settings))
      ∨ ∃ e, s.defaults = none ∧ defaultsIn s.environment = .error e ∧ s.defaultSettings = (s, .error e) := by
  cases hkept : s.defaults with
  | some settings =>
    left
    exact ⟨settings, rfl, by simp [defaultSettings, hkept]⟩
  | none =>
    right
    cases hbuild : Settings.build ⟨[], s.environment⟩ with
    | ok settings =>
      left
      have hdefaults : defaultsIn s.environment = .ok settings := by
        rw [defaultsIn, hbuild]
        rfl
      exact ⟨settings, rfl, hdefaults, by simp [defaultSettings, hkept, hbuild]⟩
    | error problems =>
      right
      have hdefaults : defaultsIn s.environment = .error (.environment problems) := by
        rw [defaultsIn, hbuild]
        rfl
      exact ⟨.environment problems, rfl, hdefaults, by simp [defaultSettings, hkept, hbuild]⟩

/-- The default settings that are kept are those of the environment. -/
def Consistent (s : Session) : Prop := ∀ settings, s.defaults = some settings → defaultsIn s.environment = .ok settings

/-- As long as the environment is left alone, it makes no difference whether the default settings are kept or built
anew. -/
theorem defaultSettings_of_consistent (h : s.Consistent) : s.defaultSettings.2 = defaultsIn s.environment := by
  rcases defaultSettings_cases s with ⟨settings, hkept, hget⟩ | ⟨_, _, hbuild, hget⟩ | ⟨_, _, hbuild, hget⟩
  · rw [hget, h settings hkept]
  · rw [hget, hbuild]
  · rw [hget, hbuild]

/-- The settings of a logger for which no others are given. -/
def fallback (env : Settings.Environment) : Settings := (defaultsIn env).toOption.getD Settings.builtIn

/-! ## Pieces of calls -/

/-- `t` is `s` after a piece of a call that first asked for a logger with the settings `opened`, if it did. -/
structure Advances (opened : Option Settings) (s t : Session) : Prop where
  environment : t.environment = s.environment
  consistent : t.Consistent
  context : t.journal.context = s.journal.context
  setup : t.journal.setup = s.journal.setup.or (opened.map Journal.Setup.ofSettings)

theorem Advances.refl (h : s.Consistent) : Advances none s s := ⟨rfl, h, rfl, by simp⟩

/-- Two pieces make one piece, and of the two the first that asks counts. -/
theorem Advances.trans {a b : Option Settings} (h : Advances a s t) (h' : Advances b t u) : Advances (a.or b) s u where
  environment := h'.environment.trans h.environment
  consistent := h'.consistent
  context := h'.context.trans h.context
  setup := by
    rw [h'.setup, h.setup, Option.or_assoc]
    cases a <;> rfl

/-- Asking for the default settings may keep them, and does not concern the journal. What is kept is what the
environment gives, as `Consistent` asks. -/
theorem advances_defaultSettings (h : s.Consistent) : Advances none s s.defaultSettings.1 := by
  rcases defaultSettings_cases s with ⟨_, _, hget⟩ | ⟨settings, _, hbuild, hget⟩ | ⟨_, _, _, hget⟩
  · rw [hget]
    exact .refl h
  · rw [hget]
    refine ⟨rfl, fun other hother => ?_, rfl, by simp⟩
    obtain rfl : settings = other := by simpa using hother
    exact hbuild
  · rw [hget]
    exact .refl h

/-- The settings for a filter are given or are the default ones; neither asks for a logger. -/
theorem advances_settingsFor (h : s.Consistent) (given : Option (Entries Value)) :
    Advances none s (s.settingsFor given).1 := by
  cases given with
  | some given => exact .refl h
  | none => exact advances_defaultSettings h

/-- The journal is set up unless it is already, in which case the settings are of no effect. -/
theorem advances_openWith (h : s.Consistent) (settings : Settings) :
    Advances (some settings) s { s with journal := s.journal.openWith settings } := by
  unfold Journal.openWith
  cases hsetup : s.journal.setup with
  | some setup => exact ⟨rfl, h, rfl, by simp [hsetup]⟩
  | none => exact ⟨rfl, h, rfl, by simp [hsetup, Journal.Setup.ofSettings]⟩

/-- A journal that is open stays as it is, and the default settings are not even built. -/
theorem openJournal_of_isSome (h : s.journal.setup.isSome = true) (given : Option Settings) :
    s.openJournal given = s := by
  obtain ⟨setup, hsetup⟩ := Option.isSome_iff_exists.1 h
  simp [openJournal, hsetup]

/-- Asking for a logger opens the journal with the given settings, else with the default ones, else, where these are
refused, with the built-in ones. -/
theorem advances_openJournal (h : s.Consistent) (given : Option Settings) :
    Advances (some (given.getD (fallback s.environment))) s (s.openJournal given) := by
  cases hsetup : s.journal.setup with
  | some setup =>
    rw [openJournal_of_isSome (by simp [hsetup])]
    exact ⟨rfl, h, rfl, by simp [hsetup]⟩
  | none =>
    cases given with
    | some settings => simpa [openJournal, hsetup] using advances_openWith h settings
    | none =>
      -- the default settings are built first, and the journal is opened with what comes of it
      have hdefaults := advances_defaultSettings h
      have hopen := hdefaults.trans (advances_openWith hdefaults.consistent (fallback s.environment))
      simpa [openJournal, hsetup, defaultSettings_of_consistent h, fallback] using hopen

/-- Whoever has asked for a logger finds the journal open. -/
theorem isSome_setup_openJournal (h : s.Consistent) (given : Option Settings) :
    (s.openJournal given).journal.setup.isSome = true := by
  rw [(advances_openJournal h given).setup]
  simp

/-- Once the journal is open, logging changes nothing but what is written. So only the first of several filters can
set it up. -/
theorem fst_logPasses_of_isSome (h : s.journal.setup.isSome = true) (passes : List Filter.Pass) :
    (logPasses passes s).1 = s := by
  induction passes with
  | nil => rfl
  | cons p passes ih => simp [logPasses, openJournal_of_isSome h, ih]

/-- What filters have to say opens the journal with the settings of the first of them. -/
theorem advances_logPasses (h : s.Consistent) (passes : List Filter.Pass) :
    Advances (passes.head?.map Filter.Pass.settings) s (logPasses passes s).1 := by
  cases passes with
  | nil => exact .refl h
  | cons p passes =>
    have hopen := isSome_setup_openJournal h (some p.settings)
    simpa [logPasses, fst_logPasses_of_isSome hopen] using advances_openJournal h (some p.settings)

/-- All that filters have to say is written under the journal as the first of them leaves it, since the others do
not change it any more. -/
theorem events_logPasses (h : s.Consistent) (passes : List Filter.Pass) :
    (logPasses passes s).2
      = (logPasses passes s).1.journal.events Journal.pathLogger (passes.flatMap Filter.Pass.notices) := by
  induction passes generalizing s with
  | nil => rfl
  | cons p passes ih =>
    have hopen := isSome_setup_openJournal h (some p.settings)
    have hrest := ih (advances_openJournal h (some p.settings)).consistent
    rw [fst_logPasses_of_isSome hopen] at hrest
    simp [logPasses, hrest, fst_logPasses_of_isSome hopen, Journal.events_append]

/-! ## One call -/

/-- The context after a call. -/
def Call.context (context : Entries Value) : Call → Entries Value
  | .bindContext fields => fields.insertAll context
  | .clearContext => []
  | _ => context

/-- The settings with which a call first asks for a logger, if it does. A filter asks for one where it works by path and
the body is JSON; settings that are refused are not asked with. -/
def Call.request (env : Settings.Environment) : Call → Option Settings
  | .apply f mediaType _ => if MediaType.isJson mediaType then f.firstSettings? else none
  | .openJournal (some given) => (Settings.build ⟨given, env⟩).toOption
  | .openJournal none | .log _ _ => some (fallback env)
  | _ => none

/-- What a call has to say, and the logger to which it says it. -/
def Call.notices : Call → List (Text × Notice)
  | .apply f mediaType body => (f.notices mediaType body).map (Journal.pathLogger, ·)
  | .log logger n => [(logger, n)]
  | _ => []

def withContext (context : Entries Value) (s : Session) : Session :=
  { s with journal := { s.journal with context := context } }

/-- Asking for a logger under given settings opens the journal, unless they are refused, which stops the call before
it asks. -/
theorem perform_openJournal_cases (given : Entries Value) (s : Session) :
    (∃ settings, Settings.build ⟨given, s.environment⟩ = .ok settings
        ∧ s.perform (.openJournal (some given)) = (s.openJournal (some settings), []))
      ∨ ∃ problems, Settings.build ⟨given, s.environment⟩ = .error problems
        ∧ s.perform (.openJournal (some given)) = (s, []) := by
  cases hbuild : Settings.build ⟨given, s.environment⟩ with
  | ok settings =>
    left
    refine ⟨settings, rfl, ?_⟩
    rw [perform, buildSettings, hbuild]
    rfl
  | error problems =>
    right
    refine ⟨problems, rfl, ?_⟩
    rw [perform, buildSettings, hbuild]
    rfl

/-- A call changes the context as it says, and opens the journal if it asks for a logger. This is all that later
statements need to know of the single calls. -/
theorem advances_perform (h : s.Consistent) (c : Call) :
    Advances (c.request s.environment) (s.withContext (c.context s.journal.context)) (s.perform c).1 := by
  cases c with
  | build given path => exact advances_settingsFor h given
  | apply f mediaType body =>
    -- the passes of a filter are what is logged, and the first of them asks
    have hlog := advances_logPasses h (f.run mediaType body).passes
    rw [Filter.head?_passes_run] at hlog
    exact hlog
  | openJournal given =>
    cases given with
    | none => exact advances_openJournal h none
    | some given =>
      rcases perform_openJournal_cases given s with ⟨settings, hbuild, hperform⟩ | ⟨problems, hbuild, hperform⟩
      · rw [hperform, Call.request, hbuild]
        exact advances_openJournal h (some settings)
      · rw [hperform, Call.request, hbuild]
        exact .refl h
  | log logger n => exact advances_openJournal h none
  | bindContext fields => exact .refl h
  | clearContext => exact .refl h

/-- What a call has to say is written, each on its own and in order, if the journal as the call leaves it admits it.
So the call that opens the journal is held to its level as well. -/
theorem events_perform (h : s.Consistent) (c : Call) :
    (s.perform c).2 = (c.notices.filter fun e => (s.perform c).1.journal.admits e.1 e.2).map fun e =>
      (s.perform c).1.journal.eventOf e.1 e.2 := by
  cases c with
  | apply f mediaType body =>
    refine (events_logPasses h (f.run mediaType body).passes).trans ?_
    simp [Call.notices, perform, applyFilter, Journal.events, Filter.notices, List.filter_map, Function.comp_def]
  | log logger n => simp [perform, log, Call.notices, Journal.events, List.filter_cons, apply_ite]
  | openJournal given =>
    cases given with
    | none => rfl
    | some given =>
      rcases perform_openJournal_cases given s with ⟨_, _, hperform⟩ | ⟨_, _, hperform⟩
      · simp [hperform, Call.notices]
      · simp [hperform, Call.notices]
  | _ => rfl

/-! ## Runs of calls -/

theorem consistent_start (env : Settings.Environment) : (start env).Consistent := by
  intro settings h
  cases h

theorem after_append (calls more : List Call) (s : Session) : s.after (calls ++ more) = (s.after calls).after more := by
  simp [after]

theorem after_cons (c : Call) (calls : List Call) (s : Session) : s.after (c :: calls) = (s.perform c).1.after calls := rfl

/-- All calls keep the default settings those of the environment, as none of them changes it. The invariant holds at
the start, where nothing is kept, and so over every run. -/
theorem consistent_after (h : s.Consistent) (calls : List Call) : (s.after calls).Consistent := by
  induction calls generalizing s with
  | nil => exact h
  | cons c calls ih => exact ih (advances_perform h c).consistent

end Session

end BodyScrub
