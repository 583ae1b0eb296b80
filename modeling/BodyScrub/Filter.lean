import BodyScrub.Journal
import BodyScrub.MediaType
import BodyScrub.Operation
import BodyScrub.PropertyFilter

/-!
# Filters

A filter takes a body with its declared media type and gives a body that may be logged. Filters by path read the
body once, apply all their steps and write it once; property filters work on the text; a chain applies filters one
after another. Two filters are merged into one where that does the work of both, and chained otherwise.
-/

namespace BodyScrub

open Json (Value)

/-- A filter for bodies. -/
inductive Filter where
  | noOp
  | path (steps : List ScrubStep) (settings : Settings)
  | property (p : PropertyFilter)
  /-- A filter from outside, under some label. -/
  | external (label : Text) (run : Option Text → Text → Text)
  /-- One filter or more, one after another. -/
  | chain (init : List Filter) (last : Filter)

namespace Filter

/-! ## Building filters -/

/-- The filter of one step. -/
def ofStep (settings : Settings) (path : Path) (op : Operation) : Filter := .path [⟨path, op⟩] settings

/-- A path that waits for its operation, under the settings of the filter that comes of it. -/
structure Builder where
  settings : Settings
  path : Path

namespace Builder

/-- Reads the path that a value writes, within the length that the settings allow. -/
def ofValue (settings : Settings) (v : Value) : Except Fault Builder :=
  match Path.ofValue settings.maxPathLength v with
  | .ok path => .ok ⟨settings, path⟩
  | .error f => .error (.path f)

/-- The filter for an operation, which may not take the root out. -/
def filter (b : Builder) : Operation → Except Fault Filter
  | .delete => if b.path.isRoot then .error (.rootDeleted b.path.text) else .ok (ofStep b.settings b.path .delete)
  | op => .ok (ofStep b.settings b.path op)

/-- A path that waits for its operation, as it is shown. -/
def text (b : Builder) : Text := ("json_path(" : Text) ++ b.path.text.quoted ++ (")" : Text)

end Builder

/-- The chain of some filters, which has to have one at least. -/
def ofList (fs : List Filter) : Except Fault Filter :=
  match fs.getLast? with
  | some last => .ok (.chain fs.dropLast last)
  | none => .error .emptyChain

/-- The property filter of a kind that is given by its word. -/
def ofKind (kind : Text) (names : List Text) (replacement : Text) : Except Fault Filter :=
  match PropertyFilter.Kind.ofText? kind with
  | some k => .ok (.property (.ofNames k names replacement))
  | none => .error (.propertyKind kind)

/-! ## Merging -/

/-- `a` and then `b`, which is no chain, in one filter, if there is one that does the work of both. A chain passes
`b` on to its last filter. -/
def absorb (b : Filter) : Filter → Option Filter
  | noOp => some b
  | path steps settings =>
    match b with
    | path more others => if others = settings then some (path (steps ++ more) settings) else none
    | _ => none
  | property p =>
    match b with
    | property q => (p.merge? q).map property
    | _ => none
  | external _ _ => none
  | chain init last =>
    match absorb b last with
    | some merged => some (chain init merged)
    | none => some (chain (init ++ [last]) b)

mutual

/-- `a` and then `b` in one filter: merged if possible, else chained. -/
def merge : Filter → Filter → Filter
  | a, noOp => a
  | a, chain init last =>
    match a with
    | noOp => chain init last
    | chain _ _ => merge (mergeAll a init) last
    | a => chain [a] (chain init last)
  | a, path steps settings => (absorb (path steps settings) a).getD (chain [a] (path steps settings))
  | a, property p => (absorb (property p) a).getD (chain [a] (property p))
  | a, external label run => (absorb (external label run) a).getD (chain [a] (external label run))

/-- `a` merged with filters one after another. -/
def mergeAll : Filter → List Filter → Filter
  | a, [] => a
  | a, f :: fs => mergeAll (merge a f) fs

end

/-- `a` and then `b` in one filter, if there is one that does the work of both. -/
def tryMerge (a b : Filter) : Option Filter :=
  match b with
  | chain init last =>
    match a with
    | noOp => some b
    | chain _ _ => some (merge (mergeAll a init) last)
    | _ => none
  | b => absorb b a

/-! ## Comparing -/

mutual

/-- Whether two filters are property filters, or chains of them, that mask the same. -/
def sameAs : Filter → Filter → Bool
  | noOp, noOp => true
  | property p, property q => p = q
  | chain init last, chain init' last' => allSameAs init init' && sameAs last last'
  | _, _ => false

/-- Whether two lists hold the same filters in order. -/
def allSameAs : List Filter → List Filter → Bool
  | [], [] => true
  | f :: fs, g :: gs => sameAs f g && allSameAs fs gs
  | _, _ => false

end

/-! ## Showing -/

/-- The steps of a filter as they are shown. -/
def stepsText (steps : List ScrubStep) : Text :=
  ("JsonPathBodyFilter(" : Text) ++ Text.join ", " (steps.map ScrubStep.text) ++ (")" : Text)

/-- The filter that does nothing, as it is shown. -/
def noOpText : Text := "no_op()"

/-! ## Applying -/

/-- What one filter by path has to say about a body: it opens the journal with its settings. -/
structure Pass where
  settings : Settings
  notices : List Notice

/-- What came of a filter. -/
structure Run where
  passes : List Pass
  result : Except Fault Text

/-- The notice about a body that is not JSON although its media type says so. -/
def malformedNotice (steps : List ScrubStep) (mediaType : Option Text) (f : Fault) : Notice :=
  let reason : Text := match f.report with
    | .failure f => f.detail
    | _ => []
  ⟨.warning, "json_filter.malformed_document",
    [("paths", .array (steps.map fun s => .string s.path.text)),
      ("media_type", (mediaType.map Value.string).getD .null), ("reason", .string reason)]⟩

/-- The notice about a step that was applied. -/
def appliedNotice (s : ScrubStep) (t : ScrubStep.Tally) : Notice :=
  ⟨.debug, "json_filter.applied",
    [("path", .string s.path.text), ("operation", .string s.operation.name),
      ("matches", .integer t.matched), ("changed", .integer t.changed)]⟩

/-- Applies steps to a document one after another: the notices about them, and the document with the number of
changes in all. -/
def runSteps : List ScrubStep → Document → List Notice × Except Fault (Document × Nat)
  | [], d => ([], .ok (d, 0))
  | s :: steps, d =>
    match s.apply d with
    | (_, .error e) => ([], .error e)
    | (d, .ok t) =>
      let (notices, r) := runSteps steps d
      (appliedNotice s t :: notices, r.map fun (d, changed) => (d, t.changed + changed))

/-- Runs the steps of a filter by path. A body in which nothing changes stays as it is spelled. -/
def runPath (steps : List ScrubStep) (settings : Settings) (mediaType : Option Text) (body : Text) : Run :=
  match Document.read settings body with
  | .error e => ⟨[⟨settings, [malformedNotice steps mediaType e]⟩], .error e⟩
  | .ok d =>
    let (notices, r) := runSteps steps d
    ⟨[⟨settings, notices⟩], r.bind fun (d, changed) => if changed = 0 then .ok body else d.text⟩

mutual

/-- Runs a filter on a body. Only bodies whose media type means JSON are touched by filters by path and by property
filters. -/
def run (mediaType : Option Text) : Filter → Text → Run
  | noOp, body => ⟨[], .ok body⟩
  | path steps settings, body =>
    if MediaType.isJson mediaType then runPath steps settings mediaType body else ⟨[], .ok body⟩
  | property p, body => ⟨[], .ok (if MediaType.isJson mediaType then p.mask body else body)⟩
  | external _ f, body => ⟨[], .ok (f mediaType body)⟩
  | chain init last, body =>
    match runAll mediaType init body with
    | ⟨passes, .error e⟩ => ⟨passes, .error e⟩
    | ⟨passes, .ok body⟩ =>
      let r := run mediaType last body
      ⟨passes ++ r.passes, r.result⟩

/-- Runs filters one after another, each on what the one before it gave, up to the first fault. -/
def runAll (mediaType : Option Text) : List Filter → Text → Run
  | [], body => ⟨[], .ok body⟩
  | f :: fs, body =>
    match run mediaType f body with
    | ⟨passes, .error e⟩ => ⟨passes, .error e⟩
    | ⟨passes, .ok body⟩ =>
      let r := runAll mediaType fs body
      ⟨passes ++ r.passes, r.result⟩

end

def apply (f : Filter) (mediaType : Option Text) (body : Text) : Except Fault Text := (f.run mediaType body).result

end Filter

end BodyScrub
