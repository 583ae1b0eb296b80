import BodyScrub.Document
import BodyScrub.Json.Display
import BodyScrub.Template

/-!
# Operations

What can be done to the nodes that a path addresses: take them out, put a literal in their place, replace what a
pattern matches in their text, or hand their text to a function. An operation is checked when it is built. When it
fails in the middle, the document keeps the changes made so far.
-/

namespace BodyScrub

open Json (Value)

/-! ## Literals -/

/-- The values that may be put into a document: a string, a boolean, an integer, or a finite double that is not an
integer. -/
def Json.Value.isLiteral : Value → Bool
  | .string _ => true
  | .bool _ => true
  | .integer _ => true
  | .real x => x.isFinite && !x.isIntegral
  | _ => false

/-- A value that is put into documents. -/
structure Literal where
  value : Value
  valid : value.isLiteral = true

namespace Literal

/-- A finite double may be a literal: if it is an integer it becomes that integer, and else it stays. -/
theorem isLiteral_canonical_real {x : Double} (h : x.isFinite = true) :
    (Value.real x).canonical.isLiteral = true := by
  cases hi : x.isIntegral <;> simp [Value.canonical, Value.isLiteral, h, hi]

/-- The literal that a value gives; a double that is an integer becomes that integer. -/
def ofValue : Value → Except Fault Literal
  | .string t => .ok ⟨.string t, rfl⟩
  | .bool b => .ok ⟨.bool b, rfl⟩
  | .integer i => .ok ⟨.integer i, rfl⟩
  | .real x =>
    if h : x.isFinite = true then .ok ⟨(Value.real x).canonical, isLiteral_canonical_real h⟩
    else .error (.literalNotFinite x)
  | v => .error (.literalKind v.typeWord)

end Literal

/-! ## Patterns and templates -/

/-- What a pattern is given as. -/
inductive PatternSource where
  | text (t : Text)
  /-- A pattern that has been read before. -/
  | pattern (p : Pattern)
  | other (v : Value)

def PatternSource.read : PatternSource → Except Fault Pattern
  | text t => (Pattern.read Pattern.Flags.empty t).mapError (Fault.pattern t)
  | pattern p => .ok p
  | other v => .error (.patternKind v)

structure Replacement where
  pattern : Pattern
  /-- The template in its normal form. -/
  text : Text
  template : Template
  reads : Template.read pattern text = .ok template

namespace Replacement

/-- The replacement for a pattern with the template that a text writes. -/
def ofText (p : Pattern) (t : Text) : Except Fault Replacement :=
  match h : Template.read p (Template.normalize t) with
  | .ok template => .ok ⟨p, Template.normalize t, template, h⟩
  | .error f => .error (.template (Template.normalize t) f)

/-- The replacement that a pattern and a template give; the pattern is checked first. -/
def build (source : PatternSource) (template : Value) : Except Fault Replacement :=
  match source.read with
  | .error f => .error f
  | .ok p =>
    match template with
    | .string t => ofText p t
    | _ => .error .templateKind

/-- A text with every match replaced, or nothing if there is no match. -/
def replace? (r : Replacement) (t : Text) : Option Text :=
  if r.pattern.occursIn t then some (r.pattern.replace r.template t) else none

end Replacement

/-! ## Functions -/

/-- What a function gives for a text. -/
inductive FunctionResult where
  | text (t : Text)
  /-- Something else, by the word for what it is. -/
  | other (word : Text)
  /-- A fault of its own. -/
  | raised (words : Text)
deriving DecidableEq

/-- A function on texts. -/
abbrev TextFunction := Text → FunctionResult

/-! ## Operations -/

/-- An operation on the nodes that a path addresses. -/
inductive Operation where
  | delete
  | replace (literal : Literal)
  | replaceMatches (r : Replacement)
  /-- With a pattern, only texts in which it occurs are changed. -/
  | transform (f : TextFunction) (pattern : Option Pattern)

namespace Operation

def name : Operation → Text
  | delete => "delete"
  | replace _ => "replace"
  | replaceMatches _ => "replace_matches"
  | transform _ _ => "transform"

/-- The operation that puts a literal in place. -/
def ofLiteral (v : Value) : Except Fault Operation := (Literal.ofValue v).map replace

/-- The operation that replaces what a pattern matches. -/
def ofReplacement (source : PatternSource) (template : Value) : Except Fault Operation :=
  (Replacement.build source template).map replaceMatches

/-- The operation that applies a function, if one is given. -/
def ofFunction (f : Option TextFunction) (source : Option PatternSource) : Except Fault Operation :=
  match f, source with
  | none, _ => .error .notFunction
  | some f, none => .ok (transform f none)
  | some f, some s => s.read.map fun p => transform f (some p)

/-! ## Application -/

/-- The text of a node in which matches are replaced: that of a string is the string itself. -/
def subject (settings : Settings) : Value → Except Fault Text
  | .string t => .ok t
  | v => Document.write settings v

/-- The text that takes the place of a node, if it is a string that a function applies to. -/
def transformed (f : TextFunction) (pattern : Option Pattern) (l : Location) : Except Fault (Option Text) :=
  match l.value with
  | .string t =>
    if pattern.all (·.occursIn t) then
      match f t with
      | .text t => .ok (some t)
      | .other word => .error (.functionResult l.path word)
      | .raised words => .error (.functionRaised words)
    else .ok none
  | v => .error (.target l.path v.kind)

/-- The value that takes the place of a node, or none if the node stays. -/
def update (settings : Settings) : Operation → Location → Except Fault (Option Value)
  | delete, _ => .ok none
  | replace literal, _ => .ok (some literal.value)
  | replaceMatches r, l => (subject settings l.value).map fun t => (r.replace? t).map Value.string
  | transform f pattern, l => (transformed f pattern l).map fun t => t.map Value.string

/-- Puts new values in place, one node after another, and counts them. -/
def updateEach (f : Location → Except Fault (Option Value)) : List Location → Value → Value × Except Fault Nat
  | [], v => (v, .ok 0)
  | l :: ls, v =>
    match f l with
    | .error e => (v, .error e)
    | .ok none => updateEach f ls v
    | .ok (some new) =>
      let (v, r) := updateEach f ls (Value.set l.position new v)
      (v, r.map (· + 1))

/-- Takes nodes out, one after another, and counts them. The root cannot be taken out. -/
def eraseEach : List Location → Value → Value × Except Fault Nat
  | [], v => (v, .ok 0)
  | l :: ls, v =>
    if l.isRoot then (v, .error (.rootDeleted l.path))
    else
      let (v, r) := eraseEach ls (v.erase l.position)
      (v, r.map (· + 1))

/-- Applies an operation to nodes of a document, given in document order, and counts the changes. Nodes are taken
out from the last to the first, so that the indices of those still to come stay right. -/
def apply (op : Operation) (locations : List Location) (d : Document) : Document × Except Fault Nat :=
  let (root, r) := match op with
    | delete => eraseEach locations.reverse d.root
    | op => updateEach (op.update d.settings) locations d.root
  ({ d with root }, r)

end Operation

/-! ## Steps -/

/-- An operation on what a path addresses. -/
structure ScrubStep where
  path : Path
  operation : Operation

namespace ScrubStep

/-- What a step did: how many nodes the path addressed, and how many changed. -/
structure Tally where
  matched : Nat
  changed : Nat
deriving DecidableEq

/-- Applies a step to a document. All nodes are located before the first is changed. -/
def apply (s : ScrubStep) (d : Document) : Document × Except Fault Tally :=
  let locations := d.locate s.path
  let (d, r) := s.operation.apply locations d
  (d, r.map fun changed => ⟨locations.length, changed⟩)

/-- A step as it is shown: its path and its operation. -/
def text (s : ScrubStep) : Text := s.path.text ++ (":" : Text) ++ s.operation.name

end ScrubStep

end BodyScrub
