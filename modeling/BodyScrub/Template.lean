import BodyScrub.Pattern.Search
import BodyScrub.Text.Word

/-!
# Templates

What a match is replaced by: text and references to groups, by number or by name. A reference is written `$1` or
`${name}`, and normally `\g<1>` or `\g<name>`; a backslash before a dollar sign makes it plain text.
-/

namespace BodyScrub

inductive Template.Part where
  | text (t : Text)
  | group (index : Nat)
deriving DecidableEq

structure Template where
  parts : List Template.Part
deriving DecidableEq

namespace Template

open Pattern (Token Stop Reader Reading Complaint)

/-! ## The normal form -/

def dollar : CodePoint := CodePoint.ofChar '$'

/-- The normal form of a reference. -/
def referenceText (name : Text) : Text := CodePoint.backslash :: ("g<" : Text) ++ name ++ (">" : Text)

/-- What a reference at the beginning of `t`, the text after a dollar sign, names, and how long it is there. -/
def reference? (t : Text) : Option (Text × Nat) :=
  let digits := t.takeWhile CodePoint.isDigit
  if !digits.isEmpty then some (digits, digits.length)
  else
    match t with
    | [] => none
    | c :: r =>
      let name := r.takeWhile CodePoint.isWord
      if c = CodePoint.openBrace && !name.isEmpty && r[name.length]? = some CodePoint.closeBrace then
        some (name, name.length + 2)
      else none

/-- The normal form of a text after its first `skipped` code points, which are already written. -/
def normalizeFrom : (skipped : Nat) → Text → Text
  | _, [] => []
  | skipped + 1, _ :: t => normalizeFrom skipped t
  | 0, c :: t =>
    if c = CodePoint.backslash then
      match t with
      | [] => [c]
      | d :: _ => (if d = dollar then [d] else [c, d]) ++ normalizeFrom 1 t
    else if c = dollar then
      match reference? t with
      | some (name, length) => referenceText name ++ normalizeFrom length t
      | none => c :: normalizeFrom 0 t
    else c :: normalizeFrom 0 t

def normalize (t : Text) : Text := normalizeFrom 0 t

/-! ## Reading the normal form -/

/-- A reference by number. The numeral has just been read, with `back` code points. -/
def numberedPart (p : Pattern) (index back : Nat) : Reader Part :=
  if Pattern.maxGroups ≤ index || p.groupCount < index then Reader.complain (.groupReference index) back
  else pure (.group index)

/-- The part after `\g`. -/
def namedPart (p : Pattern) : Reader Part := do
  if ← Reader.skip '<' then
    let name ← Reader.takeUntil '>' "group name"
    if name.isIdentifier then
      match p.names.get? name with
      | some index => pure (.group index)
      | none => Reader.refuse (.whole (.unknownName name))
    else
      match name.integer? with
      | none => Reader.complain (.badName name) (name.length + 1)
      | some i =>
        if i < 0 then Reader.complain (.badName name) (name.length + 1)
        else numberedPart p i.toNat (name.length + 1)
  else Reader.complain (.missing "<") 0

/-- The part that an escape by a digit other than zero writes: of three octal digits text, else a group. -/
def digitPart (p : Pattern) (c : CodePoint) : Reader Part := do
  let second ← Reader.takeWhile CodePoint.isAsciiDigit 1
  let octal := c.isOctalDigit && second ≠ [] && second.all CodePoint.isOctalDigit
  let third ← if octal then Reader.takeWhile CodePoint.isOctalDigit 1 else pure []
  if third ≠ [] then return .text [← Reader.octalEscape c (second ++ third)]
  else numberedPart p (Pattern.digitsIn 10 (c :: second)) (second.length + 1)

/-- The part that an escape writes. -/
def escapedPart (p : Pattern) (c : CodePoint) : Reader Part := do
  if c = 'g' then namedPart p
  else if c = '0' then
    let digits ← Reader.takeWhile CodePoint.isOctalDigit 2
    return .text [← Reader.octalEscape c digits]
  else if c.isAsciiDigit then digitPart p c
  else
    match Pattern.controlEscape? c with
    | some d => pure (.text [d])
    | none =>
      if c.isAsciiLetter then Reader.complainEscape c [] .badEscape
      else pure (.text [CodePoint.backslash, c])

/-- At most `limit` parts. -/
def readParts (p : Pattern) : (limit : Nat) → Reader (List Part)
  | 0 => pure []
  | limit + 1 => do
    match ← Reader.take with
    | none => pure []
    | some .stray => Reader.complain .strayBackslash 0
    | some (.plain c) => return .text [c] :: (← readParts p limit)
    | some (.escaped c) =>
      let part ← escapedPart p c
      return part :: (← readParts p limit)

/-- The template that a text writes for a pattern. -/
def readTokens (p : Pattern) (t : Text) : Except Stop Template := do
  let tokens := Token.ofText t
  Token.checkNext tokens
  let (parts, _) ← (readParts p tokens.length).run (Reading.ofTokens tokens)
  return ⟨parts⟩

/-- The template that a text in normal form writes for a pattern. -/
def read (p : Pattern) (t : Text) : Except Pattern.Fault Template := (readTokens p t).mapError (Stop.locate t)

/-! ## Expansion -/

def Part.expand (s : Pattern.Subject) (m : Match) : Part → Text
  | text t => t
  | group index => m.groupText s index

def expand (t : Template) (s : Pattern.Subject) (m : Match) : Text := t.parts.flatMap (Part.expand s m)

end Template

/-- The text with every match of a pattern replaced. -/
def Pattern.replace (p : Pattern) (template : Template) (t : Text) : Text := p.replaceAll template.expand t

end BodyScrub
