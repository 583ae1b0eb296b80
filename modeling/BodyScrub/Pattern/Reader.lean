import BodyScrub.Pattern.Escape

/-!
# Reading patterns

Alternatives between bars, each a sequence of items, and groups in parentheses, which hold alternatives again.
The flags that are in force are handed down; flags for the whole pattern may stand at its very start only.

Every step of the mutual recursion below is given fuel. A sequence spends one on every token it reads, and between
one parenthesis and the next two more are spent, so three for every token suffice.
-/

namespace BodyScrub

open Pattern in
structure Pattern where
  /-- The text it was read from. -/
  source : Text
  groupCount : Nat
  /-- The numbers of the named groups. -/
  names : Entries Nat
  node : Node

namespace Pattern

namespace Reader

/-! ## Quantifiers -/

/-- The count that digits give. No digits give none. -/
def count (digits : Text) : Except Stop (Option Nat) :=
  if digits.isEmpty then .ok none
  else if maxIntegerDigits < digits.length then .error (.digits digits.length)
  else if Node.maxRepeat ≤ digitsIn 10 digits then .error .repetitionTooLarge
  else .ok (some (digitsIn 10 digits))

/-- The bounds of a repetition after its opening brace, or nothing if the brace stands for itself; then no token is
read. -/
def bounds : Reader (Option (Nat × Option Nat)) := do
  if ← sees CodePoint.closeBrace then pure none
  else
    let s ← get
    let here ← left
    let low ← takeAll CodePoint.isAsciiDigit
    let high ← if ← skip ',' then takeAll CodePoint.isAsciiDigit else pure low
    if ← skip CodePoint.closeBrace then
      let least := (← count low).getD 0
      match ← count high with
      | none => pure (some (least, none))
      | some most =>
        if most < least then refuse (.at .repeatOrder here)
        else pure (some (least, some most))
    else
      set s
      pure none

/-- The bounds that a quantifier gives, or nothing if its brace stands for itself. -/
def quantity (c : CodePoint) : Reader (Option (Nat × Option Nat)) :=
  if c = '?' then pure (some (0, some 1))
  else if c = '*' then pure (some (0, none))
  else if c = '+' then pure (some (1, none))
  else bounds

/-- How a repetition chooses its count, by what follows the quantifier. -/
def pace : Reader Pace := do
  if ← skip '?' then pure .lazy
  else if ← skip '+' then pure .possessive
  else pure .greedy

/-- The items with the latest repeated. `start` code points remained at the quantifier. -/
def repeatLatest (start least : Nat) (most : Option Nat) : List Item → Reader (List Item)
  | [] => refuse (.at .nothingToRepeat start)
  | item :: before =>
    match item.role with
    | .anchor => refuse (.at .nothingToRepeat start)
    | .repetition => refuse (.at .multipleRepeat start)
    | .other => do
      let p ← pace
      pure (⟨.repetition, .repeated least most p item.node⟩ :: before)

/-- The code points that begin a quantifier. -/
def isQuantifier (c : CodePoint) : Bool := c = '*' || c = '+' || c = '?' || c = CodePoint.openBrace

/-- The items after a quantifier; the latest item comes first. -/
def quantify (f : Flags) (c : CodePoint) (done : List Item) : Reader (List Item) := do
  let here ← left
  match ← quantity c with
  | none => pure (Item.literal f c :: done)
  | some (least, most) => repeatLatest (here + 1) least most done

/-! ## Blanks and comments -/

/-- The blanks that mean nothing in a spaced pattern. -/
def isSpacing (c : CodePoint) : Bool := c = ' ' || (9 ≤ c.val && c.val ≤ 13)

/-- The tokens after a line feed, or none. -/
def afterLine : List Token → Except Stop (List Token)
  | [] => .ok []
  | t :: rest =>
    match Token.checkNext rest with
    | .error e => .error e
    | .ok () => if t = .plain CodePoint.newline then .ok rest else afterLine rest

/-- The tokens after a closing parenthesis. `start` code points remained at the comment. -/
def afterComment (start : Nat) : List Token → Except Stop (List Token)
  | [] => .error (.at .unterminatedComment start)
  | t :: rest =>
    match Token.checkNext rest with
    | .error e => .error e
    | .ok () => if t = .plain ')' then .ok rest else afterComment start rest

/-- A step that only passes over tokens. -/
def pass (f : List Token → Except Stop (List Token)) : Reader Unit :=
  onTokens fun ts => (f ts).map ((), ·)

/-! ## Groups and sequences -/

/-- What a parenthesis opens. -/
inductive Opening where
  /-- A group that is remembered, perhaps by name. -/
  | capture (name : Option Text)
  /-- A group with its own flags. -/
  | scoped (on off : Flags)
  | atomic
  | look (behind negated : Bool)
  | condition (index : Nat)
  /-- An item that is already complete. -/
  | item (i : Item)
  | comment
  /-- Flags for the whole pattern. -/
  | flags (on : Flags)

/-- Reads a token after the start of an extension; the end is refused. -/
def extension : Reader Token := do
  match ← take with
  | some t => pure t
  | none => complain .unexpectedEnd 0

/-- Complains about an extension that ends with the token `t`. -/
def unknownExtension {α : Type} (lead : Text) (t : Token) : Reader α :=
  complain (.unknownExtension (lead ++ t.text)) (t.text.length + lead.length)

/-- What opens after a question mark and `P`. -/
def namedOpening (f : Flags) : Reader Opening := do
  if ← skip '<' then
    let name ← takeUntil '>' "group name"
    checkName name
    pure (.capture (some name))
  else if ← skip '=' then
    let name ← takeUntil ')' "group name"
    checkName name
    let index ← named name
    if (closed? (← get) index).isNone then complain .openGroup (name.length + 1)
    else
      checkBehind index
      pure (.item ⟨.other, .backReference index f.folding⟩)
  else
    let t ← extension
    unknownExtension "?P" t

/-- What opens after a question mark and `<`. -/
def behindOpening : Reader Opening := do
  let t ← extension
  if t = .plain '=' then pure (.look true false)
  else if t = .plain '!' then pure (.look true true)
  else unknownExtension "?<" t

/-- The condition after a question mark and a parenthesis: a group by name or number. -/
def conditionOpening : Reader Opening := do
  let name ← takeUntil ')' "group name"
  let index ← if name.isIdentifier then named name else numbered name
  checkBehind index
  pure (.condition index)

/-- What a parenthesis opens. `start` code points remained at it. -/
def opening (f : Flags) (start : Nat) : Reader Opening := do
  if ← skip '?' then
    let t ← extension
    if t = .plain 'P' then namedOpening f
    else if t = .plain ':' then pure (.scoped Flags.empty Flags.empty)
    else if t = .plain '#' then
      pass (afterComment start)
      pure .comment
    else if t = .plain '=' then pure (.look false false)
    else if t = .plain '!' then pure (.look false true)
    else if t = .plain '<' then behindOpening
    else if t = .plain '(' then conditionOpening
    else if t = .plain '>' then pure .atomic
    else
      match t with
      | .plain c =>
        if Flags.isLetter c || c = '-' then
          match ← onTokens (Flags.readScope c) with
          | .whole on => pure (.flags on)
          | .group on off => pure (.scoped on off)
        else unknownExtension "?" t
      | _ => unknownExtension "?" t
  else pure (.capture none)

/-- Reads the parenthesis that closes what began where `start` code points remained. -/
def closing (start : Nat) : Reader Unit := do
  if ← skip ')' then pure () else refuse (.at .unterminatedGroup start)

/-- Inside a look-behind, the groups so far are those that may be referred to. -/
def insideBehind (behind : Bool) (body : Reader Node) : Reader Node := do
  let s ← get
  let limit := s.behindLimit
  if behind && limit.isNone then
    set { s with behindLimit := some (s.groups.length + 1) }
  let n ← body
  modify fun s => { s with behindLimit := limit }
  pure n

/-- A look ahead or behind. -/
def look (s : Reading) (behind negated : Bool) (body : Node) : Node :=
  if behind then
    let (least, most) := body.lengths (groupLengths s)
    .lookBehind negated least most body
  else .lookAhead negated body

/-- The node of a sequence whose latest item comes first. -/
def sequenceNode (done : List Item) : Node := Node.ofList (done.reverse.map (·.node))

mutual

/-- Alternatives. In the outermost ones the flags of the whole pattern are in force; `first` is the beginning of
the pattern. -/
def alternatives : (fuel : Nat) → (outermost first : Bool) → Flags → Reader Node
  | 0, _, _, _ => complain .unexpectedEnd 0
  | fuel + 1, outermost, first, f => do
    let items ← items fuel first f []
    if ← skip '|' then
      let s ← get
      let rest ← alternatives fuel outermost false (if outermost then s.flags else f)
      return .either (sequenceNode items) rest
    else return sequenceNode items

/-- The items of a sequence, the latest first, after those in `done`. -/
def items : (fuel : Nat) → (first : Bool) → Flags → (done : List Item) → Reader (List Item)
  | 0, _, _, _ => complain .unexpectedEnd 0
  | fuel + 1, first, f, done => do
    if (← sees '|') || (← sees ')') then return done
    match ← take with
    | none => return done
    | some .stray => complain .strayBackslash 0
    | some (.escaped c) => items fuel first f ((← escape f c) :: done)
    | some (.plain c) =>
      if f.spaced && isSpacing c then items fuel first f done
      else if f.spaced && c = '#' then
        pass afterLine
        items fuel first f done
      else if c = '[' then items fuel first f ((← bracketed f) :: done)
      else if isQuantifier c then items fuel first f (← quantify f c done)
      else if c = '.' then items fuel first f (Item.test (if f.dotAll then .anything else .inLine) :: done)
      else if c = '^' then
        items fuel first f (Item.anchor (if f.multiline then .lineStart else .textStart) :: done)
      else if c = '$' then
        items fuel first f (Item.anchor (if f.multiline then .lineEnd else .finalLineEnd) :: done)
      else if c = '(' then
        let start := (← left) + 1
        match ← opening f start with
        | .comment => items fuel first f done
        | .flags on =>
          if first && done.isEmpty then
            modify fun s => { s with flags := s.flags.union on }
            items fuel first (← get).flags done
          else refuse (.at .lateFlags start)
        | o => items fuel first f ((← group fuel f start o) :: done)
      else items fuel first f (Item.literal f c :: done)

/-- The rest of a group after its opening. -/
def group : (fuel : Nat) → Flags → (start : Nat) → Opening → Reader Item
  | 0, _, _, _ => complain .unexpectedEnd 0
  | fuel + 1, f, start, o => do
    match o with
    | .capture name =>
      let index ← openGroup name
      let body ← alternatives fuel false false f
      closing start
      closeGroup index body
      return ⟨.other, .capture index body⟩
    | .scoped on off =>
      let body ← alternatives fuel false false (f.within on off)
      closing start
      return ⟨.other, body⟩
    | .atomic =>
      let body ← alternatives fuel false false f
      closing start
      return ⟨.other, .atomic body⟩
    | .look behind negated =>
      let body ← insideBehind behind (alternatives fuel false false f)
      closing start
      return ⟨.other, look (← get) behind negated body⟩
    | .condition index =>
      let yes ← items fuel false f []
      let no ← if ← skip '|' then items fuel false f [] else pure []
      if ← sees '|' then complain .threeBranches 0
      else
        closing start
        return ⟨.other, .conditional index (sequenceNode yes) (sequenceNode no)⟩
    | .item i => return i
    | .comment => return ⟨.other, .empty⟩
    | .flags _ => return ⟨.other, .empty⟩

end

end Reader

/-! ## The whole pattern -/

/-- The operator that a repetition is called in a complaint. -/
def Pace.operator : Pace → Text
  | .greedy => "MAX_REPEAT"
  | .lazy => "MIN_REPEAT"
  | .possessive => "POSSESSIVE_REPEAT"

/-- A look-behind of more code points than this is refused. -/
def maxBehind : Nat := 4294967295

/-- What is wrong with the parts of a pattern that can be read: look-behinds of several lengths, and repetitions
where `plain` allows none. -/
def Node.complaint? (plain : Bool) : Node → Option Complaint
  | .empty => none
  | .test _ => none
  | .anchor _ => none
  | .seq first second => (first.complaint? plain).or (second.complaint? plain)
  | .either first second => (first.complaint? plain).or (second.complaint? plain)
  | .capture _ body => body.complaint? plain
  | .repeated _ _ pace body => if plain then some (.templateOperator pace.operator) else body.complaint? plain
  | .backReference _ _ => none
  | .lookAhead _ body => body.complaint? plain
  | .lookBehind _ least most body =>
    if maxBehind < least then some .longLookBehind
    else if least ≠ most then some .variableLookBehind
    else body.complaint? plain
  | .atomic body => body.complaint? plain
  | .conditional _ yes no => (yes.complaint? plain).or (no.complaint? plain)

/-- The pattern that a text writes under some flags. -/
def readTokens (flags : Flags) (source : Text) : Except Stop Pattern := do
  let tokens := Token.ofText source
  Token.checkNext tokens
  let s := { Reading.ofTokens tokens with flags }
  let (node, s) ← (Reader.alternatives (3 * tokens.length + 3) true true flags).run s
  if s.flags.isTorn then .error .scriptFlags
  else if !s.tokens.isEmpty then .error (.at .unbalanced (Token.left s.tokens))
  else
    match s.conditions.find? fun c => s.groups.length < c.1 with
    | some (index, left) => .error (.at (.groupReference index) left)
    | none =>
      match node.complaint? s.flags.plain with
      | some complaint => .error (.whole complaint)
      | none => .ok ⟨source, s.groups.length, s.names, node⟩

/-- The pattern that a text writes under some flags. -/
def read (flags : Flags) (source : Text) : Except Fault Pattern :=
  (readTokens flags source).mapError (Stop.locate source)

end Pattern

end BodyScrub
