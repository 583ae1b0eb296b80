import BodyScrub.Entries
import BodyScrub.Pattern.Flags
import BodyScrub.Pattern.Node

/-!
# Reading in progress

What is known while a pattern is read: the tokens still to come, the flags of the whole, and the groups so far.
A group that is still open may not be referred to, nor may a look-behind refer to a group that began inside it.
-/

namespace BodyScrub.Pattern

/-- What is known while a pattern is read. -/
structure Reading where
  tokens : List Token
  /-- The flags of the whole pattern. -/
  flags : Flags
  names : Entries Nat
  /-- For every group the least and the greatest length of what it matches, once it is closed. -/
  groups : List (Option (Nat × Nat))
  /-- The groups from this number on began inside a look-behind. -/
  behindLimit : Option Nat
  /-- The groups that conditions name by number, with the code points left there. -/
  conditions : List (Nat × Nat)

/-- Reading of these tokens, before the first of them. -/
def Reading.ofTokens (tokens : List Token) : Reading := ⟨tokens, Flags.empty, [], [], none, []⟩

abbrev Reader := StateT Reading (Except Stop)

namespace Reader

/-- The number of code points still to come. -/
def left : Reader Nat := fun s => .ok (Token.left s.tokens, s)

/-- Complains about a place `back` code points before the next token. -/
def complain {α : Type} (complaint : Complaint) (back : Nat) : Reader α := fun s =>
  .error (.at complaint (Token.left s.tokens + back))

/-- Stops for a reason that has its place already, or none. -/
def refuse {α : Type} (e : Stop) : Reader α := fun _ => .error e

/-- A step that concerns the tokens alone. -/
def onTokens {α : Type} (f : List Token → Except Stop (α × List Token)) : Reader α := fun s =>
  (f s.tokens).map fun (a, ts) => (a, { s with tokens := ts })

def take : Reader (Option Token) := onTokens Token.take

/-- Whether `c` came next; then it is read. -/
def skip (c : CodePoint) : Reader Bool :=
  onTokens fun ts => (Token.skip? c ts).map fun
    | some rest => (true, rest)
    | none => (false, ts)

/-- Whether `c` comes next. -/
def sees (c : CodePoint) : Reader Bool := fun s => .ok (s.tokens.head? == some (.plain c), s)

/-- At most `limit` code points of a class. -/
def takeWhile (p : CodePoint → Bool) (limit : Nat) : Reader Text := onTokens (Token.takeWhile p limit)

/-- The longest run of code points of a class. -/
def takeAll (p : CodePoint → Bool) : Reader Text :=
  onTokens fun ts => Token.takeWhile p ts.length ts

/-- The text up to `closing`, which names a `what`. -/
def takeUntil (closing : CodePoint) (what : Text) : Reader Text :=
  onTokens (Token.takeUntil closing what [])

/-! ## Groups -/

/-- The lengths of what a group matches, if it is closed. -/
def closed? (s : Reading) (index : Nat) : Option (Nat × Nat) :=
  if index = 0 then none else (s.groups[index - 1]?).join

/-- The lengths of what closed groups match. -/
def groupLengths (s : Reading) (index : Nat) : Nat × Nat := (closed? s index).getD (0, 0)

/-- Refuses a group that may not be referred to inside a look-behind. -/
def checkBehind (index : Nat) : Reader Unit := do
  let s ← get
  match s.behindLimit with
  | none => pure ()
  | some limit =>
    if (closed? s index).isNone then complain .openGroup 0
    else if limit ≤ index then complain .sameLookBehind 0
    else pure ()

/-- Refuses a name that is no identifier. -/
def checkName (name : Text) : Reader Unit :=
  if name.isIdentifier then pure () else complain (.badName name) (name.length + 1)

/-- The group of a name. -/
def named (name : Text) : Reader Nat := do
  match (← get).names.get? name with
  | some index => pure index
  | none => complain (.unknownName name) (name.length + 1)

/-- Opens the next group, which may have a name, and gives its number. -/
def openGroup (name : Option Text) : Reader Nat := do
  let s ← get
  let index := s.groups.length + 1
  match name with
  | none =>
    if maxGroups ≤ index then refuse (.whole .tooManyUnnamed)
    else
      set { s with groups := s.groups ++ [none] }
      pure index
  | some name =>
    if maxGroups ≤ index then complain .tooManyGroups (name.length + 1)
    else
      match s.names.get? name with
      | some old => complain (.redefinition name index old) (name.length + 1)
      | none =>
        set { s with groups := s.groups ++ [none], names := s.names.insert name index }
        pure index

/-- Closes a group that matches `body`. -/
def closeGroup (index : Nat) (body : Node) : Reader Unit :=
  modify fun s => { s with groups := s.groups.set (index - 1) (some (body.lengths (groupLengths s))) }

/-- The number of a group that a numeral names in a condition. -/
def numbered (numeral : Text) : Reader Nat := do
  let back := numeral.length + 1
  match numeral.integer? with
  | none => complain (.badName numeral) back
  | some i =>
    if i < 0 then complain (.badName numeral) back
    else if i = 0 then complain .groupZero back
    else
      let index := i.toNat
      if maxGroups ≤ index then complain (.groupReference index) back
      else
        let here ← left
        modify fun s =>
          if s.conditions.any (·.1 = index) then s
          else { s with conditions := s.conditions ++ [(index, here + back)] }
        pure index

end Reader

end BodyScrub.Pattern
