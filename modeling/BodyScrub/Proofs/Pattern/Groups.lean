import Mathlib
import BodyScrub.Pattern.Search
import BodyScrub.Proofs.Entries
import BodyScrub.Proofs.Json.Tokens

/-!
# Groups of a pattern

While a pattern is read, groups are opened one after another. Each gets the next number, and a number only as long as
there are few enough groups; a name is checked before its group is opened. `Reading.Sound` says this of the groups so
far. Every reader keeps it, by one lemma for each: those that read tokens only leave the groups alone, and `openGroup`
is the one that adds to them.

* **`keeps_all`**: the readers of alternatives, items and groups, which call one another, keep it.
* **`groups_of_read`**: it holds of a pattern that is read.
-/

namespace BodyScrub.Pattern

open Std.Do

set_option mvcgen.warning false

/-- What holds of the groups while a pattern is read. -/
structure Reading.Sound (s : Reading) : Prop where
  few : s.groups.length < maxGroups
  named : ∀ e ∈ s.names, e.1.isIdentifier = true ∧ 0 < e.2 ∧ e.2 ≤ s.groups.length

/-- Only the names and the number of the groups count. What the groups contain and which of them are open may
change, as it does at the end of a group. -/
theorem Reading.Sound.of_eq {s t : Reading} (h : s.Sound) (hnames : t.names = s.names)
    (hgroups : t.groups.length = s.groups.length) : t.Sound := by
  constructor
  · simpa [hgroups] using h.few
  · simpa [hnames, hgroups] using h.named

namespace Reader

/-- A triple, read as a statement about runs. Failed runs are left out, as nothing of the groups is used after them. -/
theorem triple_iff {α : Type} {P : Reading → Prop} {Q : α → Reading → Prop} {r : Reader α} :
    ⦃fun s => ⌜P s⌝⦄ r ⦃⇓? a s => ⌜Q a s⌝⦄ ↔ ∀ s a s', P s → r s = .ok (a, s') → Q a s' := by
  constructor
  · intro h s a s' hs hr
    have hrun : ((wp (r s)).apply (fun x => ⌜Q x.1 x.2⌝, ExceptConds.true)).down := h s hs
    rw [hr] at hrun
    exact hrun
  · intro h s hs
    show ((wp (r s)).apply (fun x => ⌜Q x.1 x.2⌝, ExceptConds.true)).down
    cases hr : r s with
    | error e => trivial
    | ok p => exact h s p.1 p.2 hs hr

/-- After a successful run the groups are still in order. -/
abbrev Keeps {α : Type} (r : Reader α) : Prop := ⦃fun s => ⌜s.Sound⌝⦄ r ⦃⇓? _ s => ⌜s.Sound⌝⦄

/-- A step that concerns the tokens alone leaves the groups as they are. Most readers are made of such steps, and
for these nothing else has to be shown. -/
@[spec] theorem keeps_onTokens {α : Type} (f : List Token → Except Stop (α × List Token)) : Keeps (onTokens f) := by
  rw [Keeps, triple_iff]
  intro s a s' hs hr
  obtain ⟨p, -, hp⟩ := exists_of_map_eq_ok hr
  obtain ⟨rfl, rfl⟩ := Prod.mk.inj hp
  exact ⟨hs.few, hs.named⟩

/-! ## Tokens and complaints -/

/-- What is refused has no results, so that nothing is asked of it. This rule is tagged for the tactic that goes
through the readers, which end in a refusal at many places. -/
@[spec] theorem refuse_spec {α : Type} {Q : PostCond α (.arg Reading (.except Stop .pure))} (e : Stop) :
    ⦃fun _ => Q.2.1 e⦄ (refuse e : Reader α) ⦃Q⦄ := fun _ h => h

@[spec] theorem complain_spec {α : Type} {Q : PostCond α (.arg Reading (.except Stop .pure))} (c : Complaint)
    (b : Nat) : ⦃fun s => Q.2.1 (.at c (Token.left s.tokens + b))⦄ (complain c b : Reader α) ⦃Q⦄ := fun _ h => h

@[spec] theorem keeps_left : Keeps left := by
  rw [Keeps, triple_iff]
  intro s a s' hs hr
  cases hr
  exact hs

@[spec] theorem keeps_sees (c : CodePoint) : Keeps (sees c) := by
  rw [Keeps, triple_iff]
  intro s a s' hs hr
  cases hr
  exact hs

@[spec] theorem keeps_take : Keeps take := keeps_onTokens _
@[spec] theorem keeps_skip (c : CodePoint) : Keeps (skip c) := keeps_onTokens _
@[spec] theorem keeps_takeWhile (p : CodePoint → Bool) (limit : Nat) : Keeps (takeWhile p limit) := keeps_onTokens _
@[spec] theorem keeps_takeAll (p : CodePoint → Bool) : Keeps (takeAll p) := keeps_onTokens _
@[spec] theorem keeps_takeUntil (c : CodePoint) (what : Text) : Keeps (takeUntil c what) := keeps_onTokens _
@[spec] theorem keeps_pass (f : List Token → Except Stop (List Token)) : Keeps (pass f) := keeps_onTokens _

/-! ## References, escapes and classes -/

/-- A reference inside a look behind may be refused, and changes nothing. -/
@[spec] theorem keeps_checkBehind (index : Nat) : Keeps (checkBehind index) := by
  mvcgen [checkBehind]

@[spec] theorem keeps_named (name : Text) : Keeps (named name) := by
  mvcgen [named]

/-- A number in a condition may be noted for a check at the end; the groups do not have to be there yet. The note is
no part of the groups. -/
@[spec] theorem keeps_numbered (name : Text) : Keeps (numbered name) := by
  mvcgen [numbered]
  next s hs t =>
    dsimp only [t]
    split
    · exact hs
    · exact hs.of_eq rfl rfl

/-- At its end a group gets its contents. It keeps its number and its name, so the numbers of groups are those of
their opening brackets. -/
@[spec] theorem keeps_closeGroup (index : Nat) (body : Node) : Keeps (closeGroup index body) := by
  mvcgen [closeGroup]
  next s hs t => exact hs.of_eq rfl (by simp [t])

@[spec] theorem keeps_hexEscape (c : CodePoint) (width : Nat) : Keeps (hexEscape c width) := by
  mvcgen [hexEscape, complainEscape]

@[spec] theorem keeps_nameEscape : Keeps nameEscape := by
  mvcgen [nameEscape]

@[spec] theorem keeps_octalEscape (c : CodePoint) (digits : Text) : Keeps (octalEscape c digits) := by
  mvcgen [octalEscape, complainEscape]

@[spec] theorem keeps_selfEscape (c : CodePoint) : Keeps (selfEscape c) := by
  mvcgen [selfEscape, complainEscape]

theorem keeps_of_numberEscape? {c : CodePoint} {read : Reader CodePoint} (h : numberEscape? c = some read) :
    Keeps read := by
  unfold numberEscape? at h
  split at h
  · obtain rfl := Option.some.inj h
    exact keeps_hexEscape c 2
  split at h
  · obtain rfl := Option.some.inj h
    exact keeps_hexEscape c 4
  split at h
  · obtain rfl := Option.some.inj h
    exact keeps_hexEscape c 8
  split at h
  · obtain rfl := Option.some.inj h
    exact keeps_nameEscape
  · cases h

@[spec] theorem keeps_classEscape (c : CodePoint) : Keeps (classEscape c) := by
  mvcgen [classEscape, complainEscape]
  next hread s hs => exact keeps_of_numberEscape? hread s hs

/-- A reference by number looks whether its group is there and is complete. -/
@[spec] theorem keeps_referenceEscape (f : Flags) (digits : Text) : Keeps (referenceEscape f digits) := by
  mvcgen [referenceEscape]

@[spec] theorem keeps_digitEscape (f : Flags) (c : CodePoint) : Keeps (digitEscape f c) := by
  mvcgen [digitEscape]

@[spec] theorem keeps_escape (f : Flags) (c : CodePoint) : Keeps (escape f c) := by
  mvcgen [escape]
  next hread s hs => exact keeps_of_numberEscape? hread s hs

@[spec] theorem keeps_classEntry (t : Token) : Keeps (classEntry t) := by
  mvcgen [classEntry]

@[spec] theorem keeps_classRange (first last : Token) (low high : ClassItem) :
    Keeps (classRange first last low high) := by
  mvcgen [classRange]

/-- The entries of a class are read one by one, with a unit of fuel for each. -/
@[spec] theorem keeps_classEntries (start fuel : Nat) (done : List ClassItem) :
    Keeps (classEntries start fuel done) := by
  induction fuel generalizing done with
  | zero => mvcgen [classEntries]
  | succ fuel ih =>
    mvcgen [classEntries, ih]

@[spec] theorem keeps_bracketed (f : Flags) : Keeps (bracketed f) := by
  mvcgen [bracketed]

/-! ## Quantifiers -/

@[spec] theorem keeps_pace : Keeps pace := by
  mvcgen [pace]

/-- A count says nothing about the groups. It is a computation without a state, so the triple is about whether it
succeeds. -/
@[spec] theorem count_spec (digits : Text) : ⦃⌜True⌝⦄ count digits ⦃⇓? _ => ⌜True⌝⦄ := by
  intro _
  cases count digits with
  | error e => trivial
  | ok a => trivial

@[spec] theorem keeps_bounds : Keeps bounds := by
  mvcgen [bounds]

@[spec] theorem keeps_quantity (c : CodePoint) : Keeps (quantity c) := by
  mvcgen [quantity]

/-- A quantifier repeats the latest item, with the groups in it, and opens none. A group that is repeated is one
group. -/
@[spec] theorem keeps_repeatLatest (start least : Nat) (most : Option Nat) (done : List Item) :
    Keeps (repeatLatest start least most done) := by
  mvcgen [repeatLatest]

@[spec] theorem keeps_quantify (f : Flags) (c : CodePoint) (done : List Item) : Keeps (quantify f c done) := by
  mvcgen [quantify]

/-! ## Openings -/

/-- After a successful run the groups are still in order, and what was read has a property. -/
abbrev Yields {α : Type} (r : Reader α) (post : α → Prop) : Prop :=
  ⦃fun s => ⌜s.Sound⌝⦄ r ⦃⇓? a s => ⌜s.Sound ∧ post a⌝⦄

@[spec] theorem keeps_extension : Keeps extension := by
  mvcgen [extension]

/-- A name that passes the check is an identifier. This is what later becomes the second part of `Reading.Sound`. -/
@[spec] theorem yields_checkName (name : Text) : Yields (checkName name) fun _ => name.isIdentifier = true := by
  mvcgen [checkName]

/-- The name that an opening gives to a group is an identifier. -/
def Opening.Named (o : Opening) : Prop := ∀ name, o = .capture (some name) → name.isIdentifier = true

/-- An opening with a name has had the name checked, and a reference by name opens no group. These are the two
things that may follow `(?P`. -/
@[spec] theorem yields_namedOpening (f : Flags) : Yields (namedOpening f) Opening.Named := by
  mvcgen [namedOpening, unknownExtension]
  all_goals grind [Opening.Named]

/-- What follows `?<` opens a look behind, and no group that is captured. -/
@[spec] theorem yields_behindOpening : Yields behindOpening Opening.Named := by
  mvcgen [behindOpening, unknownExtension]
  all_goals grind [Opening.Named]

@[spec] theorem yields_conditionOpening : Yields conditionOpening Opening.Named := by
  mvcgen [conditionOpening]
  all_goals grind [Opening.Named]

/-- Whatever an opening is, its name is an identifier if it has one. -/
@[spec] theorem yields_opening (f : Flags) (start : Nat) : Yields (opening f start) Opening.Named := by
  mvcgen [opening, unknownExtension]
  all_goals grind [Opening.Named]

/-! ## Groups -/

@[spec] theorem keeps_closing (start : Nat) : Keeps (closing start) := by
  mvcgen [closing]

/-- Inside a look behind it is noted that there is one, and this is taken back behind it. The groups that the body
opens stay. -/
theorem keeps_insideBehind {behind : Bool} {body : Reader Node} (h : Keeps body) :
    Keeps (insideBehind behind body) := by
  mvcgen [insideBehind, h]
  next hs _ _ _ => exact hs.of_eq rfl rfl
  next hs _ => exact hs.of_eq rfl rfl
  next hs _ => exact hs.of_eq rfl rfl

/-- A new group gets the next number, and its name if it has one. The number is no larger than that of the groups,
and the names there are keep theirs. -/
@[spec] theorem keeps_openGroup {name : Option Text} (h : ∀ n ∈ name, n.isIdentifier = true) :
    Keeps (openGroup name) := by
  mvcgen [openGroup]
  next s hs index _ hfew =>
    constructor
    · simpa [index] using hfew
    · intro e he
      have hnamed := hs.named e he
      simp only [List.length_append, List.length_singleton]
      exact ⟨hnamed.1, hnamed.2.1, by omega⟩
  next s hs index n hname hfew _ =>
    constructor
    · simpa [index] using hfew
    · intro e he
      simp only [List.length_append, List.length_singleton]
      -- the name is that of the new group, or it had its group before
      rcases Entries.mem_of_mem_insert he with rfl | he
      · exact ⟨h n hname, Nat.succ_pos _, Nat.le_refl _⟩
      · have hnamed := hs.named e he
        exact ⟨hnamed.1, hnamed.2.1, by omega⟩

/-- By induction on the fuel: every step of the recursion reads a part of its own, and then hands on. The three
readers call one another, so they are told together. -/
theorem keeps_all (fuel : Nat) :
    (∀ outermost first f, Keeps (alternatives fuel outermost first f))
      ∧ (∀ first f done, Keeps (items fuel first f done))
      ∧ ∀ f start o, o.Named → Keeps (group fuel f start o) := by
  induction fuel with
  | zero =>
    -- without fuel every reader refuses
    refine ⟨fun _ _ _ => ?_, fun _ _ _ => ?_, fun _ _ _ _ => ?_⟩
    · mvcgen [alternatives]
    · mvcgen [items]
    · mvcgen [group]
  | succ fuel ih =>
    obtain ⟨halternatives, hitems, hgroup⟩ := ih
    refine ⟨fun outermost first f => ?_, fun first f done => ?_, fun f start o ho => ?_⟩
    · mvcgen [alternatives, halternatives, hitems]
    · mvcgen [items, hitems, hgroup]
      next hs => exact hs.1
      next hs t => exact hs.1.of_eq rfl rfl
      next hs => exact hs.2
      next hs => exact hs.1
    · mvcgen [group, halternatives, hitems, keeps_insideBehind]
      next name ho' _ _ =>
        intro n hn
        exact ho n (by rw [ho', hn])

end Reader

/-- The groups of a pattern that is read have numbers below the limit, and the names of groups are identifiers. So a
template can refer to every group by its number, and to those that have names by these. -/
theorem groups_of_read {flags : Flags} {source : Text} {p : Pattern} (h : Pattern.read flags source = .ok p) :
    p.groupCount < maxGroups
      ∧ ∀ e ∈ p.names, e.1.isIdentifier = true ∧ 0 < e.2 ∧ e.2 ≤ p.groupCount := by
  cases hread : readTokens flags source with
  | error e =>
    rw [Pattern.read, hread] at h
    cases h
  | ok q =>
    obtain rfl : q = p := by
      rw [Pattern.read, hread] at h
      exact Except.ok.inj h
    simp only [readTokens] at hread
    obtain ⟨-, -, hread⟩ := exists_of_bind_eq_ok hread
    obtain ⟨⟨node, s⟩, hrun, hread⟩ := exists_of_bind_eq_ok hread
    -- there are no groups at the beginning
    have hstart : { Reading.ofTokens (Token.ofText source) with flags }.Sound :=
      ⟨show 0 < maxGroups by decide, fun _ he => absurd he List.not_mem_nil⟩
    have hs : s.Sound := Reader.triple_iff.1 ((Reader.keeps_all _).1 true true flags) _ _ _ hstart hrun
    -- of the checks that come last none changes anything
    dsimp only at hread
    repeat' split at hread
    all_goals cases hread
    exact ⟨hs.few, hs.named⟩

end BodyScrub.Pattern

