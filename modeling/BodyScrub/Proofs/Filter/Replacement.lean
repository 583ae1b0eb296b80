import BodyScrub.Proofs.Filter.Merge
import BodyScrub.Proofs.Operation
import BodyScrub.Proofs.Path.Untouched

/-!
# Literals in place of the addressed nodes

A filter that replaces what a path addresses by a literal gives a text from which the path addresses the same positions
again, now with the literal everywhere (`read_apply_replace`). Nodes away from these positions are the same as before,
and the filter leaves its own text alone. A literal keeps its type, except that a double that is equal to an integer
becomes that integer.
-/

namespace BodyScrub

open Json (Value PairFree)

/-! ## Doubles that are integers -/

namespace Double

/-- The double and the integer are the same number. A zero may have either sign. -/
structure Equals (x : Double) (i : Int) : Prop where
  finite : x.isFinite = true
  units : x.units = i.natAbs * Nat.pow 2 unitExponent
  sign : i ≠ 0 → (x.isNegative = true ↔ i < 0)

theorem isIntegral_of_equals {x : Double} {i : Int} (h : x.Equals i) : x.isIntegral = true := by
  unfold isIntegral
  rw [h.finite, h.units, Nat.mul_mod_left]
  rfl

/-- An integral double is the same number as what is left of it without its fraction. With `isIntegral_of_equals`
the test that the code makes is the right one. -/
theorem equals_truncate {x : Double} (h : x.isIntegral = true) : x.Equals x.truncate := by
  obtain ⟨hfinite, hmod⟩ := Bool.and_eq_true_iff.1 h
  have hunits : x.units / Nat.pow 2 unitExponent * Nat.pow 2 unitExponent = x.units :=
    Nat.div_mul_cancel (Nat.dvd_of_mod_eq_zero (beq_iff_eq.1 hmod))
  unfold truncate
  generalize x.units / Nat.pow 2 unitExponent = n at hunits ⊢
  refine ⟨hfinite, ?_, fun hne => ?_⟩
  -- the magnitude: a sign does not change it
  · rw [← hunits]
    dsimp only
    split
    · rw [Int.natAbs_neg, Int.natAbs_natCast]
    · rw [Int.natAbs_natCast]
  -- the sign: an integer that is not zero has the sign of the double
  · dsimp only at hne ⊢
    split at hne
    · next hneg =>
      rw [if_pos hneg]
      exact iff_of_true hneg (by omega)
    · next hneg =>
      rw [if_neg hneg]
      exact iff_of_false hneg (by omega)

end Double

/-! ## Literals -/

namespace Literal

/-- What becomes of a value that is put into documents: it stays what it is, but a double that is equal to an integer
becomes that integer. -/
inductive Keeps : (given put : Value) → Prop where
  | string (t : Text) : Keeps (.string t) (.string t)
  | bool (b : Bool) : Keeps (.bool b) (.bool b)
  | integer (i : Int) : Keeps (.integer i) (.integer i)
  | integral {x : Double} {i : Int} (h : x.Equals i) : Keeps (.real x) (.integer i)
  | real {x : Double} (finite : x.isFinite = true) (h : ∀ i, ¬x.Equals i) : Keeps (.real x) (.real x)

/-- What a value becomes as a literal: the check on building one lets nothing else happen to it. A double that is
integral may become the integer, and all other values stay as they are. -/
theorem keeps_of_ofValue {v : Value} {literal : Literal} (h : ofValue v = .ok literal) : Keeps v literal.value := by
  cases v with
  | string t =>
    rw [← Except.ok.inj h]
    exact .string t
  | bool b =>
    rw [← Except.ok.inj h]
    exact .bool b
  | integer i =>
    rw [← Except.ok.inj h]
    exact .integer i
  | real x =>
    unfold ofValue at h
    dsimp only at h
    split at h
    · next hfinite =>
      rw [← Except.ok.inj h]
      show Keeps (.real x) (if x.isIntegral then .integer x.truncate else .real x)
      -- a finite double goes in as the integer that it is equal to, and as itself if there is none
      split
      · next hintegral => exact .integral (Double.equals_truncate hintegral)
      · next hintegral => exact .real hfinite fun i hi => hintegral (Double.isIntegral_of_equals hi)
    · cases h
  | _ => cases h

end Literal

/-! ## Replacing the addressed nodes -/

namespace Operation

/-- Where every node gets a new value, every node counts, also one that had this value before. -/
theorem snd_updateEach_const {F : Location → Except Fault (Option Value)} (new : Value)
    (hF : ∀ l, F l = .ok (some new)) (ls : List Location) (v : Value) : (updateEach F ls v).2 = .ok ls.length := by
  induction ls generalizing v with
  | nil => rfl
  | cons l ls ih =>
    rw [updateEach, hF]
    show (updateEach F ls (Value.set l.position new v)).2.map (· + 1) = _
    rw [ih]
    rfl

/-- What all names and scalars of a document have in common is kept by updates, if the new values have it as well. -/
theorem everywhere_updateEach {F : Location → Except Fault (Option Value)} {okName : Text → Prop}
    {okScalar : Value → Prop} (hF : ∀ l new, F l = .ok (some new) → new.isScalar = true ∧ okScalar new)
    (ls : List Location) {v : Value} (hv : v.Everywhere okName okScalar) :
    (updateEach F ls v).1.Everywhere okName okScalar := by
  induction ls generalizing v with
  | nil => exact hv
  | cons l ls ih =>
    rw [updateEach]
    split
    · exact hv
    · exact ih hv
    · next new hnew =>
      -- the new value is a scalar, so nothing but it comes into the document
      refine ih ?_
      have hset := Value.alter_some_eq_modify (fun _ => new) l.position v
      rw [Value.set_eq_modify]
      exact hv.alter (fun u w hw => Option.some.inj hw ▸ hF l new hnew) hset

end Operation

namespace ScrubStep

/-- A step that replaces by a literal puts it in place of all addressed nodes at once. It never fails, and counts
all of them. -/
theorem apply_replace (p : Path) (literal : Literal) {okName : Text → Prop} {depth : Nat} {d : Document}
    (hd : d.root.Regular okName depth) :
    ScrubStep.apply ⟨p, .replace literal⟩ d
      = (⟨mapSegments (fun _ => literal.value) p.segments d.root, d.settings⟩,
          .ok ⟨(d.locate p).length, (d.locate p).length⟩) := by
  have hcount : (ScrubStep.apply ⟨p, .replace literal⟩ d).2 = .ok ⟨(d.locate p).length, (d.locate p).length⟩ :=
    congrArg (Except.map _) (Operation.snd_updateEach_const literal.value (fun _ => rfl) (d.locate p) d.root)
  have hroot : alterSegments ((Operation.replace literal).result d.settings) p.segments d.root
      = some (mapSegments (fun _ => literal.value) p.segments d.root) :=
    alterSegments_some (fun _ => literal.value) p.segments d.root
  refine Prod.ext ?_ hcount
  rw [fst_apply hd hcount, hroot]
  rfl

/-- What all names and scalars of a document have in common is kept by a step that puts a literal in place, if the
literal has it: there is no other new value. -/
theorem everywhere_apply_replace (p : Path) {literal : Literal} {okName : Text → Prop} {okScalar : Value → Prop}
    (hliteral : okScalar literal.value) {d : Document} (hd : d.root.Everywhere okName okScalar) :
    (ScrubStep.apply ⟨p, .replace literal⟩ d).1.root.Everywhere okName okScalar := by
  refine Operation.everywhere_updateEach (fun l new hnew => ?_) (d.locate p) hd
  obtain rfl : literal.value = new := Option.some.inj (Except.ok.inj hnew)
  exact ⟨literal.isScalar, hliteral⟩

end ScrubStep

namespace Filter

/-- A run of one such step, in the form in which a filter makes it: all addressed nodes get the literal in one walk,
and each of them is counted. -/
theorem runSteps_replace (p : Path) (literal : Literal) {okName : Text → Prop} {depth : Nat} {d : Document}
    (hd : d.root.Regular okName depth) :
    (runSteps [⟨p, .replace literal⟩] d).2
      = .ok (⟨mapSegments (fun _ => literal.value) p.segments d.root, d.settings⟩, (d.locate p).length) := by
  rw [runSteps_cons, ScrubStep.apply_replace p literal hd]
  rfl

/-- On the document that such a step came to, the step comes to the same document again, with the same count. The
literal is no container, so the path addresses the same positions as before. -/
theorem runSteps_replace_again (p : Path) (literal : Literal) {okName : Text → Prop} {depth : Nat} {d d' : Document}
    {n : Nat} (hd : d.root.Regular okName depth) (h : (runSteps [⟨p, .replace literal⟩] d).2 = .ok (d', n)) :
    (runSteps [⟨p, .replace literal⟩] d').2 = .ok (d', n) := by
  have hd' := (changes_of_runSteps h).1.regular hd
  obtain ⟨rfl, rfl⟩ := Prod.mk.inj (Except.ok.inj (h.symm.trans (runSteps_replace p literal hd)))
  rw [runSteps_replace p literal hd']
  have hlocate := congrArg List.length (resolve_mapSegments (fun _ => literal.value) p.segments d.root)
  rw [List.length_map] at hlocate
  rw [mapSegments_mapSegments]
  exact congrArg (fun n => Except.ok (_, n)) hlocate

/-- A filter that replaces by a literal gives a text that reads as the document with the literal at all addressed
positions, which are addressed again, and nothing else changed: nodes that are not at or below one of them keep what
they are, and nodes that are not above one either are the same altogether. The filter gives this text for itself. -/
theorem read_apply_replace {settings : Settings} {p : Path} {v : Value} {op : Operation}
    (hop : Operation.ofLiteral v = .ok op) (hv : ∀ t, v = .string t → ∀ c ∈ t, c.isSurrogate = false)
    {mediaType : Option Text} (hjson : MediaType.isJson mediaType = true) {body out : Text}
    (hbody : ∀ c ∈ body, c.isSurrogate = false)
    (h : (Filter.ofStep settings p op).apply mediaType body = .ok out) :
    ∃ d d' w, Document.read settings body = .ok d ∧ Document.read settings out = .ok d' ∧ Literal.Keeps v w
      ∧ d'.locate p = (d.locate p).map (fun l => ⟨l.position, w⟩)
      ∧ (∀ q, (∀ l ∈ d.locate p, ¬l.position <+: q) →
          (d'.root.get? q).map Value.shell = (d.root.get? q).map Value.shell)
      ∧ (∀ q, (∀ l ∈ d.locate p, ¬l.position <+: q ∧ ¬q <+: l.position) → d'.root.get? q = d.root.get? q)
      ∧ (Filter.ofStep settings p op).apply mediaType out = .ok out := by
  obtain ⟨literal, hliteral, rfl⟩ := exists_of_map_eq_ok hop
  obtain ⟨d, d', n, hread, hrun, hout⟩ := exists_of_apply_path hjson h
  obtain ⟨hroot, rfl⟩ := Document.read_eq_ok_iff.1 hread
  have hregular := Json.regular_of_read hroot
  have hpairs : d.root.Everywhere PairFree fun w => ∀ t, w = .string t → PairFree t :=
    Json.everywhere_pairFree_of_read hbody hroot
  obtain ⟨rfl, rfl⟩ := Prod.mk.inj (Except.ok.inj (hrun.symm.trans (runSteps_replace p literal hregular)))
  -- a string that is put in has no surrogates, so the text that is written reads as this string
  have hsafe : ∀ t, literal.value = .string t → PairFree t := by
    intro t ht
    have hkept := Literal.keeps_of_ofValue hliteral
    rw [ht] at hkept
    cases hkept with
    | string _ => exact Json.pairFree_of_not_isSurrogate (hv t rfl)
  have hafter : (ScrubStep.apply ⟨p, .replace literal⟩ d).1.root.Everywhere PairFree
      fun w => ∀ t, w = .string t → PairFree t := ScrubStep.everywhere_apply_replace p hsafe hpairs
  rw [ScrubStep.apply_replace p literal hregular] at hafter
  have hback := read_outcome hread hrun (Or.inr fun t ht => hafter.of_mem_strings ht) hout
  refine ⟨d, _, literal.value, hread, hback, Literal.keeps_of_ofValue hliteral, resolve_mapSegments _ p.segments d.root,
    fun q hq => shell_get?_mapSegments hq, fun q hq => get?_mapSegments hq, ?_⟩
  -- the second time the step comes to the same document, and the filter to the same text
  rw [ofStep, apply_path_of_isJson _ _ hjson, hback]
  show (runSteps _ _).2.bind (outcome out) = _
  rw [runSteps_replace_again p literal hregular hrun]
  show outcome out _ = _
  unfold outcome at hout ⊢
  split
  · rfl
  · next hn =>
    rw [if_neg hn] at hout
    exact hout

/-- A negative zero goes in as the integer, for all items of an array of mixed kinds. -/
theorem read_apply_replace_zero :
    ∃ d d' w, Document.read Settings.builtIn "\x7b\"a\": [1, \"x\", \x7b\"b\": null\x7d], \"c\": 2.50\x7d" = .ok d
      ∧ Document.read Settings.builtIn "\x7b\"a\":[0,0,0],\"c\":2.5\x7d" = .ok d'
      ∧ Literal.Keeps (.real (.finite true 0 0)) w
      ∧ d'.locate ⟨[.field "a", .wildcard]⟩ = (d.locate ⟨[.field "a", .wildcard]⟩).map (fun l => ⟨l.position, w⟩) := by
  obtain ⟨d, d', w, hread, hback, hkept, hlocate, -⟩ :=
    @read_apply_replace Settings.builtIn ⟨[.field "a", .wildcard]⟩ (.real (.finite true 0 0))
      (.replace ⟨_, Literal.isLiteral_canonical_real rfl⟩) rfl (fun _ h => by cases h) (some "application/json")
      (by decide) "\x7b\"a\": [1, \"x\", \x7b\"b\": null\x7d], \"c\": 2.50\x7d" "\x7b\"a\":[0,0,0],\"c\":2.5\x7d"
      (by decide +kernel) (Json.eq_ok_of_toOption (by decide +kernel))
  exact ⟨d, d', w, hread, hback, hkept, hlocate⟩

end Filter

end BodyScrub
