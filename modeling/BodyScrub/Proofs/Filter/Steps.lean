import BodyScrub.Filter
import BodyScrub.Proofs.Json.Regular

/-!
# What steps do to a document

All that a step can do is said once: it changes single nodes into scalars or takes them out, one after another
(`Changes`). A property of values that one such change keeps is kept by every run of steps (`Changes.preserves`). A
run that counts no change has made none, and steps in a row are run one part after the other.

* **`changes_of_runSteps`**: a run of steps is a row of changes under the same settings.
* **`eq_of_runSteps_zero`**: a run without a change leaves the document as it was.
* **`runSteps_append`**: a longer run is two runs.
-/

namespace BodyScrub

open Json (Value Position)

/-! ## Rows of changes -/

/-- A change of nodes into scalars, or the removal of nodes. -/
def IsPruning (f : Value → Option Value) : Prop := ∀ v w, f v = some w → w.isScalar = true

/-- From `v` to `w` by changes of single nodes. -/
inductive Changes : (v w : Value) → Prop where
  | refl (v : Value) : Changes v v
  | step {f : Value → Option Value} {p : Position} {u v w : Value} (hf : IsPruning f) (h : Value.alter f p u = some v)
    (rest : Changes v w) : Changes u w

namespace Changes

/-- Rows of changes are put together, as are the runs of steps that they stand for. -/
theorem trans {u v w : Value} (h₁ : Changes u v) (h₂ : Changes v w) : Changes u w := by
  induction h₁ with
  | refl _ => exact h₂
  | step hf h _ ih => exact .step hf h (ih h₂)

/-- What one change keeps, a row of changes keeps. Facts about runs of steps are proved for one change of one node
and come here. -/
theorem preserves {P : Value → Prop}
    (hstep : ∀ {f : Value → Option Value} {p : Position} {v w : Value}, IsPruning f → Value.alter f p v = some w
      → P v → P w) {v w : Value} (h : Changes v w) (hv : P v) : P w := by
  induction h with
  | refl _ => exact hv
  | step hf h _ ih => exact ih (hstep hf h hv)

/-- A change that would leave no value, as only one at the root can, is taken for none. At a position that is not
there nothing changes either, so operations need not say whether they found their node. -/
theorem of_getD_alter {f : Value → Option Value} (hf : IsPruning f) (p : Position) (v : Value) :
    Changes v ((Value.alter f p v).getD v) := by
  cases h : Value.alter f p v with
  | none => exact .refl v
  | some w => exact .step hf h (.refl w)

theorem set {new : Value} (hnew : new.isScalar = true) (p : Position) (v : Value) : Changes v (Value.set p new v) :=
  of_getD_alter (fun _ _ h => Option.some.inj h ▸ hnew) p v

/-- Taking a node out is a change, for which nothing need be shown of the new value. At the root it is none, as
there is nothing to take the root out of. -/
theorem erase (p : Position) (v : Value) : Changes v (Value.erase p v) :=
  of_getD_alter (fun _ _ h => absurd h (by simp)) p v

/-- A regular document stays regular. It can then be written and read back, whatever steps were made on it. -/
theorem regular {okName : Text → Prop} {depth : Nat} {v w : Value} (h : Changes v w)
    (hv : v.Regular okName depth) : w.Regular okName depth :=
  h.preserves (fun hf halter hreg => hreg.alter hf halter) hv

end Changes

/-! ## Operations -/

theorem Literal.isScalar (literal : Literal) : literal.value.isScalar = true := by
  obtain ⟨value, valid⟩ := literal
  cases value with
  | array items => cases valid
  | object members => cases valid
  | _ => rfl

namespace Operation

/-- What an operation puts in place is a scalar: a literal, or a text for a text. No operation adds a container,
which is why the depth of a document cannot grow. -/
theorem isScalar_of_update {settings : Settings} {op : Operation} {l : Location} {new : Value}
    (h : op.update settings l = .ok (some new)) : new.isScalar = true := by
  cases op with
  | delete => cases h
  | replace literal =>
    obtain rfl : literal.value = new := Option.some.inj (Except.ok.inj h)
    exact literal.isScalar
  | replaceMatches r =>
    -- the result of a replacement is a string, whatever the node was
    obtain ⟨t, -, ht⟩ := exists_of_map_eq_ok h
    obtain ⟨u, -, rfl⟩ := Option.map_eq_some_iff.1 ht
    rfl
  | transform f pattern =>
    obtain ⟨t, -, ht⟩ := exists_of_map_eq_ok h
    obtain ⟨u, -, rfl⟩ := Option.map_eq_some_iff.1 ht
    rfl

/-- Updating nodes one after another is a row of changes, also where it stops in the middle. The induction is on the
nodes that are still to come. -/
theorem changes_updateEach {f : Location → Except Fault (Option Value)}
    (hf : ∀ l new, f l = .ok (some new) → new.isScalar = true) (ls : List Location) (v : Value) :
    Changes v (updateEach f ls v).1 := by
  induction ls generalizing v with
  | nil => exact .refl v
  | cons l ls ih =>
    rw [updateEach]
    split
    -- a fault leaves the document as it was at that moment
    · exact .refl v
    · exact ih v
    -- a node that gets a new value is one change, and the rest of the loop follows it
    · next new hnew => exact (Changes.set (hf l new hnew) l.position v).trans (ih _)

/-- A loop that counts no change has made none. A filter relies on this when it passes on the body as it is spelled. -/
theorem eq_of_updateEach_zero {f : Location → Except Fault (Option Value)} {ls : List Location} {v : Value}
    (h : (updateEach f ls v).2 = .ok 0) : (updateEach f ls v).1 = v := by
  induction ls with
  | nil => rfl
  | cons l ls ih =>
    rw [updateEach] at h ⊢
    split at h
    · exact absurd h (by simp)
    · next hl => exact ih h
    · next new hl =>
      -- the count of a change is a successor
      obtain ⟨n, -, hn⟩ := exists_of_map_eq_ok h
      exact absurd hn (Nat.succ_ne_zero n)

theorem changes_eraseEach (ls : List Location) (v : Value) : Changes v (eraseEach ls v).1 := by
  induction ls generalizing v with
  | nil => exact .refl v
  | cons l ls ih =>
    rw [eraseEach]
    split
    · exact .refl v
    · exact (Changes.erase l.position v).trans (ih _)

/-- Taking nodes out counts every one of them, so a count of zero means that there were none. -/
theorem eq_of_eraseEach_zero {ls : List Location} {v : Value} (h : (eraseEach ls v).2 = .ok 0) :
    (eraseEach ls v).1 = v := by
  cases ls with
  | nil => rfl
  | cons l ls =>
    rw [eraseEach] at h
    split at h
    · exact absurd h (by simp)
    -- the count of a node that was taken out is a successor
    · obtain ⟨n, -, hn⟩ := exists_of_map_eq_ok h
      exact absurd hn (Nat.succ_ne_zero n)

/-- Every operation makes a row of changes, whether it comes to an end or fails. All that is shown for `Changes`
holds of documents after an operation. -/
theorem changes_apply (op : Operation) (ls : List Location) (d : Document) :
    Changes d.root (op.apply ls d).1.root := by
  have hupdate : ∀ l new, op.update d.settings l = .ok (some new) → new.isScalar = true :=
    fun _ _ h => isScalar_of_update h
  cases op with
  | delete => exact changes_eraseEach ls.reverse d.root
  | replace literal => exact changes_updateEach hupdate ls d.root
  | replaceMatches r => exact changes_updateEach hupdate ls d.root
  | transform f pattern => exact changes_updateEach hupdate ls d.root

theorem settings_apply (op : Operation) (ls : List Location) (d : Document) :
    (op.apply ls d).1.settings = d.settings := by
  cases op <;> rfl

/-- An operation that counts no change leaves the document as it was. A filter gives back the body as it was spelled
in this case, and not as it would be written. -/
theorem eq_of_apply_zero {op : Operation} {ls : List Location} {d : Document} (h : (op.apply ls d).2 = .ok 0) :
    (op.apply ls d).1 = d := by
  obtain ⟨root, settings⟩ := d
  cases op with
  | delete => exact congrArg (Document.mk · settings) (eq_of_eraseEach_zero h)
  | replace literal => exact congrArg (Document.mk · settings) (eq_of_updateEach_zero h)
  | replaceMatches r => exact congrArg (Document.mk · settings) (eq_of_updateEach_zero h)
  | transform f pattern => exact congrArg (Document.mk · settings) (eq_of_updateEach_zero h)

end Operation

/-! ## Runs of steps -/

namespace Filter

/-- What a run of steps comes to, without the notices: the changes of the steps are added up, and the first fault
ends the run. -/
theorem runSteps_cons (s : ScrubStep) (steps : List ScrubStep) (d : Document) :
    (runSteps (s :: steps) d).2 = (s.apply d).2.bind fun t =>
      (runSteps steps (s.apply d).1).2.map fun r => (r.1, t.changed + r.2) := by
  rw [runSteps]
  split
  · next h =>
    rw [h]
    rfl
  · next h =>
    rw [h]
    rfl

theorem runSteps_singleton (s : ScrubStep) (d : Document) :
    (runSteps [s] d).2 = (s.operation.apply (d.locate s.path) d).2.map fun n =>
      ((s.operation.apply (d.locate s.path) d).1, n) := by
  rw [runSteps_cons]
  show ((s.operation.apply (d.locate s.path) d).2.map _).bind _ = _
  cases (s.operation.apply (d.locate s.path) d).2 with
  | error e => rfl
  | ok n => rfl

/-- A run over two rows of steps goes on from the document of the first with the second. This is what makes the
merged filter do the work of both. -/
theorem runSteps_append (steps more : List ScrubStep) (d : Document) :
    (runSteps (steps ++ more) d).2 = (runSteps steps d).2.bind fun r =>
      (runSteps more r.1).2.map fun r' => (r'.1, r.2 + r'.2) := by
  induction steps generalizing d with
  | nil =>
    show (runSteps more d).2 = (runSteps more d).2.map fun r' => (r'.1, 0 + r'.2)
    cases (runSteps more d).2 with
    | error e => rfl
    | ok r =>
      show Except.ok r = Except.ok (r.1, 0 + r.2)
      rw [Nat.zero_add]
  | cons s steps ih =>
    -- a fault of the first step is the fault of both runs, and else the induction hypothesis goes on from there
    rw [List.cons_append, runSteps_cons, runSteps_cons]
    cases (s.apply d).2 with
    | error e => rfl
    | ok t =>
      show (runSteps (steps ++ more) (s.apply d).1).2.map _ = ((runSteps steps (s.apply d).1).2.map _).bind _
      rw [ih]
      cases (runSteps steps (s.apply d).1).2 with
      | error e => rfl
      | ok r =>
        show ((runSteps more r.1).2.map _).map _ = (runSteps more r.1).2.map _
        cases (runSteps more r.1).2 with
        | error e => rfl
        | ok r' => exact congrArg Except.ok (by simp only [Nat.add_assoc])

/-- A run of steps is a row of changes under the same settings, and none if it counts none. This is all that most
proofs need to know of a run. -/
theorem changes_of_runSteps {steps : List ScrubStep} {d d' : Document} {n : Nat}
    (h : (runSteps steps d).2 = .ok (d', n)) :
    Changes d.root d'.root ∧ d'.settings = d.settings ∧ (n = 0 → d' = d) := by
  induction steps generalizing d n with
  | nil =>
    obtain ⟨rfl, rfl⟩ := Prod.mk.inj (Except.ok.inj h)
    exact ⟨.refl _, rfl, fun _ => rfl⟩
  | cons s steps ih =>
    rw [runSteps_cons] at h
    obtain ⟨t, ht, hrest⟩ := exists_of_bind_eq_ok h
    obtain ⟨⟨e, m⟩, he, hem⟩ := exists_of_map_eq_ok hrest
    obtain ⟨rfl, rfl⟩ := Prod.mk.inj hem
    -- the changes of the first step come before those of the rest
    obtain ⟨hchanges, hsettings, hzero⟩ := ih he
    refine ⟨(s.operation.changes_apply _ d).trans hchanges, hsettings.trans (s.operation.settings_apply _ d), ?_⟩
    -- a sum of counts is zero only if both are
    intro hn
    obtain ⟨k, hk, rfl⟩ := exists_of_map_eq_ok ht
    dsimp only at hn
    have hm : m = 0 := by omega
    have hkzero : k = 0 := by omega
    rw [hkzero] at hk
    exact (hzero hm).trans (Operation.eq_of_apply_zero hk)

end Filter

end BodyScrub
