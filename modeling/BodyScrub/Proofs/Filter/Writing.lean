import BodyScrub.Proofs.Filter.Merge
import BodyScrub.Proofs.Json.Writable
import BodyScrub.Proofs.Path.Resolution

/-!
# What can be written after a filter

A document that was read is refused by the writer for one reason only, a double that is not finite where such doubles
are not allowed. The reader refuses the words for such doubles, but not a number that overflows: that one is read, and
the document cannot be written again (`text_eq_error_of_overflows`). Deletions add nothing to a document and never fail
by themselves, so a filter of deletions gives a text wherever the document itself can be written.

* **`Document.exists_text_iff`**: a document is written exactly if its doubles are finite or need not be.
* **`Filter.exists_runSteps_of_deletions`**: deletions come to an end and leave only what was there.
* **`Filter.exists_text_of_deletions`**: both together, from the body on.
-/

namespace BodyScrub

open Json (Value Numeral SpellsNumbers)

/-! ## Documents -/

namespace Document

variable {d : Document}

theorem text_of_writeFault?_eq_none (h : d.root.writeFault? d.settings.allowNonFinite = none) :
    d.text = .ok (d.root.write d.settings.style) := by
  unfold text write Json.writeChecked
  rw [h]

/-- A document with a fault is not written at all: the fault is looked for before the first character is given. -/
theorem text_of_writeFault?_eq_some {f : Json.WriteFault}
    (h : d.root.writeFault? d.settings.allowNonFinite = some f) : d.text = .error (.unwritable f) := by
  unfold text write Json.writeChecked
  rw [h]

/-- Where no integer has too many digits, a document is written exactly if its doubles are finite or need not be.
What was read has no such integer, as the reader refuses it. -/
theorem exists_text_iff (h : d.root.Everywhere (fun _ => True) Value.FitsDigits) :
    (∃ t, d.text = .ok t) ↔ d.settings.allowNonFinite = true ∨ d.root.AllFinite := by
  refine Iff.trans ?_ (Json.writeFault?_eq_none_iff h)
  cases hfault : d.root.writeFault? d.settings.allowNonFinite with
  | none => exact iff_of_true ⟨_, text_of_writeFault?_eq_none hfault⟩ rfl
  | some f =>
    -- there is a fault, and so no text
    refine iff_of_false ?_ (Option.some_ne_none f)
    rintro ⟨t, ht⟩
    rw [text_of_writeFault?_eq_some hfault] at ht
    cases ht

/-- Where no integer has too many digits, a document is refused only for a double that is not finite. Every document
that was read is of this kind, as the reader has the same limit. -/
theorem eq_nonFinite_of_text (h : d.root.Everywhere (fun _ => True) Value.FitsDigits) {e : Fault}
    (he : d.text = .error e) : e = .unwritable .nonFinite := by
  cases hfault : d.root.writeFault? d.settings.allowNonFinite with
  | none =>
    rw [text_of_writeFault?_eq_none hfault] at he
    cases he
  | some f =>
    rw [text_of_writeFault?_eq_some hfault, Json.eq_nonFinite_of_writeFault? h hfault] at he
    exact (Except.error.inj he).symm

/-- A number that overflows is read, though the words for what it is read as are refused, and is not written. The
reader looks for these words only, and does not look at what a number comes to. -/
theorem text_eq_error_of_overflows {settings : Settings} (hsettings : settings.allowNonFinite = false) {n : Numeral}
    (hn : n.Overflows) :
    ∃ d, Document.read settings n.text = .ok d ∧ d.text = .error (.unwritable .nonFinite) := by
  have heval := n.eval_real hn.1
  refine ⟨⟨_, settings⟩, read_eq_ok_iff.2 ⟨Json.read_eq_ok_iff.2
    ⟨⟨Json.Blanks.empty, .atom (.number n), Json.Blanks.empty⟩, List.append_nil _, heval⟩, rfl⟩, ?_⟩
  -- the writer looks at the double that the number came to, which is infinite
  refine text_of_writeFault?_eq_some ?_
  have hinfinite : ¬(settings.allowNonFinite || (Double.ofDecimal n.negative n.decimal).isFinite) = true := by
    rw [hsettings, Bool.false_or, Double.isFinite_ofDecimal_iff]
    exact not_not_intro hn.2
  exact if_neg hinfinite

end Document

/-! ## Deletions -/

namespace Operation

/-- Nodes below the root are all taken out, and each of them counts. Only the erasure of a root is refused. -/
theorem eraseEach_eq_ok {ls : List Location} (hroot : ∀ l ∈ ls, l.isRoot = false) (v : Value) :
    (eraseEach ls v).2 = .ok ls.length := by
  induction ls generalizing v with
  | nil => rfl
  | cons l ls ih =>
    have hl : ¬l.isRoot = true := Bool.eq_false_iff.1 (hroot l List.mem_cons_self)
    rw [eraseEach, if_neg hl]
    show (eraseEach ls (v.erase l.position)).2.map (· + 1) = _
    rw [ih fun m hm => hroot m (List.mem_cons_of_mem _ hm)]
    rfl

/-- What is left when nodes are taken out was there before. So deletions cannot bring in anything that the writer
refuses. -/
theorem everywhere_eraseEach {okName : Text → Prop} {okScalar : Value → Prop} (ls : List Location) {v : Value}
    (hv : v.Everywhere okName okScalar) : (eraseEach ls v).1.Everywhere okName okScalar := by
  induction ls generalizing v with
  | nil => exact hv
  | cons l ls ih =>
    rw [eraseEach]
    split
    · exact hv
    · refine ih ?_
      unfold Value.erase
      cases halter : Value.alter (fun _ => none) l.position v with
      | none => exact hv
      | some w => exact hv.alter (fun _ _ h => absurd h (by simp)) halter

end Operation

/-- A step that takes nodes out, but not the root. -/
structure ScrubStep.IsDeletion (s : ScrubStep) : Prop where
  operation_eq : s.operation = .delete
  isRoot_eq : s.path.isRoot = false

namespace ScrubStep.IsDeletion

variable {s : ScrubStep}

/-- A path below the root addresses nodes below the root, so that no erasure of such a step is refused. -/
theorem isRoot_of_mem (h : s.IsDeletion) {d : Document} {l : Location} (hl : l ∈ d.locate s.path) :
    l.isRoot = false := by
  have hne : s.path.segments ≠ [] := fun hnil => Bool.eq_false_iff.1 h.isRoot_eq (List.isEmpty_iff.2 hnil)
  obtain ⟨seg, rest, hsegments⟩ := List.exists_cons_of_ne_nil hne
  unfold Document.locate Path.resolve at hl
  rw [hsegments] at hl
  exact Bool.eq_false_iff.2 fun hroot => position_ne_nil hl (List.isEmpty_iff.1 hroot)

/-- A deletion takes out all that its path addresses, and never fails. -/
theorem apply_eq_ok (h : s.IsDeletion) (d : Document) :
    (s.apply d).2 = .ok ⟨(d.locate s.path).length, (d.locate s.path).length⟩ := by
  have hroot : ∀ l ∈ (d.locate s.path).reverse, l.isRoot = false := fun l hl =>
    h.isRoot_of_mem (List.mem_reverse.1 hl)
  unfold apply
  rw [h.operation_eq]
  show (Operation.eraseEach (d.locate s.path).reverse d.root).2.map _ = _
  rw [Operation.eraseEach_eq_ok hroot, List.length_reverse]
  rfl

/-- The names and scalars that a deletion leaves were there before. So a deletion never makes a document that cannot
be written. -/
theorem everywhere_apply (h : s.IsDeletion) {okName : Text → Prop} {okScalar : Value → Prop} {d : Document}
    (hd : d.root.Everywhere okName okScalar) : (s.apply d).1.root.Everywhere okName okScalar := by
  unfold apply
  rw [h.operation_eq]
  exact Operation.everywhere_eraseEach _ hd

end ScrubStep.IsDeletion

/-! ## Filters -/

namespace Filter

/-- A deletion is built for every path but that of the root. So all that is shown of deletions below holds of those
that are built, and the fault about the root is met when a filter is built and never when it is applied. -/
theorem Builder.filter_delete_eq_ok_iff {b : Builder} {f : Filter} :
    b.filter .delete = .ok f ↔ ScrubStep.IsDeletion ⟨b.path, .delete⟩ ∧ f = .path [⟨b.path, .delete⟩] b.settings := by
  unfold Builder.filter
  cases hroot : b.path.isRoot with
  | true =>
    refine iff_of_false (by simp) ?_
    rintro ⟨h, -⟩
    rw [show b.path.isRoot = false from h.isRoot_eq] at hroot
    cases hroot
  | false =>
    constructor
    · intro h
      exact ⟨⟨rfl, hroot⟩, (Except.ok.inj h).symm⟩
    · rintro ⟨-, rfl⟩
      rfl

/-- Deletions come to an end, and the names and scalars that are left were there before. The induction is on the
steps, each of which works on what the ones before it left. -/
theorem exists_runSteps_of_deletions {steps : List ScrubStep} (hsteps : ∀ s ∈ steps, s.IsDeletion) (d : Document) :
    ∃ d' n, (runSteps steps d).2 = .ok (d', n)
      ∧ ∀ okName okScalar, d.root.Everywhere okName okScalar → d'.root.Everywhere okName okScalar := by
  induction steps generalizing d with
  | nil => exact ⟨d, 0, rfl, fun _ _ h => h⟩
  | cons s steps ih =>
    have hs := hsteps s List.mem_cons_self
    -- the rest of the run starts with what the first deletion left
    obtain ⟨d', n, hrun, hkept⟩ := ih (fun u hu => hsteps u (List.mem_cons_of_mem _ hu)) (s.apply d).1
    refine ⟨d', (d.locate s.path).length + n, ?_, fun _ _ hd => hkept _ _ (hs.everywhere_apply hd)⟩
    rw [runSteps_cons, hs.apply_eq_ok, hrun]
    rfl

/-- What is read can be written under the same settings exactly if its doubles are finite or need not be, and
nothing else is refused. The doubles are finite unless some number in the body overflows. Where the document can be
written, every filter of deletions gives a text. -/
theorem exists_text_of_deletions {settings : Settings} {body : Text} {d : Document}
    (hread : Document.read settings body = .ok d) :
    ((∃ t, d.text = .ok t) ↔ settings.allowNonFinite = true ∨ d.root.AllFinite)
      ∧ (∀ e, d.text = .error e → e = .unwritable .nonFinite)
      ∧ (SpellsNumbers (fun n => ¬n.Overflows) body → settings.allowNonFinite = true ∨ d.root.AllFinite)
      ∧ ((settings.allowNonFinite = true ∨ d.root.AllFinite) →
          ∀ steps, (∀ s ∈ steps, ScrubStep.IsDeletion s) → ∀ mediaType,
            ∃ out, (Filter.path steps settings).apply mediaType body = .ok out) := by
  obtain ⟨hroot, rfl⟩ := Document.read_eq_ok_iff.1 hread
  have hdigits := Json.fitsDigits_of_read hroot
  refine ⟨Document.exists_text_iff hdigits, fun _ => Document.eq_nonFinite_of_text hdigits, ?_, ?_⟩
  · intro hnumbers
    cases hallow : d.settings.allowNonFinite with
    -- doubles that are not finite are allowed, so there is nothing to show
    | true => exact Or.inl rfl
    | false =>
      rw [hallow] at hroot
      exact Or.inr (Json.allFinite_of_read hnumbers hroot)
  · intro hfinite steps hsteps mediaType
    cases hjson : MediaType.isJson mediaType with
    | false => exact ⟨body, apply_path_of_not_isJson steps _ hjson body⟩
    | true =>
      obtain ⟨d', n, hrun, hkept⟩ := exists_runSteps_of_deletions hsteps d
      have hsame : d'.settings = d.settings := (changes_of_runSteps hrun).2.1
      rw [apply_path_of_isJson steps _ hjson, hread]
      show ∃ out, (runSteps steps d).2.bind (outcome body) = .ok out
      rw [hrun]
      show ∃ out, outcome body (d', n) = .ok out
      unfold outcome
      -- without a change the body is passed on, with one the document is written
      split
      · exact ⟨body, rfl⟩
      · -- what was left after the deletions can be written, since all of it could
        refine (Document.exists_text_iff (hkept _ _ hdigits)).2 ?_
        rw [hsame]
        exact hfinite.imp_right (hkept _ _)

/-- An integer of many digits, a double and a negative zero, none of which overflows. -/
theorem exists_text_of_deletions_items :
    ∃ d, Document.read Settings.builtIn "\x7b\"a\": [12345678901234567890, -2.50], \"b\": -0\x7d" = .ok d
      ∧ (∃ t, d.text = .ok t)
      ∧ ∀ mediaType, ∃ out, (Filter.path [⟨⟨[.field "a", .wildcard]⟩, .delete⟩] Settings.builtIn).apply mediaType
          "\x7b\"a\": [12345678901234567890, -2.50], \"b\": -0\x7d" = .ok out := by
  obtain ⟨d, hd⟩ := Option.isSome_iff_exists.1 (show (Document.read Settings.builtIn
    "\x7b\"a\": [12345678901234567890, -2.50], \"b\": -0\x7d").toOption.isSome = true by decide +kernel)
  have hread := Json.eq_ok_of_toOption hd
  obtain ⟨htext, -, hspelled, hfilter⟩ := exists_text_of_deletions hread
  have hfinite := hspelled (Json.spellsNumbers_of_length_le (by decide) (by decide +kernel))
  refine ⟨d, hread, htext.2 hfinite, hfilter hfinite _ ?_⟩
  rintro s hs
  rw [List.mem_singleton.1 hs]
  exact ⟨rfl, rfl⟩

/-- A number that overflows is read although infinite numbers are refused. It stops the writer, and with it the
deletion of another member. -/
theorem unwritable_of_overflow :
    (Document.read Settings.builtIn "\x7b\"a\":1,\"x\":1e400\x7d").isOk = true
      ∧ ((Document.read Settings.builtIn "\x7b\"a\":1,\"x\":1e400\x7d").bind Document.text).isOk = false
      ∧ ((Filter.path [⟨⟨[.field "a"]⟩, .delete⟩] Settings.builtIn).apply (some "application/json")
          "\x7b\"a\":1,\"x\":1e400\x7d").isOk = false := by
  refine ⟨?_, ?_, ?_⟩ <;> decide +kernel

end Filter

end BodyScrub
