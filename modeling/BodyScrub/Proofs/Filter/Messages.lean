import BodyScrub.Proofs.Filter.Merge
import BodyScrub.Proofs.Operation
import BodyScrub.Proofs.Path.Renaming

/-!
# What messages tell about a body

When a function cannot be applied to a node, the message says where that node is. The place is written with the names
that the path reached, also those that a wildcard reached, which stand in the body only (`message?_shows_name`). This is
all that a message has from such names: for two bodies that differ in them, the two messages are equal up to the places
that they quote (`messages_of_renamed`).
-/

namespace BodyScrub

open Json (Value)

/-- The message of a fault, if it is reported as a failure. -/
def Fault.message? (e : Fault) : Option Text :=
  match e.report with
  | .failure f => some f.message
  | .configuration f _ => some f.message
  | _ => none

/-- The message about a node of the wrong kind, with the quoted place as a piece of its own. In this form two
messages can be compared piece by piece. -/
theorem Fault.message?_target (place : Text) (kind : Json.Kind) :
    (Fault.target place kind).message?
      = some ("Function replacement at " ++ place.quoted ++ (" requires a string, got " ++ kind.text ++ ".")) := by
  show some (Failure.targetMessage place kind.text) = _
  unfold Failure.targetMessage
  simp only [List.append_assoc]

/-- A function that gave something else than a text has a message with the place, which is quoted, and the word for
what came back. -/
theorem Fault.message?_functionResult (place word : Text) :
    (Fault.functionResult place word).message?
      = some ("Transform at " ++ place.quoted ++ (" returned " ++ word ++ ", expected str.")) := by
  show some ("Transform at " ++ place.quoted ++ " returned " ++ word ++ ", expected str.") = _
  simp only [List.append_assoc]

/-- The message that a filter fails with on a body, if it fails and the fault is reported as a failure. -/
def Filter.message? (f : Filter) (mediaType : Option Text) (body : Text) : Option Text :=
  match f.apply mediaType body with
  | .error e => e.message?
  | .ok _ => none

/-- A filter has a message for a body exactly if it fails and the fault is reported as a failure of the library.
Faults of the function that was given are not. -/
theorem Filter.message?_eq_some_iff {f : Filter} {mediaType : Option Text} {body m : Text} :
    f.message? mediaType body = some m ↔ ∃ e, f.apply mediaType body = .error e ∧ e.message? = some m := by
  unfold message?
  cases f.apply mediaType body with
  | error e => simp
  | ok out => simp

/-! ## Nodes with equal values -/

namespace Operation

/-- Two rows of nodes with the same values are updated in step: either both loops come to an end with the same
count, or both stop, at two nodes that correspond. The documents in which the nodes stand do not matter. -/
theorem updateEach_in_step {settings : Settings} {op : Operation} {ls ms : List Location}
    (h : List.Forall₂ (fun l m => l.value = m.value) ls ms) (v w : Value) :
    (∃ n, (updateEach (op.update settings) ls v).2 = .ok n ∧ (updateEach (op.update settings) ms w).2 = .ok n)
      ∨ ∃ l m e e', (l, m) ∈ ls.zip ms ∧ op.update settings l = .error e ∧ op.update settings m = .error e'
        ∧ (updateEach (op.update settings) ls v).2 = .error e
        ∧ (updateEach (op.update settings) ms w).2 = .error e' := by
  induction h generalizing v w with
  | nil => exact Or.inl ⟨0, rfl, rfl⟩
  | @cons l m ls ms hvalue _ ih =>
    rw [updateEach, updateEach]
    cases hl : op.update settings l with
    | error e =>
      -- what an operation does to a node depends on its value only, so it fails on the other one too
      cases hm : op.update settings m with
      | error e' => exact Or.inr ⟨l, m, e, e', List.mem_cons_self, hl, hm, rfl, rfl⟩
      | ok new =>
        rw [update_of_value_eq hvalue.symm hm] at hl
        cases hl
    | ok new =>
      rw [update_of_value_eq hvalue hl]
      cases new with
      | none =>
        refine (ih v w).imp_right ?_
        rintro ⟨l', m', e, e', hmem, herror⟩
        exact ⟨l', m', e, e', List.mem_cons_of_mem _ hmem, herror⟩
      | some new =>
        -- a change counts in both loops, and a fault behind it goes through
        rcases ih (Value.set l.position new v) (Value.set m.position new w) with ⟨n, hn, hn'⟩ | hstop
        -- both loops went through
        · exact Or.inl ⟨n + 1, congrArg (Except.map (· + 1)) hn, congrArg (Except.map (· + 1)) hn'⟩
        · obtain ⟨l', m', e, e', hmem, hl', hm', he, he'⟩ := hstop
          exact Or.inr ⟨l', m', e, e', List.mem_cons_of_mem _ hmem, hl', hm',
            congrArg (Except.map (· + 1)) he, congrArg (Except.map (· + 1)) he'⟩

/-- Where a function fails on a node, the message is the same for a node elsewhere with the same value, up to the
place that it quotes. A function sees the text of a node and not where it stands. -/
theorem message?_of_transform {f : TextFunction} {pattern : Option Pattern} {settings : Settings} {l l' : Location}
    (hvalue : l.value = l'.value) {e e' : Fault} (he : (transform f pattern).update settings l = .error e)
    (he' : (transform f pattern).update settings l' = .error e') {m m' : Text} (hm : e.message? = some m)
    (hm' : e'.message? = some m') :
    ∃ before after, m = before ++ l.path.quoted ++ after ∧ m' = before ++ l'.path.quoted ++ after := by
  obtain ⟨q, u⟩ := l
  obtain ⟨q', w⟩ := l'
  obtain rfl : u = w := hvalue
  have ht := eq_error_of_map he
  have ht' := eq_error_of_map he'
  cases u with
  | string t =>
    unfold transformed at ht ht'
    dsimp only at ht ht'
    split at ht
    · next hall =>
      rw [if_pos hall] at ht'
      cases hf : f t with
      | text new =>
        rw [hf] at ht
        cases ht
      | other word =>
        -- the message holds the place and a word for what the function gave, and nothing of the text
        rw [hf] at ht ht'
        obtain rfl := Except.error.inj ht
        obtain rfl := Except.error.inj ht'
        rw [Fault.message?_functionResult] at hm hm'
        exact ⟨_, _, (Option.some.inj hm).symm, (Option.some.inj hm').symm⟩
      | raised words =>
        -- a fault of the function itself is not reported as a failure
        rw [hf] at ht
        obtain rfl := Except.error.inj ht
        cases hm
    · cases ht
  | _ =>
    -- a node that is no string is refused with its kind, which is that of its value
    obtain rfl := Except.error.inj ht
    obtain rfl := Except.error.inj ht'
    rw [Fault.message?_target] at hm hm'
    exact ⟨_, _, (Option.some.inj hm).symm, (Option.some.inj hm').symm⟩

end Operation

/-! ## Filters of one step -/

/-- Writing has one kind of fault, and all its faults have one message. No path and no name of the body is in it. -/
theorem Document.exists_of_text_eq_error {d : Document} {e : Fault} (h : d.text = .error e) :
    ∃ f, e = .unwritable f := by
  unfold text write at h
  split at h
  · cases h
  · next f _ => exact ⟨f, (Except.error.inj h).symm⟩

namespace Filter

section OneStep

variable {settings : Settings} {p : Path} {op : Operation} {mediaType : Option Text} {body : Text} {d : Document}
  {e : Fault} (hread : Document.read settings body = .ok d)
  (he : (Filter.ofStep settings p op).apply mediaType body = .error e)

include hread he

/-- A filter of one step that fails on a body that can be read has failed in its step or in writing. The media type
means JSON in this case, else it would have passed the body on. -/
theorem runSteps_of_apply_ofStep : (runSteps [⟨p, op⟩] d).2.bind (outcome body) = .error e := by
  cases hjson : MediaType.isJson mediaType with
  | false =>
    -- what is not JSON is passed on without a fault
    rw [ofStep, apply_path_of_not_isJson _ _ hjson] at he
    cases he
  | true =>
    rw [ofStep, apply_path_of_isJson _ _ hjson, hread] at he
    exact he

theorem eq_of_apply_ofStep {e' : Fault} (hop : (op.apply (d.locate p) d).2 = .error e') : e = e' := by
  have hrun := runSteps_of_apply_ofStep hread he
  rw [runSteps_singleton, hop] at hrun
  exact (Except.error.inj hrun).symm

/-- After an operation that comes to an end only writing can fail, and its message has nothing of the body. -/
theorem exists_of_apply_ofStep {n : Nat} (hop : (op.apply (d.locate p) d).2 = .ok n) : ∃ g, e = .unwritable g := by
  have hrun := runSteps_of_apply_ofStep hread he
  rw [runSteps_singleton, hop] at hrun
  have hout : outcome body ((op.apply (d.locate p) d).1, n) = .error e := hrun
  unfold outcome at hout
  split at hout
  · cases hout
  · exact Document.exists_of_text_eq_error hout

end OneStep

/-- The messages of a filter that hands texts to a function tell two bodies apart that differ in names under
wildcards by nothing but the places that they quote. The two nodes correspond, and their positions are the same but
for names that a wildcard reached. -/
theorem messages_of_renamed {settings : Settings} {p : Path} {f : TextFunction} {pattern : Option Pattern}
    {mediaType : Option Text} {body body' : Text} {d d' : Document} (hread : Document.read settings body = .ok d)
    (hread' : Document.read settings body' = .ok d') (hrenamed : Renamed p.segments d.root d'.root) {m m' : Text}
    (hm : (Filter.ofStep settings p (.transform f pattern)).message? mediaType body = some m)
    (hm' : (Filter.ofStep settings p (.transform f pattern)).message? mediaType body' = some m') :
    m = m' ∨ ∃ l l' before after, (l, l') ∈ (d.locate p).zip (d'.locate p)
      ∧ SamePlace p.segments l.position l'.position
      ∧ m = before ++ l.path.quoted ++ after ∧ m' = before ++ l'.path.quoted ++ after := by
  obtain ⟨e, he, hem⟩ := message?_eq_some_iff.1 hm
  obtain ⟨e', he', hem'⟩ := message?_eq_some_iff.1 hm'
  have hsettings : d'.settings = d.settings :=
    (Document.read_eq_ok_iff.1 hread').2.trans (Document.read_eq_ok_iff.1 hread).2.symm
  have hpairs := locations_renamed hrenamed
  have hupdate : ((Operation.transform f pattern).apply (d'.locate p) d').2
      = (Operation.updateEach ((Operation.transform f pattern).update d.settings) (d'.locate p) d'.root).2 := by
    rw [← hsettings]
    rfl
  rcases Operation.updateEach_in_step (hpairs.imp fun _ _ h => h.1) d.root d'.root with ⟨n, hn, hn'⟩ | hstop
  · -- the documents cannot be written, which has one message
    left
    obtain ⟨g, rfl⟩ := exists_of_apply_ofStep hread he hn
    obtain ⟨g', rfl⟩ := exists_of_apply_ofStep hread' he' (hupdate.trans hn')
    exact Option.some.inj (hem.symm.trans hem')
  · right
    -- both loops stopped, at nodes with the same value under places that differ in names only
    obtain ⟨l, l', b, b', hmem, hl, hl', hb, hb'⟩ := hstop
    obtain ⟨hvalue, hplace⟩ := List.forall₂_zip hpairs hmem
    rw [eq_of_apply_ofStep hread he hb] at hem
    rw [eq_of_apply_ofStep hread' he' (hupdate.trans hb')] at hem'
    obtain ⟨before, after, hm, hm'⟩ := Operation.message?_of_transform hvalue hl hl' hem hem'
    exact ⟨l, l', before, after, hmem, hplace, hm, hm'⟩

/-- A document of some members comes back from its text under the built-in settings. Bodies are told apart this way
in the examples below, without running the reader on them. -/
theorem read_of_text {members : Entries Value} (h : (Value.object members).Regular (fun _ => True) Json.maxDepth)
    {t : Text} (ht : (Document.text ⟨.object members, Settings.builtIn⟩).toOption = some t) :
    Document.read Settings.builtIn t = .ok ⟨.object members, Settings.builtIn⟩ :=
  @Document.read_text_self ⟨.object members, Settings.builtIn⟩ _ h (Or.inl rfl) t (Json.eq_ok_of_toOption ht)

/-- Two bodies whose only member has a name of its own each, of which one has to be quoted in a path. -/
theorem messages_of_renamed_members :
    ∃ d d', Document.read Settings.builtIn "\x7b\"a\":\x7b\"id\":1\x7d\x7d" = .ok d
      ∧ Document.read Settings.builtIn "\x7b\"b c\":\x7b\"id\":1\x7d\x7d" = .ok d'
      ∧ ∃ l l' before after,
        (l, l') ∈ (d.locate ⟨[.wildcard, .field "id"]⟩).zip (d'.locate ⟨[.wildcard, .field "id"]⟩)
        ∧ SamePlace [.wildcard, .field "id"] l.position l'.position
        ∧ "Function replacement at '$.a.id' requires a string, got number." = before ++ l.path.quoted ++ after
        ∧ "Function replacement at \"$['b c'].id\" requires a string, got number."
            = before ++ l'.path.quoted ++ after := by
  have hid : ∀ name : Text,
      (Value.object [(name, .object [("id", .integer 1)])]).Regular (fun _ => True) Json.maxDepth :=
    fun name => .object (List.nodup_singleton _) (fun _ _ => trivial) (List.forall_mem_singleton.2
      (.object (List.nodup_singleton _) (fun _ _ => trivial) (List.forall_mem_singleton.2 (.scalar rfl))))
  have hd : Document.read Settings.builtIn "\x7b\"a\":\x7b\"id\":1\x7d\x7d" = .ok ⟨_, Settings.builtIn⟩ :=
    read_of_text (hid "a") (by decide +kernel)
  have hd' : Document.read Settings.builtIn "\x7b\"b c\":\x7b\"id\":1\x7d\x7d" = .ok ⟨_, Settings.builtIn⟩ :=
    read_of_text (hid "b c") (by decide +kernel)
  -- below the member that the wildcard reaches both bodies are the same
  have hsame : Renamed [.field "id"] (.object [("id", .integer 1)]) (.object [("id", .integer 1)]) :=
    .cons ⟨rfl, rfl⟩ .nil
  have hmessages := @messages_of_renamed Settings.builtIn ⟨[.wildcard, .field "id"]⟩ (fun t => .text t) none
    (some "application/json") _ _ _ _ hd hd' (.cons hsame .nil)
    "Function replacement at '$.a.id' requires a string, got number."
    "Function replacement at \"$['b c'].id\" requires a string, got number." (by decide +kernel) (by decide +kernel)
  -- the texts part at the quote
  exact ⟨_, _, hd, hd', hmessages.resolve_left fun h =>
    absurd (congrArg (fun t : Text => t[24]?) h) (by decide +kernel)⟩

/-- The name of a member that only a wildcard reaches is told by the message. The two bodies differ in this name and
in nothing else, and so do the messages. -/
theorem message?_shows_name :
    ∃ d d' m m', Document.read Settings.builtIn "\x7b\"a\":1\x7d" = .ok d
      ∧ Document.read Settings.builtIn "\x7b\"b\":1\x7d" = .ok d' ∧ Renamed [.wildcard] d.root d'.root
      ∧ (Filter.ofStep Settings.builtIn ⟨[.wildcard]⟩ (.transform (fun t => .text t) none)).message?
          (some "application/json") "\x7b\"a\":1\x7d" = some m
      ∧ (Filter.ofStep Settings.builtIn ⟨[.wildcard]⟩ (.transform (fun t => .text t) none)).message?
          (some "application/json") "\x7b\"b\":1\x7d" = some m'
      ∧ m = "Function replacement at '$.a' requires a string, got number."
      ∧ m' = "Function replacement at '$.b' requires a string, got number." ∧ m ≠ m' := by
  have hone : ∀ name : Text, (Value.object [(name, .integer 1)]).Regular (fun _ => True) Json.maxDepth :=
    fun name => .object (List.nodup_singleton _) (fun _ _ => trivial) (List.forall_mem_singleton.2 (.scalar rfl))
  have hd : Document.read Settings.builtIn "\x7b\"a\":1\x7d" = .ok ⟨_, Settings.builtIn⟩ :=
    read_of_text (hone "a") (by decide +kernel)
  have hd' : Document.read Settings.builtIn "\x7b\"b\":1\x7d" = .ok ⟨_, Settings.builtIn⟩ :=
    read_of_text (hone "b") (by decide +kernel)
  refine ⟨_, _, _, _, hd, hd', .cons rfl .nil, by decide +kernel, by decide +kernel, rfl, rfl, fun h => ?_⟩
  -- the texts part at the name
  exact absurd (congrArg (fun t : Text => t[27]?) h) (by decide +kernel)

end Filter

end BodyScrub
