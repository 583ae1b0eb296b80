import BodyScrub.Proofs.Json.Separators
import BodyScrub.Proofs.Operation.Progress

/-!
# The text in which matches are replaced

Where matches are replaced in a node that is not a string, its text is written as the document is, with blanks after the
separators or without. So the two ways of writing a document give a node different values, unless no separator stands in
its text. They do so already for the replacement that keeps all of a text (`Replacement.whole`), and, for a document and
a path, whenever one node that is reached has a separator in its text (`ScrubStep.apply_replaceMatches_compact`).
-/

namespace BodyScrub

open Json (Value Position)

/-! ## The replacement that keeps everything -/

namespace Replacement

/-- Matches the beginning of a text and puts nothing in its place. -/
def whole : Replacement := ⟨⟨"\\A", 0, [], .anchor .textStart⟩, [], ⟨[]⟩, rfl⟩

/-- The replacement of the whole text is one of those that are built from a pattern and a template, so it is a step
that a user can write down. -/
theorem build_whole : build (.text "\\A") (.string []) = .ok whole := rfl

section

variable (s : Pattern.Subject)

/-- At the beginning there is a match, and it is empty. -/
theorem matchAt_whole_start : whole.pattern.matchAt s 0 false = some ⟨⟨0, 0⟩, []⟩ := rfl

/-- There is no other match at the beginning, as one that is not empty is asked for after an empty one. -/
theorem matchAt_whole_start_nonempty : whole.pattern.matchAt s 0 true = none := rfl

/-- No match begins later in the text, as `\A` stands for its beginning alone. -/
theorem matchAt_whole_succ (place : Nat) (nonempty : Bool) :
    whole.pattern.matchAt s (place + 1) nonempty = none := rfl

/-- A search that begins later in the text finds nothing, however many places it tries. -/
theorem findAmong_whole_succ (count place : Nat) (nonempty : Bool) :
    whole.pattern.findAmong s count (place + 1) nonempty = none := by
  induction count generalizing place nonempty with
  | zero => rfl
  | succ count ih =>
    -- one more place is tried in vain
    rw [Pattern.findAmong, matchAt_whole_succ]
    exact ih (place + 1) false

/-- There is one match, at the beginning, and it is empty. So what is left between matches is all of the text. -/
theorem allMatches_whole : whole.pattern.allMatches s = [⟨⟨0, 0⟩, []⟩] := by
  have hfirst : whole.pattern.findFrom s 0 false = some ⟨⟨0, 0⟩, []⟩ := rfl
  have hnext : whole.pattern.findFrom s 0 true = none := by
    show whole.pattern.findAmong s (s.size + 1) 0 true = none
    rw [Pattern.findAmong, matchAt_whole_start_nonempty]
    exact findAmong_whole_succ s s.size 0 false
  show whole.pattern.matchesFrom s (2 * s.size + 1 + 1) 0 false = _
  rw [Pattern.matchesFrom, hfirst]
  show _ :: whole.pattern.matchesFrom s (2 * s.size + 1) 0 true = _
  rw [Pattern.matchesFrom, hnext]

end

/-- The replacement occurs in every text and gives it back. A node that is not a string becomes the text that it
shows, which is how the two styles are told apart. -/
theorem replace?_whole (t : Text) : whole.replace? t = some t := by
  have hreplaced : whole.pattern.replace whole.template t = t := by
    show Pattern.splice t.toArray _ 0 (whole.pattern.allMatches t.toArray) = t
    rw [allMatches_whole]
    simp [Pattern.splice, Pattern.Span.text, Template.expand, whole]
  show (if whole.pattern.occursIn t then some (whole.pattern.replace whole.template t) else none) = some t
  rw [hreplaced]
  rfl

end Replacement

/-! ## One node -/

/-- The text of a value does not tell how separators are written: it is a string itself, or it is not given since the
writer refuses the value, or it has no separator. -/
def Json.Value.StyleFree (allowNonFinite : Bool) (v : Value) : Prop :=
  v.kind = .string ∨ v.writeFault? allowNonFinite ≠ none ∨ v.separators = 0

/-- The text of a value is the same with blanks and without where it is refused or has no separator. A refusal does
not depend on the style. -/
theorem Document.write_compact_eq_iff (settings : Settings) (v : Value) :
    write { settings with compact := true } v = write { settings with compact := false } v
      ↔ v.writeFault? settings.allowNonFinite ≠ none ∨ v.separators = 0 := by
  unfold write Json.writeChecked
  cases v.writeFault? settings.allowNonFinite with
  | some f => simp
  | none =>
    show Except.ok (v.write (.compact settings.asciiOnly)) = .ok (v.write (.spaced settings.asciiOnly)) ↔ _
    rw [Except.ok.injEq, eq_comm, Value.write_spaced_eq_iff]
    simp

namespace Operation

variable {settings : Settings} {l : Location}

/-- The text of a node that is not a string is what the document would write for it alone, separators included. -/
theorem subject_of_kind_ne {v : Value} (h : v.kind ≠ .string) : subject settings v = Document.write settings v := by
  cases v with
  | string s => exact absurd rfl h
  | _ => rfl

/-- A value that the writer does not refuse has a text in which matches are replaced. A string has one in any case,
which is the string itself. -/
theorem subject_eq_ok_of_writeFault? {v : Value} (h : v.writeFault? settings.allowNonFinite = none) :
    ∃ t, subject settings v = .ok t := by
  by_cases hkind : v.kind = .string
  · obtain ⟨s, rfl⟩ := Value.exists_of_kind_eq_string hkind
    exact ⟨s, rfl⟩
  · rw [subject_of_kind_ne hkind]
    unfold Document.write Json.writeChecked
    rw [h]
    exact ⟨_, rfl⟩

/-- The other way round, a value with such a text is not refused: a string never is, and any other value is written
for it. -/
theorem writeFault?_of_subject {v : Value} {t : Text} (h : subject settings v = .ok t) :
    v.writeFault? settings.allowNonFinite = none := by
  by_cases hkind : v.kind = .string
  · obtain ⟨s, rfl⟩ := Value.exists_of_kind_eq_string hkind
    rfl
  · rw [subject_of_kind_ne hkind] at h
    unfold Document.write Json.writeChecked at h
    cases hfault : v.writeFault? settings.allowNonFinite with
    | none => rfl
    | some f => simp [hfault] at h

/-- The two styles give a value the same text, or the same refusal, if and only if it is free of style. Strings are,
since they are not written for this. -/
theorem subject_compact_eq_iff (settings : Settings) (v : Value) :
    subject { settings with compact := true } v = subject { settings with compact := false } v
      ↔ v.StyleFree settings.allowNonFinite := by
  unfold Value.StyleFree
  -- a string is its own text, so there is nothing to write
  by_cases hkind : v.kind = .string
  · obtain ⟨s, rfl⟩ := Value.exists_of_kind_eq_string hkind
    exact iff_of_true rfl (Or.inl rfl)
  · rw [subject_of_kind_ne hkind, subject_of_kind_ne hkind, Document.write_compact_eq_iff]
    simp [hkind]

/-- It is enough that the texts of the two styles are the same where there are such texts. Then the two refusals are
the same as well, since a refusal does not depend on the style. -/
theorem styleFree_of_subjects {v : Value} (h : ∀ t u, subject { settings with compact := true } v = .ok t →
    subject { settings with compact := false } v = .ok u → t = u) :
    v.StyleFree settings.allowNonFinite := by
  by_cases hfault : v.writeFault? settings.allowNonFinite = none
  · obtain ⟨t, ht⟩ := @subject_eq_ok_of_writeFault? { settings with compact := true } v hfault
    obtain ⟨u, hu⟩ := @subject_eq_ok_of_writeFault? { settings with compact := false } v hfault
    rw [← subject_compact_eq_iff, ht, hu, h t u ht hu]
  · exact Or.inr (Or.inl hfault)

/-- The replacement that keeps all of a text puts the text of a node in its place. From two updates with it the two
texts can be read off. -/
theorem update_whole {t : Text} (h : subject settings l.value = .ok t) :
    (replaceMatches .whole).update settings l = .ok (some (.string t)) := by
  show (subject settings l.value).map (fun t => (Replacement.whole.replace? t).map Value.string) = _
  rw [h]
  show Except.ok ((Replacement.whole.replace? t).map Value.string) = _
  rw [Replacement.replace?_whole]
  rfl

/-- Replacements give a node the same value under two settings if they see the same text. Nothing else of the
settings is used. -/
theorem update_replaceMatches_congr {settings' : Settings} (r : Replacement)
    (h : subject settings l.value = subject settings' l.value) :
    (replaceMatches r).update settings l = (replaceMatches r).update settings' l := by
  show (subject settings l.value).map _ = (subject settings' l.value).map _
  rw [h]

/-- The values that replacements give a node tell the two styles apart if and only if its texts do. One replacement
is enough for this, the one that keeps everything. -/
theorem update_replaceMatches_compact_iff (settings : Settings) (l : Location) :
    (∀ r, (replaceMatches r).update { settings with compact := true } l
        = (replaceMatches r).update { settings with compact := false } l)
      ↔ l.value.StyleFree settings.allowNonFinite := by
  refine ⟨fun h => styleFree_of_subjects fun t u ht hu => ?_,
    fun h r => update_replaceMatches_congr r ((subject_compact_eq_iff settings l.value).2 h)⟩
  have hvalues := h .whole
  rw [update_whole ht, update_whole hu] at hvalues
  exact Value.string.inj (Option.some.inj (Except.ok.inj hvalues))

end Operation

/-! ## Whole steps -/

namespace ScrubStep

open Operation (subject updateEach replaceMatches)

/-- The replacement that keeps all of a text leaves the text of each node that is reached in its place. A node is
reached if the writer refuses none of the addressed nodes before it; whether a later one is refused does not matter. -/
theorem get?_apply_whole (settings : Settings) {p : Path} {root : Value} {okName : Text → Prop} {depth : Nat}
    (hroot : root.Regular okName depth) {before after : List Location} {l : Location}
    (hsplit : p.resolve root = before ++ l :: after)
    (hbefore : ∀ m ∈ before, m.value.writeFault? settings.allowNonFinite = none) {t : Text}
    (ht : subject settings l.value = .ok t) :
    (apply ⟨p, replaceMatches .whole⟩ ⟨root, settings⟩).1.root.get? l.position = some (.string t) := by
  -- the turns up to this node succeed, since the writer refuses none of the nodes
  have hturns : ∀ m ∈ before ++ [l], ∃ new, (replaceMatches .whole).update settings m = .ok new := by
    intro m hm
    rcases List.mem_append.1 hm with hm | hm
    · obtain ⟨u, hu⟩ := Operation.subject_eq_ok_of_writeFault? (hbefore m hm)
      exact ⟨_, Operation.update_whole hu⟩
    · rw [List.mem_singleton.1 hm]
      exact ⟨_, Operation.update_whole ht⟩
  have hall : p.resolve root = (before ++ [l]) ++ after := by simp [hsplit]
  have hnode : ∀ m ∈ before ++ [l], root.get? m.position = some m.value := fun m hm =>
    ((mem_resolveSegments_iff hroot).1 (show m ∈ p.resolve root from hall ▸ List.mem_append_left after hm)).2
  have hapart := pairwise_apart hroot p.segments
  rw [show resolveSegments p.segments root = (before ++ [l]) ++ after from hall, List.pairwise_append] at hapart
  obtain ⟨hreached, -, hothers⟩ := hapart
  have hl : l ∈ before ++ [l] := by simp
  obtain ⟨n, hn⟩ := Operation.exists_updateEach_eq_ok hturns root
  show (updateEach _ (p.resolve root) root).1.get? l.position = _
  rw [hall, Operation.fst_updateEach_append hn, Operation.get?_updateEach_of_apart fun m hm => hothers l hl m hm,
    Operation.get?_updateEach hreached hnode hn l hl, Operation.update_whole ht]
  rfl

/-- Matches in a node that is not a string are replaced in its text as the document writes it. So whether separators are
written with blanks shows in such nodes: all replacements give an addressed node the same value with blanks and without
if and only if the node is a string, or is refused by the writer, or has no separator in its text. And a step with any
replacement makes the same of a document, with the same result, if and only if this is so for every addressed node that
is reached, up to the first one that the writer refuses. -/
theorem apply_replaceMatches_compact (settings : Settings) (p : Path) {root : Value} {okName : Text → Prop}
    {depth : Nat} (hroot : root.Regular okName depth) :
    (∀ l ∈ p.resolve root, l.value.kind ≠ .string → ∀ r, (replaceMatches r).update settings l
        = (Document.write settings l.value).map fun t => (r.replace? t).map Value.string)
      ∧ (∀ l ∈ p.resolve root, (∀ r, (replaceMatches r).update { settings with compact := true } l
            = (replaceMatches r).update { settings with compact := false } l)
          ↔ l.value.StyleFree settings.allowNonFinite)
      ∧ ((∀ r, (apply ⟨p, replaceMatches r⟩ ⟨root, { settings with compact := true }⟩).1.root
              = (apply ⟨p, replaceMatches r⟩ ⟨root, { settings with compact := false }⟩).1.root
            ∧ (apply ⟨p, replaceMatches r⟩ ⟨root, { settings with compact := true }⟩).2
              = (apply ⟨p, replaceMatches r⟩ ⟨root, { settings with compact := false }⟩).2)
          ↔ ∀ before l after, p.resolve root = before ++ l :: after →
              (∀ m ∈ before, m.value.writeFault? settings.allowNonFinite = none) →
              l.value.StyleFree settings.allowNonFinite) := by
  refine ⟨fun l _ hkind r => ?_, fun l _ => Operation.update_replaceMatches_compact_iff settings l, ⟨?_, ?_⟩⟩
  · rw [← Operation.subject_of_kind_ne hkind]
    rfl
  -- two documents that agree after the replacement that keeps everything show the two texts of the node
  · intro h before l after hsplit hbefore
    refine Operation.styleFree_of_subjects fun t u ht hu => ?_
    have hcompact := get?_apply_whole { settings with compact := true } hroot hsplit hbefore ht
    have hspaced := get?_apply_whole { settings with compact := false } hroot hsplit hbefore hu
    rw [(h .whole).1, hspaced] at hcompact
    exact (Value.string.inj (Option.some.inj hcompact)).symm
  -- the loops agree turn by turn, up to the first node that is refused under both styles
  · intro h r
    have hloop : updateEach ((replaceMatches r).update { settings with compact := true }) (p.resolve root) root
        = updateEach ((replaceMatches r).update { settings with compact := false }) (p.resolve root) root := by
      refine Operation.updateEach_congr (fun before l after hsplit hbefore => ?_) root
      refine Operation.update_replaceMatches_congr r ((Operation.subject_compact_eq_iff settings l.value).2 ?_)
      refine h before l after hsplit fun m hm => ?_
      obtain ⟨new, hnew⟩ := hbefore m hm
      obtain ⟨t, ht, -⟩ := exists_of_map_eq_ok hnew
      exact @Operation.writeFault?_of_subject { settings with compact := true } _ _ ht
    have hroots := congrArg Prod.fst hloop
    have hresults := congrArg Prod.snd hloop
    exact ⟨hroots, congrArg (Except.map _) hresults⟩

/-- An array of one item, an object without members and a string show no style, although the string has a comma and
a blank in it. -/
theorem apply_replaceMatches_compact_singles :
    ∃ root, Json.read false "[[1],\x7b\x7d,\"a, b\"]" = .ok root
      ∧ ∀ r, (apply ⟨⟨[.wildcard]⟩, replaceMatches r⟩ ⟨root, { Settings.builtIn with compact := true }⟩).1.root
          = (apply ⟨⟨[.wildcard]⟩, replaceMatches r⟩ ⟨root, { Settings.builtIn with compact := false }⟩).1.root := by
  have hfound : (Json.read false "[[1],\x7b\x7d,\"a, b\"]").toOption.map (fun root =>
      (Path.resolve ⟨[.wildcard]⟩ root).all fun l => l.value.kind = .string || l.value.separators = 0) = some true := by
    decide +kernel
  obtain ⟨root, hroot, hall⟩ := Option.map_eq_some_iff.1 hfound
  have hread := Json.eq_ok_of_toOption hroot
  obtain ⟨-, -, hiff⟩ := apply_replaceMatches_compact Settings.builtIn ⟨[.wildcard]⟩ (Json.regular_of_read hread)
  refine ⟨root, hread, fun r => (hiff.2 (fun before l after hsplit _ => ?_) r).1⟩
  have hl : l ∈ Path.resolve ⟨[.wildcard]⟩ root := by simp [hsplit]
  have hshows : l.value.kind = .string ∨ l.value.separators = 0 := by simpa using List.all_eq_true.1 hall l hl
  exact hshows.imp_right Or.inr

/-- A pattern with a comma occurs in an array as long as no blanks are written. -/
theorem apply_replaceMatches_spaced :
    ∃ root r, Json.read false "\x7b\"a\":[1,2]\x7d" = .ok root
      ∧ Replacement.build (.text "1,2") (.string "x") = .ok r
      ∧ (apply ⟨⟨[.field "a"]⟩, replaceMatches r⟩ ⟨root, { Settings.builtIn with compact := true }⟩).2 = .ok ⟨1, 1⟩
      ∧ (apply ⟨⟨[.field "a"]⟩, replaceMatches r⟩ ⟨root, { Settings.builtIn with compact := true }⟩).1.text
          = .ok "\x7b\"a\":\"[x]\"\x7d"
      ∧ (apply ⟨⟨[.field "a"]⟩, replaceMatches r⟩ ⟨root, { Settings.builtIn with compact := false }⟩).2 = .ok ⟨1, 0⟩
      ∧ (apply ⟨⟨[.field "a"]⟩, replaceMatches r⟩ ⟨root, { Settings.builtIn with compact := false }⟩).1.text
          = .ok "\x7b\"a\": [1, 2]\x7d" := by
  have hfound : ((Json.read false "\x7b\"a\":[1,2]\x7d").toOption.bind fun root =>
      (Replacement.build (.text "1,2") (.string "x")).toOption.map fun r =>
        [true, false].map fun compact =>
          ((apply ⟨⟨[.field "a"]⟩, replaceMatches r⟩ ⟨root, { Settings.builtIn with compact }⟩).2.toOption,
            (apply ⟨⟨[.field "a"]⟩, replaceMatches r⟩ ⟨root, { Settings.builtIn with compact }⟩).1.text.toOption))
      = some [(some ⟨1, 1⟩, some ("\x7b\"a\":\"[x]\"\x7d" : Text)),
          (some ⟨1, 0⟩, some ("\x7b\"a\": [1, 2]\x7d" : Text))] := by
    decide +kernel
  obtain ⟨root, hroot, hbuilt⟩ := Option.bind_eq_some_iff.1 hfound
  obtain ⟨r, hr, hruns⟩ := Option.map_eq_some_iff.1 hbuilt
  obtain ⟨hcompact, hrest⟩ := List.cons.inj hruns
  obtain ⟨hspaced, -⟩ := List.cons.inj hrest
  exact ⟨root, r, Json.eq_ok_of_toOption hroot, Json.eq_ok_of_toOption hr,
    Json.eq_ok_of_toOption (congrArg Prod.fst hcompact), Json.eq_ok_of_toOption (congrArg Prod.snd hcompact),
    Json.eq_ok_of_toOption (congrArg Prod.fst hspaced), Json.eq_ok_of_toOption (congrArg Prod.snd hspaced)⟩

end ScrubStep

end BodyScrub
