import BodyScrub.Proofs.Operation
import BodyScrub.Proofs.Path.DocumentOrder
import BodyScrub.Proofs.Path.Untouched

/-!
# Rewriting what a path addresses

An operation that takes nothing out works through the addressed nodes from the first to the last. None of them is above
or below another, so what is put in place of one never shows in the next: when the turn of a node comes, it still has
the value that it had at the beginning (`get?_updateEach_of_apart`). So an operation that comes to an end is one update
of all addressed nodes, each by its own value, and it leaves everything else as it was (`apply_locate_rewrites`).

* **`Operation.Shows`**, **`Operation.Rewrites`**: the text in which matches are replaced, and what becomes of a value.
* **`Operation.fires`**: whether a node counts as changed.
* **`rewrites_of_update`**, **`snd_updateEach_eq_ok`**: what one turn does, and what the whole loop counts.
-/

namespace BodyScrub

open Json (Value Step Position)

namespace Operation

/-! ## One node -/

/-- The text that a value shows to a pattern: that of a string is the string itself, and any other value is written
under the settings of the document. -/
inductive Shows (settings : Settings) : Value → Text → Prop where
  | string (t : Text) : Shows settings (.string t) t
  | written {v : Value} {t : Text} (other : v.kind ≠ .string) (write : Document.write settings v = .ok t) :
    Shows settings v t

/-- What an operation makes of a value, and whether this counts as a change. -/
inductive Rewrites (settings : Settings) : Operation → (old new : Value) → (fires : Bool) → Prop where
  | literal (literal : Literal) (v : Value) : Rewrites settings (.replace literal) v literal.value true
  | matched {r : Replacement} {v : Value} {t : Text} (text : Shows settings v t) (occurs : r.pattern.occursIn t = true) :
    Rewrites settings (.replaceMatches r) v (.string (r.pattern.replace r.template t)) true
  | unmatched {r : Replacement} {v : Value} {t : Text} (text : Shows settings v t)
    (absent : r.pattern.occursIn t = false) : Rewrites settings (.replaceMatches r) v v false
  | transformed {f : TextFunction} {pattern : Option Pattern} {s t : Text}
    (occurs : ∀ p ∈ pattern, p.occursIn s = true) (result : f s = .text t) :
    Rewrites settings (.transform f pattern) (.string s) (.string t) true
  | passed (f : TextFunction) {p : Pattern} {s : Text} (absent : p.occursIn s = false) :
    Rewrites settings (.transform f (some p)) (.string s) (.string s) false

/-- Whether an operation changes a node that has the value `u`. -/
def fires (settings : Settings) (op : Operation) (u : Value) : Bool :=
  (op.update settings ⟨[], u⟩).toOption.join.isSome

section

variable {settings : Settings} {op : Operation} {l : Location} {new : Option Value}

/-- The text in which matches are replaced is one that the value shows. Only one direction is of use: a value that
cannot be written shows nothing. -/
theorem shows_of_subject {v : Value} {t : Text} (h : subject settings v = .ok t) : Shows settings v t := by
  cases v with
  | string s =>
    obtain rfl : s = t := Except.ok.inj h
    exact .string s
  | _ => exact .written (by simp [Value.kind]) h

/-- A turn that succeeds puts the same in place of the value wherever it is, in particular if the value is taken for
a document of its own. -/
theorem update_root_eq_ok (h : op.update settings l = .ok new) : op.update settings ⟨[], l.value⟩ = .ok new := by
  have hvalue : l.value = (⟨[], l.value⟩ : Location).value := rfl
  exact update_of_value_eq hvalue h

/-- A turn that succeeds counts as a change if and only if it puts something in place. The number of changes is told
from the old values alone this way. -/
theorem fires_of_update (h : op.update settings l = .ok new) : op.fires settings l.value = new.isSome := by
  simp [fires, update_root_eq_ok h, Except.toOption]

/-- What one turn puts in place is what the operation makes of the value of the node, and `fires` tells whether it
counts. There is one case for each rule of `Rewrites`. -/
theorem rewrites_of_update (hop : op ≠ .delete) (h : op.update settings l = .ok new) :
    op.Rewrites settings l.value (put (op.update settings ⟨[], l.value⟩) l.value) (op.fires settings l.value) := by
  rw [fires_of_update h, update_root_eq_ok h]
  cases op with
  | delete => exact absurd rfl hop
  | replace literal =>
    obtain rfl : some literal.value = new := Except.ok.inj h
    exact .literal literal l.value
  | replaceMatches r =>
    obtain ⟨t, ht, rfl⟩ := exists_of_map_eq_ok h
    have hshows := shows_of_subject ht
    cases hoccurs : r.pattern.occursIn t with
    | true => simpa [Replacement.replace?, hoccurs, put] using Rewrites.matched hshows hoccurs
    | false => simpa [Replacement.replace?, hoccurs, put] using Rewrites.unmatched hshows hoccurs
  | transform f pattern =>
    obtain ⟨t, ht, rfl⟩ := exists_of_map_eq_ok h
    obtain ⟨s, hs, hturn⟩ := transformed_eq_ok_iff.1 ht
    rw [hs]
    -- either the pattern occurs, or the text stays
    rcases hturn with ⟨hall, w, hf, rfl⟩ | ⟨habsent, rfl⟩
    · refine .transformed ?_ hf
      cases pattern with
      | none => simp
      | some p => simpa using hall
    · cases pattern with
      | none => simp at habsent
      | some p => exact .passed f (by simpa using habsent)

end

/-! ## The loop -/

section

variable {F : Location → Except Fault (Option Value)} {ls : List Location}

/-- The loop counts the nodes that are changed. Which ones these are may be told beforehand, by `counts`, as far as
the turns succeed. -/
theorem snd_updateEach_eq_ok {counts : Location → Bool} (hF : ∀ l ∈ ls, ∀ new, F l = .ok new → counts l = new.isSome)
    {v : Value} {n : Nat} (h : (updateEach F ls v).2 = .ok n) : n = ls.countP counts := by
  induction ls generalizing v n with
  | nil =>
    have hzero : 0 = n := Except.ok.inj h
    simp [← hzero]
  | cons l ls ih =>
    have hrest : ∀ m ∈ ls, ∀ new, F m = .ok new → counts m = new.isSome := fun m hm => hF m (List.mem_cons_of_mem l hm)
    rw [updateEach] at h
    rw [List.countP_cons]
    split at h
    · cases h
    -- the turn changes nothing and is not counted
    · next hl =>
      have hcount : counts l = false := by simpa using hF l List.mem_cons_self none hl
      simpa [hcount] using ih hrest h
    · next new hl =>
      have hcount : counts l = true := by simpa using hF l List.mem_cons_self (some new) hl
      obtain ⟨m, hm, hsucc⟩ := exists_of_map_eq_ok h
      rw [← hsucc, ih hrest hm, hcount]
      simp

/-- The loop leaves the nodes alone that are neither above nor below those that it changes. It does so also if a
turn fails and the rest is not reached. -/
theorem get?_updateEach_of_apart {p : Position} (h : ∀ l ∈ ls, ¬p <+: l.position ∧ ¬l.position <+: p) (v : Value) :
    (updateEach F ls v).1.get? p = v.get? p := by
  induction ls generalizing v with
  | nil => simp [updateEach]
  | cons l ls ih =>
    obtain ⟨hup, hdown⟩ := h l List.mem_cons_self
    have hrest : ∀ m ∈ ls, ¬p <+: m.position ∧ ¬m.position <+: p := fun m hm => h m (List.mem_cons_of_mem l hm)
    rw [updateEach]
    split
    · simp
    · exact ih hrest v
    · next new _ =>
      have hset := Value.get?_modify_of_apart hup hdown (fun _ => new) v
      exact (ih hrest (Value.set l.position new v)).trans hset

end

/-! ## Whole operations -/

/-- An operation that takes nothing out is one loop of updates over the addressed nodes, in the order in which it is
given them. -/
theorem apply_of_ne_delete {op : Operation} (hop : op ≠ .delete) (ls : List Location) (d : Document) :
    op.apply ls d = (⟨(updateEach (op.update d.settings) ls d.root).1, d.settings⟩,
      (updateEach (op.update d.settings) ls d.root).2) := by
  cases op with
  | delete => exact absurd rfl hop
  | _ => rfl

/-- An operation that takes nothing out and comes to an end has updated all addressed nodes at once: each of them, by
the value that it had in the document before. A node that is neither one of them nor below one keeps its kind, its names
in their order or its number of items, and a node that is not above one either is the same. The count is that of the
changed nodes. When the turn of a node comes, those before it are updated, and the node still has the value that it had
in the document before. -/
theorem apply_locate_rewrites {op : Operation} (hop : op ≠ .delete) {p : Path} {d d' : Document}
    {okName : Text → Prop} {depth : Nat} (hd : d.root.Regular okName depth) {n : Nat}
    (h : op.apply (d.locate p) d = (d', .ok n)) :
    d'.settings = d.settings
      ∧ (∀ l ∈ d.locate p, d.root.get? l.position = some l.value ∧ ∃ new,
          op.Rewrites d.settings l.value new (op.fires d.settings l.value) ∧ d'.root.get? l.position = some new)
      ∧ (∀ q, (∀ l ∈ d.locate p, ¬l.position <+: q) →
          (d'.root.get? q).map Value.shell = (d.root.get? q).map Value.shell)
      ∧ (∀ q, (∀ l ∈ d.locate p, ¬l.position <+: q ∧ ¬q <+: l.position) → d'.root.get? q = d.root.get? q)
      ∧ n = (d.locate p).countP (fun l => op.fires d.settings l.value) ∧ n ≤ (d.locate p).length
      ∧ ∀ before l after, d.locate p = before ++ l :: after →
          (updateEach (op.update d.settings) before d.root).1.get? l.position = some l.value := by
  have hroot := congrArg (fun x => x.1.root) (apply_of_ne_delete hop (d.locate p) d)
  have hcount := congrArg Prod.snd (apply_of_ne_delete hop (d.locate p) d)
  rw [h] at hroot hcount
  replace hcount : (updateEach (op.update d.settings) (d.locate p) d.root).2 = .ok n := hcount.symm
  have hupdate := exists_of_updateEach hcount
  have hnode : ∀ l ∈ d.locate p, d.root.get? l.position = some l.value :=
    fun l hl => ((mem_resolveSegments_iff hd).1 hl).2
  have hmap : d'.root = mapSegments (fun u => put (op.update d.settings ⟨[], u⟩) u) p.segments d.root :=
    hroot.trans (fst_updateEach_resolve hd hcount)
  have hn : n = (d.locate p).countP fun l => op.fires d.settings l.value :=
    snd_updateEach_eq_ok (fun l _ new hnew => fires_of_update hnew) hcount
  refine ⟨?_, ?_, ?_, ?_, hn, ?_, ?_⟩
  · have hsettings := op.settings_apply (d.locate p) d
    rwa [h] at hsettings
  · intro l hl
    obtain ⟨new, hnew⟩ := hupdate l hl
    refine ⟨hnode l hl, _, rewrites_of_update hop hnew, ?_⟩
    -- the path finds the node again, now with its new value
    have hregular : d'.root.Regular okName depth := by
      have hchanges := op.changes_apply (d.locate p) d
      rw [h] at hchanges
      exact hchanges.regular hd
    rw [hmap] at hregular ⊢
    have hfound : ⟨l.position, put (op.update d.settings ⟨[], l.value⟩) l.value⟩ ∈ resolveSegments p.segments
        (mapSegments (fun u => put (op.update d.settings ⟨[], u⟩) u) p.segments d.root) := by
      rw [resolve_mapSegments]
      exact List.mem_map.2 ⟨l, hl, rfl⟩
    exact ((mem_resolveSegments_iff hregular).1 hfound).2
  · intro q hq
    rw [hmap]
    exact shell_get?_mapSegments hq
  · intro q hq
    rw [hmap]
    exact get?_mapSegments hq
  · rw [hn]
    exact List.countP_le_length
  -- the nodes before this one are apart from it, so that its value shows none of their changes
  · intro before l after hsplit
    have hl : l ∈ d.locate p := by simp [hsplit]
    have hapart : (before ++ l :: after).Pairwise
        fun l m => ¬l.position <+: m.position ∧ ¬m.position <+: l.position := by
      rw [← hsplit]
      exact pairwise_apart hd p.segments
    have hbefore := (List.pairwise_append.1 hapart).2.2
    rw [get?_updateEach_of_apart fun m hm => (hbefore m hm l List.mem_cons_self).symm]
    exact hnode l hl

/-- Digits in the members of an object: in a string, in an array that is replaced by its text, and in none of the
others. -/
theorem apply_locate_rewrites_digits :
    ∃ d d' r, Document.read Settings.builtIn "\x7b\"a\": \"x12\", \"b\": [3, 4], \"c\": \"y\", \"d\": null\x7d" = .ok d
      ∧ Replacement.build (.text "[0-9]+") (.string "#") = .ok r
      ∧ (replaceMatches r).apply (d.locate ⟨[.wildcard]⟩) d = (d', .ok 2)
      ∧ d'.text = .ok "\x7b\"a\":\"x#\",\"b\":\"[#,#]\",\"c\":\"y\",\"d\":null\x7d"
      ∧ 2 = (d.locate ⟨[.wildcard]⟩).countP (fun l => (replaceMatches r).fires d.settings l.value)
      ∧ ∀ l ∈ d.locate ⟨[.wildcard]⟩, d.root.get? l.position = some l.value ∧ ∃ new,
          (replaceMatches r).Rewrites d.settings l.value new ((replaceMatches r).fires d.settings l.value)
            ∧ d'.root.get? l.position = some new := by
  have hfound : ((Document.read Settings.builtIn
        "\x7b\"a\": \"x12\", \"b\": [3, 4], \"c\": \"y\", \"d\": null\x7d").toOption.bind fun d =>
      (Replacement.build (.text "[0-9]+") (.string "#")).toOption.map fun r =>
        (((replaceMatches r).apply (d.locate ⟨[.wildcard]⟩) d).1.text.toOption,
          ((replaceMatches r).apply (d.locate ⟨[.wildcard]⟩) d).2.toOption))
      = some (some ("\x7b\"a\":\"x#\",\"b\":\"[#,#]\",\"c\":\"y\",\"d\":null\x7d" : Text), some 2) := by
    decide +kernel
  obtain ⟨d, hd, hbuilt⟩ := Option.bind_eq_some_iff.1 hfound
  obtain ⟨r, hr, hpair⟩ := Option.map_eq_some_iff.1 hbuilt
  have hread := Json.eq_ok_of_toOption hd
  have hregular := Json.regular_of_read (Document.read_eq_ok_iff.1 hread).1
  have htext := Json.eq_ok_of_toOption (congrArg Prod.fst hpair)
  have hcount := Json.eq_ok_of_toOption (congrArg Prod.snd hpair)
  have happly : (replaceMatches r).apply (d.locate ⟨[.wildcard]⟩) d
      = (((replaceMatches r).apply (d.locate ⟨[.wildcard]⟩) d).1, .ok 2) := Prod.ext rfl hcount
  have hop : replaceMatches r ≠ .delete := by simp
  obtain ⟨-, hnodes, -, -, hfires, -, -⟩ := apply_locate_rewrites hop hregular happly
  exact ⟨d, _, r, hread, Json.eq_ok_of_toOption hr, happly, htext, hfires, hnodes⟩

end Operation

end BodyScrub
