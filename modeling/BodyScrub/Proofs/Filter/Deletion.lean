import BodyScrub.Proofs.Document
import BodyScrub.Proofs.Filter.Merge
import BodyScrub.Proofs.Path.Resolution

/-!
# What was deleted stays out

After a deletion a path of names and wildcards addresses nothing in the document, no step that follows brings a match
back, and the text that is written reads as a document without a match. The deletion itself takes the matches out from
the last to the first, so that at every moment the path addresses exactly those still to come.
-/

namespace BodyScrub

open Json (Value PairFree rewritten)

/-- The positions to which a path leads are taken out one by one, until it leads nowhere. At every moment it leads
to exactly those still to come, as indices before the one that was taken out do not move. -/
theorem resolve_eraseEach {segments : List Segment} (hne : segments ≠ [])
    (hsegments : ∀ s ∈ segments, s.isIndex = false) {okName : Text → Prop} {depth : Nat} {v : Value}
    (hv : v.Regular okName depth) {ls : List Location}
    (h : (resolveSegments segments v).map Location.position = ls.map Location.position) :
    resolveSegments segments (Operation.eraseEach ls.reverse v).1 = [] := by
  -- the last match goes first, so the induction takes positions off the end
  induction ls using List.reverseRecOn generalizing v with
  | nil => exact List.map_eq_nil_iff.1 h
  | append_singleton ls l ih =>
    rw [List.map_append, List.map_eq_append_iff] at h
    obtain ⟨found, lasts, hfound, hpositions, hlasts⟩ := h
    obtain ⟨last, rfl, hlast⟩ := List.map_eq_singleton_iff.1 hlasts
    have hmem : last ∈ resolveSegments segments v := by
      rw [hfound]
      exact List.mem_append_right _ List.mem_cons_self
    -- a path with a segment does not lead to the root, so none of these erasures is refused
    have hposition : l.position ≠ [] := by
      rw [← hlast]
      cases segments with
      | nil => exact absurd rfl hne
      | cons s rest => exact position_ne_nil hmem
    have hroot : ¬l.isRoot = true := by
      unfold Location.isRoot
      rw [List.isEmpty_iff]
      exact hposition
    obtain ⟨w, hw⟩ : ∃ w, Value.alter (fun _ => none) l.position v = some w := by
      cases hp : l.position with
      | nil => exact absurd hp hposition
      | cons step p => exact ⟨_, Value.alter_cons _ step p v⟩
    have herase : v.erase l.position = w := by
      unfold Value.erase
      rw [hw]
      rfl
    have hregular : w.Regular okName depth := hv.alter (fun _ _ hnone => absurd hnone (by simp)) hw
    -- without the last match the path leads to the ones before it, at the positions they had
    have hrest := positions_resolve_erase hsegments hv hfound (by rw [hlast]; exact hw)
    rw [List.reverse_append, List.reverse_singleton, List.singleton_append, Operation.eraseEach, if_neg hroot, herase]
    exact ih hregular (hrest.trans hpositions)

/-- A deletion leaves nothing that its path addresses, if the path has names and wildcards only: after an index was
taken out the next item stands in its place. -/
theorem locate_apply_delete {p : Path} (hroot : p.isRoot = false) (hsegments : ∀ s ∈ p.segments, s.isIndex = false)
    {okName : Text → Prop} {depth : Nat} {d : Document} (hd : d.root.Regular okName depth) :
    (ScrubStep.apply ⟨p, .delete⟩ d).1.locate p = [] := by
  have hne : p.segments ≠ [] := by
    intro hnil
    unfold Path.isRoot at hroot
    rw [hnil] at hroot
    exact absurd hroot (by decide)
  exact resolve_eraseEach hne hsegments hd (rfl : _ = (resolveSegments p.segments d.root).map _)

/-- No change brings back what a path addresses. Only values that are not containers are put into a document, so a
path that led nowhere has nothing new to lead through. -/
theorem Changes.resolve_eq_nil {segments : List Segment} (hsegments : ∀ s ∈ segments, s.isIndex = false)
    {okName : Text → Prop} {depth : Nat} {v w : Value} (h : Changes v w) (hv : v.Regular okName depth)
    (hnil : resolveSegments segments v = []) : resolveSegments segments w = [] :=
  (h.preserves (P := fun u => u.Regular okName depth ∧ resolveSegments segments u = [])
    (fun hf halter hu => ⟨hu.1.alter hf halter, resolve_alter_eq_nil hsegments hu.1 hf hu.2 halter⟩) ⟨hv, hnil⟩).2

namespace Filter

/-- After a run with a deletion in it nothing is left that the path of the deletion addresses, whatever the steps
before and after it do. -/
theorem locate_of_runSteps {steps : List ScrubStep} {p : Path} (hmem : ⟨p, .delete⟩ ∈ steps)
    (hroot : p.isRoot = false) (hsegments : ∀ s ∈ p.segments, s.isIndex = false) {okName : Text → Prop} {depth : Nat}
    {d d' : Document} {n : Nat} (hd : d.root.Regular okName depth) (h : (runSteps steps d).2 = .ok (d', n)) :
    d'.locate p = [] := by
  obtain ⟨before, after, rfl⟩ := List.append_of_mem hmem
  -- the run is cut at the deletion: what it worked on, what it left, and what came after
  rw [runSteps_append] at h
  obtain ⟨⟨d₁, n₁⟩, hbefore, h⟩ := exists_of_bind_eq_ok h
  obtain ⟨⟨d₂, n₂⟩, hrun, hpair⟩ := exists_of_map_eq_ok h
  obtain ⟨rfl, -⟩ := Prod.mk.inj hpair
  rw [runSteps_cons] at hrun
  obtain ⟨t, -, hrun⟩ := exists_of_bind_eq_ok hrun
  obtain ⟨⟨d₃, n₃⟩, hafter, hpair⟩ := exists_of_map_eq_ok hrun
  obtain ⟨rfl, -⟩ := Prod.mk.inj hpair
  -- the steps before keep the document regular, and the steps after bring nothing back
  have hd₁ := (changes_of_runSteps hbefore).1.regular hd
  have hdeleted := locate_apply_delete hroot hsegments hd₁
  have hregular := (Operation.changes_apply .delete (d₁.locate p) d₁).regular hd₁
  exact (changes_of_runSteps hafter).1.resolve_eq_nil hsegments hregular hdeleted

/-- Where a filter by path deletes, the text it gives reads as a document in which the deleted path addresses nothing,
whatever the other steps are. -/
theorem locate_eq_nil_of_delete {steps : List ScrubStep} {settings : Settings} {p : Path}
    (hmem : ⟨p, .delete⟩ ∈ steps) (hroot : p.isRoot = false) (hsegments : ∀ s ∈ p.segments, s.isIndex = false)
    {mediaType : Option Text} (hjson : MediaType.isJson mediaType = true) {body out : Text}
    (hbody : ∀ c ∈ body, c.isSurrogate = false)
    (h : (Filter.path steps settings).apply mediaType body = .ok out) :
    ∃ d, Document.read settings out = .ok d ∧ d.locate p = [] := by
  obtain ⟨d, d', n, hread, hrun, hout⟩ := exists_of_apply_path hjson h
  obtain ⟨hvalue, hsame⟩ := Document.read_eq_ok_iff.1 hread
  have hregular := Json.regular_of_read_pairFree hbody hvalue
  have hgone := locate_of_runSteps hmem hroot hsegments hregular hrun
  obtain ⟨hchanges, hsettings, hzero⟩ := changes_of_runSteps hrun
  unfold outcome at hout
  split at hout
  · next hn =>
    -- nothing was changed: the path addressed nothing from the first
    refine ⟨d, ?_, ?_⟩
    · rw [← Except.ok.inj hout]
      exact hread
    · rw [← hzero hn]
      exact hgone
  · -- strings may come back joined, which moves no node
    have hback := Document.read_text (fun _ hn => Json.rewritten_eq_self (Or.inr hn)) (hchanges.regular hregular) hout
    rw [hsettings.trans hsame] at hback
    exact ⟨_, hback, resolve_mapStrings_eq_nil hgone⟩

/-- A deletion of one member in all items of an array, of which one has no members. -/
theorem locate_eq_nil_of_delete_members :
    ∃ d, Document.read Settings.builtIn "\x7b\"b\":[\x7b\x7d,1]\x7d" = .ok d
      ∧ d.locate ⟨[.field "b", .wildcard, .field "a"]⟩ = [] :=
  @locate_eq_nil_of_delete [⟨⟨[.field "b", .wildcard, .field "a"]⟩, .delete⟩] Settings.builtIn
    ⟨[.field "b", .wildcard, .field "a"]⟩ List.mem_cons_self (by decide) (by decide) (some "application/json")
    (by decide) "\x7b\"b\": [\x7b\"a\": 0.5\x7d, 1]\x7d" "\x7b\"b\":[\x7b\x7d,1]\x7d" (by decide +kernel)
    (Json.eq_ok_of_toOption (by decide +kernel))

end Filter

end BodyScrub
