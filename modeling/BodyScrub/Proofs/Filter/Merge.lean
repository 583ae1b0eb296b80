import BodyScrub.Proofs.Document
import BodyScrub.Proofs.Filter.Steps

/-!
# Merging filters by path

Two filters by path under the same settings are merged into one that reads the body once, makes the steps of both and
writes once. This gives what the filters give one after the other, though in between the second way writes a document
and reads it again: what is written is read back, and a filter without a change passes the body on as it is spelled.
-/

namespace BodyScrub

open Json (PairFree)

namespace Filter

/-! ## One filter by path -/

/-- What a filter by path gives for a body that is read. -/
def outcome (body : Text) (r : Document × Nat) : Except Fault Text := if r.2 = 0 then .ok body else r.1.text

/-- A filter by path passes on every body whose media type does not mean JSON. Statements about what it gives need
to be shown for JSON bodies only. -/
theorem apply_path_of_not_isJson (steps : List ScrubStep) (settings : Settings) {mediaType : Option Text}
    (h : MediaType.isJson mediaType = false) (body : Text) :
    (Filter.path steps settings).apply mediaType body = .ok body := by
  unfold apply
  rw [run, h]
  rfl

/-- For JSON a filter by path reads the body, makes its steps, and gives the body or what is written. From here on
proofs need not look at notices. -/
theorem apply_path_of_isJson (steps : List ScrubStep) (settings : Settings) {mediaType : Option Text}
    (h : MediaType.isJson mediaType = true) (body : Text) :
    (Filter.path steps settings).apply mediaType body
      = (Document.read settings body).bind fun d => (runSteps steps d).2.bind (outcome body) := by
  unfold apply
  rw [run, h, if_pos rfl]
  unfold runPath
  cases Document.read settings body with
  | error e => rfl
  | ok d => rfl

/-- A filter by path that gives a text has read the body and made its steps. This takes apart what
`apply_path_of_isJson` puts together. -/
theorem exists_of_apply_path {steps : List ScrubStep} {settings : Settings} {mediaType : Option Text}
    (hjson : MediaType.isJson mediaType = true) {body r : Text}
    (h : (Filter.path steps settings).apply mediaType body = .ok r) :
    ∃ d d' n, Document.read settings body = .ok d ∧ (runSteps steps d).2 = .ok (d', n)
      ∧ outcome body (d', n) = .ok r := by
  rw [apply_path_of_isJson steps settings hjson] at h
  obtain ⟨d, hd, hrun⟩ := exists_of_bind_eq_ok h
  obtain ⟨⟨d', n⟩, hn, hr⟩ := exists_of_bind_eq_ok hrun
  exact ⟨d, d', n, hd, hn, hr⟩

/-- What a filter by path gives is read as the document after its steps, if no pair is escaped in it. So the second
of two filters starts with what the first one came to. -/
theorem read_outcome {settings : Settings} {steps : List ScrubStep} {body r : Text} {d d' : Document} {n : Nat}
    (hread : Document.read settings body = .ok d) (hrun : (runSteps steps d).2 = .ok (d', n))
    (hpairs : settings.asciiOnly = false ∨ ∀ t ∈ d'.root.strings, PairFree t)
    (hr : outcome body (d', n) = .ok r) : Document.read settings r = .ok d' := by
  obtain ⟨hchanges, hsettings, hzero⟩ := changes_of_runSteps hrun
  obtain ⟨hroot, hsame⟩ := Document.read_eq_ok_iff.1 hread
  have hd' : d'.settings = settings := hsettings.trans hsame
  unfold outcome at hr
  split at hr
  · next hn =>
    -- the body itself is passed on, and it was read as the document
    rw [← Except.ok.inj hr, hzero hn]
    exact hread
  · have hregular := hchanges.regular (Json.regular_of_read hroot)
    have hback := Document.read_text_self hregular (by rw [hd']; exact hpairs) hr
    rw [hd'] at hback
    exact hback

/-! ## Two filters by path -/

/-- Two filters by path under the same settings are merged by putting their steps in a row. The merged filter reads
and writes the body once, where the two do so twice. -/
theorem tryMerge_path (steps more : List ScrubStep) (settings : Settings) :
    (Filter.path steps settings).tryMerge (.path more settings) = some (.path (steps ++ more) settings) := by
  show absorb (.path more settings) (.path steps settings) = _
  rw [absorb.eq_def]
  dsimp only
  rw [if_pos rfl]

/-- The merged filter gives what two filters by path under the same settings give one after the other. Where everything
outside ASCII is escaped, no string of the document between them may hold a high surrogate right before a low one. -/
theorem apply_tryMerge (steps more : List ScrubStep) (settings : Settings) (mediaType : Option Text) (body r : Text)
    (hpairs : settings.asciiOnly = false ∨ ∀ d d' n, Document.read settings body = .ok d →
      (runSteps steps d).2 = .ok (d', n) → ∀ t ∈ d'.root.strings, PairFree t)
    (h : ((Filter.path steps settings).apply mediaType body).bind ((Filter.path more settings).apply mediaType)
      = .ok r) :
    ∃ m, (Filter.path steps settings).tryMerge (.path more settings) = some m ∧ m.apply mediaType body = .ok r := by
  refine ⟨_, tryMerge_path steps more settings, ?_⟩
  obtain ⟨t, hfirst, hsecond⟩ := exists_of_bind_eq_ok h
  cases hjson : MediaType.isJson mediaType with
  | false =>
    -- a body that is not JSON is passed on by both, and by the merged filter
    rw [apply_path_of_not_isJson _ _ hjson] at hfirst hsecond ⊢
    rw [Except.ok.inj hfirst]
    exact hsecond
  | true =>
    obtain ⟨d, d₁, n₁, hread, hrun₁, hout₁⟩ := exists_of_apply_path hjson hfirst
    obtain ⟨e, d₂, n₂, hreread, hrun₂, hout₂⟩ := exists_of_apply_path hjson hsecond
    -- what the first filter gives is read as the document it came to
    have hback := read_outcome hread hrun₁ (hpairs.imp_right fun hfree => hfree d d₁ n₁ hread hrun₁) hout₁
    obtain rfl : d₁ = e := Except.ok.inj (hback.symm.trans hreread)
    have hzero₂ := (changes_of_runSteps hrun₂).2.2
    have hrun : (runSteps (steps ++ more) d).2 = .ok (d₂, n₁ + n₂) := by
      rw [runSteps_append, hrun₁]
      show (runSteps more d₁).2.map _ = _
      rw [hrun₂]
      rfl
    rw [apply_path_of_isJson _ _ hjson, hread]
    show (runSteps (steps ++ more) d).2.bind (outcome body) = _
    rw [hrun]
    show outcome body (d₂, n₁ + n₂) = _
    -- whether the merged filter passes the body on depends on both parts
    unfold outcome at hout₁ hout₂ ⊢
    dsimp only at hout₁ hout₂ ⊢
    by_cases hn₁ : n₁ = 0
    -- the first filter passed the body on, so the second read the body itself
    · rw [if_pos hn₁] at hout₁
      rw [hn₁, Nat.zero_add, Except.ok.inj hout₁]
      exact hout₂
    · rw [if_neg hn₁] at hout₁
      rw [if_neg (by omega)]
      -- the first filter wrote; if the second changed nothing it passed on what was written
      by_cases hn₂ : n₂ = 0
      · rw [if_pos hn₂] at hout₂
        rw [hzero₂ hn₂, hout₁]
        exact hout₂
      · rw [if_neg hn₂] at hout₂
        exact hout₂

/-- Two deletions, merged and applied to a body with a third member. -/
theorem apply_tryMerge_deletions :
    ∃ m, (Filter.path [⟨⟨[.field "a"]⟩, .delete⟩] Settings.builtIn).tryMerge
        (.path [⟨⟨[.field "b"]⟩, .delete⟩] Settings.builtIn) = some m
      ∧ m.apply (some "application/json") "\x7b\"a\": 1, \"b\": 2, \"c\": 0.5\x7d" = .ok "\x7b\"c\":0.5\x7d" :=
  apply_tryMerge _ _ _ _ _ _ (Or.inl rfl) (Json.eq_ok_of_toOption (by decide +kernel))

end Filter

end BodyScrub
