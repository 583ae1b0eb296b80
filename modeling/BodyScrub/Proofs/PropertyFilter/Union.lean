import BodyScrub.Proofs.PropertyFilter.Coverage

/-!
# Property filters that are merged

A filter with the names of two others masks a tree as the two do one after the other, in either order
(`Unites.maskSpelling_maskSpelling`): the second filter finds the names as they were, it meets the values that are left
and those that the first one has put there, and it would put the same string there again. So on the text of a strict
body the merged filter, which makes one scan for the names of both, gives what the two scans give
(`Filter.apply_tryMerge_property`).
-/

namespace BodyScrub

open Json

namespace PropertyFilter

/-! ## Names of two filters -/

/-- The rest of a name behind an escaped quote is one of all names if it is one of some or of the others. -/
theorem tailFits_union {all names more : List Text} (h : ∀ n, all.contains n = (names.contains n || more.contains n))
    (gs : List Glyph) : tailFits all gs = (tailFits names gs || tailFits more gs) := by
  induction gs with
  | nil => rfl
  | cons g gs ih =>
    cases g with
    | plain c hc => exact ih
    | number h₁ h₂ h₃ h₄ n hn => exact ih
    | letter e d he =>
      rw [tailFits, tailFits, tailFits, h, ih]
      cases decide (e = CodePoint.quote) with
      | false => rfl
      | true =>
        simp only [Bool.true_and]
        ac_rfl

theorem fits_union {all names more : List Text} (h : ∀ n, all.contains n = (names.contains n || more.contains n))
    (gs : List Glyph) : fits all gs = (fits names gs || fits more gs) := by
  rw [fits, fits, fits, h, tailFits_union h]
  ac_rfl

/-- A filter that masks what either of two filters masks, and in the same way. -/
structure Unites (h f g : PropertyFilter) : Prop where
  kind_left : f.kind = h.kind
  kind_right : g.kind = h.kind
  replacement_left : f.replacement = h.replacement
  replacement_right : g.replacement = h.replacement
  fits : ∀ gs, fits h.names gs = (fits f.names gs || fits g.names gs)

namespace Unites

variable {f g h : PropertyFilter}

theorem symm (u : Unites h f g) : Unites h g f :=
  ⟨u.kind_right, u.kind_left, u.replacement_right, u.replacement_left, fun gs => by rw [u.fits, Bool.or_comm]⟩

/-! ## Trees -/

theorem masked_left (u : Unites h f g) : f.masked = h.masked := by
  unfold masked
  rw [u.replacement_left]

/-- The value of one member, when what becomes of it unmasked is known. What the first filter has put there is a
string like any other for the second one, which leaves it or puts it there again. -/
theorem maskMember_maskMember (u : Unites h f g) (name : List Glyph) {s : Spelling}
    (hs : g.maskSpelling (f.maskSpelling s) = h.maskSpelling s) {s' : Spelling}
    (hs' : s' = if PropertyFilter.fits f.names name && f.kind.takes s then f.masked else f.maskSpelling s) :
    (if PropertyFilter.fits g.names name && g.kind.takes s' then g.masked else g.maskSpelling s')
      = if PropertyFilter.fits h.names name && h.kind.takes s then h.masked else h.maskSpelling s := by
  rw [u.kind_left] at hs'
  rw [u.kind_right, u.fits]
  cases hleft : PropertyFilter.fits f.names name && h.kind.takes s with
  | true =>
    -- what the first filter has put there is left, or put there again
    rw [hleft, if_pos rfl, u.masked_left] at hs'
    rw [Bool.and_or_distrib_right, hleft, Bool.true_or, if_pos rfl, hs', u.symm.masked_left]
    exact ite_self h.masked
  | false =>
    -- the first filter has left the value, so the second one decides
    rw [hleft, if_neg (by decide)] at hs'
    rw [Bool.and_or_distrib_right, hleft, Bool.false_or, hs', takes_maskSpelling, u.symm.masked_left, hs]

mutual

/-- A tree that is masked with two filters one after the other is masked with both. The names are the same after the
first filter, so the second one finds what it would have found before. -/
theorem maskSpelling_maskSpelling (u : Unites h f g) (s : Spelling) :
    g.maskSpelling (f.maskSpelling s) = h.maskSpelling s := by
  cases s with
  | atom a => rfl
  | emptyArray b => rfl
  | emptyObject b => rfl
  | array items => exact congrArg Spelling.array (u.maskItems_maskItems items)
  | object members => exact congrArg Spelling.object (u.maskMembers_maskMembers members)

theorem maskItems_maskItems (u : Unites h f g) (items : Items) :
    g.maskItems (f.maskItems items) = h.maskItems items := by
  cases items with
  | last before s after =>
    have hs := u.maskSpelling_maskSpelling s
    rw [maskItems, maskItems, maskItems, hs]
  | cons before s after rest =>
    have hs := u.maskSpelling_maskSpelling s
    have hrest := u.maskItems_maskItems rest
    rw [maskItems, maskItems, maskItems, hs, hrest]

theorem maskMembers_maskMembers (u : Unites h f g) (members : Members) :
    g.maskMembers (f.maskMembers members) = h.maskMembers members := by
  cases members with
  | last lead s after =>
    have hs := u.maskSpelling_maskSpelling s
    rw [maskMembers, maskMembers, maskMembers, u.maskMember_maskMember lead.name hs rfl]
  | cons lead s after rest =>
    have hs := u.maskSpelling_maskSpelling s
    have hrest := u.maskMembers_maskMembers rest
    rw [maskMembers, maskMembers, maskMembers, u.maskMember_maskMember lead.name hs rfl, hrest]

end

/-! ## Texts -/

/-- The text of a JSON value that is masked with two filters one after the other is masked with both. A masked text
is the text of a masked tree, so the second scan is one of a tree as well. -/
theorem mask_mask (u : Unites h f g) (hf : ∀ n ∈ f.names, Anchored n) (hg : ∀ n ∈ g.names, Anchored n)
    (hh : ∀ n ∈ h.names, Anchored n) (src : Source) : g.mask (f.mask src.text) = h.mask src.text := by
  have hroot := u.maskSpelling_maskSpelling src.root
  calc
    g.mask (f.mask src.text) = g.mask (f.maskSource src).text := by rw [mask_text hf]
    _ = (g.maskSource (f.maskSource src)).text := mask_text hg _
    _ = (h.maskSource src).text := by rw [maskSource, maskSource, maskSource, hroot]
    _ = h.mask src.text := (mask_text hh src).symm

end Unites

/-- The filter that two filters are merged into masks what either of them does. Names that both have are taken once,
which makes no difference. -/
theorem unites_ofNames {f g : PropertyFilter} (hkind : g.kind = f.kind) (hreplacement : g.replacement = f.replacement) :
    Unites (ofNames f.kind (f.names ++ g.names) f.replacement) f g where
  kind_left := rfl
  kind_right := hkind
  replacement_left := rfl
  replacement_right := hreplacement
  fits := fits_union fun n => by
    show (normalNames (f.names ++ g.names)).contains n = _
    rw [contains_normalNames]
    simp

/-- Filters of one kind and with one replacement are merged into one with the names of both. All other pairs of
property filters are not merged. -/
theorem merge?_of_eq {f g : PropertyFilter} (hkind : g.kind = f.kind) (hreplacement : g.replacement = f.replacement) :
    f.merge? g = some (ofNames f.kind (f.names ++ g.names) f.replacement) := by
  unfold merge?
  simp [hkind, hreplacement]

end PropertyFilter

/-! ## Filters -/

namespace Filter

open PropertyFilter (Anchored anchored_of_isNamePart)

theorem apply_property_of_not_isJson {mediaType : Option Text} (h : MediaType.isJson mediaType = false)
    (p : PropertyFilter) (body : Text) : (Filter.property p).apply mediaType body = .ok body := by
  simp [apply, run, h]

theorem tryMerge_property {f g : PropertyFilter} (hkind : g.kind = f.kind)
    (hreplacement : g.replacement = f.replacement) :
    (Filter.property f).tryMerge (.property g)
      = some (.property (.ofNames f.kind (f.names ++ g.names) f.replacement)) := by
  show absorb (.property g) (.property f) = _
  rw [absorb.eq_def]
  dsimp only
  rw [PropertyFilter.merge?_of_eq hkind hreplacement]
  rfl

/-- The merged filter gives for a strict body what one filter gives after the other, whatever the media type is. The
body has to be strict, since the second filter scans what the first one wrote. -/
theorem apply_property_bind {f g h : PropertyFilter} (u : h.Unites f g) (hf : ∀ n ∈ f.names, Anchored n)
    (hg : ∀ n ∈ g.names, Anchored n) (hh : ∀ n ∈ h.names, Anchored n) (mediaType : Option Text) {body : Text}
    (hbody : IsStrict body) :
    ((Filter.property f).apply mediaType body).bind ((Filter.property g).apply mediaType)
      = (Filter.property h).apply mediaType body := by
  cases hjson : MediaType.isJson mediaType with
  | false =>
    rw [apply_property_of_not_isJson hjson, apply_property_of_not_isJson hjson]
    exact apply_property_of_not_isJson hjson g body
  | true =>
    obtain ⟨src, rfl, -⟩ := hbody
    rw [apply_property hjson, apply_property hjson, ← u.mask_mask hf hg hh src]
    exact apply_property hjson g (f.mask src.text)

/-- Two property filters of one kind and with one replacement, the names of which are of letters, digits, underscores
and hyphens, are merged in either order. On a strict body, whatever escapes it has, the merged filters give the same
text as the first filter and then the second, and as the second and then the first. -/
theorem apply_tryMerge_property {f g : PropertyFilter} (hkind : g.kind = f.kind)
    (hreplacement : g.replacement = f.replacement) (hf : ∀ n ∈ f.names, ∀ c ∈ n, isNamePart c = true)
    (hg : ∀ n ∈ g.names, ∀ c ∈ n, isNamePart c = true) (mediaType : Option Text) {body : Text}
    (hbody : IsStrict body) :
    ∃ merged merged' out, (Filter.property f).tryMerge (.property g) = some merged
      ∧ (Filter.property g).tryMerge (.property f) = some merged'
      ∧ merged.apply mediaType body = .ok out ∧ merged'.apply mediaType body = .ok out
      ∧ ((Filter.property f).apply mediaType body).bind ((Filter.property g).apply mediaType) = .ok out
      ∧ ((Filter.property g).apply mediaType body).bind ((Filter.property f).apply mediaType) = .ok out := by
  have hleft : ∀ n ∈ f.names, Anchored n := fun n hn => anchored_of_isNamePart (hf n hn)
  have hright : ∀ n ∈ g.names, Anchored n := fun n hn => anchored_of_isNamePart (hg n hn)
  have hmerged : ∀ n ∈ (PropertyFilter.ofNames f.kind (f.names ++ g.names) f.replacement).names, Anchored n := by
    intro n hn
    rcases List.mem_append.1 (PropertyFilter.mem_normalNames.1 hn) with h | h
    · exact hleft n h
    · exact hright n h
  have hmerged' : ∀ n ∈ (PropertyFilter.ofNames g.kind (g.names ++ f.names) g.replacement).names, Anchored n := by
    intro n hn
    rcases List.mem_append.1 (PropertyFilter.mem_normalNames.1 hn) with h | h
    · exact hright n h
    · exact hleft n h
  have hunites := PropertyFilter.unites_ofNames hkind hreplacement
  have hunites' := PropertyFilter.unites_ofNames hkind.symm hreplacement.symm
  -- both merged filters unite the two in the same order, so they give the same
  have hfirst := apply_property_bind hunites hleft hright hmerged mediaType hbody
  have hsecond := apply_property_bind hunites.symm hright hleft hmerged mediaType hbody
  have hother := apply_property_bind hunites'.symm hleft hright hmerged' mediaType hbody
  have hout : ∃ out, (Filter.property (.ofNames f.kind (f.names ++ g.names) f.replacement)).apply mediaType body
      = .ok out := by
    cases hjson : MediaType.isJson mediaType with
    | false => exact ⟨_, apply_property_of_not_isJson hjson _ body⟩
    | true => exact ⟨_, apply_property hjson _ body⟩
  obtain ⟨out, hout⟩ := hout
  exact ⟨_, _, out, tryMerge_property hkind hreplacement, tryMerge_property hkind.symm hreplacement.symm, hout,
    hother.symm.trans (hfirst.trans hout), hfirst.trans hout, hsecond.trans hout⟩

/-- The name of the first member is not one of the filters', but it goes on with one behind its escaped quote. -/
theorem apply_tryMerge_property_escaped :
    ∃ merged, (Filter.property ⟨.string, ["id"], "XXX"⟩).tryMerge (.property ⟨.string, ["id", "to-ken"], "XXX"⟩)
        = some merged
      ∧ merged.apply (some "application/json") "\x7b\"x\\\"id\":\"a\",\"to-ken\" : \"b\\u0022\",\"c\":[\"id\"]\x7d"
        = .ok "\x7b\"x\\\"id\":\"XXX\",\"to-ken\" : \"XXX\",\"c\":[\"id\"]\x7d"
      ∧ ((Filter.property ⟨.string, ["id", "to-ken"], "XXX"⟩).apply (some "application/json")
          "\x7b\"x\\\"id\":\"a\",\"to-ken\" : \"b\\u0022\",\"c\":[\"id\"]\x7d").bind
            ((Filter.property ⟨.string, ["id"], "XXX"⟩).apply (some "application/json"))
        = .ok "\x7b\"x\\\"id\":\"XXX\",\"to-ken\" : \"XXX\",\"c\":[\"id\"]\x7d" := by
  have hstrict : IsStrict "\x7b\"x\\\"id\":\"a\",\"to-ken\" : \"b\\u0022\",\"c\":[\"id\"]\x7d" :=
    isStrict_of_read (by decide +kernel)
  obtain ⟨merged, -, out, hmerged, -, hout, -, hfirst, hsecond⟩ :=
    @apply_tryMerge_property ⟨.string, ["id"], "XXX"⟩ ⟨.string, ["id", "to-ken"], "XXX"⟩ rfl rfl (by decide) (by decide)
      (some "application/json") _ hstrict
  -- the one filter after the other tells the text
  have htext : (((Filter.property ⟨.string, ["id"], "XXX"⟩).apply (some "application/json")
        "\x7b\"x\\\"id\":\"a\",\"to-ken\" : \"b\\u0022\",\"c\":[\"id\"]\x7d").bind
          ((Filter.property ⟨.string, ["id", "to-ken"], "XXX"⟩).apply (some "application/json"))).toOption
      = some ("\x7b\"x\\\"id\":\"XXX\",\"to-ken\" : \"XXX\",\"c\":[\"id\"]\x7d" : Text) := by
    decide +kernel
  obtain rfl := Except.ok.inj (hfirst.symm.trans (Json.eq_ok_of_toOption htext))
  exact ⟨merged, hmerged, hout, hsecond⟩

end Filter

end BodyScrub
