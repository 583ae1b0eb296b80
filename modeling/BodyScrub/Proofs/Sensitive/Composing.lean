import BodyScrub.Proofs.Sensitive

/-!
# Redactions one after the other

What a redaction blanks is a string, so a later redaction finds nothing in it; and what it does not blank keeps its
names, so a later redaction goes the same ways as if it were the first. So two redactions do together what one does
under the names of both, a redaction that was done is done, and the order of redactions does not matter
(`redact_redact`).

* **`redactValue_redactValue`**: the law for values, by induction on the value.
* **`eq_blank_of_isBlanked`**, **`shell_get?_redact`**: the position of a node tells whether it is blanked or kept.
-/

namespace BodyScrub.Sensitive

open Json (Value Step Position)

variable {names more all : List Text}

/-! ## Redacting what is redacted -/

mutual

/-- The members of an object, in depth. A member that either redaction blanks is a blank in the end, and all others
are redacted twice. -/
theorem redact_redact_deep (h : ∀ n, isNamed all n = (isNamed names n || isNamed more n)) (ms : Entries Value) :
    redact more true (redact names true ms) = redact all true ms := by
  cases ms with
  | nil => simp [redact]
  | cons m ms =>
    obtain ⟨name, v⟩ := m
    have hv := redactValue_redactValue h v
    have hms := redact_redact_deep h ms
    -- a value that only the first redaction blanks is a string for the second
    cases hname : isNamed names name <;> cases hmore : isNamed more name <;>
      simp [redact, h, hname, hmore, hv, hms, redactValue, blank]

/-- A value that is redacted under some names and then under others is redacted under all of them. What one
redaction passes over, the other one passes over too. -/
theorem redactValue_redactValue (h : ∀ n, isNamed all n = (isNamed names n || isNamed more n)) (v : Value) :
    redactValue more (redactValue names v) = redactValue all v := by
  cases v with
  | object ms => simp [redactValue, redact_redact_deep h ms]
  | array items => simp [redactValue, redactItems_redactItems h items]
  | _ => simp [redactValue]

/-- The items of an array: an object is redacted twice, and everything else is kept by both redactions. -/
theorem redactItems_redactItems (h : ∀ n, isNamed all n = (isNamed names n || isNamed more n)) (items : List Value) :
    redactItems more (redactItems names items) = redactItems all items := by
  cases items with
  | nil => simp [redactItems]
  | cons v items =>
    have hitems := redactItems_redactItems h items
    cases v with
    | object ms => simp [redactItems, redact_redact_deep h ms, hitems]
    | _ => simp [redactItems, hitems]

end

/-- Redacting under some names and then under others is redacting under all of them. Without depth only the members
of the data itself are looked at. -/
theorem redact_redact_of (h : ∀ n, isNamed all n = (isNamed names n || isNamed more n)) (deep : Bool)
    (data : Entries Value) : redact more deep (redact names deep data) = redact all deep data := by
  cases deep with
  | true => exact redact_redact_deep h data
  | false =>
    induction data with
    | nil => simp [redact]
    | cons m ms ih =>
      cases hname : isNamed names m.1 <;> cases hmore : isNamed more m.1 <;> simp [redact, h, hname, hmore, ih]

theorem isNamed_append (names more : List Text) (name : Text) :
    isNamed (names ++ more) name = (isNamed names name || isNamed more name) := by
  simp [isNamed]

/-! ## What one redaction does to a node -/

theorem redact_shallow_eq_map (names : List Text) (members : Entries Value) :
    redact names false members = members.map fun m => (m.1, if isNamed names m.1 then blank else m.2) := by
  induction members with
  | nil => simp [redact]
  | cons m members ih => simp [redact, ih]

theorem get?_redact_shallow (names : List Text) (name : Text) (members : Entries Value) :
    Entries.get? name (redact names false members)
      = (Entries.get? name members).map fun v => if isNamed names name then blank else v := by
  rw [redact_shallow_eq_map]
  exact Entries.get?_map (fun m => if isNamed names m.1 then blank else m.2) name members

/-- Of what is blanked in depth only the blanks are there: a blank is a string, so a way that goes on below it leads
nowhere. -/
theorem eq_blank_of_get?_redactValue {v w : Value} {p : Position} (hp : isBlanked names true p = true)
    (hw : (redactValue names v).get? p = some w) : w = blank := by
  induction p generalizing v with
  | nil => cases hp
  | cons t p ih =>
    obtain ⟨u, hu, hbelow⟩ := Option.bind_eq_some_iff.1 hw
    cases v with
    | object ms =>
      cases t with
      | index i => simp [redactValue, Value.child?] at hu
      | name key =>
        rw [child?_redactValue_object] at hu
        obtain ⟨x, -, rfl⟩ := Option.map_eq_some_iff.1 hu
        cases hkey : isNamed names key with
        | true =>
          -- the way goes to the blank, and no further
          rw [redactMember, hkey, if_pos rfl] at hbelow
          exact Value.eq_of_get?_of_isScalar rfl hbelow
        | false =>
          have hrest : isBlanked names true p = true := by simpa [isBlanked, hkey] using hp
          exact ih hrest (by simpa [redactMember, hkey] using hbelow)
    | array items =>
      cases t with
      | name key => simp [redactValue, Value.child?] at hu
      | index i =>
        rw [child?_redactValue_array] at hu
        obtain ⟨x, -, rfl⟩ := Option.map_eq_some_iff.1 hu
        -- the next step is a name, and only an item that is an object has members
        cases p with
        | nil => simp [isBlanked] at hp
        | cons t p =>
          cases t with
          | index j => simp [isBlanked] at hp
          | name key =>
            have hrest : isBlanked names true (.name key :: p) = true := by simpa [isBlanked] using hp
            cases x with
            | object ms => exact @ih (.object ms) hrest (by simpa [redactItem, redactValue] using hbelow)
            | _ => simp [redactItem, Value.get?, Value.child?] at hbelow
    | _ => simp [redactValue, Value.child?] at hu

/-- In data that was redacted, in depth or not, what is found at a position that is blanked is a blank. So a second
redaction has nothing left to blank there. -/
theorem eq_blank_of_isBlanked {deep : Bool} {data : Entries Value} {p : Position} {w : Value}
    (hp : isBlanked names deep p = true) (hw : (Value.object (redact names deep data)).get? p = some w) :
    w = blank := by
  cases deep with
  | true => exact @eq_blank_of_get?_redactValue names (.object data) w p hp (by simpa [redactValue] using hw)
  | false =>
    cases p with
    | nil => cases hp
    | cons t p =>
      cases t with
      | index i => simp [Value.get?, Value.child?] at hw
      | name key =>
        -- without depth a node is blanked by the first name alone
        have hkey : isNamed names key = true := by simpa [isBlanked] using hp
        obtain ⟨u, hu, hbelow⟩ := Option.bind_eq_some_iff.1 hw
        obtain ⟨x, -, rfl⟩ := Option.map_eq_some_iff.1 ((get?_redact_shallow names key data).symm.trans hu)
        rw [hkey, if_pos rfl] at hbelow
        exact Value.eq_of_get?_of_isScalar rfl hbelow

/-- A node that is not blanked keeps its shape, or is itself if it is a scalar. -/
theorem shell_get?_redact {deep : Bool} {data : Entries Value} {p : Position} (hp : isBlanked names deep p = false) :
    ((Value.object (redact names deep data)).get? p).map Value.shell
      = ((Value.object data).get? p).map Value.shell := by
  cases deep with
  | true => simpa [redactValue] using @shell_get?_redactValue_of_isBlanked names (.object data) p hp
  | false =>
    cases p with
    | nil =>
      have hnames : Entries.names (redact names false data) = Entries.names data := by
        rw [redact_shallow_eq_map]
        exact Entries.names_map (fun m => if isNamed names m.1 then blank else m.2) data
      simp [Value.get?, Value.shell_object_congr hnames]
    | cons t p =>
      cases t with
      | index i => simp [Value.get?, Value.child?]
      | name key =>
        have hkey : isNamed names key = false := by simpa [isBlanked] using hp
        simp [Value.get?, Value.child?, get?_redact_shallow, hkey]

/-! ## Redactions compose -/

/-- Two redactions are one under the names of both, in depth or not. So a redaction that was done is done, and the order
of redactions does not matter. And one redaction keeps the shape of all that it does not blank, that is the names of
members in their order, the number of items and the scalars, and of what it blanks it leaves nothing but blanks. -/
theorem redact_redact (names more : List Text) (deep : Bool) (data : Entries Value) :
    redact more deep (redact names deep data) = redact (names ++ more) deep data
      ∧ redact names deep (redact names deep data) = redact names deep data
      ∧ redact more deep (redact names deep data) = redact names deep (redact more deep data)
      ∧ (∀ p, isBlanked names deep p = false →
        ((Value.object (redact names deep data)).get? p).map Value.shell
          = ((Value.object data).get? p).map Value.shell)
      ∧ ∀ p w, isBlanked names deep p = true → (Value.object (redact names deep data)).get? p = some w → w = blank := by
  have hboth := redact_redact_of (isNamed_append names more) deep data
  have hsame := redact_redact_of (fun n => (Bool.or_self (isNamed names n)).symm) deep data
  have hother : redact names deep (redact more deep data) = redact (names ++ more) deep data :=
    redact_redact_of (fun n => by rw [isNamed_append, Bool.or_comm]) deep data
  exact ⟨hboth, hsame, hboth.trans hother.symm, fun p hp => shell_get?_redact hp,
    fun p w hp hw => eq_blank_of_isBlanked hp hw⟩

/-- The second redaction looks into the items of the array again, and both pass over the array among them. -/
theorem redact_redact_items :
    redact ["id"] true (redact ["token"] true
        ([("a", .array [.object [("Token", .null), ("ID", .object [("token", .null)])],
          .array [.object [("token", .null)]]])] : Entries Value))
      = ([("a", .array [.object [("Token", blank), ("ID", blank)], .array [.object [("token", .null)]]])]
          : Entries Value)
      ∧ isBlanked ["token"] true [.name "a", .index 1, .index 0, .name "token"] = false :=
  ⟨(redact_redact ["token"] ["id"] true _).1.trans rfl, rfl⟩

end BodyScrub.Sensitive
