import BodyScrub.Proofs.Json.Tokens
import BodyScrub.Settings.Sources
import Mathlib.Data.List.Basic

/-!
# Settings in normal form

Each field is read by itself from the value that counts for it, so settings are refused with exactly the fields that do
not accept their value. What is accepted is in normal form: a positive length, a level and a format under their own
names. The values of settings, given again, win over every environment and give the same settings (`build_normal`).

* **`Field.isOk_read`**, **`Field.read_value`**: what has a normal form, and that a normal value is read as itself.
* **`Sources.field_eq`**, **`Sources.fault?_eq`**: the value that counts is read, be it given, set or built in.
* **`build_cases`**: settings are built if all fields are read, and refused otherwise.
* **`build_given`**: settings are built again from their own values.
-/

namespace BodyScrub

open Json (Value)

/-- Levels and formats are found again by their names. -/
theorem Level.find?_text (l : Level) : all.find? (·.text = l.text) = some l := by cases l <;> decide

theorem LogFormat.find?_text (f : LogFormat) : all.find? (·.text = f.text) = some f := by cases f <;> decide

namespace Settings

variable {values : Entries Value} {env : Environment}

/-! ## Fields and their values -/

/-- The names of the levels, and those of the formats. -/
def levelNames : List Text := ["DEBUG", "INFO", "WARNING", "ERROR", "CRITICAL"]

def formatNames : List Text := ["json", "console"]

/-- Whether a value is valid for a field. -/
def Field.accepts : Field → Value → Bool
  | .asciiOnly, v | .compact, v | .allowNonFinite, v => (flagOf v).isOk
  | .maxPathLength, v => (integerOf v).toOption.any fun n => 1 ≤ n
  | .logLevel, .string t => levelNames.contains t.upper
  | .logFormat, .string t => formatNames.contains t.lower
  | _, _ => false

/-- The normal form of a value for a field: names are folded in case, and a length has to be positive. -/
def Field.read : Field → Value → Except Fault Value
  | .asciiOnly, v | .compact, v | .allowNonFinite, v => (flagOf v).map Value.bool
  | .maxPathLength, v =>
    (integerOf v).bind fun n => if n ≤ 0 then .error (.notPositive n) else .ok (.integer n)
  | .logLevel, v =>
    (textOf v).bind fun t =>
      if levelNames.contains t.upper then .ok (.string t.upper) else .error (.unknownLevel t)
  | .logFormat, v =>
    (textOf v).bind fun t =>
      if formatNames.contains t.lower then .ok (.string t.lower) else .error (.unknownFormat t)

/-- The value of a field, as it may be given. -/
def value (s : Settings) : Field → Value
  | .asciiOnly => .bool s.asciiOnly
  | .compact => .bool s.compact
  | .allowNonFinite => .bool s.allowNonFinite
  | .maxPathLength => .integer s.maxPathLength
  | .logLevel => .string s.logLevel.text
  | .logFormat => .string s.logFormat.text

/-- All values of settings under the names of their fields. -/
def given (s : Settings) : Entries Value := Field.all.map fun f => (f.name, s.value f)

/-- The value that counts for a field: the given one, else that of its environment variable, else the built-in one. -/
def effective (values : Entries Value) (env : Environment) (f : Field) : Value :=
  ((Entries.get? f.name values).or ((lookUp f.variableName env).map Value.string)).getD (builtIn.value f)

/-! ## Reading one value -/

/-- The length that settings hold is the one that is read, as a value. -/
theorem Field.read_maxPathLength (v : Value) : Field.read .maxPathLength v = (lengthOf v).map Value.integer := by
  simp only [read, lengthOf]
  cases integerOf v with
  | error e => rfl
  | ok n =>
    simp only [Except.bind]
    split <;> rfl

/-- A member of a choice is found exactly for its own name. The list of names and the search for a member are
thereby the same check. -/
theorem read_choice {α : Type} (all : List α) (text : α → Text) (t : Text) (e : Fault) :
    (if (all.map text).contains t then .ok (.string t) else .error e : Except Fault Value)
      = (all.find? fun a => text a = t).elim (.error e) fun a => .ok (.string (text a)) := by
  cases h : all.find? fun a => text a = t with
  | none =>
    have hnone : t ∉ all.map text := by simpa using List.find?_eq_none.1 h
    rw [if_neg (by simpa using hnone)]
    rfl
  | some a =>
    -- the member that is found has the name, so the name is in the list
    have ht : text a = t := by simpa using List.find?_some h
    have hmem : t ∈ all.map text := ht ▸ List.mem_map_of_mem (List.mem_of_find?_eq_some h)
    rw [if_pos (List.contains_iff_mem.2 hmem), ← ht]
    rfl

/-- The level that settings hold is the one that is read, by its name. -/
theorem Field.read_logLevel (v : Value) : Field.read .logLevel v = (levelOf v).map fun l => .string l.text := by
  cases v with
  | string t =>
    refine (read_choice Level.all Level.text t.upper (.unknownLevel t)).trans ?_
    simp only [levelOf, textOf, Except.bind]
    cases Level.all.find? (·.text = t.upper) <;> rfl
  | _ => rfl

theorem Field.read_logFormat (v : Value) : Field.read .logFormat v = (formatOf v).map fun f => .string f.text := by
  cases v with
  | string t =>
    refine (read_choice LogFormat.all LogFormat.text t.lower (.unknownFormat t)).trans ?_
    simp only [formatOf, textOf, Except.bind]
    cases LogFormat.all.find? (·.text = t.lower) <;> rfl
  | _ => rfl

/-- The values that a field accepts are those that have a normal form. -/
theorem Field.isOk_read (f : Field) (v : Value) : (f.read v).isOk = f.accepts v := by
  have hmap : ∀ r : Except Fault Bool, (r.map Value.bool).isOk = r.isOk := fun r => by cases r <;> rfl
  cases f with
  | maxPathLength =>
    -- a number is accepted from one on, and refused up to zero
    simp only [read, accepts]
    cases integerOf v with
    | error e => rfl
    | ok n =>
      simp only [Except.bind, Except.toOption, Option.any_some]
      split
      · simp only [Except.isOk, Except.toBool, Bool.false_eq, decide_eq_false_iff_not]
        omega
      · simp only [Except.isOk, Except.toBool, Bool.true_eq, decide_eq_true_eq]
        omega
  | logLevel =>
    cases v with
    | string t =>
      simp only [read, accepts, textOf, Except.bind]
      split <;> simp_all [Except.isOk, Except.toBool]
    | _ => rfl
  | logFormat =>
    cases v with
    | string t =>
      simp only [read, accepts, textOf, Except.bind]
      split <;> simp_all [Except.isOk, Except.toBool]
    | _ => rfl
  | _ => exact hmap _

/-- A normal value is read as itself. The names of levels and formats are in the case into which they are folded,
and a length is a number already. -/
theorem Field.read_value {s : Settings} (h : 1 ≤ s.maxPathLength) (f : Field) : f.read (s.value f) = .ok (s.value f) := by
  cases f with
  | maxPathLength =>
    show (if s.maxPathLength ≤ 0 then _ else _) = _
    rw [if_neg (by omega)]
    rfl
  | logLevel => rcases s with ⟨_, _, _, _, _ | _ | _ | _ | _, _⟩ <;> rfl
  | logFormat => rcases s with ⟨_, _, _, _, _, _ | _⟩ <;> rfl
  | _ => rfl

theorem text_mem_levelNames (l : Level) : l.text ∈ levelNames := by cases l <;> decide

theorem text_mem_formatNames (f : LogFormat) : f.text ∈ formatNames := by cases f <;> decide

/-! ## Reading all fields -/

/-- A given value comes before that of the environment, which is a text. The environment is not looked at for a
field that is given. -/
theorem Sources.value?_eq (f : Field) :
    (⟨values, env⟩ : Sources).value? f
      = (Entries.get? f.name values).or ((lookUp f.variableName env).map Value.string) := by
  unfold value?
  cases Entries.get? f.name values <;> rfl

/-- A field is read from the value that counts for it. The built-in value is taken as it is, but it would be read as
itself. -/
theorem Sources.field_eq {α : Type} {f : Field} {b : α} {ofValue : Value → Except Fault α}
    (hb : ofValue (builtIn.value f) = .ok b) :
    (⟨values, env⟩ : Sources).field f b ofValue = ofValue (effective values env f) := by
  unfold field effective
  rw [value?_eq]
  cases (Entries.get? f.name values).or ((lookUp f.variableName env).map Value.string) with
  | none => exact hb.symm
  | some v => rfl

theorem faultOf?_map {α β : Type} (r : Except Fault α) (g : α → β) : faultOf? (r.map g) = faultOf? r := by
  cases r <;> rfl

/-- The fault of a field is what its reader says of the value that counts. The sources have a branch for every
field, and this is what they have in common. -/
theorem Sources.fault?_eq (f : Field) :
    (⟨values, env⟩ : Sources).fault? f = faultOf? (f.read (effective values env f)) := by
  unfold fault? effective
  rw [value?_eq]
  cases (Entries.get? f.name values).or ((lookUp f.variableName env).map Value.string) with
  | none => cases f <;> rfl
  | some v =>
    rw [Option.bind_some, Option.getD_some]
    cases f with
    | maxPathLength => rw [Field.read_maxPathLength, faultOf?_map]
    | logLevel => rw [Field.read_logLevel, faultOf?_map]
    | logFormat => rw [Field.read_logFormat, faultOf?_map]
    | _ => exact (faultOf?_map _ _).symm

/-- The fields with a problem are those that do not accept their value, each once and in the order of declaration. -/
theorem Sources.fields_problems :
    (⟨values, env⟩ : Sources).problems.map Problem.field
      = Field.all.filter fun f => !f.accepts (effective values env f) := by
  unfold problems
  rw [List.map_filterMap, ← List.filterMap_eq_filter]
  refine List.filterMap_congr fun f _ => ?_
  have haccepts := f.isOk_read (effective values env f)
  rw [fault?_eq, Option.guard]
  cases hread : f.read (effective values env f) <;>
    simp_all [faultOf?, Except.isOk, Except.toBool, ← haccepts]

/-- A problem is what the reader of its field says, so problems are told from the sources by the fields alone. -/
theorem Sources.read_of_mem_problems {p : Problem} (h : p ∈ (⟨values, env⟩ : Sources).problems) :
    p.field.read (effective values env p.field) = .error p.fault := by
  obtain ⟨f, -, hf⟩ := List.mem_filterMap.1 h
  obtain ⟨e, he, rfl⟩ := Option.map_eq_some_iff.1 hf
  rw [fault?_eq] at he
  cases hread : f.read (effective values env f) with
  | ok v => simp [hread, faultOf?] at he
  | error e' =>
    obtain rfl : e' = e := by simpa [hread, faultOf?] using he
    rfl

/-- Settings are built from the normal forms of all fields, or some field has none and the problems are reported. -/
theorem build_cases (values : Entries Value) (env : Environment) :
    (∃ s, build ⟨values, env⟩ = .ok s ∧ ∀ f : Field, f.read (effective values env f) = .ok (s.value f))
      ∨ (build ⟨values, env⟩ = .error (⟨values, env⟩ : Sources).problems
        ∧ ∃ (f : Field) (e : Fault), f.read (effective values env f) = .error e) := by
  have hflag : ∀ f b, builtIn.value f = .bool b →
      (⟨values, env⟩ : Sources).field f b flagOf = flagOf (effective values env f) :=
    fun f b h => Sources.field_eq (by rw [h]; rfl)
  have hlength : lengthOf (builtIn.value .maxPathLength) = .ok builtIn.maxPathLength := rfl
  have hlevel : levelOf (builtIn.value .logLevel) = .ok builtIn.logLevel := rfl
  have hformat : formatOf (builtIn.value .logFormat) = .ok builtIn.logFormat := rfl
  unfold build
  rw [hflag .asciiOnly _ rfl, hflag .compact _ rfl, hflag .allowNonFinite _ rfl, Sources.field_eq hlength,
    Sources.field_eq hlevel, Sources.field_eq hformat]
  split
  · left
    refine ⟨_, rfl, fun f => ?_⟩
    cases f with
    | maxPathLength => simp [Field.read_maxPathLength, value, Except.map, *]
    | logLevel => simp [Field.read_logLevel, value, Except.map, *]
    | logFormat => simp [Field.read_logFormat, value, Except.map, *]
    | _ => simp [Field.read, value, Except.map, *]
  · next hnot =>
    right
    refine ⟨rfl, ?_⟩
    by_contra hnone
    -- if all fields were read, the settings would have been built
    have hread : ∀ f : Field, ∃ v, f.read (effective values env f) = .ok v := by
      intro f
      cases h : f.read (effective values env f) with
      | ok v => exact ⟨v, rfl⟩
      | error e => exact absurd ⟨f, e, h⟩ hnone
    obtain ⟨_, hasciiOnly, -⟩ := exists_of_map_eq_ok (hread .asciiOnly).choose_spec
    obtain ⟨_, hcompact, -⟩ := exists_of_map_eq_ok (hread .compact).choose_spec
    obtain ⟨_, hnonFinite, -⟩ := exists_of_map_eq_ok (hread .allowNonFinite).choose_spec
    obtain ⟨_, hmaxPathLength, -⟩ := exists_of_map_eq_ok
      ((Field.read_maxPathLength _).symm.trans (hread .maxPathLength).choose_spec)
    obtain ⟨_, hlogLevel, -⟩ := exists_of_map_eq_ok
      ((Field.read_logLevel _).symm.trans (hread .logLevel).choose_spec)
    obtain ⟨_, hlogFormat, -⟩ := exists_of_map_eq_ok
      ((Field.read_logFormat _).symm.trans (hread .logFormat).choose_spec)
    exact hnot _ _ _ _ _ _ hasciiOnly hcompact hnonFinite hmaxPathLength hlogLevel hlogFormat

/-- Settings are told by the values of their fields, levels and formats by their names. What holds field by field
can be put together to settings by this. -/
theorem eq_of_value_eq {s t : Settings} (h : ∀ f, s.value f = t.value f) : s = t := by
  have hasciiOnly := Value.bool.inj (h .asciiOnly)
  have hcompact := Value.bool.inj (h .compact)
  have hnonFinite := Value.bool.inj (h .allowNonFinite)
  have hlength := Value.integer.inj (h .maxPathLength)
  have hlevel : some s.logLevel = some t.logLevel := by
    rw [← Level.find?_text, ← Level.find?_text, Value.string.inj (h .logLevel)]
  have hformat : some s.logFormat = some t.logFormat := by
    rw [← LogFormat.find?_text, ← LogFormat.find?_text, Value.string.inj (h .logFormat)]
  obtain ⟨_, _, _, _, _, _⟩ := s
  obtain ⟨_, _, _, _, _, _⟩ := t
  simp_all

/-- All values of settings, given again, are the values that count in every environment. A given value comes first
for each field, and no field is left out. -/
theorem effective_given (s : Settings) (env : Environment) (f : Field) : effective s.given env f = s.value f := by
  have hget : Entries.get? f.name s.given = some (s.value f) := by cases f <;> rfl
  simp [effective, hget]

/-- Settings with a positive length are built again from their own values, in every environment, as given values
come first. -/
theorem build_given {s : Settings} (h : 1 ≤ s.maxPathLength) (env : Environment) :
    build ⟨s.given, env⟩ = .ok s := by
  rcases build_cases s.given env with ⟨t, hbuild, hread⟩ | ⟨_, f, e, he⟩
  · have hsame : ∀ f, s.value f = t.value f := by
      intro f
      have hf := hread f
      rw [effective_given, Field.read_value h] at hf
      exact Except.ok.inj hf
    rw [hbuild, eq_of_value_eq hsame]
  -- no normal value is refused
  · rw [effective_given, Field.read_value h] at he
    cases he

/-- Settings are refused with exactly the fields that do not accept the value that counts for them, each once and in the
order of declaration, and each with what its reader says. Otherwise they hold the normal form of every value, and are
built again from their own values in every environment. -/
theorem build_normal (values : Entries Value) (env : Environment) :
    (∃ problems, build ⟨values, env⟩ = .error problems ∧ problems ≠ []
        ∧ problems.map Problem.field = Field.all.filter (fun f => !f.accepts (effective values env f))
        ∧ ∀ p ∈ problems, p.field.read (effective values env p.field) = .error p.fault)
      ∨ ∃ s, build ⟨values, env⟩ = .ok s
        ∧ (∀ f : Field, f.accepts (effective values env f) = true
          ∧ f.read (effective values env f) = .ok (s.value f))
        ∧ 1 ≤ s.maxPathLength ∧ s.logLevel.text ∈ levelNames ∧ s.logFormat.text ∈ formatNames
        ∧ ∀ other, build ⟨s.given, other⟩ = .ok s := by
  rcases build_cases values env with ⟨s, hbuild, hread⟩ | ⟨hbuild, f, e, he⟩
  · right
    have haccepts : ∀ f : Field, f.accepts (effective values env f) = true := by
      intro f
      rw [← Field.isOk_read, hread f]
      rfl
    have hlength : 1 ≤ s.maxPathLength := by
      obtain ⟨n, -, hn⟩ := exists_of_bind_eq_ok (hread .maxPathLength)
      split at hn
      · cases hn
      · obtain rfl : n = s.maxPathLength := by simpa [value] using hn
        omega
    exact ⟨s, hbuild, fun f => ⟨haccepts f, hread f⟩, hlength, text_mem_levelNames _, text_mem_formatNames _,
      fun other => build_given hlength other⟩
  · left
    have hfields := @Sources.fields_problems values env
    refine ⟨_, hbuild, ?_, hfields, fun p hp => Sources.read_of_mem_problems hp⟩
    -- a field that is not read is one of the problems
    intro hnil
    rw [hnil, List.map_nil] at hfields
    have hrefused : f.accepts (effective values env f) = false := by
      rw [← Field.isOk_read, he]
      rfl
    have hmem : f ∈ Field.all.filter fun f => !f.accepts (effective values env f) :=
      List.mem_filter.2 ⟨by cases f <;> decide, by simp [hrefused]⟩
    rw [← hfields] at hmem
    cases hmem

/-- A given length and a format from the environment are refused, in the order of the fields. -/
theorem build_normal_refused :
    ∃ problems, build ⟨[("max_path_length", .integer 0)], [("trafficlog_log_format", "xml")]⟩ = .error problems
      ∧ problems.map Problem.field = [.maxPathLength, .logFormat]
      ∧ ∀ p ∈ problems, p.fault = .notPositive 0 ∨ p.fault = .unknownFormat "xml" := by
  rcases build_normal [("max_path_length", .integer 0)] [("trafficlog_log_format", "xml")] with
    ⟨problems, hbuild, _, hfields, hfaults⟩ | ⟨s, _, haccepts, _⟩
  · have hboth : problems.map Problem.field = [.maxPathLength, .logFormat] := hfields.trans (by rfl)
    refine ⟨problems, hbuild, hboth, fun p hp => ?_⟩
    have hfault := hfaults p hp
    have hfield : p.field = .maxPathLength ∨ p.field = .logFormat := by
      have hmem : p.field ∈ problems.map Problem.field := List.mem_map_of_mem hp
      simpa [hboth] using hmem
    rcases hfield with h | h
    · rw [h] at hfault
      exact Or.inl (Except.error.inj hfault.symm)
    · rw [h] at hfault
      exact Or.inr (Except.error.inj hfault.symm)
  · exact absurd (haccepts .maxPathLength).1 (by decide)

end Settings

end BodyScrub
