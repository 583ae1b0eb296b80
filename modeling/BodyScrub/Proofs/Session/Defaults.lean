import BodyScrub.Proofs.Session
import Mathlib.Data.List.Induction

/-!
# The default settings over a run

The default settings are built by the first call that asks for them and can have them, and then kept until they are
reset. So what a get answers depends on the history: on the environment as it was at the first get that succeeded since
the last reset, or on the environment as it is where none has (`answer_after`). What is kept is one object, and what is
built after a reset is another one.

* **`Numbered.get_cases`**: all that a get can do.
* **`defaults_after_eq_none`**: as long as no get has succeeded since the last reset, nothing is kept.
* **`after_of_kept`**: what is kept stays until a reset.
* **`Passed.number_lt`**: behind a reset all numbers are new.
* **`exists_firstGet`**: if some get has succeeded since the last reset, there is a first one.
-/

namespace BodyScrub.Session

variable {env : Settings.Environment} {calls pre post : List SettingsCall}

/-! ## The environment

Only two kinds of calls change it, so the environment after a run is told without the session. -/

/-- The environment after a call. -/
def SettingsCall.environment (env : Settings.Environment) : SettingsCall → Settings.Environment
  | .setVariable name value => env.insert name value
  | .unsetVariable name => env.erase name
  | _ => env

def environmentAfter (env : Settings.Environment) (calls : List SettingsCall) : Settings.Environment :=
  calls.foldl SettingsCall.environment env

/-! ## One call -/

namespace Numbered

variable {s : Numbered}

/-- A get answers what is kept, or builds and keeps what it answers, or fails and leaves everything as it was. Only
in the second case the number goes up. -/
theorem get_cases (s : Numbered) :
    (∃ settings, s.session.defaults = some settings ∧ s.get = (s, .ok ⟨s.builds, settings⟩))
      ∨ (∃ settings, s.session.defaults = none ∧ defaultsIn s.session.environment = .ok settings
        ∧ s.get = (⟨{ s.session with defaults := some settings }, s.builds + 1⟩, .ok ⟨s.builds + 1, settings⟩))
      ∨ ∃ e, s.session.defaults = none ∧ defaultsIn s.session.environment = .error e ∧ s.get = (s, .error e) := by
  rcases defaultSettings_cases s.session with
    ⟨settings, hkept, h⟩ | ⟨settings, hnone, hbuild, h⟩ | ⟨e, hnone, hbuild, h⟩
  · exact Or.inl ⟨settings, hkept, by simp [get, h, hkept]⟩
  · exact Or.inr (Or.inl ⟨settings, hnone, hbuild, by simp [get, h, hnone]⟩)
  · exact Or.inr (Or.inr ⟨e, hnone, hbuild, by simp [get, h]⟩)

theorem environment_get (s : Numbered) : s.get.1.session.environment = s.session.environment := by
  rcases get_cases s with ⟨_, _, h⟩ | ⟨_, _, _, h⟩ | ⟨_, _, _, h⟩ <;> rw [h]

/-- A call does to the environment what is said of it without the session. The environment after a run is known from
the calls alone. -/
theorem environment_perform (s : Numbered) (c : SettingsCall) :
    (s.perform c).session.environment = c.environment s.session.environment := by
  cases c with
  | get => exact environment_get s
  | _ => rfl

/-- What is kept stays until a reset, with its number: a get answers it, and no other call looks at it. -/
theorem perform_of_kept {c : SettingsCall} {settings : Settings} (h : s.session.defaults = some settings)
    (hc : c ≠ .reset) : (s.perform c).session.defaults = some settings ∧ (s.perform c).builds = s.builds := by
  cases c with
  | reset => exact absurd rfl hc
  | get =>
    rcases get_cases s with ⟨_, _, hget⟩ | ⟨_, hnone, _⟩ | ⟨_, hnone, _⟩
    · simp [perform, hget, h]
    · simp [h] at hnone
    · simp [h] at hnone
  | _ => exact ⟨h, rfl⟩

theorem builds_le_perform (s : Numbered) (c : SettingsCall) : s.builds ≤ (s.perform c).builds := by
  cases c with
  | get => rcases get_cases s with ⟨_, _, h⟩ | ⟨_, _, _, h⟩ | ⟨_, _, _, h⟩ <;> simp [perform, h]
  | _ => exact Nat.le_refl _

/-- A get that fails leaves everything as it was, so that it may be left out of a run. -/
theorem perform_get_of_error {e : Fault} (h : s.get.2 = .error e) : s.perform .get = s := by
  rcases get_cases s with ⟨_, _, hget⟩ | ⟨_, _, _, hget⟩ | ⟨_, _, _, hget⟩
  · simp [hget] at h
  · simp [hget] at h
  · simp [perform, hget]

/-- What a get answers is kept under the number that it answers, whether it was kept before or is new. The next get
finds it. -/
theorem kept_of_get {b : Built} (h : s.get.2 = .ok b) :
    (s.perform .get).session.defaults = some b.settings ∧ (s.perform .get).builds = b.number := by
  rcases get_cases s with ⟨_, hkept, hget⟩ | ⟨_, _, _, hget⟩ | ⟨_, _, _, hget⟩
  · obtain rfl : _ = b := by simpa [hget] using h
    simp [perform, hget, hkept]
  · obtain rfl : _ = b := by simpa [hget] using h
    simp [perform, hget]
  · simp [hget] at h

/-- What is kept is answered, under the latest number. -/
theorem get_of_kept {settings : Settings} (h : s.session.defaults = some settings) :
    s.get.2 = .ok ⟨s.builds, settings⟩ := by
  rcases get_cases s with ⟨_, hkept, hget⟩ | ⟨_, hnone, _⟩ | ⟨_, hnone, _⟩
  · obtain rfl : settings = _ := by simpa [h] using hkept
    rw [hget]
  · simp [h] at hnone
  · simp [h] at hnone

/-- Without anything kept a get answers what is built from the environment, or fails as building does. Nothing is
kept in the second case. -/
theorem settings_get_of_none (h : s.session.defaults = none) :
    s.get.2.map Built.settings = defaultsIn s.session.environment := by
  rcases get_cases s with ⟨_, hkept, _⟩ | ⟨_, _, hbuild, hget⟩ | ⟨_, _, hbuild, hget⟩
  · simp [h] at hkept
  · simp [hget, hbuild, Except.map]
  · simp [hget, hbuild, Except.map]

/-- A number that no get answers again: nothing is kept, or something under a greater number. -/
def Passed (n : Nat) (s : Numbered) : Prop := n ≤ s.builds ∧ (s.session.defaults = none ∨ n < s.builds)

/-- A number that is passed stays so. A get that finds nothing kept takes a greater one. -/
theorem Passed.perform {n : Nat} (h : Passed n s) (c : SettingsCall) : Passed n (s.perform c) := by
  obtain ⟨hle, hkept⟩ := h
  cases c with
  -- what is kept is dropped, so the next one is new
  | reset => exact ⟨hle, Or.inl rfl⟩
  | get =>
    rcases get_cases s with ⟨_, _, hget⟩ | ⟨_, _, _, hget⟩ | ⟨_, _, _, hget⟩
    · simpa [Passed, Numbered.perform, hget] using And.intro hle hkept
    · show Passed n s.get.1
      rw [hget]
      exact ⟨Nat.le_succ_of_le hle, Or.inr (Nat.lt_succ_of_le hle)⟩
    · simpa [Passed, Numbered.perform, hget] using And.intro hle hkept
  | _ => exact ⟨hle, hkept⟩

/-- Behind a reset all numbers are new: what a get answers there has a greater number than all that were answered
before. -/
theorem Passed.number_lt {n : Nat} (h : Passed n s) {b : Built} (hb : s.get.2 = .ok b) : n < b.number := by
  obtain ⟨hle, hkept⟩ := h
  rcases get_cases s with ⟨_, hsome, hget⟩ | ⟨_, _, _, hget⟩ | ⟨_, _, _, hget⟩
  · obtain rfl : _ = b := by simpa [hget] using hb
    simpa [hsome] using hkept
  · obtain rfl : _ = b := by simpa [hget] using hb
    show n < s.builds + 1
    omega
  · simp [hget] at hb

/-! ## Runs of calls -/

theorem after_append (calls more : List SettingsCall) (s : Numbered) :
    s.after (calls ++ more) = (s.after calls).after more := by
  simp [after]

theorem after_cons (c : SettingsCall) (calls : List SettingsCall) (s : Numbered) :
    s.after (c :: calls) = (s.perform c).after calls := rfl

theorem environment_after (calls : List SettingsCall) (s : Numbered) :
    (s.after calls).session.environment = environmentAfter s.session.environment calls := by
  induction calls generalizing s with
  | nil => rfl
  | cons c calls ih =>
    show ((s.perform c).after calls).session.environment = environmentAfter (c.environment _) calls
    rw [ih, environment_perform]

/-- What is kept stays over a run without a reset, with its number. The induction is on the calls, by
`perform_of_kept` for each. -/
theorem after_of_kept {settings : Settings} (h : s.session.defaults = some settings) (hcalls : .reset ∉ calls) :
    (s.after calls).session.defaults = some settings ∧ (s.after calls).builds = s.builds := by
  induction calls generalizing s with
  | nil => exact ⟨h, rfl⟩
  | cons c calls ih =>
    obtain ⟨hc, hrest⟩ : SettingsCall.reset ≠ c ∧ .reset ∉ calls := by simpa using hcalls
    obtain ⟨hkept, hbuilds⟩ := perform_of_kept h hc.symm
    rw [after_cons, ← hbuilds]
    exact ih hkept hrest

/-- The number of what was built never goes down, not even by a reset. So two objects that were built at different
times never get one number. -/
theorem builds_le_after (calls : List SettingsCall) (s : Numbered) : s.builds ≤ (s.after calls).builds := by
  induction calls generalizing s with
  | nil => exact Nat.le_refl _
  | cons c calls ih => exact Nat.le_trans (builds_le_perform s c) (ih (s.perform c))

theorem Passed.after {n : Nat} (h : Passed n s) (calls : List SettingsCall) : Passed n (s.after calls) := by
  induction calls generalizing s with
  | nil => exact h
  | cons c calls ih => exact ih (h.perform c)

end Numbered

/-! ## What a get answers -/

/-- What a get answers after some calls. -/
def answer (env : Settings.Environment) (calls : List SettingsCall) : Except Fault Built :=
  ((Numbered.start env).after calls).get.2

/-- As long as no get has succeeded since the last reset, nothing is kept. Gets before the reset may have succeeded,
so the run is cut at the last one. -/
theorem defaults_after_eq_none
    (h : ∀ p q, calls = p ++ .get :: q → .reset ∉ q → ∀ b, answer env p ≠ .ok b) :
    ((Numbered.start env).after calls).session.defaults = none := by
  -- from the last call back: a reset settles it, and a get that fails leaves everything as it was
  induction calls using List.reverseRecOn with
  | nil => rfl
  | append_singleton calls c ih =>
    have hbefore : c ≠ .reset → ((Numbered.start env).after calls).session.defaults = none := by
      intro hc
      refine ih fun p q hsplit hq => h p (q ++ [c]) (by simp [hsplit]) ?_
      simpa using And.intro hq hc.symm
    rw [Numbered.after_append]
    cases c with
    | reset => rfl
    | get =>
      cases hanswer : answer env calls with
      | ok b => exact absurd hanswer (h calls [] rfl (by simp) b)
      | error e =>
        show (((Numbered.start env).after calls).perform .get).session.defaults = none
        rw [Numbered.perform_get_of_error hanswer]
        exact hbefore (by simp)
    | _ => exact hbefore (by simp)

/-- `pre` are the calls before the first get that succeeded since the last reset. -/
structure FirstGet (env : Settings.Environment) (calls pre : List SettingsCall) : Prop where
  since : ∃ post, calls = pre ++ .get :: post ∧ .reset ∉ post
  succeeded : ∃ b, answer env pre = .ok b
  first : ∀ p q, pre = p ++ .get :: q → .reset ∉ q → ∀ b, answer env p ≠ .ok b

/-- If a get has succeeded since the last reset, one of them was the first. The induction is on the number of calls
before it: a get that succeeded earlier has fewer of them. -/
theorem exists_firstGet {b : Built} (hpost : .reset ∉ post) (hb : answer env pre = .ok b) :
    ∃ p, FirstGet env (pre ++ .get :: post) p := by
  induction hn : pre.length using Nat.strongRecOn generalizing pre post b with
  | ind n ih =>
    by_cases hfirst : ∀ p q, pre = p ++ .get :: q → .reset ∉ q → ∀ b, answer env p ≠ .ok b
    · exact ⟨pre, ⟨post, rfl, hpost⟩, ⟨b, hb⟩, hfirst⟩
    -- an earlier get succeeded without a reset behind it
    · push Not at hfirst
      obtain ⟨p, q, rfl, hq, b', hb'⟩ := hfirst
      have hshort : p.length < n := by
        simp only [List.length_append, List.length_cons] at hn
        omega
      have hrest : SettingsCall.reset ∉ q ++ .get :: post := by simp [hq, hpost]
      simpa using ih p.length hshort hrest hb' rfl

/-- Where nothing is kept, a get answers what is built from the environment as it is. -/
theorem settings_answer_of_none (h : ((Numbered.start env).after calls).session.defaults = none) :
    (answer env calls).map Built.settings = defaultsIn (environmentAfter env calls) := by
  have henv := Numbered.environment_after calls (Numbered.start env)
  rw [answer, Numbered.settings_get_of_none h, henv]
  rfl

/-- The get behind `pre` succeeded and no reset came since: what it answered is answered again, the very same
object. -/
theorem answer_of_kept {b : Built} (hb : answer env pre = .ok b) (hpost : .reset ∉ post) :
    answer env (pre ++ .get :: post) = .ok b := by
  obtain ⟨hkept, hbuilds⟩ := Numbered.kept_of_get hb
  obtain ⟨hlast, hsame⟩ := Numbered.after_of_kept hkept hpost
  rw [answer, Numbered.after_append, Numbered.after_cons, Numbered.get_of_kept hlast, hsame, hbuilds]

/-- Behind a reset another object is answered, even if its settings are the same. -/
theorem number_ne_of_reset {mid : List SettingsCall} {a b : Built} (ha : answer env pre = .ok a)
    (hmid : .reset ∈ mid) (hb : answer env (pre ++ .get :: mid) = .ok b) : a.number ≠ b.number := by
  obtain ⟨m, m', rfl⟩ := List.append_of_mem hmid
  have hbuilds := (Numbered.kept_of_get ha).2
  set s := ((Numbered.start env).after pre).perform .get with hs
  have hle : a.number ≤ (s.after m).builds := hbuilds ▸ Numbered.builds_le_after m s
  -- at the reset all numbers so far are passed
  have hpassed : Numbered.Passed a.number ((s.after m).perform .reset) := ⟨hle, Or.inl rfl⟩
  have hlast : ((Numbered.start env).after (pre ++ .get :: (m ++ .reset :: m')))
      = ((s.after m).perform .reset).after m' := by
    simp [Numbered.after_append, Numbered.after_cons, hs]
  rw [answer, hlast] at hb
  exact Nat.ne_of_lt ((hpassed.after m').number_lt hb)

/-- A get answers what is built from the environment as it was at the first get that succeeded since the last reset, or
from the environment as it is if none has. It answers the object that an earlier get answered if and only if no reset
came between them. Gets that fail and settings that callers build for themselves make no difference. -/
theorem answer_after (env : Settings.Environment) (calls : List SettingsCall) :
    (∀ pre, FirstGet env calls pre →
        (answer env calls).map Built.settings = defaultsIn (environmentAfter env pre))
      ∧ ((∀ pre, ¬FirstGet env calls pre) →
        (answer env calls).map Built.settings = defaultsIn (environmentAfter env calls))
      ∧ (∀ pre mid a b, calls = pre ++ .get :: mid → answer env pre = .ok a → answer env calls = .ok b →
        (a.number = b.number ↔ .reset ∉ mid))
      ∧ (∀ pre post, calls = pre ++ .get :: post → (∀ b, answer env pre ≠ .ok b) →
        answer env calls = answer env (pre ++ post))
      ∧ ∀ pre given post, calls = pre ++ .construct given :: post → answer env calls = answer env (pre ++ post) := by
  refine ⟨?_, ?_, ?_, ?_, ?_⟩
  · rintro pre ⟨⟨post, rfl, hpost⟩, ⟨b, hb⟩, hfirst⟩
    have hnone := settings_answer_of_none (defaults_after_eq_none hfirst)
    rw [answer_of_kept hb hpost, ← hb, hnone]
  · intro hnot
    refine settings_answer_of_none (defaults_after_eq_none ?_)
    rintro p q rfl hq b hb
    obtain ⟨pre, hpre⟩ := exists_firstGet hq hb
    exact hnot pre hpre
  · rintro pre mid a b rfl ha hb
    constructor
    · intro hnumber hmid
      exact number_ne_of_reset ha hmid hb hnumber
    · intro hmid
      rw [answer_of_kept ha hmid] at hb
      rw [Except.ok.inj hb]
  · rintro pre post rfl hfail
    cases hanswer : answer env pre with
    | ok b => exact absurd hanswer (hfail b)
    | error e =>
      rw [answer, answer, Numbered.after_append, Numbered.after_append, Numbered.after_cons,
        Numbered.perform_get_of_error hanswer]
  · rintro pre given post rfl
    rw [answer, answer, Numbered.after_append, Numbered.after_append]
    rfl

/-- The first get fails and the second one counts, whatever is set behind it. Behind a reset another object is answered,
which is built from the environment as it is then. -/
theorem answer_after_recovery :
    ∃ a b : Built, answer [("TRAFFICLOG_LOG_FORMAT", "xml")]
        [.get, .unsetVariable "TRAFFICLOG_LOG_FORMAT", .get, .setVariable "TRAFFICLOG_COMPACT" "off"] = .ok a
      ∧ a.settings = Settings.builtIn
      ∧ answer [("TRAFFICLOG_LOG_FORMAT", "xml")]
        [.get, .unsetVariable "TRAFFICLOG_LOG_FORMAT", .get, .setVariable "TRAFFICLOG_COMPACT" "off", .reset] = .ok b
      ∧ b.settings = { Settings.builtIn with compact := false } ∧ a.number ≠ b.number := by
  have hfirst : FirstGet [("TRAFFICLOG_LOG_FORMAT", "xml")]
      [.get, .unsetVariable "TRAFFICLOG_LOG_FORMAT", .get, .setVariable "TRAFFICLOG_COMPACT" "off"]
      [.get, .unsetVariable "TRAFFICLOG_LOG_FORMAT"] := by
    refine ⟨⟨_, rfl, by simp⟩, ⟨_, rfl⟩, ?_⟩
    -- only the get that failed stands before it
    rintro (_ | ⟨c, _ | ⟨d, p⟩⟩) q h hq b hb
    · cases hb
    · simp at h
    · simp at h
  have hsettings := (answer_after _ _).1 _ hfirst
  have hobjects := (answer_after [("TRAFFICLOG_LOG_FORMAT", "xml")]
    [.get, .unsetVariable "TRAFFICLOG_LOG_FORMAT", .get, .setVariable "TRAFFICLOG_COMPACT" "off", .reset]).2.2.1
    [.get, .unsetVariable "TRAFFICLOG_LOG_FORMAT"] [.setVariable "TRAFFICLOG_COMPACT" "off", .reset] _ _ rfl rfl rfl
  refine ⟨_, _, rfl, Except.ok.inj hsettings, rfl, rfl, fun hsame => ?_⟩
  exact hobjects.1 hsame (by simp)

end BodyScrub.Session
