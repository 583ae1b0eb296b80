import BodyScrub.Settings

/-!
# Separators

A value is written with or without a blank after each comma and each colon between its parts. The two texts differ in
these blanks alone, so they are the same if and only if no separator is written (`write_spaced_eq_iff`): for scalars,
empty arrays and objects, and arrays of one such value.
-/

namespace BodyScrub.Json

/-- Separators without blanks. -/
def Style.compact (asciiOnly : Bool) : Style := ⟨asciiOnly, ",", ":"⟩

/-- Separators with a blank after each. -/
def Style.spaced (asciiOnly : Bool) : Style := ⟨asciiOnly, ", ", ": "⟩

section

variable (asciiOnly : Bool)

@[simp] theorem Style.asciiOnly_compact : (compact asciiOnly).asciiOnly = asciiOnly := rfl
@[simp] theorem Style.asciiOnly_spaced : (spaced asciiOnly).asciiOnly = asciiOnly := rfl
@[simp] theorem Style.length_itemSeparator_compact : (compact asciiOnly).itemSeparator.length = 1 := rfl
@[simp] theorem Style.length_itemSeparator_spaced : (spaced asciiOnly).itemSeparator.length = 2 := rfl
@[simp] theorem Style.length_nameSeparator_compact : (compact asciiOnly).nameSeparator.length = 1 := rfl
@[simp] theorem Style.length_nameSeparator_spaced : (spaced asciiOnly).nameSeparator.length = 2 := rfl

end

namespace Value

mutual

/-- How many separators stand in the text of a value. -/
def separators : Value → Nat
  | array (v :: vs) => v.separators + itemSeparators vs
  | object ((_, v) :: ms) => 1 + v.separators + memberSeparators ms
  | _ => 0

/-- How many separators stand in the text of further items. -/
def itemSeparators : List Value → Nat
  | [] => 0
  | v :: vs => 1 + v.separators + itemSeparators vs

/-- How many separators stand in the text of further members. -/
def memberSeparators : Entries Value → Nat
  | [] => 0
  | (_, v) :: ms => 2 + v.separators + memberSeparators ms

end

mutual

/-- Each separator brings one blank more. Comparing lengths is enough to tell the two texts apart. -/
theorem length_write_spaced (asciiOnly : Bool) (v : Value) :
    (v.write (.spaced asciiOnly)).length = (v.write (.compact asciiOnly)).length + v.separators := by
  cases v with
  | array items =>
    cases items with
    | nil => rfl
    | cons v vs =>
      -- the first item has no separator before it
      have hv := length_write_spaced asciiOnly v
      have hvs := length_writeItems_spaced asciiOnly vs
      simp [write, separators, hv, hvs]
      omega
  | object members =>
    cases members with
    | nil => rfl
    | cons m ms =>
      obtain ⟨n, v⟩ := m
      have hv := length_write_spaced asciiOnly v
      have hms := length_writeMembers_spaced asciiOnly ms
      simp [write, separators, hv, hms]
      omega
  | bool b => cases b <;> rfl
  | _ => rfl

/-- Further items have a comma before each of them, and a blank behind each comma in the spaced style. -/
theorem length_writeItems_spaced (asciiOnly : Bool) (vs : List Value) :
    (writeItems (.spaced asciiOnly) vs).length = (writeItems (.compact asciiOnly) vs).length + itemSeparators vs := by
  cases vs with
  | nil => rfl
  | cons v vs =>
    have hv := length_write_spaced asciiOnly v
    have hvs := length_writeItems_spaced asciiOnly vs
    simp [writeItems, itemSeparators, hv, hvs]
    omega

/-- Further members have a comma before each of them and a colon within, each with its blank in the spaced style. -/
theorem length_writeMembers_spaced (asciiOnly : Bool) (ms : Entries Value) :
    (writeMembers (.spaced asciiOnly) ms).length
      = (writeMembers (.compact asciiOnly) ms).length + memberSeparators ms := by
  cases ms with
  | nil => rfl
  | cons m ms =>
    obtain ⟨n, v⟩ := m
    have hv := length_write_spaced asciiOnly v
    have hms := length_writeMembers_spaced asciiOnly ms
    simp [writeMembers, memberSeparators, hv, hms]
    omega

end

/-- Without separators it does not matter how they are written: scalars, empty containers, and arrays of one value
of this kind. -/
theorem write_spaced_of_separators (asciiOnly : Bool) (v : Value) (h : v.separators = 0) :
    v.write (.spaced asciiOnly) = v.write (.compact asciiOnly) := by
  cases v with
  | array items =>
    cases items with
    | nil => rfl
    | cons v vs =>
      cases vs with
      | nil =>
        have hv : v.separators = 0 := by simpa [separators, itemSeparators] using h
        simp [write, writeItems, write_spaced_of_separators asciiOnly v hv]
      | cons w vs =>
        -- a second item has a comma before it
        simp only [separators, itemSeparators] at h
        omega
  | object members =>
    cases members with
    | nil => rfl
    | cons m ms =>
      obtain ⟨n, v⟩ := m
      simp only [separators] at h
      omega
  | bool b => cases b <;> rfl
  | _ => rfl

/-- The two styles give one text exactly where no separator is written, since they differ in length by the number of
separators. -/
theorem write_spaced_eq_iff (asciiOnly : Bool) (v : Value) :
    v.write (.spaced asciiOnly) = v.write (.compact asciiOnly) ↔ v.separators = 0 := by
  refine ⟨fun h => ?_, write_spaced_of_separators asciiOnly v⟩
  have hlength := length_write_spaced asciiOnly v
  rw [h] at hlength
  omega

end Value

end BodyScrub.Json
