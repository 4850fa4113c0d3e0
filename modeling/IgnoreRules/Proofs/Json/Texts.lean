import IgnoreRules.Json.Basic
import Mathlib.Data.List.Basic

/-!
# Texts among values

Values are taken for texts if each of them is a string.  If not, the first that is no string is named,
together with its place.

* `Json.AreTexts` : values that are strings, all of them;
* `Json.textsFrom_eq_ok_iff`, `Json.textsFrom_eq_error_iff` : what comes of taking values for texts.
-/

namespace IgnoreRules

namespace Json

/-- All values are strings. -/
def AreTexts (values : List Json) : Prop :=
  ∃ texts : List Text, values = texts.map .string

variable {values : List Json} {texts : List Text} {place : Nat} {value : Json} {e : NotText}

theorem textsFrom_map_string (place : Nat) (texts : List Text) :
    textsFrom place (texts.map .string) = .ok texts := by
  induction texts generalizing place with
  | nil => rfl
  | cons t texts ih =>
      rw [List.map_cons, textsFrom, ih]
      rfl

/-- The first value that is no string decides. -/
theorem textsFrom_append_cons (place : Nat) (front : List Text) (behind : List Json)
    (h : ∀ t, value ≠ .string t) :
    textsFrom place (front.map .string ++ value :: behind) = .error ⟨place + front.length, value⟩ := by
  induction front generalizing place with
  | nil =>
      cases value with
      | string t => exact absurd rfl (h t)
      | _ => rfl
  | cons t front ih =>
      rw [List.map_cons, List.cons_append, textsFrom, ih, List.length_cons]
      simp only [Except.map, Except.error.injEq, NotText.mk.injEq, and_true]
      omega

/-- Either all values are strings, or one of them is the first that is none. -/
theorem areTexts_or (values : List Json) :
    AreTexts values ∨ ∃ (front : List Text) (value : Json) (behind : List Json),
      values = front.map .string ++ value :: behind ∧ ∀ t, value ≠ .string t := by
  induction values with
  | nil => exact Or.inl ⟨[], rfl⟩
  | cons v values ih =>
      cases v with
      | string t =>
          rcases ih with ⟨texts, rfl⟩ | ⟨front, value, behind, rfl, hvalue⟩
          · exact Or.inl ⟨t :: texts, rfl⟩
          · exact Or.inr ⟨t :: front, value, behind, rfl, hvalue⟩
      | _ => exact Or.inr ⟨[], _, values, rfl, nofun⟩

theorem textsFrom_eq_ok_iff : textsFrom place values = .ok texts ↔ values = texts.map .string := by
  constructor
  · intro h
    rcases areTexts_or values with ⟨texts', rfl⟩ | ⟨front, value, behind, rfl, hvalue⟩
    · rw [textsFrom_map_string] at h
      cases h
      rfl
    · rw [textsFrom_append_cons place front behind hvalue] at h
      cases h
  · rintro rfl
    exact textsFrom_map_string place texts

theorem textsFrom_eq_error_iff :
    textsFrom place values = .error e ↔ ∃ (front : List Text) (behind : List Json),
      values = front.map .string ++ e.value :: behind ∧ e.place = place + front.length ∧
        ∀ t, e.value ≠ .string t := by
  constructor
  · intro h
    rcases areTexts_or values with ⟨texts, rfl⟩ | ⟨front, value, behind, rfl, hvalue⟩
    · rw [textsFrom_map_string] at h
      cases h
    · rw [textsFrom_append_cons place front behind hvalue] at h
      cases h
      exact ⟨front, behind, rfl, rfl, hvalue⟩
  · rintro ⟨front, behind, rfl, hplace, hvalue⟩
    rw [textsFrom_append_cons place front behind hvalue, ← hplace]

/-- Values are strings as soon as none of them is anything else. -/
theorem areTexts_iff : AreTexts values ↔ ∀ v ∈ values, ∃ t, v = .string t := by
  constructor
  · rintro ⟨texts, rfl⟩ v hv
    obtain ⟨t, -, rfl⟩ := List.mem_map.1 hv
    exact ⟨t, rfl⟩
  · intro h
    rcases areTexts_or values with htexts | ⟨front, value, behind, rfl, hvalue⟩
    · exact htexts
    · obtain ⟨t, ht⟩ := h value (by simp)
      exact absurd ht (hvalue t)

theorem exists_notText (h : ¬AreTexts values) (place : Nat) :
    ∃ e, textsFrom place values = .error e := by
  cases htexts : textsFrom place values with
  | error e => exact ⟨e, rfl⟩
  | ok texts => exact absurd ⟨texts, textsFrom_eq_ok_iff.1 htexts⟩ h

theorem not_areTexts (h : textsFrom place values = .error e) : ¬AreTexts values := by
  rintro ⟨texts, rfl⟩
  rw [textsFrom_map_string] at h
  cases h

/-- Strings behind some values have no part in what is wrong with them. -/
theorem textsFrom_append_map_string (place : Nat) (values : List Json) (texts : List Text) :
    textsFrom place (values ++ texts.map .string) = .error e ↔ textsFrom place values = .error e := by
  rcases areTexts_or values with ⟨front, rfl⟩ | ⟨front, value, behind, rfl, hvalue⟩
  · rw [← List.map_append, textsFrom_map_string, textsFrom_map_string]
    exact ⟨nofun, nofun⟩
  · rw [List.append_assoc, List.cons_append, textsFrom_append_cons place front _ hvalue,
      textsFrom_append_cons place front behind hvalue]

theorem map_string_inj {A B : List Text} (h : A.map Json.string = B.map .string) : A = B :=
  List.map_injective_iff.2 (fun _ _ h => Json.string.inj h) h

/-- Values with strings behind them are strings only if they are strings themselves. -/
theorem exists_of_append_map_string {behind : List Text}
    (h : values ++ behind.map .string = texts.map .string) :
    ∃ front, values = front.map .string ∧ texts = front ++ behind := by
  obtain ⟨front, back, rfl, hfront, hback⟩ := List.map_eq_append_iff.1 h.symm
  exact ⟨front, hfront.symm, by rw [map_string_inj hback]⟩

end Json

end IgnoreRules
