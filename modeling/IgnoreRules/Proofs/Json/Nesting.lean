import IgnoreRules.Json.Parser

/-!
# More room for nesting

A text that is read is read in the same way where more arrays and objects may be open at once, for the
room there is only has a part in texts that have no value for the lack of it.

* `Json.Assembly.push_of_le` : one token;
* `Json.Assembly.run_of_le` : all of them, by induction over the tokens;
* `Json.parse_of_le` : the value of a text.
-/

namespace IgnoreRules

namespace Json

variable {n m : Nat} {t : Text}

namespace Assembly

theorem enter_of_le (h : n ≤ m) {frame : Frame} {next : Expectation} {frames : List Frame}
    (hroom : enter n frame next frames ≠ .error .tooDeep) :
    enter m frame next frames = enter n frame next frames := by
  unfold enter at hroom ⊢
  by_cases hn : frames.length < n
  · rw [if_pos hn, if_pos (Nat.lt_of_lt_of_le hn h)]
  · rw [if_neg hn] at hroom
    exact absurd rfl hroom

theorem beginValue_of_le (h : n ≤ m) {frames : List Frame} {token : Token}
    (hroom : beginValue n frames token ≠ .error .tooDeep) :
    beginValue m frames token = beginValue n frames token := by
  cases token with
  | openArray => exact enter_of_le h hroom
  | openObject => exact enter_of_le h hroom
  | _ => rfl

/-- A token for which there is room is taken in the same where there is more. -/
theorem push_of_le (h : n ≤ m) {a : Assembly} {token : Token}
    (hroom : a.push n token ≠ .error .tooDeep) : a.push m token = a.push n token := by
  obtain ⟨frames, expectation⟩ := a
  -- Only where a value may begin an array or an object can be opened.
  cases expectation with
  | value => exact beginValue_of_le h hroom
  | itemOrEnd =>
      unfold push at hroom ⊢
      dsimp only at hroom ⊢
      split
      · rfl
      · next hopen =>
          rw [if_neg hopen] at hroom
          exact beginValue_of_le h hroom
  | _ => rfl

theorem run_of_le (h : n ≤ m) {a : Assembly} {tokens : List Token}
    (hroom : a.run n tokens ≠ .error .tooDeep) : a.run m tokens = a.run n tokens := by
  induction tokens generalizing a with
  | nil => rfl
  | cons token tokens ih =>
      rw [run] at hroom ⊢
      rw [run]
      have hfirst : a.push n token ≠ .error .tooDeep := fun hdeep => by
        rw [hdeep] at hroom
        exact hroom rfl
      rw [push_of_le h hfirst]
      cases hpush : a.push n token with
      | error e => rfl
      | ok next =>
          rw [hpush] at hroom
          exact ih hroom

end Assembly

/-- What a text comes to where there is room for it is what it comes to where there is more. -/
theorem parse_of_le (h : n ≤ m) (hroom : parse n t ≠ .error .tooDeep) : parse m t = parse n t := by
  have htokens : Assembly.run n {} (tokens t).1 ≠ .error .tooDeep := fun hdeep => by
    unfold parse at hroom
    rw [hdeep] at hroom
    exact hroom rfl
  unfold parse
  rw [Assembly.run_of_le h htokens]

end Json

end IgnoreRules
