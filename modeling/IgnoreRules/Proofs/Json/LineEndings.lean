import IgnoreRules.Json.Parser
import IgnoreRules.Text.Lines

/-!
# Line endings in JSON

A carriage return and a line feed mean the same to JSON, and a pair of them means the same as one:
between tokens they are white space, and inside a string neither may stand.  So a JSON text keeps its
value when its line endings are unified.

* `Json.Scanner.push_return`, `Json.Scanner.push_lineFeed_lineFeed` : what one line ending does;
* `Json.Scanner.run_unifyReturns` : what all of them do, by induction over the text;
* `Json.parse_unifyReturns` : the value of a text.
-/

namespace IgnoreRules

namespace Text

/-- Unifying line endings, character by character. -/
theorem unifyReturns_cons (c : Char) (t : Text) :
    unifyReturns (c :: t) =
      if c = '\r' ∧ t.head? = some '\n' then unifyReturns t
      else (if c = '\r' then '\n' else c) :: unifyReturns t := by
  unfold unifyReturns
  rw [joinReturnFeed]
  split
  · rfl
  · rfl

end Text

namespace Json

namespace Scanner

/-! ## One line ending -/

/-- A carriage return does what a line feed does. -/
theorem push_return (s : Scanner) : s.push '\r' = s.push '\n' := by
  obtain ⟨tokens, mode⟩ := s
  cases mode with
  | between => rfl
  | word chars => rfl
  | string d => rfl
  | escape d => rfl
  | unit d value digits =>
      have hreturn : Text.hexValue? '\r' = none := by decide
      have hfeed : Text.hexValue? '\n' = none := by decide
      simp only [push, hreturn, hfeed]
  | broken => rfl

/-- A line feed leaves the scanner between tokens, or the text is broken. -/
theorem mode_push_lineFeed (s : Scanner) :
    (s.push '\n').mode = .between ∨ (s.push '\n').mode = .broken := by
  obtain ⟨tokens, mode⟩ := s
  cases mode with
  | between => exact Or.inl rfl
  | word chars => exact Or.inl rfl
  | string d => exact Or.inr rfl
  | escape d => exact Or.inr rfl
  | unit d value digits =>
      have hfeed : Text.hexValue? '\n' = none := by decide
      right
      simp only [push, hfeed]
      rfl
  | broken => exact Or.inr rfl

/-- Behind a line feed another one does nothing. -/
theorem push_lineFeed_lineFeed (s : Scanner) : (s.push '\n').push '\n' = s.push '\n' := by
  have hmode := mode_push_lineFeed s
  generalize s.push '\n' = behind at hmode ⊢
  obtain ⟨tokens, mode⟩ := behind
  rcases hmode with hbetween | hbroken
  · cases hbetween
    rfl
  · cases hbroken
    rfl

/-! ## All line endings of a text -/

theorem run_cons (s : Scanner) (c : Char) (t : Text) : s.run (c :: t) = (s.push c).run t :=
  rfl

/-- A pair of a carriage return and a line feed does what the line feed does. -/
theorem run_return_lineFeed (s : Scanner) (t : Text) :
    s.run ('\r' :: '\n' :: t) = s.run ('\n' :: t) := by
  rw [run_cons, run_cons, push_return, push_lineFeed_lineFeed, run_cons]

/-- Taking in a text ends the same when its line endings were unified before. -/
theorem run_unifyReturns (s : Scanner) (t : Text) : s.run (Text.unifyReturns t) = s.run t := by
  -- The scanner is arbitrary, for every character moves it on.
  induction t generalizing s with
  | nil => rfl
  | cons c t ih =>
      rw [Text.unifyReturns_cons]
      split
      · next hpair =>
          obtain ⟨rfl, hhead⟩ := hpair
          obtain ⟨rest, rfl⟩ := List.head?_eq_some_iff.1 hhead
          rw [ih, run_return_lineFeed]
      · split
        · next hreturn => rw [hreturn, run_cons, run_cons, push_return, ih]
        · rw [run_cons, run_cons, ih]

end Scanner

theorem tokens_unifyReturns (t : Text) : tokens (Text.unifyReturns t) = tokens t := by
  unfold tokens
  rw [Scanner.run_unifyReturns]

/-- The value of a JSON text does not depend on how its line endings are written. -/
theorem parse_unifyReturns (limit : Nat) (t : Text) :
    parse limit (Text.unifyReturns t) = parse limit t := by
  unfold parse
  rw [tokens_unifyReturns]

end Json

end IgnoreRules
