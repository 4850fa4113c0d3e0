import IgnoreRules.Proofs.RuleSet.Verdict
import IgnoreRules.Proofs.Text.Lines

/-!
# The rules of texts

The rules that a text states, and what becomes of them when texts are joined by line feeds: they follow
one another, and no rule is gained, lost or changed where two texts meet.

* `Rule.ofText` : the rules that a text states;
* `Rule.ofText_append_lineFeed` : two texts with a line feed between them;
* `Rule.ofText_withReturns` : a text with other line endings;
* `Rule.ofText_joinLines` : the lines of a text, joined again;
* `RuleSet.exists_ofText_eq_ok_iff` : when a text builds a set.
-/

namespace IgnoreRules

namespace Rule

/-- The rules that the lines of a text state. -/
def ofText (t : Text) : List Rule :=
  ofLines (Text.splitLines t)

theorem ofLines_cons (line : Text) (lines : List Text) :
    ofLines (line :: lines) = (Line.parse line).rule?.toList ++ ofLines lines := by
  unfold ofLines
  rw [List.filterMap_cons]
  cases (Line.parse line).rule? with
  | none => rfl
  | some r => rfl

theorem ofLines_append_blank (lines : List Text) : ofLines (lines ++ [[]]) = ofLines lines := by
  have hblank : ofLines [[]] = [] := rfl
  rw [RuleSet.ofLines_append, hblank, List.append_nil]

/-- An empty line at the end states no rule. -/
theorem ofText_of_blank {t u : Text} (h : Text.splitLines u = Text.splitLines t ∨
    Text.splitLines u = Text.splitLines t ++ [[]]) : ofText u = ofText t := by
  unfold ofText
  cases h with
  | inl hsame => rw [hsame]
  | inr hblank => rw [hblank, ofLines_append_blank]

theorem ofText_lineFeed (a : Text) : ofText (a ++ ['\n']) = ofText a :=
  ofText_of_blank (Text.splitLines_lineFeed a)

theorem ofText_return (a : Text) : ofText (a ++ ['\r']) = ofText a :=
  ofText_of_blank (Text.splitLines_return a)

/-- The rules of two texts with a line feed between them are those of the first, then those of the
second. -/
theorem ofText_append_lineFeed (a b : Text) : ofText (a ++ '\n' :: b) = ofText a ++ ofText b := by
  calc ofText (a ++ '\n' :: b)
      = ofLines (Text.splitLines (a ++ ['\n']) ++ Text.splitLines b) := by
          unfold ofText
          rw [Text.splitLines_append_lineFeed]
    _ = ofText (a ++ ['\n']) ++ ofText b := RuleSet.ofLines_append
    _ = ofText a ++ ofText b := by rw [ofText_lineFeed]

/-- Behind any text, carriage returns in front of line feeds change no rule; the induction moves one
character after the other to the text in front. -/
theorem ofText_append_withReturns (a t : Text) : ofText (a ++ Text.withReturns t) = ofText (a ++ t) := by
  induction t generalizing a with
  | nil => rfl
  | cons c t ih =>
      by_cases hc : c = '\n'
      · subst hc
        calc ofText (a ++ Text.withReturns ('\n' :: t))
            = ofText ((a ++ ['\r']) ++ '\n' :: Text.withReturns t) := by
                rw [Text.withReturns_lineFeed, List.append_assoc]
                rfl
          _ = ofText (a ++ ['\r']) ++ ofText (Text.withReturns t) := ofText_append_lineFeed _ _
          _ = ofText a ++ ofText t := by
                rw [ofText_return]
                exact congrArg (ofText a ++ ·) (ih [])
          _ = ofText (a ++ '\n' :: t) := (ofText_append_lineFeed a t).symm
      · have hmoved := ih (a ++ [c])
        rw [List.append_assoc, List.append_assoc] at hmoved
        rw [Text.withReturns_cons hc]
        exact hmoved

/-- Line feeds and pairs of a carriage return and a line feed state the same rules. -/
theorem ofText_withReturns (t : Text) : ofText (Text.withReturns t) = ofText t :=
  ofText_append_withReturns [] t

/-- A text that is a single line states the rule of that line. -/
theorem ofText_of_unbroken {t : Text} (h : ∀ c ∈ t, Text.isLineEnd c = false) :
    ofText t = (Line.parse t).rule?.toList := by
  unfold ofText
  rw [Text.splitLines_of_unbroken h]
  split
  · next hempty =>
      rw [hempty]
      rfl
  · rw [ofLines_cons]
    exact List.append_nil _

/-- Lines that are joined state the rules they state one by one. -/
theorem ofText_joinLines {lines : List Text}
    (h : ∀ line ∈ lines, ∀ c ∈ line, Text.isLineEnd c = false) :
    ofText (Text.joinLines lines) = ofLines lines := by
  unfold Text.joinLines
  induction lines with
  | nil => rfl
  | cons line lines ih =>
      have hline := ofText_of_unbroken (h line (List.mem_cons_self ..))
      have hrest := ih fun l hl => h l (List.mem_cons_of_mem line hl)
      rw [ofLines_cons, ← hline, ← hrest]
      cases lines with
      | nil =>
          rw [List.intercalate_singleton]
          exact (List.append_nil _).symm
      | cons next lines =>
          rw [List.intercalate_cons_cons, List.append_assoc]
          exact ofText_append_lineFeed line _

end Rule

namespace RuleSet

theorem ofText_eq_ofRules (root : Path) (t : Text) : ofText root t = ofRules root (Rule.ofText t) :=
  rfl

/-- A text builds a set if and only if every rule it states is a glob. -/
theorem exists_ofText_eq_ok_iff {root : Path} {t : Text} :
    (∃ s, ofText root t = .ok s) ↔ ∀ r ∈ Rule.ofText t, ∃ g, Glob.parse r.pattern = .ok g :=
  exists_ofRules_eq_ok_iff

theorem rules_of_ofText {root : Path} {t : Text} {s : RuleSet} (h : ofText root t = .ok s) :
    s.root = root ∧ s.rules = Rule.ofText t :=
  rules_of_ofRules h

end RuleSet

end IgnoreRules
