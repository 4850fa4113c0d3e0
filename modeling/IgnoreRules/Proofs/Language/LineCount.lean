import IgnoreRules.Language.LineCount
import Mathlib.Algebra.Order.BigOperators.Group.List
import Mathlib.Algebra.Ring.Int.Defs

/-!
# Counts of lines

Counts are added and compared field by field.  Each line that is counted adds one to the count of its
kind and one to the count of all lines, so these two always agree.

* `LineCount` with its sums and its order;
* `LineCount.Balanced` : every line is of one kind;
* `LanguageSyntax.count_nonneg`, `LanguageSyntax.balanced_count` : the count of a text.
-/

namespace IgnoreRules

/-! ## Sums and order of counts -/

attribute [ext] LineCount

namespace LineCount

instance : Zero LineCount := ⟨{}⟩

/-- Counts are compared field by field. -/
instance : LE LineCount :=
  ⟨fun a b => a.code ≤ b.code ∧ a.comment ≤ b.comment ∧ a.blank ≤ b.blank ∧ a.lines ≤ b.lines⟩

theorem le_def {a b : LineCount} :
    a ≤ b ↔ a.code ≤ b.code ∧ a.comment ≤ b.comment ∧ a.blank ≤ b.blank ∧ a.lines ≤ b.lines :=
  Iff.rfl

theorem add_def (a b : LineCount) :
    a + b = ⟨a.code + b.code, a.comment + b.comment, a.blank + b.blank, a.lines + b.lines⟩ :=
  rfl

theorem zero_def : (0 : LineCount) = ⟨0, 0, 0, 0⟩ :=
  rfl

instance : AddCommMonoid LineCount where
  add_assoc a b c := by simp [add_def, add_assoc]
  zero_add a := by simp [add_def, zero_def]
  add_zero a := by simp [add_def, zero_def]
  add_comm a b := by simp [add_def, add_comm]
  nsmul := nsmulRec

instance : PartialOrder LineCount where
  le_refl a := by simp [le_def]
  le_trans a b c hab hbc := by
    rw [le_def] at hab hbc ⊢
    omega
  le_antisymm a b hab hba := by
    rw [le_def] at hab hba
    ext <;> omega

instance : IsOrderedAddMonoid LineCount where
  add_le_add_left a b h c := by
    rw [le_def] at h
    simp only [le_def, add_def]
    omega

instance : IsLeftCancelAdd LineCount where
  add_left_cancel n a b h := by
    simp only [add_def, LineCount.mk.injEq, add_right_inj] at h
    ext
    · exact h.1
    · exact h.2.1
    · exact h.2.2.1
    · exact h.2.2.2

theorem nonneg_iff {n : LineCount} :
    0 ≤ n ↔ 0 ≤ n.code ∧ 0 ≤ n.comment ∧ 0 ≤ n.blank ∧ 0 ≤ n.lines :=
  Iff.rfl

theorem addLine_nonneg {n : LineCount} (h : 0 ≤ n) (kind : LineKind) : 0 ≤ n.addLine kind := by
  rw [nonneg_iff] at h ⊢
  cases kind with
  | code => simp only [addLine]; omega
  | comment => simp only [addLine]; omega
  | blank => simp only [addLine]; omega

/-! ## Counts that add up -/

/-- Every line is of one kind. -/
def Balanced (n : LineCount) : Prop :=
  n.code + n.comment + n.blank = n.lines

variable {a b n : LineCount} {counts : List LineCount}

theorem Balanced.add (ha : a.Balanced) (hb : b.Balanced) : (a + b).Balanced := by
  unfold Balanced at ha hb ⊢
  simp only [add_def]
  omega

theorem Balanced.addLine (h : n.Balanced) (kind : LineKind) : (n.addLine kind).Balanced := by
  unfold Balanced at h ⊢
  cases kind with
  | code => simp only [LineCount.addLine]; omega
  | comment => simp only [LineCount.addLine]; omega
  | blank => simp only [LineCount.addLine]; omega

theorem balanced_sum (h : ∀ n ∈ counts, n.Balanced) : counts.sum.Balanced := by
  induction counts with
  | nil => rfl
  | cons n counts ih =>
      have hfirst : n.Balanced := h n List.mem_cons_self
      have hrest : counts.sum.Balanced := ih fun m hm => h m (List.mem_cons_of_mem n hm)
      simpa using hfirst.add hrest

/-- Counts are summed field by field. -/
theorem sum_eq (counts : List LineCount) :
    counts.sum = ⟨(counts.map (·.code)).sum, (counts.map (·.comment)).sum,
      (counts.map (·.blank)).sum, (counts.map (·.lines)).sum⟩ := by
  induction counts with
  | nil => rfl
  | cons n counts ih => simp [ih, add_def]

end LineCount

namespace LanguageSyntax

/-- Counting more lines keeps a count from being negative. -/
theorem foldl_countLine_nonneg (s : LanguageSyntax) (lines : List Text) {progress : LineCount × Bool}
    (h : 0 ≤ progress.1) : 0 ≤ (lines.foldl s.countLine progress).1 := by
  induction lines generalizing progress with
  | nil => exact h
  | cons line lines ih =>
      apply ih
      exact LineCount.addLine_nonneg h _

theorem count_nonneg (s : LanguageSyntax) (t : Text) : 0 ≤ s.count t :=
  s.foldl_countLine_nonneg _ (le_refl 0)

/-- One more line leaves a count balanced, whatever kind it is of. -/
theorem balanced_foldl_countLine (s : LanguageSyntax) (lines : List Text)
    {progress : LineCount × Bool} (h : progress.1.Balanced) :
    (lines.foldl s.countLine progress).1.Balanced := by
  induction lines generalizing progress with
  | nil => exact h
  | cons line lines ih => exact ih (h.addLine _)

theorem balanced_count (s : LanguageSyntax) (t : Text) : (s.count t).Balanced :=
  s.balanced_foldl_countLine _ rfl

end LanguageSyntax

end IgnoreRules
