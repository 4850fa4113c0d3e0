import IgnoreRules.Cli.Run
import Mathlib.Data.Prod.Basic

/-!
# Before a command is carried out

A run begins with setting up the log, with a threshold that is asked for by name.  Names that stand for
nothing count as `INFO`; two names stand for something that is no level, and with them no command is
carried out at all.

* `Log.threshold_eq_error_iff`, `Log.configure_eq_error_iff` : the names without a threshold;
* `Cli.run_of_setup`, `Cli.run_of_levelError` : a run behind that.
-/

namespace IgnoreRules

namespace Log

variable {name : Text} {e : LevelError} {request : Request} {w : World}

/-- What a name stands for is listed, or it is `INFO`. -/
theorem meaning_cases (name : Text) :
    (∃ entry ∈ meanings, entry.1.toList = Text.upper name ∧ meaning name = entry.2) ∨
      meaning name = .number 20 := by
  unfold meaning
  split
  · next entry hfound =>
      have hname := List.find?_some hfound
      exact Or.inl ⟨entry, List.mem_of_find?_eq_some hfound, of_decide_eq_true hname, rfl⟩
  · exact Or.inr rfl

/-- Two of the names that are listed stand for something that is no level. -/
theorem eq_of_mem_meanings {entry : String × Meaning} (h : entry ∈ meanings)
    (hlevel : ∀ n, entry.2 ≠ .number n) :
    entry = ("BASIC_FORMAT", .text basicFormat) ∨ entry = ("_STYLES", .table stylesShown) := by
  simp only [meanings, List.mem_cons, List.not_mem_nil, or_false] at h
  rcases h with rfl | rfl | rfl | rfl | rfl | rfl | rfl | rfl | rfl | hformat | hstyles
  -- The other nine name levels.
  case inr.inr.inr.inr.inr.inr.inr.inr.inr.inl => exact Or.inl hformat
  case inr.inr.inr.inr.inr.inr.inr.inr.inr.inr => exact Or.inr hstyles
  all_goals exact absurd rfl (hlevel _)

theorem threshold_eq_error_iff :
    threshold name = .error e ↔
      (Text.upper name = "BASIC_FORMAT".toList ∧ e = .unknown basicFormat) ∨
        (Text.upper name = "_STYLES".toList ∧ e = .noLevel stylesShown) := by
  constructor
  · intro h
    unfold threshold at h
    rcases meaning_cases name with ⟨entry, hentry, hname, hmeaning⟩ | hmeaning
    · rw [hmeaning] at h
      have hlevel : ∀ n, entry.2 ≠ .number n := by
        intro n hn
        rw [hn] at h
        cases h
      rcases eq_of_mem_meanings hentry hlevel with rfl | rfl
      · exact Or.inl ⟨hname.symm, (Except.error.inj h).symm⟩
      · exact Or.inr ⟨hname.symm, (Except.error.inj h).symm⟩
    · rw [hmeaning] at h
      cases h
  · rintro (⟨hname, rfl⟩ | ⟨hname, rfl⟩)
    · unfold threshold meaning
      rw [hname]
      rfl
    · unfold threshold meaning
      rw [hname]
      rfl

/-- The log is set up unless the name of the threshold has none. -/
theorem configure_eq_error_iff :
    (configure request w).1 = .error e ↔
      (Text.upper (levelName request w.env) = "BASIC_FORMAT".toList ∧ e = .unknown basicFormat) ∨
        (Text.upper (levelName request w.env) = "_STYLES".toList ∧ e = .noLevel stylesShown) := by
  rw [← threshold_eq_error_iff]
  unfold configure
  dsimp only
  split
  · next h =>
      rw [h]
      exact ⟨fun he => congrArg _ (Except.error.inj he), fun he => congrArg _ (Except.error.inj he)⟩
  · next h =>
      rw [h]
      exact ⟨nofun, nofun⟩

/-- Setting up the log changes nothing but the journal. -/
theorem files_configure (request : Request) (w : World) : (configure request w).2.files = w.files := by
  unfold configure
  dsimp only
  split
  · rfl
  · rfl

end Log

namespace Cli

variable {line : List Text} {i : Invocation} {command : Command} {w : World}

/-- With the log set up, the command is carried out among the files that are there. -/
theorem run_of_setup (hline : Invocation.parse line = .ok i) (hcommand : i.command = some command)
    (store : Option TemplateStore) {setup : Log.Setup}
    (hsetup : (Log.configure { level := i.logLevel } w).1 = .ok setup) :
    ∃ v : World, v.files = w.files ∧ (run store w line).1 =
      outcomeOf setup (runCommand store v command).1 (runCommand store v command).2 := by
  refine ⟨(Log.configure { level := i.logLevel } w).2, Log.files_configure _ w, ?_⟩
  unfold run runInvocation
  rw [hline]
  dsimp only
  rw [Prod.fst_eq_iff.1 hsetup]
  dsimp only
  rw [hcommand]

/-- Without it, nothing is carried out. -/
theorem run_of_levelError (hline : Invocation.parse line = .ok i) (store : Option TemplateStore)
    {e : Log.LevelError} (he : (Log.configure { level := i.logLevel } w).1 = .error e) :
    (run store w line).1 = .error (.level e) := by
  unfold run runInvocation
  rw [hline]
  dsimp only
  rw [Prod.fst_eq_iff.1 he]

end Cli

end IgnoreRules
