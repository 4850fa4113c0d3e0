import IgnoreRules.Proofs.Glob.Set

/-!
# Wildcards within a component

A glob whose wildcards stay within one component matches less than the same glob with wildcards that do
not, and what it loses are paths with a separator.  Pieces can be put together in this relation, so it
is enough to look at each token by itself.

* `Glob.Narrows` : a language with less than another, but with all its texts without separators;
* `Glob.narrows_language` : the languages of a glob under the two scopes;
* `Glob.isMatch_narrows` : what the choice of the scope decides.
-/

namespace IgnoreRules

namespace Glob

variable {L L' M M' : Language Char}

/-! ## Languages that differ in separators only -/

/-- All texts of the first language are in the second, and those of the second that have no separator
are in the first. -/
structure Narrows (L M : Language Char) : Prop where
  wider : ∀ w ∈ L, w ∈ M
  apart : ∀ w ∈ M, '/' ∉ w → w ∈ L

namespace Narrows

theorem refl (L : Language Char) : Narrows L L :=
  ⟨fun _ hw => hw, fun _ hw _ => hw⟩

theorem mul (h : Narrows L M) (h' : Narrows L' M') : Narrows (L * L') (M * M') where
  wider := by
    intro w hw
    rcases Language.mem_mul.1 hw with ⟨a, ha, b, hb, rfl⟩
    exact Language.append_mem_mul (h.wider a ha) (h'.wider b hb)
  apart := by
    intro w hw hslash
    rcases Language.mem_mul.1 hw with ⟨a, ha, b, hb, rfl⟩
    -- Without a separator in the whole there is none in the parts.
    rw [List.mem_append, not_or] at hslash
    exact Language.append_mem_mul (h.apart a ha hslash.1) (h'.apart b hb hslash.2)

theorem add (h : Narrows L M) (h' : Narrows L' M') : Narrows (L + L') (M + M') where
  wider := fun w hw => hw.imp (h.wider w) (h'.wider w)
  apart := fun w hw hslash => hw.imp (h.apart w · hslash) (h'.apart w · hslash)

section Lists

variable {α : Type} {f f' : α → Language Char}

theorem prod (h : ∀ x, Narrows (f x) (f' x)) (xs : List α) :
    Narrows (xs.map f).prod (xs.map f').prod := by
  induction xs with
  | nil => exact refl 1
  | cons x xs ih => simpa using (h x).mul ih

theorem sum (h : ∀ x, Narrows (f x) (f' x)) (xs : List α) :
    Narrows (xs.map f).sum (xs.map f').sum := by
  induction xs with
  | nil => exact refl 0
  | cons x xs ih => simpa using (h x).add ih

end Lists

/-! ## Tokens, pieces and globs -/

/-- Which characters a wildcard stands for differs in the separator only. -/
structure CharNarrows (p q : Char → Bool) : Prop where
  wider : ∀ c, p c = true → q c = true
  apart : ∀ c, c ≠ '/' → q c = true → p c = true

theorem charNarrows_admits :
    CharNarrows (WildcardScope.component.admits) (WildcardScope.wholePath.admits) where
  wider := fun _ _ => rfl
  apart := fun _ hc _ => by simpa [WildcardScope.admits] using hc

theorem charNarrows_class (cls : CharClass) :
    CharNarrows (cls.admits .component) (cls.admits .wholePath) := by
  cases hnegated : cls.negated with
  | false => constructor <;> simp [CharClass.admits, hnegated]
  | true =>
      constructor
      · simp +contextual [CharClass.admits, hnegated, WildcardScope.admits]
      · simp +contextual [CharClass.admits, hnegated, WildcardScope.admits]

theorem oneChar {p q : Char → Bool} (h : CharNarrows p q) :
    Narrows (Glob.oneChar p) (Glob.oneChar q) where
  wider := by
    rintro w ⟨c, hc, rfl⟩
    exact ⟨c, h.wider c hc, rfl⟩
  apart := by
    rintro w ⟨c, hc, rfl⟩ hslash
    exact ⟨c, h.apart c (by simpa [eq_comm] using hslash) hc, rfl⟩

theorem charRun {p q : Char → Bool} (h : CharNarrows p q) :
    Narrows (Glob.charRun p) (Glob.charRun q) where
  wider := fun _ hw c hc => h.wider c (hw c hc)
  apart := fun _ hw hslash c hc => h.apart c (fun hsep => hslash (hsep ▸ hc)) (hw c hc)

theorem token (t : Token) : Narrows (t.language .component) (t.language .wholePath) := by
  cases t with
  | char c => exact refl _
  | anyChar => exact oneChar charNarrows_admits
  | anyRun => exact charRun charNarrows_admits
  | oneOf cls => exact oneChar (charNarrows_class cls)
  -- Recursive components stand for separators under either scope.
  | anyTail => exact refl _
  | anyDirs => exact refl _

theorem piece (p : Piece) : Narrows (p.language .component) (p.language .wholePath) := by
  cases p with
  | token t => exact token t
  | group branches => exact sum (fun ts => prod token ts) branches

end Narrows

/-- The paths of a glob whose wildcards stay within a component are among those of the glob without
that restriction, and the others have a separator. -/
theorem narrows_language (g : Glob) : Narrows (g.language .component) (g.language .wholePath) :=
  Narrows.prod Narrows.piece g

/-! ## One glob as a set -/

section Single

variable {t path : Text} {g : Glob} {scope : WildcardScope}

theorem compile_single (h : parse t = .ok g) (scope : WildcardScope) :
    GlobSet.compile [(t, scope)] = .ok ⟨[(g, scope)]⟩ := by
  simp [GlobSet.compile, GlobSet.compileFrom, h]

theorem compile_single_error {fault : Fault} (h : parse t = .error fault) (scope : WildcardScope) :
    GlobSet.compile [(t, scope)] = .error ⟨0, t, fault⟩ := by
  simp [GlobSet.compile, GlobSet.compileFrom, h]

theorem isMatch_single (g : Glob) (scope : WildcardScope) (path : Text) :
    (GlobSet.mk [(g, scope)]).isMatch path = g.isMatch scope path := by
  cases hmatch : g.isMatch scope path with
  | false => simp [GlobSet.isMatch, GlobSet.matchIndices, hmatch]
  | true => simp [GlobSet.isMatch, GlobSet.matchIndices, hmatch]

/-- What the wildcards of a glob may stand for has no part in whether it can be read, nor in what is
reported if not.  Kept within a component they match no more than without the restriction, and the same
among paths without separators. -/
theorem isMatch_narrows (t : Text) :
    (∀ e, GlobSet.compile [(t, .component)] = .error e ↔
      GlobSet.compile [(t, .wholePath)] = .error e) ∧
    ((∃ s, GlobSet.compile [(t, .component)] = .ok s) ↔
      ∃ s, GlobSet.compile [(t, .wholePath)] = .ok s) ∧
    ∀ narrow wide, GlobSet.compile [(t, .component)] = .ok narrow →
      GlobSet.compile [(t, .wholePath)] = .ok wide →
      ∀ path, (narrow.isMatch path = true → wide.isMatch path = true) ∧
        ('/' ∉ path → narrow.isMatch path = wide.isMatch path) := by
  cases hparse : parse t with
  | error fault => simp [compile_single_error hparse]
  | ok g =>
      simp only [compile_single hparse, Except.ok.injEq]
      refine ⟨by simp, by simp, ?_⟩
      rintro _ _ rfl rfl path
      have hnarrows := narrows_language g
      have hwider : g.isMatch .component path = true → g.isMatch .wholePath path = true := by
        simp only [isMatch_iff_mem_language]
        exact hnarrows.wider path
      have hapart : '/' ∉ path → g.isMatch .wholePath path = true → g.isMatch .component path = true := by
        simp only [isMatch_iff_mem_language]
        exact fun hslash hmem => hnarrows.apart path hmem hslash
      rw [isMatch_single, isMatch_single]
      exact ⟨hwider, fun hslash => Bool.eq_iff_iff.2 ⟨hwider, hapart hslash⟩⟩

/-- A star and a negated class, on a path with a separator at each of them and on one without. -/
theorem isMatch_narrows_sample :
    ∃ narrow wide, GlobSet.compile [("a*[!b]".toList, .component)] = .ok narrow ∧
      GlobSet.compile [("a*[!b]".toList, .wholePath)] = .ok wide ∧
      narrow.isMatch "a/c/".toList = false ∧ wide.isMatch "a/c/".toList = true ∧
      wide.isMatch "acc".toList = true ∧ narrow.isMatch "acc".toList = wide.isMatch "acc".toList := by
  have hparse : parse "a*[!b]".toList =
      .ok [.token (.char 'a'), .token .anyRun, .token (.oneOf ⟨true, [('b', 'b')]⟩)] := by
    decide +kernel
  obtain ⟨-, -, hmatch⟩ := isMatch_narrows "a*[!b]".toList
  have hnarrow := compile_single hparse .component
  have hwide := compile_single hparse .wholePath
  obtain ⟨hwider, hapart⟩ := hmatch _ _ hnarrow hwide "acc".toList
  exact ⟨_, _, hnarrow, hwide, by decide, by decide, hwider (by decide), hapart (by decide)⟩

end Single

end Glob

end IgnoreRules
