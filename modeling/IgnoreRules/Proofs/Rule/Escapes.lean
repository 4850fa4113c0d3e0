import IgnoreRules.Glob.Matcher
import IgnoreRules.Proofs.Glob.Places
import IgnoreRules.Proofs.Rule.Unescape

/-!
# Escapes that a glob needs

Dropping escapes looks at one character at a time, while a glob gives a backslash a meaning by the
place it stands in.  Between constructs it takes the next character literally, which most characters
are anyway.  But a comma inside a group separates branches, a separator behind a run of stars may make
the run recursive, and inside brackets a backslash is a member like any other.  Where none of these is
dropped, the glob is read as the same.

* `Rule.EscapesNeedless` : no escape is dropped that means anything at its place;
* `Rule.starToken_unescape` : what unescaping does behind a run of stars;
* `Rule.readFrom_unescape`, `Rule.parse_unescape` : the text without escapes is read as the same glob;
* `Rule.unescape_changes` : the three places where it need not be.
-/

namespace IgnoreRules

namespace Rule

open Glob

variable {t whole after : Text} {d : Draft} {before : Option Char} {c : Char} {n : Nat} {g : Glob}

/-! ## Needless escapes -/

/-- Where an escape is dropped it means nothing: not as members of a bracket expression, not in front
of a comma inside a group, and not in front of a separator behind two or more stars that begin a
component. -/
structure EscapesNeedless (t : Text) : Prop where
  brackets : ∀ {inGroup before w rest cls}, Reached t inGroup before ('[' :: (w ++ rest)) →
    ClosedBracket w cls [] → WellEscaped w
  commas : ∀ {before rest}, ¬ Reached t true before ('\\' :: ',' :: rest)
  separators : ∀ {inGroup before n rest},
    Reached t inGroup before (List.replicate n '*' ++ '\\' :: '/' :: rest) →
      ¬ (2 ≤ n ∧ Bounds before)

/-- Where there are no brackets, no braces and no escaped separators every dropped escape is needless. -/
theorem escapesNeedless_of_notMem (hbracket : '[' ∉ t) (hbrace : '{' ∉ t)
    (hseparator : ¬ ['\\', '/'] <:+: t) : EscapesNeedless t where
  brackets := by
    rintro inGroup before w rest cls ⟨done, rfl, -, -⟩ -
    exact absurd (by simp) hbracket
  commas := fun h => hbrace h.mem_brace
  separators := by
    rintro inGroup before n rest ⟨done, rfl, -, -⟩ -
    exact hseparator ⟨done ++ List.replicate n '*', rest, by simp⟩

/-! ## The first character -/

/-- The first character stays, unless it is a backslash that is dropped. -/
theorem head?_unescape (t : Text) :
    (unescape t).head? = t.head? ∨ t = ['\\'] ∨
      ∃ c rest, t = '\\' :: c :: rest ∧ isSpecial c = false ∧ (unescape t).head? = some c := by
  induction t using escapes_induction with
  | nil => exact Or.inl rfl
  | lone => exact Or.inr (Or.inl rfl)
  | plain c t hc _ => exact Or.inl (by simp [unescape_cons hc])
  | escape c t _ =>
      cases hc : isSpecial c with
      | true => exact Or.inl (by simp [unescape_pair, hc])
      | false => exact Or.inr (Or.inr ⟨c, t, rfl, hc, by simp [unescape_pair, hc]⟩)

theorem head?_unescape_ne_star (h : t.head? ≠ some '*') : (unescape t).head? ≠ some '*' := by
  obtain hsame | rfl | ⟨c, rest, rfl, hc, hhead⟩ := head?_unescape t
  · rwa [hsame]
  · simp [unescape_backslash]
  · rw [hhead]
    intro hstar
    obtain rfl : c = '*' := Option.some.inj hstar
    exact absurd hc (by decide)

/-- A run of stars is what it was, for a backslash behind it bounds no component and a character that
loses its backslash is a separator only where the run is not recursive in any case. -/
theorem starToken_unescape (hdangling : after ≠ ['\\'])
    (hseparator : ∀ rest, after = '\\' :: '/' :: rest → ¬ (2 ≤ n ∧ Bounds before)) :
    starToken n before (unescape after).head? = starToken n before after.head? := by
  obtain hsame | hlone | ⟨c, rest, rfl, -, hhead⟩ := head?_unescape after
  · rw [hsame]
  · exact absurd hlone hdangling
  · have hbackslash : ¬ (2 ≤ n ∧ Bounds before ∧ Bounds (some '\\')) := by simp [Bounds]
    have hbare : ¬ (2 ≤ n ∧ Bounds before ∧ Bounds (some c)) := by
      rintro ⟨htwo, hbefore, hc⟩
      obtain rfl : c = '/' := by simpa [Bounds] using hc
      exact hseparator rest rfl ⟨htwo, hbefore⟩
    rw [hhead, List.head?_cons, starToken_plain hbare, starToken_plain hbackslash]

/-! ## Reading -/

/-- A character that needs no escape is read as if it had one, a comma only outside groups. -/
theorem readFrom_bare (hc : isSpecial c = false) (hcomma : c = ',' → d.openGroup = none) (rest : Text) :
    readFrom d before (c :: rest) = readFrom (d.add (.char c)) (some c) rest := by
  by_cases h : c = ','
  · subst h
    have hadd : d.comma = d.add (.char ',') := by simp [Draft.comma, hcomma rfl]
    rw [readFrom_comma, hadd]
  · exact readFrom_ordinary (by simp_all [isSpecial])

/-- A run of stars is read as it was, and then the rest without its escapes. -/
theorem readFrom_unescape_stars {token : Token} {separator : Bool} (hn : 1 ≤ n)
    (hafter : after.head? ≠ some '*') (hdangling : after ≠ ['\\'])
    (hseparator : ∀ rest, after = '\\' :: '/' :: rest → ¬ (2 ≤ n ∧ Bounds before))
    (hstar : starToken n before after.head? = (token, separator)) :
    readFrom d before (unescape (List.replicate n '*' ++ after)) =
      if separator then readFrom (d.add token) (some '/') (unescape after).tail
      else readFrom (d.add token) (some '*') (unescape after) := by
  have hstars : WellEscaped (List.replicate n '*') := wellEscaped_of_notMem (by simp)
  rw [hstars.unescape_append, readFrom_stars hn (head?_unescape_ne_star hafter),
    starToken_unescape hdangling hseparator, hstar]
  cases separator with
  | true => rfl
  | false => rfl

/-- A text is read without its escapes as it is read with them, from every place that reading comes to;
the cases are those of `readFrom`. -/
theorem readFrom_unescape (h : readFrom d before t = .ok g) (hneedless : EscapesNeedless whole)
    (hreached : Reached whole d.openGroup.isSome before t) :
    readFrom d before (unescape t) = .ok g := by
  fun_induction readFrom d before t with
  | case1 d before => simpa [unescape, readFrom] using h
  | case2 => cases h
  | case3 d before c rest ih =>
      have hpair : ['\\'] ++ [c] ∈ units := Or.inl (Or.inl ⟨c, rfl⟩)
      have hrest : readFrom (d.add (.char c)) (some c) (unescape rest) = .ok g :=
        ih h (by simpa [d.isSome_add] using hreached.unit hpair)
      cases hc : isSpecial c with
      | true => simpa [unescape_pair, hc, readFrom_escape] using hrest
      | false =>
          -- An escaped comma stands outside groups, where it is itself without a backslash too.
          have hcomma : c = ',' → d.openGroup = none := by
            rintro rfl
            cases hopen : d.openGroup with
            | none => rfl
            | some group => exact absurd (by simpa [hopen] using hreached) hneedless.commas
          simpa [unescape_pair, hc, readFrom_bare hc hcomma] using hrest
  | case4 d before rest stars after token hstar _ ih =>
      have hn : 1 ≤ stars := Nat.le_add_right 1 _
      have hafter : after.head? ≠ some '*' := head?_dropWhile_stars rest
      have hrun : '*' :: rest = List.replicate stars '*' ++ after := stars_eq rest
      rw [hrun] at hreached ⊢
      have hdangling : after ≠ ['\\'] := by
        intro hlone
        simp [hlone, readFrom] at h
      have hseparator : ∀ tail, after = '\\' :: '/' :: tail → ¬ (2 ≤ stars ∧ Bounds before) :=
        fun tail htail => hneedless.separators (htail ▸ hreached)
      have hrest := ih h (by simpa [d.isSome_add] using hreached.stars hn)
      simpa [readFrom_unescape_stars hn hafter hdangling hseparator hstar] using hrest
  | case5 d before rest stars after token hstar _ ih =>
      have hn : 1 ≤ stars := Nat.le_add_right 1 _
      have hafter : after.head? ≠ some '*' := head?_dropWhile_stars rest
      have hrun : '*' :: rest = List.replicate stars '*' ++ after := stars_eq rest
      obtain ⟨tail, htail⟩ : ∃ tail, after = '/' :: tail :=
        List.head?_eq_some_iff.1 (head?_of_starToken hstar)
      rw [hrun] at hreached ⊢
      have hrest := ih h (by
        have hslash := hreached.stars hn
        rw [htail] at hslash
        simpa [htail, d.isSome_add] using hslash.other (by decide))
      rw [readFrom_unescape_stars hn hafter (by simp [htail]) (by simp [htail]) hstar]
      simpa [htail, unescape_cons] using hrest
  | case6 d before rest _ _ ih =>
      have hrest := ih h (by simpa [d.isSome_add] using hreached.other (by decide))
      simpa [unescape_cons, readFrom_question] using hrest
  | case7 => cases h
  | case8 d before rest cls after hread _ _ _ ih =>
      obtain ⟨w, rfl, hclosed⟩ := (readClass_eq_ok_iff.1 hread).exists_front
      have hkept : WellEscaped ('[' :: w) := .plain (by decide) (hneedless.brackets hreached hclosed)
      have hbracket : '[' :: w ∈ units := Or.inl (Or.inr ⟨w, cls, rfl, hclosed⟩)
      have hnext : Reached whole d.openGroup.isSome (some ']') after := by
        obtain ⟨u, rfl⟩ := hclosed.exists_eq
        exact Reached.unit (u := '[' :: u) (by simpa using hreached) hbracket
      have hrest := ih h (by simpa [d.isSome_add] using hnext)
      rw [← List.cons_append, hkept.unescape_append, List.cons_append,
        readFrom_closed (hclosed.append _)]
      exact hrest
  | case9 => cases h
  | case10 d before rest d' hbegin _ _ _ _ ih =>
      obtain ⟨hclosed, hopen⟩ := Draft.beginGroup_ok hbegin
      rw [hclosed] at hreached
      have hrest := ih h (by simpa [hopen] using hreached.beginGroup)
      simpa [unescape_cons, readFrom_open hbegin] using hrest
  | case11 => cases h
  | case12 d before rest d' hend _ _ _ _ _ ih =>
      obtain ⟨hopen, hclosed⟩ := Draft.endGroup_ok hend
      rw [hopen] at hreached
      have hrest := ih h (by simpa [hclosed] using hreached.endGroup)
      simpa [unescape_cons, readFrom_close hend] using hrest
  | case13 d before rest _ _ _ _ _ _ ih =>
      have hrest := ih h (by simpa [d.isSome_comma] using hreached.other (by decide))
      simpa [unescape_cons, readFrom_comma] using hrest
  | case14 d before c rest hslash hstar hquestion hbracket hopen hclose hcomma ih =>
      have hother : c ∉ ['\\', '[', '{', '}'] := by simp [hslash, hbracket, hopen, hclose]
      have hordinary : c ∉ ['\\', '*', '?', '[', '{', '}', ','] := by
        simp [hslash, hstar, hquestion, hbracket, hopen, hclose, hcomma]
      have hrest := ih h (by simpa [d.isSome_add] using hreached.other hother)
      rw [unescape_cons hslash, readFrom_ordinary hordinary]
      exact hrest

/-- Where every escape that is dropped is needless, unescaping a glob gives the same glob. -/
theorem parse_unescape (h : Glob.parse t = .ok g) (hneedless : EscapesNeedless t) :
    Glob.parse (unescape t) = .ok g :=
  readFrom_unescape h hneedless (reached_start t)

/-- Two escapes between constructs are dropped, and one of a star is kept. -/
theorem parse_unescape_between :
    ∃ g, Glob.parse "**/\\#a\\ \\*?".toList = .ok g ∧ unescape "**/\\#a\\ \\*?".toList = "**/#a \\*?".toList ∧
      Glob.parse "**/#a \\*?".toList = .ok g := by
  have h : Glob.parse "**/\\#a\\ \\*?".toList = .ok [.token .anyDirs, .token (.char '#'),
      .token (.char 'a'), .token (.char ' '), .token (.char '*'), .token .anyChar] := by
    decide +kernel
  have hneedless : EscapesNeedless "**/\\#a\\ \\*?".toList :=
    escapesNeedless_of_notMem (by decide) (by decide) (by decide)
  have hplain : unescape "**/\\#a\\ \\*?".toList = "**/#a \\*?".toList := by decide
  exact ⟨_, h, hplain, hplain ▸ parse_unescape h hneedless⟩

/-- An escaped comma in a group, a backslash in brackets and an escaped separator behind two stars: the
first glob no longer matches its path, the second is no glob any more, and the third matches another
path as well. -/
theorem unescape_changes :
    (∃ g g', Glob.parse "\x7ba\\,b\x7d".toList = .ok g ∧
      Glob.parse (unescape "\x7ba\\,b\x7d".toList) = .ok g' ∧
      g.isMatch .wholePath "a,b".toList = true ∧ g'.isMatch .wholePath "a,b".toList = false) ∧
    (∃ g, Glob.parse "[z\\-a]".toList = .ok g ∧
      Glob.parse (unescape "[z\\-a]".toList) = .error (.invalidRange 'z' 'a')) ∧
    ∃ g g', Glob.parse "**\\/a".toList = .ok g ∧ Glob.parse (unescape "**\\/a".toList) = .ok g' ∧
      g.isMatch .component "a".toList = false ∧ g'.isMatch .component "a".toList = true := by
  have hgroup : Glob.parse "\x7ba\\,b\x7d".toList =
      .ok [.group [[.char 'a', .char ',', .char 'b']]] := by
    decide +kernel
  have hbranches : Glob.parse (unescape "\x7ba\\,b\x7d".toList) =
      .ok [.group [[.char 'a'], [.char 'b']]] := by
    decide +kernel
  have hclass : Glob.parse "[z\\-a]".toList =
      .ok [.token (.oneOf ⟨false, [('z', 'z'), ('\\', 'a')]⟩)] := by
    decide +kernel
  have hrange : Glob.parse (unescape "[z\\-a]".toList) = .error (.invalidRange 'z' 'a') := by
    decide +kernel
  have hrun : Glob.parse "**\\/a".toList =
      .ok [.token .anyRun, .token (.char '/'), .token (.char 'a')] := by
    decide +kernel
  have hrecursive : Glob.parse (unescape "**\\/a".toList) =
      .ok [.token .anyDirs, .token (.char 'a')] := by
    decide +kernel
  exact ⟨⟨_, _, hgroup, hbranches, by decide, by decide⟩, ⟨_, hclass, hrange⟩,
    _, _, hrun, hrecursive, by decide, by decide⟩

end Rule

end IgnoreRules
