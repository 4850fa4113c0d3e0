import IgnoreRules.Proofs.Glob.Reading

/-!
# Globs one behind the other

A glob is read from left to right, and of what is behind it reading knows two things: the draft so far
and the last character.  The finished pieces of the draft have no part in what is read next, and the
last character matters only where a run of stars comes next.  So the text of two globs in sequence is
read as the pieces of the one and then those of the other, unless stars of both meet or a run of stars
at the seam would be taken for a component.

* `Glob.Draft.behind` : a draft with the pieces of a glob in front;
* `Glob.readFrom_behind`, `Glob.readFrom_before` : what reading does not depend on;
* `Glob.readFrom_append` : reading on behind a glob;
* `Glob.parse_append` : two globs in sequence;
* `Glob.language_append` : what they denote together.
-/

namespace IgnoreRules

namespace Glob

variable {d : Draft} {before before' : Option Char} {front g g' : Glob} {p t : Text}

/-! ## Pieces in front -/

/-- A draft with the pieces of a glob in front of its own. -/
def Draft.behind (d : Draft) (front : Glob) : Draft :=
  { d with pieces := d.pieces ++ front.reverse }

section Behind

theorem Draft.behind_add (d : Draft) (front : Glob) (token : Token) :
    (d.behind front).add token = (d.add token).behind front := by
  cases hopen : d.openGroup with
  | none => simp [Draft.add, Draft.behind, hopen]
  | some group => simp [Draft.add, Draft.behind, hopen]

theorem Draft.behind_comma (d : Draft) (front : Glob) :
    (d.behind front).comma = d.comma.behind front := by
  cases hopen : d.openGroup with
  | none => simp [Draft.comma, Draft.add, Draft.behind, hopen]
  | some group => simp [Draft.comma, Draft.behind, hopen]

theorem Draft.behind_beginGroup (d : Draft) (front : Glob) :
    (d.behind front).beginGroup = d.beginGroup.map (·.behind front) := by
  cases hopen : d.openGroup with
  | none => simp [Draft.beginGroup, Draft.behind, Except.map, hopen]
  | some group => simp [Draft.beginGroup, Draft.behind, Except.map, hopen]

theorem Draft.behind_endGroup (d : Draft) (front : Glob) :
    (d.behind front).endGroup = d.endGroup.map (·.behind front) := by
  cases hopen : d.openGroup with
  | none => simp [Draft.endGroup, Draft.behind, Except.map, hopen]
  | some group => simp [Draft.endGroup, Draft.behind, Except.map, hopen]

theorem Draft.behind_finish (d : Draft) (front : Glob) :
    (d.behind front).finish = d.finish.map (front ++ ·) := by
  cases hopen : d.openGroup with
  | none => simp [Draft.finish, Draft.behind, Except.map, hopen]
  | some group => simp [Draft.finish, Draft.behind, Except.map, hopen]

/-- The pieces in front have no part in what is read; they stay in front of it. -/
theorem readFrom_behind (d : Draft) (before : Option Char) (t : Text) (front : Glob) :
    readFrom (d.behind front) before t = (readFrom d before t).map (front ++ ·) := by
  -- Each case reads the same construct on both sides and moves the pieces behind its token.
  fun_induction readFrom d before t with
  | case1 d before => simpa [readFrom] using d.behind_finish front
  | case2 d before => simp [readFrom, Except.map]
  | case3 d before c rest ih => rw [readFrom_escape, d.behind_add, ih]
  | case4 d before rest stars after token hstar _ ih =>
      rw [stars_eq rest, readFrom_stars (Nat.le_add_right 1 _) (head?_dropWhile_stars rest), hstar,
        ← ih, ← d.behind_add]
  | case5 d before rest stars after token hstar _ ih =>
      rw [stars_eq rest, readFrom_stars (Nat.le_add_right 1 _) (head?_dropWhile_stars rest), hstar,
        ← ih, ← d.behind_add]
  | case6 d before rest _ _ ih => rw [readFrom_question, d.behind_add, ih]
  | case7 d before rest fault hread => rw [readFrom_bracket_error hread, Except.map]
  | case8 d before rest cls after hread _ _ _ ih =>
      rw [readFrom_closed (readClass_eq_ok_iff.1 hread), d.behind_add, ih]
  | case9 d before rest fault hbegin =>
      have hbegin' : (d.behind front).beginGroup = .error fault := by
        rw [d.behind_beginGroup, hbegin, Except.map]
      rw [readFrom_open_error hbegin', Except.map]
  | case10 d before rest d' hbegin _ _ _ _ ih =>
      have hbegin' : (d.behind front).beginGroup = .ok (d'.behind front) := by
        rw [d.behind_beginGroup, hbegin, Except.map]
      rw [readFrom_open hbegin', ih]
  | case11 d before rest fault hend =>
      have hend' : (d.behind front).endGroup = .error fault := by
        rw [d.behind_endGroup, hend, Except.map]
      rw [readFrom_close_error hend', Except.map]
  | case12 d before rest d' hend _ _ _ _ _ ih =>
      have hend' : (d.behind front).endGroup = .ok (d'.behind front) := by
        rw [d.behind_endGroup, hend, Except.map]
      rw [readFrom_close hend', ih]
  | case13 d before rest _ _ _ _ _ _ ih => rw [readFrom_comma, d.behind_comma, ih]
  | case14 d before c rest hslash hstar hquestion hbracket hopen hclose hcomma ih =>
      have hordinary : c ∉ ['\\', '*', '?', '[', '{', '}', ','] := by
        simp [hslash, hstar, hquestion, hbracket, hopen, hclose, hcomma]
      rw [readFrom_ordinary hordinary, d.behind_add, ih]

end Behind

/-! ## The character in front -/

/-- The character in front of a text matters only where the text begins with stars, and then only
whether it bounds a component. -/
theorem readFrom_before (d : Draft) (h : (Bounds before ↔ Bounds before') ∨ t.head? ≠ some '*') :
    readFrom d before t = readFrom d before' t := by
  cases t with
  | nil => rw [readFrom, readFrom]
  | cons c rest =>
      by_cases hc : c = '*'
      · have hbounds : boundsComponent before = boundsComponent before' := by
          rcases h with hsame | hhead
          · rw [Bool.eq_iff_iff, boundsComponent_iff, boundsComponent_iff, hsame]
          · simp [hc] at hhead
        have hstar : ∀ stars after, starToken stars before after = starToken stars before' after := by
          intro stars after
          simp [starToken, hbounds]
        rw [hc, stars_eq rest, readFrom_stars (Nat.le_add_right 1 _) (head?_dropWhile_stars rest),
          readFrom_stars (Nat.le_add_right 1 _) (head?_dropWhile_stars rest), hstar]
      · rw [readFrom.eq_def, readFrom.eq_def d before']
        simp only [hc, if_false]

/-! ## Reading on -/

/-- Once a glob is read to its end, no group is open. -/
theorem Draft.eq_of_finish (h : d.finish = .ok g) : d = Draft.behind {} g := by
  rcases d with ⟨pieces, openGroup⟩
  cases openGroup with
  | none =>
      obtain rfl : pieces.reverse = g := Except.ok.inj h
      simp [Draft.behind]
  | some group => cases h

/-- What `readFrom_append` says of a text that is read from this place on. -/
def ReadsOn (d : Draft) (before : Option Char) (p t : Text) (g : Glob) : Prop :=
  readFrom d before (p ++ t) = (readFrom {} (p.getLast?.or before) t).map (g ++ ·)

/-- One construct in front of a text, given by its last character and those before. -/
theorem ReadsOn.cons {d' : Draft} {w rest : Text} {c : Char}
    (hread : readFrom d before (w ++ c :: (rest ++ t)) = readFrom d' (some c) (rest ++ t))
    (hrest : ReadsOn d' (some c) rest t g) : ReadsOn d before (w ++ c :: rest) t g := by
  have hlast : (w ++ c :: rest).getLast?.or before = rest.getLast?.or (some c) := by
    cases hend : rest.getLast? with
    | none => simp [List.getLast?_cons, hend]
    | some last => simp [List.getLast?_cons, hend]
  calc
    readFrom d before ((w ++ c :: rest) ++ t)
        = readFrom d before (w ++ c :: (rest ++ t)) := by simp
    _ = readFrom d' (some c) (rest ++ t) := hread
    _ = (readFrom {} (rest.getLast?.or (some c)) t).map (g ++ ·) := hrest
    _ = (readFrom {} ((w ++ c :: rest).getLast?.or before) t).map (g ++ ·) := by rw [hlast]

theorem getLast?_rest {w rest : Text} {c x : Char} (h : (w ++ c :: rest).getLast? ≠ some x) :
    rest.getLast? ≠ some x := by
  intro hrest
  simp [List.getLast?_cons, hrest] at h

/-- Behind a glob that does not end in a star, reading goes on as at the start of a text, with the
pieces of the glob in front. -/
theorem readFrom_append (h : readFrom d before p = .ok g) (hlast : p.getLast? ≠ some '*') (t : Text) :
    readFrom d before (p ++ t) = (readFrom {} (p.getLast?.or before) t).map (g ++ ·) := by
  change ReadsOn d before p t g
  fun_induction readFrom d before p with
  | case1 d before =>
      rw [d.eq_of_finish h, ReadsOn, List.nil_append]
      exact readFrom_behind {} before t g
  | case2 => cases h
  | case3 d before c rest ih =>
      have hrest := ih h (getLast?_rest (w := ['\\']) hlast)
      exact ReadsOn.cons (w := ['\\']) readFrom_escape hrest
  | case4 d before rest stars after token hstar _ ih =>
      have hrun : '*' :: rest = List.replicate stars '*' ++ after := stars_eq rest
      have hstop : after.head? ≠ some '*' := head?_dropWhile_stars rest
      obtain ⟨m, hm⟩ : ∃ m, stars = m + 1 := ⟨_, Nat.add_comm 1 _⟩
      -- The run is not the end of the glob, so what follows the glob is no neighbour of it.
      have hhead : (after ++ t).head? = after.head? := by
        cases hafter : after with
        | nil => simp [hrun, hafter, hm, List.replicate_succ'] at hlast
        | cons c tail => rfl
      rw [hrun, hm, List.replicate_succ', List.append_assoc, List.singleton_append] at hlast ⊢
      refine .cons ?_ (ih h (getLast?_rest hlast))
      calc
        readFrom d before (List.replicate m '*' ++ '*' :: (after ++ t))
            = readFrom d before (List.replicate stars '*' ++ (after ++ t)) := by
              simp [hm, List.replicate_succ']
        _ = readFrom (d.add token) (some '*') (after ++ t) := by
              rw [readFrom_stars (by omega) (by rwa [hhead]), hhead, hstar]
  | case5 d before rest stars after token hstar _ ih =>
      have hrun : '*' :: rest = List.replicate stars '*' ++ after := stars_eq rest
      have hn : 1 ≤ stars := Nat.le_add_right 1 _
      obtain ⟨tail, htail⟩ : ∃ tail, after = '/' :: tail :=
        List.head?_eq_some_iff.1 (head?_of_starToken hstar)
      rw [htail] at ih h
      rw [htail, List.head?_cons] at hstar
      rw [hrun, htail] at hlast ⊢
      refine .cons ?_ (ih h (getLast?_rest hlast))
      rw [readFrom_stars hn (by simp), List.head?_cons, hstar, List.tail_cons]
  | case6 d before rest _ _ ih =>
      have hrest := ih h (getLast?_rest (w := []) hlast)
      exact ReadsOn.cons (w := []) readFrom_question hrest
  | case7 => cases h
  | case8 d before rest cls after hread _ _ _ ih =>
      obtain ⟨w, rfl, hclosed⟩ := (readClass_eq_ok_iff.1 hread).exists_front
      obtain ⟨u, rfl⟩ := hclosed.exists_eq
      have hbracket : ReadsOn d before ('[' :: u ++ ']' :: after) t g := by
        refine .cons ?_ (ih h (getLast?_rest (w := '[' :: u) (by simpa using hlast)))
        simpa using readFrom_closed (hclosed.append (after ++ t)) d before
      simpa using hbracket
  | case9 => cases h
  | case10 d before rest d' hbegin _ _ _ _ ih =>
      have hrest := ih h (getLast?_rest (w := []) hlast)
      exact ReadsOn.cons (w := []) (readFrom_open hbegin) hrest
  | case11 => cases h
  | case12 d before rest d' hend _ _ _ _ _ ih =>
      have hrest := ih h (getLast?_rest (w := []) hlast)
      exact ReadsOn.cons (w := []) (readFrom_close hend) hrest
  | case13 d before rest _ _ _ _ _ _ ih =>
      have hrest := ih h (getLast?_rest (w := []) hlast)
      exact ReadsOn.cons (w := []) readFrom_comma hrest
  | case14 d before c rest hslash hstar hquestion hbracket hopen hclose hcomma ih =>
      have hordinary : c ∉ ['\\', '*', '?', '[', '{', '}', ','] := by
        simp [hslash, hstar, hquestion, hbracket, hopen, hclose, hcomma]
      have hrest := ih h (getLast?_rest (w := []) hlast)
      exact ReadsOn.cons (w := []) (readFrom_ordinary hordinary) hrest

/-- The text of two globs in sequence is read as the one and then the other.  Either the first ends in
a separator, which bounds a component like the start of a text, or the second does not begin with a
star. -/
theorem parse_append (hp : parse p = .ok g) (hlast : p.getLast? ≠ some '*')
    (hseam : Bounds p.getLast? ∨ t.head? ≠ some '*') :
    parse (p ++ t) = (parse t).map (g ++ ·) := by
  have hstart : (Bounds p.getLast? ↔ Bounds none) ∨ t.head? ≠ some '*' :=
    hseam.imp_left fun hbounds => iff_of_true hbounds (Or.inl rfl)
  calc
    parse (p ++ t) = (readFrom {} (p.getLast?.or none) t).map (g ++ ·) := readFrom_append hp hlast t
    _ = (readFrom {} none t).map (g ++ ·) := by rw [Option.or_none, readFrom_before {} hstart]

theorem parse_append_of_ok (hp : parse p = .ok g) (ht : parse t = .ok g')
    (hlast : p.getLast? ≠ some '*') (hseam : Bounds p.getLast? ∨ t.head? ≠ some '*') :
    parse (p ++ t) = .ok (g ++ g') := by
  rw [parse_append hp hlast hseam, ht, Except.map]

/-- Two globs in sequence denote the paths of the one with those of the other behind. -/
theorem language_append (scope : WildcardScope) (g g' : Glob) :
    language scope (g ++ g') = language scope g * language scope g' := by
  simp [language]

end Glob

end IgnoreRules
