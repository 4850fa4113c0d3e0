import IgnoreRules.Proofs.Glob.Language
import IgnoreRules.Proofs.Glob.Step

/-!
# What the text of a glob denotes

The constructs a text consists of, said by rules about the text and the characters next to each
construct, and the paths that each construct denotes.  Whether a run of stars is recursive depends on
nothing but the characters on its two sides, so the rules carry the character in front of the text.

* `Glob.Construct`, `Glob.Construct.language` : the constructs and what they denote;
* `Glob.Opens`, `Glob.Reads` : the constructs at the beginning of a text, and those of a whole text;
* `Glob.denoted` : the paths that the constructs of a text denote;
* `Glob.parse_of_reads`, `Glob.exists_reads` : reading a glob finds its constructs;
* `Glob.isMatch_iff_mem_denoted` : a glob matches exactly the paths its text denotes.
-/

namespace IgnoreRules

namespace Glob

/-! ## Constructs and what they denote -/

/-- A stretch of the text of a glob that stands for a stretch of the path. -/
inductive Construct
  /-- An ordinary character, or any character behind a backslash. -/
  | literal (c : Char)
  /-- A question mark. -/
  | question
  /-- A run of stars that is no recursive component. -/
  | stars
  /-- A bracket expression. -/
  | bracket (negated : Bool) (members : List (Char × Char))
  /-- A recursive run that is the whole glob. -/
  | recursiveAlone
  /-- A recursive run at the start of the glob, with the separator behind it. -/
  | recursiveStart
  /-- A recursive run at the end of the glob, behind a separator. -/
  | recursiveEnd
  /-- A recursive run between two separators, with the second of them. -/
  | recursiveInner

/-- A construct, or a group of branches. -/
inductive Item
  | one (x : Construct)
  | group (branches : List (List Construct))

/-- Whether a character is one of the members of a bracket expression. -/
def Listed (members : List (Char × Char)) (c : Char) : Prop :=
  ∃ r ∈ members, r.1 ≤ c ∧ c ≤ r.2

/-- The texts a construct denotes. -/
def Construct.language (scope : WildcardScope) : Construct → Language Char
  | literal c => {w | w = [c]}
  | question => {w | ∃ c, w = [c] ∧ (scope = .component → c ≠ '/')}
  | stars => {w | scope = .component → '/' ∉ w}
  | bracket false members => {w | ∃ c, w = [c] ∧ Listed members c}
  | bracket true members =>
      {w | ∃ c, w = [c] ∧ ¬ Listed members c ∧ (scope = .component → c ≠ '/')}
  | recursiveAlone => {_w | True}
  | recursiveStart => {w | w = [] ∨ w = ['/'] ∨ ∃ u, w = u ++ ['/']}
  | recursiveEnd => {_w | True}
  | recursiveInner => {w | w = [] ∨ ∃ u, w = u ++ ['/']}

/-- The texts that constructs in sequence denote: texts of each put together. -/
def branchLanguage (scope : WildcardScope) (xs : List Construct) : Language Char :=
  (xs.map (Construct.language scope)).prod

/-- The texts an item denotes; a group denotes what its branches denote in its place. -/
def Item.language (scope : WildcardScope) : Item → Language Char
  | one x => x.language scope
  | group branches => (branches.map (branchLanguage scope)).sum

/-- The paths that the items of a glob denote. -/
def denoted (scope : WildcardScope) (items : List Item) : Language Char :=
  (items.map (Item.language scope)).prod

/-! ## The constructs of a text -/

/-- `Opens before t x before' rest` : behind the character `before`, the text `t` begins with the
construct `x`, and `rest` follows it behind the character `before'`. -/
inductive Opens : Option Char → Text → Construct → Option Char → Text → Prop
  | ordinary {before : Option Char} {c : Char} {rest : Text} :
      c ∉ ['\\', '*', '?', '[', '{', '}', ','] →
      Opens before (c :: rest) (.literal c) (some c) rest
  | escaped {before : Option Char} {c : Char} {rest : Text} :
      Opens before ('\\' :: c :: rest) (.literal c) (some c) rest
  | question {before : Option Char} {rest : Text} :
      Opens before ('?' :: rest) .question (some '?') rest
  | bracket {before : Option Char} {t rest : Text} {cls : CharClass} :
      ClosedBracket t cls rest →
      Opens before ('[' :: t) (.bracket cls.negated cls.ranges) (some ']') rest
  | stars {before : Option Char} {n : Nat} {rest : Text} :
      1 ≤ n → rest.head? ≠ some '*' → ¬ (2 ≤ n ∧ Bounds before ∧ Bounds rest.head?) →
      Opens before (List.replicate n '*' ++ rest) .stars (some '*') rest
  | recursiveAlone {n : Nat} :
      2 ≤ n → Opens none (List.replicate n '*') .recursiveAlone (some '*') []
  | recursiveStart {n : Nat} {rest : Text} :
      2 ≤ n → Opens none (List.replicate n '*' ++ '/' :: rest) .recursiveStart (some '/') rest
  | recursiveEnd {n : Nat} :
      2 ≤ n → Opens (some '/') (List.replicate n '*') .recursiveEnd (some '*') []
  | recursiveInner {n : Nat} {rest : Text} :
      2 ≤ n → Opens (some '/') (List.replicate n '*' ++ '/' :: rest) .recursiveInner (some '/') rest

/-- The text begins with these constructs one after the other. -/
inductive OpensAll : Option Char → Text → List Construct → Option Char → Text → Prop
  | nil (before : Option Char) (t : Text) : OpensAll before t [] before t
  | cons {before before' before'' : Option Char} {t t' rest : Text} {x : Construct}
      {xs : List Construct} :
      Opens before t x before' t' → OpensAll before' t' xs before'' rest →
      OpensAll before t (x :: xs) before'' rest

/-- From behind an opening brace, the branches between commas and what follows the closing brace. -/
inductive Branches : Option Char → Text → List (List Construct) → Text → Prop
  | last {before before' : Option Char} {t rest : Text} {xs : List Construct} :
      OpensAll before t xs before' ('}' :: rest) → Branches before t [xs] rest
  | more {before before' : Option Char} {t t' rest : Text} {xs : List Construct}
      {branches : List (List Construct)} :
      OpensAll before t xs before' (',' :: t') → Branches (some ',') t' branches rest →
      Branches before t (xs :: branches) rest

/-- The text consists of these items.  A comma outside groups is an ordinary character. -/
inductive Reads : Option Char → Text → List Item → Prop
  | nil (before : Option Char) : Reads before [] []
  | one {before before' : Option Char} {t t' : Text} {x : Construct} {items : List Item} :
      Opens before t x before' t' → Reads before' t' items → Reads before t (.one x :: items)
  | comma {before : Option Char} {t : Text} {items : List Item} :
      Reads (some ',') t items → Reads before (',' :: t) (.one (.literal ',') :: items)
  | group {before : Option Char} {t rest : Text} {branches : List (List Construct)}
      {items : List Item} :
      Branches (some '{') t branches rest → Reads (some '}') rest items →
      Reads before ('{' :: t) (.group branches :: items)

/-! ## Tokens of constructs -/

/-- The token that a construct is read as. -/
def Construct.token : Construct → Token
  | literal c => .char c
  | question => .anyChar
  | stars => .anyRun
  | bracket negated members => .oneOf ⟨negated, members⟩
  | recursiveAlone => .anyTail
  | recursiveStart => .anyDirs
  | recursiveEnd => .anyTail
  | recursiveInner => .anyDirs

/-- The piece that an item is read as. -/
def Item.piece : Item → Piece
  | one x => .token x.token
  | group branches => .group (branches.map (List.map Construct.token))

section Languages

variable {scope : WildcardScope}

theorem admits_iff {c : Char} : scope.admits c = true ↔ (scope = .component → c ≠ '/') := by
  cases scope with
  | wholePath => simp [WildcardScope.admits]
  | component => simp [WildcardScope.admits]

theorem lists_iff {cls : CharClass} {c : Char} : cls.lists c = true ↔ Listed cls.ranges c := by
  simp [CharClass.lists, Listed]

/-- A construct denotes what its token stands for; the two kinds of recursive runs with a separator
behind them differ only in how they are written. -/
theorem Construct.language_token (x : Construct) : x.token.language scope = x.language scope := by
  ext w
  cases x with
  | literal c => rfl
  | question =>
      constructor
      · rintro ⟨c, hc, rfl⟩
        exact ⟨c, rfl, admits_iff.1 hc⟩
      · rintro ⟨c, rfl, hc⟩
        exact ⟨c, admits_iff.2 hc, rfl⟩
  | stars =>
      constructor
      · intro hw hscope hslash
        exact admits_iff.1 (hw '/' hslash) hscope rfl
      · intro hw c hc
        exact admits_iff.2 fun hscope heq => hw hscope (heq ▸ hc)
  | bracket negated members =>
      cases negated with
      | false =>
          constructor
          · rintro ⟨c, hc, rfl⟩
            exact ⟨c, rfl, lists_iff.1 hc⟩
          · rintro ⟨c, rfl, hc⟩
            exact ⟨c, lists_iff.2 hc, rfl⟩
      | true =>
          have hadmits : ∀ c, CharClass.admits ⟨true, members⟩ scope c = true ↔
              ¬ Listed members c ∧ (scope = .component → c ≠ '/') := by
            intro c
            rw [CharClass.admits, if_pos rfl, Bool.and_eq_true, admits_iff, Bool.not_eq_true',
              ← Bool.not_eq_true, lists_iff]
          constructor
          · rintro ⟨c, hc, rfl⟩
            exact ⟨c, rfl, (hadmits c).1 hc⟩
          · rintro ⟨c, rfl, hc⟩
            exact ⟨c, (hadmits c).2 hc, rfl⟩
  | recursiveAlone => exact ⟨fun _ => trivial, fun _ => trivial⟩
  | recursiveStart =>
      -- A single separator is among the texts that end in one.
      constructor
      · rintro (hnil | hdirs)
        · exact Or.inl hnil
        · exact Or.inr (Or.inr hdirs)
      · rintro (hnil | rfl | hdirs)
        · exact Or.inl hnil
        · exact Or.inr ⟨[], rfl⟩
        · exact Or.inr hdirs
  | recursiveEnd => exact ⟨fun _ => trivial, fun _ => trivial⟩
  | recursiveInner => rfl

theorem tokensLanguage_map (xs : List Construct) :
    tokensLanguage scope (xs.map Construct.token) = branchLanguage scope xs := by
  rw [tokensLanguage, branchLanguage, List.map_map]
  exact congrArg List.prod (List.map_congr_left fun x _ => x.language_token)

theorem Item.language_piece (item : Item) : item.piece.language scope = item.language scope := by
  cases item with
  | one x => exact x.language_token
  | group branches =>
      rw [Item.piece, Piece.language, Item.language, List.map_map]
      exact congrArg List.sum (List.map_congr_left fun xs _ => tokensLanguage_map xs)

theorem language_map_piece (items : List Item) :
    language scope (items.map Item.piece) = denoted scope items := by
  rw [language, denoted, List.map_map]
  exact congrArg List.prod (List.map_congr_left fun item _ => item.language_piece)

/-- The pieces of some items match exactly the paths that the items denote. -/
theorem isMatch_map_piece (items : List Item) (path : Text) :
    isMatch scope (items.map Item.piece) path = true ↔ path ∈ denoted scope items := by
  rw [isMatch_iff_mem_language, language_map_piece]

end Languages

/-! ## Reading finds the constructs -/

section Reading

variable {d : Draft} {before before' before'' : Option Char} {t t' rest : Text}
variable {x : Construct} {xs : List Construct} {items : List Item}

/-- Reading passes over the construct at the beginning of the text and adds its token. -/
theorem readFrom_of_opens (h : Opens before t x before' rest) (d : Draft) :
    readFrom d before t = readFrom (d.add x.token) before' rest := by
  cases h with
  | ordinary hc => exact readFrom_ordinary hc
  | escaped => exact readFrom_escape
  | question => exact readFrom_question
  | bracket hclosed => exact readFrom_closed hclosed d before
  | stars hn hrest hplain => exact readFrom_plainRun hn hrest hplain
  | recursiveAlone hn => exact readFrom_lastRun hn (Or.inl rfl)
  | recursiveStart hn => exact readFrom_innerRun hn (Or.inl rfl)
  | recursiveEnd hn => exact readFrom_lastRun hn (Or.inr rfl)
  | recursiveInner hn => exact readFrom_innerRun hn (Or.inr rfl)

variable {pieces : List Piece} {finished : List (List Token)} {current : List Token}
variable {branches : List (List Construct)}

theorem readFrom_of_opensAll (h : OpensAll before t xs before' rest) :
    readFrom ⟨pieces, some ⟨finished, current⟩⟩ before t =
      readFrom ⟨pieces, some ⟨finished, (xs.map Construct.token).reverse ++ current⟩⟩
        before' rest := by
  induction h generalizing current with
  | nil => rfl
  | cons hx _ ih =>
      rw [readFrom_of_opens hx]
      refine ih.trans ?_
      rw [List.map_cons, List.reverse_cons, List.append_assoc, List.singleton_append]

/-- From behind an opening brace, reading comes out behind the closing one with the whole group. -/
theorem readFrom_of_branches (h : Branches before t branches rest) :
    readFrom ⟨pieces, some ⟨finished, []⟩⟩ before t =
      readFrom ⟨.group (finished.reverse ++ branches.map (List.map Construct.token)) :: pieces, none⟩
        (some '}') rest := by
  induction h generalizing finished with
  | last hxs =>
      rw [readFrom_of_opensAll hxs, readFrom_close rfl]
      simp [OpenGroup.branches]
  | more hxs _ ih =>
      rw [readFrom_of_opensAll hxs, readFrom_comma, Draft.comma, ih]
      simp

theorem readFrom_of_reads (h : Reads before t items) :
    readFrom ⟨pieces, none⟩ before t = .ok (pieces.reverse ++ items.map Item.piece) := by
  -- Outside groups the draft holds the finished pieces, latest first.
  induction h generalizing pieces with
  | nil =>
      rw [readFrom, List.map_nil, List.append_nil]
      rfl
  | one hx _ ih =>
      rw [readFrom_of_opens hx]
      refine ih.trans ?_
      simp [Item.piece]
  | comma _ ih =>
      rw [readFrom_comma]
      refine ih.trans ?_
      simp [Item.piece, Construct.token]
  | group hbranches _ ih =>
      rw [readFrom_open rfl, readFrom_of_branches hbranches, ih]
      simp [Item.piece]

/-- Reading a text gives the pieces of its items. -/
theorem parse_of_reads (h : Reads none t items) : parse t = .ok (items.map Item.piece) :=
  readFrom_of_reads h

/-! ## Every glob that is read has constructs -/

/-- What is left of a text that is read to its end, inside a group or outside. -/
def Readable (before : Option Char) (t : Text) : (inGroup : Bool) → Prop
  | false => ∃ items, Reads before t items
  | true => ∃ branches rest items, Branches before t branches rest ∧ Reads (some '}') rest items

theorem Branches.cons (hx : Opens before t x before' t') (h : Branches before' t' branches rest) :
    ∃ branches', Branches before t branches' rest := by
  cases h with
  | last hxs => exact ⟨_, .last (.cons hx hxs)⟩
  | more hxs hmore => exact ⟨_, .more (.cons hx hxs) hmore⟩

/-- A construct in front of a readable text. -/
theorem Readable.cons {inGroup : Bool} (hx : Opens before t x before' t')
    (h : Readable before' t' inGroup) : Readable before t inGroup := by
  cases inGroup with
  | false =>
      rcases h with ⟨items, hitems⟩
      exact ⟨_, .one hx hitems⟩
  | true =>
      rcases h with ⟨branches, rest, items, hbranches, hitems⟩
      rcases hbranches.cons hx with ⟨branches', hbranches'⟩
      exact ⟨branches', rest, items, hbranches', hitems⟩

theorem Readable.comma {inGroup : Bool} (h : Readable (some ',') t inGroup) :
    Readable before (',' :: t) inGroup := by
  cases inGroup with
  | false =>
      rcases h with ⟨items, hitems⟩
      exact ⟨_, .comma hitems⟩
  | true =>
      rcases h with ⟨branches, rest, items, hbranches, hitems⟩
      exact ⟨_, rest, items, .more (.nil _ _) hbranches, hitems⟩

theorem Readable.openBrace (h : Readable (some '{') t true) : Readable before ('{' :: t) false := by
  rcases h with ⟨branches, rest, items, hbranches, hitems⟩
  exact ⟨_, .group hbranches hitems⟩

theorem Readable.closeBrace (h : Readable (some '}') t false) : Readable before ('}' :: t) true := by
  rcases h with ⟨items, hitems⟩
  exact ⟨_, t, items, .last (.nil _ _), hitems⟩

/-- A run of stars is one of the five constructs that stars can be. -/
theorem opens_of_starToken {n : Nat} {after : Text} {token : Token} {separator : Bool}
    (hn : 1 ≤ n) (hafter : after.head? ≠ some '*')
    (h : starToken n before after.head? = (token, separator)) :
    ∃ x, if separator then Opens before (List.replicate n '*' ++ after) x (some '/') after.tail
      else Opens before (List.replicate n '*' ++ after) x (some '*') after := by
  by_cases htest : 2 ≤ n ∧ Bounds before ∧ Bounds after.head?
  · rcases htest with ⟨htwo, hbefore, hbounds⟩
    unfold starToken at h
    rw [if_pos (starTest_iff.2 ⟨htwo, hbefore, hbounds⟩)] at h
    -- A recursive run stands at the end of the glob or in front of a separator, which it takes in.
    cases after with
    | nil =>
        cases h
        rw [List.append_nil]
        rcases hbefore with rfl | rfl
        · exact ⟨_, .recursiveAlone htwo⟩
        · exact ⟨_, .recursiveEnd htwo⟩
    | cons c after =>
        cases h
        have hc : c = '/' := by simpa [Bounds] using hbounds
        subst hc
        rcases hbefore with rfl | rfl
        · exact ⟨_, .recursiveStart htwo⟩
        · exact ⟨_, .recursiveInner htwo⟩
  · rw [starToken_plain htest] at h
    cases h
    exact ⟨_, .stars hn hafter htest⟩

/-- A text that is read to its end is readable; the cases are those of `readFrom`. -/
theorem readable_of_readFrom {g : Glob} (h : readFrom d before t = .ok g) :
    Readable before t d.openGroup.isSome := by
  -- Every step either adds a token inside or outside a group, or opens or closes one.
  fun_induction readFrom d before t with
  | case1 d before =>
      unfold Draft.finish at h
      split at h
      · next hnone =>
          rw [hnone]
          exact ⟨[], .nil before⟩
      · cases h
  | case2 => cases h
  | case3 d before c rest ih => exact d.isSome_add _ ▸ (ih h).cons .escaped
  | case4 d before rest stars after token hstar _ ih =>
      rcases opens_of_starToken (Nat.le_add_right 1 _) (head?_dropWhile_stars rest) hstar with ⟨x, hx⟩
      rw [stars_eq rest]
      exact d.isSome_add _ ▸ (ih h).cons hx
  | case5 d before rest stars after token hstar _ ih =>
      rcases opens_of_starToken (Nat.le_add_right 1 _) (head?_dropWhile_stars rest) hstar with ⟨x, hx⟩
      rw [stars_eq rest]
      exact d.isSome_add _ ▸ (ih h).cons hx
  | case6 d before rest _ _ ih => exact d.isSome_add _ ▸ (ih h).cons .question
  | case7 => cases h
  | case8 d before rest cls after hread _ _ _ ih =>
      exact d.isSome_add _ ▸ (ih h).cons (.bracket (readClass_eq_ok_iff.1 hread))
  | case9 => cases h
  | case10 d before rest d' hbegin _ _ _ _ ih =>
      rcases Draft.beginGroup_ok hbegin with ⟨hopen, hopen'⟩
      rw [hopen]
      exact (hopen' ▸ ih h).openBrace
  | case11 => cases h
  | case12 d before rest d' hend _ _ _ _ _ ih =>
      rcases Draft.endGroup_ok hend with ⟨hopen, hopen'⟩
      rw [hopen]
      exact (hopen' ▸ ih h).closeBrace
  | case13 d before rest _ _ _ _ _ _ ih => exact d.isSome_comma ▸ (ih h).comma
  | case14 d before c rest hslash hstar hquestion hbracket hopen hclose hcomma ih =>
      refine d.isSome_add _ ▸ (ih h).cons (.ordinary ?_)
      simp [hslash, hstar, hquestion, hbracket, hopen, hclose, hcomma]

theorem exists_reads {g : Glob} (h : parse t = .ok g) : ∃ items, Reads none t items :=
  readable_of_readFrom h

/-- A glob matches exactly the paths that its text denotes: the text of a glob falls into constructs,
and in whatever way it does so, the paths matched are those the constructs denote. -/
theorem isMatch_iff_mem_denoted {g : Glob} (h : parse t = .ok g) :
    (∃ items, Reads none t items) ∧
      ∀ items, Reads none t items → ∀ scope path,
        g.isMatch scope path = true ↔ path ∈ denoted scope items := by
  refine ⟨exists_reads h, fun items hitems scope path => ?_⟩
  have hpieces : g = items.map Item.piece := Except.ok.inj (h.symm.trans (parse_of_reads hitems))
  rw [hpieces, isMatch_map_piece]

/-- A recursive run, a group and a negated class in one glob, a path that it denotes and matches, and one
that it does neither. -/
theorem exists_reads_mem_denoted :
    ∃ g items, parse "**/a{b,[!c]}".toList = .ok g ∧ Reads none "**/a{b,[!c]}".toList items ∧
      "x/ad".toList ∈ denoted .component items ∧ g.isMatch .component "x/ad".toList = true ∧
      "x/ac".toList ∉ denoted .component items ∧ g.isMatch .component "x/ac".toList = false := by
  let g : Glob :=
    [.token .anyDirs, .token (.char 'a'), .group [[.char 'b'], [.oneOf ⟨true, [('c', 'c')]⟩]]]
  have h : parse "**/a{b,[!c]}".toList = .ok g := by decide +kernel
  have hmatch : g.isMatch .component "x/ad".toList = true := by decide
  have hmiss : g.isMatch .component "x/ac".toList = false := by decide
  rcases isMatch_iff_mem_denoted h with ⟨⟨items, hitems⟩, hall⟩
  refine ⟨g, items, h, hitems, (hall items hitems .component _).1 hmatch, hmatch, ?_, hmiss⟩
  rw [← hall items hitems, hmiss]
  exact Bool.false_ne_true

end Reading

end Glob

end IgnoreRules
