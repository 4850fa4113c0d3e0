import IgnoreRules.Cli.Options
import Mathlib.Data.List.TakeWhile

/-!
# Reading command lines

A command line is read from left to right, and every step uses up words from the front.  What holds of
the settings and the words still to read, and is preserved by each of the steps there are, holds when
everything is read.

* `Grammar.classify_spec` : the words of a command line, and the flags they stand for;
* `Grammar.takeFlag_spec`, `Grammar.isFlag_of_mem_taken` : the words that a step uses up;
* `Grammar.Preserved`, `Grammar.read_preserved` : what holds when everything is read.
-/

namespace IgnoreRules

/-- A flag that ends the reading wherever it is applied. -/
structure Flag.Halts {σ : Type} (f : Flag σ) : Prop where
  takesNoValue : f.takesValue = false
  halts : ∀ value settings, ∃ halt, f.apply value settings = .error halt

namespace Grammar

variable {σ : Type} {flags : List (Flag σ)} {slots : List (Slot σ)}

/-! ## Words -/

/-- The flag that a word stands for by its full name. -/
def Word.flag? : Word σ → Option (Flag σ)
  | .flag _ f _ => some f
  | _ => none

/-- The only flags of a single letter are flags that end the reading. -/
def SinglesHalt (flags : List (Flag σ)) : Prop :=
  ∀ spelling f, (spelling, f) ∈ spellings flags → ['-', '-'].isPrefixOf spelling = false → f.Halts

/-- The flag of a word is one of these, and one of a single letter ends the reading. -/
def Stems (flags : List (Flag σ)) : Word σ → Prop
  | .flag _ f _ => f ∈ flags
  | .letters _ f _ => f.Halts
  | _ => True

section Words

variable {t : Text} {f : Flag σ} {word : Word σ} {words : List (Word σ)}

theorem flag?_of_isFlag (h : word.isFlag = false) : word.flag? = none := by
  cases word with
  | flag t f joined => cases h
  | _ => rfl

theorem mem_of_mem_spellings {spelling : Text} (h : (spelling, f) ∈ spellings flags) : f ∈ flags := by
  obtain ⟨g, hg, hspelling⟩ := List.mem_flatMap.1 h
  obtain ⟨_, -, heq⟩ := List.mem_map.1 hspelling
  cases heq
  exact hg

theorem mem_spellings_of_lookup (h : (spellings flags).lookup t = some f) :
    (t, f) ∈ spellings flags := by
  obtain ⟨before, after, hsplit, -⟩ := List.lookup_eq_some_iff.1 h
  rw [hsplit]
  exact List.mem_append_right _ (List.mem_cons_self ..)

theorem fullSpelling?_spec (hsingles : SinglesHalt flags) (h : fullSpelling? flags t = some word) :
    Stems flags word ∧ word.text = t := by
  unfold fullSpelling? at h
  split at h
  · next spelling value _ =>
      obtain ⟨f, hf, hword⟩ := Option.map_eq_some_iff.1 h
      have hmem := mem_spellings_of_lookup hf
      cases hdashes : ['-', '-'].isPrefixOf spelling with
      | true =>
          rw [hdashes] at hword
          cases hword
          exact ⟨mem_of_mem_spellings hmem, rfl⟩
      | false =>
          rw [hdashes] at hword
          cases hword
          exact ⟨hsingles spelling f hmem hdashes, rfl⟩
  · cases h

theorem candidates_spec (hsingles : SinglesHalt flags) (h : word ∈ candidates flags t) :
    Stems flags word ∧ word.text = t := by
  unfold candidates at h
  split at h
  · obtain ⟨e, he, rfl⟩ := List.mem_map.1 h
    exact ⟨mem_of_mem_spellings (List.mem_filter.1 he).1, rfl⟩
  · next c rest hsingle =>
      obtain ⟨e, he, rfl⟩ := List.mem_map.1 h
      obtain ⟨hmem, hspelling⟩ := List.mem_filter.1 he
      have hc : c ≠ '-' := by
        rintro rfl
        exact hsingle rfl
      refine ⟨hsingles e.1 e.2 hmem ?_, rfl⟩
      rw [of_decide_eq_true hspelling]
      simp [List.isPrefixOf, hc.symm]
  · cases h

theorem classifyDashed_spec (hsingles : SinglesHalt flags) (h : classifyDashed flags t = .ok word) :
    Stems flags word ∧ word.text = t := by
  unfold classifyDashed at h
  split at h
  · next full hfull =>
      cases h
      exact fullSpelling?_spec hsingles hfull
  · next only honly =>
      cases h
      apply candidates_spec hsingles
      rw [honly]
      exact List.mem_singleton_self _
  · split at h
    · cases h
      exact ⟨trivial, rfl⟩
    · cases h
      exact ⟨trivial, rfl⟩
  · cases h

theorem classifyWord_spec (hsingles : SinglesHalt flags) (h : classifyWord flags t = .ok word) :
    Stems flags word ∧ word.text = t := by
  unfold classifyWord at h
  split at h
  · split at h
    · next f hf =>
        cases h
        exact ⟨mem_of_mem_spellings (mem_spellings_of_lookup hf), rfl⟩
    · exact classifyDashed_spec hsingles h
  · cases h
    exact ⟨trivial, rfl⟩

/-- What is computed first and what is computed from it. -/
theorem exists_of_bind {α β : Type} {x : Except Halt α} {f : α → Except Halt β} {b : β}
    (h : (x >>= f) = .ok b) : ∃ a, x = .ok a ∧ f a = .ok b := by
  cases x with
  | error e => cases h
  | ok a => exact ⟨a, rfl, h⟩

/-- The words of a command line are the texts it was given as, and their flags are flags it may have. -/
theorem classify_spec (hsingles : SinglesHalt flags) {line : List Text}
    (h : classify flags line = .ok words) :
    (∀ word ∈ words, Stems flags word) ∧ words.map Word.text = line := by
  induction line generalizing words with
  | nil =>
      cases h
      exact ⟨nofun, rfl⟩
  | cons t rest ih =>
      unfold classify at h
      split at h
      · next hseparator =>
          cases h
          constructor
          · intro word hword
            cases List.mem_cons.1 hword with
            | inl hfirst =>
                rw [hfirst]
                trivial
            | inr hrest =>
                obtain ⟨_, -, rfl⟩ := List.mem_map.1 hrest
                trivial
          · rw [List.map_cons, List.map_map, hseparator]
            exact congrArg (_ :: ·) (List.map_id rest)
      · obtain ⟨word, hword, h⟩ := exists_of_bind h
        obtain ⟨others, hothers, h⟩ := exists_of_bind h
        cases h
        obtain ⟨hfirst, htext⟩ := classifyWord_spec hsingles hword
        obtain ⟨hrest, htexts⟩ := ih hothers
        exact ⟨List.forall_mem_cons.2 ⟨hfirst, hrest⟩, by rw [List.map_cons, htext, htexts]⟩

end Words

/-! ## Steps -/

section Steps

variable {p q : Progress σ} {f : Flag σ} {word : Word σ} {words rest : List (Word σ)}

/-- An argument with some words in front of it, and as many words behind it as are fit. -/
theorem take_taken (after : List (Word σ)) (fit : Word σ → Bool) (front : List (Word σ)) (word : Word σ) :
    (front ++ word :: after).take (front.length + 1 + (after.takeWhile fit).length) =
      front ++ word :: after.takeWhile fit := by
  have hbehind : after.take (after.takeWhile fit).length = after.takeWhile fit :=
    (List.prefix_iff_eq_take.1 (List.takeWhile_prefix fit)).symm
  rw [Nat.add_assoc, List.take_length_add_append, Nat.add_comm 1, List.take_succ_cons, hbehind]

/-- What a slot takes that does not take everything. -/
theorem exists_of_taken {shape : SlotShape} {n : Nat} (h : taken? shape words = some n)
    (hshape : shape ≠ .rest) :
    ∃ (t : Text) (after : List (Word σ)) (fit : Word σ → Bool),
      words = words.takeWhile isSeparator ++ .argument t :: after ∧
      n = (words.takeWhile isSeparator).length + 1 + (after.takeWhile fit).length ∧
      ∀ word, fit word = true → word.isFlag = false := by
  unfold taken? at h
  dsimp only at h
  split at h
  · next t after hdrop =>
      have hfront : words.take (words.takeWhile isSeparator).length = words.takeWhile isSeparator :=
        (List.prefix_iff_eq_take.1 (List.takeWhile_prefix isSeparator)).symm
      have hwords := List.take_append_drop (words.takeWhile isSeparator).length words
      rw [hfront, hdrop] at hwords
      cases shape with
      | one =>
          refine ⟨t, after, isSeparator, hwords.symm, (Option.some.inj h).symm, ?_⟩
          intro word hword
          cases word with
          | separator => rfl
          | _ => cases hword
      | oneOrMore =>
          refine ⟨t, after, fun w => isArgument w || isSeparator w, hwords.symm,
            (Option.some.inj h).symm, ?_⟩
          intro word hword
          cases word with
          | argument t => rfl
          | separator => rfl
          | _ => cases hword
      | rest => exact absurd rfl hshape
  · cases h

/-- A slot that does not take everything takes no flag. -/
theorem isFlag_of_mem_taken {shape : SlotShape} {n : Nat} (h : taken? shape words = some n)
    (hshape : shape ≠ .rest) (hword : word ∈ words.take n) : word.isFlag = false := by
  obtain ⟨t, after, fit, hwords, hn, hfit⟩ := exists_of_taken h hshape
  rw [hwords, hn, take_taken] at hword
  cases List.mem_append.1 hword with
  | inl hfront =>
      have hseparator := List.mem_takeWhile_imp hfront
      cases word with
      | separator => rfl
      | _ => cases hseparator
  | inr hrest =>
      cases List.mem_cons.1 hrest with
      | inl hargument =>
          rw [hargument]
          rfl
      | inr hbehind => exact hfit word (List.mem_takeWhile_imp hbehind)

/-- The value of a flag is joined to it or the argument behind it. -/
def given (f : Flag σ) (joined : Option Text) (rest : List (Word σ)) : Text :=
  match f.takesValue, joined, rest with
  | true, some value, _ => value
  | true, none, .argument value :: _ => value
  | _, _, _ => []

/-- A flag uses up its value, which is an argument if it is not joined to the flag. -/
theorem valueOf_spec {joined : Option Text} {value : Text}
    (h : valueOf f joined words = .ok (value, rest)) :
    value = given f joined words ∧ (words = rest ∨ ∃ t, words = .argument t :: rest) := by
  unfold valueOf at h
  unfold given
  split at h
  · next htakes =>
      cases h
      rw [htakes]
      exact ⟨rfl, Or.inl rfl⟩
  · next htakes =>
      cases h
      rw [htakes]
      exact ⟨rfl, Or.inr ⟨_, rfl⟩⟩
  · next htakes =>
      cases h
      rw [htakes]
      exact ⟨rfl, Or.inl rfl⟩
  · cases h

theorem suffix_of_valueOf {joined : Option Text} {value : Text}
    (h : valueOf f joined words = .ok (value, rest)) : rest <:+ words := by
  cases (valueOf_spec h).2 with
  | inl hsame => exact hsame ▸ List.suffix_rfl
  | inr hargument =>
      obtain ⟨t, rfl⟩ := hargument
      exact List.suffix_cons _ rest

/-- Taking in a flag uses up at least its word, and fills no slot. -/
theorem takeFlag_spec (h : takeFlag flags p (word :: words) = .ok (q, rest)) :
    rest <:+ words ∧ q.slots = p.slots := by
  unfold takeFlag at h
  split at h
  · next heq =>
      cases heq
      obtain ⟨⟨value, after⟩, hvalue, h⟩ := exists_of_bind h
      obtain ⟨settings, -, h⟩ := exists_of_bind h
      cases h
      exact ⟨suffix_of_valueOf hvalue, rfl⟩
  · next heq =>
      cases heq
      obtain ⟨⟨front, last, joined⟩, -, h⟩ := exists_of_bind h
      obtain ⟨⟨value, after⟩, hvalue, h⟩ := exists_of_bind h
      obtain ⟨settings, -, h⟩ := exists_of_bind h
      obtain ⟨settings', -, h⟩ := exists_of_bind h
      cases h
      exact ⟨suffix_of_valueOf hvalue, rfl⟩
  · next heq =>
      cases heq
      cases h
      exact ⟨List.suffix_rfl, rfl⟩
  · next heq => cases heq

theorem exists_front_of_separateLetters (hf : f.takesValue = false) {after : Text}
    {front : List (Flag σ)} {last : Flag σ} {joined : Option Text}
    (h : separateLetters flags f after = .ok (front, last, joined)) : ∃ more, front = f :: more := by
  unfold separateLetters at h
  split at h
  · rw [hf] at h
    cases h
  · rw [hf] at h
    simp only [Bool.false_eq_true, if_false] at h
    split at h
    · cases h
    · split at h
      · cases h
        exact ⟨[], rfl⟩
      · next c after _ g hg hrest =>
          cases hmore : separateLetters flags g after with
          | error e =>
              rw [hmore] at h
              cases h
          | ok found =>
              rw [hmore] at h
              exact ⟨found.1, (congrArg Prod.fst (Except.ok.inj h)).symm⟩

/-- Letters behind a flag that ends the reading, whatever they are, are not read to the end. -/
theorem takeFlag_of_halts (hf : f.Halts) {t after : Text} :
    takeFlag flags p (.letters t f after :: words) ≠ .ok (q, rest) := by
  intro h
  -- The first letter is applied before all others, and it ends the reading.
  unfold takeFlag at h
  obtain ⟨⟨front, last, joined⟩, hletters, h⟩ := exists_of_bind h
  obtain ⟨⟨value, rest'⟩, -, h⟩ := exists_of_bind h
  obtain ⟨settings, happly, -⟩ := exists_of_bind h
  obtain ⟨more, rfl⟩ := exists_front_of_separateLetters hf.takesNoValue hletters
  obtain ⟨settings', hfirst, -⟩ := exists_of_bind happly
  obtain ⟨halt, hhalt⟩ := hf.halts [] p.settings
  rw [hhalt] at hfirst
  cases hfirst

end Steps

/-! ## Whole command lines -/

/-- What each step of reading preserves of the settings and the words still to read: taking in a flag,
filling one of these slots from the words still to read of these, and passing over any other word. -/
structure Preserved (flags : List (Flag σ)) (slots : List (Slot σ)) (all : List (Word σ))
    (Inv : σ → List (Word σ) → Prop) : Prop where
  flag : ∀ {f settings settings' t joined words rest}, f ∈ flags →
    f.apply (given f joined words) settings = .ok settings' →
    (words = rest ∨ ∃ value, words = .argument value :: rest) →
    Inv settings (.flag t f joined :: words) → Inv settings' rest
  slot : ∀ {slot settings settings' words n}, slot ∈ slots → words <:+ all →
    taken? slot.shape words = some n →
    slot.apply (argumentsFor slot.shape (words.take n)) settings = .ok settings' →
    Inv settings words → Inv settings' (words.drop n)
  skip : ∀ {settings word words}, word.flag? = none → Inv settings (word :: words) → Inv settings words

namespace Preserved

variable {all words rest : List (Word σ)} {word : Word σ} {Inv : σ → List (Word σ) → Prop}
variable {p q : Progress σ}

theorem takeFlag (h : Preserved flags slots all Inv) (hword : Stems flags word)
    (hinv : Inv p.settings (word :: words))
    (htaken : Grammar.takeFlag flags p (word :: words) = .ok (q, rest)) : Inv q.settings rest := by
  cases word with
  | flag t f joined =>
      unfold Grammar.takeFlag at htaken
      obtain ⟨⟨value, after⟩, hvalue, htaken⟩ := exists_of_bind htaken
      obtain ⟨settings, happly, htaken⟩ := exists_of_bind htaken
      cases htaken
      obtain ⟨rfl, hafter⟩ := valueOf_spec hvalue
      exact h.flag hword happly hafter hinv
  | letters t f after => exact absurd htaken (takeFlag_of_halts hword)
  | argument t =>
      cases htaken
      exact h.skip rfl hinv
  | separator =>
      cases htaken
      exact h.skip rfl hinv
  | unknown t =>
      cases htaken
      exact h.skip rfl hinv

theorem fillSlots (h : Preserved flags slots all Inv) {todo : List (Slot σ)} (htodo : todo ⊆ slots)
    (hwords : words <:+ all) (hinv : Inv p.settings words)
    (hfill : Grammar.fillSlots p words todo = .ok (q, rest)) :
    Inv q.settings rest ∧ rest <:+ words ∧ q.slots ⊆ slots := by
  induction todo generalizing p words with
  | nil =>
      cases hfill
      exact ⟨hinv, List.suffix_rfl, List.nil_subset _⟩
  | cons slot todo ih =>
      unfold Grammar.fillSlots at hfill
      split at hfill
      · cases hfill
        exact ⟨hinv, List.suffix_rfl, htodo⟩
      · next n htaken =>
          split at hfill
          · cases hfill
          · next settings happly =>
              have hslot := htodo (List.mem_cons_self ..)
              have hnext := h.slot hslot hwords htaken happly hinv
              have hdrop := List.drop_suffix n words
              obtain ⟨hrest, hsuffix, hslots⟩ := ih (p := { p with settings := settings })
                (fun s hs => htodo (List.mem_cons_of_mem slot hs)) (hdrop.trans hwords) hnext hfill
              exact ⟨hrest, hsuffix.trans hdrop, hslots⟩

/-- Words that are no flags can be passed over. -/
theorem skipAll (h : Preserved flags slots all Inv) {settings : σ} (front : List (Word σ))
    (hfront : ∀ word ∈ front, word.isFlag = false) (hinv : Inv settings (front ++ rest)) :
    Inv settings rest := by
  induction front with
  | nil => exact hinv
  | cons word front ih =>
      obtain ⟨hword, hothers⟩ := List.forall_mem_cons.1 hfront
      exact ih hothers (h.skip (flag?_of_isFlag hword) hinv)

theorem passOver (h : Preserved flags slots all Inv) {settings : σ} (hinv : Inv settings words) :
    Inv settings (words.dropWhile fun w => !w.isFlag) := by
  apply h.skipAll (words.takeWhile fun w => !w.isFlag)
  · intro word hword
    have hplain := List.mem_takeWhile_imp hword
    exact Bool.not_eq_true' _ ▸ hplain
  · rw [List.takeWhile_append_dropWhile]
    exact hinv

theorem readEnd (h : Preserved flags slots all Inv) (hslots : p.slots ⊆ slots) (hwords : words <:+ all)
    (hplain : ∀ word ∈ words, word.isFlag = false) (hinv : Inv p.settings words)
    (hread : Grammar.readEnd p words = .ok q) : Inv q.settings [] := by
  unfold Grammar.readEnd at hread
  obtain ⟨⟨filled, rest⟩, hfill, hread⟩ := exists_of_bind hread
  cases hread
  obtain ⟨hrest, hsuffix, -⟩ := h.fillSlots hslots hwords hinv hfill
  apply h.skipAll rest
  · intro word hword
    exact hplain word (hsuffix.subset hword)
  · rw [List.append_nil]
    exact hrest

/-- What every step preserves holds when all words are read; each round uses up a word, and the
induction is on what is left to use up. -/
theorem readWords (h : Preserved flags slots all Inv) (hall : ∀ word ∈ all, Stems flags word)
    {fuel : Nat} (hslots : p.slots ⊆ slots)
    (hwords : words <:+ all) (hfuel : words.length ≤ fuel) (hinv : Inv p.settings words)
    (hread : Grammar.readWords flags p words fuel = .ok q) : Inv q.settings [] := by
  induction fuel generalizing p words with
  | zero =>
      have hnil : words = [] := List.length_eq_zero_iff.1 (Nat.le_zero.1 hfuel)
      subst hnil
      exact h.readEnd hslots hwords nofun hinv hread
  | succ fuel ih =>
      unfold Grammar.readWords at hread
      split at hread
      · next hnone =>
          apply h.readEnd hslots hwords _ hinv hread
          intro word hword
          have hplain := List.any_eq_false.1 (Bool.not_eq_true' _ ▸ hnone) word hword
          exact Bool.not_eq_true _ ▸ hplain
      · split at hread
        · exact h.readEnd hslots hwords nofun hinv hread
        · next word rest _ =>
            split at hread
            · obtain ⟨⟨next, after⟩, htaken, hread⟩ := exists_of_bind hread
              obtain ⟨hsuffix, hsame⟩ := takeFlag_spec htaken
              have hlength := hsuffix.length_le
              have hword := hall word (hwords.subset (List.mem_cons_self ..))
              rw [List.length_cons] at hfuel
              apply ih (p := next) _ _ (by omega) (h.takeFlag hword hinv htaken) hread
              · rw [hsame]
                exact hslots
              · exact hsuffix.trans ((List.suffix_cons word rest).trans hwords)
            · next hplain =>
                obtain ⟨⟨filled, after⟩, hfill, hread⟩ := exists_of_bind hread
                obtain ⟨hnext, hsuffix, hfewer⟩ := h.fillSlots hslots hwords hinv hfill
                dsimp only at hread
                split at hread
                · next hless => exact ih hfewer (hsuffix.trans hwords) (by omega) hnext hread
                · next hnot =>
                    -- Nothing was taken, so everything up to the next flag is passed over.
                    have hsame : after = word :: rest := hsuffix.eq_of_length_le (Nat.le_of_not_lt hnot)
                    have hpassed := h.passOver (hsame ▸ hnext)
                    have hdropped : (word :: rest).dropWhile (fun w => !w.isFlag) =
                        rest.dropWhile fun w => !w.isFlag :=
                      List.dropWhile_cons_of_pos (by simp [hplain])
                    have hsuffix' : rest.dropWhile (fun w => !w.isFlag) <:+ rest := List.dropWhile_suffix _
                    have hlength := hsuffix'.length_le
                    rw [List.length_cons] at hfuel
                    rw [hdropped] at hpassed hread
                    refine ih ?_ ?_ ?_ ?_ hread
                    · exact hfewer
                    · exact hsuffix'.trans ((List.suffix_cons word rest).trans hwords)
                    · omega
                    · exact hpassed

end Preserved

/-- A command line that is read gives settings that every step has had its part in. -/
theorem read_preserved {g : Grammar σ} {Inv : σ → List (Word σ) → Prop} {settings result : σ}
    {line left : List Text} {words : List (Word σ)} (hread : g.read settings line = .ok (result, left))
    (hwords : classify g.flags line = .ok words) (hsingles : SinglesHalt g.flags)
    (h : Preserved g.flags g.slots words Inv) (hstart : Inv settings words) : Inv result [] := by
  unfold Grammar.read at hread
  obtain ⟨words', hwords', hread⟩ := exists_of_bind hread
  cases hwords.symm.trans hwords'
  obtain ⟨p, hp, hread⟩ := exists_of_bind hread
  have hall := (classify_spec hsingles hwords).1
  have hend := h.readWords hall (p := ⟨settings, g.slots, []⟩) (List.Subset.refl _) List.suffix_rfl
    (Nat.le_refl _) hstart hp
  split at hread
  · cases hread
  · cases hread
    exact hend

end Grammar

end IgnoreRules
