import IgnoreRules.Proofs.Cli.Reading

/-!
# What a command line says about rules

The flags that say where the rules of a command come from are applied in the order in which they are
given, however they are spelled and wherever they stand among the arguments.

* `SourceOption.ofWords` : what the words of a command line say about the sources of rules;
* `RuleSources.ofOptions` : the sources that some options ask for;
* `Invocation.sources_of_readCommand`, `Invocation.exists_readCommand` : a command has the sources that
  its words ask for, and is read from the end of the line;
* `Invocation.sources_of_parse` : both together.
-/

namespace IgnoreRules

/-! ## Where rules come from -/

/-- What a command line can say about the sources of rules. -/
inductive SourceOption
  | noTemplates
  | noOwnFile
  | file (name : Text)
  deriving DecidableEq, Repr

namespace SourceOption

/-- The option that a flag stands for. -/
def ofFlag? {σ : Type} (f : Flag σ) (value : Text) : Option SourceOption :=
  if f.spellings = ["--no-templates".toList] then some noTemplates
  else if f.spellings = ["--no-gitignore".toList] then some noOwnFile
  else if f.spellings = ["--ignore-file".toList] then some (file value)
  else none

/-- The options among some words, in their order. -/
def ofWords {σ : Type} : List (Grammar.Word σ) → List SourceOption
  | [] => []
  | .flag _ f joined :: rest => (ofFlag? f (Grammar.given f joined rest)).toList ++ ofWords rest
  | _ :: rest => ofWords rest

/-- The name that the option adds a file by. -/
def file? : SourceOption → Option Text
  | file name => some name
  | _ => none

end SourceOption

namespace RuleSources

/-- What an option changes. -/
def apply (s : RuleSources) : SourceOption → RuleSources
  | .noTemplates => { s with templates := false }
  | .noOwnFile => { s with ownFile := false }
  | .file name => { s with files := s.files ++ [name] }

/-- The sources that some options ask for. -/
def ofOptions (options : List SourceOption) : RuleSources where
  templates := !options.contains .noTemplates
  ownFile := !options.contains .noOwnFile
  files := options.filterMap SourceOption.file?

theorem foldl_apply (s : RuleSources) (options : List SourceOption) :
    options.foldl apply s =
      ⟨s.templates && (ofOptions options).templates, s.ownFile && (ofOptions options).ownFile,
        s.files ++ (ofOptions options).files⟩ := by
  induction options generalizing s with
  | nil => simp [ofOptions]
  | cons option options ih =>
      rw [List.foldl_cons, ih]
      cases option with
      | noTemplates => simp [ofOptions, apply, List.filterMap_cons, SourceOption.file?]
      | noOwnFile => simp [ofOptions, apply, List.filterMap_cons, SourceOption.file?]
      | file name => simp [ofOptions, apply, SourceOption.file?]

/-- Options applied one after the other, from the start. -/
theorem foldl_apply_start (options : List SourceOption) : options.foldl apply {} = ofOptions options :=
  foldl_apply {} options

end RuleSources

namespace SourceOption

open Grammar

section Words

variable {σ : Type} {word : Word σ} {words rest front : List (Word σ)}

theorem ofWords_cons (h : word.flag? = none) : ofWords (word :: words) = ofWords words := by
  cases word with
  | flag t f joined => cases h
  | _ => rfl

theorem ofWords_append (h : ∀ word ∈ front, word.isFlag = false) :
    ofWords (front ++ words) = ofWords words := by
  induction front with
  | nil => rfl
  | cons word front ih =>
      obtain ⟨hword, hrest⟩ := List.forall_mem_cons.1 h
      exact (ofWords_cons (flag?_of_isFlag hword)).trans (ih hrest)

theorem ofWords_drop {shape : SlotShape} {n : Nat} (h : taken? shape words = some n)
    (hshape : shape ≠ .rest) : ofWords (words.drop n) = ofWords words := by
  have hsplit : ofWords (words.take n ++ words.drop n) = ofWords (words.drop n) :=
    ofWords_append fun _ => isFlag_of_mem_taken h hshape
  rw [List.take_append_drop] at hsplit
  exact hsplit.symm

end Words

end SourceOption

/-- The sources of a command that uses rules. -/
def Command.sources? : Command → Option RuleSources
  | check _ _ sources _ => some sources
  | stats _ sources _ => some sources
  | _ => none

namespace Invocation

open Grammar

theorem halts_helpFlag (σ : Type) : (helpFlag σ).Halts :=
  ⟨rfl, fun _ _ => ⟨.help, rfl⟩⟩

/-! ## Commands with rules -/

/-- The flags of the commands that use rules. -/
def ruleFlags : List (Flag Draft) :=
  helpFlag Draft :: sourceFlags ++ [jsonFlag]

section Rules

variable {f : Flag Draft} {value : Text} {d d' : Draft}

theorem singlesHalt_ruleFlags : SinglesHalt ruleFlags := by
  intro spelling f h hsingle
  simp only [spellings, ruleFlags, sourceFlags, jsonFlag, helpFlag, switch, option, List.cons_append,
    List.nil_append, List.flatMap_cons, List.flatMap_nil, List.map_cons, List.map_nil, List.mem_cons,
    List.append_nil, Prod.mk.injEq, List.not_mem_nil, or_false] at h
  rcases h with ⟨-, rfl⟩ | ⟨rfl, -⟩ | ⟨rfl, -⟩ | ⟨rfl, -⟩ | ⟨rfl, -⟩ | ⟨rfl, -⟩
  · exact halts_helpFlag Draft
  all_goals cases hsingle

/-- A flag changes the sources as the option does that it stands for. -/
theorem sources_of_apply (hf : f ∈ ruleFlags) (h : f.apply value d = .ok d') :
    d'.sources = (SourceOption.ofFlag? f value).toList.foldl RuleSources.apply d.sources := by
  simp only [ruleFlags, sourceFlags, List.cons_append, List.nil_append, List.mem_cons,
    List.not_mem_nil, or_false] at hf
  rcases hf with rfl | rfl | rfl | rfl | rfl
  · cases h
  all_goals
    cases h
    rfl

/-- The slots of a command have no part in its sources. -/
def Aside (slot : Slot Draft) : Prop :=
  slot.shape ≠ .rest ∧ ∀ arguments d d', slot.apply arguments d = .ok d' → d'.sources = d.sources

theorem aside_subjectSlot : Aside subjectSlot := by
  refine ⟨nofun, ?_⟩
  intro arguments d d' h
  unfold subjectSlot single at h
  dsimp only at h
  split at h
  · cases h
    rfl
  · cases h

theorem aside_several (effect : List Text → Draft → Draft)
    (h : ∀ arguments d, (effect arguments d).sources = d.sources) : Aside (several effect) := by
  refine ⟨nofun, ?_⟩
  intro arguments d d' happly
  cases happly
  exact h arguments d

/-- Every step of reading changes the sources as the words do that it uses up. -/
theorem preserved_sources {slots : List (Slot Draft)} (hslots : ∀ slot ∈ slots, Aside slot)
    (all : List (Word Draft)) (target : RuleSources) :
    Preserved ruleFlags slots all fun d rest =>
      (SourceOption.ofWords rest).foldl RuleSources.apply d.sources = target where
  flag := by
    intro f d d' t joined words rest hf happly hrest hinv
    have hsame : SourceOption.ofWords words = SourceOption.ofWords rest := by
      cases hrest with
      | inl hnone => rw [hnone]
      | inr hargument =>
          obtain ⟨value, rfl⟩ := hargument
          rfl
    calc (SourceOption.ofWords rest).foldl RuleSources.apply d'.sources
        = ((SourceOption.ofFlag? f (given f joined words)).toList ++
            SourceOption.ofWords words).foldl RuleSources.apply d.sources := by
          rw [List.foldl_append, sources_of_apply hf happly, hsame]
      _ = target := hinv
  slot := by
    intro slot d d' words n hslot _ htaken happly hinv
    obtain ⟨hshape, hsources⟩ := hslots slot hslot
    rw [SourceOption.ofWords_drop htaken hshape, hsources _ _ _ happly]
    exact hinv
  skip := by
    intro d word words hplain hinv
    rw [SourceOption.ofWords_cons hplain] at hinv
    exact hinv

/-- The settings that a command with rules is read to. -/
theorem sources_of_read {slots : List (Slot Draft)} (hslots : ∀ slot ∈ slots, Aside slot)
    {arguments left : List Text} (h : Grammar.read ⟨ruleFlags, slots⟩ {} arguments = .ok (d, left)) :
    ∃ words, classify ruleFlags arguments = .ok words ∧
      d.sources = RuleSources.ofOptions (SourceOption.ofWords words) := by
  obtain ⟨words, hwords, -⟩ := exists_of_bind h
  have hsteps := preserved_sources hslots words (RuleSources.ofOptions (SourceOption.ofWords words))
  exact ⟨words, hwords,
    read_preserved h hwords singlesHalt_ruleFlags hsteps (RuleSources.foldl_apply_start _)⟩

end Rules

theorem aside_of_mem_check {slot : Slot Draft}
    (h : slot ∈ [subjectSlot, several fun paths d => { d with paths := paths }]) : Aside slot := by
  cases List.mem_cons.1 h with
  | inl hsubject => exact hsubject ▸ aside_subjectSlot
  | inr hpaths =>
      rw [List.mem_singleton.1 hpaths]
      exact aside_several _ fun _ _ => rfl

/-- A command is read by the form that bears its name. -/
theorem exists_form_of_readCommand {line : List Text} {command : Command}
    (h : readCommand line = .ok command) :
    ∃ name arguments form d, line = name :: arguments ∧ form ∈ forms ∧
      form.grammar.read {} arguments = .ok (d, []) ∧ command = form.finish d := by
  unfold readCommand at h
  split at h
  · cases h
  · next name arguments =>
      split at h
      · cases h
      · next form hform =>
          split at h
          · cases h
          · next d hread =>
              cases h
              exact ⟨name, arguments, form, d, rfl, List.mem_of_find?_eq_some hform, hread, rfl⟩
          · cases h

/-- The sources of a command are those that its words ask for. -/
theorem sources_of_readCommand {line : List Text} {command : Command} {sources : RuleSources}
    (h : readCommand line = .ok command) (hsources : command.sources? = some sources) :
    ∃ name arguments words, line = name :: arguments ∧ classify ruleFlags arguments = .ok words ∧
      sources = RuleSources.ofOptions (SourceOption.ofWords words) := by
  obtain ⟨name, arguments, form, d, rfl, hform, hread, rfl⟩ := exists_form_of_readCommand h
  simp only [forms, List.mem_cons, List.not_mem_nil, or_false] at hform
  rcases hform with rfl | rfl | rfl | rfl
  · obtain ⟨words, hwords, hd⟩ := sources_of_read (fun _ => aside_of_mem_check) hread
    cases hsources
    exact ⟨name, arguments, words, rfl, hwords, hd⟩
  · cases hsources
  · have hslots : ∀ slot ∈ [subjectSlot], Aside slot := by
      intro slot hslot
      exact List.mem_singleton.1 hslot ▸ aside_subjectSlot
    obtain ⟨words, hwords, hd⟩ := sources_of_read hslots hread
    cases hsources
    exact ⟨name, arguments, words, rfl, hwords, hd⟩
  · cases hsources

/-! ## The command of a line -/

theorem singlesHalt_grammar : SinglesHalt grammar.flags := by
  intro spelling f h hsingle
  simp only [spellings, grammar, helpFlag, versionFlag, option, List.flatMap_cons, List.flatMap_nil,
    List.map_cons, List.map_nil, List.mem_cons, List.cons_append, List.append_nil, List.nil_append,
    Prod.mk.injEq, List.not_mem_nil, or_false] at h
  rcases h with ⟨-, rfl⟩ | ⟨rfl, -⟩ | ⟨rfl, -⟩ | ⟨rfl, -⟩
  · exact halts_helpFlag Invocation
  all_goals cases hsingle

/-- The flags in front of a command have no part in it. -/
theorem command_of_apply {f : Flag Invocation} {value : Text} {i j : Invocation}
    (hf : f ∈ grammar.flags) (h : f.apply value i = .ok j) : j.command = i.command := by
  simp only [grammar, List.mem_cons, List.not_mem_nil, or_false] at hf
  rcases hf with rfl | rfl | rfl
  · cases h
  · cases h
  · cases h
    rfl

/-- If there is a command by now, it was read from the end of the line. -/
def FromEnd (line : List Text) (i : Invocation) : Prop :=
  ∀ command, i.command = some command → ∃ arguments, arguments <:+ line ∧ readCommand arguments = .ok command

theorem preserved_command (all : List (Word Invocation)) :
    Preserved grammar.flags grammar.slots all fun i _ => FromEnd (all.map Word.text) i where
  flag := by
    intro f i j t joined words rest hf happly _ hinv command hcommand
    rw [command_of_apply hf happly] at hcommand
    exact hinv command hcommand
  slot := by
    intro slot settings settings' words n hslot hwords htaken happly _ command hcommand
    obtain rfl := List.mem_singleton.1 hslot
    -- The slot takes everything that is left.
    have hn : n = words.length := by
      unfold taken? at htaken
      dsimp only [commandSlot] at htaken
      split at htaken
      · exact (Option.some.inj htaken).symm
      · cases htaken
    unfold commandSlot at happly
    dsimp only [argumentsFor] at happly
    split at happly
    · cases happly
    · next read hread =>
        cases happly
        cases hcommand
        rw [hn, List.take_length] at hread
        exact ⟨_, hwords.map Word.text, hread⟩
  skip := fun _ hinv => hinv

/-- The command of a line is read from the end of the line. -/
theorem exists_readCommand {line : List Text} {i : Invocation} {command : Command}
    (h : parse line = .ok i) (hcommand : i.command = some command) :
    ∃ arguments, arguments <:+ line ∧ readCommand arguments = .ok command := by
  unfold parse at h
  split at h
  · cases h
  · next j hread =>
      cases h
      obtain ⟨words, hwords, -⟩ := exists_of_bind hread
      have hend := read_preserved hread hwords singlesHalt_grammar (preserved_command words) nofun
      rw [(classify_spec singlesHalt_grammar hwords).2] at hend
      exact hend command hcommand
  · cases h

/-- The sources of the command of a line are those that the end of the line asks for. -/
theorem sources_of_parse {line : List Text} {i : Invocation} {command : Command} {sources : RuleSources}
    (h : parse line = .ok i) (hcommand : i.command = some command)
    (hsources : command.sources? = some sources) :
    ∃ front name arguments words, line = front ++ name :: arguments ∧
      classify ruleFlags arguments = .ok words ∧
      sources = RuleSources.ofOptions (SourceOption.ofWords words) := by
  obtain ⟨_, ⟨front, hline⟩, hread⟩ := exists_readCommand h hcommand
  obtain ⟨name, arguments, words, rfl, hwords, hsame⟩ := sources_of_readCommand hread hsources
  exact ⟨front, name, arguments, words, hline.symm, hwords, hsame⟩

end Invocation

end IgnoreRules
