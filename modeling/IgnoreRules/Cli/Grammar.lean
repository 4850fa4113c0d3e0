import IgnoreRules.Text.Digit

/-!
# Command line grammars

A grammar says which flags a command line may have and which arguments it takes in order.  Reading goes
from left to right: arguments and flags may be mixed, a flag may be shortened to any beginning that no
other flag shares, a value may follow a flag or be joined to it by an equals sign, flags of one letter
may be written together, and behind `--` everything is an argument.

## Main definitions

* `Flag`, `Slot`, `Grammar` : what a command line may hold.
* `Halt` : why reading stops before the end.
* `Grammar.read` : the settings a command line asks for, and what was not understood.
-/

namespace IgnoreRules

/-- Why reading a command line stops. -/
inductive Halt
  /-- The usage is asked for. -/
  | help
  /-- The version is asked for. -/
  | version
  /-- The command line is not understood. -/
  | misuse
  deriving DecidableEq, Repr

/-- A flag and what it does to the settings `σ`. -/
structure Flag (σ : Type) where
  spellings : List Text
  /-- Whether a value belongs to the flag. -/
  takesValue : Bool
  /-- The effect; without a value the text is empty. -/
  apply : Text → σ → Except Halt σ

/-- How many arguments a slot takes. -/
inductive SlotShape
  | one
  | oneOrMore
  /-- An argument and everything behind it, flags included. -/
  | rest
  deriving DecidableEq, Repr

/-- A place for arguments and what they do to the settings. -/
structure Slot (σ : Type) where
  shape : SlotShape
  isRequired : Bool
  apply : List Text → σ → Except Halt σ

/-- The flags and the slots of a command line. -/
structure Grammar (σ : Type) where
  flags : List (Flag σ)
  slots : List (Slot σ)

namespace Grammar

variable {σ : Type}

/-! ## Telling flags from arguments -/

/-- What a word of a command line is. -/
inductive Word (σ : Type)
  | argument (text : Text)
  /-- The mark behind which everything is an argument. -/
  | separator
  /-- A flag and the value joined to it by an equals sign. -/
  | flag (text : Text) (flag : Flag σ) (joined : Option Text)
  /-- A flag of one letter and what is written behind that letter. -/
  | letters (text : Text) (flag : Flag σ) (rest : Text)
  /-- What looks like a flag but is none. -/
  | unknown (text : Text)

namespace Word

/-- Whether the word is a flag or looks like one. -/
def isFlag : Word σ → Bool
  | flag .. | letters .. | unknown _ => true
  | _ => false

/-- The word as it was given. -/
def text : Word σ → Text
  | argument t | unknown t | flag t .. | letters t .. => t
  | separator => ['-', '-']

end Word

/-- All spellings with their flags. -/
def spellings (flags : List (Flag σ)) : List (Text × Flag σ) :=
  flags.flatMap fun f => f.spellings.map fun s => (s, f)

/-- A text up to its first equals sign, and what follows that sign. -/
def splitValue (t : Text) : Text × Option Text :=
  match t.dropWhile (· != '=') with
  | [] => (t, none)
  | _ :: value => (t.takeWhile (· != '='), some value)

/-- Whether a text is a negative number, which is never a flag. -/
def isNegativeNumber (t : Text) : Bool :=
  let isDigit := fun c => (Text.digitValue? c).isSome
  let body := if t.getLast? == some '\n' then t.dropLast else t
  match body with
  | '-' :: number =>
      let whole := number.takeWhile isDigit
      match number.dropWhile isDigit with
      | [] => !whole.isEmpty
      | '.' :: places => !places.isEmpty && places.all isDigit
      | _ => false
  | _ => false

/-- The flags that a shortened spelling may mean. -/
def candidates (flags : List (Flag σ)) (t : Text) : List (Word σ) :=
  match t with
  | '-' :: '-' :: _ =>
      let (beginning, value) := splitValue t
      ((spellings flags).filter fun e => beginning.isPrefixOf e.1).map fun e => .flag t e.2 value
  | '-' :: c :: rest =>
      ((spellings flags).filter fun e => e.1 = ['-', c]).map fun e => .letters t e.2 rest
  | _ => []

/-- The flag that is spelled in full in front of an equals sign. -/
def fullSpelling? (flags : List (Flag σ)) (t : Text) : Option (Word σ) :=
  match splitValue t with
  | (spelling, some value) =>
      ((spellings flags).lookup spelling).map fun f =>
        if ['-', '-'].isPrefixOf spelling then .flag t f (some value) else .letters t f value
  | (_, none) => none

/-- What a word is that begins with a dash and is no flag as it stands. -/
def classifyDashed (flags : List (Flag σ)) (t : Text) : Except Halt (Word σ) :=
  match fullSpelling? flags t, candidates flags t with
  | some word, _ => .ok word
  | none, [word] => .ok word
  | none, [] =>
      if isNegativeNumber t || t.contains ' ' then .ok (.argument t) else .ok (.unknown t)
  | none, _ => .error .misuse

/-- What a word in front of the separator is. -/
def classifyWord (flags : List (Flag σ)) (t : Text) : Except Halt (Word σ) :=
  match t with
  | '-' :: _ :: _ =>
      match (spellings flags).lookup t with
      | some f => .ok (.flag t f none)
      | none => classifyDashed flags t
  | _ => .ok (.argument t)

/-- What the words of a command line are. -/
def classify (flags : List (Flag σ)) : List Text → Except Halt (List (Word σ))
  | [] => .ok []
  | t :: rest =>
      if t = ['-', '-'] then .ok (.separator :: rest.map .argument)
      else do
        let word ← classifyWord flags t
        let words ← classify flags rest
        return word :: words

/-! ## Filling slots -/

/-- Whether a word is an argument. -/
def isArgument : Word σ → Bool
  | .argument _ => true
  | _ => false

/-- Whether a word is the separator. -/
def isSeparator : Word σ → Bool
  | .separator => true
  | _ => false

/-- How many words a slot takes from the front, if it can be filled. -/
def taken? (shape : SlotShape) (words : List (Word σ)) : Option Nat :=
  let skipped := (words.takeWhile isSeparator).length
  match words.drop skipped with
  | .argument _ :: after =>
      match shape with
      | .one => some (skipped + 1 + (after.takeWhile isSeparator).length)
      | .oneOrMore =>
          some (skipped + 1 + (after.takeWhile fun w => isArgument w || isSeparator w).length)
      | .rest => some words.length
  | _ => none

/-- The arguments for a slot; the first separator among them is dropped, unless the slot takes
everything. -/
def argumentsFor (shape : SlotShape) (words : List (Word σ)) : List Text :=
  let texts := words.map Word.text
  match shape with
  | .rest => texts
  | _ => texts.erase ['-', '-']

/-- The state of reading: the settings, the slots still to fill and what was not understood. -/
structure Progress (σ : Type) where
  settings : σ
  slots : List (Slot σ)
  leftOver : List Text

/-- Fills as many slots as possible from the front; gives what is left of the words. -/
def fillSlots (p : Progress σ) (words : List (Word σ)) :
    List (Slot σ) → Except Halt (Progress σ × List (Word σ))
  | [] => .ok ({ p with slots := [] }, words)
  | slot :: slots =>
      match taken? slot.shape words with
      | none => .ok ({ p with slots := slot :: slots }, words)
      | some n =>
          match slot.apply (argumentsFor slot.shape (words.take n)) p.settings with
          | .error h => .error h
          | .ok settings => fillSlots { p with settings := settings } (words.drop n) slots

/-! ## Applying flags -/

/-- A flag of one letter and what is written behind it: the flags that stand in front, and the last one
with the value joined to it.  Behind a flag without a value every character has to be a flag. -/
def separateLetters (flags : List (Flag σ)) (f : Flag σ) :
    Text → Except Halt (List (Flag σ) × Flag σ × Option Text)
  | [] => if f.takesValue then .ok ([], f, some []) else .error .misuse
  | c :: rest =>
      if f.takesValue then .ok ([], f, some (c :: rest))
      else
        match (spellings flags).lookup ['-', c] with
        | none => .error .misuse
        | some g =>
            if rest.isEmpty then .ok ([f], g, none)
            else (separateLetters flags g rest).map fun (more, last) => (f :: more, last)

/-- The value of a flag, and the words left behind it. -/
def valueOf (f : Flag σ) (joined : Option Text) (rest : List (Word σ)) :
    Except Halt (Text × List (Word σ)) :=
  match f.takesValue, joined, rest with
  | true, some value, rest => .ok (value, rest)
  | true, none, .argument value :: rest => .ok (value, rest)
  | false, none, rest => .ok ([], rest)
  | _, _, _ => .error .misuse

/-- Applies flags without a value in order. -/
def applyAll (settings : σ) : List (Flag σ) → Except Halt σ
  | [] => .ok settings
  | f :: rest => do
      let settings ← f.apply [] settings
      applyAll settings rest

/-- Takes in the word at the front, which is a flag or looks like one; gives what is left.  Nothing is
applied before the whole word is understood. -/
def takeFlag (flags : List (Flag σ)) (p : Progress σ) :
    List (Word σ) → Except Halt (Progress σ × List (Word σ))
  | .flag _ f joined :: rest => do
      let (value, rest) ← valueOf f joined rest
      let settings ← f.apply value p.settings
      return ({ p with settings := settings }, rest)
  | .letters _ f after :: rest => do
      let (given, last, joined) ← separateLetters flags f after
      let (value, rest) ← valueOf last joined rest
      let settings ← applyAll p.settings given
      let settings ← last.apply value settings
      return ({ p with settings := settings }, rest)
  | word :: rest => .ok ({ p with leftOver := p.leftOver ++ [word.text] }, rest)
  | [] => .ok (p, [])

/-! ## Whole command lines -/

/-- Fills slots with what is left once no flag is left. -/
def readEnd (p : Progress σ) (words : List (Word σ)) : Except Halt (Progress σ) := do
  let (p, words) ← fillSlots p words p.slots
  return { p with leftOver := p.leftOver ++ words.map Word.text }

/-- Reads words.  Arguments in front of a flag fill slots if they can; arguments for which there is no
slot are left over.  Each round uses up at least one word, so as much `fuel` as there are words is
enough. -/
def readWords (flags : List (Flag σ)) (p : Progress σ) (words : List (Word σ)) :
    Nat → Except Halt (Progress σ)
  | 0 => readEnd p words
  | fuel + 1 =>
      if !words.any Word.isFlag then readEnd p words
      else
        match words with
        | [] => readEnd p words
        | word :: rest =>
            if word.isFlag then do
              let (p, words) ← takeFlag flags p (word :: rest)
              readWords flags p words fuel
            else do
              let (p, after) ← fillSlots p words p.slots
              if after.length < words.length then
                readWords flags p after fuel
              else
                let passed := words.takeWhile fun w => !w.isFlag
                let p := { p with leftOver := p.leftOver ++ passed.map Word.text }
                readWords flags p (words.dropWhile fun w => !w.isFlag) fuel

/-- The settings that a command line asks for, starting from some, and what was not understood.  Every
required slot has to be filled. -/
def read (g : Grammar σ) (settings : σ) (line : List Text) : Except Halt (σ × List Text) := do
  let words ← classify g.flags line
  let p ← readWords g.flags ⟨settings, g.slots, []⟩ words words.length
  if p.slots.any (·.isRequired) then .error .misuse
  else return (p.settings, p.leftOver)

end Grammar

end IgnoreRules
