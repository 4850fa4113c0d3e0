import IgnoreRules.Cli.Grammar

/-!
# The command line

What a command line can ask for: one of four commands with its options, the usage, or the version.

## Main definitions

* `Command`, `Invocation` : what is asked for.
* `Invocation.parse` : reading a command line.
-/

namespace IgnoreRules

/-- Where the rules come from. -/
structure RuleSources where
  /-- Whether the templates of the languages are used. -/
  templates : Bool := true
  /-- Whether the project's own ignore file is used. -/
  ownFile : Bool := true
  /-- Further ignore files, in order. -/
  files : List Text := []
  deriving DecidableEq, Repr

/-- What to do. -/
inductive Command
  /-- Tell which paths are ignored. -/
  | check (directory : Text) (paths : List Text) (sources : RuleSources) (json : Bool)
  /-- List the languages of a project. -/
  | detect (directory : Text)
  /-- Count lines by language. -/
  | stats (directory : Text) (sources : RuleSources) (json : Bool)
  /-- Look for problems in an ignore file. -/
  | validate (file : Text)
  deriving DecidableEq, Repr

/-- A command line that was understood; without a command it asks for the usage. -/
structure Invocation where
  logLevel : Option Text := none
  command : Option Command := none
  deriving DecidableEq, Repr

namespace Invocation

/-! ## Flags -/

/-- A flag for the usage. -/
def helpFlag (σ : Type) : Flag σ :=
  ⟨["-h".toList, "--help".toList], false, fun _ _ => .error .help⟩

/-- A flag for the version. -/
def versionFlag (σ : Type) : Flag σ :=
  ⟨["--version".toList], false, fun _ _ => .error .version⟩

/-- A flag without a value. -/
def switch (spelling : String) (effect : σ → σ) : Flag σ :=
  ⟨[spelling.toList], false, fun _ settings => .ok (effect settings)⟩

/-- A flag with a value. -/
def option (spelling : String) (effect : Text → σ → σ) : Flag σ :=
  ⟨[spelling.toList], true, fun value settings => .ok (effect value settings)⟩

/-! ## Slots -/

/-- A slot for one argument that has to be there. -/
def single (effect : Text → σ → σ) : Slot σ :=
  ⟨.one, true, fun arguments settings =>
    match arguments with
    | [t] => .ok (effect t settings)
    | _ => .error .misuse⟩

/-- A slot for one or more arguments. -/
def several (effect : List Text → σ → σ) : Slot σ :=
  ⟨.oneOrMore, true, fun arguments settings => .ok (effect arguments settings)⟩

/-! ## The commands -/

/-- The settings of a command while its arguments are read. -/
structure Draft where
  subject : Text := []
  paths : List Text := []
  sources : RuleSources := {}
  json : Bool := false

/-- The flags that choose where rules come from. -/
def sourceFlags : List (Flag Draft) :=
  [switch "--no-templates" fun d => { d with sources := { d.sources with templates := false } },
    switch "--no-gitignore" fun d => { d with sources := { d.sources with ownFile := false } },
    option "--ignore-file" fun file d =>
      { d with sources := { d.sources with files := d.sources.files ++ [file] } }]

/-- The flag for output that programs can read. -/
def jsonFlag : Flag Draft :=
  switch "--json" fun d => { d with json := true }

/-- The slot for the directory or file that a command is about. -/
def subjectSlot : Slot Draft :=
  single fun t d => { d with subject := t }

/-- A command: its name, its grammar, and how its settings are read. -/
structure Form where
  name : String
  grammar : Grammar Draft
  finish : Draft → Command

/-- The commands. -/
def forms : List Form :=
  [⟨"check",
      ⟨helpFlag Draft :: sourceFlags ++ [jsonFlag],
        [subjectSlot, several fun paths d => { d with paths := paths }]⟩,
      fun d => .check d.subject d.paths d.sources d.json⟩,
    ⟨"detect", ⟨[helpFlag Draft], [subjectSlot]⟩, fun d => .detect d.subject⟩,
    ⟨"stats", ⟨helpFlag Draft :: sourceFlags ++ [jsonFlag], [subjectSlot]⟩,
      fun d => .stats d.subject d.sources d.json⟩,
    ⟨"validate", ⟨[helpFlag Draft], [subjectSlot]⟩, fun d => .validate d.subject⟩]

/-- Reads a command with its arguments. -/
def readCommand (arguments : List Text) : Except Halt Command :=
  match arguments with
  | [] => .error .misuse
  | name :: rest =>
      match forms.find? fun form => form.name.toList = name with
      | none => .error .misuse
      | some form =>
          match form.grammar.read {} rest with
          | .error h => .error h
          | .ok (d, []) => .ok (form.finish d)
          | .ok (_, _ :: _) => .error .misuse

/-- The slot for a command. -/
def commandSlot : Slot Invocation :=
  ⟨.rest, false, fun arguments i =>
    match readCommand arguments with
    | .error h => .error h
    | .ok command => .ok { i with command := some command }⟩

/-! ## Whole command lines -/

/-- The grammar of all command lines. -/
def grammar : Grammar Invocation :=
  ⟨[helpFlag Invocation, versionFlag Invocation,
      option "--log-level" fun level i => { i with logLevel := some level }],
    [commandSlot]⟩

/-- Reads a command line. -/
def parse (line : List Text) : Except Halt Invocation :=
  match grammar.read {} line with
  | .error h => .error h
  | .ok (i, []) => .ok i
  | .ok (_, _ :: _) => .error .misuse

end Invocation

end IgnoreRules
