import IgnoreRules.Project.Basic
import IgnoreRules.Proofs.Json.Texts
import IgnoreRules.Proofs.RuleSet.Text
import Mathlib.Data.List.Forall2

/-!
# Runs of a project

A project is worked on by operations, and between them the world may change in any way.  Some
operations ask and some set texts; either may fail.  As long as all texts are texts, the rules are those
that the texts determine: one text after the other if each can be compiled, and none at all otherwise.
Something that is no text only comes from a template; it makes setting up the project fail, and the
rules of earlier texts stay beside it.

* `Session.Operation`, `Session.perform` : what can be done to a project;
* `Session.Event`, `Session.run` : operations and changes of the world, one after the other;
* `Project.RulesOf`, `Project.Coherent` : what the rules have to do with the texts;
* `Session.perform_cases` : an operation leaves texts and rules alone, or sets the texts;
* `Session.run_coherent` : what holds of the texts and the rules at all times.
-/

namespace IgnoreRules

/-! ## The rules of several texts -/

namespace Session

/-- Texts that are read as one state the rules they state one by one. -/
theorem ofText_joinTexts (texts : List Text) :
    Rule.ofText (joinTexts texts) = texts.flatMap Rule.ofText := by
  unfold joinTexts
  induction texts with
  | nil => rfl
  | cons t texts ih =>
      cases texts with
      | nil =>
          rw [List.intercalate_singleton]
          exact (List.append_nil _).symm
      | cons next texts =>
          -- The empty line between two texts is a text of its own, without rules.
          have hempty : Rule.ofText [] = [] := rfl
          have hsplit : List.intercalate ['\n', '\n'] (t :: next :: texts) =
              t ++ '\n' :: ([] ++ '\n' :: List.intercalate ['\n', '\n'] (next :: texts)) := by
            rw [List.intercalate_cons_cons, List.append_assoc]
            rfl
          rw [hsplit, Rule.ofText_append_lineFeed, Rule.ofText_append_lineFeed, hempty, ih]
          rfl

end Session

namespace Project

/-- The rules that some texts determine: those of one text after the other if each text builds a set,
and none if one of them does not. -/
structure RulesOf (dir : Path) (texts : List Text) (s : RuleSet) : Prop where
  root : s.root = dir
  joined : (∀ t ∈ texts, ∃ r, RuleSet.ofText dir t = .ok r) →
    ∃ sets, List.Forall₂ (fun t r => RuleSet.ofText dir t = .ok r) texts sets ∧
      s.rules = sets.flatMap (·.rules)
  refused : (∃ t ∈ texts, ∀ r, RuleSet.ofText dir t ≠ .ok r) → s = RuleSet.empty dir

section Texts

variable {dir : Path} {texts : List Text} {s : RuleSet}

theorem flatMap_rules {sets : List RuleSet}
    (h : List.Forall₂ (fun t r => RuleSet.ofText dir t = .ok r) texts sets) :
    sets.flatMap (·.rules) = texts.flatMap Rule.ofText := by
  induction h with
  | nil => rfl
  | cons hset _ ih =>
      rw [List.flatMap_cons, List.flatMap_cons, ih, (RuleSet.rules_of_ofText hset).2]

theorem exists_sets (h : ∀ t ∈ texts, ∃ r, RuleSet.ofText dir t = .ok r) :
    ∃ sets, List.Forall₂ (fun t r => RuleSet.ofText dir t = .ok r) texts sets ∧
      texts.flatMap Rule.ofText = sets.flatMap (·.rules) := by
  induction texts with
  | nil => exact ⟨[], .nil, rfl⟩
  | cons t texts ih =>
      rcases h t (List.mem_cons_self ..) with ⟨r, hr⟩
      rcases ih fun u hu => h u (List.mem_cons_of_mem t hu) with ⟨sets, hsets, -⟩
      exact ⟨r :: sets, .cons hr hsets, (flatMap_rules (.cons hr hsets)).symm⟩

/-- Texts read as one build a set exactly when each of them does. -/
theorem exists_ofText_joinTexts_iff :
    (∃ s, RuleSet.ofText dir (Session.joinTexts texts) = .ok s) ↔
      ∀ t ∈ texts, ∃ r, RuleSet.ofText dir t = .ok r := by
  simp only [RuleSet.exists_ofText_eq_ok_iff, Session.ofText_joinTexts, List.mem_flatMap]
  constructor
  · intro h t ht r hr
    exact h r ⟨t, ht, hr⟩
  · rintro h r ⟨t, ht, hr⟩
    exact h t ht r hr

theorem rulesOf_of_ofText (h : RuleSet.ofText dir (Session.joinTexts texts) = .ok s) :
    RulesOf dir texts s := by
  have hvalid : ∀ t ∈ texts, ∃ r, RuleSet.ofText dir t = .ok r :=
    exists_ofText_joinTexts_iff.1 ⟨s, h⟩
  have hrules := RuleSet.rules_of_ofText h
  refine ⟨hrules.1, ?_, ?_⟩
  · intro _
    rcases exists_sets hvalid with ⟨sets, hsets, hjoined⟩
    exact ⟨sets, hsets, by rw [hrules.2, Session.ofText_joinTexts, hjoined]⟩
  · rintro ⟨t, ht, hbad⟩
    rcases hvalid t ht with ⟨r, hr⟩
    exact absurd hr (hbad r)

theorem rulesOf_empty {e : CompileError}
    (h : RuleSet.ofText dir (Session.joinTexts texts) = .error e) :
    RulesOf dir texts (RuleSet.empty dir) := by
  refine ⟨rfl, ?_, fun _ => rfl⟩
  intro hvalid
  rcases exists_ofText_joinTexts_iff.2 hvalid with ⟨s, hs⟩
  rw [h] at hs
  cases hs

/-- Texts that build sets determine the rules they state one after the other. -/
theorem RulesOf.rules_eq (h : RulesOf dir texts s)
    (hvalid : ∀ t ∈ texts, ∃ r, RuleSet.ofText dir t = .ok r) :
    s.rules = texts.flatMap Rule.ofText := by
  obtain ⟨sets, hsets, hrules⟩ := h.joined hvalid
  exact hrules.trans (flatMap_rules hsets)

theorem exists_rulesOf (hvalid : ∀ t ∈ texts, ∃ r, RuleSet.ofText dir t = .ok r) :
    ∃ s, RulesOf dir texts s := by
  obtain ⟨s, hs⟩ := exists_ofText_joinTexts_iff.2 hvalid
  exact ⟨s, rulesOf_of_ofText hs⟩

/-- Wherever texts that build sets are cut in two, the later ones have the say where one of their rules
applies. -/
theorem RulesOf.later {A B : List Text} (h : RulesOf dir (A ++ B) s)
    (hvalid : ∀ t ∈ A ++ B, ∃ r, RuleSet.ofText dir t = .ok r) :
    ∃ a b, RulesOf dir A a ∧ RulesOf dir B b ∧ ∀ p isDir, s.isIgnored p isDir =
      if b.rules.any (Rule.applies (s.candidate p) isDir) then b.isIgnored p isDir
      else a.isIgnored p isDir := by
  obtain ⟨hvalidA, hvalidB⟩ := List.forall_mem_append.1 hvalid
  obtain ⟨a, ha⟩ := exists_rulesOf hvalidA
  obtain ⟨b, hb⟩ := exists_rulesOf hvalidB
  have hrules : s.rules = a.rules ++ b.rules := by
    rw [h.rules_eq hvalid, ha.rules_eq hvalidA, hb.rules_eq hvalidB, List.flatMap_append]
  refine ⟨a, b, ha, hb, ?_⟩
  intro p isDir
  exact RuleSet.isIgnored_of_parts (h.root.trans ha.root.symm) (h.root.trans hb.root.symm) hrules

end Texts

/-! ## Coherence -/

/-- Rules and texts belong together: there are neither, or the rules are those of the texts. -/
structure Coherent (p : Project) : Prop where
  texts_ne_nil : p.texts ≠ some []
  rules : (p.rules = none ∧ p.texts = none) ∨
    ∃ s texts, p.rules = some s ∧ p.texts.getD [] = texts.map .string ∧ RulesOf p.dir texts s

/-- What holds of a project at all times: its rules are those of some texts, and they are those of its
own texts unless one of these is no text. -/
structure Sound (p : Project) : Prop where
  texts_ne_nil : p.texts ≠ some []
  rules : ∀ s, p.rules = some s → ∃ texts, RulesOf p.dir texts s
  coherent : Json.AreTexts (p.texts.getD []) → p.Coherent

/-- What coherence is about stays the same. -/
structure SameRules (p q : Project) : Prop where
  dir : q.dir = p.dir
  texts : q.texts = p.texts
  rules : q.rules = p.rules

theorem SameRules.refl (p : Project) : SameRules p p :=
  ⟨rfl, rfl, rfl⟩

theorem Coherent.of_sameRules {p q : Project} (hp : p.Coherent) (h : SameRules p q) : q.Coherent := by
  refine ⟨?_, ?_⟩
  · rw [h.texts]
    exact hp.texts_ne_nil
  · rw [h.rules, h.texts, h.dir]
    exact hp.rules

theorem Sound.of_sameRules {p q : Project} (hp : p.Sound) (h : SameRules p q) : q.Sound := by
  refine ⟨?_, ?_, fun htexts => ?_⟩
  · rw [h.texts]
    exact hp.texts_ne_nil
  · rw [h.rules, h.dir]
    exact hp.rules
  · rw [h.texts] at htexts
    exact (hp.coherent htexts).of_sameRules h

theorem Coherent.areTexts {p : Project} (h : p.Coherent) : Json.AreTexts (p.texts.getD []) := by
  rcases h.rules with ⟨-, hnone⟩ | ⟨s, texts, -, htexts, -⟩
  · rw [hnone]
    exact ⟨[], rfl⟩
  · exact ⟨texts, htexts⟩

/-- Texts that belong together with rules determine them. -/
theorem Coherent.exists_rules {p : Project} {texts : List Text} (h : p.Coherent)
    (htexts : p.texts = some (texts.map .string)) : ∃ s, p.rules = some s ∧ RulesOf p.dir texts s := by
  rcases h.rules with ⟨-, hnone⟩ | ⟨s, texts', hs, htexts', hof⟩
  · rw [htexts] at hnone
    cases hnone
  · rw [htexts, Option.getD_some] at htexts'
    have hsame : texts = texts' := Json.map_string_inj htexts'
    exact ⟨s, hs, hsame ▸ hof⟩

theorem sound_of_ofDirectory {directory : Text} {store : Option TemplateStore}
    {detectors : Detectors} {files : FileSystem} {p : Project}
    (h : ofDirectory directory store detectors files = .ok p) :
    p.Sound ∧ p.dir = Path.parse directory ∧ p.texts = none := by
  unfold ofDirectory at h
  dsimp only at h
  split at h
  · cases h
  · cases h
  · split at h
    · cases h
    · cases h
      exact ⟨⟨nofun, nofun, fun _ => ⟨nofun, Or.inl ⟨rfl, rfl⟩⟩⟩, rfl, rfl⟩

end Project

namespace Session

/-! ## Operations -/

/-- What can be done to a project. -/
inductive Operation
  | parse
  | setText (text : Text) (keepExisting : Bool)
  | useIgnoreFile (keepExisting : Bool)
  | check (path : Text)
  | countLines
  | describe
  deriving DecidableEq, Repr

namespace Operation

/-- Whether the operation only asks. -/
def isQuestion : Operation → Bool
  | parse | setText _ _ | useIgnoreFile _ => false
  | check _ | countLines | describe => true

end Operation

/-- What an operation answers. -/
inductive Answer
  | done
  | finding (f : Finding)
  | counts (c : Statistics)
  | shown (text : String)

/-- Carries out an operation; one that fails may leave another session behind as well. -/
def perform (s : Session) : Operation → Except Failure Answer × Session
  | .parse => let (outcome, s) := s.parse; (outcome.map fun _ => .done, s)
  | .setText text keepExisting =>
      let (outcome, s) := s.setText text keepExisting; (outcome.map fun _ => .done, s)
  | .useIgnoreFile keepExisting =>
      let (outcome, s) := s.useIgnoreFile keepExisting; (outcome.map fun _ => .done, s)
  | .check path => let (outcome, s) := s.check path; (outcome.map .finding, s)
  | .countLines => let (counts, s) := s.countLines; (.ok (.counts counts), s)
  | .describe => (.ok (.shown s.project.describe), s)

/-- What happens to a session. -/
inductive Event
  | operation (o : Operation)
  /-- The world becomes another: files, replies of the web and the environment may all differ. -/
  | change (w : World)

/-- The session after an event, whether it failed or not. -/
def after (s : Session) : Event → Session
  | .operation o => (s.perform o).2
  | .change w => { s with world := w }

/-- The session after several events. -/
def run (s : Session) (events : List Event) : Session :=
  events.foldl after s

section Steps

open Project

variable {s : Session} {chosen : Option (List Json)} {texts : List Text}

/-! ## What an operation can do -/

/-- Building rules from some texts gives the rules that they determine, and changes nothing else. -/
theorem project_build (s : Session) (texts : List Text) :
    ∃ rules, (s.build texts).project = { s.project with rules := some rules } ∧
      RulesOf s.project.dir texts rules := by
  unfold build
  dsimp only
  split
  · next rules hbuilt => exact ⟨rules, rfl, rulesOf_of_ofText hbuilt⟩
  · next e hbad => exact ⟨_, rfl, rulesOf_empty hbad⟩

theorem files_build (s : Session) (texts : List Text) : (s.build texts).world.files = s.world.files := by
  unfold build
  dsimp only
  split
  · rfl
  · rfl

theorem setTexts_of_texts (h : chosen.getD [] = texts.map .string) :
    s.setTexts chosen =
      (.ok (), build { s with project := { s.project with texts := chosen } } texts) := by
  unfold setTexts rebuild
  dsimp only
  rw [Json.textsFrom_eq_ok_iff.2 h]

/-- With something among the texts that is no text, the texts are set and the rules stay. -/
theorem setTexts_of_notText {e : Json.NotText} (h : Json.textsFrom 0 (chosen.getD []) = .error e) :
    s.setTexts chosen =
      (.error (.notText e), { s with project := { s.project with texts := chosen } }) := by
  unfold setTexts rebuild
  dsimp only
  rw [h]

/-- Setting texts builds the rules that they determine, and changes nothing else. -/
theorem project_setTexts (s : Session) (h : chosen.getD [] = texts.map .string) :
    ∃ rules, (s.setTexts chosen).2.project = { s.project with texts := chosen, rules := some rules } ∧
      RulesOf s.project.dir texts rules := by
  rw [setTexts_of_texts h]
  exact project_build { s with project := { s.project with texts := chosen } } texts

theorem files_setTexts (s : Session) (chosen : Option (List Json)) :
    (s.setTexts chosen).2.world.files = s.world.files := by
  rcases Json.areTexts_or (chosen.getD []) with ⟨texts, h⟩ | ⟨front, value, behind, h, hvalue⟩
  · rw [setTexts_of_texts h]
    exact files_build _ texts
  · rw [setTexts_of_notText (h ▸ Json.textsFrom_append_cons 0 front behind hvalue)]

/-- Whatever is set for texts is there afterwards, and the languages are left alone. -/
theorem texts_setTexts (s : Session) (chosen : Option (List Json)) :
    (s.setTexts chosen).2.project.texts = chosen ∧
      (s.setTexts chosen).2.project.dir = s.project.dir ∧
      (s.setTexts chosen).2.project.languages = s.project.languages := by
  rcases Json.areTexts_or (chosen.getD []) with ⟨texts, h⟩ | ⟨front, value, behind, h, hvalue⟩
  · obtain ⟨rules, hproject, -⟩ := project_setTexts s h
    rw [hproject]
    exact ⟨rfl, rfl, rfl⟩
  · rw [setTexts_of_notText (h ▸ Json.textsFrom_append_cons 0 front behind hvalue)]
    exact ⟨rfl, rfl, rfl⟩

/-- Setting texts fails where one of them is no text. -/
theorem fst_setTexts (s : Session) (chosen : Option (List Json)) :
    (s.setTexts chosen).1 =
      ((Json.textsFrom 0 (chosen.getD [])).map fun _ => ()).mapError .notText := by
  unfold setTexts rebuild
  dsimp only
  split
  · next h => rw [h]; rfl
  · next h => rw [h]; rfl

theorem sound_setTexts (hrules : ∀ r, s.project.rules = some r → ∃ texts, RulesOf s.project.dir texts r)
    (h : chosen ≠ some []) : (s.setTexts chosen).2.project.Sound := by
  rcases Json.areTexts_or (chosen.getD []) with ⟨texts, htexts⟩ | ⟨front, value, behind, htexts, hvalue⟩
  · obtain ⟨rules, hproject, hof⟩ := project_setTexts s htexts
    rw [hproject]
    refine ⟨h, ?_, fun _ => ⟨h, Or.inr ⟨rules, texts, rfl, htexts, hof⟩⟩⟩
    rintro r hr
    cases hr
    exact ⟨texts, hof⟩
  · have hfailed := Json.textsFrom_append_cons 0 front behind hvalue
    rw [← htexts] at hfailed
    rw [setTexts_of_notText hfailed]
    exact ⟨h, hrules, fun hare => absurd hare (Json.not_areTexts hfailed)⟩

theorem templateTexts_sameRules (s : Session) (languages : List Text) :
    SameRules s.project (s.templateTexts languages).2.project := by
  unfold templateTexts
  split
  · exact .refl _
  · split
    · exact ⟨rfl, rfl, rfl⟩
    · exact ⟨rfl, rfl, rfl⟩
    · exact ⟨rfl, rfl, rfl⟩

/-- The texts, the rules and the languages after an operation that only asks are those before it. -/
theorem perform_question (s : Session) {o : Operation} (h : o.isQuestion = true) :
    SameRules s.project (s.perform o).2.project ∧
      (s.perform o).2.project.languages = s.project.languages := by
  cases o with
  | check path =>
      unfold perform check
      dsimp only
      split
      · exact ⟨.refl _, rfl⟩
      · exact ⟨.refl _, rfl⟩
      · split
        · exact ⟨.refl _, rfl⟩
        · exact ⟨.refl _, rfl⟩
  | countLines => exact ⟨⟨rfl, rfl, rfl⟩, rfl⟩
  | describe => exact ⟨.refl _, rfl⟩
  | parse => cases h
  | setText text keepExisting => cases h
  | useIgnoreFile keepExisting => cases h

/-- An operation sets texts: those there were, further texts, or, when a project is set up, whatever its
templates bring.  Nothing else about texts and rules has changed before. -/
structure SetsTexts (s : Session) (o : Operation) (s' : Session) (chosen : Option (List Json)) :
    Prop where
  dir : s'.project.dir = s.project.dir
  rules : s'.project.rules = s.project.rules
  ne_nil : chosen ≠ some []
  perform : s.perform o = ((s'.setTexts chosen).1.map fun _ => .done, (s'.setTexts chosen).2)
  brought : o = .parse ∨ ∀ v ∈ chosen.getD [], v ∈ s.project.texts.getD [] ∨ ∃ t, v = .string t

theorem perform_parse (s : Session) :
    s.perform .parse = (s.parse.1.map fun _ => .done, s.parse.2) :=
  rfl

theorem perform_useIgnoreFile (s : Session) (keepExisting : Bool) :
    s.perform (.useIgnoreFile keepExisting) =
      ((s.useIgnoreFile keepExisting).1.map fun _ => .done, (s.useIgnoreFile keepExisting).2) :=
  rfl

/-- The session once its languages are known. -/
def knowing (s : Session) (languages : List Text) (w : World) : Session :=
  ⟨{ s.project with languages := some languages }, w⟩

/-- Setting up a project ends where no languages can be looked for, or where their templates cannot be
had; otherwise it sets what the templates bring for the texts. -/
theorem parse_ends (s : Session) :
    (∃ e w, s.world.detect s.project.detectors s.project.dir = (.error e, w) ∧
      s.parse = (.error (.file e), { s with world := w })) ∨
    ∃ languages w, s.world.detect s.project.detectors s.project.dir = (.ok languages, w) ∧
      ((∃ e s', (s.knowing languages w).templateTexts languages = (.error e, s') ∧
          s.parse = (.error e, s')) ∨
        ∃ texts s', (s.knowing languages w).templateTexts languages = (.ok texts, s') ∧
          s.parse = s'.setTexts (if texts.isEmpty then none else some texts)) := by
  unfold parse knowing
  rcases s.world.detect s.project.detectors s.project.dir with ⟨e | languages, w⟩
  · exact Or.inl ⟨e, w, rfl, rfl⟩
  · refine Or.inr ⟨languages, w, rfl, ?_⟩
    dsimp only
    rcases templateTexts ⟨{ s.project with languages := some languages }, w⟩ languages with ⟨e | texts, s'⟩
    · exact Or.inl ⟨e, s', rfl, rfl⟩
    · exact Or.inr ⟨texts, s', rfl, rfl⟩

/-- Once the languages are known, setting up a project fails as asking for their templates does, or sets
what they bring. -/
theorem parse_of_detect {languages : List Text} {w : World}
    (hdetect : s.world.detect s.project.detectors s.project.dir = (.ok languages, w)) :
    (∀ e, ((s.knowing languages w).templateTexts languages).1 = .error e → s.parse.1 = .error e) ∧
      ∀ texts s', (s.knowing languages w).templateTexts languages = (.ok texts, s') →
        s.parse = s'.setTexts (if texts.isEmpty then none else some texts) := by
  rcases parse_ends s with ⟨e, v, hfailed, -⟩ | ⟨found, v, hfound, hends⟩
  · rw [hdetect] at hfailed
    cases hfailed
  · rw [hdetect] at hfound
    cases hfound
    rcases hends with ⟨e, s', hfailed, hparse⟩ | ⟨texts, s', htexts, hparse⟩
    · rw [hfailed]
      constructor
      · intro e' he
        cases he
        exact congrArg Prod.fst hparse
      · intro texts s'' hother
        cases hother
    · rw [htexts]
      constructor
      · intro e' hother
        cases hother
      · intro texts' s'' hsame
        cases hsame
        exact hparse

/-- No texts at all and an empty list of texts come to the same. -/
theorem getD_brought (texts : List Json) :
    (if texts.isEmpty then none else some texts).getD [] = texts := by
  cases texts with
  | nil => rfl
  | cons v texts => rfl

theorem parse_cases (s : Session) :
    SameRules s.project (s.perform .parse).2.project ∨ ∃ s' chosen, SetsTexts s .parse s' chosen := by
  rw [perform_parse]
  rcases parse_ends s with ⟨e, w, -, hparse⟩ | ⟨languages, w, -, hends⟩
  · left
    rw [hparse]
    exact .refl _
  · -- Before the texts are set, only the languages and the store have changed.
    have hsame := templateTexts_sameRules (s.knowing languages w) languages
    rcases hends with ⟨e, s', hfailed, hparse⟩ | ⟨texts, s', htexts, hparse⟩
    · left
      rw [hfailed] at hsame
      rw [hparse]
      exact ⟨hsame.dir, hsame.texts, hsame.rules⟩
    · right
      rw [htexts] at hsame
      refine ⟨s', _, hsame.dir, hsame.rules, ?_, by rw [perform_parse, hparse], Or.inl rfl⟩
      cases texts with
      | nil => nofun
      | cons v texts => nofun

/-- One more text, in a world where only the journal may have grown. -/
theorem setsTexts_setText {o : Operation} (w : World) (text : Text) (keepExisting : Bool)
    (h : s.perform o = ((({ s with world := w } : Session).setText text keepExisting).1.map fun _ => .done,
      (({ s with world := w } : Session).setText text keepExisting).2)) :
    ∃ s' chosen, SetsTexts s o s' chosen := by
  refine ⟨{ s with world := w },
    some ((if keepExisting then s.project.texts.getD [] else []) ++ [Json.string text]), rfl, rfl, ?_, h,
    Or.inr ?_⟩
  · intro hnil
    exact List.append_ne_nil_of_right_ne_nil _ (List.cons_ne_nil _ []) (Option.some.inj hnil)
  · intro v hv
    rw [Option.getD_some] at hv
    rcases List.mem_append.1 hv with hold | hnew
    · left
      cases keepExisting with
      | true => exact hold
      | false => cases hold
    · exact Or.inr ⟨text, List.mem_singleton.1 hnew⟩

/-- Using the project's own file fails and leaves the project alone, or it adds a text. -/
theorem useIgnoreFile_ends (s : Session) (keepExisting : Bool) :
    (s.useIgnoreFile keepExisting).2.project = s.project ∨
      ∃ (w : World) (text : Text),
        s.useIgnoreFile keepExisting = ({ s with world := w } : Session).setText text keepExisting := by
  unfold useIgnoreFile
  split
  · exact Or.inl rfl
  · next f w _ =>
      dsimp only
      split
      · exact Or.inr ⟨w, [], rfl⟩
      · split
        · exact Or.inl rfl
        · next text _ => exact Or.inr ⟨w, text, rfl⟩

theorem useIgnoreFile_cases (s : Session) (keepExisting : Bool) :
    SameRules s.project (s.perform (.useIgnoreFile keepExisting)).2.project ∨
      ∃ s' chosen, SetsTexts s (.useIgnoreFile keepExisting) s' chosen := by
  rcases useIgnoreFile_ends s keepExisting with hsame | ⟨w, text, hset⟩
  · left
    rw [perform_useIgnoreFile, hsame]
    exact .refl _
  · right
    apply setsTexts_setText w text keepExisting
    rw [perform_useIgnoreFile, hset]

/-- An operation leaves the texts and the rules alone, or it sets texts and builds the rules from
them. -/
theorem perform_cases (s : Session) (o : Operation) :
    SameRules s.project (s.perform o).2.project ∨ ∃ s' chosen, SetsTexts s o s' chosen := by
  cases o with
  | parse => exact parse_cases s
  | setText text keepExisting => exact Or.inr (setsTexts_setText s.world text keepExisting rfl)
  | useIgnoreFile keepExisting => exact useIgnoreFile_cases s keepExisting
  | check path => exact Or.inl (perform_question s rfl).1
  | countLines => exact Or.inl (perform_question s rfl).1
  | describe => exact Or.inl (perform_question s rfl).1

/-! ## Runs -/

/-- An event keeps a project sound and its directory the same. -/
theorem sound_after (h : s.project.Sound) (e : Event) :
    (s.after e).project.Sound ∧ (s.after e).project.dir = s.project.dir := by
  cases e with
  | change w => exact ⟨h, rfl⟩
  | operation o =>
      have hafter : s.after (.operation o) = (s.perform o).2 := rfl
      rw [hafter]
      rcases perform_cases s o with hsame | ⟨s', chosen, hsets⟩
      · exact ⟨h.of_sameRules hsame, hsame.dir⟩
      · rw [hsets.perform]
        refine ⟨sound_setTexts ?_ hsets.ne_nil, (texts_setTexts s' chosen).2.1.trans hsets.dir⟩
        rw [hsets.rules, hsets.dir]
        exact h.rules

/-- So does any number of events; the induction is on the events, first to last. -/
theorem sound_run (h : s.project.Sound) (events : List Event) :
    (s.run events).project.Sound ∧ (s.run events).project.dir = s.project.dir := by
  induction events generalizing s with
  | nil => exact ⟨h, rfl⟩
  | cons e events ih =>
      have hstep := sound_after h e
      have hrest := ih hstep.1
      exact ⟨hrest.1, hrest.2.trans hstep.2⟩

theorem run_concat (s : Session) (events : List Event) (e : Event) :
    s.run (events ++ [e]) = (s.run events).after e := by
  unfold run
  rw [List.foldl_append]
  rfl

/-- Something that is no text has come from a template: some time the project was set up, and that
failed because of it.  The induction is on the events, last to first. -/
theorem exists_parse_of_mem (hstart : s.project.texts = none) {events : List Event} {v : Json}
    (hv : v ∈ (s.run events).project.texts.getD []) (hnot : ∀ t, v ≠ .string t) :
    ∃ front back e, events = front ++ .operation .parse :: back ∧
      ((s.run front).perform .parse).1 = .error (.notText e) ∧
      v ∈ ((s.run front).perform .parse).2.project.texts.getD [] := by
  induction events using List.reverseRecOn with
  | nil =>
      have hnone : (s.run []).project.texts = none := hstart
      rw [hnone] at hv
      cases hv
  | append_singleton events event ih =>
      rw [run_concat] at hv
      have hearlier : v ∈ (s.run events).project.texts.getD [] →
          ∃ front back e, events ++ [event] = front ++ .operation .parse :: back ∧
            ((s.run front).perform .parse).1 = .error (.notText e) ∧
            v ∈ ((s.run front).perform .parse).2.project.texts.getD [] := by
        intro hv
        obtain ⟨front, back, e, rfl, hfailed, hbrought⟩ := ih hv
        exact ⟨front, back ++ [event], e, by simp, hfailed, hbrought⟩
      cases event with
      | change w => exact hearlier hv
      | operation o =>
          have hafter : (s.run events).after (.operation o) = ((s.run events).perform o).2 := rfl
          rw [hafter] at hv
          rcases perform_cases (s.run events) o with hsame | ⟨s', chosen, hsets⟩
          · rw [hsame.texts] at hv
            exact hearlier hv
          · have hthere := hv
            rw [hsets.perform, (texts_setTexts s' chosen).1] at hv
            rcases hsets.brought with rfl | hbrought
            · -- This is the time when it came.
              have hare : ¬Json.AreTexts (chosen.getD []) := fun hare => by
                obtain ⟨t, ht⟩ := Json.areTexts_iff.1 hare v hv
                exact hnot t ht
              obtain ⟨e, he⟩ := Json.exists_notText hare 0
              refine ⟨events, [], e, rfl, ?_, hthere⟩
              rw [hsets.perform, setTexts_of_notText he]
              rfl
            · rcases hbrought v hv with hold | ⟨t, ht⟩
              · exact hearlier hold
              · exact absurd ht (hnot t)

/-- Whatever is done to a project after it was opened, and whatever becomes of the world meanwhile, its
rules are those its texts determine, relative to its directory, unless one of the texts is no text.
That is only so where setting up the project failed because of what a template brought; even then the
rules are those of some texts.  There are no texts without a text among them, and a question changes
neither texts nor languages nor rules. -/
theorem run_coherent {directory : Text} {store : Option TemplateStore} {detectors : Detectors}
    {files : FileSystem} {p : Project}
    (h : Project.ofDirectory directory store detectors files = .ok p) (w : World)
    (events : List Event) :
    (run ⟨p, w⟩ events).project.dir = Path.parse directory ∧
      (run ⟨p, w⟩ events).project.texts ≠ some [] ∧
      ((run ⟨p, w⟩ events).project.Coherent ↔
        Json.AreTexts ((run ⟨p, w⟩ events).project.texts.getD [])) ∧
      (∀ v ∈ (run ⟨p, w⟩ events).project.texts.getD [], (∀ t, v ≠ .string t) →
        ∃ front back e, events = front ++ .operation .parse :: back ∧
          ((run ⟨p, w⟩ front).perform .parse).1 = .error (.notText e) ∧
          v ∈ ((run ⟨p, w⟩ front).perform .parse).2.project.texts.getD []) ∧
      (∀ s, (run ⟨p, w⟩ events).project.rules = some s →
        ∃ texts, RulesOf (Path.parse directory) texts s) ∧
      ∀ o : Operation, o.isQuestion = true →
        ((run ⟨p, w⟩ events).perform o).2.project.texts = (run ⟨p, w⟩ events).project.texts ∧
        ((run ⟨p, w⟩ events).perform o).2.project.languages =
          (run ⟨p, w⟩ events).project.languages ∧
        ((run ⟨p, w⟩ events).perform o).2.project.rules = (run ⟨p, w⟩ events).project.rules := by
  obtain ⟨hsound, hdir, hnone⟩ := Project.sound_of_ofDirectory h
  obtain ⟨hrun, hsame⟩ := sound_run (s := ⟨p, w⟩) hsound events
  have hwhere : (run ⟨p, w⟩ events).project.dir = Path.parse directory := hsame.trans hdir
  refine ⟨hwhere, hrun.texts_ne_nil, ⟨Coherent.areTexts, hrun.coherent⟩, ?_, ?_, ?_⟩
  · intro v hv hnot
    exact exists_parse_of_mem (s := ⟨p, w⟩) hnone hv hnot
  · rw [← hwhere]
    exact hrun.rules
  · intro o ho
    have hquestion := perform_question (run ⟨p, w⟩ events) ho
    exact ⟨hquestion.1.texts, hquestion.2, hquestion.1.rules⟩

/-- A text that ends in a carriage return and one that starts with a line feed, added to each other,
keep their rules; a text that is no glob leaves none. -/
theorem run_coherent_joined :
    ∃ (w : World) (p : Project), Project.ofDirectory "p".toList none [] w.files = .ok p ∧
      (∃ s, (run ⟨p, w⟩ [.operation (.setText "*.log\r".toList false),
          .operation (.setText "\n!keep.log".toList true)]).project.rules = some s ∧
        s.rules = [⟨"**/*.log".toList, false, false, false⟩,
          ⟨"**/keep.log".toList, false, false, true⟩]) ∧
      (run ⟨p, w⟩ [.operation (.setText "*.log\r".toList false),
          .operation (.setText "[".toList true)]).project.rules =
        some (RuleSet.empty (Path.parse "p".toList)) := by
  let w : World := .ofFiles ⟨.folder "p".toList .empty .empty, []⟩
  let p : Project := { dir := Path.parse "p".toList, isGit := false, detectors := [], store := none }
  have hopened : Project.ofDirectory "p".toList none [] w.files = .ok p := rfl
  have hlog : Rule.ofText "*.log\r".toList = [⟨"**/*.log".toList, false, false, false⟩] := by decide
  have hkeep : Rule.ofText "\n!keep.log".toList = [⟨"**/keep.log".toList, false, false, true⟩] := by
    decide
  have hbracket : Rule.ofText "[".toList = [⟨"**/[".toList, false, false, false⟩] := by decide
  have hlogBuilds : ∃ r, RuleSet.ofText (Path.parse "p".toList) "*.log\r".toList = .ok r := by
    have hglob : Glob.parse "**/*.log".toList =
        .ok (.token .anyDirs :: .token .anyRun :: ".log".toList.map (.token <| .char ·)) := by
      decide +kernel
    rw [RuleSet.exists_ofText_eq_ok_iff, hlog, List.forall_mem_singleton]
    exact ⟨_, hglob⟩
  have hkeepBuilds : ∃ r, RuleSet.ofText (Path.parse "p".toList) "\n!keep.log".toList = .ok r := by
    have hglob : Glob.parse "**/keep.log".toList =
        .ok (.token .anyDirs :: "keep.log".toList.map (.token <| .char ·)) := by
      decide +kernel
    rw [RuleSet.exists_ofText_eq_ok_iff, hkeep, List.forall_mem_singleton]
    exact ⟨_, hglob⟩
  have hbracketFails : ∀ r, RuleSet.ofText (Path.parse "p".toList) "[".toList ≠ .ok r := by
    have hglob : Glob.parse "**/[".toList = .error .unclosedClass := by decide +kernel
    intro r hr
    have hvalid := RuleSet.exists_ofText_eq_ok_iff.1 ⟨r, hr⟩
    rw [hbracket, List.forall_mem_singleton] at hvalid
    rcases hvalid with ⟨g, hg⟩
    rw [hglob] at hg
    cases hg
  have hbuilt : ∀ events texts, (run ⟨p, w⟩ events).project.texts = some (texts.map .string) →
      ∃ s, (run ⟨p, w⟩ events).project.rules = some s ∧ RulesOf (Path.parse "p".toList) texts s := by
    intro events texts htexts
    obtain ⟨hdir, -, hcoherent, -⟩ := run_coherent hopened w events
    rw [← hdir]
    apply Coherent.exists_rules _ htexts
    rw [hcoherent, htexts]
    exact ⟨texts, rfl⟩
  refine ⟨w, p, hopened, ?_, ?_⟩
  · obtain ⟨s, hs, hof⟩ := hbuilt [.operation (.setText "*.log\r".toList false),
      .operation (.setText "\n!keep.log".toList true)] ["*.log\r".toList, "\n!keep.log".toList] rfl
    refine ⟨s, hs, ?_⟩
    rw [hof.rules_eq (List.forall_mem_cons.2 ⟨hlogBuilds, List.forall_mem_singleton.2 hkeepBuilds⟩),
      List.flatMap_cons, List.flatMap_singleton, hlog, hkeep]
    rfl
  · obtain ⟨s, hs, hof⟩ := hbuilt [.operation (.setText "*.log\r".toList false),
      .operation (.setText "[".toList true)] ["*.log\r".toList, "[".toList] rfl
    rw [hs, hof.refused ⟨"[".toList, by decide, hbracketFails⟩]

/-! ### A template without a text -/

/-- A store whose file lies in a directory of its own. -/
def nullStore : TemplateStore :=
  ⟨⟨TemplateConfig.standardUrl, Path.parse "cache".toList, TemplateConfig.standardCacheName, 30.0⟩, true,
    none⟩

/-- A detector for a marker file. -/
def nullDetectors : Detectors :=
  [⟨"python".toList, [.name "pyproject.toml".toList]⟩]

/-- A directory with that file, and a listing in the store's file where the contents of the template
that it calls for are null. -/
def nullWorld : World :=
  .ofFiles ⟨.folder "p".toList (.file "pyproject.toml".toList .empty .empty) (.folder "cache".toList
    (.file TemplateConfig.standardCacheName
      (Text.encode "\x7b\"python\": \x7b\"key\": \"python\", \"contents\": null\x7d\x7d".toList) .empty)
    .empty), []⟩

/-- The project of that directory. -/
def nullProject : Project :=
  { dir := Path.parse "p".toList, isGit := false, detectors := nullDetectors, store := some nullStore }

/-- That project after it was set up. -/
def nullSession : Session :=
  run ⟨nullProject, nullWorld⟩ [.operation .parse]

theorem nullSession_spec :
    (perform ⟨nullProject, nullWorld⟩ .parse).1 = .error (.notText ⟨0, .null⟩) ∧
      nullSession.project.texts = some [.null] ∧ nullSession.project.rules = none ∧
      nullSession.project.dir = Path.parse "p".toList ∧ nullSession.world.files = nullWorld.files := by
  have hsetUp : ((perform ⟨nullProject, nullWorld⟩ .parse).1, nullSession.project.texts,
      nullSession.project.rules, nullSession.project.dir, nullSession.world.files) =
        (.error (.notText ⟨0, .null⟩), some [.null], none, Path.parse "p".toList, nullWorld.files) := rfl
  simpa only [Prod.mk.injEq] using hsetUp

/-- Setting up that project fails and leaves it with something for a text that is none, and without
rules. -/
theorem run_incoherent :
    Project.ofDirectory "p".toList (some nullStore) nullDetectors nullWorld.files = .ok nullProject ∧
      (perform ⟨nullProject, nullWorld⟩ .parse).1 = .error (.notText ⟨0, .null⟩) ∧
      nullSession = run ⟨nullProject, nullWorld⟩ [.operation .parse] ∧
      nullSession.project.texts = some [.null] ∧ nullSession.project.rules = none ∧
      ¬nullSession.project.Coherent := by
  obtain ⟨hfailed, htexts, hrules, -⟩ := nullSession_spec
  refine ⟨rfl, hfailed, rfl, htexts, hrules, fun hcoherent => ?_⟩
  obtain ⟨texts, hare⟩ := hcoherent.areTexts
  have hnull : [Json.null] = texts.map .string := by
    rw [← hare, htexts]
    rfl
  cases texts with
  | nil => cases hnull
  | cons t texts => cases hnull

end Steps

end Session

end IgnoreRules
