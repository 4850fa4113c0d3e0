import IgnoreRules.Proofs.IgnoreFile.Reading
import IgnoreRules.Proofs.Project.Run

/-!
# The project's own ignore file

Using the ignore file of a project is done as a whole or not at all.  A file that is there and was read
in full adds one text, which states the rules of the whole file; a file that is not there adds an empty
text; and a file that is there without being read in full is refused, whatever is wrong with it, and
leaves the project as it was.  Only where the project already has something for a text that is none,
the new text is added and the rules are not built.

* `Session.textOf_of_isComplete`, `Session.textOf_of_not_isComplete` : what a loaded file contributes;
* `Session.useIgnoreFile_of_complete` and its siblings : each way a use can end;
* `Project.Takes`, `Project.Stuck` : that a project takes one more text, and that its rules stay behind;
* `Session.useIgnoreFile_atomic` : as a whole or not at all.
-/

namespace IgnoreRules

/-! ## Files that are there, and files that are not -/

namespace IgnoreFile

variable {files : FileSystem} {path : Path} {node : Node} {f : IgnoreFile}

theorem read_of_absent (h : files.exists? path = .ok false) :
    read files path = .ok (failed path (.notFound path)) := by
  unfold FileSystem.exists? FileSystem.ask at h
  unfold read
  cases hnode : files.node path with
  | ok node =>
      rw [hnode] at h
      cases h
  | error e =>
      rw [hnode] at h
      dsimp only at h ⊢
      split at h
      · next habsent => rw [if_pos habsent]
      · cases h

theorem read_of_unreachable {e : FileError} (h : files.exists? path = .error e) :
    read files path = .error e := by
  unfold FileSystem.exists? FileSystem.ask at h
  unfold read
  cases hnode : files.node path with
  | ok node =>
      rw [hnode] at h
      cases h
  | error e' =>
      rw [hnode] at h
      dsimp only at h ⊢
      split at h
      · cases h
      · next hreachable =>
          rw [if_neg hreachable]
          exact congrArg Except.error (Except.error.inj h)

theorem path_ofNode (path : Path) (node : Node) : (ofNode path node).path = path := by
  cases node with
  | folder inside => rfl
  | file bytes =>
      unfold ofNode
      dsimp only
      split
      · rfl
      · split
        · rfl
        · rfl

theorem isMissing_ofText (path : Path) (content : Text) : (ofText path content).isMissing = false := by
  -- Problems are those of lines, and that there are too many patterns.
  have hlines : ∀ lines, ∀ p ∈ problemsFrom 0 lines, ∃ fault, p.cause = .badPattern fault := by
    intro lines p hp
    obtain ⟨i, line, fault, -, -, rfl⟩ := mem_problemsFrom_iff.1 hp
    exact ⟨fault, rfl⟩
  unfold isMissing
  rw [List.any_eq_false]
  intro p hp
  rcases ofText_cases path content with ⟨-, hfull⟩ | ⟨front, line, back, -, -, -, hstopped⟩
  · rw [hfull, inspected, List.append_nil] at hp
    obtain ⟨fault, hcause⟩ := hlines _ p hp
    simp [hcause]
  · rw [hstopped] at hp
    rcases List.mem_append.1 hp with hline | hoverflow
    · obtain ⟨fault, hcause⟩ := hlines _ p hline
      simp [hcause]
    · rw [List.mem_singleton.1 hoverflow]
      simp

/-- What is there is not missing. -/
theorem isMissing_ofNode (path : Path) (node : Node) : (ofNode path node).isMissing = false := by
  cases node with
  | folder inside => rfl
  | file bytes =>
      unfold ofNode
      dsimp only
      split
      · rfl
      · split
        · rfl
        · exact isMissing_ofText path _

end IgnoreFile

namespace Session

/-! ## What a loaded file contributes -/

section Contribution

variable {f : IgnoreFile}

theorem textOf_of_isComplete (h : f.isComplete = true) : textOf f = .ok f.text := by
  have hnone : f.fatalProblems = [] := List.isEmpty_iff.1 h
  unfold textOf
  rw [hnone]

theorem textOf_of_not_isComplete (h : f.isComplete = false) :
    ∃ reason, textOf f = .error (.project (.incompleteFile f.path reason)) := by
  have hsome : f.fatalProblems ≠ [] := List.isEmpty_eq_false_iff.1 h
  obtain ⟨problem, rest, hproblems⟩ := List.exists_cons_of_ne_nil hsome
  unfold textOf
  rw [hproblems]
  exact ⟨_, rfl⟩

end Contribution

/-! ## How a use ends -/

/-- Where the ignore file of a project lies. -/
def ownFile (s : Session) : Path :=
  s.project.dir.child IgnoreFile.standardName

section Ends

variable {s : Session} {keepExisting : Bool} {f : IgnoreFile}

theorem useIgnoreFile_of_unreachable {e : FileError}
    (h : IgnoreFile.read s.world.files s.ownFile = .error e) :
    s.useIgnoreFile keepExisting = (.error (.file e), s) := by
  unfold ownFile at h
  unfold useIgnoreFile IgnoreFile.load
  rw [h]

theorem useIgnoreFile_of_missing (h : IgnoreFile.read s.world.files s.ownFile = .ok f)
    (hmissing : f.isMissing = true) :
    s.useIgnoreFile keepExisting =
      ({ s with world := f.report s.world } : Session).setText [] keepExisting := by
  unfold ownFile at h
  unfold useIgnoreFile IgnoreFile.load
  rw [h]
  exact if_pos hmissing

theorem useIgnoreFile_of_found (h : IgnoreFile.read s.world.files s.ownFile = .ok f)
    (hfound : f.isMissing = false) :
    s.useIgnoreFile keepExisting =
      match textOf f with
      | .error e => (.error e, { s with world := f.report s.world })
      | .ok text => ({ s with world := f.report s.world } : Session).setText text keepExisting := by
  have hnot : ¬f.isMissing = true := by simp [hfound]
  unfold ownFile at h
  unfold useIgnoreFile IgnoreFile.load
  rw [h]
  exact if_neg hnot

theorem useIgnoreFile_of_complete (h : IgnoreFile.read s.world.files s.ownFile = .ok f)
    (hfound : f.isMissing = false) (hcomplete : f.isComplete = true) :
    s.useIgnoreFile keepExisting =
      ({ s with world := f.report s.world } : Session).setText f.text keepExisting := by
  rw [useIgnoreFile_of_found h hfound, textOf_of_isComplete hcomplete]

theorem useIgnoreFile_of_incomplete (keepExisting : Bool)
    (h : IgnoreFile.read s.world.files s.ownFile = .ok f)
    (hfound : f.isMissing = false) (hincomplete : f.isComplete = false) :
    ∃ reason, s.useIgnoreFile keepExisting =
      (.error (.project (.incompleteFile f.path reason)), { s with world := f.report s.world }) := by
  obtain ⟨reason, hreason⟩ := textOf_of_not_isComplete hincomplete
  rw [useIgnoreFile_of_found h hfound, hreason]
  exact ⟨reason, rfl⟩

end Ends

end Session

/-! ## As a whole or not at all -/

/-- The texts that one more text is added to. -/
def Project.kept (p : Project) (keepExisting : Bool) : List Json :=
  if keepExisting then p.texts.getD [] else []

/-- A project takes one more text: behind the texts it has or in their place.  Its rules become those of
its texts, and all else stays. -/
structure Project.Takes (p : Project) (keepExisting : Bool) (text : Text) (q : Project) : Prop where
  texts : q.texts = some (p.kept keepExisting ++ [.string text])
  rules : ∃ s texts, q.rules = some s ∧ q.texts = some (texts.map .string) ∧ RulesOf p.dir texts s
  others : q = { p with texts := q.texts, rules := q.rules }

/-- One more text is added, but something among the texts is none: the rules and all else stay. -/
structure Project.Stuck (p : Project) (keepExisting : Bool) (text : Text) (e : Json.NotText)
    (q : Project) : Prop where
  first : ∃ (front : List Text) (behind : List Json),
    p.kept keepExisting = front.map .string ++ e.value :: behind ∧ e.place = front.length
  noText : ∀ t, e.value ≠ .string t
  project : q = { p with texts := some (p.kept keepExisting ++ [.string text]) }

/-- What comes of adding one more text: the project takes it, as long as the texts it is added to are
texts. -/
structure Project.Adds (p : Project) (keepExisting : Bool) (text : Text)
    (result : Except Failure Unit × Session) : Prop where
  takes : Json.AreTexts (p.kept keepExisting) →
    result.1 = .ok () ∧ p.Takes keepExisting text result.2.project
  stuck : ¬Json.AreTexts (p.kept keepExisting) →
    ∃ e, result.1 = .error (.notText e) ∧ p.Stuck keepExisting text e result.2.project

namespace Session

/-- Setting a text is how a project adds one. -/
theorem adds_setText (p : Project) (w : World) (text : Text) (keepExisting : Bool) :
    p.Adds keepExisting text (setText ⟨p, w⟩ text keepExisting) := by
  have hset : setText ⟨p, w⟩ text keepExisting =
      setTexts ⟨p, w⟩ (some (p.kept keepExisting ++ [.string text])) := rfl
  rw [hset]
  refine ⟨?_, fun hnot => ?_⟩
  · rintro ⟨texts, htexts⟩
    have hall : (some (p.kept keepExisting ++ [Json.string text])).getD [] =
        (texts ++ [text]).map .string := by
      rw [Option.getD_some, htexts, List.map_append]
      rfl
    obtain ⟨rules, hproject, hrules⟩ := project_setTexts ⟨p, w⟩ hall
    refine ⟨congrArg Prod.fst (setTexts_of_texts hall), ?_⟩
    rw [hproject]
    exact ⟨rfl, ⟨rules, texts ++ [text], rfl, congrArg some hall, hrules⟩, rfl⟩
  · obtain ⟨front, value, behind, hkept, hvalue⟩ := (Json.areTexts_or _).resolve_left hnot
    have hfailed : Json.textsFrom 0 ((some (p.kept keepExisting ++ [Json.string text])).getD []) =
        .error ⟨0 + front.length, value⟩ := by
      rw [Option.getD_some, hkept, List.append_assoc]
      exact Json.textsFrom_append_cons 0 front (behind ++ [.string text]) hvalue
    rw [setTexts_of_notText hfailed]
    exact ⟨_, rfl, ⟨front, behind, hkept, Nat.zero_add _⟩, hvalue, rfl⟩

/-- Whatever a project has been through and whatever its ignore file has become: a file that is there
and is read in full gives the project one more text, with the rules of the whole file; so does a file
that is not there, with an empty text; a file that is there and is not read in full is refused and
leaves the project as it was, and so does a path that cannot be looked up at all.  Where one of the texts
before the new one is no text, the new one is there and the rules stay behind. -/
theorem useIgnoreFile_atomic (s : Session) (keepExisting : Bool) :
    (∀ node, s.world.files.node s.ownFile = .ok node → (∀ content, ¬IgnoreFile.Holds node content) →
      (∃ reason, (s.useIgnoreFile keepExisting).1 =
        .error (.project (.incompleteFile s.ownFile reason))) ∧
      (s.useIgnoreFile keepExisting).2.project = s.project) ∧
    (∀ node content, s.world.files.node s.ownFile = .ok node → IgnoreFile.Holds node content →
      ∃ text, Rule.ofText text = Rule.ofText content ∧
        s.project.Adds keepExisting text (s.useIgnoreFile keepExisting)) ∧
    (s.world.files.exists? s.ownFile = .ok false →
      s.project.Adds keepExisting [] (s.useIgnoreFile keepExisting)) ∧
    (∀ e, s.world.files.exists? s.ownFile = .error e →
      (s.useIgnoreFile keepExisting).1 = .error (.file e) ∧
      (s.useIgnoreFile keepExisting).2.project = s.project) := by
  refine ⟨?_, ?_, ?_, ?_⟩
  -- Something is there, but it is no file that can be read in full.
  · intro node hnode hnot
    have hread := IgnoreFile.read_of_node hnode
    have hincomplete : (IgnoreFile.ofNode s.ownFile node).isComplete = false := by
      rw [Bool.eq_false_iff]
      intro hcomplete
      obtain ⟨content, hholds⟩ := IgnoreFile.isComplete_ofNode_iff.1 hcomplete
      exact hnot content hholds
    obtain ⟨reason, hend⟩ := useIgnoreFile_of_incomplete keepExisting hread
      (IgnoreFile.isMissing_ofNode _ node) hincomplete
    rw [IgnoreFile.path_ofNode] at hend
    rw [hend]
    exact ⟨⟨reason, rfl⟩, rfl⟩
  -- A file is there and can be read in full, whatever its patterns are.
  · intro node content hnode hholds
    have hcomplete : (IgnoreFile.ofNode s.ownFile node).isComplete = true :=
      IgnoreFile.isComplete_ofNode_iff.2 ⟨content, hholds⟩
    rw [useIgnoreFile_of_complete (IgnoreFile.read_of_node hnode)
      (IgnoreFile.isMissing_ofNode _ node) hcomplete]
    exact ⟨_, IgnoreFile.ofText_text_ofNode hholds, adds_setText s.project _ _ keepExisting⟩
  -- Nothing is there, or nothing can be looked up.
  · intro habsent
    rw [useIgnoreFile_of_missing (IgnoreFile.read_of_absent habsent) rfl]
    exact adds_setText s.project _ [] keepExisting
  · intro e hunreachable
    rw [useIgnoreFile_of_unreachable (IgnoreFile.read_of_unreachable hunreachable)]
    exact ⟨rfl, rfl⟩

/-- A project whose own ignore file holds these bytes. -/
def beforeText (bytes : ByteArray) : Session :=
  ⟨⟨Path.parse "p".toList, false, [], none, none, none, none, none⟩,
    .ofFiles ⟨.folder "p".toList (.file ".gitignore".toList bytes .empty) .empty, []⟩⟩

/-- The same project with one text. -/
def withOwnFile (bytes : ByteArray) : Session :=
  ((beforeText bytes).setText "*.o".toList false).2

theorem withOwnFile_spec (bytes : ByteArray) :
    (withOwnFile bytes).ownFile = Path.parse "p/.gitignore".toList ∧
      (withOwnFile bytes).world.files.node (withOwnFile bytes).ownFile = .ok (.file bytes) ∧
      (withOwnFile bytes).project.texts = some [.string "*.o".toList] := by
  have hset : withOwnFile bytes = ((beforeText bytes).setTexts (some [.string "*.o".toList])).2 := rfl
  obtain ⟨htexts, hdir, -⟩ := texts_setTexts (beforeText bytes) (some [.string "*.o".toList])
  have hfiles := files_setTexts (beforeText bytes) (some [.string "*.o".toList])
  rw [← hset] at htexts hdir hfiles
  have hstart : (beforeText bytes).project.dir = Path.parse "p".toList := rfl
  have hown : (withOwnFile bytes).ownFile = Path.parse "p/.gitignore".toList := by
    unfold ownFile
    rw [hdir, hstart]
    decide
  refine ⟨hown, ?_, htexts⟩
  rw [hfiles, hown]
  rfl

/-- A byte that is no text is refused and the one text stays; a file with a pattern that is no glob is
no reason to refuse, and its rules come behind that text. -/
theorem useIgnoreFile_atomic_either :
    (∃ reason, ((withOwnFile ⟨#[0xFF]⟩).useIgnoreFile true).1 =
      .error (.project (.incompleteFile (Path.parse "p/.gitignore".toList) reason))) ∧
    ((withOwnFile ⟨#[0xFF]⟩).useIgnoreFile true).2.project = (withOwnFile ⟨#[0xFF]⟩).project ∧
    ((withOwnFile (Text.encode "[\r\nb/".toList)).useIgnoreFile true).1 = .ok () ∧
    ∃ text, Rule.ofText text = [⟨"**/[".toList, false, false, false⟩, ⟨"**/b".toList, false, true, false⟩] ∧
      ((withOwnFile (Text.encode "[\r\nb/".toList)).useIgnoreFile true).2.project.texts =
        some [.string "*.o".toList, .string text] := by
  have hundecodable : ∀ content, ¬IgnoreFile.Holds (.file ⟨#[0xFF]⟩) content := by
    have hdecode : Text.decode? ⟨#[0xFF]⟩ = none := by decide +kernel
    rintro content ⟨⟨bytes, hbytes, -, hcontent⟩, -⟩
    cases hbytes
    rw [hdecode] at hcontent
    cases hcontent
  have hholds : IgnoreFile.Holds (.file (Text.encode "[\r\nb/".toList)) "[\r\nb/".toList :=
    ⟨⟨_, rfl, by decide +kernel, Text.decode?_encode _⟩, by decide +kernel⟩
  have hrules : Rule.ofText "[\r\nb/".toList =
      [⟨"**/[".toList, false, false, false⟩, ⟨"**/b".toList, false, true, false⟩] := by decide +kernel
  obtain ⟨hown, hbad, -⟩ := withOwnFile_spec ⟨#[0xFF]⟩
  obtain ⟨-, hgood, htexts⟩ := withOwnFile_spec (Text.encode "[\r\nb/".toList)
  obtain ⟨hrefused, -⟩ := useIgnoreFile_atomic (withOwnFile ⟨#[0xFF]⟩) true
  obtain ⟨-, htaken, -⟩ := useIgnoreFile_atomic (withOwnFile (Text.encode "[\r\nb/".toList)) true
  obtain ⟨hreason, hsame⟩ := hrefused _ hbad hundecodable
  obtain ⟨text, htext, hadds⟩ := htaken _ _ hgood hholds
  have hkept : (withOwnFile (Text.encode "[\r\nb/".toList)).project.kept true = ["*.o".toList].map .string :=
    congrArg (·.getD []) htexts
  obtain ⟨hdone, htakes⟩ := hadds.takes ⟨_, hkept⟩
  have hafter := htakes.texts
  rw [hkept] at hafter
  rw [hown] at hreason
  exact ⟨hreason, hsame, hdone, text, htext.trans hrules, hafter⟩

/-- Where a template has brought null for a text, using the file that is not there fails, and yet leaves
an empty text behind. -/
theorem useIgnoreFile_stuck :
    Project.ofDirectory "p".toList (some nullStore) nullDetectors nullWorld.files = .ok nullProject ∧
      nullSession = run ⟨nullProject, nullWorld⟩ [.operation .parse] ∧
      nullSession.project.texts = some [.null] ∧
      nullSession.world.files.exists? nullSession.ownFile = .ok false ∧
      (nullSession.useIgnoreFile true).1 = .error (.notText ⟨0, .null⟩) ∧
      (nullSession.useIgnoreFile true).2.project.texts = some [.null, .string []] := by
  obtain ⟨-, htexts, -, hdir, hfiles⟩ := nullSession_spec
  have habsent : nullSession.world.files.exists? nullSession.ownFile = .ok false := by
    unfold ownFile
    rw [hdir, hfiles]
    rfl
  have huse : nullSession.useIgnoreFile true =
      setTexts { nullSession with world := _ } (some (nullSession.project.texts.getD [] ++ [.string []])) :=
    useIgnoreFile_of_missing (IgnoreFile.read_of_absent habsent) rfl
  rw [htexts] at huse
  have hstuck : nullSession.useIgnoreFile true = (.error (.notText ⟨0, .null⟩), _) :=
    huse.trans (setTexts_of_notText rfl)
  exact ⟨rfl, rfl, htexts, habsent, congrArg Prod.fst hstuck,
    congrArg (fun result => result.2.project.texts) hstuck⟩

end Session

end IgnoreRules
