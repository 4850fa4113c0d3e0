import IgnoreRules.Proofs.FileSystem.Writing

/-!
# Paths made absolute

A relative path starts from the working directory.  Behind the names of the working directory it leads
to the same place from the root; only the limit on the length of a path may be met sooner.

* `FileSystem.absolute` : the path behind the names of the working directory;
* `FileSystem.Resides` : the working directory is where its names lead;
* `FileSystem.node_absolute` : both lead to the same;
* `FileSystem.ask_absolute` : a question about both has one answer.
-/

namespace IgnoreRules

namespace Path

/-- A character other than a separator is in a joined text if it is in one of the parts. -/
theorem mem_intercalate {c : Char} (hc : c ≠ '/') {parts : List Text} :
    c ∈ List.intercalate ['/'] parts ↔ ∃ part ∈ parts, c ∈ part := by
  induction parts with
  | nil => simp
  | cons part parts ih =>
      cases parts with
      | nil => simp
      | cons next parts =>
          rw [List.intercalate_cons_cons, List.mem_append, List.mem_append, ih, List.mem_singleton]
          simp [hc]

/-- There is a null character in the text of a path if there is one in a component. -/
theorem null_mem_text {p : Path} : '\x00' ∈ p.text ↔ ∃ part ∈ p.parts, '\x00' ∈ part := by
  unfold text
  split
  · next h => simp [h, here]
  · have hanchor : '\x00' ∉ p.anchor.text := by
      cases p.anchor <;> decide
    rw [List.mem_append, or_iff_right hanchor, mem_intercalate (by decide)]

end Path

namespace FileSystem

variable {fs : FileSystem} {p : Path} {root : Folder} {here next a b : List Text}

theorem follow_append (h : follow root here a = .ok next) :
    follow root here (a ++ b) = follow root next b := by
  induction a generalizing here with
  | nil =>
      cases h
      rfl
  | cons part a ih =>
      rw [follow] at h
      rw [List.cons_append, follow]
      split at h
      · cases h
      · cases h
      · split at h
        · next hup =>
            rw [if_pos hup]
            exact ih h
        · next hdown =>
            split at h
            · cases h
            · next hshort =>
                split at h
                · next hfound =>
                    rw [if_neg hdown, if_neg hshort, if_pos hfound]
                    exact ih h
                · cases h

/-- The path behind the names of the working directory; an absolute path stays what it is. -/
def absolute (fs : FileSystem) (p : Path) : Path :=
  if p.isAbsolute then p else ⟨.root, fs.workingDirectory ++ p.parts⟩

/-- The names of the working directory lead to it, and can stand in a path. -/
structure Resides (fs : FileSystem) : Prop where
  leads : follow fs.root [] fs.workingDirectory = .ok fs.workingDirectory
  plain : ∀ name ∈ fs.workingDirectory, '\x00' ∉ name

theorem absolute_of_relative (hp : p.isAbsolute = false) :
    fs.absolute p = ⟨.root, fs.workingDirectory ++ p.parts⟩ := by
  unfold absolute
  rw [hp, if_neg Bool.false_ne_true]

theorem node_absolute (h : fs.Resides) (hp : checkPath p = .ok ())
    (hp' : checkPath (fs.absolute p) = .ok ()) : fs.node (fs.absolute p) = fs.node p := by
  cases habsolute : p.isAbsolute with
  | true =>
      unfold absolute
      rw [habsolute, if_pos rfl]
  | false =>
      have hrelative : fs.absolute p = ⟨.root, fs.workingDirectory ++ p.parts⟩ :=
        absolute_of_relative habsolute
      have hstart : fs.start p = fs.workingDirectory := by
        unfold start
        rw [habsolute, if_neg Bool.false_ne_true]
      have hfollow : follow fs.root (fs.start (fs.absolute p)) (fs.absolute p).parts =
          follow fs.root (fs.start p) p.parts := by
        rw [hstart, hrelative]
        exact follow_append h.leads
      unfold node locate
      rw [hp, hp']
      dsimp only
      rw [hfollow]

/-- Making a path absolute neither brings in a null character nor takes one out. -/
theorem null_mem_absolute (h : fs.Resides) : '\x00' ∈ (fs.absolute p).text ↔ '\x00' ∈ p.text := by
  cases habsolute : p.isAbsolute with
  | true =>
      unfold absolute
      rw [habsolute, if_pos rfl]
  | false =>
      rw [absolute_of_relative habsolute, Path.null_mem_text, Path.null_mem_text]
      constructor
      · rintro ⟨part, hpart, hnull⟩
        obtain hname | hown := List.mem_append.1 hpart
        · exact absurd hnull (h.plain part hname)
        · exact ⟨part, hown, hnull⟩
      · rintro ⟨part, hpart, hnull⟩
        exact ⟨part, List.mem_append_right _ hpart, hnull⟩

theorem ask_of_null {question : Node → Bool} (h : '\x00' ∈ p.text) : fs.ask p question = .ok false := by
  have hcheck : checkPath p = .error .nullCharacter :=
    if_pos (List.contains_iff_mem.2 h)
  unfold ask node locate
  rw [hcheck]
  rfl

theorem checkPath_of_ask {question : Node → Bool} {x : Bool} (hnull : '\x00' ∉ p.text)
    (h : fs.ask p question = .ok x) : checkPath p = .ok () := by
  have hcheck : checkPath p = if maxPathBytes ≤ Text.byteLength p.text then .error .nameTooLong else .ok () :=
    if_neg fun h => hnull (List.contains_iff_mem.1 h)
  by_cases hlong : maxPathBytes ≤ Text.byteLength p.text
  · rw [if_pos hlong] at hcheck
    unfold ask node locate at h
    rw [hcheck] at h
    cases h
  · rw [hcheck, if_neg hlong]

/-- A question that is answered about a path has the same answer when it is asked about the absolute
path and answered. -/
theorem ask_absolute {question : Node → Bool} {x y : Bool} (h : fs.Resides)
    (hx : fs.ask p question = .ok x) (hy : fs.ask (fs.absolute p) question = .ok y) : x = y := by
  by_cases hnull : '\x00' ∈ p.text
  · rw [ask_of_null hnull] at hx
    rw [ask_of_null ((null_mem_absolute h).2 hnull)] at hy
    exact Except.ok.inj (hx.symm.trans hy)
  · have hnull' : '\x00' ∉ (fs.absolute p).text := fun h' => hnull ((null_mem_absolute h).1 h')
    have hnode := node_absolute h (checkPath_of_ask hnull hx) (checkPath_of_ask hnull' hy)
    unfold ask at hx hy
    rw [hnode] at hy
    exact Except.ok.inj (hx.symm.trans hy)

end FileSystem

end IgnoreRules
