import IgnoreRules.Proofs.FileSystem.Writing

/-!
# Paths that have passed the check

A null character is found in the text of a path before anything is looked up.  Whatever is done behind
a path that has passed, on it or on its front, may meet an obstacle but not this one.

* `FileSystem.follow_ne_nullCharacter` : following components does not look at characters;
* `FileSystem.makeFolders_ne_nullCharacter`, `FileSystem.write_ne_nullCharacter` : making folders and
  writing.
-/

namespace IgnoreRules

namespace FileSystem

variable {fs : FileSystem} {p passed : Path} {parts : List Text}

theorem follow_ne_nullCharacter (root : Folder) (here parts : List Text) :
    follow root here parts ≠ .error .nullCharacter := by
  induction parts generalizing here with
  | nil => rintro ⟨⟩
  | cons part parts ih =>
      rw [follow]
      split
      · rintro ⟨⟩
      · rintro ⟨⟩
      · split
        · exact ih _
        · split
          · rintro ⟨⟩
          · split
            · exact ih _
            · rintro ⟨⟩

theorem node_ne_nullCharacter (h : checkPath p = .ok ()) : fs.node p ≠ .error .nullCharacter := by
  unfold node locate
  rw [h]
  dsimp only
  have hfollow := follow_ne_nullCharacter fs.root (fs.start p) p.parts
  split
  · next e he =>
      rw [he] at hfollow
      exact fun h => hfollow (by rw [Except.error.inj h])
  · split
    · rintro ⟨⟩
    · rintro ⟨⟩

theorem locateEntry_ne_nullCharacter (h : checkPath p = .ok ()) :
    fs.locateEntry p ≠ .error .nullCharacter := by
  unfold locateEntry
  rw [h]
  dsimp only
  have hfollow := follow_ne_nullCharacter fs.root (fs.start p) p.parts.dropLast
  split
  · rintro ⟨⟩
  · split
    · next e he =>
        rw [he] at hfollow
        exact fun h => hfollow (by rw [Except.error.inj h])
    · split
      · rintro ⟨⟩
      · rintro ⟨⟩
      · split
        · rintro ⟨⟩
        · split
          · rintro ⟨⟩
          · rintro ⟨⟩

theorem write_ne_nullCharacter (content : ByteArray) (h : checkPath p = .ok ()) :
    fs.write p content ≠ .error .nullCharacter := by
  have hentry : fs.locateEntry p ≠ .error .nullCharacter := locateEntry_ne_nullCharacter h
  unfold write
  split
  · next e he =>
      rw [he] at hentry
      exact fun h => hentry (by rw [Except.error.inj h])
  · split
    · rintro ⟨⟩
    · rintro ⟨⟩

theorem makeFolder_ne_nullCharacter (h : checkPath p = .ok ()) :
    fs.makeFolder p ≠ .error .nullCharacter := by
  have hnode : fs.node p ≠ .error .nullCharacter := node_ne_nullCharacter h
  have hentry : fs.locateEntry p ≠ .error .nullCharacter := locateEntry_ne_nullCharacter h
  unfold makeFolder
  split
  · rintro ⟨⟩
  · rintro ⟨⟩
  · split
    · next e he =>
        rw [he] at hentry
        exact fun h => hentry (by rw [Except.error.inj h])
    · rintro ⟨⟩
  · next e _ he =>
      rw [he] at hnode
      exact fun h => hnode (by rw [Except.error.inj h])

theorem obstacle_ne_nullCharacter {e : FileError} (h : e ≠ .nullCharacter) (left : List Text) :
    obstacle e left ≠ .nullCharacter := by
  unfold obstacle
  split
  · rintro ⟨⟩
  · exact h

/-- Every folder on the way is the front of the path that was checked. -/
theorem makeFoldersFrom_ne_nullCharacter (hanchor : passed.anchor = p.anchor)
    (hparts : p.parts = passed.parts ++ parts) (h : checkPath p = .ok ()) :
    (fs.makeFoldersFrom passed parts).1 ≠ some .nullCharacter := by
  induction parts generalizing fs passed with
  | nil => rintro ⟨⟩
  | cons part parts ih =>
      have hparts' : p.parts = (passed.child part).parts ++ parts := by
        rw [hparts, Path.child, List.append_assoc, List.singleton_append]
      have hmake : fs.makeFolder (passed.child part) ≠ .error .nullCharacter :=
        makeFolder_ne_nullCharacter (checkPath_of_front hanchor hparts' h)
      rw [makeFoldersFrom]
      split
      · next e he =>
          rw [he] at hmake
          intro hnull
          exact obstacle_ne_nullCharacter (fun h => hmake (congrArg _ h)) parts (Option.some.inj hnull)
      · exact ih hanchor hparts'

theorem makeFolders_ne_nullCharacter (h : checkPath p = .ok ()) :
    (fs.makeFolders p).1 ≠ some .nullCharacter := by
  unfold makeFolders
  rw [h]
  exact makeFoldersFrom_ne_nullCharacter (p := p) rfl rfl h

end FileSystem

end IgnoreRules
