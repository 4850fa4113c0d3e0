import IgnoreRules.FileSystem.Basic
import IgnoreRules.Proofs.FileSystem.Folder
import IgnoreRules.Proofs.Text.Utf8

/-!
# Writing files

What is written to a path is what is then read from it, also where the path goes through `..`: putting
a file in its place takes no directory away, so the path leads where it led before.  A path that a file
can be read from can be written to, and the folders on the way to it need not be made.

* `Folder.KeepsDirectories` : no directory is lost, and none loses a name;
* `FileSystem.follow_of_keepsDirectories` : then paths lead where they led;
* `FileSystem.read_of_write` : reading what was written;
* `FileSystem.exists_write_of_read`, `FileSystem.makeFolders_of_read` : where a file is there already;
* `FileSystem.read_ne_ok_of_makeFolders` : where the folders on the way cannot be made.
-/

namespace IgnoreRules

/-! ## Folders -/

namespace Folder

section Entries

variable {f g inside : Folder} {node : Node} {name n : Text} {names rest : List Text}

theorem find?_cons (name : Text) (node : Node) (rest : Folder) (n : Text) :
    (cons name node rest).find? n = if name = n then some node else rest.find? n := by
  cases node with
  | file content => rfl
  | folder inside => rfl

theorem put_cons (name : Text) (node : Node) (n : Text) (own : Node) (rest : Folder) :
    (cons n own rest).put name node =
      if n = name then cons name node rest else cons n own (rest.put name node) := by
  cases own with
  | file content => rfl
  | folder inside => rfl

/-- An entry that is put is found, the others are found as before. -/
theorem find?_put (f : Folder) (name : Text) (node : Node) (n : Text) :
    (f.put name node).find? n = if name = n then some node else f.find? n := by
  have hstep : ∀ (other : Text) (own : Node) (rest : Folder),
      (rest.put name node).find? n = (if name = n then some node else rest.find? n) →
        ((cons other own rest).put name node).find? n =
          if name = n then some node else (cons other own rest).find? n := by
    intro other own rest ih
    rw [put_cons, find?_cons]
    by_cases hother : other = name
    · rw [if_pos hother, find?_cons, hother]
      split
      · rfl
      · rfl
    · rw [if_neg hother, find?_cons, ih]
      by_cases hname : name = n
      · have hne : other ≠ n := fun h => hother (h.trans hname.symm)
        rw [if_pos hname, if_pos hname, if_neg hne]
      · rw [if_neg hname, if_neg hname]
  induction f with
  | empty => exact find?_cons name node empty n
  | file other content rest ih => exact hstep other (.file content) rest ih
  | folder other inside rest _ ih => exact hstep other (.folder inside) rest ih

/-! ## Names that lead through folders -/

/-- Names lead to a folder through the folder that the first of them bears. -/
theorem nodeAt?_cons_eq_folder_iff :
    f.nodeAt? (n :: names) = some (.folder inside) ↔
      ∃ first, f.find? n = some (.folder first) ∧ first.nodeAt? names = some (.folder inside) := by
  rw [nodeAt?]
  cases f.find? n with
  | none => simp
  | some own =>
      cases own with
      | file content => simp
      | folder first => simp

theorem nodeAt?_cons_of_folder {first : Folder} (h : f.find? n = some (.folder first))
    (names : List Text) : f.nodeAt? (n :: names) = first.nodeAt? names := by
  rw [nodeAt?, h]

/-- Behind names that lead to a folder the way goes on in that folder. -/
theorem nodeAt?_append (h : f.nodeAt? names = some (.folder inside)) (rest : List Text) :
    f.nodeAt? (names ++ rest) = inside.nodeAt? rest := by
  induction names generalizing f with
  | nil =>
      cases h
      rfl
  | cons n names ih =>
      obtain ⟨first, hfirst, hnames⟩ := nodeAt?_cons_eq_folder_iff.1 h
      rw [List.cons_append, nodeAt?_cons_of_folder hfirst]
      exact ih hnames

/-- What lies on the way to something is a folder. -/
theorem exists_folder_of_nodeAt?_append (h : f.nodeAt? (names ++ n :: rest) = some node) :
    ∃ inside, f.nodeAt? names = some (.folder inside) := by
  induction names generalizing f with
  | nil => exact ⟨f, rfl⟩
  | cons m names ih =>
      rw [List.cons_append, nodeAt?] at h
      cases hm : f.find? m with
      | none =>
          rw [hm] at h
          cases h
      | some own =>
          rw [hm] at h
          cases own with
          | file content => simp at h
          | folder first =>
              obtain ⟨inside, hinside⟩ := ih h
              exact ⟨inside, (nodeAt?_cons_of_folder hm names).trans hinside⟩

/-- What is inside a folder where no name stands twice is such a folder too. -/
theorem Distinct.of_nodeAt? (h : f.Distinct) (hnode : f.nodeAt? names = some (.folder inside)) :
    inside.Distinct := by
  induction names generalizing f with
  | nil =>
      cases hnode
      exact h
  | cons n names ih =>
      obtain ⟨first, hfirst, hnames⟩ := nodeAt?_cons_eq_folder_iff.1 hnode
      exact ih (h.of_mem (mem_of_find? hfirst)) hnames

/-- Leaving the last name out leads from a folder to a folder. -/
theorem exists_folder_dropLast (h : f.nodeAt? names = some (.folder inside)) :
    ∃ outside, f.nodeAt? names.dropLast = some (.folder outside) := by
  rcases List.eq_nil_or_concat names with rfl | ⟨front, last, rfl⟩
  · exact ⟨f, rfl⟩
  · rw [List.concat_eq_append] at h ⊢
    rw [List.dropLast_concat]
    exact exists_folder_of_nodeAt?_append h

/-! ## Putting something in its place -/

/-- Every directory of the first folder is one of the second and lists at least the same names. -/
def KeepsDirectories (f g : Folder) : Prop :=
  ∀ names inside, f.nodeAt? names = some (.folder inside) →
    ∃ inside', g.nodeAt? names = some (.folder inside') ∧
      ∀ n, (inside.find? n).isSome → (inside'.find? n).isSome

theorem KeepsDirectories.refl (f : Folder) : KeepsDirectories f f := by
  intro names inside h
  exact ⟨inside, h, fun _ hn => hn⟩

/-- Putting an entry keeps every directory if a folder in its place is replaced by one that does. -/
theorem keepsDirectories_put
    (h : ∀ first, f.find? name = some (.folder first) →
      ∃ second, node = .folder second ∧ KeepsDirectories first second) :
    KeepsDirectories f (f.put name node) := by
  intro names inside hinside
  cases names with
  | nil =>
      cases hinside
      refine ⟨f.put name node, rfl, ?_⟩
      intro n hn
      rw [find?_put]
      split
      · rfl
      · exact hn
  | cons n names =>
      obtain ⟨first, hfirst, hnames⟩ := nodeAt?_cons_eq_folder_iff.1 hinside
      by_cases hn : name = n
      · -- The names lead through the entry that is replaced.
        subst hn
        obtain ⟨second, rfl, hkeeps⟩ := h first hfirst
        obtain ⟨inside', hinside', hall⟩ := hkeeps names inside hnames
        have hput : (f.put name (.folder second)).find? name = some (.folder second) := by
          rw [find?_put, if_pos rfl]
        exact ⟨inside', (nodeAt?_cons_of_folder hput names).trans hinside', hall⟩
      · have hput : (f.put name node).find? n = some (.folder first) := by
          rw [find?_put, if_neg hn, hfirst]
        exact ⟨inside, (nodeAt?_cons_of_folder hput names).trans hnames, fun _ hall => hall⟩

/-- Putting something where there is no folder keeps every directory. -/
theorem keepsDirectories_putAt (h : ∀ inside, f.nodeAt? names ≠ some (.folder inside)) :
    KeepsDirectories f (f.putAt node names) := by
  -- By the names that lead to the place: each folder on the way is put back with the change inside.
  fun_induction putAt f node names with
  | case1 f => exact .refl f
  | case2 f name =>
      apply keepsDirectories_put
      intro first hfirst
      rw [← nodeAt?_singleton] at hfirst
      exact absurd hfirst (h first)
  | case3 f name names hne first hfirst ih =>
      apply keepsDirectories_put
      intro other hother
      rw [hfirst] at hother
      cases hother
      refine ⟨_, rfl, ih ?_⟩
      intro inside hinside
      exact h inside ((nodeAt?_cons_of_folder hfirst names).trans hinside)
  | case4 f name names hne hno => exact .refl f

/-- What is put in a folder is found there. -/
theorem nodeAt?_putAt (h : f.nodeAt? names = some (.folder inside)) (name : Text) :
    (f.putAt node (names ++ [name])).nodeAt? (names ++ [name]) = some node := by
  induction names generalizing f with
  | nil =>
      rw [List.nil_append, nodeAt?_singleton, putAt, find?_put, if_pos rfl]
  | cons n names ih =>
      obtain ⟨first, hfirst, hnames⟩ := nodeAt?_cons_eq_folder_iff.1 h
      have hputAt : f.putAt node (n :: (names ++ [name])) =
          f.put n (.folder (first.putAt node (names ++ [name]))) := by
        rw [putAt, hfirst]
        simp
      have hput : (f.put n (.folder (first.putAt node (names ++ [name])))).find? n =
          some (.folder (first.putAt node (names ++ [name]))) := by
        rw [find?_put, if_pos rfl]
      rw [List.cons_append, hputAt, nodeAt?_cons_of_folder hput]
      exact ih hnames

end Entries

end Folder

/-! ## Paths -/

namespace Path

theorem intercalate_front (sep : Text) (front rest : List Text) :
    List.intercalate sep front <+: List.intercalate sep (front ++ rest) := by
  induction front with
  | nil => exact List.nil_prefix
  | cons first front ih =>
      cases front with
      | nil =>
          cases rest with
          | nil => exact ⟨[], List.append_nil _⟩
          | cons next rest =>
              rw [List.intercalate_singleton, List.cons_append, List.nil_append,
                List.intercalate_cons_cons, List.append_assoc]
              exact List.prefix_append _ _
      | cons next front =>
          rw [List.cons_append, List.cons_append, List.intercalate_cons_cons,
            List.intercalate_cons_cons, ← List.cons_append]
          exact (List.prefix_append_right_inj _).2 ih

/-- Except for the path `.`, the text of a path begins with the text of its front. -/
theorem text_front {p q : Path} {rest : List Text} (hanchor : q.anchor = p.anchor)
    (hparts : p.parts = q.parts ++ rest) (hq : q ≠ here) : q.text <+: p.text := by
  have hp : p ≠ here := by
    intro hp
    rw [hp] at hanchor hparts
    have hnil : q.parts = [] := (List.append_eq_nil_iff.1 hparts.symm).1
    have hhere : q = here :=
      calc q = ⟨q.anchor, q.parts⟩ := rfl
        _ = ⟨here.anchor, []⟩ := by rw [hanchor, hnil]
    exact hq hhere
  unfold text
  rw [if_neg hq, if_neg hp, hanchor, hparts]
  exact (List.prefix_append_right_inj _).2 (intercalate_front _ _ _)

end Path

namespace FileSystem

/-! ## Following components -/

section Follow

variable {root root' : Folder} {here there : List Text} {part : Text} {a b : List Text}

/-- Where one component leads from a directory: `..` one up, a name that is listed one down. -/
structure Leads (root : Folder) (here : List Text) (part : Text) (there : List Text) : Prop where
  folder : ∃ inside, root.nodeAt? here = some (.folder inside) ∧
    (part ≠ ['.', '.'] → (inside.find? part).isSome = true)
  short : part ≠ ['.', '.'] → Text.byteLength part ≤ maxNameBytes
  place : there = if part = ['.', '.'] then here.dropLast else here ++ [part]

theorem follow_cons_iff :
    follow root here (part :: a) = .ok there ↔
      ∃ next, Leads root here part next ∧ follow root next a = .ok there := by
  constructor
  · intro h
    rw [follow] at h
    split at h
    · cases h
    · cases h
    · next inside hinside =>
        split at h
        · next hup =>
            exact ⟨_, ⟨⟨inside, hinside, absurd hup⟩, absurd hup, (if_pos hup).symm⟩, h⟩
        · next hdown =>
            split at h
            · cases h
            · next hshort =>
                split at h
                · next hfound =>
                    exact ⟨_, ⟨⟨inside, hinside, fun _ => hfound⟩, fun _ => Nat.le_of_not_lt hshort,
                      (if_neg hdown).symm⟩, h⟩
                · cases h
  · rintro ⟨next, ⟨⟨inside, hinside, hfound⟩, hshort, hplace⟩, h⟩
    subst hplace
    rw [follow, hinside]
    simp only
    by_cases hup : part = ['.', '.']
    · rw [if_pos hup] at h ⊢
      exact h
    · rw [if_neg hup] at h ⊢
      rw [if_neg (Nat.not_lt.2 (hshort hup)), if_pos (hfound hup)]
      exact h

theorem follow_append_iff :
    follow root here (a ++ b) = .ok there ↔
      ∃ next, follow root here a = .ok next ∧ follow root next b = .ok there := by
  induction a generalizing here with
  | nil => simp [follow]
  | cons part a ih =>
      rw [List.cons_append, follow_cons_iff]
      constructor
      · rintro ⟨first, hfirst, hrest⟩
        obtain ⟨next, ha, hb⟩ := ih.1 hrest
        exact ⟨next, follow_cons_iff.2 ⟨first, hfirst, ha⟩, hb⟩
      · rintro ⟨next, ha, hb⟩
        obtain ⟨first, hfirst, hrest⟩ := follow_cons_iff.1 ha
        exact ⟨first, hfirst, ih.2 ⟨next, hrest, hb⟩⟩

theorem follow_singleton_iff :
    follow root here [part] = .ok there ↔ Leads root here part there := by
  rw [follow_cons_iff]
  constructor
  · rintro ⟨next, hnext, hthere⟩
    cases hthere
    exact hnext
  · intro h
    exact ⟨there, h, rfl⟩

/-- Without a `..` among them components lead straight down. -/
theorem eq_append_of_follow (h : follow root here a = .ok there)
    (hdown : ∀ part ∈ a, part ≠ ['.', '.']) : there = here ++ a := by
  induction a generalizing here with
  | nil => simpa [follow, eq_comm] using h
  | cons part a ih =>
      obtain ⟨next, hnext, hrest⟩ := follow_cons_iff.1 h
      have hplace : next = here ++ [part] := by
        simpa [hdown part List.mem_cons_self] using hnext.place
      have htail : there = next ++ a := ih hrest fun other hother =>
        hdown other (List.mem_cons_of_mem part hother)
      simp [htail, hplace]

theorem Leads.of_keepsDirectories (hkeeps : root.KeepsDirectories root')
    (h : Leads root here part there) : Leads root' here part there := by
  obtain ⟨⟨inside, hinside, hfound⟩, hshort, hplace⟩ := h
  obtain ⟨inside', hinside', hall⟩ := hkeeps here inside hinside
  exact ⟨⟨inside', hinside', fun hdown => hall part (hfound hdown)⟩, hshort, hplace⟩

/-- Where no directory is lost, components lead where they led. -/
theorem follow_of_keepsDirectories (hkeeps : root.KeepsDirectories root')
    (h : follow root here a = .ok there) : follow root' here a = .ok there := by
  induction a generalizing here with
  | nil => exact h
  | cons part a ih =>
      obtain ⟨next, hnext, hrest⟩ := follow_cons_iff.1 h
      exact follow_cons_iff.2 ⟨next, hnext.of_keepsDirectories hkeeps, ih hrest⟩

end Follow

/-! ## Paths that can be looked up -/

section CheckPath

variable {p q : Path}

theorem checkPath_eq_ok_iff :
    checkPath p = .ok () ↔ '\x00' ∉ p.text ∧ Text.byteLength p.text < maxPathBytes := by
  unfold checkPath
  by_cases hnull : '\x00' ∈ p.text
  · simp [hnull]
  · by_cases hlong : maxPathBytes ≤ Text.byteLength p.text
    · simp [hnull, hlong]
    · simp [hnull, hlong, Nat.lt_of_not_le hlong]

/-- The front of a path that can be looked up can be looked up too. -/
theorem checkPath_of_front {rest : List Text} (hanchor : q.anchor = p.anchor)
    (hparts : p.parts = q.parts ++ rest) (h : checkPath p = .ok ()) : checkPath q = .ok () := by
  by_cases hhere : q = Path.here
  · rw [hhere]
    decide
  · obtain ⟨tail, htail⟩ := Path.text_front hanchor hparts hhere
    obtain ⟨hnull, hlong⟩ := checkPath_eq_ok_iff.1 h
    rw [← htail, Text.byteLength_append] at hlong
    rw [← htail, List.mem_append, not_or] at hnull
    exact checkPath_eq_ok_iff.2 ⟨hnull.1, by omega⟩

end CheckPath

/-! ## Reading and writing -/

section Reading

variable {fs fs' : FileSystem} {p q : Path} {n : Node} {bytes content : ByteArray}
  {names rest : List Text} {e : FileError}

theorem node_eq_ok_iff :
    fs.node p = .ok n ↔ checkPath p = .ok () ∧
      ∃ l, follow fs.root (fs.start p) p.parts = .ok l ∧ fs.root.nodeAt? l = some n := by
  unfold node locate
  cases checkPath p with
  | error e => simp
  | ok u =>
      cases follow fs.root (fs.start p) p.parts with
      | error e => simp
      | ok l => cases hnode : fs.root.nodeAt? l <;> simp [hnode]

theorem read_eq_ok_iff : fs.read p = .ok bytes ↔ fs.node p = .ok (.file bytes) := by
  unfold read
  split
  · next h => simp [h]
  · next h => simp [h]
  · next h => simp [h]

theorem folder_eq_ok_iff {inside : Folder} :
    fs.folder p = .ok inside ↔ fs.node p = .ok (.folder inside) := by
  unfold folder
  split
  · next h => simp [h]
  · next h => simp [h]
  · next h => simp [h]

/-- A path leads to no folder where a name stands twice, if there is none in the tree. -/
theorem distinct_of_folder {inside : Folder} (h : fs.root.Distinct)
    (hfolder : fs.folder p = .ok inside) : inside.Distinct := by
  obtain ⟨-, l, -, hnode⟩ := node_eq_ok_iff.1 (folder_eq_ok_iff.1 hfolder)
  exact h.of_nodeAt? hnode

/-- Where an entry of a path belongs: in a directory, under a name of its own. -/
theorem locateEntry_eq_ok_iff :
    fs.locateEntry p = .ok names ↔ checkPath p = .ok () ∧
      ∃ front name l inside, p.parts = front ++ [name] ∧
        follow fs.root (fs.start p) front = .ok l ∧ fs.root.nodeAt? l = some (.folder inside) ∧
          name ≠ ['.', '.'] ∧ Text.byteLength name ≤ maxNameBytes ∧ names = l ++ [name] := by
  constructor
  · intro h
    unfold locateEntry at h
    cases hcheck : checkPath p with
    | error e =>
        rw [hcheck] at h
        cases h
    | ok u =>
        rw [hcheck] at h
        rcases List.eq_nil_or_concat p.parts with hparts | ⟨front, name, hparts⟩
        · rw [hparts] at h
          cases h
        · rw [List.concat_eq_append] at hparts
          rw [hparts, List.getLast?_concat, List.dropLast_concat] at h
          simp only at h
          split at h
          · cases h
          · next l hfollow =>
              split at h
              · cases h
              · cases h
              · next inside hinside =>
                  split at h
                  · cases h
                  · next hdown =>
                      split at h
                      · cases h
                      · next hshort =>
                          cases h
                          exact ⟨rfl, front, name, l, inside, hparts, hfollow, hinside, hdown,
                            Nat.le_of_not_lt hshort, rfl⟩
  · rintro ⟨hcheck, front, name, l, inside, hparts, hfollow, hinside, hdown, hshort, rfl⟩
    unfold locateEntry
    rw [hcheck, hparts, List.getLast?_concat, List.dropLast_concat]
    simp only
    rw [hfollow]
    simp only
    rw [hinside]
    simp only
    rw [if_neg hdown, if_neg (Nat.not_lt.2 hshort)]

theorem write_eq_ok_iff :
    fs.write p content = .ok fs' ↔ ∃ l, fs.locateEntry p = .ok l ∧
      (∀ inside, fs.root.nodeAt? l ≠ some (.folder inside)) ∧
        fs' = { fs with root := fs.root.putAt (.file content) l } := by
  constructor
  · intro h
    unfold write at h
    split at h
    · cases h
    · next l hentry =>
        split at h
        · cases h
        · next hnofolder =>
            cases h
            exact ⟨l, hentry, hnofolder, rfl⟩
  · rintro ⟨l, hentry, hnofolder, rfl⟩
    unfold write
    rw [hentry]
    dsimp only
    split
    · next inside hfolder => exact absurd hfolder (hnofolder inside)
    · rfl

/-- What was written to a path is read from it. -/
theorem read_of_write (h : fs.write p content = .ok fs') : fs'.read p = .ok content := by
  obtain ⟨names, hentry, hnofolder, rfl⟩ := write_eq_ok_iff.1 h
  obtain ⟨hcheck, front, name, l, inside, hparts, hfollow, hinside, hdown, hshort, rfl⟩ :=
    locateEntry_eq_ok_iff.1 hentry
  have hkeeps : fs.root.KeepsDirectories (fs.root.putAt (.file content) (l ++ [name])) :=
    Folder.keepsDirectories_putAt hnofolder
  have hput : (fs.root.putAt (.file content) (l ++ [name])).nodeAt? (l ++ [name]) =
      some (.file content) := Folder.nodeAt?_putAt hinside name
  -- The directory of the file is where it was, and lists the file.
  obtain ⟨inside', hinside', -⟩ := hkeeps l inside hinside
  have hfound : inside'.find? name = some (.file content) := by
    rw [← Folder.nodeAt?_singleton, ← Folder.nodeAt?_append hinside']
    exact hput
  have hleads : Leads (fs.root.putAt (.file content) (l ++ [name])) l name (l ++ [name]) := by
    refine ⟨⟨inside', hinside', fun _ => ?_⟩, fun _ => hshort, (if_neg hdown).symm⟩
    rw [hfound]
    rfl
  rw [read_eq_ok_iff, node_eq_ok_iff]
  refine ⟨hcheck, l ++ [name], ?_, hput⟩
  rw [hparts, follow_append_iff]
  exact ⟨l, follow_of_keepsDirectories hkeeps hfollow, follow_singleton_iff.2 hleads⟩

/-- A file that can be read can be written. -/
theorem exists_write_of_read (h : fs.read p = .ok bytes) (hparts : p.parts ≠ []) :
    ∃ fs', fs.write p content = .ok fs' := by
  obtain ⟨hcheck, there, hfollow, hfile⟩ := node_eq_ok_iff.1 (read_eq_ok_iff.1 h)
  obtain ⟨front, name, hp⟩ := (List.eq_nil_or_concat p.parts).resolve_left hparts
  rw [List.concat_eq_append] at hp
  rw [hp] at hfollow
  -- The last component leads from a directory to the file, so the directory is there to write in.
  obtain ⟨l, hfront, hlast⟩ := follow_append_iff.1 hfollow
  obtain ⟨⟨inside, hinside, -⟩, hshort, hplace⟩ := follow_singleton_iff.1 hlast
  have hdown : name ≠ ['.', '.'] := by
    intro hup
    -- One up from a directory there is a directory and no file.
    obtain ⟨outside, houtside⟩ := Folder.exists_folder_dropLast hinside
    rw [hplace, if_pos hup, houtside] at hfile
    cases hfile
  rw [if_neg hdown] at hplace
  have hentry : fs.locateEntry p = .ok there := locateEntry_eq_ok_iff.2
    ⟨hcheck, front, name, l, inside, hp, hfront, hinside, hdown, hshort hdown, hplace⟩
  refine ⟨_, write_eq_ok_iff.2 ⟨there, hentry, ?_, rfl⟩⟩
  intro inside hfolder
  rw [hfile] at hfolder
  cases hfolder

/-! ## The folders on the way -/

/-- On the way to a file that can be read there are folders. -/
theorem exists_folder_of_read (h : fs.read p = .ok bytes) (hanchor : q.anchor = p.anchor)
    (hparts : p.parts = q.parts ++ rest) (hrest : rest ≠ []) :
    ∃ inside, fs.node q = .ok (.folder inside) := by
  obtain ⟨hcheck, there, hfollow, -⟩ := node_eq_ok_iff.1 (read_eq_ok_iff.1 h)
  obtain ⟨name, behind, rfl⟩ := List.exists_cons_of_ne_nil hrest
  have hstart : fs.start q = fs.start p := by
    unfold start Path.isAbsolute
    rw [hanchor]
  rw [hparts, follow_append_iff] at hfollow
  obtain ⟨l, hfront, hbehind⟩ := hfollow
  obtain ⟨next, hleads, -⟩ := follow_cons_iff.1 hbehind
  obtain ⟨inside, hinside, -⟩ := hleads.folder
  rw [← hstart] at hfront
  exact ⟨inside, node_eq_ok_iff.2 ⟨checkPath_of_front hanchor hparts hcheck, l, hfront, hinside⟩⟩

theorem makeFolder_of_read (h : fs.read p = .ok bytes) (hanchor : q.anchor = p.anchor)
    (hparts : p.parts = q.parts ++ rest) (hrest : rest ≠ []) : fs.makeFolder q = .ok fs := by
  obtain ⟨inside, hinside⟩ := exists_folder_of_read h hanchor hparts hrest
  unfold makeFolder
  rw [hinside]

/-- They need not be made. -/
theorem makeFoldersFrom_of_read {parts : List Text} (h : fs.read p = .ok bytes)
    (hanchor : q.anchor = p.anchor) (hparts : p.parts = q.parts ++ (parts ++ rest))
    (hrest : rest ≠ []) : fs.makeFoldersFrom q parts = (none, fs) := by
  -- The passed part of the path grows by one component while the file system stays the same.
  induction parts generalizing q with
  | nil => rfl
  | cons part parts ih =>
      have hchild : p.parts = (q.child part).parts ++ (parts ++ rest) := by
        rw [hparts]
        simp [Path.child]
      have hmade : fs.makeFolder (q.child part) = .ok fs :=
        makeFolder_of_read h hanchor hchild (List.append_ne_nil_of_right_ne_nil parts hrest)
      rw [makeFoldersFrom, hmade]
      exact ih hanchor hchild

/-- Where the folders on the way cannot be made there is nothing to read. -/
theorem read_ne_ok_of_makeFoldersFrom {parts : List Text}
    (h : fs.makeFoldersFrom q parts = (some e, fs')) (hanchor : q.anchor = p.anchor)
    (hparts : p.parts = q.parts ++ (parts ++ rest)) (hrest : rest ≠ []) :
    fs'.read p ≠ .ok bytes := by
  -- Here the file system changes too: what was made before the obstacle stays.
  induction parts generalizing q fs with
  | nil => cases h
  | cons part parts ih =>
      have hchild : p.parts = (q.child part).parts ++ (parts ++ rest) := by
        rw [hparts]
        simp [Path.child]
      rw [makeFoldersFrom] at h
      cases hmade : fs.makeFolder (q.child part) with
      | ok made =>
          rw [hmade] at h
          exact ih h hanchor hchild
      | error obstacle =>
          rw [hmade] at h
          cases h
          -- Were there something to read, this folder would be there.
          intro hread
          have hthere : fs'.makeFolder (q.child part) = .ok fs' :=
            makeFolder_of_read hread hanchor hchild (List.append_ne_nil_of_right_ne_nil parts hrest)
          rw [hmade] at hthere
          cases hthere

theorem parts_parent (hp : p.parts ≠ []) :
    p.parts = p.parent.parts ++ [p.parts.getLast hp] :=
  (List.dropLast_concat_getLast hp).symm

theorem checkPath_parent_of_read (h : fs.read p = .ok bytes) (hp : p.parts ≠ []) :
    checkPath p.parent = .ok () := by
  have hanchor : p.parent.anchor = p.anchor := rfl
  exact checkPath_of_front hanchor (parts_parent hp) (node_eq_ok_iff.1 (read_eq_ok_iff.1 h)).1

/-- Where a file can be read the folders on the way to it need not be made. -/
theorem makeFolders_of_read (h : fs.read p = .ok bytes) (hp : p.parts ≠ []) :
    fs.makeFolders p.parent = (none, fs) := by
  have hmade : fs.makeFoldersFrom ⟨p.anchor, []⟩ p.parent.parts = (none, fs) :=
    makeFoldersFrom_of_read h rfl (parts_parent hp) (List.cons_ne_nil _ _)
  unfold makeFolders
  rw [checkPath_parent_of_read h hp]
  exact hmade

/-- Where the folders on the way to a file cannot be made it cannot be read. -/
theorem read_ne_ok_of_makeFolders (h : fs.makeFolders p.parent = (some e, fs')) (hp : p.parts ≠ []) :
    fs'.read p ≠ .ok bytes := by
  unfold makeFolders at h
  cases hcheck : checkPath p.parent with
  | ok u =>
      rw [hcheck] at h
      have hmade : fs.makeFoldersFrom ⟨p.anchor, []⟩ p.parent.parts = (some e, fs') := h
      exact read_ne_ok_of_makeFoldersFrom hmade rfl (parts_parent hp) (List.cons_ne_nil _ _)
  | error obstacle =>
      intro hread
      have hfine := checkPath_parent_of_read hread hp
      rw [hcheck] at hfine
      cases hfine

/-- A path without components has nothing to make on the way to it. -/
theorem makeFolders_of_parts_nil (hp : p.parts = []) : (fs.makeFolders p.parent).2 = fs := by
  have hparts : p.parent.parts = [] := by
    unfold Path.parent
    rw [hp]
    rfl
  unfold makeFolders
  rw [hparts]
  cases checkPath p.parent with
  | error e => rfl
  | ok u => rfl

end Reading

end FileSystem

end IgnoreRules
