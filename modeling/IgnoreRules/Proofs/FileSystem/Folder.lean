import IgnoreRules.FileSystem.Folder
import Mathlib.Data.List.Nodup

/-!
# Folders by their entries

A folder is what it lists under each name.  A directory lists no name twice; then looking a name up and
finding it among the entries are the same.

* `Folder.Distinct` : no name stands twice in the folder or anywhere inside it;
* `Folder.find?_eq_some_iff` : looking up a name;
* `Folder.nested_induction` : induction from what is inside a folder to the folder.
-/

namespace IgnoreRules

/-! ## Looking up a name -/

section Lookup

variable {α : Type} {l : List (Text × α)} {name : Text} {a : α}

theorem mem_of_lookup (h : l.lookup name = some a) : (name, a) ∈ l := by
  obtain ⟨before, after, hsplit, -⟩ := List.lookup_eq_some_iff.1 h
  simp [hsplit]

/-- Where no name stands twice, looking one up and finding it in the list are the same. -/
theorem lookup_eq_some_iff_of_nodup (h : (l.map (·.1)).Nodup) :
    l.lookup name = some a ↔ (name, a) ∈ l := by
  refine ⟨mem_of_lookup, ?_⟩
  intro hmem
  obtain ⟨before, after, rfl⟩ := List.append_of_mem hmem
  -- In front of the entry no other bears its name.
  rw [List.map_append, List.map_cons, List.nodup_middle, List.nodup_cons, List.mem_append, not_or] at h
  refine List.lookup_eq_some_iff.2 ⟨before, after, rfl, fun other hother => ?_⟩
  rw [bne_iff_ne]
  rintro rfl
  exact h.1.1 (List.mem_map.2 ⟨other, hother, rfl⟩)

end Lookup

namespace Folder

/-! ## Entries -/

/-- The names that a folder lists. -/
def names (f : Folder) : List Text :=
  f.entries.map (·.1)

/-- No name stands twice in the folder or in a folder inside it. -/
def Distinct : Folder → Prop
  | empty => True
  | file name _ rest => name ∉ rest.names ∧ rest.Distinct
  | folder name inside rest => name ∉ rest.names ∧ inside.Distinct ∧ rest.Distinct

section Entries

variable {f below : Folder} {name : Text} {node : Node}

theorem Distinct.nodup_names (h : f.Distinct) : f.names.Nodup := by
  induction f with
  | empty => exact .nil
  | file name content rest ih => exact List.nodup_cons.2 ⟨h.1, ih h.2⟩
  | folder name inside rest _ ih => exact List.nodup_cons.2 ⟨h.1, ih h.2.2⟩

theorem Distinct.of_mem (h : f.Distinct) (hmem : (name, Node.folder below) ∈ f.entries) :
    below.Distinct := by
  induction f with
  | empty => cases hmem
  | file other content rest ih =>
      rcases List.mem_cons.1 hmem with heq | hrest
      · cases heq
      · exact ih h.2 hrest
  | folder other inside rest _ ih =>
      rcases List.mem_cons.1 hmem with heq | hrest
      · cases heq
        exact h.2.1
      · exact ih h.2.2 hrest

theorem find?_eq_lookup (f : Folder) (name : Text) : f.find? name = f.entries.lookup name := by
  have hcons : ∀ (other : Text) (node : Node) (rest : List (Text × Node)),
      ((other, node) :: rest).lookup name = if other = name then some node else rest.lookup name := by
    intro other node rest
    rw [List.lookup_cons]
    by_cases hname : other = name
    · rw [if_pos hname, hname, beq_self_eq_true]
    · have hne : (name == other) = false := beq_eq_false_iff_ne.2 fun h => hname h.symm
      rw [if_neg hname, hne]
  induction f with
  | empty => rfl
  | file other content rest ih => rw [find?, entries, hcons, ih]
  | folder other inside rest _ ih => rw [find?, entries, hcons, ih]

theorem mem_of_find? (h : f.find? name = some node) : (name, node) ∈ f.entries := by
  rw [find?_eq_lookup] at h
  exact mem_of_lookup h

/-- Where no name stands twice, a name leads to the entry that bears it. -/
theorem find?_eq_some_iff (h : f.Distinct) :
    f.find? name = some node ↔ (name, node) ∈ f.entries := by
  rw [find?_eq_lookup]
  exact lookup_eq_some_iff_of_nodup h.nodup_names

/-- One name leads to the entry that bears it. -/
theorem nodeAt?_singleton (f : Folder) (name : Text) : f.nodeAt? [name] = f.find? name := by
  unfold nodeAt?
  cases f.find? name with
  | none => rfl
  | some node =>
      cases node with
      | file content => rfl
      | folder inside => simp [nodeAt?]

end Entries

/-! ## Induction over what is inside -/

/-- What holds of a folder whenever it holds of the folders listed in it holds of every folder. -/
theorem nested_induction {P : Folder → Prop}
    (step : ∀ f, (∀ name inside, (name, Node.folder inside) ∈ f.entries → P inside) → P f)
    (f : Folder) : P f := by
  have hinside : ∀ f : Folder, ∀ name inside, (name, Node.folder inside) ∈ f.entries → P inside := by
    intro f
    induction f with
    | empty =>
        intro name inside hmem
        cases hmem
    | file other content rest ih =>
        intro name inside hmem
        rcases List.mem_cons.1 hmem with heq | hrest
        · cases heq
        · exact ih name inside hrest
    | folder other below rest ihbelow ihrest =>
        intro name inside hmem
        rcases List.mem_cons.1 hmem with heq | hrest
        · cases heq
          exact step below ihbelow
        · exact ihrest name inside hrest
  exact step f (hinside f)

end Folder

end IgnoreRules
