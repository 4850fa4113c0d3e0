import IgnoreRules.Path
import IgnoreRules.Proofs.Text.Split

/-!
# Texts of paths

Reading a path and writing it.  The components of a path that was read are neither empty nor `.`, and no
separator cuts them; written with a separator between neighbours, they are read as they were.

* `Path.part_of_parse`, `Path.ne_here_of_parse` : what can be a component;
* `Path.parse_intercalate`, `Path.parse_intercalate_partsOf` : components that are written and read again;
* `Path.head?_intercalate`, `Path.getLast?_intercalate` : the ends of what is written;
* `Path.append_of_relative`, `Path.append_of_absolute` : one path below another.
-/

namespace IgnoreRules

namespace Path

variable {t part : Text} {parts : List Text} {p : Path}

/-! ## Components -/

/-- What can be the components of a path that was read. -/
theorem part_of_parse (h : part ∈ (parse t).parts) : part ≠ [] ∧ '/' ∉ part := by
  obtain ⟨hsplit, hkept⟩ := List.mem_filter.1 h
  rw [Bool.and_eq_true, bne_iff_ne] at hkept
  exact ⟨hkept.1, Text.notMem_of_mem_splitOn hsplit⟩

theorem ne_here_of_parse (h : part ∈ (parse t).parts) : part ≠ ['.'] := by
  have hkept := (List.mem_filter.1 h).2
  rw [Bool.and_eq_true, bne_iff_ne, bne_iff_ne] at hkept
  exact hkept.2

/-! ## Writing components -/

theorem head?_intercalate (h : ∀ part ∈ parts, part ≠ [] ∧ '/' ∉ part) :
    (List.intercalate ['/'] parts).head? ≠ some '/' := by
  cases parts with
  | nil => exact nofun
  | cons part parts =>
      obtain ⟨hne, hplain⟩ := h part (List.mem_cons_self ..)
      obtain ⟨c, rest, rfl⟩ := List.exists_cons_of_ne_nil hne
      have hc : c ≠ '/' := fun hc => hplain (hc ▸ List.mem_cons_self ..)
      have hhead : (List.intercalate ['/'] ((c :: rest) :: parts)).head? = some c := by
        cases parts with
        | nil => rfl
        | cons next parts => rfl
      rw [hhead]
      exact fun h => hc (Option.some.inj h)

theorem intercalate_ne_nil (hparts : parts ≠ [])
    (h : ∀ part ∈ parts, part ≠ [] ∧ '/' ∉ part) : List.intercalate ['/'] parts ≠ [] := by
  intro hnil
  have hsplit := List.splitOn_intercalate '/' (fun part hpart => (h part hpart).2) hparts
  rw [hnil] at hsplit
  exact (h [] (hsplit ▸ List.mem_singleton_self [])).1 rfl

theorem intercalate_eq_nil_iff (h : ∀ part ∈ parts, part ≠ [] ∧ '/' ∉ part) :
    List.intercalate ['/'] parts = [] ↔ parts = [] := by
  by_cases hparts : parts = []
  · rw [hparts]
    exact iff_of_true rfl rfl
  · exact iff_of_false (intercalate_ne_nil hparts h) hparts

theorem getLast?_intercalate (h : ∀ part ∈ parts, part ≠ [] ∧ '/' ∉ part) :
    (List.intercalate ['/'] parts).getLast? ≠ some '/' := by
  induction parts with
  | nil => exact nofun
  | cons part parts ih =>
      have hrest := ih fun p hp => h p (List.mem_cons_of_mem part hp)
      cases parts with
      | nil =>
          rw [List.intercalate_singleton]
          intro hlast
          exact (h part List.mem_cons_self).2 (List.mem_of_getLast? hlast)
      | cons next parts =>
          have hne : List.intercalate ['/'] (next :: parts) ≠ [] :=
            intercalate_ne_nil (List.cons_ne_nil next parts) fun p hp => h p (List.mem_cons_of_mem part hp)
          rw [List.intercalate_cons_cons, List.getLast?_append, List.getLast?_eq_some_getLast hne,
            Option.some_or, ← List.getLast?_eq_some_getLast hne]
          exact hrest

/-- Without the separator it may start with, the text of a path is its components. -/
theorem unrootedText_eq (hanchor : p.anchor ≠ .doubleRoot) (hparts : p.parts ≠ [])
    (h : ∀ part ∈ p.parts, part ≠ [] ∧ '/' ∉ part) :
    p.unrootedText = List.intercalate ['/'] p.parts := by
  have hne : p ≠ here := fun h => hparts (by rw [h]; rfl)
  have htext : p.text = p.anchor.text ++ List.intercalate ['/'] p.parts := if_neg hne
  unfold unrootedText
  cases hstart : p.anchor with
  | relative =>
      rw [hstart] at htext
      split
      · next rest heq =>
          rw [htext] at heq
          exact absurd (congrArg List.head? heq) (head?_intercalate h)
      · exact htext
  | root =>
      rw [htext, hstart]
      rfl
  | doubleRoot => exact absurd hstart hanchor

/-! ## Reading components -/

theorem anchorOf_of_head? (h : t.head? ≠ some '/') : anchorOf t = .relative := by
  cases t with
  | nil => rfl
  | cons c rest =>
      have hc : (c == '/') = false := by simpa using h
      simp [anchorOf, hc]

theorem parse_of_head? (h : t.head? ≠ some '/') : parse t = ⟨.relative, partsOf t⟩ := by
  rw [parse, anchorOf_of_head? h]

/-- Components written one behind the other are read as they were. -/
theorem parse_intercalate (h : ∀ part ∈ parts, part ≠ [] ∧ part ≠ ['.'] ∧ '/' ∉ part) :
    parse (List.intercalate ['/'] parts) = ⟨.relative, parts⟩ := by
  have hhead : (List.intercalate ['/'] parts).head? ≠ some '/' :=
    head?_intercalate fun part hpart => ⟨(h part hpart).1, (h part hpart).2.2⟩
  by_cases hparts : parts = []
  · rw [hparts]
    rfl
  have hsplit : (List.intercalate ['/'] parts).splitOn '/' = parts :=
    List.splitOn_intercalate '/' (fun part hpart => (h part hpart).2.2) hparts
  have hall : ∀ part ∈ parts, (part != [] && part != ['.']) = true := by
    intro part hpart
    simpa using ⟨(h part hpart).1, (h part hpart).2.1⟩
  rw [parse_of_head? hhead, partsOf, hsplit, List.filter_eq_self.2 hall]

/-- Without an anchor, a path is what its components are read as. -/
theorem parse_intercalate_partsOf (h : t.head? ≠ some '/') :
    parse (List.intercalate ['/'] (partsOf t)) = parse t := by
  have hparts : ∀ part ∈ partsOf t, part ≠ [] ∧ part ≠ ['.'] ∧ '/' ∉ part := by
    intro part hpart
    exact ⟨(part_of_parse hpart).1, ne_here_of_parse hpart, (part_of_parse hpart).2⟩
  calc parse (List.intercalate ['/'] (partsOf t))
      = ⟨.relative, partsOf t⟩ := parse_intercalate hparts
    _ = parse t := (parse_of_head? h).symm

/-! ## One path below another -/

theorem append_of_relative {dir : Path} (hp : p.anchor = .relative) :
    dir.append p = ⟨dir.anchor, dir.parts ++ p.parts⟩ := by
  have hrelative : ¬ p.isAbsolute = true := by
    unfold isAbsolute
    rw [hp]
    decide
  exact if_neg hrelative

theorem append_of_absolute {dir : Path} (hp : p.isAbsolute = true) : dir.append p = p :=
  if_pos hp

theorem anchor_of_relative (hp : p.isAbsolute = false) : p.anchor = .relative := by
  cases hanchor : p.anchor with
  | relative => rfl
  | root =>
      unfold isAbsolute at hp
      rw [hanchor] at hp
      cases hp
  | doubleRoot =>
      unfold isAbsolute at hp
      rw [hanchor] at hp
      cases hp

/-- The name of a path is that of every path with its components behind others. -/
theorem suffix_append (a b : Anchor) (front : List Text) {parts : List Text} (h : parts ≠ []) :
    suffix ⟨a, front ++ parts⟩ = suffix ⟨b, parts⟩ := by
  have hname : name ⟨a, front ++ parts⟩ = name ⟨b, parts⟩ := by
    unfold name
    rw [List.getLastD_eq_getLast?, List.getLastD_eq_getLast?, List.getLast?_append,
      List.getLast?_eq_some_getLast h, Option.some_or]
  unfold suffix
  rw [hname]

end Path

end IgnoreRules
