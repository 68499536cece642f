import Acrostic.Storage.Tree
import Mathlib.Data.List.Basic

namespace Acrostic.Storage

-- What stands at a place, a folder without what is in it
inductive Kind where
  | file (content : ByteArray)
  | folder

namespace Entry

def kind : Entry → Kind
  | .file content => .file content
  | .folder _ => .folder

-- What the rest of a place leads to from an entry
def entryAt? : Entry → Place → Option Entry
  | .folder inside, rest => inside.entryAt? rest
  | .file content, rest => if rest.isEmpty then some (.file content) else none

def alterInside (change : Option Entry → Entry) (rest : Place) : Entry → Entry
  | .folder inside => .folder (Tree.alter change rest inside)
  | .file content => .file content

-- Nothing is below the entry.
def IsLeaf : Entry → Prop
  | .file _ => True
  | .folder inside => inside = .empty

theorem entryAt?_nil_map_kind (entry : Entry) :
    (entry.entryAt? []).map kind = some entry.kind := by
  cases entry <;> rfl

theorem entryAt?_cons_of_isLeaf {entry : Entry} (h : entry.IsLeaf) (name : Name) (rest : Place) :
    entry.entryAt? (name :: rest) = none := by
  cases entry with
  | file content => rfl
  | folder inside =>
    obtain rfl : inside = .empty := h
    rfl

end Entry

namespace Tree

def kindAt? (tree : Tree) (place : Place) : Option Kind :=
  (tree.entryAt? place).map Entry.kind

@[simp] theorem kindAt?_nil (tree : Tree) : tree.kindAt? [] = some .folder := by
  simp [kindAt?, entryAt?, Entry.kind]

theorem entryAt?_cons (tree : Tree) (name : Name) (rest : Place) :
    tree.entryAt? (name :: rest) = (tree.find? name).bind (·.entryAt? rest) := by
  rw [entryAt?.eq_2]
  cases h : tree.find? name with
  | none => rfl
  | some entry => cases entry <;> rfl

theorem find?_link (name other : Name) (entry : Entry) (others : Tree) :
    (link name entry others).find? other =
      if other = name then some entry else others.find? other := by
  cases entry <;> rfl

theorem entryAt?_link (name first : Name) (entry : Entry) (others : Tree) (rest : Place) :
    (link name entry others).entryAt? (first :: rest) =
      if first = name then entry.entryAt? rest else others.entryAt? (first :: rest) := by
  rw [entryAt?_cons, find?_link, entryAt?_cons]
  split_ifs <;> rfl

theorem find?_eq_none_of_notMem {tree : Tree} {name : Name} (h : name ∉ tree.names) :
    tree.find? name = none := by
  induction tree with
  | empty => rfl
  | file other content others ih =>
    simp only [names, List.mem_cons, not_or] at h
    simp [find?, h.1, ih h.2]
  | folder other inside others _ ih =>
    simp only [names, List.mem_cons, not_or] at h
    simp [find?, h.1, ih h.2]

theorem entryAt?_of_notMem {tree : Tree} {name : Name} (h : name ∉ tree.names) (rest : Place) :
    tree.entryAt? (name :: rest) = none := by
  rw [entryAt?_cons, find?_eq_none_of_notMem h, Option.bind_none]

-- The order of the names allows to stop before the first name that comes later.
theorem find?_eq_none_of_precedes {name other : Name} {others : Tree}
    (hlt : Text.precedes name other = true)
    (hbehind : ∀ behind ∈ others.names, Text.precedes other behind = true) :
    name ≠ other ∧ others.find? name = none := by
  have hnot : name ∉ other :: others.names :=
    Text.notMem_of_precedes (precedes_of_mem_cons hlt hbehind)
  obtain ⟨hne, hmem⟩ := not_or.mp (mt List.mem_cons.mpr hnot)
  exact ⟨hne, find?_eq_none_of_notMem hmem⟩

theorem isSorted_of_find? {tree inside : Tree} {name : Name} (hsorted : tree.IsSorted)
    (h : tree.find? name = some (.folder inside)) : inside.IsSorted := by
  induction tree with
  | empty => simp [find?] at h
  | file other content others ih =>
    simp only [find?] at h
    split at h
    · simp at h
    · exact ih hsorted.2 h
  | folder other within others _ ih =>
    simp only [find?] at h
    split at h
    · simp only [Option.some.injEq, Entry.folder.injEq] at h
      exact h ▸ hsorted.2.1
    · exact ih hsorted.2.2 h

section Alter

variable {change : Option Entry → Entry}

theorem find?_alter_of_ne {name other : Name} {rest : Place} {tree : Tree} (h : other ≠ name) :
    (alter change (name :: rest) tree).find? other = tree.find? other := by
  induction tree with
  | empty => cases rest <;> simp [alter, find?_link, find?, h]
  | file first content others ih =>
    rw [alter.eq_3]
    split_ifs with heq hrest hlt hrest
    · subst heq
      simp [find?_link, find?, h]
    · rfl
    · simp [find?_link, find?, h]
    · rfl
    · simp [find?, ih]
  | folder first inside others _ ih =>
    rw [alter.eq_4]
    split_ifs with heq hrest hlt hrest
    · subst heq
      simp [find?_link, find?, h]
    · subst heq
      simp [find?, h]
    · simp [find?_link, find?, h]
    · rfl
    · simp [find?, ih]

theorem find?_alter_singleton {name : Name} {tree : Tree} (h : tree.IsSorted) :
    (alter change [name] tree).find? name = some (change (tree.find? name)) := by
  induction tree with
  | empty => simp [alter, find?_link, find?]
  | file first content others ih =>
    simp only [alter, List.isEmpty_nil, if_true]
    split_ifs with heq hlt
    · subst heq
      simp [find?_link, find?]
    · obtain ⟨hne, hnone⟩ := find?_eq_none_of_precedes hlt h.1
      simp [find?_link, find?, hne, hnone]
    · simp [find?, heq, ih h.2]
  | folder first inside others _ ih =>
    simp only [alter, List.isEmpty_nil, if_true]
    split_ifs with heq hlt
    · subst heq
      simp [find?_link, find?]
    · obtain ⟨hne, hnone⟩ := find?_eq_none_of_precedes hlt h.1
      simp [find?_link, find?, hne, hnone]
    · simp [find?, heq, ih h.2.2]

theorem find?_alter_cons {name below : Name} {rest : Place} {tree : Tree} (h : tree.IsSorted) :
    (alter change (name :: below :: rest) tree).find? name =
      (tree.find? name).map (Entry.alterInside change (below :: rest)) := by
  induction tree with
  | empty => simp [alter, find?]
  | file first content others ih =>
    simp only [alter, List.isEmpty_cons, Bool.false_eq_true, if_false]
    split_ifs with heq hlt
    · subst heq
      simp [find?, Entry.alterInside]
    · obtain ⟨hne, hnone⟩ := find?_eq_none_of_precedes hlt h.1
      simp [find?, hne, hnone]
    · simp [find?, heq, ih h.2]
  | folder first inside others _ ih =>
    simp only [alter, List.isEmpty_cons, Bool.false_eq_true, if_false]
    split_ifs with heq hlt
    · subst heq
      simp [find?, Entry.alterInside]
    · obtain ⟨hne, hnone⟩ := find?_eq_none_of_precedes hlt h.1
      simp [find?, hne, hnone]
    · simp [find?, heq, ih h.2.2]

-- An entry that is put among the first ones is there, and nothing else has changed. This needs that
-- nothing is below the entry, neither before nor afterwards.
theorem kindAt?_alter_singleton (change : Option Entry → Entry) {name : Name} {tree : Tree}
    (hsorted : tree.IsSorted) (hbefore : ∀ entry, tree.entryAt? [name] = some entry → entry.IsLeaf)
    (hafter : (change (tree.entryAt? [name])).IsLeaf) (place : Place) :
    (alter change [name] tree).kindAt? place =
      if place = [name] then some (change (tree.entryAt? [name])).kind
      else tree.kindAt? place := by
  have hentry : tree.entryAt? [name] = tree.find? name := by
    rw [entryAt?_cons]
    cases tree.find? name with
    | none => rfl
    | some entry => cases entry <;> rfl
  rw [hentry] at hbefore hafter ⊢
  cases place with
  | nil => simp
  | cons other rest =>
    by_cases hother : other = name
    · subst hother
      simp only [kindAt?, entryAt?_cons, find?_alter_singleton hsorted, Option.bind_some]
      cases rest with
      | nil => simp [Entry.entryAt?_nil_map_kind]
      | cons below rest =>
        rw [Entry.entryAt?_cons_of_isLeaf hafter]
        cases hfind : tree.find? other with
        | none => simp
        | some entry => simp [Entry.entryAt?_cons_of_isLeaf (hbefore entry hfind)]
    · simp [kindAt?, entryAt?_cons, find?_alter_of_ne hother, hother]

-- A way on from a folder starts in a folder that is there.
theorem exists_find?_of_kindAt?_cons {first : Name} {parent : Place} {tree : Tree}
    (h : tree.kindAt? (first :: parent) = some .folder) :
    ∃ inside, tree.find? first = some (.folder inside) ∧ inside.kindAt? parent = some .folder := by
  cases hfind : tree.find? first with
  | none => simp [kindAt?, entryAt?_cons, hfind] at h
  | some entry =>
    cases entry with
    | file content =>
      cases parent <;> simp [kindAt?, entryAt?_cons, hfind, Entry.entryAt?, Entry.kind] at h
    | folder inside =>
      exact ⟨inside, rfl, by simpa [kindAt?, entryAt?_cons, hfind, Entry.entryAt?] using h⟩

-- What is done within a folder leaves everything beside it as it is.
theorem kindAt?_alter_cons {change : Option Entry → Entry} {first below : Name} {more : Place}
    {tree inside : Tree} (hsorted : tree.IsSorted) (hfind : tree.find? first = some (.folder inside))
    (other : Name) (rest : Place) :
    (alter change (first :: below :: more) tree).kindAt? (other :: rest) =
      if other = first then (alter change (below :: more) inside).kindAt? rest
      else tree.kindAt? (other :: rest) := by
  simp only [kindAt?, entryAt?_cons]
  split_ifs with hother
  · rw [hother, find?_alter_cons hsorted, hfind]
    rfl
  · rw [find?_alter_of_ne hother]

-- So it is with an entry that is put into a folder, however deep the folder is.
theorem kindAt?_alter (change : Option Entry → Entry) {parent : Place} {name : Name} {tree : Tree}
    (hsorted : tree.IsSorted) (hparent : tree.kindAt? parent = some .folder)
    (hbefore : ∀ entry, tree.entryAt? (parent ++ [name]) = some entry → entry.IsLeaf)
    (hafter : (change (tree.entryAt? (parent ++ [name]))).IsLeaf) (place : Place) :
    (alter change (parent ++ [name]) tree).kindAt? place =
      if place = parent ++ [name] then some (change (tree.entryAt? (parent ++ [name]))).kind
      else tree.kindAt? place := by
  induction parent generalizing tree place with
  | nil => exact kindAt?_alter_singleton change hsorted hbefore hafter place
  | cons first parent ih =>
    obtain ⟨inside, hfind, hwithin⟩ := exists_find?_of_kindAt?_cons hparent
    have hentry : tree.entryAt? (first :: parent ++ [name]) =
        inside.entryAt? (parent ++ [name]) := by
      rw [List.cons_append, entryAt?_cons, hfind]
      rfl
    rw [hentry] at hbefore hafter ⊢
    have hin := ih (isSorted_of_find? hsorted hfind) hwithin hbefore hafter
    obtain ⟨below, more, hmore⟩ : ∃ below more, parent ++ [name] = below :: more := by
      cases parent <;> simp
    rw [List.cons_append, hmore]
    rw [hmore] at hin
    cases place with
    | nil => simp
    | cons other rest =>
      rw [kindAt?_alter_cons hsorted hfind]
      by_cases hother : other = first
      · subst hother
        have hbelow : tree.kindAt? (other :: rest) = inside.kindAt? rest := by
          rw [kindAt?, entryAt?_cons, hfind]
          rfl
        rw [if_pos rfl, hin, hbelow]
        simp
      · simp [hother]

end Alter

end Tree

end Acrostic.Storage
