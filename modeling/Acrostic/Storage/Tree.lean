import Acrostic.Storage.Path
import Acrostic.Text.Order

namespace Acrostic.Storage

open Text (precedes)

-- The entries of a folder, one after the other
inductive Tree where
  | empty
  | file (name : Name) (content : ByteArray) (others : Tree)
  | folder (name : Name) (inside others : Tree)

inductive Entry where
  | file (content : ByteArray)
  | folder (inside : Tree)

namespace Tree

-- An entry in front of others
def link (name : Name) (entry : Entry) (others : Tree) : Tree :=
  match entry with
  | .file content => .file name content others
  | .folder inside => .folder name inside others

def names : Tree → List Name
  | empty => []
  | file name _ others => name :: others.names
  | folder name _ others => name :: others.names

def find? (name : Name) : Tree → Option Entry
  | empty => none
  | file other content others =>
    if name = other then some (.file content) else others.find? name
  | folder other inside others =>
    if name = other then some (.folder inside) else others.find? name

-- The entry at a place; the root is a folder
def entryAt? (tree : Tree) : Place → Option Entry
  | [] => some (.folder tree)
  | name :: rest =>
    match tree.find? name with
    | none => none
    | some (.folder inside) => inside.entryAt? rest
    | some (.file content) => if rest.isEmpty then some (.file content) else none

-- Puts at a place what `change` makes of the entry there. A new entry is put where the order of
-- names has it, provided that its folder is there.
def alter (change : Option Entry → Entry) : Place → Tree → Tree
  | [], tree => tree
  | name :: rest, empty => if rest.isEmpty then link name (change none) empty else empty
  | name :: rest, file other content others =>
    if name = other then
      if rest.isEmpty then link other (change (some (.file content))) others
      else file other content others
    else if precedes name other then
      if rest.isEmpty then link name (change none) (file other content others)
      else file other content others
    else file other content (alter change (name :: rest) others)
  | name :: rest, folder other inside others =>
    if name = other then
      if rest.isEmpty then link other (change (some (.folder inside))) others
      else folder other (alter change rest inside) others
    else if precedes name other then
      if rest.isEmpty then link name (change none) (folder other inside others)
      else folder other inside others
    else folder other inside (alter change (name :: rest) others)

-- Every folder has its entries in the order of their names, and no name twice.
def IsSorted : Tree → Prop
  | empty => True
  | file name _ others => (∀ other ∈ others.names, precedes name other) ∧ others.IsSorted
  | folder name inside others =>
    (∀ other ∈ others.names, precedes name other) ∧ inside.IsSorted ∧ others.IsSorted

end Tree

def Entry.IsSorted : Entry → Prop
  | .file _ => True
  | .folder inside => inside.IsSorted

namespace Tree

theorem names_link (name : Name) (entry : Entry) (others : Tree) :
    (link name entry others).names = name :: others.names := by
  cases entry <;> rfl

theorem isSorted_link {name : Name} {entry : Entry} {others : Tree}
    (hentry : entry.IsSorted) (hbehind : ∀ other ∈ others.names, precedes name other)
    (hothers : others.IsSorted) : (link name entry others).IsSorted := by
  cases entry with
  | file content => exact ⟨hbehind, hothers⟩
  | folder inside => exact ⟨hbehind, hentry, hothers⟩

theorem mem_names_alter {change : Option Entry → Entry} {place : Place} {tree : Tree}
    {name : Name} (h : name ∈ (alter change place tree).names) :
    name ∈ tree.names ∨ place.head? = some name := by
  fun_induction alter change place tree <;> simp_all [names_link, names] <;> grind

section Order

variable {name other : Name} {others : Tree}

-- What comes before the first name of a folder comes before all of them.
theorem precedes_of_mem_cons (hlt : precedes name other = true)
    (h : ∀ behind ∈ others.names, precedes other behind) :
    ∀ behind ∈ other :: others.names, precedes name behind := by
  intro behind hbehind
  cases List.mem_cons.mp hbehind with
  | inl heq => exact heq ▸ hlt
  | inr hmem => exact Text.precedes_trans hlt (h behind hmem)

-- A name that does not belong in front of the first one is put behind it.
theorem precedes_of_mem_alter {change : Option Entry → Entry} {rest : Place} (hne : name ≠ other)
    (hlt : ¬ precedes name other = true) (h : ∀ behind ∈ others.names, precedes other behind) :
    ∀ behind ∈ (alter change (name :: rest) others).names, precedes other behind := by
  intro behind hbehind
  cases mem_names_alter hbehind with
  | inl hmem => exact h behind hmem
  | inr hhead =>
    cases hhead
    exact Text.precedes_of_not hlt hne

end Order

-- The order lasts as long as the entries that are put have their own in order.
theorem isSorted_alter {change : Option Entry → Entry} (place : Place) {tree : Tree}
    (hnone : (change none).IsSorted)
    (hsome : ∀ entry, entry.IsSorted → (change (some entry)).IsSorted)
    (h : tree.IsSorted) : (alter change place tree).IsSorted := by
  fun_induction alter change place tree with
  | case1 | case3 | case5 | case7 | case12 => exact h
  | case2 name rest _ => exact isSorted_link hnone (by simp [names]) trivial
  | case4 rest other content others _ => exact isSorted_link (hsome _ trivial) h.1 h.2
  | case9 rest other inside others _ => exact isSorted_link (hsome _ h.2.1) h.1 h.2.2
  | case6 name rest other content others _ hlt _ =>
    exact isSorted_link hnone (precedes_of_mem_cons hlt h.1) h
  | case11 name rest other inside others _ hlt _ =>
    exact isSorted_link hnone (precedes_of_mem_cons hlt h.1) h
  | case8 name rest other content others hne hlt ih =>
    exact ⟨precedes_of_mem_alter hne hlt h.1, ih h.2⟩
  | case13 name rest other inside others hne hlt ih =>
    exact ⟨precedes_of_mem_alter hne hlt h.1, h.2.1, ih h.2.2⟩
  | case10 rest other inside others _ ih => exact ⟨h.1, ih h.2.1, h.2.2⟩

end Tree

end Acrostic.Storage
