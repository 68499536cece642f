import Acrostic.Proofs.Storage.Store

namespace Acrostic.Storage

namespace Tree

section Places

variable {name : Name} {entry : Entry} {others : Tree}

theorem eq_empty_or_link (tree : Tree) :
    tree = empty ∨ ∃ name entry others, tree = link name entry others := by
  cases tree with
  | empty => exact .inl rfl
  | file name content others => exact .inr ⟨name, .file content, others, rfl⟩
  | folder name inside others => exact .inr ⟨name, .folder inside, others, rfl⟩

theorem isSorted_link_iff :
    (link name entry others).IsSorted ↔
      (∀ other ∈ others.names, Text.precedes name other) ∧ entry.IsSorted ∧ others.IsSorted := by
  cases entry <;> simp [link, IsSorted, Entry.IsSorted]

theorem kindAt?_link_self (rest : Place) :
    (link name entry others).kindAt? (name :: rest) = (entry.entryAt? rest).map Entry.kind := by
  simp [kindAt?, entryAt?_link]

theorem kindAt?_link_of_ne {other : Name} (h : other ≠ name) (rest : Place) :
    (link name entry others).kindAt? (other :: rest) = others.kindAt? (other :: rest) := by
  simp [kindAt?, entryAt?_link, h]

theorem kindAt?_of_notMem {tree : Tree} (h : name ∉ tree.names) (rest : Place) :
    tree.kindAt? (name :: rest) = none := by
  rw [kindAt?, entryAt?_of_notMem h, Option.map_none]

-- No name comes before the first one.
theorem kindAt?_link_of_precedes {other : Name} (hsorted : (link name entry others).IsSorted)
    (hlt : Text.precedes other name = true) (rest : Place) :
    (link name entry others).kindAt? (other :: rest) = none := by
  obtain ⟨hbehind, -, -⟩ := isSorted_link_iff.mp hsorted
  obtain ⟨hne, hnone⟩ := find?_eq_none_of_precedes hlt hbehind
  simp [kindAt?, entryAt?_cons, find?_link, hne, hnone]

theorem kindAt?_link_ne_none (name : Name) (entry : Entry) (others : Tree) :
    (link name entry others).kindAt? [name] ≠ none := by
  rw [kindAt?_link_self, Entry.entryAt?_nil_map_kind]
  simp

variable {other : Name} {found : Entry} {rest : Tree}

-- Two trees have the same first name when the same stands at every place of theirs, the same entry
-- under this name, and the same behind it.
theorem eq_of_kindAt?_link (h : (link name entry others).IsSorted)
    (h' : (link other found rest).IsSorted)
    (hkind : ∀ place, (link name entry others).kindAt? place =
      (link other found rest).kindAt? place) :
    name = other ∧
      (∀ place, (entry.entryAt? place).map Entry.kind = (found.entryAt? place).map Entry.kind) ∧
      ∀ place, others.kindAt? place = rest.kindAt? place := by
  obtain rfl : name = other := by
    by_contra hne
    by_cases hlt : Text.precedes name other = true
    · have hnone := kindAt?_link_of_precedes h' hlt []
      rw [← hkind] at hnone
      exact kindAt?_link_ne_none _ _ _ hnone
    · have hnone := kindAt?_link_of_precedes h (Text.precedes_of_not hlt hne) []
      rw [hkind] at hnone
      exact kindAt?_link_ne_none _ _ _ hnone
  refine ⟨rfl, fun place => ?_, fun place => ?_⟩
  · have hplace := hkind (name :: place)
    rwa [kindAt?_link_self, kindAt?_link_self] at hplace
  · cases place with
    | nil => simp
    | cons first place =>
      by_cases hfirst : first = name
      · subst hfirst
        rw [kindAt?_of_notMem (Text.notMem_of_precedes (isSorted_link_iff.mp h).1),
          kindAt?_of_notMem (Text.notMem_of_precedes (isSorted_link_iff.mp h').1)]
      · have hplace := hkind (first :: place)
        rwa [kindAt?_link_of_ne hfirst, kindAt?_link_of_ne hfirst] at hplace

-- A tree is given by what stands at its places.
theorem ext_kindAt? {tree other : Tree} (h : tree.IsSorted) (h' : other.IsSorted)
    (hkind : ∀ place, tree.kindAt? place = other.kindAt? place) : tree = other := by
  induction tree generalizing other with
  | empty =>
    obtain rfl | ⟨name, entry, others, rfl⟩ := eq_empty_or_link other
    · rfl
    · exact absurd (hkind [name]).symm (kindAt?_link_ne_none name entry others)
  | file name content others ih =>
    obtain rfl | ⟨first, entry, rest, rfl⟩ := eq_empty_or_link other
    · exact absurd (hkind [name]) (kindAt?_link_ne_none name (.file content) others)
    · have hlink : (link name (.file content) others).IsSorted := h
      obtain ⟨rfl, hentry, hothers⟩ := eq_of_kindAt?_link hlink h' hkind
      obtain rfl := ih h.2 (isSorted_link_iff.mp h').2.2 hothers
      have hfirst := hentry []
      rw [Entry.entryAt?_nil_map_kind, Entry.entryAt?_nil_map_kind] at hfirst
      cases entry with
      | file stored =>
        obtain rfl : content = stored := by simpa [Entry.kind] using hfirst
        rfl
      | folder inside => simp [Entry.kind] at hfirst
  | folder name inside others ihInside ih =>
    obtain rfl | ⟨first, entry, rest, rfl⟩ := eq_empty_or_link other
    · exact absurd (hkind [name]) (kindAt?_link_ne_none name (.folder inside) others)
    · have hlink : (link name (.folder inside) others).IsSorted := h
      obtain ⟨rfl, hentry, hothers⟩ := eq_of_kindAt?_link hlink h' hkind
      obtain rfl := ih h.2.2 (isSorted_link_iff.mp h').2.2 hothers
      have hfirst := hentry []
      rw [Entry.entryAt?_nil_map_kind, Entry.entryAt?_nil_map_kind] at hfirst
      cases entry with
      | file stored => simp [Entry.kind] at hfirst
      | folder within =>
        obtain rfl := ihInside h.2.1 (isSorted_link_iff.mp h').2.1 hentry
        rfl

end Places

end Tree

-- So is a store, together with the folder that relative paths start from.
theorem Store.ext_kindAt? {store other : Store} (hhome : store.home = other.home)
    (hkind : ∀ place, store.kindAt? place = other.kindAt? place) : store = other := by
  obtain ⟨tree, sorted, home⟩ := store
  obtain ⟨tree', sorted', home'⟩ := other
  obtain rfl : tree = tree' := Tree.ext_kindAt? sorted sorted' hkind
  obtain rfl : home = home' := hhome
  rfl

end Acrostic.Storage
