import Acrostic.Proofs.Storage.Tree
import Acrostic.Storage.Store

namespace Acrostic.Storage

namespace Tree

theorem entryAt?_append (tree : Tree) (place rest : Place) :
    tree.entryAt? (place ++ rest) = (tree.entryAt? place).bind (·.entryAt? rest) := by
  induction place generalizing tree with
  | nil => simp [entryAt?, Entry.entryAt?]
  | cons name place ih =>
    rw [List.cons_append, entryAt?_cons, entryAt?_cons]
    cases tree.find? name with
    | none => rfl
    | some entry =>
      cases entry with
      | folder inside => exact ih inside
      | file content => cases place <;> cases rest <;> rfl

theorem entryAt?_concat {tree inside : Tree} {place : Place} (name : Name)
    (h : tree.entryAt? place = some (.folder inside)) :
    tree.entryAt? (place ++ [name]) = inside.find? name := by
  rw [entryAt?_append, h]
  simp only [Option.bind_some, Entry.entryAt?, entryAt?_cons]
  cases inside.find? name with
  | none => rfl
  | some entry => cases entry <;> rfl

-- What is there is in a folder.
theorem kindAt?_parent {tree : Tree} {parent : Place} {name : Name} {kind : Kind}
    (h : tree.kindAt? (parent ++ [name]) = some kind) : tree.kindAt? parent = some .folder := by
  simp only [kindAt?, entryAt?_append] at h ⊢
  cases hparent : tree.entryAt? parent with
  | none => simp [hparent] at h
  | some entry =>
    cases entry with
    | folder inside => rfl
    | file content => simp [hparent, Entry.entryAt?] at h

theorem exists_parent_of_file {tree : Tree} {place : Place} {content : ByteArray}
    (h : tree.kindAt? place = some (.file content)) :
    ∃ parent name, place = parent ++ [name] ∧ tree.kindAt? parent = some .folder := by
  cases List.eq_nil_or_concat' place with
  | inl hnil =>
    subst hnil
    simp at h
  | inr hconcat =>
    obtain ⟨parent, name, rfl⟩ := hconcat
    exact ⟨parent, name, rfl, kindAt?_parent h⟩

end Tree

namespace Store

def Target.place : Target → Place
  | .present place _ => place
  | .vacant place => place

def kindAt? (store : Store) (place : Place) : Option Kind :=
  store.tree.kindAt? place

-- The content of the file at a place
def fileAt? (store : Store) (place : Place) : Option ByteArray :=
  match store.kindAt? place with
  | some (.file content) => some content
  | _ => none

-- Where the path leads, whether something is there or could be put there
def placeOf? (store : Store) (path : Path) : Option Place :=
  match store.locate path with
  | .ok target => some target.place
  | .error _ => none

-- Whether a file can stand at the place
def HasRoomAt (store : Store) (place : Place) : Prop :=
  store.kindAt? place ≠ some .folder ∧
    ∃ parent name, place = parent ++ [name] ∧ store.kindAt? parent = some .folder

theorem kindAt?_eq_of_entryAt? {store : Store} {place : Place} {entry : Entry}
    (h : store.tree.entryAt? place = some entry) : store.kindAt? place = some entry.kind := by
  simp [kindAt?, Tree.kindAt?, h]

theorem HasRoomAt.isLeaf {store : Store} {place : Place} (h : store.HasRoomAt place)
    {entry : Entry} (hentry : store.tree.entryAt? place = some entry) : entry.IsLeaf := by
  cases entry with
  | file content => trivial
  | folder inside => exact absurd (kindAt?_eq_of_entryAt? hentry) h.1

theorem hasRoomAt_of_file {store : Store} {place : Place} {content : ByteArray}
    (h : store.kindAt? place = some (.file content)) : store.HasRoomAt place :=
  ⟨by simp [h], Tree.exists_parent_of_file h⟩

theorem follow_present {tree : Tree} {origin place : Place} {steps : List Path.Step}
    {entry : Entry} (h : follow tree origin steps = .ok (.present place entry)) :
    tree.entryAt? place = some entry := by
  fun_induction follow tree origin steps with
  | case1 => simp at h
  | case2 origin found hfound =>
    simp only [Except.ok.injEq, Target.present.injEq] at h
    exact h.1 ▸ h.2 ▸ hfound
  | case3 => simp at h
  | case4 => simp at h
  | case5 _ _ _ _ ih => exact ih h
  | case6 _ _ _ _ ih => exact ih h
  | case7 => simp at h
  | case8 => simp at h
  | case9 _ _ _ _ _ _ _ ih => exact ih h

theorem follow_vacant {tree : Tree} {origin place : Place} {steps : List Path.Step}
    (h : follow tree origin steps = .ok (.vacant place)) :
    tree.entryAt? place = none ∧
      ∃ parent name, place = parent ++ [name] ∧ tree.kindAt? parent = some .folder := by
  fun_induction follow tree origin steps with
  | case1 => simp at h
  | case2 => simp at h
  | case3 => simp at h
  | case4 => simp at h
  | case5 _ _ _ _ ih => exact ih h
  | case6 _ _ _ _ ih => exact ih h
  | case7 => simp at h
  | case8 origin rest inside hinside name _ hfree =>
    simp only [Except.ok.injEq, Target.vacant.injEq] at h
    subst h
    refine ⟨?_, origin, name, rfl, by simp [Tree.kindAt?, hinside, Entry.kind]⟩
    rw [Tree.entryAt?_concat name hinside]
    simpa using (Bool.and_eq_true_iff.mp hfree).2
  | case9 _ _ _ _ _ _ _ ih => exact ih h

theorem follow_nil {tree : Tree} {origin : Place} {target : Target}
    (h : follow tree origin [] = .ok target) : target.place = origin := by
  rw [follow] at h
  split at h
  · contradiction
  · rw [← Except.ok.inj h]
    rfl

-- A name at the end of a path leads somewhere in any folder.
theorem exists_follow_into {tree inside : Tree} {origin : Place} {name : Name}
    (hinside : tree.entryAt? origin = some (.folder inside))
    (hlimit : ¬ nameLimit < (Text.encode name).size) :
    ∃ target, follow tree origin [.into name] = .ok target ∧
      target.place = origin ++ [name] := by
  simp only [follow, hinside, if_neg hlimit, Tree.entryAt?_concat name hinside, List.isEmpty_nil,
    Bool.true_and]
  cases inside.find? name with
  | none => exact ⟨_, rfl, rfl⟩
  | some entry => exact ⟨_, rfl, rfl⟩

theorem locate_eq_ok {store : Store} {path : Path} {target : Target}
    (h : store.locate path = .ok target) :
    follow store.tree (store.start path) path.steps = .ok target := by
  unfold locate at h
  split_ifs at h
  exact h

theorem hasRoomAt_of_vacant {store : Store} {origin place : Place} {steps : List Path.Step}
    (h : follow store.tree origin steps = .ok (.vacant place)) : store.HasRoomAt place := by
  obtain ⟨hnone, hparent⟩ := follow_vacant h
  exact ⟨by simp [kindAt?, Tree.kindAt?, hnone], hparent⟩

theorem read_eq_ok {store : Store} {path : Path} {content : ByteArray} :
    store.read path = .ok content ↔
      path.endsInSeparator = false ∧
        ∃ place, store.placeOf? path = some place ∧ store.kindAt? place = some (.file content) := by
  unfold read look placeOf?
  cases hlocate : store.locate path with
  | error fault => simp
  | ok target =>
    cases target with
    | vacant place =>
      have hnone := (follow_vacant (locate_eq_ok hlocate)).1
      simp [Target.place, kindAt?, Tree.kindAt?, hnone]
    | present place entry =>
      have hkind := kindAt?_eq_of_entryAt? (follow_present (locate_eq_ok hlocate))
      cases entry with
      | folder inside => simp [Target.place, hkind, Entry.kind]
      | file stored => cases path.endsInSeparator <;> simp [Target.place, hkind, Entry.kind]

section Change

variable {store : Store} {place : Place}

theorem kindAt?_writeAt (h : store.HasRoomAt place) (content : ByteArray) (other : Place) :
    (store.writeAt place content).kindAt? other =
      if other = place then some (.file content) else store.kindAt? other := by
  obtain ⟨parent, name, rfl, hparent⟩ := h.2
  exact Tree.kindAt?_alter (fun _ => .file content) store.sorted hparent
    (fun _ => h.isLeaf) trivial other

theorem kindAt?_append {content : ByteArray} (h : store.kindAt? place = some (.file content))
    (more : ByteArray) (other : Place) :
    (store.append place more).kindAt? other =
      if other = place then some (.file (content ++ more)) else store.kindAt? other := by
  have hroom := hasRoomAt_of_file h
  obtain ⟨parent, name, rfl, hparent⟩ := hroom.2
  obtain ⟨entry, hentry, hkind⟩ := Option.map_eq_some_iff.mp h
  obtain rfl : entry = .file content := by cases entry <;> simp_all [Entry.kind]
  have halter := Tree.kindAt?_alter (extend more) store.sorted hparent
    (fun _ => hroom.isLeaf) (by rw [hentry]; trivial) other
  rw [hentry] at halter
  exact halter

theorem kindAt?_makeFolderAt {origin : Place} {steps : List Path.Step}
    (h : follow store.tree origin steps = .ok (.vacant place)) (other : Place) :
    (store.makeFolderAt place).kindAt? other =
      if other = place then some .folder else store.kindAt? other := by
  have hroom := hasRoomAt_of_vacant h
  obtain ⟨parent, name, rfl, hparent⟩ := hroom.2
  have hnone := (follow_vacant h).1
  have halter := Tree.kindAt?_alter (·.getD (.folder .empty)) store.sorted hparent
    (fun _ => hroom.isLeaf) (by rw [hnone]; rfl) other
  rw [hnone] at halter
  exact halter

@[simp] theorem home_writeAt (content : ByteArray) :
    (store.writeAt place content).home = store.home :=
  rfl

@[simp] theorem home_append (more : ByteArray) : (store.append place more).home = store.home :=
  rfl

@[simp] theorem home_makeFolderAt : (store.makeFolderAt place).home = store.home :=
  rfl

end Change

end Store

end Acrostic.Storage
