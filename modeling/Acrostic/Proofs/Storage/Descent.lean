import Acrostic.Proofs.Storage.Path

namespace Acrostic.Storage

namespace Path

-- The path of what the names lead to from the folder
def joinAll (folder : Path) (place : Place) : Path :=
  place.foldl join folder

section Join

variable {folder : Path} {name : Name}

theorem join_eq (folder : Path) (name : Name) :
    ∃ gap, (folder.join name).text = folder.text ++ gap ++ name := by
  unfold join
  split_ifs
  · exact ⟨[], by simp⟩
  · exact ⟨[separator], by simp⟩

theorem isAbsolute_join (hsome : folder.text ≠ []) (name : Name) :
    (folder.join name).isAbsolute = folder.isAbsolute := by
  obtain ⟨gap, htext⟩ := join_eq folder name
  obtain ⟨c, rest, hfolder⟩ := List.exists_cons_of_ne_nil hsome
  simp [isAbsolute, htext, hfolder]

theorem endsInSeparator_join (folder : Path) (h : IsPlain name) :
    (folder.join name).endsInSeparator = false := by
  obtain ⟨gap, htext⟩ := join_eq folder name
  obtain ⟨first, last, rfl⟩ := (List.eq_nil_or_concat' name).resolve_left h.ne_nil
  have hlast : last ≠ separator := by
    rintro rfl
    exact h.notMem (by simp)
  simpa [endsInSeparator, htext, ← List.append_assoc] using hlast

theorem joinAll_cons (folder : Path) (name : Name) (place : Place) :
    folder.joinAll (name :: place) = (folder.join name).joinAll place :=
  rfl

theorem joinAll_spec (hsome : folder.text ≠ []) {place : Place} (h : ∀ name ∈ place, IsPlain name) :
    (folder.joinAll place).text ≠ [] ∧
      (folder.joinAll place).isAbsolute = folder.isAbsolute ∧
      (folder.joinAll place).steps = folder.steps ++ place.map .into ∧
      (place ≠ [] → (folder.joinAll place).endsInSeparator = false) := by
  induction place generalizing folder with
  | nil => simp [joinAll, hsome]
  | cons name place ih =>
    have hname := h name (by simp)
    have hnext : (folder.join name).text ≠ [] := by
      obtain ⟨gap, htext⟩ := join_eq folder name
      simp [htext, hsome]
    obtain ⟨htext, habsolute, hsteps, hends⟩ := ih hnext fun other hother => h other (by simp [hother])
    refine ⟨htext, ?_, ?_, fun _ => ?_⟩
    · exact habsolute.trans (isAbsolute_join hsome name)
    · rw [joinAll_cons, hsteps, steps_join folder hname]
      simp
    · by_cases hplace : place = []
      · subst hplace
        exact endsInSeparator_join folder hname
      · exact hends hplace

-- Different names lead to different paths.
theorem joinAll_injective (hsome : folder.text ≠ []) {place other : Place}
    (hplace : ∀ name ∈ place, IsPlain name) (hother : ∀ name ∈ other, IsPlain name)
    (h : folder.joinAll place = folder.joinAll other) : place = other := by
  obtain ⟨-, -, hsteps, -⟩ := joinAll_spec hsome hplace
  obtain ⟨-, -, hothers, -⟩ := joinAll_spec hsome hother
  have hinto : Function.Injective Step.into := fun _ _ heq => Step.into.inj heq
  rw [h, hothers, List.append_cancel_left_eq] at hsteps
  exact (List.map_injective_iff.mpr hinto hsteps).symm

end Join

end Path

-- A name that a file or a folder can have
structure IsFileName (name : Name) : Prop extends Path.IsPlain name where
  size_le : (Text.encode name).size ≤ Store.nameLimit

namespace Tree

def HasFileNames (tree : Tree) : Prop :=
  ∀ place entry, tree.entryAt? place = some entry → ∀ name ∈ place, IsFileName name

theorem isSorted_of_entryAt? {tree inside : Tree} {place : Place} (hsorted : tree.IsSorted)
    (h : tree.entryAt? place = some (.folder inside)) : inside.IsSorted := by
  induction place generalizing tree with
  | nil =>
    simp only [entryAt?, Option.some.injEq, Entry.folder.injEq] at h
    exact h ▸ hsorted
  | cons name place ih =>
    rw [entryAt?_cons] at h
    obtain ⟨entry, hfind, hentry⟩ := Option.bind_eq_some_iff.mp h
    cases entry with
    | folder within => exact ih (isSorted_of_find? hsorted hfind) hentry
    | file content => cases place <;> simp [Entry.entryAt?] at hentry

end Tree

namespace Store

-- Behind what is there a path goes on from its place.
theorem follow_append {tree : Tree} {origin place : Place} {entry : Entry}
    {steps : List Path.Step} (h : follow tree origin steps = .ok (.present place entry))
    (more : List Path.Step) : follow tree origin (steps ++ more) = follow tree place more := by
  fun_induction follow tree origin steps with
  | case1 => simp at h
  | case2 origin found hfound =>
    simp only [Except.ok.injEq, Target.present.injEq] at h
    rw [h.1, List.nil_append]
  | case3 => simp at h
  | case4 => simp at h
  | case5 origin rest inside hinside ih =>
    rw [List.cons_append, follow, hinside]
    exact ih h
  | case6 origin rest inside hinside ih =>
    rw [List.cons_append, follow, hinside]
    exact ih h
  | case7 => simp at h
  | case8 => simp at h
  | case9 origin rest inside hinside name hlimit htaken ih =>
    -- what the rest leads to is there, so that more may follow
    have hgoes : ((rest ++ more).isEmpty && (inside.find? name).isNone) = false := by
      cases rest with
      | cons => rfl
      | nil =>
        have hsome : ¬ (inside.find? name).isNone := by simpa using htaken
        rw [Bool.eq_false_iff.mpr hsome, Bool.and_false]
    rw [List.cons_append, follow, hinside]
    simp only [if_neg hlimit, hgoes, Bool.false_eq_true, if_false]
    exact ih h

theorem follow_into {tree inside : Tree} {origin place : Place} {content : ByteArray}
    (horigin : tree.entryAt? origin = some (.folder inside))
    (hfile : inside.entryAt? place = some (.file content))
    (hnames : ∀ name ∈ place, ¬ nameLimit < (Text.encode name).size) :
    follow tree origin (place.map .into) = .ok (.present (origin ++ place) (.file content)) := by
  induction place generalizing origin inside with
  | nil => simp [Tree.entryAt?] at hfile
  | cons name place ih =>
    have hlimit := hnames name (by simp)
    have hnext := Tree.entryAt?_concat name horigin
    rw [Tree.entryAt?_cons] at hfile
    obtain ⟨entry, hfind, hentry⟩ := Option.bind_eq_some_iff.mp hfile
    have hsome : (inside.find? name).isNone = false := by simp [hfind]
    rw [List.map_cons, follow, horigin]
    simp only [if_neg hlimit, hsome, Bool.and_false, Bool.false_eq_true, if_false]
    rw [hfind] at hnext
    cases entry with
    | folder within =>
      rw [ih hnext hentry fun other hother => hnames other (List.mem_cons_of_mem name hother),
        List.append_assoc, List.singleton_append]
    | file stored =>
      obtain rfl : place = [] := by
        by_contra hplace
        simp [Entry.entryAt?, hplace] at hentry
      obtain rfl : stored = content := by simpa [Entry.entryAt?] using hentry
      simp [follow, hnext]

theorem look_eq_ok_folder {store : Store} {path : Path} {inside : Tree}
    (h : store.look path = .ok (.folder inside)) :
    path.text ≠ [] ∧ ∃ origin, store.locate path = .ok (.present origin (.folder inside)) := by
  unfold look at h
  split at h
  · contradiction
  · contradiction
  · next origin within hlocate =>
    simp only [Except.ok.injEq, Entry.folder.injEq] at h
    subst h
    refine ⟨?_, origin, hlocate⟩
    rintro hnil
    simp [locate, hnil] at hlocate
  · split_ifs at h
    cases h

theorem isSorted_of_look {store : Store} {path : Path} {inside : Tree}
    (h : store.look path = .ok (.folder inside)) : inside.IsSorted := by
  obtain ⟨-, origin, hlocate⟩ := look_eq_ok_folder h
  exact Tree.isSorted_of_entryAt? store.sorted (follow_present (locate_eq_ok hlocate))

-- What is in a folder is read at the path that its names lead to.
theorem read_joinAll {store : Store} {folder : Path} {inside : Tree} {place : Place}
    {content : ByteArray} (hfolder : store.look folder = .ok (.folder inside))
    (hfile : inside.entryAt? place = some (.file content))
    (hnames : ∀ name ∈ place, IsFileName name)
    (hlimit : (Text.encode (folder.joinAll place).text).size ≤ pathLimit) :
    store.read (folder.joinAll place) = .ok content := by
  obtain ⟨hsome, origin, hlocate⟩ := look_eq_ok_folder hfolder
  obtain ⟨htext, habsolute, hsteps, hends⟩ :=
    Path.joinAll_spec hsome fun name hname => (hnames name hname).toIsPlain
  have hnonempty : place ≠ [] := by
    rintro rfl
    simp [Tree.entryAt?] at hfile
  have hfollow := locate_eq_ok hlocate
  have hwhole : store.locate (folder.joinAll place) =
      .ok (.present (origin ++ place) (.file content)) := by
    have hempty : (folder.joinAll place).text.isEmpty = false := by simpa using htext
    have hstart : store.start (folder.joinAll place) = store.start folder := by
      rw [start, habsolute, ← start]
    rw [locate, hempty, if_neg Bool.false_ne_true, if_neg (by omega), hstart, hsteps,
      follow_append hfollow]
    exact follow_into (follow_present hfollow) hfile fun name hname =>
      Nat.not_lt.mpr (hnames name hname).size_le
  rw [read, look, hwhole]
  simp [hends hnonempty]

end Store

end Acrostic.Storage
