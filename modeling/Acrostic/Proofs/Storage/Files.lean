import Acrostic.Proofs.Storage.Growth

namespace Acrostic.Storage

-- A path that starts with no separator has a first step.
theorem Path.steps_ne_nil {path : Path} (hsome : path.text ≠ []) (h : path.isAbsolute = false) :
    path.steps ≠ [] := by
  obtain ⟨c, rest, htext⟩ := List.exists_cons_of_ne_nil hsome
  have hc : c ≠ separator := by simpa [isAbsolute, htext] using h
  obtain ⟨piece, pieces, hpieces⟩ := List.exists_cons_of_ne_nil (List.splitOn_ne_nil separator rest)
  simp [steps, htext, List.splitOn_cons_eq_if_modifyHead, hc, hpieces]

namespace Tree

theorem kindAt?_dropLast {tree : Tree} {place : Place} (h : tree.kindAt? place = some .folder) :
    tree.kindAt? place.dropLast = some .folder := by
  cases List.eq_nil_or_concat' place with
  | inl hnil => simp [hnil]
  | inr hconcat =>
    obtain ⟨parent, name, rfl⟩ := hconcat
    rw [List.dropLast_concat]
    exact kindAt?_parent h

end Tree

namespace Store

-- Nothing but files has been made.
structure AddsFiles (store after : Store) : Prop extends store.Extends after where
  folder_of : ∀ place, after.kindAt? place = some .folder → store.kindAt? place = some .folder

section Follow

variable {store after : Store}

theorem AddsFiles.entryAt?_folder_of (h : store.AddsFiles after) {place : Place} {inside : Tree}
    (hinside : after.tree.entryAt? place = some (.folder inside)) :
    ∃ earlier, store.tree.entryAt? place = some (.folder earlier) := by
  have hkind := h.folder_of place (kindAt?_eq_of_entryAt? hinside)
  obtain ⟨entry, hentry, hfolder⟩ := Option.map_eq_some_iff.mp hkind
  cases entry with
  | file content => simp [Entry.kind] at hfolder
  | folder earlier => exact ⟨earlier, hentry⟩

-- A path that leads to a file or to where one could be has led there before.
theorem AddsFiles.follow_place_of (h : store.AddsFiles after) {origin : Place}
    {steps : List Path.Step} {target : Target}
    (hfollow : follow after.tree origin steps = .ok target)
    (hfile : after.kindAt? target.place ≠ some .folder) (hsome : steps ≠ []) :
    ∃ target', follow store.tree origin steps = .ok target' ∧ target'.place = target.place := by
  fun_induction follow after.tree origin steps with
  | case1 => contradiction
  | case2 => contradiction
  | case3 => simp at hfollow
  | case4 => simp at hfollow
  | case5 origin rest inside hinside ih =>
    obtain ⟨earlier, hearlier⟩ := h.entryAt?_folder_of hinside
    by_cases hrest : rest = []
    · rw [hrest] at hfollow
      rw [follow_nil hfollow] at hfile
      exact absurd (kindAt?_eq_of_entryAt? hinside) hfile
    · simpa [follow, hearlier] using ih hfollow hrest
  | case6 origin rest inside hinside ih =>
    obtain ⟨earlier, hearlier⟩ := h.entryAt?_folder_of hinside
    by_cases hrest : rest = []
    · rw [hrest] at hfollow
      rw [follow_nil hfollow] at hfile
      exact absurd (Tree.kindAt?_dropLast (kindAt?_eq_of_entryAt? hinside)) hfile
    · simpa [follow, hearlier] using ih hfollow hrest
  | case7 => simp at hfollow
  | case8 origin rest inside hinside name hlimit hfree =>
    obtain ⟨earlier, hearlier⟩ := h.entryAt?_folder_of hinside
    obtain rfl : rest = [] := by simpa using (Bool.and_eq_true_iff.mp hfree).1
    obtain rfl := Except.ok.inj hfollow
    exact exists_follow_into hearlier hlimit
  | case9 origin rest inside hinside name hlimit htaken ih =>
    obtain ⟨earlier, hearlier⟩ := h.entryAt?_folder_of hinside
    by_cases hrest : rest = []
    · subst hrest
      rw [follow_nil hfollow]
      exact exists_follow_into hearlier hlimit
    · have hmore : rest.isEmpty = false := by simpa using hrest
      simpa [follow, hearlier, hlimit, hmore] using ih hfollow hrest

theorem AddsFiles.placeOf?_of (h : store.AddsFiles after) {path : Path} {place : Place}
    (hplace : after.placeOf? path = some place) (hfile : after.kindAt? place ≠ some .folder) :
    store.placeOf? path = some place := by
  unfold Store.placeOf? at hplace
  split at hplace
  · next target hlocate =>
    rw [Option.some.injEq] at hplace
    subst hplace
    have hfollow := locate_eq_ok hlocate
    unfold locate at hlocate
    split_ifs at hlocate with hempty hlong
    have hsteps : path.steps ≠ [] := by
      intro hnil
      have habsolute : path.isAbsolute = true := by
        by_contra hrelative
        exact Path.steps_ne_nil (by simpa using hempty) (by simpa using hrelative) hnil
      rw [hnil] at hfollow
      rw [follow_nil hfollow, start, if_pos habsolute] at hfile
      exact hfile (Tree.kindAt?_nil _)
    have hstart : after.start path = store.start path := by simp [start, h.home]
    rw [hstart] at hfollow
    obtain ⟨target', htarget, heq⟩ := h.follow_place_of hfollow hfile hsteps
    simp [Store.placeOf?, locate, hempty, hlong, htarget, heq]
  · contradiction

-- A file that has not been written to has read the same.
theorem AddsFiles.read_eq_ok_of (h : store.AddsFiles after) {path : Path} {content : ByteArray}
    (hread : after.read path = .ok content)
    (hsame : ∀ place, store.placeOf? path = some place →
      after.kindAt? place = store.kindAt? place) :
    store.read path = .ok content := by
  obtain ⟨hseparator, place, hplace, hkind⟩ := Store.read_eq_ok.mp hread
  have hplace' := h.placeOf?_of hplace (by simp [hkind])
  exact Store.read_eq_ok.mpr ⟨hseparator, place, hplace', (hsame place hplace').symm.trans hkind⟩

end Follow

-- Whether the path leads to where a file can be made, or to one that can be written over
def canCreate (store : Store) (path : Path) : Bool :=
  (store.create path).toOption.isSome

section Create

variable {store after : Store} {path : Path}

theorem canCreate_iff_exists :
    store.canCreate path = true ↔ ∃ made, store.create path = .ok made := by
  unfold canCreate
  cases store.create path <;> simp [Except.toOption]

theorem canCreate_iff_place :
    store.canCreate path = true ↔
      path.endsInSeparator = false ∧
        ∃ place, store.placeOf? path = some place ∧ store.kindAt? place ≠ some .folder := by
  rw [canCreate_iff_exists]
  constructor
  · rintro ⟨⟨place, made⟩, hcreate⟩
    obtain ⟨hseparator, hplace, hroom, -⟩ := create_eq_ok hcreate
    exact ⟨hseparator, place, hplace, hroom.1⟩
  · rintro ⟨hseparator, place, hplace, hkind⟩
    unfold placeOf? at hplace
    split at hplace
    · next target hlocate =>
      rw [Option.some.injEq] at hplace
      subst hplace
      cases target with
      | vacant place =>
        exact ⟨(place, store.writeAt place ByteArray.empty), by simp [create, hlocate, hseparator]⟩
      | present place entry =>
        have hentry := kindAt?_eq_of_entryAt? (follow_present (locate_eq_ok hlocate))
        cases entry with
        | folder inside => exact absurd hentry hkind
        | file content =>
          exact ⟨(place, store.writeAt place ByteArray.empty),
            by simp [create, hlocate, hseparator]⟩
    · contradiction

-- Files that have been made do not decide whether another one can be made.
theorem AddsFiles.canCreate_eq (h : store.AddsFiles after) (path : Path) :
    after.canCreate path = store.canCreate path := by
  rw [Bool.eq_iff_iff, canCreate_iff_place, canCreate_iff_place]
  refine and_congr_right fun _ => ⟨?_, ?_⟩
  · rintro ⟨place, hplace, hkind⟩
    exact ⟨place, h.placeOf?_of hplace hkind, fun hfolder => hkind (h.folder place hfolder)⟩
  · rintro ⟨place, hplace, hkind⟩
    exact ⟨place, h.toExtends.placeOf? hplace, fun hfolder => hkind (h.folder_of place hfolder)⟩

end Create

end Store

end Acrostic.Storage
