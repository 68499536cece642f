import Acrostic.Proofs.Storage.Store

namespace Acrostic.Storage

namespace Store

-- Folders stay folders and files stay files, whatever is written and made.
structure Extends (store after : Store) : Prop where
  home : after.home = store.home
  folder : ∀ place, store.kindAt? place = some .folder → after.kindAt? place = some .folder
  file : ∀ place content, store.kindAt? place = some (.file content) →
    ∃ changed, after.kindAt? place = some (.file changed)

theorem Extends.refl (store : Store) : store.Extends store :=
  ⟨rfl, fun _ h => h, fun _ content h => ⟨content, h⟩⟩

theorem Extends.trans {store middle after : Store} (h : store.Extends middle)
    (h' : middle.Extends after) : store.Extends after where
  home := h'.home.trans h.home
  folder place hfolder := h'.folder place (h.folder place hfolder)
  file place content hfile := by
    obtain ⟨changed, hchanged⟩ := h.file place content hfile
    exact h'.file place changed hchanged

-- A place that was free may be taken, or a file may be written over.
theorem extends_of_kindAt? {store after : Store} {place : Place} {kind : Kind}
    (hhome : after.home = store.home)
    (hkind : ∀ other, after.kindAt? other =
      if other = place then some kind else store.kindAt? other)
    (hplace : store.kindAt? place ≠ some .folder)
    (hfile : ∀ content, store.kindAt? place = some (.file content) →
      ∃ changed, kind = .file changed) :
    store.Extends after where
  home := hhome
  folder other hother := by
    rw [hkind, if_neg]
    · exact hother
    · rintro rfl
      exact hplace hother
  file other content hother := by
    rw [hkind]
    split_ifs with heq
    · subst heq
      obtain ⟨changed, rfl⟩ := hfile content hother
      exact ⟨changed, rfl⟩
    · exact ⟨content, hother⟩

theorem extends_writeAt {store : Store} {place : Place} (h : store.HasRoomAt place)
    (content : ByteArray) : store.Extends (store.writeAt place content) :=
  extends_of_kindAt? rfl (kindAt?_writeAt h content) h.1 (fun _ _ => ⟨content, rfl⟩)

theorem extends_append {store : Store} {place : Place} {content : ByteArray}
    (h : store.kindAt? place = some (.file content)) (more : ByteArray) :
    store.Extends (store.append place more) :=
  extends_of_kindAt? rfl (kindAt?_append h more) (hasRoomAt_of_file h).1 (fun _ _ => ⟨_, rfl⟩)

theorem extends_makeFolderAt {store : Store} {origin place : Place} {steps : List Path.Step}
    (h : follow store.tree origin steps = .ok (.vacant place)) :
    store.Extends (store.makeFolderAt place) := by
  have hnone : store.kindAt? place = none := by
    simp [kindAt?, Tree.kindAt?, (follow_vacant h).1]
  exact extends_of_kindAt? rfl (kindAt?_makeFolderAt h) (by simp [hnone]) (by simp [hnone])

section Follow

variable {store after : Store}

theorem Extends.entryAt?_folder (h : store.Extends after) {place : Place} {inside : Tree}
    (hinside : store.tree.entryAt? place = some (.folder inside)) :
    ∃ changed, after.tree.entryAt? place = some (.folder changed) := by
  have hkind := h.folder place (kindAt?_eq_of_entryAt? hinside)
  obtain ⟨entry, hentry, hfolder⟩ := Option.map_eq_some_iff.mp hkind
  cases entry with
  | file content => simp [Entry.kind] at hfolder
  | folder changed => exact ⟨changed, hentry⟩

theorem Extends.entryAt?_isSome (h : store.Extends after) {place : Place} {entry : Entry}
    (hentry : store.tree.entryAt? place = some entry) :
    ∃ changed, after.tree.entryAt? place = some changed := by
  cases entry with
  | folder inside =>
    obtain ⟨changed, hchanged⟩ := h.entryAt?_folder hentry
    exact ⟨_, hchanged⟩
  | file content =>
    obtain ⟨changed, hchanged⟩ := h.file place content (kindAt?_eq_of_entryAt? hentry)
    obtain ⟨entry, hentry, -⟩ := Option.map_eq_some_iff.mp hchanged
    exact ⟨entry, hentry⟩

-- A path that leads somewhere still leads there.
theorem Extends.follow_place (h : store.Extends after) {origin : Place} {steps : List Path.Step}
    {target : Target} (hfollow : follow store.tree origin steps = .ok target) :
    ∃ target', follow after.tree origin steps = .ok target' ∧ target'.place = target.place := by
  fun_induction follow store.tree origin steps with
  | case1 => simp at hfollow
  | case2 origin entry hentry =>
    simp only [Except.ok.injEq] at hfollow
    subst hfollow
    obtain ⟨changed, hchanged⟩ := h.entryAt?_isSome hentry
    exact ⟨.present origin changed, by simp [follow, hchanged], rfl⟩
  | case3 => simp at hfollow
  | case4 => simp at hfollow
  | case5 origin rest inside hinside ih =>
    obtain ⟨changed, hchanged⟩ := h.entryAt?_folder hinside
    simpa [follow, hchanged] using ih hfollow
  | case6 origin rest inside hinside ih =>
    obtain ⟨changed, hchanged⟩ := h.entryAt?_folder hinside
    simpa [follow, hchanged] using ih hfollow
  | case7 => simp at hfollow
  | case8 origin rest inside hinside name hlimit hfree =>
    obtain ⟨changed, hchanged⟩ := h.entryAt?_folder hinside
    simp only [Except.ok.injEq] at hfollow
    subst hfollow
    obtain rfl : rest = [] := by simpa using (Bool.and_eq_true_iff.mp hfree).1
    exact exists_follow_into hchanged hlimit
  | case9 origin rest inside hinside name hlimit htaken ih =>
    obtain ⟨changed, hchanged⟩ := h.entryAt?_folder hinside
    obtain ⟨target', htarget, hplace⟩ := ih hfollow
    refine ⟨target', ?_, hplace⟩
    simp only [follow, hchanged, if_neg hlimit]
    rw [if_neg, htarget]
    intro hfree
    obtain ⟨hrest, hnew⟩ := Bool.and_eq_true_iff.mp hfree
    obtain rfl : rest = [] := by simpa using hrest
    -- what was found under the name is still there
    simp only [List.isEmpty_nil, Bool.true_and, Bool.not_eq_true,
      Option.isNone_eq_false_iff] at htaken
    obtain ⟨entry, hentry⟩ := Option.isSome_iff_exists.mp htaken
    rw [← Tree.entryAt?_concat name hinside] at hentry
    obtain ⟨kept, hkept⟩ := h.entryAt?_isSome hentry
    rw [Tree.entryAt?_concat name hchanged] at hkept
    simp [hkept] at hnew

theorem Extends.placeOf? (h : store.Extends after) {path : Path} {place : Place}
    (hplace : store.placeOf? path = some place) : after.placeOf? path = some place := by
  unfold Store.placeOf? at hplace
  split at hplace
  · next target hlocate =>
    obtain ⟨target', htarget, heq⟩ := h.follow_place (locate_eq_ok hlocate)
    have hstart : after.start path = store.start path := by simp [start, h.home]
    unfold locate at hlocate
    split_ifs at hlocate with hempty hlong
    rw [Option.some.injEq] at hplace
    simp [Store.placeOf?, locate, hempty, hlong, hstart, htarget, heq, hplace]
  · contradiction

-- A file that has not been written to reads the same.
theorem Extends.read_eq_ok (h : store.Extends after) {path : Path} {content : ByteArray}
    (hread : store.read path = .ok content)
    (hsame : ∀ place, store.placeOf? path = some place →
      after.kindAt? place = store.kindAt? place) :
    after.read path = .ok content := by
  obtain ⟨hseparator, place, hplace, hkind⟩ := Store.read_eq_ok.mp hread
  have hkind' := (hsame place hplace).trans hkind
  exact Store.read_eq_ok.mpr ⟨hseparator, place, h.placeOf? hplace, hkind'⟩

end Follow

-- Only what stands at the place has changed.
structure ChangesOnly (store : Store) (place : Place) (after : Store) : Prop
    extends store.Extends after where
  kindAt? : ∀ other, other ≠ place → after.kindAt? other = store.kindAt? other

theorem ChangesOnly.refl (store : Store) (place : Place) : store.ChangesOnly place store :=
  ⟨.refl store, fun _ _ => rfl⟩

theorem ChangesOnly.trans {store middle after : Store} {place : Place}
    (h : store.ChangesOnly place middle) (h' : middle.ChangesOnly place after) :
    store.ChangesOnly place after :=
  ⟨h.toExtends.trans h'.toExtends,
    fun other hother => (h'.kindAt? other hother).trans (h.kindAt? other hother)⟩

theorem changesOnly_writeAt {store : Store} {place : Place} (h : store.HasRoomAt place)
    (content : ByteArray) : store.ChangesOnly place (store.writeAt place content) := by
  refine ⟨extends_writeAt h content, fun other hother => ?_⟩
  rw [kindAt?_writeAt h, if_neg hother]

theorem changesOnly_append {store : Store} {place : Place} {content : ByteArray}
    (h : store.kindAt? place = some (.file content)) (more : ByteArray) :
    store.ChangesOnly place (store.append place more) := by
  refine ⟨extends_append h more, fun other hother => ?_⟩
  rw [kindAt?_append h, if_neg hother]

-- A file that is created is empty, and everything else is as it was.
theorem create_eq_ok {store after : Store} {path : Path} {place : Place}
    (h : store.create path = .ok (place, after)) :
    path.endsInSeparator = false ∧ store.placeOf? path = some place ∧ store.HasRoomAt place ∧
      after = store.writeAt place ByteArray.empty := by
  unfold create at h
  unfold placeOf?
  split at h
  · contradiction
  · contradiction
  · next stored hlocate =>
    split_ifs at h with hseparator
    simp only [Except.ok.injEq, Prod.mk.injEq] at h
    obtain ⟨rfl, rfl⟩ := h
    rw [hlocate]
    have hkind := kindAt?_eq_of_entryAt? (follow_present (locate_eq_ok hlocate))
    exact ⟨by simpa using hseparator, rfl, hasRoomAt_of_file hkind, rfl⟩
  · next hlocate =>
    split_ifs at h with hseparator
    simp only [Except.ok.injEq, Prod.mk.injEq] at h
    obtain ⟨rfl, rfl⟩ := h
    rw [hlocate]
    exact ⟨by simpa using hseparator, rfl, hasRoomAt_of_vacant (locate_eq_ok hlocate), rfl⟩

-- Making folders changes no file.
structure MakesFolders (store after : Store) : Prop extends store.Extends after where
  fileAt? : ∀ place, after.fileAt? place = store.fileAt? place

theorem MakesFolders.refl (store : Store) : store.MakesFolders store :=
  ⟨Extends.refl store, fun _ => rfl⟩

theorem MakesFolders.trans {store middle after : Store} (h : store.MakesFolders middle)
    (h' : middle.MakesFolders after) : store.MakesFolders after :=
  ⟨h.toExtends.trans h'.toExtends, fun place => (h'.fileAt? place).trans (h.fileAt? place)⟩

theorem makesFolders_of_makeFolder {store after : Store} {origin : Place} {steps : List Path.Step}
    (h : store.makeFolder origin steps = .ok after) : store.MakesFolders after := by
  unfold makeFolder at h
  split at h
  · contradiction
  · contradiction
  · next place hfollow =>
    obtain rfl : store.makeFolderAt place = after := by simpa using h
    refine ⟨extends_makeFolderAt hfollow, fun other => ?_⟩
    have hnone : store.kindAt? place = none := by
      simp [kindAt?, Tree.kindAt?, (follow_vacant hfollow).1]
    unfold Store.fileAt?
    rw [kindAt?_makeFolderAt hfollow]
    split_ifs with heq
    · rw [heq, hnone]
    · rfl

theorem makesFolders_makeNested (origin : Place) (above : List (List Path.Step)) (store : Store) :
    store.MakesFolders (makeNested origin above store).2 := by
  fun_induction makeNested origin above store with
  | case1 store => exact .refl store
  | case2 store steps above made hmade => exact makesFolders_of_makeFolder hmade
  | case3 store steps above _ fault made hnested ih => simpa [hnested] using ih
  | case4 store steps above _ made hnested whole hwhole ih =>
    rw [hnested] at ih
    exact ih.trans (makesFolders_of_makeFolder hwhole)
  | case5 store steps above _ made hnested fault _ ih => simpa [hnested] using ih
  | case6 => exact .refl _

theorem makesFolders_ensureFolder (store : Store) (path : Path) :
    store.MakesFolders (store.ensureFolder path).2 := by
  unfold ensureFolder
  split_ifs
  · exact .refl store
  · exact .refl store
  · exact makesFolders_makeNested _ _ store

end Store

end Acrostic.Storage
