import Acrostic.Proofs.Corpus.Reader
import Acrostic.Proofs.Run.Tally
import Acrostic.Proofs.Storage.Descent

namespace Acrostic.Run

open Storage (Entry Name Path Place Store Tree)

-- The order of a walk that goes into a folder as soon as it comes to it: where the ways to two
-- places part, the names tell
inductive ComesBefore : Place → Place → Prop
  | apart {name other : Name} (h : Text.precedes name other = true) (rest more : Place) :
      ComesBefore (name :: rest) (other :: more)
  | within (name : Name) {rest more : Place} (h : ComesBefore rest more) :
      ComesBefore (name :: rest) (name :: more)

theorem not_comesBefore_self (place : Place) : ¬ ComesBefore place place := by
  induction place with
  | nil => nofun
  | cons name rest ih =>
    intro h
    cases h with
    | apart h =>
      rw [Text.precedes_irrefl] at h
      contradiction
    | within _ h => exact ih h

namespace Selection

variable {selection : Selection}

-- The places below a folder whose files belong to the corpus
structure Wants (selection : Selection) (place : Place) : Prop where
  depth : selection.recursive = true ∨ place.length = 1
  extension : ∃ name extension, place.getLast? = some name ∧ Path.HasExtension name extension ∧
    Unicode.lowercase extension ∈ selection.extensions

-- The path is short enough to lead somewhere.
def IsInReach (path : Path) : Prop :=
  (Text.encode path.text).size ≤ Store.pathLimit

instance (path : Path) : Decidable (IsInReach path) :=
  inferInstanceAs (Decidable (_ ≤ _))

theorem accepts_iff {name : Name} :
    selection.accepts name = true ↔ ∃ extension, Path.HasExtension name extension ∧
      Unicode.lowercase extension ∈ selection.extensions := by
  simp only [← Path.extension?_eq_some_iff]
  unfold accepts
  cases Path.extension? name with
  | none => simp
  | some extension => simp

theorem takes_iff {folder : Path} {name : Name} :
    selection.takes folder name = true ↔
      selection.Wants [name] ∧ IsInReach (folder.joinAll [name]) := by
  rw [takes, Bool.and_eq_true, accepts_iff, decide_eq_true_iff]
  refine and_congr_left fun _ => ⟨fun h => ?_, fun h => ?_⟩
  · obtain ⟨extension, hname, hmem⟩ := h
    exact ⟨.inr rfl, name, extension, rfl, hname, hmem⟩
  · obtain ⟨other, extension, hlast, hname, hmem⟩ := h.extension
    obtain rfl : name = other := by simpa using hlast
    exact ⟨extension, hname, hmem⟩

-- Below a folder in the folder the files are wanted only if such folders are looked into.
theorem wants_cons_iff {name : Name} {rest : Place} (h : rest ≠ []) :
    selection.Wants (name :: rest) ↔ selection.recursive = true ∧ selection.Wants rest := by
  have hlast : (name :: rest).getLast? = rest.getLast? := by
    obtain ⟨other, more, rfl⟩ := List.exists_cons_of_ne_nil h
    exact List.getLast?_cons_cons
  constructor
  · rintro ⟨hdepth, hextension⟩
    have hrecursive : selection.recursive = true := by
      refine hdepth.resolve_right fun hlength => h ?_
      simpa using hlength
    rw [hlast] at hextension
    exact ⟨hrecursive, .inl hrecursive, hextension⟩
  · rintro ⟨hrecursive, -, hextension⟩
    rw [← hlast] at hextension
    exact ⟨.inl hrecursive, hextension⟩

-- The files that are taken, each with its place below the folder and what it holds
def taken (selection : Selection) (folder : Path) : Tree → List (Place × ByteArray)
  | .empty => []
  | .file name content others =>
    if selection.takes folder name then ([name], content) :: selection.taken folder others
    else selection.taken folder others
  | .folder name inside others =>
    if selection.recursive then
      (selection.taken (folder.join name) inside).map (fun file => (name :: file.1, file.2)) ++
        selection.taken folder others
    else selection.taken folder others

def foundAt (folder : Path) (file : Place × ByteArray) : Found :=
  ⟨folder.joinAll file.1, file.2.size⟩

theorem filesOf_eq_map_taken (selection : Selection) (folder : Path) (tree : Tree) :
    selection.filesOf folder tree = (selection.taken folder tree).map (foundAt folder) := by
  fun_induction filesOf selection folder tree with
  | case1 => rfl
  | case2 folder name content others htakes ih =>
    rw [taken, if_pos htakes, List.map_cons, ih]
    rfl
  | case3 folder name content others htakes ih => rw [taken, if_neg htakes, ih]
  | case4 folder name inside others hrecursive ihinside ih =>
    rw [taken, if_pos hrecursive, List.map_append, List.map_map, ihinside, ih]
    rfl
  | case5 folder name inside others hrecursive ih => rw [taken, if_neg hrecursive, ih]

section Places

variable {folder : Path} {tree : Tree} {place : Place} {content : ByteArray}

theorem mem_taken_file {name : Name} {stored : ByteArray} {others : Tree} :
    (place, content) ∈ selection.taken folder (.file name stored others) ↔
      (selection.takes folder name = true ∧ place = [name] ∧ content = stored) ∨
        (place, content) ∈ selection.taken folder others := by
  rw [taken]
  split_ifs with htakes <;> simp [htakes]

theorem mem_taken_folder {name : Name} {inside others : Tree} :
    (place, content) ∈ selection.taken folder (.folder name inside others) ↔
      (selection.recursive = true ∧ ∃ rest, place = name :: rest ∧
          (rest, content) ∈ selection.taken (folder.join name) inside) ∨
        (place, content) ∈ selection.taken folder others := by
  rw [taken]
  split_ifs with hrecursive
  · simp only [List.mem_append, List.mem_map, Prod.mk.injEq, Prod.exists, hrecursive, true_and]
    refine or_congr_left ⟨?_, ?_⟩
    · rintro ⟨rest, stored, hmem, rfl, rfl⟩
      exact ⟨rest, rfl, hmem⟩
    · rintro ⟨rest, rfl, hmem⟩
      exact ⟨rest, content, hmem, rfl, rfl⟩
  · simp [hrecursive]

theorem mem_taken_iff (hsorted : tree.IsSorted) :
    (place, content) ∈ selection.taken folder tree ↔
      tree.entryAt? place = some (.file content) ∧ selection.Wants place ∧
        IsInReach (folder.joinAll place) := by
  induction tree generalizing folder place with
  | empty => cases place <;> simp [taken, Tree.entryAt?, Tree.find?]
  | file name stored others ih =>
    rw [mem_taken_file, ih hsorted.2]
    cases place with
    | nil => simp [Tree.entryAt?]
    | cons first rest =>
      have hlook : (Tree.file name stored others).entryAt? (first :: rest) = _ :=
        Tree.entryAt?_link name first (.file stored) others rest
      rw [hlook]
      split_ifs with hfirst
      · subst hfirst
        rw [Tree.entryAt?_of_notMem (Text.notMem_of_precedes hsorted.1), takes_iff]
        cases rest with
        | nil => simp [Entry.entryAt?, and_comm, eq_comm]
        | cons => simp [Entry.entryAt?]
      · simp [hfirst]
  | folder name inside others ihinside ih =>
    rw [mem_taken_folder, ih hsorted.2.2]
    cases place with
    | nil => simp [Tree.entryAt?]
    | cons first rest =>
      have hlook : (Tree.folder name inside others).entryAt? (first :: rest) = _ :=
        Tree.entryAt?_link name first (.folder inside) others rest
      rw [hlook]
      split_ifs with hfirst
      · subst hfirst
        rw [Tree.entryAt?_of_notMem (Text.notMem_of_precedes hsorted.1)]
        simp only [List.cons.injEq, true_and, exists_eq_left', ihinside hsorted.2.1]
        cases rest with
        | nil => simp [Entry.entryAt?, Tree.entryAt?]
        | cons second more =>
          rw [wants_cons_iff (List.cons_ne_nil second more), Path.joinAll_cons folder]
          simp [Entry.entryAt?, and_assoc, and_left_comm]
      · simp [hfirst]

-- What is taken from a folder begins with one of its names.
theorem exists_name_of_mem_taken (hsorted : tree.IsSorted)
    (h : (place, content) ∈ selection.taken folder tree) :
    ∃ name rest, place = name :: rest ∧ name ∈ tree.names := by
  have hfile := ((mem_taken_iff hsorted).mp h).1
  cases place with
  | nil => simp [Tree.entryAt?] at hfile
  | cons name rest =>
    refine ⟨name, rest, rfl, ?_⟩
    by_contra hmem
    simp [Tree.entryAt?_of_notMem hmem] at hfile

theorem comesBefore_of_mem_taken {name : Name} (hsorted : tree.IsSorted)
    (hbehind : ∀ other ∈ tree.names, Text.precedes name other = true) (rest : Place)
    (h : (place, content) ∈ selection.taken folder tree) : ComesBefore (name :: rest) place := by
  obtain ⟨first, more, rfl, hfirst⟩ := exists_name_of_mem_taken hsorted h
  exact .apart (hbehind first hfirst) rest more

-- The files come in the order of the walk, and so each of them once.
theorem pairwise_taken (hsorted : tree.IsSorted) :
    (selection.taken folder tree).Pairwise fun file other => ComesBefore file.1 other.1 := by
  induction tree generalizing folder with
  | empty => exact .nil
  | file name stored others ih =>
    rw [taken]
    split_ifs
    · exact .cons (fun _ hfile => comesBefore_of_mem_taken hsorted.2 hsorted.1 [] hfile)
        (ih hsorted.2)
    · exact ih hsorted.2
  | folder name inside others ihinside ih =>
    rw [taken]
    split_ifs
    · rw [List.pairwise_append, List.pairwise_map]
      refine ⟨(ihinside hsorted.2.1).imp (.within name), ih hsorted.2.2, ?_⟩
      intro file hfile other hother
      obtain ⟨below, -, rfl⟩ := List.mem_map.mp hfile
      exact comesBefore_of_mem_taken hsorted.2.2 hsorted.1 below.1 hother
    · exact ih hsorted.2.2

end Places

-- The files that a folder adds to the corpus
structure CollectsFolder (selection : Selection) (store : Store) (folder : Path) (inside : Tree)
    (files : List (Place × ByteArray)) : Prop where
  collect : selection.collect store folder = .ok (files.map (foundAt folder))
  pairwise : files.Pairwise fun file other => ComesBefore file.1 other.1
  mem_iff : ∀ place content, (place, content) ∈ files ↔
    inside.entryAt? place = some (.file content) ∧ selection.Wants place ∧
      IsInReach (folder.joinAll place)
  -- with the names that entries can have, each file is found at a path of its own
  nodup : inside.HasFileNames → (files.map fun file => folder.joinAll file.1).Nodup
  read : inside.HasFileNames → ∀ file ∈ files,
    store.read (folder.joinAll file.1) = .ok file.2

theorem collectsFolder_taken {store : Store} {folder : Path} {inside : Tree}
    (h : store.look folder = .ok (.folder inside)) :
    selection.CollectsFolder store folder inside (selection.taken folder inside) := by
  have hsorted := Store.isSorted_of_look h
  have hfile {file : Place × ByteArray} (hmem : file ∈ selection.taken folder inside) :=
    (mem_taken_iff hsorted).mp hmem
  have hpairwise : (selection.taken folder inside).Pairwise
      fun file other => ComesBefore file.1 other.1 := pairwise_taken hsorted
  constructor
  · rw [← filesOf_eq_map_taken, collect, h]
  · exact hpairwise
  · exact fun place content => mem_taken_iff hsorted
  · intro hnames
    have hplain {file : Place × ByteArray} (hmem : file ∈ selection.taken folder inside) :
        ∀ name ∈ file.1, Path.IsPlain name := fun name hname =>
      (hnames _ _ (hfile hmem).1 name hname).toIsPlain
    rw [List.Nodup, List.pairwise_map]
    refine hpairwise.imp_of_mem fun hmem hother hbefore hpath => ?_
    have hplace := Path.joinAll_injective (Store.look_eq_ok_folder h).1 (hplain hmem)
      (hplain hother) hpath
    rw [hplace] at hbefore
    exact not_comesBefore_self _ hbefore
  · intro hnames file hmem
    obtain ⟨hentry, -, hreach⟩ := hfile hmem
    exact Store.read_joinAll h hentry (hnames _ _ hentry) hreach

end Selection

namespace BatchTask

open Report (Statistics)

-- The files of the corpus and their bytes are counted once and for all.
def KeepsTotals (before after : Statistics) : Prop :=
  after.files = before.files ∧ after.bytes = before.bytes

theorem KeepsTotals.refl (statistics : Statistics) : KeepsTotals statistics statistics :=
  ⟨rfl, rfl⟩

theorem KeepsTotals.trans {before middle after : Statistics} (h : KeepsTotals before middle)
    (h' : KeepsTotals middle after) : KeepsTotals before after :=
  ⟨h'.1.trans h.1, h'.2.trans h.2⟩

theorem HasCounted.keepsTotals {lines : Nat} {before after : Counted}
    (h : HasCounted lines before after) : KeepsTotals before.1 after.1 := by
  rw [h]
  exact .refl _

section Totals

variable {environment : Environment} {rule : Rule} {lengths : LengthRange}

theorem keepsTotals_writeEntries (entries : List (Option (Nat × List Char)))
    (progress : Progress) :
    KeepsTotals progress.statistics (writeEntries entries progress).statistics := by
  fun_induction writeEntries entries progress with
  | case1 => exact .refl _
  | case2 rest partitions store statistics heartbeat chunks stopped ih => exact ih
  | case3 => exact .refl _
  | case4 length password rest partitions store statistics heartbeat chunks stopped after made
      hwrite counted =>
    rename_i ih
    exact ih

theorem keepsTotals_takeChunk (progress : Progress) (chunk : List (List Char)) :
    KeepsTotals progress.statistics
      (takeChunk environment rule lengths progress chunk).statistics := by
  obtain ⟨partitions, store, statistics, heartbeat, chunks, stopped⟩ := progress
  cases stopped with
  | some fault => exact .refl _
  | none =>
    obtain ⟨-, hcounted⟩ := work_spec (environment.pools chunks) (route rule lengths) chunk
      (statistics, heartbeat)
    exact hcounted.keepsTotals.trans (keepsTotals_writeEntries _ ⟨_, _, _, _, _, _⟩)

theorem keepsTotals_foldChunks (reader : Corpus.Reader) (progress : Progress) :
    KeepsTotals progress.statistics
      (reader.foldChunks chunkSize (takeChunk environment rule lengths) progress).1.statistics := by
  have hsize : 0 < chunkSize := by decide
  -- the lines that have been read do not matter
  have hkept := @Corpus.Reader.foldChunks_invariant _ _ hsize
    (takeChunk environment rule lengths)
    (fun state _ => KeepsTotals progress.statistics state.statistics)
    (fun state _ chunk hstate => hstate.trans (keepsTotals_takeChunk state chunk))
    progress [] reader (.refl _)
  exact hkept.1

theorem keepsTotals_completeFile (size lossy : Nat) (progress : Progress) :
    KeepsTotals progress.statistics (completeFile size lossy progress).statistics := by
  obtain ⟨partitions, store, statistics, heartbeat, chunks, stopped⟩ := progress
  cases stopped <;> exact .refl _

theorem keepsTotals_takeFile (progress : Progress) (found : Found) :
    KeepsTotals progress.statistics
      (takeFile environment rule lengths progress found).statistics := by
  obtain ⟨partitions, store, statistics, heartbeat, chunks, stopped⟩ := progress
  cases stopped with
  | some fault => exact .refl _
  | none =>
    simp only [takeFile]
    cases Corpus.Reader.openFileBy environment.guess store found.path with
    | error fault => exact .refl _
    | ok reader =>
      exact (keepsTotals_foldChunks reader ⟨_, _, _, _, _, _⟩).trans
        (keepsTotals_completeFile found.size _ _)

theorem keepsTotals_takeFiles (files : List Found) (progress : Progress) :
    KeepsTotals progress.statistics
      (files.foldl (takeFile environment rule lengths) progress).statistics := by
  induction files generalizing progress with
  | nil => exact .refl _
  | cons found files ih => exact (keepsTotals_takeFile progress found).trans (ih _)

theorem keepsTotals_finish (task : BatchTask) (progress : Progress) :
    KeepsTotals progress.statistics (task.finish progress).statistics := by
  obtain ⟨partitions, store, statistics, heartbeat, chunks, stopped⟩ := progress
  cases stopped <;> exact .refl _

end Totals

-- Whatever becomes of a run, it has counted the files that have been collected.
theorem runIn_totals {task : BatchTask} {store : Store} {files : List Found}
    (h : task.selection.collect store task.input = .ok files) (environment : Environment)
    (rule : Rule) :
    (task.runIn environment rule store).statistics.files = UInt64.ofNat files.length ∧
      (task.runIn environment rule store).statistics.bytes =
        UInt64.ofNat (files.map (·.size)).sum := by
  have hcounted := tally_countFiles files
  suffices hkept : KeepsTotals (countFiles files) (task.runIn environment rule store).statistics by
    exact ⟨hkept.1.trans hcounted.files, hkept.2.trans hcounted.bytes⟩
  simp only [runIn, h]
  cases files with
  | nil => exact .refl _
  | cons file files =>
    simp only [runOn]
    obtain ⟨fault | _, made⟩ := store.ensureFolder task.folder
    · exact .refl _
    · exact (keepsTotals_takeFiles _ ⟨_, _, _, _, _, _⟩).trans (keepsTotals_finish task _)

end BatchTask

end Acrostic.Run
