import Acrostic.Proofs.Run.Batch

namespace Acrostic.Run.BatchTask

open Corpus (Reader)
open Output (Partitions partitionName partitionName_injective partitionPath written)
open Storage (Fault Path Store)

-- What has been done when a password of the length has been refused: the passwords in front of it
-- are in the files of their lengths, among which there is none of this length.
structure Refused (start : Store) (folder : Path) (all done : List Found) (lines lossy : Nat)
    (routed : List (Option (Nat × List Char))) (length : Nat) (fault : Fault)
    (progress : Progress) : Prop where
  partitions : Partitions.Holds start folder (· ∈ routed.reduceOption.map (·.1))
    routed.reduceOption progress.partitions progress.store
  tally : Tally all done lines lossy routed progress.statistics
  fresh : length ∉ routed.reduceOption.map (·.1)
  refused : progress.store.create (partitionPath folder length) = .error fault

section Entries

variable {start : Store} {folder : Path} {all done : List Found} {lines lossy : Nat}
  {routed : List (Option (Nat × List Char))} {progress : Progress}

theorem HasRouted.refuse (h : HasRouted start folder all done lines lossy routed progress)
    {length : Nat} {password : List Char} {fault : Fault} {after : Partitions} {made : Store}
    (hwrite : progress.partitions.writeLine progress.store password length =
      (.error fault, after, made)) :
    Refused start folder all done lines lossy routed length fault
      { progress with partitions := after, store := made, stopped := some fault } := by
  obtain ⟨rfl, rfl, hnone, hcreate⟩ := Partitions.writeLine_eq_error hwrite
  refine ⟨h.partitions, h.tally, fun hmem => ?_, ?_⟩
  · have hhas := Partitions.hasWriter_iff.mpr ((h.partitions.opened length).mp hmem)
    rw [hnone] at hhas
    cases hhas
  · rwa [Partitions.path, h.partitions.inFolder] at hcreate

-- What is written of a chunk, when a password is refused
theorem HasRouted.writeEntries_stops
    (h : HasRouted start folder all done lines lossy routed progress)
    {entries : List (Option (Nat × List Char))} {fault : Fault}
    (hstop : (BatchTask.writeEntries entries progress).stopped = some fault) :
    ∃ before length password behind, entries = before ++ some (length, password) :: behind ∧
      Refused start folder all done lines lossy (routed ++ before) length fault
        (BatchTask.writeEntries entries progress) := by
  fun_induction BatchTask.writeEntries entries progress generalizing routed with
  | case1 progress =>
    rw [h.stopped] at hstop
    cases hstop
  | case2 rest partitions store statistics heartbeat chunks stopped ih =>
    obtain ⟨before, length, password, behind, rfl, hrefused⟩ := ih h.drop hstop
    exact ⟨none :: before, length, password, behind, rfl, by simpa using hrefused⟩
  | case3 length password rest partitions store statistics heartbeat chunks stopped refused after
      made hwrite =>
    obtain rfl : refused = fault := Option.some.inj hstop
    exact ⟨[], length, password, rest, rfl, by simpa using h.refuse hwrite⟩
  | case4 length password rest partitions store statistics heartbeat chunks stopped after made
      hwrite counted =>
    rename_i ih
    obtain ⟨before, other, text, behind, rfl, hrefused⟩ := ih (h.keep hwrite) hstop
    exact ⟨some (length, password) :: before, other, text, behind, rfl, by simpa using hrefused⟩

end Entries

section Lines

variable {rule : Rule} {lengths : LengthRange} {start : Store} {folder : Path}
  {all done : List Found} {lossy : Nat} {base more : List (List Char)} {progress : Progress}

-- If the work has been stopped since the lines `base`, then at a line of those that have come after
-- them. The rest of its chunk has been counted too.
def StopsWithin (rule : Rule) (lengths : LengthRange) (start : Store) (folder : Path)
    (all done : List Found) (lossy : Nat) (base more : List (List Char)) (progress : Progress) :
    Prop :=
  ∀ fault, progress.stopped = some fault → ∃ before line behind length total,
    more = before ++ line :: behind ∧ lengths.contains length = true ∧
    passwordLength (rule.apply line) = length ∧
    (base ++ before).length < total ∧ total ≤ (base ++ more).length ∧
    Refused start folder all done total lossy ((base ++ before).map (route rule lengths)) length
      fault progress

theorem StopsWithin.append
    (h : StopsWithin rule lengths start folder all done lossy base more progress)
    (chunk : List (List Char)) :
    StopsWithin rule lengths start folder all done lossy base (more ++ chunk) progress := by
  intro fault hstop
  obtain ⟨before, line, behind, length, total, rfl, hrange, hlength, hlow, hhigh, hrefused⟩ :=
    h fault hstop
  refine ⟨before, line, behind ++ chunk, length, total, by simp, hrange, hlength, hlow, ?_,
    hrefused⟩
  rw [← List.append_assoc, List.length_append]
  omega

theorem StopsWithin.takeChunk
    (htaken : HasTaken rule lengths start folder all done lossy (base ++ more) progress)
    (h : StopsWithin rule lengths start folder all done lossy base more progress)
    (environment : Environment) (chunk : List (List Char)) :
    StopsWithin rule lengths start folder all done lossy base (more ++ chunk)
      (takeChunk environment rule lengths progress chunk) := by
  cases hstopped : progress.stopped with
  | some fault =>
    rw [takeChunk_of_stopped hstopped]
    exact h.append chunk
  | none =>
    intro fault hstop
    obtain ⟨counted, hcounted, heq⟩ := (htaken hstopped).takeChunk_eq environment chunk
    rw [heq] at hstop ⊢
    obtain ⟨before, length, password, behind, hroutes, hrefused⟩ :=
      hcounted.writeEntries_stops hstop
    obtain ⟨front, rest, rfl, rfl, hrest⟩ := List.map_eq_append_iff.mp hroutes
    obtain ⟨line, back, rfl, hline, rfl⟩ := List.map_eq_cons_iff.mp hrest
    obtain ⟨hrange, hlength, -⟩ := route_eq_some.mp hline
    rw [← List.map_append, List.append_assoc] at hrefused
    refine ⟨more ++ front, line, back, length, _, by simp, hrange, hlength, ?_, ?_, hrefused⟩
    · simp only [List.length_append, List.length_cons]
      omega
    · simp only [List.length_append, List.length_cons]
      omega

theorem StopsWithin.completeFile
    (h : StopsWithin rule lengths start folder all done lossy base more progress)
    (size malformed : Nat) :
    StopsWithin rule lengths start folder all done lossy base more
      (completeFile size malformed progress) := by
  obtain ⟨partitions, store, statistics, heartbeat, chunks, stopped⟩ := progress
  cases stopped with
  | some fault => exact h
  | none => exact nofun

theorem stopsWithin_foldChunks
    (htaken : HasTaken rule lengths start folder all done lossy base progress)
    (hgoing : progress.stopped = none) (environment : Environment) (reader : Reader) :
    StopsWithin rule lengths start folder all done lossy base reader.lines
      (reader.foldChunks chunkSize (BatchTask.takeChunk environment rule lengths) progress).1 := by
  have hsize : 0 < chunkSize := by decide
  have hstep (state : Progress) (more chunk : List (List Char))
      (h : HasTaken rule lengths start folder all done lossy (base ++ more) state ∧
        StopsWithin rule lengths start folder all done lossy base more state) :
      HasTaken rule lengths start folder all done lossy (base ++ (more ++ chunk))
          (BatchTask.takeChunk environment rule lengths state chunk) ∧
        StopsWithin rule lengths start folder all done lossy base (more ++ chunk)
          (BatchTask.takeChunk environment rule lengths state chunk) := by
    refine ⟨?_, h.2.takeChunk h.1 environment chunk⟩
    rw [← List.append_assoc]
    exact h.1.takeChunk environment chunk
  have hstart : HasTaken rule lengths start folder all done lossy (base ++ []) progress ∧
      StopsWithin rule lengths start folder all done lossy base [] progress := by
    refine ⟨?_, fun fault hstop => ?_⟩
    · rwa [List.append_nil]
    · rw [hgoing] at hstop
      cases hstop
  exact (Reader.foldChunks_invariant hsize
    (fun state more => HasTaken rule lengths start folder all done lossy (base ++ more) state ∧
      StopsWithin rule lengths start folder all done lossy base more state)
    hstep hstart).1.2

end Lines

section Files

variable {environment : Environment} {rule : Rule} {lengths : LengthRange} {start : Store}
  {folder : Path} {all done files : List Found} {progress : Progress}

theorem takeFiles_of_stopped {fault : Fault} (h : progress.stopped = some fault) :
    files.foldl (takeFile environment rule lengths) progress = progress := by
  obtain ⟨partitions, store, statistics, heartbeat, chunks, stopped⟩ := progress
  obtain rfl : stopped = some fault := h
  induction files with
  | nil => rfl
  | cons found files ih => exact ih

-- Whatever file the run comes to can be read.
def ReadsFiles (environment : Environment) (rule : Rule) (lengths : LengthRange)
    (first : Progress) (files : List Found) : Prop :=
  ∀ done found later, files = done ++ found :: later →
    (done.foldl (takeFile environment rule lengths) first).stopped = none →
    ∃ content, (done.foldl (takeFile environment rule lengths) first).store.read found.path =
      .ok content

theorem stopsWithin_takeFile
    (hdone : HasDone environment rule lengths start folder all done progress)
    (hgoing : progress.stopped = none) {found : Found}
    (hapart : IsApart lengths start folder found) {content : ByteArray}
    (hread : progress.store.read found.path = .ok content) :
    StopsWithin rule lengths start folder all done (malformedIn environment start done)
      (linesOf environment start done) (readerOf environment start found).lines
      (takeFile environment rule lengths progress found) := by
  have hstart := read_eq_ok_of_isApart (hdone.1 hgoing) hapart hread
  have hopen : Reader.openFileBy environment.guess progress.store found.path =
      .ok (readerOf environment start found) := by
    simp [Reader.openFileBy, hread, readerOf, contentOf, hstart, Except.map]
  have hfold := stopsWithin_foldChunks hdone.1 hgoing environment (readerOf environment start found)
  obtain ⟨partitions, store, statistics, heartbeat, chunks, stopped⟩ := progress
  obtain rfl : stopped = none := hgoing
  simp only [takeFile, hopen]
  exact hfold.completeFile _ _

-- A run that is stopped, and not by a file it cannot read, is stopped at a line of one of its files.
theorem stopsWithin_takeFiles
    (hdone : HasDone environment rule lengths start folder all done progress)
    (hgoing : progress.stopped = none)
    (hapart : ∀ found ∈ files, IsApart lengths start folder found)
    (hreads : ReadsFiles environment rule lengths progress files) {fault : Fault}
    (hstop : (files.foldl (takeFile environment rule lengths) progress).stopped = some fault) :
    ∃ before found later, files = before ++ found :: later ∧
      StopsWithin rule lengths start folder all (done ++ before)
        (malformedIn environment start (done ++ before)) (linesOf environment start (done ++ before))
        (readerOf environment start found).lines
        (files.foldl (takeFile environment rule lengths) progress) := by
  induction files generalizing done progress with
  | nil =>
    rw [List.foldl_nil, hgoing] at hstop
    cases hstop
  | cons found files ih =>
    have hfound := hapart found (by simp)
    obtain ⟨content, hread⟩ := hreads [] found files rfl hgoing
    rw [List.foldl_cons] at hstop ⊢
    cases hnext : (takeFile environment rule lengths progress found).stopped with
    | some refused =>
      refine ⟨[], found, files, rfl, ?_⟩
      rw [takeFiles_of_stopped hnext, List.append_nil]
      exact stopsWithin_takeFile hdone hgoing hfound hread
    | none =>
      have hlater : ReadsFiles environment rule lengths
          (takeFile environment rule lengths progress found) files :=
        fun before other later heq => hreads (found :: before) other later (by simp [heq])
      obtain ⟨before, other, later, rfl, hwithin⟩ := ih (hdone.takeFile hfound) hnext
        (fun other hother => hapart other (by simp [hother])) hlater hstop
      refine ⟨found :: before, other, later, rfl, ?_⟩
      rwa [List.append_assoc] at hwithin

end Files

section Run

-- The lines whose passwords have a length in the range
def inRange (rule : Rule) (lengths : LengthRange) (line : List Char) : Bool :=
  lengths.contains (passwordLength (rule.apply line))

-- What the counters say of a run that has been stopped behind the lines `read` when it had counted
-- `total` lines
structure CountsUpTo (rule : Rule) (lengths : LengthRange) (done : List Found)
    (read : List (List Char)) (total : Nat) (statistics : Report.Statistics) : Prop where
  filesDone : statistics.filesDone = UInt64.ofNat done.length
  lines : statistics.lines = UInt64.ofNat total
  written : statistics.written = UInt64.ofNat (read.countP (inRange rule lengths))
  dropped : statistics.dropped = UInt64.ofNat (read.countP (!inRange rule lengths ·))
  written_add_dropped_le : total < 2 ^ 64 →
    statistics.written.toNat + statistics.dropped.toNat ≤ statistics.lines.toNat
  sum_partitions : (statistics.partitions.map (·.2)).sum = statistics.written
  nodup_names : (statistics.partitions.map (·.1)).Nodup
  mem_partitions : ∀ name count, (name, count) ∈ statistics.partitions ↔
    ∃ length, IsWritten rule lengths read length ∧ name = partitionName length ∧
      count = UInt64.ofNat (passwordsOf rule read length).length

theorem Tally.countsUpTo {rule : Rule} {lengths : LengthRange} {all done : List Found}
    {total lossy : Nat} {read : List (List Char)} {statistics : Report.Statistics}
    (h : Tally all done total lossy (read.map (route rule lengths)) statistics)
    (htotal : read.length ≤ total) : CountsUpTo rule lengths done read total statistics := by
  have hdropped : (read.map (route rule lengths)).countP (·.isNone) =
      read.countP (!inRange rule lengths ·) := by
    rw [List.countP_map]
    congr 1
    funext line
    exact isNone_route line
  have hwritten : (read.map (route rule lengths)).reduceOption.length =
      read.countP (inRange rule lengths) := by
    have hsum := length_reduceOption_add_countP (read.map (route rule lengths))
    rw [hdropped, List.length_map, List.length_eq_countP_add_countP (inRange rule lengths)] at hsum
    simp only [Bool.not_eq_true, Bool.decide_eq_false] at hsum
    omega
  have hwritten' := h.written
  have hdropped' := h.dropped
  rw [hwritten] at hwritten'
  rw [hdropped] at hdropped'
  refine ⟨h.filesDone, h.lines, hwritten', hdropped', fun hfew => ?_, ?_,
    h.partitions.isSorted.nodup, h.partitions.mem_iff_isWritten⟩
  · have hsplit := List.length_eq_countP_add_countP (inRange rule lengths) (l := read)
    simp only [Bool.not_eq_true, Bool.decide_eq_false] at hsplit
    have hkept : read.countP (inRange rule lengths) < 2 ^ 64 := by omega
    have hlost : read.countP (!inRange rule lengths ·) < 2 ^ 64 := by omega
    rw [hwritten', hdropped', h.lines, UInt64.toNat_ofNat_of_lt' hkept,
      UInt64.toNat_ofNat_of_lt' hlost, UInt64.toNat_ofNat_of_lt' hfew]
    omega
  · rw [h.partitions.sum, h.written]

theorem CountsUpTo.notMem_names {rule : Rule} {lengths : LengthRange} {done : List Found}
    {read : List (List Char)} {total length : Nat} {statistics : Report.Statistics}
    (h : CountsUpTo rule lengths done read total statistics)
    (hunwritten : ¬ IsWritten rule lengths read length) :
    partitionName length ∉ statistics.partitions.map (·.1) := by
  intro hmem
  obtain ⟨⟨name, count⟩, hentry, hname⟩ := List.mem_map.mp hmem
  obtain ⟨other, hwritten, hother, -⟩ := (h.mem_partitions name count).mp hentry
  have heq : length = other := partitionName_injective (hname.symm.trans hother)
  exact hunwritten (heq ▸ hwritten)

variable {environment : Environment} {rule : Rule} {task : BatchTask} {files : List Found}

-- A run that fails to open the file of a length leaves the passwords of all lines in front in the
-- files of their lengths, and the counters agree with them.
theorem runIn_refused {store : Store}
    (hcollect : task.selection.collect store task.input = .ok files)
    (hapart : ∀ found ∈ files,
      IsApart task.lengths (store.ensureFolder task.folder).2 task.folder found)
    (hfolder : (store.ensureFolder task.folder).1 = .ok ())
    (hreads : ReadsFiles environment rule task.lengths (task.opened files store) files)
    (herror : (task.runIn environment rule store).result ≠ .ok ()) :
    let start := (store.ensureFolder task.folder).2
    let last := files.foldl (takeFile environment rule task.lengths) (task.opened files store)
    let outcome := task.runIn environment rule store
    ∃ done found later before line behind length fault total,
      files = done ++ found :: later ∧
      (readerOf environment start found).lines = before ++ line :: behind ∧
      task.lengths.contains length = true ∧ passwordLength (rule.apply line) = length ∧
      last.store.create (partitionPath task.folder length) = .error fault ∧
      outcome.result = .error (.storage fault) ∧
      let read := linesOf environment start done ++ before
      ¬ IsWritten rule task.lengths read length ∧
      HoldsPasswords rule task.lengths task.folder read start outcome.store ∧
      partitionName length ∉ outcome.statistics.partitions.map (·.1) ∧
      CountsUpTo rule task.lengths done read total outcome.statistics ∧
      read.length < total ∧ total ≤ (linesOf environment start (done ++ [found])).length := by
  intro start last outcome
  have hsome : files ≠ [] := by
    rintro rfl
    exact herror (by simp [runIn, hcollect])
  obtain ⟨notices, houtcome⟩ := runIn_eq_finish environment rule hcollect hsome hfolder
  have hfinish : outcome = { task.finish last with notices } := houtcome
  cases hstop : last.stopped with
  | none =>
    refine absurd ?_ herror
    change outcome.result = .ok ()
    rw [hfinish]
    exact result_finish task hstop
  | some fault =>
    have hdone := hasDone_start environment rule task files start
    obtain ⟨done, found, later, rfl, hwithin⟩ :=
      stopsWithin_takeFiles hdone rfl hapart hreads hstop
    obtain ⟨before, line, behind, length, total, hlines, hrange, hlength, hlow, hhigh, hrefused⟩ :=
      hwithin fault hstop
    rw [List.nil_append] at hlow hhigh hrefused
    obtain ⟨hresult, hstore, hstatistics⟩ := finish_of_stopped task hstop
    have hunwritten :
        ¬ IsWritten rule task.lengths (linesOf environment start done ++ before) length :=
      fun hwritten => hrefused.fresh (mem_routes_iff.mpr hwritten)
    have hcounts := hrefused.tally.countsUpTo (Nat.le_of_lt hlow)
    refine ⟨done, found, later, before, line, behind, length, fault, total, rfl, hlines, hrange,
      hlength, hrefused.refused, ?_, hunwritten, ?_, ?_, ?_, hlow, ?_⟩
    · rw [hfinish]
      exact hresult
    · rw [hfinish]
      simp only [hstore]
      exact holdsPasswords_flush hrefused.partitions
    · rw [hfinish]
      simp only [hstatistics]
      exact hcounts.notMem_names hunwritten
    · rw [hfinish]
      simp only [hstatistics]
      exact hcounts
    · rwa [linesOf_concat]

-- A folder has the name of the file for the passwords of length two.
theorem runIn_refused_folder :
    let environment : Environment := .serial fun _ => .utf8
    let rule : Rule := ⟨⟨.ascii, .none, 1, [0], false⟩, [.selectCharacters ⟨[0], false, false⟩]⟩
    let task : BatchTask :=
      ⟨⟨['.']⟩, ⟨['c']⟩, ⟨1, 2, by decide⟩, ⟨false, [['t']]⟩, 8192, true, false⟩
    let folders := (Store.empty.makeFolderAt [['c']]).makeFolderAt
      [['c'], partitionName 2 ++ ['.', 't', 'x', 't']]
    let first := folders.writeAt [['a', '.', 't']] ⟨#[0x7A, 0x0A, 0x0A]⟩
    let store := first.writeAt [['b', '.', 't']] ⟨#[0x76, 0x0A, 0x78, 0x20, 0x79, 0x0A, 0x77]⟩
    let outcome := task.runIn environment rule store
    outcome.result = .error (.storage .isFolder) ∧
      ∃ done read total, CountsUpTo rule task.lengths done read total outcome.statistics ∧
        HoldsPasswords rule task.lengths task.folder read store outcome.store ∧
        ¬ IsWritten rule task.lengths read 2 ∧
        partitionName 2 ∉ outcome.statistics.partitions.map (·.1) ∧ read.length < total := by
  intro environment rule task folders first store outcome
  let files : List Found := [⟨⟨['.', '/', 'a', '.', 't']⟩, 3⟩, ⟨⟨['.', '/', 'b', '.', 't']⟩, 7⟩]
  have hcollect : task.selection.collect store task.input = .ok files := by decide +kernel
  have hthere : store.contains task.folder = true := by decide +kernel
  have hfolder : store.ensureFolder task.folder = (.ok (), store) := by
    simp [Store.ensureFolder, hthere]
  have hresult : outcome.result = .error (.storage .isFolder) := by decide +kernel
  have hlengths {length : Nat} (h : task.lengths.contains length = true) :
      length = 1 ∨ length = 2 := by
    obtain ⟨hmin, hmax⟩ := contains_iff.mp h
    change 1 ≤ length at hmin
    change length ≤ 2 at hmax
    omega
  have hapart : ∀ found ∈ files, IsApart task.lengths (store.ensureFolder task.folder).2
      task.folder found := by
    intro found hfound length place hlength hplace
    rw [← hplace, hfolder]
    simp only [files, List.mem_cons, List.not_mem_nil, or_false] at hfound
    obtain rfl | rfl := hlengths hlength <;> obtain rfl | rfl := hfound <;> decide +kernel
  have hreads : ReadsFiles environment rule task.lengths (task.opened files store) files := by
    intro done found later hsplit _
    have hsome : ((done.foldl (takeFile environment rule task.lengths)
        (task.opened files store)).store.read found.path).toOption.isSome = true := by
      obtain _ | ⟨one, _ | ⟨two, done⟩⟩ := done
      · obtain ⟨rfl, -⟩ := List.cons.inj hsplit
        decide +kernel
      · obtain ⟨rfl, hrest⟩ := List.cons.inj hsplit
        obtain ⟨rfl, -⟩ := List.cons.inj hrest
        decide +kernel
      · simp [files] at hsplit
    cases hread : (done.foldl (takeFile environment rule task.lengths)
        (task.opened files store)).store.read found.path with
    | ok content => exact ⟨content, rfl⟩
    | error fault => simp [hread, Except.toOption] at hsome
  have herror : outcome.result ≠ .ok () := by simp [hresult]
  obtain ⟨done, found, later, before, line, behind, length, fault, total, -, -, hrange, -, hcreate,
    -, hunwritten, hholds, hnone, hcounts, hlow, -⟩ :=
    runIn_refused hcollect hapart (by rw [hfolder]) hreads herror
  rw [hfolder] at hunwritten hholds hcounts hlow
  have hlength : length = 2 := by
    refine (hlengths hrange).resolve_left ?_
    rintro rfl
    have hfree : ((files.foldl (takeFile environment rule task.lengths)
        (task.opened files store)).store.create (partitionPath task.folder 1)).toOption.isSome =
          true := by
      decide +kernel
    simp [hcreate, Except.toOption] at hfree
  subst hlength
  exact ⟨hresult, done, _, total, hcounts, hholds, hunwritten, hnone, hlow⟩

end Run

end Acrostic.Run.BatchTask
