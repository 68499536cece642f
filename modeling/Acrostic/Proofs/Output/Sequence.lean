import Acrostic.Proofs.Output.Partitions
import Acrostic.Proofs.Storage.Places
import Mathlib.Algebra.GroupWithZero.Nat
import Mathlib.Data.List.Sort

namespace Acrostic.Output

open Storage (Fault Path Place Store)

-- The lines that are taken: those of lengths whose files can be opened
def accepted (start : Store) (folder : Path) (entries : List (Nat × List Char)) :
    List (Nat × List Char) :=
  entries.filter fun entry => start.canCreate (partitionPath folder entry.1)

theorem share_accepted (start : Store) (folder : Path) (entries : List (Nat × List Char))
    (length : Nat) :
    share (accepted start folder entries) length =
      if start.canCreate (partitionPath folder length) then share entries length else [] := by
  unfold share accepted
  rw [List.filter_filter]
  split_ifs with hopens
  · congr 1
    refine List.filter_congr fun entry _ => ?_
    by_cases heq : entry.1 = length
    · simp [heq, hopens]
    · simp [heq]
  · rw [List.map_eq_nil_iff, List.filter_eq_nil_iff]
    intro entry _
    by_cases heq : entry.1 = length
    · simp [heq, hopens]
    · simp [heq]

theorem accepted_cons_of_refused {start : Store} {folder : Path} {length : Nat}
    (h : start.canCreate (partitionPath folder length) = false) (line : List Char)
    (entries : List (Nat × List Char)) :
    accepted start folder ((length, line) :: entries) = accepted start folder entries :=
  List.filter_cons_of_neg (by simp [h])

theorem accepted_cons_of_opens {start : Store} {folder : Path} {length : Nat}
    (h : start.canCreate (partitionPath folder length) = true) (line : List Char)
    (entries : List (Nat × List Char)) :
    accepted start folder ((length, line) :: entries) =
      (length, line) :: accepted start folder entries :=
  List.filter_cons_of_pos h

theorem mem_lengths_iff {entries : List (Nat × List Char)} {length : Nat} :
    length ∈ entries.map (·.1) ↔ share entries length ≠ [] := by
  rw [Ne, share_eq_nil, not_not]

-- Every line takes the bytes of its characters and one for its end.
theorem size_written (lines : List (List Char)) :
    (written lines).size = (lines.map fun line => (Text.encode line).size + 1).sum := by
  induction lines with
  | nil => rfl
  | cons line lines ih =>
    rw [List.map_cons, List.sum_cons, ← ih, ← List.singleton_append, written_append,
      ByteArray.size_append, written_singleton, Text.encode_append, ByteArray.size_append]
    rfl

namespace Writer

-- The writer has counted the lines and their bytes.
structure Counts (writer : Writer) (path : Path) (taken : List (List Char)) : Prop where
  path : writer.path = path
  lines : writer.lines = taken.length
  bytes : writer.bytes = (written taken).size

theorem counts_create {store after : Store} {path : Path} {capacity : Nat} {writer : Writer}
    (h : create store path capacity = .ok (writer, after)) : writer.Counts path [] := by
  obtain ⟨⟨place, made⟩, -, hwriter⟩ := Attempt.map_eq_ok_iff.mp h
  obtain ⟨rfl, -⟩ := Prod.mk.inj hwriter
  exact ⟨rfl, rfl, rfl⟩

theorem Counts.writeLine {writer : Writer} {path : Path} {taken : List (List Char)} {store : Store}
    {content : ByteArray} (h : writer.Counts path taken) (hholds : writer.Holds store content)
    (line : List Char) : (writer.writeLine store line).1.Counts path (taken ++ [line]) := by
  obtain ⟨pending, hwriter, -⟩ := writeLine_spec hholds line
  have hsize : (written [line]).size = (Text.encode line).size + 1 := by simp [size_written]
  rw [hwriter]
  refine ⟨h.path, ?_, ?_⟩
  · simp [h.lines]
  · rw [written_append, ByteArray.size_append, hsize, h.bytes]

end Writer

namespace Partitions

-- Writes lines one after the other, each into the file of its length. A line that is refused stops
-- none of those behind it.
def writeEach (partitions : Partitions) (store : Store) (entries : List (Nat × List Char)) :
    Partitions × Store :=
  entries.foldl (fun (partitions, store) (length, line) =>
    (partitions.writeLine store line length).2) (partitions, store)

theorem writeEach_append (partitions : Partitions) (store : Store)
    (before behind : List (Nat × List Char)) :
    partitions.writeEach store (before ++ behind) =
      (partitions.writeEach store before).1.writeEach (partitions.writeEach store before).2
        behind :=
  List.foldl_append

-- The lines of the entries are in the files of their lengths or on the way there, and have been
-- counted.
structure Records (start : Store) (folder : Path) (entries : List (Nat × List Char))
    (partitions : Partitions) (store : Store) : Prop where
  holds : Holds start folder (· ∈ entries.map (·.1)) entries partitions store
  counts : ∀ length writer, (length, writer) ∈ partitions.writers →
    writer.Counts (partitionPath folder length) (share entries length)

section Step

variable {start store : Store} {folder : Path} {entries : List (Nat × List Char)}
  {partitions : Partitions}

theorem records_ofFolder (start : Store) (folder : Path) (capacity : Nat) :
    Records start folder [] (ofFolder folder capacity) start where
  holds := by simpa using holds_ofFolder start folder capacity
  counts := by simp [ofFolder]

theorem Records.path_eq (h : Records start folder entries partitions store) (length : Nat) :
    partitions.path length = partitionPath folder length := by
  rw [Partitions.path, h.holds.inFolder, partitionPath]

-- The file of a length that has occurred could be opened from the start.
theorem Records.canCreate (h : Records start folder entries partitions store) {length : Nat}
    (hlength : length ∈ entries.map (·.1)) :
    start.canCreate (partitionPath folder length) = true := by
  obtain ⟨⟨_, writer⟩, hwriter, rfl⟩ := List.mem_map.mp ((h.holds.opened length).mp hlength)
  obtain ⟨stored, hstored, -⟩ := h.holds.holds _ _ hwriter
  refine Store.canCreate_iff_place.mpr
    ⟨h.holds.ends _ _ hwriter, writer.place, h.holds.place _ _ hwriter, fun hfolder => ?_⟩
  have hkind := h.holds.extends_start.folder _ hfolder
  simp [hkind] at hstored

theorem Records.openFor (h : Records start folder entries partitions store) {length : Nat}
    (hopens : start.canCreate (partitionPath folder length) = true) :
    ∃ after made, partitions.openFor store length = (.ok (), after, made) ∧
      ∀ other writer, (other, writer) ∈ after.writers →
        writer.Counts (partitionPath folder other) (share entries other) := by
  unfold Partitions.openFor
  split_ifs with hhas
  · exact ⟨partitions, store, rfl, h.counts⟩
  · have hnew : share entries length = [] := by
      rw [share_eq_nil, h.holds.opened]
      exact fun hmem => hhas (hasWriter_iff.mpr hmem)
    rw [← h.holds.addsFiles.canCreate_eq, Store.canCreate_iff_exists] at hopens
    obtain ⟨⟨place, made⟩, hmade⟩ := hopens
    have hcreate : Writer.create store (partitionPath folder length) partitions.capacity =
        .ok (⟨partitionPath folder length, place, partitions.capacity, ByteArray.empty, 0, 0⟩,
          made) := by
      rw [Writer.create, hmade]
      rfl
    rw [h.path_eq, hcreate]
    refine ⟨_, made, rfl, forall_mem_insert.mpr ⟨?_, h.counts⟩⟩
    rw [hnew]
    exact Writer.counts_create hcreate

-- A line is taken where the file of its length can be opened.
theorem Records.writeLine (h : Records start folder entries partitions store) {length : Nat}
    (hopens : start.canCreate (partitionPath folder length) = true) (line : List Char) :
    ∃ after made, partitions.writeLine store line length = (.ok (), after, made) ∧
      Records start folder (entries ++ [(length, line)]) after made := by
  have hcomplete : ∀ entry ∈ entries, entry.1 ∈ entries.map (·.1) := fun entry hentry =>
    List.mem_map_of_mem hentry
  obtain ⟨⟨folder', capacity, writers⟩, middle, hopen, hcounts⟩ := h.openFor hopens
  have hopened := h.holds.openFor hcomplete hopen
  have hwrite : partitions.writeLine store line length =
      (.ok (), ⟨folder', capacity, (Partitions.writeWith length line writers middle).1⟩,
        (Partitions.writeWith length line writers middle).2) := by
    rw [Partitions.writeLine, hopen]
  refine ⟨_, _, hwrite, ⟨?_, ?_⟩⟩
  · have hholds := h.holds.writeLine hcomplete hwrite
    have hlengths (other : Nat) : other ∈ (entries ++ [(length, line)]).map (·.1) ↔
        other ∈ entries.map (·.1) ∨ other = length := by simp
    simpa only [hlengths] using hholds
  · obtain ⟨before, writer, behind, rfl, hwith⟩ :=
      writeWith_spec ((hopened.opened length).mp (.inr rfl)) line middle
    have hmem : (length, writer) ∈ before ++ (length, writer) :: behind := by simp
    intro other found hfound
    rw [hwith] at hfound
    obtain ⟨rfl, rfl⟩ | ⟨hne, hold⟩ := mem_of_mem_middle hopened.ascending hfound
    · rw [share_concat_self]
      exact (hcounts _ _ hmem).writeLine (hopened.holds _ _ hmem) line
    · rw [share_concat_of_ne _ _ hne]
      exact hcounts other found hold

-- Where it cannot be opened, nothing is changed.
theorem Records.writeLine_refused (h : Records start folder entries partitions store)
    {length : Nat} (hopens : start.canCreate (partitionPath folder length) = false)
    (line : List Char) :
    ∃ fault, partitions.writeLine store line length = (.error fault, partitions, store) := by
  have hfree : partitions.hasWriter length = false := by
    by_contra hhas
    rw [Bool.not_eq_false, hasWriter_iff, ← h.holds.opened] at hhas
    simp [h.canCreate hhas] at hopens
  have hrefused : store.canCreate (partitionPath folder length) = false := by
    rw [h.holds.addsFiles.canCreate_eq, hopens]
  cases hcreate : store.create (partitionPath folder length) with
  | ok made => simp [Store.canCreate_iff_exists.mpr ⟨made, hcreate⟩] at hrefused
  | error fault =>
    have hcreated : Writer.create store (partitionPath folder length) partitions.capacity =
        .error fault := by
      rw [Writer.create, hcreate]
      rfl
    have hopen : partitions.openFor store length = (.error fault, partitions, store) := by
      simp only [Partitions.openFor, hfree, h.path_eq, hcreated, Bool.false_eq_true, if_false]
    exact ⟨fault, by rw [Partitions.writeLine, hopen]⟩

end Step

section Run

variable {start store : Store} {folder : Path} {entries : List (Nat × List Char)}
  {partitions : Partitions}

theorem writeEach_cons (partitions : Partitions) (store : Store) (length : Nat) (line : List Char)
    (behind : List (Nat × List Char)) :
    partitions.writeEach store ((length, line) :: behind) =
      (partitions.writeLine store line length).2.1.writeEach
        (partitions.writeLine store line length).2.2 behind :=
  rfl

-- What comes behind a line that is refused goes as if there had been no such line.
theorem Records.writeEach_refused (h : Records start folder entries partitions store)
    {length : Nat} (hopens : start.canCreate (partitionPath folder length) = false)
    (line : List Char) (behind : List (Nat × List Char)) :
    partitions.writeEach store ((length, line) :: behind) = partitions.writeEach store behind := by
  obtain ⟨fault, hwrite⟩ := h.writeLine_refused hopens line
  rw [writeEach_cons, hwrite]

theorem Records.writeEach (h : Records start folder entries partitions store)
    (more : List (Nat × List Char)) :
    Records start folder (entries ++ accepted start folder more)
      (partitions.writeEach store more).1 (partitions.writeEach store more).2 := by
  induction more generalizing entries partitions store with
  | nil =>
    rw [accepted, List.filter_nil, List.append_nil]
    exact h
  | cons entry more ih =>
    obtain ⟨length, line⟩ := entry
    cases hopens : start.canCreate (partitionPath folder length) with
    | false =>
      rw [h.writeEach_refused hopens, accepted_cons_of_refused hopens]
      exact ih h
    | true =>
      obtain ⟨after, made, hwrite, hafter⟩ := h.writeLine hopens line
      rw [writeEach_cons, hwrite, accepted_cons_of_opens hopens, ← List.singleton_append,
        ← List.append_assoc]
      exact ih hafter

theorem records_writeEach (start : Store) (folder : Path) (capacity : Nat)
    (entries : List (Nat × List Char)) :
    Records start folder (accepted start folder entries)
      ((ofFolder folder capacity).writeEach start entries).1
      ((ofFolder folder capacity).writeEach start entries).2 :=
  (records_ofFolder start folder capacity).writeEach entries

end Run

section Shares

variable {start store : Store} {folder : Path} {entries others : List (Nat × List Char)}
  {partitions : Partitions} {shares otherShares : List Share}

-- What is told of the lines of a length: how many there are, and how many bytes they take with
-- their ends
def shareOf (folder : Path) (entries : List (Nat × List Char)) (length : Nat) : Share :=
  ⟨length, partitionPath folder length, (share entries length).length,
    ((share entries length).map fun line => (Text.encode line).size + 1).sum⟩

-- Each length that has occurred is told once, in ascending order.
structure Reports (folder : Path) (entries : List (Nat × List Char)) (shares : List Share) :
    Prop where
  ascending : (shares.map (·.length)).Pairwise (· < ·)
  occurs : ∀ length, length ∈ shares.map (·.length) ↔ length ∈ entries.map (·.1)
  told : ∀ told ∈ shares, told = shareOf folder entries told.length

theorem Records.reports (h : Records start folder entries partitions store) :
    Reports folder entries partitions.shares := by
  have hlengths : partitions.shares.map (·.length) = partitions.writers.map (·.1) := by
    simp [shares]
  refine ⟨?_, ?_, ?_⟩
  · rw [hlengths, List.pairwise_map]
    exact h.holds.ascending
  · intro length
    rw [hlengths, ← h.holds.opened]
  · intro told htold
    obtain ⟨⟨length, writer⟩, hwriter, rfl⟩ := List.mem_map.mp htold
    obtain ⟨hpath, hlines, hbytes⟩ := h.counts length writer hwriter
    simp only [shareOf, hpath, hlines, hbytes, size_written]

theorem Reports.eq_map (h : Reports folder entries shares) :
    shares = (shares.map (·.length)).map (shareOf folder entries) := by
  calc
    shares = shares.map id := (List.map_id shares).symm
    _ = shares.map fun told => shareOf folder entries told.length := List.map_congr_left h.told
    _ = (shares.map (·.length)).map (shareOf folder entries) := by
      rw [List.map_map]
      rfl

-- Only what has been written under each length counts, and not how the lengths have come one
-- behind the other.
theorem Reports.unique (h : Reports folder entries shares)
    (h' : Reports folder others otherShares)
    (hsame : ∀ length, share entries length = share others length) : shares = otherShares := by
  have hlengths : shares.map (·.length) = otherShares.map (·.length) := by
    refine h.ascending.eq_of_mem_iff h'.ascending fun length => ?_
    rw [h.occurs, h'.occurs, mem_lengths_iff, mem_lengths_iff, hsame]
  have htell : shareOf folder entries = shareOf folder others := by
    funext length
    rw [shareOf, shareOf, hsame]
  rw [h.eq_map, h'.eq_map, hlengths, htell]

end Shares

section Files

variable {start store : Store} {folder : Path} {entries others : List (Nat × List Char)}
  {partitions : Partitions} {after otherAfter : Store}

-- The lines are in the files of their lengths, each of which has nothing else. What is at any other
-- place is as it was at the start.
structure HoldsShares (start : Store) (folder : Path) (entries : List (Nat × List Char))
    (after : Store) : Prop where
  keeps : start.Extends after
  read : ∀ length ∈ entries.map (·.1),
    after.read (partitionPath folder length) = .ok (written (share entries length))
  untouched : ∀ place, (∀ length ∈ entries.map (·.1),
    start.placeOf? (partitionPath folder length) ≠ some place) →
      after.kindAt? place = start.kindAt? place

theorem Records.flush (h : Records start folder entries partitions store) :
    HoldsShares start folder entries (partitions.flush store).2 := by
  obtain ⟨hextends, hread, hothers⟩ := h.holds.flush
  exact ⟨hextends, hread, hothers⟩

theorem HoldsShares.kindAt? (h : HoldsShares start folder entries after) {length : Nat}
    (hlength : length ∈ entries.map (·.1)) {place : Place}
    (hplace : start.placeOf? (partitionPath folder length) = some place) :
    after.kindAt? place = some (.file (written (share entries length))) := by
  obtain ⟨-, found, hfound, hkind⟩ := Store.read_eq_ok.mp (h.read length hlength)
  rw [h.keeps.placeOf? hplace, Option.some.injEq] at hfound
  rw [hfound, hkind]

-- There is only one store with the lines in it and nothing else.
theorem HoldsShares.unique (h : HoldsShares start folder entries after)
    (h' : HoldsShares start folder others otherAfter)
    (hsame : ∀ length, share entries length = share others length) : after = otherAfter := by
  have hlengths (length : Nat) : length ∈ entries.map (·.1) ↔ length ∈ others.map (·.1) := by
    rw [mem_lengths_iff, mem_lengths_iff, hsame]
  refine Store.ext_kindAt? (h.keeps.home.trans h'.keeps.home.symm) fun place => ?_
  by_cases hplace : ∃ length ∈ entries.map (·.1),
      start.placeOf? (partitionPath folder length) = some place
  · obtain ⟨length, hlength, heq⟩ := hplace
    rw [h.kindAt? hlength heq, h'.kindAt? ((hlengths length).mp hlength) heq, hsame]
  · have hapart : ∀ length ∈ entries.map (·.1),
        start.placeOf? (partitionPath folder length) ≠ some place := fun length hlength heq =>
      hplace ⟨length, hlength, heq⟩
    rw [h.untouched place hapart,
      h'.untouched place fun length hlength => hapart length ((hlengths length).mpr hlength)]

-- The file of each length is as long as what is told of it.
theorem HoldsShares.read_told (h : HoldsShares start folder entries after)
    {shares : List Share} (hreports : Reports folder entries shares) :
    ∀ told ∈ shares, ∃ content, after.read told.path = .ok content ∧
      content.size = told.bytes := by
  intro told htold
  have hlength : told.length ∈ entries.map (·.1) :=
    (hreports.occurs _).mp (List.mem_map_of_mem htold)
  refine ⟨written (share entries told.length), ?_, ?_⟩
  · rw [hreports.told told htold]
    exact h.read told.length hlength
  · rw [hreports.told told htold, size_written]
    rfl

end Files

section Flushed

variable {start store : Store} {folder : Path} {entries : List (Nat × List Char)}
  {partitions : Partitions}

theorem flushAll_writers (writers : List (Nat × Writer)) (store : Store) :
    (flushAll writers store).1 =
      writers.map fun entry => (entry.1, { entry.2 with pending := ByteArray.empty }) := by
  induction writers generalizing store with
  | nil => rfl
  | cons entry writers ih =>
    rw [List.map_cons, ← ih (entry.2.flush store).2]
    rfl

theorem writers_flush (partitions : Partitions) (store : Store) :
    (partitions.flush store).1.writers = partitions.writers.map fun entry =>
      (entry.1, { entry.2 with pending := ByteArray.empty }) :=
  flushAll_writers partitions.writers store

theorem forall_mem_flush {P : Nat → Writer → Prop}
    (h : ∀ length writer, (length, writer) ∈ partitions.writers →
      P length { writer with pending := ByteArray.empty }) :
    ∀ length writer, (length, writer) ∈ (partitions.flush store).1.writers → P length writer := by
  intro length writer hwriter
  rw [writers_flush] at hwriter
  obtain ⟨entry, hentry, heq⟩ := List.mem_map.mp hwriter
  obtain ⟨rfl, rfl⟩ := Prod.mk.inj heq
  exact h entry.1 entry.2 hentry

-- Flushing keeps what has been written. The buffers are empty afterwards.
theorem Records.flushed (h : Records start folder entries partitions store) :
    Records start folder entries (partitions.flush store).1 (partitions.flush store).2 := by
  obtain ⟨hextends, hfiles, hothers⟩ := flushAll_spec
    (fun entry hentry => h.holds.holds entry.1 entry.2 hentry) h.holds.pairwise_place
  refine ⟨⟨h.holds.inFolder, ?_, ?_, ?_, ?_, ?_, ?_, h.holds.extends_start.trans hextends⟩, ?_⟩
  · rw [writers_flush, List.pairwise_map]
    exact h.holds.ascending
  · intro length
    rw [h.holds.opened, writers_flush, List.map_map]
    rfl
  · exact forall_mem_flush h.holds.ends
  · exact forall_mem_flush h.holds.place
  · refine forall_mem_flush fun length writer hwriter => ?_
    exact ⟨_, hfiles (length, writer) hwriter, ByteArray.append_empty⟩
  · intro place hplace
    have hapart : ∀ entry ∈ partitions.writers, entry.2.place ≠ place := fun entry hentry => by
      refine hplace entry.1 { entry.2 with pending := ByteArray.empty } ?_
      rw [writers_flush]
      exact List.mem_map_of_mem hentry
    exact (hothers place hapart).trans
      (h.holds.untouched place fun length writer hwriter => hapart (length, writer) hwriter)
  · refine forall_mem_flush fun length writer hwriter => ?_
    obtain ⟨hpath, hlines, hbytes⟩ := h.counts length writer hwriter
    exact ⟨hpath, hlines, hbytes⟩

end Flushed

-- Lines that are written one after the other are counted and kept under their lengths, whatever
-- the folder has held and however large the buffers are. A line whose file cannot be opened leaves
-- no trace, and the order between lines of different lengths does not matter. Flushing a second
-- time, when the writers go out of use, adds nothing.
theorem writeEach_spec (start : Store) (folder : Path) (capacity : Nat)
    (entries : List (Nat × List Char)) :
    let first := ofFolder folder capacity
    let state := first.writeEach start entries
    let flushed := state.1.flush state.2
    let taken := accepted start folder entries
    Reports folder taken state.1.shares ∧
      HoldsShares start folder taken flushed.2 ∧
      (∀ told ∈ state.1.shares, ∃ content, flushed.2.read told.path = .ok content ∧
        content.size = told.bytes) ∧
      (flushed.1.shares = state.1.shares ∧ (flushed.1.flush flushed.2).2 = flushed.2) ∧
      (∀ behind, first.writeEach start (entries ++ behind) = state.1.writeEach state.2 behind) ∧
      (∀ length line, start.canCreate (partitionPath folder length) = true →
        (state.1.writeLine state.2 line length).1 = .ok ()) ∧
      (∀ length line behind, start.canCreate (partitionPath folder length) = false →
        (∃ fault, state.1.writeLine state.2 line length = (.error fault, state)) ∧
          first.writeEach start (entries ++ (length, line) :: behind) =
            first.writeEach start (entries ++ behind)) ∧
      ∀ others otherCapacity, (∀ length, share others length = share entries length) →
        let other := (ofFolder folder otherCapacity).writeEach start others
        other.1.shares = state.1.shares ∧ (other.1.flush other.2).2 = flushed.2 := by
  intro first state flushed taken
  have hstate : Records start folder taken state.1 state.2 :=
    records_writeEach start folder capacity entries
  have hflushed : Records start folder taken flushed.1 flushed.2 := hstate.flushed
  have hfiles : HoldsShares start folder taken flushed.2 := hstate.flush
  refine ⟨hstate.reports, hfiles, hfiles.read_told hstate.reports, ⟨?_, ?_⟩,
    writeEach_append first start entries, ?_, ?_, ?_⟩
  · exact hflushed.reports.unique hstate.reports fun _ => rfl
  · exact hflushed.flush.unique hfiles fun _ => rfl
  · intro length line hopens
    obtain ⟨after, made, hwrite, -⟩ := hstate.writeLine hopens line
    rw [hwrite]
  · intro length line behind hopens
    refine ⟨hstate.writeLine_refused hopens line, ?_⟩
    rw [writeEach_append, writeEach_append]
    exact hstate.writeEach_refused hopens line behind
  · intro others otherCapacity hsame other
    have hother : Records start folder (accepted start folder others) other.1 other.2 :=
      records_writeEach start folder otherCapacity others
    have htaken (length : Nat) :
        share (accepted start folder others) length = share taken length := by
      rw [share_accepted, share_accepted, hsame]
    exact ⟨hother.reports.unique hstate.reports htaken, hother.flush.unique hfiles htaken⟩

-- A folder has the name of the file for lines of length two, and that for length one is there
-- already.
theorem writeEach_spec_folder :
    let folder : Path := ⟨['o']⟩
    let folders := (Store.empty.makeFolderAt [['o']]).makeFolderAt
      [['o'], partitionName 2 ++ ['.', 't', 'x', 't']]
    let start := folders.writeAt [['o'], partitionName 1 ++ ['.', 't', 'x', 't']] ⟨#[0x78]⟩
    let entries := [(3, ['a', 'b', 'c']), (2, ['d', 'e']), (1, ['f']), (3, ['g', 'h'])]
    let others := [(1, ['f']), (3, ['a', 'b', 'c']), (3, ['g', 'h']), (2, ['d', 'e'])]
    let state := (ofFolder folder 8).writeEach start entries
    let other := (ofFolder folder 0).writeEach start others
    2 ∉ state.1.shares.map (·.length) ∧
      (state.1.flush state.2).2.read (partitionPath folder 1) = .ok (written [['f']]) ∧
      (state.1.writeLine state.2 ['z'] 1).1 = .ok () ∧
      (∃ fault, state.1.writeLine state.2 ['z'] 2 = (.error fault, state)) ∧
      other.1.shares = state.1.shares ∧
      (other.1.flush other.2).2 = (state.1.flush state.2).2 := by
  intro folder folders start entries others state other
  have hone : start.canCreate (partitionPath folder 1) = true := by decide +kernel
  have htwo : start.canCreate (partitionPath folder 2) = false := by decide +kernel
  have hsame (length : Nat) : share others length = share entries length := by
    simp only [share, others, entries, List.filter_cons, List.filter_nil]
    split_ifs <;> simp_all <;> omega
  obtain ⟨hreports, hfiles, -, -, -, hopens, hrefused, hothers⟩ :=
    writeEach_spec start folder 8 entries
  obtain ⟨hshares, hstore⟩ := hothers others 0 hsame
  refine ⟨?_, ?_, hopens 1 ['z'] hone, (hrefused 2 ['z'] [] htwo).1, hshares, hstore⟩
  · rw [hreports.occurs]
    decide +kernel
  · have hshare : share (accepted start folder entries) 1 = [['f']] := by decide +kernel
    rw [← hshare]
    exact hfiles.read 1 (by decide +kernel)

end Partitions

end Acrostic.Output
