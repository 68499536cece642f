import Acrostic.Output.Partitions
import Acrostic.Proofs.Output.Writer
import Acrostic.Proofs.Storage.Files
import Acrostic.Proofs.Storage.Path
import Acrostic.Proofs.Text.Decimal

namespace Acrostic.Output

open Storage (Fault Path Place Store)

section Name

theorem partitionName_injective {first second : Nat}
    (h : partitionName first = partitionName second) : first = second :=
  Text.natural_injective (List.append_cancel_left h)

theorem isPlain_partition (length : Nat) :
    Path.IsPlain (partitionName length ++ ['.', 't', 'x', 't']) where
  notMem := by
    simp [partitionName, Path.separator]
    intro h
    have hdigit := Text.isDigit_of_mem_natural h
    simp at hdigit
  ne_nil := by simp
  ne_stay := by simp [partitionName]
  ne_up := by simp [partitionName]

end Name

-- Where the passwords of a length are written
def partitionPath (folder : Path) (length : Nat) : Path :=
  folder.join (partitionName length ++ ['.', 't', 'x', 't'])

-- The passwords of a length, in the order in which they have come
def share (entries : List (Nat × List Char)) (length : Nat) : List (List Char) :=
  (entries.filter (·.1 = length)).map (·.2)

theorem share_concat_self (entries : List (Nat × List Char)) (length : Nat) (line : List Char) :
    share (entries ++ [(length, line)]) length = share entries length ++ [line] := by
  simp [share]

theorem share_concat_of_ne (entries : List (Nat × List Char)) {length other : Nat}
    (line : List Char) (h : other ≠ length) :
    share (entries ++ [(length, line)]) other = share entries other := by
  simp [share, h.symm]

theorem share_eq_nil {entries : List (Nat × List Char)} {length : Nat} :
    share entries length = [] ↔ length ∉ entries.map (·.1) := by
  rw [share, List.map_eq_nil_iff, List.filter_eq_nil_iff, List.mem_map]
  constructor
  · rintro h ⟨entry, hentry, heq⟩
    exact h entry hentry (by simpa using heq)
  · intro h entry hentry heq
    exact h ⟨entry, hentry, by simpa using heq⟩

namespace Partitions

section Insert

variable {length : Nat} {writer : Writer}

theorem mem_insert {writers : List (Nat × Writer)} {entry : Nat × Writer} :
    entry ∈ insert length writer writers ↔ entry = (length, writer) ∨ entry ∈ writers := by
  induction writers with
  | nil => simp [insert]
  | cons first rest ih =>
    obtain ⟨other, found⟩ := first
    simp only [insert]
    split_ifs
    · simp
    · simp only [List.mem_cons, ih]
      tauto

theorem forall_mem_insert {P : Nat → Writer → Prop} {writers : List (Nat × Writer)} :
    (∀ other found, (other, found) ∈ insert length writer writers → P other found) ↔
      P length writer ∧ ∀ other found, (other, found) ∈ writers → P other found := by
  simp only [mem_insert, Prod.mk.injEq]
  constructor
  · intro h
    exact ⟨h length writer (.inl ⟨rfl, rfl⟩), fun other found hmem => h other found (.inr hmem)⟩
  · rintro ⟨hnew, hold⟩ other found (⟨rfl, rfl⟩ | hmem)
    · exact hnew
    · exact hold other found hmem

theorem mem_keys_insert {writers : List (Nat × Writer)} {other : Nat} :
    other ∈ (insert length writer writers).map (·.1) ↔
      other = length ∨ other ∈ writers.map (·.1) := by
  simp [mem_insert, eq_comm]

theorem pairwise_insert {writers : List (Nat × Writer)} (h : writers.Pairwise (·.1 < ·.1))
    (hfree : ∀ entry ∈ writers, entry.1 ≠ length) :
    (insert length writer writers).Pairwise (·.1 < ·.1) := by
  induction writers with
  | nil => simp [insert]
  | cons first rest ih =>
    obtain ⟨other, found⟩ := first
    obtain ⟨hfirst, hrest⟩ := List.pairwise_cons.mp h
    have hother : other ≠ length := hfree (other, found) (by simp)
    simp only [insert]
    split_ifs with hlt
    · refine List.pairwise_cons.mpr ⟨?_, h⟩
      intro entry hentry
      cases List.mem_cons.mp hentry with
      | inl heq =>
        rw [heq]
        exact hlt
      | inr hmem => exact Nat.lt_trans hlt (hfirst entry hmem)
    · have hfree' : ∀ entry ∈ rest, entry.1 ≠ length :=
        fun entry hentry => hfree entry (List.mem_cons_of_mem _ hentry)
      refine List.pairwise_cons.mpr ⟨?_, ih hrest hfree'⟩
      intro entry hentry
      cases mem_insert.mp hentry with
      | inl heq =>
        rw [heq]
        simp only
        omega
      | inr hmem => exact hfirst entry hmem

end Insert

-- When the writer of a length is exchanged, the other writers are those of other lengths.
theorem mem_of_mem_middle {before behind : List (Nat × Writer)} {length other : Nat}
    {writer changed found : Writer}
    (h : (before ++ (length, writer) :: behind).Pairwise (·.1 < ·.1))
    (hfound : (other, found) ∈ before ++ (length, changed) :: behind) :
    other = length ∧ found = changed ∨
      other ≠ length ∧ (other, found) ∈ before ++ (length, writer) :: behind := by
  obtain ⟨-, hbehind, hbefore⟩ := List.pairwise_append.mp h
  rw [List.mem_append, List.mem_cons, Prod.mk.injEq] at hfound
  obtain hmem | heq | hmem := hfound
  · have hlt : other < length := hbefore _ hmem (length, writer) (by simp)
    exact .inr ⟨by omega, by simp [hmem]⟩
  · exact .inl heq
  · have hlt : length < other := List.rel_of_pairwise_cons hbehind hmem
    exact .inr ⟨by omega, by simp [hmem]⟩

-- The first writer of the length takes the line, and no other.
theorem writeWith_spec {writers : List (Nat × Writer)} {length : Nat}
    (h : length ∈ writers.map (·.1)) (line : List Char) (store : Store) :
    ∃ before writer behind, writers = before ++ (length, writer) :: behind ∧
      writeWith length line writers store =
        (before ++ (length, (writer.writeLine store line).1) :: behind,
          (writer.writeLine store line).2) := by
  induction writers with
  | nil => simp at h
  | cons first rest ih =>
    obtain ⟨other, found⟩ := first
    by_cases heq : length = other
    · subst heq
      exact ⟨[], found, rest, rfl, by simp [writeWith]⟩
    · have hmem : length ∈ rest.map (·.1) := (List.mem_cons.mp h).resolve_left heq
      obtain ⟨before, taken, behind, rfl, hwrite⟩ := ih hmem
      refine ⟨(other, found) :: before, taken, behind, rfl, ?_⟩
      simp [writeWith, heq, hwrite]

-- The lengths that are open have a writer each, which has all passwords of its length. Nothing
-- else has changed since the start.
structure Holds (start : Store) (folder : Path) (opened : Nat → Prop)
    (entries : List (Nat × List Char)) (partitions : Partitions) (store : Store) : Prop where
  inFolder : partitions.folder = folder
  ascending : partitions.writers.Pairwise (·.1 < ·.1)
  opened : ∀ length, opened length ↔ length ∈ partitions.writers.map (·.1)
  ends : ∀ length writer, (length, writer) ∈ partitions.writers →
    (partitionPath folder length).endsInSeparator = false
  place : ∀ length writer, (length, writer) ∈ partitions.writers →
    start.placeOf? (partitionPath folder length) = some writer.place
  holds : ∀ length writer, (length, writer) ∈ partitions.writers →
    writer.Holds store (written (share entries length))
  untouched : ∀ place, (∀ length writer, (length, writer) ∈ partitions.writers →
    writer.place ≠ place) → store.kindAt? place = start.kindAt? place
  extends_start : start.Extends store

section Holds

variable {start store : Store} {folder : Path} {opened : Nat → Prop}
  {entries : List (Nat × List Char)} {partitions : Partitions}

theorem holds_ofFolder (start : Store) (folder : Path) (capacity : Nat) :
    Holds start folder (fun _ => False) [] (ofFolder folder capacity) start where
  inFolder := rfl
  ascending := .nil
  opened := by simp [ofFolder]
  ends := by simp [ofFolder]
  place := by simp [ofFolder]
  holds := by simp [ofFolder]
  untouched _ _ := rfl
  extends_start := .refl start

-- The files of two lengths are two files.
theorem place_ne {length other : Nat} {place found : Place}
    (hplace : start.placeOf? (partitionPath folder length) = some place)
    (hfound : start.placeOf? (partitionPath folder other) = some found) (hne : other ≠ length) :
    found ≠ place := by
  rintro rfl
  have hname := Store.getLast?_placeOf?_join (isPlain_partition length) hplace
  have hname' := Store.getLast?_placeOf?_join (isPlain_partition other) hfound
  rw [hname, Option.some.injEq] at hname'
  exact hne (partitionName_injective (List.append_cancel_right hname').symm)

theorem Holds.addsFiles (h : Holds start folder opened entries partitions store) :
    start.AddsFiles store := by
  refine ⟨h.extends_start, fun place hfolder => ?_⟩
  rw [← h.untouched place, hfolder]
  rintro length writer hwriter rfl
  obtain ⟨stored, hstored, -⟩ := h.holds length writer hwriter
  simp [hfolder] at hstored

theorem hasWriter_iff {length : Nat} :
    partitions.hasWriter length = true ↔ length ∈ partitions.writers.map (·.1) := by
  simp [hasWriter]

-- A file that is created for a length is empty.
theorem Holds.insert (h : Holds start folder opened entries partitions store) {length : Nat}
    {writer : Writer} {made : Store} (hfree : ¬ opened length) (hnone : share entries length = [])
    (hcreate : Writer.create store (partitionPath folder length) partitions.capacity =
      .ok (writer, made)) :
    Holds start folder (fun other => opened other ∨ other = length) entries
      { partitions with writers := Partitions.insert length writer partitions.writers } made := by
  obtain ⟨hends, hplace, -, -, hholds, honly⟩ := Writer.create_eq_ok hcreate
  have hstart : start.placeOf? (partitionPath folder length) = some writer.place := by
    refine h.addsFiles.placeOf?_of hplace fun hfolder => ?_
    obtain ⟨stored, hstored, -⟩ := hholds
    simp [honly.folder _ hfolder] at hstored
  have hapart : ∀ entry ∈ partitions.writers, entry.1 ≠ length := by
    rintro entry hentry rfl
    exact hfree ((h.opened entry.1).mpr (List.mem_map_of_mem hentry))
  refine ⟨h.inFolder, pairwise_insert h.ascending hapart, ?_, ?_, ?_, ?_, ?_,
    h.extends_start.trans honly.toExtends⟩
  · intro other
    rw [h.opened other, mem_keys_insert, or_comm]
  · exact forall_mem_insert.mpr ⟨hends, h.ends⟩
  · exact forall_mem_insert.mpr ⟨hstart, h.place⟩
  · refine forall_mem_insert.mpr ⟨?_, fun other found hmem => ?_⟩
    · rw [hnone]
      exact hholds
    · have hne := place_ne hstart (h.place other found hmem) (hapart _ hmem)
      exact (h.holds other found hmem).of_touches honly hne
  · intro place hplaces
    obtain ⟨hnew, hold⟩ := forall_mem_insert.mp hplaces
    rw [honly.kindAt? place hnew.symm]
    exact h.untouched place hold

theorem Holds.openFor (h : Holds start folder opened entries partitions store)
    (hcomplete : ∀ entry ∈ entries, opened entry.1) {length : Nat} {after : Partitions}
    {made : Store} (hopen : partitions.openFor store length = (.ok (), after, made)) :
    Holds start folder (fun other => opened other ∨ other = length) entries after made := by
  unfold Partitions.openFor at hopen
  split_ifs at hopen with hhas
  · obtain ⟨rfl, rfl⟩ : partitions = after ∧ store = made := by simpa using hopen
    have hlength : opened length := (h.opened length).mpr (hasWriter_iff.mp hhas)
    have hsame (other : Nat) : opened other ∨ other = length ↔ opened other :=
      or_iff_left_of_imp fun heq => heq ▸ hlength
    simpa only [hsame] using h
  · have hfree : ¬ opened length := fun hopened =>
      hhas (hasWriter_iff.mpr ((h.opened length).mp hopened))
    have hnone : share entries length = [] := by
      rw [share_eq_nil, List.mem_map]
      rintro ⟨entry, hentry, rfl⟩
      exact hfree (hcomplete entry hentry)
    have hpath : partitions.path length = partitionPath folder length := by
      rw [Partitions.path, h.inFolder, partitionPath]
    rw [hpath] at hopen
    cases hcreate : Writer.create store (partitionPath folder length) partitions.capacity with
    | error fault => simp [hcreate] at hopen
    | ok created =>
      obtain ⟨rfl, rfl⟩ : _ = after ∧ created.2 = made := by simpa [hcreate] using hopen
      exact h.insert hfree hnone hcreate

-- A line comes behind the others of its length, and no other length is concerned.
theorem Holds.writeWith {writers : List (Nat × Writer)} {capacity : Nat}
    (h : Holds start folder opened entries ⟨folder, capacity, writers⟩ store) {length : Nat}
    (hlength : opened length) (line : List Char) :
    Holds start folder opened (entries ++ [(length, line)])
      ⟨folder, capacity, (Partitions.writeWith length line writers store).1⟩
      (Partitions.writeWith length line writers store).2 := by
  obtain ⟨before, writer, behind, rfl, hwrite⟩ :=
    writeWith_spec ((h.opened length).mp hlength) line store
  have hmem : (length, writer) ∈ before ++ (length, writer) :: behind := by simp
  obtain ⟨pending, hwriter, hholds, honly⟩ := Writer.writeLine_spec (h.holds _ _ hmem) line
  have hplace : (writer.writeLine store line).1.place = writer.place := by rw [hwriter]
  have hascending : (before ++ (length, (writer.writeLine store line).1) :: behind).Pairwise
      (·.1 < ·.1) := by
    have hkeys := List.pairwise_map.mpr h.ascending
    exact List.pairwise_map.mp (by simpa using hkeys)
  rw [hwrite]
  refine ⟨rfl, hascending, ?_, ?_, ?_, ?_, ?_, h.extends_start.trans honly.toExtends⟩
  · intro other
    simpa using h.opened other
  · intro other found hfound
    obtain ⟨rfl, rfl⟩ | ⟨-, hold⟩ := mem_of_mem_middle h.ascending hfound
    · exact h.ends _ _ hmem
    · exact h.ends other found hold
  · intro other found hfound
    obtain ⟨rfl, rfl⟩ | ⟨-, hold⟩ := mem_of_mem_middle h.ascending hfound
    · rw [hplace]
      exact h.place _ _ hmem
    · exact h.place other found hold
  · intro other found hfound
    obtain ⟨rfl, rfl⟩ | ⟨hne, hold⟩ := mem_of_mem_middle h.ascending hfound
    · rw [share_concat_self, written_append, written_singleton]
      exact hholds
    · have happart := place_ne (h.place _ _ hmem) (h.place _ _ hold) hne
      rw [share_concat_of_ne _ _ hne]
      exact (h.holds other found hold).of_touches honly happart
  · intro place hplaces
    have hother : writer.place ≠ place := by
      rw [← hplace]
      exact hplaces length _ (by simp)
    rw [honly.kindAt? place hother.symm]
    refine h.untouched place fun other found hfound => ?_
    obtain ⟨rfl, rfl⟩ | ⟨-, hnew⟩ := mem_of_mem_middle hascending hfound
    · exact hother
    · exact hplaces other found hnew

-- A password that is taken is in the file of its length.
theorem Holds.writeLine (h : Holds start folder opened entries partitions store)
    (hcomplete : ∀ entry ∈ entries, opened entry.1) {length : Nat} {line : List Char}
    {after : Partitions} {made : Store}
    (hwrite : partitions.writeLine store line length = (.ok (), after, made)) :
    Holds start folder (fun other => opened other ∨ other = length)
      (entries ++ [(length, line)]) after made := by
  unfold Partitions.writeLine at hwrite
  split at hwrite
  · simp at hwrite
  · next folder' capacity writers middle hopen =>
    have hopened := h.openFor hcomplete hopen
    obtain rfl := hopened.inFolder
    have hdone := hopened.writeWith (.inr rfl) line
    obtain ⟨rfl, rfl⟩ : _ = after ∧ _ = made := by simpa using hwrite
    exact hdone

-- A line is refused when the file of its length is, and this changes nothing.
theorem writeLine_eq_error {line : List Char} {length : Nat} {fault : Fault} {after : Partitions}
    {made : Store} (h : partitions.writeLine store line length = (.error fault, after, made)) :
    after = partitions ∧ made = store ∧ partitions.hasWriter length = false ∧
      store.create (partitions.path length) = .error fault := by
  unfold Partitions.writeLine Partitions.openFor at h
  cases hhas : partitions.hasWriter length with
  | true => simp [hhas] at h
  | false =>
    cases hcreate : store.create (partitions.path length) with
    | ok created => simp [hhas, Writer.create, hcreate, Except.map] at h
    | error refused =>
      simp only [hhas, Writer.create, hcreate, Except.map, Bool.false_eq_true, if_false,
        Prod.mk.injEq, Except.error.injEq] at h
      obtain ⟨rfl, rfl, rfl⟩ := h
      exact ⟨rfl, rfl, rfl, rfl⟩

end Holds

section Flush

-- What every writer has is in its file when all have been flushed.
theorem flushAll_spec {content : Nat × Writer → ByteArray} {writers : List (Nat × Writer)}
    {store : Store}
    (hholds : ∀ entry ∈ writers, entry.2.Holds store (content entry))
    (hplaces : writers.Pairwise (·.2.place ≠ ·.2.place)) :
    store.Extends (flushAll writers store).2 ∧
      (∀ entry ∈ writers,
        (flushAll writers store).2.kindAt? entry.2.place = some (.file (content entry))) ∧
      ∀ place, (∀ entry ∈ writers, entry.2.place ≠ place) →
        (flushAll writers store).2.kindAt? place = store.kindAt? place := by
  induction writers generalizing store with
  | nil => exact ⟨.refl store, by simp, fun _ _ => rfl⟩
  | cons first rest ih =>
    obtain ⟨length, writer⟩ := first
    obtain ⟨hapart, hrest⟩ := List.pairwise_cons.mp hplaces
    obtain ⟨-, hflushed, honly⟩ := Writer.flush_spec (hholds (length, writer) (by simp))
    have hlater : ∀ entry ∈ rest, entry.2.Holds (writer.flush store).2 (content entry) :=
      fun entry hentry =>
        (hholds entry (by simp [hentry])).of_touches honly (hapart entry hentry).symm
    obtain ⟨hextends, hfiles, hothers⟩ := ih hlater hrest
    have hflush : (flushAll ((length, writer) :: rest) store).2 =
        (flushAll rest (writer.flush store).2).2 := rfl
    rw [hflush]
    refine ⟨honly.toExtends.trans hextends, ?_, ?_⟩
    · intro entry hentry
      cases List.mem_cons.mp hentry with
      | inl heq =>
        rw [heq, hothers writer.place fun other hother => (hapart other hother).symm]
        exact hflushed
      | inr hmem => exact hfiles entry hmem
    · intro place hplace
      rw [hothers place fun other hother => hplace other (by simp [hother])]
      exact honly.kindAt? place (hplace (length, writer) (by simp)).symm

variable {start store : Store} {folder : Path} {opened : Nat → Prop}
  {entries : List (Nat × List Char)} {partitions : Partitions}

theorem Holds.pairwise_place (h : Holds start folder opened entries partitions store) :
    partitions.writers.Pairwise (·.2.place ≠ ·.2.place) := by
  refine h.ascending.imp_of_mem fun {first second} hfirst hsecond hlt => ?_
  exact (place_ne (h.place _ _ hfirst) (h.place _ _ hsecond) (Nat.ne_of_gt hlt)).symm

-- What the files hold at the end
theorem Holds.flush (h : Holds start folder opened entries partitions store) :
    start.Extends (partitions.flush store).2 ∧
      (∀ length, opened length →
        (partitions.flush store).2.read (partitionPath folder length) =
          .ok (written (share entries length))) ∧
      ∀ place, (∀ length, opened length →
          start.placeOf? (partitionPath folder length) ≠ some place) →
        (partitions.flush store).2.kindAt? place = start.kindAt? place := by
  obtain ⟨hextends, hfiles, hothers⟩ := flushAll_spec
    (fun entry hentry => h.holds entry.1 entry.2 hentry) h.pairwise_place
  have hall := h.extends_start.trans hextends
  refine ⟨hall, ?_, ?_⟩
  · intro length hlength
    obtain ⟨entry, hentry, rfl⟩ := List.mem_map.mp ((h.opened length).mp hlength)
    exact Store.read_eq_ok.mpr ⟨h.ends _ _ hentry, entry.2.place,
      hall.placeOf? (h.place _ _ hentry), hfiles entry hentry⟩
  · intro place hplace
    have hwriters (length : Nat) (writer : Writer)
        (hwriter : (length, writer) ∈ partitions.writers) : writer.place ≠ place := by
      rintro rfl
      have hlength := (h.opened length).mpr (List.mem_map_of_mem hwriter)
      exact hplace length hlength (h.place _ _ hwriter)
    exact (hothers place fun entry hentry => hwriters _ _ hentry).trans (h.untouched place hwriters)

end Flush

end Partitions

end Acrostic.Output
