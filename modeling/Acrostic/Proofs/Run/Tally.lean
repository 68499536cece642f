import Acrostic.Proofs.Report.Statistics
import Acrostic.Proofs.Run.Counting
import Acrostic.Proofs.Run.Routes

namespace Acrostic.Run.BatchTask

open Output (partitionName partitionName_injective share share_concat_of_ne share_concat_self)
open Report (Statistics)

section Shares

-- The counters of the partitions: one for each length that has come, with the number of its
-- passwords
structure CountsShares (entries : List (Nat × List Char)) (counts : List (List Char × UInt64)) :
    Prop where
  isSorted : Statistics.IsSorted counts
  named : ∀ name ∈ counts.map (·.1), ∃ length, name = partitionName length
  mem_iff : ∀ length count, (partitionName length, count) ∈ counts ↔
    share entries length ≠ [] ∧ count = UInt64.ofNat (share entries length).length
  sum : (counts.map (·.2)).sum = UInt64.ofNat entries.length

variable {entries : List (Nat × List Char)} {counts : List (List Char × UInt64)}

theorem countsShares_nil : CountsShares [] [] where
  isSorted := .nil
  named := by simp
  mem_iff := by simp [share]
  sum := rfl

theorem CountsShares.mem_names (h : CountsShares entries counts) (length : Nat) :
    partitionName length ∈ counts.map (·.1) ↔ share entries length ≠ [] := by
  rw [List.mem_map]
  constructor
  · rintro ⟨⟨name, count⟩, hmem, rfl⟩
    exact ((h.mem_iff length count).mp hmem).1
  · intro hsome
    exact ⟨_, (h.mem_iff length _).mpr ⟨hsome, rfl⟩, rfl⟩

theorem CountsShares.increment (h : CountsShares entries counts) (length : Nat)
    (password : List Char) :
    CountsShares (entries ++ [(length, password)])
      (Statistics.increment (partitionName length) counts) where
  isSorted := Statistics.isSorted_increment h.isSorted
  named name hname := by
    cases Statistics.mem_names_increment.mp hname with
    | inl heq => exact ⟨length, heq⟩
    | inr hmem => exact h.named name hmem
  mem_iff other count := by
    by_cases heq : other = length
    · subst heq
      rw [Statistics.mem_increment_self h.isSorted, h.mem_names, share_concat_self]
      simp only [h.mem_iff]
      by_cases hnil : share entries other = []
      · simp [hnil]
      · simp [hnil]
    · have hne : partitionName other ≠ partitionName length := fun hname =>
        heq (partitionName_injective hname)
      rw [Statistics.mem_increment_of_ne hne, h.mem_iff, share_concat_of_ne _ _ heq]
  sum := by
    rw [Statistics.sum_increment, h.sum, List.length_append, List.length_singleton,
      UInt64.ofNat_add]
    rfl

-- Of the lines that have been routed, each length that is written has the number of its passwords.
theorem CountsShares.mem_iff_isWritten {rule : Rule} {lengths : LengthRange}
    {lines : List (List Char)}
    (h : CountsShares (lines.map (route rule lengths)).reduceOption counts) (name : List Char)
    (count : UInt64) :
    (name, count) ∈ counts ↔ ∃ length, IsWritten rule lengths lines length ∧
      name = partitionName length ∧ count = UInt64.ofNat (passwordsOf rule lines length).length := by
  constructor
  · intro hmem
    obtain ⟨length, rfl⟩ := h.named name (List.mem_map_of_mem hmem)
    obtain ⟨hsome, hcount⟩ := (h.mem_iff length count).mp hmem
    have hwritten := share_routes_ne_nil_iff.mp hsome
    rw [hwritten.share_eq] at hcount
    exact ⟨length, hwritten, rfl, hcount⟩
  · rintro ⟨length, hwritten, rfl, hcount⟩
    rw [← hwritten.share_eq] at hcount
    exact (h.mem_iff length count).mpr ⟨share_routes_ne_nil_iff.mpr hwritten, hcount⟩

end Shares

-- The counters of a run over all files, of which some are done
structure Tally (all done : List Found) (lines lossy : Nat)
    (routed : List (Option (Nat × List Char))) (statistics : Statistics) : Prop where
  files : statistics.files = UInt64.ofNat all.length
  bytes : statistics.bytes = UInt64.ofNat (all.map (·.size)).sum
  filesDone : statistics.filesDone = UInt64.ofNat done.length
  bytesDone : statistics.bytesDone = UInt64.ofNat (done.map (·.size)).sum
  lines : statistics.lines = UInt64.ofNat lines
  lossy : statistics.lossy = UInt64.ofNat lossy
  written : statistics.written = UInt64.ofNat routed.reduceOption.length
  dropped : statistics.dropped = UInt64.ofNat (routed.countP (·.isNone))
  partitions : CountsShares routed.reduceOption statistics.partitions

theorem countFiles_eq (files : List Found) (statistics : Statistics) :
    files.foldl (fun statistics found => statistics.addFile (UInt64.ofNat found.size)) statistics =
      { statistics with
        files := statistics.files + UInt64.ofNat files.length
        bytes := statistics.bytes + UInt64.ofNat (files.map (·.size)).sum } := by
  induction files generalizing statistics with
  | nil => simp
  | cons found files ih =>
    rw [List.foldl_cons, ih]
    simp [Statistics.addFile, UInt64.add_assoc, UInt64.add_comm 1]

theorem tally_countFiles (files : List Found) : Tally files [] 0 0 [] (countFiles files) := by
  have hcount := countFiles_eq files .zero
  rw [countFiles, hcount]
  refine ⟨?_, ?_, rfl, rfl, rfl, rfl, rfl, rfl, countsShares_nil⟩
  · exact UInt64.zero_add _
  · exact UInt64.zero_add _

section Step

variable {all done : List Found} {lines lossy : Nat}
  {routed : List (Option (Nat × List Char))} {statistics : Statistics}

theorem Tally.drop (h : Tally all done lines lossy routed statistics) :
    Tally all done lines lossy (routed ++ [none]) (statistics.addDropped 1) := by
  have hkept : (routed ++ [none]).reduceOption = routed.reduceOption := by
    simp [List.reduceOption_append]
  refine { h with written := ?_, dropped := ?_, partitions := ?_ }
  · rw [hkept]
    exact h.written
  · rw [List.countP_append, UInt64.ofNat_add, ← h.dropped]
    rfl
  · rw [hkept]
    exact h.partitions

theorem Tally.keep (h : Tally all done lines lossy routed statistics) (length : Nat)
    (password : List Char) :
    Tally all done lines lossy (routed ++ [some (length, password)])
      ((statistics.incrementPartition (partitionName length)).addWritten 1) := by
  have hkept : (routed ++ [some (length, password)]).reduceOption =
      routed.reduceOption ++ [(length, password)] := by
    simp [List.reduceOption_append]
  refine { h with written := ?_, dropped := ?_, partitions := ?_ }
  · rw [hkept, List.length_append, UInt64.ofNat_add, ← h.written]
    rfl
  · rw [List.countP_append, UInt64.ofNat_add, ← h.dropped]
    exact (UInt64.add_zero _).symm
  · rw [hkept]
    exact h.partitions.increment length password

theorem Tally.count (h : Tally all done lines lossy routed statistics) {count : Nat}
    {before after : Counted} (hbefore : before.1 = statistics)
    (hcounted : HasCounted count before after) :
    Tally all done (lines + count) lossy routed after.1 := by
  rw [hcounted, hbefore]
  refine { h with lines := ?_ }
  simp [h.lines]

theorem Tally.complete (h : Tally all done lines lossy routed statistics) (found : Found)
    (malformed : Nat) :
    Tally all (done ++ [found]) lines (lossy + malformed) routed
      ((statistics.addLossy (UInt64.ofNat malformed)).completeFile (UInt64.ofNat found.size)) := by
  refine { h with filesDone := ?_, bytesDone := ?_, lossy := ?_ }
  · rw [List.length_append, UInt64.ofNat_add, ← h.filesDone]
    rfl
  · simp [Statistics.addLossy, Statistics.completeFile, h.bytesDone]
  · rw [UInt64.ofNat_add, ← h.lossy]
    rfl

end Step

-- What the counters say when all files are done
structure CountsPasswords (rule : Rule) (lengths : LengthRange) (all : List Found)
    (read : List (List Char)) (malformed : Nat) (statistics : Statistics) : Prop where
  files : statistics.files = UInt64.ofNat all.length
  filesDone : statistics.filesDone = statistics.files
  bytes : statistics.bytes = UInt64.ofNat (all.map (·.size)).sum
  bytesDone : statistics.bytesDone = statistics.bytes
  lines : statistics.lines = UInt64.ofNat read.length
  written_add_dropped : statistics.written + statistics.dropped = statistics.lines
  dropped : statistics.dropped = UInt64.ofNat
    (read.countP fun line => !lengths.contains (passwordLength (rule.apply line)))
  lossy : statistics.lossy = UInt64.ofNat malformed
  sum_partitions : (statistics.partitions.map (·.2)).sum = statistics.written
  nodup_names : (statistics.partitions.map (·.1)).Nodup
  mem_partitions : ∀ name count, (name, count) ∈ statistics.partitions ↔
    ∃ length, IsWritten rule lengths read length ∧ name = partitionName length ∧
      count = UInt64.ofNat (passwordsOf rule read length).length

theorem Tally.countsPasswords {rule : Rule} {lengths : LengthRange} {all : List Found}
    {read : List (List Char)} {malformed : Nat} {statistics : Statistics}
    (h : Tally all all read.length malformed (read.map (route rule lengths)) statistics) :
    CountsPasswords rule lengths all read malformed statistics where
  files := h.files
  filesDone := h.filesDone.trans h.files.symm
  bytes := h.bytes
  bytesDone := h.bytesDone.trans h.bytes.symm
  lines := h.lines
  written_add_dropped := by
    rw [h.written, h.dropped, h.lines, ← UInt64.ofNat_add, length_reduceOption_add_countP,
      List.length_map]
  dropped := by
    rw [h.dropped, List.countP_map]
    congr 2
    funext line
    exact isNone_route line
  lossy := h.lossy
  sum_partitions := by rw [h.partitions.sum, h.written]
  nodup_names := h.partitions.isSorted.nodup
  mem_partitions := h.partitions.mem_iff_isWritten

end Acrostic.Run.BatchTask
