import Acrostic.Proofs.Run.Workers
import Acrostic.Run.Batch
import Mathlib.Data.UInt

namespace Acrostic.Run.BatchTask

open Report (Heartbeat Statistics)

-- The lines have been counted, and nothing else but heartbeats.
def HasCounted (lines : Nat) (before after : Counted) : Prop :=
  after.1 = { before.1 with
    lines := before.1.lines + UInt64.ofNat lines
    heartbeats := after.1.heartbeats }

theorem HasCounted.refl (counted : Counted) : HasCounted 0 counted counted := by
  simp [HasCounted]

theorem HasCounted.trans {first second : Nat} {before middle after : Counted}
    (h : HasCounted first before middle) (h' : HasCounted second middle after) :
    HasCounted (first + second) before after := by
  unfold HasCounted at h h' ⊢
  rw [h', h]
  simp [UInt64.add_assoc]

theorem hasCounted_addLine (counted : Counted) : HasCounted 1 counted (addLine counted) :=
  rfl

theorem hasCounted_beatAt (count : UInt64) (counted : Counted) :
    HasCounted 0 counted (beatAt count counted) := by
  simp [HasCounted, beatAt]

theorem hasCounted_addHeartbeat (counted : Counted) :
    HasCounted 0 counted (addHeartbeat counted) := by
  simp [HasCounted, addHeartbeat, Statistics.addHeartbeat]

-- How many lines a job has still to count
inductive Counts {β : Type} : Job Counted β → Nat → Prop
  | done (result : β) : Counts (.done result) 0
  | act {change : Counted → Counted} {next : Counted → Job Counted β} {now later lines : Nat}
      (hnow : ∀ counted, HasCounted now counted (change counted))
      (hlater : ∀ counted, Counts (next counted) later) (hlines : lines = now + later) :
      Counts (.act change next) lines

theorem counts_countingJob {β : Type} (result : β) : Counts (countingJob result) 1 := by
  refine .act hasCounted_addLine (fun counted => ?_) (show 1 = 1 + 0 from rfl)
  refine .act (hasCounted_beatAt _) (fun _ => ?_) (show 0 = 0 + 0 from rfl)
  split_ifs
  · exact .act hasCounted_addHeartbeat (fun _ => .done result) rfl
  · exact .done result

theorem gives_countingJob {β : Type} (result : β) : (countingJob result).Gives result := by
  refine .act fun counted => .act fun _ => ?_
  split_ifs
  · exact .act fun _ => .done result
  · exact .done result

theorem sum_eq_zero_of_done {β : Type} {results : List β} {counts : List Nat}
    (h : List.Forall₂ Counts (results.map .done) counts) : counts.sum = 0 := by
  induction results generalizing counts with
  | nil =>
    rw [List.forall₂_nil_left_iff.mp h]
    rfl
  | cons result results ih =>
    obtain ⟨count, rest, hcount, hrest, rfl⟩ := List.forall₂_cons_left_iff.mp h
    cases hcount
    rw [List.sum_cons, ih hrest]

-- Every line is counted once, in whatever order the workers take their steps.
theorem hasCounted_of_works {β : Type} {jobs : List (Job Counted β)} {shared final : Counted}
    {results : List β} {counts : List Nat} (h : Works jobs shared results final)
    (hjobs : List.Forall₂ Counts jobs counts) : HasCounted counts.sum shared final := by
  induction h generalizing counts with
  | finished results shared =>
    rw [sum_eq_zero_of_done hjobs]
    exact .refl shared
  | step h ih =>
    obtain ⟨first, count, last, rfl, hcount, hreplace⟩ := exists_of_forall₂_middle hjobs
    cases hcount with
    | act hnow hlater hlines =>
      have hall := (hnow _).trans (ih (hreplace _ _ (hlater _)))
      have hsum {now later : Nat} :
          now + (first ++ later :: last).sum = (first ++ (now + later) :: last).sum := by
        simp only [List.sum_append, List.sum_cons]
        omega
      rwa [hsum, ← hlines] at hall

-- What a pool leaves of the lines of a chunk
theorem work_spec (pool : Pool) {β : Type} (result : List Char → β) (lines : List (List Char))
    (counted : Counted) :
    (pool.work (lines.map fun line => countingJob (result line)) counted).1 = lines.map result ∧
      HasCounted lines.length counted
        (pool.work (lines.map fun line => countingJob (result line)) counted).2 := by
  refine ⟨pool.results_eq (fun line => gives_countingJob (result line)) lines counted, ?_⟩
  have hjobs : List.Forall₂ Counts (lines.map fun line => countingJob (result line))
      (lines.map fun _ => 1) := by
    rw [List.forall₂_map_left_iff, List.forall₂_map_right_iff, List.forall₂_same]
    exact fun line _ => counts_countingJob (result line)
  have hcounted := hasCounted_of_works (pool.works _ counted) hjobs
  simpa using hcounted

end Acrostic.Run.BatchTask
