import Acrostic.Proofs.Run.Counting
import Mathlib.Data.List.Count

namespace Acrostic.Run.BatchTask

open Report (Heartbeat Statistics)

-- The counts of the lines that come after the first `lines` ones
def countsAfter (lines more : Nat) : List UInt64 :=
  (List.range' (lines + 1) more).map UInt64.ofNat

theorem countsAfter_succ (lines more : Nat) :
    countsAfter lines (more + 1) = UInt64.ofNat (lines + 1) :: countsAfter (lines + 1) more := by
  rw [countsAfter, List.range'_succ]
  rfl

theorem countsAfter_add (lines first second : Nat) :
    countsAfter lines (first + second) =
      countsAfter lines first ++ countsAfter (lines + first) second := by
  rw [countsAfter, ← List.range'_append_1, List.map_append, Nat.add_right_comm]
  rfl

section Stages

variable {β : Type}

-- The steps that follow a count, and its result
def signalJob (count : UInt64) (result : β) : Job Counted (UInt64 × β) :=
  .act addHeartbeat fun _ => .done (count, result)

def beatJob (count : UInt64) (result : β) : Job Counted (UInt64 × β) :=
  .act (beatAt count) fun _ =>
    if Heartbeat.isDue count then signalJob count result else .done (count, result)

-- A job that takes the steps of the counting job and tells the count of its line
def numberedJob (result : β) : Job Counted (UInt64 × β) :=
  .act addLine fun counted => beatJob counted.1.lines result

theorem map_numberedJob (result : β) : (numberedJob result).map Prod.snd = countingJob result := by
  simp only [numberedJob, beatJob, signalJob, countingJob, Job.map]
  congr 1
  funext counted
  congr 1
  funext _
  split <;> rfl

-- How far a line has come
inductive Stage (β : Type) where
  | waiting (result : β)
  | given (count : UInt64) (result : β)
  | due (count : UInt64) (result : β)
  | finished (count : UInt64) (result : β)

namespace Stage

def job : Stage β → Job Counted (UInt64 × β)
  | waiting result => numberedJob result
  | given count result => beatJob count result
  | due count result => signalJob count result
  | finished count result => .done (count, result)

def count? : Stage β → Option UInt64
  | waiting _ => none
  | given count _ => some count
  | due count _ => some count
  | finished count _ => some count

def waits : Stage β → Bool
  | waiting _ => true
  | given _ _ => false
  | due _ _ => false
  | finished _ _ => false

-- How many heartbeats are known to come of the line
def owed : Stage β → Nat
  | waiting _ => 0
  | given count _ => if Heartbeat.isDue count then 1 else 0
  | due _ _ => 1
  | finished _ _ => 0

end Stage

-- How the work on a chunk ends, from a point at which `lines` lines have been counted in all. Those
-- of the chunk that are counted have the counts `known` and still add `owed` heartbeats; the
-- `waiting` others are given the next counts, and each of these that is due adds a heartbeat.
structure Ends (known : List UInt64) (waiting owed lines : Nat) (shared : Counted)
    (outcomes : List (UInt64 × β)) (final : Counted) : Prop where
  counts : (outcomes.map (·.1)).Perm (known ++ countsAfter lines waiting)
  total : final.1.lines = UInt64.ofNat (lines + waiting)
  heartbeats : final.1.heartbeats = shared.1.heartbeats +
    UInt64.ofNat (owed + (countsAfter lines waiting).countP Heartbeat.isDue)

section Step

variable {known before behind : List UInt64} {waiting owed lines : Nat} {shared final : Counted}
  {outcomes : List (UInt64 × β)} {count : UInt64}

theorem lines_addLine (hlines : shared.1.lines = UInt64.ofNat lines) :
    (addLine shared).1.lines = UInt64.ofNat (lines + 1) := by
  rw [UInt64.ofNat_add, ← hlines]
  rfl

-- The count that is given is the first of those that were to come.
theorem Ends.addLine (hlines : shared.1.lines = UInt64.ofNat lines)
    (h : Ends (before ++ (addLine shared).1.lines :: behind) waiting
      (owed + if Heartbeat.isDue (addLine shared).1.lines then 1 else 0) (lines + 1)
      (addLine shared) outcomes final) :
    Ends (before ++ behind) (waiting + 1) owed lines shared outcomes final := by
  rw [lines_addLine hlines] at h
  refine ⟨?_, ?_, ?_⟩
  · rw [countsAfter_succ]
    exact h.counts.trans ((List.perm_middle.append_right _).trans List.perm_middle.symm)
  · rw [h.total, Nat.add_right_comm, Nat.add_assoc]
  · have hsame : (BatchTask.addLine shared).1.heartbeats = shared.1.heartbeats := rfl
    rw [h.heartbeats, hsame, countsAfter_succ, List.countP_cons, Nat.add_assoc,
      Nat.add_comm (List.countP _ _)]

theorem Ends.beatAt (h : Ends known waiting owed lines (beatAt count shared) outcomes final) :
    Ends known waiting owed lines shared outcomes final :=
  ⟨h.counts, h.total, h.heartbeats⟩

theorem Ends.addHeartbeat
    (h : Ends known waiting owed lines (addHeartbeat shared) outcomes final) :
    Ends known waiting (owed + 1) lines shared outcomes final := by
  have hone : (BatchTask.addHeartbeat shared).1.heartbeats = shared.1.heartbeats + 1 := rfl
  refine ⟨h.counts, h.total, ?_⟩
  rw [h.heartbeats, hone, UInt64.add_assoc, Nat.add_comm owed 1, Nat.add_assoc,
    UInt64.ofNat_add 1]
  rfl

end Step

-- What comes of lines that stand at `stages`
def EndsFrom (stages : List (Stage β)) (lines : Nat) (shared : Counted)
    (outcomes : List (UInt64 × β)) (final : Counted) : Prop :=
  Ends (stages.filterMap Stage.count?) (stages.countP Stage.waits) (stages.map Stage.owed).sum
    lines shared outcomes final

theorem endsFrom_middle {before behind : List (Stage β)} {stage : Stage β} {lines : Nat}
    {shared final : Counted} {outcomes : List (UInt64 × β)} :
    EndsFrom (before ++ stage :: behind) lines shared outcomes final ↔
      Ends (before.filterMap Stage.count? ++ (stage.count?.toList ++ behind.filterMap Stage.count?))
        ((before ++ behind).countP Stage.waits + stage.waits.toNat)
        (((before ++ behind).map Stage.owed).sum + stage.owed) lines shared outcomes final := by
  have hcounts : (before ++ stage :: behind).filterMap Stage.count? =
      before.filterMap Stage.count? ++
        (stage.count?.toList ++ behind.filterMap Stage.count?) := by
    cases hcount : stage.count? <;> simp [hcount]
  have hwaits : (before ++ stage :: behind).countP Stage.waits =
      (before ++ behind).countP Stage.waits + stage.waits.toNat := by
    cases hstage : stage.waits <;> simp [hstage]
    omega
  have howed : ((before ++ stage :: behind).map Stage.owed).sum =
      ((before ++ behind).map Stage.owed).sum + stage.owed := by
    simp only [List.map_append, List.map_cons, List.sum_append, List.sum_cons]
    omega
  rw [EndsFrom, hcounts, hwaits, howed]

theorem endsFrom_finished {lines : Nat} {shared : Counted} (outcomes : List (UInt64 × β))
    (hlines : shared.1.lines = UInt64.ofNat lines) :
    EndsFrom (outcomes.map fun outcome => .finished outcome.1 outcome.2) lines shared outcomes
      shared := by
  have hwaits : (outcomes.map fun outcome => Stage.finished outcome.1 outcome.2).countP
      Stage.waits = 0 := by
    simp [List.countP_eq_zero, Stage.waits]
  have howed : ((outcomes.map fun outcome => Stage.finished outcome.1 outcome.2).map
      Stage.owed).sum = 0 := by
    simp [Function.comp_def, Stage.owed]
  have hcounts : (outcomes.map fun outcome => Stage.finished outcome.1 outcome.2).filterMap
      Stage.count? = outcomes.map (·.1) := by
    simp [List.filterMap_map, Function.comp_def, Stage.count?]
  rw [EndsFrom, hwaits, howed, hcounts]
  exact ⟨by simp [countsAfter], hlines, by simp [countsAfter]⟩

theorem eq_map_finished {stages : List (Stage β)} {outcomes : List (UInt64 × β)}
    (h : stages.map Stage.job = outcomes.map .done) :
    stages = outcomes.map fun outcome => .finished outcome.1 outcome.2 := by
  induction stages generalizing outcomes with
  | nil => rw [List.map_eq_nil_iff.mp h.symm]; rfl
  | cons stage stages ih =>
    obtain ⟨outcome, rest, rfl, houtcome, hrest⟩ := List.map_eq_cons_iff.mp h.symm
    rw [List.map_cons, ih hrest.symm]
    cases stage with
    | finished count result =>
      obtain rfl := Job.done.inj houtcome
      rfl
    | waiting result => cases houtcome
    | given count result => cases houtcome
    | due count result => cases houtcome

-- Whatever the order of the steps, each line that waits is given a count of its own.
theorem endsFrom_of_works {stages : List (Stage β)} {lines : Nat} {shared final : Counted}
    {outcomes : List (UInt64 × β)} (h : Works (stages.map Stage.job) shared outcomes final)
    (hlines : shared.1.lines = UInt64.ofNat lines) :
    EndsFrom stages lines shared outcomes final := by
  generalize hjobs : stages.map Stage.job = jobs at h
  induction h generalizing stages lines with
  | finished outcomes shared =>
    rw [eq_map_finished hjobs]
    exact endsFrom_finished outcomes hlines
  | @step _ _ _ _ shared _ _ h ih =>
    obtain ⟨before, middle, rfl, rfl, hmiddle⟩ := List.map_eq_append_iff.mp hjobs
    obtain ⟨stage, behind, rfl, hstage, rfl⟩ := List.map_eq_cons_iff.mp hmiddle
    -- the stage of the line after the step
    have hnext (after : Stage β) := @ih (before ++ after :: behind)
    rw [endsFrom_middle]
    cases stage with
    | waiting result =>
      cases hstage
      have h := hnext (.given (addLine shared).1.lines result) (lines_addLine hlines)
        (by simp [Stage.job])
      exact .addLine hlines (endsFrom_middle.mp h)
    | given count result =>
      cases hstage
      cases hdue : Heartbeat.isDue count with
      | false =>
        have h := hnext (.finished count result) hlines (by simp [Stage.job, hdue])
        have howed : (Stage.given count result).owed = 0 := if_neg (by simp [hdue])
        rw [howed]
        exact (endsFrom_middle.mp h).beatAt
      | true =>
        have h := hnext (.due count result) hlines (by simp [Stage.job, hdue])
        have howed : (Stage.given count result).owed = 1 := if_pos hdue
        rw [howed]
        exact (endsFrom_middle.mp h).beatAt
    | due count result =>
      cases hstage
      have h := hnext (.finished count result) hlines (by simp [Stage.job])
      exact .addHeartbeat (endsFrom_middle.mp h)
    | finished count result => cases hstage

-- The lines of a chunk that starts behind `lines` lines are given the next counts.
theorem ends_of_works {α : Type} {result : α → β} {items : List α} {lines : Nat}
    {shared final : Counted} {outcomes : List (UInt64 × β)}
    (h : Works (items.map fun item => numberedJob (result item)) shared outcomes final)
    (hlines : shared.1.lines = UInt64.ofNat lines) :
    Ends [] items.length 0 lines shared outcomes final := by
  let stages := items.map fun item => Stage.waiting (result item)
  have hstages : stages.map Stage.job = items.map fun item => numberedJob (result item) := by
    simp [stages, Function.comp_def, Stage.job]
  have hends := endsFrom_of_works (hstages ▸ h) hlines
  have hcounts : stages.filterMap Stage.count? = [] := by
    simp [stages, List.filterMap_map, Function.comp_def, Stage.count?]
  have hwaits : stages.countP Stage.waits = items.length := by
    simp [stages, List.countP_map, Function.comp_def, Stage.waits]
  have howed : (stages.map Stage.owed).sum = 0 := by
    simp [stages, Function.comp_def, Stage.owed]
  rwa [EndsFrom, hcounts, hwaits, howed] at hends

end Stages

end Acrostic.Run.BatchTask
