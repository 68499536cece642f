import Acrostic.Proofs.Output.Partitions
import Acrostic.Run.Batch
import Mathlib.Data.List.ReduceOption

namespace Acrostic.Run.BatchTask

open Output (share share_eq_nil)

-- The passwords of a length, in the order of their lines
def passwordsOf (rule : Rule) (lines : List (List Char)) (length : Nat) : List (List Char) :=
  (lines.map rule.apply).filter (passwordLength · = length)

-- Whether there is a file of the length
def IsWritten (rule : Rule) (lengths : LengthRange) (lines : List (List Char)) (length : Nat) :
    Prop :=
  lengths.min ≤ length ∧ length ≤ lengths.max ∧
    ∃ line ∈ lines, passwordLength (rule.apply line) = length

variable {rule : Rule} {lengths : LengthRange} {lines : List (List Char)} {length : Nat}

theorem contains_iff : lengths.contains length = true ↔
    lengths.min ≤ length ∧ length ≤ lengths.max := by
  simp [LengthRange.contains]

theorem route_eq_some {line password : List Char} :
    route rule lengths line = some (length, password) ↔
      lengths.contains length = true ∧ passwordLength (rule.apply line) = length ∧
        rule.apply line = password := by
  simp only [route, LengthRange.route]
  split_ifs with h
  · simp only [Option.map_some, Option.some.injEq, Prod.mk.injEq]
    constructor
    · rintro ⟨rfl, rfl⟩
      exact ⟨h, rfl, rfl⟩
    · exact And.right
  · simp only [Option.map_none, reduceCtorEq, false_iff]
    rintro ⟨hlength, rfl, -⟩
    exact h hlength

theorem isNone_route (line : List Char) :
    (route rule lengths line).isNone = !lengths.contains (passwordLength (rule.apply line)) := by
  simp only [route, LengthRange.route]
  split_ifs with h <;> simp [h]

-- The routed passwords of a length are all passwords of the length.
theorem share_routes (rule : Rule) {lengths : LengthRange} (lines : List (List Char))
    {length : Nat} (hlength : lengths.contains length = true) :
    share (lines.map (route rule lengths)).reduceOption length =
      passwordsOf rule lines length := by
  induction lines with
  | nil => rfl
  | cons line lines ih =>
    rw [List.map_cons, passwordsOf, List.map_cons, List.filter_cons, ← passwordsOf, ← ih]
    cases hroute : route rule lengths line with
    | none =>
      have hother : passwordLength (rule.apply line) ≠ length := fun heq => by
        have hsome := route_eq_some.mpr ⟨hlength, heq, rfl⟩
        simp [hroute] at hsome
      simp [hother]
    | some entry =>
      obtain ⟨-, heq, happly⟩ := route_eq_some.mp hroute
      rw [heq, happly]
      by_cases hself : entry.1 = length <;> simp [share, hself]

theorem mem_routes_iff :
    length ∈ (lines.map (route rule lengths)).reduceOption.map (·.1) ↔
      IsWritten rule lengths lines length := by
  simp only [List.mem_map, List.reduceOption_mem_iff, Prod.exists, exists_and_right,
    exists_eq_right]
  constructor
  · rintro ⟨password, line, hline, hroute⟩
    obtain ⟨hlength, heq, -⟩ := route_eq_some.mp hroute
    obtain ⟨hmin, hmax⟩ := contains_iff.mp hlength
    exact ⟨hmin, hmax, line, hline, heq⟩
  · rintro ⟨hmin, hmax, line, hline, heq⟩
    exact ⟨_, line, hline, route_eq_some.mpr ⟨contains_iff.mpr ⟨hmin, hmax⟩, heq, rfl⟩⟩

-- The share of a length that is written
theorem IsWritten.share_eq (h : IsWritten rule lengths lines length) :
    share (lines.map (route rule lengths)).reduceOption length = passwordsOf rule lines length :=
  share_routes rule lines (contains_iff.mpr ⟨h.1, h.2.1⟩)

theorem share_routes_ne_nil_iff :
    share (lines.map (route rule lengths)).reduceOption length ≠ [] ↔
      IsWritten rule lengths lines length := by
  rw [ne_eq, share_eq_nil, not_not, mem_routes_iff]

-- Every line is written or dropped.
theorem length_reduceOption_add_countP {α : Type} (routed : List (Option α)) :
    routed.reduceOption.length + routed.countP (·.isNone) = routed.length := by
  induction routed with
  | nil => rfl
  | cons entry routed ih =>
    cases entry with
    | none =>
      simp
      omega
    | some value =>
      simp
      omega

end Acrostic.Run.BatchTask
