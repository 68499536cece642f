import Acrostic.Corpus.Reader

namespace Acrostic.Corpus.Reader

-- The lines that are left to read
def lines (reader : Reader) : List (List Char) :=
  reader.readAll.1

theorem next?_eq_none {reader : Reader} : reader.next? = none ↔ reader.rest = [] := by
  unfold next?
  split
  · next h => simpa using h
  · next h => simpa using h

theorem readFrom_eq (lines : List (List Char)) (count : Nat) (reader : Reader) :
    readFrom lines count reader =
      (lines.reverse ++ (reader.read count).1, (reader.read count).2) := by
  induction count generalizing lines reader with
  | zero => simp [read, readFrom]
  | succ count ih =>
    simp only [read, readFrom]
    cases hnext : reader.next? with
    | none => simp
    | some pair =>
      obtain ⟨line, after⟩ := pair
      simp only []
      rw [ih (line :: lines), ih [line]]
      simp

theorem read_succ_of_some {reader after : Reader} {line : List Char} (count : Nat)
    (h : reader.next? = some (line, after)) :
    reader.read (count + 1) = (line :: (after.read count).1, (after.read count).2) := by
  simp only [read, readFrom, h]
  rw [readFrom_eq]
  rfl

theorem read_of_none {reader : Reader} (count : Nat) (h : reader.next? = none) :
    reader.read count = ([], reader) := by
  cases count <;> simp [read, readFrom, h]

-- Two reads give the lines that one read of as many gives.
theorem read_add (reader : Reader) (first second : Nat) :
    reader.read (first + second) =
      ((reader.read first).1 ++ ((reader.read first).2.read second).1,
        ((reader.read first).2.read second).2) := by
  induction first generalizing reader with
  | zero => simp [read, readFrom]
  | succ first ih =>
    cases hnext : reader.next? with
    | none =>
      rw [read_of_none _ hnext, read_of_none _ hnext, read_of_none _ hnext]
      rfl
    | some pair =>
      obtain ⟨line, after⟩ := pair
      rw [Nat.succ_add, read_succ_of_some _ hnext, read_succ_of_some _ hnext, ih after]
      rfl

-- Each line takes at least a byte.
theorem rest_read_eq_nil {reader : Reader} {count : Nat} (h : reader.rest.length ≤ count) :
    (reader.read count).2.rest = [] := by
  induction count generalizing reader with
  | zero => exact List.length_eq_zero_iff.mp (Nat.le_zero.mp h)
  | succ count ih =>
    cases hnext : reader.next? with
    | none =>
      rw [read_of_none _ hnext]
      exact next?_eq_none.mp hnext
    | some pair =>
      obtain ⟨line, after⟩ := pair
      have hlt := rest_lt_of_next? hnext
      rw [read_succ_of_some _ hnext]
      exact ih (by omega)

theorem read_eq_readAll {reader : Reader} {count : Nat} (h : reader.rest.length ≤ count) :
    reader.read count = reader.readAll := by
  obtain ⟨more, rfl⟩ := Nat.exists_eq_add_of_le h
  have hend : (reader.read reader.rest.length).2.next? = none :=
    next?_eq_none.mpr (rest_read_eq_nil (Nat.le_refl _))
  rw [read_add, read_of_none more hend]
  simp [readAll]

theorem rest_readAll (reader : Reader) : reader.readAll.2.rest = [] :=
  rest_read_eq_nil (Nat.le_refl _)

theorem readAll_of_none {reader : Reader} (h : reader.next? = none) :
    reader.readAll = ([], reader) :=
  read_of_none _ h

theorem readAll_of_some {reader after : Reader} {line : List Char}
    (h : reader.next? = some (line, after)) :
    reader.readAll = (line :: after.readAll.1, after.readAll.2) := by
  have hlt := rest_lt_of_next? h
  rw [← read_eq_readAll (Nat.le_succ reader.rest.length), read_succ_of_some _ h,
    read_eq_readAll (Nat.le_of_lt hlt)]

-- A chunk and what is read behind it
theorem readAll_eq_read (reader : Reader) (count : Nat) :
    reader.readAll = ((reader.read count).1 ++ (reader.read count).2.readAll.1,
      (reader.read count).2.readAll.2) := by
  have hall := read_eq_readAll (Nat.le_add_left reader.rest.length count)
  have hrest : (reader.read count).2.rest.length ≤ reader.rest.length :=
    rest_le_readFrom [] count reader
  rw [← hall, read_add, read_eq_readAll hrest]

-- What every chunk keeps holds at the end of all lines.
theorem foldChunks_invariant {σ : Type} {size : Nat} (hsize : 0 < size)
    {take : σ → List (List Char) → σ} (P : σ → List (List Char) → Prop)
    (hstep : ∀ state read chunk, P state read → P (take state chunk) (read ++ chunk))
    {state : σ} {read : List (List Char)} {reader : Reader} (hstart : P state read) :
    P (reader.foldChunks size take state).1 (read ++ reader.lines) ∧
      (reader.foldChunks size take state).2 = reader.readAll.2 := by
  fun_induction foldChunks size take state reader generalizing read with
  | case1 state reader after hread =>
    -- an empty chunk means that there are no more lines
    have hnone : reader.next? = none := by
      obtain ⟨count, rfl⟩ := Nat.exists_eq_add_one.mpr hsize
      cases hnext : reader.next? with
      | none => rfl
      | some pair =>
        rw [read_succ_of_some _ hnext] at hread
        simp at hread
    rw [read_of_none _ hnone] at hread
    obtain rfl : reader = after := by simpa using hread
    simpa [lines, readAll_of_none hnone] using hstart
  | case2 state reader line chunk after hread ih =>
    have hall := readAll_eq_read reader size
    rw [hread] at hall
    have htail := ih (hstep _ _ (line :: chunk) hstart)
    rw [List.append_assoc] at htail
    simpa [lines, hall] using htail

end Acrostic.Corpus.Reader
