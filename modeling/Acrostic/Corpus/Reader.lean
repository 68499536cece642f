import Acrostic.Corpus.Line

namespace Acrostic.Corpus

-- Reads the lines of a corpus file. Empty lines are lines too, so that outputs stay aligned
-- with inputs.
structure Reader where
  encoding : Encoding
  -- the number of bytes of the file, and of those that have been read
  size : Nat
  position : Nat
  rest : List UInt8
  -- how many of the lines read were not well-formed
  lossy : Nat

namespace Reader

-- A byte order mark is passed over, whatever encoding it names.
def withEncoding (encoding : Encoding) (content : List UInt8) : Reader :=
  let start := ((Encoding.ofMark? content).map (·.2)).getD 0
  ⟨encoding, content.length, start, content.drop start, 0⟩

def ofContent (guess : List UInt8 → Encoding) (content : List UInt8) : Reader :=
  withEncoding (Encoding.detect guess content) content

def next? (reader : Reader) : Option (List Char × Reader) :=
  if reader.rest.isEmpty then none
  else
    let cut := reader.encoding.cut reader.rest
    let pieces := reader.encoding.decode cut.line
    some (textOf pieces, { reader with
      position := reader.position + cut.line.length + cut.terminator.length
      rest := cut.rest
      lossy := if isClean pieces then reader.lossy else reader.lossy + 1 })

theorem rest_lt_of_next? {reader after : Reader} {line : List Char}
    (h : reader.next? = some (line, after)) : after.rest.length < reader.rest.length := by
  unfold next? at h
  split at h
  · simp at h
  · next hrest =>
    simp only [Option.some.injEq, Prod.mk.injEq] at h
    obtain ⟨-, rfl⟩ := h
    exact reader.encoding.cut_rest_lt (by simpa using hrest)

-- `lines` are the lines read before, backwards.
def readFrom (lines : List (List Char)) : Nat → Reader → List (List Char) × Reader
  | 0, reader => (lines.reverse, reader)
  | count + 1, reader =>
    match reader.next? with
    | none => (lines.reverse, reader)
    | some (line, after) => readFrom (line :: lines) count after

-- Up to `count` lines
def read (reader : Reader) (count : Nat) : List (List Char) × Reader :=
  readFrom [] count reader

-- Each line takes at least one byte, so that no line can be left.
def readAll (reader : Reader) : List (List Char) × Reader :=
  reader.read reader.rest.length

theorem rest_le_readFrom (lines : List (List Char)) (count : Nat) (reader : Reader) :
    (readFrom lines count reader).2.rest.length ≤ reader.rest.length := by
  fun_induction readFrom lines count reader with
  | case1 => exact Nat.le_refl _
  | case2 => exact Nat.le_refl _
  | case3 lines count reader line after h ih =>
    exact Nat.le_trans ih (Nat.le_of_lt (rest_lt_of_next? h))

-- A chunk that is not empty leaves less to read.
theorem rest_lt_read {reader : Reader} {count : Nat} (h : (reader.read count).1 ≠ []) :
    (reader.read count).2.rest.length < reader.rest.length := by
  cases count with
  | zero => simp [read, readFrom] at h
  | succ count =>
    cases hnext : reader.next? with
    | none => simp [read, readFrom, hnext] at h
    | some pair =>
      obtain ⟨line, after⟩ := pair
      simp only [read, readFrom, hnext]
      exact Nat.lt_of_le_of_lt (rest_le_readFrom _ _ _) (rest_lt_of_next? hnext)

-- Takes the lines in chunks of up to `size`, one after the other
def foldChunks {σ : Type} (size : Nat) (take : σ → List (List Char) → σ) (state : σ)
    (reader : Reader) : σ × Reader :=
  match _h : reader.read size with
  | ([], after) => (state, after)
  | (line :: lines, after) => foldChunks size take (take state (line :: lines)) after
termination_by reader.rest.length
decreasing_by
  have hne : (reader.read size).1 ≠ [] := by simp [_h]
  simpa [_h] using rest_lt_read hne

end Reader

end Acrostic.Corpus
