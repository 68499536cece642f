import Acrostic.Proofs.Corpus.Tiles

namespace Acrostic.Corpus

namespace RawLine

def text (encoding : Encoding) (line : RawLine) : List Char :=
  textOf (encoding.decode line.bytes)

def isMalformed (encoding : Encoding) (line : RawLine) : Bool :=
  !isClean (encoding.decode line.bytes)

end RawLine

namespace Reader

-- The chunks of the given sizes, one after the other
def readChunks (reader : Reader) : List Nat → List (List (List Char)) × Reader
  | [] => ([], reader)
  | size :: sizes =>
    let (chunk, between) := reader.read size
    let (chunks, after) := between.readChunks sizes
    (chunk :: chunks, after)

section Chunks

-- Chunks give together what one chunk of their size gives.
theorem readChunks_eq_read (reader : Reader) (sizes : List Nat) :
    (reader.readChunks sizes).1.flatten = (reader.read sizes.sum).1 ∧
      (reader.readChunks sizes).2 = (reader.read sizes.sum).2 := by
  induction sizes generalizing reader with
  | nil => exact ⟨rfl, rfl⟩
  | cons size sizes ih =>
    obtain ⟨hchunks, hafter⟩ := ih (reader.read size).2
    rw [List.sum_cons, read_add, ← hchunks, ← hafter]
    exact ⟨rfl, rfl⟩

theorem readChunks_of_none {reader : Reader} (h : reader.next? = none) (sizes : List Nat) :
    reader.readChunks sizes = (sizes.map fun _ => [], reader) := by
  induction sizes with
  | nil => rfl
  | cons size sizes ih =>
    rw [readChunks, read_of_none size h]
    simp only [ih, List.map_cons]

theorem read_eq_take (reader : Reader) (count : Nat) :
    (reader.read count).1 = reader.lines.take count := by
  induction count generalizing reader with
  | zero => simp [read, readFrom]
  | succ count ih =>
    cases hnext : reader.next? with
    | none => simp [lines, read_of_none _ hnext, readAll_of_none hnext]
    | some pair =>
      obtain ⟨line, after⟩ := pair
      rw [read_succ_of_some count hnext, lines, readAll_of_some hnext, List.take_succ_cons, ih]
      rfl

-- A chunk falls short only where the file ends.
theorem next?_read_of_short {reader : Reader} {count : Nat}
    (h : (reader.read count).1.length < count) : (reader.read count).2.next? = none := by
  induction count generalizing reader with
  | zero => exact absurd h (Nat.not_lt_zero _)
  | succ count ih =>
    cases hnext : reader.next? with
    | none => rwa [read_of_none _ hnext]
    | some pair =>
      obtain ⟨line, after⟩ := pair
      rw [read_succ_of_some count hnext] at h ⊢
      exact ih (Nat.lt_of_succ_lt_succ h)

end Chunks

section Delivered

variable {encoding : Encoding} {content : List UInt8} {done : List RawLine} {reader : Reader}

def markLength (content : List UInt8) : Nat :=
  ((Encoding.ofMark? content).map (·.2)).getD 0

-- A reader of the content behind its first lines: what they took is all that it has read
structure HasDelivered (encoding : Encoding) (content : List UInt8) (done : List RawLine)
    (reader : Reader) : Prop where
  encoding_eq : reader.encoding = encoding
  size_eq : reader.size = content.length
  split : encoding.rawLines (body content) = done ++ encoding.rawLines reader.rest
  position_eq : reader.position = markLength content + (done.map RawLine.length).sum
  rest_eq : reader.rest = content.drop reader.position
  lossy_eq : reader.lossy = done.countP (RawLine.isMalformed encoding)

theorem hasDelivered_withEncoding (encoding : Encoding) (content : List UInt8) :
    HasDelivered encoding content [] (withEncoding encoding content) where
  encoding_eq := rfl
  size_eq := rfl
  split := by rw [rest_withEncoding, List.nil_append]
  position_eq := rfl
  rest_eq := rfl
  lossy_eq := rfl

-- The next line takes its own bytes and those that end it.
theorem HasDelivered.next? (h : HasDelivered encoding content done reader) {line : List Char}
    {after : Reader} (hnext : reader.next? = some (line, after)) :
    ∃ raw : RawLine, line = raw.text encoding ∧ reader.position < after.position ∧
      content.drop reader.position = raw.bytes ++ raw.terminator ++ content.drop after.position ∧
      HasDelivered encoding content (done ++ [raw]) after := by
  obtain ⟨hsome, rfl, rfl⟩ := eq_of_next? hnext
  obtain rfl := h.encoding_eq
  let cut := reader.encoding.cut reader.rest
  let raw : RawLine := ⟨cut.line, cut.terminator⟩
  have hall : raw.bytes ++ raw.terminator ++ cut.rest = reader.rest :=
    reader.encoding.cut_append reader.rest
  have hlength : raw.length + cut.rest.length = reader.rest.length :=
    reader.encoding.length_cut reader.rest
  have hless : cut.rest.length < reader.rest.length := reader.encoding.cut_rest_lt hsome
  have hposition : reader.position + cut.line.length + cut.terminator.length =
      reader.position + raw.length := Nat.add_assoc ..
  have hrest : cut.rest = content.drop (reader.position + raw.length) := by
    rw [← List.drop_drop, ← h.rest_eq, ← hall]
    exact (List.drop_left' (List.length_append ..)).symm
  refine ⟨raw, rfl, ?_, ?_, ?_⟩
  · show reader.position < reader.position + cut.line.length + cut.terminator.length
    omega
  · show _ = _ ++ content.drop (reader.position + cut.line.length + cut.terminator.length)
    rw [hposition, ← hrest, hall, h.rest_eq]
  · constructor
    · rfl
    · exact h.size_eq
    · rw [h.split, Encoding.rawLines_of_ne_nil _ hsome, List.append_assoc]
      rfl
    · show reader.position + cut.line.length + cut.terminator.length = _
      rw [hposition, h.position_eq, List.map_append, List.sum_append, Nat.add_assoc]
      rfl
    · show cut.rest = content.drop (reader.position + cut.line.length + cut.terminator.length)
      rw [hposition, hrest]
    · rw [List.countP_append, ← h.lossy_eq, List.countP_singleton, RawLine.isMalformed]
      show (if isClean (reader.encoding.decode cut.line) then _ else _) =
        reader.lossy + if !isClean (reader.encoding.decode cut.line) then 1 else 0
      cases isClean (reader.encoding.decode cut.line) <;> rfl

theorem HasDelivered.read (h : HasDelivered encoding content done reader) (count : Nat) :
    ∃ more : List RawLine, (reader.read count).1 = more.map (RawLine.text encoding) ∧
      HasDelivered encoding content (done ++ more) (reader.read count).2 := by
  induction count generalizing done reader with
  | zero => exact ⟨[], rfl, by rwa [List.append_nil]⟩
  | succ count ih =>
    cases hnext : reader.next? with
    | none =>
      rw [read_of_none _ hnext]
      exact ⟨[], rfl, by rwa [List.append_nil]⟩
    | some pair =>
      obtain ⟨line, after⟩ := pair
      obtain ⟨raw, hline, -, -, hafter⟩ := h.next? hnext
      obtain ⟨more, hmore, hread⟩ := ih hafter
      rw [read_succ_of_some count hnext]
      refine ⟨raw :: more, by rw [hmore, hline, List.map_cons], ?_⟩
      rwa [List.append_assoc, List.singleton_append] at hread

-- Nothing but the lines that are delivered decides the state.
theorem HasDelivered.unique {other : Reader} (h : HasDelivered encoding content done reader)
    (hother : HasDelivered encoding content done other) : reader = other := by
  have hposition : reader.position = other.position := h.position_eq.trans hother.position_eq.symm
  have hrest : reader.rest = other.rest := by rw [h.rest_eq, hother.rest_eq, hposition]
  cases reader
  cases other
  obtain rfl := h.encoding_eq
  simp only [mk.injEq]
  exact ⟨hother.encoding_eq.symm, h.size_eq.trans hother.size_eq.symm, hposition, hrest,
    h.lossy_eq.trans hother.lossy_eq.symm⟩

theorem markLength_le (content : List UInt8) : markLength content ≤ content.length := by
  unfold markLength
  fun_cases Encoding.ofMark? content <;> simp

-- Every byte has been read or is still to be read.
theorem HasDelivered.position_add_rest (h : HasDelivered encoding content done reader) :
    reader.position + reader.rest.length = reader.size := by
  have hbody : (body content).length = content.length - markLength content := by
    rw [← rest_withEncoding encoding content, (hasDelivered_withEncoding encoding content).rest_eq,
      List.length_drop]
    rfl
  have hmark := markLength_le content
  have hall := (encoding.tiles_rawLines (body content)).length_eq
  have hrest := (encoding.tiles_rawLines reader.rest).length_eq
  have hposition := h.position_eq
  have hsize := h.size_eq
  rw [h.split, List.map_append, List.sum_append] at hall
  omega

theorem HasDelivered.position_eq_size_iff (h : HasDelivered encoding content done reader) :
    reader.position = reader.size ↔ done.length = (encoding.rawLines (body content)).length := by
  have hall := h.position_add_rest
  have hlength := congrArg List.length h.split
  rw [List.length_append] at hlength
  have hposition : reader.position = reader.size ↔ reader.rest = [] := by
    rw [← List.length_eq_zero_iff]
    omega
  have hdone : done.length = (encoding.rawLines (body content)).length ↔
      encoding.rawLines reader.rest = [] := by
    rw [← List.length_eq_zero_iff]
    omega
  rw [hposition, hdone, Encoding.rawLines_eq_nil]

end Delivered

theorem lines_eq_map_rawLines (encoding : Encoding) (content : List UInt8) :
    (withEncoding encoding content).lines =
      (encoding.rawLines (body content)).map (RawLine.text encoding) := by
  have hlines := (readAll_eq_slices (withEncoding encoding content)).1
  rw [rest_withEncoding] at hlines
  rw [hlines]
  show (encoding.slices (body content)).map _ = _
  rw [← encoding.map_bytes_rawLines, List.map_map]
  rfl

theorem hasDelivered_readChunks (encoding : Encoding) (content : List UInt8) (sizes : List Nat) :
    HasDelivered encoding content ((encoding.rawLines (body content)).take
        ((withEncoding encoding content).readChunks sizes).1.flatten.length)
      ((withEncoding encoding content).readChunks sizes).2 := by
  obtain ⟨hchunks, hafter⟩ := readChunks_eq_read (withEncoding encoding content) sizes
  obtain ⟨done, hdone, hdelivered⟩ :=
    (hasDelivered_withEncoding encoding content).read sizes.sum
  rw [List.nil_append] at hdelivered
  rw [hchunks, hafter, hdone, List.length_map, hdelivered.split, List.take_left]
  exact hdelivered

-- However a file is read in chunks, they give its lines one after the other, and the state of the
-- reader is decided by how many lines it has given. The lines and what ends them lie side by side
-- in the content, behind a byte order mark. A chunk that falls short is the last one to give any.
theorem readChunks_withEncoding (encoding : Encoding) (content : List UInt8) (sizes : List Nat) :
    let reader := withEncoding encoding content
    let raw := encoding.rawLines (body content)
    let chunks := (reader.readChunks sizes).1
    let after := (reader.readChunks sizes).2
    let count := chunks.flatten.length
    chunks.flatten = reader.lines.take sizes.sum ∧
      reader.lines = raw.map (RawLine.text encoding) ∧ encoding.Tiles raw (body content) ∧
      HasDelivered encoding content (raw.take count) after ∧
      (∀ others : List Nat, (reader.readChunks others).1.flatten.length = count →
        (reader.readChunks others).2 = after) ∧
      after.position ≤ after.size ∧
      (after.position = after.size ↔ count = reader.lines.length) ∧
      (∀ line next, after.next? = some (line, next) → after.position < next.position ∧
        ∃ raw : RawLine, line = raw.text encoding ∧ content.drop after.position =
          raw.bytes ++ raw.terminator ++ content.drop next.position) ∧
      ∀ size, (after.read size).1.length < size →
        (after.read size).2.position = after.size ∧
          ∀ more, (after.read size).2.readChunks more =
            (more.map fun _ => [], (after.read size).2) := by
  intro reader raw chunks after count
  have hchunks : chunks.flatten = reader.lines.take sizes.sum := by
    rw [← read_eq_take, ← (readChunks_eq_read reader sizes).1]
  have hlines : reader.lines = raw.map (RawLine.text encoding) :=
    lines_eq_map_rawLines encoding content
  have hafter : HasDelivered encoding content (raw.take count) after :=
    hasDelivered_readChunks encoding content sizes
  have hcount : (raw.take count).length = count := by
    have hle : count ≤ reader.lines.length := by
      rw [show count = _ from congrArg List.length hchunks]
      exact List.length_take_le' ..
    rw [hlines, List.length_map] at hle
    exact List.length_take_of_le hle
  refine ⟨hchunks, hlines, encoding.tiles_rawLines (body content), hafter, ?_, ?_, ?_, ?_, ?_⟩
  · intro others hothers
    have hother := hasDelivered_readChunks encoding content others
    rw [hothers] at hother
    exact hother.unique hafter
  · have hall := hafter.position_add_rest
    omega
  · rw [hafter.position_eq_size_iff, hcount, hlines, List.length_map]
  · intro line next hnext
    obtain ⟨own, hline, hlt, hbytes, -⟩ := hafter.next? hnext
    exact ⟨hlt, own, hline, hbytes⟩
  · intro size hshort
    have hnone := next?_read_of_short hshort
    obtain ⟨more, -, hread⟩ := hafter.read size
    have hall := hread.position_add_rest
    rw [next?_eq_none.mp hnone, hread.size_eq, ← hafter.size_eq] at hall
    exact ⟨hall, readChunks_of_none hnone⟩

example : ((withEncoding .utf8 [0x61, 0x0D, 0x62, 0x0D, 0x0A, 0x63]).readChunks [1, 0, 5, 1]).1 =
    [[['a']], [], [['b'], ['c']], []] := by
  decide

end Reader

end Acrostic.Corpus
