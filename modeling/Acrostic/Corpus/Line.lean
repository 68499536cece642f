import Acrostic.Corpus.Encoding

namespace Acrostic.Corpus

-- Bytes cut behind their first line: the line, what ends it, and the rest
structure Cut where
  line : List UInt8
  terminator : List UInt8
  rest : List UInt8

def lineFeed : UInt8 := 0x0A

def carriageReturn : UInt8 := 0x0D

-- Takes a line feed that follows a carriage return together with it
def cutAtEnd (line : List UInt8) : List UInt8 → Cut
  | [] => ⟨line, [], []⟩
  | byte :: rest =>
    if byte = carriageReturn then
      match rest with
      | next :: others =>
        if next = lineFeed then ⟨line, [byte, next], others⟩ else ⟨line, [byte], rest⟩
      | [] => ⟨line, [byte], []⟩
    else ⟨line, [byte], rest⟩

def isLineEnd (byte : UInt8) : Bool :=
  byte == lineFeed || byte == carriageReturn

def cutBytes (bytes : List UInt8) : Cut :=
  cutAtEnd (bytes.takeWhile (!isLineEnd ·)) (bytes.dropWhile (!isLineEnd ·))

-- Lines of two-byte units. `line` is what has been read, backwards;
-- a single byte at the end belongs to the last line.
def cutUnits (order : Utf16.ByteOrder) (line : List UInt8) : List UInt8 → Cut
  | first :: second :: rest =>
    if order.unit first second = lineFeed.toNat then ⟨line.reverse, [first, second], rest⟩
    else if order.unit first second = carriageReturn.toNat then
      match rest with
      | third :: fourth :: others =>
        if order.unit third fourth = lineFeed.toNat then
          ⟨line.reverse, [first, second, third, fourth], others⟩
        else ⟨line.reverse, [first, second], rest⟩
      | _ => ⟨line.reverse, [first, second], rest⟩
    else cutUnits order (second :: first :: line) rest
  | tail => ⟨line.reverse ++ tail, [], []⟩

-- The first line of a content: up to a line feed, a carriage return, both, or the end
def Encoding.cut : Encoding → List UInt8 → Cut
  | known (.utf16 order), bytes => cutUnits order [] bytes
  | _, bytes => cutBytes bytes

-- The cut takes at least one byte, and no byte is lost.
theorem cutAtEnd_append (line rest : List UInt8) :
    (cutAtEnd line rest).line ++ (cutAtEnd line rest).terminator ++ (cutAtEnd line rest).rest =
      line ++ rest := by
  unfold cutAtEnd
  split
  · simp
  · split
    · split
      · split <;> simp
      · simp
    · simp

theorem cutBytes_append (bytes : List UInt8) :
    (cutBytes bytes).line ++ (cutBytes bytes).terminator ++ (cutBytes bytes).rest = bytes := by
  rw [cutBytes, cutAtEnd_append, List.takeWhile_append_dropWhile]

theorem cutUnits_append (order : Utf16.ByteOrder) (line bytes : List UInt8) :
    (cutUnits order line bytes).line ++ (cutUnits order line bytes).terminator ++
      (cutUnits order line bytes).rest = line.reverse ++ bytes := by
  fun_induction cutUnits order line bytes <;> simp_all

theorem Encoding.cut_append (encoding : Encoding) (bytes : List UInt8) :
    (encoding.cut bytes).line ++ (encoding.cut bytes).terminator ++ (encoding.cut bytes).rest =
      bytes := by
  unfold Encoding.cut
  split
  · exact cutUnits_append _ [] _
  · exact cutBytes_append _

theorem cutAtEnd_rest_lt (line : List UInt8) {rest : List UInt8} (h : rest ≠ []) :
    (cutAtEnd line rest).rest.length < rest.length := by
  unfold cutAtEnd
  split
  · contradiction
  · split
    · split
      · split <;> simp +arith
      · simp
    · simp

theorem cutBytes_rest_lt {bytes : List UInt8} (h : bytes ≠ []) :
    (cutBytes bytes).rest.length < bytes.length := by
  unfold cutBytes
  by_cases hd : bytes.dropWhile (!isLineEnd ·) = []
  · rw [hd]
    cases bytes with
    | nil => contradiction
    | cons byte rest => simp [cutAtEnd]
  · have hcut := cutAtEnd_rest_lt (bytes.takeWhile (!isLineEnd ·)) hd
    have hdrop := (List.dropWhile_sublist (!isLineEnd ·) (l := bytes)).length_le
    omega

theorem cutUnits_rest_lt (order : Utf16.ByteOrder) (line : List UInt8) {bytes : List UInt8}
    (h : bytes ≠ []) : (cutUnits order line bytes).rest.length < bytes.length := by
  fun_induction cutUnits order line bytes with
  | case1 line first second rest hfeed => simp +arith
  | case2 line first second third fourth rest _ _ hfeed => simp +arith
  | case3 line first second third fourth rest _ _ _ => simp +arith
  | case4 line first second rest _ _ _ => simp +arith
  | case5 line first second rest _ _ ih =>
    cases rest with
    | nil => simp [cutUnits]
    | cons third rest =>
      have := ih (by simp)
      simp only [List.length_cons] at this ⊢
      omega
  | case6 line tail _ => exact List.length_pos_iff.mpr h

theorem Encoding.cut_rest_lt (encoding : Encoding) {bytes : List UInt8} (h : bytes ≠ []) :
    (encoding.cut bytes).rest.length < bytes.length := by
  unfold Encoding.cut
  split
  · exact cutUnits_rest_lt _ [] h
  · exact cutBytes_rest_lt h

end Acrostic.Corpus
