import Acrostic.Proofs.Corpus.Slices
import Mathlib.Algebra.GroupWithZero.Nat
import Mathlib.Data.List.TakeWhile

namespace Acrostic.Corpus

-- The bytes of a line and those that end it
structure RawLine where
  bytes : List UInt8
  terminator : List UInt8

def RawLine.length (line : RawLine) : Nat :=
  line.bytes.length + line.terminator.length

theorem ends_cutBytes (bytes : List UInt8) :
    Ends lineFeed carriageReturn (cutBytes bytes).terminator (cutBytes bytes).rest := by
  unfold cutBytes
  cases hdrop : bytes.dropWhile (!isLineEnd ·) with
  | nil => exact .atEnd
  | cons byte rest =>
    have hend : isLineEnd byte = true := by
      have hhead := List.head?_dropWhile_not (!isLineEnd ·) bytes
      simpa [hdrop] using hhead
    exact ends_cutAtEnd hend _ rest

theorem line_cutBytes (bytes : List UInt8) :
    (cutBytes bytes).line = bytes.takeWhile (!isLineEnd ·) := by
  rw [cutBytes, cutAtEnd_line]

-- The units of two bytes each. A single byte at the end belongs to none.
def Utf16.unitsOf (order : Utf16.ByteOrder) : List UInt8 → List Nat
  | first :: second :: rest => order.unit first second :: unitsOf order rest
  | _ => []

theorem Utf16.unitsOf_of_short {order : Utf16.ByteOrder} {bytes : List UInt8}
    (h : ∀ first second rest, bytes = first :: second :: rest → False) :
    Utf16.unitsOf order bytes = [] := by
  unfold Utf16.unitsOf
  split
  · exact (h _ _ _ rfl).elim
  · rfl

namespace Encoding

-- A line feed or a carriage return in the unit of the encoding
def endBytes : Encoding → UInt8 → List UInt8
  | known (.utf16 order), byte => order.bytes byte.toNat
  | _, byte => [byte]

-- The units in which ends of lines are looked for
def units : Encoding → List UInt8 → List Nat
  | known (.utf16 order), bytes => Utf16.unitsOf order bytes
  | _, bytes => bytes.map UInt8.toNat

-- No unit of the bytes ends a line.
def IsUnended (encoding : Encoding) (bytes : List UInt8) : Prop :=
  ∀ unit ∈ encoding.units bytes, unit ≠ lineFeed.toNat ∧ unit ≠ carriageReturn.toNat

theorem isUnended_cutBytes {encoding : Encoding}
    (hunits : ∀ bytes, encoding.units bytes = bytes.map UInt8.toNat) (bytes : List UInt8) :
    encoding.IsUnended (cutBytes bytes).line := by
  intro unit hunit
  rw [hunits, line_cutBytes] at hunit
  obtain ⟨byte, hbyte, rfl⟩ := List.mem_map.mp hunit
  have hend : isLineEnd byte = false := by simpa using List.mem_takeWhile_imp hbyte
  simpa [isLineEnd, ← UInt8.toNat_inj] using hend

-- Less than a unit ends no line.
theorem isUnended_of_short {order : Utf16.ByteOrder} {bytes : List UInt8}
    (h : ∀ first second rest, bytes = first :: second :: rest → False) :
    (utf16 order).IsUnended bytes := by
  simp [IsUnended, units, Utf16.unitsOf_of_short h]

-- What is read of a line goes on without an end up to where the line is cut.
theorem line_cutUnits (order : Utf16.ByteOrder) (line bytes : List UInt8) :
    ∃ more, (cutUnits order line bytes).line = line.reverse ++ more ∧
      (utf16 order).IsUnended more := by
  fun_induction cutUnits order line bytes with
  | case1 | case2 | case3 | case4 => exact ⟨[], by simp, isUnended_of_short (by simp)⟩
  | case5 line first second rest hfeed hret ih =>
    obtain ⟨more, hline, hmore⟩ := ih
    refine ⟨first :: second :: more, by simp [hline], ?_⟩
    exact List.forall_mem_cons.mpr ⟨⟨hfeed, hret⟩, hmore⟩
  | case6 tail line hshort => exact ⟨tail, rfl, isUnended_of_short hshort⟩

theorem isUnended_cut (encoding : Encoding) (bytes : List UInt8) :
    encoding.IsUnended (encoding.cut bytes).line := by
  match encoding with
  | known (.utf16 order) =>
    obtain ⟨more, hline, hmore⟩ := line_cutUnits order [] bytes
    rw [cut, hline]
    exact hmore
  | known .utf8 | known .windows1252 | other _ _ => exact isUnended_cutBytes (fun _ => rfl) bytes

-- What can end a line in front of the rest: a line feed, a carriage return, both in this order, or
-- nothing where the bytes are at an end
inductive EndsLine (encoding : Encoding) : List UInt8 → List UInt8 → Prop
  | feed (rest : List UInt8) : EndsLine encoding (encoding.endBytes lineFeed) rest
  | both (rest : List UInt8) :
      EndsLine encoding (encoding.endBytes carriageReturn ++ encoding.endBytes lineFeed) rest
  | ret {rest : List UInt8} (h : ¬ encoding.endBytes lineFeed <+: rest) :
      EndsLine encoding (encoding.endBytes carriageReturn) rest
  | atEnd : EndsLine encoding [] []

theorem endsLine_cutBytes {encoding : Encoding} (hbytes : ∀ byte, encoding.endBytes byte = [byte])
    (bytes : List UInt8) :
    encoding.EndsLine (cutBytes bytes).terminator (cutBytes bytes).rest := by
  have hends := ends_cutBytes bytes
  generalize (cutBytes bytes).terminator = terminator at hends ⊢
  generalize (cutBytes bytes).rest = rest at hends ⊢
  cases hends with
  | feed => exact hbytes lineFeed ▸ .feed rest
  | both =>
    have hboth : [carriageReturn, lineFeed] =
        encoding.endBytes carriageReturn ++ encoding.endBytes lineFeed := by
      rw [hbytes, hbytes]
      rfl
    exact hboth ▸ .both rest
  | ret h =>
    have hfirst : ¬ encoding.endBytes lineFeed <+: rest := by
      rw [hbytes]
      rintro ⟨more, rfl⟩
      exact h rfl
    exact hbytes carriageReturn ▸ .ret hfirst
  | atEnd => exact .atEnd

section Units

variable {order : Utf16.ByteOrder} {first second byte : UInt8} {rest : List UInt8}

theorem endBytes_of_unit (hunit : order.unit first second = byte.toNat) :
    (utf16 order).endBytes byte = [first, second] := by
  rw [endBytes, ← hunit, Utf16.bytes_unit]

-- Where these bytes stand, their unit is read.
theorem unit_of_endBytes_first (h : (utf16 order).endBytes byte <+: first :: second :: rest) :
    order.unit first second = byte.toNat := by
  have hbyte := byte.toNat_lt
  obtain ⟨low, high, hbytes, hunit⟩ := Utf16.unit_bytes order (show byte.toNat < 0x10000 by omega)
  obtain ⟨more, hmore⟩ := h
  rw [endBytes, hbytes] at hmore
  simp only [List.cons_append, List.nil_append, List.cons.injEq] at hmore
  rw [← hmore.1, ← hmore.2.1, hunit]

theorem not_endBytes_first_of_short
    (hshort : ∀ first second others, rest = first :: second :: others → False) :
    ¬ (utf16 order).endBytes byte <+: rest := by
  have hbyte := byte.toNat_lt
  obtain ⟨low, high, hbytes, -⟩ := Utf16.unit_bytes order (show byte.toNat < 0x10000 by omega)
  rintro ⟨more, rfl⟩
  exact hshort low high more (by rw [endBytes, hbytes]; rfl)

theorem endsLine_cutUnits (line bytes : List UInt8) :
    (utf16 order).EndsLine (cutUnits order line bytes).terminator
      (cutUnits order line bytes).rest := by
  fun_induction cutUnits order line bytes with
  | case1 line first second rest hfeed => exact endBytes_of_unit hfeed ▸ .feed rest
  | case2 line first second _ hret third fourth rest hfeed =>
    have hboth : (utf16 order).endBytes carriageReturn ++ (utf16 order).endBytes lineFeed =
        [first, second, third, fourth] := by
      rw [endBytes_of_unit hret, endBytes_of_unit hfeed]
      rfl
    exact hboth ▸ .both rest
  | case3 line first second _ hret third fourth rest hfeed =>
    exact endBytes_of_unit hret ▸ .ret fun hprefix => hfeed (unit_of_endBytes_first hprefix)
  | case4 line first second rest _ hret hshort =>
    exact endBytes_of_unit hret ▸ .ret (not_endBytes_first_of_short hshort)
  | case5 line first second rest _ _ ih => exact ih
  | case6 tail line hshort => exact .atEnd

end Units

theorem endsLine_cut (encoding : Encoding) (bytes : List UInt8) :
    encoding.EndsLine (encoding.cut bytes).terminator (encoding.cut bytes).rest := by
  match encoding with
  | known (.utf16 order) => exact endsLine_cutUnits [] bytes
  | known .utf8 | known .windows1252 | other _ _ => exact endsLine_cutBytes (fun _ => rfl) bytes

theorem length_cut (encoding : Encoding) (bytes : List UInt8) :
    (encoding.cut bytes).line.length + (encoding.cut bytes).terminator.length +
      (encoding.cut bytes).rest.length = bytes.length := by
  have hlength := congrArg List.length (encoding.cut_append bytes)
  simpa only [List.length_append] using hlength

-- The lines of a content as they stand there
def rawLines (encoding : Encoding) : List UInt8 → List RawLine
  | [] => []
  | byte :: rest =>
    ⟨(encoding.cut (byte :: rest)).line, (encoding.cut (byte :: rest)).terminator⟩ ::
      encoding.rawLines (encoding.cut (byte :: rest)).rest
termination_by bytes => bytes.length
decreasing_by exact encoding.cut_rest_lt (List.cons_ne_nil byte rest)

theorem rawLines_nil (encoding : Encoding) : encoding.rawLines [] = [] := by
  rw [rawLines]

theorem rawLines_of_ne_nil (encoding : Encoding) {bytes : List UInt8} (h : bytes ≠ []) :
    encoding.rawLines bytes =
      ⟨(encoding.cut bytes).line, (encoding.cut bytes).terminator⟩ ::
        encoding.rawLines (encoding.cut bytes).rest := by
  obtain ⟨byte, rest, rfl⟩ := List.exists_cons_of_ne_nil h
  rw [rawLines]

theorem rawLines_eq_nil {encoding : Encoding} {bytes : List UInt8} :
    encoding.rawLines bytes = [] ↔ bytes = [] := by
  constructor
  · intro h
    by_contra hnil
    rw [rawLines_of_ne_nil encoding hnil] at h
    contradiction
  · rintro rfl
    exact rawLines_nil encoding

theorem map_bytes_rawLines (encoding : Encoding) (bytes : List UInt8) :
    (encoding.rawLines bytes).map RawLine.bytes = encoding.slices bytes := by
  fun_induction slices encoding bytes with
  | case1 => simp [rawLines_nil]
  | case2 byte rest ih =>
    rw [rawLines_of_ne_nil encoding (List.cons_ne_nil byte rest), List.map_cons, ih]

-- Lines that make up the bytes: each is followed by what ends it, and then by the next one
inductive Tiles (encoding : Encoding) : List RawLine → List UInt8 → Prop
  | nil : Tiles encoding [] []
  | cons (line : RawLine) {lines : List RawLine} {rest : List UInt8} (hsome : 0 < line.length)
      (hunended : encoding.IsUnended line.bytes)
      (hends : encoding.EndsLine line.terminator rest) (hrest : Tiles encoding lines rest) :
      Tiles encoding (line :: lines) (line.bytes ++ line.terminator ++ rest)

-- No byte is left out, and none is used twice.
theorem tiles_rawLines (encoding : Encoding) (bytes : List UInt8) :
    encoding.Tiles (encoding.rawLines bytes) bytes := by
  fun_induction rawLines encoding bytes with
  | case1 => exact .nil
  | case2 byte rest ih =>
    let cut := encoding.cut (byte :: rest)
    let line : RawLine := ⟨cut.line, cut.terminator⟩
    have hlt : cut.rest.length < (byte :: rest).length :=
      encoding.cut_rest_lt (List.cons_ne_nil byte rest)
    have hlength : line.length + cut.rest.length = (byte :: rest).length :=
      encoding.length_cut (byte :: rest)
    have hsome : 0 < line.length := by omega
    have hunended : encoding.IsUnended line.bytes := encoding.isUnended_cut (byte :: rest)
    have htiles := Tiles.cons line hsome hunended (encoding.endsLine_cut (byte :: rest)) ih
    rwa [encoding.cut_append] at htiles

theorem Tiles.length_eq {encoding : Encoding} {lines : List RawLine} {bytes : List UInt8}
    (h : encoding.Tiles lines bytes) : (lines.map RawLine.length).sum = bytes.length := by
  induction h with
  | nil => rfl
  | cons _ _ _ _ _ ih =>
    simp only [List.map_cons, List.sum_cons, List.length_append, ih]
    rfl

end Encoding

end Acrostic.Corpus
