import Acrostic.Unicode.SpanTree

-- Tables of character properties are written as rows: one numeral per row, whose fixed-width
-- hexadecimal fields are code points. The first field of a row is never zero.
namespace Acrostic.Unicode

def fieldsFrom (width : Nat) : Nat → Nat → List Nat → List Nat
  | 0, _, fields => fields
  | count + 1, row, fields => fieldsFrom width count (row >>> width) (row % 2 ^ width :: fields)

-- The fields of a row, each `width` bits wide, in the order they are written in
def fields (width row : Nat) : List Nat :=
  fieldsFrom width (row.log2 / width + 1) row []

-- Sets: five digits a field, alternately the first and the last code point of a run
def runsOf : List Nat → List (Span Unit)
  | first :: last :: rest => ⟨first, last, ()⟩ :: runsOf rest
  | _ => []

abbrev CharSet := SpanTree Unit

def CharSet.ofRows (rows : List Nat) : CharSet :=
  SpanTree.ofList (runsOf (rows.flatMap (fields 20)))

-- Values: five digits a field, the first and the last code point of a run and its value
def valuesOf : List Nat → List (Span Nat)
  | first :: last :: value :: rest => ⟨first, last, value⟩ :: valuesOf rest
  | _ => []

def valueSpans (rows : List Nat) : List (Span Nat) :=
  valuesOf (rows.flatMap (fields 20))

-- Mappings: six digits a field. A field with the top bit set names the code point that is mapped,
-- the fields after it are its image. Two such fields in a row are the ends of a run,
-- whose images follow one another as the code points do.
def mappingMark : Nat := 0x800000

def mappingsFrom (first last : Nat) (image : List Nat) : List Nat → List (Span (List Nat))
  | [] => [⟨first, last, image.reverse⟩]
  | field :: rest =>
    if field < mappingMark then mappingsFrom first last (field :: image) rest
    else if image.isEmpty then mappingsFrom first (field - mappingMark) [] rest
    else
      ⟨first, last, image.reverse⟩ ::
        mappingsFrom (field - mappingMark) (field - mappingMark) [] rest

def mappingSpans (rows : List Nat) : List (Span (List Nat)) :=
  match rows.flatMap (fields 24) with
  | [] => []
  | field :: rest => mappingsFrom (field - mappingMark) (field - mappingMark) [] rest

abbrev CharMap := SpanTree (List Nat)

def CharMap.ofRows (rows : List Nat) : CharMap :=
  SpanTree.ofList (mappingSpans rows)

-- The image of a code point of a run: the run's image moved along by the point's offset
def Span.image (span : Span (List Nat)) (point : Nat) : List Char :=
  span.value.map fun target => Char.ofNat (target + (point - span.first))

-- The image of a character that the table maps
def CharMap.image? (map : CharMap) (c : Char) : Option (List Char) :=
  (map.find? c.toNat).map (·.image c.toNat)

end Acrostic.Unicode
