import Acrostic.Unicode.Word.Break

-- The default word boundaries
namespace Acrostic.Unicode

-- What the boundary rules see of the text in front of a position
structure Preceding where
  -- the class of the last character
  last : WordBreak
  -- the classes of the last two characters that are not transparent, since the last line end
  near : Option WordBreak
  far : Option WordBreak
  -- whether an odd number of regional indicators ends the text
  unpaired : Bool

namespace Preceding

-- The state after the first character of a text
def first (kind : WordBreak) : Preceding where
  last := kind
  near := if kind.isTransparent || kind.isLineEnd then none else some kind
  far := none
  unpaired := kind == .regionalIndicator

def push (before : Preceding) (kind : WordBreak) : Preceding :=
  if kind.isTransparent then { before with last := kind }
  else if kind.isLineEnd then ⟨kind, none, none, false⟩
  else ⟨kind, some kind, before.near, kind == .regionalIndicator && !before.unpaired⟩

end Preceding

-- The class of the next character that is not transparent
def nextSignificant (rest : List Char) : Option WordBreak :=
  (rest.dropWhile fun c => (WordBreak.ofChar c).isTransparent).head?.map WordBreak.ofChar

-- Whether letters, digits and what joins them go on with `kind`, after the classes `far` and
-- `near` and in front of `next`
def continuesWord (far near : Option WordBreak) (kind : WordBreak) (next : Option WordBreak) :
    Bool :=
  match near with
  | none => false
  | some near =>
    (near.isLetter && kind.isLetter) ||
    (near.isLetter && kind.joinsLetters && next.any WordBreak.isLetter) ||
    (far.any WordBreak.isLetter && near.joinsLetters && kind.isLetter) ||
    (near == .hebrewLetter && kind == .singleQuote) ||
    (near == .hebrewLetter && kind == .doubleQuote && next == some .hebrewLetter) ||
    (far == some .hebrewLetter && near == .doubleQuote && kind == .hebrewLetter) ||
    (near == .numeric && kind == .numeric) ||
    (near.isLetter && kind == .numeric) ||
    (near == .numeric && kind.isLetter) ||
    (far == some .numeric && near.joinsDigits && kind == .numeric) ||
    (near == .numeric && kind.joinsDigits && next == some .numeric) ||
    (near == .katakana && kind == .katakana) ||
    ((near.isLetter || near == .numeric || near == .katakana || near == .extendNumLet) &&
      kind == .extendNumLet) ||
    (near == .extendNumLet && (kind.isLetter || kind == .numeric || kind == .katakana))

-- Whether a word boundary stands in front of `c`, between what precedes it and `rest`
def isBoundary (before : Preceding) (c : Char) (rest : List Char) : Bool :=
  let kind := WordBreak.ofChar c
  if before.last == .cr && kind == .lf then false
  else if before.last.isLineEnd || kind.isLineEnd then true
  else if before.last == .zwj && isPictographic c then false
  else if before.last == .wSegSpace && kind == .wSegSpace then false
  else if kind.isTransparent then false
  else if before.near == some .regionalIndicator && kind == .regionalIndicator then
    !before.unpaired
  else !continuesWord before.far before.near kind (nextSignificant rest)

-- `segment` is the segment that is being read, `done` the finished ones, both backwards.
def segmentsFrom (before : Preceding) (segment : List Char) (done : List (List Char)) :
    List Char → List (List Char)
  | [] => (segment.reverse :: done).reverse
  | c :: rest =>
    if isBoundary before c rest then
      segmentsFrom (before.push (WordBreak.ofChar c)) [c] (segment.reverse :: done) rest
    else segmentsFrom (before.push (WordBreak.ofChar c)) (c :: segment) done rest

-- The text cut at its word boundaries
def segments : List Char → List (List Char)
  | [] => []
  | c :: rest => segmentsFrom (Preceding.first (WordBreak.ofChar c)) [c] [] rest

end Acrostic.Unicode
