import Acrostic.Proofs.Dictionary
import Acrostic.Proofs.Text.Lines

namespace Acrostic.Dictionary

open Text (IsWhite IsWord Spaced)

-- What a line says: a symbol and one or more stems for it
structure Row where
  symbol : List Char
  stems : List (List Char)
  isWord_symbol : IsWord symbol
  isWord_of_mem_stems : ∀ stem ∈ stems, IsWord stem
  stems_ne_nil : stems ≠ []

namespace Row

def fields (row : Row) : List (List Char) :=
  row.symbol :: arrow :: row.stems

def entry (row : Row) : Entry :=
  Entry.ofStems row.symbol row.stems

-- The plainest line of a row
def text (row : Row) : List Char :=
  ['\t'].intercalate row.fields ++ ['\n']

end Row

-- A line is blank or writes a row.
inductive WritesLine : List Row → List Char → Prop where
  | blank {line : List Char} (h : IsWhite line) : WritesLine [] line
  | row {row : Row} {line : List Char} (h : Spaced row.fields line) : WritesLine [row] line

-- Lines up to the end of the text, of which the last may be empty
inductive Writes : List Row → List Char → Prop where
  | last {rows : List Row} {line : List Char} (hfeed : '\n' ∉ line) (h : WritesLine rows line) :
      Writes rows line
  | next {rows others : List Row} {line terminator text : List Char} (hfeed : '\n' ∉ line)
      (h : WritesLine rows line) (hterminator : terminator = ['\n'] ∨ terminator = ['\r', '\n'])
      (hothers : Writes others text) : Writes (rows ++ others) (line ++ terminator ++ text)

-- The lines themselves, without what ends them
inductive WritesLines : List Row → List (List Char) → Prop where
  | nil : WritesLines [] []
  | cons {rows others : List Row} {line : List Char} {lines : List (List Char)}
      (h : WritesLine rows line) (hothers : WritesLines others lines) :
      WritesLines (rows ++ others) (line :: lines)

def IsMalformed (line : List Char) : Prop :=
  ¬ IsWhite line ∧ ∀ row : Row, ¬ Spaced row.fields line

section Row

variable (row : Row)

theorem isWord_of_mem_fields {field : List Char} (h : field ∈ row.fields) : IsWord field := by
  cases h with
  | head => exact row.isWord_symbol
  | tail _ h =>
    cases h with
    | head => decide
    | tail _ h => exact row.isWord_of_mem_stems field h

theorem entryOfFields?_fields : entryOfFields? row.fields = some row.entry := by
  obtain ⟨stem, stems, hstems⟩ := List.exists_cons_of_ne_nil row.stems_ne_nil
  rw [Row.fields, Row.entry, hstems]
  simp [entryOfFields?]

end Row

section Lines

variable {line other : List Char} {rows : List Row} {lines after : List (List Char)}
  {source : List Char}

theorem exists_fields_of_entryOfFields? {entry : Entry}
    (h : entryOfFields? (Text.words line) = some entry) :
    ∃ row : Row, Text.words line = row.fields := by
  obtain ⟨symbol, stem, stems, hwords, -⟩ := entryOfFields?_eq_some h
  have hword : ∀ field ∈ symbol :: arrow :: stem :: stems, IsWord field := fun field hfield =>
    Text.mem_words (hwords ▸ hfield)
  exact ⟨⟨symbol, stem :: stems, hword symbol (by simp), fun field hfield =>
    hword field (List.mem_cons_of_mem _ (List.mem_cons_of_mem _ hfield)), by simp⟩, hwords⟩

theorem not_isMalformed_iff : ¬ IsMalformed line ↔ ∃ rows, WritesLine rows line := by
  constructor
  · intro h
    by_cases hwhite : IsWhite line
    · exact ⟨[], .blank hwhite⟩
    · obtain ⟨row, hspaced⟩ : ∃ row : Row, Spaced row.fields line := by
        simpa [IsMalformed, hwhite] using h
      exact ⟨[row], .row hspaced⟩
  · rintro ⟨rows, hline⟩ ⟨hsolid, hrows⟩
    cases hline with
    | blank hwhite => exact hsolid hwhite
    | row hspaced => exact hrows _ hspaced

-- Only the words of a line matter.
theorem WritesLine.of_words_eq (h : WritesLine rows line)
    (hwords : Text.words other = Text.words line) : WritesLine rows other := by
  cases h with
  | blank hwhite =>
    rw [Text.words_eq_nil_iff.mpr hwhite] at hwords
    exact .blank (Text.words_eq_nil_iff.mp hwords)
  | row hspaced =>
    rw [hspaced.words_eq] at hwords
    exact .row (Text.words_eq_iff_spaced.mp hwords)

-- A line has its rows' entries, in front of those of the lines behind it.
theorem parseLines_cons (h : WritesLine rows line) (number : Nat) :
    parseLines source number (line :: after) =
      (parseLines source (number + 1) after).map (rows.map Row.entry ++ ·) := by
  cases h with
  | blank hwhite =>
    rw [parseLines, Text.words_eq_nil_iff.mpr hwhite]
    cases parseLines source (number + 1) after <;> rfl
  | @row row _ hspaced =>
    have hentry : entryOfFields? (row.symbol :: arrow :: row.stems) = some row.entry :=
      entryOfFields?_fields row
    rw [parseLines, hspaced.words_eq, Row.fields]
    simp only [hentry]
    rfl

theorem parseLines_of_isMalformed (h : IsMalformed line) (number : Nat) :
    parseLines source number (line :: after) =
      .error (.dictionary source (.malformedLine number line)) := by
  unfold parseLines
  split
  next hblank => exact absurd (Text.words_eq_nil_iff.mp hblank) h.1
  next =>
    split
    next => rfl
    next entry hentry =>
      obtain ⟨row, hfields⟩ := exists_fields_of_entryOfFields? hentry
      exact absurd (Text.words_eq_iff_spaced.mp hfields) (h.2 row)

theorem WritesLines.parseLines_append (h : WritesLines rows lines) (number : Nat) :
    parseLines source number (lines ++ after) =
      (parseLines source (number + lines.length) after).map (rows.map Row.entry ++ ·) := by
  induction h generalizing number with
  | nil =>
    rw [List.nil_append, List.length_nil, Nat.add_zero]
    cases parseLines source number after <;> rfl
  | @cons rows others line lines h _ ih =>
    have hnumber : number + 1 + lines.length = number + (line :: lines).length := by
      rw [List.length_cons]
      omega
    rw [List.cons_append, parseLines_cons h, ih, hnumber]
    cases parseLines source (number + (line :: lines).length) after <;> simp [Except.map]

theorem exists_writesLines (h : ∀ line ∈ lines, ¬ IsMalformed line) :
    ∃ rows, WritesLines rows lines := by
  induction lines with
  | nil => exact ⟨[], .nil⟩
  | cons line lines ih =>
    obtain ⟨rows, hrows⟩ := not_isMalformed_iff.mp (h line (by simp))
    obtain ⟨others, hothers⟩ := ih fun other hother => h other (List.mem_cons_of_mem _ hother)
    exact ⟨_, .cons hrows hothers⟩

end Lines

section Text

variable {rows : List Row} {text source : List Char} {dictionary : Dictionary}

theorem WritesLines.writes_last {line : List Char} (hfeed : '\n' ∉ line)
    (h : WritesLines rows (Text.lines line)) : Writes rows line := by
  by_cases hsome : line = []
  · subst hsome
    cases h with
    | nil => exact .last hfeed (.blank Text.isWhite_nil)
  · rw [Text.lines_of_notMem hsome hfeed] at h
    cases h with
    | cons hline hothers =>
      cases hothers with
      | nil =>
        rw [List.append_nil]
        exact .last hfeed hline

-- What a line loses with its end is white space.
theorem Writes.writesLines (h : Writes rows text) : WritesLines rows (Text.lines text) := by
  induction h with
  | @last rows line hfeed h =>
    by_cases hsome : line = []
    · subst hsome
      cases h with
      | blank => exact .nil
      | row hspaced => exact absurd hspaced.words_eq (List.cons_ne_nil _ _).symm
    · rw [Text.lines_of_notMem hsome hfeed, ← List.append_nil rows]
      exact .cons h .nil
  | @next rows others line terminator text hfeed h hterminator _ ih =>
    obtain rfl | rfl := hterminator
    · rw [List.append_assoc, List.singleton_append, Text.lines_append hfeed]
      exact .cons (h.of_words_eq (Text.words_dropReturn line)) ih
    · have hreturn : '\n' ∉ line ++ ['\r'] := by simpa using hfeed
      have htext : line ++ ['\r', '\n'] ++ text = (line ++ ['\r']) ++ '\n' :: text := by simp
      rw [htext, Text.lines_append hreturn, Text.dropReturn_concat]
      exact .cons h ih

theorem writes_of_writesLines (h : WritesLines rows (Text.lines text)) : Writes rows text := by
  induction text using Text.lines_induction generalizing rows with
  | last line hfeed => exact h.writes_last hfeed
  | feed line rest hfeed ih =>
    rw [Text.lines_append hfeed] at h
    cases h with
    | cons hline hothers =>
      have hnext := Writes.next hfeed
        (hline.of_words_eq (Text.words_dropReturn line).symm) (.inl rfl) (ih hothers)
      rwa [List.append_assoc, List.singleton_append] at hnext

theorem Writes.parse_eq (h : Writes rows text) :
    parse source text = .ok ⟨rows.map Row.entry⟩ := by
  have hlines : parseLines source 1 (Text.lines text ++ []) =
      (parseLines source (1 + (Text.lines text).length) []).map (rows.map Row.entry ++ ·) :=
    h.writesLines.parseLines_append 1
  rw [List.append_nil] at hlines
  rw [parse, hlines]
  simp [parseLines, Except.map]

-- A text is written, or there is a first line in it that is malformed.
theorem writes_or_isMalformed (text : List Char) :
    (∃ rows, Writes rows text) ∨
      ∃ before line after, Text.lines text = before ++ line :: after ∧
        (∀ earlier ∈ before, ¬ IsMalformed earlier) ∧ IsMalformed line := by
  classical
  cases hfind : (Text.lines text).find? (IsMalformed ·) with
  | none =>
    have hnone : ∀ line ∈ Text.lines text, ¬ IsMalformed line := by simpa using hfind
    obtain ⟨rows, hrows⟩ := exists_writesLines hnone
    exact .inl ⟨rows, writes_of_writesLines hrows⟩
  | some line =>
    obtain ⟨hline, before, after, htext, hbefore⟩ := List.find?_eq_some_iff_append.mp hfind
    exact .inr ⟨before, line, after, htext, by simpa using hbefore, by simpa using hline⟩

-- The number of a line counts the lines in front of it, the blank ones too.
theorem parse_of_isMalformed {before after : List (List Char)} {line : List Char}
    (htext : Text.lines text = before ++ line :: after)
    (hbefore : ∀ earlier ∈ before, ¬ IsMalformed earlier) (hline : IsMalformed line) :
    parse source text = .error (.dictionary source (.malformedLine (before.length + 1) line)) := by
  obtain ⟨rows, hrows⟩ := exists_writesLines hbefore
  rw [parse, htext, hrows.parseLines_append, parseLines_of_isMalformed hline, Nat.add_comm]
  rfl

theorem writes_text (rows : List Row) : Writes rows (rows.flatMap Row.text) := by
  induction rows with
  | nil => exact .last List.not_mem_nil (.blank Text.isWhite_nil)
  | cons row rows ih =>
    have hword : ∀ field ∈ row.fields, IsWord field := fun field => isWord_of_mem_fields row
    have hfeed : '\n' ∉ ['\t'].intercalate row.fields :=
      Text.notMem_intercalate (by decide) fun field hfield hmem =>
        absurd ((hword field hfield).2 _ hmem) (by decide)
    exact .next hfeed (.row (Text.spaced_intercalate (by decide) hword)) (.inl rfl) ih

end Text

-- A dictionary is read exactly from the texts that write it. Any other text breaks off at its first
-- malformed line, of which the error holds the number, with blank lines counted.
theorem parse_eq_ok_iff_writes (source : List Char) :
    (∀ text dictionary, parse source text = .ok dictionary ↔
        ∃ rows, Writes rows text ∧ dictionary = ⟨rows.map Row.entry⟩) ∧
      (∀ rows, Writes rows (rows.flatMap Row.text)) ∧
      (∀ text error, parse source text = .error error ↔
        ∃ before line after, Text.lines text = before ++ line :: after ∧
          (∀ earlier ∈ before, ¬ IsMalformed earlier) ∧ IsMalformed line ∧
          error = .dictionary source (.malformedLine (before.length + 1) line)) ∧
      ∀ number line,
        (Rule.Error.dictionary source (.malformedLine number line)).kind = .resourceLoad ∧
          ∃ rest, (Rule.DictionaryDefect.malformedLine number line).message =
            "line " ++ toString number ++ rest := by
  refine ⟨fun text dictionary => ⟨fun h => ?_, ?_⟩, writes_text,
    fun text error => ⟨fun h => ?_, ?_⟩, fun number line => ⟨rfl, ?_⟩⟩
  · obtain ⟨rows, hrows⟩ | ⟨before, line, after, htext, hbefore, hline⟩ :=
      writes_or_isMalformed text
    · exact ⟨rows, hrows, (Except.ok.inj (hrows.parse_eq.symm.trans h)).symm⟩
    · rw [parse_of_isMalformed htext hbefore hline] at h
      contradiction
  · rintro ⟨rows, hrows, rfl⟩
    exact hrows.parse_eq
  · obtain ⟨rows, hrows⟩ | ⟨before, line, after, htext, hbefore, hline⟩ :=
      writes_or_isMalformed text
    · rw [hrows.parse_eq] at h
      contradiction
    · rw [parse_of_isMalformed htext hbefore hline] at h
      exact ⟨before, line, after, htext, hbefore, hline, (Except.error.inj h).symm⟩
  · rintro ⟨before, line, after, htext, hbefore, hline, rfl⟩
    exact parse_of_isMalformed htext hbefore hline
  · simp only [Rule.DictionaryDefect.message, String.append_assoc]
    exact ⟨_, rfl⟩

-- The symbol may be the arrow itself, and a carriage return may stand before the end.
example : parse [] " <-  <- A\tb \r\n\n\t\n8 <- eight\r".toList =
    .ok ⟨[entryOfStrings "<-" ["a", "b"], entryOfStrings "8" ["eight"]]⟩ := by
  decide +kernel

end Acrostic.Dictionary
