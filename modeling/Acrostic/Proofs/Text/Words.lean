import Acrostic.Text.Split
import Mathlib.Data.List.Basic
import Mathlib.Data.List.TakeWhile

namespace Acrostic.Text

open Unicode (isWhiteSpace)

-- A text without white space
def IsSolid (text : List Char) : Prop :=
  ∀ c ∈ text, isWhiteSpace c = false

-- Characters without white space between them
def IsWord (word : List Char) : Prop :=
  word ≠ [] ∧ IsSolid word

-- A text of nothing but white space
def IsWhite (text : List Char) : Prop :=
  ∀ c ∈ text, isWhiteSpace c = true

instance : DecidablePred IsSolid := fun text =>
  List.decidableBAll (isWhiteSpace · = false) text

instance : DecidablePred IsWord := fun word =>
  inferInstanceAs (Decidable (word ≠ [] ∧ IsSolid word))

instance : DecidablePred IsWhite := fun text =>
  List.decidableBAll (isWhiteSpace · = true) text

theorem isWhite_nil : IsWhite [] :=
  fun _ hc => absurd hc List.not_mem_nil

section Trim

theorem trimStart_cons {c : Char} (h : isWhiteSpace c = false) (text : List Char) :
    trimStart (c :: text) = c :: text := by
  simp [trimStart, h]

theorem trimEnd_concat {c : Char} (h : isWhiteSpace c = false) (text : List Char) :
    trimEnd (text ++ [c]) = text ++ [c] := by
  simp [trimEnd, h]

-- There is nothing to trim where there is no white space.
theorem trim_of_isSolid {text : List Char} (h : IsSolid text) : trim text = text := by
  cases text with
  | nil => rfl
  | cons c rest =>
    rw [trim, trimStart_cons (h c (by simp))]
    obtain ⟨before, last, hlast⟩ := (List.eq_nil_or_concat' (c :: rest)).resolve_left (by simp)
    have hsolid : isWhiteSpace last = false := h last (by simp [hlast])
    rw [hlast, trimEnd_concat hsolid]

theorem trimStart_white {white : List Char} (h : IsWhite white) (text : List Char) :
    trimStart (white ++ text) = trimStart text :=
  List.dropWhile_append_of_pos h

theorem trimEnd_white {white : List Char} (h : IsWhite white) (text : List Char) :
    trimEnd (text ++ white) = trimEnd text := by
  rw [trimEnd, List.reverse_append, List.dropWhile_append_of_pos (by simpa [IsWhite] using h),
    trimEnd]

theorem trim_of_isWhite {white : List Char} (h : IsWhite white) : trim white = [] := by
  have hstart := trimStart_white h []
  rw [List.append_nil] at hstart
  rw [trim, hstart]
  rfl

theorem trim_eq_nil_iff {text : List Char} : trim text = [] ↔ IsWhite text := by
  constructor
  · intro h c hc
    by_contra hsolid
    have hstart : trimStart text ≠ [] := by
      intro hnil
      exact hsolid (List.dropWhile_eq_nil_iff.mp hnil c hc)
    have hend : (trimStart text).reverse.dropWhile isWhiteSpace = [] := List.reverse_eq_nil_iff.mp h
    have hhead := List.head_dropWhile_not isWhiteSpace hstart
    rw [List.dropWhile_eq_nil_iff] at hend
    have hwhite := hend ((trimStart text).head hstart) (by simp)
    exact absurd (hwhite.symm.trans hhead) (by decide)
  · exact trim_of_isWhite

-- The white space around a text goes, the text stays.
theorem trim_padded {before text after : List Char} (hbefore : IsWhite before) (hsome : text ≠ [])
    (htext : IsSolid text) (hafter : IsWhite after) : trim (before ++ text ++ after) = text := by
  obtain ⟨c, rest, rfl⟩ := List.exists_cons_of_ne_nil hsome
  have hstart : trimStart (c :: (rest ++ after)) = c :: (rest ++ after) :=
    trimStart_cons (htext c (by simp)) (rest ++ after)
  calc trim (before ++ c :: rest ++ after)
      = trimEnd (trimStart (before ++ (c :: (rest ++ after)))) := by simp [trim]
    _ = trimEnd (c :: rest ++ after) := by rw [trimStart_white hbefore, hstart, List.cons_append]
    _ = trim (c :: rest) := by
      rw [trimEnd_white hafter, trim, trimStart_cons (htext c (by simp))]
    _ = c :: rest := trim_of_isSolid htext

theorem exists_trimEnd_append (text : List Char) :
    ∃ after, IsWhite after ∧ text = trimEnd text ++ after := by
  refine ⟨(text.reverse.takeWhile isWhiteSpace).reverse,
    fun c hc => List.mem_takeWhile_imp (List.mem_reverse.mp hc), ?_⟩
  rw [trimEnd, ← List.reverse_append, List.takeWhile_append_dropWhile, List.reverse_reverse]

-- What trimming takes away is white space around what it leaves.
theorem exists_trim_append (text : List Char) :
    ∃ before after, IsWhite before ∧ IsWhite after ∧ text = before ++ trim text ++ after := by
  obtain ⟨after, hafter, hstart⟩ := exists_trimEnd_append (trimStart text)
  refine ⟨text.takeWhile isWhiteSpace, after, fun c hc => List.mem_takeWhile_imp hc, hafter, ?_⟩
  rw [List.append_assoc, trim, ← hstart, trimStart, List.takeWhile_append_dropWhile]

-- What it leaves does not begin with white space.
theorem isWhiteSpace_of_trim_eq_cons {text rest : List Char} {c : Char} (h : trim text = c :: rest) :
    isWhiteSpace c = false := by
  obtain ⟨after, -, hstart⟩ := exists_trimEnd_append (trimStart text)
  rw [← trim, h, List.cons_append] at hstart
  have hhead := List.head?_dropWhile_not isWhiteSpace text
  rw [← trimStart, hstart] at hhead
  simpa using hhead

end Trim

section Pieces

variable {separator : Char} {text piece : List Char}

-- A text has no separator, or goes on behind the first of it.
theorem separator_induction (isSeparator : Char → Bool) {P : List Char → Prop}
    (unbroken : ∀ text, (∀ c ∈ text, isSeparator c = false) → P text)
    (broken : ∀ first c rest, (∀ c ∈ first, isSeparator c = false) → isSeparator c = true →
      P rest → P (first ++ c :: rest)) (text : List Char) : P text := by
  have hsplit := List.takeWhile_append_dropWhile (p := (!isSeparator ·)) (l := text)
  have hfirst : ∀ c ∈ text.takeWhile (!isSeparator ·), isSeparator c = false := by
    intro c hc
    simpa using List.mem_takeWhile_imp hc
  cases hrest : text.dropWhile (!isSeparator ·) with
  | nil =>
    rw [hrest, List.append_nil] at hsplit
    exact hsplit ▸ unbroken _ hfirst
  | cons c rest =>
    have hc : isSeparator c = true := by
      have hhead := List.head?_dropWhile_not (!isSeparator ·) text
      simpa [hrest] using hhead
    have hshorter : rest.length < text.length := by
      have hlength := congrArg List.length hsplit
      rw [hrest, List.length_append, List.length_cons] at hlength
      omega
    rw [hrest] at hsplit
    have ih := separator_induction isSeparator unbroken broken rest
    exact hsplit ▸ broken _ c rest hfirst hc ih
termination_by text.length

-- No piece of a list has an item in it that parts the list.
theorem eq_false_of_mem_splitOnP {α : Type} {parts : α → Bool} {list piece : List α}
    (h : piece ∈ list.splitOnP parts) : ∀ a ∈ piece, parts a = false := by
  induction list generalizing piece with
  | nil =>
    rw [List.splitOnP_nil, List.mem_singleton] at h
    simp [h]
  | cons first rest ih =>
    obtain ⟨next, others, hrest⟩ := List.exists_cons_of_ne_nil (List.splitOnP_ne_nil parts rest)
    rw [List.splitOnP_cons_eq_if_modifyHead] at h
    rw [hrest] at ih h
    split_ifs at h with hfirst
    · cases h with
      | head => simp
      | tail _ hmem => exact ih hmem
    · cases h with
      | head => simpa [hfirst] using ih List.mem_cons_self
      | tail _ hmem => exact ih (List.mem_cons_of_mem _ hmem)

theorem notMem_of_mem_splitOn (h : piece ∈ text.splitOn separator) : separator ∉ piece :=
  fun hmem => by simpa using eq_false_of_mem_splitOnP h separator hmem

-- The pieces are all of a list but the items that part it.
theorem flatten_splitOnP {α : Type} (parts : α → Bool) (list : List α) :
    (list.splitOnP parts).flatten = list.filter (!parts ·) := by
  induction list with
  | nil => simp [List.splitOnP_nil]
  | cons first rest ih =>
    obtain ⟨next, others, hrest⟩ := List.exists_cons_of_ne_nil (List.splitOnP_ne_nil parts rest)
    rw [List.splitOnP_cons_eq_if_modifyHead]
    rw [hrest] at ih ⊢
    cases hfirst : parts first with
    | true => simp [hfirst, ← ih]
    | false => simp [hfirst, ← ih]

theorem flatten_splitOn (separator : Char) (text : List Char) :
    (text.splitOn separator).flatten = text.filter (· != separator) :=
  flatten_splitOnP (· == separator) text

-- What stands behind the last separator is the last piece.
theorem splitOn_concat_piece (h : separator ∉ piece) (text : List Char) :
    (text ++ separator :: piece).splitOn separator = text.splitOn separator ++ [piece] := by
  rw [List.splitOn_append_cons_self, List.splitOn_eq_singleton h]

theorem notMem_intercalate {other : Char} {pieces : List (List Char)} (hne : other ≠ separator)
    (h : ∀ piece ∈ pieces, other ∉ piece) : other ∉ [separator].intercalate pieces := by
  induction pieces with
  | nil => exact List.not_mem_nil
  | cons piece pieces ih =>
    have hpiece : other ∉ piece := h piece (by simp)
    have hpieces := ih fun more hmore => h more (List.mem_cons_of_mem _ hmore)
    cases pieces with
    | nil => rwa [List.intercalate_singleton]
    | cons =>
      rw [List.intercalate_cons_cons]
      simp only [List.mem_append, List.mem_singleton, not_or]
      exact ⟨⟨hpiece, hne⟩, hpieces⟩

end Pieces

section Words

-- A text without white space is a word, unless it is empty.
theorem words_of_isSolid {text : List Char} (h : IsSolid text) :
    words text = [text].filter (!·.isEmpty) := by
  rw [words, List.splitOnP_eq_singleton h]

-- White space parts the words in front of it from those behind it.
theorem words_append {blank : Char} (h : isWhiteSpace blank = true) (text more : List Char) :
    words (text ++ blank :: more) = words text ++ words more := by
  rw [words, List.splitOnP_append_cons text more h, List.filter_append]
  rfl

-- White space in front of a text brings no word.
theorem words_white {white : List Char} (h : IsWhite white) (text : List Char) :
    words (white ++ text) = words text := by
  induction white with
  | nil => rfl
  | cons c white ih =>
    have hc := words_append (h c (by simp)) [] (white ++ text)
    rw [List.nil_append] at hc
    rw [List.cons_append, hc, ih fun other hother => h other (List.mem_cons_of_mem _ hother)]
    rfl

-- A text has no white space, or goes on behind the first of it.
theorem words_induction {P : List Char → Prop} (solid : ∀ text, IsSolid text → P text)
    (blank : ∀ first c rest, IsSolid first → isWhiteSpace c = true → P rest →
      P (first ++ c :: rest)) (text : List Char) : P text :=
  separator_induction isWhiteSpace solid blank text

theorem mem_words {text word : List Char} (h : word ∈ words text) : IsWord word := by
  obtain ⟨hpiece, hsome⟩ := List.mem_filter.mp h
  exact ⟨by simpa using hsome, eq_false_of_mem_splitOnP hpiece⟩

-- The words are all of a text but its white space.
theorem flatten_words (text : List Char) :
    (words text).flatten = text.filter (!isWhiteSpace ·) := by
  rw [words, List.flatten_filter_not_isEmpty, flatten_splitOnP]

end Words

section Spaced

-- Words in a row. White space can stand in front of each of them and behind the last, and does
-- stand between any two.
inductive Spaced : List (List Char) → List Char → Prop where
  | white {gap : List Char} (hgap : IsWhite gap) : Spaced [] gap
  | last {gap word : List Char} (hgap : IsWhite gap) (hword : IsWord word) :
      Spaced [word] (gap ++ word)
  | next {gap word : List Char} {blank : Char} {others : List (List Char)} {text : List Char}
      (hgap : IsWhite gap) (hword : IsWord word) (hblank : isWhiteSpace blank = true)
      (h : Spaced others text) : Spaced (word :: others) (gap ++ word ++ blank :: text)

variable {list : List (List Char)} {text : List Char}

theorem words_of_isWord {word : List Char} (h : IsWord word) : words word = [word] := by
  simp [words_of_isSolid h.2, h.1]

theorem Spaced.words_eq (h : Spaced list text) : words text = list := by
  induction h with
  | @white gap hgap =>
    have hwords := words_white hgap []
    rwa [List.append_nil] at hwords
  | last hgap hword => rw [words_white hgap, words_of_isWord hword]
  | next hgap hword hblank _ ih =>
    rw [List.append_assoc, words_white hgap, words_append hblank, words_of_isWord hword, ih]
    rfl

theorem Spaced.white_append {white : List Char} (hwhite : IsWhite white) (h : Spaced list text) :
    Spaced list (white ++ text) := by
  have hmore {gap : List Char} (hgap : IsWhite gap) : IsWhite (white ++ gap) := by
    intro c hc
    exact (List.mem_append.mp hc).elim (hwhite c) (hgap c)
  cases h with
  | white hgap => exact .white (hmore hgap)
  | last hgap hword =>
    rw [← List.append_assoc]
    exact .last (hmore hgap) hword
  | next hgap hword hblank h =>
    rw [← List.append_assoc, ← List.append_assoc]
    exact .next (hmore hgap) hword hblank h

theorem spaced_words (text : List Char) : Spaced (words text) text := by
  induction text using words_induction with
  | solid text htext =>
    by_cases hsome : text = []
    · exact hsome ▸ .white isWhite_nil
    · rw [words_of_isWord ⟨hsome, htext⟩]
      exact .last isWhite_nil ⟨hsome, htext⟩
  | blank first c rest hfirst hc ih =>
    rw [words_append hc]
    by_cases hsome : first = []
    · subst hsome
      have hblank : IsWhite [c] := by simpa [IsWhite] using hc
      change Spaced (words rest) ([c] ++ rest)
      exact ih.white_append hblank
    · rw [words_of_isWord ⟨hsome, hfirst⟩]
      exact .next isWhite_nil ⟨hsome, hfirst⟩ hc ih

theorem words_eq_iff_spaced : words text = list ↔ Spaced list text :=
  ⟨fun h => h ▸ spaced_words text, Spaced.words_eq⟩

theorem words_eq_nil_iff : words text = [] ↔ IsWhite text := by
  constructor
  · intro h
    cases words_eq_iff_spaced.mp h with
    | white hgap => exact hgap
  · exact fun h => (Spaced.white h).words_eq

-- One blank is enough between two words.
theorem spaced_intercalate {blank : Char} (hblank : isWhiteSpace blank = true)
    (h : ∀ word ∈ list, IsWord word) : Spaced list ([blank].intercalate list) := by
  induction list with
  | nil => exact .white isWhite_nil
  | cons word others ih =>
    have hword : IsWord word := h word (by simp)
    have hothers := ih fun other hother => h other (List.mem_cons_of_mem _ hother)
    cases others with
    | nil =>
      rw [List.intercalate_singleton]
      exact .last isWhite_nil hword
    | cons =>
      rw [List.intercalate_cons_cons, List.append_assoc]
      exact .next isWhite_nil hword hblank hothers

end Spaced

end Acrostic.Text
