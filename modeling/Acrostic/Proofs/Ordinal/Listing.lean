import Acrostic.Proofs.Ordinal.Spelling
import Acrostic.Proofs.Text.Words

namespace Acrostic.Ordinal

open Text (IsWhite integerLimit)

-- What stands between two plus signs: a position, with white space around it or not
def IsEntry (entry : List Char) (position : Int) : Prop :=
  '+' ∉ entry ∧ parse (Text.trim entry) = .ok position

-- One or more entries in a row, joined by plus signs. Behind the last one there may be further plus
-- signs with nothing but white space between them.
inductive Lists (positions : List Int) : List Char → Prop where
  | joined (entries blanks : List (List Char)) (hsome : entries ≠ [])
      (hentries : List.Forall₂ IsEntry entries positions)
      (hblanks : ∀ blank ∈ blanks, IsWhite blank) :
      Lists positions (['+'].intercalate (entries ++ blanks))

-- The keyword, or the keyword and a position from the front
inductive Selects : Nat → List Char → Prop where
  | every : Selects 1 selectionKeyword
  | counted {index : Nat} {rest : List Char} (h : parse (Text.trim rest) = .ok (index : Int)) :
      Selects (index + 1) (selectionKeyword ++ rest)

theorem notMem_plus_of_isWhite {blank : List Char} (h : IsWhite blank) : '+' ∉ blank :=
  fun hplus => absurd (h '+' hplus) (by decide)

section Entries

variable {position : Int} {entry : List Char} {positions : List Int} {entries : List (List Char)}

-- There is no position in white space.
theorem IsEntry.not_isWhite (h : IsEntry entry position) : ¬ IsWhite entry := by
  intro hwhite
  have hparse := h.2
  rw [Text.trim_of_isWhite hwhite] at hparse
  contradiction

theorem exists_isEntry_of_mem (h : List.Forall₂ IsEntry entries positions) {entry : List Char}
    (hmem : entry ∈ entries) : ∃ position, IsEntry entry position := by
  induction h with
  | nil => contradiction
  | cons hfirst _ ih =>
    cases hmem with
    | head => exact ⟨_, hfirst⟩
    | tail _ hrest => exact ih hrest

end Entries

section Lists

variable {positions : List Int} {text : List Char}

-- Empty entries go where no empty entry stands in front of them.
theorem dropEmptyTail_append {entries blanks : List (List Char)} (hsome : entries ≠ [])
    (hentries : [] ∉ entries) (hblanks : ∀ blank ∈ blanks, blank = []) :
    dropEmptyTail (entries ++ blanks) = entries := by
  obtain ⟨first, rest, rfl⟩ := List.exists_cons_of_ne_nil hsome
  have hempty : ∀ blank ∈ blanks.reverse, blank.isEmpty = true := by
    simpa using hblanks
  have hrest : rest.reverse.dropWhile List.isEmpty = rest.reverse := by
    cases hlast : rest.reverse with
    | nil => rfl
    | cons last others =>
      have hmem : last ∈ rest := List.mem_reverse.mp (by simp [hlast])
      have hne : last ≠ [] := by
        rintro rfl
        exact hentries (by simp [hmem])
      exact List.dropWhile_cons_of_neg (by simpa using hne)
  rw [List.cons_append, dropEmptyTail, List.reverse_append, List.dropWhile_append_of_pos hempty,
    hrest, List.reverse_reverse]

-- Nothing else goes.
theorem exists_dropEmptyTail_append {list : List (List Char)} (hsome : list ≠ []) :
    dropEmptyTail list ≠ [] ∧
      ∃ blanks, list = dropEmptyTail list ++ blanks ∧ ∀ blank ∈ blanks, blank = [] := by
  obtain ⟨first, rest, rfl⟩ := List.exists_cons_of_ne_nil hsome
  refine ⟨by simp [dropEmptyTail], (rest.reverse.takeWhile List.isEmpty).reverse, ?_, ?_⟩
  · rw [dropEmptyTail, List.cons_append, ← List.reverse_append, List.takeWhile_append_dropWhile,
      List.reverse_reverse]
  · intro blank hblank
    exact List.isEmpty_iff.mp (List.mem_takeWhile_imp (List.mem_reverse.mp hblank))

theorem Lists.splitOn_eq (h : Lists positions text) :
    ∃ entries blanks, text.splitOn '+' = entries ++ blanks ∧ entries ≠ [] ∧
      List.Forall₂ IsEntry entries positions ∧ ∀ blank ∈ blanks, IsWhite blank := by
  cases h with
  | joined entries blanks hsome hentries hblanks =>
    have hplus : ∀ entry ∈ entries ++ blanks, '+' ∉ entry := by
      intro entry hentry
      cases List.mem_append.mp hentry with
      | inl hmem =>
        obtain ⟨position, hposition⟩ := exists_isEntry_of_mem hentries hmem
        exact hposition.1
      | inr hmem => exact notMem_plus_of_isWhite (hblanks entry hmem)
    exact ⟨entries, blanks, List.splitOn_intercalate '+' hplus (by simp [hsome]), hsome, hentries,
      hblanks⟩

theorem Lists.parseList_eq (h : Lists positions text) : parseList text = .ok positions := by
  obtain ⟨entries, blanks, hsplit, hsome, hentries, hblanks⟩ := h.splitOn_eq
  have hfilled : [] ∉ entries.map Text.trim := by
    intro hmem
    obtain ⟨entry, hentry, hnil⟩ := List.mem_map.mp hmem
    obtain ⟨position, hposition⟩ := exists_isEntry_of_mem hentries hentry
    exact hposition.not_isWhite (Text.trim_eq_nil_iff.mp hnil)
  have hempty : ∀ blank ∈ blanks.map Text.trim, blank = [] := by
    simpa using fun blank hblank => Text.trim_of_isWhite (hblanks blank hblank)
  rw [parseList, hsplit, List.map_append,
    dropEmptyTail_append (by simpa using hsome) hfilled hempty, Attempt.mapM_eq_ok_iff,
    List.forall₂_map_left_iff]
  exact hentries.imp fun _ _ hentry => hentry.2

theorem lists_of_parseList (h : parseList text = .ok positions) : Lists positions text := by
  have hpieces : (text.splitOn '+').map Text.trim ≠ [] := by simp
  obtain ⟨hsome, blanks, hsplit, hblanks⟩ := exists_dropEmptyTail_append hpieces
  obtain ⟨entries, tail, hparts, hentries, htail⟩ := List.map_eq_append_iff.mp hsplit
  rw [parseList, ← hentries, Attempt.mapM_eq_ok_iff, List.forall₂_map_left_iff] at h
  have hplus : ∀ entry ∈ entries, '+' ∉ entry := fun entry hentry =>
    Text.notMem_of_mem_splitOn (hparts ▸ List.mem_append_left tail hentry)
  have hwhite : ∀ blank ∈ tail, IsWhite blank := fun blank hblank =>
    Text.trim_eq_nil_iff.mp (hblanks _ (htail ▸ List.mem_map_of_mem hblank))
  have hread : List.Forall₂ IsEntry entries positions := (List.forall₂_and_left _ _).mpr ⟨hplus, h⟩
  have hjoined := Lists.joined entries tail (by rintro rfl; simp [← hentries] at hsome) hread hwhite
  rwa [← hparts, List.intercalate_splitOn] at hjoined

theorem kind_of_parseList {error : Rule.Error} (h : parseList text = .error error) :
    error.kind = .validation := by
  obtain ⟨entry, -, hparse⟩ := Attempt.exists_mem_of_mapM_eq_error h
  exact kind_of_parse hparse

-- White space between two plus signs can only stand behind the last entry.
theorem Lists.isWhite_of_splitOn (h : Lists positions text) {before after : List (List Char)}
    {blank : List Char} (hsplit : text.splitOn '+' = before ++ blank :: after)
    (hblank : IsWhite blank) : ∀ entry ∈ after, IsWhite entry := by
  obtain ⟨entries, blanks, hparts, -, hentries, hblanks⟩ := h.splitOn_eq
  rw [hparts] at hsplit
  obtain ⟨more, rfl, hmore⟩ | ⟨more, rfl, hmore⟩ := List.append_eq_append_iff.mp hsplit
  · intro entry hentry
    exact hblanks entry (by simp [hmore, hentry])
  · cases more with
    | nil =>
      intro entry hentry
      rw [List.nil_append] at hmore
      exact hblanks entry (by simp [← hmore, hentry])
    | cons first rest =>
      obtain ⟨rfl, -⟩ := List.cons.inj hmore
      have hmem : blank ∈ before ++ blank :: rest := by simp
      obtain ⟨position, hposition⟩ := exists_isEntry_of_mem hentries hmem
      exact absurd hblank hposition.not_isWhite

end Lists

section Selection

variable {count : Nat} {text rest : List Char} {error : Rule.Error}

theorem parseSelection_append (hsome : rest ≠ []) :
    parseSelection (selectionKeyword ++ rest) = (do
      let index ← parse (Text.trim rest)
      if index < 0 then .error (.backwardSelection (selectionKeyword ++ rest))
      else .ok (index.toNat + 1)) := by
  have hprefix : selectionKeyword.isPrefixOf (selectionKeyword ++ rest) = true :=
    List.isPrefixOf_iff_prefix.mpr (List.prefix_append _ _)
  rw [parseSelection, if_pos hprefix, List.drop_left]
  cases rest with
  | nil => contradiction
  | cons => rfl

-- A text starts with the keyword or is refused.
theorem parseSelection_cases (text : List Char) :
    parseSelection text = .error (.notSelection text) ∨
      text = selectionKeyword ∨ ∃ rest, rest ≠ [] ∧ text = selectionKeyword ++ rest := by
  by_cases hprefix : selectionKeyword.isPrefixOf text = true
  · obtain ⟨rest, rfl⟩ := List.isPrefixOf_iff_prefix.mp hprefix
    by_cases hsome : rest = []
    · exact .inr (.inl (by rw [hsome, List.append_nil]))
    · exact .inr (.inr ⟨rest, hsome, rfl⟩)
  · exact .inl (by rw [parseSelection, if_neg hprefix])

theorem Selects.parseSelection_eq (h : Selects count text) : parseSelection text = .ok count := by
  cases h with
  | every => rfl
  | @counted index rest h =>
    have hsome : rest ≠ [] := by
      rintro rfl
      contradiction
    have hfront : ¬ (index : Int) < 0 := by omega
    rw [parseSelection_append hsome, Attempt.bind_eq_ok_iff]
    refine ⟨index, h, ?_⟩
    rw [if_neg hfront, Int.toNat_natCast]

theorem selects_of_parseSelection (h : parseSelection text = .ok count) : Selects count text := by
  obtain hrefused | rfl | ⟨rest, hsome, rfl⟩ := parseSelection_cases text
  · rw [hrefused] at h
    contradiction
  · obtain rfl : 1 = count := Except.ok.inj h
    exact .every
  · rw [parseSelection_append hsome, Attempt.bind_eq_ok_iff] at h
    obtain ⟨position, hparse, h⟩ := h
    split_ifs at h with hback
    obtain ⟨index, rfl⟩ := Int.eq_ofNat_of_zero_le (show 0 ≤ position by omega)
    obtain rfl : index + 1 = count := Except.ok.inj h
    exact .counted hparse

theorem kind_of_parseSelection (h : parseSelection text = .error error) :
    error.kind = .validation := by
  obtain hrefused | rfl | ⟨rest, hsome, rfl⟩ := parseSelection_cases text
  · rw [hrefused] at h
    obtain rfl := Except.error.inj h
    rfl
  · contradiction
  · rw [parseSelection_append hsome, Attempt.bind_eq_error_iff] at h
    obtain hparse | ⟨position, -, h⟩ := h
    · exact kind_of_parse hparse
    · split_ifs at h with hback
      obtain rfl := Except.error.inj h
      rfl

theorem Selects.pos_and_lt (h : Selects count text) : 0 < count ∧ count < integerLimit := by
  cases h with
  | every => decide
  | counted h =>
    obtain ⟨-, hhigh⟩ := inRange_of_parse h
    omega

end Selection

-- A list is read exactly if it is made of positions with plus signs between them, of which those
-- behind the last position stand alone, and a selection exactly if it is the keyword, with a
-- position from the front behind it or not. All else is refused: white space that does not end a
-- list, positions from the back in a selection, and white space alone behind its keyword.
theorem parseList_eq_ok_iff_lists :
    (∀ text positions, parseList text = .ok positions ↔ Lists positions text) ∧
      (∀ text positions, Lists positions text → positions ≠ []) ∧
      (∀ text error, parseList text = .error error → error.kind = .validation) ∧
      (∀ text before blank after, text.splitOn '+' = before ++ blank :: after → IsWhite blank →
        (∃ entry ∈ after, ¬ IsWhite entry) →
          ∃ error, parseList text = .error error ∧ error.kind = .validation) ∧
      (∀ text count, parseSelection text = .ok count ↔ Selects count text) ∧
      (∀ text count, Selects count text → 0 < count ∧ count < integerLimit) ∧
      (∀ text error, parseSelection text = .error error → error.kind = .validation) ∧
      ∀ rest, rest ≠ [] → (IsWhite rest ∨ ∃ position < 0, parse (Text.trim rest) = .ok position) →
        ∃ error, parseSelection (selectionKeyword ++ rest) = .error error ∧
          error.kind = .validation := by
  refine ⟨fun text positions => ⟨lists_of_parseList, Lists.parseList_eq⟩, ?_,
    fun text error => kind_of_parseList, ?_,
    fun text count => ⟨selects_of_parseSelection, Selects.parseSelection_eq⟩,
    fun text count => Selects.pos_and_lt, fun text error => kind_of_parseSelection, ?_⟩
  · rintro text positions hlists rfl
    obtain ⟨entries, blanks, -, hsome, hentries, -⟩ := hlists.splitOn_eq
    exact hsome (List.forall₂_nil_right_iff.mp hentries)
  · rintro text before blank after hsplit hblank ⟨entry, hentry, hsolid⟩
    cases hparse : parseList text with
    | error error => exact ⟨error, rfl, kind_of_parseList hparse⟩
    | ok positions =>
      have hwhite := (lists_of_parseList hparse).isWhite_of_splitOn hsplit hblank entry hentry
      exact absurd hwhite hsolid
  · intro rest hsome hrest
    cases hparse : parseSelection (selectionKeyword ++ rest) with
    | error error => exact ⟨error, rfl, kind_of_parseSelection hparse⟩
    | ok count =>
      exfalso
      rw [parseSelection_append hsome, Attempt.bind_eq_ok_iff] at hparse
      obtain ⟨found, hfound, hcount⟩ := hparse
      obtain hwhite | ⟨position, hback, hread⟩ := hrest
      · rw [Text.trim_of_isWhite hwhite] at hfound
        contradiction
      · obtain rfl : position = found := Except.ok.inj (hread.symm.trans hfound)
        rw [if_pos hback] at hcount
        contradiction

-- A plus sign in front is a separator, and not the sign of a number.
example : parseList "+1st".toList = .error (.missingSuffix []) := by
  decide +kernel

end Acrostic.Ordinal
