import Acrostic.Proofs.Token.Words

namespace Acrostic

namespace Unicode

section Boundary

variable {before : Preceding} {c : Char}

theorem ofChar_of_isLower (h : c.isLower = true) : WordBreak.ofChar c = .aLetter :=
  forall_ascii (P := fun c => c.isLower = true → WordBreak.ofChar c = .aLetter) (by decide)
    (toNat_lt_of_isLower h) h

-- A letter ends the text in front.
structure Preceding.EndsInLetter (before : Preceding) : Prop where
  last : before.last = .aLetter
  near : before.near = some .aLetter

theorem endsInLetter_first : (Preceding.first .aLetter).EndsInLetter :=
  ⟨rfl, rfl⟩

theorem endsInLetter_push (before : Preceding) : (before.push .aLetter).EndsInLetter :=
  ⟨rfl, rfl⟩

-- No boundary stands between two letters.
theorem Preceding.EndsInLetter.isBoundary_eq (h : before.EndsInLetter) (hc : c.isLower = true)
    (rest : List Char) : isBoundary before c rest = false := by
  simp [isBoundary, h.last, h.near, ofChar_of_isLower hc, WordBreak.isLineEnd,
    WordBreak.isTransparent, continuesWord, WordBreak.isLetter]

end Boundary

section Segments

theorem segmentsFrom_letters {before : Preceding} {text : List Char} (h : before.EndsInLetter)
    (htext : ∀ c ∈ text, c.isLower = true) (segment : List Char) :
    segmentsFrom before segment [] text = [segment.reverse ++ text] := by
  induction text generalizing before segment with
  | nil => simp [segmentsFrom]
  | cons c text ih =>
    have hc : c.isLower = true := htext c (by simp)
    have hinside := h.isBoundary_eq hc text
    have hnext : (before.push (WordBreak.ofChar c)).EndsInLetter := by
      rw [ofChar_of_isLower hc]
      exact endsInLetter_push before
    rw [segmentsFrom, if_neg (by simp [hinside]), ih hnext fun d hd => htext d (by simp [hd])]
    simp

theorem segments_letters {word : List Char} (hsome : word ≠ [])
    (h : ∀ c ∈ word, c.isLower = true) : segments word = [word] := by
  obtain ⟨c, rest, rfl⟩ := List.exists_cons_of_ne_nil hsome
  have hfirst : (Preceding.first (WordBreak.ofChar c)).EndsInLetter := by
    rw [ofChar_of_isLower (h c (by simp))]
    exact endsInLetter_first
  exact segmentsFrom_letters hfirst (fun d hd => h d (by simp [hd])) [c]

end Segments

end Unicode

open Unicode

section Runs

variable {α : Type} {p q : α → Bool} {list : List α}

theorem splitOnP_congr (h : ∀ a ∈ list, p a = q a) : list.splitOnP p = list.splitOnP q := by
  induction list with
  | nil => simp [List.splitOnP_nil]
  | cons a list ih =>
    have ha : p a = q a := h a (by simp)
    have hrest := ih fun b hb => h b (by simp [hb])
    rw [List.splitOnP_cons_eq_if_modifyHead, List.splitOnP_cons_eq_if_modifyHead, ha, hrest]

-- The maximal runs of items that part nothing
def runsBetween (parts : α → Bool) (list : List α) : List (List α) :=
  (list.splitOnP parts).filter (!·.isEmpty)

theorem runsBetween_congr (h : ∀ a ∈ list, p a = q a) :
    runsBetween p list = runsBetween q list := by
  rw [runsBetween, splitOnP_congr h, runsBetween]

end Runs

section Lowercase

variable {text : List Char}

-- The maximal runs of small letters
def letterRuns (text : List Char) : List (List Char) :=
  runsBetween (!·.isLower) text

-- What spaces, tabs and line feeds leave of a text
def blankSplit (text : List Char) : List (List Char) :=
  runsBetween (decide <| IsBlank ·) text

theorem isLower_or_isBlank {c : Char} (h : Charset.lowercaseLetters.holds c = true) :
    c.isLower = true ∨ IsBlank c := by
  simp only [Charset.holds, Bool.or_eq_true, beq_iff_eq] at h
  obtain ((hlower | hspace) | htab) | hfeed := h
  · exact .inl hlower
  · exact .inr (.inl hspace)
  · exact .inr (.inr (.inl htab))
  · exact .inr (.inr (.inr hfeed))

theorem not_isLower_of_isBlank {c : Char} (h : IsBlank c) : c.isLower = false := by
  obtain rfl | rfl | rfl := h <;> rfl

-- In the alphabet of small letters, what is no letter is a blank.
theorem not_isLower_eq_isBlank {c : Char} (h : Charset.lowercaseLetters.holds c = true) :
    (!c.isLower) = decide (IsBlank c) := by
  cases isLower_or_isBlank h with
  | inl hlower =>
    have hblank : ¬ IsBlank c := fun hblank => by simp [not_isLower_of_isBlank hblank] at hlower
    simp [hlower, hblank]
  | inr hblank => simp [hblank, not_isLower_of_isBlank hblank]

theorem isWhiteSpace_eq_isBlank {c : Char} (h : Charset.lowercaseLetters.holds c = true) :
    isWhiteSpace c = decide (IsBlank c) := by
  rw [Bool.eq_iff_iff, decide_eq_true_iff]
  exact ⟨isBlank_of_holds h, isWhiteSpace_blank⟩

theorem letterRuns_eq_blankSplit (h : ∀ c ∈ text, Charset.lowercaseLetters.holds c = true) :
    letterRuns text = blankSplit text :=
  runsBetween_congr fun c hc => not_isLower_eq_isBlank (h c hc)

theorem words_eq_blankSplit (h : ∀ c ∈ text, Charset.lowercaseLetters.holds c = true) :
    Text.words text = blankSplit text :=
  runsBetween_congr fun c hc => isWhiteSpace_eq_isBlank (h c hc)

theorem mem_of_mem_words {word : List Char} {c : Char} (hword : word ∈ Text.words text)
    (hc : c ∈ word) : c ∈ text := by
  have hmem : c ∈ (Text.words text).flatten := List.mem_flatten.mpr ⟨word, hword, hc⟩
  rw [Text.flatten_words] at hmem
  exact List.mem_of_mem_filter hmem

-- The words of a text of small letters and blanks are segments as they stand.
theorem tokenize_eq_words (hspaced : IsSpaced text)
    (h : ∀ c ∈ text, Charset.lowercaseLetters.holds c = true) :
    tokenize text = Text.words text := by
  rw [tokenize_eq_flatMap_words hspaced]
  have hsegments : ∀ word ∈ Text.words text, segments word = [word] := by
    intro word hword
    obtain ⟨hsome, hsolid⟩ := Text.mem_words hword
    refine segments_letters hsome fun c hc => ?_
    have hblank : ¬ IsBlank c := fun hblank => by
      simpa [isWhiteSpace_blank hblank] using hsolid c hc
    exact (isLower_or_isBlank (h c (mem_of_mem_words hword hc))).resolve_right hblank
  rw [List.flatMap_congr hsegments, List.flatMap_singleton']

end Lowercase

end Acrostic
