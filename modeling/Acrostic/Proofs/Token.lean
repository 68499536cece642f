import Acrostic.Proofs.Text.Words
import Acrostic.Proofs.Unicode.Word.Boundary
import Acrostic.Token
import Mathlib.Data.List.TakeWhile

namespace Acrostic

open Unicode

-- The tokens that the segments of a text give
def tokensOf (pieces : List (List Char)) : List Token :=
  (pieces.map Text.trim).filter (!·.isEmpty)

theorem tokensOf_append (pieces others : List (List Char)) :
    tokensOf (pieces ++ others) = tokensOf pieces ++ tokensOf others := by
  rw [tokensOf, List.map_append, List.filter_append]
  rfl

theorem tokensOf_whiteSpace {piece : List Char} (h : ∀ c ∈ piece, isWhiteSpace c = true) :
    tokensOf [piece] = [] := by
  rw [tokensOf, List.map_singleton, Text.trim_of_isWhite h]
  rfl

-- The segments that are finished stand in front of those to come.
theorem segmentsFrom_done (before : Preceding) (segment : List Char) (done : List (List Char))
    (text : List Char) :
    segmentsFrom before segment done text =
      done.reverse ++ segmentsFrom before segment [] text := by
  induction text generalizing before segment done with
  | nil => simp [segmentsFrom]
  | cons c text ih =>
    simp only [segmentsFrom]
    split
    · rw [ih _ _ (segment.reverse :: done), ih _ _ [segment.reverse]]
      simp
    · exact ih _ _ done

-- The tokens of `text` and of the segment read so far
def tokensFrom (before : Preceding) (segment text : List Char) : List Token :=
  tokensOf (segmentsFrom before segment [] text)

section TokensFrom

variable {before other : Preceding} {segment text : List Char} {c : Char}

theorem tokenize_cons (c : Char) (text : List Char) :
    tokenize (c :: text) = tokensFrom (.first (WordBreak.ofChar c)) [c] text := rfl

theorem tokensFrom_nil (before : Preceding) (segment : List Char) :
    tokensFrom before segment [] = tokensOf [segment.reverse] := rfl

theorem tokensFrom_boundary (h : isBoundary before c text = true) :
    tokensFrom before segment (c :: text) =
      tokensOf [segment.reverse] ++ tokensFrom (before.push (WordBreak.ofChar c)) [c] text := by
  rw [tokensFrom, segmentsFrom, if_pos h, segmentsFrom_done, tokensOf_append]
  rfl

theorem tokensFrom_inside (h : isBoundary before c text = false) :
    tokensFrom before segment (c :: text) =
      tokensFrom (before.push (WordBreak.ofChar c)) (c :: segment) text := by
  rw [tokensFrom, segmentsFrom, if_neg (by simp [h])]
  rfl

theorem tokensFrom_congr (h : before.Agrees other) (segment text : List Char) :
    tokensFrom before segment text = tokensFrom other segment text := by
  induction text generalizing before other segment with
  | nil => rfl
  | cons c text ih =>
    cases hboundary : isBoundary before c text with
    | false =>
      rw [tokensFrom_inside hboundary, tokensFrom_inside (h.isBoundary_eq c text ▸ hboundary)]
      exact ih (h.push _) _
    | true =>
      rw [tokensFrom_boundary hboundary, tokensFrom_boundary (h.isBoundary_eq c text ▸ hboundary)]
      rw [ih (h.push _)]

end TokensFrom

section Blank

theorem isWhiteSpace_blank {blank : Char} (h : IsBlank blank) : isWhiteSpace blank = true := by
  obtain rfl | rfl | rfl := h <;> rfl

theorem isWhiteSpace_of_kind {c : Char} (h : c.toNat < 0x80)
    (hkind : WordBreak.ofChar c = .wSegSpace) : isWhiteSpace c = true :=
  WordBreak.eq_space_of_ascii h hkind ▸ isWhiteSpace_blank (.inl rfl)

-- Behind white space that ends in a blank the tokens of a text are those it has alone.
theorem tokensFrom_of_endsInBlank {before : Preceding} {segment text : List Char}
    (hbefore : before.EndsInBlank) (hsegment : ∀ c ∈ segment, isWhiteSpace c = true)
    (htext : ∀ c ∈ text, c.toNat < 0x80) : tokensFrom before segment text = tokenize text := by
  induction text generalizing before segment with
  | nil =>
    rw [tokensFrom_nil, tokensOf_whiteSpace (by simpa using hsegment)]
    rfl
  | cons c text ih =>
    have hplain := WordBreak.isTransparent_ascii (htext c (by simp))
    have hrest : ∀ d ∈ text, d.toNat < 0x80 := fun d hd => htext d (by simp [hd])
    cases hboundary : isBoundary before c text with
    | true =>
      rw [tokensFrom_boundary hboundary, tokensOf_whiteSpace (by simpa using hsegment),
        List.nil_append, tokenize_cons, tokensFrom_congr (hbefore.agrees hplain)]
    | false =>
      -- The space goes on with the spaces in front of it.
      rw [hbefore.isBoundary_eq hplain] at hboundary
      have hspace : c = ' ' := by
        apply WordBreak.eq_space_of_ascii (htext c (by simp))
        simp only [Bool.not_eq_eq_eq_not, Bool.not_false, Bool.and_eq_true, beq_iff_eq] at hboundary
        exact hboundary.2
      subst hspace
      have hblank : IsBlank ' ' := .inl rfl
      rw [tokensFrom_inside (by rw [hbefore.isBoundary_eq hplain, hboundary]),
        ih (endsInBlank_push hblank before)
          (by simpa [isWhiteSpace_blank hblank] using hsegment) hrest,
        tokenize_cons,
        ih (endsInBlank_first hblank) (by simpa using isWhiteSpace_blank hblank) hrest]

theorem tokensFrom_append_blank {blank : Char} (hblank : IsBlank blank) {before : Preceding}
    {segment first second : List Char} (hreturn : before.last ≠ .cr)
    (hspace : before.last = .wSegSpace → ∀ c ∈ segment, isWhiteSpace c = true)
    (hfirst : ∀ c ∈ first, c.toNat < 0x80 ∧ c ≠ '\r') (hsecond : ∀ c ∈ second, c.toNat < 0x80) :
    tokensFrom before segment (first ++ blank :: second) =
      tokensFrom before segment first ++ tokenize second := by
  induction first generalizing before segment with
  | nil =>
    rw [List.nil_append, tokensFrom_nil]
    cases hboundary : isBoundary before blank second with
    | true =>
      rw [tokensFrom_boundary hboundary, tokensFrom_of_endsInBlank (endsInBlank_push hblank before)
        (by simpa using isWhiteSpace_blank hblank) hsecond]
    | false =>
      have hlast : before.last = .wSegSpace :=
        ((isBoundary_blank hblank hreturn second).resolve_left (by simp [hboundary])).1
      have hsegment := hspace hlast
      rw [tokensFrom_inside hboundary, tokensFrom_of_endsInBlank (endsInBlank_push hblank before)
        (by simpa [isWhiteSpace_blank hblank] using hsegment) hsecond,
        tokensOf_whiteSpace (by simpa using hsegment), List.nil_append]
  | cons c first ih =>
    have hc := hfirst c (by simp)
    have hrest : ∀ d ∈ first, d.toNat < 0x80 ∧ d ≠ '\r' := fun d hd => hfirst d (by simp [hd])
    have hlast : (before.push (WordBreak.ofChar c)).last = WordBreak.ofChar c := last_push _ _
    have hnext : (before.push (WordBreak.ofChar c)).last ≠ .cr := by
      rw [hlast]
      exact fun hkind => hc.2 (WordBreak.eq_return_of_ascii hc.1 hkind)
    have hsame := isBoundary_append_blank hblank before c first second
    rw [List.cons_append]
    cases hboundary : isBoundary before c first with
    | true =>
      rw [tokensFrom_boundary hboundary, tokensFrom_boundary (hsame.trans hboundary),
        List.append_assoc, ih hnext _ hrest]
      exact fun hkind => by simpa using isWhiteSpace_of_kind hc.1 (hlast ▸ hkind)
    | false =>
      rw [tokensFrom_inside hboundary, tokensFrom_inside (hsame.trans hboundary),
        ih hnext _ hrest]
      -- A space goes on with a segment only behind another space.
      intro hkind
      obtain rfl : c = ' ' := WordBreak.eq_space_of_ascii hc.1 (hlast ▸ hkind)
      have hbefore : before.last = .wSegSpace :=
        ((isBoundary_blank (.inl rfl) hreturn first).resolve_left (by simp [hboundary])).1
      simpa [isWhiteSpace_blank (.inl rfl)] using hspace hbefore

-- A blank parts the tokens in front of it from those behind it.
theorem tokenize_append_blank {blank : Char} (hblank : IsBlank blank) {first second : List Char}
    (hfirst : ∀ c ∈ first, c.toNat < 0x80 ∧ c ≠ '\r') (hsecond : ∀ c ∈ second, c.toNat < 0x80) :
    tokenize (first ++ blank :: second) = tokenize first ++ tokenize second := by
  cases first with
  | nil =>
    rw [List.nil_append, tokenize_cons, tokensFrom_of_endsInBlank (endsInBlank_first hblank)
      (by simpa using isWhiteSpace_blank hblank) hsecond]
    rfl
  | cons c first =>
    have hc := hfirst c (by simp)
    rw [List.cons_append, tokenize_cons, tokenize_cons]
    refine tokensFrom_append_blank hblank ?_ ?_ (fun d hd => hfirst d (by simp [hd])) hsecond
    · exact fun hkind => hc.2 (WordBreak.eq_return_of_ascii hc.1 hkind)
    · exact fun hkind => by simpa using isWhiteSpace_of_kind hc.1 hkind

end Blank

end Acrostic
