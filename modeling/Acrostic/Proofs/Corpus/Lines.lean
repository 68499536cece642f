import Acrostic.Corpus.Line
import Acrostic.Corpus.Decoder
import Mathlib.Data.List.Basic

namespace Acrostic.Corpus

section Lines

variable {α β : Type} [DecidableEq α] [DecidableEq β] {feed ret : α}

-- Puts an item in front of the first line
def openWith (first : α) : List (List α) → List (List α)
  | [] => [[first]]
  | line :: lines => (first :: line) :: lines

-- The lines of a sequence, each of which ends at a feed, at a return, or at a return and the feed
-- that follows it. What ends a line belongs to no line, and starts none if nothing follows.
def linesAt (feed ret : α) : List α → List (List α)
  | [] => []
  | first :: rest =>
    if first = feed then [] :: linesAt feed ret rest
    else if first = ret then
      match rest with
      | second :: others =>
        if second = feed then [] :: linesAt feed ret others
        else [] :: linesAt feed ret (second :: others)
      | [] => [[]]
    else openWith first (linesAt feed ret rest)

-- What can stand between a line and the rest
inductive Ends (feed ret : α) : List α → List α → Prop
  | feed (rest : List α) : Ends feed ret [feed] rest
  | both (rest : List α) : Ends feed ret [ret, feed] rest
  | ret {rest : List α} (h : rest.head? ≠ some feed) : Ends feed ret [ret] rest
  | atEnd : Ends feed ret [] []

theorem linesAt_feed (rest : List α) :
    linesAt feed ret (feed :: rest) = [] :: linesAt feed ret rest := by
  rw [linesAt.eq_def]
  simp

theorem linesAt_inline {first : α} (hfeed : first ≠ feed) (hret : first ≠ ret) (rest : List α) :
    linesAt feed ret (first :: rest) = openWith first (linesAt feed ret rest) := by
  rw [linesAt.eq_def]
  simp [hfeed, hret]

theorem linesAt_ret {rest : List α} (hdistinct : feed ≠ ret) (h : rest.head? ≠ some feed) :
    linesAt feed ret (ret :: rest) = [] :: linesAt feed ret rest := by
  cases rest with
  | nil => simp [linesAt, hdistinct.symm]
  | cons second others =>
    have hsecond : second ≠ feed := by simpa using h
    rw [linesAt, if_neg hdistinct.symm, if_pos rfl, if_neg hsecond]

theorem linesAt_of_ends {ending rest : List α} (hdistinct : feed ≠ ret)
    (hends : Ends feed ret ending rest) (hsome : ending ≠ []) :
    linesAt feed ret (ending ++ rest) = [] :: linesAt feed ret rest := by
  cases hends with
  | feed => exact linesAt_feed rest
  | both => simp [linesAt, hdistinct.symm]
  | ret h => exact linesAt_ret hdistinct h
  | atEnd => contradiction

theorem linesAt_append {line ending rest : List α} (hdistinct : feed ≠ ret)
    (hline : ∀ a ∈ line, a ≠ feed ∧ a ≠ ret) (hends : Ends feed ret ending rest)
    (hsome : line ++ ending ≠ []) :
    linesAt feed ret (line ++ ending ++ rest) = line :: linesAt feed ret rest := by
  induction line with
  | nil => exact linesAt_of_ends hdistinct hends hsome
  | cons first line ih =>
    obtain ⟨hfeed, hret⟩ := hline first (by simp)
    have hinner : ∀ a ∈ line, a ≠ feed ∧ a ≠ ret := fun a ha => hline a (by simp [ha])
    rw [List.cons_append, List.cons_append, linesAt_inline hfeed hret]
    by_cases hnil : line ++ ending = []
    · -- the line is the last one and ends here
      obtain ⟨rfl, rfl⟩ := List.append_eq_nil_iff.mp hnil
      cases hends
      rfl
    · rw [ih hinner hnil]
      rfl

-- Items that are feeds and returns for one reading are so for the other.
theorem linesAt_map {feed' ret' : β} {f : α → β} (hfeed : ∀ a, f a = feed' ↔ a = feed)
    (hret : ∀ a, f a = ret' ↔ a = ret) (items : List α) :
    linesAt feed' ret' (items.map f) = (linesAt feed ret items).map (List.map f) := by
  have hdistinct (hne : ¬ ret = feed) : feed' ≠ ret' := by
    rw [← (hret ret).mpr rfl, ne_eq, eq_comm, hfeed]
    exact hne
  fun_induction linesAt feed ret items with
  | case1 => rfl
  | case2 rest ih =>
    rw [List.map_cons, (hfeed feed).mpr rfl, linesAt_feed, ih]
    rfl
  | case3 others hne ih =>
    have hends := linesAt_of_ends (hdistinct hne) (.both (others.map f)) (by simp)
    rw [List.map_cons, List.map_cons, (hret ret).mpr rfl, (hfeed feed).mpr rfl]
    exact hends.trans (by rw [ih]; rfl)
  | case4 second others hsecond hne ih =>
    rw [List.map_cons, (hret ret).mpr rfl,
      linesAt_ret (hdistinct hne) (by simpa [hfeed] using hsecond), ih]
    rfl
  | case5 hne =>
    rw [List.map_cons, (hret ret).mpr rfl, List.map_nil, linesAt_ret (hdistinct hne) (by simp)]
    rfl
  | case6 first rest hnotFeed hnotRet ih =>
    rw [List.map_cons, linesAt_inline (by rwa [ne_eq, hfeed]) (by rwa [ne_eq, hret]), ih]
    cases linesAt feed ret rest <;> rfl

end Lines

-- Nothing stands between a line and the rest only where there is no rest.
theorem Ends.eq_nil_of_nil {α : Type} {feed ret : α} {rest : List α} (h : Ends feed ret [] rest) :
    rest = [] := by
  cases h
  rfl

-- What has been read of a line ends no line.
def IsInline (piece : Piece) : Prop :=
  piece ≠ some '\n' ∧ piece ≠ some '\r'

theorem isInline_none : IsInline none :=
  ⟨by simp, by simp⟩

theorem isInline_some {c : Char} : IsInline (some c) ↔ c ≠ '\n' ∧ c ≠ '\r' := by
  simp [IsInline]

theorem toNat_ofNat {n : Nat} (h : n.isValidChar) : (Char.ofNat n).toNat = n := by
  rw [Char.ofNat, dif_pos h]
  rfl

-- A number that is no character is taken for the character 0.
theorem eq_toNat_of_ofNat_eq {n : Nat} {c : Char} (h : Char.ofNat n = c) (hc : c.toNat ≠ 0) :
    n = c.toNat := by
  by_cases hn : n.isValidChar
  · rw [← h, toNat_ofNat hn]
  · rw [Char.ofNat, dif_neg hn] at h
    rw [← h] at hc
    exact absurd rfl hc

theorem isInline_ofNat {n : Nat} (hfeed : n ≠ 10) (hret : n ≠ 13) :
    IsInline (some (Char.ofNat n)) := by
  rw [isInline_some]
  refine ⟨?_, ?_⟩
  · intro h
    exact hfeed (eq_toNat_of_ofNat_eq h (by decide))
  · intro h
    exact hret (eq_toNat_of_ofNat_eq h (by decide))

-- What stands for bytes that encode no character ends no line either.
theorem linesAt_textOf (pieces : List Piece) :
    linesAt '\n' '\r' (textOf pieces) = (linesAt (some '\n') (some '\r') pieces).map textOf := by
  refine linesAt_map (fun piece => ?_) (fun piece => ?_) pieces
  all_goals
    cases piece with
    | none => simp [replacement]
    | some c => simp

section Text

variable (text : List Char)

theorem textOf_map_some : textOf (text.map some) = text := by
  rw [textOf, List.map_map]
  exact List.map_id text

theorem isClean_map_some : isClean (text.map some) = true := by
  simp [isClean]

theorem linesAt_map_some :
    linesAt (some '\n') (some '\r') (text.map some) =
      (linesAt '\n' '\r' text).map (List.map some) :=
  linesAt_map (by simp) (by simp) text

end Text

end Acrostic.Corpus
