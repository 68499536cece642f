import Acrostic.Proofs.Corpus.Lines

namespace Acrostic.Corpus

namespace Decoder

-- What the decoder gives for bytes that it reads in a state, up to their end
def pieces (decoder : Decoder) : decoder.State → List UInt8 → List Piece
  | state, [] => decoder.finish state
  | state, byte :: rest =>
    (decoder.step state byte).2 ++ decoder.pieces (decoder.step state byte).1 rest

theorem feed_cons (decoder : Decoder) (reached : decoder.State × List Piece) (byte : UInt8)
    (rest : List UInt8) :
    decoder.feed reached (byte :: rest) =
      decoder.feed ((decoder.step reached.1 byte).1,
        (decoder.step reached.1 byte).2.reverse ++ reached.2) rest :=
  rfl

theorem feed_append (decoder : Decoder) (reached : decoder.State × List Piece)
    (bytes more : List UInt8) :
    decoder.feed reached (bytes ++ more) = decoder.feed (decoder.feed reached bytes) more :=
  List.foldl_append

-- The pieces that are given along the way, and those that are left at the end
theorem pieces_eq_feed (decoder : Decoder) (state : decoder.State) (read : List Piece)
    (bytes : List UInt8) :
    (decoder.feed (state, read) bytes).2.reverse ++
        decoder.finish (decoder.feed (state, read) bytes).1 =
      read.reverse ++ decoder.pieces state bytes := by
  induction bytes generalizing state read with
  | nil => rfl
  | cons byte rest ih => simp [feed_cons, ih, pieces]

theorem run_eq_pieces (decoder : Decoder) (bytes : List UInt8) :
    decoder.run bytes = decoder.pieces decoder.start bytes :=
  pieces_eq_feed decoder decoder.start [] bytes

-- A piece that has been given stays, whatever follows.
theorem mem_feed_of_mem {decoder : Decoder} {piece : Piece}
    {reached : decoder.State × List Piece} (bytes : List UInt8) (h : piece ∈ reached.2) :
    piece ∈ (decoder.feed reached bytes).2 := by
  induction bytes generalizing reached with
  | nil => exact h
  | cons byte rest ih =>
    rw [feed_cons]
    exact ih (List.mem_append_right _ h)

-- A decoder of single bytes that is back at its start behind every byte that ends a line, having
-- given what was left over and the end. `Sound` is what holds of the states that it reaches.
structure MeetsEnds (decoder : Decoder) (Sound : decoder.State → Prop) : Prop where
  start : Sound decoder.start
  finish_start : decoder.finish decoder.start = []
  finish (state : decoder.State) : ∀ piece ∈ decoder.finish state, piece = none
  feed {state : decoder.State} (h : Sound state) :
    decoder.step state lineFeed = (decoder.start, decoder.finish state ++ [some '\n'])
  ret {state : decoder.State} (h : Sound state) :
    decoder.step state carriageReturn = (decoder.start, decoder.finish state ++ [some '\r'])
  sound {state : decoder.State} {byte : UInt8} (h : Sound state) (hbyte : isLineEnd byte = false) :
    Sound (decoder.step state byte).1
  inline {state : decoder.State} {byte : UInt8} (h : Sound state)
    (hbyte : isLineEnd byte = false) : ∀ piece ∈ (decoder.step state byte).2, IsInline piece
  -- what gives nothing yet leaves something over
  pending {state : decoder.State} {byte : UInt8} (h : Sound state)
    (hbyte : isLineEnd byte = false) (hnone : (decoder.step state byte).2 = []) :
    decoder.finish (decoder.step state byte).1 ≠ []

end Decoder

theorem cutBytes_of_isLineEnd {byte : UInt8} (h : isLineEnd byte = true) (rest : List UInt8) :
    cutBytes (byte :: rest) = cutAtEnd [] (byte :: rest) := by
  simp [cutBytes, h]

-- A byte that ends a line is cut off, together with a line feed behind a carriage return.
theorem ends_cutAtEnd {byte : UInt8} (h : isLineEnd byte = true) (line rest : List UInt8) :
    Ends lineFeed carriageReturn (cutAtEnd line (byte :: rest)).terminator
      (cutAtEnd line (byte :: rest)).rest := by
  simp only [isLineEnd, Bool.or_eq_true, beq_iff_eq] at h
  unfold cutAtEnd
  dsimp only
  split_ifs with hret
  · subst hret
    cases rest with
    | nil => exact .ret (by simp)
    | cons next others =>
      dsimp only
      split_ifs with hnext
      · subst hnext
        exact .both others
      · exact .ret (by simpa using hnext)
  · rw [h.resolve_right hret]
    exact .feed rest

theorem cutAtEnd_line (line rest : List UInt8) :
    cutAtEnd line rest = { cutAtEnd [] rest with line := line } := by
  unfold cutAtEnd
  split
  · rfl
  · split
    · split
      · split <;> rfl
      · rfl
    · rfl

theorem cutBytes_cons {byte : UInt8} (h : isLineEnd byte = false) (rest : List UInt8) :
    cutBytes (byte :: rest) = { cutBytes rest with line := byte :: (cutBytes rest).line } := by
  have hline (line bytes : List UInt8) : (cutAtEnd line bytes).line = line := by rw [cutAtEnd_line]
  unfold cutBytes
  simp only [List.takeWhile_cons, List.dropWhile_cons, h, Bool.not_false, if_true, hline]
  rw [cutAtEnd_line, cutAtEnd_line (rest.takeWhile _)]

namespace Decoder.MeetsEnds

variable {decoder : Decoder} {Sound : decoder.State → Prop}

theorem isInline_of_mem_finish (h : decoder.MeetsEnds Sound) (state : decoder.State) :
    ∀ piece ∈ decoder.finish state, IsInline piece := by
  intro piece hpiece
  rw [h.finish state piece hpiece]
  exact isInline_none

theorem head?_finish_append (h : decoder.MeetsEnds Sound) {state : decoder.State}
    (hsome : decoder.finish state ≠ []) (more : List Piece) :
    (decoder.finish state ++ more).head? ≠ some (some '\n') := by
  obtain ⟨piece, rest, hpieces⟩ := List.exists_cons_of_ne_nil hsome
  have hnone : piece = none := h.finish state piece (by simp [hpieces])
  simp [hpieces, hnone]

-- What is left over comes first, so that a line feed comes first only if it is the first byte.
theorem head?_pieces (h : decoder.MeetsEnds Sound) {state : decoder.State} {bytes : List UInt8}
    (hsound : Sound state) (hfirst : decoder.finish state ≠ [] ∨ bytes.head? ≠ some lineFeed) :
    (decoder.pieces state bytes).head? ≠ some (some '\n') := by
  induction bytes generalizing state with
  | nil =>
    intro hhead
    have hnone := h.finish state _ (List.mem_of_mem_head? hhead)
    contradiction
  | cons byte rest ih =>
    by_cases hend : isLineEnd byte = true
    · simp only [isLineEnd, Bool.or_eq_true, beq_iff_eq] at hend
      cases hend with
      | inl hfeed =>
        subst hfeed
        have hsome : decoder.finish state ≠ [] := by simpa using hfirst
        simpa only [pieces, h.feed hsound, List.append_assoc] using h.head?_finish_append hsome _
      | inr hret =>
        subst hret
        simp only [pieces, h.ret hsound, List.append_assoc]
        by_cases hsome : decoder.finish state = []
        · simp [hsome]
        · exact h.head?_finish_append hsome _
    · have hbyte : isLineEnd byte = false := by simpa using hend
      simp only [pieces]
      cases hpieces : (decoder.step state byte).2 with
      | nil =>
        have hpending := h.pending hsound hbyte hpieces
        exact ih (h.sound hsound hbyte) (.inl hpending)
      | cons piece more =>
        have hinline := h.inline hsound hbyte piece (by simp [hpieces])
        simpa using hinline.1

-- No byte is passed over.
theorem pieces_ne_nil (h : decoder.MeetsEnds Sound) {state : decoder.State} {bytes : List UInt8}
    (hsound : Sound state) (hsome : decoder.finish state ≠ [] ∨ bytes ≠ []) :
    decoder.pieces state bytes ≠ [] := by
  induction bytes generalizing state with
  | nil => simpa [pieces] using hsome
  | cons byte rest ih =>
    intro hnil
    obtain ⟨hstep, hrest⟩ := List.append_eq_nil_iff.mp hnil
    by_cases hend : isLineEnd byte = true
    · simp only [isLineEnd, Bool.or_eq_true, beq_iff_eq] at hend
      cases hend with
      | inl hfeed => simp [hfeed, h.feed hsound] at hstep
      | inr hret => simp [hret, h.ret hsound] at hstep
    · have hbyte : isLineEnd byte = false := by simpa using hend
      have hpending := h.pending hsound hbyte hstep
      exact ih (h.sound hsound hbyte) (.inl hpending) hrest

-- An end of a line is read in whatever state, and what follows from the start.
theorem pieces_ends (h : decoder.MeetsEnds Sound) {state : decoder.State}
    {terminator rest : List UInt8} (hsound : Sound state)
    (hends : Ends lineFeed carriageReturn terminator rest) (hsome : terminator ≠ []) :
    ∃ ending, decoder.pieces state (terminator ++ rest) =
        decoder.finish state ++ ending ++ decoder.run rest ∧
      Ends (some '\n') (some '\r') ending (decoder.run rest) := by
  rw [run_eq_pieces]
  cases hends with
  | feed =>
    refine ⟨[some '\n'], ?_, .feed _⟩
    simp [pieces, h.feed hsound]
  | both =>
    refine ⟨[some '\r', some '\n'], ?_, .both _⟩
    simp [pieces, h.feed h.start, h.ret hsound, h.finish_start]
  | ret hfirst =>
    refine ⟨[some '\r'], ?_, .ret (h.head?_pieces h.start (.inr hfirst))⟩
    simp [pieces, h.ret hsound]
  | atEnd => contradiction

-- The bytes of a line are decoded as if they stood alone, and so is the rest.
theorem pieces_cutBytes (h : decoder.MeetsEnds Sound) {state : decoder.State} {bytes : List UInt8}
    (hsound : Sound state) :
    ∃ ending, decoder.pieces state bytes =
        decoder.pieces state (cutBytes bytes).line ++ ending ++ decoder.run (cutBytes bytes).rest ∧
      Ends (some '\n') (some '\r') ending (decoder.run (cutBytes bytes).rest) ∧
      ∀ piece ∈ decoder.pieces state (cutBytes bytes).line, IsInline piece := by
  induction bytes generalizing state with
  | nil =>
    refine ⟨[], ?_, ?_, h.isInline_of_mem_finish state⟩
    · simp [cutBytes, cutAtEnd, run_eq_pieces, pieces, h.finish_start]
    · simpa [cutBytes, cutAtEnd, run_eq_pieces, pieces, h.finish_start] using Ends.atEnd
  | cons byte rest ih =>
    by_cases hend : isLineEnd byte = true
    · have hcut := cutAtEnd_append [] (byte :: rest)
      have hends := ends_cutAtEnd hend [] rest
      have hline : (cutAtEnd [] (byte :: rest)).line = [] := by rw [cutAtEnd_line]
      have hlt := cutAtEnd_rest_lt [] (List.cons_ne_nil byte rest)
      rw [cutBytes_of_isLineEnd hend, hline]
      rw [hline, List.nil_append, List.nil_append] at hcut
      have hsome : (cutAtEnd [] (byte :: rest)).terminator ≠ [] := by
        intro hnone
        rw [hnone, List.nil_append] at hcut
        rw [hcut] at hlt
        omega
      obtain ⟨ending, hpieces, hends'⟩ := h.pieces_ends hsound hends hsome
      rw [hcut] at hpieces
      exact ⟨ending, hpieces, hends', h.isInline_of_mem_finish state⟩
    · have hbyte : isLineEnd byte = false := by simpa using hend
      obtain ⟨ending, hpieces, hends, hinline⟩ := ih (h.sound hsound hbyte)
      rw [cutBytes_cons hbyte]
      refine ⟨ending, ?_, hends, ?_⟩
      · simp only [pieces, hpieces, List.append_assoc]
      · intro piece hpiece
        simp only [pieces, List.mem_append] at hpiece
        cases hpiece with
        | inl hnow => exact h.inline hsound hbyte piece hnow
        | inr hlater => exact hinline piece hlater

theorem run_cutBytes (h : decoder.MeetsEnds Sound) (bytes : List UInt8) :
    ∃ ending, decoder.run bytes =
        decoder.run (cutBytes bytes).line ++ ending ++ decoder.run (cutBytes bytes).rest ∧
      Ends (some '\n') (some '\r') ending (decoder.run (cutBytes bytes).rest) ∧
      ∀ piece ∈ decoder.run (cutBytes bytes).line, IsInline piece := by
  rw [run_eq_pieces decoder bytes, run_eq_pieces decoder (cutBytes bytes).line]
  exact h.pieces_cutBytes h.start

theorem run_ne_nil (h : decoder.MeetsEnds Sound) {bytes : List UInt8} (hsome : bytes ≠ []) :
    decoder.run bytes ≠ [] := by
  rw [run_eq_pieces]
  exact h.pieces_ne_nil h.start (.inr hsome)

end Decoder.MeetsEnds

end Acrostic.Corpus
