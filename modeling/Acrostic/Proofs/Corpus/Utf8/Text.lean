import Acrostic.Proofs.Corpus.Utf8.Ends
import Mathlib.Algebra.Group.Nat.Defs

namespace Acrostic.Corpus.Utf8

theorem pieces_cons (state : State) (byte : UInt8) (rest : List UInt8) :
    decoder.pieces state (byte :: rest) =
      (step state byte).2 ++ decoder.pieces (step state byte).1 rest :=
  rfl

section Tail

-- The bytes of a character behind its first, six bits each
def tail : Nat → Nat → List UInt8
  | 0, _ => []
  | count + 1, value => UInt8.ofNat (value / 64 ^ count % 64 + 0x80) :: tail count value

theorem toNat_sixBits (value : Nat) :
    (UInt8.ofNat (value % 64 + 0x80)).toNat = value % 64 + 0x80 := by
  have hlt := Nat.mod_lt value (show 64 > 0 by decide)
  rw [UInt8.toNat_ofNat', Nat.mod_eq_of_lt (by omega)]

-- The bits of a character up to its next byte
theorem bits_succ (value count : Nat) :
    value / 64 ^ (count + 1) * 64 + value / 64 ^ count % 64 = value / 64 ^ count := by
  rw [Nat.pow_succ, ← Nat.div_div_eq_div_mul]
  omega

-- The bytes that a character lacks complete it.
theorem pieces_tail {value lacking : Nat} {low high : UInt8} (rest : List UInt8)
    (hlow : low.toNat ≤ value / 64 ^ lacking % 64 + 0x80)
    (hhigh : value / 64 ^ lacking % 64 + 0x80 ≤ high.toNat) :
    decoder.pieces (.within (value / 64 ^ (lacking + 1)) (lacking + 1) low high)
        (tail (lacking + 1) value ++ rest) =
      some (Char.ofNat value) :: decoder.pieces .ready rest := by
  induction lacking generalizing low high with
  | zero =>
    rw [tail, List.cons_append, pieces_cons, step_of_mem (by rw [toNat_sixBits]; omega),
      toNat_sixBits, Nat.add_sub_cancel, bits_succ]
    simp [tail]
  | succ lacking ih =>
    have hmod := Nat.mod_lt (value / 64 ^ lacking) (show 64 > 0 by decide)
    rw [tail, List.cons_append, pieces_cons, step_of_mem (by rw [toNat_sixBits]; omega),
      toNat_sixBits, Nat.add_sub_cancel, bits_succ]
    exact ih (by simp) (by simp; omega)

theorem exists_next_of_isClean {bits lacking : Nat} {low high : UInt8} {bytes : List UInt8}
    (hclean : isClean (decoder.pieces (.within bits lacking low high) bytes) = true) :
    ∃ byte rest, bytes = byte :: rest ∧ low.toNat ≤ byte.toNat ∧ byte.toNat ≤ high.toNat := by
  cases bytes with
  | nil => simp [isClean, Decoder.pieces, decoder, finish] at hclean
  | cons byte rest =>
    by_cases hmem : low.toNat ≤ byte.toNat ∧ byte.toNat ≤ high.toNat
    · exact ⟨byte, rest, rfl, hmem⟩
    · rw [pieces_cons, step_of_notMem hmem] at hclean
      simp [isClean] at hclean

-- Nothing else completes it without a piece that is no character.
theorem exists_tail_of_isClean {bits lacking : Nat} {low high : UInt8} {bytes : List UInt8}
    (hlow : 0x80 ≤ low.toNat) (hhigh : high.toNat ≤ 0xBF)
    (hclean : isClean (decoder.pieces (.within bits (lacking + 1) low high) bytes) = true) :
    ∃ value rest, bytes = tail (lacking + 1) value ++ rest ∧ value / 64 ^ (lacking + 1) = bits ∧
      low.toNat ≤ value / 64 ^ lacking % 64 + 0x80 ∧
      value / 64 ^ lacking % 64 + 0x80 ≤ high.toNat := by
  induction lacking generalizing bits low high bytes with
  | zero =>
    obtain ⟨byte, rest, rfl, hmem⟩ := exists_next_of_isClean hclean
    have hbits : (bits * 64 + (byte.toNat - 0x80)) % 64 + 0x80 = byte.toNat := by omega
    refine ⟨bits * 64 + (byte.toNat - 0x80), rest, ?_, by omega, ?_⟩
    · simp only [tail, Nat.pow_zero, Nat.div_one, hbits, UInt8.ofNat_toNat]
      rfl
    · rwa [Nat.pow_zero, Nat.div_one, hbits]
  | succ lacking ih =>
    obtain ⟨byte, more, rfl, hmem⟩ := exists_next_of_isClean hclean
    rw [pieces_cons, step_of_mem hmem] at hclean
    obtain ⟨value, rest, hmore, hvalue, -⟩ := ih (by simp) (by simp) hclean
    have hbits : value / 64 ^ (lacking + 1) % 64 + 0x80 = byte.toNat := by omega
    refine ⟨value, rest, ?_, ?_, ?_⟩
    · rw [tail, hbits, UInt8.ofNat_toNat, hmore]
      rfl
    · rw [Nat.pow_succ, ← Nat.div_div_eq_div_mul, hvalue]
      omega
    · rwa [hbits]

end Tail

section Character

variable {c : Char}

theorem encodeChar_one (h : c.toNat < 0x80) :
    String.utf8EncodeChar c = [UInt8.ofNat c.toNat] := by
  have h0 : c.val.toNat ≤ 0x7F := Nat.le_of_lt_succ h
  simp only [String.utf8EncodeChar, if_pos h0]
  rfl

theorem encodeChar_two (h : 0x80 ≤ c.toNat) (h' : c.toNat < 0x800) :
    String.utf8EncodeChar c = UInt8.ofNat (c.toNat / 64 ^ 1 + 0xC0) :: tail 1 c.toNat := by
  have h0 : ¬ c.toNat ≤ 0x7F := by omega
  have h1 : c.toNat ≤ 0x7FF := by omega
  have hbits : c.toNat / 64 % 0x20 = c.toNat / 64 := by omega
  simp [String.utf8EncodeChar, h0, h1, hbits, tail]

theorem encodeChar_three (h : 0x800 ≤ c.toNat) (h' : c.toNat < 0x10000) :
    String.utf8EncodeChar c = UInt8.ofNat (c.toNat / 64 ^ 2 + 0xE0) :: tail 2 c.toNat := by
  have h0 : ¬ c.toNat ≤ 0x7F := by omega
  have h1 : ¬ c.toNat ≤ 0x7FF := by omega
  have h2 : c.toNat ≤ 0xFFFF := by omega
  have hbits : c.toNat / 4096 % 0x10 = c.toNat / 4096 := by omega
  simp [String.utf8EncodeChar, h0, h1, h2, hbits, tail]

theorem encodeChar_four (h : 0x10000 ≤ c.toNat) :
    String.utf8EncodeChar c = UInt8.ofNat (c.toNat / 64 ^ 3 + 0xF0) :: tail 3 c.toNat := by
  have h0 : ¬ c.toNat ≤ 0x7F := by omega
  have h1 : ¬ c.toNat ≤ 0x7FF := by omega
  have h2 : ¬ c.toNat ≤ 0xFFFF := by omega
  have hvalid : c.toNat.isValidChar := c.valid
  have hbits : c.toNat / 262144 % 0x08 = c.toNat / 262144 := by omega
  simp [String.utf8EncodeChar, h0, h1, h2, hbits, tail]

end Character

-- A character is a byte below 0x80, or one that opens it and those that it lacks.
theorem opens_of_char {c : Char} (h : 0x80 ≤ c.toNat) :
    ∃ byte lacking low high, String.utf8EncodeChar c = byte :: tail (lacking + 1) c.toNat ∧
      Opens byte (c.toNat / 64 ^ (lacking + 1)) (lacking + 1) low high ∧
      low.toNat ≤ c.toNat / 64 ^ lacking % 64 + 0x80 ∧
      c.toNat / 64 ^ lacking % 64 + 0x80 ≤ high.toNat := by
  have hvalid : c.toNat.isValidChar := c.valid
  by_cases htwo : c.toNat < 0x800
  · have hbyte := UInt8.toNat_ofNat_of_lt' (show c.toNat / 64 ^ 1 + 0xC0 < 2 ^ 8 by omega)
    refine ⟨_, 0, _, _, encodeChar_two h htwo, .two hbyte (by omega) (by omega), ?_, ?_⟩
    · simp
    · simp
      omega
  by_cases hthree : c.toNat < 0x10000
  · have hbyte := UInt8.toNat_ofNat_of_lt' (show c.toNat / 64 ^ 2 + 0xE0 < 2 ^ 8 by omega)
    refine ⟨_, 1, _, _, encodeChar_three (by omega) hthree, .three hbyte (by omega), ?_, ?_⟩
    · split_ifs
      · simp
        omega
      · simp
    · split_ifs <;> simp <;> omega
  · have hbyte := UInt8.toNat_ofNat_of_lt' (show c.toNat / 64 ^ 3 + 0xF0 < 2 ^ 8 by omega)
    refine ⟨_, 2, _, _, encodeChar_four (by omega), .four hbyte (by omega), ?_, ?_⟩
    · split_ifs
      · simp
        omega
      · simp
    · split_ifs <;> simp <;> omega

-- What completes a byte that opens a character makes up a character.
theorem exists_char_of_opens {byte low high : UInt8} {value lacking : Nat}
    (hopens : Opens byte (value / 64 ^ (lacking + 1)) (lacking + 1) low high)
    (hlow : low.toNat ≤ value / 64 ^ lacking % 64 + 0x80)
    (hhigh : value / 64 ^ lacking % 64 + 0x80 ≤ high.toNat) :
    ∃ c, String.utf8EncodeChar c = byte :: tail (lacking + 1) value := by
  cases hopens with
  | two hbyte h h' =>
    have hvalid : value.isValidChar := by
      simp only [Nat.isValidChar]
      omega
    have hvalue := toNat_ofNat hvalid
    have hlead := encodeChar_two (c := Char.ofNat value) (by omega) (by omega)
    rw [hvalue, ← hbyte, UInt8.ofNat_toNat] at hlead
    exact ⟨_, hlead⟩
  | three hbyte h =>
    have hfirst : value / 64 ^ 2 = 0 → 0x20 ≤ value / 64 ^ 1 % 64 := by
      intro hzero
      rw [if_pos hzero] at hlow
      change 0xA0 ≤ value / 64 ^ 1 % 64 + 0x80 at hlow
      omega
    have hsurrogate : value / 64 ^ 2 = 0xD → value / 64 ^ 1 % 64 < 0x20 := by
      intro hd
      rw [if_pos hd] at hhigh
      change value / 64 ^ 1 % 64 + 0x80 ≤ 0x9F at hhigh
      omega
    have hvalid : value.isValidChar := by
      simp only [Nat.isValidChar]
      omega
    have hvalue := toNat_ofNat hvalid
    have hlead := encodeChar_three (c := Char.ofNat value) (by omega) (by omega)
    rw [hvalue, ← hbyte, UInt8.ofNat_toNat] at hlead
    exact ⟨_, hlead⟩
  | four hbyte h =>
    have hfirst : value / 64 ^ 3 = 0 → 0x10 ≤ value / 64 ^ 2 % 64 := by
      intro hzero
      rw [if_pos hzero] at hlow
      change 0x90 ≤ value / 64 ^ 2 % 64 + 0x80 at hlow
      omega
    have hlast : value / 64 ^ 3 = 4 → value / 64 ^ 2 % 64 < 0x10 := by
      intro hfour
      rw [if_pos hfour] at hhigh
      change value / 64 ^ 2 % 64 + 0x80 ≤ 0x8F at hhigh
      omega
    have hvalid : value.isValidChar := by
      simp only [Nat.isValidChar]
      omega
    have hvalue := toNat_ofNat hvalid
    have hlead := encodeChar_four (c := Char.ofNat value) (by omega)
    rw [hvalue, ← hbyte, UInt8.ofNat_toNat] at hlead
    exact ⟨_, hlead⟩

section Text

-- A character is read whole from its bytes, whatever follows.
theorem pieces_encodeChar (c : Char) (rest : List UInt8) :
    decoder.pieces .ready (String.utf8EncodeChar c ++ rest) =
      some c :: decoder.pieces .ready rest := by
  by_cases h : c.toNat < 0x80
  · have hbyte := UInt8.toNat_ofNat_of_lt' (show c.toNat < 2 ^ 8 by omega)
    have hfirst : first (UInt8.ofNat c.toNat) = _ := first_ascii (by omega)
    rw [encodeChar_one h, List.singleton_append, pieces_cons, step, hfirst, hbyte,
      Char.ofNat_toNat]
    rfl
  · obtain ⟨byte, lacking, low, high, hbytes, hopens, hlow, hhigh⟩ :=
      opens_of_char (Nat.le_of_not_lt h)
    rw [hbytes, List.cons_append, pieces_cons, step, hopens.first_eq, List.nil_append,
      pieces_tail rest hlow hhigh, Char.ofNat_toNat]

theorem pieces_encode (text : List Char) (rest : List UInt8) :
    decoder.pieces .ready (encode text ++ rest) =
      text.map some ++ decoder.pieces .ready rest := by
  induction text with
  | nil => rfl
  | cons c text ih =>
    have hchar := pieces_encodeChar c (encode text ++ rest)
    rw [ih, ← List.append_assoc] at hchar
    exact hchar

theorem run_encode (text : List Char) : decoder.run (encode text) = text.map some := by
  have hpieces := pieces_encode text []
  rw [List.append_nil] at hpieces
  rw [Decoder.run_eq_pieces]
  simpa [Decoder.pieces, decoder, finish] using hpieces

-- Bytes that are read without loss start with a character.
theorem exists_char_of_isClean {bytes : List UInt8} (hsome : bytes ≠ [])
    (hclean : isClean (decoder.pieces .ready bytes) = true) :
    ∃ c rest, bytes = String.utf8EncodeChar c ++ rest := by
  obtain ⟨byte, rest, rfl⟩ := List.exists_cons_of_ne_nil hsome
  rw [pieces_cons, step] at hclean
  obtain ⟨hascii, hfirst⟩ | hfirst | ⟨bits, lacking, low, high, hopens⟩ := first_cases byte
  · have hvalid : byte.toNat.isValidChar := by
      simp only [Nat.isValidChar]
      omega
    have hc := toNat_ofNat hvalid
    refine ⟨Char.ofNat byte.toNat, rest, ?_⟩
    rw [encodeChar_one (by omega), hc, UInt8.ofNat_toNat]
    rfl
  · simp [hfirst, isClean] at hclean
  · rw [hopens.first_eq, List.nil_append] at hclean
    obtain ⟨count, rfl⟩ : ∃ count, lacking = count + 1 := by cases hopens <;> exact ⟨_, rfl⟩
    have hbound : high.toNat ≤ 0xBF := by
      cases hopens with
      | two => simp
      | three => split_ifs <;> simp
      | four => split_ifs <;> simp
    obtain ⟨value, more, rfl, hbits, hlow, hhigh⟩ :=
      exists_tail_of_isClean hopens.sound.1 hbound hclean
    rw [← hbits] at hopens
    obtain ⟨c, hc⟩ := exists_char_of_opens hopens hlow hhigh
    exact ⟨c, more, by rw [hc]; rfl⟩

theorem exists_text_of_isClean {bytes : List UInt8}
    (hclean : isClean (decoder.pieces .ready bytes) = true) : ∃ text, encode text = bytes := by
  by_cases hnil : bytes = []
  · exact ⟨[], hnil.symm⟩
  · obtain ⟨c, rest, hbytes⟩ := exists_char_of_isClean hnil hclean
    have hlt : rest.length < bytes.length := by
      have hpos := c.utf8Size_pos
      rw [hbytes, List.length_append, String.length_utf8EncodeChar]
      omega
    rw [hbytes, pieces_encodeChar] at hclean
    obtain ⟨text, htext⟩ := exists_text_of_isClean (by simpa [isClean] using hclean)
    exact ⟨c :: text, by rw [hbytes, ← htext]; rfl⟩
termination_by bytes.length

-- The bytes that are read without loss are those of a text.
theorem isWellFormed_iff {bytes : List UInt8} :
    isWellFormed bytes = true ↔ ∃ text, encode text = bytes := by
  constructor
  · intro hclean
    rw [isWellFormed, Decoder.run_eq_pieces] at hclean
    exact exists_text_of_isClean hclean
  · rintro ⟨text, rfl⟩
    rw [isWellFormed, run_encode]
    exact isClean_map_some text

end Text

end Acrostic.Corpus.Utf8
