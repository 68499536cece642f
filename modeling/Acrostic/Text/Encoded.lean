namespace Acrostic.Text

-- A text as it is stored
def encode (text : List Char) : ByteArray :=
  (String.ofList text).toUTF8

theorem toList_encode (text : List Char) :
    (encode text).data.toList = text.flatMap String.utf8EncodeChar := by
  simp [encode, String.toByteArray_ofList, List.utf8Encode]

theorem encode_append (text more : List Char) :
    encode (text ++ more) = encode text ++ encode more := by
  simp [encode, String.toByteArray_ofList]

-- The bytes of a text are cut in front of a text only between two of its characters.
theorem exists_of_encode_eq_append {text last : List Char} {bytes : ByteArray}
    (h : encode text = bytes ++ encode last) :
    ∃ first, text = first ++ last ∧ bytes = encode first := by
  have hbytes : (String.ofList text).toByteArray = bytes ++ encode last := h
  have hsize : (String.ofList text).rawEndPos.byteIdx = bytes.size + (encode last).size := by
    rw [String.byteIdx_rawEndPos, ← String.size_toByteArray, hbytes, ByteArray.size_append]
  -- the byte behind the cut, if there is one, is the first of a character
  have hcut : String.Pos.Raw.IsValid (String.ofList text) ⟨bytes.size⟩ := by
    rw [String.Pos.Raw.isValid_iff_isUTF8FirstByte]
    by_cases hlast : (encode last).size = 0
    · left
      ext
      rw [hsize, hlast, Nat.add_zero]
    · right
      have hlt : bytes.size < bytes.size + (encode last).size := by omega
      refine ⟨by rwa [String.Pos.Raw.lt_iff, hsize], ?_⟩
      have hfirst : (encode last)[0].IsUTF8FirstByte :=
        (String.ofList last).isValidUTF8.isUTF8FirstByte_getElem_zero (Nat.pos_of_ne_zero hlast)
      simpa only [String.getUTF8Byte, hbytes, ByteArray.getElem_append_right (Nat.le_refl _),
        Nat.sub_self] using hfirst
  obtain ⟨first, rest, hfirst, htext⟩ := hcut.exists
  obtain rfl : first ++ rest = text := String.ofList_inj.mp htext
  rw [hbytes, ByteArray.extract_append_eq_left rfl] at hfirst
  have hencoded : encode first = bytes := by
    rw [← hfirst, encode]
    exact String.toByteArray_ofList
  rw [encode_append, hencoded, ByteArray.append_right_inj] at h
  have hrest : rest = last := String.ofList_inj.mp (String.toByteArray_inj.mp h)
  exact ⟨first, by rw [hrest], hencoded.symm⟩

end Acrostic.Text
