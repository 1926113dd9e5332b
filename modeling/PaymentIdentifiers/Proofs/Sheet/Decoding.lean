import PaymentIdentifiers.Sheet.Reader

/-!
# Decoded files

Bytes that are the UTF-8 of a text are decoded to this text, without the mark it may begin with, and all others to one
character for each byte. Either way the text is no longer than the bytes and holds no carriage return without its byte.
-/
namespace PaymentIdentifiers.Sheet

variable {bytes : ByteArray} {t : Text}

theorem decode_utf8Encode (t : Text) : decode t.utf8Encode = dropMark t := by
  have hvalid : t.utf8Encode.IsValidUTF8 := .intro t rfl
  have hdecoded : String.fromUTF8? t.utf8Encode = some (String.ofList t) := dif_pos hvalid
  rw [decode, hdecoded]
  simp only [String.toList_ofList]

theorem decode_toUTF8 (t : Text) : decode (String.ofList t).toUTF8 = dropMark t := decode_utf8Encode t

theorem decode_of_not_isValidUTF8 (h : ¬ bytes.IsValidUTF8) : decode bytes = latin bytes := by
  have hdecoded : String.fromUTF8? bytes = none := dif_neg h
  rw [decode, hdecoded]

/-- Every byte is the number of a character. -/
theorem toNat_ofNat_byte (b : UInt8) : (Char.ofNat b.toNat).toNat = b.toNat := by
  have hvalid : b.toNat.isValidChar := .inl (Nat.lt_trans b.toNat_lt (by decide))
  rw [Char.ofNat, dif_pos hvalid]
  rfl

theorem dropMark_sublist (t : Text) : (dropMark t).Sublist t := by
  fun_cases dropMark t with
  | case1 => exact .refl _
  | case2 => exact List.sublist_cons_self _ _
  | case3 => exact .refl _

theorem data_utf8Encode (t : Text) : t.utf8Encode.data.toList = t.flatMap String.utf8EncodeChar := by
  simp [List.utf8Encode]

theorem length_le_length_flatMap_utf8EncodeChar (t : Text) :
    t.length ≤ (t.flatMap String.utf8EncodeChar).length := by
  induction t with
  | nil => exact Nat.le_refl _
  | cons c t ih =>
    have hpos := c.utf8Size_pos
    rw [List.flatMap_cons, List.length_append, String.length_utf8EncodeChar, List.length_cons]
    omega

theorem length_decode_le (bytes : ByteArray) : (decode bytes).length ≤ bytes.size := by
  change _ ≤ bytes.data.toList.length
  by_cases h : bytes.IsValidUTF8
  · obtain ⟨t, rfl⟩ := h
    rw [decode_utf8Encode, data_utf8Encode]
    exact Nat.le_trans (dropMark_sublist t).length_le (length_le_length_flatMap_utf8EncodeChar t)
  · rw [decode_of_not_isValidUTF8 h]
    exact Nat.le_of_eq (List.length_map _)

theorem return_mem_of_decode (h : '\r' ∈ decode bytes) : 13 ∈ bytes.data.toList := by
  by_cases hvalid : bytes.IsValidUTF8
  · obtain ⟨t, rfl⟩ := hvalid
    rw [decode_utf8Encode] at h
    rw [data_utf8Encode]
    exact List.mem_flatMap.2 ⟨'\r', (dropMark_sublist t).mem h, by decide⟩
  · rw [decode_of_not_isValidUTF8 hvalid, latin, List.mem_map] at h
    obtain ⟨b, hb, hreturn⟩ := h
    have hbyte : b = 13 := UInt8.toNat.inj (by rw [← toNat_ofNat_byte b, hreturn]; rfl)
    exact hbyte ▸ hb

end PaymentIdentifiers.Sheet
