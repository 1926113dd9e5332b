import PaymentIdentifiers.Proofs.Sheet.Bytewise
import PaymentIdentifiers.Proofs.Validation.Leakage

/-!
# The ASCII content of a decoded file

The ASCII characters of a file are its bytes less than 128, whichever way it is decoded.
-/
namespace PaymentIdentifiers.Sheet

open Text

variable {bytes : ByteArray} {t : Text}

/-- The mark is no ASCII character. -/
theorem asciiPart_dropMark (t : Text) : asciiPart (dropMark t) = asciiPart t := by
  fun_cases dropMark t with
  | case1 => rfl
  | case2 t => rfl
  | case3 => rfl

theorem map_toNat_latin (bytes : ByteArray) : (latin bytes).map Char.toNat = bytes.data.toList.map UInt8.toNat := by
  rw [latin, List.map_map]
  exact List.map_congr_left fun b _ => toNat_ofNat_byte b

theorem asciiPart_decode (bytes : ByteArray) : asciiPart (decode bytes) = asciiPart (latin bytes) := by
  by_cases h : bytes.IsValidUTF8
  · obtain ⟨t, rfl⟩ := h
    rw [decode_utf8Encode, latin_utf8Encode, asciiPart_bytewise, asciiPart_dropMark]
  · rw [decode_of_not_isValidUTF8 h]

/-- The ASCII characters of a decoded file are its bytes that are less than 128. -/
theorem map_toNat_asciiPart_decode (bytes : ByteArray) :
    (asciiPart (decode bytes)).map Char.toNat = (bytes.data.toList.map UInt8.toNat).filter (· < 128) := by
  rw [asciiPart_decode, ← map_toNat_latin, asciiPart, List.filter_map]
  rfl

/-- A text in Latin-1, with the number of each character as its byte. -/
def latinBytes (t : Text) : ByteArray := ⟨(t.map fun c => UInt8.ofNat c.toNat).toArray⟩

theorem latin_latinBytes (h : ∀ c ∈ t, c.toNat < 256) : latin (latinBytes t) = t := by
  rw [latin, latinBytes, List.toList_toArray, List.map_map, List.map_congr_left, List.map_id]
  intro c hc
  have hbyte : (UInt8.ofNat c.toNat).toNat = c.toNat := UInt8.toNat_ofNat_of_lt' (h c hc)
  rw [Function.comp_apply, hbyte, Char.ofNat_toNat, id]

variable {k : Kind} {index n : Nat} {rs : List Record}

theorem getD_map_bytewise (r : Record) (index : Nat) :
    (r.map bytewise).getD index [] = bytewise (r.getD index []) := by
  rw [List.getD_eq_getElem?_getD, List.getD_eq_getElem?_getD, List.getElem?_map]
  cases r[index]? <;> rfl

/-- Identifiers in ASCII cells are read alike in the bytes of the cells. -/
theorem rowsFor_bytewise (h : ∀ r ∈ rs, (r.getD index []).IsAscii) :
    rowsFor k index n (rs.map fun r => r.map bytewise) = rowsFor k index n rs := by
  refine rowsFor_congr ?_ n
  rw [List.forall₂_map_left_iff]
  refine List.forall₂_same.2 fun r hr => ⟨by simp, .inl ?_⟩
  rw [getD_map_bytewise, bytewise_of_isAscii (h r hr)]

theorem decode_mark_cons (t : Text) : decode (byteOrderMark :: t).utf8Encode = t := by
  rw [decode_utf8Encode, dropMark, if_pos rfl]

theorem decode_of_head?_ne (h : t.head? ≠ some byteOrderMark) : decode t.utf8Encode = t := by
  rw [decode_utf8Encode]
  cases t with
  | nil => rfl
  | cons c t => rw [dropMark, if_neg fun hc => h (by rw [hc]; rfl)]

theorem not_isValidUTF8_iff : ¬ bytes.IsValidUTF8 ↔ ∀ t : Text, t.utf8Encode ≠ bytes :=
  ⟨fun h t ht => h ⟨t, ht.symm⟩, fun h ⟨t, ht⟩ => h t ht.symm⟩

/-- Every file is decoded: the UTF-8 of a text to this text without the mark it may begin with, and other bytes one by
one. Either way the ASCII characters are the bytes less than 128. Where the bytes of a text are read one by one to the
end of the table, the text has the same records with the bytes of their cells, and the rows for ASCII cells are the
same. Both readings are in the dialect of one sample: the dialects detected in the text and in its bytes can differ, as
the sample ends after a number of characters and what lies beyond it differs. A text in Latin-1 is decoded to the ASCII
characters that it has in UTF-8, and to the text itself unless its bytes happen to be UTF-8. -/
theorem decode_keeps_ascii :
    (∀ t : Text, decode (byteOrderMark :: t).utf8Encode = t) ∧
    (∀ t : Text, t.head? ≠ some byteOrderMark → decode t.utf8Encode = t) ∧
    (∀ bytes : ByteArray, (∀ t : Text, t.utf8Encode ≠ bytes) →
      (decode bytes).map Char.toNat = bytes.data.toList.map UInt8.toNat) ∧
    (∀ bytes : ByteArray,
      (asciiPart (decode bytes)).map Char.toNat = (bytes.data.toList.map UInt8.toNat).filter (· < 128)) ∧
    (∀ t sample : Text, (read (.detect sample) (latin t.utf8Encode)).fault = none →
      ∃ rs, read (.detect sample) t = ⟨rs, none⟩ ∧ read (.detect sample) (latin t.utf8Encode) =
          ⟨rs.map fun r => r.map fun cell => latin cell.utf8Encode, none⟩ ∧
        (∀ cell : Text, cell.IsAscii → latin cell.utf8Encode = cell) ∧
        ∀ (k : Kind) (index n : Nat), (∀ r ∈ rs, (r.getD index []).IsAscii) →
          rowsFor k index n (rs.map fun r => r.map fun cell => latin cell.utf8Encode) = rowsFor k index n rs) ∧
    (∀ t : Text, (∀ c ∈ t, c.toNat < 256) →
      asciiPart (decode (latinBytes t)) = asciiPart (decode t.utf8Encode) ∧
      ((∀ u : Text, u.utf8Encode ≠ latinBytes t) → decode (latinBytes t) = decode t.utf8Encode)) := by
  refine ⟨decode_mark_cons, fun t => decode_of_head?_ne, fun bytes hbytes => ?_, map_toNat_asciiPart_decode,
    fun t sample hfault => ?_, fun t ht => ?_⟩
  · rw [decode_of_not_isValidUTF8 (not_isValidUTF8_iff.2 hbytes), map_toNat_latin]
  · simp only [latin_utf8Encode] at hfault ⊢
    obtain ⟨rs, hread, hbytes⟩ := read_bytewise (Dialect.isKnown_detect sample).isAscii hfault
    exact ⟨rs, hread, hbytes, fun cell => bytewise_of_isAscii, fun k index n => rowsFor_bytewise⟩
  · have hmark : t.head? ≠ some byteOrderMark := by
      intro hhead
      exact absurd (ht _ (List.mem_of_head? hhead)) (by decide)
    rw [asciiPart_decode, latin_latinBytes ht, decode_of_head?_ne hmark]
    exact ⟨rfl, fun hbytes => by rw [decode_of_not_isValidUTF8 (not_isValidUTF8_iff.2 hbytes), latin_latinBytes ht]⟩

/-- A table with a town whose name is not ASCII, in UTF-8, byte by byte and in Latin-1. -/
theorem decode_keeps_ascii_town :
    let t : Text := "Ort;BIC\nK\u00f6ln;PSSTDEDD\n"
    let records (town : Text) : List Record := [["Ort", "BIC"], [town, "PSSTDEDD"]]
    t.head? ≠ some byteOrderMark ∧ decode t.utf8Encode = t ∧ (∀ u : Text, u.utf8Encode ≠ latinBytes t) ∧
      (decode (latinBytes t)).map Char.toNat = (latinBytes t).data.toList.map UInt8.toNat ∧
      (read (.detect t) (latin t.utf8Encode)).fault = none ∧
      read (.detect t) t = ⟨records "K\u00f6ln", none⟩ ∧
      read (.detect t) (latin t.utf8Encode) = ⟨records "K\u00c3\u00b6ln", none⟩ ∧
      (∀ r ∈ records "K\u00f6ln", (r.getD 1 []).IsAscii) ∧
      rowsFor .bic 1 2 (records "K\u00c3\u00b6ln") = rowsFor .bic 1 2 (records "K\u00f6ln") ∧
      (∀ c ∈ t, c.toNat < 256) ∧ decode (latinBytes t) = decode t.utf8Encode := by
  intro t records
  obtain ⟨-, hplain, hother, -, hreads, hlatin⟩ := decode_keeps_ascii
  have hmark : t.head? ≠ some byteOrderMark := by decide +kernel
  have hbytes : ∀ u : Text, u.utf8Encode ≠ latinBytes t := not_isValidUTF8_iff.1 (by decide +kernel)
  have hcodes : ∀ c ∈ t, c.toNat < 256 := by
    have hall : (t.all fun c => decide (c.toNat < 256)) = true := by decide +kernel
    simpa only [List.all_eq_true, decide_eq_true_eq] using hall
  have hread : read (.detect t) t = ⟨records "K\u00f6ln", none⟩ := by decide +kernel
  have hbytewise : read (.detect t) (latin t.utf8Encode) = ⟨records "K\u00c3\u00b6ln", none⟩ := by
    rw [latin_utf8Encode]
    decide +kernel
  have hfault : (read (.detect t) (latin t.utf8Encode)).fault = none := by rw [hbytewise]
  have hascii : ∀ r ∈ records "K\u00f6ln", (r.getD 1 []).IsAscii := by decide +kernel
  obtain ⟨rs, hrs, hlatinRecords, -, hrows⟩ := hreads t t hfault
  obtain rfl : records "K\u00f6ln" = rs := congrArg Reading.records (hread.symm.trans hrs)
  have hsame : rowsFor .bic 1 2 (records "K\u00c3\u00b6ln") = rowsFor .bic 1 2 (records "K\u00f6ln") := by
    rw [← hrows .bic 1 2 hascii]
    exact congrArg (rowsFor .bic 1 2) (congrArg Reading.records (hbytewise.symm.trans hlatinRecords))
  exact ⟨hmark, hplain t hmark, hbytes, hother _ hbytes, hfault, hread, hbytewise, hascii, hsame, hcodes,
    (hlatin t hcodes).2 hbytes⟩

end PaymentIdentifiers.Sheet
