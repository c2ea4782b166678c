/-
# `Proofs.Text.Percent` — percent-encoding loses nothing and hides the separators

Two facts carry everything that is later said about search strings:

* a component that was encoded decodes to itself, whatever its characters are
  (`decode_encode`);
* an encoded component holds unreserved characters and `%` only, so none of the
  characters that separate components can occur in it (`not_mem_encode`).

The first one goes through bytes: an encoded byte reads back as that byte in
front of whatever follows, hence an encoded text reads back as its UTF-8 form,
and a UTF-8 form stands for exactly one text.
-/
import AdminConsole.Text.Percent

namespace AdminConsole.Percent

/-! ## One byte -/

theorem hexValue?_hexDigit {n : Nat} (h : n < 16) : hexValue? (hexDigit n) = some n := by
  have all : ∀ m : Fin 16, hexValue? (hexDigit m) = some m.val := by decide
  exact all ⟨n, h⟩

theorem isUnreserved_hexDigit {n : Nat} (h : n < 16) : isUnreserved (hexDigit n) = true := by
  have all : ∀ m : Fin 16, isUnreserved (hexDigit m) = true := by decide
  exact all ⟨n, h⟩

theorem decodeBytes_escape (b : UInt8) (rest : List Char) :
    decodeBytes (escape b ++ rest) = b :: decodeBytes rest := by
  have hb : b.toNat < 256 := b.toNat_lt
  have high := hexValue?_hexDigit (show b.toNat / 16 < 16 by omega)
  have low := hexValue?_hexDigit (show b.toNat % 16 < 16 by omega)
  show decodeBytes ('%' :: hexDigit (b.toNat / 16) :: hexDigit (b.toNat % 16) :: rest) = _
  rw [decodeBytes]
  simp only [high, low]
  have joined : 16 * (b.toNat / 16) + b.toNat % 16 = b.toNat := by omega
  rw [joined, UInt8.ofNat_toNat]

theorem decodeBytes_cons {c : Char} (h : c ≠ '%') (rest : List Char) :
    decodeBytes (c :: rest) = String.utf8EncodeChar c ++ decodeBytes rest := by
  rw [decodeBytes]
  intro a b r hc
  exact absurd hc h

theorem utf8EncodeChar_ofUInt8 {b : UInt8} (h : b < 128) :
    String.utf8EncodeChar (Char.ofUInt8 b) = [b] := by
  have hb : b.toNat < 128 := h
  have hsize : (Char.ofUInt8 b).utf8Size = 1 := by
    rw [Char.utf8Size_eq_one_iff]
    show b.toUInt32 ≤ 127
    rw [UInt32.le_iff_toNat_le, UInt8.toNat_toUInt32]
    exact Nat.lt_succ_iff.mp hb
  rw [String.utf8EncodeChar_eq_singleton hsize]
  show [b.toUInt32.toUInt8] = [b]
  simp

theorem decodeBytes_encodeByte {keep : Char → Bool} (h : keep '%' = false) (b : UInt8)
    (rest : List Char) : decodeBytes (encodeByte keep b ++ rest) = b :: decodeBytes rest := by
  simp only [encodeByte]
  split
  next kept =>
      have hne : Char.ofUInt8 b ≠ '%' := fun he => by simp [he, h] at kept
      show decodeBytes (Char.ofUInt8 b :: rest) = _
      rw [decodeBytes_cons hne, utf8EncodeChar_ofUInt8 kept.1]
      rfl
  next => exact decodeBytes_escape b rest

/-! ## Texts -/

theorem decodeBytes_flatMap {keep : Char → Bool} (h : keep '%' = false) (bs : List UInt8) :
    decodeBytes (bs.flatMap (encodeByte keep)) = bs := by
  induction bs with
  | nil => rfl
  | cons b bs ih => rw [List.flatMap_cons, decodeBytes_encodeByte h, ih]

theorem ofUtf8?_utf8 (cs : List Char) : ofUtf8? (utf8 cs) = some (String.ofList cs) := by
  have hbytes : (⟨(utf8 cs).toArray⟩ : ByteArray) = cs.utf8Encode := by
    apply ByteArray.ext
    simp [utf8, List.utf8Encode]
  simp only [ofUtf8?]
  rw [hbytes, String.fromUTF8?, dif_pos ByteArray.isValidUTF8_utf8Encode]
  apply congrArg some
  apply String.toByteArray_inj.mp
  rw [String.toByteArray_ofList]
  rfl

theorem decode_encodeWith {keep : Char → Bool} (h : keep '%' = false) (cs : List Char) :
    decode (encodeWith keep cs) = cs := by
  simp only [decode, encodeWith]
  rw [decodeBytes_flatMap h, ofUtf8?_utf8]
  exact String.toList_ofList

/-- An encoded text decodes to itself. -/
@[simp] theorem decode_encode (s : String) : decode (encode s).toList = s.toList := by
  simp only [encode]
  rw [String.toList_ofList]
  exact decode_encodeWith rfl s.toList

/-! ## What an encoded text is made of -/

theorem mem_escape {b : UInt8} {c : Char} (h : c ∈ escape b) :
    isUnreserved c = true ∨ c = '%' := by
  have hb : b.toNat < 256 := b.toNat_lt
  simp only [escape, List.mem_cons, List.not_mem_nil, or_false] at h
  rcases h with rfl | rfl | rfl
  · exact .inr rfl
  · exact .inl (isUnreserved_hexDigit (by omega))
  · exact .inl (isUnreserved_hexDigit (by omega))

theorem mem_encode {s : String} {c : Char} (h : c ∈ (encode s).toList) :
    isUnreserved c = true ∨ c = '%' := by
  simp only [encode] at h
  rw [String.toList_ofList] at h
  obtain ⟨b, -, hb⟩ := List.mem_flatMap.mp h
  simp only [encodeByte] at hb
  split at hb
  next kept =>
      have hc : c = Char.ofUInt8 b := List.mem_singleton.mp hb
      exact .inl (hc ▸ kept.2)
  next => exact mem_escape hb

theorem not_mem_encode (c : Char) (reserved : isUnreserved c = false) (other : c ≠ '%')
    (s : String) : c ∉ (encode s).toList := by
  intro h
  rcases mem_encode h with hc | hc
  · exact Bool.noConfusion (reserved.symm.trans hc)
  · exact other hc

end AdminConsole.Percent
