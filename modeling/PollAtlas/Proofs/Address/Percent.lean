import PollAtlas.Address.Percent

/-!
# Percent-encoded texts, decoded

An encoding that does not keep the percent sign is decoded to the text it was made of, whatever
else it keeps: a percent sign in it begins the two digits of a byte, and every other character in
it was kept. Nothing but kept characters, percent signs and digits stands in it.

* `percentDecode_percentEncode`: the bytes of an encoded text, in front of any other text.
* `percentDecode?_percentEncode`: an encoded text is read back.
* `of_mem_percentEncode`, `notMem_percentEncode`: the characters of an encoded text.
-/

namespace PollAtlas.Address

/-! ## Reading back -/

theorem percentDecode_percentByte (b : UInt8) (rest : List Char) :
    percentDecode (percentByte b ++ rest) = b :: percentDecode rest := by
  have hb : b.toNat < 256 := b.toNat_lt
  have hhigh := hexDigit?_upperHexDigit (b.toNat / 16) (by omega)
  have hlow := hexDigit?_upperHexDigit (b.toNat % 16) (by omega)
  have hsum : b.toNat / 16 * 16 + b.toNat % 16 = b.toNat := by omega
  simp only [percentByte, List.cons_append, List.nil_append, percentDecode, hhigh, hlow, hsum,
    UInt8.ofNat_toNat]

theorem percentDecode_flatMap_percentByte (bytes : List UInt8) (rest : List Char) :
    percentDecode (bytes.flatMap percentByte ++ rest) = bytes ++ percentDecode rest := by
  induction bytes with
  | nil => rfl
  | cons b bytes ih =>
    rw [List.flatMap_cons, List.append_assoc, percentDecode_percentByte, ih, List.cons_append]

theorem percentDecode_cons_of_ne {c : Char} (h : c ≠ '%') (rest : List Char) :
    percentDecode (c :: rest) = utf8Bytes [c] ++ percentDecode rest := by
  rw [percentDecode]
  rintro a b tail rfl
  exact absurd rfl h

variable {keeps : Char → Bool}

theorem percentDecode_percentEncode (h : keeps '%' = false) (cs rest : List Char) :
    percentDecode (percentEncode keeps cs ++ rest) = utf8Bytes cs ++ percentDecode rest := by
  induction cs with
  | nil => rfl
  | cons c cs ih =>
    have hbytes : utf8Bytes (c :: cs) = utf8Bytes [c] ++ utf8Bytes cs := by
      simp [utf8Bytes]
    have htail : percentEncode keeps (c :: cs) =
        percentEncode keeps [c] ++ percentEncode keeps cs := by
      simp [percentEncode]
    rw [htail, hbytes, List.append_assoc, List.append_assoc, ← ih]
    by_cases hkeeps : keeps c = true
    · have hne : c ≠ '%' := by
        rintro rfl
        rw [h] at hkeeps
        cases hkeeps
      have hhead : percentEncode keeps [c] = [c] := by simp [percentEncode, hkeeps]
      rw [hhead, List.singleton_append, percentDecode_cons_of_ne hne]
    · have hhead : percentEncode keeps [c] = (utf8Bytes [c]).flatMap percentByte := by
        simp [percentEncode, hkeeps]
      rw [hhead, percentDecode_flatMap_percentByte]

/-- The bytes of a text are read as that text. -/
theorem fromUTF8?_utf8Bytes (cs : List Char) :
    String.fromUTF8? ⟨(utf8Bytes cs).toArray⟩ = some (String.ofList cs) := by
  have hbytes : (⟨(utf8Bytes cs).toArray⟩ : ByteArray) = cs.utf8Encode := by
    apply ByteArray.ext
    rw [List.utf8Encode, List.data_toByteArray, utf8Bytes]
  rw [hbytes, String.fromUTF8?, dif_pos ByteArray.isValidUTF8_utf8Encode, Option.some.injEq]
  apply String.toByteArray_inj.mp
  rw [String.toByteArray_ofList]
  rfl

/-- What is encoded is read back, if the percent sign is not kept. -/
theorem percentDecode?_percentEncode (h : keeps '%' = false) (cs : List Char) :
    percentDecode? (percentEncode keeps cs) = some (String.ofList cs) := by
  have hbytes := percentDecode_percentEncode h cs []
  rw [List.append_nil, percentDecode, List.append_nil] at hbytes
  rw [percentDecode?, hbytes, fromUTF8?_utf8Bytes]

/-! ## Characters -/

theorem isAlphanum_upperHexDigit : ∀ n < 16, (upperHexDigit n).isAlphanum = true := by
  decide +kernel

theorem of_mem_percentByte {b : UInt8} {d : Char} (h : d ∈ percentByte b) :
    d = '%' ∨ d.isAlphanum = true := by
  have hb : b.toNat < 256 := b.toNat_lt
  simp only [percentByte, List.mem_cons, List.not_mem_nil, or_false] at h
  rcases h with rfl | rfl | rfl
  · exact Or.inl rfl
  · exact Or.inr (isAlphanum_upperHexDigit _ (by omega))
  · exact Or.inr (isAlphanum_upperHexDigit _ (by omega))

theorem of_mem_percentEncode {cs : List Char} {d : Char} (h : d ∈ percentEncode keeps cs) :
    keeps d = true ∨ d = '%' ∨ d.isAlphanum = true := by
  obtain ⟨c, _, hd⟩ := List.mem_flatMap.mp h
  by_cases hkeeps : keeps c = true
  · rw [if_pos hkeeps, List.mem_singleton] at hd
    exact Or.inl (hd ▸ hkeeps)
  · rw [if_neg hkeeps] at hd
    obtain ⟨b, _, hb⟩ := List.mem_flatMap.mp hd
    exact Or.inr (of_mem_percentByte hb)

theorem notMem_percentEncode {d : Char} (hkeeps : keeps d = false) (hpercent : d ≠ '%')
    (halpha : d.isAlphanum = false) (cs : List Char) : d ∉ percentEncode keeps cs := by
  intro h
  rcases of_mem_percentEncode h with hd | hd | hd
  · rw [hkeeps] at hd
    cases hd
  · exact hpercent hd
  · rw [halpha] at hd
    cases hd

end PollAtlas.Address
