/-!
# Proofs — Text — characters from bytes

The characters of a text, read from its bytes in one pass.  The bytes of a text in a proof are known
at once, while its list of characters is found by looking at every place from the start.
-/

namespace StorySuite.Text

/-- The characters that the bytes encode behind the first `skip` ones. -/
def decoded : Nat → List UInt8 → List Char
  | _, [] => []
  | skip + 1, _ :: rest => decoded skip rest
  | 0, b :: rest =>
    -- no character has more than four bytes
    match (ByteArray.mk ⟨b :: rest.take 3⟩).utf8DecodeChar? 0 with
    | some c => c :: decoded (c.utf8Size - 1) rest
    | none => []

theorem decoded_skip (rest : List UInt8) :
    ∀ skipped : List UInt8, decoded skipped.length (skipped ++ rest) = decoded 0 rest
  | [] => rfl
  | _ :: skipped => decoded_skip rest skipped

theorem decoded_encodeChar (c : Char) (rest : List UInt8) :
    decoded 0 (String.utf8EncodeChar c ++ rest) = c :: decoded 0 rest := by
  obtain ⟨b, bs, hbytes⟩ : ∃ b bs, String.utf8EncodeChar c = b :: bs := by
    refine List.exists_cons_of_ne_nil fun h => ?_
    have hlength := String.length_utf8EncodeChar c
    have hpos := c.utf8Size_pos
    rw [h] at hlength
    simp at hlength
    omega
  have hlength : bs.length = c.utf8Size - 1 := by
    have := String.length_utf8EncodeChar c
    rw [hbytes, List.length_cons] at this
    omega
  have hfour := c.utf8Size_le_four
  have hread : (ByteArray.mk ⟨b :: (bs ++ rest).take 3⟩).utf8DecodeChar? 0 = some c := by
    have happend : ByteArray.mk ⟨b :: (bs ++ rest).take 3⟩ =
        (String.utf8EncodeChar c).toByteArray ++ ByteArray.mk ⟨rest.take (3 - bs.length)⟩ := by
      rw [List.take_append, List.take_of_length_le (by omega), hbytes, ByteArray.ext_iff,
        ByteArray.data_append, List.data_toByteArray, ← Array.toList_inj, Array.toList_append]
      rfl
    rw [happend]
    exact ByteArray.utf8DecodeChar?_utf8EncodeChar_append
  rw [hbytes, List.cons_append, decoded, hread]
  dsimp only
  rw [← hlength, decoded_skip]

theorem decoded_encode (cs : List Char) : decoded 0 (cs.flatMap String.utf8EncodeChar) = cs := by
  induction cs with
  | nil => rfl
  | cons c cs ih => rw [List.flatMap_cons, decoded_encodeChar, ih]

/-- The characters of a text. -/
def characters (s : String) : List Char :=
  decoded 0 s.toByteArray.data.toList

@[simp] theorem characters_eq (s : String) : characters s = s.toList := by
  have hbytes : s.toByteArray.data.toList = s.toList.flatMap String.utf8EncodeChar := by
    rw [← String.utf8Encode_toList, List.utf8Encode, List.data_toByteArray]
  rw [characters, hbytes, decoded_encode]

end StorySuite.Text
