import GuestNet.Bytes

/-! The bytes that encode texts. They are those of the characters, one after the other, and bytes
are read as a text just if they are its own. -/
namespace GuestNet.Bytes

theorem ofText_ofList (s : List Char) :
    ofText (String.ofList s) = s.flatMap String.utf8EncodeChar := by
  rw [ofText, String.toByteArray_ofList, List.utf8Encode, List.data_toByteArray]

theorem ofText_eq_flatMap (s : String) : ofText s = s.toList.flatMap String.utf8EncodeChar := by
  rw [← ofText_ofList, String.ofList_toList]

theorem decode?_eq_some_iff {bs : Bytes} {s : String} : decode? bs = some s ↔ ofText s = bs := by
  constructor
  · intro h
    rw [decode?, String.fromUTF8?] at h
    split at h
    · cases h
      rfl
    · cases h
  · rintro rfl
    have hv : (⟨(ofText s).toArray⟩ : ByteArray).IsValidUTF8 := s.isValidUTF8
    rw [decode?, String.fromUTF8?, dif_pos hv]
    rfl

end GuestNet.Bytes
