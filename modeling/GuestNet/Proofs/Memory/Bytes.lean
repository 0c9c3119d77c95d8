import GuestNet.Memory
import Mathlib.Data.List.Basic

/-! The bytes of a memory one by one. What is written into a range that lies within the memory is
there afterwards, and every other byte is as it was. -/
namespace GuestNet.Memory

/-- A range that a guest names lies within the memory. -/
def Holds (m : Memory) (r : UInt32 × UInt32) : Prop := r.1.toNat + r.2.toNat ≤ m.size

instance (m : Memory) (r : UInt32 × UInt32) : Decidable (m.Holds r) :=
  inferInstanceAs (Decidable (_ ≤ _))

def byte? (m : Memory) (i : Nat) : Option UInt8 := m.bytes[i]?

/-- The byte that is at a place when bytes are put from another place on. -/
def byteAt? (start : Nat) (bs : Bytes) (i : Nat) : Option UInt8 :=
  if start ≤ i then bs[i - start]? else none

variable {m : Memory} {ptr len : UInt32} {start : Nat} {bs : Bytes}

theorem byteAt?_eq_none {i : Nat} (hi : i < start ∨ start + bs.length ≤ i) :
    byteAt? start bs i = none := by
  rw [byteAt?]
  split
  · exact List.getElem?_eq_none (by omega)
  · rfl

/-- Where bytes are put, it does not matter what was there. -/
theorem byteAt?_or {i : Nat} (hi : i < bs.length) (before : Option UInt8) :
    (byteAt? start bs (start + i)).or before = bs[i]? := by
  rw [byteAt?, if_pos (Nat.le_add_right start i), Nat.add_sub_cancel_left,
    List.getElem?_eq_getElem hi, Option.some_or]

theorem range_of_holds (h : m.Holds (ptr, len)) :
    range m.size ptr len = .ok (ptr.toNat, ptr.toNat + len.toNat) :=
  if_pos h

theorem range_of_not_holds (h : ¬ m.Holds (ptr, len)) :
    ∃ reason, range m.size ptr len = .error (.memoryAccess reason) :=
  ⟨_, if_neg h⟩

theorem size_overwrite (h : start + bs.length ≤ m.size) : (m.overwrite start bs).size = m.size := by
  unfold size at h ⊢
  simp only [overwrite, Array.size_append, Array.size_extract, List.size_toArray]
  omega

theorem byte?_overwrite (h : start + bs.length ≤ m.size) (i : Nat) :
    (m.overwrite start bs).byte? i = (byteAt? start bs i).or (m.byte? i) := by
  unfold size at h
  have hstart : (m.bytes.extract 0 start).size = start := by
    rw [Array.size_extract]
    omega
  rw [byte?, overwrite, byteAt?, byte?, Array.append_assoc, Array.getElem?_append, hstart]
  by_cases hi : i < start
  · rw [if_pos hi, if_neg (Nat.not_le.mpr hi), Option.none_or, Array.getElem?_extract,
      if_pos (by omega), Nat.zero_add]
  · rw [if_neg hi, if_pos (Nat.not_lt.mp hi), Array.getElem?_append, List.size_toArray,
      List.getElem?_toArray]
    by_cases hb : i - start < bs.length
    · rw [if_pos hb, List.getElem?_eq_getElem hb, Option.some_or]
    · rw [if_neg hb, List.getElem?_eq_none (Nat.not_lt.mp hb), Option.none_or,
        Array.getElem?_extract]
      have hplace : start + bs.length + (i - start - bs.length) = i := by omega
      rw [hplace]
      split
      · rfl
      · rw [Array.getElem?_eq_none (by omega)]

theorem take_slice (m : Memory) (start stop n : Nat) :
    (m.slice start stop).take n = m.slice start (min (start + n) stop) := by
  simp only [slice, Array.toList_extract, List.extract_eq_take_drop, List.take_take]
  congr 1
  omega

theorem write_of_holds (h : m.Holds (ptr, len)) (hb : bs.length ≤ len.toNat) :
    m.write ptr bs = .ok (m.overwrite ptr.toNat bs) := by
  have hlt := Nat.lt_of_le_of_lt hb len.toNat_lt
  have hof : (UInt32.ofNat bs.length).toNat = bs.length := UInt32.toNat_ofNat_of_lt' hlt
  have hholds : m.Holds (ptr, .ofNat bs.length) := by
    rw [Holds, hof]
    exact Nat.le_trans (Nat.add_le_add_left hb ptr.toNat) h
  rw [write, if_neg (Nat.not_le.mpr hlt), range_of_holds hholds]
  rfl

theorem writeWord_of_holds (h : m.Holds (ptr, 4)) (value : UInt32) :
    m.writeWord ptr value = .ok (m.overwrite ptr.toNat (wordBytes value)) :=
  write_of_holds h Nat.le.refl

/-- The lowest byte comes first. -/
theorem toNat_wordBytes (w : UInt32) :
    (wordBytes w).foldr (fun b n => b.toNat + 256 * n) 0 = w.toNat := by
  have hlt := w.toNat_lt
  simp only [wordBytes, List.foldr_cons, List.foldr_nil, UInt32.toNat_toUInt8,
    UInt32.toNat_shiftRight, Nat.shiftRight_eq_div_pow]
  have h8 : (8 : UInt32).toNat % 32 = 8 := rfl
  have h16 : (16 : UInt32).toNat % 32 = 16 := rfl
  have h24 : (24 : UInt32).toNat % 32 = 24 := rfl
  rw [h8, h16, h24]
  omega

theorem length_slice {stop : Nat} (hle : start ≤ stop) (h : stop ≤ m.size) :
    (m.slice start stop).length = stop - start := by
  unfold size at h
  rw [slice, Array.length_toList, Array.size_extract]
  omega

theorem slice_eq_of_byte? (h : ∀ i < bs.length, m.byte? (start + i) = bs[i]?) :
    m.slice start (start + bs.length) = bs := by
  apply List.ext_getElem?
  intro i
  rw [slice, Array.getElem?_toList, Array.getElem?_extract]
  by_cases hi : i < bs.length
  · rw [← h i hi, byte?]
    split
    · rfl
    · rename_i hout
      rw [Array.getElem?_eq_none (by omega)]
  · rw [if_neg (by omega), List.getElem?_eq_none (Nat.not_lt.mp hi)]

theorem slice_overwrite (h : start + bs.length ≤ m.size) :
    (m.overwrite start bs).slice start (start + bs.length) = bs := by
  apply slice_eq_of_byte?
  intro i hi
  rw [byte?_overwrite h, byteAt?_or hi]

/-- The number in a slot. -/
def word (m : Memory) (ptr : UInt32) : Nat :=
  (m.slice ptr.toNat (ptr.toNat + 4)).foldr (fun b n => b.toNat + 256 * n) 0

theorem word_eq_of_byte? {w : UInt32}
    (h : ∀ i < 4, m.byte? (ptr.toNat + i) = (wordBytes w)[i]?) : m.word ptr = w.toNat := by
  have hslice : m.slice ptr.toNat (ptr.toNat + (wordBytes w).length) = wordBytes w :=
    slice_eq_of_byte? h
  calc m.word ptr = (wordBytes w).foldr (fun b n => b.toNat + 256 * n) 0 :=
        congrArg (List.foldr (fun (b : UInt8) n => b.toNat + 256 * n) 0) hslice
    _ = w.toNat := toNat_wordBytes w

end GuestNet.Memory
