import Mathlib.Data.Nat.Digits.Defs
import GuestNet.Proofs.Memory.Bytes
import GuestNet.Proofs.Text.Encoding

/-! A memory in use. However its ranges are read and written one after the other, it is an array of
bytes: every place has the byte that was last written to it, or else the one that it had at first,
and a call reaches its range just if this lies within the memory. -/
namespace GuestNet.Memory

inductive Access where
  | read (ptr len : UInt32)
  | readText (ptr len : UInt32)
  | write (ptr : UInt32) (bytes : Bytes)
  | writeWord (ptr value : UInt32)

inductive Outcome where
  | failed (error : DriverError)
  | bytes (bytes : Bytes)
  | text (text : String)
  | written

namespace Access

def ptr : Access → UInt32
  | .read ptr _ | .readText ptr _ | .write ptr _ | .writeWord ptr _ => ptr

def length : Access → Nat
  | .read _ len | .readText _ len => len.toNat
  | .write _ bytes => bytes.length
  | .writeWord _ _ => 4

/-- What a call puts into its range. -/
def payload? : Access → Option Bytes
  | .read _ _ | .readText _ _ => none
  | .write _ bytes => some bytes
  | .writeWord _ value => some (wordBytes value)

/-- The range lies within so many bytes. Its length has to be a word, while its end is a number and
does not wrap around. -/
def Fits (a : Access) (size : Nat) : Prop :=
  a.length < UInt32.size ∧ a.ptr.toNat + a.length ≤ size

instance (a : Access) (size : Nat) : Decidable (a.Fits size) :=
  inferInstanceAs (Decidable (_ ∧ _))

end Access

def answered (m : Memory) {γ : Type} (found : γ → Outcome × Memory) :
    Except DriverError γ → Outcome × Memory
  | .error e => (.failed e, m)
  | .ok r => found r

def serve (m : Memory) : Access → Outcome × Memory
  | .read ptr len => m.answered (fun bs => (.bytes bs, m)) (m.read ptr len)
  | .readText ptr len => m.answered (fun s => (.text s, m)) (m.readText ptr len)
  | .write ptr bs => m.answered (fun m' => (.written, m')) (m.write ptr bs)
  | .writeWord ptr w => m.answered (fun m' => (.written, m')) (m.writeWord ptr w)

/-- Makes calls in their order, and keeps each with its outcome. -/
def run : List Access → Memory → List (Access × Outcome) × Memory
  | [], m => ([], m)
  | a :: rest, m =>
    let (outcome, m) := m.serve a
    let (log, m) := run rest m
    ((a, outcome) :: log, m)

/-- The byte that a call has written to a place, if it succeeded and its range has the place. -/
def written? (entry : Access × Outcome) (i : Nat) : Option UInt8 :=
  match entry with
  | (a, .written) => a.payload?.bind fun bs => byteAt? a.ptr.toNat bs i
  | _ => none

/-- The byte that the last call to do so has written to a place. -/
def lastWritten? (log : List (Access × Outcome)) (i : Nat) : Option UInt8 :=
  log.reverse.findSome? (written? · i)

/-- No call has written to any of so many places. -/
def Untouched (log : List (Access × Outcome)) (start length : Nat) : Prop :=
  ∀ k < length, lastWritten? log (start + k) = none

/-- These bytes are in the memory from a place on. -/
def Shows (m : Memory) (start : Nat) (bs : Bytes) : Prop :=
  ∀ k < bs.length, m.byte? (start + k) = bs[k]?

/-- How a memory has to serve a call. -/
inductive Serves (m : Memory) : Access → Outcome → Memory → Prop where
  | outside {a : Access} {reason : String} : ¬ a.Fits m.size →
      Serves m a (.failed (.memoryAccess reason)) m
  | bytes {ptr len : UInt32} {bs : Bytes} : (Access.read ptr len).Fits m.size →
      bs.length = len.toNat → m.Shows ptr.toNat bs → Serves m (.read ptr len) (.bytes bs) m
  | text {ptr len : UInt32} {s : String} : (Access.readText ptr len).Fits m.size →
      (Bytes.ofText s).length = len.toNat → m.Shows ptr.toNat (Bytes.ofText s) →
        Serves m (.readText ptr len) (.text s) m
  | noText {ptr len : UInt32} : (Access.readText ptr len).Fits m.size →
      (∀ s : String, (Bytes.ofText s).length = len.toNat →
        ¬ m.Shows ptr.toNat (Bytes.ofText s)) →
          Serves m (.readText ptr len) (.failed (.badParams "string is not valid UTF-8")) m
  | written {a : Access} {bs : Bytes} {m' : Memory} : a.payload? = some bs → a.Fits m.size →
      m'.size = m.size → (∀ i, m'.byte? i = (byteAt? a.ptr.toNat bs i).or (m.byte? i)) →
        Serves m a .written m'

variable {m : Memory} {ptr len : UInt32} {a : Access} {bs : Bytes} {start : Nat}

theorem shows_slice {stop : Nat} (hle : start ≤ stop) (h : stop ≤ m.size) :
    m.Shows start (m.slice start stop) := by
  intro k hk
  rw [length_slice hle h] at hk
  rw [slice, Array.getElem?_toList, Array.getElem?_extract, byte?]
  unfold size at h
  rw [if_pos (by omega)]

theorem read_of_shows (h : m.Holds (ptr, len)) (hlen : bs.length = len.toNat)
    (hs : m.Shows ptr.toNat bs) : m.read ptr len = .ok bs := by
  have hslice : m.slice ptr.toNat (ptr.toNat + len.toNat) = bs := hlen ▸ slice_eq_of_byte? hs
  rw [read, range_of_holds h, ← hslice]
  rfl

theorem exists_read_of_holds (h : m.Holds (ptr, len)) :
    ∃ bs, m.read ptr len = .ok bs ∧ bs.length = len.toNat ∧ m.Shows ptr.toNat bs := by
  have hlen := length_slice (Nat.le_add_right ptr.toNat len.toNat) h
  have hs := shows_slice (Nat.le_add_right ptr.toNat len.toNat) h
  rw [Nat.add_sub_cancel_left] at hlen
  exact ⟨_, read_of_shows h hlen hs, hlen, hs⟩

theorem read_of_not_holds (h : ¬ m.Holds (ptr, len)) :
    ∃ reason, m.read ptr len = .error (.memoryAccess reason) := by
  obtain ⟨reason, hr⟩ := range_of_not_holds h
  refine ⟨reason, ?_⟩
  rw [read, hr]
  rfl

theorem readText_eq_ok_iff {s : String} (hread : m.read ptr len = .ok bs) :
    m.readText ptr len = .ok s ↔ Bytes.ofText s = bs := by
  rw [readText, hread, ← Bytes.decode?_eq_some_iff]
  cases hd : bs.decode? with
  | none | some => simp [hd]

theorem readText_of_no_text (hread : m.read ptr len = .ok bs) (hn : ∀ s, Bytes.ofText s ≠ bs) :
    m.readText ptr len = .error (.badParams "string is not valid UTF-8") := by
  have hd : bs.decode? = none :=
    Option.eq_none_iff_forall_ne_some.mpr fun s hs => hn s (Bytes.decode?_eq_some_iff.mp hs)
  rw [readText, hread]
  simp only [hd]

theorem readText_of_error {e : DriverError} (hread : m.read ptr len = .error e) :
    m.readText ptr len = .error e := by
  rw [readText, hread]

theorem write_of_fits (hword : bs.length < UInt32.size) (hend : ptr.toNat + bs.length ≤ m.size) :
    m.write ptr bs = .ok (m.overwrite ptr.toNat bs) := by
  have hlen : (UInt32.ofNat bs.length).toNat = bs.length := UInt32.toNat_ofNat_of_lt' hword
  have hholds : m.Holds (ptr, .ofNat bs.length) := by
    rw [Holds, hlen]
    exact hend
  exact write_of_holds hholds hlen.ge

theorem write_of_not_fits
    (hout : ¬ (bs.length < UInt32.size ∧ ptr.toNat + bs.length ≤ m.size)) :
    ∃ reason, m.write ptr bs = .error (.memoryAccess reason) := by
  rw [write]
  split
  · exact ⟨_, rfl⟩
  · rename_i hlong
    have hword : bs.length < UInt32.size := Nat.not_le.mp hlong
    have hlen : (UInt32.ofNat bs.length).toNat = bs.length := UInt32.toNat_ofNat_of_lt' hword
    have hholds : ¬ m.Holds (ptr, .ofNat bs.length) := by
      rw [Holds, hlen]
      exact fun hend => hout ⟨hword, hend⟩
    obtain ⟨reason, hr⟩ := range_of_not_holds hholds
    refine ⟨reason, ?_⟩
    rw [hr]
    rfl

theorem Access.length_of_payload (hp : a.payload? = some bs) : a.length = bs.length := by
  cases a with
  | read | readText => cases hp
  | write | writeWord =>
    cases hp
    rfl

/-- To write a word is to write its bytes. -/
theorem serve_of_payload (hp : a.payload? = some bs) :
    m.serve a = m.answered (fun m' => (.written, m')) (m.write a.ptr bs) := by
  cases a with
  | read | readText => cases hp
  | write | writeWord =>
    cases hp
    rfl

theorem serve_of_fits (hp : a.payload? = some bs) (hf : a.Fits m.size) :
    m.serve a = (.written, m.overwrite a.ptr.toNat bs) := by
  rw [Access.Fits, Access.length_of_payload hp] at hf
  rw [serve_of_payload hp, write_of_fits hf.1 hf.2]
  rfl

theorem serve_of_not_fits (hp : a.payload? = some bs) (hf : ¬ a.Fits m.size) :
    ∃ reason, m.serve a = (.failed (.memoryAccess reason), m) := by
  rw [Access.Fits, Access.length_of_payload hp] at hf
  obtain ⟨reason, hw⟩ := write_of_not_fits hf
  refine ⟨reason, ?_⟩
  rw [serve_of_payload hp, hw]
  rfl

theorem serves_of_payload (hp : a.payload? = some bs) :
    Serves m a (m.serve a).1 (m.serve a).2 := by
  by_cases hf : a.Fits m.size
  · have hend : a.ptr.toNat + bs.length ≤ m.size := Access.length_of_payload hp ▸ hf.2
    rw [serve_of_fits hp hf]
    exact .written hp hf (size_overwrite hend) (byte?_overwrite hend)
  · obtain ⟨reason, hserve⟩ := serve_of_not_fits hp hf
    rw [hserve]
    exact .outside hf

/-- A memory serves every call as it has to. -/
theorem serve_spec (m : Memory) (a : Access) : Serves m a (m.serve a).1 (m.serve a).2 := by
  cases a with
  | read ptr len =>
    by_cases h : m.Holds (ptr, len)
    · obtain ⟨bs, hread, hlen, hs⟩ := exists_read_of_holds h
      rw [serve, hread]
      exact .bytes ⟨len.toNat_lt, h⟩ hlen hs
    · obtain ⟨reason, hread⟩ := read_of_not_holds h
      rw [serve, hread]
      exact .outside fun hf => h hf.2
  | readText ptr len =>
    by_cases h : m.Holds (ptr, len)
    · obtain ⟨bs, hread, hlen, hs⟩ := exists_read_of_holds h
      by_cases ht : ∃ s, Bytes.ofText s = bs
      · obtain ⟨s, rfl⟩ := ht
        rw [serve, (readText_eq_ok_iff hread).mpr rfl]
        exact .text ⟨len.toNat_lt, h⟩ hlen hs
      · rw [serve, readText_of_no_text hread fun s hs => ht ⟨s, hs⟩]
        refine .noText ⟨len.toNat_lt, h⟩ fun s hlen' hs' => ht ⟨s, ?_⟩
        exact Except.ok.inj ((read_of_shows h hlen' hs').symm.trans hread)
    · obtain ⟨reason, hread⟩ := read_of_not_holds h
      rw [serve, readText_of_error hread]
      exact .outside fun hf => h hf.2
  | write | writeWord => exact serves_of_payload rfl

theorem Serves.byte? {m' : Memory} {o : Outcome} (hs : Serves m a o m') :
    m'.size = m.size ∧ ∀ i, m'.byte? i = (written? (a, o) i).or (m.byte? i) := by
  cases hs with
  | outside | bytes | text | noText => exact ⟨rfl, fun i => rfl⟩
  | written hp _ hsize hbyte =>
    refine ⟨hsize, fun i => ?_⟩
    rw [hbyte, written?, hp, Option.bind_some]

theorem Serves.refused_iff {m' : Memory} {o : Outcome} (hs : Serves m a o m') :
    (∃ reason, o = .failed (.memoryAccess reason)) ↔ ¬ a.Fits m.size := by
  constructor
  · rintro ⟨reason, rfl⟩
    cases hs with
    | outside hf => exact hf
  · intro hout
    cases hs with
    | outside => exact ⟨_, rfl⟩
    | bytes hf | text hf | noText hf | written _ hf => exact absurd hf hout

theorem lastWritten?_cons (entry : Access × Outcome) (log : List (Access × Outcome)) (i : Nat) :
    lastWritten? (entry :: log) i = (lastWritten? log i).or (written? entry i) := by
  rw [lastWritten?, List.reverse_cons, List.findSome?_append, List.findSome?_singleton]
  rfl

theorem run_spec (calls : List Access) (m : Memory) :
    (run calls m).2.size = m.size ∧
      ∀ i, (run calls m).2.byte? i = (lastWritten? (run calls m).1 i).or (m.byte? i) := by
  induction calls generalizing m with
  | nil => exact ⟨rfl, fun i => rfl⟩
  | cons a rest ih =>
    obtain ⟨hsize, hbyte⟩ := (serve_spec m a).byte?
    obtain ⟨hsize', hbyte'⟩ := ih (m.serve a).2
    refine ⟨hsize'.trans hsize, fun i => ?_⟩
    calc (run (a :: rest) m).2.byte? i
        = (lastWritten? (run rest (m.serve a).2).1 i).or ((m.serve a).2.byte? i) := hbyte' i
      _ = (lastWritten? ((a, (m.serve a).1) :: (run rest (m.serve a).2).1) i).or (m.byte? i) := by
        rw [hbyte, lastWritten?_cons, Option.or_assoc]

/-- What a call has written is read back as long as no call writes over it. -/
theorem read_of_untouched (hp : a.payload? = some bs) (hf : a.Fits m.size) {rest : List Access}
    (hu : Untouched (run rest (m.serve a).2).1 a.ptr.toNat bs.length)
    (hlen : bs.length = len.toNat) : (run rest (m.serve a).2).2.read a.ptr len = .ok bs := by
  have hend : a.ptr.toNat + bs.length ≤ m.size := Access.length_of_payload hp ▸ hf.2
  have hserved : (m.serve a).2 = m.overwrite a.ptr.toNat bs :=
    congrArg Prod.snd (serve_of_fits hp hf)
  obtain ⟨hsize, hbyte⟩ := run_spec rest (m.serve a).2
  have hholds : (run rest (m.serve a).2).2.Holds (a.ptr, len) := by
    rw [Holds, hsize, hserved, size_overwrite hend, ← hlen]
    exact hend
  refine read_of_shows hholds hlen fun k hk => ?_
  rw [hbyte, hu k hk, Option.none_or, hserved, byte?_overwrite hend, byteAt?_or hk]

theorem ofDigits_wordBytes (w : UInt32) :
    Nat.ofDigits 256 ((wordBytes w).map UInt8.toNat) = w.toNat := by
  rw [Nat.ofDigits_eq_foldr, List.foldr_map]
  exact toNat_wordBytes w

/-- After any calls every place of the memory has the byte that was last written to it, or else its
first one, and the next call is served as of an array of bytes: it is refused just if its range does
not fit. A word or a text that is written is read back as long as nothing is written over it. -/
theorem run_acts_on_bytes (m : Memory) (calls : List Access) (a : Access) :
    let log := (run calls m).1
    let m' := (run calls m).2
    m'.size = m.size ∧ (∀ i, m'.byte? i = (lastWritten? log i).or (m.byte? i)) ∧
      Serves m' a (m'.serve a).1 (m'.serve a).2 ∧
      ((∃ reason, (m'.serve a).1 = .failed (.memoryAccess reason)) ↔ ¬ a.Fits m.size) ∧
      (∀ ptr w rest, (Access.writeWord ptr w).Fits m.size →
        let later := run rest (m'.serve (.writeWord ptr w)).2
        Untouched later.1 ptr.toNat 4 → ∃ bs, (later.2.serve (.read ptr 4)).1 = .bytes bs ∧
          Nat.ofDigits 256 (bs.map UInt8.toNat) = w.toNat) ∧
      ∀ ptr len s rest, (Access.write ptr (Bytes.ofText s)).Fits m.size →
        (Bytes.ofText s).length = len.toNat →
          let later := run rest (m'.serve (.write ptr (Bytes.ofText s))).2
          Untouched later.1 ptr.toNat len.toNat →
            (later.2.serve (.readText ptr len)).1 = .text s := by
  intro log m'
  obtain ⟨hsize, hbyte⟩ : m'.size = m.size ∧ _ := run_spec calls m
  refine ⟨hsize, hbyte, serve_spec m' a, ?_, ?_, ?_⟩
  · rw [← hsize]
    exact (serve_spec m' a).refused_iff
  · intro ptr w rest hf later hu
    rw [← hsize] at hf
    have hread : later.2.read ptr 4 = .ok (wordBytes w) := read_of_untouched rfl hf hu rfl
    refine ⟨wordBytes w, ?_, ofDigits_wordBytes w⟩
    rw [serve, hread]
    rfl
  · intro ptr len s rest hf hlen later hu
    rw [← hsize] at hf
    rw [← hlen] at hu
    have hread : later.2.read ptr len = .ok (Bytes.ofText s) := read_of_untouched rfl hf hu hlen
    rw [serve, (readText_eq_ok_iff hread).mpr rfl]
    rfl

/-- An empty range may start at the end of the memory and no later. -/
example : (Access.read 16 0).Fits 16 ∧ ¬ (Access.read 17 0).Fits 16 := by decide

end GuestNet.Memory
