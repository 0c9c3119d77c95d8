import GuestNet.Proofs.Json.Written

/-! The syntax of JSON, stated apart from its readers. A tree is a value without the blanks between
its tokens; a text or a number stands in it as it is spelled. One tree has many written forms, which
differ in those blanks alone. -/
namespace GuestNet.Json

def AreBlanks (b : List Char) : Prop := ∀ c ∈ b, isBlank c = true

/-- Four hexadecimal digits, and the unit for which they stand. -/
inductive IsUnit : List Char → Nat → Prop where
  | mk {a b c d : Char} {x y z w : Nat} : hexValue? a = some x → hexValue? b = some y →
      hexValue? c = some z → hexValue? d = some w →
        IsUnit [a, b, c, d] (((x * 16 + y) * 16 + z) * 16 + w)

/-- What may stand between the quotes of a text. -/
inductive IsText : List Char → Prop where
  | nil : IsText []
  | plain {c : Char} {s : List Char} : c ≠ '"' → c ≠ '\\' → ¬ c.toNat < 0x20 → IsText s →
      IsText (c :: s)
  | letter {e c : Char} {s : List Char} : letterEscapes.lookup e = some c → IsText s →
      IsText ('\\' :: e :: s)
  | unit {u s : List Char} {n : Nat} : IsUnit u n → IsText s → IsText ('\\' :: 'u' :: (u ++ s))

/-- The characters for which the inside of a text stands. Half of a pair of units stands for none,
so there are texts without a meaning. -/
inductive Spells : List Char → List Char → Prop where
  | nil : Spells [] []
  | plain {c : Char} {s t : List Char} : c ≠ '"' → c ≠ '\\' → ¬ c.toNat < 0x20 → Spells s t →
      Spells (c :: s) (c :: t)
  | letter {e c : Char} {s t : List Char} : letterEscapes.lookup e = some c → Spells s t →
      Spells ('\\' :: e :: s) (c :: t)
  | unit {u s t : List Char} {n : Nat} : IsUnit u n → isLeading n = false → isTrailing n = false →
      Spells s t → Spells ('\\' :: 'u' :: (u ++ s)) (Char.ofNat n :: t)
  | pair {u u' s t : List Char} {n n' : Nat} : IsUnit u n → isLeading n = true → IsUnit u' n' →
      isTrailing n' = true → Spells s t →
        Spells ('\\' :: 'u' :: (u ++ '\\' :: 'u' :: (u' ++ s)))
          (Char.ofNat (0x10000 + (n - 0xD800) * 0x400 + (n' - 0xDC00)) :: t)

def AreDigits (ds : List Char) : Prop := ds ≠ [] ∧ ∀ c ∈ ds, c.isDigit = true

inductive ArePlaces : List Char → Prop where
  | absent : ArePlaces []
  | present {ds : List Char} : AreDigits ds → ArePlaces ('.' :: ds)

inductive IsExponent : List Char → Prop where
  | absent : IsExponent []
  | present {mark : Char} {sign ds : List Char} : Number.isExponentMark mark = true →
      sign ∈ [[], ['+'], ['-']] → AreDigits ds → IsExponent (mark :: (sign ++ ds))

/-- A number from after its sign. No zero stands before its other whole digits. -/
inductive IsMagnitude : List Char → Prop where
  | mk {whole places exponent : List Char} : AreDigits whole →
      (∀ d more, whole ≠ '0' :: d :: more) → ArePlaces places → IsExponent exponent →
        IsMagnitude (whole ++ (places ++ exponent))

/-- A value of one token. -/
inductive IsScalar : List Char → Prop where
  | null : IsScalar ['n', 'u', 'l', 'l']
  | flag (b : Bool) : IsScalar (writeFlag b)
  | positive {s : List Char} : IsMagnitude s → IsScalar s
  | negative {s : List Char} : IsMagnitude s → IsScalar ('-' :: s)
  | text {s : List Char} : IsText s → IsScalar ('"' :: (s ++ ['"']))

inductive Tree where
  | scalar (token : List Char)
  | list (items : List Tree)
  /-- The keys are what stands between their quotes. -/
  | object (members : List (List Char × Tree))

def Tree.null : Tree := .scalar ['n', 'u', 'l', 'l']

def Tree.flag (b : Bool) : Tree := .scalar (writeFlag b)

def Tree.natural (n : Nat) : Tree := .scalar (writeNatural n)

/-- What stands before an item or a member: blanks, and a comma if it is not the first. -/
inductive IsSeparator : Bool → List Char → Prop where
  | first {b : List Char} : AreBlanks b → IsSeparator true b
  | comma {b b' : List Char} : AreBlanks b → AreBlanks b' → IsSeparator false (b ++ ',' :: b')

mutual

/-- A tree is written as a text that starts and ends with its first and its last token. -/
inductive Writes : Tree → List Char → Prop where
  | scalar {token : List Char} : IsScalar token → Writes (.scalar token) token
  | list {ts : List Tree} {s : List Char} : WritesItems true ts s →
      Writes (.list ts) ('[' :: (s ++ [']']))
  | object {ms : List (List Char × Tree)} {s : List Char} : WritesMembers true ms s →
      Writes (.object ms) ('\x7b' :: (s ++ ['\x7d']))

inductive WritesItems : Bool → List Tree → List Char → Prop where
  | nil {isFirst : Bool} {b : List Char} : AreBlanks b → WritesItems isFirst [] b
  | cons {isFirst : Bool} {t : Tree} {ts : List Tree} {sep s s' : List Char} :
      IsSeparator isFirst sep → Writes t s → WritesItems false ts s' →
        WritesItems isFirst (t :: ts) (sep ++ (s ++ s'))

inductive WritesMembers : Bool → List (List Char × Tree) → List Char → Prop where
  | nil {isFirst : Bool} {b : List Char} : AreBlanks b → WritesMembers isFirst [] b
  | cons {isFirst : Bool} {key : List Char} {t : Tree} {ms : List (List Char × Tree)}
      {sep b b' s s' : List Char} : IsSeparator isFirst sep → IsText key → AreBlanks b →
        AreBlanks b' → Writes t s → WritesMembers false ms s' →
          WritesMembers isFirst ((key, t) :: ms)
            (sep ++ '"' :: (key ++ '"' :: (b ++ ':' :: (b' ++ (s ++ s')))))

end

theorem writes_null : Writes .null ['n', 'u', 'l', 'l'] := .scalar .null

theorem writes_flag (b : Bool) : Writes (.flag b) (writeFlag b) := .scalar (.flag b)

theorem writes_natural (n : Nat) : Writes (.natural n) (writeNatural n) := by
  have hdigits : AreDigits (writeNatural n) :=
    ⟨(digits_shape n).1, fun _ => Decimal.isDigit_of_mem_digits⟩
  have hmagnitude := IsMagnitude.mk hdigits (digits_shape n).2 .absent .absent
  rw [List.nil_append, List.append_nil] at hmagnitude
  exact .scalar (.positive hmagnitude)

/-- A text that holds an object with these members, and nothing else but blanks. -/
def IsDocument (ms : List (List Char × Tree)) (text : String) : Prop :=
  ∃ b s b', AreBlanks b ∧ Writes (.object ms) s ∧ AreBlanks b' ∧ text.toList = b ++ (s ++ b')

/-- What may follow a value that is written with blanks. -/
def MayFollow (rest : List Char) : Prop :=
  ∀ c ∈ rest.head?, isBlank c = true ∨ c = ',' ∨ c = ']' ∨ c = '\x7d'

def startsValue (c : Char) : Bool :=
  c = '"' || c = '[' || c = '\x7b' || c = 'n' || c = 't' || c = 'f' || c = '-' || c.isDigit

theorem ne_of_startsValue {c d : Char} (hc : startsValue c = true) (hd : startsValue d = false) :
    c ≠ d := by
  rintro rfl
  cases hc.symm.trans hd

theorem isBlank_of_startsValue {c : Char} (hc : startsValue c = true) : isBlank c = false := by
  have hne (d : Char) (hd : startsValue d = false) : c ≠ d := ne_of_startsValue hc hd
  simp [isBlank, hne ' ' rfl, hne '\n' rfl, hne '\t' rfl, hne '\r' rfl]

theorem startsValue_of_isDigit {c : Char} (hc : c.isDigit = true) : startsValue c = true := by
  rw [startsValue, hc, Bool.or_true]

theorem AreDigits.exists_cons {ds : List Char} (h : AreDigits ds) :
    ∃ c rest, ds = c :: rest ∧ c.isDigit = true := by
  obtain ⟨c, rest, rfl⟩ := List.exists_cons_of_ne_nil h.1
  exact ⟨c, rest, rfl, h.2 c List.mem_cons_self⟩

theorem IsMagnitude.exists_cons {s : List Char} (h : IsMagnitude s) :
    ∃ c rest, s = c :: rest ∧ c.isDigit = true := by
  cases h with
  | mk hwhole =>
    obtain ⟨c, rest, rfl, hc⟩ := hwhole.exists_cons
    exact ⟨c, _, rfl, hc⟩

theorem IsScalar.exists_cons {s : List Char} (h : IsScalar s) :
    ∃ c rest, s = c :: rest ∧ startsValue c = true ∧ c ≠ '[' ∧ c ≠ '\x7b' := by
  cases h with
  | null => exact ⟨_, _, rfl, rfl, by decide, by decide⟩
  | flag b =>
    cases b with
    | false => exact ⟨_, _, rfl, rfl, by decide, by decide⟩
    | true => exact ⟨_, _, rfl, rfl, by decide, by decide⟩
  | positive h =>
    obtain ⟨c, rest, rfl, hc⟩ := h.exists_cons
    exact ⟨c, rest, rfl, startsValue_of_isDigit hc, ne_of_isDigit hc rfl, ne_of_isDigit hc rfl⟩
  | negative => exact ⟨_, _, rfl, rfl, by decide, by decide⟩
  | text => exact ⟨_, _, rfl, rfl, by decide, by decide⟩

theorem Writes.exists_cons {t : Tree} {s : List Char} (h : Writes t s) :
    ∃ c rest, s = c :: rest ∧ startsValue c = true := by
  cases h with
  | scalar h =>
    obtain ⟨c, rest, rfl, hc, -⟩ := h.exists_cons
    exact ⟨c, rest, rfl, hc⟩
  | list => exact ⟨_, _, rfl, rfl⟩
  | object => exact ⟨_, _, rfl, rfl⟩

theorem areBlanks_nil : AreBlanks [] := by
  simp [AreBlanks]

theorem skipBlanks_append {b : List Char} (hb : AreBlanks b) (s : List Char) :
    skipBlanks (b ++ s) = skipBlanks s :=
  List.dropWhile_append_of_pos hb

theorem skipBlanks_eq_nil {b : List Char} (hb : AreBlanks b) : skipBlanks b = [] := by
  rw [← List.append_nil b, skipBlanks_append hb]
  rfl

/-- Before a value, a reader passes over the blanks and stops. -/
theorem Writes.skipBlanks_append {t : Tree} {b s : List Char} (h : Writes t s) (hb : AreBlanks b)
    (rest : List Char) : skipBlanks (b ++ (s ++ rest)) = s ++ rest := by
  obtain ⟨c, s, rfl, hc⟩ := h.exists_cons
  rw [Json.skipBlanks_append hb, List.cons_append, skipBlanks_cons (isBlank_of_startsValue hc)]

theorem mayFollow_append {b rest : List Char} (hb : AreBlanks b) (h : MayFollow rest) :
    MayFollow (b ++ rest) := by
  cases b with
  | nil => exact h
  | cons c b =>
    rintro d ⟨⟩
    exact .inl (hb c List.mem_cons_self)

theorem IsSeparator.mayFollow {sep : List Char} (h : IsSeparator false sep) (rest : List Char) :
    MayFollow (sep ++ rest) := by
  cases h with
  | comma hb =>
    rw [List.append_assoc]
    apply mayFollow_append hb
    rintro c ⟨⟩
    exact .inr (.inl rfl)

theorem WritesItems.mayFollow {ts : List Tree} {s : List Char} (h : WritesItems false ts s)
    (rest : List Char) : MayFollow (s ++ ']' :: rest) := by
  cases h with
  | nil hb =>
    apply mayFollow_append hb
    rintro c ⟨⟩
    exact .inr (.inr (.inl rfl))
  | cons hsep =>
    rw [List.append_assoc]
    exact hsep.mayFollow _

theorem WritesMembers.mayFollow {ms : List (List Char × Tree)} {s : List Char}
    (h : WritesMembers false ms s) (rest : List Char) : MayFollow (s ++ '\x7d' :: rest) := by
  cases h with
  | nil hb =>
    apply mayFollow_append hb
    rintro c ⟨⟩
    exact .inr (.inr (.inr rfl))
  | cons hsep =>
    rw [List.append_assoc]
    exact hsep.mayFollow _

/-- After a value there is nothing that a number could go on with. -/
theorem MayFollow.ends_number {rest : List Char} (h : MayFollow rest) :
    ∀ c ∈ rest.head?, c.isDigit = false ∧ c ≠ '.' ∧ Number.isExponentMark c = false := by
  intro c hc
  rcases h c hc with hb | rfl | rfl | rfl
  · simp only [isBlank, Bool.or_eq_true, decide_eq_true_eq] at hb
    rcases hb with ((rfl | rfl) | rfl) | rfl <;> decide
  · decide
  · decide
  · decide

end GuestNet.Json
