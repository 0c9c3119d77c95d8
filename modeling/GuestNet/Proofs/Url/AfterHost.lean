import GuestNet.Proofs.Url.LetterCase

/-! What follows the host in addresses that are written out: a scheme, two slashes, perhaps a
userinfo, the host and the rest. It does not depend on the letters of the host. -/
namespace GuestNet.Url

/-- A text without the characters that do not count inside it and at its end. -/
def cleanEnd (s : List Char) : List Char := (s.reverse.dropWhile isEdge).reverse.filter isKept

theorem cleanEnd_cons {c : Char} (hc : 0x20 < c.toNat) (s : List Char) :
    cleanEnd (c :: s) = c :: cleanEnd s := by
  have hedge : isEdge c = false := decide_eq_false (Nat.not_le.mpr hc)
  have hdrop : (c :: s).reverse.dropWhile isEdge = s.reverse.dropWhile isEdge ++ [c] := by
    rw [List.reverse_cons, List.dropWhile_append]
    split
    · rename_i he
      rw [List.isEmpty_iff.mp he, List.dropWhile_cons_of_neg (by simp [hedge])]
      rfl
    · rfl
  rw [cleanEnd, hdrop, List.reverse_append, List.reverse_singleton, List.singleton_append,
    List.filter_cons_of_pos (isKept_of_not_isEdge hc)]
  rfl

theorem cleanEnd_append {front : List Char} (hf : ∀ c ∈ front, 0x20 < c.toNat) (s : List Char) :
    cleanEnd (front ++ s) = front ++ cleanEnd s := by
  induction front with
  | nil => rfl
  | cons c front ih =>
    rw [List.cons_append, cleanEnd_cons (hf c List.mem_cons_self),
      ih fun d hd => hf d (List.mem_cons_of_mem c hd)]
    rfl

theorem clean_append_cleanEnd {front : List Char} (hne : front ≠ [])
    (hf : ∀ c ∈ front, 0x20 < c.toNat) (s : List Char) :
    clean (front ++ s) = front ++ cleanEnd s := by
  obtain ⟨c, front, rfl⟩ := List.exists_cons_of_ne_nil hne
  have hedge : isEdge c = false := decide_eq_false (Nat.not_le.mpr (hf c List.mem_cons_self))
  rw [← cleanEnd_append hf, clean_eq, core, List.cons_append,
    List.dropWhile_cons_of_neg (by simp [hedge])]
  rfl

theorem exists_cleanEnd {s : List Char} (hs : clean s ≠ []) :
    ∃ junk, (∀ c ∈ junk, c.toNat ≤ 0x20) ∧ cleanEnd s = junk ++ clean s := by
  have hfront : ∀ c ∈ [':'], 0x20 < c.toNat := by simp
  obtain ⟨junk, hjunk, he⟩ := clean_append hfront hs
  rw [clean_append_cleanEnd (List.cons_ne_nil _ _) hfront] at he
  exact ⟨junk, hjunk, List.append_cancel_left he⟩

/-- An address in place of a host is followed by its own slashes. -/
theorem afterHostIn_of_word {word : List Char} (hw : ∀ c ∈ word, c ∉ delimiters) (s : List Char) :
    afterHostIn .other (word ++ ':' :: '/' :: s) = ':' :: '/' :: s := by
  have hin := not_isAuthorityEnd .other hw (.inr rfl)
  have hend : (!isAuthorityEnd .other '/') = false := rfl
  have hsplit : word ++ ':' :: '/' :: s = (word ++ [':']) ++ '/' :: s := by simp
  have htake : (word ++ ':' :: '/' :: s).takeWhile (!isAuthorityEnd .other ·) = word ++ [':'] := by
    rw [hsplit, List.takeWhile_append_of_pos hin, List.takeWhile_cons_of_neg (by simp [hend]),
      List.append_nil]
  have hdrop : (word ++ ':' :: '/' :: s).dropWhile (!isAuthorityEnd .other ·) = '/' :: s := by
    rw [hsplit, List.dropWhile_append_of_pos hin, List.dropWhile_cons_of_neg (by simp [hend])]
  have hat : '@' ∉ word ++ [':'] := by
    intro hm
    rcases List.mem_append.mp hm with hm | hm
    · exact hw '@' hm (by decide)
    · simp at hm
  have huser : splitUserinfo (word ++ [':']) = (none, word ++ [':']) := by
    rcases splitUserinfo_eq (word ++ [':']) with he | ⟨userinfo, rest, he, -⟩
    · exact he
    · exact absurd (he ▸ List.mem_append_right userinfo List.mem_cons_self) hat
  have hhost : splitHost false (word ++ [':']) = (word, [':']) := splitHost_append hw (by simp)
  rw [afterHostIn, htake, hdrop, behindHost, huser]
  simp only [hhost, List.singleton_append]

/-- What may stand before the colon of an address. -/
structure IsSchemeName (s : List Char) : Prop where
  first : ∃ c rest, s = c :: rest ∧ c.isAlpha = true
  chars : ∀ c ∈ s, isSchemeChar c = true

theorem lt_toNat_of_isSchemeChar {c : Char} (h : isSchemeChar c = true) : 0x20 < c.toNat := by
  simp only [isSchemeChar, Char.isAlphanum, Bool.or_eq_true, beq_iff_eq] at h
  rcases h with (((h | h) | rfl) | rfl) | rfl
  · have := isAlpha_iff.mp h
    omega
  · have hd : 48 ≤ c.toNat ∧ c.toNat ≤ 57 := Char.isDigit_iff_toNat.mp h
    omega
  all_goals decide

theorem IsSchemeName.splitScheme? {name : List Char} (h : IsSchemeName name) (s : List Char) :
    splitScheme? (clean (name ++ [':', '/', '/'] ++ s)) =
      some (name.map Char.toLower, '/' :: '/' :: cleanEnd s) := by
  obtain ⟨⟨c, rest, rfl, hc⟩, hchars⟩ := h
  have hlow : ∀ d ∈ c :: rest ++ [':', '/', '/'], 0x20 < d.toNat := by
    intro d hd
    rcases List.mem_append.mp hd with hd | hd
    · exact lt_toNat_of_isSchemeChar (hchars d hd)
    · have hall : ∀ d ∈ [':', '/', '/'], 0x20 < d.toNat := by simp
      exact hall d hd
  rw [clean_append_cleanEnd (List.append_ne_nil_of_left_ne_nil (List.cons_ne_nil c rest) _) hlow,
    List.append_assoc]
  exact splitScheme?_append ('/' :: '/' :: cleanEnd s) hc hchars

theorem IsSchemeName.afterHost {name : List Char} (h : IsSchemeName name) (s : List Char) :
    afterHost (name ++ [':', '/', '/'] ++ s) =
      afterHostOf (String.ofList (name.map Char.toLower)) ('/' :: '/' :: cleanEnd s) := by
  rw [Url.afterHost, h.splitScheme?]

/-- Whether the last bracket of a text opens. -/
def openAfter (brackets : Bool) (s : List Char) : Bool :=
  s.foldl (fun b c => if c = '[' then true else if c = ']' then false else b) brackets

theorem openAfter_map_toLower (brackets : Bool) (s : List Char) :
    openAfter brackets (s.map Char.toLower) = openAfter brackets s := by
  have hopen {c : Char} : c.toLower = '[' ↔ c = '[' := toLower_eq_nonletter_iff (by decide)
  have hclose {c : Char} : c.toLower = ']' ↔ c = ']' := toLower_eq_nonletter_iff (by decide)
  simp only [openAfter, List.foldl_map, hopen, hclose]

/-- A host without colons, except in brackets, is not cut. -/
theorem splitHost_append_of_whole {brackets : Bool} {host : List Char}
    (h : (splitHost brackets host).2 = []) (s : List Char) :
    (splitHost brackets (host ++ s)).2 = (splitHost (openAfter brackets host) s).2 := by
  induction host generalizing brackets with
  | nil => rfl
  | cons c host ih =>
    rw [splitHost] at h
    rw [List.cons_append, splitHost]
    split at h
    · cases h
    · rename_i hc
      rw [if_neg hc]
      exact ih h

/-- A userinfo with its at sign, or nothing. -/
def IsUserinfo (front : List Char) : Prop := front = [] ∨ ∃ name, front = name ++ ['@']

theorem splitUserinfo_append {s t : List Char} (ht : '@' ∉ t) :
    splitUserinfo (s ++ '@' :: t) = (some s, t) := by
  rcases splitUserinfo_eq (s ++ '@' :: t) with he | ⟨name, host, hi, he⟩
  · have hat := not_mem_splitUserinfo (s ++ '@' :: t)
    rw [he] at hat
    exact absurd (List.mem_append_right s List.mem_cons_self) hat
  · have hat := not_mem_splitUserinfo (s ++ '@' :: t)
    rw [he] at hat
    obtain ⟨rfl, rfl⟩ := append_cons_inj hi ht hat
    exact he

theorem splitUserinfo_of_not_mem {s : List Char} (hs : '@' ∉ s) : splitUserinfo s = (none, s) := by
  rcases splitUserinfo_eq s with he | ⟨name, host, rfl, -⟩
  · exact he
  · exact absurd (List.mem_append_right name List.mem_cons_self) hs

theorem splitUserinfo_of_isUserinfo {front s : List Char} (hf : IsUserinfo front) (hs : '@' ∉ s) :
    (splitUserinfo (front ++ s)).2 = s := by
  rcases hf with rfl | ⟨name, rfl⟩
  · rw [List.nil_append, splitUserinfo_of_not_mem hs]
  · rw [List.append_assoc, List.singleton_append, splitUserinfo_append hs]

section Host

variable {front host host' : List Char}

/-- What stands between the slashes and the end of a host that is written out. -/
structure IsWritten (kind : Kind) (front host : List Char) : Prop where
  userinfo : IsUserinfo front
  noAt : '@' ∉ host
  /-- There are no colons in it outside brackets. -/
  whole : (splitHost false host).2 = []
  ne : host ≠ []
  plain : ∀ c ∈ front ++ host, isEdge c = false ∧ isAuthorityEnd kind c = false

variable {kind : Kind}

theorem IsWritten.recased (h : IsWritten kind front host)
    (hh : host.map Char.toLower = host'.map Char.toLower) : IsWritten kind front host' where
  userinfo := h.userinfo
  noAt := by
    intro hm
    have hlower : '@' ∈ host.map Char.toLower := hh ▸ List.mem_map.mpr ⟨'@', hm, by decide⟩
    obtain ⟨c, hc, he⟩ := List.mem_map.mp hlower
    obtain rfl : c = '@' := (toLower_eq_nonletter_iff (by decide)).mp he
    exact h.noAt hc
  whole := by
    rw [← List.map_eq_nil_iff (f := Char.toLower)]
    have hafter := congrArg (fun t => (splitHost false t).2) hh
    simpa only [splitHost_map_toLower, h.whole, List.map_nil, eq_comm] using hafter
  ne := by
    rintro rfl
    exact h.ne (List.map_eq_nil_iff.mp hh)
  plain := by
    intro d hd
    rcases List.mem_append.mp hd with hd | hd
    · exact h.plain d (List.mem_append_left host hd)
    · have hlower : d.toLower ∈ host.map Char.toLower := hh ▸ List.mem_map_of_mem hd
      obtain ⟨c, hc, he⟩ := List.mem_map.mp hlower
      rw [← isEdge_toLower d, ← isAuthorityEnd_toLower kind d, ← he, isEdge_toLower,
        isAuthorityEnd_toLower]
      exact h.plain c (List.mem_append_right front hc)

/-- Behind a host stands what would stand behind it in any letter case. -/
theorem IsWritten.behindHost (h : IsWritten kind front host)
    (hh : host.map Char.toLower = host'.map Char.toLower) (s : List Char) :
    behindHost (front ++ host ++ s) = behindHost (front ++ host' ++ s) := by
  have h' := h.recased hh
  have hopen := eq_of_map_toLower (openAfter_map_toLower false) hh
  rcases splitUserinfo_eq s with he | ⟨name, rest, rfl, he⟩
  · have hs : '@' ∉ s := by
      have hat := not_mem_splitUserinfo s
      rwa [he] at hat
    have hnone {t : List Char} (ht : '@' ∉ t) : '@' ∉ t ++ s := by simp [ht, hs]
    rw [Url.behindHost, Url.behindHost, List.append_assoc, List.append_assoc,
      splitUserinfo_of_isUserinfo h.userinfo (hnone h.noAt),
      splitUserinfo_of_isUserinfo h.userinfo (hnone h'.noAt),
      splitHost_append_of_whole h.whole, splitHost_append_of_whole h'.whole, hopen]
  · have hrest : '@' ∉ rest := by
      have hat := not_mem_splitUserinfo (name ++ '@' :: rest)
      rwa [he] at hat
    rw [Url.behindHost, Url.behindHost, ← List.append_assoc, ← List.append_assoc,
      splitUserinfo_append hrest, splitUserinfo_append hrest]

theorem IsWritten.afterHostIn (h : IsWritten kind front host)
    (hh : host.map Char.toLower = host'.map Char.toLower) (s : List Char) :
    afterHostIn kind (front ++ host ++ s) = afterHostIn kind (front ++ host' ++ s) := by
  have hin {host : List Char} (h : IsWritten kind front host) :
      ∀ c ∈ front ++ host, (!isAuthorityEnd kind c) = true := by
    intro c hc
    rw [(h.plain c hc).2]
    rfl
  have h' := h.recased hh
  rw [Url.afterHostIn, Url.afterHostIn, List.takeWhile_append_of_pos (hin h),
    List.takeWhile_append_of_pos (hin h'), List.dropWhile_append_of_pos (hin h),
    List.dropWhile_append_of_pos (hin h'), h.behindHost hh]

/-- No slash is left over before what is written between the slashes and the end of a host. -/
theorem IsWritten.dropWhile_isSlash (h : IsWritten .special front host) (s : List Char) :
    ('/' :: '/' :: (front ++ host ++ s)).dropWhile isSlash = front ++ host ++ s := by
  obtain ⟨c, rest, hc⟩ := List.exists_cons_of_ne_nil (List.append_ne_nil_of_right_ne_nil front h.ne)
  have hend := (h.plain c (hc ▸ List.mem_cons_self)).2
  have hslash : isSlash c = false := by
    simp only [isAuthorityEnd, Kind.isSpecial, Bool.and_true, Bool.or_eq_false_iff] at hend
    rw [isSlash, hend.1.1, hend.2]
    rfl
  rw [hc, List.dropWhile_cons_of_pos rfl, List.dropWhile_cons_of_pos rfl, List.cons_append,
    List.dropWhile_cons_of_neg (by simp [hslash])]

theorem IsWritten.cleanEnd (h : IsWritten kind front host) (s : List Char) :
    cleanEnd (front ++ host ++ s) = front ++ host ++ cleanEnd s := by
  apply cleanEnd_append
  intro c hc
  exact Nat.not_le.mp (of_decide_eq_false (h.plain c hc).1)

theorem IsSchemeName.recased {name name' : List Char} (hn : IsSchemeName name)
    (hl : name.map Char.toLower = name'.map Char.toLower) : IsSchemeName name' where
  first := by
    obtain ⟨c, rest, rfl, hc⟩ := hn.first
    obtain ⟨d, rest', rfl, hd, -⟩ := List.map_eq_cons_iff.mp hl.symm
    refine ⟨d, rest', rfl, ?_⟩
    rw [← isAlpha_toLower, hd, isAlpha_toLower, hc]
  chars := by
    intro d hd
    have hlower : d.toLower ∈ name.map Char.toLower := hl ▸ List.mem_map_of_mem hd
    obtain ⟨c, hc, he⟩ := List.mem_map.mp hlower
    rw [← isSchemeChar_toLower, ← he, isSchemeChar_toLower]
    exact hn.chars c hc

/-- What follows a host that is written out does not depend on the letter case of the scheme nor on
that of the host. -/
theorem IsWritten.afterHost {name name' : List Char} (hn : IsSchemeName name)
    (hl : name.map Char.toLower = name'.map Char.toLower)
    (h : IsWritten (Kind.ofScheme (String.ofList (name.map Char.toLower))) front host)
    (hh : host.map Char.toLower = host'.map Char.toLower) (s : List Char) :
    afterHost (name ++ [':', '/', '/'] ++ (front ++ host ++ s)) =
      afterHost (name' ++ [':', '/', '/'] ++ (front ++ host' ++ s)) := by
  have h' := h.recased hh
  rw [hn.afterHost, (hn.recased hl).afterHost, ← hl, h.cleanEnd, h'.cleanEnd, afterHostOf,
    afterHostOf]
  generalize hk : Kind.ofScheme (String.ofList (name.map Char.toLower)) = kind at h h'
  cases kind with
  | special =>
    simp only [h.dropWhile_isSlash, h'.dropWhile_isSlash]
    exact h.afterHostIn hh _
  | file => exact h.afterHostIn hh _
  | other => exact h.afterHostIn hh _

end Host

end GuestNet.Url
