import Mathlib.Data.List.TakeWhile
import GuestNet.Proofs.Url.Percent
import GuestNet.Url.Parse

/-! What the parts of an address are read from: the scheme up to its colon, and the host after the
userinfo. -/
namespace GuestNet.Url

/-- The scheme of an address stands before its first colon. -/
theorem splitScheme?_eq_some {s scheme rest : List Char}
    (h : splitScheme? s = some (scheme, rest)) :
    ∃ name, s = name ++ ':' :: rest ∧ scheme = name.map Char.toLower ∧ name ≠ [] ∧
      ':' ∉ name := by
  rw [splitScheme?] at h
  split at h
  · rename_i c name _ hname hrest
    split at h
    · cases h
      refine ⟨c :: name, ?_, rfl, List.cons_ne_nil c name, fun hm => ?_⟩
      · rw [← hname, ← hrest, List.takeWhile_append_dropWhile]
      · rw [← hname] at hm
        exact absurd (List.mem_takeWhile_imp hm) (by decide)
    · cases h
  · cases h

/-- A scheme that starts with a letter is read up to the colon behind it. -/
theorem splitScheme?_append {c : Char} {name : List Char} (rest : List Char)
    (hc : c.isAlpha = true) (hn : ∀ d ∈ c :: name, isSchemeChar d = true) :
    splitScheme? (c :: name ++ ':' :: rest) = some ((c :: name).map Char.toLower, rest) := by
  rw [splitScheme?, List.takeWhile_append_of_pos hn, List.dropWhile_append_of_pos hn]
  simp [isSchemeChar, hc]

theorem scheme_of_readAfterSlashes {kind : Kind} {scheme : String} {s : List Char} {u : Url}
    (h : readAfterSlashes kind scheme s = .ok u) : u.scheme = scheme := by
  simp only [readAfterSlashes] at h
  split at h
  · cases h
  · cases h
    rfl

theorem scheme_of_readFile {s : List Char} {u : Url} (h : readFile s = .ok u) :
    u.scheme = "file" := by
  rw [readFile] at h
  split at h
  · cases h
  · cases h
    rfl

theorem ofScheme_eq_file {scheme : String} (h : Kind.ofScheme scheme = .file) :
    scheme = "file" := by
  rw [Kind.ofScheme] at h
  split at h
  · assumption
  · split at h <;> cases h

theorem scheme_of_readAfterScheme {scheme : String} {s : List Char} {u : Url}
    (h : readAfterScheme scheme s = .ok u) : u.scheme = scheme := by
  unfold readAfterScheme at h
  split at h
  · rename_i hk
    rw [scheme_of_readFile h, ofScheme_eq_file hk]
  · exact scheme_of_readAfterSlashes h
  · split at h
    · exact scheme_of_readAfterSlashes h
    · cases h
      rfl

theorem parse_eq_ok {text : String} {u : Url} (h : parse text = .ok u) :
    ∃ scheme rest, splitScheme? (clean text.toList) = some (scheme, rest) ∧
      readAfterScheme (String.ofList scheme) rest = .ok u ∧ u.scheme = String.ofList scheme := by
  rw [parse] at h
  split at h
  · rename_i scheme rest hs
    exact ⟨scheme, rest, hs, h, scheme_of_readAfterScheme h⟩
  · cases h

/-- Characters that do not count at the ends of a text. -/
def isEdge (c : Char) : Bool := c.toNat ≤ 0x20

/-- Characters that count inside a text. -/
def isKept (c : Char) : Bool := c ≠ '\t' && c ≠ '\n' && c ≠ '\r'

/-- What is between the edges, in reverse. -/
def core (s : List Char) : List Char := (s.dropWhile isEdge).reverse.dropWhile isEdge

theorem clean_eq (s : List Char) : clean s = (core s).reverse.filter isKept := rfl

theorem isKept_of_not_isEdge {c : Char} (hc : 0x20 < c.toNat) : isKept c = true := by
  have hne {d : Char} (hd : d.toNat ≤ 0x20) : c ≠ d := by
    rintro rfl
    omega
  simp [isKept, hne (d := '\t') (by decide), hne (d := '\n') (by decide),
    hne (d := '\r') (by decide)]

theorem core_append {c : Char} {front s : List Char} (hc : 0x20 < c.toNat) (hs : core s ≠ []) :
    core (c :: front ++ s) = core s ++ (c :: front ++ s.takeWhile isEdge).reverse := by
  have hstart : isEdge c = false := decide_eq_false (Nat.not_le.mpr hc)
  have hsplit : (c :: front ++ s).reverse =
      (s.dropWhile isEdge).reverse ++ (c :: front ++ s.takeWhile isEdge).reverse := by
    rw [← List.reverse_append, List.append_assoc, List.takeWhile_append_dropWhile]
  rw [core, List.cons_append, List.dropWhile_cons_of_neg (by simp [hstart]), ← List.cons_append,
    hsplit, List.dropWhile_append, if_neg (by simpa [core] using hs)]
  rfl

/-- What stands before an address keeps the characters that would not count at its start. -/
theorem clean_append {c : Char} {front s : List Char} (hf : ∀ d ∈ c :: front, 0x20 < d.toNat)
    (hs : clean s ≠ []) : ∃ junk, (∀ d ∈ junk, d.toNat ≤ 0x20) ∧
      clean (c :: front ++ s) = c :: front ++ (junk ++ clean s) := by
  have hcore : core s ≠ [] := by
    intro he
    exact hs (by rw [clean_eq, he]; rfl)
  have hfront : (c :: front).filter isKept = c :: front :=
    List.filter_eq_self.mpr fun d hd => isKept_of_not_isEdge (hf d hd)
  refine ⟨(s.takeWhile isEdge).filter isKept, fun d hd => ?_, ?_⟩
  · simpa [isEdge] using List.mem_takeWhile_imp (List.mem_filter.mp hd).1
  · rw [clean_eq, core_append (hf c List.mem_cons_self) hcore, List.reverse_append,
      List.reverse_reverse, List.filter_append, List.filter_append, hfront, clean_eq,
      List.append_assoc]

/-- A text is what stands before its last delimiter, the delimiter and what stands behind it. -/
theorem eq_append_of_reverse {c d : Char} {s front : List Char}
    (h : s.reverse.dropWhile (· ≠ d) = c :: front) :
    s = front.reverse ++ d :: (s.reverse.takeWhile (· ≠ d)).reverse := by
  have hc : c = d := by
    have hc := List.head?_dropWhile_not (· ≠ d) s.reverse
    rw [h] at hc
    simpa using hc
  have he : s.reverse = s.reverse.takeWhile (· ≠ d) ++ s.reverse.dropWhile (· ≠ d) :=
    (List.takeWhile_append_dropWhile ..).symm
  rw [h, hc] at he
  simpa using congrArg List.reverse he

theorem splitUserinfo_eq (s : List Char) : splitUserinfo s = (none, s) ∨
    ∃ userinfo host, s = userinfo ++ '@' :: host ∧ splitUserinfo s = (some userinfo, host) := by
  rw [splitUserinfo]
  cases hd : s.reverse.dropWhile (· ≠ '@') with
  | nil => exact .inl rfl
  | cons c front => exact .inr ⟨_, _, eq_append_of_reverse hd, rfl⟩

/-- The characters that end a part of an authority, or start one. -/
def delimiters : List Char := ['/', '?', '#', '\\', ':', '[', ']', '@']

theorem dropWhile_isSlash {c : Char} (hc : c ∉ delimiters) (s : List Char) :
    ('/' :: '/' :: c :: s).dropWhile isSlash = c :: s := by
  simp only [delimiters, List.mem_cons, not_or] at hc
  have hn : isSlash c = false := by simp [isSlash, hc.1, hc.2.2.2.1]
  rw [List.dropWhile_cons_of_pos rfl, List.dropWhile_cons_of_pos rfl,
    List.dropWhile_cons_of_neg (by simp [hn])]

theorem splitHost_append {word rest : List Char} (hw : ∀ c ∈ word, c ∉ delimiters)
    (hr : ∀ c ∈ rest.head?, c = ':') : splitHost false (word ++ rest) = (word, rest) := by
  induction word with
  | nil =>
    cases rest with
    | nil => rfl
    | cons c rest =>
      rw [List.nil_append, splitHost, if_pos ⟨hr c rfl, Bool.false_ne_true⟩]
  | cons c word ih =>
    have hc := hw c List.mem_cons_self
    simp only [delimiters, List.mem_cons, not_or] at hc
    rw [List.cons_append, splitHost, if_neg (by simp [hc]), if_neg hc.2.2.2.2.2.1,
      if_neg hc.2.2.2.2.2.2.1, ih fun d hd => hw d (List.mem_cons_of_mem c hd)]

theorem percentEncode_ne_nil {set : Char → Bool} {c : Char} {s : List Char} :
    percentEncode set (c :: s) ≠ [] := by
  rcases head_percentEncode set c s with ⟨-, h⟩ | ⟨rest, h⟩
  · rw [h]
    exact List.cons_ne_nil c _
  · rw [h]
    exact List.cons_ne_nil '%' rest

theorem readHostPort_eq_ok {kind : Kind} {scheme : String} {userinfo : String × Option String}
    {s : List Char} {a : Authority} (hk : kind.isSpecial = true)
    (h : readHostPort kind scheme userinfo s = .ok a) :
    domainHost (splitHost false s).1 = .ok a.host ∧ a.username = userinfo.1 := by
  rw [readHostPort] at h
  simp only [hk, true_and, if_true] at h
  split at h
  · cases h
  · split at h
    · cases h
    · rename_i host hd
      split at h
      · cases h
      · split at h
        · cases h
          exact ⟨hd, rfl⟩
        · rename_i portText _
          cases hp : readPort scheme portText with
          | error e =>
            rw [hp] at h
            cases h
          | ok p =>
            rw [hp] at h
            cases h
            exact ⟨hd, rfl⟩

/-- Without userinfo the host of an authority is what stands before its first colon. -/
theorem domainHost_of_readAuthority {kind : Kind} {scheme : String} {c : Char}
    {word rest : List Char} {more : Bool} {a : Authority} (hk : kind.isSpecial = true)
    (hw : ∀ d ∈ c :: word, d ∉ delimiters)
    (h : readAuthority kind scheme (c :: word ++ ':' :: rest) more = .ok a)
    (hu : a.username = "") : domainHost (c :: word) = .ok a.host := by
  have hs : splitHost false (c :: word ++ ':' :: rest) = (c :: word, ':' :: rest) :=
    splitHost_append hw (by simp)
  rw [readAuthority] at h
  rcases splitUserinfo_eq (c :: word ++ ':' :: rest) with he | ⟨userinfo, host, hi, he⟩
  · rw [he] at h
    have hd := (readHostPort_eq_ok hk h).1
    rwa [hs] at hd
  · -- The text before the `@` starts with the word, so the name in it is not empty.
    have hc := hw c List.mem_cons_self
    cases userinfo with
    | nil =>
      obtain ⟨rfl, -⟩ := List.cons.inj hi
      exact absurd (by decide) hc
    | cons d name =>
      obtain ⟨rfl, -⟩ := List.cons.inj hi
      rw [he] at h
      have hname := (readHostPort_eq_ok hk h).2.symm.trans hu
      have hcolon : c ≠ ':' := by
        rintro rfl
        exact hc (by decide)
      simp only [readUserinfo, ne_eq, List.takeWhile_cons, hcolon, not_false_eq_true, decide_true,
        if_true, String.ofList_eq_empty_iff] at hname
      exact absurd hname percentEncode_ne_nil

theorem mem_delimiters_of_isAuthorityEnd {kind : Kind} {c : Char}
    (h : isAuthorityEnd kind c = true) : c ∈ delimiters := by
  simp only [isAuthorityEnd, isPathEnd, Bool.or_eq_true, Bool.and_eq_true, beq_iff_eq] at h
  rcases h with (rfl | rfl | rfl) | ⟨rfl, -⟩ <;> decide

theorem not_isAuthorityEnd (kind : Kind) {word colon : List Char}
    (hw : ∀ c ∈ word, c ∉ delimiters) (hc : colon = [] ∨ colon = [':']) :
    ∀ d ∈ word ++ colon, (!isAuthorityEnd kind d) = true := by
  intro d hd
  rw [Bool.not_eq_true']
  by_contra he
  have he := eq_true_of_ne_false he
  rcases List.mem_append.mp hd with hd | hd
  · exact hw d hd (mem_delimiters_of_isAuthorityEnd he)
  · rcases hc with rfl | rfl
    · cases hd
    · rw [List.mem_singleton.mp hd] at he
      simp [isAuthorityEnd, isPathEnd] at he

theorem domainHost_of_readAfterSlashes {kind : Kind} {scheme : String} {c : Char}
    {word rest : List Char} {u : Url} (hk : kind.isSpecial = true)
    (hw : ∀ d ∈ c :: word, d ∉ delimiters)
    (h : readAfterSlashes kind scheme (c :: word ++ ':' :: rest) = .ok u)
    (hu : u.hasUserinfo = false) :
    ∃ host, domainHost (c :: word) = .ok host ∧ u.host = some host := by
  have htake : (c :: word ++ ':' :: rest).takeWhile (!isAuthorityEnd kind ·) =
      c :: word ++ ':' :: rest.takeWhile (!isAuthorityEnd kind ·) := by
    rw [List.append_cons, List.takeWhile_append_of_pos (not_isAuthorityEnd kind hw (.inr rfl)),
      ← List.append_cons]
  simp only [readAfterSlashes, htake] at h
  split at h
  · cases h
  · rename_i a ha
    cases h
    simp only [hasUserinfo, Bool.or_eq_false_iff, decide_eq_false_iff_not, not_not] at hu
    exact ⟨a.host, domainHost_of_readAuthority hk hw ha hu.1, rfl⟩

/-- A word with perhaps an empty port behind it is a host. -/
theorem readAuthority_of_word {kind : Kind} {scheme : String} {word colon : List Char}
    {host : Host} {more : Bool} (hk : kind.isSpecial = true) (hne : word ≠ [])
    (hw : ∀ c ∈ word, c ∉ delimiters) (hd : domainHost word = .ok host)
    (hh : host ≠ .domain "") (hc : colon = [] ∨ colon = [':']) :
    readAuthority kind scheme (word ++ colon) more = .ok ⟨"", none, host, none, []⟩ := by
  have hat : '@' ∉ word ++ colon := by
    intro hm
    rcases List.mem_append.mp hm with hm | hm
    · exact hw '@' hm (by decide)
    · rcases hc with rfl | rfl <;> simp at hm
  have hsplit : splitUserinfo (word ++ colon) = (none, word ++ colon) := by
    rcases splitUserinfo_eq (word ++ colon) with he | ⟨userinfo, rest, he, -⟩
    · exact he
    · exact absurd (he ▸ List.mem_append_right userinfo List.mem_cons_self) hat
  have hhost : splitHost false (word ++ colon) = (word, colon) :=
    splitHost_append hw (by obtain rfl | rfl := hc <;> simp)
  rw [readAuthority, hsplit]
  simp only [readHostPort, hhost, hk, hne, and_false, if_false, if_true, hd, hh, false_and]
  rcases hc with rfl | rfl <;> rfl

theorem readAfterSlashes_of_word {kind : Kind} {scheme : String} {word colon rest : List Char}
    {host : Host} (hk : kind.isSpecial = true) (hne : word ≠ [])
    (hw : ∀ c ∈ word, c ∉ delimiters) (hd : domainHost word = .ok host)
    (hh : host ≠ .domain "") (hc : colon = [] ∨ colon = [':'])
    (hr : ∀ c ∈ rest.head?, isAuthorityEnd kind c = true) :
    readAfterSlashes kind scheme (word ++ colon ++ rest) = .ok {
      scheme := scheme
      username := ""
      password := none
      host := some host
      port := none
      path := readPath kind rest
      query := (readQuery kind (rest.dropWhile (!isPathEnd ·))).1
      fragment := (readQuery kind (rest.dropWhile (!isPathEnd ·))).2 } := by
  have hin := not_isAuthorityEnd kind hw hc
  have hrest : rest.takeWhile (!isAuthorityEnd kind ·) = [] ∧
      rest.dropWhile (!isAuthorityEnd kind ·) = rest := by
    cases rest with
    | nil => exact ⟨rfl, rfl⟩
    | cons c rest => simp [hr c rfl]
  have htake : (word ++ colon ++ rest).takeWhile (!isAuthorityEnd kind ·) = word ++ colon := by
    rw [List.takeWhile_append_of_pos hin, hrest.1, List.append_nil]
  have hdrop : (word ++ colon ++ rest).dropWhile (!isAuthorityEnd kind ·) = rest := by
    rw [List.dropWhile_append_of_pos hin, hrest.2]
  simp only [readAfterSlashes, htake, hdrop, readAuthority_of_word hk hne hw hd hh hc,
    List.nil_append]

/-- An address whose host is a word, perhaps with an empty port. -/
theorem parse_of_word {text scheme : String} {word colon rest : List Char} {host : Host}
    (hs : splitScheme? (clean text.toList) =
      some (scheme.toList, '/' :: '/' :: (word ++ colon ++ rest)))
    (hk : Kind.ofScheme scheme = .special) (hne : word ≠ []) (hw : ∀ c ∈ word, c ∉ delimiters)
    (hd : domainHost word = .ok host) (hh : host ≠ .domain "") (hc : colon = [] ∨ colon = [':'])
    (hr : ∀ c ∈ rest.head?, isAuthorityEnd .special c = true) :
    parse text = .ok {
      scheme := scheme
      username := ""
      password := none
      host := some host
      port := none
      path := readPath .special rest
      query := (readQuery .special (rest.dropWhile (!isPathEnd ·))).1
      fragment := (readQuery .special (rest.dropWhile (!isPathEnd ·))).2 } := by
  have hslash : ('/' :: '/' :: (word ++ colon ++ rest)).dropWhile isSlash =
      word ++ colon ++ rest := by
    cases word with
    | nil => exact absurd rfl hne
    | cons c word => exact dropWhile_isSlash (hw c List.mem_cons_self) _
  rw [parse, hs]
  simp only [String.ofList_toList, readAfterScheme, hk, hslash]
  exact readAfterSlashes_of_word rfl hne hw hd hh hc hr

end GuestNet.Url
