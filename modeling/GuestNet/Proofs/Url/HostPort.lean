import GuestNet.Decimal.Digits
import GuestNet.Proofs.Url.Reading

/-! Addresses of a scheme that is not special, of which the text ends in a colon and a port. If there
is no userinfo, path, query or fragment in such an address, nothing but its host and perhaps an empty
userinfo stands between the slashes and that port. -/
namespace GuestNet.Url

section Lists

variable {α : Type} {a : α} {xs ys zs ts : List α}

/-- What stands before a tail in which it does not occur leaves the tail whole. -/
theorem exists_of_append_cons_eq (h : xs ++ a :: ys = zs ++ ts) (ha : a ∉ ts) :
    ∃ ws, zs = xs ++ a :: ws ∧ ys = ws ++ ts := by
  rcases List.append_eq_append_iff.mp h with ⟨as, rfl, he⟩ | ⟨bs, rfl, he⟩
  · cases as with
    | nil =>
      rw [List.nil_append] at he
      exact absurd (he ▸ List.mem_cons_self) ha
    | cons b ws =>
      obtain ⟨rfl, rfl⟩ := List.cons.inj he
      exact ⟨ws, rfl, rfl⟩
  · exact absurd (he ▸ List.mem_append_right bs List.mem_cons_self) ha

/-- There is one last occurrence. -/
theorem append_cons_inj (h : xs ++ a :: ys = zs ++ a :: ts) (hy : a ∉ ys) (ht : a ∉ ts) :
    xs = zs ∧ ys = ts := by
  rcases List.append_eq_append_iff.mp h with ⟨as, rfl, he⟩ | ⟨as, rfl, he⟩
  · cases as with
    | nil => exact ⟨(List.append_nil xs).symm, (List.cons.inj he).2⟩
    | cons b ws => exact absurd ((List.cons.inj he).2 ▸ List.mem_append_right ws List.mem_cons_self) hy
  · cases as with
    | nil => exact ⟨List.append_nil zs, (List.cons.inj he).2.symm⟩
    | cons b ws => exact absurd ((List.cons.inj he).2 ▸ List.mem_append_right ws List.mem_cons_self) ht

/-- There is one first occurrence. -/
theorem append_cons_inj_left (h : xs ++ a :: ys = zs ++ a :: ts) (hx : a ∉ xs) (hz : a ∉ zs) :
    xs = zs ∧ ys = ts := by
  have h' : ys.reverse ++ a :: xs.reverse = ts.reverse ++ a :: zs.reverse := by
    simpa using congrArg List.reverse h
  obtain ⟨hy, hx⟩ := append_cons_inj h' (by simpa using hx) (by simpa using hz)
  exact ⟨List.reverse_inj.mp hx, List.reverse_inj.mp hy⟩

end Lists

theorem clean_append_of_kept {s t : List Char} (ht : t ≠ []) (hk : ∀ c ∈ t, 0x20 < c.toNat) :
    clean (s ++ t) = (s.dropWhile isEdge).filter isKept ++ t := by
  have hedge : ∀ c ∈ t, isEdge c = false := fun c hc => decide_eq_false (Nat.not_le.mpr (hk c hc))
  have hfilter : t.filter isKept = t :=
    List.filter_eq_self.mpr fun c hc => isKept_of_not_isEdge (hk c hc)
  have hfront : (s ++ t).dropWhile isEdge = s.dropWhile isEdge ++ t := by
    rw [List.dropWhile_append]
    split
    · rename_i he
      rw [List.isEmpty_iff.mp he, List.nil_append]
      cases t with
      | nil => rfl
      | cons c t => exact List.dropWhile_cons_of_neg (by simp [hedge c List.mem_cons_self])
    · rfl
  have hback : (s.dropWhile isEdge ++ t).reverse.dropWhile isEdge =
      (s.dropWhile isEdge ++ t).reverse := by
    obtain ⟨c, r, hr⟩ := List.exists_cons_of_ne_nil (List.reverse_ne_nil_iff.mpr ht)
    have hc := hedge c (List.mem_reverse.mp (hr ▸ List.mem_cons_self))
    rw [List.reverse_append, hr, List.cons_append, List.dropWhile_cons_of_neg (by simp [hc])]
  rw [clean_eq, core, hfront, hback, List.reverse_reverse, List.filter_append, hfilter]

section Path

theorem splitOn_append {t : List Char} (ht : '/' ∉ t) (s : List Char) :
    ∃ segments last, (s ++ t).splitOn '/' = segments ++ [last] ∧ ∀ c ∈ t, c ∈ last := by
  induction s with
  | nil =>
    refine ⟨[], t, ?_, fun c hc => hc⟩
    rw [List.nil_append, List.splitOn_eq_singleton ht]
    rfl
  | cons c s ih =>
    obtain ⟨segments, last, he, hlast⟩ := ih
    rw [List.cons_append, List.splitOn_cons_eq_if_modifyHead, he]
    split
    · exact ⟨[] :: segments, last, rfl, hlast⟩
    · cases segments with
      | nil => exact ⟨[], c :: last, rfl, fun d hd => List.mem_cons_of_mem c (hlast d hd)⟩
      | cons s segments => exact ⟨(c :: s) :: segments, last, rfl, hlast⟩

theorem resolve_append (kind : Kind) (done segments : List Segment) (last : Segment) :
    ∃ done', resolve kind done (segments ++ [last]) = addSegment kind true done' last := by
  induction segments generalizing done with
  | nil => exact ⟨done, rfl⟩
  | cons s segments ih =>
    obtain ⟨t, rest, he⟩ : ∃ t rest, segments ++ [last] = t :: rest :=
      List.exists_cons_of_ne_nil (List.append_ne_nil_of_right_ne_nil _ (List.cons_ne_nil _ _))
    obtain ⟨done', hd⟩ := ih (addSegment kind false done s)
    refine ⟨done', ?_⟩
    rw [List.cons_append, he, resolve, ← he, hd]
    exact List.cons_ne_nil t rest

theorem addSegment_of_colon {last : Segment} (hc : ':' ∈ last) (done : List Segment) :
    ∃ s, s ≠ [] ∧ addSegment .other true done last = s :: done := by
  obtain ⟨hsingle, hdouble⟩ := not_dots_of_colon hc
  rw [addSegment, hdouble, hsingle]
  refine ⟨_, ?_, rfl⟩
  cases last with
  | nil => cases hc
  | cons c last => exact percentEncode_ne_nil

/-- A path whose last segment has a colon in it is more than a slash. -/
theorem length_resolvePath {t : List Char} (ht : '/' ∉ t) (hc : ':' ∈ t) (s : List Char) :
    1 < (resolvePath .other [] (s ++ t)).write.length := by
  obtain ⟨segments, last, he, hlast⟩ := splitOn_append ht s
  obtain ⟨done, hd⟩ := resolve_append .other [] segments last
  obtain ⟨piece, hp, ha⟩ := addSegment_of_colon (hlast ':' hc) done
  have hsplit : splitSegments .other (s ++ t) = segments ++ [last] := he
  have hpath : resolvePath .other [] (s ++ t) =
      .segments (done.reverse.map String.ofList ++ [String.ofList piece]) := by
    rw [resolvePath, hsplit, List.reverse_nil, hd, ha, List.reverse_cons]
    exact congrArg Path.segments List.map_append
  have hpos := List.length_pos_iff.mpr hp
  have hslash : ("/" ++ String.ofList piece).length = piece.length + 1 := by
    simp only [String.length_append, String.length_ofList]
    exact Nat.add_comm 1 piece.length
  rw [hpath, Path.write, String.length_join, List.map_append, List.map_append, List.sum_append_nat,
    List.map_singleton, List.map_singleton, List.sum_singleton, hslash]
  omega

/-- What stands before a colon and a port shows in the path, in the query or in the fragment. -/
theorem tail_shows {c : Char} {s t : List Char} (ht : '/' ∉ ':' :: t)
    (hq : readQuery .other ((c :: (s ++ ':' :: t)).dropWhile (!isPathEnd ·)) = (none, none)) :
    1 < (readPath .other (c :: (s ++ ':' :: t))).write.length := by
  have hnone : (c :: (s ++ ':' :: t)).dropWhile (!isPathEnd ·) = [] := by
    cases hd : (c :: (s ++ ':' :: t)).dropWhile (!isPathEnd ·) with
    | nil => rfl
    | cons d rest =>
      have hend := List.head?_dropWhile_not (!isPathEnd ·) (c :: (s ++ ':' :: t))
      rw [hd] at hend hq
      have hend : d = '?' ∨ d = '#' := or_iff_not_imp_left.mpr (by simpa [isPathEnd] using hend)
      rcases hend with rfl | rfl
      · rw [readQuery] at hq
        split at hq <;> cases hq
      · cases hq
  have htake : (c :: (s ++ ':' :: t)).takeWhile (!isPathEnd ·) = c :: (s ++ ':' :: t) := by
    have he := List.takeWhile_append_dropWhile (p := (!isPathEnd ·)) (l := c :: (s ++ ':' :: t))
    rwa [hnone, List.append_nil] at he
  rw [readPath, htake]
  dsimp only
  split
  · exact length_resolvePath ht List.mem_cons_self s
  · exact length_resolvePath ht List.mem_cons_self (c :: s)

end Path

section Authority

variable {scheme : String} {s : List Char}

theorem value_eq_foldl (digits : List Char) :
    Decimal.value digits = digits.foldl (fun n d => n * 10 + (d.toNat - 48)) 0 := by
  have hstep : (fun (n : Nat) (d : Char) => 10 * n + Decimal.digitValue d) =
      fun n d => n * 10 + (d.toNat - 48) := by
    funext n d
    rw [Nat.mul_comm]
    rfl
  rw [Decimal.value, hstep]

theorem readPort_eq_ok {port : Option Nat} {rest : List Char}
    (h : readPort scheme s = .ok (port, rest)) :
    s = s.takeWhile Char.isDigit ++ rest ∧ (∀ c ∈ rest.head?, c = '\\') ∧
      (s.takeWhile Char.isDigit ≠ [] → defaultPort? scheme = none →
        port = some (Decimal.value (s.takeWhile Char.isDigit)) ∧
          Decimal.value (s.takeWhile Char.isDigit) < 65536) := by
  simp only [readPort, ← value_eq_foldl] at h
  split at h
  · cases h
  · rename_i hv
    split at h
    · cases h
    · rename_i hr
      cases h
      refine ⟨List.takeWhile_append_dropWhile.symm, fun c hc => ?_, fun hne hd => ?_⟩
      · by_contra hn
        apply hr
        refine ⟨fun he => ?_, fun he => ?_⟩
        · rw [he] at hc
          cases hc
        · rw [he] at hc
          exact hn (Option.some.inj hc).symm
      · rw [if_neg (by simp [hne, hd])]
        exact ⟨rfl, by omega⟩

theorem splitHost_spec (brackets : Bool) (s : List Char) :
    s = (splitHost brackets s).1 ++ (splitHost brackets s).2 ∧
      ∀ c ∈ (splitHost brackets s).2.head?, c = ':' := by
  induction s generalizing brackets with
  | nil => exact ⟨rfl, nofun⟩
  | cons c s ih =>
    rw [splitHost]
    split
    · rename_i hc
      refine ⟨rfl, ?_⟩
      rintro d ⟨⟩
      exact hc.1
    · obtain ⟨he, hhead⟩ := ih (if c = '[' then true else if c = ']' then false else brackets)
      exact ⟨congrArg (c :: ·) he, hhead⟩

theorem readHostPort_other {userinfo : String × Option String} {a : Authority}
    (h : readHostPort .other scheme userinfo s = .ok a) :
    (a.username = userinfo.1 ∧ a.password = userinfo.2) ∧
      plainHost (splitHost false s).1 = .ok a.host ∧
        ((splitHost false s).2 = [] ∧ a.rest = [] ∨ ∃ portText,
          (splitHost false s).2 = ':' :: portText ∧
            readPort scheme portText = .ok (a.port, a.rest)) := by
  have hhead := (splitHost_spec false s).2
  rw [readHostPort] at h
  simp only [Kind.isSpecial, Bool.false_eq_true, false_and, if_false] at h
  split at h
  · cases h
  · rename_i host hd
    split at h
    · cases h
    · split at h
      · rename_i hafter
        cases h
        exact ⟨⟨rfl, rfl⟩, hd, .inl ⟨hafter, rfl⟩⟩
      · rename_i c portText hafter
        rw [hafter] at hhead
        obtain rfl := hhead c rfl
        cases hp : readPort scheme portText with
        | error e =>
          rw [hp] at h
          cases h
        | ok p =>
          rw [hp] at h
          cases h
          exact ⟨⟨rfl, rfl⟩, hd, .inr ⟨portText, hafter, hp⟩⟩

theorem not_mem_splitUserinfo (s : List Char) : '@' ∉ (splitUserinfo s).2 := by
  intro hm
  rw [splitUserinfo] at hm
  split at hm
  · rename_i hd
    have hne := List.dropWhile_eq_nil_iff.mp hd '@' (List.mem_reverse.mpr hm)
    simp at hne
  · have hne := List.mem_takeWhile_imp (List.mem_reverse.mp hm)
    simp at hne

/-- An empty name and no password are read from nothing, or from a lone colon. -/
theorem eq_of_readUserinfo (h : readUserinfo s = ("", none)) : s = [] ∨ s = [':'] := by
  simp only [readUserinfo, Prod.mk.injEq, String.ofList_eq_empty_iff] at h
  obtain ⟨hname, hpassword⟩ := h
  cases s with
  | nil => exact .inl rfl
  | cons c s =>
    by_cases hc : c = ':'
    · subst hc
      cases s with
      | nil => exact .inr rfl
      | cons d s => simp at hpassword
    · rw [List.takeWhile_cons_of_pos (by simpa using hc)] at hname
      exact absurd hname percentEncode_ne_nil

theorem readAuthority_other {a : Authority} {more : Bool}
    (h : readAuthority .other scheme s more = .ok a) :
    ∃ lead userinfo host, s = lead ++ host ∧ '@' ∉ host ∧
      readHostPort .other scheme userinfo host = .ok a ∧
        (userinfo = ("", none) → lead = [] ∨ lead = ['@'] ∨ lead = [':', '@']) := by
  have hat := not_mem_splitUserinfo s
  rw [readAuthority] at h
  rcases splitUserinfo_eq s with he | ⟨name, host, hs, he⟩
  · rw [he] at h hat
    exact ⟨[], ("", none), s, rfl, hat, h, fun _ => .inl rfl⟩
  · rw [he] at h hat
    have hs' : s = (name ++ ['@']) ++ host := by rw [hs, List.append_assoc]; rfl
    cases name with
    | nil =>
      dsimp only at h
      split at h
      · cases h
      · exact ⟨['@'], ("", none), host, hs', hat, h, fun _ => .inr (.inl rfl)⟩
    | cons c name =>
      refine ⟨_, readUserinfo (c :: name), host, hs', hat, h, fun hempty => ?_⟩
      rcases eq_of_readUserinfo hempty with hnil | hcolon
      · cases hnil
      · rw [hcolon]
        exact .inr (.inr rfl)

/-- What an authority leaves over stands at its end, after a backslash. -/
theorem rest_of_readAuthority {a : Authority} {more : Bool}
    (h : readAuthority .other scheme s more = .ok a) :
    (∃ front, s = front ++ a.rest) ∧ ∀ c ∈ a.rest.head?, c = '\\' := by
  obtain ⟨lead, userinfo, host, rfl, -, hread, -⟩ := readAuthority_other h
  obtain ⟨-, -, ⟨-, hnil⟩ | ⟨portText, hafter, hport⟩⟩ := readHostPort_other hread
  · rw [hnil]
    exact ⟨⟨_, (List.append_nil _).symm⟩, nofun⟩
  · obtain ⟨hsplit, hhead, -⟩ := readPort_eq_ok hport
    refine ⟨⟨lead ++ ((splitHost false host).1 ++ ':' :: portText.takeWhile Char.isDigit), ?_⟩, hhead⟩
    have hhost := (splitHost_spec false host).1
    rw [hafter] at hhost
    rw [List.append_assoc, List.append_assoc, List.cons_append, ← hsplit]
    exact congrArg (lead ++ ·) hhost

/-- The characters that are looked for in a port. -/
def isPortChar (c : Char) : Bool := c.isDigit || c == '+'

theorem lt_toNat_of_isPortChar {c : Char} (h : isPortChar c = true) : 0x20 < c.toNat := by
  rw [isPortChar, Bool.or_eq_true, beq_iff_eq] at h
  rcases h with hd | rfl
  · have hc : 48 ≤ c.toNat ∧ c.toNat ≤ 57 := Char.isDigit_iff_toNat.mp hd
    omega
  · decide

theorem not_mem_port {port : List Char} (hp : ∀ c ∈ port, isPortChar c = true) {c : Char}
    (hc : isPortChar c = false) : c ∉ port :=
  fun hm => by simp [hp c hm] at hc

theorem bracketedHost_eq_ok {host : Host} (h : bracketedHost s = .ok host) :
    ∃ pieces, s.getLast? = some ']' ∧ Ipv6.parse? s.dropLast = some pieces ∧
      host = .ipv6 pieces := by
  rw [bracketedHost] at h
  split at h
  · rename_i hlast
    split at h
    · rename_i pieces hpieces
      cases h
      exact ⟨pieces, hlast, hpieces, rfl⟩
    · cases h
  · cases h

/-- A host outside brackets has no colon in it, and one in brackets does not end like a port. -/
theorem plainHost_ne_ok {t : List Char} {host : Host} (hp : ∀ c ∈ t, isPortChar c = true)
    (hne : t ≠ []) : plainHost (s ++ ':' :: t) ≠ .ok host := by
  intro h
  rw [plainHost.eq_def] at h
  split at h
  · rename_i rest he
    obtain ⟨-, hlast, -, -⟩ := bracketedHost_eq_ok h
    have hend : (s ++ ':' :: t).getLast? = some ']' := by
      rw [he, List.getLast?_cons, hlast]
      rfl
    have ht : t.getLast? = some (t.getLast hne) := List.getLast?_eq_some_getLast hne
    rw [List.append_cons, List.getLast?_append, ht, Option.some_or] at hend
    exact not_mem_port hp (by decide) (List.mem_of_getLast? (ht.trans hend))
  · have hcolon : (s ++ ':' :: t).any isForbiddenHostChar = true :=
      List.any_eq_true.mpr ⟨':', List.mem_append_right s List.mem_cons_self, by decide⟩
    rw [if_pos hcolon] at h
    cases h

/-- A text is a host, perhaps behind an empty userinfo, and a port follows it. -/
structure IsHostPort (front port : List Char) (host : Host) (number : Option Nat) : Prop where
  exists_lead : ∃ lead text, front = lead ++ text ∧
    (lead = [] ∨ lead = ['@'] ∨ lead = [':', '@']) ∧ '@' ∉ text ∧ plainHost text = .ok host
  isDigit : ∀ c ∈ port, c.isDigit = true
  number_eq : number = some (Decimal.value port)
  value_lt : Decimal.value port < 65536

/-- Without userinfo, the text up to the port is the host. -/
theorem hostPort_of_readAuthority {a : Authority} {more : Bool} {front port : List Char}
    (h : readAuthority .other scheme (front ++ ':' :: port) more = .ok a) (hname : a.username = "")
    (hpassword : a.password = none) (hrest : a.rest = []) (hne : port ≠ [])
    (hp : ∀ c ∈ port, isPortChar c = true) (hd : defaultPort? scheme = none) :
    IsHostPort front port a.host a.port := by
  have hcolon : ':' ∉ port := not_mem_port hp (by decide)
  obtain ⟨lead, userinfo, hostPort, hsplit, hat, hread, hlead⟩ := readAuthority_other h
  obtain ⟨huser, hhost, hafter⟩ := readHostPort_other hread
  replace hlead := hlead (by rw [← hname, ← hpassword, huser.1, huser.2])
  -- neither the characters of the port nor its colon are part of the userinfo
  obtain ⟨host, rfl, rfl⟩ : ∃ host, front = lead ++ host ∧ hostPort = host ++ ':' :: port := by
    have hport : '@' ∉ ':' :: port := by
      intro hm
      rcases List.mem_cons.mp hm with he | hm
      · cases he
      · exact not_mem_port hp (by decide) hm
    rcases hlead with rfl | rfl | rfl
    · exact ⟨front, rfl, hsplit.symm⟩
    · have he : [] ++ '@' :: hostPort = front ++ ':' :: port := hsplit.symm
      exact exists_of_append_cons_eq he hport
    · have he : [':'] ++ '@' :: hostPort = front ++ ':' :: port := hsplit.symm
      exact exists_of_append_cons_eq he hport
  have hhead := (splitHost_spec false (host ++ ':' :: port)).1
  rcases hafter with ⟨hnil, -⟩ | ⟨portText, hafter, hport⟩
  · rw [hnil, List.append_nil] at hhead
    rw [← hhead] at hhost
    exact absurd hhost (plainHost_ne_ok hp hne)
  · obtain ⟨hdigits, -, hvalue⟩ := readPort_eq_ok hport
    rw [hrest, List.append_nil] at hdigits
    have hall : ∀ c ∈ portText, c.isDigit = true := by
      intro c hc
      rw [hdigits] at hc
      exact List.mem_takeWhile_imp hc
    rw [hafter] at hhead
    obtain ⟨hhostText, hportText⟩ := append_cons_inj hhead hcolon fun hm => by cases hall ':' hm
    rw [← hhostText] at hhost
    rw [← hportText] at hdigits hall hvalue
    rw [← hdigits] at hvalue
    obtain ⟨hnumber, hlt⟩ := hvalue hne hd
    exact ⟨⟨lead, host, rfl, hlead, fun hm => hat (List.mem_append_left _ hm), hhost⟩, hall,
      hnumber, hlt⟩

/-- Nothing is left over after an address without a path, a query and a fragment. -/
theorem hostPort_of_readAfterSlashes {u : Url} {front port : List Char}
    (h : readAfterSlashes .other scheme (front ++ ':' :: port) = .ok u)
    (hi : u.hasUserinfo = false) (hpath : u.path.write.length ≤ 1) (hquery : u.query = none)
    (hfragment : u.fragment = none) (hne : port ≠ []) (hp : ∀ c ∈ port, isPortChar c = true)
    (hd : defaultPort? scheme = none) :
    ∃ host, u.host = some host ∧ IsHostPort front port host u.port := by
  have hnot {c : Char} (hc : isPortChar c = false) (hcolon : c ≠ ':') : c ∉ ':' :: port := by
    intro hm
    rcases List.mem_cons.mp hm with rfl | hm
    · exact hcolon rfl
    · exact not_mem_port hp hc hm
  have hsplit := (List.takeWhile_append_dropWhile (p := (!isAuthorityEnd .other ·))
    (l := front ++ ':' :: port)).symm
  simp only [readAfterSlashes] at h
  generalize (front ++ ':' :: port).takeWhile (!isAuthorityEnd .other ·) = authority at h hsplit
  have hend : ∀ c ∈ ((front ++ ':' :: port).dropWhile (!isAuthorityEnd .other ·)).head?,
      c ∉ ':' :: port := by
    intro c hc
    have hhead := List.head?_dropWhile_not (!isAuthorityEnd .other ·) (front ++ ':' :: port)
    rw [Option.mem_def.mp hc] at hhead
    have hc : c = '/' ∨ c = '?' ∨ c = '#' := by
      simpa [isAuthorityEnd, isPathEnd, Kind.isSpecial, or_iff_not_imp_left] using hhead
    rcases hc with rfl | rfl | rfl <;> exact hnot (by decide) (by decide)
  generalize (front ++ ':' :: port).dropWhile (!isAuthorityEnd .other ·) = rest at h hsplit hend
  split at h
  · cases h
  · rename_i a ha
    obtain ⟨⟨before, hbefore⟩, hslash⟩ := rest_of_readAuthority ha
    cases h
    dsimp only at hpath hquery hfragment
    -- otherwise the colon and the port stand in the path, the query or the fragment
    have hnil : a.rest ++ rest = [] := by
      cases hr : a.rest ++ rest with
      | nil => rfl
      | cons c left =>
        have hc : c ∉ ':' :: port := by
          cases hrest : a.rest with
          | nil =>
            rw [hrest, List.nil_append] at hr
            exact hend c (by rw [hr]; rfl)
          | cons d more =>
            rw [hrest, List.cons_append] at hr
            rw [← (List.cons.inj hr).1, hslash d (by rw [hrest]; rfl)]
            exact hnot (by decide) (by decide)
        rw [hbefore, List.append_assoc, hr] at hsplit
        obtain ⟨inner, -, rfl⟩ := exists_of_append_cons_eq hsplit.symm hc
        rw [hr] at hpath hquery hfragment
        have := tail_shows (hnot (c := '/') (by decide) (by decide)) (Prod.ext hquery hfragment)
        omega
    obtain ⟨hrest, rfl⟩ := List.append_eq_nil_iff.mp hnil
    rw [List.append_nil] at hsplit
    subst hsplit
    simp only [hasUserinfo, Bool.or_eq_false_iff, decide_eq_false_iff_not, not_not,
      Option.isSome_eq_false_iff, Option.isNone_iff_eq_none] at hi
    exact ⟨a.host, rfl, hostPort_of_readAuthority ha hi.1 hi.2 hrest hne hp hd⟩

end Authority

/-- An address with a host and a port and nothing else, from its scheme on. -/
theorem hostPort_of_parse {text : String} {u : Url} {front port : List Char}
    (h : parse text = .ok u) (hclean : clean text.toList = front ++ ':' :: port)
    (hk : Kind.ofScheme u.scheme = .other) (hd : defaultPort? u.scheme = none)
    (hhost : u.host ≠ none) (hi : u.hasUserinfo = false) (hpath : u.path.write.length ≤ 1)
    (hquery : u.query = none) (hfragment : u.fragment = none) (hne : port ≠ [])
    (hp : ∀ c ∈ port, isPortChar c = true) :
    ∃ name rest host, front = name ++ ':' :: '/' :: '/' :: rest ∧ ':' ∉ name ∧
      u.host = some host ∧ IsHostPort rest port host u.port := by
  obtain ⟨scheme, rest, hsplit, hread, hscheme⟩ := parse_eq_ok h
  obtain ⟨name, htext, -, -, hname⟩ := splitScheme?_eq_some hsplit
  rw [hscheme] at hk hd
  simp only [readAfterScheme, hk] at hread
  split at hread
  · rename_i rest
    have hslash : '/' ∉ ':' :: port := by
      rw [List.mem_cons, not_or]
      exact ⟨by decide, not_mem_port hp (by decide)⟩
    have htail : name ++ [':', '/'] ++ '/' :: rest = front ++ ':' :: port := by
      rw [← hclean, htext, List.append_assoc]
      rfl
    obtain ⟨inner, hfront, rfl⟩ := exists_of_append_cons_eq htail hslash
    obtain ⟨host, hhost, hends⟩ :=
      hostPort_of_readAfterSlashes hread hi hpath hquery hfragment hne hp hd
    exact ⟨name, inner, host, by rw [hfront, List.append_assoc]; rfl, hname, hhost, hends⟩
  · cases hread
    exact absurd rfl hhost

end GuestNet.Url
