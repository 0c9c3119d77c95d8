import GuestNet.Proofs.Access.RequestedEndpoint
import GuestNet.Proofs.Url.HostCase

/-! The letter case of an address up to the end of its host. Where an address leads does not depend
on it: the reader cuts a text at delimiters, which have no case, and what it reads from the pieces is
the same in lower case. -/
namespace GuestNet.Url

section Blind

variable {p : Char → Bool} {d : Char}

theorem takeWhile_map_toLower (hp : ∀ c : Char, p c.toLower = p c) (s : List Char) :
    (s.map Char.toLower).takeWhile p = (s.takeWhile p).map Char.toLower := by
  rw [List.takeWhile_map, Function.comp_def, funext hp]

theorem dropWhile_map_toLower (hp : ∀ c : Char, p c.toLower = p c) (s : List Char) :
    (s.map Char.toLower).dropWhile p = (s.dropWhile p).map Char.toLower := by
  rw [List.dropWhile_map, Function.comp_def, funext hp]

theorem filter_map_toLower (hp : ∀ c : Char, p c.toLower = p c) (s : List Char) :
    (s.map Char.toLower).filter p = (s.filter p).map Char.toLower := by
  rw [List.filter_map, Function.comp_def, funext hp]

theorem beq_toLower (hd : d.isAlpha = false) (c : Char) : (c.toLower == d) = (c == d) := by
  rw [Bool.eq_iff_iff, beq_iff_eq, beq_iff_eq]
  exact toLower_eq_nonletter_iff hd

theorem ne_toLower (hd : d.isAlpha = false) (c : Char) :
    decide (c.toLower ≠ d) = decide (c ≠ d) :=
  decide_eq_decide.mpr (not_congr (toLower_eq_nonletter_iff hd))

theorem isSlash_toLower (c : Char) : isSlash c.toLower = isSlash c := by
  rw [isSlash, isSlash, beq_toLower (by decide), beq_toLower (by decide)]

theorem isPathEnd_toLower (c : Char) : isPathEnd c.toLower = isPathEnd c := by
  rw [isPathEnd, isPathEnd, beq_toLower (by decide), beq_toLower (by decide)]

theorem isAuthorityEnd_toLower (kind : Kind) (c : Char) :
    isAuthorityEnd kind c.toLower = isAuthorityEnd kind c := by
  rw [isAuthorityEnd, isAuthorityEnd, isPathEnd_toLower, beq_toLower (by decide),
    beq_toLower (by decide)]

theorem isEdge_toLower (c : Char) : isEdge c.toLower = isEdge c := by
  rw [isEdge, isEdge, decide_eq_decide, toNat_toLower]
  split <;> omega

theorem isKept_toLower (c : Char) : isKept c.toLower = isKept c := by
  rw [isKept, isKept, ne_toLower (by decide), ne_toLower (by decide), ne_toLower (by decide)]

theorem isAlpha_toLower (c : Char) : c.toLower.isAlpha = c.isAlpha := by
  rw [Bool.eq_iff_iff, isAlpha_iff, isAlpha_iff, toNat_toLower]
  split <;> omega

theorem isSchemeChar_toLower (c : Char) : isSchemeChar c.toLower = isSchemeChar c := by
  rw [isSchemeChar, isSchemeChar, Char.isAlphanum, Char.isAlphanum, isAlpha_toLower,
    isDigit_toLower, beq_toLower (by decide), beq_toLower (by decide), beq_toLower (by decide)]

end Blind

theorem map_toLower_map_toLower (s : List Char) :
    (s.map Char.toLower).map Char.toLower = s.map Char.toLower := by
  rw [List.map_map]
  exact List.map_congr_left fun c _ => toLower_toLower c

theorem clean_map_toLower (s : List Char) :
    clean (s.map Char.toLower) = (clean s).map Char.toLower := by
  rw [clean_eq, clean_eq, core, core, dropWhile_map_toLower isEdge_toLower, ← List.map_reverse,
    dropWhile_map_toLower isEdge_toLower, ← List.map_reverse, filter_map_toLower isKept_toLower]

theorem splitScheme?_map_toLower (s : List Char) : splitScheme? (s.map Char.toLower) =
    (splitScheme? s).map fun (scheme, rest) => (scheme, rest.map Char.toLower) := by
  have hcolon {c : Char} : c.toLower = ':' ↔ c = ':' := toLower_eq_nonletter_iff (by decide)
  rw [splitScheme?, splitScheme?, takeWhile_map_toLower isSchemeChar_toLower,
    dropWhile_map_toLower isSchemeChar_toLower]
  rcases s.takeWhile isSchemeChar with _ | ⟨c, name⟩
  · rfl
  · rcases s.dropWhile isSchemeChar with _ | ⟨d, rest⟩
    · rfl
    · by_cases hd : d = ':'
      · rw [List.map_cons, List.map_cons, hcolon.mpr hd, hd]
        simp only [isAlpha_toLower, List.map_cons, toLower_toLower, map_toLower_map_toLower]
        split <;> rfl
      · simp [hd, mt hcolon.mp hd]

theorem splitHost_map_toLower (brackets : Bool) (s : List Char) :
    splitHost brackets (s.map Char.toLower) =
      ((splitHost brackets s).1.map Char.toLower, (splitHost brackets s).2.map Char.toLower) := by
  have hcolon {c : Char} : c.toLower = ':' ↔ c = ':' := toLower_eq_nonletter_iff (by decide)
  have hopen {c : Char} : c.toLower = '[' ↔ c = '[' := toLower_eq_nonletter_iff (by decide)
  have hclose {c : Char} : c.toLower = ']' ↔ c = ']' := toLower_eq_nonletter_iff (by decide)
  induction s generalizing brackets with
  | nil => rfl
  | cons c s ih =>
    rw [List.map_cons, splitHost, splitHost]
    simp only [hcolon, hopen, hclose, ih]
    split <;> rfl

theorem splitUserinfo_map_toLower (s : List Char) : splitUserinfo (s.map Char.toLower) =
    ((splitUserinfo s).1.map (List.map Char.toLower), (splitUserinfo s).2.map Char.toLower) := by
  have hat : ∀ c : Char, decide (c.toLower ≠ '@') = decide (c ≠ '@') := ne_toLower (by decide)
  rw [splitUserinfo, splitUserinfo, ← List.map_reverse, dropWhile_map_toLower hat,
    takeWhile_map_toLower hat, ← List.map_reverse]
  cases s.reverse.dropWhile (· ≠ '@') with
  | nil => rfl
  | cons c front => simp

/-- A userinfo with a name or a password in it. -/
def isGiven (userinfo : String × Option String) : Bool := userinfo ≠ ("", none)

theorem isGiven_readUserinfo (s : List Char) :
    isGiven (readUserinfo s) = decide (s ≠ [] ∧ s ≠ [':']) := by
  rw [isGiven, decide_eq_decide, ← not_or, not_iff_not]
  refine ⟨eq_of_readUserinfo, ?_⟩
  rintro (rfl | rfl) <;> rfl

theorem isGiven_readUserinfo_map_toLower (s : List Char) :
    isGiven (readUserinfo (s.map Char.toLower)) = isGiven (readUserinfo s) := by
  have hcolon {c : Char} : c.toLower = ':' ↔ c = ':' := toLower_eq_nonletter_iff (by decide)
  rw [isGiven_readUserinfo, isGiven_readUserinfo]
  rcases s with _ | ⟨c, s⟩ <;> simp [hcolon]

/-- What counts in an authority. -/
structure Authority.View where
  hasUserinfo : Bool
  host : List Char
  port : Option Nat
  rest : List Char

def Authority.view (a : Authority) : View :=
  ⟨isGiven (a.username, a.password), a.host.folded, a.port, a.rest⟩

/-- What counts in a host and a port, from the host as it is compared and what follows it. -/
def viewHostPort (scheme : String) (hasUserinfo : Bool) (host after : List Char) :
    Option Authority.View :=
  if host = [] ∧ (after ≠ [] ∨ hasUserinfo = true) then none
  else
    match after with
    | [] => some ⟨hasUserinfo, host, none, []⟩
    | _ :: portText =>
      (readPort scheme portText).toOption.map fun (port, rest) => ⟨hasUserinfo, host, port, rest⟩

/-- The host in lower case, as it is compared. -/
def readHost? (kind : Kind) (s : List Char) : Option (List Char) :=
  if kind.isSpecial ∧ s = [] then none
  else ((if kind.isSpecial then domainHost s else plainHost s).map Host.folded).toOption

theorem readHost?_map_toLower (kind : Kind) (s : List Char) :
    readHost? kind (s.map Char.toLower) = readHost? kind s := by
  simp only [readHost?, domainHost_map_toLower, List.map_eq_nil_iff]
  split
  · rfl
  · split
    · rfl
    · rw [plainHost_map_toLower]

theorem view_readHostPort (kind : Kind) (scheme : String) (userinfo : String × Option String)
    (s : List Char) : (readHostPort kind scheme userinfo s).toOption.map Authority.view =
      (readHost? kind (splitHost false s).1).bind fun host =>
        viewHostPort scheme (isGiven userinfo) host (splitHost false s).2 := by
  rw [readHostPort, readHost?]
  obtain ⟨text, after⟩ := splitHost false s
  dsimp only
  split
  · rfl
  · cases (if kind.isSpecial = true then domainHost text else plainHost text) with
    | error e => rfl
    | ok host =>
      have hiff : (host.folded = [] ∧ (after ≠ [] ∨ isGiven userinfo = true)) ↔
          (host = .domain "" ∧ (after ≠ [] ∨ userinfo ≠ ("", none))) := by
        rw [Host.folded_eq_nil_iff, isGiven, decide_eq_true_iff]
      change Option.map Authority.view (Except.toOption _) =
        viewHostPort scheme (isGiven userinfo) host.folded after
      rw [viewHostPort.eq_def]
      by_cases hempty : host = .domain "" ∧ (after ≠ [] ∨ userinfo ≠ ("", none))
      · rw [if_pos (hiff.mpr hempty)]
        dsimp only
        rw [if_pos hempty]
        rfl
      · rw [if_neg (mt hiff.mp hempty)]
        dsimp only
        rw [if_neg hempty]
        cases after with
        | nil => rfl
        | cons c portText =>
          dsimp only
          cases readPort scheme portText <;> rfl

section Authority

/-- What is the same in lower case is the same for texts that only differ in case. -/
theorem eq_of_map_toLower {β : Type} {f : List Char → β}
    (hf : ∀ s : List Char, f (s.map Char.toLower) = f s) {s s' : List Char}
    (h : s.map Char.toLower = s'.map Char.toLower) : f s = f s' := by
  rw [← hf s, h, hf]

/-- There is a userinfo, and something in it. -/
def hasGiven (s : List Char) : Bool :=
  (splitUserinfo s).1.any fun text => isGiven (readUserinfo text)

theorem hasGiven_map_toLower (s : List Char) : hasGiven (s.map Char.toLower) = hasGiven s := by
  rw [hasGiven, hasGiven, splitUserinfo_map_toLower, Option.any_map]
  simp only [isGiven_readUserinfo_map_toLower]

/-- The host of an authority, as it is compared. -/
def hostIn? (kind : Kind) (s : List Char) : Option (List Char) :=
  readHost? kind (splitHost false (splitUserinfo s).2).1

theorem hostIn?_map_toLower (kind : Kind) (s : List Char) :
    hostIn? kind (s.map Char.toLower) = hostIn? kind s := by
  rw [hostIn?, hostIn?, splitUserinfo_map_toLower, splitHost_map_toLower, readHost?_map_toLower]

/-- What follows the host in an authority. -/
def behindHost (s : List Char) : List Char := (splitHost false (splitUserinfo s).2).2

theorem behindHost_map_toLower (s : List Char) :
    behindHost (s.map Char.toLower) = (behindHost s).map Char.toLower := by
  rw [behindHost, behindHost, splitUserinfo_map_toLower, splitHost_map_toLower]

/-- An empty userinfo and no host. -/
def isLone (s : List Char) : Bool := splitUserinfo s = (some [], [])

theorem isLone_map_toLower (s : List Char) : isLone (s.map Char.toLower) = isLone s := by
  rw [isLone, isLone, splitUserinfo_map_toLower, decide_eq_decide]
  rcases splitUserinfo s with ⟨_ | userinfo, host⟩ <;> simp

theorem view_readAuthority (kind : Kind) (scheme : String) (s : List Char) (more : Bool) :
    (readAuthority kind scheme s more).toOption.map Authority.view =
      if isLone s = true ∧ more = true then none
      else (hostIn? kind s).bind fun host =>
        viewHostPort scheme (hasGiven s) host (behindHost s) := by
  rw [readAuthority, isLone, hostIn?, hasGiven, behindHost]
  rcases splitUserinfo s with ⟨_ | _ | ⟨c, name⟩, hostPort⟩
  · exact (view_readHostPort kind scheme _ hostPort).trans (by simp [isGiven])
  · by_cases hempty : hostPort = [] ∧ more = true
    · simp [hempty, Except.toOption]
    · simp only [if_neg hempty]
      rw [if_neg (by simpa using hempty)]
      exact view_readHostPort kind scheme _ hostPort
  · exact (view_readHostPort kind scheme _ hostPort).trans (by simp)

theorem view_readAuthority_congr {s s' : List Char}
    (hs : s.map Char.toLower = s'.map Char.toLower) (hb : behindHost s = behindHost s')
    (kind : Kind) (scheme : String) (more : Bool) :
    (readAuthority kind scheme s more).toOption.map Authority.view =
      (readAuthority kind scheme s' more).toOption.map Authority.view := by
  rw [view_readAuthority, view_readAuthority, eq_of_map_toLower isLone_map_toLower hs,
    eq_of_map_toLower (hostIn?_map_toLower kind) hs, eq_of_map_toLower hasGiven_map_toLower hs, hb]

end Authority

section Leads

/-- Where an address leads, whether there is userinfo in it, and whether there is more in it than an
endpoint says. -/
def lead? (u : Url) : Option (Endpoint × Bool × Bool) :=
  u.endpoint?.map fun e => (e, u.hasUserinfo, u.query.isSome || u.fragment.isSome)

theorem map_lowerCase_hostText? (u : Url) : u.hostText?.map Endpoint.lowerCase =
    ((u.host.map Host.folded).filter (· ≠ [])).map String.ofList := by
  rw [hostText?]
  cases u.host with
  | none => rfl
  | some host =>
    have hnil : host.folded = [] ↔ host.write = "" := by
      rw [Host.folded, List.map_eq_nil_iff, String.toList_eq_nil_iff]
    by_cases he : host.write = ""
    · rw [Option.map_some, Option.map_some, he, hnil.mpr he]
      rfl
    · simp only [Option.map_some, Option.filter_some, ne_eq, hnil, he, not_false_eq_true,
        decide_true, if_true]
      rfl

theorem endpoint?_eq (u : Url) : u.endpoint? =
    (((u.host.map Host.folded).filter (· ≠ [])).map String.ofList).map fun host =>
      ⟨u.scheme, host, u.effectivePort?, Endpoint.pathText u⟩ := by
  rw [← map_lowerCase_hostText?, Option.map_map]
  rfl

theorem lead?_of_empty {u : Url} (h : u.host.map Host.folded = some []) : u.lead? = none := by
  rw [lead?, endpoint?_eq, h]
  rfl

theorem lead?_congr {u u' : Url} (hscheme : u.scheme = u'.scheme)
    (hinfo : u.hasUserinfo = u'.hasUserinfo)
    (hhost : u.host.map Host.folded = u'.host.map Host.folded) (hport : u.port = u'.port)
    (hpath : u.path = u'.path) (hquery : u.query = u'.query)
    (hfragment : u.fragment = u'.fragment) : u.lead? = u'.lead? := by
  rw [lead?, lead?, endpoint?_eq, endpoint?_eq, hhost, effectivePort?, effectivePort?,
    Endpoint.pathText, Endpoint.pathText, hscheme, hinfo, hport, hpath, hquery, hfragment]

/-- What follows the host in an address, from right after the slashes. -/
def afterHostIn (kind : Kind) (s : List Char) : List Char :=
  behindHost (s.takeWhile (!isAuthorityEnd kind ·)) ++ s.dropWhile (!isAuthorityEnd kind ·)

variable {s s' : List Char}

theorem takeWhile_authority_map_toLower (kind : Kind) (s : List Char) :
    (s.map Char.toLower).takeWhile (!isAuthorityEnd kind ·) =
      (s.takeWhile (!isAuthorityEnd kind ·)).map Char.toLower :=
  takeWhile_map_toLower (fun c => congrArg not (isAuthorityEnd_toLower kind c)) s

/-- Pieces of one length each make the same text only if they are the same. -/
theorem pieces_of_afterHostIn {kind : Kind} (hs : s.map Char.toLower = s'.map Char.toLower)
    (ha : afterHostIn kind s = afterHostIn kind s') :
    (s.takeWhile (!isAuthorityEnd kind ·)).map Char.toLower =
        (s'.takeWhile (!isAuthorityEnd kind ·)).map Char.toLower ∧
      behindHost (s.takeWhile (!isAuthorityEnd kind ·)) =
        behindHost (s'.takeWhile (!isAuthorityEnd kind ·)) ∧
      s.dropWhile (!isAuthorityEnd kind ·) = s'.dropWhile (!isAuthorityEnd kind ·) := by
  have htake : (s.takeWhile (!isAuthorityEnd kind ·)).map Char.toLower =
      (s'.takeWhile (!isAuthorityEnd kind ·)).map Char.toLower := by
    rw [← takeWhile_authority_map_toLower, hs, takeWhile_authority_map_toLower]
  have hlength : (behindHost (s.takeWhile (!isAuthorityEnd kind ·))).length =
      (behindHost (s'.takeWhile (!isAuthorityEnd kind ·))).length := by
    have hbehind := congrArg (fun t => (behindHost t).length) htake
    simpa only [behindHost_map_toLower, List.length_map] using hbehind
  exact ⟨htake, List.append_inj ha hlength⟩

theorem hasUserinfo_eq_isGiven (u : Url) : u.hasUserinfo = isGiven (u.username, u.password) := by
  rw [hasUserinfo, isGiven, Bool.eq_iff_iff]
  cases u.password <;> simp

/-- An address with slashes leads where it leads in lower case up to the end of its host. -/
theorem lead?_readAfterSlashes_congr {kind : Kind} (scheme : String)
    (hs : s.map Char.toLower = s'.map Char.toLower)
    (ha : afterHostIn kind s = afterHostIn kind s') :
    (readAfterSlashes kind scheme s).toOption.bind lead? =
      (readAfterSlashes kind scheme s').toOption.bind lead? := by
  obtain ⟨htake, hbehind, hdrop⟩ := pieces_of_afterHostIn hs ha
  simp only [readAfterSlashes, hdrop]
  have hview := view_readAuthority_congr htake hbehind kind scheme
    (decide (s'.dropWhile (!isAuthorityEnd kind ·) ≠ []))
  revert hview
  cases readAuthority kind scheme (s.takeWhile (!isAuthorityEnd kind ·))
      (decide (s'.dropWhile (!isAuthorityEnd kind ·) ≠ [])) with
  | error e =>
    cases readAuthority kind scheme (s'.takeWhile (!isAuthorityEnd kind ·))
        (decide (s'.dropWhile (!isAuthorityEnd kind ·) ≠ [])) with
    | error e' => exact fun _ => rfl
    | ok a' =>
      intro hview
      cases hview
  | ok a =>
    cases readAuthority kind scheme (s'.takeWhile (!isAuthorityEnd kind ·))
        (decide (s'.dropWhile (!isAuthorityEnd kind ·) ≠ [])) with
    | error e' =>
      intro hview
      cases hview
    | ok a' =>
      intro hview
      obtain ⟨hinfo, hhost, hport, hrest⟩ :=
        (Authority.View.mk.injEq ..).mp (Option.some.inj hview)
      apply lead?_congr
      · rfl
      · rw [hasUserinfo_eq_isGiven, hasUserinfo_eq_isGiven]
        exact hinfo
      · exact congrArg some hhost
      · exact hport
      all_goals
        dsimp only
        rw [hrest]

theorem isDriveLetter_map_toLower (s : List Char) :
    isDriveLetter (s.map Char.toLower) = isDriveLetter s := by
  rcases s with _ | ⟨c, _ | ⟨d, _ | ⟨e, s⟩⟩⟩
  · rfl
  · rfl
  · simp only [List.map_cons, List.map_nil, isDriveLetter, isAlpha_toLower,
      beq_toLower (d := ':') (by decide), beq_toLower (d := '|') (by decide)]
  · rfl

/-- The host of a file, from the text up to its path. -/
def hostOfFile? (s : List Char) : Option Host :=
  if s = [] ∨ isDriveLetter s = true then none
  else (domainHost s).toOption.filter (· ≠ .domain "localhost")

theorem hostOfFile?_map_toLower (s : List Char) :
    hostOfFile? (s.map Char.toLower) = hostOfFile? s := by
  simp only [hostOfFile?, List.map_eq_nil_iff, isDriveLetter_map_toLower, domainHost_map_toLower]

/-- The host of a file, if it has one, and the text of its path. -/
def hosted? (s : List Char) : Option (Host × List Char) :=
  (fileHost s).toOption.bind fun (host, rest) => host.map (·, rest)

theorem hosted?_of_slashes {a b : Char} (ha : isSlash a = true) (hb : isSlash b = true)
    (s : List Char) : hosted? (a :: b :: s) =
      (hostOfFile? (s.takeWhile (!isAuthorityEnd .file ·))).map
        (·, s.dropWhile (!isAuthorityEnd .file ·)) := by
  have hend : (fun c => !(isSlash c || isPathEnd c)) = (!isAuthorityEnd .file ·) := by
    funext c
    simp only [isSlash, isAuthorityEnd, Kind.isSpecial, Bool.and_true, Bool.or_assoc,
      Bool.or_comm (c == '\\')]
  rw [hosted?, fileHost, if_pos ⟨ha, hb⟩, hostOfFile?]
  simp only [hend]
  split
  · rfl
  · split
    · rename_i he
      rw [he]
      rfl
    · rename_i he
      rw [he]
      rfl
    · rename_i host hne he
      have hkept : decide (host ≠ .domain "localhost") = true := decide_eq_true hne
      rw [he]
      simp only [Except.toOption, Option.filter_some, hkept, if_true]
      rfl

theorem hosted?_of_noSlashes {s : List Char}
    (h : ∀ a b rest, s = a :: b :: rest → ¬ (isSlash a = true ∧ isSlash b = true)) :
    hosted? s = none := by
  rcases s with _ | ⟨a, _ | ⟨b, rest⟩⟩
  · rfl
  · rfl
  · rw [hosted?, fileHost, if_neg (h a b rest rfl)]
    rfl

theorem hosted?_congr (hs : s.map Char.toLower = s'.map Char.toLower)
    (ha : afterHostIn .file (s.drop 2) = afterHostIn .file (s'.drop 2)) :
    hosted? s = hosted? s' := by
  by_cases hslash : ∃ a b rest, s = a :: b :: rest ∧ isSlash a = true ∧ isSlash b = true
  · obtain ⟨a, b, rest, rfl, hsa, hsb⟩ := hslash
    obtain ⟨a', s', rfl, hsa', hs⟩ := List.map_eq_cons_iff.mp hs.symm
    obtain ⟨b', rest', rfl, hsb', hrest⟩ := List.map_eq_cons_iff.mp hs
    obtain ⟨htake, -, hdrop⟩ := pieces_of_afterHostIn hrest.symm ha
    rw [hosted?_of_slashes hsa hsb, hosted?_of_slashes, hdrop,
      eq_of_map_toLower hostOfFile?_map_toLower htake]
    · rw [← isSlash_toLower, hsa', isSlash_toLower, hsa]
    · rw [← isSlash_toLower, hsb', isSlash_toLower, hsb]
  · rw [hosted?_of_noSlashes, hosted?_of_noSlashes]
    · rintro a' b' rest' rfl ⟨hsa, hsb⟩
      obtain ⟨a, s, rfl, hsa', hs⟩ := List.map_eq_cons_iff.mp hs
      obtain ⟨b, rest, rfl, hsb', -⟩ := List.map_eq_cons_iff.mp hs
      refine hslash ⟨a, b, rest, rfl, ?_, ?_⟩
      · rw [← isSlash_toLower, hsa', isSlash_toLower, hsa]
      · rw [← isSlash_toLower, hsb', isSlash_toLower, hsb]
    · rintro a b rest rfl hsab
      exact hslash ⟨a, b, rest, rfl, hsab⟩

theorem hosted?_eq_some {host : Host} {rest : List Char} (h : hosted? s = some (host, rest)) :
    fileHost s = .ok (some host, rest) := by
  rw [hosted?] at h
  rcases hf : fileHost s with e | ⟨_ | host', rest'⟩
  · rw [hf] at h
    cases h
  · rw [hf] at h
    cases h
  · rw [hf] at h
    cases h
    rfl

/-- Without a host a file leads nowhere. -/
theorem lead?_readFile_of_none (h : hosted? s = none) :
    (readFile s).toOption.bind lead? = none := by
  rw [hosted?] at h
  rw [readFile]
  rcases hf : fileHost s with e | ⟨_ | host', rest'⟩
  · rfl
  · refine lead?_of_empty ?_
    simp only [Option.getD_none, ite_self]
    rfl
  · rw [hf] at h
    cases h

theorem lead?_readFile_congr (hs : s.map Char.toLower = s'.map Char.toLower)
    (ha : afterHostIn .file (s.drop 2) = afterHostIn .file (s'.drop 2)) :
    (readFile s).toOption.bind lead? = (readFile s').toOption.bind lead? := by
  have hhosted := hosted?_congr hs ha
  cases h : hosted? s with
  | none => rw [lead?_readFile_of_none h, lead?_readFile_of_none (hhosted ▸ h)]
  | some r => rw [readFile, readFile, hosted?_eq_some h, hosted?_eq_some (hhosted ▸ h)]

/-- What follows the host in an address, from what follows the colon of its scheme. -/
def afterHostOf (scheme : String) (s : List Char) : List Char :=
  match Kind.ofScheme scheme with
  | .special => afterHostIn .special (s.dropWhile isSlash)
  | kind => afterHostIn kind (s.drop 2)

theorem lead?_readFlat (scheme : String) (s : List Char) : (readFlat scheme s).lead? = none := rfl

theorem lead?_readOther_of_noSlashes {scheme : String} (hk : Kind.ofScheme scheme = .other)
    (h : ∀ rest, s ≠ '/' :: '/' :: rest) : (readAfterScheme scheme s).toOption.bind lead? = none := by
  unfold readAfterScheme
  rw [hk]
  dsimp only
  split
  · rename_i rest
    exact absurd rfl (h rest)
  · exact lead?_readFlat scheme _

theorem lead?_readOther_congr {scheme : String} (hk : Kind.ofScheme scheme = .other)
    (hs : s.map Char.toLower = s'.map Char.toLower)
    (ha : afterHostIn .other (s.drop 2) = afterHostIn .other (s'.drop 2)) :
    (readAfterScheme scheme s).toOption.bind lead? =
      (readAfterScheme scheme s').toOption.bind lead? := by
  have hslash {c : Char} : c.toLower = '/' ↔ c = '/' := toLower_eq_nonletter_iff (by decide)
  have hslashes {t t' : List Char} (ht : t.map Char.toLower = t'.map Char.toLower) {rest : List Char}
      (he : t = '/' :: '/' :: rest) : ∃ rest', t' = '/' :: '/' :: rest' := by
    subst he
    obtain ⟨a, t, rfl, hsa, ht⟩ := List.map_eq_cons_iff.mp ht.symm
    obtain ⟨b, rest', rfl, hsb, -⟩ := List.map_eq_cons_iff.mp ht
    exact ⟨rest', by rw [hslash.mp hsa, hslash.mp hsb]⟩
  by_cases h : ∃ rest, s = '/' :: '/' :: rest
  · obtain ⟨rest, rfl⟩ := h
    obtain ⟨rest', rfl⟩ := hslashes hs rfl
    unfold readAfterScheme
    rw [hk]
    have hrest := (List.cons.inj (List.cons.inj hs).2).2
    exact lead?_readAfterSlashes_congr scheme hrest ha
  · rw [lead?_readOther_of_noSlashes hk (not_exists.mp h), lead?_readOther_of_noSlashes hk]
    intro rest' he
    exact h (hslashes hs.symm he)

theorem lead?_readAfterScheme_congr (scheme : String)
    (hs : s.map Char.toLower = s'.map Char.toLower)
    (ha : afterHostOf scheme s = afterHostOf scheme s') :
    (readAfterScheme scheme s).toOption.bind lead? =
      (readAfterScheme scheme s').toOption.bind lead? := by
  rw [afterHostOf, afterHostOf] at ha
  cases hk : Kind.ofScheme scheme with
  | file =>
    rw [hk] at ha
    simp only [readAfterScheme, hk]
    exact lead?_readFile_congr hs ha
  | special =>
    rw [hk] at ha
    simp only [readAfterScheme, hk]
    refine lead?_readAfterSlashes_congr scheme ?_ ha
    rw [← dropWhile_map_toLower isSlash_toLower, hs, dropWhile_map_toLower isSlash_toLower]
  | other =>
    rw [hk] at ha
    exact lead?_readOther_congr hk hs ha

/-- What follows the host in an address, as it is read. -/
def afterHost (text : List Char) : List Char :=
  match splitScheme? (clean text) with
  | none => []
  | some (scheme, s) => afterHostOf (String.ofList scheme) s

/-- Texts that only differ in the case of letters up to the end of the host lead to one place. -/
theorem lead?_parse_congr {text text' : String}
    (hs : text.toList.map Char.toLower = text'.toList.map Char.toLower)
    (ha : afterHost text.toList = afterHost text'.toList) :
    (parse text).toOption.bind lead? = (parse text').toOption.bind lead? := by
  have hsplit : (splitScheme? (clean text.toList)).map (fun (scheme, rest) =>
      (scheme, rest.map Char.toLower)) = (splitScheme? (clean text'.toList)).map
        fun (scheme, rest) => (scheme, rest.map Char.toLower) := by
    rw [← splitScheme?_map_toLower, ← clean_map_toLower, hs, clean_map_toLower,
      splitScheme?_map_toLower]
  rw [afterHost, afterHost] at ha
  rw [parse, parse]
  rcases hl : splitScheme? (clean text.toList) with _ | ⟨scheme, rest⟩ <;>
    rcases hr : splitScheme? (clean text'.toList) with _ | ⟨scheme', rest'⟩
  · rfl
  · rw [hl, hr] at hsplit
    cases hsplit
  · rw [hl, hr] at hsplit
    cases hsplit
  · rw [hl, hr] at hsplit ha
    obtain ⟨rfl, hrest⟩ := (Prod.mk.injEq ..).mp (Option.some.inj hsplit)
    exact lead?_readAfterScheme_congr _ hrest ha

end Leads

end GuestNet.Url
