import GuestNet.Proofs.Access.RequestedEndpoint
import GuestNet.Proofs.Url.HostPort
import GuestNet.Proofs.Url.Ipv6Text
import GuestNet.Stream.Dial

/-! Where a stream is dialed, beside the endpoint that a policy checks for its target. The dialer
takes the text before the last colon for the host as it stands. The policy reads an address from that
text, and the reader leaves out some characters, encodes others and takes others for userinfo or for
a scheme. -/
namespace GuestNet

namespace Stream

/-- Characters that stay as they are in the host of an address. -/
def isPlainChar (c : Char) : Bool := !Url.controlSet c && c ≠ '@' && c ≠ '/'

/-- Nothing in the text is left out, encoded or taken for something else when it is read as the host
of an address. -/
def IsPlain (host : String) : Prop := ∀ c ∈ host.toList, isPlainChar c = true

instance (host : String) : Decidable (IsPlain host) :=
  decidable_of_iff (host.toList.all isPlainChar = true) List.all_eq_true

/-- The internet address that a host is a text of: four decimal bytes, which are two pieces, or eight
pieces in brackets. -/
def literal? (host : String) : Option (List Nat) :=
  match host.toList with
  | '[' :: rest =>
    match Url.bracketedHost rest with
    | .ok (.ipv6 pieces) => some pieces
    | _ => none
  | s => Url.Ipv6.embedded? s

/-- Two texts mean the same host: they differ in case only or are one internet address. -/
def SameHost (h h' : String) : Prop :=
  Endpoint.lowerCase h = Endpoint.lowerCase h' ∨
    (literal? h).isSome = true ∧ literal? h = literal? h'

instance (h h' : String) : Decidable (SameHost h h') :=
  inferInstanceAs (Decidable (_ ∨ _))

theorem isPlainChar_iff {c : Char} :
    isPlainChar c = true ↔ (0x20 ≤ c.toNat ∧ c.toNat < 0x7F) ∧ c ≠ '@' ∧ c ≠ '/' := by
  simp only [isPlainChar, Url.controlSet, Url.isAsciiControl, Bool.and_eq_true, Bool.not_eq_true',
    Bool.or_eq_false_iff, decide_eq_false_iff_not, decide_eq_true_eq, beq_eq_false_iff_ne, and_assoc]
  constructor
  · rintro ⟨h1, h2, h3, h4⟩
    exact ⟨by omega, by omega, h4⟩
  · rintro ⟨h1, h2, h3⟩
    exact ⟨by omega, by omega, by omega, h3⟩

theorem isKept_of_isPlainChar {c : Char} (h : isPlainChar c = true) : Url.isKept c = true := by
  have hne {d : Char} (hd : isPlainChar d = false) : c ≠ d := by
    rintro rfl
    rw [h] at hd
    cases hd
  simp [Url.isKept, hne (d := '\t') rfl, hne (d := '\n') rfl, hne (d := '\r') rfl]

theorem isPlainChar_toLower (c : Char) : isPlainChar c.toLower = isPlainChar c := by
  rw [Bool.eq_iff_iff, isPlainChar_iff, isPlainChar_iff]
  refine and_congr ?_ (and_congr (not_congr (toLower_eq_iff (by decide)))
    (not_congr (toLower_eq_iff (by decide))))
  rw [toNat_toLower]
  split <;> omega

theorem lowerCase_lowerCase (s : String) :
    Endpoint.lowerCase (Endpoint.lowerCase s) = Endpoint.lowerCase s := by
  rw [Endpoint.lowerCase, Endpoint.lowerCase, String.toList_ofList, Target.lowerCase,
    Target.lowerCase, List.map_map]
  exact congrArg String.ofList (List.map_congr_left fun c _ => toLower_toLower c)

theorem isPlain_lowerCase {host : String} : IsPlain (Endpoint.lowerCase host) ↔ IsPlain host := by
  rw [IsPlain, Endpoint.lowerCase, String.toList_ofList, Target.lowerCase, List.forall_mem_map]
  exact forall₂_congr fun c _ => by rw [isPlainChar_toLower]

theorem isPlainChar_of_isAddressChar {c : Char} (h : Url.isAddressChar c = true) :
    isPlainChar c = true := by
  simp only [Url.isAddressChar, Bool.or_eq_true, beq_iff_eq] at h
  rcases h with (h | rfl) | rfl
  · have hr := Url.Ipv6.range_of_isSome h
    refine isPlainChar_iff.mpr ⟨by omega, ?_, ?_⟩ <;>
      · rintro rfl
        revert hr
        decide
  · rfl
  · rfl

theorem isPlainChar_of_percentEncode {s : List Char} (hs : ∀ c ∈ s, c ≠ '@' ∧ c ≠ '/') :
    ∀ c ∈ Url.percentEncode Url.controlSet s, isPlainChar c = true := by
  have hhex : ∀ n < 16, isPlainChar (Url.upperHexDigit n) = true := by decide
  intro c hc
  obtain ⟨d, hd, hc⟩ := List.mem_flatMap.mp hc
  rw [Url.encodeChar] at hc
  split at hc
  · obtain ⟨b, -, hc⟩ := List.mem_flatMap.mp hc
    have hb := b.toNat_lt
    rcases List.mem_cons.mp hc with rfl | hc
    · rfl
    · rcases List.mem_cons.mp hc with rfl | hc
      · exact hhex _ (by omega)
      · rw [List.mem_singleton.mp hc]
        exact hhex _ (by omega)
  · rename_i hset
    rw [List.mem_singleton.mp hc, isPlainChar]
    simp [hset, hs d hd]

theorem percentEncode_of_isPlain {s : List Char} (hs : ∀ c ∈ s, isPlainChar c = true) :
    Url.percentEncode Url.controlSet s = s := by
  induction s with
  | nil => rfl
  | cons c s ih =>
    have hc := hs c List.mem_cons_self
    simp only [isPlainChar, Bool.and_eq_true, Bool.not_eq_true'] at hc
    rw [Url.percentEncode, List.flatMap_cons, Url.encodeChar, hc.1.1, ← Url.percentEncode,
      ih fun d hd => hs d (List.mem_cons_of_mem c hd)]
    rfl

theorem literal?_bracketed {host : String} {rest : List Char} (h : host.toList = '[' :: rest)
    {pieces : List Nat} (hr : Url.bracketedHost rest = .ok (.ipv6 pieces)) :
    literal? host = some pieces := by
  rw [literal?, h]
  simp only [hr]

/-- An internet address in brackets is plain. -/
theorem isPlain_of_bracketedHost {host : String} {rest : List Char} {h : Url.Host}
    (hh : host.toList = '[' :: rest) (hr : Url.bracketedHost rest = .ok h) : IsPlain host := by
  obtain ⟨pieces, hlast, hpieces, -⟩ := Url.bracketedHost_eq_ok hr
  obtain ⟨inner, rfl⟩ := List.getLast?_eq_some_iff.mp hlast
  rw [List.dropLast_concat] at hpieces
  have hchars := (Url.Ipv6.parse?_spec hpieces).2.2
  intro c hc
  rw [hh, List.mem_cons, List.mem_append, List.mem_singleton] at hc
  rcases hc with rfl | hc | rfl
  · rfl
  · exact isPlainChar_of_isAddressChar (hchars c hc)
  · rfl

theorem isPlain_of_literal? {host : String} (h : (literal? host).isSome = true) :
    IsPlain host := by
  rw [literal?] at h
  split at h
  · rename_i rest hh
    split at h
    · rename_i pieces hr
      exact isPlain_of_bracketedHost hh hr
    · cases h
  · obtain ⟨pieces, hpieces⟩ := Option.isSome_iff_exists.mp h
    intro c hc
    rcases (Url.Ipv6.embedded?_spec hpieces).1 c hc with hd | rfl
    · exact isPlainChar_of_isAddressChar (Url.Ipv6.isAddressChar_of_isDigit hd)
    · rfl

theorem toList_write_ipv6 (pieces : List Nat) : (Url.Host.ipv6 pieces).write.toList =
    '[' :: ((Url.Ipv6.write pieces).toList ++ [']']) := by
  rw [Url.Host.write, String.toList_append, String.toList_append]
  rfl

theorem lowerCase_write_ipv6 (pieces : List Nat) :
    Endpoint.lowerCase (Url.Host.ipv6 pieces).write = (Url.Host.ipv6 pieces).write := by
  rw [← String.toList_inj, Endpoint.lowerCase, String.toList_ofList, Target.lowerCase,
    toList_write_ipv6, List.map_cons, List.map_append, Url.Ipv6.map_toLower_write]
  rfl

theorem bracketedHost_write {pieces : List Nat} (hl : pieces.length = 8)
    (hn : ∀ n ∈ pieces, n < 65536) :
    Url.bracketedHost ((Url.Ipv6.write pieces).toList ++ [']']) = .ok (.ipv6 pieces) := by
  rw [Url.bracketedHost, List.getLast?_concat, List.dropLast_concat]
  simp only [Url.Ipv6.parse?_write hl hn]

/-- A host is an internet address in brackets, or any text without delimiters. -/
theorem plainHost_eq_ok {s : List Char} {h : Url.Host} (hp : Url.plainHost s = .ok h) :
    (∃ rest pieces, s = '[' :: rest ∧ Url.bracketedHost rest = .ok (.ipv6 pieces) ∧
      h = .ipv6 pieces ∧ Url.bracketedHost ((Url.Ipv6.write pieces).toList ++ [']']) = .ok h) ∨
    ((∀ c ∈ s, Url.isForbiddenHostChar c = false) ∧
      h = .domain (String.ofList (Url.percentEncode Url.controlSet s))) := by
  rw [Url.plainHost.eq_def] at hp
  split at hp
  · rename_i rest
    obtain ⟨pieces, -, hpieces, rfl⟩ := Url.bracketedHost_eq_ok hp
    obtain ⟨hl, hn, -⟩ := Url.Ipv6.parse?_spec hpieces
    exact .inl ⟨rest, pieces, rfl, hp, rfl, bracketedHost_write hl hn⟩
  · split at hp
    · cases hp
    · rename_i hany
      cases hp
      exact .inr ⟨fun c hc => by simpa using fun h => hany (List.any_eq_true.mpr ⟨c, hc, h⟩), rfl⟩

/-- What is written for a host is plain. -/
theorem isPlain_write {s : List Char} {h : Url.Host} (hp : Url.plainHost s = .ok h) :
    IsPlain h.write := by
  rcases plainHost_eq_ok hp with ⟨-, pieces, -, -, rfl, hwrite⟩ | ⟨hs, rfl⟩
  · exact isPlain_of_bracketedHost (toList_write_ipv6 pieces) hwrite
  · intro c hc
    rw [Url.Host.write, String.toList_ofList] at hc
    refine isPlainChar_of_percentEncode (fun d hd => ⟨?_, ?_⟩) c hc <;>
      · rintro rfl
        exact absurd (hs _ hd) (by decide)

/-- A plain text is the host that is read from it. -/
theorem sameHost_write {host : String} {h : Url.Host} (hp : Url.plainHost host.toList = .ok h)
    (hplain : IsPlain host) : SameHost host (Endpoint.lowerCase h.write) := by
  rcases plainHost_eq_ok hp with ⟨rest, pieces, hh, hr, rfl, hwrite⟩ | ⟨-, rfl⟩
  · have hdialed := literal?_bracketed hh hr
    have hchecked := literal?_bracketed (toList_write_ipv6 pieces) hwrite
    rw [lowerCase_write_ipv6]
    exact .inr ⟨by rw [hdialed]; rfl, hdialed.trans hchecked.symm⟩
  · rw [Url.Host.write, percentEncode_of_isPlain hplain, String.ofList_toList]
    exact .inl (lowerCase_lowerCase host).symm

/-- Only a plain text means the host that an address is written with. -/
theorem sameHost_iff {host : String} {s : List Char} {h : Url.Host}
    (hp : Url.plainHost s = .ok h) (hs : IsPlain host → s = host.toList) :
    SameHost host (Endpoint.lowerCase h.write) ↔ IsPlain host := by
  constructor
  · rintro (hcase | ⟨hsome, -⟩)
    · rw [← isPlain_lowerCase, hcase, isPlain_lowerCase, isPlain_lowerCase]
      exact isPlain_write hp
    · exact isPlain_of_literal? hsome
  · intro hplain
    rw [hs hplain] at hp
    exact sameHost_write hp hplain

namespace Address

theorem readPort?_eq_some {s : List Char} {port : Nat} (h : readPort? s = some port) :
    s ≠ [] ∧ (∀ c ∈ s, Url.isPortChar c = true) ∧
      ((∀ c ∈ s, c.isDigit = true) → port = Decimal.value s) := by
  unfold readPort? at h
  extract_lets digits at h
  have hs : s = '+' :: digits ∨ s = digits := by
    simp only [digits]
    split
    · exact .inl rfl
    · exact .inr rfl
  split at h
  · rename_i hd
    cases h
    clear_value digits
    obtain ⟨hne, hdigits, -⟩ := hd
    have hport : ∀ c ∈ digits, Url.isPortChar c = true := fun c hc => by
      rw [Url.isPortChar, List.all_eq_true.mp hdigits c hc, Bool.true_or]
    rcases hs with rfl | rfl
    · refine ⟨List.cons_ne_nil '+' digits, fun c hc => ?_, fun hd => ?_⟩
      · rcases List.mem_cons.mp hc with rfl | hc
        · rfl
        · exact hport c hc
      · cases hd '+' List.mem_cons_self
    · exact ⟨hne, hport, fun _ => rfl⟩
  · cases h

theorem splitPort?_eq_some {s host port : List Char} (h : splitPort? s = some (host, port)) :
    s = host ++ ':' :: port := by
  rw [splitPort?] at h
  split at h
  · cases h
  · rename_i hd
    cases h
    exact Url.eq_append_of_reverse hd

/-- A host and a port around the last colon. -/
theorem parse_eq_ok {text : String} {a : Address} (h : parse text = .ok a) :
    ∃ port, text.toList = a.host.toList ++ ':' :: port ∧ port ≠ [] ∧
      (∀ c ∈ port, Url.isPortChar c = true) ∧
        ((∀ c ∈ port, c.isDigit = true) → a.port = Decimal.value port) := by
  rw [parse] at h
  split at h
  · cases h
  · rename_i host portText hsplit
    split at h
    · cases h
    · rename_i port hport
      split at h
      · cases h
      · cases h
        rw [String.toList_ofList]
        exact ⟨portText, splitPort?_eq_some hsplit, readPort?_eq_some hport⟩

end Address

section Reading

variable {t : Target} {u : Url} {e : Endpoint}

theorem length_write_of_pathText (h : Endpoint.pathText u = "") : u.path.write.length ≤ 1 := by
  simp only [Endpoint.pathText] at h
  split at h
  · rename_i hslash
    rw [hslash]
    decide
  · rw [h]
    decide

theorem effectivePort?_stream (h : u.scheme = streamScheme) : u.effectivePort? = u.port := by
  rw [Url.effectivePort?, h]
  cases u.port <;> rfl

/-- The address of a stream has no path, no query and no fragment. -/
theorem ofUrl_stream (hs : t.scheme = streamScheme) (h : Endpoint.ofUrl t u = .ok e) :
    u.path.write.length ≤ 1 ∧ u.query = none ∧ u.fragment = none := by
  obtain ⟨hscheme, hi, hend⟩ := Endpoint.ofUrl_eq_ok h
  obtain ⟨host, hhost, -⟩ := Option.map_eq_some_iff.mp hend
  simp only [Endpoint.ofUrl, hscheme, hi, hhost, hs, ne_eq, not_true_eq_false, if_false,
    Bool.false_eq_true, true_and] at h
  split at h
  · cases h
  · rename_i hplain
    simp only [not_or, not_not, Bool.not_eq_true, Option.isSome_eq_false_iff,
      Option.isNone_iff_eq_none] at hplain
    exact ⟨length_write_of_pathText hplain.1, hplain.2⟩

/-- What the policy checks of a stream is read from its address. -/
theorem ofTarget_stream (hs : t.scheme = streamScheme) (h : Endpoint.ofTarget t = .ok e) :
    ∃ u host, Url.parse (Endpoint.urlText t) = .ok u ∧ Endpoint.ofUrl t u = .ok e ∧
      u.scheme = streamScheme ∧ u.hasUserinfo = false ∧ u.host = some host ∧
        e.host = Endpoint.lowerCase host.write ∧ e.port = u.port := by
  rw [Endpoint.ofTarget] at h
  split at h
  · cases h
  · rename_i u hu
    obtain ⟨hscheme, hi, hend⟩ := Endpoint.ofUrl_eq_ok h
    obtain ⟨text, htext, rfl⟩ := Option.map_eq_some_iff.mp hend
    obtain ⟨host, hhost, rfl⟩ := Option.map_eq_some_iff.mp (Option.filter_eq_some_iff.mp htext).1
    rw [hs] at hscheme
    exact ⟨u, host, hu, h, hscheme, hi, hhost, rfl, effectivePort?_stream hscheme⟩

/-- A plain text has no second scheme in it, and all of its characters count. -/
theorem clean_urlText {host : String} {port : List Char} (hs : t.scheme = streamScheme)
    (ha : t.address.toList = host.toList ++ ':' :: port)
    (hp : ∀ c ∈ port, Url.isPortChar c = true) :
    ∃ front, Url.clean (Endpoint.urlText t).toList = front ++ ':' :: port ∧
      (IsPlain host → front = "tcp".toList ++ ':' :: '/' :: '/' :: host.toList) := by
  have hkept : ∀ c ∈ ':' :: port, 0x20 < c.toNat := by
    intro c hc
    rcases List.mem_cons.mp hc with rfl | hc
    · decide
    · exact Url.lt_toNat_of_isPortChar (hp c hc)
  have hclean (s : List Char) := Url.clean_append_of_kept (s := s) (List.cons_ne_nil ':' port) hkept
  rw [Endpoint.urlText]
  split
  · rename_i hnested
    refine ⟨_, (congrArg Url.clean ha).trans (hclean _), fun hplain => ?_⟩
    have hslash : '/' ∈ t.address.toList :=
      (Target.isSome_splitScheme?_iff.mp hnested).subset (by decide)
    rw [ha, List.mem_append, List.mem_cons] at hslash
    rcases hslash with hm | hm | hm
    · cases hplain '/' hm
    · cases hm
    · exact absurd hm (Url.not_mem_port hp (by decide))
  · have htext : (t.scheme ++ "://" ++ t.address).toList =
        "tcp".toList ++ ':' :: '/' :: '/' :: host.toList ++ ':' :: port := by
      rw [String.toList_append, String.toList_append, ha, hs, ← List.append_assoc]
      rfl
    refine ⟨_, (congrArg Url.clean htext).trans (hclean _), fun hplain => ?_⟩
    have hhost : host.toList.filter Url.isKept = host.toList :=
      List.filter_eq_self.mpr fun c hc => isKept_of_isPlainChar (hplain c hc)
    exact congrArg ("tcp://".toList ++ ·) hhost

/-- What the policy checks of a stream's target, beside what is dialed. -/
theorem checked_of_dialed {a : Address} (hs : t.scheme = streamScheme)
    (he : Endpoint.ofTarget t = .ok e) (ha : Address.parse t.address = .ok a) :
    e.port = some a.port ∧ (SameHost a.host e.host ↔ IsPlain a.host) := by
  obtain ⟨port, haddress, hne, hport, hvalue⟩ := Address.parse_eq_ok ha
  obtain ⟨u, host, hu, hof, hscheme, hi, hhost, hchecked, heport⟩ := ofTarget_stream hs he
  obtain ⟨hpath, hquery, hfragment⟩ := ofUrl_stream hs hof
  obtain ⟨front, hclean, hplain⟩ := clean_urlText hs haddress hport
  obtain ⟨name, rest, host', hfront, hname, hhost', hends⟩ :=
    Url.hostPort_of_parse hu hclean (by rw [hscheme]; decide) (by rw [hscheme]; decide)
      (by rw [hhost]; exact Option.some_ne_none host) hi hpath hquery hfragment hne hport
  obtain rfl : host' = host := Option.some.inj (hhost'.symm.trans hhost)
  obtain ⟨lead, text, hrest, hlead, hat, hread⟩ := hends.exists_lead
  refine ⟨by rw [heport, hends.number_eq, hvalue hends.isDigit], ?_⟩
  rw [hchecked]
  refine sameHost_iff hread fun hp => ?_
  -- the text is all that follows the scheme, and there is no `@` in it
  rw [hplain hp] at hfront
  obtain ⟨-, htail⟩ := Url.append_cons_inj_left hfront (by decide) hname
  obtain rfl : a.host.toList = rest := by simpa using htail
  have hnot : '@' ∉ a.host.toList := fun hm => by cases hp '@' hm
  rw [hrest, List.mem_append, not_or] at hnot
  rcases hlead with rfl | rfl | rfl
  · rw [hrest, List.nil_append]
  · exact absurd List.mem_cons_self hnot.1
  · exact absurd (List.mem_cons_of_mem ':' List.mem_cons_self) hnot.1

end Reading

section Dialing

variable {W S : Type} {net : Dialer W S} {t : Target} {options : String} {config : Config}

/-- Where the address is malformed, nothing is dialed. -/
theorem connect_of_parse_error {error : IoError} (h : Address.parse t.address = .error error)
    (w : W) : ∃ e, (backend net).connect t options config w = (.error e, w) := by
  simp only [backend, h]
  split
  · exact ⟨_, rfl⟩
  · exact ⟨_, rfl⟩

theorem connect_of_parse {a : Address} {o : TcpOptions} (h : Address.parse t.address = .ok a)
    (ho : readOptions options = .ok o) (w : W) : ((backend net).connect t options config w).2 =
      (net.dial a (config.connectTimeout o.connectTimeout) o w).2 := by
  simp only [backend, h, ho]
  split <;> rename_i hd <;> rw [hd]

end Dialing

/-- A dialer that notes where it dials. -/
def noting : Dialer (List Address) Unit where
  dial a _ _ dialed := (.connected (), a :: dialed)

/-- What is dialed for a stream, beside the endpoint for which a rule admitted its target. Either the
address is malformed and nothing is dialed, or the ports are the same. The hosts are the same just if
nothing in the dialed text is left out, encoded or taken for something else when an address is
read. -/
theorem dialed_eq_checked_iff {W S : Type} (net : Dialer W S) {t : Target} {p : AccessPolicy}
    (hs : t.scheme = streamScheme) (hr : p.restricted = true) (hp : p.isPermitted t = true) :
    (∃ error, Address.parse t.address = .error error ∧ ∀ options config w,
      ∃ e, (backend net).connect t options config w = (.error e, w)) ∨
    ∃ (a : Address) (e : Endpoint), Address.parse t.address = .ok a ∧
      (∀ options o config w, readOptions options = .ok o →
        ((backend net).connect t options config w).2 =
          (net.dial a (config.connectTimeout o.connectTimeout) o w).2) ∧
      Endpoint.ofTarget t = .ok e ∧ p.rules.any (·.admits e) = true ∧ e.port = some a.port ∧
        (SameHost a.host e.host ↔ IsPlain a.host) := by
  obtain ⟨e, he, hadmits⟩ := AccessPolicy.of_isPermitted hr hp
  cases ha : Address.parse t.address with
  | error error => exact .inl ⟨error, rfl, fun _ _ w => connect_of_parse_error ha w⟩
  | ok a =>
    obtain ⟨hport, hhost⟩ := checked_of_dialed hs he ha
    exact .inr ⟨a, e, rfl, fun _ _ _ w ho => connect_of_parse ha ho w, he, hadmits, hport, hhost⟩

/-- Another way to write the address is dialed for a rule of the usual one. -/
theorem dialed_eq_checked_at_loopback : ∃ e : Endpoint,
    Endpoint.ofTarget ⟨"tcp", "[0::1]:80", "[0::1]:80"⟩ = .ok e ∧
      ((backend noting).connect ⟨"tcp", "[0::1]:80", "[0::1]:80"⟩ "" .default []).2 =
        [⟨"[0::1]", 80⟩] ∧ SameHost "[0::1]" e.host := by
  have hparse : Address.parse "[0::1]:80" = .ok ⟨"[0::1]", 80⟩ := by decide +kernel
  rcases dialed_eq_checked_iff noting (t := ⟨"tcp", "[0::1]:80", "[0::1]:80"⟩)
    (p := ⟨[⟨"tcp", "[::1]", some 80, ""⟩], true⟩) rfl rfl (by decide +kernel) with
    ⟨error, he, -⟩ | ⟨a, e, ha, hdial, he, -, -, hhost⟩
  · rw [hparse] at he
    cases he
  · obtain rfl := Except.ok.inj (hparse.symm.trans ha)
    exact ⟨e, he, hdial "" .default .default [] (by decide), hhost.mpr (by decide)⟩

/-- An empty userinfo before a host is no userinfo to the policy and part of the host to the
dialer. -/
theorem dialed_ne_checked : ∃ (t : Target) (p : AccessPolicy) (a : Address) (e : Endpoint),
    Target.parse "@127.0.0.1:7000" = .ok t ∧ t.scheme = streamScheme ∧ p.restricted = true ∧
      p.isPermitted t = true ∧ Address.parse t.address = .ok a ∧ Endpoint.ofTarget t = .ok e ∧
        ¬ SameHost a.host e.host := by
  refine ⟨⟨"tcp", "@127.0.0.1:7000", "@127.0.0.1:7000"⟩,
    ⟨[⟨"tcp", "127.0.0.1", some 7000, ""⟩], true⟩, ⟨"@127.0.0.1", 7000⟩,
    ⟨"tcp", "127.0.0.1", some 7000, ""⟩, ?_⟩
  decide +kernel

end Stream
end GuestNet
