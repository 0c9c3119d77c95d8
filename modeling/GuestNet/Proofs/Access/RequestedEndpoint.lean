import GuestNet.Http.Request
import GuestNet.Proofs.Access.Spelling
import GuestNet.Proofs.Url.Reading

/-! The endpoint that a policy checks for a target, beside the one that a request for the target
goes to. They agree where the target is its own address. In front of any other address the policy
puts the scheme and the request does not, so that the policy takes a scheme in it for the host. -/
namespace GuestNet

namespace Url

/-- A scheme that carries requests. -/
def IsWebScheme (scheme : String) : Prop := scheme = "http" ∨ scheme = "https"

theorem isAlpha_of_map_toLower {scheme : String} {name : List Char} (hs : IsWebScheme scheme)
    (hn : scheme = String.ofList (name.map Char.toLower)) : ∀ c ∈ name, c.isAlpha = true := by
  intro c hc
  have hm : c.toLower ∈ scheme.toList := by
    rw [hn, String.toList_ofList]
    exact List.mem_map_of_mem hc
  have hl : ∀ d ∈ scheme.toList, 97 ≤ d.toNat ∧ d.toNat ≤ 122 := by
    rcases hs with rfl | rfl <;> exact List.all_iff_forall_prop.mp (by decide)
  have hb := hl _ hm
  rw [toNat_toLower] at hb
  rw [isAlpha_iff]
  split at hb <;> omega

theorem not_mem_delimiters {c : Char} (hc : c.toNat ≤ 0x20 ∨ c.isAlpha = true) :
    c ∉ delimiters := by
  intro hm
  have hd : ∀ d ∈ delimiters, 0x20 < d.toNat ∧ d.isAlpha = false :=
    List.all_iff_forall_prop.mp (by decide)
  obtain ⟨hlt, ha⟩ := hd c hm
  rcases hc with hc | hc
  · omega
  · simp [hc] at ha

theorem IsWebScheme.ne_stream {scheme : String} (hs : IsWebScheme scheme) :
    scheme ≠ streamScheme := by
  rcases hs with rfl | rfl <;> decide

theorem endsInNumber_scheme {scheme : String} (hs : IsWebScheme scheme) :
    Ipv4.endsInNumber scheme.toList = false := by
  rcases hs with rfl | rfl <;> decide +kernel

theorem IsWebScheme.ofScheme {scheme : String} (hs : IsWebScheme scheme) :
    Kind.ofScheme scheme = .special := by
  rcases hs with rfl | rfl <;> decide

/-- The scheme that is put in front of an address is read back. -/
theorem splitScheme?_clean_append {scheme : String} {s : List Char} (hs : IsWebScheme scheme)
    (hc : clean s ≠ []) : ∃ junk, (∀ d ∈ junk, d.toNat ≤ 0x20) ∧
      splitScheme? (clean ((scheme ++ "://").toList ++ s)) =
        some (scheme.toList, '/' :: '/' :: (junk ++ clean s)) := by
  obtain ⟨c, name, hcs, ha, hn, hl⟩ : ∃ c name, scheme.toList = c :: name ∧ c.isAlpha = true ∧
      (∀ d ∈ c :: name, isSchemeChar d = true ∧ 0x20 < d.toNat) ∧
        (c :: name).map Char.toLower = c :: name := by
    rcases hs with rfl | rfl
    · exact ⟨'h', ['t', 't', 'p'], rfl, by decide, List.all_iff_forall_prop.mp (by decide),
        by decide⟩
    · exact ⟨'h', ['t', 't', 'p', 's'], rfl, by decide, List.all_iff_forall_prop.mp (by decide),
        by decide⟩
  have hf : ∀ d ∈ c :: (name ++ [':', '/', '/']), 0x20 < d.toNat := by
    intro d hd
    rw [← List.cons_append, List.mem_append] at hd
    rcases hd with hd | hd
    · exact (hn d hd).2
    · exact List.all_iff_forall_prop.mp (by decide : [':', '/', '/'].all (0x20 < ·.toNat)) d hd
  obtain ⟨junk, hj, he⟩ := clean_append hf hc
  refine ⟨junk, hj, ?_⟩
  have hsplit := splitScheme?_append ('/' :: '/' :: (junk ++ clean s)) ha
    fun d hd => (hn d hd).1
  have happ : (scheme ++ "://").toList ++ s = c :: (name ++ [':', '/', '/']) ++ s := by
    rw [String.toList_append, hcs]
    rfl
  rw [happ, he, hcs]
  simpa [hl] using hsplit

/-- Behind a scheme of its own an address that has a scheme already has that one for a host. -/
theorem host_of_parse_append {scheme text : String} {u v : Url} (hs : IsWebScheme scheme)
    (hu : parse text = .ok u) (hus : IsWebScheme u.scheme)
    (hv : parse (scheme ++ "://" ++ text) = .ok v) (hi : v.hasUserinfo = false) :
    v.host = some (.domain u.scheme) := by
  obtain ⟨s, rest, hsplit, -, hsc⟩ := parse_eq_ok hu
  obtain ⟨name, hclean, rfl, hname, -⟩ := splitScheme?_eq_some hsplit
  have hletters := isAlpha_of_map_toLower hus hsc
  obtain ⟨junk, hj, hfront⟩ := splitScheme?_clean_append hs (s := text.toList) (by simp [hclean])
  obtain ⟨s', rest', hsplit', hv, -⟩ := parse_eq_ok hv
  rw [String.toList_append, hfront] at hsplit'
  cases hsplit'
  rw [String.ofList_toList, readAfterScheme, hs.ofScheme, hclean, ← List.append_assoc] at hv
  have hw : ∀ d ∈ junk ++ name, d ∉ delimiters := by
    intro d hd
    rcases List.mem_append.mp hd with hd | hd
    · exact not_mem_delimiters (.inl (hj d hd))
    · exact not_mem_delimiters (.inr (hletters d hd))
  cases hword : junk ++ name with
  | nil => exact absurd (List.append_eq_nil_iff.mp hword).2 hname
  | cons c word =>
    rw [hword] at hv hw
    rw [List.cons_append, dropWhile_isSlash (hw c List.mem_cons_self), ← List.cons_append] at hv
    obtain ⟨host, hd, hv⟩ := domainHost_of_readAfterSlashes rfl hw hv hi
    rw [← hword] at hd
    have he : String.ofList (name.map Char.toLower) = u.scheme := hsc.symm
    have hn : Ipv4.endsInNumber (name.map Char.toLower) = false := by
      have := endsInNumber_scheme hus
      rwa [hsc, String.toList_ofList] at this
    by_cases hjunk : junk = []
    · rw [hjunk, List.nil_append, domainHost_of_word hname hletters hn] at hd
      cases hd
      rw [hv, he]
    · rw [domainHost_of_junk hjunk hj hletters] at hd
      cases hd

end Url

namespace Url

/-- Where a request for an address goes. -/
def endpoint? (u : Url) : Option Endpoint :=
  u.hostText?.map fun host =>
    ⟨u.scheme, Endpoint.lowerCase host, u.effectivePort?, Endpoint.pathText u⟩

@[simp] theorem endpoint?_withoutUserinfo (u : Url) :
    u.withoutUserinfo.endpoint? = u.endpoint? := rfl

end Url

namespace Endpoint

theorem ofUrl_eq_ok {t : Target} {u : Url} {e : Endpoint} (h : ofUrl t u = .ok e) :
    u.scheme = t.scheme ∧ u.hasUserinfo = false ∧ u.endpoint? = some e := by
  simp only [ofUrl] at h
  split at h
  · cases h
  · rename_i hs
    split at h
    · cases h
    · rename_i hi
      split at h
      · cases h
      · rename_i host hh
        split at h
        · cases h
        · cases h
          exact ⟨not_not.mp hs, by simpa using hi, by rw [Url.endpoint?, hh]; rfl⟩

theorem ofTarget_eq_ok {t : Target} {e : Endpoint} (h : ofTarget t = .ok e) :
    ∃ u, Url.parse (urlText t) = .ok u ∧ u.scheme = t.scheme ∧ u.hasUserinfo = false ∧
      u.endpoint? = some e := by
  rw [ofTarget] at h
  split at h
  · cases h
  · rename_i u hu
    exact ⟨u, hu, ofUrl_eq_ok h⟩

end Endpoint

namespace AccessPolicy

theorem of_isPermitted {p : AccessPolicy} {t : Target} (hr : p.restricted = true)
    (hp : p.isPermitted t = true) :
    ∃ e, Endpoint.ofTarget t = .ok e ∧ p.rules.any (·.admits e) = true := by
  rw [isPermitted, isUnrestricted, hr, Bool.not_true, Bool.false_or] at hp
  split at hp
  · cases hp
  · rename_i e he
    exact ⟨e, he, hp⟩

end AccessPolicy

namespace Http

theorem readUrl_eq_ok {address : String} {u : Url} (h : readUrl address = .ok u) :
    Url.parse address = .ok u := by
  rw [readUrl] at h
  split at h
  · cases h
  · cases h
    assumption

namespace Request

theorem url_new (method : String) (u : Url) (headers : Headers) (body : Option Bytes) :
    (new method u headers body).url = u ∨ (new method u headers body).url = u.withoutUserinfo := by
  rw [new]
  split
  · exact .inl rfl
  · exact .inr rfl

variable {room : Room} {t : Target} {options : String} {o : HttpOptions} {r : Request}

/-- What a request is made of, stage by stage. -/
theorem stages_of_plan (h : plan room t options = some (.ok (o, r))) :
    readOptions options = .ok o ∧ ∃ method headers u, readMethod o.method = .ok method ∧
      readHeaders (room.headers o.headers) o.headers = some (.ok headers) ∧
        readUrl t.address = .ok u ∧ r = .new method u headers (o.body.map .ofText) := by
  rw [plan] at h
  split at h
  · cases h
  · rename_i o' ho
    split at h
    · cases h
    · rename_i method hmethod
      split at h
      · cases h
      · cases h
      · rename_i headers hheaders
        split at h
        · cases h
        · rename_i u hu
          dsimp only at h
          split at h
          · cases h
            exact ⟨ho, method, headers, u, hmethod, hheaders, hu, rfl⟩
          · cases h

/-- A request goes to the address of its target. -/
theorem url_of_plan (h : plan room t options = some (.ok (o, r))) :
    ∃ u, Url.parse t.address = .ok u ∧ r.url.scheme = u.scheme ∧
      r.url.endpoint? = u.endpoint? := by
  obtain ⟨-, method, headers, u, -, -, hu, rfl⟩ := stages_of_plan h
  refine ⟨u, readUrl_eq_ok hu, ?_⟩
  rcases url_new method u headers (o.body.map .ofText) with hurl | hurl
  · exact ⟨by rw [hurl], by rw [hurl]⟩
  · exact ⟨by rw [hurl]; rfl, by rw [hurl, Url.endpoint?_withoutUserinfo]⟩

theorem isWebScheme_of_canTravel (h : r.canTravel = true) : Url.IsWebScheme r.url.scheme := by
  rw [canTravel, Bool.and_eq_true] at h
  simpa [Url.IsWebScheme] using h.1

end Request
end Http

namespace Endpoint

theorem lowerCase_scheme {scheme : String} (hs : Url.IsWebScheme scheme) :
    lowerCase scheme = scheme := by
  rcases hs with rfl | rfl <;> decide

/-- Where a target is not its own address, the policy checks the scheme of the address as a
host. -/
theorem host_of_ofTarget {raw : String} {t : Target} {u : Url} {e : Endpoint}
    (ht : Target.parse raw = .ok t) (hs : Url.IsWebScheme t.scheme)
    (hn : ¬ Target.IsUrlText raw) (hu : Url.parse t.address = .ok u)
    (hus : Url.IsWebScheme u.scheme) (he : ofTarget t = .ok e) : e.host = u.scheme := by
  obtain ⟨v, hv, -, hi, hend⟩ := ofTarget_eq_ok he
  rw [urlText, if_neg fun h => hn ((Target.isSome_splitScheme?_address ht hs.ne_stream).mp h)] at hv
  have hhost := Url.host_of_parse_append hs hu hus hv hi
  have htext : v.hostText? = some u.scheme := by
    rcases hus with hus | hus <;> simp [Url.hostText?, hhost, Url.Host.write, hus]
  rw [Url.endpoint?, htext] at hend
  cases hend
  exact lowerCase_scheme hus

/-- Where a target is its own address, the policy checks that address. -/
theorem endpoint?_of_ofTarget {raw : String} {t : Target} {u : Url} {e : Endpoint}
    (ht : Target.parse raw = .ok t) (hs : Url.IsWebScheme t.scheme)
    (hn : Target.IsUrlText raw) (hu : Url.parse t.address = .ok u)
    (he : ofTarget t = .ok e) : u.endpoint? = some e := by
  obtain ⟨v, hv, -, -, hend⟩ := ofTarget_eq_ok he
  rw [urlText, if_pos ((Target.isSome_splitScheme?_address ht hs.ne_stream).mpr hn), hu] at hv
  cases hv
  exact hend

end Endpoint

/-- The endpoint of the first request, beside the one for which a rule admitted its target. They
are the same where the target is written as `scheme://…`. Otherwise the rule admitted the scheme of
the address as a host, and the request may go to any other. -/
theorem requested_eq_checked_iff {raw : String} {t : Target} {p : AccessPolicy}
    {room : Http.Room} {options : String} {o : HttpOptions} {r : Http.Request}
    (ht : Target.parse raw = .ok t) (hs : Url.IsWebScheme t.scheme) (hr : p.restricted = true)
    (hp : p.isPermitted t = true)
    (hplan : Http.Request.plan room t options = some (.ok (o, r)))
    (hc : r.canTravel = true) :
    ∃ e, Endpoint.ofTarget t = .ok e ∧ p.rules.any (·.admits e) = true ∧
      (¬ Target.IsUrlText raw → e.host = r.url.scheme) ∧
        (r.url.endpoint? = some e ↔ Target.IsUrlText raw ∨
          (r.url.scheme = t.scheme ∧ r.url.hostText?.map Endpoint.lowerCase = some r.url.scheme ∧
            r.url.effectivePort? = e.port ∧ Endpoint.pathText r.url = e.path)) := by
  obtain ⟨e, he, ha⟩ := AccessPolicy.of_isPermitted hr hp
  obtain ⟨u, hu, hscheme, hend⟩ := Http.Request.url_of_plan hplan
  have hus : Url.IsWebScheme u.scheme := hscheme ▸ Http.Request.isWebScheme_of_canTravel hc
  have hes : e.scheme = t.scheme := by
    obtain ⟨v, -, hv, -, hend⟩ := Endpoint.ofTarget_eq_ok he
    obtain ⟨host, -, rfl⟩ := Option.map_eq_some_iff.mp hend
    exact hv
  have hhost : ¬ Target.IsUrlText raw → e.host = r.url.scheme := fun hn => by
    rw [hscheme]
    exact Endpoint.host_of_ofTarget ht hs hn hu hus he
  refine ⟨e, he, ha, hhost, ?_⟩
  by_cases hn : Target.IsUrlText raw
  · exact iff_of_true (hend ▸ Endpoint.endpoint?_of_ofTarget ht hs hn hu he) (.inl hn)
  · constructor
    · intro h
      obtain ⟨host, hh, rfl⟩ := Option.map_eq_some_iff.mp h
      exact .inr ⟨hes, by rw [hh, Option.map_some, ← hhost hn], rfl, rfl⟩
    · intro h
      obtain ⟨h1, h2, h3, h4⟩ := h.resolve_left hn
      obtain ⟨host, hh, hl⟩ := Option.map_eq_some_iff.mp h2
      rw [Url.endpoint?, hh, Option.map_some, hl.trans (hhost hn).symm, h1.trans hes.symm, h3, h4]

/-- Options with nothing but a method. -/
def plainOptions : String := "[\"GET\"]"

def loopback : Url where
  scheme := "http"
  username := ""
  password := none
  host := some (.ipv6 [0, 0, 0, 0, 0, 0, 0, 1])
  port := none
  path := .segments [""]
  query := none
  fragment := none

/-- Room for some headers. -/
def someRoom : Http.Room := .upTo 100

theorem exists_plan (t : Target) (options : String) {u : Url}
    (h : (Http.Request.plan someRoom t options).bind (fun x => x.toOption.map (·.2.url)) =
      some u) : ∃ o r, Http.Request.plan someRoom t options = some (.ok (o, r)) ∧ r.url = u := by
  obtain ⟨x, hx, h⟩ := Option.bind_eq_some_iff.mp h
  obtain ⟨⟨o, r⟩, hor, rfl⟩ := Option.map_eq_some_iff.mp h
  cases x with
  | error e => cases hor
  | ok x =>
    cases hor
    exact ⟨o, r, hx, rfl⟩

theorem canTravel_of_loopback {r : Http.Request} (hr : r.url = loopback) : r.canTravel = true := by
  rw [Http.Request.canTravel, hr]
  decide +kernel

theorem requested_eq_checked_at_loopback : ∃ (o : HttpOptions) (r : Http.Request) (e : Endpoint),
    Http.Request.plan someRoom ⟨"http", "http://[::1]", "http://[::1]"⟩ plainOptions =
        some (.ok (o, r)) ∧
      Endpoint.ofTarget ⟨"http", "http://[::1]", "http://[::1]"⟩ = .ok e ∧
        r.url.endpoint? = some e := by
  obtain ⟨o, r, hplan, hr⟩ :=
    exists_plan ⟨"http", "http://[::1]", "http://[::1]"⟩ plainOptions (u := loopback)
      (by decide +kernel)
  obtain ⟨e, he, -, -, hiff⟩ := requested_eq_checked_iff
    (p := ⟨[⟨"http", "[::1]", none, ""⟩], true⟩)
    (by decide +kernel : Target.parse "http://[::1]" = .ok ⟨"http", "http://[::1]", "http://[::1]"⟩)
    (.inl rfl) rfl (by decide +kernel) hplan (canTravel_of_loopback hr)
  have hurl : Target.IsUrlText "http://[::1]" := by
    rw [Target.IsUrlText]
    decide +kernel
  exact ⟨o, r, e, hplan, he, hiff.mpr (.inl hurl)⟩

/-- A target whose address starts with a scheme again. -/
def schemeAsHost : Target := ⟨"http", "http:/[::1]", "/http/http:/[::1]"⟩

/-- A name that is also a scheme is read as the host that it names. -/
theorem parse_schemeAsHost {text : String} {colon rest : List Char}
    (hs : Url.splitScheme? (Url.clean text.toList) =
      some ("http".toList, '/' :: '/' :: ("http".toList ++ colon ++ rest)))
    (hc : colon = [] ∨ colon = [':'])
    (hr : ∀ c ∈ rest.head?, Url.isAuthorityEnd .special c = true) :
    Url.parse text = .ok {
      scheme := "http"
      username := ""
      password := none
      host := some (.domain "http")
      port := none
      path := Url.readPath .special rest
      query := (Url.readQuery .special (rest.dropWhile (!Url.isPathEnd ·))).1
      fragment := (Url.readQuery .special (rest.dropWhile (!Url.isPathEnd ·))).2 } := by
  have hd : Url.domainHost "http".toList = .ok (.domain "http") :=
    Url.domainHost_of_word (by decide) (List.all_iff_forall_prop.mp (by decide)) (by decide +kernel)
  have hw : ∀ c ∈ "http".toList, c ∉ Url.delimiters := List.all_iff_forall_prop.mp (by decide)
  exact Url.parse_of_word hs (by decide) (by decide) hw hd (by decide) hc hr

theorem ofTarget_schemeAsHost :
    Endpoint.ofTarget schemeAsHost = .ok ⟨"http", "http", some 80, "/[::1]"⟩ := by
  have hr : ∀ c ∈ ['/', '[', ':', ':', '1', ']'].head?, Url.isAuthorityEnd .special c = true := by
    rintro c ⟨⟩
    rfl
  rw [Endpoint.ofTarget, parse_schemeAsHost (by decide +kernel) (.inr rfl) hr]
  decide +kernel

/-- The one rule of an allow-list is about a host with the name of a scheme. -/
theorem ofEntries_schemeName :
    AccessPolicy.ofEntries ["http://http"] = ⟨[⟨"http", "http", some 80, ""⟩], true⟩ := by
  have hparse : Target.parse "http://http" = .ok ⟨"http", "http://http", "http://http"⟩ := by
    decide +kernel
  have hr : ∀ c ∈ ([] : List Char).head?, Url.isAuthorityEnd .special c = true := nofun
  have htarget : Endpoint.ofTarget ⟨"http", "http://http", "http://http"⟩ =
      .ok ⟨"http", "http", some 80, ""⟩ := by
    rw [Endpoint.ofTarget, parse_schemeAsHost (by decide +kernel) (.inl rfl) hr]
    decide +kernel
  have hentries : AccessPolicy.entries ["http://http"] = ["http://http"] := by decide +kernel
  rw [AccessPolicy.ofEntries, hentries]
  simp [Endpoint.parseRule, hparse, htarget, Except.toOption]

theorem isPermitted_schemeAsHost :
    (AccessPolicy.ofEntries ["http://http"]).isPermitted schemeAsHost = true := by
  rw [ofEntries_schemeName, AccessPolicy.isPermitted, ofTarget_schemeAsHost]
  decide +kernel

/-- A rule for the host `http` admits a target whose request goes to another host. -/
theorem requested_ne_checked : ∃ (t : Target) (p : AccessPolicy) (room : Http.Room)
    (o : HttpOptions) (r : Http.Request) (e : Endpoint),
      Target.parse "/http/http:/[::1]" = .ok t ∧ Url.IsWebScheme t.scheme ∧
        p.restricted = true ∧ p.isPermitted t = true ∧
          Http.Request.plan room t plainOptions = some (.ok (o, r)) ∧ r.canTravel = true ∧
            Endpoint.ofTarget t = .ok e ∧ r.url.endpoint? ≠ some e := by
  obtain ⟨o, r, hplan, hr⟩ :=
    exists_plan schemeAsHost plainOptions (u := loopback) (by decide +kernel)
  refine ⟨schemeAsHost, ⟨[⟨"http", "http", none, ""⟩], true⟩, someRoom, o, r, _,
    by decide +kernel, .inl rfl, rfl, ?_, hplan, canTravel_of_loopback hr,
    ofTarget_schemeAsHost, ?_⟩
  · rw [AccessPolicy.isPermitted, ofTarget_schemeAsHost]
    decide +kernel
  · rw [hr]
    decide +kernel

end GuestNet
