import GuestNet.Proofs.Access.Redirects
import GuestNet.Proofs.Http.Headers

/-! The host that a request names. The first request of an open names one host: the one that a guest
gives among its headers, and only where it gives none the one that the address names. -/
namespace GuestNet

/-- The host that a guest gives among its headers. -/
def HttpOptions.givenHost? (o : HttpOptions) : Option String :=
  Http.givenValue? o.headers.entries "host"

namespace Driver

variable {V C : Type} [Connection C] {d : Driver V C} {raw options : String}

theorem world_openTarget_of_error {e : DriverError} (h : d.setup.backendFor d.table raw = .error e) :
    (d.openTarget raw options).2.world = d.world := by
  rw [openTarget, h]

end Driver

namespace Http

/-- A carrier that notes the requests as they are sent, the first one first. -/
def Carrier.overheard {W : Type} (net : Carrier W) : Carrier (W × List Request) where
  room := net.room
  send limits r v :=
    let (answer, w) := net.send limits r v.1
    (answer, w, v.2 ++ [r])

namespace Request

theorem values_host_new (method : String) (u : Url) (headers : Headers) (body : Option Bytes) :
    (new method u headers body).headers.values "host" = headers.values "host" := by
  rw [new]
  split
  · rfl
  · have hne : lowerCase "authorization" ≠ "host" := by decide
    rw [Headers.values_insertMissing, if_neg fun h => hne h.1]

variable {room : Room} {t : Target} {options : String} {o : HttpOptions} {r : Request}

theorem values_host_plan (h : plan room t options = some (.ok (o, r))) :
    r.headers.values "host" = o.givenHost?.elim [] ([.ofText ·]) := by
  obtain ⟨-, method, headers, u, -, hheaders, -, rfl⟩ := stages_of_plan h
  rw [values_host_new, values_addHeaders hheaders, Headers.values_empty, HttpOptions.givenHost?]

/-- A host is added where none is given. -/
theorem values_host_complete (r : Request) : r.complete.headers.values "host" =
    if r.headers.values "host" = [] then [.ofText (hostValue r.url)]
    else r.headers.values "host" := by
  have haccept : lowerCase "accept" ≠ "host" := by decide
  have hhost : lowerCase "host" = "host" := by decide
  rw [complete]
  simp [Headers.values_insertMissing, haccept, hhost]

/-- The host of a message is the one that a guest gives, and else that of its address. -/
theorem values_host (h : plan room t options = some (.ok (o, r))) :
    r.complete.headers.values "host" = [.ofText (o.givenHost?.getD (hostValue r.url))] := by
  rw [values_host_complete, values_host_plan h]
  cases o.givenHost? <;> rfl

end Request

variable {W : Type}

theorem overheard_send (net : Carrier W) (limits : Limits) (r : Request)
    (v : W × List Request) : net.overheard.send limits r v =
      ((net.send limits r v.1).1, (net.send limits r v.1).2, v.2 ++ [r]) :=
  rfl

/-- The request itself is sent first. What holds of it and of each request that an answer leads to
holds of all that are sent. -/
theorem follow_overheard (net : Carrier W) (limits : Limits) (first : Url) (left : Nat)
    {P : Request → Prop} (hstep : ∀ r a next, P r → r.redirected? a = some next →
      next.canTravel = true → P next) {r : Request} (hr : P r) (v : W × List Request) : ∃ rest,
        (follow net.overheard limits first left r v).2.2 = v.2 ++ r.complete :: rest ∧
          ∀ q ∈ rest, ∃ r', P r' ∧ q = r'.complete := by
  induction left generalizing r v with
  | zero =>
    refine ⟨[], ?_, List.forall_mem_nil _⟩
    rw [follow, overheard_send]
    rcases net.send limits r.complete v.1 with ⟨answer, w⟩
    cases answer with
    | none => rfl
    | some a => cases ha : r.redirected? a <;> simp only [ha]
  | succ left ih =>
    rw [follow, overheard_send]
    rcases net.send limits r.complete v.1 with ⟨answer, w⟩
    cases answer with
    | none => exact ⟨[], rfl, List.forall_mem_nil _⟩
    | some a =>
      cases ha : r.redirected? a with
      | none => exact ⟨[], by simp only [ha], List.forall_mem_nil _⟩
      | some next =>
        simp only [ha]
        split
        · rename_i hc
          have hnext : P next := hstep r a next hr ha hc
          obtain ⟨rest, he, hrest⟩ := ih hnext (w, v.2 ++ [r.complete])
          refine ⟨next.complete :: rest, ?_, List.forall_mem_cons.mpr ⟨⟨next, hnext, rfl⟩, hrest⟩⟩
          rw [he, List.append_assoc]
          rfl
        · exact ⟨[], rfl, List.forall_mem_nil _⟩

/-- An exchange sends the request that it is for, if that can travel. -/
theorem exchange_overheard (net : Carrier W) (limits : Limits) (r : Request)
    (v : W × List Request) : ∃ sent, (exchange net.overheard limits r v).2.2 = v.2 ++ sent ∧
      (sent ≠ [] ↔ r.canTravel = true) ∧ ∀ q ∈ sent.head?, q = r.complete := by
  rw [exchange]
  split
  · rename_i hc
    obtain ⟨rest, he, -⟩ := follow_overheard (P := fun _ => True) net limits r.url redirectLimit
      (fun _ _ _ _ _ _ => trivial) trivial v
    refine ⟨r.complete :: rest, he, iff_of_true (List.cons_ne_nil _ _) hc, ?_⟩
    rintro q ⟨⟩
    rfl
  · rename_i hc
    exact ⟨[], (List.append_nil _).symm, iff_of_false (fun h => h rfl) hc, by simp⟩

/-- What one attempt to open a target sends first. -/
theorem connect_overheard (net : Carrier W) (t : Target) (options : String) (config : Config)
    (v : W × List Request) : ∃ sent,
      ((backend net.overheard).connect t options config v).2.2 = v.2 ++ sent ∧
        (sent ≠ [] ↔ ∃ o r, Request.plan net.room t options = some (.ok (o, r)) ∧
          r.canTravel = true) ∧
        ∀ q ∈ sent.head?, ∃ o r, Request.plan net.room t options = some (.ok (o, r)) ∧
          q = r.complete := by
  by_cases hplan : ∃ o r, Request.plan net.room t options = some (.ok (o, r))
  · obtain ⟨o, r, hplan⟩ := hplan
    obtain ⟨sent, he, hsent, hfirst⟩ := exchange_overheard net
      ⟨config.connectTimeout o.connectTimeout, o.readTimeout⟩ r v
    refine ⟨sent, by rw [connect_snd net.overheard config v hplan, he], ?_, ?_⟩
    · rw [hsent]
      constructor
      · intro hc
        exact ⟨o, r, hplan, hc⟩
      · rintro ⟨o', r', hplan', hc⟩
        cases hplan.symm.trans hplan'
        exact hc
    · intro q hq
      exact ⟨o, r, hplan, hfirst q hq⟩
  · have hnone : ∀ o r, Request.plan net.room t options ≠ some (.ok (o, r)) :=
      fun o r h => hplan ⟨o, r, h⟩
    refine ⟨[], ?_, iff_of_false (fun h => h rfl) ?_, by simp⟩
    · rw [connect_snd_of_forall_ne net.overheard config v hnone, List.append_nil]
    · rintro ⟨o, r, h, -⟩
      exact hplan ⟨o, r, h⟩

variable {V C : Type} [Connection C]

/-- The first request that an open sends names one host. That is the one that the guest gives among
its headers, in whatever letter case, and where it gives none the one of the address, with the port
unless it is the default one. Something is sent just if the target is permitted, there is room for
a handle, and the options and the address make a request that can travel. -/
theorem openTarget_host (net : Carrier W) (d : Driver V C) (options : String)
    {f : ResponseConnection → C} {get : V → W × List Request} {put : V → W × List Request → V}
    {raw : String} {t : Target} (hget : ∀ v w, get (put v w) = w)
    (ht : Target.parse raw = .ok t)
    (hb : d.setup.registry.find? t.scheme = some ((backend net.overheard).embed f get put)) :
    ∃ sent, (get (d.openTarget raw options).2.world).2 = (get d.world).2 ++ sent ∧
      (sent ≠ [] ↔ d.setup.policy.isPermitted t = true ∧ d.table.isFull = false ∧
        ∃ o r, Request.plan net.room t options = some (.ok (o, r)) ∧ r.canTravel = true) ∧
      ∀ q ∈ sent.head?, ∃ o r, Request.plan net.room t options = some (.ok (o, r)) ∧ q.url = r.url ∧
        q.headers.values "host" = [.ofText (o.givenHost?.getD (Request.hostValue q.url))] := by
  have hpermitted : d.setup.backendFor d.table raw =
      .ok (t, (backend net.overheard).embed f get put) ↔
        d.setup.policy.isPermitted t = true ∧ d.table.isFull = false := by
    rw [Setup.backendFor_eq_ok_iff, and_iff_right ht, and_iff_right hb]
  rw [← and_assoc, ← hpermitted]
  by_cases hbackend : d.setup.backendFor d.table raw =
      .ok (t, (backend net.overheard).embed f get put)
  · obtain ⟨sent, he, hsent, hfirst⟩ :=
      connect_overheard net t options d.setup.config (get d.world)
    refine ⟨sent, ?_, ?_, ?_⟩
    · rw [Driver.world_openTarget_of_ok hbackend, ← he, ← hget d.world
        ((backend net.overheard).connect t options d.setup.config (get d.world)).2]
      rfl
    · rw [hsent, and_iff_right hbackend]
    · intro q hq
      obtain ⟨o, r, hplan, rfl⟩ := hfirst q hq
      refine ⟨o, r, hplan, url_complete r, ?_⟩
      rw [url_complete, Request.values_host hplan]
  · refine ⟨[], ?_, iff_of_false (fun h => h rfl) fun h => hbackend h.1, by simp⟩
    rcases hr : d.setup.backendFor d.table raw with e | ⟨t', b⟩
    · rw [Driver.world_openTarget_of_error hr, List.append_nil]
    · obtain ⟨ht', hb', -⟩ := Setup.backendFor_eq_ok_iff.mp hr
      cases ht.symm.trans ht'
      cases hb.symm.trans hb'
      exact absurd hr hbackend

namespace Disguise

def carrier : Carrier Unit := ⟨someRoom, fun _ _ w => (some ⟨200, .empty, []⟩, w)⟩

/-- A driver for one host alone. -/
def driver : Driver (Unit × List Request) ResponseConnection :=
  .new (Config.default.withAllowedTargets ["http://[::1]"])
    [(backend carrier.overheard).embed id id fun _ w => w] ((), [])

/-- The same header twice, in different letter case. -/
def options : String := "[\"GET\",null,null,\x7b\"HOST\":\"a\",\"Host\":\"internal.example\"\x7d]"

theorem sent_driver : (driver.openTarget "http://[::1]" options).2.world.2.map
    (fun q => (q.url, q.headers.values "host")) = [(loopback, [.ofText "internal.example"])] := by
  decide +kernel

theorem openTarget_host_given : ∃ sent,
    (driver.openTarget "http://[::1]" options).2.world.2 = sent ∧
      sent.map (fun q => (q.url, q.headers.values "host")) =
        [(loopback, [.ofText "internal.example"])] ∧
      ∀ q ∈ sent.head?, ∃ o r,
        Request.plan someRoom ⟨"http", "http://[::1]", "http://[::1]"⟩ options =
            some (.ok (o, r)) ∧
          q.headers.values "host" = [.ofText (o.givenHost?.getD (Request.hostValue q.url))] := by
  obtain ⟨sent, he, -, hfirst⟩ :=
    openTarget_host carrier driver options (fun _ _ => rfl) parse_loopback rfl
  refine ⟨sent, he, (congrArg (List.map _) he).symm.trans sent_driver, ?_⟩
  intro q hq
  obtain ⟨o, r, hplan, -, hhost⟩ := hfirst q hq
  exact ⟨o, r, hplan, hhost⟩

/-- A driver for a host with the name of a scheme. -/
def schemeDriver : Driver (Unit × List Request) ResponseConnection :=
  .new (Config.default.withAllowedTargets ["http://http"])
    [(backend carrier.overheard).embed id id fun _ w => w] ((), [])

theorem sent_schemeDriver :
    (schemeDriver.openTarget "/http/http:/[::1]" plainOptions).2.world.2.map
      (fun q => (q.url, q.headers.values "host")) = [(loopback, [.ofText "[::1]"])] := by
  have hbackend : schemeDriver.setup.backendFor schemeDriver.table "/http/http:/[::1]" =
      .ok (schemeAsHost, (backend carrier.overheard).embed id id fun _ w => w) :=
    Setup.backendFor_eq_ok_iff.mpr ⟨by decide +kernel, rfl, isPermitted_schemeAsHost, rfl⟩
  rw [Driver.world_openTarget_of_ok hbackend]
  decide +kernel

/-- A guest names a host to which no rule gives it access. Where a target is not its own address,
also the host that the address names may be one that no rule admits. -/
theorem host_not_requested :
    (∃ q ∈ (driver.openTarget "http://[::1]" options).2.world.2,
      driver.setup.policy.restricted = true ∧
        (∃ t, Target.parse "http://[::1]" = .ok t ∧ Url.IsWebScheme t.scheme ∧
          driver.setup.policy.isPermitted t = true) ∧
        q.headers.values "host" ≠ [.ofText (Request.hostValue q.url)]) ∧
      ∃ q ∈ (schemeDriver.openTarget "/http/http:/[::1]" plainOptions).2.world.2,
        schemeDriver.setup.policy.restricted = true ∧
          (∃ t, Target.parse "/http/http:/[::1]" = .ok t ∧ Url.IsWebScheme t.scheme ∧
            schemeDriver.setup.policy.isPermitted t = true) ∧
          q.headers.values "host" = [.ofText (Request.hostValue q.url)] ∧
          ¬ ∃ e, q.url.endpoint? = some e ∧
            schemeDriver.setup.policy.rules.any (·.admits e) = true := by
  have hpolicy : schemeDriver.setup.policy = ⟨[⟨"http", "http", some 80, ""⟩], true⟩ :=
    ofEntries_schemeName
  constructor
  · obtain ⟨q, hq, he⟩ := List.map_eq_singleton_iff.mp sent_driver
    obtain ⟨hurl, hhost⟩ := Prod.mk.inj he
    rw [hq]
    refine ⟨q, List.mem_cons_self, by decide +kernel,
      ⟨_, parse_loopback, .inl rfl, by decide +kernel⟩, ?_⟩
    rw [hhost, hurl]
    decide +kernel
  · obtain ⟨q, hq, he⟩ := List.map_eq_singleton_iff.mp sent_schemeDriver
    obtain ⟨hurl, hhost⟩ := Prod.mk.inj he
    have hend : loopback.endpoint? = some ⟨"http", "[::1]", some 80, ""⟩ := by decide +kernel
    rw [hq]
    refine ⟨q, List.mem_cons_self, by rw [hpolicy],
      ⟨schemeAsHost, by decide +kernel, .inl rfl, isPermitted_schemeAsHost⟩, ?_, ?_⟩
    · rw [hhost, hurl]
      decide +kernel
    · rintro ⟨e, hq', ha⟩
      rw [hurl, hend] at hq'
      cases hq'
      rw [hpolicy] at ha
      exact absurd ha (by decide +kernel)

end Disguise
end Http
end GuestNet
