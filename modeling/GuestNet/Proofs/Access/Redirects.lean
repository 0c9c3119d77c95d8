import Mathlib.Data.List.Chain
import GuestNet.Driver
import GuestNet.Http.Exchange
import GuestNet.Proofs.Access.RequestedEndpoint
import GuestNet.Proofs.Driver.Registration

/-! Where the requests of one open go. A policy is asked about the target only: the first request
goes where a rule admits it, and each of the others where the answer to the one before it leads. -/
namespace GuestNet.Http

/-- An address that was asked, and the answer. -/
structure Sent where
  url : Url
  answer : Option Response
deriving DecidableEq

/-- A carrier that notes what is sent, the first request first. -/
def Carrier.recorded {W : Type} (net : Carrier W) : Carrier (W × List Sent) where
  room := net.room
  send limits r v :=
    let (answer, w) := net.send limits r v.1
    (answer, w, v.2 ++ [⟨r.url, answer⟩])

/-- The statuses with which an answer leads to another address. -/
def redirectStatuses : List Nat := [301, 302, 303] ++ [307, 308]

/-- Where an answer from an address leads. -/
def onward? (u : Url) (a : Response) : Option Url :=
  if a.status ∈ redirectStatuses then
    ((a.headers.get? "location").bind Bytes.decode?).bind fun text =>
      (Url.join u text).toOption.filter fun url => isUri url.write
  else none

/-- The answer to one request leads to the other one. -/
def LeadsTo (s t : Sent) : Prop :=
  ∃ a, s.answer = some a ∧ onward? s.url a = some t.url ∧ Url.IsWebScheme t.url.scheme

theorem location?_eq (r : Request) (a : Response) : location? r a =
    ((a.headers.get? "location").bind Bytes.decode?).bind fun text =>
      (Url.join r.url text).toOption.filter fun url => isUri url.write := by
  rw [location?]
  cases (a.headers.get? "location").bind Bytes.decode? <;> rfl

theorem url_redirected? (r : Request) (a : Response) :
    (r.redirected? a).map Request.url = onward? r.url a := by
  have hmoved (q : Request) : ((location? r a).map q.moved).map Request.url = location? r a := by
    rw [Option.map_map]
    exact Option.map_id'
  rw [Request.redirected?, onward?, redirectStatuses, ← location?_eq]
  split
  · rename_i hs
    rw [hmoved, if_pos (List.mem_append_left _ hs)]
  · rename_i hs
    split
    · rename_i hs'
      rw [hmoved, if_pos (List.mem_append_right _ hs')]
    · rename_i hs'
      rw [if_neg fun h => (List.mem_append.mp h).elim hs hs']
      rfl

@[simp] theorem url_complete (r : Request) : r.complete.url = r.url := rfl

variable {W : Type}

theorem recorded_send (net : Carrier W) (limits : Limits) (r : Request) (v : W × List Sent) :
    net.recorded.send limits r.complete v =
      ((net.send limits r.complete v.1).1, (net.send limits r.complete v.1).2,
        v.2 ++ [⟨r.url, (net.send limits r.complete v.1).1⟩]) := by
  simp only [Carrier.recorded, url_complete]

/-- A request and those that it leads to. -/
theorem follow_sent (net : Carrier W) (limits : Limits) (first : Url) (left : Nat) (r : Request)
    (v : W × List Sent) : ∃ answer rest,
      (follow net.recorded limits first left r v).2.2 = v.2 ++ ⟨r.url, answer⟩ :: rest ∧
        (⟨r.url, answer⟩ :: rest).IsChain LeadsTo ∧ rest.length ≤ left := by
  induction left generalizing r v with
  | zero =>
    rcases hs : net.send limits r.complete v.1 with ⟨answer, w⟩
    refine ⟨answer, [], ?_, .singleton _, Nat.le_refl 0⟩
    rw [follow, recorded_send, hs]
    cases answer with
    | none => rfl
    | some a => cases hr : r.redirected? a <;> simp only [hr]
  | succ left ih =>
    rcases hs : net.send limits r.complete v.1 with ⟨answer, w⟩
    rw [follow, recorded_send, hs]
    cases answer with
    | none => exact ⟨none, [], rfl, .singleton _, Nat.zero_le _⟩
    | some a =>
      cases hr : r.redirected? a with
      | none => exact ⟨some a, [], by simp only [hr], .singleton _, Nat.zero_le _⟩
      | some next =>
        simp only [hr]
        split
        · rename_i hc
          obtain ⟨answer, rest, he, hchain, hlen⟩ := ih next (w, v.2 ++ [⟨r.url, some a⟩])
          have hl : LeadsTo ⟨r.url, some a⟩ ⟨next.url, answer⟩ := by
            refine ⟨a, rfl, ?_, Request.isWebScheme_of_canTravel hc⟩
            rw [← url_redirected?, hr, Option.map_some]
          refine ⟨some a, ⟨next.url, answer⟩ :: rest, ?_, .cons_cons hl hchain,
            Nat.succ_le_succ hlen⟩
          rw [he, List.append_assoc]
          rfl
        · exact ⟨some a, [], rfl, .singleton _, Nat.zero_le _⟩

/-- What an exchange is told does not depend on the notes. -/
theorem follow_recorded (net : Carrier W) (limits : Limits) (first : Url) (left : Nat)
    (r : Request) (v : W × List Sent) :
    (follow net.recorded limits first left r v).map id Prod.fst =
      follow net limits first left r v.1 := by
  induction left generalizing r v with
  | zero =>
    rw [follow, follow, recorded_send]
    obtain ⟨answer, w⟩ := net.send limits r.complete v.1
    cases answer with
    | none => rfl
    | some a => cases hr : r.redirected? a <;> simp only [hr, Prod.map, id]
  | succ left ih =>
    rw [follow, follow, recorded_send]
    obtain ⟨answer, w⟩ := net.send limits r.complete v.1
    cases answer with
    | none => rfl
    | some a =>
      cases hr : r.redirected? a with
      | none => simp only [hr, Prod.map, id]
      | some next =>
        simp only [hr]
        split
        · exact ih next (w, v.2 ++ [⟨r.url, some a⟩])
        · rfl

theorem exchange_sent (net : Carrier W) (limits : Limits) (r : Request) (v : W × List Sent) :
    ∃ sent, (exchange net.recorded limits r v).2.2 = v.2 ++ sent ∧ sent.IsChain LeadsTo ∧
      sent.length ≤ redirectLimit + 1 ∧ ∀ s ∈ sent.head?, r.canTravel = true ∧ s.url = r.url := by
  rw [exchange]
  split
  · rename_i hc
    obtain ⟨answer, rest, he, hchain, hlen⟩ := follow_sent net limits r.url redirectLimit r v
    refine ⟨⟨r.url, answer⟩ :: rest, he, hchain, Nat.succ_le_succ hlen, ?_⟩
    rintro s ⟨⟩
    exact ⟨hc, rfl⟩
  · exact ⟨[], (List.append_nil _).symm, .nil, Nat.zero_le _, by simp⟩

theorem exchange_recorded (net : Carrier W) (limits : Limits) (r : Request)
    (v : W × List Sent) :
    (exchange net.recorded limits r v).map id Prod.fst = exchange net limits r v.1 := by
  rw [exchange, exchange]
  split
  · exact follow_recorded net limits r.url redirectLimit r v
  · rfl

/-- What shares a network with a backend is changed by the exchange only. -/
theorem connect_snd (net : Carrier W) {t : Target} {options : String} (config : Config)
    {o : HttpOptions} {r : Request} (w : W)
    (h : Request.plan net.room t options = some (.ok (o, r))) :
    ((backend net).connect t options config w).2 =
      (exchange net ⟨config.connectTimeout o.connectTimeout, o.readTimeout⟩ r w).2 := by
  simp only [backend, attempt, h]
  rcases exchange net ⟨config.connectTimeout o.connectTimeout, o.readTimeout⟩ r w with
    ⟨failure | a, w⟩ <;> rfl

/-- Without a request there is no exchange. -/
theorem connect_snd_of_forall_ne (net : Carrier W) {t : Target} {options : String}
    (config : Config) (w : W)
    (h : ∀ o r, Request.plan net.room t options ≠ some (.ok (o, r))) :
    ((backend net).connect t options config w).2 = w := by
  simp only [backend, attempt]
  cases hplan : Request.plan net.room t options with
  | none => rfl
  | some x =>
    cases x with
    | error e => rfl
    | ok plan => exact absurd hplan (h plan.1 plan.2)

/-- The requests of one attempt to open a target. -/
theorem connect_sent (net : Carrier W) (t : Target) (options : String) (config : Config)
    (v : W × List Sent) : ∃ sent, ((backend net.recorded).connect t options config v).2.2 =
      v.2 ++ sent ∧ sent.IsChain LeadsTo ∧ sent.length ≤ redirectLimit + 1 ∧
        ∀ s ∈ sent.head?, ∃ o r, Request.plan net.room t options = some (.ok (o, r)) ∧
          r.canTravel = true ∧ s.url = r.url := by
  by_cases hplan : ∃ o r, Request.plan net.room t options = some (.ok (o, r))
  · obtain ⟨o, r, hplan⟩ := hplan
    obtain ⟨sent, he, hchain, hlen, hhead⟩ := exchange_sent net
      ⟨config.connectTimeout o.connectTimeout, o.readTimeout⟩ r v
    refine ⟨sent, by rw [connect_snd net.recorded config v hplan, he], hchain, hlen, ?_⟩
    intro s hs
    exact ⟨o, r, hplan, hhead s hs⟩
  · refine ⟨[], ?_, .nil, Nat.zero_le _, by simp⟩
    rw [connect_snd_of_forall_ne net.recorded config v fun o r h => hplan ⟨o, r, h⟩,
      List.append_nil]

/-- An attempt to open a target goes as it does without the notes. -/
theorem connect_recorded (net : Carrier W) (t : Target) (options : String) (config : Config)
    (v : W × List Sent) : ((backend net.recorded).connect t options config v).map id Prod.fst =
      (backend net).connect t options config v.1 := by
  have hroom : net.recorded.room = net.room := rfl
  simp only [backend, attempt, hroom]
  cases hplan : Request.plan net.room t options with
  | none => rfl
  | some x =>
    cases x with
    | error e => rfl
    | ok plan =>
      obtain ⟨o, r⟩ := plan
      have he := exchange_recorded net
        ⟨config.connectTimeout o.connectTimeout, o.readTimeout⟩ r v
      simp only [← he]
      rcases exchange net.recorded
        ⟨config.connectTimeout o.connectTimeout, o.readTimeout⟩ r v with ⟨failure | a, w⟩ <;> rfl

end GuestNet.Http

namespace GuestNet

variable {V C : Type}

namespace Driver

variable [Connection C]

theorem world_bind (d : Driver V C) (c : C) : (d.bind c).2.world = d.world := by
  rw [bind]
  split <;> rfl

theorem world_openTarget_of_ok {d : Driver V C} {raw options : String} {t : Target}
    {b : Backend V C} (h : d.setup.backendFor d.table raw = .ok (t, b)) :
    (d.openTarget raw options).2.world = (b.connect t options d.setup.config d.world).2 := by
  simp only [openTarget, h]
  rcases b.connect t options d.setup.config d.world with ⟨e | c, world⟩
  · rfl
  · exact world_bind _ _

/-- An open leaves the world alone, or a permitted target is asked of the backend of its
scheme. -/
theorem world_openTarget (d : Driver V C) (raw options : String) :
    (d.openTarget raw options).2.world = d.world ∨ ∃ t b, Target.parse raw = .ok t ∧
      d.setup.registry.find? t.scheme = some b ∧ d.setup.policy.isPermitted t = true ∧
        (d.openTarget raw options).2.world =
          (b.connect t options d.setup.config d.world).2 := by
  rcases hb : d.setup.backendFor d.table raw with e | ⟨t, b⟩
  · rw [openTarget, hb]
    exact .inl rfl
  · obtain ⟨ht, hf, hp, -⟩ := Setup.backendFor_eq_ok_iff.mp hb
    exact .inr ⟨t, b, ht, hf, hp, world_openTarget_of_ok hb⟩

end Driver

namespace Http

variable {W : Type} [Connection C]

/-- Where a driver sends requests while it opens a target. What is asked of the rules is the first
address, for a target that is its own address; each of the others is where the answer to the one
before it leads, whatever the rules are. -/
theorem openTarget_sent (net : Carrier W) (d : Driver V C) (options : String)
    {f : ResponseConnection → C} {get : V → W × List Sent} {put : V → W × List Sent → V}
    {raw : String} {t : Target} (hget : ∀ v w, get (put v w) = w)
    (ht : Target.parse raw = .ok t) (hs : Url.IsWebScheme t.scheme)
    (hb : d.setup.registry.find? t.scheme = some ((backend net.recorded).embed f get put))
    (hr : d.setup.policy.restricted = true) :
    ∃ sent, (get (d.openTarget raw options).2.world).2 = (get d.world).2 ++ sent ∧
      sent.IsChain LeadsTo ∧ sent.length ≤ redirectLimit + 1 ∧
        (sent ≠ [] → d.setup.policy.isPermitted t = true) ∧
          (Target.IsUrlText raw → ∀ s ∈ sent.head?, ∃ e, s.url.endpoint? = some e ∧
            d.setup.policy.rules.any (·.admits e) = true) := by
  rcases d.world_openTarget raw options with hw | ⟨t', b, ht', hb', hp, hw⟩
  · exact ⟨[], by rw [hw, List.append_nil], .nil, Nat.zero_le _, nofun, fun _ => by simp⟩
  · rw [ht] at ht'
    cases ht'
    rw [hb] at hb'
    cases hb'
    obtain ⟨sent, he, hchain, hlen, hhead⟩ := connect_sent net t options d.setup.config
      (get d.world)
    refine ⟨sent, ?_, hchain, hlen, fun _ => hp, ?_⟩
    · rw [hw, ← he, ← hget d.world ((backend net.recorded).connect t options d.setup.config
        (get d.world)).2]
      rfl
    · intro hu s hm
      obtain ⟨o, r, hplan, -, hurl⟩ := hhead s hm
      obtain ⟨e, hofe, ha⟩ := AccessPolicy.of_isPermitted hr hp
      obtain ⟨u, hparse, -, hend⟩ := Request.url_of_plan hplan
      refine ⟨e, ?_, ha⟩
      rw [hurl, hend, Endpoint.endpoint?_of_ofTarget ht hs hu hparse hofe]

/-- A network in which one host leads to another. -/
def detour : Carrier Unit where
  room := someRoom
  send _ r w :=
    if r.url.host = loopback.host then
      (some ⟨302, ⟨[("location", .ofText "http://[::2]/")]⟩, []⟩, w)
    else (some ⟨200, .empty, []⟩, w)

/-- A driver for the first host alone. -/
def detourDriver : Driver (Unit × List Sent) ResponseConnection :=
  .new (Config.default.withAllowedTargets ["http://[::1]"])
    [(backend detour.recorded).embed id id fun _ w => w] ((), [])

def elsewhere : Url := { loopback with host := some (.ipv6 [0, 0, 0, 0, 0, 0, 0, 2]) }

theorem parse_loopback :
    Target.parse "http://[::1]" = .ok ⟨"http", "http://[::1]", "http://[::1]"⟩ := by
  decide +kernel

theorem sent_detourDriver :
    (detourDriver.openTarget "http://[::1]" plainOptions).2.world.2.map (·.url) =
      [loopback, elsewhere] := by
  decide +kernel

theorem openTarget_sent_detour : ∃ sent,
    (detourDriver.openTarget "http://[::1]" plainOptions).2.world.2 = sent ∧
      sent.map (·.url) = [loopback, elsewhere] ∧ sent.IsChain LeadsTo := by
  obtain ⟨sent, he, hchain, -, -, -⟩ := openTarget_sent detour detourDriver plainOptions
    (fun _ _ => rfl) parse_loopback (.inl rfl) rfl rfl
  exact ⟨sent, he, (congrArg (List.map Sent.url) he).symm.trans sent_detourDriver, hchain⟩

/-- A driver for a host with the name of a scheme. -/
def schemeDriver : Driver (Unit × List Sent) ResponseConnection :=
  .new (Config.default.withAllowedTargets ["http://http"])
    [(backend detour.recorded).embed id id fun _ w => w] ((), [])

theorem backendFor_schemeDriver :
    schemeDriver.setup.backendFor schemeDriver.table "/http/http:/[::1]" =
      .ok (schemeAsHost, (backend detour.recorded).embed id id fun _ w => w) := by
  exact Setup.backendFor_eq_ok_iff.mpr
    ⟨by decide +kernel, rfl, isPermitted_schemeAsHost, rfl⟩

theorem sent_schemeDriver :
    (schemeDriver.openTarget "/http/http:/[::1]" plainOptions).2.world.2.map (·.url) =
      [loopback, elsewhere] := by
  rw [Driver.world_openTarget_of_ok backendFor_schemeDriver]
  decide +kernel

/-- For a target that the policy of a driver permits, the request with this number goes to an
address that no rule admits. -/
def LeadsAstray (d : Driver (Unit × List Sent) ResponseConnection) (raw options : String)
    (n : Nat) : Prop :=
  d.setup.policy.restricted = true ∧
    (∃ t, Target.parse raw = .ok t ∧ Url.IsWebScheme t.scheme ∧
      d.setup.policy.isPermitted t = true) ∧
    ∃ s, (d.openTarget raw options).2.world.2[n]? = some s ∧ ¬ ∃ e, s.url.endpoint? = some e ∧
      d.setup.policy.rules.any (·.admits e) = true

/-- The answer from a host that a rule admits leads to one that none does. Where a target is not
its own address, already the first request goes to such a host. -/
theorem sent_not_admitted :
    Target.IsUrlText "http://[::1]" ∧ LeadsAstray detourDriver "http://[::1]" plainOptions 1 ∧
      ¬ Target.IsUrlText "/http/http:/[::1]" ∧
        LeadsAstray schemeDriver "/http/http:/[::1]" plainOptions 0 := by
  have hastray {d : Driver (Unit × List Sent) ResponseConnection} {sent : List Sent} {n : Nat}
      {u : Url} {e : Endpoint} (hurl : (sent.map (·.url))[n]? = some u)
      (hend : u.endpoint? = some e) (ha : d.setup.policy.rules.any (·.admits e) = false) :
      ∃ s, sent[n]? = some s ∧ ¬ ∃ e, s.url.endpoint? = some e ∧
        d.setup.policy.rules.any (·.admits e) = true := by
    rw [List.getElem?_map] at hurl
    obtain ⟨s, hs, rfl⟩ := Option.map_eq_some_iff.mp hurl
    refine ⟨s, hs, ?_⟩
    rintro ⟨e', hend', ha'⟩
    cases hend.symm.trans hend'
    exact absurd ha' (by simp [ha])
  have hpolicy : schemeDriver.setup.policy = ⟨[⟨"http", "http", some 80, ""⟩], true⟩ :=
    ofEntries_schemeName
  refine ⟨by rw [Target.IsUrlText]; decide +kernel, ⟨by decide +kernel,
    ⟨_, parse_loopback, .inl rfl, by decide +kernel⟩, ?_⟩, by rw [Target.IsUrlText]; decide +kernel,
    ⟨by rw [hpolicy], ⟨schemeAsHost, by decide +kernel, .inl rfl, isPermitted_schemeAsHost⟩, ?_⟩⟩
  · exact hastray (u := elsewhere) (e := ⟨"http", "[::2]", some 80, ""⟩)
      (by rw [sent_detourDriver]; rfl) (by decide +kernel) (by decide +kernel)
  · refine hastray (u := loopback) (e := ⟨"http", "[::1]", some 80, ""⟩)
      (by rw [sent_schemeDriver]; rfl) (by decide +kernel) ?_
    rw [hpolicy]
    decide +kernel

end Http
end GuestNet
