import GuestNet.Proofs.Access.Allowlist
import GuestNet.Proofs.Access.HostHeader
import GuestNet.Proofs.Http.GivenHeaders
import GuestNet.Proofs.Options.RoundTrip

/-! What a guest gives for a request is looked at before anything is sent: the options, the method
in them, their headers, and the address of the target. The first fault in this order names the
error, and an open that finds none fails for the exchange alone. -/
namespace GuestNet.Http

/-- What is a method in upper case and without white space at its ends. -/
def IsMethod (s : String) : Prop := isToken ((Text.trim s.toList).map Char.toUpper) = true

theorem not_isMethod_of_isAllBlank {s : String} (h : Text.isAllBlank s = true) : ¬ IsMethod s := by
  rw [IsMethod, (Text.trim_eq_nil_iff s.toList).mpr h]
  decide

theorem IsMethod.isAllBlank {s : String} (h : IsMethod s) : Text.isAllBlank s = false :=
  eq_false_of_ne_true fun hb => not_isMethod_of_isAllBlank hb h

/-- What is wrong with what a guest gives. Each kind of fault is one where there is none of the
kinds before it. -/
inductive Fault (t : Target) (options : String) : String → Prop where
  | options {e : Json.Error} : HttpOptions.decode options = .error e →
      Fault t options ("invalid http options: " ++ e.message)
  | noMethod {o : HttpOptions} : HttpOptions.decode options = .ok o →
      Text.isAllBlank o.method = true → Fault t options "http method must not be empty"
  | method {o : HttpOptions} : HttpOptions.decode options = .ok o →
      Text.isAllBlank o.method = false → ¬ IsMethod o.method →
        Fault t options ("invalid http method '" ++ o.method ++ "'")
  | field {o : HttpOptions} {reason : String} : HttpOptions.decode options = .ok o →
      IsMethod o.method → FirstFieldFault o.headers reason → Fault t options reason
  | address {o : HttpOptions} {e : UrlError} : HttpOptions.decode options = .ok o →
      IsMethod o.method → (∀ e ∈ o.headers.entries, IsField e) → Url.parse t.address = .error e →
        Fault t options ("invalid url '" ++ t.address ++ "': " ++ e.message)

/-- What a guest gives for a request has no fault, and its headers find room. -/
structure Sound (room : Room) (t : Target) (options : String) (o : HttpOptions)
    (headers : Headers) (u : Url) : Prop where
  options : HttpOptions.decode options = .ok o
  method : IsMethod o.method
  headers : readHeaders (room.headers o.headers) o.headers = some (.ok headers)
  address : Url.parse t.address = .ok u

/-- The request of what a guest gives, once its headers and the address are read. -/
def Request.ofOptions (o : HttpOptions) (headers : Headers) (u : Url) : Request :=
  .new (String.ofList ((Text.trim o.method.toList).map Char.toUpper)) u headers
    (o.body.map .ofText)

/-- Before any fault there are more headers than find room, or there is no fault, and no room for
the client's own headers. -/
inductive Overfull (room : Room) (t : Target) (options : String) : Prop where
  | headers {o : HttpOptions} : HttpOptions.decode options = .ok o → IsMethod o.method →
      room.headers o.headers < o.headers.entries.length →
        (∀ e ∈ o.headers.entries.take (room.headers o.headers + 1), IsField e) →
          Overfull room t options
  | request {o : HttpOptions} {headers : Headers} {u : Url} : Sound room t options o headers u →
      room.carries (Request.ofOptions o headers u) = false → Overfull room t options

section

variable {room : Room} {t : Target} {options : String}

theorem readOptions_of_decode {o : HttpOptions} (h : HttpOptions.decode options = .ok o) :
    readOptions options = if Text.isAllBlank o.method then
      .error (.badParams "http method must not be empty") else .ok o := by
  rw [readOptions, h]

theorem readMethod_of_isMethod {s : String} (h : IsMethod s) :
    readMethod s = .ok (String.ofList ((Text.trim s.toList).map Char.toUpper)) := by
  rw [IsMethod] at h
  rw [readMethod, readMethod?, if_pos h]

theorem readMethod_of_not_isMethod {s : String} (h : ¬ IsMethod s) :
    readMethod s = .error (.badParams ("invalid http method '" ++ s ++ "'")) := by
  rw [IsMethod] at h
  rw [readMethod, readMethod?, if_neg h]

theorem readOptions_of_isMethod {o : HttpOptions} (ho : HttpOptions.decode options = .ok o)
    (hm : IsMethod o.method) : readOptions options = .ok o := by
  rw [readOptions_of_decode ho, hm.isAllBlank, if_neg Bool.false_ne_true]

theorem Sound.plan {o : HttpOptions} {headers : Headers} {u : Url}
    (h : Sound room t options o headers u) : Request.plan room t options =
      if room.carries (Request.ofOptions o headers u) then
        some (.ok (o, Request.ofOptions o headers u)) else none := by
  simp only [Request.plan, readOptions_of_isMethod h.options h.method,
    readMethod_of_isMethod h.method, h.headers, readUrl, h.address]
  rfl

/-- A fault names the error, unless there are headers before it that find no room. -/
theorem Fault.plan {reason : String} (h : Fault t options reason) (room : Room) :
    Overfull room t options ∨
      Request.plan room t options = some (.error (.badParams reason)) := by
  cases h with
  | options he => exact .inr (by rw [Request.plan, readOptions, he])
  | noMethod ho hb => exact .inr (by rw [Request.plan, readOptions_of_decode ho, if_pos hb])
  | method ho hb hm =>
    refine .inr ?_
    rw [Request.plan, readOptions_of_decode ho, hb, if_neg Bool.false_ne_true]
    simp only [readMethod_of_not_isMethod hm]
  | @field o _ ho hm hf =>
    rcases hf.readHeaders (room.headers o.headers) with hh | hh
    · obtain ⟨hlt, hf⟩ := readHeaders_eq_none_iff.mp hh
      exact .inl (.headers ho hm hlt hf)
    · refine .inr ?_
      simp only [Request.plan, readOptions_of_isMethod ho hm, readMethod_of_isMethod hm, hh]
  | @address o _ ho hm hf he =>
    rcases Nat.lt_or_ge (room.headers o.headers) o.headers.entries.length with hlt | hroom
    · exact .inl (.headers ho hm hlt fun e he => hf e (List.mem_of_mem_take he))
    · obtain ⟨headers, hh⟩ := (exists_readHeaders_iff hroom).mpr hf
      refine .inr ?_
      simp only [Request.plan, readOptions_of_isMethod ho hm, readMethod_of_isMethod hm, hh,
        readUrl, he]

theorem Overfull.plan (h : Overfull room t options) : Request.plan room t options = none := by
  cases h with
  | headers ho hm hlt hf =>
    simp only [Request.plan, readOptions_of_isMethod ho hm, readMethod_of_isMethod hm,
      readHeaders_eq_none_iff.mpr ⟨hlt, hf⟩]
  | request hs hc => rw [hs.plan, hc, if_neg Bool.false_ne_true]

theorem sound_or_fault (room : Room) (t : Target) (options : String) :
    (∃ o headers u, Sound room t options o headers u) ∨ (∃ reason, Fault t options reason) ∨
      Overfull room t options := by
  cases ho : HttpOptions.decode options with
  | error e => exact .inr (.inl ⟨_, .options ho⟩)
  | ok o =>
    by_cases hm : IsMethod o.method
    · cases hh : readHeaders (room.headers o.headers) o.headers with
      | none =>
        obtain ⟨hlt, hf⟩ := readHeaders_eq_none_iff.mp hh
        exact .inr (.inr (.headers ho hm hlt hf))
      | some x =>
        cases x with
        | error e =>
          obtain ⟨reason, hf, -⟩ := firstFieldFault_of_readHeaders hh
          exact .inr (.inl ⟨reason, .field ho hm hf⟩)
        | ok headers =>
          cases hu : Url.parse t.address with
          | error e => exact .inr (.inl ⟨_, .address ho hm (eq_of_readHeaders hh).1 hu⟩)
          | ok u => exact .inl ⟨o, headers, u, ho, hm, hh, hu⟩
    · cases hb : Text.isAllBlank o.method with
      | true => exact .inr (.inl ⟨_, .noMethod ho hb⟩)
      | false => exact .inr (.inl ⟨_, .method ho hb hm⟩)

/-- Whether there is a fault does not depend on the order in which faults are looked for. -/
theorem exists_fault_iff : (∃ reason, Fault t options reason) ↔
    (∃ e, HttpOptions.decode options = .error e) ∨
      (∃ o, HttpOptions.decode options = .ok o ∧ (Text.isAllBlank o.method = true ∨
        ¬ IsMethod o.method ∨ ∃ e ∈ o.headers.entries, ¬ IsField e)) ∨
      ∃ e, Url.parse t.address = .error e := by
  constructor
  · rintro ⟨reason, hf⟩
    cases hf with
    | options he => exact .inl ⟨_, he⟩
    | noMethod ho hb => exact .inr (.inl ⟨_, ho, .inl hb⟩)
    | method ho _ hm => exact .inr (.inl ⟨_, ho, .inr (.inl hm)⟩)
    | field ho _ hf =>
      obtain ⟨e, he, hfault, -⟩ := hf
      exact .inr (.inl ⟨_, ho, .inr (.inr ⟨e, he, hfault.not_isField⟩)⟩)
    | address _ _ _ he => exact .inr (.inr ⟨_, he⟩)
  · intro h
    -- With room for all headers there is either a request, which has no fault, or a first fault.
    rcases sound_or_fault ⟨fun m => m.entries.length, fun _ => true⟩ t options with
      ⟨o, headers, u, hs⟩ | hf | ⟨-, -, hlt, -⟩ | ⟨-, hc⟩
    · rcases h with ⟨e, he⟩ | ⟨o', ho, hbad⟩ | ⟨e, he⟩
      · cases hs.options.symm.trans he
      · cases hs.options.symm.trans ho
        rcases hbad with hb | hm | ⟨e, he, hn⟩
        · exact absurd hs.method (not_isMethod_of_isAllBlank hb)
        · exact absurd hs.method hm
        · exact absurd ((eq_of_readHeaders hs.headers).1 e he) hn
      · cases hs.address.symm.trans he
    · exact hf
    · exact absurd hlt (Nat.lt_irrefl _)
    · cases hc

variable {W : Type} (net : Carrier W)

theorem attempt_of_overfull (h : Overfull net.room t options) (config : Config) (w : W) :
    attempt net t options config w = none := by
  simp only [attempt, h.plan]

theorem attempt_of_fault {reason : String} (h : Fault t options reason)
    (hroom : ¬ Overfull net.room t options) (config : Config) (w : W) :
    attempt net t options config w = some (.error (.badParams reason), w) := by
  simp only [attempt, (h.plan net.room).resolve_left hroom]

/-- An attempt stops at the first fault, and where there is none it can fail for the exchange only.
It has no result where there is no room for headers before that. -/
theorem attempt_cases (t : Target) (options : String) (config : Config) (w : W) :
    (Overfull net.room t options ∧ attempt net t options config w = none) ∨
      ¬ Overfull net.room t options ∧
        ((∃ reason, Fault t options reason ∧
            attempt net t options config w = some (.error (.badParams reason), w)) ∨
          (∃ failure w', attempt net t options config w =
            some (.error (.request t.raw failure), w')) ∨
          ∃ c w', attempt net t options config w = some (.ok c, w')) := by
  by_cases hroom : Overfull net.room t options
  · exact .inl ⟨hroom, attempt_of_overfull net hroom config w⟩
  · refine .inr ⟨hroom, ?_⟩
    rcases sound_or_fault net.room t options with ⟨o, headers, u, hs⟩ | ⟨reason, hf⟩ | hfull
    · refine .inr ?_
      have hc : net.room.carries (Request.ofOptions o headers u) = true :=
        eq_true_of_ne_false fun hc => hroom (.request hs hc)
      simp only [attempt, hs.plan, hc, if_true]
      rcases exchange net ⟨config.connectTimeout o.connectTimeout, o.readTimeout⟩ _ w with
        ⟨failure | a, w'⟩
      · exact .inl ⟨failure, w', rfl⟩
      · exact .inr ⟨.ofResponse a, w', rfl⟩
    · exact .inl ⟨reason, hf, attempt_of_fault net hf hroom config w⟩
    · exact absurd hfull hroom

/-- An attempt has a result, unless there are more headers than find room and nothing is wrong
before that. The result is bad parameters just if there is a fault in what the guest
gives, and it names the first one. Then nothing was sent and the network is as it was. Every other
failure is one of the exchange. -/
theorem attempt_eq_badParams_iff (t : Target) (options : String) (config : Config) (w : W) :
    (attempt net t options config w = none ↔ Overfull net.room t options) ∧
      ((∃ reason, Fault t options reason) ↔
        (∃ e, HttpOptions.decode options = .error e) ∨
          (∃ o, HttpOptions.decode options = .ok o ∧ (Text.isAllBlank o.method = true ∨
            ¬ IsMethod o.method ∨ ∃ e ∈ o.headers.entries, ¬ IsField e)) ∨
          ∃ e, Url.parse t.address = .error e) ∧
      ∀ result w', attempt net t options config w = some (result, w') →
        (backend net).connect t options config w = (result, w') ∧
        (∀ reason, result = .error (.badParams reason) ↔ Fault t options reason) ∧
        (∀ reason, result = .error (.badParams reason) → w' = w ∧ ∀ notes,
          attempt net.overheard t options config (w, notes) =
            some (.error (.badParams reason), (w, notes))) ∧
        ∀ error, result = .error error → (∃ reason, error = .badParams reason) ∨
          ∃ failure, error = .request t.raw failure ∧ error.code = .openFailed := by
  refine ⟨?_, exists_fault_iff, fun result w' h => ⟨by simp [backend, h], ?_⟩⟩
  · refine ⟨fun h => ?_, fun hfull => attempt_of_overfull net hfull config w⟩
    rcases attempt_cases net t options config w with ⟨hfull, -⟩ | ⟨-, hc⟩
    · exact hfull
    · rw [h] at hc
      rcases hc with ⟨_, -, hc⟩ | ⟨_, _, hc⟩ | ⟨_, _, hc⟩ <;> cases hc
  · have hroom : ¬ Overfull net.room t options := fun hfull => by
      cases (attempt_of_overfull net hfull config w).symm.trans h
    have hfault {reason : String} : result = .error (.badParams reason) ↔
        Fault t options reason := by
      constructor
      · rintro rfl
        rcases attempt_cases net t options config w with ⟨hfull, -⟩ |
          ⟨-, ⟨_, hf, hc⟩ | ⟨_, _, hc⟩ | ⟨_, _, hc⟩⟩
        · exact absurd hfull hroom
        · cases hc.symm.trans h
          exact hf
        · cases hc.symm.trans h
        · cases hc.symm.trans h
      · intro hf
        cases (attempt_of_fault net hf hroom config w).symm.trans h
        rfl
    refine ⟨fun reason => hfault, fun reason hr => ?_, fun error he => ?_⟩
    · have hf := hfault.mp hr
      cases (attempt_of_fault net hf hroom config w).symm.trans h
      exact ⟨rfl, fun notes => attempt_of_fault net.overheard hf hroom config (w, notes)⟩
    · subst he
      rcases attempt_cases net t options config w with ⟨hfull, -⟩ |
        ⟨-, ⟨reason, -, hc⟩ | ⟨failure, _, hc⟩ | ⟨_, _, hc⟩⟩
      · exact absurd hfull hroom
      · cases hc.symm.trans h
        exact .inl ⟨reason, rfl⟩
      · cases hc.symm.trans h
        exact .inr ⟨failure, rfl, rfl⟩
      · cases hc.symm.trans h

end

namespace Spoilt

/-- A target with an address that is none, for which the options have a header that is none. -/
def target : Target := ⟨"http", "http://[::1", "http://[::1"⟩

def options : String := "[\"GET\",null,null,\x7b\"a\":\"1\",\"a b\":\"2\"\x7d]"

def decoded : HttpOptions :=
  ⟨"GET", none, none, (TextMap.empty.insert "a b" "2").insert "a" "1", none⟩

theorem attempt_eq_badParams_first :
    attempt Disguise.carrier target options .default () =
        some (.error (.badParams "invalid header name 'a b'"), ()) ∧
      attempt Disguise.carrier.overheard target options .default ((), []) =
        some (.error (.badParams "invalid header name 'a b'"), ((), [])) ∧
      ∃ e, Url.parse target.address = .error e := by
  obtain ⟨hnone, -, hresult⟩ :=
    attempt_eq_badParams_iff Disguise.carrier target options .default ()
  have hdecode : HttpOptions.decode options = .ok decoded := by decide +kernel
  have haddress : Url.parse target.address = .error .invalidIpv6 := by decide +kernel
  have hroom : ¬ Overfull Disguise.carrier.room target options := by
    rintro (⟨ho, -, hlt, -⟩ | ⟨hs, -⟩)
    · cases hdecode.symm.trans ho
      exact absurd hlt (by decide +kernel)
    · cases haddress.symm.trans hs.address
  have hname : FieldFault ("a b", "2") ("invalid header name '" ++ "a b" ++ "'") :=
    .name (by decide +kernel)
  have hfield : FirstFieldFault decoded.headers "invalid header name 'a b'" := by
    refine ⟨("a b", "2"), by decide +kernel, hname, ?_⟩
    have hall : ∀ x ∈ decoded.headers.entries, Bytes.ofText x.1 < Bytes.ofText "a b" →
        isHeaderName x.1.toList = true ∧ isHeaderValue x.2.toList = true := by decide +kernel
    exact fun x hx hlt => ⟨(hall x hx hlt).1, (hall x hx hlt).2⟩
  have hmethod : IsMethod decoded.method := by
    rw [IsMethod]
    decide +kernel
  obtain ⟨⟨result, w'⟩, hsome⟩ := Option.ne_none_iff_exists'.mp fun h => hroom (hnone.mp h)
  obtain ⟨-, hfirst, hnothing, -⟩ := hresult result w' hsome
  have hbad := (hfirst "invalid header name 'a b'").mpr (.field hdecode hmethod hfield)
  rw [hbad] at hsome
  exact ⟨hsome, (hnothing _ hbad).2 [], .invalidIpv6, haddress⟩

end Spoilt

namespace Crowd

def decoded : HttpOptions := ⟨"GET", none, none, given, none⟩

def carrier : Carrier Unit := ⟨.upTo 24576, fun _ _ w => (none, w)⟩

/-- Of an address that is none nothing is told where the headers before it find no room. -/
theorem attempt_of_given : HttpOptions.decode decoded.encode = .ok decoded ∧
    (∃ e, Url.parse Spoilt.target.address = .error e) ∧
      attempt carrier Spoilt.target decoded.encode .default () = none := by
  have hdecode : HttpOptions.decode decoded.encode = .ok decoded := HttpOptions.decode_encode _
  have hmethod : IsMethod "GET" := by
    rw [IsMethod]
    decide +kernel
  have hroom : readHeaders (carrier.room.headers given) given = none :=
    readHeaders_many (Nat.lt_succ_self 24576)
  obtain ⟨hlt, hf⟩ := readHeaders_eq_none_iff.mp hroom
  exact ⟨hdecode, ⟨.invalidIpv6, by decide +kernel⟩,
    attempt_of_overfull carrier (.headers hdecode hmethod hlt hf) _ _⟩

end Crowd
end GuestNet.Http
