import GuestNet.Config
import GuestNet.Proofs.Json.Documents

/-! The documents of options and the one of the configuration: what they say depends on their known
members alone. It does not depend on the order of the members, on members of other names or on
blanks, and a member that is left out is as one that is given its default. -/
namespace GuestNet

open Json

/-! ### The options of an HTTP exchange -/

namespace HttpOptions

theorem isLawful_record : record.IsLawful where
  lawful := by
    simp only [record, members, List.forall_mem_cons]
    exact ⟨.of settled_string fun _ _ => rfl, .of settled_readSeconds.optional fun _ _ => rfl,
      .of settled_readSeconds.optional fun _ _ => rfl, .of settled_textMap fun _ _ => rfl,
      .of settled_string.optional fun _ _ => rfl, List.forall_mem_nil _⟩
  apart := by
    simp only [record, members, List.pairwise_cons, List.forall_mem_cons, List.not_mem_nil,
      false_implies, implies_true, and_true, List.Pairwise.nil]
    refine ⟨⟨?_, ?_, ?_, ?_⟩, ⟨?_, ?_, ?_⟩, ⟨?_, ?_⟩, ?_⟩ <;>
      exact .of (fun _ _ => rfl) (fun _ _ => rfl) fun _ _ _ => rfl
  isSet_empty := by
    simp only [record, members, List.forall_mem_cons]
    exact ⟨rfl, rfl, rfl, rfl, rfl, List.forall_mem_nil _⟩

/-- What each member but the method can be given without a change. -/
def defaults : List (String × Tree) :=
  [("connectTimeout", .null), ("readTimeout", .null), ("headers", .object []), ("body", .null)]

theorem isDefault_of_mem : ∀ e ∈ defaults, record.IsDefault e.1 e.2 := by
  have hseconds := value?_optional_null settled_readSeconds
  have hbody := value?_optional_null settled_string
  simp only [defaults, List.forall_mem_cons]
  refine ⟨.of rfl hseconds fun d hd => ?_, .of rfl hseconds fun d hd => ?_,
    .of rfl value?_textMap_nil fun d hd => ?_, .of rfl hbody fun d hd => ?_, List.forall_mem_nil _⟩
  all_goals simp only [record, Draft.finish, hd, Option.join_none, Option.join_some,
    Option.getD_none, Option.getD_some]

/-- What the members leave out is absent or empty. -/
structure KeepsDefaults (ms : List (List Char × Tree)) (o : HttpOptions) : Prop where
  connectTimeout : Omits ms "connectTimeout" → o.connectTimeout = none
  readTimeout : Omits ms "readTimeout" → o.readTimeout = none
  headers : Omits ms "headers" → o.headers = .empty
  body : Omits ms "body" → o.body = none

theorem keepsDefaults {ms : List (List Char × Tree)} {o : HttpOptions}
    (h : record.outcome? ms = some o) : KeepsDefaults ms o := by
  obtain ⟨d, hfinish, hunset⟩ := Record.exists_draft isLawful_record h
  simp only [record, members, List.forall_mem_cons] at hunset
  obtain ⟨-, hconnect, hread, hheaders, hbody, -⟩ := hunset
  simp only [record, Draft.finish] at hfinish
  split at hfinish
  · cases hfinish
  · cases hfinish
    exact {
      connectTimeout := fun ho => congrArg Option.join (Member.eq_none_of_isSet (hconnect ho))
      readTimeout := fun ho => congrArg Option.join (Member.eq_none_of_isSet (hread ho))
      headers := fun ho => congrArg (Option.getD · _) (Member.eq_none_of_isSet (hheaders ho))
      body := fun ho => congrArg Option.join (Member.eq_none_of_isSet (hbody ho)) }

end HttpOptions

/-! ### The options of a raw stream -/

namespace TcpOptions

theorem isLawful_record : record.IsLawful where
  lawful := by
    simp only [record, members, List.forall_mem_cons]
    exact ⟨.of settled_readSeconds.optional fun _ _ => rfl, .of settled_flag fun _ _ => rfl,
      .of settled_flag fun _ _ => rfl, List.forall_mem_nil _⟩
  apart := by
    simp only [record, members, List.pairwise_cons, List.forall_mem_cons, List.not_mem_nil,
      false_implies, implies_true, and_true, List.Pairwise.nil]
    refine ⟨⟨?_, ?_⟩, ?_⟩ <;> exact .of (fun _ _ => rfl) (fun _ _ => rfl) fun _ _ _ => rfl
  isSet_empty := by
    simp only [record, members, List.forall_mem_cons]
    exact ⟨rfl, rfl, rfl, List.forall_mem_nil _⟩

/-- What each member can be given without a change. -/
def defaults : List (String × Tree) :=
  [("connectTimeout", .null), ("nonblocking", .flag default.nonblocking),
    ("nodelay", .flag default.nodelay)]

theorem isDefault_of_mem : ∀ e ∈ defaults, record.IsDefault e.1 e.2 := by
  have hseconds := value?_optional_null settled_readSeconds
  simp only [defaults, List.forall_mem_cons]
  refine ⟨.of rfl hseconds fun d hd => ?_, .of rfl (value?_flag _) fun d hd => ?_,
    .of rfl (value?_flag _) fun d hd => ?_, List.forall_mem_nil _⟩
  all_goals simp only [record, Draft.finish, default, hd, Option.join_none, Option.join_some,
    Option.getD_none, Option.getD_some]

/-- What the members leave out is absent or false. -/
structure KeepsDefaults (ms : List (List Char × Tree)) (o : TcpOptions) : Prop where
  connectTimeout : Omits ms "connectTimeout" → o.connectTimeout = none
  nonblocking : Omits ms "nonblocking" → o.nonblocking = false
  nodelay : Omits ms "nodelay" → o.nodelay = false

theorem keepsDefaults {ms : List (List Char × Tree)} {o : TcpOptions}
    (h : record.outcome? ms = some o) : KeepsDefaults ms o := by
  obtain ⟨d, hfinish, hunset⟩ := Record.exists_draft isLawful_record h
  simp only [record, members, List.forall_mem_cons] at hunset
  obtain ⟨hconnect, hnonblocking, hnodelay, -⟩ := hunset
  cases hfinish
  exact {
    connectTimeout := fun ho => congrArg Option.join (Member.eq_none_of_isSet (hconnect ho))
    nonblocking := fun ho =>
      congrArg (Option.getD · _) (Member.eq_none_of_isSet (hnonblocking ho))
    nodelay := fun ho => congrArg (Option.getD · _) (Member.eq_none_of_isSet (hnodelay ho)) }

end TcpOptions

/-! ### The configuration -/

namespace Config

theorem isLawful_record : record.IsLawful where
  lawful := by
    simp only [record, members, List.forall_mem_cons]
    exact ⟨.of (settled_natural _) fun _ _ => rfl, .of (settled_natural _) fun _ _ => rfl,
      .of settled_texts fun _ _ => rfl, .of settled_readSeconds.optional fun _ _ => rfl,
      List.forall_mem_nil _⟩
  apart := by
    simp only [record, members, List.pairwise_cons, List.forall_mem_cons, List.not_mem_nil,
      false_implies, implies_true, and_true, List.Pairwise.nil]
    refine ⟨⟨?_, ?_, ?_⟩, ⟨?_, ?_⟩, ?_⟩ <;>
      exact .of (fun _ _ => rfl) (fun _ _ => rfl) fun _ _ _ => rfl
  isSet_empty := by
    simp only [record, members, List.forall_mem_cons]
    exact ⟨rfl, rfl, rfl, rfl, List.forall_mem_nil _⟩

/-- What each member can be given without a change. -/
def defaults : List (String × Tree) :=
  [("max_handles", .natural default.maxHandles), ("max_transfer", .natural default.maxTransfer),
    ("allowed_targets", .list []), ("default_connect_timeout_secs", .null)]

theorem isDefault_of_mem : ∀ e ∈ defaults, record.IsDefault e.1 e.2 := by
  have hhandles : default.maxHandles ≤ Number.greatestNatural := by decide
  have htransfer : default.maxTransfer ≤ Number.greatestNatural := by decide
  have hseconds := value?_optional_null settled_readSeconds
  simp only [defaults, List.forall_mem_cons]
  refine ⟨.of rfl (value?_natural hhandles _) fun d hd => ?_,
    .of rfl (value?_natural htransfer _) fun d hd => ?_, .of rfl value?_texts_nil fun d hd => ?_,
    .of rfl hseconds fun d hd => ?_, List.forall_mem_nil _⟩
  all_goals simp only [record, Draft.finish, default, hd, Option.getD_none, Option.getD_some]

/-- What the members leave out is as in the default configuration. -/
structure KeepsDefaults (ms : List (List Char × Tree)) (c : Config) : Prop where
  maxHandles : Omits ms "max_handles" → c.maxHandles = default.maxHandles
  maxTransfer : Omits ms "max_transfer" → c.maxTransfer = default.maxTransfer
  allowedTargets : Omits ms "allowed_targets" → c.allowedTargets = default.allowedTargets
  defaultConnectTimeout : Omits ms "default_connect_timeout_secs" →
    c.defaultConnectTimeout = default.defaultConnectTimeout

theorem keepsDefaults {ms : List (List Char × Tree)} {c : Config}
    (h : record.outcome? ms = some c) : KeepsDefaults ms c := by
  obtain ⟨d, hfinish, hunset⟩ := Record.exists_draft isLawful_record h
  simp only [record, members, List.forall_mem_cons] at hunset
  obtain ⟨hhandles, htransfer, htargets, hconnect, -⟩ := hunset
  cases hfinish
  exact {
    maxHandles := fun ho => congrArg (Option.getD · _) (Member.eq_none_of_isSet (hhandles ho))
    maxTransfer := fun ho => congrArg (Option.getD · _) (Member.eq_none_of_isSet (htransfer ho))
    allowedTargets := fun ho =>
      congrArg (Option.getD · _) (Member.eq_none_of_isSet (htargets ho))
    defaultConnectTimeout := fun ho =>
      congrArg (Option.getD · _) (Member.eq_none_of_isSet (hconnect ho)) }

/-- Members decide the configuration, which then has to be valid. -/
theorem toOption_decode {ms : List (List Char × Tree)} {text : String} (h : IsDocument ms text) :
    (decode text).toOption = (record.outcome? ms).bind fun c => c.validated.toOption := by
  rw [← Record.toOption_decode isLawful_record h, decode]
  cases Json.decode record.read text <;> rfl

theorem eq_of_validated {c c' : Config} (h : c.validated.toOption = some c') : c = c' := by
  unfold validated at h
  split at h
  · cases h
  · cases h
    rfl

end Config

/-- What is decoded, and whether anything is, is the same for all documents that say the same; and
a member that is left out has its default. -/
theorem decoding_sees_only_known_members {ms ms' : List (List Char × Tree)} {s s' : String}
    (h : IsDocument ms s) (h' : IsDocument ms' s') :
    (SaysTheSame HttpOptions.record.names HttpOptions.defaults ms ms' →
        (HttpOptions.decode s).toOption = (HttpOptions.decode s').toOption) ∧
      (SaysTheSame TcpOptions.record.names TcpOptions.defaults ms ms' →
        (TcpOptions.decode s).toOption = (TcpOptions.decode s').toOption) ∧
      (SaysTheSame Config.record.names Config.defaults ms ms' →
        (Config.decode s).toOption = (Config.decode s').toOption) ∧
      (∀ o, HttpOptions.decode s = .ok o → HttpOptions.KeepsDefaults ms o) ∧
      (∀ o, TcpOptions.decode s = .ok o → TcpOptions.KeepsDefaults ms o) ∧
      ∀ c, Config.decode s = .ok c → Config.KeepsDefaults ms c := by
  have hhttp := Record.toOption_decode HttpOptions.isLawful_record h
  have htcp := Record.toOption_decode TcpOptions.isLawful_record h
  have hconfig := Config.toOption_decode h
  refine ⟨fun hsame => ?_, fun hsame => ?_, fun hsame => ?_, fun o ho => ?_, fun o ho => ?_,
    fun c hc => ?_⟩
  · have hsame := Record.outcome?_eq HttpOptions.isLawful_record HttpOptions.isDefault_of_mem hsame
    rw [HttpOptions.decode, hhttp, hsame, HttpOptions.decode,
      Record.toOption_decode HttpOptions.isLawful_record h']
  · have hsame := Record.outcome?_eq TcpOptions.isLawful_record TcpOptions.isDefault_of_mem hsame
    rw [TcpOptions.decode, htcp, hsame, TcpOptions.decode,
      Record.toOption_decode TcpOptions.isLawful_record h']
  · have hsame := Record.outcome?_eq Config.isLawful_record Config.isDefault_of_mem hsame
    rw [hconfig, hsame, Config.toOption_decode h']
  · rw [← HttpOptions.decode, ho] at hhttp
    exact HttpOptions.keepsDefaults hhttp.symm
  · rw [← TcpOptions.decode, ho] at htcp
    exact TcpOptions.keepsDefaults htcp.symm
  · rw [hc] at hconfig
    obtain ⟨c', houtcome, hvalidated⟩ := Option.bind_eq_some_iff.mp hconfig.symm
    rw [Config.eq_of_validated hvalidated] at houtcome
    exact Config.keepsDefaults houtcome

theorem isScalar_get : IsScalar "\"GET\"".toList :=
  .text (Spells.of_plain (s := "GET".toList) (by decide)).isText

theorem isDocument_get :
    IsDocument [("method".toList, .scalar "\"GET\"".toList)] "\x7b\"method\":\"GET\"\x7d" := by
  have hmethod : Spells "method".toList "method".toList := .of_plain (by decide)
  have hmembers := WritesMembers.cons (.first areBlanks_nil) hmethod.isText areBlanks_nil
    areBlanks_nil (.scalar isScalar_get) (.nil areBlanks_nil)
  exact ⟨[], _, [], areBlanks_nil, .object hmembers, areBlanks_nil, rfl⟩

/-- The method with an unknown member before it, an absent body and blanks. -/
theorem decoding_sees_only_known_members_of_get :
    (HttpOptions.decode "\x7b\"method\":\"GET\"\x7d").toOption = some (.new "GET") ∧
      (HttpOptions.decode
        "\x7b \"x\":[\x7b\x7d ],\"body\": null\n,\"method\":\"GET\"\x7d").toOption =
          some (.new "GET") := by
  have hmethod : Spells "method".toList "method".toList := .of_plain (by decide)
  have hbody : Spells "body".toList "body".toList := .of_plain (by decide)
  have hx : Spells "x".toList "x".toList := .of_plain (by decide)
  have hspace : AreBlanks [' '] := by simp [AreBlanks, isBlank]
  have hline : AreBlanks ['\n'] := by simp [AreBlanks, isBlank]
  have hlist := Writes.list (.cons (.first areBlanks_nil) (.object (.nil areBlanks_nil))
    (.nil hspace))
  have hlast := WritesMembers.cons (.comma hline areBlanks_nil) hmethod.isText areBlanks_nil
    areBlanks_nil (.scalar isScalar_get) (.nil areBlanks_nil)
  have hfrom := WritesMembers.cons (.comma areBlanks_nil areBlanks_nil) hbody.isText areBlanks_nil
    hspace writes_null hlast
  have hmembers := WritesMembers.cons (.first hspace) hx.isText areBlanks_nil areBlanks_nil hlist
    hfrom
  have homits : Omits [("method".toList, .scalar "\"GET\"".toList)] "body" := by
    intro m hm hspells
    rw [List.mem_singleton.mp hm] at hspells
    exact absurd (hmethod.unique hspells) (by decide)
  have hdefault : ("body", Tree.null) ∈ HttpOptions.defaults := by simp [HttpOptions.defaults]
  have hunknown : "x" ∉ HttpOptions.record.names := by decide
  have hsame := SaysTheSame.trans (.omitted hbody hdefault homits)
    (.unknown (.list [.object []]) [] _ hx hunknown)
  have hget : (HttpOptions.decode "\x7b\"method\":\"GET\"\x7d").toOption = some (.new "GET") := by
    decide +kernel
  have hdocument : IsDocument _
      "\x7b \"x\":[\x7b\x7d ],\"body\": null\n,\"method\":\"GET\"\x7d" :=
    ⟨[], _, [], areBlanks_nil, .object hmembers, areBlanks_nil, rfl⟩
  obtain ⟨hhttp, -⟩ := decoding_sees_only_known_members isDocument_get hdocument
  exact ⟨hget, (hhttp hsame).symm.trans hget⟩

/-- A key that stands for no text is not passed over, although no known member has it. -/
theorem key_without_meaning_refused :
    IsDocument [("method".toList, .scalar "\"GET\"".toList)] "\x7b\"method\":\"GET\"\x7d" ∧
      IsDocument [("method".toList, .scalar "\"GET\"".toList), ("\\ud800".toList, .null)]
        "\x7b\"method\":\"GET\",\"\\ud800\":null\x7d" ∧
      (∀ name ∈ HttpOptions.record.names, ¬ Spells "\\ud800".toList name.toList) ∧
      (HttpOptions.decode "\x7b\"method\":\"GET\"\x7d").toOption = some (.new "GET") ∧
      (HttpOptions.decode "\x7b\"method\":\"GET\",\"\\ud800\":null\x7d").toOption = none := by
  have hmethod : Spells "method".toList "method".toList := .of_plain (by decide)
  have hkey : IsText "\\ud800".toList := .unit (.mk rfl rfl rfl rfl) .nil
  have hlast := WritesMembers.cons (.comma areBlanks_nil areBlanks_nil) hkey areBlanks_nil
    areBlanks_nil writes_null (.nil areBlanks_nil)
  have hmembers := WritesMembers.cons (.first areBlanks_nil) hmethod.isText areBlanks_nil
    areBlanks_nil (.scalar isScalar_get) hlast
  have hrefused : (text ("\\ud800".toList ++ ['"'])).toOption = none := by decide +kernel
  refine ⟨isDocument_get, ⟨[], _, [], areBlanks_nil, .object hmembers, areBlanks_nil, rfl⟩,
    fun name _ hspells => ?_, by decide +kernel, by decide +kernel⟩
  rw [hspells.text []] at hrefused
  cases hrefused

end GuestNet
