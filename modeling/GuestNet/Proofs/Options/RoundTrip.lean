import GuestNet.Http.Request
import GuestNet.Proofs.Json.WrittenObject
import GuestNet.Stream.Dial

/-! A document of options says what was put into it: the reader of the members that were written
gives the options back, with those that were absent, whatever the texts in it. -/
namespace GuestNet

open Json

theorem readSeconds_written (t : UInt64) : ReadsBack readSeconds (writeSeconds t) t := by
  intro rest hr
  have ht : t.toNat ≤ Number.greatestNatural := Nat.le_of_lt_succ t.toNat_lt
  rw [readSeconds, writeSeconds, natural_written ht "u64" rest hr]
  simp only [Except.map, UInt64.ofNat_toNat]

theorem optional_readSeconds_written (t : UInt64) :
    ReadsBack (optional readSeconds) (writeSeconds t) (some t) := by
  obtain ⟨c, ds, hds, hc⟩ := exists_digit_writeNatural t.toNat
  have hread := readSeconds_written t
  rw [writeSeconds, hds] at hread ⊢
  exact hread.optional (isBlank_of_isDigit hc) (ne_of_isDigit hc rfl)

namespace HttpOptions

/-- What has been read once all members of a written document are. -/
def drafted (o : HttpOptions) : Draft where
  method := some o.method
  connectTimeout := o.connectTimeout.map some
  readTimeout := o.readTimeout.map some
  headers := if o.headers.isEmpty then none else some o.headers
  body := o.body.map some

theorem fills_headers (d : Draft) (hd : d.headers = none) (m : TextMap) :
    Fills members d (if m.isEmpty then [] else [("headers", writeTextMap m)])
      { d with headers := if m.isEmpty then none else some m } := by
  split
  · rw [← hd]
    exact .nil d
  · exact .single rfl (textMap_written m) hd rfl

theorem fills_written (o : HttpOptions) : Fills members {} o.writtenMembers o.drafted := by
  have hmethod : Fills members {} [("method", writeText o.method)] { method := some o.method } :=
    .single rfl (string_written o.method) rfl rfl
  have hconnect := Fills.toList members o.connectTimeout "connectTimeout" writeSeconds
    (fun v => { method := some o.method, connectTimeout := v })
    fun t => .single rfl (optional_readSeconds_written t) rfl rfl
  have hread := Fills.toList members o.readTimeout "readTimeout" writeSeconds
    (fun v =>
      { method := some o.method
        connectTimeout := o.connectTimeout.map some
        readTimeout := v })
    fun t => .single rfl (optional_readSeconds_written t) rfl rfl
  have hheaders := fills_headers
    { method := some o.method
      connectTimeout := o.connectTimeout.map some
      readTimeout := o.readTimeout.map some } rfl o.headers
  have hbody := Fills.toList members o.body "body" writeText
    (fun v => { o.drafted with body := v })
    fun b => .single rfl (optional_string_written b) rfl rfl
  exact (((hmethod.append hconnect).append hread).append hheaders).append hbody

theorem finish_drafted (o : HttpOptions) : o.drafted.finish = .ok o := by
  have hheaders : (if o.headers.isEmpty then none else some o.headers).getD .empty =
      o.headers := by
    split
    · rename_i h
      exact (TextMap.eq_of_entries (List.isEmpty_iff.mp h)).symm
    · rfl
  have hjoin {α : Type} (x : Option α) : (x.map some).join = x := by
    cases x <;> rfl
  simp only [drafted, Draft.finish, hheaders, hjoin]

theorem decode_encode (o : HttpOptions) : decode o.encode = .ok o :=
  decode_written (Record.read_written o.fills_written o.finish_drafted)

end HttpOptions

namespace TcpOptions

theorem fills_written (o : TcpOptions) :
    Fills members {} o.writtenMembers
      ⟨o.connectTimeout.map some, some o.nonblocking, some o.nodelay⟩ := by
  have hconnect := Fills.toList members o.connectTimeout "connectTimeout" writeSeconds
    (fun v => { connectTimeout := v })
    fun t => .single rfl (optional_readSeconds_written t) rfl rfl
  have hnonblocking : Fills members { connectTimeout := o.connectTimeout.map some }
      [("nonblocking", writeFlag o.nonblocking)]
      ⟨o.connectTimeout.map some, some o.nonblocking, none⟩ :=
    .single rfl (flag_written o.nonblocking) rfl rfl
  have hnodelay : Fills members ⟨o.connectTimeout.map some, some o.nonblocking, none⟩
      [("nodelay", writeFlag o.nodelay)]
      ⟨o.connectTimeout.map some, some o.nonblocking, some o.nodelay⟩ :=
    .single rfl (flag_written o.nodelay) rfl rfl
  exact hconnect.append (hnonblocking.append hnodelay)

theorem decode_encode (o : TcpOptions) : decode o.encode = .ok o := by
  have hfinish : Draft.finish ⟨o.connectTimeout.map some, some o.nonblocking, some o.nodelay⟩ =
      .ok o := by
    cases o with
    | mk connectTimeout nonblocking nodelay => cases connectTimeout <;> rfl
  exact decode_written (Record.read_written o.fills_written hfinish)

theorem isAllBlank_encode (o : TcpOptions) : Text.isAllBlank o.encode = false := by
  rw [encode, writeObject, Text.isAllBlank, String.toList_ofList, List.cons_append, List.all_cons]
  rfl

end TcpOptions

/-- Options read back from their documents, by the reader and where a connection is opened with
them; only a method that is blank is refused there. -/
theorem options_read_back (o : HttpOptions) (t : TcpOptions) :
    HttpOptions.decode o.encode = .ok o ∧ TcpOptions.decode t.encode = .ok t ∧
      Http.readOptions o.encode =
        (if Text.isAllBlank o.method then .error (.badParams "http method must not be empty")
        else .ok o) ∧
      Stream.readOptions t.encode = .ok t := by
  refine ⟨o.decode_encode, t.decode_encode, ?_, ?_⟩
  · rw [Http.readOptions, o.decode_encode]
  · rw [Stream.readOptions, t.isAllBlank_encode, t.decode_encode]
    rfl

end GuestNet
