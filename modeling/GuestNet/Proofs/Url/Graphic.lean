import GuestNet.Proofs.Access.RequestedEndpoint
import GuestNet.Proofs.Text.Graphic
import GuestNet.Proofs.Url.HostPort
import GuestNet.Proofs.Url.Ipv6Text
import GuestNet.Proofs.Url.Segments

/-! The parts of addresses with a web scheme. Whatever a text has in it, what is read from it for
the host, the path and the query has only visible ASCII characters. -/
namespace GuestNet

open Text (IsGraphic isGraphic_of_all)

namespace Idna

namespace Punycode

end Punycode

end Idna

namespace Url

/-- A path of segments that are all graphic. -/
def Path.IsGraphic (p : Path) : Prop :=
  ∃ parts, p = .segments parts ∧ ∀ q ∈ parts, ∀ c ∈ q.toList, Text.IsGraphic c

section Resolve

variable {kind : Kind} {done : List Segment}

end Resolve

/-- What of an address gets into a message. -/
structure IsGraphic (u : Url) : Prop where
  username : ∀ c ∈ u.username.toList, Text.IsGraphic c
  password : ∀ p ∈ u.password, ∀ c ∈ p.toList, Text.IsGraphic c
  host : ∀ h ∈ u.host, ∀ c ∈ h.write.toList, Text.IsGraphic c
  path : u.path.IsGraphic
  query : ∀ q ∈ u.query, ∀ c ∈ q.toList, Text.IsGraphic c

section Join

variable {base u : Url} {parts : List String}

end Join

theorem IsGraphic.hostText (h : IsGraphic u) :
    ∀ c ∈ (u.hostText?.getD "").toList, Text.IsGraphic c := by
  cases ht : u.hostText? with
  | none => simp
  | some text =>
    obtain ⟨hmap, -⟩ := Option.filter_eq_some_iff.mp ht
    obtain ⟨host, hhost, rfl⟩ := Option.map_eq_some_iff.mp hmap
    exact h.host host hhost

theorem isGraphic_writePort (u : Url) : ∀ c ∈ u.writePort.toList, Text.IsGraphic c := by
  rw [writePort]
  cases u.port with
  | none => simp
  | some p =>
    rw [Option.elim_some, String.toList_append, List.forall_mem_append]
    exact ⟨isGraphic_of_all (by decide), Text.isGraphic_toString p⟩

theorem IsGraphic.path_write (h : IsGraphic u) : ∀ c ∈ u.path.write.toList, Text.IsGraphic c := by
  obtain ⟨parts, hpath, hparts⟩ := h.path
  rw [hpath, toList_write_segments, List.forall_mem_flatMap]
  exact fun q hq => List.forall_mem_cons.mpr ⟨by decide, hparts q hq⟩

theorem IsGraphic.writeQuery (h : IsGraphic u) : ∀ c ∈ u.writeQuery.toList, Text.IsGraphic c := by
  rw [Url.writeQuery]
  cases hq : u.query with
  | none => simp
  | some q =>
    rw [Option.elim_some, String.toList_append, List.forall_mem_append]
    exact ⟨isGraphic_of_all (by decide), h.query q hq⟩

theorem IsGraphic.writeUserinfo (h : IsGraphic u) :
    ∀ c ∈ u.writeUserinfo.toList, Text.IsGraphic c := by
  have hpassword : ∀ c ∈ (u.password.elim "" (":" ++ ·)).toList, Text.IsGraphic c := by
    cases hp : u.password with
    | none => simp
    | some p =>
      rw [Option.elim_some, String.toList_append, List.forall_mem_append]
      exact ⟨isGraphic_of_all (by decide), h.password p hp⟩
  rw [Url.writeUserinfo]
  split
  · rw [String.toList_append, String.toList_append, List.forall_mem_append, List.forall_mem_append]
    exact ⟨⟨h.username, hpassword⟩, isGraphic_of_all (by decide)⟩
  · exact nofun

theorem IsGraphic.writeAuthority (h : IsGraphic u) :
    ∀ c ∈ u.writeAuthority.toList, Text.IsGraphic c := by
  rw [Url.writeAuthority]
  cases hhost : u.host with
  | none =>
    apply isGraphic_of_all
    simp only
    split <;> decide
  | some host =>
    simp only [String.toList_append, List.forall_mem_append]
    exact ⟨⟨⟨isGraphic_of_all (by decide), h.writeUserinfo⟩, h.host host hhost⟩,
      isGraphic_writePort u⟩

theorem IsGraphic.withoutUserinfo (h : IsGraphic u) : u.withoutUserinfo.IsGraphic :=
  ⟨nofun, nofun, h.host, h.path, h.query⟩

/-- A whole address without the part that does not get into a message. -/
theorem IsGraphic.write (h : IsGraphic u) (hs : IsWebScheme u.scheme) :
    ∀ c ∈ u.withoutFragment.write.toList, Text.IsGraphic c := by
  have hscheme : ∀ c ∈ u.scheme.toList, Text.IsGraphic c := by
    apply isGraphic_of_all
    rcases hs with hs | hs <;> rw [hs] <;> decide
  simp only [Url.write, String.toList_append, List.forall_mem_append]
  exact ⟨⟨⟨⟨⟨hscheme, isGraphic_of_all (by decide)⟩, h.writeAuthority⟩, h.path_write⟩,
    h.writeQuery⟩, nofun⟩

end Url
end GuestNet
