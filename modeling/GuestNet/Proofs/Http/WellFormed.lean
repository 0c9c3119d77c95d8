import GuestNet.Proofs.Http.Tokens
import GuestNet.Proofs.Http.Validation
import GuestNet.Proofs.Url.Graphic

/-! Requests that keep to their lines. Whatever a guest gives for a method, for headers and for an
address, there is no space and no end of a line in a method, in the name of a header or in what a
request asks for, nor is there an end of a line in the value of a header, and no header has two
values. This stays so on the way from one address to the next. -/
namespace GuestNet

open Text (IsGraphic)

namespace Http

namespace Headers

/-- Headers that keep to their lines, with one value for each name. -/
structure WellFormed (h : Headers) : Prop where
  fields : ∀ e ∈ h.entries, isToken e.1.toList = true ∧ ∀ b ∈ e.2, IsValueByte b
  names : (h.entries.map Prod.fst).Nodup

variable {h : Headers} {name value : String}

theorem not_mem_names_of_contains (hn : h.contains name = false) :
    lowerCase name ∉ h.entries.map Prod.fst := by
  rw [contains, Option.isSome_eq_false_iff, Option.isNone_iff_eq_none, get?,
    List.lookup_eq_none_iff] at hn
  intro hm
  obtain ⟨e, he, hname⟩ := List.mem_map.mp hm
  simpa [hname] using hn e he

theorem nodup_names_append {value : Bytes} (hh : (h.entries.map Prod.fst).Nodup)
    (hnew : lowerCase name ∉ h.entries.map Prod.fst) :
    ((h.append name value).entries.map Prod.fst).Nodup := by
  rw [append, List.map_append]
  exact hh.append (List.nodup_singleton _) (List.disjoint_singleton.mpr hnew)

theorem nodup_names_erase (hh : (h.entries.map Prod.fst).Nodup) (name : String) :
    ((h.erase name).entries.map Prod.fst).Nodup :=
  hh.sublist (List.filter_sublist.map _)

theorem not_mem_names_erase (h : Headers) (name : String) :
    lowerCase name ∉ (h.erase name).entries.map Prod.fst := by
  simp [erase]

theorem WellFormed.append (hh : h.WellFormed) (hnew : lowerCase name ∉ h.entries.map Prod.fst)
    (hn : isToken name.toList = true) (hv : isHeaderValue value.toList = true) :
    (h.append name (.ofText value)).WellFormed where
  fields := List.forall_mem_append.mpr ⟨hh.fields, List.forall_mem_singleton.mpr
    ⟨(isToken_lowerCase name).trans hn, isValueByte_of_isHeaderValue hv⟩⟩
  names := nodup_names_append hh.names hnew

theorem WellFormed.erase (hh : h.WellFormed) (name : String) : (h.erase name).WellFormed where
  fields e he := hh.fields e (List.mem_of_mem_filter he)
  names := nodup_names_erase hh.names name

theorem WellFormed.erase_all (hh : h.WellFormed) (names : List String) :
    (names.foldl Headers.erase h).WellFormed := by
  induction names generalizing h with
  | nil => exact hh
  | cons name names ih => exact ih (hh.erase name)

theorem WellFormed.insert (hh : h.WellFormed) (hn : isToken name.toList = true)
    (hv : isHeaderValue value.toList = true) : (h.insert name (.ofText value)).WellFormed :=
  (hh.erase name).append (h.not_mem_names_erase name) hn hv

theorem WellFormed.insertMissing (hh : h.WellFormed) (hn : isToken name.toList = true)
    (hv : isHeaderValue value.toList = true) :
    (h.insertMissing name (.ofText value)).WellFormed := by
  rw [Headers.insertMissing]
  split
  · exact hh
  · rename_i hnew
    exact hh.append (not_mem_names_of_contains (Bool.eq_false_iff.mpr hnew)) hn hv

end Headers

namespace Request

/-- A request that keeps to its lines. -/
structure WellFormed (r : Request) : Prop where
  method : isToken r.method.toList = true
  scheme : Url.IsWebScheme r.url.scheme
  address : r.url.IsGraphic
  headers : r.headers.WellFormed

variable {r : Request}

theorem WellFormed.isGraphic_hostValue (h : r.WellFormed) :
    ∀ c ∈ (hostValue r.url).toList, IsGraphic c := by
  rw [hostValue, String.toList_append, List.forall_mem_append]
  exact ⟨h.address.hostText, Url.isGraphic_writePort r.url⟩

theorem WellFormed.complete (h : r.WellFormed) : r.complete.WellFormed := by
  have haccept : (r.headers.insertMissing "accept" (.ofText "*/*")).WellFormed :=
    h.headers.insertMissing (by decide) (by decide)
  exact ⟨h.method, h.scheme, h.address, haccept.insertMissing (by decide)
    (isHeaderValue_of_isGraphic h.isGraphic_hostValue)⟩

theorem WellFormed.moved (h : r.WellFormed) {next : Url} (hs : Url.IsWebScheme next.scheme)
    (hn : next.IsGraphic) : (r.moved next).WellFormed := by
  have hreferer : (r.withReferer next).WellFormed := by
    rw [withReferer, referer?]
    split
    · exact h
    · rename_i value hvalue
      split at hvalue
      · cases hvalue
      · cases hvalue
        exact ⟨h.method, h.scheme, h.address, h.headers.insert (by decide)
          (isHeaderValue_of_isGraphic (h.address.withoutUserinfo.write h.scheme))⟩
  refine ⟨hreferer.method, hs, hn, ?_⟩
  simp only [Request.moved]
  split
  · exact hreferer.headers
  · exact hreferer.headers.erase_all confidential

theorem WellFormed.asGet (h : r.WellFormed) : r.asGet.WellFormed := by
  refine ⟨?_, h.scheme, h.address, h.headers.erase_all descriptive⟩
  simp only [Request.asGet]
  split <;> decide

end Request

end Http
end GuestNet
