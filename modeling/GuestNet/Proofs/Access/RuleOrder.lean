import Mathlib.Order.Defs.Unbundled
import GuestNet.Proofs.Access.Decision

/-! Rules among themselves. As a rule admits other endpoints, it may admit other rules, and then it
admits all that they admit. No two rules admit the same. -/
namespace GuestNet

namespace Endpoint

/-- A path is within one that ends where it has a slash, before or behind that slash. -/
theorem pathWithin_iff {outer inner : List Char} : pathWithin outer inner = true ↔
    outer = [] ∨ inner = outer ∨
      ∃ front rest, inner = front ++ '/' :: rest ∧ (outer = front ∨ outer = front ++ ['/']) := by
  rw [pathWithin, Bool.or_eq_true, Bool.and_eq_true, Bool.or_eq_true, decide_eq_true_iff,
    decide_eq_true_iff, List.isPrefixOf_iff_prefix, List.getLast?_eq_some_iff]
  refine or_congr_right ⟨?_, ?_⟩
  · rintro ⟨⟨rest, rfl⟩, ⟨front, rfl⟩ | hrest⟩
    · exact .inr ⟨front, rest, by rw [List.append_assoc]; rfl, .inr rfl⟩
    · rw [List.drop_left] at hrest
      cases rest with
      | nil => exact .inl (List.append_nil outer)
      | cons c rest =>
        obtain rfl : c = '/' := of_decide_eq_true hrest
        exact .inr ⟨outer, rest, rfl, .inl rfl⟩
  · rintro (rfl | ⟨front, rest, rfl, rfl | rfl⟩)
    · exact ⟨List.prefix_rfl, .inr (by rw [List.drop_length])⟩
    · exact ⟨List.prefix_append outer _, .inr (by rw [List.drop_left]; rfl)⟩
    · refine ⟨⟨rest, ?_⟩, .inl ⟨front, rfl⟩⟩
      rw [List.append_assoc]
      rfl

theorem prefix_of_pathWithin {outer inner : List Char} (h : pathWithin outer inner = true) :
    outer <+: inner := by
  rcases pathWithin_iff.mp h with rfl | rfl | ⟨front, rest, rfl, rfl | rfl⟩
  · exact List.nil_prefix
  · exact List.prefix_rfl
  · exact List.prefix_append outer _
  · exact ⟨rest, by rw [List.append_assoc]; rfl⟩

theorem pathWithin_refl (path : List Char) : pathWithin path path = true :=
  pathWithin_iff.mpr (.inr (.inl rfl))

theorem pathWithin_trans {a b c : List Char} (hab : pathWithin a b = true)
    (hbc : pathWithin b c = true) : pathWithin a c = true := by
  obtain ⟨more, rfl⟩ := prefix_of_pathWithin hbc
  rw [pathWithin_iff] at hab ⊢
  rcases hab with ha | rfl | ⟨front, rest, rfl, ha⟩
  · exact .inl ha
  · exact pathWithin_iff.mp hbc
  · exact .inr (.inr ⟨front, rest ++ more, by rw [List.append_assoc]; rfl, ha⟩)

theorem pathWithin_antisymm {a b : List Char} (hab : pathWithin a b = true)
    (hba : pathWithin b a = true) : a = b :=
  (prefix_of_pathWithin hab).eq_of_length_le (prefix_of_pathWithin hba).length_le

variable {a b c : Endpoint}

theorem admits_iff : a.admits b = true ↔ a.scheme = b.scheme ∧ a.host = b.host ∧
    (a.port = none ∨ a.port = b.port) ∧ pathWithin a.path.toList b.path.toList = true := by
  simp [admits, and_assoc]

theorem admits_refl (a : Endpoint) : a.admits a = true :=
  admits_iff.mpr ⟨rfl, rfl, .inr rfl, pathWithin_refl _⟩

theorem admits_trans (hab : a.admits b = true) (hbc : b.admits c = true) :
    a.admits c = true := by
  obtain ⟨hscheme, hhost, hport, hpath⟩ := admits_iff.mp hab
  obtain ⟨hscheme', hhost', hport', hpath'⟩ := admits_iff.mp hbc
  refine admits_iff.mpr ⟨hscheme.trans hscheme', hhost.trans hhost', ?_,
    pathWithin_trans hpath hpath'⟩
  rcases hport with hnone | hport
  · exact .inl hnone
  · rwa [hport]

theorem admits_antisymm (hab : a.admits b = true) (hba : b.admits a = true) : a = b := by
  obtain ⟨hscheme, hhost, hport, hpath⟩ := admits_iff.mp hab
  obtain ⟨-, -, hport', hpath'⟩ := admits_iff.mp hba
  have hports : a.port = b.port := by
    rcases hport with hnone | hport
    · rcases hport' with hnone' | hport'
      · rw [hnone, hnone']
      · exact hport'.symm
    · exact hport
  have hpaths : a.path = b.path := String.toList_inj.mp (pathWithin_antisymm hpath hpath')
  cases a
  cases b
  simp_all

instance : IsPartialOrder Endpoint (fun a b => a.admits b = true) where
  refl := admits_refl
  trans _ _ _ := admits_trans
  antisymm _ _ := admits_antisymm

end Endpoint

namespace AccessPolicy

/-- Rules that admit all of those before permit all that these permitted. -/
theorem isPermitted_of_weaker {p q : AccessPolicy} {t : Target}
    (hu : p.isUnrestricted = true → q.isUnrestricted = true)
    (hw : ∀ r ∈ p.rules, ∃ r' ∈ q.rules, r'.admits r = true) (hp : p.isPermitted t = true) :
    q.isPermitted t = true := by
  rw [isPermitted_iff] at hp ⊢
  rcases hp with hp | ⟨e, he, r, hr, ha⟩
  · exact .inl (hu hp)
  · obtain ⟨r', hr', ha'⟩ := hw r hr
    exact .inr ⟨e, he, r', hr', Endpoint.admits_trans ha' ha⟩

theorem isPermitted_of_replaced {before after : List Endpoint} {r r' : Endpoint}
    {restricted : Bool} {t : Target} (ha : r'.admits r = true)
    (hp : (⟨before ++ r :: after, restricted⟩ : AccessPolicy).isPermitted t = true) :
    (⟨before ++ r' :: after, restricted⟩ : AccessPolicy).isPermitted t = true := by
  refine isPermitted_of_weaker ?_ ?_ hp
  · exact id
  · intro s hs
    rcases List.mem_append.mp hs with hs | hs
    · exact ⟨s, List.mem_append_left _ hs, s.admits_refl⟩
    · rcases List.mem_cons.mp hs with rfl | hs
      · exact ⟨r', List.mem_append_right before List.mem_cons_self, ha⟩
      · exact ⟨s, List.mem_append_right before (List.mem_cons_of_mem r' hs), s.admits_refl⟩

end AccessPolicy

namespace Endpoint

/-- Rules are partially ordered by what they admit, and what they admit tells them apart. A rule in
the place of one that it admits takes no permission away. -/
theorem rules_partially_ordered :
    IsPartialOrder Endpoint (fun a b => a.admits b = true) ∧
      (∀ (before after : List Endpoint) (r r' : Endpoint) (restricted : Bool) (t : Target),
        r'.admits r = true →
          (⟨before ++ r :: after, restricted⟩ : AccessPolicy).isPermitted t = true →
            (⟨before ++ r' :: after, restricted⟩ : AccessPolicy).isPermitted t = true) ∧
      ∀ a b : Endpoint, (∀ e, a.admits e = b.admits e) ↔ a = b := by
  refine ⟨inferInstance, fun _ _ _ _ _ _ => AccessPolicy.isPermitted_of_replaced,
    fun a b => ⟨fun h => ?_, fun h e => by rw [h]⟩⟩
  exact admits_antisymm ((h b).trans b.admits_refl) ((h a).symm.trans a.admits_refl)

/-- From a host over a directory of it to a page in that, each rule admits the next one. -/
theorem rules_partially_ordered_on_pages :
    let host : Endpoint := ⟨"http", "[::1]", none, ""⟩
    let directory : Endpoint := ⟨"http", "[::1]", some 80, "/v1/"⟩
    let page : Endpoint := ⟨"http", "[::1]", some 80, "/v1/users"⟩
    host.admits page = true ∧
      (⟨[directory], true⟩ : AccessPolicy).isPermitted
        ⟨"http", "http://[::1]/v1/users", "http://[::1]/v1/users"⟩ = true ∧
      ∃ e, directory.admits e ≠ page.admits e := by
  intro host directory page
  obtain ⟨horder, hreplaced, hsame⟩ := rules_partially_ordered
  have hpage : directory.admits page = true := by decide
  have hdirectory : host.admits directory = true := by decide
  refine ⟨horder.trans host directory page hdirectory hpage,
    hreplaced [] [] page directory true _ hpage (by decide +kernel), ?_⟩
  apply not_forall.mp
  intro halike
  exact absurd ((hsame directory page).mp halike) (by decide)

end Endpoint
end GuestNet
