import StrongAuth.Link
import StrongAuth.Proofs.Below

/-! # Addresses of links

Main statement: the link of an authorisation leads to it below the base the link is built on, if
and only if the base can bear its names: it has neither query nor fragment, its host is read from
its own name, and neither id is a dot. -/

namespace StrongAuth

/-! ## Where a link leads -/

/-- The names that the path of a kind of resources is made of. -/
def ResourceKind.names : ResourceKind → List String
  | .accountConsent => ["v1", "consents"]
  | .payment => ["v1", "payments"]
  | .fundsConsent => ["v2", "consents", "confirmation-of-funds"]

namespace Authorisation

def isRedirected (authorisation : Authorisation) : Bool :=
  authorisation.nextRelation = .scaRedirect

/-- The names below the base of the next link: the id on the pages of the bank, and the place of
the authorisation below its resource otherwise. -/
def linkNames (authorisation : Authorisation) : List String :=
  if authorisation.isRedirected then [authorisation.id]
  else authorisation.kind.names ++ [authorisation.parent, "authorisations", authorisation.id]

end Authorisation

def Links.base (links : Links) (authorisation : Authorisation) : Url :=
  if authorisation.isRedirected then links.redirectBase else links.apiBase

open Url

namespace Authorisation

theorem path_toList (authorisation : Authorisation) : authorisation.path.toList =
    segmentsText (encoded (authorisation.kind.names ++
      [authorisation.parent, "authorisations", authorisation.id])) := by
  have word : (Percent.encodeSegment "authorisations").toList = "authorisations".toList := by
    decide
  have collection : (collectionPath authorisation.kind).toList =
      segmentsText (encoded authorisation.kind.names) ++ ['/'] := by
    cases authorisation.kind <;> decide
  have middle : "/authorisations/".toList = '/' :: "authorisations".toList ++ ['/'] := by decide
  rw [path, String.toList_append, String.toList_append, String.toList_append, collection, middle,
    ← word]
  simp [encoded, segmentsText]

theorem linkNames_ne_nil (authorisation : Authorisation) : authorisation.linkNames ≠ [] := by
  rw [linkNames]
  split
  · exact List.cons_ne_nil _ _
  · simp

theorem singleSlash_linkNames (authorisation : Authorisation) :
    SingleSlash (encoded authorisation.linkNames) := by
  rw [linkNames]
  split
  · by_cases empty : (Percent.encodeSegment authorisation.id).toList = []
    · exact .inl (by rw [encoded, List.map_singleton, empty])
    · exact .inr ⟨_, [], rfl, empty⟩
  · cases authorisation.kind <;> exact .inr ⟨_, _, rfl, by decide⟩

end Authorisation

namespace Links

theorem next_address (links : Links) (authorisation : Authorisation) :
    (links.next authorisation).address =
      (links.base authorisation).below authorisation.linkNames := by
  have text : ∀ base : Url, trimmed base = String.ofList (base.write.rdropWhile (· == '/')) :=
    fun _ => rfl
  rw [next, base, Authorisation.linkNames, Authorisation.isRedirected]
  refine String.toList_injective ?_
  split
  · next redirected =>
      rw [redirected, if_pos (by decide), if_pos (by decide), text, below, String.toList_ofList,
        String.toList_append, String.toList_append, String.toList_ofList]
      simp [encoded, segmentsText]
  · next relation other =>
      have api : ¬ decide (authorisation.nextRelation = .scaRedirect) = true := by
        simpa using other
      rw [if_neg api, if_neg api, text, below, String.toList_ofList, String.toList_append,
        String.toList_ofList, Authorisation.path_toList]

theorem form_base {apiBase redirectBase : String} {links : Links}
    (accepted : ofTexts apiBase redirectBase = .ok links) (authorisation : Authorisation) :
    Form (links.base authorisation) := by
  rcases bind_eq_ok_iff.mp accepted with ⟨api, apiRead, accepted⟩
  rcases bind_eq_ok_iff.mp accepted with ⟨redirect, redirectRead, made⟩
  cases made
  rw [base]
  split
  · exact form_of_read (mapError_eq_ok_iff.mp redirectRead)
  · exact form_of_read (mapError_eq_ok_iff.mp apiRead)

/-- The next link leads to its authorisation, below the base it is built on, if and only if the
base bears the names: the ids may be any texts but dots. -/
theorem next_leads_iff {apiBase redirectBase : String} {links : Links}
    (accepted : ofTexts apiBase redirectBase = .ok links) (authorisation : Authorisation) :
    (∃ url, Url.read (links.next authorisation).address = .ok url ∧
        Leads (links.base authorisation) authorisation.linkNames url) ↔
      Bears (links.base authorisation) authorisation.linkNames := by
  rw [next_address]
  exact leads_below_iff (form_base accepted authorisation) authorisation.linkNames_ne_nil
    authorisation.singleSlash_linkNames

/-- Below a plain base every id is found but a dot, which the reader of the address carries out;
and below a base with a query none is. -/
theorem bank_links :
    let api : Url := ⟨"https".toList, [], [], some (.domain "api.bank.test".toList), none,
      .segments [[]], none, none⟩
    let pages : Url := ⟨"https".toList, [], [], some (.domain "login.bank.test".toList), none,
      .segments ["sca".toList], some "v=1".toList, none⟩
    let links : Links := ⟨api, pages⟩
    let embedded (name : String) : Authorisation := { (default : Authorisation) with
      id := name, parent := "res 1/x", kind := .payment, status := .received, approach := .embedded }
    let redirected : Authorisation := { embedded "a1" with approach := .redirect }
    let names (name : String) := ["v1", "payments", "res 1/x", "authorisations", name]
    ofTexts "https://api.bank.test/" "https://login.bank.test/sca?v=1" = .ok links ∧
      (∃ url, Url.read (links.next (embedded "a1")).address = .ok url ∧
        Leads api (names "a1") url) ∧
      ((links.next (embedded "..")).address =
          "https://api.bank.test/v1/payments/res%201%2Fx/authorisations/.." ∧
        ¬ ∃ url, Url.read (links.next (embedded "..")).address = .ok url ∧
          Leads api (names "..") url) ∧
      (links.next redirected).address = "https://login.bank.test/sca?v=1/a1" ∧
        ¬ ∃ url, Url.read (links.next redirected).address = .ok url ∧ Leads pages ["a1"] url := by
  intro api pages links embedded redirected names
  have accepted : ofTexts "https://api.bank.test/" "https://login.bank.test/sca?v=1" =
      .ok links := by decide +kernel
  have found : Url.read "https://api.bank.test/" = .ok api := by decide +kernel
  have bears := fun name => @bears_iff_of_literal _ api (by simp [Literal]) found (by decide)
    (names name)
  refine ⟨accepted, (next_leads_iff accepted (embedded "a1")).mpr
    ((bears "a1").mpr ⟨rfl, rfl, fun _ => by decide⟩), ⟨by decide, fun found => ?_⟩, by decide,
    fun found => ?_⟩
  · have noDots := ((bears "..").mp ((next_leads_iff accepted (embedded "..")).mp found)).2.2
    exact absurd rfl (noDots (Option.some_ne_none _) ".." (by decide)).2
  · have bears := (next_leads_iff accepted redirected).mp found
    exact absurd bears.noQuery (by decide)

end Links

end StrongAuth
