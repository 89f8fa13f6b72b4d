import StrongAuth.Proofs.UrlForm

/-! # Domain names in ASCII

Main statement: a domain name that is read from ASCII text without escapes is its own ASCII form. -/

namespace StrongAuth.Url

open Percent

variable {kind : SchemeKind}

/-! ## Texts without escapes -/

/-- A text in ASCII that escapes nothing. -/
def Literal (chars : List Char) : Prop :=
  ∀ char ∈ chars, char.toNat < 128 ∧ char ≠ '%'

theorem Literal.of_subset {chars part : List Char} (literal : Literal chars)
    (within : part ⊆ chars) : Literal part := fun char member => literal char (within member)

theorem behind_subset (count : Nat) (chars : List Char) : behind count chars ⊆ chars := by
  fun_induction behind count chars with
  | case1 chars => exact List.Subset.refl _
  | case2 => exact List.Subset.refl _
  | case3 count char chars _ induction => exact List.subset_cons_of_subset _ induction
  | case4 count char chars _ induction => exact List.subset_cons_of_subset _ induction

theorem trim_subset (chars : List Char) : trim chars ⊆ chars := fun char member => by
  have front := (List.dropWhile_suffix _).subset (List.mem_reverse.mp member)
  exact (List.dropWhile_suffix _).subset (List.mem_reverse.mp front)

theorem readScheme_subset {chars scheme rest : List Char}
    (read : readScheme chars = some (scheme, rest)) : rest ⊆ chars := by
  rcases readScheme_eq_some read with ⟨first, more, rfl, _⟩
  intro char member
  exact List.mem_append_right _ (List.mem_cons_of_mem _ member)

theorem subset_of_readCredentials {chars user password rest : List Char}
    (read : readCredentials kind chars = .ok (user, password, rest)) : rest ⊆ chars := by
  have behindHost : (((chars.takeWhile fun char => !endsAuthority kind char).reverse.takeWhile
      (· != '@')).reverse ++ chars.drop
        (chars.takeWhile fun char => !endsAuthority kind char).length) ⊆ chars := by
    refine List.append_subset.mpr ⟨fun char member => ?_, List.drop_subset _ _⟩
    have early := (List.takeWhile_prefix _).subset (List.mem_reverse.mp member)
    exact (List.takeWhile_prefix _).subset (List.mem_reverse.mp early)
  rw [readCredentials] at read
  split at read
  · cases read
    exact List.Subset.refl _
  · dsimp only at read
    split at read
    · split at read
      · split at read
        · cases read
        · next parts _ =>
            cases read
            exact parts ▸ behindHost
      · next parts =>
          cases read
          exact parts ▸ behindHost
    · cases read
      exact behindHost

/-! ## Names that are read -/

/-- A host that is its own ASCII form, if it is a domain name. -/
def OwnName (host : Host) : Prop :=
  ∀ name, host = .domain name → name ≠ [] → Domain.toAscii? name = some name

theorem ownName_local : OwnName (.domain []) := by
  rintro name ⟨⟩ nonempty
  exact absurd rfl nonempty

theorem ownName_of_readDomain {chars : List Char} {host : Host} (literal : Literal chars)
    (read : readDomain chars = .ok host) : OwnName host := by
  rintro name rfl -
  rw [readDomain] at read
  split at read
  · unfold readBracketed at read
    split at read
    · split at read <;> cases read
    · cases read
  · split at read
    · cases read
    · cases read
    · next found =>
        split at read
        · split at read <;> cases read
        · cases read
          exact Domain.toAscii?_of_ascii
            (decode?_of_not_mem fun percent => (literal '%' percent).2 rfl)
            (fun char member => (literal char member).1) found

theorem ownName_of_readHostPort {chars rest : List Char} {host : Host} {port : Option Nat}
    (special : kind.special = true) (literal : Literal chars)
    (read : readHostPort kind chars = .ok (host, port, rest)) : OwnName host := by
  rw [readHostPort_eq] at read
  dsimp only at read
  split at read
  · cases read
  · rcases bind_eq_ok_iff.mp read with ⟨found, hostRead, read⟩
    rw [readHost, if_pos special] at hostRead
    have own := ownName_of_readDomain (literal.of_subset (List.take_subset _ _)) hostRead
    unfold readPortBehind at read
    split at read
    · split at read
      · cases read
      · rcases map_eq_ok_iff.mp read with ⟨_, _, made⟩
        cases made
        exact own
    · cases read
      exact own

theorem ownName_of_readHierarchical {scheme chars : List Char} {url : Url} (literal : Literal chars)
    (read : readHierarchical (schemeKind scheme) scheme chars = .ok url)
    (special : (schemeKind url.scheme).special = true) : ∀ host ∈ url.host, OwnName host := by
  rw [readHierarchical_eq] at read
  rcases bind_eq_ok_iff.mp read with ⟨⟨user, password, rest⟩, credentials, read⟩
  rcases bind_eq_ok_iff.mp read with ⟨⟨host, port, behind⟩, place, read⟩
  dsimp only at read
  split at read
  · cases read
  · cases read
    rintro _ ⟨⟩
    exact ownName_of_readHostPort special
      (literal.of_subset (subset_of_readCredentials credentials)) place

theorem ownName_of_readFileHost {chars : List Char} {host : Host} (literal : Literal chars)
    (read : readFileHost chars = .ok host) : OwnName host := by
  rcases map_eq_ok_iff.mp read with ⟨found, hostRead, rfl⟩
  split
  · exact ownName_local
  · split at hostRead
    · cases hostRead
      exact ownName_local
    · exact ownName_of_readDomain literal hostRead

theorem ownName_of_finishFile {scheme chars : List Char} {host : Host} (slashed : Bool)
    (own : OwnName host) :
    ∀ again ∈ (finishFile kind scheme host slashed chars).host, OwnName again := by
  have either : ∀ onDrive : Bool, OwnName (if onDrive then .domain [] else host) := fun onDrive => by
    split
    · exact ownName_local
    · exact own
  rintro _ ⟨⟩
  exact either _

theorem ownName_of_readFile {scheme chars : List Char} {url : Url} (literal : Literal chars)
    (read : readFile kind scheme chars = .ok url) : ∀ host ∈ url.host, OwnName host := by
  rw [readFile_eq] at read
  split at read
  · next first second rest parts =>
      split at read
      · dsimp only at read
        split at read
        · cases read
          exact ownName_of_finishFile _ ownName_local
        · rcases bind_eq_ok_iff.mp read with ⟨host, hostRead, made⟩
          cases made
          refine ownName_of_finishFile _ (ownName_of_readFileHost (literal.of_subset ?_) hostRead)
          intro char member
          have whole : char ∈ unbroken chars := by
            rw [parts]
            exact List.mem_cons_of_mem _
              (List.mem_cons_of_mem _ ((List.takeWhile_prefix _).subset member))
          exact List.mem_of_mem_filter whole
      · cases read
        exact ownName_of_finishFile _ ownName_local
  · cases read
    exact ownName_of_finishFile _ ownName_local
  · cases read
    exact ownName_of_finishFile _ ownName_local

/-- A domain name that is read from ASCII without escapes is its own ASCII form. -/
theorem ownName_of_read {text : String} {url : Url} (literal : Literal text.toList)
    (found : read text = .ok url) (special : (schemeKind url.scheme).special = true) :
    ∀ host ∈ url.host, OwnName host := by
  have trimmed := literal.of_subset (trim_subset text.toList)
  rw [read_eq] at found
  split at found
  · cases found
  · next scheme rest schemeRead =>
      have later : Literal rest := fun char member =>
        trimmed char (List.mem_of_mem_filter (readScheme_subset schemeRead member))
      unfold readBehind at found
      dsimp only at found
      split at found
      · exact ownName_of_readFile (trimmed.of_subset (behind_subset _ _)) found
      · split at found
        · exact ownName_of_readHierarchical
            (later.of_subset (List.dropWhile_suffix _).subset) found special
        · split at found
          · next more =>
              exact ownName_of_readHierarchical (fun char member => later char
                (List.mem_cons_of_mem _ (List.mem_cons_of_mem _ member))) found special
          · cases found
            exact fun _ none => (by cases none)
          · cases found
            exact fun _ none => (by cases none)

end StrongAuth.Url
