import StrongAuth.Proofs.Marks
import StrongAuth.Proofs.Names
import StrongAuth.Proofs.OwnNames

/-! # Addresses below a base

Main statement: the text of a URL, without slashes at its end and with encoded names behind it, is
an address that leads there if and only if the URL has neither query nor fragment, its host is read
from its own name, no segment is a dot, and no host stands in front of a drive. -/

namespace StrongAuth.Url

open Percent

/-! ## What an address says -/

/-- The text of the host. An empty host is the same place as none. -/
def place (url : Url) : List Char :=
  (url.host.map Host.write).getD []

def trimmedPath (url : Url) : List Char :=
  url.path.write.rdropWhile (· == '/')

/-- The address leads below the base, to where the names lead. -/
structure Leads (base : Url) (names : List String) (url : Url) : Prop where
  scheme : url.scheme = base.scheme
  place : url.place = base.place
  port : url.port = base.port
  noQuery : url.query = none
  noFragment : url.fragment = none
  path : ∃ segments, url.path.write = base.trimmedPath ++ segmentsText segments ∧
    List.Forall₂ Stands segments names

/-- The segments of a path that other segments can follow. Text without structure is followed as
it is. -/
def segments? (url : Url) : Option (List (List Char)) :=
  match url.path with
  | .segments segments => some segments
  | .plain [] => some []
  | .plain _ => none

/-- A base below which all names are found. -/
structure Bears (base : Url) (names : List String) : Prop where
  noQuery : base.query = none
  noFragment : base.fragment = none
  /-- A domain name is its own ASCII form. -/
  ownName : ∀ name, (schemeKind base.scheme).special = true → base.host = some (.domain name) →
    name ≠ [] → Domain.toAscii? name = some name
  noDots : ∀ segments ∈ base.segments?, (∀ segment ∈ segments, isDot segment = false) ∧
    ∀ name ∈ names, name ≠ "." ∧ name ≠ ".."
  /-- No host stands in front of a drive. -/
  noDrive : (schemeKind base.scheme).isFile = true → base.place ≠ [] →
    ∀ segments ∈ base.segments?, ∀ segment ∈ segments.head?, isDriveLetter segment = false

/-! ## Texts without slashes at their end -/

theorem segmentsText_eq_nil {segments : List (List Char)} :
    segmentsText segments = [] ↔ segments = [] := by
  cases segments with
  | nil => exact iff_of_true rfl rfl
  | cons first segments => exact iff_of_false (List.cons_ne_nil _ _) (List.cons_ne_nil _ _)

theorem rdropWhile_scheme (scheme text : List Char) :
    (scheme ++ ':' :: text).rdropWhile (· == '/') =
      scheme ++ ':' :: text.rdropWhile (· == '/') := by
  have front : (scheme ++ [':']).rdropWhile (· == '/') = scheme ++ [':'] :=
    List.rdropWhile_concat_neg _ _ _ (by decide)
  rw [← List.singleton_append, ← List.append_assoc, rdropWhile_append, front]
  split
  · next empty => rw [empty]
  · rw [List.append_assoc, List.singleton_append]

/-- The text of a URL loses empty segments at its end, and what is in front of the path only if no
others are there. -/
theorem rdropWhile_path (scheme front : List Char) {segments : List (List Char)}
    (whole : ∀ segment ∈ segments, '/' ∉ segment) :
    (scheme ++ ':' :: (front ++ segmentsText segments)).rdropWhile (· == '/') =
      scheme ++ ':' :: if segments.rdropWhile List.isEmpty = [] then front.rdropWhile (· == '/')
        else front ++ segmentsText (segments.rdropWhile List.isEmpty) := by
  have path : (segmentsText segments).rdropWhile (· == '/') =
      segmentsText (segments.rdropWhile List.isEmpty) := rdropWhile_segments whole
  rw [rdropWhile_scheme, rdropWhile_append, path]
  simp only [segmentsText_eq_nil]

theorem mem_of_mem_rdropWhile {Element : Type} {drops : Element → Bool} {list : List Element}
    {element : Element} (member : element ∈ list.rdropWhile drops) : element ∈ list :=
  (List.rdropWhile_prefix drops list).subset member

/-- Marks stay in a text that loses slashes. -/
theorem Marked.rdropWhile {chars : List Char} (marked : Marked chars) :
    Marked (chars.rdropWhile (· == '/')) := by
  have turned : ∀ {text : List Char}, Marked text → Marked text.reverse :=
    fun ⟨char, member, mark⟩ => ⟨char, List.mem_reverse.mpr member, mark⟩
  refine turned ((turned marked).dropWhile fun char slash => ?_)
  rw [beq_iff_eq.mp slash]
  decide

/-! ## Addresses -/

def below (base : Url) (names : List String) : String :=
  String.ofList (base.write.rdropWhile (· == '/') ++ segmentsText (encoded names))

/-- An address that leads below a base shows that the base has neither query nor fragment. -/
theorem unmarked_of_leads {base url : Url} {names : List String}
    (read : read (base.below names) = .ok url) (leads : Leads base names url) :
    base.query = none ∧ base.fragment = none := by
  have untailed : ¬ Tailed url := by
    rw [Tailed, leads.noQuery, leads.noFragment]
    simp
  have unmarked : ¬ Marked base.write := fun marked => by
    refine untailed (tailed_of_read ?_ read)
    rw [below, String.toList_ofList]
    rcases marked.rdropWhile with ⟨char, member, mark⟩
    exact ⟨char, List.mem_append_left _ member, mark⟩
  constructor
  · cases query : base.query with
    | none => rfl
    | some part => exact absurd ⟨'?', by rw [write, query]; simp [writePart], rfl⟩ unmarked
  · cases fragment : base.fragment with
    | none => rfl
    | some part => exact absurd ⟨'#', by rw [write, fragment]; simp [writePart], rfl⟩ unmarked

/-- What has to hold of a URL that is read below a base, so that it leads there. -/
theorem leads_iff {base : Url} {names : List String} {user password : List Char}
    {host : Option Host} {front left : List (List Char)} (nonempty : names ≠ [])
    (trimmed : base.trimmedPath = segmentsText front) (whole : ∀ segment ∈ front, '/' ∉ segment)
    (resolves : Resolves (front ++ encoded names) left) :
    Leads base names ⟨base.scheme, user, password, host, base.port, .segments left, none, none⟩ ↔
      (host.map Host.write).getD [] = base.place ∧ (∀ segment ∈ front, isDot segment = false) ∧
        ∀ name ∈ names, name ≠ "." ∧ name ≠ ".." := by
  have found := resolves.stands_iff nonempty whole
  rw [← trimmed] at found
  exact ⟨fun leads => ⟨leads.place, found.mp leads.path⟩,
    fun ⟨place, noDots⟩ => ⟨rfl, place, rfl, rfl, rfl, found.mpr noDots⟩⟩

variable {scheme user password : List Char} {host : Host} {port : Option Nat}
  {segments : List (List Char)} {names : List String}

section Fitting

variable (path : PathFits (schemeKind scheme) segments)

include path

theorem whole_of_pathFits : ∀ segment ∈ segments, '/' ∉ segment := fun segment member =>
  noSlash_of_fits (path.fits segment member)

theorem whole_rdropWhile : ∀ segment ∈ segments.rdropWhile List.isEmpty, '/' ∉ segment :=
  fun segment member => whole_of_pathFits path segment (mem_of_mem_rdropWhile member)

theorem fits_joined (names : List String) :
    ∀ segment ∈ segments.rdropWhile List.isEmpty ++ encoded names,
      Fits (schemeKind scheme) segment :=
  List.forall_mem_append.mpr
    ⟨fun segment member => path.fits segment (mem_of_mem_rdropWhile member), fits_encoded names⟩

theorem trimmedPath_segments {host : Option Host} {port : Option Nat} :
    trimmedPath ⟨scheme, user, password, host, port, .segments segments, none, none⟩ =
      segmentsText (segments.rdropWhile List.isEmpty) :=
  rdropWhile_segments (whole_of_pathFits path)

end Fitting

theorem noDots_rdropWhile : (∀ segment ∈ segments.rdropWhile List.isEmpty, isDot segment = false) ↔
    ∀ segment ∈ segments, isDot segment = false := by
  constructor
  · intro noDots segment member
    rw [← @List.rdropWhile_append_rtakeWhile _ List.isEmpty segments] at member
    rcases List.mem_append.mp member with kept | dropped
    · exact noDots segment kept
    · rw [List.isEmpty_iff.mp (List.mem_rtakeWhile_imp dropped)]
      decide
  · exact fun noDots segment member => noDots segment (mem_of_mem_rdropWhile member)

section Fronts

variable {base : Url} {front : List Char} (whole : ∀ segment ∈ segments, '/' ∉ segment)
  (written : base.write = scheme ++ ':' :: ('/' :: '/' :: front ++ segmentsText segments))

include whole written in
/-- An address below a base with something between its slashes and its path, or with a path. -/
theorem below_of_front (noSlash : '/' ∉ front)
    (some : front ≠ [] ∨ segments.rdropWhile List.isEmpty ≠ []) :
    base.below names = String.ofList (scheme ++ ':' :: '/' :: '/' ::
      (front ++ segmentsText (segments.rdropWhile List.isEmpty ++ encoded names))) := by
  have kept : (if segments.rdropWhile List.isEmpty = [] then
      ('/' :: '/' :: front).rdropWhile (· == '/')
      else '/' :: '/' :: front ++ segmentsText (segments.rdropWhile List.isEmpty)) =
      '/' :: '/' :: front ++ segmentsText (segments.rdropWhile List.isEmpty) := by
    split
    · next empty =>
        rw [empty]
        rcases List.eq_nil_or_concat' front with none | ⟨start, last, rfl⟩
        · exact absurd empty (some.resolve_left (not_not.mpr none))
        · have other : ¬ (last == '/') = true := fun same => noSlash
            (beq_iff_eq.mp same ▸ List.mem_append_right _ List.mem_cons_self)
          rw [← List.cons_append, ← List.cons_append,
            List.rdropWhile_concat_neg (· == '/') _ last other]
          simp [segmentsText]
    · rfl
  rw [below, written, rdropWhile_path _ _ whole, kept, segmentsText_append]
  simp

include whole written in
theorem below_of_bare (bare : front = []) (empty : segments.rdropWhile List.isEmpty = []) :
    base.below names = String.ofList (scheme ++ ':' :: segmentsText (encoded names)) := by
  rw [below, written, rdropWhile_path _ _ whole, if_pos empty, bare]
  have slashes : ['/', '/'].rdropWhile (· == '/') = [] := by decide
  rw [slashes, List.append_assoc]
  rfl

end Fronts

section Places

variable (named : SchemeFits scheme) (noFile : (schemeKind scheme).isFile = false)
  (authority : AuthorityFits (schemeKind scheme) user password host port)
  (path : PathFits (schemeKind scheme) segments)

theorem write_hierarchical :
    write ⟨scheme, user, password, some host, port, .segments segments, none, none⟩ =
      scheme ++ ':' :: ('/' :: '/' :: (credentialsText user password ++
        (host.write ++ portText port)) ++ segmentsText segments) := by
  cases port <;> simp [write, writeAuthority, writeCredentials, credentialsText, portText,
    UrlPath.write, segmentsText, writePart]

include noFile authority path in
/-- What a place bears: its name has to be its own, and its path has no dots anyway. -/
theorem bears_hierarchical :
    Bears ⟨scheme, user, password, some host, port, .segments segments, none, none⟩ names ↔
      (∀ name, (schemeKind scheme).special = true → host = .domain name →
        Domain.toAscii? name = some name) ∧ ∀ name ∈ names, name ≠ "." ∧ name ≠ ".." := by
  constructor
  · intro bears
    refine ⟨fun name special same => ?_, (bears.noDots segments rfl).2⟩
    subst same
    exact bears.ownName name special rfl (authority.hostFits.write_ne_nil special)
  · rintro ⟨own, noDot⟩
    refine ⟨rfl, rfl, fun name special same _ => own name special (Option.some.inj same), ?_, ?_⟩
    · rintro list ⟨⟩
      exact ⟨path.noDots noFile, noDot⟩
    · intro isFile
      rw [noFile] at isFile
      cases isFile

include named noFile authority path in
/-- Below two slashes only, where the names become the path of a URL without a place. -/
theorem leads_bare (nonempty : names ≠ []) (single : SingleSlash (encoded names))
    (noFront : credentialsText user password ++ (host.write ++ portText port) = [])
    (noPath : segments.rdropWhile List.isEmpty = []) :
    let base : Url := ⟨scheme, user, password, some host, port, .segments segments, none, none⟩
    (∃ url, read (base.below names) = .ok url ∧ Leads base names url) ↔ Bears base names := by
  intro base
  have written := @below_of_bare scheme _ names base _ (whole_of_pathFits path) write_hierarchical
    noFront noPath
  have trimmed : base.trimmedPath = segmentsText [] :=
    (trimmedPath_segments path).trans (congrArg segmentsText noPath)
  rcases List.append_eq_nil_iff.mp noFront with ⟨_, noPlace⟩
  rcases List.append_eq_nil_iff.mp noPlace with ⟨noHost, noPort⟩
  obtain rfl : port = none := by
    cases port with
    | none => rfl
    | some number => cases noPort
  have foreign : (schemeKind scheme).special = false := Bool.eq_false_iff.mpr fun special =>
    authority.hostFits.write_ne_nil special noHost
  have leadsIff := @leads_iff base names [] [] none [] _ nonempty trimmed
    (fun _ none => absurd none List.not_mem_nil) (resolves_walked (fits_encoded names) noFile)
  rw [bears_hierarchical noFile authority path, written,
    read_rooted named noFile foreign (fits_encoded names) single]
  constructor
  · rintro ⟨url, ⟨⟩, leads⟩
    refine ⟨fun name special => ?_, (leadsIff.mp leads).2.2⟩
    rw [foreign] at special
    cases special
  · rintro ⟨_, noDot⟩
    exact ⟨_, rfl, leadsIff.mpr ⟨noHost.symm, fun _ none => absurd none List.not_mem_nil, noDot⟩⟩

include named noFile authority path in
/-- Below something between the slashes and the path, or a path. -/
theorem leads_front (nonempty : names ≠ []) (single : SingleSlash (encoded names))
    (some' : credentialsText user password ++ (host.write ++ portText port) ≠ [] ∨
      segments.rdropWhile List.isEmpty ≠ []) :
    let base : Url := ⟨scheme, user, password, some host, port, .segments segments, none, none⟩
    (∃ url, read (base.below names) = .ok url ∧ Leads base names url) ↔ Bears base names := by
  intro base
  have noSlash : '/' ∉ credentialsText user password ++ (host.write ++ portText port) :=
    fun member => by
      have inside := inside_front authority '/' member
      simp [endsAuthority] at inside
  have written := @below_of_front scheme _ names base _ (whole_of_pathFits path) write_hierarchical
    noSlash some'
  have all := fits_joined path names
  have joined : segments.rdropWhile List.isEmpty ++ encoded names ≠ [] :=
    List.append_ne_nil_of_right_ne_nil _ single.ne_nil
  have leadsIff := fun again => @leads_iff base names user password (some again) _ _ nonempty
    (trimmedPath_segments path) (whole_rdropWhile path) (resolves_walked all noFile)
  rw [bears_hierarchical noFile authority path, written,
    read_place named noFile authority joined all]
  constructor
  · rintro ⟨url, read, leads⟩
    rcases bind_eq_ok_iff.mp read with ⟨again, hostRead, made⟩
    split at made
    · cases made
    · cases made
      have found := (leadsIff again).mp leads
      refine ⟨fun name special same => ?_, found.2.2⟩
      subst same
      exact own_of_readHost authority.hostFits special hostRead found.1
  · rintro ⟨own, noDot⟩
    have noDots := noDots_rdropWhile.mpr (path.noDots noFile)
    refine ⟨_, ?_, (leadsIff host).mpr ⟨rfl, noDots, noDot⟩⟩
    rw [readHost_write authority.hostFits own]
    exact if_neg fun both => both.2 (authority.bare both.1)

include named noFile authority path in
/-- Below a place. -/
theorem leads_hierarchical (nonempty : names ≠ []) (single : SingleSlash (encoded names)) :
    let base : Url := ⟨scheme, user, password, some host, port, .segments segments, none, none⟩
    (∃ url, read (base.below names) = .ok url ∧ Leads base names url) ↔ Bears base names := by
  by_cases bare : credentialsText user password ++ (host.write ++ portText port) = [] ∧
      segments.rdropWhile List.isEmpty = []
  · exact leads_bare named noFile authority path nonempty single bare.1 bare.2
  · exact leads_front named noFile authority path nonempty single (not_and_or.mp bare)

end Places

theorem head?_rdropWhile {Element : Type} {drops : Element → Bool} {list : List Element}
    (some : list.rdropWhile drops ≠ []) : (list.rdropWhile drops).head? = list.head? := by
  rcases List.rdropWhile_prefix drops list with ⟨rest, whole⟩
  conv_rhs => rw [← whole]
  rw [List.head?_append_of_ne_nil _ some]

/-- Segments behind others that begin with a name, or behind none. -/
theorem SingleSlash.append {front back : List (List Char)} (single : SingleSlash back)
    (named : front = [] ∨ SingleSlash front ∧ front ≠ [[]]) : SingleSlash (front ++ back) := by
  rcases named with rfl | ⟨rfl | ⟨first, rest, rfl, nonempty⟩, other⟩
  · exact single
  · exact absurd rfl other
  · exact .inr ⟨first, rest ++ back, rfl, nonempty⟩

/-- Without empty segments at its end, a path begins with a name, or there is none of it. -/
theorem SingleSlash.rdropWhile (single : SingleSlash segments) :
    segments.rdropWhile List.isEmpty = [] ∨
      SingleSlash (segments.rdropWhile List.isEmpty) ∧
        segments.rdropWhile List.isEmpty ≠ [[]] := by
  rcases single with rfl | ⟨first, rest, rfl, nonempty⟩
  · exact .inl rfl
  · refine or_iff_not_imp_left.mpr fun some => ?_
    have head := head?_rdropWhile some
    rcases List.head?_eq_some_iff.mp head with ⟨more, same⟩
    rw [same]
    exact ⟨.inr ⟨first, more, rfl, nonempty⟩, fun root => nonempty (List.cons.inj root).1⟩

/-- A path without a place is set off if two slashes would stand in front of it. -/
theorem writeAuthority_rooted (scheme : List Char) (segments : List (List Char)) :
    let base : Url := ⟨scheme, [], [], none, none, .segments segments, none, none⟩
    base.writeAuthority = ['/', '.'] ∨
      base.writeAuthority = [] ∧ (segments = [] ∨ SingleSlash segments) := by
  intro base
  rcases segments with _ | ⟨first, _ | ⟨second, rest⟩⟩
  · exact .inr ⟨rfl, .inl rfl⟩
  · refine .inr ⟨by cases first <;> rfl, .inr ?_⟩
    cases first with
    | nil => exact .inl rfl
    | cons char first => exact .inr ⟨_, _, rfl, List.cons_ne_nil _ _⟩
  · cases first with
    | nil => exact .inl rfl
    | cons char first => exact .inr ⟨rfl, .inr (.inr ⟨_, _, rfl, List.cons_ne_nil _ _⟩)⟩

/-- A dot in front of other segments is left out. -/
theorem walked_dot {all : List (List Char)} (nonempty : all ≠ []) :
    walked kind (['.'] :: all) = walked kind all := by
  rw [walked, Walk.along, if_neg (by decide), if_pos (by decide)]
  dsimp only
  rw [if_neg (by rwa [List.isEmpty_iff]), walked]

theorem fits_dot : Fits kind ['.'] :=
  .cons (by decide) (by simp [isSlash]) .nil

theorem read_below_rooted (named : SchemeFits scheme)
    (noFile : (schemeKind scheme).isFile = false) (foreign : (schemeKind scheme).special = false)
    (path : PathFits (schemeKind scheme) segments) (single : SingleSlash (encoded names)) :
    let base : Url := ⟨scheme, [], [], none, none, .segments segments, none, none⟩
    read (base.below names) = .ok ⟨scheme, [], [], none, none,
      .segments (walked (schemeKind scheme) (segments.rdropWhile List.isEmpty ++ encoded names)),
      none, none⟩ := by
  intro base
  have whole := whole_of_pathFits path
  have all := fits_joined path names
  have some' : segments.rdropWhile List.isEmpty ++ encoded names ≠ [] :=
    List.append_ne_nil_of_right_ne_nil _ single.ne_nil
  have written : base.write = scheme ++ ':' :: (base.writeAuthority ++ segmentsText segments) := by
    simp [base, write, UrlPath.write, segmentsText, writePart]
  rcases writeAuthority_rooted scheme segments with dotted | ⟨bare, shape⟩
  · have text : base.below names = String.ofList (scheme ++ ':' ::
        segmentsText (['.'] :: (segments.rdropWhile List.isEmpty ++ encoded names))) := by
      have kept : ['/', '.'].rdropWhile (· == '/') = ['/', '.'] := by decide
      rw [below, written, dotted, rdropWhile_path _ _ whole, kept]
      split
      · next empty => simp [empty, segmentsText]
      · simp [segmentsText]
    rw [text, read_rooted named noFile foreign (List.forall_mem_cons.mpr ⟨fits_dot, all⟩)
      (.inr ⟨_, _, rfl, List.cons_ne_nil _ _⟩), walked_dot some']
  · have text : base.below names = String.ofList (scheme ++ ':' ::
        segmentsText (segments.rdropWhile List.isEmpty ++ encoded names)) := by
      rw [below, written, bare, rdropWhile_path _ _ whole]
      split
      · next empty => simp [empty]
      · simp [segmentsText]
    have joined : SingleSlash (segments.rdropWhile List.isEmpty ++ encoded names) := by
      refine single.append ?_
      rcases shape with rfl | begins
      · exact .inl rfl
      · exact begins.rdropWhile
    rw [text, read_rooted named noFile foreign all joined]

/-- Below a path without a place. -/
theorem leads_rooted (named : SchemeFits scheme) (noFile : (schemeKind scheme).isFile = false)
    (foreign : (schemeKind scheme).special = false) (path : PathFits (schemeKind scheme) segments)
    (nonempty : names ≠ []) (single : SingleSlash (encoded names)) :
    let base : Url := ⟨scheme, [], [], none, none, .segments segments, none, none⟩
    (∃ url, read (base.below names) = .ok url ∧ Leads base names url) ↔ Bears base names := by
  intro base
  have whole := whole_of_pathFits path
  have noDots := noDots_rdropWhile.mpr (path.noDots noFile)
  have trimmed : base.trimmedPath = _ := trimmedPath_segments path
  have all := fits_joined path names
  have bears : Bears base names ↔ ∀ name ∈ names, name ≠ "." ∧ name ≠ ".." := by
    constructor
    · exact fun bears => (bears.noDots segments rfl).2
    · intro noDot
      refine ⟨rfl, rfl, fun _ _ none => (by cases none), ?_, fun _ some => absurd rfl some⟩
      rintro list ⟨⟩
      exact ⟨path.noDots noFile, noDot⟩
  have read := read_below_rooted named noFile foreign path single
  have leadsIff := @leads_iff base names [] [] none _ _ nonempty trimmed (whole_rdropWhile path)
    (resolves_walked all noFile)
  rw [bears, read]
  constructor
  · rintro ⟨url, ⟨⟩, leads⟩
    exact (leadsIff.mp leads).2.2
  · exact fun noDot => ⟨_, rfl, leadsIff.mpr ⟨rfl, noDots, noDot⟩⟩

/-- Below text without structure. -/
theorem leads_plain {text : List Char} (named : SchemeFits scheme)
    (noFile : (schemeKind scheme).isFile = false) (foreign : (schemeKind scheme).special = false)
    (kept : ∀ char ∈ text, keptInPlain char = true)
    (inside : ∀ char ∈ text, char ≠ '?' ∧ char ≠ '#') (noSlash : text.head? ≠ some '/')
    (nonempty : names ≠ []) (single : SingleSlash (encoded names)) :
    let base : Url := ⟨scheme, [], [], none, none, .plain text, none, none⟩
    (∃ url, read (base.below names) = .ok url ∧ Leads base names url) ↔ Bears base names := by
  intro base
  have written : base.below names = String.ofList
      (scheme ++ ':' :: (text.rdropWhile (· == '/') ++ segmentsText (encoded names))) := by
    have base : base.write = scheme ++ ':' :: text := by
      simp [base, write, writeAuthority, UrlPath.write, writePart]
    rw [below, base, rdropWhile_scheme, List.append_assoc]
    rfl
  cases text with
  | nil =>
      have read := read_rooted named noFile foreign (fits_encoded names) single
      have leadsIff := @leads_iff base names [] [] none [] _ nonempty rfl (by simp)
        (resolves_walked (fits_encoded names) noFile)
      rw [written, List.rdropWhile_nil, List.nil_append, read]
      constructor
      · rintro ⟨url, ⟨⟩, leads⟩
        refine ⟨rfl, rfl, fun _ _ none => (by cases none), ?_, fun _ some => absurd rfl some⟩
        rintro list ⟨⟩
        exact ⟨by simp, (leadsIff.mp leads).2.2⟩
      · intro bears
        exact ⟨_, rfl, leadsIff.mpr ⟨rfl, by simp, (bears.noDots [] rfl).2⟩⟩
  | cons char text =>
      have first : (char :: text).rdropWhile (· == '/') ≠ [] := fun none => by
        have slash := List.rdropWhile_eq_nil_iff.mp none char List.mem_cons_self
        exact noSlash (by rw [beq_iff_eq.mp slash]; rfl)
      have head : ((char :: text).rdropWhile (· == '/')).head? ≠ some '/' := by
        rwa [head?_rdropWhile first]
      have read := read_plain named noFile foreign (fits_encoded names)
        (fun other member => kept other (mem_of_mem_rdropWhile member))
        (fun other member => inside other (mem_of_mem_rdropWhile member)) head first single.ne_nil
      rw [written, read]
      refine iff_of_true ⟨_, rfl, rfl, rfl, rfl, rfl, rfl, encoded names, rfl, stands_encoded names⟩
        ⟨rfl, rfl, fun _ _ none => (by cases none), ?_, fun _ some => absurd rfl some⟩
      rintro list ⟨⟩

/-! ### Files -/

theorem readHost_of_readFileHost {text : List Char} {again : Host} (special : kind.special = true)
    (some : text ≠ []) (read : readFileHost text = .ok again) (named : again ≠ .domain []) :
    readHost kind text = .ok again := by
  rcases map_eq_ok_iff.mp read with ⟨found, hostRead, kept⟩
  rw [List.isEmpty_eq_false_iff.mpr some, if_neg Bool.false_ne_true] at hostRead
  split at kept
  · exact absurd kept.symm named
  · rw [readHost, if_pos special, hostRead, kept]

/-- A host of files is read from its text if a domain name is its own ASCII form. -/
theorem readFileHost_write {host : Host} (special : kind.special = true) (fits : HostFits kind host)
    (foreign : host.write ≠ "localhost".toList)
    (own : ∀ name, host = .domain name → Domain.toAscii? name = some name) :
    readFileHost host.write = .ok host := by
  have read := readHost_write fits fun name _ => own name
  rw [readHost, if_pos special] at read
  rw [readFileHost, List.isEmpty_eq_false_iff.mpr (fits.write_ne_nil special),
    if_neg Bool.false_ne_true, read]
  refine congrArg Except.ok (if_neg ?_)
  rintro rfl
  exact foreign rfl

/-- The first segment below a base is the first one of the base, if it has any, and no drive
otherwise. -/
theorem noDrive_joined : (∀ segment ∈ (segments.rdropWhile List.isEmpty ++ encoded names).head?,
      isDriveLetter segment = false) ↔ ∀ segment ∈ segments.head?, isDriveLetter segment = false := by
  by_cases empty : segments.rdropWhile List.isEmpty = []
  · refine iff_of_true (fun segment member => ?_) (fun segment member => ?_)
    · rw [empty, List.nil_append] at member
      exact isDriveLetter_encoded names segment (List.mem_of_mem_head? member)
    · have blank := List.rdropWhile_eq_nil_iff.mp empty segment (List.mem_of_mem_head? member)
      rw [List.isEmpty_iff.mp blank]
      rfl
  · rw [List.head?_append_of_ne_nil _ empty, head?_rdropWhile empty]

/-- A walk that ends on no drive has begun with none. -/
theorem noDrive_of_along {all : List (List Char)} (isFile : kind.isFile = true)
    (fits : ∀ segment ∈ all, Fits kind segment)
    (ended : (Walk.along kind ⟨[], false⟩ all).onDrive = false) :
    ∀ segment ∈ all.head?, isDriveLetter segment = false := by
  intro segment member
  refine Bool.eq_false_iff.mpr fun drive => ?_
  rcases List.head?_eq_some_iff.mp member with ⟨rest, rfl⟩
  rw [Walk.onDrive_of_drive isFile rfl (fits segment List.mem_cons_self) drive] at ended
  cases ended

section Files

variable (named : SchemeFits scheme) (isFile : (schemeKind scheme).isFile = true)
  (path : PathFits (schemeKind scheme) segments) (trimmed : SingleSlash segments)
  (nonempty : names ≠ []) (single : SingleSlash (encoded names))

include named isFile path trimmed nonempty single in
/-- Below a file of no host. -/
theorem leads_local :
    let base : Url := ⟨scheme, [], [], some (.domain []), none, .segments segments, none, none⟩
    (∃ url, read (base.below names) = .ok url ∧ Leads base names url) ↔ Bears base names := by
  intro base
  have whole := whole_of_pathFits path
  have written : base.write = scheme ++ ':' :: ('/' :: '/' :: [] ++ segmentsText segments) := by
    simp [base, write, writeAuthority, writeCredentials, Host.write, UrlPath.write, segmentsText,
      writePart]
  have bears : Bears base names ↔ (∀ segment ∈ segments.rdropWhile List.isEmpty,
      isDot segment = false) ∧ ∀ name ∈ names, name ≠ "." ∧ name ≠ ".." := by
    rw [noDots_rdropWhile]
    constructor
    · exact fun bears => bears.noDots segments rfl
    · intro noDots
      refine ⟨rfl, rfl, fun name _ same some => ?_, ?_, fun _ some => absurd rfl some⟩
      · cases same
        exact absurd rfl some
      · rintro list ⟨⟩
        exact noDots
  have resolved : ∃ left, read (base.below names) =
      .ok ⟨scheme, [], [], some (.domain []), none, .segments left, none, none⟩ ∧
        Resolves (segments.rdropWhile List.isEmpty ++ encoded names) left := by
    by_cases empty : segments.rdropWhile List.isEmpty = []
    · have noDrive := fun segment member =>
        isDriveLetter_encoded names segment (List.mem_of_mem_head? member)
      rw [below_of_bare whole written rfl empty, empty, List.nil_append,
        read_file_rooted named isFile (fits_encoded names) single]
      exact ⟨_, rfl, resolves_trimmed (fits_encoded names) single noDrive⟩
    · rw [below_of_front whole written List.not_mem_nil (.inr empty), List.nil_append,
        read_file_local named isFile (fits_joined path names)]
      exact ⟨_, rfl, resolves_local (fits_joined path names) (single.append trimmed.rdropWhile)⟩
  rcases resolved with ⟨left, read, resolves⟩
  have leadsIff := @leads_iff base names [] [] (some (.domain [])) _ left nonempty
    (trimmedPath_segments path) (whole_rdropWhile path) resolves
  rw [bears, read]
  constructor
  · rintro ⟨url, ⟨⟩, leads⟩
    exact (leadsIff.mp leads).2
  · exact fun noDots => ⟨_, rfl, leadsIff.mpr ⟨rfl, noDots⟩⟩

include named isFile path trimmed nonempty single in
/-- Below a file of a named host. -/
theorem leads_remote (fits : HostFits (schemeKind scheme) host)
    (foreign : host.write ≠ "localhost".toList) :
    let base : Url := ⟨scheme, [], [], some host, none, .segments segments, none, none⟩
    (∃ url, read (base.below names) = .ok url ∧ Leads base names url) ↔ Bears base names := by
  intro base
  have special := special_of_isFile isFile
  have some' := fits.write_ne_nil special
  have noSlash : '/' ∉ host.write := fun member => by
    have inside := (fits.inside '/' member).2.1
    simp [endsAuthority] at inside
  have written : base.write = scheme ++ ':' :: ('/' :: '/' :: host.write ++
      segmentsText segments) := by
    simp [base, write, writeAuthority, writeCredentials, UrlPath.write, segmentsText, writePart]
  have all := fits_joined path names
  have joined := single.append trimmed.rdropWhile
  have finished := fun again => finishFile_slashed all scheme again joined.ne_nil
  have leadsIff := fun place undriven => @leads_iff base names [] [] (some place) _ _ nonempty
    (trimmedPath_segments path) (whole_rdropWhile path) (resolves_trimmed all joined undriven)
  rw [below_of_front (whole_of_pathFits path) written noSlash (.inl some'),
    read_file_host named isFile all fits joined.ne_nil]
  constructor
  · rintro ⟨url, read, leads⟩
    rcases bind_eq_ok_iff.mp read with ⟨again, hostRead, made⟩
    cases made
    have other : again ≠ .domain [] := by
      rintro rfl
      rw [bne_self_eq_false, finishFile_local all] at leads
      exact some' leads.place.symm
    rw [bne_iff_ne.mpr other, finished] at leads
    -- The place is the host's, so that no drive has been walked along.
    have ended : (Walk.along (schemeKind scheme) ⟨[], false⟩
        (segments.rdropWhile List.isEmpty ++ encoded names)).onDrive = false := by
      refine Bool.eq_false_iff.mpr fun onDrive => ?_
      rw [onDrive] at leads
      exact some' leads.place.symm
    rw [ended] at leads
    have undriven := noDrive_of_along isFile all ended
    have found := (leadsIff _ undriven).mp leads
    refine ⟨rfl, rfl, fun name _ domain _ => ?_, ?_, ?_⟩
    · obtain rfl : host = .domain name := Option.some.inj domain
      exact own_of_readHost fits special (readHost_of_readFileHost special some' hostRead other)
        found.1
    · rintro list ⟨⟩
      exact ⟨noDots_rdropWhile.mp found.2.1, found.2.2⟩
    · rintro _ _ list ⟨⟩
      exact noDrive_joined.mp undriven
  · intro bears
    have undriven := (@noDrive_joined segments names).mpr
      (bears.noDrive isFile some' segments rfl)
    have noDots := bears.noDots segments rfl
    have kept := noDots_rdropWhile.mpr noDots.1
    have walk := walked_of_fits all
      (List.forall_mem_append.mpr ⟨kept, isDot_encoded.mpr noDots.2⟩) fun _ => undriven
    have hostRead := readFileHost_write special fits foreign fun name same =>
      bears.ownName name special (congrArg some same)
        fun empty => some' (by rw [same, empty]; rfl)
    have slashed : (host != .domain []) = true := bne_iff_ne.mpr fun same => some' (by rw [same]; rfl)
    refine ⟨_, by rw [hostRead]; rfl, ?_⟩
    rw [slashed, finished, walk]
    exact (leadsIff host undriven).mpr ⟨rfl, kept, noDots.2⟩

end Files

/-! ### All forms -/

/-- An address below a URL leads where it says if and only if the URL bears it. -/
theorem leads_below_iff {base : Url} (form : Form base) {names : List String} (nonempty : names ≠ [])
    (single : SingleSlash (encoded names)) :
    (∃ url, read (base.below names) = .ok url ∧ Leads base names url) ↔ Bears base names := by
  by_cases unmarked : base.query = none ∧ base.fragment = none
  · rcases unmarked with ⟨noQuery, noFragment⟩
    cases form with
    | hierarchical named noFile authority path =>
        obtain rfl := noQuery
        obtain rfl := noFragment
        exact leads_hierarchical named noFile authority path nonempty single
    | rooted named noFile foreign path =>
        obtain rfl := noQuery
        obtain rfl := noFragment
        exact leads_rooted named noFile foreign path nonempty single
    | plain named noFile foreign kept inside noSlash =>
        obtain rfl := noQuery
        obtain rfl := noFragment
        exact leads_plain named noFile foreign kept inside noSlash nonempty single
    | file named isFile place foreign path trimmed =>
        obtain rfl := noQuery
        obtain rfl := noFragment
        rcases place with rfl | fits
        · exact leads_local named isFile path trimmed nonempty single
        · exact leads_remote named isFile path trimmed nonempty single fits foreign
  · refine iff_of_false ?_ fun bears => unmarked ⟨bears.noQuery, bears.noFragment⟩
    rintro ⟨url, read, leads⟩
    exact unmarked (unmarked_of_leads read leads)

theorem Form.noDots {base : Url} (form : Form base)
    (noFile : (schemeKind base.scheme).isFile = false) :
    ∀ segments ∈ base.segments?, ∀ segment ∈ segments, isDot segment = false := by
  cases form with
  | hierarchical _ _ _ path =>
      rintro _ ⟨⟩
      exact path.noDots noFile
  | rooted _ _ _ path =>
      rintro _ ⟨⟩
      exact path.noDots noFile
  | @plain _ text =>
      cases text with
      | nil =>
          rintro _ ⟨⟩
          exact fun _ none => absurd none List.not_mem_nil
      | cons char text => exact fun _ none => (by cases none)
  | file _ isFile =>
      rw [isFile] at noFile
      cases noFile

/-- A URL that is no file and written in ASCII without escapes bears all names but dots, if it has
neither query nor fragment. -/
theorem bears_iff_of_literal {text : String} {base : Url} (literal : Literal text.toList)
    (found : read text = .ok base) (noFile : (schemeKind base.scheme).isFile = false)
    {names : List String} :
    Bears base names ↔ base.query = none ∧ base.fragment = none ∧
      (base.segments? ≠ none → ∀ name ∈ names, name ≠ "." ∧ name ≠ "..") := by
  constructor
  · intro bears
    refine ⟨bears.noQuery, bears.noFragment, fun some => ?_⟩
    rcases Option.ne_none_iff_exists'.mp some with ⟨segments, same⟩
    exact (bears.noDots segments same).2
  · rintro ⟨noQuery, noFragment, noDot⟩
    refine ⟨noQuery, noFragment, fun name special same => ?_, fun segments same => ?_, ?_⟩
    · exact ownName_of_read literal found special _ same name rfl
    · have walked := (form_of_read found).noDots noFile segments same
      exact ⟨walked, noDot (Option.ne_none_iff_exists'.mpr ⟨segments, same⟩)⟩
    · intro isFile
      rw [noFile] at isFile
      cases isFile

end StrongAuth.Url
