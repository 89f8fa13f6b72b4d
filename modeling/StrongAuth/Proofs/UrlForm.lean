import StrongAuth.Proofs.Hosts
import StrongAuth.Proofs.Outcome

/-! # The form of a URL

Main statement: what is read as a URL is of one of four forms, each of which says what the parts
of the URL are made of. -/

namespace StrongAuth.Url

open Percent

/-! ## Reading in parts -/

def trim (chars : List Char) : List Char :=
  ((chars.dropWhile fun char => char.toNat ≤ 32).reverse.dropWhile fun char =>
    char.toNat ≤ 32).reverse

/-- Reads a URL of a known scheme. The rest is what stands behind the scheme without breaks,
`broken` what stands there with them. -/
def readBehind (scheme rest broken : List Char) : Except UrlFault Url :=
  let kind := schemeKind scheme
  if kind.isFile then readFile kind scheme broken
  else if kind.special then readHierarchical kind scheme (rest.dropWhile (isSlash kind))
  else
    match rest with
    | '/' :: '/' :: rest => readHierarchical kind scheme rest
    | '/' :: rest => .ok (assemble kind scheme [] [] none none (readPath kind) ('/' :: rest))
    | rest => .ok (assemble kind scheme [] [] none none
        (fun chars => .plain (encodeChars keptInPlain chars)) rest)

theorem read_eq (text : String) : read text =
    match readScheme (unbroken (trim text.toList)) with
    | none => .error .relative
    | some (scheme, rest) =>
        readBehind scheme rest (behind (scheme.length + 1) (trim text.toList)) := by
  rw [read]
  dsimp only
  rw [← trim]
  cases readScheme (unbroken (trim text.toList)) with
  | none => rfl
  | some parts => rfl

/-! ## Schemes -/

def isSchemeChar (char : Char) : Bool :=
  char.isAlphanum || char == '+' || char == '-' || char == '.'

/-- A scheme that is read: a letter first, all letters small. -/
structure SchemeFits (scheme : List Char) : Prop where
  letter : ∃ first rest, scheme = first :: rest ∧ first.isAlpha = true
  chars : ∀ char ∈ scheme, isSchemeChar char = true
  small : ∀ char ∈ scheme, char.toLower = char

theorem isSchemeChar_ascii {char : Char} (member : isSchemeChar char = true) :
    char.toNat < 128 := by
  simp only [isSchemeChar, Bool.or_eq_true, beq_iff_eq] at member
  rcases member with ((alphanum | rfl) | rfl) | rfl
  · exact isAlphanum_ascii alphanum
  · decide
  · decide
  · decide

theorem isSchemeChar_toLower {char : Char} (member : isSchemeChar char = true) :
    isSchemeChar char.toLower = true ∧ char.toLower.toLower = char.toLower ∧
      (char.isAlpha = true → char.toLower.isAlpha = true) := by
  have table : ∀ code < 128, isSchemeChar (Char.ofNat code) = true →
      isSchemeChar (Char.ofNat code).toLower = true ∧
        (Char.ofNat code).toLower.toLower = (Char.ofNat code).toLower ∧
        ((Char.ofNat code).isAlpha = true → (Char.ofNat code).toLower.isAlpha = true) := by decide
  exact @of_ascii (fun char => isSchemeChar char = true → isSchemeChar char.toLower = true ∧
    char.toLower.toLower = char.toLower ∧ (char.isAlpha = true → char.toLower.isAlpha = true))
    table char (isSchemeChar_ascii member) member

theorem readScheme_eq (chars : List Char) : readScheme chars =
    match (chars.takeWhile isSchemeChar).head?,
      chars.drop (chars.takeWhile isSchemeChar).length with
    | some first, ':' :: rest =>
        if first.isAlpha then some ((chars.takeWhile isSchemeChar).map Char.toLower, rest)
        else none
    | _, _ => none := rfl

theorem readScheme_eq_some {chars scheme rest : List Char}
    (read : readScheme chars = some (scheme, rest)) : ∃ first more,
      chars = first :: more ++ ':' :: rest ∧ scheme = (first :: more).map Char.toLower ∧
        first.isAlpha = true ∧ ∀ char ∈ first :: more, isSchemeChar char = true := by
  have all : ∀ char ∈ chars.takeWhile isSchemeChar, isSchemeChar char = true :=
    fun _ => List.mem_takeWhile_imp
  have front : chars.takeWhile isSchemeChar =
      chars.take (chars.takeWhile isSchemeChar).length :=
    List.prefix_iff_eq_take.mp (List.takeWhile_prefix _)
  rw [readScheme_eq] at read
  split at read
  · next first behind head back =>
      split at read
      · next letter =>
          cases read
          cases taken : chars.takeWhile isSchemeChar with
          | nil =>
              rw [taken] at head
              cases head
          | cons char more =>
              rw [taken] at head all front back
              obtain rfl : char = first := Option.some.inj head
              refine ⟨char, more, ?_, rfl, letter, all⟩
              rw [front, ← back, List.take_append_drop]
      · cases read
  · cases read

theorem schemeFits_of_readScheme {chars scheme rest : List Char}
    (read : readScheme chars = some (scheme, rest)) : SchemeFits scheme := by
  rcases readScheme_eq_some read with ⟨first, more, _, rfl, letter, chars⟩
  have lowered := fun char member => isSchemeChar_toLower (chars char member)
  refine ⟨⟨first.toLower, more.map Char.toLower, rfl,
    (lowered first List.mem_cons_self).2.2 letter⟩, ?_, ?_⟩
  · exact List.forall_mem_map.mpr fun char member => (lowered char member).1
  · exact List.forall_mem_map.mpr fun char member => (lowered char member).2.1

theorem readScheme_append {scheme : List Char} (fits : SchemeFits scheme) (rest : List Char) :
    readScheme (scheme ++ ':' :: rest) = some (scheme, rest) := by
  have ends : ∀ char ∈ (':' :: rest).head?, isSchemeChar char = false := by
    rintro char ⟨⟩
    decide
  have taken := takeWhile_append_of_stop fits.chars ends
  have left : (scheme ++ ':' :: rest).drop scheme.length = ':' :: rest := by rw [List.drop_left]
  have small : scheme.map Char.toLower = scheme := by
    rw [List.map_congr_left fits.small, List.map_id']
  rcases fits.letter with ⟨first, more, rfl, letter⟩
  rw [readScheme_eq, taken, left, List.head?_cons, small]
  exact if_pos letter

/-! ## Paths -/

variable {kind : SchemeKind}

/-- The segments of a path that is read. -/
structure PathFits (kind : SchemeKind) (segments : List (List Char)) : Prop where
  fits : ∀ segment ∈ segments, Fits kind segment
  noDots : kind.isFile = false → ∀ segment ∈ segments, isDot segment = false

theorem pathFits_walkText (kind : SchemeKind) (chars : List Char) :
    PathFits kind (walkText kind chars).before.reverse where
  fits := fun segment member => Walk.fits_along (fun _ none => absurd none List.not_mem_nil)
    (fun _ listed char within => (of_mem_splitOnP listed char within).2) segment
    (List.mem_reverse.mp member)
  noDots := fun noFile segment member => Walk.noDots_along noFile
    (fun _ none => absurd none List.not_mem_nil) segment (List.mem_reverse.mp member)

theorem readPath_fits (kind : SchemeKind) (chars : List Char) :
    ∃ segments, readPath kind chars = .segments segments ∧ PathFits kind segments := by
  cases chars with
  | nil =>
      refine ⟨_, rfl, ?_⟩
      split
      · exact ⟨List.forall_mem_singleton.mpr .nil, fun _ => List.forall_mem_singleton.mpr (by decide)⟩
      · exact ⟨fun _ none => absurd none List.not_mem_nil,
          fun _ _ none => absurd none List.not_mem_nil⟩
  | cons first rest => exact ⟨_, rfl, pathFits_walkText kind _⟩

theorem PathFits.trimSegments {segments : List (List Char)} (path : PathFits kind segments) :
    PathFits kind (trimSegments segments) where
  fits := fun segment member => by
    rcases mem_of_mem_trimSegments member with rfl | listed
    · exact .nil
    · exact path.fits segment listed
  noDots := fun noFile segment member => by
    rcases mem_of_mem_trimSegments member with rfl | listed
    · decide
    · exact path.noDots noFile segment listed

/-! ## Authorities -/

/-- User and password in front of a host, and a port behind it. -/
structure AuthorityFits (kind : SchemeKind) (user password : List Char) (host : Host)
    (port : Option Nat) : Prop where
  userKept : ∀ char ∈ user, keptInCredentials char = true
  passwordKept : ∀ char ∈ password, keptInCredentials char = true
  hostFits : HostFits kind host
  portFits : ∀ number ∈ port, number ≤ 65535 ∧ some number ≠ kind.port
  /-- Nothing stands around an empty host. -/
  bare : host = .domain [] → user = [] ∧ password = [] ∧ port = none

theorem kept_of_readCredentials {chars user password rest : List Char}
    (read : readCredentials kind chars = .ok (user, password, rest)) :
    (∀ char ∈ user, keptInCredentials char = true) ∧
      ∀ char ∈ password, keptInCredentials char = true := by
  have empty : ∀ char ∈ ([] : List Char), keptInCredentials char = true :=
    fun _ member => absurd member List.not_mem_nil
  have encoded := @kept_encodeChars keptInCredentials (by decide) (by decide)
  rw [readCredentials] at read
  split at read
  · cases read
    exact ⟨empty, empty⟩
  · dsimp only at read
    split at read
    · split at read
      · split at read
        · cases read
        · cases read
          exact ⟨empty, empty⟩
      · cases read
        exact ⟨empty, empty⟩
    · cases read
      exact ⟨encoded _, encoded _⟩

def endsPort : List Char → Bool
  | [] => true
  | char :: _ => char == '/' || char == '\\' || char == '?' || char == '#'

theorem readPort_eq (usual : Option Nat) (chars : List Char) : readPort usual chars =
    let numeral := chars.takeWhile Decimal.isDigit
    let rest := chars.drop numeral.length
    let port := Decimal.value numeral
    if 65535 < port then .error .invalidPort
    else if !endsPort rest then .error .invalidPort
    else .ok (if numeral.isEmpty || some port == usual then none else some port, rest) := rfl

theorem port_of_readPort {usual : Option Nat} {chars rest : List Char} {port : Option Nat}
    (read : readPort usual chars = .ok (port, rest)) :
    ∀ number ∈ port, number ≤ 65535 ∧ some number ≠ usual := by
  rw [readPort_eq] at read
  dsimp only at read
  split at read
  · cases read
  · next small =>
      split at read
      · cases read
      · cases read
        intro number member
        split at member
        · cases member
        · next other =>
            cases member
            rw [Bool.or_eq_true, not_or, beq_iff_eq] at other
            exact ⟨Nat.le_of_not_lt small, other.2⟩

def readPortBehind (kind : SchemeKind) (host : Host) :
    List Char → Except UrlFault (Host × Option Nat × List Char)
  | ':' :: rest =>
      if host = .domain [] then .error .emptyHost
      else (readPort kind.port rest).map fun read => (host, read.1, read.2)
  | rest => .ok (host, none, rest)

theorem readHostPort_eq (kind : SchemeKind) (chars : List Char) : readHostPort kind chars =
    let hostChars := chars.take (hostLength kind false chars)
    if kind.special && hostChars.isEmpty then .error .emptyHost
    else readHost kind hostChars >>= fun host =>
      readPortBehind kind host (chars.drop hostChars.length) := by
  unfold readHostPort
  dsimp only
  split
  · rfl
  · rw [readHost]
    -- Web schemes and others differ in how they read a host, not in what follows.
    split
    all_goals
      refine bind_congr fun host => ?_
      split
      · next rest behind =>
          rw [behind, readPortBehind]
          split
          · rfl
          · cases readPort kind.port rest <;> rfl
      · next rest other =>
          rw [readPortBehind]
          · rfl
          · exact other

theorem of_readHostPort {chars rest : List Char} {host : Host} {port : Option Nat}
    (read : readHostPort kind chars = .ok (host, port, rest)) :
    HostFits kind host ∧ (∀ number ∈ port, number ≤ 65535 ∧ some number ≠ kind.port) ∧
      (host = .domain [] → port = none) := by
  rw [readHostPort_eq] at read
  dsimp only at read
  split at read
  · cases read
  · rcases bind_eq_ok_iff.mp read with ⟨found, hostRead, read⟩
    have fits := fits_of_readHost hostRead
    unfold readPortBehind at read
    split at read
    · split at read
      · cases read
      · next named =>
          rcases map_eq_ok_iff.mp read with ⟨⟨number, behind⟩, portRead, made⟩
          cases made
          exact ⟨fits, port_of_readPort portRead, fun empty => absurd empty named⟩
    · cases read
      exact ⟨fits, fun _ none => (by cases none), fun _ => rfl⟩

theorem readHierarchical_eq (kind : SchemeKind) (scheme chars : List Char) :
    readHierarchical kind scheme chars = readCredentials kind chars >>= fun credentials =>
      readHostPort kind credentials.2.2 >>= fun place =>
        if place.1 = .domain [] ∧ ¬ (credentials.1 = [] ∧ credentials.2.1 = []) then
          .error .emptyHost
        else .ok (assemble kind scheme credentials.1 credentials.2.1 (some place.1) place.2.1
          (readPath kind) place.2.2) := by
  unfold readHierarchical
  refine bind_congr fun ⟨user, password, chars⟩ => bind_congr fun ⟨host, port, rest⟩ => ?_
  simp only [Bool.and_eq_true, decide_eq_true_eq, Bool.not_eq_true', Bool.and_eq_false_iff,
    List.isEmpty_eq_false_iff, not_and_or, ← ne_eq]
  split
  · rfl
  · rfl

/-! ## Files -/

def readFileHost (hostChars : List Char) : Except UrlFault Host :=
  (if hostChars.isEmpty then .ok (.domain []) else readDomain hostChars).map fun host =>
    if host = .domain "localhost".toList then .domain [] else host

theorem readFile_eq (kind : SchemeKind) (scheme chars : List Char) : readFile kind scheme chars =
    match unbroken chars with
    | first :: second :: rest =>
        if isSlash kind first && isSlash kind second then
          let hostChars := rest.takeWhile fun char => !endsAuthority kind char
          if isDriveLetter hostChars then
            .ok (finishFile kind scheme (.domain []) false (behind 2 chars))
          else readFileHost hostChars >>= fun host =>
            .ok (finishFile kind scheme host
              (host != .domain [] && (rest.drop hostChars.length).head?.any (isSlash kind))
              (behind (2 + hostChars.length) chars))
        else .ok (finishFile kind scheme (.domain []) (isSlash kind first) chars)
    | [first] => .ok (finishFile kind scheme (.domain []) (isSlash kind first) chars)
    | [] => .ok (finishFile kind scheme (.domain []) false []) := by
  unfold readFile
  rcases unbroken chars with _ | ⟨first, _ | ⟨second, rest⟩⟩
  · rfl
  · rfl
  · dsimp only
    split
    · split
      · rfl
      · rw [readFileHost]
        split
        · rfl
        · cases readDomain (rest.takeWhile fun char => !endsAuthority kind char) <;> rfl
    · rfl

/-! ## Whole URLs -/

/-- The forms of a URL. -/
inductive Form : Url → Prop
  /-- A place behind two slashes. -/
  | hierarchical {scheme user password : List Char} {host : Host} {port : Option Nat}
      {segments : List (List Char)} {query fragment : Option (List Char)}
      (named : SchemeFits scheme) (noFile : (schemeKind scheme).isFile = false)
      (authority : AuthorityFits (schemeKind scheme) user password host port)
      (path : PathFits (schemeKind scheme) segments) :
      Form ⟨scheme, user, password, some host, port, .segments segments, query, fragment⟩
  /-- A path without a place. -/
  | rooted {scheme : List Char} {segments : List (List Char)} {query fragment : Option (List Char)}
      (named : SchemeFits scheme) (noFile : (schemeKind scheme).isFile = false)
      (foreign : (schemeKind scheme).special = false)
      (path : PathFits (schemeKind scheme) segments) :
      Form ⟨scheme, [], [], none, none, .segments segments, query, fragment⟩
  /-- Text without structure. -/
  | plain {scheme text : List Char} {query fragment : Option (List Char)}
      (named : SchemeFits scheme) (noFile : (schemeKind scheme).isFile = false)
      (foreign : (schemeKind scheme).special = false)
      (kept : ∀ char ∈ text, keptInPlain char = true)
      (inside : ∀ char ∈ text, char ≠ '?' ∧ char ≠ '#') (noSlash : text.head? ≠ some '/') :
      Form ⟨scheme, [], [], none, none, .plain text, query, fragment⟩
  /-- A file, of which the local host has no name. -/
  | file {scheme : List Char} {host : Host} {segments : List (List Char)}
      {query fragment : Option (List Char)} (named : SchemeFits scheme)
      (isFile : (schemeKind scheme).isFile = true)
      (place : host = .domain [] ∨ HostFits (schemeKind scheme) host)
      (foreign : host.write ≠ "localhost".toList)
      (path : PathFits (schemeKind scheme) segments)
      (trimmed : segments = [[]] ∨ ∃ first rest, segments = first :: rest ∧ first ≠ []) :
      Form ⟨scheme, [], [], some host, none, .segments segments, query, fragment⟩

theorem form_of_readHierarchical {scheme chars : List Char} {url : Url}
    (named : SchemeFits scheme) (noFile : (schemeKind scheme).isFile = false)
    (read : readHierarchical (schemeKind scheme) scheme chars = .ok url) : Form url := by
  rw [readHierarchical_eq] at read
  rcases bind_eq_ok_iff.mp read with ⟨⟨user, password, rest⟩, credentials, read⟩
  rcases bind_eq_ok_iff.mp read with ⟨⟨host, port, behind⟩, place, read⟩
  dsimp only at read
  split at read
  · cases read
  · next open' =>
      cases read
      rcases kept_of_readCredentials credentials with ⟨userKept, passwordKept⟩
      rcases of_readHostPort place with ⟨hostFits, portFits, noPort⟩
      rcases readPath_fits (schemeKind scheme) (beforeQuery behind) with ⟨segments, path, fits⟩
      rw [assemble, path]
      refine .hierarchical named noFile ⟨userKept, passwordKept, hostFits, portFits, ?_⟩ fits
      intro empty
      have both := not_not.mp (not_and.mp open' empty)
      exact ⟨both.1, both.2, noPort empty⟩

theorem form_finishFile {scheme chars : List Char} {host : Host} (slashed : Bool)
    (named : SchemeFits scheme) (isFile : (schemeKind scheme).isFile = true)
    (place : host = .domain [] ∨ HostFits (schemeKind scheme) host)
    (foreign : host.write ≠ "localhost".toList) :
    Form (finishFile (schemeKind scheme) scheme host slashed chars) := by
  have kept : ∀ onDrive : Bool, (if onDrive then Host.domain [] else host) = .domain [] ∨
      HostFits (schemeKind scheme) (if onDrive then Host.domain [] else host) := fun onDrive => by
    split
    · exact .inl rfl
    · exact place
  have named' : ∀ onDrive : Bool, (if onDrive then Host.domain [] else host).write ≠
      "localhost".toList := fun onDrive => by
    split
    · decide
    · exact foreign
  rw [finishFile]
  exact .file named isFile (kept _) (named' _) (pathFits_walkText _ _).trimSegments
    (trimSegments_cases _)

theorem write_ne_localhost {host : Host} (fits : HostFits kind host)
    (other : host ≠ .domain "localhost".toList) : host.write ≠ "localhost".toList := by
  intro same
  cases host with
  | domain name => exact other (congrArg Host.domain same)
  | ipv4 address =>
      have first : 'l' ∈ (Host.ipv4 address).write := by
        rw [same]
        decide
      rcases digits_of_mem_ipv4 first with digit | dot
      · exact absurd digit (by decide)
      · cases dot
  | ipv6 pieces => cases same

theorem place_of_readFileHost {hostChars : List Char} {host : Host} (special : kind.special = true)
    (read : readFileHost hostChars = .ok host) :
    (host = .domain [] ∨ HostFits kind host) ∧ host.write ≠ "localhost".toList := by
  rcases map_eq_ok_iff.mp read with ⟨found, hostRead, rfl⟩
  split
  · exact ⟨.inl rfl, by decide⟩
  · next other =>
      split at hostRead
      · cases hostRead
        exact ⟨.inl rfl, by decide⟩
      · have fits : HostFits kind found :=
          @fits_of_readHost kind hostChars found (by rw [readHost, if_pos special, hostRead])
        exact ⟨.inr fits, write_ne_localhost fits other⟩

theorem special_of_isFile {scheme : List Char} (isFile : (schemeKind scheme).isFile = true) :
    (schemeKind scheme).special = true := by
  rw [schemeKind] at isFile ⊢
  split
  · rfl
  · next unknown =>
      rw [unknown] at isFile
      cases isFile

theorem form_of_readFile {scheme chars : List Char} {url : Url} (named : SchemeFits scheme)
    (isFile : (schemeKind scheme).isFile = true)
    (read : readFile (schemeKind scheme) scheme chars = .ok url) : Form url := by
  have localFile : ∀ slashed chars,
      Form (finishFile (schemeKind scheme) scheme (.domain []) slashed chars) :=
    fun slashed _ => form_finishFile slashed named isFile (.inl rfl) (by decide)
  rw [readFile_eq] at read
  split at read
  · split at read
    · dsimp only at read
      split at read
      · cases read
        exact localFile _ _
      · rcases bind_eq_ok_iff.mp read with ⟨host, hostRead, made⟩
        cases made
        rcases place_of_readFileHost (special_of_isFile isFile) hostRead with ⟨place, foreign⟩
        exact form_finishFile _ named isFile place foreign
    · cases read
      exact localFile _ _
  · cases read
    exact localFile _ _
  · cases read
    exact localFile _ _

theorem form_of_plain {scheme chars : List Char} (named : SchemeFits scheme)
    (noFile : (schemeKind scheme).isFile = false) (foreign : (schemeKind scheme).special = false)
    (noSlash : ∀ rest, chars ≠ '/' :: rest) :
    Form (assemble (schemeKind scheme) scheme [] [] none none
      (fun chars => .plain (encodeChars keptInPlain chars)) chars) := by
  have parted : ∀ char ∈ beforeQuery chars, char ≠ '?' ∧ char ≠ '#' := fun char member => by
    have inside := List.mem_takeWhile_imp member
    simpa using inside
  have marks : ∀ digit < 16, Hexadecimal.upperDigit digit ≠ '?' ∧
      Hexadecimal.upperDigit digit ≠ '#' := by decide
  refine .plain named noFile foreign (kept_encodeChars (by decide) (by decide) _)
    (forall_encodeChars (fun char member _ => parted char member) (by decide) marks) ?_
  intro first
  rcases List.head?_eq_some_iff.mp first with ⟨rest, written⟩
  rcases eq_cons_of_encodeChars (by decide) (by decide) written with ⟨more, source, _⟩
  cases chars with
  | nil => cases source
  | cons char chars =>
      rw [beforeQuery, List.takeWhile_cons] at source
      split at source
      · exact noSlash chars (by rw [(List.cons.inj source).1])
      · cases source

/-- Whatever is read as a URL is of one of the four forms. -/
theorem form_of_read {text : String} {url : Url} (found : read text = .ok url) : Form url := by
  rw [read_eq] at found
  split at found
  · cases found
  · next scheme rest readScheme =>
      have named := schemeFits_of_readScheme readScheme
      unfold readBehind at found
      dsimp only at found
      split at found
      · next isFile => exact form_of_readFile named isFile found
      · next noFile =>
          have noFile := Bool.eq_false_iff.mpr noFile
          split at found
          · exact form_of_readHierarchical named noFile found
          · next foreign =>
              have foreign := Bool.eq_false_iff.mpr foreign
              split at found
              · exact form_of_readHierarchical named noFile found
              · next rest _ =>
                  cases found
                  rcases readPath_fits (schemeKind scheme) (beforeQuery ('/' :: rest)) with
                    ⟨segments, path, fits⟩
                  rw [assemble, path]
                  exact .rooted named noFile foreign fits
              · next noSlash =>
                  cases found
                  exact form_of_plain named noFile foreign noSlash

end StrongAuth.Url
