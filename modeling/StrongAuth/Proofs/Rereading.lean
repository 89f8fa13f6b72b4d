import StrongAuth.Proofs.UrlForm

/-! # Reading a URL again

Main statements: a URL that is written from parts that were read is read as these parts, but for
its host, which is read by itself, and its path, which is walked along again. -/

namespace StrongAuth.Url

open Percent

variable {kind : SchemeKind}

/-! ## Authorities -/

def credentialsText (user password : List Char) : List Char :=
  if user.isEmpty && password.isEmpty then []
  else user ++ (if password.isEmpty then [] else ':' :: password) ++ ['@']

def portText : Option Nat → List Char
  | some port => ':' :: Decimal.digits port
  | none => []

theorem inside_of_keptInCredentials {char : Char} (kept : keptInCredentials char = true) :
    char ≠ '@' ∧ char ≠ ':' ∧ endsAuthority kind char = false := by
  have table : ∀ code < 128, keptInCredentials (Char.ofNat code) = true →
      Char.ofNat code ≠ '@' ∧ Char.ofNat code ≠ ':' ∧ Char.ofNat code ≠ '/' ∧
        Char.ofNat code ≠ '?' ∧ Char.ofNat code ≠ '#' ∧ Char.ofNat code ≠ '\\' := by decide
  rcases @of_ascii (fun char => keptInCredentials char = true → char ≠ '@' ∧ char ≠ ':' ∧
    char ≠ '/' ∧ char ≠ '?' ∧ char ≠ '#' ∧ char ≠ '\\') table char
    (Nat.lt_succ_of_lt (keeps_ascii kept).2) kept with ⟨noAt, noColon, slash, question, hash, back⟩
  exact ⟨noAt, noColon, endsAuthority_of_ne slash question hash back⟩

theorem bare_of_isDigit {char : Char} (digit : Decimal.isDigit char = true) : Bare kind char :=
  bare_of_isHex (.inl (isHex_of_isDigit digit))

theorem inside_portText (port : Option Nat) :
    ∀ char ∈ portText port, char ≠ '@' ∧ endsAuthority kind char = false := by
  cases port with
  | none => exact fun _ none => absurd none List.not_mem_nil
  | some number =>
      refine List.forall_mem_cons.mpr ⟨⟨by decide, by simp [endsAuthority]⟩, fun char member => ?_⟩
      have bare : Bare kind char := bare_of_isDigit (Decimal.isDigit_of_mem_digits number char member)
      exact ⟨bare.noAt, bare.inside⟩

def EndsAuthority (kind : SchemeKind) (rest : List Char) : Prop :=
  ∀ char ∈ rest.head?, endsAuthority kind char = true

/-- What stands in front of the at sign is parted at its first colon. -/
theorem parts_of_credentials {user password : List Char}
    (noColon : ∀ char ∈ user, char ≠ ':') :
    let credentials := user ++ (if password.isEmpty then [] else ':' :: password)
    credentials.takeWhile (· != ':') = user ∧ credentials.drop (user.length + 1) = password := by
  have all : ∀ char ∈ user, (char != ':') = true := fun char member =>
    bne_iff_ne.mpr (noColon char member)
  dsimp only
  cases password with
  | nil =>
      rw [List.isEmpty_nil, if_pos rfl, List.append_nil]
      exact ⟨List.takeWhile_eq_self_iff.mpr all,
        List.drop_eq_nil_of_le (Nat.le_succ user.length)⟩
  | cons first password =>
      rw [List.isEmpty_cons, if_neg Bool.false_ne_true]
      refine ⟨takeWhile_append_of_stop all (by rintro char ⟨⟩; rfl), ?_⟩
      rw [← List.drop_drop, List.drop_left]
      rfl

section Authority

variable {user password : List Char} {host : Host} {port : Option Nat}
  (fits : AuthorityFits kind user password host port) {rest : List Char}
  (ends : EndsAuthority kind rest)

include fits in
theorem inside_credentials : ∀ char ∈ user ++ (if password.isEmpty then [] else ':' :: password),
    char ≠ '@' ∧ endsAuthority kind char = false := by
  have kept : ∀ {part : List Char}, (∀ char ∈ part, keptInCredentials char = true) →
      ∀ char ∈ part, char ≠ '@' ∧ endsAuthority kind char = false := fun kept char member =>
    ⟨(@inside_of_keptInCredentials kind char (kept char member)).1,
      (inside_of_keptInCredentials (kept char member)).2.2⟩
  refine List.forall_mem_append.mpr ⟨kept fits.userKept, ?_⟩
  split
  · exact fun _ none => absurd none List.not_mem_nil
  · exact List.forall_mem_cons.mpr ⟨⟨by decide, by simp [endsAuthority]⟩, kept fits.passwordKept⟩

include fits in
theorem inside_place : ∀ char ∈ host.write ++ portText port,
    char ≠ '@' ∧ endsAuthority kind char = false :=
  List.forall_mem_append.mpr ⟨fun char member => ⟨(fits.hostFits.inside char member).1,
    (fits.hostFits.inside char member).2.1⟩, inside_portText port⟩

include fits in
theorem inside_front : ∀ char ∈ credentialsText user password ++ (host.write ++ portText port),
    endsAuthority kind char = false := by
  refine List.forall_mem_append.mpr ⟨?_, fun char member => (inside_place fits char member).2⟩
  rw [credentialsText]
  split
  · exact fun _ none => absurd none List.not_mem_nil
  · exact List.forall_mem_append.mpr ⟨fun char member => (inside_credentials fits char member).2,
      List.forall_mem_singleton.mpr (by simp [endsAuthority])⟩

include ends in
theorem readCredentials_parted {credentials place : List Char} (nonempty : credentials ≠ [])
    (before : ∀ char ∈ credentials, endsAuthority kind char = false)
    (behind : ∀ char ∈ place, char ≠ '@' ∧ endsAuthority kind char = false) :
    readCredentials kind (credentials ++ ['@'] ++ place ++ rest) =
      .ok (encodeChars keptInCredentials (credentials.takeWhile (· != ':')),
        encodeChars keptInCredentials
          (credentials.drop ((credentials.takeWhile (· != ':')).length + 1)), place ++ rest) := by
  have stop : ∀ char ∈ rest.head?, (!endsAuthority kind char) = false := fun char member =>
    (Bool.not_eq_false' _).mpr (ends char member)
  have inside : ∀ char ∈ credentials ++ '@' :: place, (!endsAuthority kind char) = true :=
    List.forall_mem_append.mpr ⟨fun char member => (Bool.not_eq_true' _).mpr (before char member),
      List.forall_mem_cons.mpr ⟨by simp [endsAuthority], fun char member =>
        (Bool.not_eq_true' _).mpr (behind char member).2⟩⟩
  have noAt : ∀ char ∈ place.reverse, (char != '@') = true := fun char member =>
    bne_iff_ne.mpr (behind char (List.mem_reverse.mp member)).1
  have last : ((credentials ++ '@' :: place).reverse.takeWhile (· != '@')).reverse = place := by
    rw [List.reverse_append, List.reverse_cons, List.append_assoc,
      takeWhile_append_of_stop noAt (by rintro char ⟨⟩; rfl), List.reverse_reverse]
  have count : (credentials ++ '@' :: place).length - place.length - 1 = credentials.length := by
    simp only [List.length_append, List.length_cons]
    omega
  have longer : ¬ place.length = (credentials ++ '@' :: place).length := by
    simp only [List.length_append, List.length_cons]
    omega
  rw [readCredentials, List.append_assoc credentials, List.singleton_append,
    takeWhile_append_of_stop inside stop, last, List.drop_left, count]
  dsimp only
  rw [if_neg longer, List.take_left, List.isEmpty_eq_false_iff.mpr nonempty,
    if_neg Bool.false_ne_true]

include ends in
theorem readCredentials_none {place : List Char}
    (behind : ∀ char ∈ place, char ≠ '@' ∧ endsAuthority kind char = false) :
    readCredentials kind (place ++ rest) = .ok ([], [], place ++ rest) := by
  have noAt : ∀ char ∈ place.reverse, (char != '@') = true := fun char member =>
    bne_iff_ne.mpr (behind char (List.mem_reverse.mp member)).1
  rw [readCredentials, takeWhile_append_of_stop
      (fun char member => (Bool.not_eq_true' _).mpr (behind char member).2)
      (fun char member => (Bool.not_eq_false' _).mpr (ends char member)),
    List.takeWhile_eq_self_iff.mpr noAt, List.reverse_reverse]
  exact if_pos rfl

include fits ends in
theorem readCredentials_written :
    readCredentials kind
        (credentialsText user password ++ (host.write ++ portText port) ++ rest) =
      .ok (user, password, host.write ++ portText port ++ rest) := by
  have noColon : ∀ char ∈ user, char ≠ ':' := fun char member =>
    (@inside_of_keptInCredentials kind char (fits.userKept char member)).2.1
  rw [credentialsText]
  cases empty : user.isEmpty && password.isEmpty with
  | true =>
      rw [Bool.and_eq_true, List.isEmpty_iff, List.isEmpty_iff] at empty
      rcases empty with ⟨rfl, rfl⟩
      rw [if_pos rfl, List.nil_append]
      exact readCredentials_none ends (inside_place fits)
  | false =>
      have nonempty : (user ++ if password.isEmpty then [] else ':' :: password) ≠ [] := by
        cases user with
        | nil =>
            cases password with
            | nil => cases empty
            | cons first password => exact List.cons_ne_nil _ _
        | cons first user => exact List.cons_ne_nil _ _
      rcases @parts_of_credentials user password noColon with ⟨named, secret⟩
      rw [if_neg Bool.false_ne_true, readCredentials_parted ends nonempty
        (fun char member => (inside_credentials fits char member).2) (inside_place fits), named,
        secret, encodeChars_of_kept fits.userKept, encodeChars_of_kept fits.passwordKept]

include fits in
theorem hostLength_place (ends : EndsAuthority kind rest) :
    hostLength kind false (host.write ++ (portText port ++ rest)) = host.write.length := by
  refine hostLength_write fits.hostFits ?_
  cases port with
  | none => exact fun char member => .inr (ends char member)
  | some number =>
      rintro char ⟨⟩
      exact .inl rfl

theorem readPort_written {usual : Option Nat} {number : Nat} (small : number ≤ 65535)
    (unusual : some number ≠ usual) (rest : List Char)
    (ends : ∀ char ∈ rest.head?, endsPort [char] = true) :
    readPort usual (Decimal.digits number ++ rest) = .ok (some number, rest) := by
  have noDigit : ∀ char ∈ rest.head?, Decimal.isDigit char = false := fun char member => by
    have ended := ends char member
    simp only [endsPort, Bool.or_eq_true, beq_iff_eq] at ended
    rcases ended with ((rfl | rfl) | rfl) | rfl <;> decide
  have numeral := takeWhile_append_of_stop (Decimal.isDigit_of_mem_digits number) noDigit
  have ended : endsPort rest = true := by
    cases rest with
    | nil => rfl
    | cons char rest => exact ends char rfl
  have some' : (Decimal.digits number).isEmpty = false :=
    List.isEmpty_eq_false_iff.mpr (Decimal.digits_ne_nil number)
  rw [readPort_eq, numeral]
  dsimp only
  rw [Decimal.value_digits, List.drop_left, if_neg (Nat.not_lt_of_le small), ended, some',
    if_neg (by decide), if_neg (by simpa using unusual)]

theorem endsPort_of_endsAuthority {char : Char} (ended : endsAuthority kind char = true) :
    endsPort [char] = true := by
  simp only [endsAuthority, endsPort, Bool.or_eq_true, Bool.and_eq_true] at ended ⊢
  rcases ended with ((slash | question) | hash) | ⟨_, backslash⟩
  · exact .inl (.inl (.inl slash))
  · exact .inl (.inr question)
  · exact .inr hash
  · exact .inl (.inl (.inr backslash))

include fits ends in
theorem readHostPort_written :
    readHostPort kind (host.write ++ portText port ++ rest) =
      readHost kind host.write >>= fun again =>
        if again = .domain [] ∧ port ≠ none then .error .emptyHost
        else .ok (again, port, rest) := by
  have some' : ¬ (kind.special && host.write.isEmpty) = true := by
    rw [Bool.and_eq_true, List.isEmpty_iff]
    exact fun both => fits.hostFits.write_ne_nil both.1 both.2
  rw [List.append_assoc, readHostPort_eq, hostLength_place fits ends]
  dsimp only
  rw [List.take_left, List.drop_left, if_neg some']
  refine bind_congr fun again => ?_
  cases port with
  | none =>
      rw [portText, List.nil_append, if_neg (fun both => both.2 rfl), readPortBehind]
      intro rest' colon
      have ended := ends ':' (by rw [colon]; rfl)
      simp [endsAuthority] at ended
  | some number =>
      have read := readPort_written (fits.portFits number rfl).1 (fits.portFits number rfl).2 rest
        fun char member => endsPort_of_endsAuthority (ends char member)
      rw [portText, List.cons_append, readPortBehind, read]
      by_cases empty : again = .domain []
      · rw [if_pos empty, if_pos ⟨empty, Option.some_ne_none number⟩]
      · rw [if_neg empty, if_neg fun both => empty both.1]
        rfl

include fits ends in
theorem readHierarchical_written (scheme : List Char) :
    readHierarchical kind scheme
        (credentialsText user password ++ (host.write ++ portText port) ++ rest) =
      readHost kind host.write >>= fun again =>
        if again = .domain [] ∧ ¬ (user = [] ∧ password = [] ∧ port = none) then
          .error .emptyHost
        else .ok (assemble kind scheme user password (some again) port (readPath kind) rest) := by
  rw [readHierarchical_eq, readCredentials_written fits ends]
  show (readHostPort kind (host.write ++ portText port ++ rest) >>= fun place => _) = _
  rw [readHostPort_written fits ends, bind_assoc]
  refine bind_congr fun again => ?_
  by_cases empty : again = .domain []
  · by_cases noPort : port = none
    · rw [if_neg fun both => both.2 noPort]
      show (if again = .domain [] ∧ ¬ (user = [] ∧ password = []) then _ else _) = _
      simp only [empty, noPort, and_true]
    · rw [if_pos ⟨empty, noPort⟩, if_pos ⟨empty, fun all => noPort all.2.2⟩]
      rfl
  · rw [if_neg fun both => empty both.1, if_neg fun both => empty both.1]
    show (if again = .domain [] ∧ ¬ (user = [] ∧ password = []) then _ else _) = _
    rw [if_neg fun both => empty both.1]

end Authority

/-! ## Paths -/

def segmentsText (segments : List (List Char)) : List Char :=
  segments.flatMap fun segment => '/' :: segment

def walked (kind : SchemeKind) (segments : List (List Char)) : List (List Char) :=
  (Walk.along kind ⟨[], false⟩ segments).before.reverse

theorem isSlash_slash (kind : SchemeKind) : isSlash kind '/' = true := by simp [isSlash]

theorem walkText_segments {first : List Char} {segments : List (List Char)}
    (start : Fits kind first) (fits : ∀ segment ∈ segments, Fits kind segment) :
    walkText kind (first ++ segmentsText segments) =
      Walk.along kind ⟨[], false⟩ (first :: segments) := by
  rw [walkText, segmentsText, splitOnP_segments (isSlash_slash kind) start.whole
    fun segment member => (fits segment member).whole]

theorem readPath_segments {segments : List (List Char)} (nonempty : segments ≠ [])
    (fits : ∀ segment ∈ segments, Fits kind segment) :
    readPath kind (segmentsText segments) = .segments (walked kind segments) := by
  cases segments with
  | nil => exact absurd rfl nonempty
  | cons first segments =>
      rw [List.forall_mem_cons] at fits
      rw [segmentsText, List.flatMap_cons, ← segmentsText, List.cons_append, readPath,
        if_pos (isSlash_slash kind), walkText_segments fits.1 fits.2, walked]

theorem noMark_of_keptInPath {char : Char} (kept : keptInPath char = true) :
    char ≠ '?' ∧ char ≠ '#' := by
  constructor
  · rintro rfl
    exact absurd kept (by decide)
  · rintro rfl
    exact absurd kept (by decide)

theorem kept_segmentsText {segments : List (List Char)}
    (fits : ∀ segment ∈ segments, Fits kind segment) :
    ∀ char ∈ segmentsText segments, keptInPath char = true := by
  intro char member
  rcases List.mem_flatMap.mp member with ⟨segment, listed, written⟩
  rcases List.mem_cons.mp written with rfl | within
  · decide
  · exact (fits segment listed).kept char within

/-- Without marks all of a text is path. -/
theorem assemble_unmarked {scheme user password : List Char} {host : Option Host}
    {port : Option Nat} {path : List Char → UrlPath} {chars : List Char}
    (unmarked : ∀ char ∈ chars, char ≠ '?' ∧ char ≠ '#') :
    assemble kind scheme user password host port path chars =
      ⟨scheme, user, password, host, port, path chars, none, none⟩ := by
  have all : beforeQuery chars = chars := List.takeWhile_eq_self_iff.mpr fun char member => by
    simp [unmarked char member]
  rw [assemble, all, List.drop_length]
  rfl

/-! ## Whole texts -/

theorem behind_of_unbroken {chars : List Char} (plain : ∀ char ∈ chars, isBreak char = false)
    (count : Nat) : behind count chars = chars.drop count := by
  induction chars generalizing count with
  | nil => cases count <;> rfl
  | cons char chars induction =>
      rw [List.forall_mem_cons] at plain
      cases count with
      | zero => rfl
      | succ count =>
          rw [behind, plain.1, if_neg Bool.false_ne_true, induction plain.2, List.drop_succ_cons]

theorem dropWhile_of_head {chars : List Char} (shown : ∀ char ∈ chars.head?, 32 < char.toNat) :
    (chars.dropWhile fun char => decide (char.toNat ≤ 32)) = chars := by
  cases chars with
  | nil => rfl
  | cons char chars =>
      exact List.dropWhile_cons_of_neg (by simpa using shown char rfl)

theorem trim_of_shown {chars : List Char} (first : ∀ char ∈ chars.head?, 32 < char.toNat)
    (last : ∀ char ∈ chars.getLast?, 32 < char.toNat) : trim chars = chars := by
  rw [trim, dropWhile_of_head first, dropWhile_of_head (by rwa [List.head?_reverse]),
    List.reverse_reverse]

theorem gt_of_isSchemeChar {char : Char} (member : isSchemeChar char = true) :
    32 < char.toNat := by
  have table : ∀ code < 128, isSchemeChar (Char.ofNat code) = true →
      32 < (Char.ofNat code).toNat := by decide
  exact @of_ascii (fun char => isSchemeChar char = true → 32 < char.toNat) table char
    (isSchemeChar_ascii member) member

section Texts

variable {scheme : List Char} (named : SchemeFits scheme) {body : List Char}
  (clean : ∀ char ∈ body, 32 ≤ char.toNat) (last : ∀ char ∈ body.getLast?, 32 < char.toNat)

include named clean last in
/-- Without control characters, and with no blank at its end, a text is read from its scheme on. -/
theorem read_written : read (String.ofList (scheme ++ ':' :: body)) =
    readBehind scheme body body := by
  have all : ∀ char ∈ scheme ++ ':' :: body, 32 ≤ char.toNat :=
    List.forall_mem_append.mpr ⟨fun char member =>
      Nat.le_of_lt (gt_of_isSchemeChar (named.chars char member)),
      List.forall_mem_cons.mpr ⟨by decide, clean⟩⟩
  have plain : ∀ char ∈ scheme ++ ':' :: body, isBreak char = false := fun char member =>
    isBreak_of_gt (Nat.lt_of_lt_of_le (by decide) (all char member))
  have noBreaks : unbroken (scheme ++ ':' :: body) = scheme ++ ':' :: body :=
    unbroken_of_gt fun char member => Nat.lt_of_lt_of_le (by decide) (all char member)
  have first : ∀ char ∈ (scheme ++ ':' :: body).head?, 32 < char.toNat := by
    rcases named.letter with ⟨letter, more, same, _⟩
    rw [same]
    rintro char ⟨⟩
    exact gt_of_isSchemeChar (named.chars letter (same ▸ List.mem_cons_self))
  have ending : ∀ char ∈ (scheme ++ ':' :: body).getLast?, 32 < char.toNat := by
    rw [List.getLast?_append, List.getLast?_cons]
    rintro char ⟨⟩
    cases ended : body.getLast? with
    | none => decide
    | some char => exact last char ended
  have behindScheme : (scheme ++ ':' :: body).drop (scheme.length + 1) = body := by
    rw [← List.drop_drop, List.drop_left]
    rfl
  rw [read_eq, String.toList_ofList, trim_of_shown first ending, noBreaks,
    readScheme_append named]
  dsimp only
  rw [behind_of_unbroken plain, behindScheme]

include named in
theorem read_of_shown (shown : ∀ char ∈ body, 32 < char.toNat) :
    read (String.ofList (scheme ++ ':' :: body)) = readBehind scheme body body :=
  read_written named (fun char member => Nat.le_of_lt (shown char member))
    fun char member => shown char (List.mem_of_getLast? member)

end Texts

/-! ## Places -/

theorem shown_of_keptInCredentials {char : Char} (kept : keptInCredentials char = true) :
    32 < char.toNat := by
  have table : ∀ code < 128, keptInCredentials (Char.ofNat code) = true →
      32 < (Char.ofNat code).toNat := by decide
  exact @of_ascii (fun char => keptInCredentials char = true → 32 < char.toNat) table char
    (Nat.lt_succ_of_lt (keeps_ascii kept).2) kept

theorem shown_segmentsText {segments : List (List Char)}
    (fits : ∀ segment ∈ segments, Fits kind segment) :
    ∀ char ∈ segmentsText segments, 32 < char.toNat := fun char member =>
  gt_of_keptInPath (kept_segmentsText fits char member)

theorem shown_portText (port : Option Nat) : ∀ char ∈ portText port, 32 < char.toNat := by
  cases port with
  | none => exact fun _ none => absurd none List.not_mem_nil
  | some number =>
      refine List.forall_mem_cons.mpr ⟨by decide, fun char member => ?_⟩
      have bare : Bare ⟨false, false, none⟩ char :=
        bare_of_isDigit (Decimal.isDigit_of_mem_digits number char member)
      exact bare.shown

theorem shown_credentialsText {user password : List Char} {host : Host} {port : Option Nat}
    (fits : AuthorityFits kind user password host port) :
    ∀ char ∈ credentialsText user password, 32 < char.toNat := by
  have userShown := fun char member => shown_of_keptInCredentials (fits.userKept char member)
  have passwordShown := fun char member =>
    shown_of_keptInCredentials (fits.passwordKept char member)
  rw [credentialsText]
  split
  · exact fun _ none => absurd none List.not_mem_nil
  · refine List.forall_mem_append.mpr ⟨List.forall_mem_append.mpr ⟨userShown, ?_⟩,
      List.forall_mem_singleton.mpr (by decide)⟩
    split
    · exact fun _ none => absurd none List.not_mem_nil
    · exact List.forall_mem_cons.mpr ⟨by decide, passwordShown⟩

theorem endsAuthority_segmentsText (segments : List (List Char)) :
    EndsAuthority kind (segmentsText segments) := by
  cases segments with
  | nil => rintro char ⟨⟩
  | cons first segments =>
      rintro char ⟨⟩
      simp [endsAuthority]

theorem endsAuthority_of_isSlash {char : Char} (slash : isSlash kind char = true) :
    endsAuthority kind char = true := by
  simp only [isSlash, endsAuthority, Bool.or_eq_true] at slash ⊢
  rcases slash with slash | backslash
  · exact .inl (.inl (.inl slash))
  · exact .inr backslash

/-- The URL whose path is left when that of a text is walked along. -/
theorem read_place {scheme user password : List Char} {host : Host} {port : Option Nat}
    (named : SchemeFits scheme) (noFile : (schemeKind scheme).isFile = false)
    (fits : AuthorityFits (schemeKind scheme) user password host port)
    {segments : List (List Char)} (nonempty : segments ≠ [])
    (path : ∀ segment ∈ segments, Fits (schemeKind scheme) segment) :
    read (String.ofList (scheme ++ ':' :: '/' :: '/' ::
        (credentialsText user password ++ (host.write ++ portText port) ++
          segmentsText segments))) =
      readHost (schemeKind scheme) host.write >>= fun again =>
        if again = .domain [] ∧ ¬ (user = [] ∧ password = [] ∧ port = none) then
          .error .emptyHost
        else .ok ⟨scheme, user, password, some again, port,
          .segments (walked (schemeKind scheme) segments), none, none⟩ := by
  have ends := @endsAuthority_segmentsText (schemeKind scheme) segments
  have shown : ∀ char ∈ credentialsText user password ++ (host.write ++ portText port) ++
      segmentsText segments, 32 < char.toNat :=
    List.forall_mem_append.mpr ⟨List.forall_mem_append.mpr ⟨shown_credentialsText fits,
      List.forall_mem_append.mpr ⟨fun char member => (fits.hostFits.inside char member).2.2,
        shown_portText port⟩⟩, shown_segmentsText path⟩
  have written := readHierarchical_written fits ends scheme
  have unmarked := fun char member => noMark_of_keptInPath (kept_segmentsText path char member)
  simp only [assemble_unmarked unmarked, readPath_segments nonempty path] at written
  rw [read_of_shown named (List.forall_mem_cons.mpr ⟨by decide, List.forall_mem_cons.mpr
    ⟨by decide, shown⟩⟩), ← written]
  unfold readBehind
  dsimp only
  rw [noFile, if_neg Bool.false_ne_true]
  split
  · next special =>
      have nonempty : credentialsText user password ++ (host.write ++ portText port) ≠ [] :=
        List.append_ne_nil_of_right_ne_nil _
          (List.append_ne_nil_of_left_ne_nil (fits.hostFits.write_ne_nil special) _)
      have stop : ∀ char ∈ (credentialsText user password ++ (host.write ++ portText port) ++
          segmentsText segments).head?, ¬ isSlash (schemeKind scheme) char = true := by
        rw [List.head?_append_of_ne_nil _ nonempty]
        intro char first slash
        have inside := inside_front fits char (List.mem_of_mem_head? first)
        rw [endsAuthority_of_isSlash slash] at inside
        cases inside
      rw [List.dropWhile_cons_of_pos (isSlash_slash _), List.dropWhile_cons_of_pos (isSlash_slash _)]
      generalize credentialsText user password ++ (host.write ++ portText port) ++
        segmentsText segments = text at stop ⊢
      cases text with
      | nil => rfl
      | cons char text => rw [List.dropWhile_cons_of_neg (stop char rfl)]
  · rfl

/-! ## Other texts -/

/-- Segments whose text does not begin with two slashes. -/
def SingleSlash (segments : List (List Char)) : Prop :=
  segments = [[]] ∨ ∃ first rest, segments = first :: rest ∧ first ≠ []

theorem SingleSlash.ne_nil {segments : List (List Char)} (single : SingleSlash segments) :
    segments ≠ [] := by
  rcases single with rfl | ⟨first, rest, rfl, _⟩
  · exact List.cons_ne_nil _ _
  · exact List.cons_ne_nil _ _

theorem SingleSlash.text {segments : List (List Char)} (single : SingleSlash segments)
    (fits : ∀ segment ∈ segments, Fits kind segment) :
    segmentsText segments = ['/'] ∨
      ∃ char rest, segmentsText segments = '/' :: char :: rest ∧ isSlash kind char = false := by
  rcases single with rfl | ⟨first, rest, rfl, nonempty⟩
  · exact .inl rfl
  · cases first with
    | nil => exact absurd rfl nonempty
    | cons char first =>
        exact .inr ⟨char, first ++ segmentsText rest, rfl,
          (fits _ List.mem_cons_self).whole char List.mem_cons_self⟩

section Foreign

variable {scheme : List Char} (named : SchemeFits scheme)
  (noFile : (schemeKind scheme).isFile = false) (foreign : (schemeKind scheme).special = false)
  {segments : List (List Char)} (path : ∀ segment ∈ segments, Fits (schemeKind scheme) segment)

include named noFile foreign path in
theorem read_rooted (single : SingleSlash segments) :
    read (String.ofList (scheme ++ ':' :: segmentsText segments)) =
      .ok ⟨scheme, [], [], none, none, .segments (walked (schemeKind scheme) segments),
        none, none⟩ := by
  have unmarked := fun char member => noMark_of_keptInPath (kept_segmentsText path char member)
  have whole := @assemble_unmarked (schemeKind scheme) scheme [] [] none none
    (readPath (schemeKind scheme)) (segmentsText segments) unmarked
  rw [readPath_segments single.ne_nil path] at whole
  rw [read_of_shown named (shown_segmentsText path), ← whole]
  unfold readBehind
  dsimp only
  rw [noFile, foreign, if_neg Bool.false_ne_true, if_neg Bool.false_ne_true]
  rcases single.text path with text | ⟨char, rest, text, other⟩
  · rw [text]
    rfl
  · rw [text]
    have noSlash : char ≠ '/' := by
      rintro rfl
      rw [isSlash_slash] at other
      cases other
    split
    · next same => exact absurd (List.cons.inj (List.cons.inj same).2).1 noSlash
    · next same => rw [same]
    · next none => exact absurd rfl (none _)

theorem keptInPlain_of_keptInPath {char : Char} (kept : keptInPath char = true) :
    keptInPlain char = true := by
  have bounds := keeps_ascii kept
  simp [keptInPlain, keeps, bounds]

include named noFile foreign path in
theorem read_plain {text : List Char} (kept : ∀ char ∈ text, keptInPlain char = true)
    (inside : ∀ char ∈ text, char ≠ '?' ∧ char ≠ '#') (noSlash : text.head? ≠ some '/')
    (nonempty : text ≠ []) (more : segments ≠ []) :
    read (String.ofList (scheme ++ ':' :: (text ++ segmentsText segments))) =
      .ok ⟨scheme, [], [], none, none, .plain (text ++ segmentsText segments), none, none⟩ := by
  have unmarked : ∀ char ∈ text ++ segmentsText segments, char ≠ '?' ∧ char ≠ '#' :=
    List.forall_mem_append.mpr ⟨inside, fun char member =>
      noMark_of_keptInPath (kept_segmentsText path char member)⟩
  have allKept : ∀ char ∈ text ++ segmentsText segments, keptInPlain char = true :=
    List.forall_mem_append.mpr ⟨kept, fun char member =>
      keptInPlain_of_keptInPath (kept_segmentsText path char member)⟩
  have last : ∀ char ∈ (text ++ segmentsText segments).getLast?, 32 < char.toNat := by
    have some : segmentsText segments ≠ [] := by
      cases segments with
      | nil => exact absurd rfl more
      | cons first rest => exact List.cons_ne_nil _ _
    rw [List.getLast?_append_of_ne_nil _ some]
    exact fun char member => shown_segmentsText path char (List.mem_of_getLast? member)
  have first : ∀ rest, text ++ segmentsText segments ≠ '/' :: rest := by
    intro rest same
    have head : (text ++ segmentsText segments).head? = text.head? :=
      List.head?_append_of_ne_nil text nonempty
    exact noSlash (by rw [← head, same]; rfl)
  rw [read_written named (fun char member => (keeps_ascii (allKept char member)).1) last]
  unfold readBehind
  dsimp only
  rw [noFile, foreign, if_neg Bool.false_ne_true, if_neg Bool.false_ne_true]
  split
  · next same => exact absurd same (first _)
  · next same => exact absurd same (first _)
  · rw [assemble_unmarked unmarked, encodeChars_of_kept allKept]

end Foreign

/-! ## Files -/

section Files

variable {segments : List (List Char)} (path : ∀ segment ∈ segments, Fits kind segment)

include path in
theorem beforeQuery_segments : beforeQuery (segmentsText segments) = segmentsText segments :=
  List.takeWhile_eq_self_iff.mpr fun char member => by
    simp [noMark_of_keptInPath (kept_segmentsText path char member)]

theorem behind_of_shown {chars : List Char} (shown : ∀ char ∈ chars, 32 < char.toNat)
    (count : Nat) : behind count chars = chars.drop count :=
  behind_of_unbroken (fun char member =>
    isBreak_of_gt (Nat.lt_trans (by decide) (shown char member))) count

include path in
theorem finishFile_slashed (scheme : List Char) (host : Host) (nonempty : segments ≠ []) :
    finishFile kind scheme host true (segmentsText segments) =
      ⟨scheme, [], [], some (if (Walk.along kind ⟨[], false⟩ segments).onDrive then .domain []
        else host), none, .segments (trimSegments (walked kind segments)), none, none⟩ := by
  have walk : walkText kind (behind 1 (segmentsText segments)) =
      Walk.along kind ⟨[], false⟩ segments := by
    rw [behind_of_shown (shown_segmentsText path)]
    cases segments with
    | nil => exact absurd rfl nonempty
    | cons first segments =>
        rw [List.forall_mem_cons] at path
        exact walkText_segments path.1 path.2
  rw [finishFile, beforeQuery_segments path, if_pos rfl, walk, List.drop_length]
  rfl

include path in
theorem finishFile_local (scheme : List Char) :
    finishFile kind scheme (.domain []) false (segmentsText segments) =
      ⟨scheme, [], [], some (.domain []), none,
        .segments (trimSegments (walked kind ([] :: segments))), none, none⟩ := by
  have walk : walkText kind (segmentsText segments) =
      Walk.along kind ⟨[], false⟩ ([] :: segments) := walkText_segments .nil path
  rw [finishFile, beforeQuery_segments path, if_neg Bool.false_ne_true, walk, List.drop_length,
    ite_self]
  rfl

theorem unbroken_of_shown {chars : List Char} (shown : ∀ char ∈ chars, 32 < char.toNat) :
    unbroken chars = chars :=
  unbroken_of_gt fun char member => Nat.lt_trans (by decide) (shown char member)

end Files

section ReadFile

variable {scheme : List Char} (named : SchemeFits scheme)
  (isFile : (schemeKind scheme).isFile = true)
  {segments : List (List Char)} (path : ∀ segment ∈ segments, Fits (schemeKind scheme) segment)

include named isFile in
theorem read_file {body : List Char} (shown : ∀ char ∈ body, 32 < char.toNat) :
    read (String.ofList (scheme ++ ':' :: body)) =
      readFile (schemeKind scheme) scheme body := by
  rw [read_of_shown named shown]
  unfold readBehind
  exact if_pos isFile

include named isFile path in
theorem read_file_rooted (single : SingleSlash segments) :
    read (String.ofList (scheme ++ ':' :: segmentsText segments)) =
      .ok ⟨scheme, [], [], some (.domain []), none,
        .segments (trimSegments (walked (schemeKind scheme) segments)), none, none⟩ := by
  have shown := shown_segmentsText path
  have finished := finishFile_slashed path scheme (.domain []) single.ne_nil
  rw [ite_self] at finished
  rw [read_file named isFile shown, readFile_eq, unbroken_of_shown shown, ← finished]
  rcases single.text path with text | ⟨char, rest, text, other⟩
  · rw [text]
    dsimp only
    rw [isSlash_slash]
  · rw [text]
    dsimp only
    rw [isSlash_slash, other, Bool.and_false, if_neg Bool.false_ne_true]

include named isFile path in
theorem read_file_local :
    read (String.ofList (scheme ++ ':' :: '/' :: '/' :: segmentsText segments)) =
      .ok ⟨scheme, [], [], some (.domain []), none,
        .segments (trimSegments (walked (schemeKind scheme) ([] :: segments))), none, none⟩ := by
  have shown : ∀ char ∈ '/' :: '/' :: segmentsText segments, 32 < char.toNat :=
    List.forall_mem_cons.mpr ⟨by decide, List.forall_mem_cons.mpr
      ⟨by decide, shown_segmentsText path⟩⟩
  have noHost : (segmentsText segments).takeWhile
      (fun char => !endsAuthority (schemeKind scheme) char) = [] := by
    cases segments with
    | nil => rfl
    | cons first segments => exact List.takeWhile_cons_of_neg (by simp [endsAuthority])
  rw [read_file named isFile shown, readFile_eq, unbroken_of_shown shown, ← finishFile_local path]
  dsimp only
  rw [isSlash_slash, Bool.and_self, if_pos rfl, noHost, if_neg (by decide), behind_of_shown shown]
  rfl

theorem isDriveLetter_host {host : Host} (fits : HostFits kind host) (special : kind.special = true) :
    isDriveLetter host.write = false := by
  refine Bool.eq_false_iff.mpr fun drive => ?_
  rcases isDriveLetter_eq drive with ⟨letter, mark, written, alpha, marked⟩
  have first : letter ∈ host.write := written ▸ List.mem_cons_self
  have second : mark ∈ host.write := written ▸ List.mem_cons_of_mem _ List.mem_cons_self
  cases fits with
  | domain _ _ allowed _ =>
      rcases marked with rfl | rfl
      · exact absurd (allowed ':' second) (by decide)
      · exact absurd (allowed '|' second) (by decide)
  | other foreign _ _ =>
      rw [special] at foreign
      cases foreign
  | ipv4 _ _ =>
      rcases digits_of_mem_ipv4 second with digit | rfl
      · rcases marked with rfl | rfl <;> exact absurd digit (by decide)
      · rcases marked with marked | marked <;> cases marked
  | ipv6 _ =>
      obtain rfl : '[' = letter := (List.cons.inj written).1
      exact absurd alpha (by decide)

include named isFile path in
theorem read_file_host {host : Host} (fits : HostFits (schemeKind scheme) host)
    (nonempty : segments ≠ []) :
    read (String.ofList (scheme ++ ':' :: '/' :: '/' :: (host.write ++ segmentsText segments))) =
      readFileHost host.write >>= fun again =>
        .ok (finishFile (schemeKind scheme) scheme again (again != .domain [])
          (segmentsText segments)) := by
  have shown : ∀ char ∈ '/' :: '/' :: (host.write ++ segmentsText segments), 32 < char.toNat :=
    List.forall_mem_cons.mpr ⟨by decide, List.forall_mem_cons.mpr ⟨by decide,
      List.forall_mem_append.mpr ⟨fun char member => (fits.inside char member).2.2,
        shown_segmentsText path⟩⟩⟩
  have taken : (host.write ++ segmentsText segments).takeWhile
      (fun char => !endsAuthority (schemeKind scheme) char) = host.write :=
    takeWhile_append_of_stop (fun char member => by rw [(fits.inside char member).2.1]; rfl)
      fun char member => by rw [endsAuthority_segmentsText segments char member]; rfl
  have slash : (segmentsText segments).head?.any (isSlash (schemeKind scheme)) = true := by
    cases segments with
    | nil => exact absurd rfl nonempty
    | cons first segments => exact isSlash_slash _
  have left : behind (2 + host.write.length) ('/' :: '/' :: (host.write ++ segmentsText segments)) =
      segmentsText segments := by
    rw [behind_of_shown shown, ← List.drop_drop]
    exact List.drop_left
  rw [read_file named isFile shown, readFile_eq, unbroken_of_shown shown]
  dsimp only
  rw [isSlash_slash, Bool.and_self, if_pos rfl, taken,
    isDriveLetter_host fits (special_of_isFile isFile), if_neg Bool.false_ne_true, List.drop_left,
    slash, left]
  simp only [Bool.and_true]

end ReadFile

end StrongAuth.Url
