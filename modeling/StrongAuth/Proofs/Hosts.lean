import StrongAuth.Proofs.Addresses

/-! # Hosts of URLs

Main statements: a host that is read can be written and is read again, except for a domain name
that is not its own ASCII form; a name in ASCII letters has this form for its own. -/

namespace StrongAuth

/-! ## Domain names -/

namespace Domain

theorem isAscii_iff {text : List Char} : isAscii text = true ↔ ∀ char ∈ text, char.toNat < 128 := by
  simp [isAscii]

theorem toLower_toLower {char : Char} (ascii : char.toNat < 128) :
    char.toLower.toLower = char.toLower := by
  have table : ∀ code < 128, (Char.ofNat code).toLower.toLower = (Char.ofNat code).toLower := by
    decide
  exact @Url.of_ascii (fun char => char.toLower.toLower = char.toLower) table char ascii

theorem ascii_of_ofCode? {code : List Char} {label : Label}
    (found : Label.ofCode? code = some label) : label.ascii = punycodeMark ++ code := by
  rw [Label.ofCode?] at found
  split at found
  · cases found
  · rcases Option.bind_eq_some_iff.mp found with ⟨text, _, found⟩
    split at found
    · cases found
      rfl
    · cases found

theorem ascii_of_ofText? {text : List Char} {label : Label} (ascii : isAscii text = true)
    (found : Label.ofText? text = some label) : label.ascii = text := by
  rw [Label.ofText?] at found
  split at found
  · next marked =>
      rcases List.isPrefixOf_iff_prefix.mp marked with ⟨code, rfl⟩
      rw [List.drop_left] at found
      exact ascii_of_ofCode? found
  · cases found
    rfl

theorem mapM_ascii {texts : List (List Char)} {labels : List Label}
    (ascii : ∀ text ∈ texts, isAscii text = true)
    (found : texts.mapM Label.ofText? = some labels) : labels.map Label.ascii = texts := by
  induction texts generalizing labels with
  | nil =>
      cases found
      rfl
  | cons text texts induction =>
      rw [List.forall_mem_cons] at ascii
      rw [List.mapM_cons] at found
      rcases Option.bind_eq_some_iff.mp found with ⟨label, first, found⟩
      rcases Option.bind_eq_some_iff.mp found with ⟨rest, later, made⟩
      cases made
      rw [List.map_cons, ascii_of_ofText? ascii.1 first, induction ascii.2 later]

theorem isAscii_of_mem_splitOn {text : List Char} (ascii : ∀ char ∈ text, char.toNat < 128) :
    ∀ part ∈ text.splitOn '.', isAscii part = true := by
  intro part member
  exact isAscii_iff.mpr fun char listed => ascii char (Url.of_mem_splitOnP member char listed).1

/-- What comes behind the folding of a name. -/
def ofFolded? (folded : List Char) : Option (List Char) := do
  let labels ← (folded.splitOn '.').mapM Label.ofText?
  let ascii := ['.'].intercalate (labels.map Label.ascii)
  if ascii.any isForbidden || !keepsDirection (labels.map Label.text) then failure
  return ascii

theorem toAscii?_eq {host text folded : List Char}
    (decoded : Percent.decode? (String.ofList host) = some (String.ofList text))
    (folds : fold? text = some folded) : toAscii? host = ofFolded? folded := by
  simp only [toAscii?, decoded, bind, Option.bind, String.toList_ofList, folds]
  rfl

theorem ofFolded?_eq_some {folded name : List Char} : ofFolded? folded = some name ↔
    ∃ labels, (folded.splitOn '.').mapM Label.ofText? = some labels ∧
      name = ['.'].intercalate (labels.map Label.ascii) ∧
      (∀ char ∈ name, isForbidden char = false) ∧
      keepsDirection (labels.map Label.text) = true := by
  simp only [ofFolded?, bind, Option.bind_eq_some_iff]
  refine exists_congr fun labels => and_congr_right fun _ => ?_
  split
  · next refused =>
      rw [Bool.or_eq_true, Bool.not_eq_true', List.any_eq_true] at refused
      refine ⟨fun failed => (by cases failed), ?_⟩
      rintro ⟨rfl, allowed, straight⟩
      rcases refused with ⟨char, member, forbidden⟩ | crooked
      · rw [allowed char member] at forbidden
        cases forbidden
      · rw [straight] at crooked
        cases crooked
  · next accepted =>
      rw [Bool.or_eq_true, Bool.not_eq_true', List.any_eq_true, not_or, Bool.not_eq_false] at accepted
      constructor
      · intro made
        cases made
        exact ⟨rfl, fun char member => Bool.eq_false_iff.mpr fun forbidden =>
          accepted.1 ⟨char, member, forbidden⟩, accepted.2⟩
      · rintro ⟨rfl, _⟩
        rfl

/-- No domain name has characters with a meaning of their own. -/
theorem allowed_of_toAscii? {host name : List Char} (found : toAscii? host = some name) :
    ∀ char ∈ name, isForbidden char = false := by
  rcases Option.bind_eq_some_iff.mp found with ⟨text, _, found⟩
  rcases Option.bind_eq_some_iff.mp found with ⟨folded, _, found⟩
  rcases ofFolded?_eq_some.mp found with ⟨_, _, _, allowed, _⟩
  exact allowed

theorem map_toLower_toLower {text : List Char} (ascii : ∀ char ∈ text, char.toNat < 128) :
    (text.map Char.toLower).map Char.toLower = text.map Char.toLower := by
  rw [List.map_map]
  exact List.map_congr_left fun char member => toLower_toLower (ascii char member)

/-- A name in ASCII is its own ASCII form once it has been read. -/
theorem toAscii?_of_ascii {host name text : List Char}
    (decoded : Percent.decode? (String.ofList host) = some (String.ofList text))
    (ascii : ∀ char ∈ text, char.toNat < 128) (found : toAscii? host = some name) :
    toAscii? name = some name := by
  rw [toAscii?_eq decoded (fold?_of_ascii ascii)] at found
  rcases ofFolded?_eq_some.mp found with ⟨labels, read, same, allowed, _⟩
  have small : ∀ char ∈ text.map Char.toLower, char.toNat < 128 :=
    List.forall_mem_map.mpr fun char member => toNat_toLower_lt (ascii char member)
  rw [mapM_ascii (isAscii_of_mem_splitOn small) read, List.intercalate_splitOn] at same
  subst same
  have plain : '%' ∉ text.map Char.toLower := fun percent =>
    absurd (allowed '%' percent) (by decide)
  have folds := fold?_of_ascii small
  rw [map_toLower_toLower ascii] at folds
  rw [toAscii?_eq (Percent.decode?_of_not_mem plain) folds]
  exact found

/-- Letters and digits in ASCII do not run from right to left. -/
theorem keepsDirection_of_ascii {texts : List (List Char)}
    (ascii : ∀ text ∈ texts, ∀ char ∈ text, char.toNat < 128) : keepsDirection texts = true := by
  have straight : ((texts.map fun text => text.map Direction.ofChar).flatten.any
      (· ∈ [Direction.rightToLeft, Direction.arabicNumber])) = false := by
    refine List.any_eq_false.mpr fun direction member => ?_
    rcases List.mem_flatten.mp member with ⟨directions, listed, within⟩
    rcases List.mem_map.mp listed with ⟨text, known, rfl⟩
    rcases List.mem_map.mp within with ⟨char, written, rfl⟩
    rw [Direction.ofChar, if_pos (ascii text known char written)]
    split
    · decide
    · split
      · decide
      · decide
  rw [keepsDirection]
  simp only [straight, Bool.not_false, Bool.true_or]

theorem mapM_plain {parts : List (List Char)} (ascii : ∀ part ∈ parts, isAscii part = true)
    (unmarked : ∀ part ∈ parts, ∀ char ∈ part.head?, char ≠ 'x') :
    parts.mapM Label.ofText? = some (parts.map fun part => ⟨part, part⟩) := by
  induction parts with
  | nil => rfl
  | cons part parts induction =>
      rw [List.forall_mem_cons] at ascii unmarked
      have plain : punycodeMark.isPrefixOf part = false := by
        cases part with
        | nil => rfl
        | cons char part =>
            have other := unmarked.1 char rfl
            simp [punycodeMark, List.isPrefixOf, other.symm]
      have read : Label.ofText? part = some ⟨part, part⟩ := by
        rw [Label.ofText?, plain, if_neg Bool.false_ne_true, if_pos ascii.1]
      rw [List.mapM_cons, read, induction ascii.2 unmarked.2]
      rfl

theorem toAscii?_of_digits {name : List Char}
    (digits : ∀ char ∈ name, Decimal.isDigit char = true ∨ char = '.') :
    toAscii? name = some name := by
  have table : ∀ code < 128, (Decimal.isDigit (Char.ofNat code) = true ∨ Char.ofNat code = '.') →
      (Char.ofNat code).toLower = Char.ofNat code ∧ isForbidden (Char.ofNat code) = false ∧
        Char.ofNat code ≠ 'x' := by decide
  have ascii : ∀ char ∈ name, char.toNat < 128 := fun char member => by
    rcases digits char member with digit | rfl
    · exact Decimal.isDigit_ascii digit
    · decide
  have each : ∀ char ∈ name, char.toLower = char ∧ isForbidden char = false ∧ char ≠ 'x' :=
    fun char member => @Url.of_ascii (fun char => (Decimal.isDigit char = true ∨ char = '.') →
      char.toLower = char ∧ isForbidden char = false ∧ char ≠ 'x') table char (ascii char member)
      (digits char member)
  have plain : '%' ∉ name := fun percent => absurd (each '%' percent).2.1 (by decide)
  have folds : fold? name = some name := by
    rw [fold?_of_ascii ascii, List.map_congr_left fun char member => (each char member).1,
      List.map_id']
  have labels := mapM_plain (isAscii_of_mem_splitOn ascii) fun part listed char member =>
    (each char (Url.of_mem_splitOnP listed char (List.mem_of_mem_head? member)).1).2.2
  rw [toAscii?_eq (Percent.decode?_of_not_mem plain) folds, ofFolded?_eq_some]
  refine ⟨_, labels, ?_, fun char member => (each char member).2.1, ?_⟩
  · rw [List.map_map, Function.comp_def, List.map_id', List.intercalate_splitOn]
  · rw [List.map_map, Function.comp_def, List.map_id']
    exact keepsDirection_of_ascii fun text member =>
      isAscii_iff.mp (isAscii_of_mem_splitOn ascii text member)

end Domain

/-! ## Hosts -/

namespace Url

variable {kind : SchemeKind}

/-- Reads the host of a URL. -/
def readHost (kind : SchemeKind) (chars : List Char) : Except UrlFault Host :=
  if kind.special then readDomain chars else readOtherHost chars

/-- The hosts that are read. -/
inductive HostFits (kind : SchemeKind) : Host → Prop
  | domain {name : List Char} (web : kind.special = true) (nonempty : name ≠ [])
      (allowed : ∀ char ∈ name, Domain.isForbidden char = false)
      (named : Ipv4.endsInNumber name = false) : HostFits kind (.domain name)
  | other {name : List Char} (foreign : kind.special = false)
      (kept : ∀ char ∈ name, keptInPlain char = true)
      (allowed : ∀ char ∈ name, isForbiddenInHost char = false) : HostFits kind (.domain name)
  | ipv4 {address : Nat} (web : kind.special = true) (small : address < 2 ^ 32) :
      HostFits kind (.ipv4 address)
  | ipv6 {pieces : List Nat} (whole : Ipv6.Whole pieces) : HostFits kind (.ipv6 pieces)

theorem fits_of_readBracketed {chars : List Char} {host : Host}
    (read : readBracketed chars = .ok host) : HostFits kind host := by
  unfold readBracketed at read
  split at read
  · split at read
    · next pieces found =>
        cases read
        exact .ipv6 (Ipv6.whole_of_read? found)
    · cases read
  · cases read

theorem fits_of_readHost {chars : List Char} {host : Host}
    (read : readHost kind chars = .ok host) : HostFits kind host := by
  rw [readHost] at read
  split at read
  · next web =>
      rw [readDomain] at read
      split at read
      · exact fits_of_readBracketed read
      · split at read
        · cases read
        · cases read
        · next name nonempty found =>
            split at read
            · split at read
              · next address number =>
                  cases read
                  exact .ipv4 web (Ipv4.lt_of_read? number)
              · cases read
            · next named =>
                cases read
                exact .domain web nonempty (Domain.allowed_of_toAscii? found)
                  (Bool.eq_false_iff.mpr named)
  · next foreign =>
      rw [readOtherHost] at read
      split at read
      · exact fits_of_readBracketed read
      · split at read
        · cases read
        · next allowed =>
            cases read
            have raw : ∀ char ∈ chars, isForbiddenInHost char = false := fun char member =>
              Bool.eq_false_iff.mpr fun forbidden =>
                allowed (List.any_eq_true.mpr ⟨char, member, forbidden⟩)
            exact .other (Bool.eq_false_iff.mpr foreign)
              (Percent.kept_encodeChars (by decide) (by decide) chars)
              (Percent.forall_encodeChars (fun char member _ => raw char member) (by decide)
                (by decide))

/-! ### The text of a host -/

/-- A character that ends neither a host nor what is in front of one. -/
structure Bare (kind : SchemeKind) (char : Char) : Prop where
  noAt : char ≠ '@'
  noColon : char ≠ ':'
  noBracket : char ≠ '['
  inside : endsAuthority kind char = false
  shown : 32 < char.toNat

theorem endsAuthority_of_ne {char : Char} (slash : char ≠ '/') (question : char ≠ '?')
    (hash : char ≠ '#') (backslash : char ≠ '\\') : endsAuthority kind char = false := by
  simp [endsAuthority, slash, question, hash, backslash]

theorem bare_of_isForbidden {char : Char} (allowed : Domain.isForbidden char = false) :
    Bare kind char := by
  simp only [Domain.isForbidden, Bool.or_eq_false_iff, decide_eq_false_iff_not, not_le] at allowed
  rcases allowed with ⟨⟨shown, _⟩, listed⟩
  have other : ∀ mark ∈ "#/:<>?@[\\]^|%".toList, char ≠ mark := by
    rintro mark member rfl
    rw [List.contains_iff_mem.mpr member] at listed
    cases listed
  exact ⟨other '@' (by decide), other ':' (by decide), other '[' (by decide),
    endsAuthority_of_ne (other '/' (by decide)) (other '?' (by decide)) (other '#' (by decide))
      (other '\\' (by decide)), shown⟩

theorem bare_of_isForbiddenInHost {char : Char} (kept : keptInPlain char = true)
    (allowed : isForbiddenInHost char = false) : Bare kind char := by
  have other : ∀ mark ∈ "\x00\t\n\r #/:<>?@[\\]^|".toList, char ≠ mark := by
    rintro mark member rfl
    rw [isForbiddenInHost, List.contains_iff_mem.mpr member] at allowed
    cases allowed
  have shown : char.toNat ≠ 32 := fun blank =>
    other ' ' (by decide) (by rw [← Char.ofNat_toNat char, blank])
  have least := (keeps_ascii kept).1
  exact ⟨other '@' (by decide), other ':' (by decide), other '[' (by decide),
    endsAuthority_of_ne (other '/' (by decide)) (other '?' (by decide)) (other '#' (by decide))
      (other '\\' (by decide)), by omega⟩

theorem isHex_ascii {char : Char} (hex : Ipv6.isHex char = true) : char.toNat < 128 := by
  rw [Ipv6.isHex, Hexadecimal.value?] at hex
  split at hex
  · omega
  · split at hex
    · omega
    · split at hex
      · omega
      · cases hex

theorem bare_of_isHex {char : Char} (hex : Ipv6.isHex char = true ∨ char = '.') :
    Bare kind char := by
  have table : ∀ code < 128, (Ipv6.isHex (Char.ofNat code) = true ∨ Char.ofNat code = '.') →
      Domain.isForbidden (Char.ofNat code) = false := by decide
  have ascii : char.toNat < 128 := by
    rcases hex with hex | rfl
    · exact isHex_ascii hex
    · decide
  exact bare_of_isForbidden (@of_ascii (fun char => (Ipv6.isHex char = true ∨ char = '.') →
    Domain.isForbidden char = false) table char ascii hex)

theorem isHex_of_isDigit {char : Char} (digit : Decimal.isDigit char = true) :
    Ipv6.isHex char = true := by
  rw [Decimal.isDigit, Decimal.digitValue?] at digit
  split at digit
  · next within => rw [Ipv6.isHex, Hexadecimal.value?, if_pos within]; rfl
  · cases digit

theorem digits_of_mem_ipv4 {address : Nat} {char : Char} (member : char ∈ Ipv4.write address) :
    Decimal.isDigit char = true ∨ char = '.' := by
  have digits := Decimal.isDigit_of_mem_digits
  simp only [Ipv4.write, List.mem_append, List.mem_cons] at member
  rcases member with ((first | rfl | second) | rfl | third) | rfl | fourth
  · exact .inl (digits _ char first)
  · exact .inr rfl
  · exact .inl (digits _ char second)
  · exact .inr rfl
  · exact .inl (digits _ char third)
  · exact .inr rfl
  · exact .inl (digits _ char fourth)

theorem hex_of_mem_ipv6 {pieces : List Nat} {char : Char} (member : char ∈ Ipv6.write pieces) :
    Ipv6.isHex char = true ∨ char = ':' := by
  have within : ∀ pieces : List Nat, ∀ char ∈ Ipv6.writePieces pieces,
      Ipv6.isHex char = true ∨ char = ':' := by
    intro pieces
    induction pieces with
    | nil => exact fun _ member => absurd member List.not_mem_nil
    | cons piece pieces induction =>
        intro char member
        cases pieces with
        | nil =>
            rw [Ipv6.writePieces_singleton] at member
            exact .inl (Ipv6.isHex_of_mem_hexDigits piece char member)
        | cons next pieces =>
            rw [Ipv6.writePieces_cons_cons] at member
            rcases List.mem_append.mp member with digit | later
            · exact .inl (Ipv6.isHex_of_mem_hexDigits piece char digit)
            · rcases List.mem_cons.mp later with colon | later
              · exact .inr colon
              · exact induction char later
  rw [Ipv6.write] at member
  split at member
  · exact within _ char member
  · rcases List.mem_append.mp member with front | behind
    · exact within _ char front
    · rcases List.mem_cons.mp behind with colon | behind
      · exact .inr colon
      · rcases List.mem_cons.mp behind with colon | back
        · exact .inr colon
        · exact within _ char back

theorem HostFits.bare {host : Host} (fits : HostFits kind host) :
    (∀ char ∈ host.write, Bare kind char) ∨ ∃ pieces, host = .ipv6 pieces := by
  cases fits with
  | domain _ _ allowed _ => exact .inl fun char member => bare_of_isForbidden (allowed char member)
  | other _ kept allowed =>
      exact .inl fun char member =>
        bare_of_isForbiddenInHost (kept char member) (allowed char member)
  | ipv4 _ _ =>
      exact .inl fun char member => bare_of_isHex
        ((digits_of_mem_ipv4 member).imp_left isHex_of_isDigit)
  | @ipv6 pieces _ => exact .inr ⟨pieces, rfl⟩

/-- No host contains what ends it or separates it from a user. -/
theorem HostFits.inside {host : Host} (fits : HostFits kind host) :
    ∀ char ∈ host.write, char ≠ '@' ∧ endsAuthority kind char = false ∧ 32 < char.toNat := by
  intro char member
  rcases fits.bare with bare | ⟨pieces, rfl⟩
  · exact ⟨(bare char member).noAt, (bare char member).inside, (bare char member).shown⟩
  · have mark : ∀ mark ∈ [':', '[', ']'], mark ≠ '@' ∧ endsAuthority kind mark = false ∧
        32 < mark.toNat := by
      have table : ∀ mark ∈ [':', '[', ']'], mark ≠ '@' ∧ mark ≠ '/' ∧ mark ≠ '?' ∧ mark ≠ '#' ∧
          mark ≠ '\\' ∧ 32 < mark.toNat := by simp
      intro mark listed
      rcases table mark listed with ⟨noAt, slash, question, hash, backslash, shown⟩
      exact ⟨noAt, endsAuthority_of_ne slash question hash backslash, shown⟩
    rw [Host.write, List.mem_cons, List.mem_append, List.mem_singleton] at member
    rcases member with rfl | within | rfl
    · exact mark _ (by decide)
    · rcases hex_of_mem_ipv6 within with hex | rfl
      · have bare : Bare kind char := bare_of_isHex (.inl hex)
        exact ⟨bare.noAt, bare.inside, bare.shown⟩
      · exact mark _ (by decide)
    · exact mark _ (by decide)

theorem HostFits.write_ne_nil {host : Host} (fits : HostFits kind host)
    (special : kind.special = true) : host.write ≠ [] := by
  cases fits with
  | domain _ nonempty _ _ => exact nonempty
  | other foreign _ _ =>
      rw [special] at foreign
      cases foreign
  | ipv4 _ _ => exact Ipv4.write_ne_nil _
  | ipv6 _ => exact List.cons_ne_nil _ _

/-! ### Where a host ends -/

/-- A text in front of which a host ends. -/
def EndsHost (kind : SchemeKind) (rest : List Char) : Prop :=
  ∀ char ∈ rest.head?, char = ':' ∨ endsAuthority kind char = true

theorem hostLength_ends {rest : List Char} (ends : EndsHost kind rest) :
    hostLength kind false rest = 0 := by
  cases rest with
  | nil => rw [hostLength]
  | cons char rest =>
      rw [hostLength, if_pos]
      rcases ends char rfl with rfl | ended
      · rfl
      · rw [ended, Bool.or_true]

theorem hostLength_bare {text rest : List Char} (bare : ∀ char ∈ text, Bare kind char)
    (ends : EndsHost kind rest) : hostLength kind false (text ++ rest) = text.length := by
  induction text with
  | nil => exact hostLength_ends ends
  | cons char text induction =>
      rw [List.forall_mem_cons] at bare
      rw [List.cons_append, hostLength, if_neg (by simp [bare.1.noColon, bare.1.inside]),
        if_neg bare.1.noBracket, ite_self]
      dsimp only
      rw [induction bare.2, List.length_cons]

theorem hostLength_brackets {text rest : List Char}
    (hex : ∀ char ∈ text, Ipv6.isHex char = true ∨ char = ':') (ends : EndsHost kind rest) :
    hostLength kind true (text ++ ']' :: rest) = text.length + 1 := by
  induction text with
  | nil =>
      have open' : ¬ ((']' == ':' && !true) || endsAuthority kind ']') = true := by
        simp [endsAuthority]
      rw [List.nil_append, hostLength, if_neg open', if_neg (by decide), if_pos rfl]
      dsimp only
      rw [hostLength_ends ends, List.length_nil]
  | cons char text induction =>
      rw [List.forall_mem_cons] at hex
      have inside : endsAuthority kind char = false ∧ char ≠ '[' ∧ char ≠ ']' := by
        rcases hex.1 with digit | rfl
        · have bare : Bare kind char := bare_of_isHex (.inl digit)
          refine ⟨bare.inside, bare.noBracket, ?_⟩
          rintro rfl
          exact absurd digit (by decide)
        · exact ⟨by simp [endsAuthority], by decide, by decide⟩
      rw [List.cons_append, hostLength, if_neg (by simp [inside.1]), if_neg inside.2.1,
        if_neg inside.2.2]
      dsimp only
      rw [induction hex.2, List.length_cons]

theorem hostLength_write {host : Host} (fits : HostFits kind host) {rest : List Char}
    (ends : EndsHost kind rest) :
    hostLength kind false (host.write ++ rest) = host.write.length := by
  rcases fits.bare with bare | ⟨pieces, rfl⟩
  · exact hostLength_bare bare ends
  · have first : ¬ (('[' == ':' && !false) || endsAuthority kind '[') = true := by
      simp [endsAuthority]
    rw [Host.write, List.cons_append, List.append_assoc, List.singleton_append, hostLength,
      if_neg first, if_pos rfl]
    dsimp only
    rw [hostLength_brackets (fun char => hex_of_mem_ipv6) ends]
    simp

/-! ### Reading a host again -/

theorem head?_ne_bracket {text : List Char} (bare : ∀ char ∈ text, Bare kind char) :
    text.head? ≠ some '[' := fun first =>
  (bare '[' (List.mem_of_mem_head? first)).noBracket rfl

theorem readBracketed_write {pieces : List Nat} (whole : Ipv6.Whole pieces) :
    readBracketed (Host.ipv6 pieces).write = .ok (.ipv6 pieces) := by
  have last : (Host.ipv6 pieces).write.getLast? = some ']' := by
    rw [Host.write, ← List.cons_append, List.getLast?_concat]
  have inner : ((Host.ipv6 pieces).write.drop 1).dropLast = Ipv6.write pieces := by
    rw [Host.write, List.drop_one, List.tail_cons, List.dropLast_concat]
  unfold readBracketed
  rw [last, inner, Ipv6.read?_write whole]
  rfl

/-- A host that is read is read again from its text, if it is no domain name in another form. -/
theorem readHost_write {host : Host} (fits : HostFits kind host)
    (own : ∀ name, kind.special = true → host = .domain name →
      Domain.toAscii? name = some name) : readHost kind host.write = .ok host := by
  cases fits with
  | @domain name web nonempty allowed named =>
      have bare : ∀ char ∈ name, Bare kind char := fun char member =>
        bare_of_isForbidden (allowed char member)
      rw [readHost, if_pos web, Host.write, readDomain, if_neg (head?_ne_bracket bare),
        own name web rfl]
      cases name with
      | nil => exact absurd rfl nonempty
      | cons char name =>
          dsimp only
          rw [named, if_neg Bool.false_ne_true]
  | @other name foreign kept allowed =>
      have bare : ∀ char ∈ name, Bare kind char := fun char member =>
        bare_of_isForbiddenInHost (kept char member) (allowed char member)
      have fine : ¬ name.any isForbiddenInHost = true := by
        rw [List.any_eq_true]
        rintro ⟨char, member, forbidden⟩
        rw [allowed char member] at forbidden
        cases forbidden
      rw [readHost, foreign, if_neg Bool.false_ne_true, Host.write, readOtherHost,
        if_neg (head?_ne_bracket bare), if_neg fine, Percent.encodeChars_of_kept kept]
  | @ipv4 address web small =>
      have digits : ∀ char ∈ Ipv4.write address, Decimal.isDigit char = true ∨ char = '.' :=
        fun _ => digits_of_mem_ipv4
      have bare : ∀ char ∈ Ipv4.write address, Bare kind char := fun char member =>
        bare_of_isHex ((digits char member).imp_left isHex_of_isDigit)
      rw [readHost, if_pos web, Host.write, readDomain, if_neg (head?_ne_bracket bare),
        Domain.toAscii?_of_digits digits]
      have number := Ipv4.endsInNumber_write address
      have found := Ipv4.read?_write small
      cases written : Ipv4.write address with
      | nil => exact absurd written (Ipv4.write_ne_nil address)
      | cons char text =>
          rw [written] at number found
          dsimp only
          rw [if_pos number, found]
  | @ipv6 pieces whole =>
      have bracket : (Host.ipv6 pieces).write.head? = some '[' := rfl
      rw [readHost]
      split
      · rw [readDomain, if_pos bracket, readBracketed_write whole]
      · rw [readOtherHost, if_pos bracket, readBracketed_write whole]

/-- A domain name that is read again as such is its own ASCII form. -/
theorem own_of_readHost {name : List Char} (fits : HostFits kind (.domain name))
    (web : kind.special = true) {again : Host} (read : readHost kind name = .ok again)
    (same : again.write = name) : Domain.toAscii? name = some name := by
  cases fits with
  | other foreign _ _ =>
      rw [web] at foreign
      cases foreign
  | domain _ _ allowed named =>
      have bare : ∀ char ∈ name, Bare kind char := fun char member =>
        bare_of_isForbidden (allowed char member)
      rw [readHost, if_pos web, readDomain, if_neg (head?_ne_bracket bare)] at read
      split at read
      · cases read
      · cases read
      · next domain _ found =>
          split at read
          · split at read
            · next address _ =>
                cases read
                rw [← same, Host.write, Ipv4.endsInNumber_write] at named
                cases named
            · cases read
          · cases read
            exact found.trans (congrArg some same)

end Url

end StrongAuth
