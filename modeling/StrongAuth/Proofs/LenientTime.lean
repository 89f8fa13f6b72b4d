import StrongAuth.Proofs.WrittenTime

/-! # Timestamps read leniently

Main statement: the exact text of a timestamp, with its shortest fraction and whatever its year,
is read by the lenient reader as that timestamp, leap seconds included. -/

namespace StrongAuth

namespace Decimal

theorem value_replicate_append (zeros : Nat) (numeral : List Char) :
    value (List.replicate zeros '0' ++ numeral) = value numeral := by
  induction zeros with
  | zero => rfl
  | succ zeros induction => exact induction

theorem value_padded (width number : Nat) : value (padded width number) = number := by
  rw [padded, value_replicate_append, value_digits]

theorem isDigit_of_mem_padded (width number : Nat) :
    ∀ char ∈ padded width number, isDigit char = true := by
  intro char member
  rcases List.mem_append.mp member with zero | digit
  · rw [List.eq_of_mem_replicate zero]
    rfl
  · exact isDigit_of_mem_digits number char digit

theorem length_padded_pos (width number : Nat) : 0 < (padded width number).length := by
  have filled := List.length_pos_of_ne_nil (digits_ne_nil number)
  simp only [padded, List.length_append]
  omega

end Decimal

namespace Time

open Decimal

/-! ## Parts of the text -/

theorem isBlank_of_isDigit {char : Char} (digit : isDigit char = true) :
    Text.isBlank char = false := by
  simp only [isDigit, digitValue?, Option.isSome_ite] at digit
  simp only [Text.isBlank, Text.blankRanges, List.any_cons, List.any_nil, Bool.or_eq_false_iff,
    Bool.and_eq_false_iff, decide_eq_false_iff_not, and_true]
  omega

theorem fixed_eq_cons (width number : Nat) : ∃ char chars,
    fixed (width + 1) number = char :: chars ∧ isDigit char = true := by
  have digits := isDigit_of_mem_fixed (width + 1) number
  cases written : fixed (width + 1) number with
  | nil =>
      have length := length_fixed (width + 1) number
      rw [written] at length
      cases length
  | cons char chars =>
      rw [written] at digits
      exact ⟨char, chars, rfl, digits char List.mem_cons_self⟩

theorem trimStart_cons {char : Char} (solid : Text.isBlank char = false) (rest : List Char) :
    Text.trimStart (char :: rest) = char :: rest := by
  rw [Text.trimStart, List.dropWhile_cons_of_neg (by simp [solid])]

theorem trimStart_fixed (width number : Nat) (rest : List Char) :
    Text.trimStart (fixed (width + 1) number ++ rest) = fixed (width + 1) number ++ rest := by
  rcases fixed_eq_cons width number with ⟨char, chars, written, digit⟩
  rw [written]
  exact trimStart_cons (isBlank_of_isDigit digit) _

theorem readLoose_fixed {number : Nat} (small : number < 100) (rest : List Char) :
    readLoose (fixed 2 number ++ rest) = .ok (number, rest) := by
  have read : readNumber 1 2 (fixed 2 number ++ rest) = _ :=
    readNumber_append 1 2 (isDigit_of_mem_fixed 2 number) (by simp) (by simp) (.inl (by simp))
  rw [value_fixed small] at read
  rw [readLoose, trimStart_fixed]
  exact read

theorem readLooseChar_cons {char : Char} (solid : Text.isBlank char = false) (rest : List Char) :
    readLooseChar char (char :: rest) = .ok ((), rest) := by
  rw [readLooseChar, trimStart_cons solid, readChar, if_pos rfl]

theorem readYear_fixed {number : Nat} (small : number < 10 ^ 4) (rest : List Char) :
    readYear (fixed 4 number ++ rest) = .ok ((number : Int), rest) := by
  have read : readNumber 1 4 (fixed 4 number ++ rest) = _ :=
    readNumber_append 1 4 (isDigit_of_mem_fixed 4 number) (by simp) (by simp) (.inl (by simp))
  rw [value_fixed small] at read
  rcases fixed_eq_cons 3 number with ⟨char, chars, written, digit⟩
  rw [readYear, trimStart_fixed]
  rw [written, List.cons_append] at read ⊢
  -- The first digit is no sign.
  split
  · next same =>
      cases (List.cons.inj same).1
      cases digit
  · next same =>
      cases (List.cons.inj same).1
      cases digit
  · rw [read]
    rfl

theorem readYear_writeYear (year : Int) (rest : List Char) :
    readYear (writeYear year ++ '-' :: rest) = .ok (year, '-' :: rest) := by
  have signed (number : Nat) : readNumber 1 (padded 4 number ++ '-' :: rest).length
      (padded 4 number ++ '-' :: rest) = .ok (number, '-' :: rest) := by
    rw [readNumber_append 1 _ (isDigit_of_mem_padded 4 number) (length_padded_pos 4 number)
      (by simp) (.inr (show Ends ('-' :: rest) from rfl)), value_padded]
  by_cases four : 0 ≤ year ∧ year ≤ 9999
  · have same : (year.toNat : Int) = year := by omega
    rw [writeYear, if_pos four, readYear_fixed (by omega), same]
  · rw [writeYear, if_neg four]
    by_cases negative : year < 0
    · have same : -(year.natAbs : Int) = year := by omega
      rw [if_pos negative, List.cons_append, readYear, trimStart_cons (by decide)]
      simp only [signed, bind, Except.bind, pure, Except.pure, same]
    · have same : (year.natAbs : Int) = year := by omega
      rw [if_neg negative, List.cons_append, readYear, trimStart_cons (by decide)]
      simp only [signed, bind, Except.bind, pure, Except.pure, same]

section

variable {zone : List Char}

/-- The shortest fraction loses nothing, in front of anything that continues neither a number
nor a fraction. -/
theorem readFraction_writeFraction {nano : Nat} (small : nano < 1000000000) (ends : Ends zone)
    (whole : readFraction zone = .ok (0, zone)) :
    readFraction (writeFraction nano .shortest ++ zone) = .ok (nano, zone) := by
  simp only [writeFraction]
  split
  · next zero =>
      rw [zero]
      exact whole
  · split
    · next millis =>
        have same : nano / 1000000 * 10 ^ (9 - 3) = nano := by omega
        rw [List.cons_append, readFraction_fixed (by decide) (by decide) (by omega) ends, same]
    · split
      · next micros =>
          have same : nano / 1000 * 10 ^ (9 - 6) = nano := by omega
          rw [List.cons_append, readFraction_fixed (by decide) (by decide) (by omega) ends, same]
      · have same : nano * 10 ^ (9 - 9) = nano := by omega
        rw [List.cons_append, readFraction_fixed (by decide) (by decide) (by omega) ends, same]

/-! ## The whole text -/

namespace Timestamp

theorem write_clock_append (clock : Clock) (style : FractionStyle) (zone : List Char) :
    clock.write style ++ zone = writeYear clock.date.year ++ '-' ::
      (fixed 2 clock.date.month ++ '-' :: (fixed 2 clock.date.day ++ 'T' ::
        (fixed 2 clock.hour ++ ':' :: (fixed 2 clock.minute ++ ':' ::
          (fixed 2 clock.second ++ (writeFraction clock.nano style ++ zone)))))) := by
  simp [Clock.write]

theorem readLenient_write (instant : Timestamp) (ends : Ends zone)
    (whole : readFraction zone = .ok (0, zone)) (utc : readZone zone = .ok (0, [])) :
    readLenient (String.ofList (instant.clock.write .shortest ++ zone)) = .ok instant := by
  have bounds := instant.clock_bounds
  have days := (Date.isValid_iff _).mp instant.isValid_date
  have length := Date.monthLength_bounds instant.clock.date.year days.1 days.2.1
  have month := @readLoose_fixed instant.clock.date.month (by omega)
  have day := @readLoose_fixed instant.clock.date.day (by omega)
  have hour := @readLoose_fixed instant.clock.hour (by omega)
  have minute := @readLoose_fixed instant.clock.minute (by omega)
  have second := @readLoose_fixed instant.clock.second (by omega)
  have hyphen := @readLooseChar_cons '-' (by decide)
  have colon := @readLooseChar_cons ':' (by decide)
  have nano := readFraction_writeFraction bounds.2.2.2 ends whole
  have trimmed : (Text.trimStart []).isEmpty = true := rfl
  rw [readLenient, String.toList_ofList, write_clock_append]
  simp only [readYear_writeYear, month, day, hour, minute, second, hyphen, colon, nano, utc,
    trimmed, readDateEnd, true_or, if_true, bind, Except.bind, Bool.not_true, Bool.false_eq_true,
    if_false, Int.natAbs_zero, pure, Except.pure, instant.instant?_clock]
  exact if_neg (by decide)

theorem readLenient_text (instant : Timestamp) : readLenient instant.text = .ok instant :=
  instant.readLenient_write rfl rfl rfl

theorem readLenient_offsetText (instant : Timestamp) :
    readLenient instant.offsetText = .ok instant :=
  instant.readLenient_write rfl rfl rfl

end Timestamp

end

end Time

end StrongAuth
