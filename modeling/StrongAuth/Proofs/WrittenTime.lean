import Mathlib.Data.List.TakeWhile
import Mathlib.Data.String.Basic
import StrongAuth.Proofs.Calendar
import StrongAuth.Time.Reading
import StrongAuth.Time.Written

/-! # Timestamps as text

Main statements: in the years 0 to 9999 the text of a timestamp to the microsecond is read
back as the timestamp without what lies below a microsecond, and the order of such texts is the
order of these timestamps. -/

namespace StrongAuth

/-! ## Digits of fixed width -/

namespace Decimal

variable {width number left right : Nat} {rest leftRest rightRest : List Char}

@[simp] theorem length_fixed (width number : Nat) : (fixed width number).length = width := by
  induction width generalizing number with
  | zero => rfl
  | succ width induction => simp [fixed, induction]

theorem isDigit_of_mem_fixed (width number : Nat) :
    ∀ char ∈ fixed width number, isDigit char = true := by
  induction width generalizing number with
  | zero => exact nofun
  | succ width induction =>
      intro char member
      rcases List.mem_append.mp member with member | member
      · exact induction _ char member
      · exact List.mem_singleton.mp member ▸ isDigit_digitChar number

theorem value_fixed (small : number < 10 ^ width) : value (fixed width number) = number := by
  induction width generalizing number with
  | zero =>
      rw [Nat.pow_zero] at small
      have zero : number = 0 := by omega
      rw [zero]
      rfl
  | succ width induction =>
      rw [Nat.pow_succ] at small
      rw [fixed, value_append_digit, induction (by omega)]
      omega

theorem toNat_digitChar (digit : Nat) : (digitChar digit).toNat = 48 + digit % 10 := by
  have table : ∀ small < 10, (Char.ofNat (48 + small)).toNat = 48 + small := by decide
  exact table (digit % 10) (Nat.mod_lt _ (by decide))

theorem digitChar_lt_iff {leftDigit rightDigit : Nat} :
    digitChar leftDigit < digitChar rightDigit ↔ leftDigit % 10 < rightDigit % 10 := by
  have codes : digitChar leftDigit < digitChar rightDigit ↔
      (digitChar leftDigit).toNat < (digitChar rightDigit).toNat := Iff.rfl
  rw [codes, toNat_digitChar, toNat_digitChar]
  omega

theorem digitChar_inj {leftDigit rightDigit : Nat} :
    digitChar leftDigit = digitChar rightDigit ↔ leftDigit % 10 = rightDigit % 10 := by
  constructor
  · intro same
    have codes := congrArg Char.toNat same
    rw [toNat_digitChar, toNat_digitChar] at codes
    omega
  · intro same
    rw [digitChar, digitChar, same]

theorem fixed_append_lt_iff (leftSmall : left < 10 ^ width) (rightSmall : right < 10 ^ width) :
    fixed width left ++ leftRest < fixed width right ++ rightRest ↔
      left < right ∨ left = right ∧ leftRest < rightRest := by
  induction width generalizing left right leftRest rightRest with
  | zero =>
      rw [Nat.pow_zero] at leftSmall rightSmall
      have same : left = right := by omega
      simp [fixed, same]
  | succ width induction =>
      rw [Nat.pow_succ] at leftSmall rightSmall
      rw [fixed, fixed, List.append_assoc, List.append_assoc,
        induction (by omega) (by omega), List.singleton_append, List.singleton_append,
        List.cons_lt_cons_iff, digitChar_lt_iff, digitChar_inj]
      by_cases tail : leftRest < rightRest <;> simp only [tail, and_true, and_false, or_false] <;>
        omega

end Decimal

namespace Time

open Decimal

/-! ## Readers -/

def Ends (rest : List Char) : Prop :=
  rest.head?.all (fun char => !isDigit char) = true

theorem takeWhile_take_append {numeral rest : List Char} (most : Nat)
    (digits : ∀ char ∈ numeral, isDigit char = true) (within : numeral.length ≤ most)
    (ends : numeral.length = most ∨ Ends rest) :
    ((numeral ++ rest).take most).takeWhile isDigit = numeral := by
  rw [List.take_append, List.take_of_length_le within, List.takeWhile_append_of_pos digits]
  rcases ends with full | ends
  · rw [full, Nat.sub_self, List.take_zero, List.takeWhile_nil, List.append_nil]
  · cases most - numeral.length with
    | zero => rw [List.take_zero, List.takeWhile_nil, List.append_nil]
    | succ room =>
        cases rest with
        | nil => simp
        | cons char rest =>
            have other : isDigit char = false := by simpa [Ends] using ends
            simp [other]

theorem readNumber_append {numeral rest : List Char} (least most : Nat)
    (digits : ∀ char ∈ numeral, isDigit char = true) (enough : least ≤ numeral.length)
    (within : numeral.length ≤ most) (ends : numeral.length = most ∨ Ends rest) :
    readNumber least most (numeral ++ rest) = .ok (value numeral, rest) := by
  have long : ¬ numeral.length < least := by omega
  simp only [readNumber, takeWhile_take_append most digits within ends, long, if_false, List.drop_left]

theorem readNumber_fixed {width number : Nat} (small : number < 10 ^ width) (rest : List Char) :
    readNumber width width (fixed width number ++ rest) = .ok (number, rest) := by
  rw [readNumber_append width width (isDigit_of_mem_fixed width number) (by simp) (by simp)
    (.inl (by simp)), value_fixed small]

theorem readFraction_fixed {width number : Nat} (positive : 1 ≤ width) (within : width ≤ 9)
    (small : number < 10 ^ width) {rest : List Char} (ends : Ends rest) :
    readFraction ('.' :: (fixed width number ++ rest)) = .ok (number * 10 ^ (9 - width), rest) := by
  have digits := isDigit_of_mem_fixed width number
  have read := readNumber_append 1 9 digits (by simpa) (by simpa) (.inr ends)
  have counted := takeWhile_take_append 9 digits (by simpa) (.inr ends)
  have left : (fixed width number ++ rest).dropWhile isDigit = rest := by
    rw [List.dropWhile_append_of_pos digits]
    cases rest with
    | nil => rfl
    | cons char rest =>
        have other : isDigit char = false := by simpa [Ends] using ends
        simp [other]
  simp only [readFraction, read, counted, left, bind, Except.bind, pure, Except.pure,
    value_fixed small, length_fixed]
  rfl

/-! ## Clock readings -/

namespace Timestamp

variable {instant : Timestamp}

def FourDigits (instant : Timestamp) : Prop :=
  0 ≤ instant.clock.date.year ∧ instant.clock.date.year ≤ 9999

instance (instant : Timestamp) : Decidable instant.FourDigits :=
  inferInstanceAs (Decidable (_ ∧ _))

theorem isValid_date (instant : Timestamp) : instant.clock.date.isValid = true :=
  Date.isValid_ofDayNumber _

theorem clock_bounds (instant : Timestamp) : instant.clock.hour ≤ 23 ∧
    instant.clock.minute ≤ 59 ∧ instant.clock.second ≤ 60 ∧ instant.clock.nano < 1000000000 := by
  have nano := instant.nano_lt
  simp only [clock]
  split <;> omega

theorem year_bounds (instant : Timestamp) :
    -262143 ≤ instant.clock.date.year ∧ instant.clock.date.year ≤ 262142 := by
  have valid := instant.isValid_date
  have parts := (Date.isValid_iff _).mp valid
  have length := Date.monthLength_bounds instant.clock.date.year parts.1 parts.2.1
  have day : instant.clock.date.dayNumber = instant.second / 86400 :=
    Date.dayNumber_ofDayNumber _
  have earliest := instant.earliest_le
  have latest := instant.le_latest
  simp only [earliestSecond, latestSecond] at earliest latest
  have notEarlier : ¬ instant.clock.date.Before ⟨-262143, 1, 1⟩ := by
    rw [← Date.dayNumber_lt_iff valid (by decide), day,
      show (Date.mk (-262143) 1 1).dayNumber = -96465292 by decide]
    omega
  have notLater : ¬ (Date.mk 262142 12 31).Before instant.clock.date := by
    rw [← Date.dayNumber_lt_iff (by decide) valid, day,
      show (Date.mk 262142 12 31).dayNumber = 95026236 by decide]
    omega
  simp only [Date.Before, Date.monthIndex] at notEarlier notLater
  omega

theorem isValid_clock (instant : Timestamp) : instant.clock.isValid = true := by
  have bounds := instant.clock_bounds
  have date := instant.isValid_date
  have year := instant.year_bounds
  simp only [Clock.isValid, date, Bool.true_and, Bool.and_eq_true, decide_eq_true_eq]
  omega

@[simp] theorem ofCounts?_self (instant : Timestamp) :
    ofCounts? instant.second instant.nano = some instant :=
  dif_pos ⟨instant.earliest_le, instant.le_latest, instant.nano_lt, instant.leap_at_minute_end⟩

theorem instant?_clock (instant : Timestamp) : instant.clock.instant? 0 = some instant := by
  have day : instant.clock.date.dayNumber = instant.second / 86400 :=
    Date.dayNumber_ofDayNumber _
  have leap := instant.leap_at_minute_end
  rw [Clock.instant?, if_pos instant.isValid_clock, day]
  simp only [clock]
  by_cases leaping : 1000000000 ≤ instant.nano
  · have last := leap leaping
    have sixty : (instant.second % 86400).toNat % 60 + 1 = 60 := by omega
    simp only [leaping, if_true, sixty, beq_self_eq_true]
    rw [← ofCounts?_self instant]
    congr 1 <;> omega
  · have other : ((instant.second % 86400).toNat % 60 + 0 == 60) = false := by
      rw [beq_eq_false_iff_ne]
      omega
    simp only [leaping, if_false, other, Bool.false_eq_true]
    rw [← ofCounts?_self instant]
    congr 1
    omega

@[simp] theorem clock_truncateMicros (instant : Timestamp) :
    instant.truncateMicros.clock =
      { instant.clock with nano := instant.clock.nano / 1000 * 1000 } := by
  have leaping : 1000000000 ≤ instant.nano / 1000 * 1000 ↔ 1000000000 ≤ instant.nano := by omega
  simp only [clock, truncateMicros, leaping]
  split
  · simp
    omega
  · rfl

theorem toList_microsText (year : instant.FourDigits) :
    let clock := instant.clock
    instant.microsText.toList = fixed 4 clock.date.year.toNat ++ '-' ::
      (fixed 2 clock.date.month ++ '-' :: (fixed 2 clock.date.day ++ 'T' ::
        (fixed 2 clock.hour ++ ':' :: (fixed 2 clock.minute ++ ':' ::
          (fixed 2 clock.second ++ '.' :: (fixed 6 (clock.nano / 1000) ++ ['Z'])))))) := by
  have four : 0 ≤ instant.clock.date.year ∧ instant.clock.date.year ≤ 9999 := year
  simp [microsText, Clock.write, writeYear, writeFraction, four]

theorem length_le_utf8Len (chars : List Char) : chars.length ≤ String.utf8Len chars := by
  induction chars with
  | nil => exact Nat.le_refl _
  | cons char chars induction =>
      have positive := char.utf8Size_pos
      rw [List.length_cons, String.utf8Len_cons]
      omega

theorem readStrict_microsText (year : instant.FourDigits) :
    readStrict instant.microsText = .ok instant.truncateMicros := by
  have four : 0 ≤ instant.clock.date.year ∧ instant.clock.date.year ≤ 9999 := year
  have bounds := instant.clock_bounds
  have date := instant.isValid_date
  have days := (Date.isValid_iff _).mp date
  have length := Date.monthLength_bounds instant.clock.date.year days.1 days.2.1
  have instants := instant.truncateMicros.instant?_clock
  have valid := instant.truncateMicros.isValid_clock
  rw [clock_truncateMicros] at instants valid
  have long : ¬ instant.microsText.utf8ByteSize < 19 := by
    have size := length_le_utf8Len instant.microsText.toList
    have width : instant.microsText.toList.length = 27 := by
      rw [toList_microsText year]
      simp
    rw [width, ← String.utf8ByteSize_ofList, String.ofList_toList] at size
    omega
  have yearRead := @readNumber_fixed 4 instant.clock.date.year.toNat (by omega)
  have monthRead := @readNumber_fixed 2 instant.clock.date.month (by omega)
  have dayRead := @readNumber_fixed 2 instant.clock.date.day (by omega)
  have hourRead := @readNumber_fixed 2 instant.clock.hour (by omega)
  have minuteRead := @readNumber_fixed 2 instant.clock.minute (by omega)
  have secondRead := @readNumber_fixed 2 instant.clock.second (by omega)
  have nanoRead : readFraction ('.' :: (fixed 6 (instant.clock.nano / 1000) ++ ['Z'])) =
      .ok (instant.clock.nano / 1000 * 1000, ['Z']) :=
    readFraction_fixed (by decide) (by decide) (by omega) rfl
  have yearSame : (instant.clock.date.year.toNat : Int) = instant.clock.date.year := by omega
  rw [readStrict, if_neg long, toList_microsText year]
  simp only [readTwo, yearRead, monthRead, dayRead, hourRead, minuteRead, secondRead, nanoRead,
    bind, Except.bind, readChar, readDateEnd, if_true, yearSame, date, Bool.not_true,
    Bool.false_eq_true, if_false, pure, Except.pure, true_or, valid, readOffset, List.isEmpty_nil,
    Int.natAbs_zero, instants]
  exact if_neg (by decide)

/-- Another year has a sign in front, which comes before all digits. -/
theorem toList_microsText_of_signed (signed : ¬ instant.FourDigits) : ∃ sign rest,
    instant.microsText.toList = sign :: rest ∧ sign.toNat < 48 := by
  have outside : ¬ (0 ≤ instant.clock.date.year ∧ instant.clock.date.year ≤ 9999) := signed
  let sign := if instant.clock.date.year < 0 then '-' else '+'
  have first : instant.microsText.toList.head? = some sign := by
    simp [microsText, Clock.write, writeYear, outside, sign]
  rcases List.head?_eq_some_iff.mp first with ⟨rest, chars⟩
  refine ⟨sign, rest, chars, ?_⟩
  unfold sign
  split <;> decide

theorem readStrict_microsText_of_signed (signed : ¬ instant.FourDigits) :
    readStrict instant.microsText = .error .invalid := by
  have outside : ¬ (0 ≤ instant.clock.date.year ∧ instant.clock.date.year ≤ 9999) := signed
  have long : 19 ≤ instant.microsText.toList.length := by
    simp [microsText, Clock.write, writeYear, outside, writeFraction]
  have size := length_le_utf8Len instant.microsText.toList
  rw [← String.utf8ByteSize_ofList, String.ofList_toList] at size
  have enough : ¬ instant.microsText.utf8ByteSize < 19 := by omega
  rcases toList_microsText_of_signed signed with ⟨sign, rest, chars, below⟩
  have noDigit : isDigit sign = false := by
    simp [isDigit, digitValue?, Nat.not_le_of_lt below]
  have read : readNumber 4 4 (sign :: rest) = .error .invalid := by
    simp [readNumber, noDigit]
  rw [readStrict, if_neg enough, chars, read]
  rfl

/-! ## Order -/

theorem date_before_iff (left right : Timestamp) :
    left.clock.date.Before right.clock.date ↔ left.second / 86400 < right.second / 86400 := by
  rw [← Date.dayNumber_lt_iff left.isValid_date right.isValid_date]
  exact iff_of_eq (congrArg₂ _ (Date.dayNumber_ofDayNumber _) (Date.dayNumber_ofDayNumber _))

def TimeBefore (left right : Clock) : Prop :=
  left.hour < right.hour ∨ left.hour = right.hour ∧
    (left.minute < right.minute ∨ left.minute = right.minute ∧
      (left.second < right.second ∨ left.second = right.second ∧
        left.nano / 1000 < right.nano / 1000))

/-- The order of texts is that of dates, and on one day that of times. -/
theorem microsText_lt_iff_clock {left right : Timestamp} (leftYear : left.FourDigits)
    (rightYear : right.FourDigits) :
    left.microsText < right.microsText ↔ left.clock.date.Before right.clock.date ∨
      ¬ right.clock.date.Before left.clock.date ∧ TimeBefore left.clock right.clock := by
  have leftFour : 0 ≤ left.clock.date.year ∧ left.clock.date.year ≤ 9999 := leftYear
  have rightFour : 0 ≤ right.clock.date.year ∧ right.clock.date.year ≤ 9999 := rightYear
  have leftBounds := left.clock_bounds
  have rightBounds := right.clock_bounds
  have leftDays := (Date.isValid_iff _).mp left.isValid_date
  have rightDays := (Date.isValid_iff _).mp right.isValid_date
  have leftLength := Date.monthLength_bounds left.clock.date.year leftDays.1 leftDays.2.1
  have rightLength := Date.monthLength_bounds right.clock.date.year rightDays.1 rightDays.2.1
  rw [String.lt_iff, toList_microsText leftYear, toList_microsText rightYear]
  rw [fixed_append_lt_iff (by omega) (by omega), List.cons_lt_cons_iff,
    fixed_append_lt_iff (by omega) (by omega), List.cons_lt_cons_iff,
    fixed_append_lt_iff (by omega) (by omega), List.cons_lt_cons_iff,
    fixed_append_lt_iff (by omega) (by omega), List.cons_lt_cons_iff,
    fixed_append_lt_iff (by omega) (by omega), List.cons_lt_cons_iff,
    fixed_append_lt_iff (by omega) (by omega), List.cons_lt_cons_iff,
    fixed_append_lt_iff (by omega) (by omega)]
  simp only [Date.Before, Date.monthIndex, TimeBefore, lt_self_iff_false, false_or, true_and,
    and_false, or_false]
  omega

theorem lt_iff {left right : Timestamp} :
    left < right ↔
      left.second < right.second ∨ left.second = right.second ∧ left.nano < right.nano := by
  change left.before right = true ↔ _
  simp [before]

/-- The texts of timestamps to the microsecond are ordered as these timestamps. -/
theorem microsText_lt_iff {left right : Timestamp} (leftYear : left.FourDigits)
    (rightYear : right.FourDigits) :
    left.microsText < right.microsText ↔ left.truncateMicros < right.truncateMicros := by
  rw [microsText_lt_iff_clock leftYear rightYear, date_before_iff, date_before_iff, lt_iff]
  have leftLeap := left.leap_at_minute_end
  have rightLeap := right.leap_at_minute_end
  have leftNano := left.nano_lt
  have rightNano := right.nano_lt
  simp only [TimeBefore, clock, truncateMicros]
  split <;> split <;> omega

/-- A sign stands in front of every digit, so a year outside 0 to 9999 comes first as text. -/
theorem microsText_lt_of_signed {left right : Timestamp} (signed : ¬ left.FourDigits)
    (year : right.FourDigits) : left.microsText < right.microsText := by
  rcases toList_microsText_of_signed signed with ⟨sign, rest, chars, below⟩
  have width := length_fixed 4 right.clock.date.year.toNat
  have digits := isDigit_of_mem_fixed 4 right.clock.date.year.toNat
  rw [String.lt_iff, chars, toList_microsText year]
  cases written : fixed 4 right.clock.date.year.toNat with
  | nil =>
      rw [written] at width
      cases width
  | cons digit others =>
      rw [written] at digits
      have first : 48 ≤ digit.toNat := by
        have isOne := digits digit List.mem_cons_self
        simp only [isDigit, digitValue?, Option.isSome_ite] at isOne
        exact isOne.1
      rw [List.cons_append, List.cons_lt_cons_iff]
      exact .inl (Nat.lt_of_lt_of_le below first)

/-! ## Timestamps that lose nothing -/

theorem fourDigits_truncateMicros : instant.truncateMicros.FourDigits ↔ instant.FourDigits := by
  unfold FourDigits
  rw [clock_truncateMicros]

/-- The text to the microsecond does not say what lies below. -/
theorem microsText_truncateMicros (instant : Timestamp) :
    instant.truncateMicros.microsText = instant.microsText := by
  have cut : instant.clock.nano / 1000 * 1000 / 1000 = instant.clock.nano / 1000 := by omega
  simp only [microsText, Clock.write, clock_truncateMicros, writeFraction, cut]

/-- The text to the microsecond says all of the timestamp: its year has four digits, and nothing
lies below a microsecond. -/
structure Storable (instant : Timestamp) : Prop where
  year : instant.FourDigits
  micros : instant.nano % 1000 = 0

instance (instant : Timestamp) : Decidable instant.Storable :=
  decidable_of_iff (instant.FourDigits ∧ instant.nano % 1000 = 0)
    ⟨fun both => ⟨both.1, both.2⟩, fun storable => ⟨storable.year, storable.micros⟩⟩

namespace Storable

theorem of_truncateMicros (year : instant.FourDigits) : instant.truncateMicros.Storable where
  year := fourDigits_truncateMicros.mpr year
  micros := Nat.mul_mod_left _ _

theorem truncateMicros_eq (storable : instant.Storable) : instant.truncateMicros = instant := by
  have micros := storable.micros
  rcases instant with ⟨second, nano, _, _, _, _⟩
  simp only [truncateMicros, Timestamp.mk.injEq, true_and]
  dsimp only at micros
  omega

theorem readStrict (storable : instant.Storable) :
    Time.readStrict instant.microsText = .ok instant := by
  rw [readStrict_microsText storable.year, storable.truncateMicros_eq]

theorem microsText_lt_iff {left right : Timestamp} (leftStorable : left.Storable)
    (rightStorable : right.Storable) : left.microsText < right.microsText ↔ left < right := by
  rw [Timestamp.microsText_lt_iff leftStorable.year rightStorable.year,
    leftStorable.truncateMicros_eq, rightStorable.truncateMicros_eq]

end Storable

end Timestamp

end Time

end StrongAuth
