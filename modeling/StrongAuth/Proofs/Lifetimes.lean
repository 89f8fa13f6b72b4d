import StrongAuth.Node.Worker
import StrongAuth.Proofs.Outcome
import StrongAuth.Proofs.WrittenTime

/-! # Lifetimes and intervals

Checking a configuration looks neither at its lifetimes nor at the interval of its worker. Main
statement: a configuration can be computed with at some time exactly if the calendar has room for
both lifetimes from then on and the interval, if there is one, is positive. A lifetime without
room has no end, or ends before it begins. -/

namespace StrongAuth

/-! ## Whole seconds -/

namespace Time.Timestamp

variable {now later : Timestamp} {seconds : Int}

theorem ofCounts?_eq_some_iff {second : Int} {nano : Nat} :
    ofCounts? second nano = some later ↔ later.second = second ∧ later.nano = nano := by
  constructor
  · intro found
    unfold ofCounts? at found
    split at found
    · cases found
      exact ⟨rfl, rfl⟩
    · cases found
  · rintro ⟨rfl, rfl⟩
    exact ofCounts?_self later

theorem shiftSeconds?_zero (now : Timestamp) : now.shiftSeconds? 0 = some now := by
  have nano := now.nano_lt
  by_cases leaping : 1000000000 ≤ now.nano
  · simp [shiftSeconds?, shift?, leaping, nano]
  · have small : (now.nano : Int) / 1000000000 = 0 := by omega
    have same : ((now.nano : Int) % 1000000000).toNat = now.nano := by omega
    simp [shiftSeconds?, shift?, leaping, small, same]

/-- Whoever leaves a leap second backwards leaves it from its end. -/
theorem shiftSeconds?_of_ne (moves : seconds ≠ 0) :
    now.shiftSeconds? seconds = ofCounts?
      ((if 1000000000 ≤ now.nano ∧ seconds < 0 then now.second + 1 else now.second) + seconds)
      (now.nano % 1000000000) := by
  have nano := now.nano_lt
  have whole : (seconds * 1000000000).tdiv 1000000000 = seconds :=
    Int.mul_tdiv_cancel _ (by decide)
  have rest : (seconds * 1000000000).tmod 1000000000 = 0 := Int.mul_tmod_left _ _
  have moved : (seconds == 0) = false := beq_eq_false_iff_ne.mpr moves
  unfold shiftSeconds? shift?
  simp only [whole, rest, moved, Bool.and_false, Bool.false_and, Bool.false_eq_true, if_false,
    Bool.or_false, Bool.and_eq_true, decide_eq_true_eq, Bool.not_eq_true', decide_eq_false_iff_not]
  congr 1
  · split <;> split <;> omega
  · split <;> omega

theorem isSome_shiftSeconds?_iff (forward : 0 ≤ seconds) :
    (∃ later, now.shiftSeconds? seconds = some later ∧ ¬ later < now) ↔
      now.second + seconds ≤ latestSecond := by
  have earliest := now.earliest_le
  have latest := now.le_latest
  have nano := now.nano_lt
  rcases Int.lt_or_eq_of_le forward with forward | rfl
  · rw [shiftSeconds?_of_ne (by omega), if_neg (by omega)]
    constructor
    · rintro ⟨later, found, _⟩
      have reached := later.le_latest
      rw [ofCounts?_eq_some_iff] at found
      omega
    · intro room
      have valid : earliestSecond ≤ now.second + seconds ∧ now.second + seconds ≤ latestSecond ∧
          now.nano % 1000000000 < 2000000000 ∧
          (1000000000 ≤ now.nano % 1000000000 → (now.second + seconds) % 60 = 59) := by omega
      refine ⟨_, dif_pos valid, ?_⟩
      rw [lt_iff]
      dsimp only
      omega
  · simp only [shiftSeconds?_zero, Option.some.injEq, lt_iff]
    constructor
    · intro _
      omega
    · intro _
      exact ⟨now, rfl, by omega⟩

theorem lt_of_shiftSeconds? (back : seconds < 0)
    (found : now.shiftSeconds? seconds = some later) : later < now := by
  have nano := now.nano_lt
  rw [shiftSeconds?_of_ne (by omega), ofCounts?_eq_some_iff] at found
  rw [lt_iff]
  split at found <;> omega

/-- The years before the year ten thousand end with this second. -/
theorem second_le_of_year {now : Timestamp} (year : now.clock.date.year ≤ 9999) :
    now.second ≤ 253402300799 := by
  have valid := now.isValid_date
  have parts := (Date.isValid_iff _).mp valid
  have notLater : ¬ (Date.mk 9999 12 31).Before now.clock.date := by
    have length := Date.monthLength_bounds now.clock.date.year parts.1 parts.2.1
    simp only [Date.Before, Date.monthIndex]
    omega
  rw [← Date.dayNumber_lt_iff (by decide) valid] at notLater
  have day : now.clock.date.dayNumber = now.second / 86400 := Date.dayNumber_ofDayNumber _
  have last : (Date.mk 9999 12 31).dayNumber = 2932896 := by decide
  omega

end Time.Timestamp

/-! ## Lifetimes -/

namespace Config

open Time

variable {config : Config} {now : Timestamp} {seconds : UInt64}

theorem toInt_toInt64 (seconds : UInt64) :
    seconds.toInt64.toInt = (seconds.toNat : Int).bmod 18446744073709551616 :=
  BitVec.toInt_eq_toNat_bmod _

theorem duration?_of_le (small : seconds.toNat ≤ 9223372036854775) :
    duration? seconds = some (seconds.toNat : Int) := by
  have signed : seconds.toInt64.toInt = seconds.toNat := by
    rw [toInt_toInt64]
    exact Int.bmod_eq_of_le (by omega) (by omega)
  simp only [duration?, signed, maxDuration]
  rw [if_pos (by omega)]

/-- Beyond it there is no duration, or one that counts backwards. -/
theorem neg_of_duration? (large : 9223372036854775 < seconds.toNat) {lifetime : Int}
    (found : duration? seconds = some lifetime) : lifetime < 0 := by
  have bound := seconds.toNat_lt
  have wrapped : (seconds.toNat : Int).bmod 18446744073709551616 < 0 ∨
      9223372036854775 < (seconds.toNat : Int).bmod 18446744073709551616 := by
    simp only [Int.bmod]
    split <;> omega
  simp only [duration?, toInt_toInt64, maxDuration, Option.ite_none_right_eq_some,
    Option.some.injEq] at found
  omega

def deadline? (seconds : UInt64) (now : Timestamp) : Option Timestamp := do
  now.shiftSeconds? (← duration? seconds)

def HasRoom (now : Timestamp) (seconds : UInt64) : Prop :=
  now.second + seconds.toNat ≤ latestSecond

instance (now : Timestamp) (seconds : UInt64) : Decidable (HasRoom now seconds) :=
  inferInstanceAs (Decidable (_ ≤ _))

theorem HasRoom.small (room : HasRoom now seconds) : seconds.toNat ≤ 9223372036854775 := by
  have earliest := now.earliest_le
  simp only [HasRoom, latestSecond, earliestSecond] at room earliest
  omega

theorem HasRoom.ends (room : HasRoom now seconds) :
    ∃ later, now.shiftSeconds? seconds.toNat = some later ∧ ¬ later < now :=
  (Timestamp.isSome_shiftSeconds?_iff (Int.natCast_nonneg _)).mpr room

/-- A lifetime without room ends before it begins, if at all. -/
theorem lt_of_deadline? (noRoom : ¬ HasRoom now seconds) {later : Timestamp}
    (found : deadline? seconds now = some later) : later < now := by
  rcases Option.bind_eq_some_iff.mp found with ⟨lifetime, counts, reached⟩
  by_cases small : seconds.toNat ≤ 9223372036854775
  · rw [duration?_of_le small] at counts
    cases counts
    by_contra notBefore
    exact noRoom ((Timestamp.isSome_shiftSeconds?_iff (Int.natCast_nonneg _)).mp
      ⟨later, reached, notBefore⟩)
  · exact Timestamp.lt_of_shiftSeconds? (neg_of_duration? (by omega) counts) reached

/-! ## Authorisations of a configuration -/

def open? (config : Config) (id : String) (resource : Resource) (psu : Option Psu)
    (approach : Approach) (now : Timestamp) : Option Authorisation := do
  let redirectLifetime ← duration? config.redirectLifetime
  let lifetime ← duration? config.authorisationLifetime
  Authorisation.open? id resource psu approach (redirectLifetime * 1000000000)
    (lifetime * 1000000000) now

theorem deadlines_of_open? {id : String} {resource : Resource} {psu : Option Psu}
    {approach : Approach} {record : Authorisation}
    (opened : config.open? id resource psu approach now = some record) :
    deadline? config.redirectLifetime now = some record.redirectDeadline ∧
      deadline? config.authorisationLifetime now = some record.deadline := by
  simp only [open?, Authorisation.open?, Option.bind_eq_bind, Option.bind_eq_some_iff] at opened
  rcases opened with ⟨redirectLifetime, redirectCounts, lifetime, counts, redirectDeadline,
    redirectReached, deadline, reached, whole⟩
  cases whole
  exact ⟨Option.bind_eq_some_iff.mpr ⟨_, redirectCounts, redirectReached⟩,
    Option.bind_eq_some_iff.mpr ⟨_, counts, reached⟩⟩

def Fits (config : Config) (now : Timestamp) : Prop :=
  HasRoom now config.redirectLifetime ∧ HasRoom now config.authorisationLifetime

/-- Whether a configuration can be computed with: lifetimes are taken as they are, authorisations
can be opened and are not expired at once, and a worker that is to run has an interval. -/
structure Usable (config : Config) (now : Timestamp) : Prop where
  redirectLifetime :
    duration? config.redirectLifetime = some (config.redirectLifetime.toNat : Int)
  lifetime :
    duration? config.authorisationLifetime = some (config.authorisationLifetime.toNat : Int)
  opens : ∀ id resource psu approach, ∃ record,
    config.open? id resource psu approach now = some record ∧ record.isExpired now = false
  interval : ∀ seconds, config.sweepInterval = some seconds → 0 < seconds.toNat

theorem opens_of_fits (fits : config.Fits now) (id : String) (resource : Resource)
    (psu : Option Psu) (approach : Approach) : ∃ record,
    config.open? id resource psu approach now = some record ∧ record.isExpired now = false := by
  rcases fits.1.ends with ⟨redirectDeadline, redirectReached, redirectLater⟩
  rcases fits.2.ends with ⟨deadline, reached, later⟩
  unfold Timestamp.shiftSeconds? at redirectReached reached
  simp only [open?, Authorisation.open?, duration?_of_le fits.1.small,
    duration?_of_le fits.2.small, Option.bind_eq_bind, Option.bind_some, redirectReached, reached]
  exact ⟨_, rfl, by simp [Authorisation.isExpired, redirectLater, later]⟩

theorem isExpired_of_not_fits (noRoom : ¬ config.Fits now) {id : String} {resource : Resource}
    {psu : Option Psu} {approach : Approach} {record : Authorisation}
    (opened : config.open? id resource psu approach now = some record) :
    record.isExpired now = true := by
  rcases deadlines_of_open? opened with ⟨redirectEnds, ends⟩
  simp only [Authorisation.isExpired, Bool.or_eq_true, decide_eq_true_eq]
  by_cases redirectRoom : HasRoom now config.redirectLifetime
  · exact .inr (lt_of_deadline? (fun room => noRoom ⟨redirectRoom, room⟩) ends)
  · exact .inl (lt_of_deadline? redirectRoom redirectEnds)

theorem positive_iff : (∀ seconds, config.sweepInterval = some seconds → 0 < seconds.toNat) ↔
    config.sweepInterval ≠ some 0 := by
  constructor
  · intro positive zero
    exact Nat.lt_irrefl 0 (positive 0 zero)
  · intro positive seconds configured
    refine Nat.pos_of_ne_zero fun zero => positive ?_
    rw [configured, ← UInt64.toNat_inj.mp (show seconds.toNat = (0 : UInt64).toNat from zero)]

theorem usable_iff_fits : config.Usable now ↔ config.Fits now ∧ config.sweepInterval ≠ some 0 := by
  constructor
  · intro usable
    refine ⟨?_, positive_iff.mp usable.interval⟩
    by_contra noRoom
    rcases usable.opens "" default none .embedded with ⟨record, opened, lasting⟩
    rw [isExpired_of_not_fits noRoom opened] at lasting
    cases lasting
  · rintro ⟨fits, positive⟩
    exact ⟨duration?_of_le fits.1.small, duration?_of_le fits.2.small, opens_of_fits fits,
      positive_iff.mpr positive⟩

/-! ## Nodes -/

theorem lifetimeOf_eq_ok_iff {lifetime : Int} : Node.lifetimeOf seconds = .ok lifetime ↔
    ∃ counted, duration? seconds = some counted ∧ lifetime = counted * 1000000000 := by
  unfold Node.lifetimeOf
  cases duration? seconds <;> simp [eq_comm]

theorem settings_of_ofConfig {checks : Option (List Check)} {node : Node}
    (built : Node.ofConfig config checks = .ok node) :
    Node.lifetimeOf config.redirectLifetime = .ok node.redirectLifetime ∧
      Node.lifetimeOf config.authorisationLifetime = .ok node.lifetime ∧
      node.sweepInterval = config.sweepInterval := by
  simp only [Node.ofConfig, bind_eq_ok_iff] at built
  rcases built with ⟨_, _, links, _, redirectLifetime, redirectCounts, lifetime, counts, whole⟩
  cases whole
  exact ⟨redirectCounts, counts, rfl⟩

/-- A node opens authorisations with the lifetimes of its configuration, and its worker breaks
down exactly if the interval is zero. -/
theorem node_of_config {checks : Option (List Check)} {node : Node}
    (built : Node.ofConfig config checks = .ok node) :
    (∀ id resource psu approach now,
      Authorisation.open? id resource psu approach node.redirectLifetime node.lifetime now =
        config.open? id resource psu approach now) ∧
      (node.workerStart = .broken ↔ config.sweepInterval = some 0) := by
  rcases settings_of_ofConfig built with ⟨redirectCounts, counts, interval⟩
  rcases lifetimeOf_eq_ok_iff.mp redirectCounts with ⟨redirectLifetime, redirectCounts, redirect⟩
  rcases lifetimeOf_eq_ok_iff.mp counts with ⟨lifetime, counts, overall⟩
  refine ⟨fun id resource psu approach now => ?_, ?_⟩
  · rw [open?, redirectCounts, counts, redirect, overall]
    rfl
  · rw [Node.workerStart, interval]
    cases config.sweepInterval with
    | none => simp
    | some seconds =>
        by_cases zero : seconds = 0 <;> simp [zero]

/-! ## Checked configurations -/

/-- A configuration is checked without a look at its lifetimes and its interval. It can be computed
with at some time exactly if the calendar has room for both lifetimes from then on and the
interval, if there is one, is positive; so it can throughout the years 1970 to 9999 exactly if
neither lifetime is longer than from there to the end of the calendar. Without room, there is no
authorisation, or one that is expired at once; without an interval, the worker breaks down. -/
theorem usable_iff (config : Config) :
    (∀ redirectLifetime authorisationLifetime sweepInterval,
      ({ config with redirectLifetime, authorisationLifetime, sweepInterval } : Config).validate =
        config.validate) ∧
    (∀ now, config.Usable now ↔ config.Fits now ∧ config.sweepInterval ≠ some 0) ∧
    ((∀ now : Timestamp, 1970 ≤ now.clock.date.year → now.clock.date.year ≤ 9999 →
        config.Usable now) ↔
      config.redirectLifetime.toNat ≤ 7956864576000 ∧
        config.authorisationLifetime.toNat ≤ 7956864576000 ∧ config.sweepInterval ≠ some 0) ∧
    (∀ now, ¬ config.Fits now → ∀ id resource psu approach record,
      config.open? id resource psu approach now = some record → record.isExpired now = true) ∧
    ∀ checks node, Node.ofConfig config checks = .ok node →
      (∀ id resource psu approach now,
        Authorisation.open? id resource psu approach node.redirectLifetime node.lifetime now =
          config.open? id resource psu approach now) ∧
      (node.workerStart = .broken ↔ config.sweepInterval = some 0) := by
  refine ⟨fun _ _ _ => rfl, fun now => usable_iff_fits, ⟨fun usable => ?_, ?_⟩,
    fun now noRoom _ _ _ _ _ opened => isExpired_of_not_fits noRoom opened,
    fun checks node built => node_of_config built⟩
  · -- The last second of these years leaves the least room.
    let last : Timestamp := ⟨253402300799, 0, by decide, by decide, by decide, by decide⟩
    rcases usable_iff_fits.mp (usable last (by decide) (by decide)) with ⟨fits, positive⟩
    simp only [Fits, HasRoom, latestSecond, last] at fits
    exact ⟨by omega, by omega, positive⟩
  · rintro ⟨redirectSmall, small, positive⟩ now _ year
    have reached := Timestamp.second_le_of_year year
    refine usable_iff_fits.mpr ⟨?_, positive⟩
    simp only [Fits, HasRoom, latestSecond]
    omega

/-- Configurations that pass all checks: one with lifetimes that count backwards, so that an
authorisation is expired at once; one with a lifetime that is no duration, so that there is no
node; and one whose worker breaks down. The standard configuration can be computed with. -/
theorem checked_unusable :
    let payment : Resource :=
      ⟨"payment", .payment, .payment .received, false, false, false, [], .epoch⟩
    let backwards := { standard with authorisationLifetime := 18446744073709551615 }
    let endless := { standard with redirectLifetime := 9223372036854775807 }
    let restless := { standard with sweepInterval := some 0 }
    (backwards.validate = .ok () ∧ ¬ backwards.Usable .epoch ∧
      ∃ record, backwards.open? "first" payment none .embedded .epoch = some record ∧
        record.isExpired .epoch = true) ∧
    (endless.validate = .ok () ∧ ¬ endless.Usable .epoch ∧
      duration? endless.redirectLifetime = none ∧
      ∀ checks node, Node.ofConfig endless checks ≠ .ok node) ∧
    (restless.validate = .ok () ∧ ¬ restless.Usable .epoch ∧
      ∃ node, Node.ofConfig restless none = .ok node ∧ node.workerStart = .broken) ∧
    ∀ now : Timestamp, 1970 ≤ now.clock.date.year → now.clock.date.year ≤ 9999 →
      standard.Usable now := by
  intro payment backwards endless restless
  have unusable {config : Config} (unfit : ¬ (config.Fits .epoch ∧ config.sweepInterval ≠ some 0)) :
      ¬ config.Usable .epoch := fun usable => unfit (((usable_iff config).2.1 .epoch).mp usable)
  have noDuration : duration? endless.redirectLifetime = none := by decide
  have backwardsUnfit : ¬ backwards.Fits .epoch := fun fits => absurd fits.2 (by decide)
  refine ⟨⟨by decide +kernel, unusable fun fit => backwardsUnfit fit.1, ?_⟩,
    ⟨by decide +kernel, unusable fun fit => absurd fit.1.1 (by decide), noDuration, ?_⟩,
    ⟨by decide +kernel, unusable fun fit => fit.2 rfl, ?_⟩,
    (usable_iff standard).2.2.1.mpr (by decide)⟩
  · have opens : (backwards.open? "first" payment none .embedded .epoch).isSome = true := by
      decide +kernel
    rcases Option.isSome_iff_exists.mp opens with ⟨record, opened⟩
    exact ⟨record, opened, (usable_iff backwards).2.2.2.1 .epoch backwardsUnfit _ _ _ _ _ opened⟩
  · intro checks node built
    rcases lifetimeOf_eq_ok_iff.mp (settings_of_ofConfig built).1 with ⟨lifetime, counts, _⟩
    rw [noDuration] at counts
    cases counts
  · have builds : (Node.ofConfig restless none).isOk = true := by decide +kernel
    cases built : Node.ofConfig restless none with
    | error fault =>
        rw [built] at builds
        cases builds
    | ok node => exact ⟨node, rfl, ((usable_iff restless).2.2.2.2 none node built).2.mpr rfl⟩

end Config

end StrongAuth
