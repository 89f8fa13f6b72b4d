import Mathlib.Data.List.DropRight
import StrongAuth.Proofs.Attempts
import StrongAuth.Proofs.Episodes

/-! # The count of wrong attempts

Main statement: as long as nobody else uses the store while the bank is busy, a live record
counts the wrong attempts that the bank has found since the authorisation was started, or since
the first factor was passed, and it fails by the attempt that reaches the limit and by no
earlier one. -/

namespace StrongAuth

/-- The first factor is passed during a passage, and the authorisation goes on. -/
def Passage.authenticates (id : String) (passage : Passage) : Bool :=
  (passage.before.store.record? id).any (·.status.rank < 2) &&
    (passage.after.store.record? id).any fun record =>
      2 ≤ record.status.rank && !record.status.isTerminal

/-- How many wrong attempts there were for an authorisation since it was started, or since the
last passage in which the first factor was passed. -/
def attempts (id : String) (passages : List Passage) : Nat :=
  (correspondence id (passages.rtakeWhile fun passage => !passage.authenticates id)).countP
    (·.2.wrong)

theorem attempts_append (id : String) (passages : List Passage) (passage : Passage) :
    attempts id (passages ++ [passage]) =
      if passage.authenticates id then 0
      else attempts id passages + (passage.callsFor id).countP (·.2.wrong) := by
  unfold attempts
  cases authenticates : passage.authenticates id with
  | true =>
      rw [List.rtakeWhile_concat_neg _ _ _ (by simp [authenticates])]
      rfl
  | false =>
      rw [List.rtakeWhile_concat_pos _ _ _ (by simp [authenticates]), correspondence_append,
        List.countP_append]
      rfl

theorem attempts_eq_zero {id : String} {passages : List Passage}
    (silent : correspondence id passages = []) : attempts id passages = 0 := by
  have within := (List.rtakeWhile_suffix (fun passage => !passage.authenticates id) passages).subset
  have mute : correspondence id (passages.rtakeWhile fun passage => !passage.authenticates id) =
      [] := by
    unfold correspondence at silent ⊢
    rw [List.flatMap_eq_nil_iff] at silent ⊢
    exact fun passage member => silent passage (within member)
  rw [attempts, mute]
  rfl

namespace Passage

variable {passage : Passage} {id : String} {earlier record : Authorisation}

theorem authenticates_of_live (found : passage.before.store.record? id = some earlier)
    (stored : passage.after.store.record? id = some record)
    (live : record.status.isTerminal = false) :
    passage.authenticates id =
      decide (earlier.status.rank < 2 ∧ 2 ≤ record.status.rank) := by
  rw [authenticates, found, stored, Option.any_some, Option.any_some, live]
  simp [Bool.decide_and]

/-- Where the status stays or is terminal, the first factor is not passed. -/
theorem not_authenticates (found : passage.before.store.record? id = some earlier)
    (stored : passage.after.store.record? id = some record)
    (stays : record.status = earlier.status ∨ record.status.isTerminal = true) :
    passage.authenticates id = false := by
  rw [authenticates, found, stored, Option.any_some, Option.any_some]
  rcases stays with same | terminal
  · rw [same]
    cases earlier.status <;> rfl
  · simp [terminal]

end Passage

/-! ## Visits -/

namespace Visit.Takes

variable {deployment : Deployment} {id : String} {request : Request} {now : Time.Timestamp}
  {before after : World MemoryStore} {visit : Visit} {draft : Authorisation}

/-- A visit without a wrong attempt whose copy is live keeps the count, or passes the first
factor. -/
theorem count_of_right (takes : visit.Takes deployment id request now before after)
    (right : ∀ exchange ∈ visit.exchanges, exchange.wrong = false)
    (drafted : visit.draft? deployment.node.policy = some draft)
    (live : draft.status.isTerminal = false) :
    draft.failedAttempts =
      if visit.record.status.rank < 2 ∧ 2 ≤ draft.status.rank then 0
      else visit.record.failedAttempts := by
  have counts := takes.counts
  unfold Visit.draft? Stage.Verdict.draft? at drafted
  generalize visit.exchanges = exchanges, visit.verdict = verdict at counts right drafted
  cases counts with
  | first exchange wrong =>
      have right := right exchange (List.mem_singleton_self _)
      simp [Exchange.wrong, wrong] at right
  | second exchange code wrong =>
      have right := right exchange (List.mem_singleton_self _)
      simp [Exchange.wrong, wrong] at right
  | none _ _ _ decided count =>
      cases outcome : verdict.outcome with
      | advance status =>
          simp only [outcome] at drafted
          split at drafted
          · cases drafted
            exact count status outcome live
          · cases drafted
      | refuse refusal =>
          rw [outcome] at drafted
          cases drafted
      | retry refusal => exact absurd outcome (decided refusal)
      | fail refusal =>
          rw [outcome] at drafted
          cases drafted
          cases live

/-- A visit that stores nothing has no wrong attempt. -/
theorem right_of_undrafted (takes : visit.Takes deployment id request now before after)
    (below : visit.record.failedAttempts.toNat < deployment.node.policy.maxAttempts.toNat)
    (undrafted : visit.draft? deployment.node.policy = none) :
    ∀ exchange ∈ visit.exchanges, exchange.wrong = false := by
  intro exchange asked
  cases wrong : exchange.wrong with
  | false => rfl
  | true =>
      have drafted := (takes.draft_of_wrong ⟨exchange, asked, wrong⟩ below).1
      rw [undrafted] at drafted
      cases drafted

end Visit.Takes

/-- The wrong attempts of a visit are those of its conversation. -/
theorem countP_wrong_map (request : Request) (exchanges : List Exchange) :
    (exchanges.map (request, ·)).countP (·.2.wrong) = exchanges.countP Exchange.wrong :=
  List.countP_map

theorem countP_wrong_eq_zero {exchanges : List Exchange}
    (right : ∀ exchange ∈ exchanges, exchange.wrong = false) :
    exchanges.countP Exchange.wrong = 0 := by
  rw [List.countP_eq_zero]
  intro exchange asked
  rw [right exchange asked]
  simp

/-- A conversation has one wrong attempt at most. -/
theorem Stage.Wrong.countP_eq {input : Stage.Input} {record : Authorisation}
    {exchanges : List Exchange} {verdict : Stage.Verdict}
    (wrong : Stage.Wrong input record exchanges verdict) :
    exchanges.countP Exchange.wrong = 1 := by
  rcases wrong.single with ⟨exchange, rfl, failed⟩
  rw [List.countP_singleton, failed]
  rfl

namespace Deployment

variable {deployment : Deployment} {id : String}

/-- By a visit with a wrong attempt there is one more of them. -/
theorem attempts_of_wrong {request : Request} {now : Time.Timestamp} {visit : Visit}
    {limit : Nat} (passages : List Passage) (passage : Passage)
    (takes : visit.Takes deployment id request now passage.before passage.after)
    (called : passage.callsFor id = visit.exchanges.map (request, ·))
    (wrong : ∃ exchange ∈ visit.exchanges, exchange.wrong = true)
    (stored : passage.after.store.record? id =
      some ((visit.record.attempted limit request).saved now)) :
    attempts id (passages ++ [passage]) = attempts id passages + 1 := by
  have stays : ((visit.record.attempted limit request).saved now).status = visit.record.status ∨
      ((visit.record.attempted limit request).saved now).status.isTerminal = true := by
    by_cases last : visit.record.failedAttempts.toNat + 1 = limit
    · exact .inr (congrArg Status.isTerminal (if_pos last))
    · exact .inl (if_neg last)
  rw [attempts_append, passage.not_authenticates takes.found stored stays, called,
    countP_wrong_map, (takes.counts.wrong wrong).countP_eq]
  rfl

/-- A live record counts the wrong attempts and is below the limit. -/
def Accounts (deployment : Deployment) (id : String) (passages : List Passage)
    (record : Authorisation) : Prop :=
  record.status.isTerminal = false →
    record.failedAttempts.toNat = attempts id passages ∧
    record.failedAttempts.toNat < deployment.node.policy.maxAttempts.toNat

theorem accounts_of_record? (quiet : deployment.bank.Quiet)
    (limited : 0 < deployment.node.policy.maxAttempts.toNat) (moves : List Move)
    {record : Authorisation}
    (found : (deployment.play moves (.fresh .empty)).store.record? id = some record) :
    deployment.Accounts id (deployment.history moves (.fresh .empty)) record := by
  -- Nothing is claimed of a record that has failed, so only what stays live is counted on.
  apply episode_induction quiet (deployment.Accounts id) moves _ found
  intro moves move record before passages passage stored episode unknown accounts live
  cases episode with
  | kept earlier version found silent =>
      rw [attempts_append, passage.not_authenticates found stored (.inl rfl), silent]
      exact accounts earlier found live
  | opened record unknownBefore silent received unfailed =>
      have idle : passage.authenticates id = false := by
        rw [Passage.authenticates, unknownBefore]
        rfl
      rw [attempts_append, idle, silent, attempts_eq_zero (unknown unknownBefore), unfailed]
      exact ⟨rfl, limited⟩
  | failed earlier updated version found silent => cases live
  | refused request now visit takes called undrafted =>
      rcases accounts visit.record takes.found takes.live with ⟨counted, below⟩
      have right := takes.right_of_undrafted below undrafted
      rw [attempts_append, passage.not_authenticates takes.found stored (.inl rfl), called,
        countP_wrong_map, countP_wrong_eq_zero right]
      exact ⟨counted, below⟩
  | stored request now visit takes called draft drafted =>
      rcases accounts visit.record takes.found takes.live with ⟨counted, below⟩
      by_cases wrong : ∃ exchange ∈ visit.exchanges, exchange.wrong = true
      · rw [(takes.draft_of_wrong wrong below).1] at drafted
        cases drafted
        have others : visit.record.failedAttempts.toNat + 1 ≠
            deployment.node.policy.maxAttempts.toNat := by
          intro last
          have failed := congrArg Status.isTerminal
            (if_pos last : (if _ then Status.failed else visit.record.status) = .failed)
          cases failed.symm.trans live
        rw [attempts_of_wrong passages passage takes called wrong stored]
        change (visit.record.failedAttempts + 1).toNat = attempts id passages + 1 ∧
          (visit.record.failedAttempts + 1).toNat < _
        rw [Stage.toNat_counted below, counted]
        exact ⟨rfl, by omega⟩
      · have right : ∀ exchange ∈ visit.exchanges, exchange.wrong = false := by
          simpa using wrong
        have kept := takes.count_of_right right drafted live
        have count : (draft.saved now).failedAttempts =
            if visit.record.status.rank < 2 ∧ 2 ≤ (draft.saved now).status.rank then 0
            else visit.record.failedAttempts := kept
        rw [attempts_append, passage.authenticates_of_live takes.found stored live, called,
          countP_wrong_map, countP_wrong_eq_zero right, count]
        by_cases passed : visit.record.status.rank < 2 ∧ 2 ≤ (draft.saved now).status.rank
        · rw [if_pos passed, if_pos (decide_eq_true passed)]
          exact ⟨rfl, limited⟩
        · rw [if_neg passed, if_neg (by simpa using passed)]
          exact ⟨counted, below⟩

/-- The count of a live record is that of the wrong attempts since the authorisation was started
or the first factor was passed. The attempt that reaches the limit fails the authorisation, an
earlier one leaves its status, and the attempts that are left make up the limit. -/
theorem attempts_accounted (deployment : Deployment) (quiet : deployment.bank.Quiet)
    (limited : 1 ≤ deployment.node.policy.maxAttempts.toNat) (moves : List Move) (id : String) :
    let world := deployment.play moves (.fresh .empty)
    let limit := deployment.node.policy.maxAttempts.toNat
    (∀ record, world.store.record? id = some record → record.status.isTerminal = false →
      record.failedAttempts.toNat = attempts id (deployment.history moves (.fresh .empty)) ∧
      record.failedAttempts.toNat < limit) ∧
    ∀ request now,
      let move : Move := .operate ⟨.update id request, now⟩
      let result := deployment.perform ⟨.update id request, now⟩ world
      let count := attempts id (deployment.history (moves ++ [move]) (.fresh .empty))
      (∃ call ∈ Passage.callsFor id ⟨move, world, result.2⟩, call.2.wrong = true) →
      ∃ earlier record factor, world.store.record? id = some earlier ∧
        result.2.store.record? id = some record ∧ count ≤ limit ∧
        record.status = (if count = limit then .failed else earlier.status) ∧
        record.failedAttempts.toNat = count ∧
        result.1 = .error (.refused (.attemptFailed factor (limit - count))) := by
  intro world limit
  refine ⟨fun record found => accounts_of_record? quiet limited moves found, ?_⟩
  rintro request now move result count ⟨call, asked, wrong⟩
  rw [Passage.callsFor_update] at asked
  rcases List.mem_map.mp asked with ⟨exchange, called, rfl⟩
  obtain ⟨earlier, found, live⟩ : ∃ earlier, world.store.record? id = some earlier ∧
      earlier.status.isTerminal = false := by
    rcases deployment.visit_of_call _ world called with ⟨_, _, visit, operation, takes, _⟩
    cases operation
    exact ⟨visit.record, takes.found, takes.live⟩
  rcases accounts_of_record? quiet limited moves found live with ⟨counted, below⟩
  rcases concluded_of_wrong found ⟨exchange, called, wrong⟩ below
    with ⟨visit, takes, rfl, failed, drafted, outcome⟩
  have stored := takes.record?_eq quiet id
  rw [if_pos rfl, drafted, Option.map_some, Option.some_or] at stored
  have raised : count = visit.record.failedAttempts.toNat + 1 := by
    change attempts id (deployment.history _ _) = _
    rw [history_append, counted]
    apply attempts_of_wrong _ ⟨move, world, result.2⟩ takes _ failed stored
    rw [Passage.callsFor_update, Passage.calls_eq takes.state.exchanges_eq]
  rw [raised]
  rcases outcome with ⟨_, _, factor, answered⟩ | ⟨version, changed, seen, _⟩
  · exact ⟨visit.record, _, factor, found, stored, below, rfl, Stage.toNat_counted below, answered⟩
  · -- Nobody has saved the record meanwhile, so the visit was not overtaken.
    rw [takes.undisturbed quiet, List.foldl_nil, found] at seen
    have same := congrArg Authorisation.version (Option.some.inj seen)
    exact absurd same.symm changed

/-- A payment for which a password has been guessed twice. -/
def guesses : List Move :=
  let guess : Step := ⟨.update "first" wrongPassword, .epoch⟩
  (startedSteps ++ [guess, guess]).map .operate

theorem third_guess_fails :
    let deployment := Deployment.simulated .standard
    (∃ record, (deployment.play guesses (.fresh .empty)).store.record? "first" = some record ∧
      record.failedAttempts.toNat =
        attempts "first" (deployment.history guesses (.fresh .empty)) ∧
      record.failedAttempts.toNat = 2) ∧
    ∃ record, (deployment.perform ⟨.update "first" wrongPassword, .epoch⟩
        (deployment.play guesses (.fresh .empty))).2.store.record? "first" = some record ∧
      record.status = .failed ∧ record.failedAttempts.toNat = 3 := by
  intro deployment
  have counted : ((deployment.play guesses (.fresh .empty)).store.record? "first").map
      (fun record => (record.status.isTerminal, record.failedAttempts.toNat)) =
        some (false, 2) := by decide +kernel
  have wrong : (Passage.callsFor "first" ⟨.operate ⟨.update "first" wrongPassword, .epoch⟩,
      deployment.play guesses (.fresh .empty),
      (deployment.perform ⟨.update "first" wrongPassword, .epoch⟩
        (deployment.play guesses (.fresh .empty))).2⟩).any (·.2.wrong) = true := by
    decide +kernel
  have last : attempts "first" (deployment.history
      (guesses ++ [.operate ⟨.update "first" wrongPassword, .epoch⟩]) (.fresh .empty)) = 3 := by
    decide +kernel
  rcases deployment.attempts_accounted SimulatedBank.standard.quiet (by decide) guesses "first"
    with ⟨below, fails⟩
  rcases Option.map_eq_some_iff.mp counted with ⟨record, found, facts⟩
  rcases Prod.mk.inj facts with ⟨live, two⟩
  refine ⟨⟨record, found, (below record found live).1, two⟩, ?_⟩
  rcases fails wrongPassword .epoch (List.any_eq_true.mp wrong)
    with ⟨_, later, _, _, finds, _, failed, three, _⟩
  rw [last] at failed three
  exact ⟨later, finds, failed, three⟩

end Deployment

end StrongAuth
