import StrongAuth.Proofs.Drafts

/-! # What the verdict of a stage tells

The kind of a refusal tells its reader what has become of the authorisation. Main statement:
whatever the bank answers, the verdict of a stage stores what the kind of its refusal tells,
and says something new about method, challenge, confirmation code or bank only where it has
chosen the method itself. -/

namespace StrongAuth

/-- What a refusal of a kind tells: `unwritten`, that nothing was stored; `unasked`, that the
bank was not called; `failed`, that the authorisation has failed; `counted`, that one more
wrong attempt was counted. -/
def RefusalKind.Tells (unwritten unasked failed counted : Prop) : RefusalKind → Prop
  | .resourceUnknown | .formatError => unwritten ∧ unasked
  | .statusInvalid => unwritten
  | .resourceExpired | .serviceUnavailable => failed
  | .credentialsInvalid | .scaInvalid => failed ∨ counted
  | .methodUnknown => failed ∨ unwritten

theorem RefusalKind.Tells.mono {kind : RefusalKind}
    {unwritten unasked failed counted unwritten' unasked' failed' counted' : Prop}
    (tells : kind.Tells unwritten unasked failed counted) (write : unwritten → unwritten')
    (ask : unasked → unasked') (fail : failed → failed') (count : counted → counted') :
    kind.Tells unwritten' unasked' failed' counted' := by
  cases kind with
  | resourceUnknown | formatError => exact ⟨write tells.1, ask tells.2⟩
  | statusInvalid => exact write tells
  | resourceExpired | serviceUnavailable => exact fail tells
  | credentialsInvalid | scaInvalid => exact tells.imp fail count
  | methodUnknown => exact tells.imp fail write

namespace Stage

/-- The kind of a refusal tells what a verdict asks to store. -/
def Verdict.Tells (unasked : Prop) (record : Authorisation) (verdict : Verdict) : Prop :=
  match verdict.outcome with
  | .advance _ => True
  | .refuse refusal => refusal.kind.Tells True unasked False False
  | .retry refusal => refusal.kind.Tells False False False
      (verdict.record.failedAttempts = record.failedAttempts + 1)
  | .fail refusal => refusal.kind.Tells False False True False

/-- What a stage makes of a record, and what it tells of it. -/
structure Candid (unasked : Prop) (record : Authorisation) (verdict : Verdict) : Prop where
  chooses : record.Chooses verdict.record
  tells : verdict.Tells unasked record

variable {input : Input} {record copy : Authorisation} {unasked : Prop}

/-! ## Verdicts -/

theorem advance_candid {status : Status} (chooses : record.Chooses copy) :
    Candid unasked record ⟨.advance status, copy⟩ :=
  ⟨chooses, trivial⟩

theorem refuse_candid {refusal : Refusal} (chooses : record.Chooses copy)
    (tells : refusal.kind.Tells True unasked False False) :
    Candid unasked record ⟨.refuse refusal, copy⟩ :=
  ⟨chooses, tells⟩

theorem fail_candid {refusal : Refusal} (chooses : record.Chooses copy)
    (tells : refusal.kind.Tells False False True False) :
    Candid unasked record ⟨.fail refusal, copy⟩ :=
  ⟨chooses, tells⟩

theorem bankFailed_candid (chooses : record.Chooses copy) (task : Task) (fault : BankFault) :
    Candid unasked record (bankFailed copy task fault) := by
  apply fail_candid chooses
  cases fault with
  | rejected reason => cases task <;> simp [Refusal.kind, Task.rejectionKind, RefusalKind.Tells]
  | _ => trivial

theorem attemptFailed_candid (chooses : record.Chooses copy)
    (same : copy.failedAttempts = record.failedAttempts) (factor : Factor) :
    Candid unasked record (attemptFailed input copy factor) := by
  simp only [attemptFailed]
  split
  · refine ⟨chooses, ?_⟩
    cases factor <;> exact .inl trivial
  · refine ⟨chooses, ?_⟩
    cases factor <;> exact .inr (congrArg (· + 1) same)

/-! ## Stage by stage -/

open Dialogue

variable {unasked : List Exchange → Prop}

theorem finalise_candid (chooses : record.Chooses copy) (status : Status) :
    Ensures (finalise input copy status) fun exchanges =>
      Candid (unasked exchanges) record := by
  unfold finalise
  rw [ensures_consult]
  intro answer
  cases answer with
  | ok done => exact advance_candid chooses
  | error fault => exact bankFailed_candid chooses .execute fault

theorem exempt_candid (chooses : record.Chooses copy) :
    Ensures (exempt input copy) fun exchanges =>
      Candid (unasked exchanges) record :=
  finalise_candid chooses _

theorem issueChallenge_candid (same : copy.choice = record.choice) (method : Method) :
    Ensures (issueChallenge input copy method) fun exchanges =>
      Candid (unasked exchanges) record := by
  unfold issueChallenge Authorisation.choose
  cases chosen : copy.chosen with
  | some earlier => exact refuse_candid (.inl same) trivial
  | none =>
      have unchosen : record.chosen = none := (congrArg Prod.fst same).symm.trans chosen
      dsimp only
      rw [ensures_consult]
      intro answer
      cases answer with
      | error fault => exact bankFailed_candid (.inr ⟨unchosen, rfl⟩) .requestCode fault
      | ok grant =>
          dsimp only
          split
          · exact exempt_candid (.inr ⟨unchosen, rfl⟩)
          · exact advance_candid (.inr ⟨unchosen, rfl⟩)

theorem offerMethods_candid (same : copy.choice = record.choice) :
    Ensures (offerMethods input copy) fun exchanges =>
      Candid (unasked exchanges) record := by
  unfold offerMethods
  rw [ensures_consult]
  intro answer
  rcases answer with fault | _ | ⟨method, _ | ⟨second, others⟩⟩
  · exact bankFailed_candid (.inl same) .listMethods fault
  · dsimp only
    split
    · exact finalise_candid (.inl same) _
    · exact fail_candid (.inl same) (.inl trivial)
  · apply issueChallenge_candid
    exact same
  · exact advance_candid (.inl same)

theorem afterAuthentication_candid (same : copy.choice = record.choice) :
    Ensures (afterAuthentication input copy) fun exchanges =>
      Candid (unasked exchanges) record := by
  simp only [afterAuthentication]
  split
  · apply finalise_candid
    exact .inl same
  · apply offerMethods_candid
    exact same

theorem authenticate_candid : Ensures (authenticate input record) fun exchanges =>
    Candid (exchanges = []) record := by
  simp only [authenticate]
  let copy := { record with psu := record.psu.or input.request.submittedPsu }
  have same : record.Chooses copy := .inl rfl
  rcases input.evidence.authentication input.request with _ | password | code | _ | _
  · dsimp only
    split
    · exact refuse_candid same ⟨trivial, rfl⟩
    · split
      · exact advance_candid same
      · exact refuse_candid same ⟨trivial, rfl⟩
  · dsimp only
    split
    · exact refuse_candid same ⟨trivial, rfl⟩
    · rw [ensures_consult]
      intro answer
      rcases answer with fault | _ | _ | _ | _
      · exact bankFailed_candid same .authenticate fault
      · exact afterAuthentication_candid rfl
      · exact exempt_candid same
      · exact attemptFailed_candid same rfl .first
      · exact fail_candid same (.inl trivial)
  · exact refuse_candid same ⟨trivial, rfl⟩
  · exact afterAuthentication_candid rfl
  · exact fail_candid same (.inl trivial)

theorem selectMethod_candid : Ensures (selectMethod input record) fun exchanges =>
    Candid (exchanges = []) record := by
  unfold selectMethod
  split
  · exact offerMethods_candid rfl
  · split
    · exact refuse_candid (.inl rfl) ⟨trivial, rfl⟩
    · split
      · exact issueChallenge_candid rfl _
      · exact refuse_candid (.inl rfl) (.inr trivial)

theorem confirmCode_candid (code : String) :
    Ensures (confirmCode input record code) fun exchanges =>
      Candid (exchanges = []) record := by
  have same : record.Chooses record := .inl rfl
  unfold confirmCode
  split
  · split
    · exact finalise_candid same _
    · exact fail_candid same (.inl trivial)
  · rw [ensures_consult]
    intro answer
    rcases answer with fault | _ | _ | _ | _
    · exact bankFailed_candid same .confirm fault
    · exact finalise_candid same _
    · exact finalise_candid same _
    · exact attemptFailed_candid same rfl .second
    · exact fail_candid same (.inl trivial)

theorem confirm_candid : Ensures (confirm input record) fun exchanges =>
    Candid (exchanges = []) record := by
  have same : record.Chooses record := .inl rfl
  unfold confirm
  rcases input.evidence.confirmation record input.request with _ | password | code | _ | _
  · dsimp only
    split
    · exact refuse_candid same trivial
    · exact refuse_candid same ⟨trivial, rfl⟩
  · exact refuse_candid same ⟨trivial, rfl⟩
  · exact confirmCode_candid code
  · exact finalise_candid same _
  · exact fail_candid same (.inl trivial)

theorem handle_candid (input : Input) (record : Authorisation) :
    Ensures (handle record.status input record) fun exchanges =>
      Candid (exchanges = []) record := by
  cases record.status with
  | received | psuIdentified => exact authenticate_candid
  | psuAuthenticated => exact selectMethod_candid
  | scaMethodSelected => exact confirm_candid
  | finalised | failed | exempted => exact refuse_candid (.inl rfl) trivial

end Stage

end StrongAuth
