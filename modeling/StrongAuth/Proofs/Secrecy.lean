import Mathlib.Data.List.Forall2
import StrongAuth.Bank.Simulated
import StrongAuth.Node.Basic

/-! # Secrets

The text of a password or of a code goes to the bank and nowhere else: checks object to both of
two requests that differ only in such texts or to neither, and the stages hold the same
conversation about both, if the bank answers alike. -/

namespace StrongAuth

/-! ## What the bank sees -/

/-- Both queries are the same up to the password or the code of two requests. -/
inductive Query.Alike (left right : Request) : Query → Query → Prop
  | authenticate {one two : String} (first : left.password = some one)
      (second : right.password = some two) :
      Alike left right (.authenticate one) (.authenticate two)
  | listMethods : Alike left right .listMethods .listMethods
  | requestCode (method : Method) : Alike left right (.requestCode method) (.requestCode method)
  | confirm {one two : String} (first : left.code = some one) (second : right.code = some two)
      (challenge : Option Challenge) :
      Alike left right (.confirm one challenge) (.confirm two challenge)
  | execute : Alike left right .execute .execute

/-- A grant as far as the node keeps it: with the hash of its confirmation code. -/
def CodeGrant.hashed (grant : CodeGrant) : CodeGrant :=
  { grant with confirmationCode := grant.confirmationCode.map codeHash }

/-- Both exchanges are the same up to the password or the code of two requests; confirmation codes
that the bank grants have the same hash. -/
inductive Exchange.Alike (left right : Request) : Exchange → Exchange → Prop
  | authenticate {psu : Psu} {resource : Resource} {bankData : Option (List UInt8)}
      {one two : String} (first : left.password = some one) (second : right.password = some two)
      (answer : Except BankFault CheckOutcome) :
      Alike left right ⟨⟨.authenticate one, psu, resource, bankData⟩, answer⟩
        ⟨⟨.authenticate two, psu, resource, bankData⟩, answer⟩
  | listMethods {psu : Psu} {resource : Resource} {bankData : Option (List UInt8)}
      (answer : Except BankFault (List Method)) :
      Alike left right ⟨⟨.listMethods, psu, resource, bankData⟩, answer⟩
        ⟨⟨.listMethods, psu, resource, bankData⟩, answer⟩
  | requestCode {psu : Psu} {resource : Resource} {bankData : Option (List UInt8)}
      {method : Method} {answer other : Except BankFault CodeGrant}
      (hashes : other.map CodeGrant.hashed = answer.map CodeGrant.hashed) :
      Alike left right ⟨⟨.requestCode method, psu, resource, bankData⟩, answer⟩
        ⟨⟨.requestCode method, psu, resource, bankData⟩, other⟩
  | confirm {psu : Psu} {resource : Resource} {bankData : Option (List UInt8)}
      {one two : String} (first : left.code = some one) (second : right.code = some two)
      {challenge : Option Challenge} (answer : Except BankFault CheckOutcome) :
      Alike left right ⟨⟨.confirm one challenge, psu, resource, bankData⟩, answer⟩
        ⟨⟨.confirm two challenge, psu, resource, bankData⟩, answer⟩
  | execute {psu : Psu} {resource : Resource} {bankData : Option (List UInt8)}
      (answer : Except BankFault Unit) :
      Alike left right ⟨⟨.execute, psu, resource, bankData⟩, answer⟩
        ⟨⟨.execute, psu, resource, bankData⟩, answer⟩

/-- A call that is given up is given up on both sides. -/
theorem Exchange.Alike.within {left right : Request} {call other : BankCall}
    {answer : call.Answer} {otherAnswer : other.Answer}
    (alike : Exchange.Alike left right ⟨call, answer⟩ ⟨other, otherAnswer⟩)
    (limit delay : Time.Span) :
    Exchange.Alike left right
      ⟨call, BankFault.within (Vocabulary.word call.query.task) limit delay answer⟩
      ⟨other, BankFault.within (Vocabulary.word other.query.task) limit delay otherAnswer⟩ := by
  unfold BankFault.within
  split
  · cases alike with
    | authenticate first second => exact .authenticate first second _
    | listMethods => exact .listMethods _
    | requestCode => exact .requestCode rfl
    | confirm first second => exact .confirm first second _
    | execute => exact .execute _
  · exact alike

/-- After some exchanges both banks go on alike: to a query about the password or the code of
either request they reply with the same delay, the same interference and the same answer, up to
confirmation codes of the same hash. -/
def Bank.Alike (left right : Request) (past : List Exchange) (one two : Bank) : Prop :=
  ∀ earlier later, List.Forall₂ (Exchange.Alike left right) earlier later →
    ∀ (query other : Query), query.Alike left right other →
    ∀ (psu : Psu) (resource : Resource) (bankData : Option (List UInt8)),
      let call : BankCall := ⟨query, psu, resource, bankData⟩
      let otherCall : BankCall := ⟨other, psu, resource, bankData⟩
      let reply := one (past ++ earlier) call
      let otherReply := two (past ++ later) otherCall
      otherReply.interference = reply.interference ∧ otherReply.delay = reply.delay ∧
        Exchange.Alike left right ⟨call, reply.answer⟩ ⟨otherCall, otherReply.answer⟩

/-- A simulated bank goes on alike if it takes both passwords for right or both for wrong, and both
codes. -/
theorem SimulatedBank.alike (bank : SimulatedBank) {left right : Request}
    (passwords : ∀ one ∈ left.password, ∀ two ∈ right.password,
      (one = bank.password ↔ two = bank.password))
    (codes : ∀ one ∈ left.code, ∀ two ∈ right.code, (one = bank.code ↔ two = bank.code))
    (past : List Exchange) : Bank.Alike left right past bank.toBank bank.toBank := by
  have compares {expected one two : String} (same : one = expected ↔ two = expected)
      (exempting : Bool) :
      bank.compare expected two exempting = bank.compare expected one exempting := by
    unfold SimulatedBank.compare
    simp only [ne_eq, same]
  intro earlier later exchanged query other queries psu resource bankData
  cases queries with
  | authenticate first second =>
      refine ⟨rfl, rfl, ?_⟩
      simp only [toBank, answer, compares (passwords _ first _ second)]
      exact .authenticate first second _
  | listMethods => exact ⟨rfl, rfl, .listMethods _⟩
  | requestCode method => exact ⟨rfl, rfl, .requestCode rfl⟩
  | confirm first second challenge =>
      refine ⟨rfl, rfl, ?_⟩
      simp only [toBank, answer, compares (codes _ first _ second)]
      exact .confirm first second _
  | execute => exact ⟨rfl, rfl, .execute _⟩

/-! ## Conversations -/

/-- Both conversations go the same way if the bank answers alike. -/
inductive Dialogue.Alike (left right : Request) {α : Type} : Dialogue α → Dialogue α → Prop
  | done (value : α) : Alike left right (.done value) (.done value)
  | ask {query other : Query} {psu : Psu} {resource : Resource} {bankData : Option (List UInt8)}
      {next : BankCall.Answer ⟨query, psu, resource, bankData⟩ → Dialogue α}
      {otherNext : BankCall.Answer ⟨other, psu, resource, bankData⟩ → Dialogue α}
      (queries : query.Alike left right other)
      (goesOn : ∀ answer otherAnswer,
        Exchange.Alike left right ⟨_, answer⟩ ⟨_, otherAnswer⟩ →
        Alike left right (next answer) (otherNext otherAnswer)) :
      Alike left right (.ask ⟨query, psu, resource, bankData⟩ next)
        (.ask ⟨other, psu, resource, bankData⟩ otherNext)

namespace Stage

variable {input : Input} {record : Authorisation} {left right : Request} {α : Type}

/-! ## Stages -/

/-- Conversations stay alike over queries that are alike if they do so whenever the answers are. -/
theorem consult_alike {query other : Query} (queries : query.Alike left right other)
    {next : Except BankFault query.task.Answer → Dialogue α}
    {otherNext : Except BankFault other.task.Answer → Dialogue α}
    (goesOn : ∀ answer otherAnswer,
      Exchange.Alike left right ⟨⟨query, record.knownPsu, input.resource, record.bankData⟩, answer⟩
        ⟨⟨other, record.knownPsu, input.resource, record.bankData⟩, otherAnswer⟩ →
      Dialogue.Alike left right (next answer) (otherNext otherAnswer)) :
    Dialogue.Alike left right (consult input record query >>= next)
      (consult input record other >>= otherNext) :=
  .ask queries goesOn

theorem finalise_alike (status : Status) :
    Dialogue.Alike left right (finalise input record status) (finalise input record status) := by
  unfold finalise
  apply consult_alike .execute
  rintro answer _ ⟨⟩
  cases answer with
  | error fault => exact .done _
  | ok completed => exact .done _

theorem exempt_alike : Dialogue.Alike left right (exempt input record) (exempt input record) :=
  finalise_alike _

/-- Of the confirmation code that the bank grants, only the hash is kept. -/
theorem issueChallenge_alike (method : Method) :
    Dialogue.Alike left right (issueChallenge input record method)
      (issueChallenge input record method) := by
  unfold issueChallenge
  cases record.choose method with
  | error earlier => exact .done _
  | ok copy =>
      apply consult_alike (.requestCode method)
      intro answer other answers
      cases answers with
      | requestCode hashes =>
          rcases answer with fault | ⟨challenge, exempted, code, bankData⟩
          · rcases other with otherFault | grant
            · cases hashes
              exact .done _
            · cases hashes
          · rcases other with fault | ⟨otherChallenge, otherExempted, otherCode, otherData⟩
            · cases hashes
            · have same := CodeGrant.mk.inj (Except.ok.inj hashes)
              rcases same with ⟨rfl, rfl, hash, rfl⟩
              dsimp only
              rw [hash]
              split
              · exact exempt_alike
              · exact .done _

theorem offerMethods_alike :
    Dialogue.Alike left right (offerMethods input record) (offerMethods input record) := by
  unfold offerMethods
  apply consult_alike .listMethods
  rintro answer _ ⟨⟩
  rcases answer with fault | _ | ⟨method, _ | ⟨second, others⟩⟩
  · exact .done _
  · dsimp only
    split
    · exact finalise_alike _
    · exact .done _
  · exact issueChallenge_alike method
  · exact .done _

theorem afterAuthentication_alike :
    Dialogue.Alike left right (afterAuthentication input record)
      (afterAuthentication input record) := by
  unfold afterAuthentication
  dsimp only
  split
  · exact finalise_alike _
  · exact offerMethods_alike

theorem selectMethod_alike :
    Dialogue.Alike left right (selectMethod input record) (selectMethod input record) := by
  unfold selectMethod
  split
  · exact offerMethods_alike
  · cases input.request.methodId with
    | none => exact .done _
    | some methodId =>
        dsimp only
        cases record.offered? methodId with
        | none => exact .done _
        | some method => exact issueChallenge_alike method

end Stage

/-! ## Requests -/

/-- A text that is not blank and that the format checks of a node let pass in a field. -/
structure Node.Passes (node : Node) (field : TextField) (limit : FormatLimits → Nat)
    (text : String) : Prop where
  given : Text.blank text = false
  checked : ∀ limits, .format limits ∈ node.checks →
    FormatLimits.checkField field (limit limits) (some text) = .ok ()

/-- Texts of a field that are equal or both pass. -/
inductive Secret (passes : String → Prop) : Option String → Option String → Prop
  | same (text : Option String) : Secret passes text text
  | passing {left right : String} (one : passes left) (two : passes right) :
      Secret passes (some left) (some right)

/-- Both requests are the same up to a password and a code that pass the checks of a node. -/
structure Request.Alike (node : Node) (left right : Request) : Prop where
  same : right = { left with password := right.password, code := right.code }
  password : Secret (node.Passes .password (·.credential)) left.password right.password
  code : Secret (node.Passes .code (·.code)) left.code right.code

/-- Against the hash of a confirmation code, if a record has one, the codes of both requests
come out the same. -/
def Request.SameMatch (left right : Request) (record : Authorisation) : Prop :=
  ∀ hash ∈ record.codeHash, ∀ one ∈ left.code, ∀ two ∈ right.code,
    (codeHash one = hash ↔ codeHash two = hash)

/-- Evidence that is the same up to the password or the code of two requests. -/
inductive Evidence.Alike (left right : Request) : Option Evidence → Option Evidence → Prop
  | none : Alike left right none none
  | credential {one two : String} (first : left.password = some one)
      (second : right.password = some two) :
      Alike left right (some (.credential one)) (some (.credential two))
  | code {one two : String} (first : left.code = some one) (second : right.code = some two) :
      Alike left right (some (.code one)) (some (.code two))
  | outcome (outcome : BankOutcome) :
      Alike left right (some (.outcome outcome)) (some (.outcome outcome))

namespace Request.Alike

variable {node : Node} {left right : Request}

theorem filter_passing {field : TextField} {limit : FormatLimits → Nat} {text : String}
    (passes : node.Passes field limit text) :
    (some text).filter (fun text => !text.isEmpty) = some text := by
  have given := passes.given
  have nonempty : text ≠ "" := by
    rintro rfl
    cases given
  simpa [Option.filter] using nonempty

theorem credentialEvidence (alike : Alike node left right) :
    Evidence.Alike left right left.credentialEvidence right.credentialEvidence := by
  unfold Request.credentialEvidence
  have passwords := alike.password
  generalize first : left.password = one at passwords
  generalize second : right.password = two at passwords
  cases passwords with
  | same =>
      cases one with
      | none => exact .none
      | some text =>
          rw [Option.filter_some]
          split
          · exact .credential first second
          · exact .none
  | passing one two =>
      rw [filter_passing one, filter_passing two]
      exact .credential first second

theorem codeEvidence (alike : Alike node left right) :
    Evidence.Alike left right left.codeEvidence right.codeEvidence := by
  unfold Request.codeEvidence
  have codes := alike.code
  generalize first : left.code = one at codes
  generalize second : right.code = two at codes
  cases codes with
  | same =>
      cases one with
      | none => exact .none
      | some text =>
          rw [Option.filter_some]
          split
          · exact .code first second
          · exact .none
  | passing one two =>
      rw [filter_passing one, filter_passing two]
      exact .code first second

theorem sameOutcome (alike : Alike node left right) :
    right.outcomeEvidence = left.outcomeEvidence := by
  rw [alike.same]
  rfl

theorem outcomeEvidence (alike : Alike node left right) :
    Evidence.Alike left right left.outcomeEvidence right.outcomeEvidence := by
  rw [alike.sameOutcome]
  unfold Request.outcomeEvidence
  cases left.bankOutcome with
  | none => exact .none
  | some outcome => exact .outcome outcome

end Request.Alike

namespace Evidence.Alike

variable {node : Node} {left right : Request} {one two other another : Option Evidence}

theorem orElse (first : Evidence.Alike left right one two)
    (second : Evidence.Alike left right other another) :
    Evidence.Alike left right (one <|> other) (two <|> another) := by
  cases first with
  | none => exact second
  | credential first second => exact .credential first second
  | code first second => exact .code first second
  | outcome outcome => exact .outcome outcome

theorem authentication (requests : Request.Alike node left right) (approach : Approach) :
    Evidence.Alike left right ((EvidenceSource.ofApproach approach).authentication left)
      ((EvidenceSource.ofApproach approach).authentication right) := by
  cases approach with
  | embedded => exact requests.credentialEvidence
  | redirect => exact requests.outcomeEvidence
  | decoupled => exact requests.credentialEvidence.orElse requests.outcomeEvidence

theorem confirmation (requests : Request.Alike node left right) (approach : Approach)
    (record : Authorisation) :
    Evidence.Alike left right ((EvidenceSource.ofApproach approach).confirmation record left)
      ((EvidenceSource.ofApproach approach).confirmation record right) := by
  cases approach with
  | embedded =>
      simp only [EvidenceSource.ofApproach, EvidenceSource.embedded]
      split
      · exact requests.outcomeEvidence
      · exact requests.codeEvidence
  | redirect => exact requests.codeEvidence.orElse requests.outcomeEvidence
  | decoupled => exact requests.outcomeEvidence

end Evidence.Alike

/-! ## Stages with secrets -/

namespace Stage

variable {node : Node} {left right : Request} {resource : Resource} {approach : Approach}
  {policy : StagePolicy} {record : Authorisation}

theorem authenticate_alike (requests : Request.Alike node left right) :
    Dialogue.Alike left right (authenticate ⟨left, resource, .ofApproach approach, policy⟩ record)
      (authenticate ⟨right, resource, .ofApproach approach, policy⟩ record) := by
  have submitted : right.submittedPsu = left.submittedPsu := by
    rw [requests.same]
    rfl
  have evidence := Evidence.Alike.authentication requests approach
  simp only [authenticate, submitted]
  generalize (EvidenceSource.ofApproach approach).authentication left = one at evidence ⊢
  generalize (EvidenceSource.ofApproach approach).authentication right = two at evidence ⊢
  cases evidence with
  | none =>
      dsimp only
      split
      · exact .done _
      · split
        · exact .done _
        · exact .done _
  | credential first second =>
      dsimp only
      split
      · exact .done _
      · apply consult_alike (.authenticate first second)
        rintro answer _ ⟨⟩
        rcases answer with fault | _ | _ | _ | _
        · exact .done _
        · exact afterAuthentication_alike
        · exact finalise_alike _
        · exact .done _
        · exact .done _
  | code => exact .done _
  | outcome outcome =>
      cases outcome with
      | confirmed => exact afterAuthentication_alike
      | rejected => exact .done _

theorem confirmCode_alike {one two : String} (first : left.code = some one)
    (second : right.code = some two) (matching : left.SameMatch right record) :
    Dialogue.Alike left right
      (confirmCode ⟨left, resource, .ofApproach approach, policy⟩ record one)
      (confirmCode ⟨right, resource, .ofApproach approach, policy⟩ record two) := by
  unfold confirmCode
  cases hashed : record.codeHash with
  | some expected =>
      have same := matching expected hashed one first two second
      dsimp only
      by_cases hits : codeHash one = expected
      · rw [if_pos hits, if_pos (same.mp hits)]
        exact finalise_alike _
      · rw [if_neg hits, if_neg fun other => hits (same.mpr other)]
        exact .done _
  | none =>
      dsimp only
      apply consult_alike (.confirm first second _)
      rintro answer _ ⟨⟩
      rcases answer with fault | _ | _ | _ | _
      · exact .done _
      · exact finalise_alike _
      · exact finalise_alike _
      · exact .done _
      · exact .done _

theorem confirm_alike (requests : Request.Alike node left right)
    (matching : left.SameMatch right record) :
    Dialogue.Alike left right (confirm ⟨left, resource, .ofApproach approach, policy⟩ record)
      (confirm ⟨right, resource, .ofApproach approach, policy⟩ record) := by
  have sameMethod : right.methodId = left.methodId := by rw [requests.same]
  have evidence := Evidence.Alike.confirmation requests approach record
  simp only [confirm, sameMethod]
  generalize (EvidenceSource.ofApproach approach).confirmation record left = one at evidence ⊢
  generalize (EvidenceSource.ofApproach approach).confirmation record right = two at evidence ⊢
  cases evidence with
  | none =>
      dsimp only
      split
      · exact .done _
      · exact .done _
  | credential => exact .done _
  | code first second => exact confirmCode_alike first second matching
  | outcome outcome =>
      cases outcome with
      | confirmed => exact finalise_alike _
      | rejected => exact .done _

/-- A stage holds conversations that are alike and reaches the same verdict, whatever the
passwords and codes are. -/
theorem handle_alike (requests : Request.Alike node left right)
    (matching : left.SameMatch right record) :
    Dialogue.Alike left right
      (handle record.status ⟨left, resource, .ofApproach approach, policy⟩ record)
      (handle record.status ⟨right, resource, .ofApproach approach, policy⟩ record) := by
  unfold handle
  cases record.status with
  | received => exact authenticate_alike requests
  | psuIdentified => exact authenticate_alike requests
  | psuAuthenticated =>
      rw [requests.same]
      exact selectMethod_alike
  | scaMethodSelected => exact confirm_alike requests matching
  | finalised => exact .done _
  | failed => exact .done _
  | exempted => exact .done _

end Stage

/-! ## Checks -/

theorem Request.Alike.checkField {node : Node} {field : TextField} {limit : FormatLimits → Nat}
    {left right : Option String} (texts : Secret (node.Passes field limit) left right)
    {limits : FormatLimits} (checked : .format limits ∈ node.checks) :
    FormatLimits.checkField field (limit limits) right =
      FormatLimits.checkField field (limit limits) left := by
  cases texts with
  | same => rfl
  | passing one two => rw [one.checked limits checked, two.checked limits checked]

/-- Checks object to both requests in the same words. -/
theorem Request.Alike.firstObjection {node : Node} {left right : Request}
    (requests : Alike node left right) (record : Authorisation) (resource : Resource)
    (siblings : List Authorisation) :
    Check.firstObjection node.checks ⟨right, record, resource, siblings⟩ =
      Check.firstObjection node.checks ⟨left, record, resource, siblings⟩ := by
  unfold Check.firstObjection
  have objects : ∀ check ∈ node.checks,
      Check.objection ⟨right, record, resource, siblings⟩ check =
        Check.objection ⟨left, record, resource, siblings⟩ check := by
    intro check member
    cases check with
    | identity =>
        rw [requests.same]
        rfl
    | format limits =>
        have password := checkField requests.password member
        have code := checkField requests.code member
        have psu : right.psu = left.psu := by rw [requests.same]
        have methodId : right.methodId = left.methodId := by rw [requests.same]
        simp only [Check.objection, FormatLimits.check, password, code, psu, methodId]
    | stages restrictions => rfl
    | accept => rfl
    | decline kind message => rfl
  have mapped (candidate : Candidate) : node.checks.findSome? (Check.objection candidate) =
      (node.checks.map (Check.objection candidate)).findSome? id := by
    rw [List.findSome?_map]
    rfl
  rw [mapped, mapped, List.map_congr_left objects]

end StrongAuth
