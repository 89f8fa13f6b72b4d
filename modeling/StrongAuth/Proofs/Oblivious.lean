import StrongAuth.Stage
import StrongAuth.Validation

/-! # What an update does not look at

Main statement: of the resource, a stage looks only at whether one factor is enough. With any
other resource it holds the same conversation, and tells the bank of that resource instead. The
checks do not look at the status of the resource either. -/

namespace StrongAuth

/-- The conversation with another resource told to the bank. -/
def Dialogue.about {α : Type} (resource : Resource) : Dialogue α → Dialogue α
  | .done value => .done value
  | .ask call next => .ask { call with resource } fun answer => about resource (next answer)

namespace Stage

variable {input : Input} {record : Authorisation} {resource : Resource}

theorem consult_about {α : Type} (query : Query)
    (next : Except BankFault query.task.Answer → Dialogue α) :
    Dialogue.about resource (consult input record query >>= next) =
      consult { input with resource } record query >>= fun answer =>
        Dialogue.about resource (next answer) := rfl

theorem finalise_about (status : Status) :
    finalise { input with resource } record status =
      Dialogue.about resource (finalise input record status) := by
  unfold finalise
  rw [consult_about]
  apply congrArg
  funext answer
  cases answer <;> rfl

theorem issueChallenge_about (method : Method) :
    issueChallenge { input with resource } record method =
      Dialogue.about resource (issueChallenge input record method) := by
  unfold issueChallenge
  cases record.choose method with
  | error earlier => rfl
  | ok copy =>
      dsimp only
      rw [consult_about]
      apply congrArg
      funext answer
      cases answer with
      | error fault => rfl
      | ok grant =>
          dsimp only
          split
          · exact finalise_about _
          · rfl

theorem offerMethods_about :
    offerMethods { input with resource } record =
      Dialogue.about resource (offerMethods input record) := by
  unfold offerMethods
  rw [consult_about]
  apply congrArg
  funext answer
  rcases answer with fault | _ | ⟨method, _ | ⟨second, others⟩⟩
  · rfl
  · dsimp only
    split
    · exact finalise_about _
    · rfl
  · exact issueChallenge_about _
  · rfl

theorem afterAuthentication_about (sameFactor : resource.oneFactor = input.resource.oneFactor) :
    afterAuthentication { input with resource } record =
      Dialogue.about resource (afterAuthentication input record) := by
  simp only [afterAuthentication, sameFactor]
  split
  · exact finalise_about _
  · exact offerMethods_about

theorem authenticate_about (sameFactor : resource.oneFactor = input.resource.oneFactor) :
    authenticate { input with resource } record =
      Dialogue.about resource (authenticate input record) := by
  simp only [authenticate]
  rcases input.evidence.authentication input.request with _ | password | code | _ | _
  · dsimp only
    split
    · rfl
    · split <;> rfl
  · dsimp only
    split
    · rfl
    · rw [consult_about]
      apply congrArg
      funext answer
      rcases answer with fault | _ | _ | _ | _
      · rfl
      · exact afterAuthentication_about sameFactor
      · exact finalise_about _
      · rfl
      · rfl
  · rfl
  · exact afterAuthentication_about sameFactor
  · rfl

theorem selectMethod_about :
    selectMethod { input with resource } record =
      Dialogue.about resource (selectMethod input record) := by
  unfold selectMethod
  split
  · exact offerMethods_about
  · cases input.request.methodId with
    | none => rfl
    | some methodId =>
        dsimp only
        cases record.offered? methodId with
        | none => rfl
        | some method => exact issueChallenge_about method

theorem confirmCode_about (code : String) :
    confirmCode { input with resource } record code =
      Dialogue.about resource (confirmCode input record code) := by
  unfold confirmCode
  cases record.codeHash with
  | some expected =>
      dsimp only
      split
      · exact finalise_about _
      · rfl
  | none =>
      dsimp only
      rw [consult_about]
      apply congrArg
      funext answer
      rcases answer with fault | _ | _ | _ | _
      · rfl
      · exact finalise_about _
      · exact finalise_about _
      · rfl
      · rfl

theorem confirm_about :
    confirm { input with resource } record =
      Dialogue.about resource (confirm input record) := by
  unfold confirm
  rcases input.evidence.confirmation record input.request with _ | password | code | _ | _
  · dsimp only
    split <;> rfl
  · rfl
  · exact confirmCode_about code
  · exact finalise_about _
  · rfl

/-- A stage goes on in the same way whatever the status of the resource is. -/
theorem handle_about (status : Status)
    (sameFactor : resource.oneFactor = input.resource.oneFactor) :
    handle status { input with resource } record =
      Dialogue.about resource (handle status input record) := by
  cases status with
  | received => exact authenticate_about sameFactor
  | psuIdentified => exact authenticate_about sameFactor
  | psuAuthenticated => exact selectMethod_about
  | scaMethodSelected => exact confirm_about
  | finalised => rfl
  | failed => rfl
  | exempted => rfl

end Stage

theorem Check.firstObjection_of_status (checks : List Check) (request : Request)
    (record : Authorisation) (resource : Resource) (siblings : List Authorisation)
    (status : ParentStatus) :
    Check.firstObjection checks ⟨request, record, { resource with status }, siblings⟩ =
      Check.firstObjection checks ⟨request, record, resource, siblings⟩ := by
  unfold firstObjection
  apply congrArg (List.findSome? · checks)
  funext check
  cases check <;> rfl

end StrongAuth
