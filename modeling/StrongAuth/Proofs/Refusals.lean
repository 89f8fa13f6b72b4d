import StrongAuth.Proofs.Conduct
import StrongAuth.Proofs.History

/-! # What a refusal tells

Others may use the store at any time while an update is under way. Main statement: whatever
they do and whatever the bank answers, the kind of a refusal tells what the update has done
and how it leaves the authorisation. -/

namespace StrongAuth

/-! ## Objections -/

theorem Check.tells_of_standard {restrictions : StageRestrictions} {candidate : Candidate}
    {refusal : Refusal}
    (objected : firstObjection (standard restrictions) candidate = some refusal) :
    refusal.kind.Tells True True False False := by
  rcases List.exists_of_findSome?_eq_some objected with ⟨check, member, objects⟩
  simp only [standard, List.mem_cons, List.not_mem_nil, or_false] at member
  rcases member with rfl | rfl | rfl
  · change identityObjection candidate = some refusal at objects
    unfold identityObjection at objects
    grind [Refusal.kind, RefusalKind.Tells]
  · simp only [objection] at objects
    grind [Refusal.kind, RefusalKind.Tells]
  · simp only [objection] at objects
    grind [Refusal.kind, RefusalKind.Tells]

/-! ## Refused updates -/

/-- Whatever others do to the store before, during and after an update that is refused, the kind
of the refusal tells whether the update has written anything or called the bank, and whether
the authorisation has failed or has been charged with a wrong attempt. -/
theorem Node.refusal_tells (node : Node) {restrictions : StageRestrictions}
    (standard : node.checks = Check.standard restrictions) {partner : Partner} {id : String}
    {request : Request} {now : Time.Timestamp} {refusal : Refusal} {deeds : List Deed}
    {lets : Interference → Prop} {before after : World MemoryStore}
    (does : Procedure.Does partner (node.update id request now).run deeds
      (.error (.refused refusal)))
    (passes : World.Passes partner lets before deeds after) :
    refusal.kind.Tells (Unwritten deeds) (Unasked deeds)
      (∃ record, after.store.record? id = some record ∧ record.status = .failed)
      (∃ earlier later, before.store.record? id = some earlier ∧
        earlier.status.isTerminal = false ∧ after.store.record? id = some later ∧
        later.status = earlier.status ∧
        later.failedAttempts = earlier.failedAttempts + 1) := by
  have answers : node.Answers id deeds refusal :=
    Procedure.Keeps.of_does (node.keeps_update id request) does
  rcases answers with accounts | ⟨unwritten, unasked, candidate, objected⟩
  · apply RefusalKind.Tells.mono accounts (fun unwritten => unwritten) fun unasked => unasked
    · rintro ⟨record, draft, rfl, failed, replaces⟩
      rcases (passes.of_replaces replaces).2 with ⟨version, stored⟩
      exact ⟨_, stored, failed⟩
    · rintro ⟨record, draft, rfl, sameStatus, counted, replaces⟩
      have live : record.status.isTerminal = false := by
        cases replaces with
        | intro loaded drafts accepted spared => exact drafts.live
      rcases passes.of_replaces replaces with ⟨⟨earlier, found⟩, later, stored⟩
      exact ⟨_, _, found, live, stored, sameStatus, counted⟩
  · rw [standard] at objected
    exact (Check.tells_of_standard objected).mono (fun _ => unwritten) (fun _ => unasked)
      False.elim False.elim

/-- A payment with an authorisation that awaits a password. -/
def startedSteps : List Step :=
  let payment : Resource := ⟨"payment", .payment, .payment .received, false, false, false, [],
    .epoch⟩
  [⟨.register payment, .epoch⟩, ⟨.start "first" "payment" none (some .embedded), .epoch⟩]

def wrongPassword : Request :=
  ⟨some ⟨some "anna", none, none, none, none⟩, some "guessed", none, none, none⟩

theorem wrong_password_tells :
    let deployment := Deployment.simulated .standard
    let world := (deployment.run startedSteps (.fresh MemoryStore.empty)).2
    let update : Step := ⟨.update "first" wrongPassword, .epoch⟩
    (deployment.perform update world).1 = .error (.refused (.attemptFailed .first 2)) ∧
      ((∃ record, (deployment.perform update world).2.store.record? "first" = some record ∧
          record.status = .failed) ∨
        ∃ earlier later, world.store.record? "first" = some earlier ∧
          earlier.status.isTerminal = false ∧
          (deployment.perform update world).2.store.record? "first" = some later ∧
          later.status = earlier.status ∧
          later.failedAttempts = earlier.failedAttempts + 1) := by
  intro deployment world update
  have refused : (deployment.perform update world).1 =
      .error (.refused (.attemptFailed .first 2)) := by decide +kernel
  refine ⟨refused, ?_⟩
  let procedure := (deployment.node.update "first" wrongPassword .epoch).run
  have does : Procedure.Does deployment.partner procedure
      (world.deeds deployment.partner procedure) (.error (.refused (.attemptFailed .first 2))) := by
    rw [← refused]
    exact World.does_deeds deployment.partner procedure world
  have passes : World.Passes deployment.partner (fun _ => False) world
      (world.deeds deployment.partner procedure) (deployment.perform update world).2 :=
    World.Passes.start.run procedure
  have standard : deployment.node.checks = Check.standard .none := rfl
  exact deployment.node.refusal_tells standard does passes

end StrongAuth
