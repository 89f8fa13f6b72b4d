import StrongAuth.Proofs.Openings
import StrongAuth.Proofs.Origin

/-! # The course of one authorisation

What each move of a run means for one authorisation, and what has been exchanged with the bank
for it. Main statement: as long as nobody else uses the store while the bank is busy, a property
of the exchanges and of the stored record holds in every run if every such episode keeps it. -/

namespace StrongAuth

/-- What is exchanged with the bank for an authorisation during a passage, with the request that
it is for. -/
def Passage.callsFor (id : String) (passage : Passage) : List (Request × Exchange) :=
  match passage.request? id with
  | none => []
  | some request => passage.calls.map (request, ·)

/-- What was exchanged with the bank for an authorisation. -/
def correspondence (id : String) (passages : List Passage) : List (Request × Exchange) :=
  passages.flatMap (·.callsFor id)

theorem correspondence_append (id : String) (passages : List Passage) (passage : Passage) :
    correspondence id (passages ++ [passage]) =
      correspondence id passages ++ passage.callsFor id := by
  simp [correspondence]

theorem Passage.callsFor_of_silent {passage : Passage} (id : String)
    (silent : passage.after.exchanges = passage.before.exchanges) :
    passage.callsFor id = [] := by
  unfold callsFor
  rw [calls_eq (silent.trans (List.append_nil _).symm)]
  cases passage.request? id <;> rfl

theorem Passage.callsFor_update (id : String) (request : Request) (now : Time.Timestamp)
    (before after : World MemoryStore) :
    Passage.callsFor id ⟨.operate ⟨.update id request, now⟩, before, after⟩ =
      (Passage.calls ⟨.operate ⟨.update id request, now⟩, before, after⟩).map (request, ·) := by
  unfold callsFor request?
  dsimp only
  rw [if_pos rfl]

/-- What a passage means for an authorisation that is stored as a record after it. -/
inductive Episode (deployment : Deployment) (id : String) (passage : Passage) :
    Authorisation → Prop
  | kept (earlier : Authorisation) (version : Int64)
      (found : passage.before.store.record? id = some earlier)
      (silent : passage.callsFor id = []) :
      Episode deployment id passage { earlier with version }
  | opened (record : Authorisation) (unknown : passage.before.store.record? id = none)
      (silent : passage.callsFor id = []) (received : record.status = .received)
      (unfailed : record.failedAttempts = 0) : Episode deployment id passage record
  | failed (earlier : Authorisation) (updated : Time.Timestamp) (version : Int64)
      (found : passage.before.store.record? id = some earlier)
      (silent : passage.callsFor id = []) :
      Episode deployment id passage { earlier with status := .failed, updated, version }
  | refused (request : Request) (now : Time.Timestamp) (visit : Visit)
      (takes : visit.Takes deployment id request now passage.before passage.after)
      (called : passage.callsFor id = visit.exchanges.map (request, ·))
      (undrafted : visit.draft? deployment.node.policy = none) :
      Episode deployment id passage visit.record
  | stored (request : Request) (now : Time.Timestamp) (visit : Visit)
      (takes : visit.Takes deployment id request now passage.before passage.after)
      (called : passage.callsFor id = visit.exchanges.map (request, ·)) (draft : Authorisation)
      (drafted : visit.draft? deployment.node.policy = some draft) :
      Episode deployment id passage (draft.saved now)

namespace Deployment

variable {deployment : Deployment} {before : World MemoryStore} {move : Move} {id : String}
  {record : Authorisation}

/-! ## One move -/

theorem episode_make (quiet : deployment.bank.Quiet)
    (found : (deployment.make before move).store.record? id = some record) :
    Episode deployment id ⟨move, before, deployment.make before move⟩ record := by
  generalize made : deployment.make before move = after at found ⊢
  have kept (same : after.store.record? id = before.store.record? id)
      (silent : Passage.callsFor id ⟨move, before, after⟩ = []) :
      Episode deployment id ⟨move, before, after⟩ record :=
    .kept record record.version (same.symm.trans found) silent
  cases move with
  | outside interference =>
      subst made
      rcases MemoryStore.record?_interfere before.store interference id with ⟨version, finds⟩
      rcases Option.map_eq_some_iff.mp (finds.symm.trans found) with ⟨earlier, stored, rfl⟩
      exact .kept earlier _ stored rfl
  | operate step =>
      have course : Course deployment step before after := by
        subst made
        exact deployment.perform_course step before
      have mute (silent : after.exchanges = before.exchanges) :
          Passage.callsFor id ⟨.operate step, before, after⟩ = [] :=
        Passage.callsFor_of_silent id silent
      cases course with
      | idle state => exact kept (by rw [state.store_eq]) (mute state.exchanges_eq)
      | registered resource operation state =>
          refine kept ?_ (mute state.exchanges_eq)
          simp [state.store_eq, MemoryStore.record?]
      | projected parent state => exact kept (by simp [state.store_eq]) (mute state.exchanges_eq)
      | opened newId resource psu preferred opened operation opening state =>
          have silent := mute state.exchanges_eq
          rw [state.store_eq, MemoryStore.record?_append opening.unknown] at found
          by_cases same : id = opened.id
          · rw [if_pos same] at found
            cases found
            have new := (Authorisation.open?_eq_some opening.opens).2.2
            refine .opened record (same ▸ opening.unknown) silent ?_ ?_
            · rw [new]
            · rw [new]
          · rw [if_neg same] at found
            exact .kept record record.version found silent
      | expired ages =>
          have silent := mute ages.silent
          rcases ages.expires.record?_eq_some found with ⟨earlier, stored, origin⟩
          rcases origin with rfl | ⟨overdue, rfl⟩
          · exact .kept record record.version stored silent
          · exact .failed earlier step.now (earlier.version + 1) stored silent
      | visited updated request visit operation takes =>
          rcases step with ⟨_, now⟩
          cases operation
          rw [takes.record?_eq quiet id] at found
          by_cases same : id = updated
          · subst same
            rw [if_pos rfl] at found
            have called : Passage.callsFor id ⟨.operate ⟨.update id request, now⟩, before, after⟩ =
                visit.exchanges.map (request, ·) := by
              rw [Passage.callsFor_update, Passage.calls_eq takes.state.exchanges_eq]
            cases drafted : visit.draft? deployment.node.policy with
            | none =>
                rw [drafted] at found
                cases found
                exact .refused request now visit takes called drafted
            | some draft =>
                rw [drafted] at found
                cases found
                exact .stored request now visit takes called draft drafted
          · rw [if_neg same] at found
            refine .kept record record.version found ?_
            unfold Passage.callsFor Passage.request?
            dsimp only
            rw [if_neg (Ne.symm same)]

/-- The bank is called about an authorisation only during a visit to it. -/
theorem visit_of_callsFor (deployment : Deployment)
    (called : Passage.callsFor id ⟨move, before, deployment.make before move⟩ ≠ []) :
    ∃ request now visit, move = .operate ⟨.update id request, now⟩ ∧
      Visit.Takes visit deployment id request now before (deployment.make before move) ∧
      Passage.callsFor id ⟨move, before, deployment.make before move⟩ =
        visit.exchanges.map (request, ·) := by
  rcases List.exists_mem_of_ne_nil _ called with ⟨⟨request, exchange⟩, member⟩
  unfold Passage.callsFor at member ⊢
  cases requested : Passage.request? id ⟨move, before, deployment.make before move⟩ with
  | none =>
      rw [requested] at member
      cases member
  | some updating =>
      rw [requested] at member
      rcases List.mem_map.mp member with ⟨exchange, asked, _⟩
      unfold Passage.request? at requested
      split at requested
      · next updated request now operated =>
          dsimp only at operated
          subst operated
          by_cases same : updated = id
          · subst same
            rw [if_pos rfl] at requested
            cases requested
            rcases deployment.visit_of_call _ before asked
              with ⟨_, _, visit, operation, takes, _⟩
            cases operation
            exact ⟨updating, now, visit, rfl, takes,
              congrArg _ (Passage.calls_eq takes.state.exchanges_eq)⟩
          · rw [if_neg same] at requested
            cases requested
      · cases requested

/-! ## Runs -/

theorem correspondence_eq_nil (deployment : Deployment) (moves : List Move)
    (unknown : (deployment.play moves (.fresh .empty)).store.record? id = none) :
    correspondence id (deployment.history moves (.fresh .empty)) = [] := by
  induction moves using List.reverseRecOn with
  | nil => rfl
  | append_singleton moves move induction =>
      rw [play_append] at unknown
      have keeps := deployment.keepsOpenings_make move (deployment.play moves (.fresh .empty))
      have before := keeps.record?_eq_none unknown
      rw [history_append]
      change correspondence id (_ ++ [_]) = []
      rw [correspondence_append, induction before, List.nil_append]
      by_contra called
      rcases deployment.visit_of_callsFor called with ⟨request, now, visit, _, takes, _⟩
      rw [takes.found] at before
      cases before

/-- What every episode keeps holds of every stored record and of the history behind it. -/
theorem episode_induction (quiet : deployment.bank.Quiet)
    (holds : List Passage → Authorisation → Prop) (moves : List Move)
    (kept : ∀ moves move record,
      let before := deployment.play moves (.fresh .empty)
      let passages := deployment.history moves (.fresh .empty)
      let passage : Passage := ⟨move, before, deployment.make before move⟩
      passage.after.store.record? id = some record → Episode deployment id passage record →
      (before.store.record? id = none → correspondence id passages = []) →
      (∀ earlier, before.store.record? id = some earlier → holds passages earlier) →
      holds (passages ++ [passage]) record)
    (found : (deployment.play moves (.fresh .empty)).store.record? id = some record) :
    holds (deployment.history moves (.fresh .empty)) record := by
  -- By the last move: the record before it is another one, and its history is the shorter run.
  induction moves using List.reverseRecOn generalizing record with
  | nil => cases found
  | append_singleton moves move induction =>
      rw [play_append] at found
      rw [history_append]
      exact kept moves move record found (episode_make quiet found)
        (deployment.correspondence_eq_nil moves) fun earlier => induction

end Deployment

end StrongAuth
