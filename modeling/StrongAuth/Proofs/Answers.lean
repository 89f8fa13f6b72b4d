import StrongAuth.Proofs.Drafts
import StrongAuth.Proofs.Resources

/-! # What procedures answer and tell

The answers of the procedures of a node on the store in memory, with the events they publish.
Main statement: the verdict of a visit refuses, or is overtaken by someone else who saved the
record in the meantime, or is stored and told. -/

namespace StrongAuth

def Stage.Outcome.refusal? : Stage.Outcome → Option Refusal
  | .advance _ => none
  | .refuse refusal | .retry refusal | .fail refusal => some refusal

def Stage.Verdict.answer (verdict : Stage.Verdict) (links : Links) (saved : Authorisation) :
    Except Failure UpdateResponse :=
  match verdict.outcome.refusal? with
  | none => .ok (.of links saved)
  | some refusal => .error (.refused refusal)

namespace Node

variable {partner : Partner} {world : World MemoryStore} {now : Time.Timestamp}
  {record saved : Authorisation} {resource : Resource} {parent : String} {α : Type}

/-! ## Changes of a status -/

theorem runAction_announce (partner : Partner)
    (found : world.store.resource? saved.parent = some resource)
    (earlier : Status) (next : Action α) :
    world.runAction partner (do
        publishChange saved earlier
        let _ ← projectParent saved.parent
        next) =
      World.runAction partner next { world with
        store := world.store.projected saved.parent
        events := world.events ++ (changes saved earlier ++
          parentChanges world.store saved.parent) } := by
  let told : World MemoryStore := { world with events := world.events ++ changes saved earlier }
  have known : told.store.resource? saved.parent = some resource := found
  have projects := runAction_projectParent_of_some partner known
  rw [World.runAction_bind, runAction_changes]
  dsimp only
  rw [World.runAction_bind_of_ok partner projects, ← List.append_assoc]

/-! ## Saving -/

def announcements (store : MemoryStore) (saved : Authorisation) (earlier : Status) :
    List Event :=
  changes saved earlier ++
    if saved.status.isTerminal then parentChanges store saved.parent else []

theorem announcements_of_settled (saved : Authorisation) {store : MemoryStore}
    {earlier : Status} (settled : saved.status.isTerminal = true) :
    announcements store saved earlier =
      changes saved earlier ++ parentChanges store saved.parent := by
  rw [announcements, if_pos settled]

theorem announcements_of_live (saved : Authorisation) {store : MemoryStore}
    {earlier : Status} (live : saved.status.isTerminal = false) :
    announcements store saved earlier = changes saved earlier := by
  rw [announcements, live, if_neg (by simp), List.append_nil]

theorem runAction_persist_of_stale {stored : Authorisation}
    (found : world.store.record? record.id = some stored)
    (stale : stored.version ≠ record.version) :
    world.runAction partner (persist record now) =
      (.error (.refused .modifiedConcurrently), world) := by
  have saves : world.store.save { record with updated := now } =
      .error (.conflict record.id record.version) := by
    simp [MemoryStore.save, found, stale]
  have performs : Store.perform world.store (.save { record with updated := now }) =
      Store.settle world.store (world.store.save { record with updated := now }) := rfl
  unfold persist
  rw [World.runAction_bind, World.runAction_perform]
  simp only [World.perform, performs, saves]
  rfl

theorem runAction_persist_of_current (partner : Partner) (now : Time.Timestamp)
    (current : world.store.Current record) :
    world.runAction partner (persist record now) =
      (.ok (record.saved now),
        { world with store := world.store.replace (record.saved now) }) := by
  rcases current with ⟨stored, found, sameVersion⟩
  have saves : world.store.save { record with updated := now } =
      .ok (record.saved now, world.store.replace (record.saved now)) :=
    MemoryStore.save_of_current found sameVersion
  have persists := runAction_persist partner world record now
  rw [saves] at persists
  exact persists

theorem runAction_expire_of_found (partner : Partner) (now : Time.Timestamp)
    (found : world.store.record? record.id = some record) :
    let saved := Authorisation.saved now { record with status := .failed }
    world.runAction partner (expire record now) =
      World.runAction partner (do
        publishChange saved record.status
        let _ ← projectParent saved.parent
        return saved) { world with
          store := world.store.replace saved
          events := world.events ++ [.expired record.id record.parent] } := by
  have current : world.store.Current { record with status := .failed } := ⟨record, found, rfl⟩
  unfold expire
  rw [World.runAction_bind_of_ok partner (runAction_persist_of_current partner now current),
    World.runAction_bind, World.runAction_publish]
  rfl

theorem runAction_expire (partner : Partner) (now : Time.Timestamp)
    (found : world.store.record? record.id = some record)
    (present : world.store.resource? record.parent = some resource) :
    let failed := { record with status := .failed }
    world.runAction partner (expire record now) =
      (.ok (failed.saved now), { world with
        store := world.store.commit now failed
        events := world.events ++ (.expired record.id record.parent ::
          announcements (world.store.replace (failed.saved now)) (failed.saved now)
            record.status) }) := by
  intro failed
  have current : world.store.Current failed := ⟨record, found, rfl⟩
  let later : World MemoryStore :=
    { world with
      store := world.store.replace (failed.saved now)
      events := world.events ++ [.expired record.id record.parent] }
  have known : later.store.resource? (failed.saved now).parent = some resource := present
  rw [MemoryStore.commit_of_current current, announcements_of_settled (failed.saved now) rfl,
    List.append_cons, runAction_expire_of_found partner now found]
  exact runAction_announce partner known record.status _

theorem world_expire (partner : Partner) (now : Time.Timestamp)
    (found : world.store.record? record.id = some record) :
    let failed := { record with status := .failed }
    (world.runAction partner (expire record now)).2 = { world with
      store := world.store.commit now failed
      events := world.events ++ (.expired record.id record.parent ::
        announcements (world.store.replace (failed.saved now)) (failed.saved now)
          record.status) } := by
  intro failed
  have current : world.store.Current failed := ⟨record, found, rfl⟩
  rw [MemoryStore.commit_of_current current, announcements_of_settled (failed.saved now) rfl,
    List.append_cons, runAction_expire_of_found partner now found]
  exact world_announce partner _ (failed.saved now) record.status fun _ _ => rfl

/-! ## Conclusions -/

variable {verdict : Stage.Verdict} {earlier : Status} {draft : Authorisation}

theorem runAction_conclude_of_stale (node : Node) {stored : Authorisation}
    (drafted : verdict.draft? node.policy.exemption earlier = some draft)
    (found : world.store.record? draft.id = some stored)
    (stale : stored.version ≠ draft.version) :
    world.runAction partner (node.conclude earlier verdict now) =
      (.error (.refused .modifiedConcurrently), world) := by
  unfold conclude
  unfold Stage.Verdict.draft? at drafted
  cases outcome : verdict.outcome with
  | advance status =>
      simp only [outcome] at drafted
      dsimp only
      cases checked : Status.check node.policy.exemption earlier status with
      | error refused =>
          rw [checked] at drafted
          cases drafted
      | ok accepted =>
          rw [checked] at drafted
          cases drafted
          exact World.runAction_bind_of_error partner (runAction_persist_of_stale found stale) _
  | refuse refusal =>
      rw [outcome] at drafted
      cases drafted
  | retry refusal =>
      rw [outcome] at drafted
      cases drafted
      exact World.runAction_bind_of_error partner (runAction_persist_of_stale found stale) _
  | fail refusal =>
      rw [outcome] at drafted
      cases drafted
      exact World.runAction_bind_of_error partner (runAction_persist_of_stale found stale) _

theorem runAction_conclude_of_current (node : Node) (live : earlier.isTerminal = false)
    (drafted : verdict.draft? node.policy.exemption earlier = some draft)
    (current : world.store.Current draft)
    (parent : world.store.resource? draft.parent = some resource) :
    world.runAction partner (node.conclude earlier verdict now) =
      (verdict.answer node.links (draft.saved now), { world with
        store := world.store.commit now draft
        events := world.events ++
          announcements (world.store.replace (draft.saved now)) (draft.saved now) earlier }) := by
  have persists := runAction_persist_of_current partner now current
  let later : World MemoryStore :=
    { world with store := world.store.replace (draft.saved now) }
  have found : later.store.resource? (draft.saved now).parent = some resource := parent
  rw [MemoryStore.commit_of_current current]
  unfold conclude
  unfold Stage.Verdict.draft? at drafted
  cases outcome : verdict.outcome with
  | advance status =>
      simp only [outcome] at drafted
      dsimp only
      cases checked : Status.check node.policy.exemption earlier status with
      | error refused =>
          rw [checked] at drafted
          cases drafted
      | ok accepted =>
          rw [checked] at drafted
          have same : { verdict.record with status } = draft := Option.some.inj drafted
          have sameStatus : status = draft.status := by rw [← same]
          dsimp only
          rw [same, World.runAction_bind_of_ok partner persists, Stage.Verdict.answer, outcome,
            sameStatus]
          cases settled : draft.status.isTerminal with
          | true =>
              rw [announcements_of_settled (draft.saved now) settled]
              exact runAction_announce partner found earlier _
          | false =>
              rw [announcements_of_live (draft.saved now) settled, World.runAction_bind, runAction_changes]
              rfl
  | refuse refusal =>
      rw [outcome] at drafted
      cases drafted
  | retry refusal =>
      rw [outcome] at drafted
      have same : { verdict.record with status := earlier } = draft := Option.some.inj drafted
      have sameStatus : draft.status = earlier := by rw [← same]
      have unsettled : draft.status.isTerminal = false := by rw [sameStatus, live]
      have unchanged : changes (draft.saved now) earlier = [] := if_pos sameStatus
      dsimp only
      rw [same, World.runAction_bind_of_ok partner persists, Stage.Verdict.answer, outcome,
        sameStatus, live, announcements_of_live (draft.saved now) unsettled, unchanged, List.append_nil]
      rfl
  | fail refusal =>
      rw [outcome] at drafted
      have same : { verdict.record with status := .failed } = draft := Option.some.inj drafted
      have settled : draft.status.isTerminal = true := by rw [← same]; rfl
      dsimp only
      rw [same, World.runAction_bind_of_ok partner persists, Stage.Verdict.answer, outcome,
        if_pos settled, announcements_of_settled (draft.saved now) settled]
      exact runAction_announce partner found earlier _

/-! ## Requests -/

/-- What becomes of a request against a stored record of a stored resource. -/
theorem runAction_process (partner : Partner) (node : Node) (request : Request)
    (now : Time.Timestamp) (found : world.store.record? record.id = some record)
    (present : world.store.resource? record.parent = some resource) :
    world.runAction partner (node.process record.id request now) =
      if record.status.isTerminal then (.error (.refused (.settled record.status)), world)
      else if record.isExpired now then
        world.runAction partner (do
          let _ ← expire record now
          Action.refuse .expired)
      else
        match Check.firstObjection node.checks ⟨request, record, resource,
            if resource.multilevel then world.store.listByParent record.parent else []⟩ with
        | some refusal => (.error (.refused refusal), world)
        | none =>
            world.runAction partner (do
              let verdict ← Action.converse (Stage.handle record.status
                ⟨request, resource, .ofApproach record.approach, node.policy⟩ record)
              node.conclude record.status verdict now) := by
  unfold process
  rw [World.runAction_bind, runAction_load, found]
  dsimp only
  cases record.status.isTerminal with
  | true => rfl
  | false =>
      simp only [Bool.false_eq_true, if_false]
      cases record.isExpired now with
      | true =>
          simp only [if_true]
          rw [World.runAction_bind, World.runAction_bind]
          rcases World.runAction partner (expire record now) world with ⟨failure | saved, later⟩
          · rfl
          · rfl
      | false =>
          simp only [Bool.false_eq_true, if_false]
          rw [World.runAction_bind, World.runAction_resource, present]
          dsimp only
          cases resource.multilevel with
          | true =>
              simp only [if_true]
              rw [World.runAction_bind, World.runAction_listByParent]
              dsimp only
              cases Check.firstObjection node.checks
                ⟨request, record, resource, world.store.listByParent record.parent⟩ <;> rfl
          | false =>
              simp only [Bool.false_eq_true, if_false]
              rw [World.runAction_bind, World.runAction_pure]
              dsimp only
              cases Check.firstObjection node.checks ⟨request, record, resource, []⟩ <;> rfl

end Node

/-- A verdict without a copy to store refuses. -/
theorem Stage.Sound.refuses_of_draft?_eq_none {input : Stage.Input} {record : Authorisation}
    {exchanges : List Exchange} {verdict : Stage.Verdict}
    (sound : Stage.Sound input record exchanges verdict)
    (undrafted : verdict.draft? input.policy.exemption record.status = none) :
    ∃ refusal, verdict.outcome = .refuse refusal := by
  unfold Stage.Verdict.draft? at undrafted
  cases outcome : verdict.outcome with
  | advance status =>
      simp only [outcome] at undrafted
      rw [sound.accepted status outcome] at undrafted
      cases undrafted
  | refuse refusal => exact ⟨refusal, rfl⟩
  | retry refusal =>
      rw [outcome] at undrafted
      cases undrafted
  | fail refusal =>
      rw [outcome] at undrafted
      cases undrafted

/-- How the verdict of a visit is carried out: it refuses, its record was saved by someone else
during the conversation, or its copy is stored and told of. -/
inductive Concluded (node : Node) (visit : Visit) (now : Time.Timestamp)
    (talked : World MemoryStore) (result : Except Failure UpdateResponse × World MemoryStore) :
    Prop
  | refused (refusal : Refusal) (refuses : visit.verdict.outcome = .refuse refusal)
      (ran : result = (.error (.refused refusal), talked))
  | overtaken (version : Int64) (changed : version ≠ visit.record.version)
      (found : talked.store.record? visit.record.id = some { visit.record with version })
      (ran : result = (.error (.refused .modifiedConcurrently), talked))
  | stored (draft : Authorisation) (drafted : visit.draft? node.policy = some draft)
      (current : talked.store.Current draft)
      (ran : result = (visit.verdict.answer node.links (draft.saved now), { talked with
        store := talked.store.commit now draft
        events := talked.events ++ Node.announcements (talked.store.replace (draft.saved now))
          (draft.saved now) visit.record.status }))

namespace Visit.Takes

variable {deployment : Deployment} {id : String} {request : Request} {now : Time.Timestamp}
  {before after : World MemoryStore} {visit : Visit}

theorem concluded (takes : visit.Takes deployment id request now before after) :
    let talked := before.afterTalk visit.interference visit.exchanges
    Concluded deployment.node visit now talked (talked.runAction deployment.partner
      (deployment.node.conclude visit.record.status visit.verdict now)) := by
  intro talked
  cases drafted : visit.draft? deployment.node.policy with
  | none =>
      rcases takes.sound.refuses_of_draft?_eq_none drafted with ⟨refusal, refuses⟩
      refine .refused refusal refuses ?_
      unfold Node.conclude
      rw [refuses]
      rfl
  | some draft =>
      have copies := takes.draft_copies drafted
      have sameId : draft.id = visit.record.id := copies.id_eq
      have sameVersion : draft.version = visit.record.version := copies.version_eq
      have resaves : before.store.Resaves talked.store :=
        .foldl_interfere before.store visit.interference
      rcases resaves visit.record.id with ⟨version, found⟩
      rw [takes.id_eq, takes.found, ← takes.id_eq] at found
      have drafting : talked.store.record? draft.id =
          some { visit.record with version := version visit.record } := sameId ▸ found
      by_cases same : version visit.record = draft.version
      · have resources : before.store.SameResources talked.store :=
          MemoryStore.sameResources_foldl_interfere before.store visit.interference
        have parent := takes.parent
        rw [← copies.parent_eq] at parent
        rcases resources.eq_some parent with ⟨status, present⟩
        have current : talked.store.Current draft := ⟨_, drafting, same⟩
        exact .stored draft drafted current
          (Node.runAction_conclude_of_current deployment.node takes.live drafted current present)
      · rw [sameVersion] at same
        have stale : version visit.record ≠ draft.version := sameVersion ▸ same
        exact .overtaken (version visit.record) same found
          (Node.runAction_conclude_of_stale deployment.node drafted drafting stale)

end Visit.Takes

end StrongAuth
