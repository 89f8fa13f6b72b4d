import StrongAuth.Proofs.Legibility

/-! # Registered resources

Memory holds a resource as it was registered last. In tables the row of the first registration
stays, and later ones rewrite all of it but the kind and the time of creation. Main statement:
after any calls tables read what memory holds, under the kind and the time of creation of the
first registration. A status that is none of that kind cannot be read at all. -/

namespace StrongAuth

open Time

/-! ## Resources in rows -/

namespace ParentStatus

def noun (kind : ResourceKind) : String :=
  if kind.isConsent then "consent status" else "transaction status"

/-- Statuses of consents and of payments have no word in common. -/
theorem parse_word_of_misfit {kind : ResourceKind} {status : ParentStatus}
    (misfit : status.fits kind = false) :
    parse kind status.word = .error ⟨noun kind, status.word⟩ := by
  cases status with
  | consent status =>
      cases kind with
      | payment => cases status <;> rfl
      | accountConsent | fundsConsent => cases misfit
  | payment status =>
      cases kind with
      | payment => cases misfit
      | accountConsent | fundsConsent => cases status <;> rfl

end ParentStatus

namespace Resource

variable {resource first : Resource}

def truncated (resource : Resource) : Resource :=
  { resource with created := resource.created.truncateMicros }

/-- The resource in the row of an earlier registration. -/
def filedUnder (resource first : Resource) : Resource :=
  { resource with kind := first.kind, created := first.created }

/-- What tables read of the resource: a status that is none of its kind is a fault, and so is a
time of creation with a sign. -/
def reading (resource : Resource) : Except StoreFault Resource :=
  if resource.status.fits resource.kind then
    if resource.created.FourDigits then .ok resource.truncated
    else .error (.invalidData (.timestamp resource.created.microsText .invalid))
  else .error (.invalidData (.word ⟨ParentStatus.noun resource.kind, resource.status.word⟩))

theorem reading_eq_ok_iff {found : Resource} : resource.reading = .ok found ↔
    resource.status.fits resource.kind = true ∧ resource.created.FourDigits ∧
      found = resource.truncated := by
  unfold reading
  by_cases fits : resource.status.fits resource.kind = true <;>
    by_cases year : resource.created.FourDigits <;> simp [fits, year, eq_comm]

theorem reading_filedUnder_eq_iff (fits : resource.status.fits resource.kind = true) :
    (resource.filedUnder first).reading = .ok resource.truncated ↔
      first.kind = resource.kind ∧ first.created.FourDigits ∧
        first.created.truncateMicros = resource.created.truncateMicros := by
  rw [reading_eq_ok_iff]
  constructor
  · rintro ⟨_, year, same⟩
    exact ⟨(congrArg Resource.kind same).symm, year, (congrArg Resource.created same).symm⟩
  · rintro ⟨sameKind, year, sameCreated⟩
    refine ⟨?_, year, ?_⟩
    · rw [filedUnder, sameKind]
      exact fits
    · simp only [truncated, filedUnder, sameKind, sameCreated]

end Resource

namespace TableStore

variable {store : TableStore} {resource first current : Resource} {id : String}
  {row : Row ResourceColumn}

theorem readResource_writeResource_reading (resource : Resource) :
    readResource (writeResource resource) = resource.reading := by
  rw [readResource_writeResource_eq]
  unfold Resource.reading
  cases fits : resource.status.fits resource.kind with
  | false =>
      rw [ParentStatus.parse_word_of_misfit fits]
      rfl
  | true =>
      rw [ParentStatus.parse_word fits]
      by_cases year : resource.created.FourDigits
      · rw [readTime_of_fourDigits year, if_pos rfl, if_pos year]
        rfl
      · rw [readTime_of_signed year, if_pos rfl, if_neg year]
        rfl

theorem updateResource_writeResource (resource : Resource) :
    updateResource resource (writeResource resource) = writeResource resource := by
  funext column
  cases column <;> rfl

theorem updateResource_updateResource (resource current : Resource)
    (row : Row ResourceColumn) :
    updateResource resource (updateResource current row) = updateResource resource row := by
  funext column
  cases column <;> rfl

theorem set_status_updateResource (resource : Resource) (status : ParentStatus)
    (row : Row ResourceColumn) :
    (updateResource resource row).set .status (.text status.word) =
      updateResource { resource with status } row := by
  funext column
  cases column <;> rfl

theorem readResource_updateResource_writeResource (same : first.id = resource.id) :
    readResource (updateResource resource (writeResource first)) =
      (resource.filedUnder first).reading := by
  rw [← readResource_writeResource_reading]
  simp only [readResource, updateResource, writeResource, Resource.filedUnder, same]

/-- The row says that its resource is of this kind, and was created at this time. -/
structure Opens (row : Row ResourceColumn) (kind : ResourceKind) (created : Timestamp) :
    Prop where
  kind : row .kind = .text (Vocabulary.word kind)
  created : ∃ text, row .created = .text text ∧ readTime text = .ok created

theorem readText_eq_ok_iff {cell : Cell} {text : String} :
    cell.readText = .ok text ↔ cell = .text text := by
  cases cell <;> simp [Cell.readText]

theorem readWord_parse_eq_ok_iff {kind : ResourceKind} {text : String} :
    readWord (ResourceKind.parse text) = .ok kind ↔ text = Vocabulary.word kind := by
  unfold ResourceKind.parse Vocabulary.parse
  cases read : (Vocabulary.read? text : Option ResourceKind) with
  | none =>
      have unread : text ≠ Vocabulary.word kind := by
        rintro rfl
        cases read.symm.trans (Vocabulary.read?_word kind)
      simp [readWord, Except.mapError, unread]
  | some value =>
      have word := Vocabulary.word_of_read? read
      subst word
      have same : value = kind ↔ Vocabulary.word value = Vocabulary.word kind :=
        ⟨congrArg _, Vocabulary.word_injective value kind⟩
      simp [readWord, Except.mapError, same]

theorem readWord_status_eq_ok_iff {kind : ResourceKind} {status found : ParentStatus} :
    readWord (ParentStatus.parse kind status.word) = .ok found ↔
      status.fits kind = true ∧ found = status := by
  cases fits : status.fits kind with
  | false => simp [ParentStatus.parse_word_of_misfit fits, readWord, Except.mapError]
  | true => simp [ParentStatus.parse_word fits, readWord, Except.mapError, eq_comm]

/-- What is read of any row that a registration has updated. -/
theorem readResource_updateResource_eq_ok_iff (keyed : row .id = .text resource.id)
    {found : Resource} :
    readResource (updateResource resource row) = .ok found ↔
      ∃ kind created, Opens row kind created ∧ resource.status.fits kind = true ∧
        found = { resource with kind, created } := by
  simp only [readResource, bind_eq_ok_iff]
  constructor
  · rintro ⟨kindText, kindCell, kind, kindRead, _, ⟨⟩, _, ⟨⟩, createdText, createdCell, id, idCell,
      status, statusRead, _, multilevel, _, oneFactor, _, partialAllowed, _, coSigners, created,
      createdRead, whole⟩
    rw [readText_eq_ok_iff] at kindCell createdCell idCell
    rw [readWord_parse_eq_ok_iff] at kindRead
    rw [readWord_status_eq_ok_iff] at statusRead
    rcases statusRead with ⟨fits, rfl⟩
    cases (readBool_ofBool _).symm.trans multilevel
    cases (readBool_ofBool _).symm.trans oneFactor
    cases (readBool_ofBool _).symm.trans partialAllowed
    cases (readJson_encode _).symm.trans coSigners
    cases keyed.symm.trans idCell
    cases whole
    exact ⟨kind, created, ⟨kindCell.trans (congrArg _ kindRead), createdText, createdCell,
      createdRead⟩, fits, rfl⟩
  · rintro ⟨kind, created, ⟨kindCell, createdText, createdCell, createdRead⟩, fits, rfl⟩
    exact ⟨_, readText_eq_ok_iff.mpr kindCell, kind, readWord_parse_eq_ok_iff.mpr rfl, _, rfl,
      _, rfl, _, readText_eq_ok_iff.mpr createdCell, _, readText_eq_ok_iff.mpr keyed,
      _, readWord_status_eq_ok_iff.mpr ⟨fits, rfl⟩, _, readBool_ofBool _, _, readBool_ofBool _,
      _, readBool_ofBool _, _, readJson_encode _, _, createdRead, rfl⟩

/-! ## One call -/

theorem resource?_of_find? (found : find? id store.resources = some row) :
    store.resource? id = (readResource row).map some := by
  rw [resource?, found, Option.mapM_some]
  cases readResource row <;> rfl

theorem find?_register (store : TableStore) (resource : Resource) (id : String) :
    find? id (store.register resource).resources =
      if resource.id = id then
        some (updateResource resource ((find? id store.resources).getD (writeResource resource)))
      else find? id store.resources := by
  unfold register
  cases found : find? resource.id store.resources with
  | none =>
      have keyed : writeResource resource Schema.key = .text resource.id := rfl
      dsimp only
      rw [find?_append keyed found]
      by_cases same : resource.id = id
      · rw [if_pos same, if_pos same, ← same, found, Option.getD_none,
          updateResource_writeResource]
      · rw [if_neg same, if_neg same]
  | some row =>
      have keyed (row : Row ResourceColumn) :
          updateResource resource row Schema.key = row Schema.key := rfl
      dsimp only
      rw [find?_change keyed]
      by_cases same : resource.id = id
      · rw [if_pos same, if_pos same, ← same, found]
        rfl
      · rw [if_neg same, if_neg same]

theorem find?_setParentStatus (store : TableStore) (id other : String) (status : ParentStatus) :
    find? id (Store.perform store (.setParentStatus other status)).2.resources =
      if other = id then
        (find? id store.resources).map fun row => row.set .status (.text status.word)
      else find? id store.resources := by
  have performs : Store.perform store (.setParentStatus other status) = Store.settle store
    ((store.setParentStatus other status).map fun store => ((), store)) := rfl
  rw [performs]
  cases accepted : store.setParentStatus other status with
  | ok later => exact find?_of_setParentStatus accepted id
  | error fault =>
      have missing : find? other store.resources = none := by
        unfold setParentStatus at accepted
        split at accepted
        · assumption
        · cases accepted
      by_cases same : other = id
      · subst same
        simp [Store.settle, Except.map, missing]
      · simp [Store.settle, Except.map, same]

/-- What tables read of a resource after it was registered, by the row in which it is. -/
structure ReadsRegistered (resource : Resource) (store : TableStore) : Prop where
  /-- No registration was there before. -/
  new : find? resource.id store.resources = none →
    (store.register resource).resource? resource.id = resource.reading.map some
  /-- All of the row but its kind and its time of creation is of the new registration. -/
  known : ∀ row, find? resource.id store.resources = some row → ∀ found,
    (store.register resource).resource? resource.id = .ok found ↔
      ∃ kind created, Opens row kind created ∧ resource.status.fits kind = true ∧
        found = some { resource with kind, created }

theorem readsRegistered (resource : Resource) (store : TableStore) :
    ReadsRegistered resource store := by
  have finds := find?_register store resource resource.id
  rw [if_pos rfl] at finds
  constructor
  · intro missing
    rw [resource?_of_find? finds, missing, Option.getD_none, updateResource_writeResource,
      readResource_writeResource_reading]
  · intro row present found
    have keyed : row .id = .text resource.id := by
      simpa [Schema.key] using List.find?_some present
    rw [resource?_of_find? finds, present, Option.getD_some, map_eq_ok_iff]
    constructor
    · rintro ⟨registered, reads, rfl⟩
      rcases (readResource_updateResource_eq_ok_iff keyed).mp reads
        with ⟨kind, created, opens, fits, rfl⟩
      exact ⟨kind, created, opens, fits, rfl⟩
    · rintro ⟨kind, created, opens, fits, rfl⟩
      exact ⟨_, (readResource_updateResource_eq_ok_iff keyed).mpr
        ⟨kind, created, opens, fits, rfl⟩, rfl⟩

end TableStore

/-! ## Any calls -/

def StoreCall.registered? (id : String) : StoreCall → Option Resource
  | .register registered => if registered.id = id then some registered else none
  | _ => none

/-- The call gives no resource a status of another kind than the one it has in memory. -/
def StoreCall.Suits (store : MemoryStore) : StoreCall → Prop
  | .register registered => registered.status.fits registered.kind = true
  | .setParentStatus id status =>
      (store.resource? id).all (fun found => status.fits found.kind) = true
  | _ => True

instance (store : MemoryStore) : (call : StoreCall) → Decidable (call.Suits store)
  | .register _ | .setParentStatus .. => inferInstanceAs (Decidable (_ = true))
  | .insert _ | .get _ | .save _ | .listByParent _ | .listExpired _ | .resource _ => isTrue trivial

namespace Store

variable {σ : Type} [Store σ]

def performAll (store : σ) (calls : List StoreCall) : σ :=
  calls.foldl (fun store call => (perform store call).2) store

/-- What every accepted attempt leaves as it was stays as it was. -/
theorem settle_keeps {σ α β : Type} (view : σ → β) {store : σ}
    {result : Except StoreFault (α × σ)}
    (keeps : ∀ answer later, result = .ok (answer, later) → view later = view store) :
    view (settle store result).2 = view store := by
  rcases result with fault | ⟨answer, later⟩
  · rfl
  · exact keeps answer later rfl

theorem perform_setParentStatus (store : σ) (id : String) (status : ParentStatus) :
    (perform store (.setParentStatus id status)).2 = interfere store (.setStatus id status) := by
  have performs : perform store (.setParentStatus id status) = settle store
    ((setParentStatus id status store).map fun store => ((), store)) := rfl
  rw [performs, interfere]
  cases setParentStatus id status store <;> rfl

end Store

/-- Each of the calls suits what it finds in memory. -/
def Suited : MemoryStore → List StoreCall → Prop
  | _, [] => True
  | store, call :: calls => call.Suits store ∧ Suited (Store.perform store call).2 calls

instance decidableSuited :
    (store : MemoryStore) → (calls : List StoreCall) → Decidable (Suited store calls)
  | _, [] => isTrue trivial
  | store, call :: calls =>
      have := decidableSuited (Store.perform store call).2 calls
      inferInstanceAs (Decidable (_ ∧ _))

/-- How a resource was first registered, what memory holds of it, and its row: the row of that
first registration, brought up to date. -/
inductive Filed : Option Resource → Option Resource → Option (Row ResourceColumn) → Prop
  | unknown : Filed none none none
  | known (first current : Resource) (same : first.id = current.id)
      (fits : current.status.fits current.kind = true) :
      Filed (some first) (some current)
        (some (TableStore.updateResource current (TableStore.writeResource first)))

namespace Filed

variable {first current : Option Resource} {row : Option (Row ResourceColumn)}

theorem register (filed : Filed first current row) {resource : Resource}
    (fits : resource.status.fits resource.kind = true)
    (same : ∀ earlier, current = some earlier → earlier.id = resource.id) :
    Filed (first.or (some resource)) (some resource) (some (TableStore.updateResource resource
      (row.getD (TableStore.writeResource resource)))) := by
  cases filed with
  | unknown => exact known resource resource rfl fits
  | known first current sameId _ =>
      rw [Option.or_some, Option.getD_some, Option.getD_some,
        TableStore.updateResource_updateResource]
      exact known first resource (sameId.trans (same current rfl)) fits

theorem setStatus (filed : Filed first current row) {status : ParentStatus}
    (fits : current.all (fun found => status.fits found.kind) = true) :
    Filed first (current.map fun found => { found with status })
      (row.map fun row => row.set .status (.text status.word)) := by
  cases filed with
  | unknown => exact unknown
  | known first current sameId _ =>
      rw [Option.map_some, Option.map_some, TableStore.set_status_updateResource]
      exact known first { current with status } sameId fits

/-- What tables read is what memory holds, under the first kind and time of creation. -/
theorem reads (filed : Filed first current row) : row.mapM TableStore.readResource =
    current.mapM fun resource => (resource.filedUnder (first.getD resource)).reading := by
  cases filed with
  | unknown => rfl
  | known first current same _ =>
      rw [Option.mapM_some, Option.mapM_some, Option.getD_some,
        TableStore.readResource_updateResource_writeResource same]

end Filed

/-- Memory and tables hold the same resources, which were first registered so. -/
def AllFiled (first : String → Option Resource) (memory : MemoryStore) (tables : TableStore) :
    Prop :=
  ∀ id, Filed (first id) (memory.resource? id) (TableStore.find? id tables.resources)

namespace AllFiled

variable {first : String → Option Resource} {memory : MemoryStore} {tables : TableStore}

theorem empty : AllFiled (fun _ => none) .empty .empty :=
  fun _ => .unknown

theorem register (allFiled : AllFiled first memory tables) {resource : Resource}
    (fits : resource.status.fits resource.kind = true) :
    AllFiled (fun id => (first id).or (if resource.id = id then some resource else none))
      (memory.register resource) (tables.register resource) := by
  intro id
  dsimp only
  rw [MemoryStore.resource?_register, TableStore.find?_register]
  by_cases same : resource.id = id
  · subst same
    rw [if_pos rfl, if_pos rfl, if_pos rfl]
    exact (allFiled resource.id).register fits fun _ found => MemoryStore.id_of_resource? found
  · rw [if_neg same, if_neg same, if_neg (Ne.symm same), Option.or_none]
    exact allFiled id

theorem setStatus (allFiled : AllFiled first memory tables) {other : String}
    {status : ParentStatus}
    (fits : (memory.resource? other).all (fun found => status.fits found.kind) = true) :
    AllFiled first (Store.perform memory (.setParentStatus other status)).2
      (Store.perform tables (.setParentStatus other status)).2 := by
  intro id
  rw [Store.perform_setParentStatus, MemoryStore.resource?_interfere_setStatus,
    TableStore.find?_setParentStatus]
  by_cases same : other = id
  · subst same
    rw [if_pos rfl, if_pos rfl]
    exact (allFiled other).setStatus fits
  · rw [if_neg same, if_neg (Ne.symm same)]
    exact allFiled id

/-- Other calls leave the resources alone. -/
theorem of_resources_eq (allFiled : AllFiled first memory tables) {laterMemory : MemoryStore}
    {laterTables : TableStore} (sameMemory : laterMemory.resources = memory.resources)
    (sameTables : laterTables.resources = tables.resources) :
    AllFiled first laterMemory laterTables := by
  intro id
  have found : laterMemory.resource? id = memory.resource? id := by
    simp only [MemoryStore.resource?, sameMemory]
  rw [found, sameTables]
  exact allFiled id

end AllFiled

theorem MemoryStore.resources_insert (store : MemoryStore) (record : Authorisation) :
    (Store.perform store (.insert record)).2.resources = store.resources := by
  apply Store.settle_keeps MemoryStore.resources
  intro _ later accepted
  rcases map_eq_ok_iff.mp accepted with ⟨inserted, accepted, same⟩
  cases same
  rcases insert_eq_ok accepted with ⟨_, rfl⟩
  rfl

theorem MemoryStore.resources_save (store : MemoryStore) (draft : Authorisation) :
    (Store.perform store (.save draft)).2.resources = store.resources := by
  apply Store.settle_keeps MemoryStore.resources
  intro saved later accepted
  rcases save_eq_ok accepted with ⟨_, _, _, _, rfl⟩
  rfl

theorem TableStore.resources_insert (store : TableStore) (record : Authorisation) :
    (Store.perform store (.insert record)).2.resources = store.resources := by
  apply Store.settle_keeps TableStore.resources
  intro _ later accepted
  rcases map_eq_ok_iff.mp accepted with ⟨inserted, accepted, same⟩
  cases same
  rcases insert_eq_ok accepted with ⟨_, rfl⟩
  rfl

theorem TableStore.resources_save (store : TableStore) (draft : Authorisation) :
    (Store.perform store (.save draft)).2.resources = store.resources := by
  apply Store.settle_keeps TableStore.resources
  intro saved later accepted
  rcases save_eq_ok accepted with ⟨_, _, _, rfl⟩
  rfl

namespace AllFiled

variable {first : String → Option Resource} {memory : MemoryStore} {tables : TableStore}

theorem of_eq {others : String → Option Resource} (allFiled : AllFiled first memory tables)
    (same : ∀ id, others id = first id) : AllFiled others memory tables :=
  fun id => same id ▸ allFiled id

theorem perform (allFiled : AllFiled first memory tables) {call : StoreCall}
    (suits : call.Suits memory) :
    AllFiled (fun id => (first id).or (call.registered? id)) (Store.perform memory call).2
      (Store.perform tables call).2 := by
  cases call with
  | register resource => exact allFiled.register suits
  | setParentStatus id status => exact (allFiled.setStatus suits).of_eq fun _ => Option.or_none
  | insert record =>
      exact (allFiled.of_resources_eq (memory.resources_insert record)
        (tables.resources_insert record)).of_eq fun _ => Option.or_none
  | save draft =>
      exact (allFiled.of_resources_eq (memory.resources_save draft)
        (tables.resources_save draft)).of_eq fun _ => Option.or_none
  | get id | listByParent parent | listExpired now | resource id =>
      exact allFiled.of_eq fun _ => Option.or_none

theorem performAll (allFiled : AllFiled first memory tables) {calls : List StoreCall}
    (suited : Suited memory calls) :
    AllFiled (fun id => (first id).or (calls.findSome? (StoreCall.registered? id)))
      (Store.performAll memory calls) (Store.performAll tables calls) := by
  induction calls generalizing first memory tables with
  | nil => exact allFiled.of_eq fun _ => Option.or_none
  | cons call calls induction =>
      refine (induction (allFiled.perform suited.1) suited.2).of_eq fun id => ?_
      rw [List.findSome?_cons, Option.or_assoc]
      cases call.registered? id <;> rfl

end AllFiled

namespace Filed

variable {first current : Option Resource} {row : Option (Row ResourceColumn)}

/-- Tables read what memory holds exactly if the first registration is like the last one. -/
theorem agrees_iff (filed : Filed first current row) :
    row.mapM TableStore.readResource = .ok (current.map (·.truncated)) ↔
      ∀ earlier latest, first = some earlier → current = some latest →
        earlier.kind = latest.kind ∧ earlier.created.FourDigits ∧
          earlier.created.truncateMicros = latest.created.truncateMicros := by
  rw [filed.reads]
  cases filed with
  | unknown => exact iff_of_true rfl (by rintro _ _ ⟨⟩)
  | known first current same fits =>
      have wraps : ((some current).mapM fun resource =>
          (resource.filedUnder ((some first).getD resource)).reading) =
          .ok ((some current).map (·.truncated)) ↔
          (current.filedUnder first).reading = .ok current.truncated := by
        rw [Option.mapM_some, Option.getD_some, Option.map_some]
        cases (current.filedUnder first).reading <;> simp
      rw [wraps, Resource.reading_filedUnder_eq_iff fits]
      constructor
      · rintro alike _ _ ⟨⟩ ⟨⟩
        exact alike
      · intro alike
        exact alike first current rfl rfl

end Filed

/-- Memory reads a resource as it was registered last; what tables read depends on the row that
was there before. After any calls that suit the resources, tables read what memory holds under
the kind and the time of creation of the first registration. The two agree exactly if these are
legible and have remained the same. -/
theorem registered_under_first_kind (stored : MemoryStore) (rows : TableStore)
    (resource : Resource) (calls : List StoreCall) (id : String) :
    (stored.register resource).resource? resource.id = some resource ∧
    TableStore.ReadsRegistered resource rows ∧
    (Suited .empty calls →
      let memory := Store.performAll MemoryStore.empty calls
      let tables := Store.performAll TableStore.empty calls
      let first? := calls.findSome? (StoreCall.registered? id)
      (tables.resource? id = (memory.resource? id).mapM fun current =>
        (current.filedUnder (first?.getD current)).reading) ∧
      (tables.resource? id = .ok ((memory.resource? id).map (·.truncated)) ↔
        ∀ first current, first? = some first → memory.resource? id = some current →
          first.kind = current.kind ∧ first.created.FourDigits ∧
            first.created.truncateMicros = current.created.truncateMicros)) := by
  refine ⟨?_, TableStore.readsRegistered resource rows, ?_⟩
  · rw [MemoryStore.resource?_register, if_pos rfl]
  · intro suited memory tables first?
    have filed := AllFiled.empty.performAll suited id
    exact ⟨filed.reads, filed.agrees_iff⟩

/-- A payment keeps its row when a consent is registered under its id. Memory then holds the
consent, and tables fail to read its status as one of a payment. Before that they agree. -/
theorem consent_under_payment_unreadable :
    let payment : Resource :=
      ⟨"p1", .payment, .payment .received, false, false, false, [], .epoch⟩
    let consent : Resource :=
      { payment with kind := .accountConsent, status := .consent .received }
    let calls : List StoreCall :=
      [.register payment, .setParentStatus "p1" (.payment .settling), .register payment]
    let memory (calls : List StoreCall) := (Store.performAll MemoryStore.empty calls).resource? "p1"
    let tables (calls : List StoreCall) := (Store.performAll TableStore.empty calls).resource? "p1"
    Suited .empty (calls ++ [.register consent]) ∧
      memory calls = some payment ∧ tables calls = .ok (some payment) ∧
      memory (calls ++ [.register consent]) = some consent ∧
      tables (calls ++ [.register consent]) =
        .error (.invalidData (.word ⟨"transaction status", "received"⟩)) := by
  intro payment consent calls memory tables
  have suited : Suited .empty (calls ++ [.register consent]) := by decide
  have agreed := (registered_under_first_kind .empty .empty payment calls "p1").2.2 (by decide)
  have failed := (registered_under_first_kind .empty .empty consent _ "p1").2.2 suited
  exact ⟨suited, by decide, agreed.1.trans (by decide), by decide, failed.1.trans (by decide)⟩

end StrongAuth
