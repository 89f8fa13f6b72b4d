import StrongAuth.Codec.Authorisation
import StrongAuth.Store
import StrongAuth.Store.Schema

/-! # The store in a database

Authorisations and resources as rows of two tables. Nested values are kept as JSON
text. Timestamps are kept as text of one width, cut to microseconds, so that the order
of the texts is the order of the instants; only years from 0 to 9999 are read back. A
row may have been written by someone else, and reading it reports the first value that
does not fit. -/

namespace StrongAuth

structure TableStore where
  authorisations : List (Row AuthorisationColumn)
  resources : List (Row ResourceColumn)

namespace TableStore

def empty : TableStore := ⟨[], []⟩

instance : Inhabited TableStore := ⟨empty⟩

/-! ## Values in cells -/

def writeJson {α : Type} [Codec α] (value : α) : Cell :=
  .text (Codec.encode value)

def writeTime (instant : Time.Timestamp) : Cell :=
  .text instant.microsText

def readJson {α : Type} [Codec α] (text : String) : Except StoreFault α :=
  (Codec.decode text).mapError fun _ => .serialization

def readOptionalJson {α : Type} [Codec α] (cell : Cell) : Except StoreFault (Option α) := do
  match ← cell.readOptionalText with
  | none => return none
  | some text => return some (← readJson text)

def readTime (text : String) : Except StoreFault Time.Timestamp :=
  (Time.readStrict text).mapError fun fault => .invalidData (.timestamp text fault)

def readWord {α : Type} (result : Except WordFault α) : Except StoreFault α :=
  result.mapError fun fault => .invalidData (.word fault)

/-! ## Authorisations as rows -/

def writeRecord (record : Authorisation) : Row AuthorisationColumn
  | .id => .text record.id
  | .parent => .text record.parent
  | .kind => .text (Vocabulary.word record.kind)
  | .psu => .ofOption writeJson record.psu
  | .status => .text (Vocabulary.word record.status)
  | .approach => .text (Vocabulary.word record.approach)
  | .chosen => .ofOption writeJson record.chosen
  | .offered => writeJson record.offered
  | .challenge => .ofOption writeJson record.challenge
  | .codeHash => .ofOption .text record.codeHash
  | .bankData => .ofOption .blob record.bankData
  | .failedAttempts => .integer (.ofNat record.failedAttempts.toNat)
  | .redirectDeadline => writeTime record.redirectDeadline
  | .deadline => writeTime record.deadline
  | .version => .integer record.version
  | .created => writeTime record.created
  | .updated => writeTime record.updated

/-- The types of some columns are checked before any value is looked at. -/
def readRecord (row : Row AuthorisationColumn) : Except StoreFault Authorisation := do
  let kindText ← (row .kind).readText
  let statusText ← (row .status).readText
  let approachText ← (row .approach).readText
  let offeredText ← (row .offered).readText
  let attempts ← (row .failedAttempts).readInteger
  let redirectDeadlineText ← (row .redirectDeadline).readText
  let deadlineText ← (row .deadline).readText
  let createdText ← (row .created).readText
  let updatedText ← (row .updated).readText
  let id ← (row .id).readText
  let parent ← (row .parent).readText
  let kind ← readWord (ResourceKind.parse kindText)
  let psu ← readOptionalJson (row .psu)
  let status ← readWord (Status.parse statusText)
  let approach ← readWord (Approach.parse approachText)
  let chosen ← readOptionalJson (row .chosen)
  let offered ← readJson offeredText
  let challenge ← readOptionalJson (row .challenge)
  let codeHash ← (row .codeHash).readOptionalText
  let bankData ← (row .bankData).readOptionalBytes
  if attempts < 0 ∨ 4294967295 < attempts then throw (.invalidData (.attempts attempts))
  let redirectDeadline ← readTime redirectDeadlineText
  let deadline ← readTime deadlineText
  let version ← (row .version).readInteger
  let created ← readTime createdText
  let updated ← readTime updatedText
  return {
    id, parent, kind, psu, status, approach, chosen, offered, challenge, codeHash, bankData
    failedAttempts := UInt32.ofNat attempts.toNatClampNeg
    redirectDeadline, deadline, version, created, updated }

/-- A row with the values of an authorisation that change in the course of it. What follows
the greatest version is no integer to the database. -/
def updateRecord (record : Authorisation) (row : Row AuthorisationColumn) :
    Row AuthorisationColumn
  | .version =>
      if record.version = Int64.maxValue then .real else .integer (record.version + 1)
  | column =>
      if [.psu, .status, .chosen, .offered, .challenge, .codeHash, .bankData, .failedAttempts,
          .updated].contains column then
        writeRecord record column
      else row column

/-! ## Resources as rows -/

/-- Nothing reads the time of the last change, and the time of creation stands in for it. -/
def writeResource (resource : Resource) : Row ResourceColumn
  | .id => .text resource.id
  | .kind => .text (Vocabulary.word resource.kind)
  | .status => .text resource.status.word
  | .multilevel => .ofBool resource.multilevel
  | .oneFactor => .ofBool resource.oneFactor
  | .partialAllowed => .ofBool resource.partialAllowed
  | .coSigners => writeJson resource.coSigners
  | .created => writeTime resource.created
  | .updated => writeTime resource.created

def readResource (row : Row ResourceColumn) : Except StoreFault Resource := do
  let kindText ← (row .kind).readText
  let kind ← readWord (ResourceKind.parse kindText)
  let statusText ← (row .status).readText
  let coSignersText ← (row .coSigners).readText
  let createdText ← (row .created).readText
  let id ← (row .id).readText
  let status ← readWord (ParentStatus.parse kind statusText)
  let multilevel ← (row .multilevel).readBool
  let oneFactor ← (row .oneFactor).readBool
  let partialAllowed ← (row .partialAllowed).readBool
  let coSigners ← readJson coSignersText
  let created ← readTime createdText
  return { id, kind, status, multilevel, oneFactor, partialAllowed, coSigners, created }

/-- A row of a resource that is registered once more: its kind and its time of creation
stay. -/
def updateResource (resource : Resource) (row : Row ResourceColumn) : Row ResourceColumn
  | .id => row .id
  | .kind => row .kind
  | .created => row .created
  | column => writeResource resource column

/-! ## The tables -/

def find? {κ : Type} [Schema κ] (id : String) (rows : List (Row κ)) : Option (Row κ) :=
  rows.find? fun row => row Schema.key == .text id

def change {κ : Type} [Schema κ] (id : String) (update : Row κ → Row κ) (rows : List (Row κ)) :
    List (Row κ) :=
  rows.map fun row => if row Schema.key == .text id then update row else row

def get (id : String) (store : TableStore) : Except StoreFault (Option Authorisation) :=
  (find? id store.authorisations).mapM readRecord

def insert (record : Authorisation) (store : TableStore) : Except StoreFault TableStore :=
  match find? record.id store.authorisations with
  | some _ => .error (.duplicate record.id)
  | none => .ok { store with authorisations := store.authorisations ++ [writeRecord record] }

def save (record : Authorisation) (store : TableStore) :
    Except StoreFault (Authorisation × TableStore) := do
  match find? record.id store.authorisations with
  | none => .error (.notFound record.id)
  | some row =>
      if row .version == .integer record.version then
        let authorisations := change record.id (updateRecord record) store.authorisations
        return ({ record with version := record.version + 1 }, { store with authorisations })
      else do
        let _ ← readRecord row
        .error (.conflict record.id record.version)

def listByParent (parent : String) (store : TableStore) :
    Except StoreFault (List Authorisation) :=
  let rows := store.authorisations.filter fun row => row .parent == .text parent
  (rows.mergeSort fun left right =>
    (left .created).textOf ≤ (right .created).textOf).mapM readRecord

/-- The words of the terminal statuses. -/
def terminalWords : List Cell :=
  ["finalised", "failed", "exempted"].map .text

/-- Whether the texts in a row say that it is live and has a deadline before `now`. -/
def isOverdue (now : String) (row : Row AuthorisationColumn) : Bool :=
  !terminalWords.contains (row .status) &&
    ((row .redirectDeadline).textOf < now || (row .deadline).textOf < now)

def listExpired (now : Time.Timestamp) (store : TableStore) :
    Except StoreFault (List Authorisation) :=
  (store.authorisations.filter (isOverdue now.microsText)).mapM readRecord

def register (resource : Resource) (store : TableStore) : TableStore :=
  let resources := match find? resource.id store.resources with
    | some _ => change resource.id (updateResource resource) store.resources
    | none => store.resources ++ [writeResource resource]
  { store with resources }

def resource? (id : String) (store : TableStore) : Except StoreFault (Option Resource) :=
  (find? id store.resources).mapM readResource

def setParentStatus (id : String) (status : ParentStatus) (store : TableStore) :
    Except StoreFault TableStore :=
  match find? id store.resources with
  | none => .error (.notFound id)
  | some _ =>
      let update (row : Row ResourceColumn) := row.set .status (.text status.word)
      .ok { store with resources := change id update store.resources }

instance : Store TableStore where
  insert := insert
  get := get
  save := save
  listByParent := listByParent
  listExpired := listExpired
  register resource store := .ok (store.register resource)
  resource := resource?
  setParentStatus := setParentStatus

/-! ## Writing past the store -/

/-- Overwrites one column in the rows of a given id: the new rows and how many changed. A
statement that would leave a row its table does not take is refused. -/
def overwrite {κ : Type} [Schema κ] [DecidableEq κ] (column id : String) (cell : Cell)
    (rows : List (Row κ)) : Except StoreFault (List (Row κ) × Nat) := do
  let some column := (Vocabulary.read? column : Option κ) | throw .database
  let stored := cell.store (Schema.affinity column)
  let changed := change id (fun row => row.set column stored) rows
  let keys := changed.map fun row => row Schema.key
  if changed.all (·.isSound) && keys.eraseDups.length == keys.length then
    return (changed, rows.countP fun row => row Schema.key == .text id)
  else throw .database

def corrupt (table column id : String) (cell : Cell) (store : TableStore) :
    Except StoreFault (TableStore × Nat) := do
  if table = "authorisations" then
    let (authorisations, count) ← overwrite column id cell store.authorisations
    return ({ store with authorisations }, count)
  else if table = "resources" then
    let (resources, count) ← overwrite column id cell store.resources
    return ({ store with resources }, count)
  else throw .database

end TableStore

end StrongAuth
