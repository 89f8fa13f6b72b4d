import StrongAuth.Store.Cell
import StrongAuth.Vocabulary

/-! # The tables of the database

The columns of both tables by name, what they hold, and what every row has to
satisfy. -/

namespace StrongAuth

class Schema (κ : Type) extends Vocabulary κ where
  affinity : κ → Affinity
  nullable : κ → Bool
  /-- The column that tells the rows apart. -/
  key : κ
  /-- The column that holds a kind of resource. -/
  kind : κ

abbrev Row (κ : Type) := κ → Cell

namespace Row

variable {κ : Type}

def set [DecidableEq κ] (row : Row κ) (column : κ) (cell : Cell) : Row κ :=
  fun other => if other = column then cell else row other

/-- The kinds of resources that a row may have. -/
def kinds : List Cell :=
  ["ais_consent", "pis_payment", "piis_consent"].map .text

/-- Whether its table takes a row: columns that need a value have one, and the
kind is one of the known ones. -/
def isSound [Schema κ] (row : Row κ) : Bool :=
  (Vocabulary.values : List κ).all (fun column =>
    Schema.nullable column || row column != .null) && kinds.contains (row Schema.kind)

end Row

/-! ## Authorisations -/

inductive AuthorisationColumn
  | id
  | parent
  | kind
  | psu
  | status
  | approach
  | chosen
  | offered
  | challenge
  | codeHash
  | bankData
  | failedAttempts
  | redirectDeadline
  | deadline
  | version
  | created
  | updated
  deriving DecidableEq, Repr

namespace AuthorisationColumn

/-- Every column in the order of the table. -/
def all : List AuthorisationColumn :=
  [.id, .parent, .kind, .psu, .status, .approach, .chosen, .offered, .challenge, .codeHash,
    .bankData, .failedAttempts, .redirectDeadline, .deadline, .version, .created, .updated]

def name : AuthorisationColumn → String
  | .id => "authorisation_id"
  | .parent => "parent_id"
  | .kind => "resource_kind"
  | .psu => "psu_json"
  | .status => "sca_status"
  | .approach => "sca_approach"
  | .chosen => "chosen_sca_method_json"
  | .offered => "available_sca_methods_json"
  | .challenge => "challenge_data_json"
  | .codeHash => "confirmation_code_hash"
  | .bankData => "aspsp_data"
  | .failedAttempts => "failed_attempts"
  | .redirectDeadline => "redirect_url_expiration"
  | .deadline => "authorisation_expiration"
  | .version => "version"
  | .created => "created_at"
  | .updated => "updated_at"

instance : Schema AuthorisationColumn where
  values := all
  word := name
  mem_values column := by cases column <;> simp [all]
  word_injective left right equal := by
    cases left <;> cases right <;> simp [name] at equal ⊢
  affinity
    | .failedAttempts | .version => .integer
    | .bankData => .blob
    | _ => .text
  nullable
    | .psu | .chosen | .challenge | .codeHash | .bankData => true
    | _ => false
  key := .id
  kind := .kind

end AuthorisationColumn

/-! ## Resources -/

inductive ResourceColumn
  | id
  | kind
  | status
  | multilevel
  | oneFactor
  | partialAllowed
  | coSigners
  | created
  | updated
  deriving DecidableEq, Repr

namespace ResourceColumn

/-- Every column in the order of the table. -/
def all : List ResourceColumn :=
  [.id, .kind, .status, .multilevel, .oneFactor, .partialAllowed, .coSigners, .created,
    .updated]

def name : ResourceColumn → String
  | .id => "resource_id"
  | .kind => "resource_kind"
  | .status => "status"
  | .multilevel => "multilevel_sca_required"
  | .oneFactor => "one_factor_authorisation"
  | .partialAllowed => "partial_authorisation_allowed"
  | .coSigners => "psus_json"
  | .created => "created_at"
  | .updated => "updated_at"

instance : Schema ResourceColumn where
  values := all
  word := name
  mem_values column := by cases column <;> simp [all]
  word_injective left right equal := by
    cases left <;> cases right <;> simp [name] at equal ⊢
  affinity
    | .multilevel | .oneFactor | .partialAllowed => .integer
    | _ => .text
  nullable _ := false
  key := .id
  kind := .kind

end ResourceColumn

end StrongAuth
