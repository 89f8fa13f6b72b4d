import StrongAuth.Fault

/-! # Where a database is kept

The path of the database file, and whether a database can be opened there. -/

namespace StrongAuth

inductive PathState
  | absent
  | emptyFile
  | database
  /-- A file that is no database. -/
  | otherFile
  | directory
  deriving DecidableEq, Repr

inductive DatabaseLocation
  /-- In memory, for as long as the store is open. -/
  | memory
  | file (path : String)
  deriving DecidableEq, Repr

namespace DatabaseLocation

def text : DatabaseLocation → String
  | .memory => ":memory:"
  | .file path => path

/-- The location that is given, or that the environment names, or the usual one. -/
def choose (given : Option String) (environment : List (String × String)) :
    DatabaseLocation :=
  .file ((given.or (environment.lookup "XS2A_SCA_DB_PATH")).getD "xs2a-sca.db")

/-- Whether a database can be opened at a location, given what is found there and where its
directory should be. Missing directories are made. -/
def openable (parent entry : PathState) : DatabaseLocation → Except StoreFault Unit
  | .memory => .ok ()
  | .file _ =>
      match parent with
      | .absent | .directory =>
          match entry with
          | .absent | .emptyFile | .database => .ok ()
          | .otherFile | .directory => .error .database
      | .emptyFile | .database | .otherFile => .error .io

end DatabaseLocation

end StrongAuth
