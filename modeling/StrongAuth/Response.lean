import StrongAuth.Link

/-! # Responses

What the third party is told about an authorisation after it was started or moved
forward. -/

namespace StrongAuth

structure StartResponse where
  id : String
  status : Status
  approach : Approach
  nextLink : NextLink
  deriving DecidableEq, Repr

structure UpdateResponse where
  id : String
  status : Status
  approach : Approach
  psu : Option Psu
  /-- The methods to choose from, while one has to be chosen. -/
  methods : List Method
  chosen : Option Method
  challenge : Option Challenge
  nextLink : NextLink
  deriving DecidableEq, Repr

def StartResponse.of (links : Links) (record : Authorisation) : StartResponse :=
  ⟨record.id, record.status, record.approach, links.next record⟩

def UpdateResponse.of (links : Links) (record : Authorisation) : UpdateResponse where
  id := record.id
  status := record.status
  approach := record.approach
  psu := record.psu
  methods := if record.status = .psuAuthenticated then record.offered else []
  chosen := record.chosen
  challenge := record.challenge
  nextLink := links.next record

end StrongAuth
