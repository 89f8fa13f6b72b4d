/-! # Payment service users

The identification data of a PSU. Who a PSU is depends on four of its fields; the
address it comes from is informational. -/

namespace StrongAuth

structure Psu where
  id : Option String
  idType : Option String
  corporateId : Option String
  corporateIdType : Option String
  ipAddress : Option String
  deriving DecidableEq, Repr, Inhabited

namespace Psu

def anonymous : Psu := ⟨none, none, none, none, none⟩

/-- Whether neither an id nor a corporate id is given. -/
def isEmpty (psu : Psu) : Bool :=
  psu.id.all String.isEmpty && psu.corporateId.all String.isEmpty

/-- Whether two PSUs are the same person; the address is not compared. -/
def sameAs (left right : Psu) : Bool :=
  left.id == right.id && left.idType == right.idType &&
    left.corporateId == right.corporateId && left.corporateIdType == right.corporateIdType

theorem sameAs_iff {left right : Psu} :
    left.sameAs right = true ↔ left.id = right.id ∧ left.idType = right.idType ∧
      left.corporateId = right.corporateId ∧ left.corporateIdType = right.corporateIdType := by
  simp [sameAs, and_assoc]

theorem sameAs_refl (psu : Psu) : psu.sameAs psu = true := by
  simp [sameAs_iff]

theorem sameAs_symm {left right : Psu} (same : left.sameAs right = true) :
    right.sameAs left = true := by
  simp_all [sameAs_iff]

end Psu

end StrongAuth
