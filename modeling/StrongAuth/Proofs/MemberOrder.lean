import StrongAuth.Proofs.JsonText

/-! # The order of members

An object is the same in whatever order its members are written. Main statements: rearranged
values fit as the originals do, and every member of an object is found again in a rearranged
one, rearranged itself. -/

namespace StrongAuth.Json

mutual

/-- Two values that differ at most in the order of the members of their objects. -/
inductive Rearranged : Json → Json → Prop
  | refl (json : Json) : Rearranged json json
  | array {items others : List Json} (same : RearrangedItems items others) :
      Rearranged (.array items) (.array others)
  | object {members others shuffled : List (String × Json)}
      (same : RearrangedMembers members others) (order : others.Perm shuffled) :
      Rearranged (.object members) (.object shuffled)

/-- Items that are rearranged each at its place. -/
inductive RearrangedItems : List Json → List Json → Prop
  | nil : RearrangedItems [] []
  | cons {item other : Json} {items others : List Json} (first : Rearranged item other)
      (rest : RearrangedItems items others) : RearrangedItems (item :: items) (other :: others)

/-- Members that are rearranged each at its place. -/
inductive RearrangedMembers : List (String × Json) → List (String × Json) → Prop
  | nil : RearrangedMembers [] []
  | cons {name : String} {value other : Json} {members others : List (String × Json)}
      (first : Rearranged value other) (rest : RearrangedMembers members others) :
      RearrangedMembers ((name, value) :: members) ((name, other) :: others)

end

theorem RearrangedItems.refl (items : List Json) : RearrangedItems items items := by
  induction items with
  | nil => exact .nil
  | cons item items induction => exact .cons (.refl item) induction

theorem RearrangedMembers.refl (members : List (String × Json)) :
    RearrangedMembers members members := by
  induction members with
  | nil => exact .nil
  | cons member members induction => exact .cons (.refl member.2) induction

theorem Rearranged.of_perm {members shuffled : List (String × Json)}
    (order : members.Perm shuffled) : Rearranged (.object members) (.object shuffled) :=
  .object (.refl members) order

/-! ## Numbers -/

theorem fitMembers_iff {members : List (String × Json)} :
    FitMembers members ↔ ∀ member ∈ members, member.2.Fits := by
  induction members with
  | nil => simp [FitMembers]
  | cons member members induction => simp [FitMembers, induction]

mutual

theorem Rearranged.fits {json other : Json} (same : Rearranged json other) (fits : json.Fits) :
    other.Fits := by
  cases same with
  | refl => exact fits
  | array same => exact same.fits fits
  | object same order =>
      refine fitMembers_iff.mpr fun member listed => ?_
      exact fitMembers_iff.mp (same.fits fits) member (order.mem_iff.mpr listed)

theorem RearrangedItems.fits {items others : List Json} (same : RearrangedItems items others)
    (fits : FitItems items) : FitItems others := by
  cases same with
  | nil => trivial
  | cons first rest => exact ⟨first.fits fits.1, rest.fits fits.2⟩

theorem RearrangedMembers.fits {members others : List (String × Json)}
    (same : RearrangedMembers members others) (fits : FitMembers members) :
    FitMembers others := by
  cases same with
  | nil => trivial
  | cons first rest => exact ⟨first.fits fits.1, rest.fits fits.2⟩

end

/-! ## Members -/

theorem lookup_eq_some_iff {α : Type} {pairs : List (String × α)}
    (distinct : (pairs.map Prod.fst).Nodup) {name : String} {value : α} :
    pairs.lookup name = some value ↔ (name, value) ∈ pairs := by
  induction pairs with
  | nil => simp
  | cons pair pairs induction =>
      rcases pair with ⟨other, stored⟩
      have parts := List.nodup_cons.mp distinct
      rw [List.lookup_cons, List.mem_cons, Prod.mk.injEq]
      by_cases same : name = other
      · subst same
        have absent : (name, value) ∉ pairs := fun member =>
          parts.1 (List.mem_map.mpr ⟨_, member, rfl⟩)
        simp [absent, eq_comm]
      · have different : (name == other) = false := by simpa using same
        simp [different, same, induction parts.2]

theorem lookup_of_perm {α : Type} {pairs others : List (String × α)}
    (distinct : (pairs.map Prod.fst).Nodup) (order : pairs.Perm others) (name : String) :
    others.lookup name = pairs.lookup name := by
  have otherDistinct : (others.map Prod.fst).Nodup := (order.map Prod.fst).nodup_iff.mp distinct
  apply Option.ext
  intro value
  rw [lookup_eq_some_iff otherDistinct, lookup_eq_some_iff distinct, order.mem_iff]

theorem RearrangedMembers.names {members others : List (String × Json)}
    (same : RearrangedMembers members others) : others.map Prod.fst = members.map Prod.fst := by
  cases same with
  | nil => rfl
  | cons first rest => rw [List.map_cons, List.map_cons, rest.names]

inductive SameValue : Option Json → Option Json → Prop
  | none : SameValue none none
  | some {value other : Json} (same : Rearranged value other) : SameValue (some value) (some other)

theorem RearrangedMembers.lookup {members others : List (String × Json)}
    (same : RearrangedMembers members others) (name : String) :
    SameValue (members.lookup name) (others.lookup name) := by
  cases same with
  | nil => exact .none
  | @cons stored value other _ _ first rest =>
      rw [List.lookup_cons, List.lookup_cons]
      cases name == stored with
      | true => exact .some first
      | false => exact rest.lookup name

theorem Rearranged.of_object {members : List (String × Json)} {json : Json}
    (distinct : (members.map Prod.fst).Nodup) (same : Rearranged (.object members) json) :
    ∃ shuffled, json = .object shuffled ∧
      (members.map Prod.fst).Perm (shuffled.map Prod.fst) ∧
      ∀ name, SameValue (members.lookup name) (shuffled.lookup name) := by
  cases same with
  | refl => exact ⟨members, rfl, .refl _, (RearrangedMembers.refl members).lookup⟩
  | @object _ others shuffled same order =>
      have otherDistinct : (others.map Prod.fst).Nodup := same.names ▸ distinct
      refine ⟨shuffled, rfl, same.names ▸ order.map Prod.fst, fun name => ?_⟩
      rw [lookup_of_perm otherDistinct order]
      exact same.lookup name

theorem RearrangedMembers.eq_of_texts {members others : List (String × Json)}
    (texts : ∀ member ∈ members, ∃ text, member.2 = .text text)
    (same : RearrangedMembers members others) : others = members := by
  cases same with
  | nil => rfl
  | @cons name value other _ _ first rest =>
      rcases texts _ List.mem_cons_self with ⟨text, written⟩
      have kept := rest.eq_of_texts fun member later => texts member (List.mem_cons_of_mem _ later)
      dsimp only at written
      subst written
      cases first
      rw [kept]

theorem Rearranged.of_texts {members : List (String × Json)} {json : Json}
    (texts : ∀ member ∈ members, ∃ text, member.2 = .text text)
    (same : Rearranged (.object members) json) :
    ∃ shuffled, json = .object shuffled ∧ members.Perm shuffled := by
  cases same with
  | refl => exact ⟨members, rfl, .refl _⟩
  | object same order => exact ⟨_, rfl, same.eq_of_texts texts ▸ order⟩

end StrongAuth.Json
