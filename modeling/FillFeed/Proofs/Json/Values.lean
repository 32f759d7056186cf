import Mathlib
import FillFeed.Proofs.Json.Written

/-!
# Values of written texts

A value without numbers that was written is read as the same value with the members of its objects
in the order of their names (`read?_write_eq_ordered`), as long as it is not nested too deep. No
text that it holds can change its shape.
-/

namespace FillFeed.Json

mutual

/-- How deep arrays and objects are nested in a value. -/
def depth : Json → Nat
  | .array items => itemsDepth items + 1
  | .object members => membersDepth members + 1
  | _ => 0

/-- How deep arrays and objects are nested in some items. -/
def itemsDepth : List Json → Nat
  | [] => 0
  | v :: vs => max v.depth (itemsDepth vs)

/-- How deep arrays and objects are nested in some members. -/
def membersDepth : List (String × Json) → Nat
  | [] => 0
  | (_, v) :: ms => max v.depth (membersDepth ms)

end

mutual

/-- A value with the members of its objects in the order of their names, the last of equal names
winning. -/
def ordered : Json → Json
  | .array items => .array (orderedItems items)
  | .object members => ofMembers (orderedMembers members)
  | v => v

/-- The items of an array with the members of their objects in order. -/
def orderedItems : List Json → List Json
  | [] => []
  | v :: vs => v.ordered :: orderedItems vs

/-- The members of an object with the members of their objects in order. -/
def orderedMembers : List (String × Json) → List (String × Json)
  | [] => []
  | (name, v) :: ms => (name, v.ordered) :: orderedMembers ms

end

mutual

/-- The tree that a value is written as has this value, in order. -/
lemma toValue_of_toTree? : ∀ (v : Json) {t : Tree} {limit : Nat}, v.toTree? = some t →
    v.depth ≤ limit → t.toValue limit = some v.ordered
  | .null, _, _, same, _ | .bool _, _, _, same, _ | .string _, _, _, same, _ => by
    cases same
    rfl
  | .number _, _, _, same, _ => by cases same
  | .array items, _, limit, same, shallow => by
    obtain ⟨ts, trees, rfl⟩ := Option.map_eq_some_iff.1 same
    have deep : limit ≠ 0 := Nat.ne_zero_of_lt shallow
    have inner := toValues_of_itemTrees? items trees (Nat.le_sub_one_of_lt shallow)
    rw [Tree.toValue, if_neg deep, inner]
    rfl
  | .object members, _, limit, same, shallow => by
    obtain ⟨ts, trees, rfl⟩ := Option.map_eq_some_iff.1 same
    have deep : limit ≠ 0 := Nat.ne_zero_of_lt shallow
    rw [Tree.toValue, if_neg deep,
      toMembers_of_memberTrees? members trees (Nat.le_sub_one_of_lt shallow)]
    rfl

/-- The trees that the items of an array are written as have their values, in order. -/
lemma toValues_of_itemTrees? : ∀ (vs : List Json) {ts : List Tree} {limit : Nat},
    itemTrees? vs = some ts → itemsDepth vs ≤ limit →
      Tree.toValues limit ts = some (orderedItems vs)
  | [], _, _, trees, _ => by
    cases trees
    rfl
  | v :: vs, _, limit, trees, shallow => by
    obtain ⟨t, ts, first, others, rfl⟩ := itemTrees?_cons trees
    obtain ⟨here, there⟩ := Nat.max_le.1 shallow
    rw [Tree.toValues, toValue_of_toTree? v first here, toValues_of_itemTrees? vs others there]
    rfl

/-- The members that the members of an object are written as have their values, in order. -/
lemma toMembers_of_memberTrees? : ∀ (ms : List (String × Json))
    {ts : List (Option String × Tree)} {limit : Nat}, memberTrees? ms = some ts →
      membersDepth ms ≤ limit → Tree.toMembers limit ts = some (orderedMembers ms)
  | [], _, _, trees, _ => by
    cases trees
    rfl
  | (name, v) :: ms, _, limit, trees, shallow => by
    obtain ⟨t, ts, first, others, rfl⟩ := memberTrees?_cons trees
    obtain ⟨here, there⟩ := Nat.max_le.1 shallow
    simp only [Tree.toMembers, toValue_of_toTree? v first here,
      toMembers_of_memberTrees? ms others there, orderedMembers]

end

/-- A value without numbers that was written is read as itself, with the members of its objects in
the order of their names. -/
theorem read?_write_eq_ordered {v : Json} {t : Tree} (same : v.toTree? = some t)
    (shallow : v.depth ≤ depthLimit) : read? v.write = some v.ordered := by
  rw [read?, read?_write same, Option.bind_some]
  exact toValue_of_toTree? v same shallow

end FillFeed.Json
