import Mathlib
import FillFeed.Proofs.Json.Members
import FillFeed.Proofs.Json.Text

/-!
# Written values read back

A value without numbers is written as the tree `Json.toTree?`, and reading gives this tree back
(`read?_write`), whatever texts are in it. The reader takes one step of its fuel for each value and
each item or member, and each of them is at least one character long, so that it never runs out.
-/

namespace FillFeed.Json

mutual

/-- The tree that a value without numbers is written as. -/
def toTree? : Json → Option Tree
  | .null => some .null
  | .bool b => some (.bool b)
  | .number _ => none
  | .string s => some (.string (some s))
  | .array items => (itemTrees? items).map .array
  | .object members => (memberTrees? members).map .object

/-- The trees that the items of an array are written as. -/
def itemTrees? : List Json → Option (List Tree)
  | [] => some []
  | v :: vs =>
    match toTree? v, itemTrees? vs with
    | some t, some ts => some (t :: ts)
    | _, _ => none

/-- The members that the members of an object are written as. -/
def memberTrees? : List (String × Json) → Option (List (Option String × Tree))
  | [] => some []
  | (name, v) :: ms =>
    match toTree? v, memberTrees? ms with
    | some t, some ts => some ((some name, t) :: ts)
    | _, _ => none

end

/-- The pieces of whole characters make up these characters. -/
lemma joinPieces_char (cs : List Char) : joinPieces (cs.map .char) = some cs := by
  induction cs with
  | nil => rfl
  | cons c cs ih => rw [List.map_cons, joinPieces, ih, Option.map_some]

/-- The body of a string that was written is the string. -/
lemma stringBody_escaped (s : String) (rest : List Char) :
    stringBody (s.toList.flatMap escapeChar ++ '"' :: rest) = some (some s, rest) := by
  have whole : (joinPieces (s.toList.map .char)).map String.ofList = some s := by
    rw [joinPieces_char, Option.map_some, String.ofList_toList]
  rw [stringBody, pieces_escaped, Option.map_some]
  dsimp only
  rw [whole]

/-- A value without numbers begins with a character that is no blank and closes nothing. -/
lemma writeChars_head {v : Json} {t : Tree} (tree : v.toTree? = some t) :
    ∃ c cs, writeChars v = c :: cs ∧ isSpace c = false ∧ c ≠ ']' := by
  cases v with
  | null => exact ⟨_, _, rfl, rfl, by decide⟩
  | bool b => cases b <;> exact ⟨_, _, rfl, rfl, by decide⟩
  | number n => cases tree
  | string s => exact ⟨_, _, rfl, rfl, by decide⟩
  | array items => exact ⟨_, _, rfl, rfl, by decide⟩
  | object members => exact ⟨_, _, rfl, rfl, by decide⟩

/-- No space is skipped in front of another character. -/
lemma skipSpace_cons {c : Char} {cs : List Char} (solid : isSpace c = false) :
    skipSpace (c :: cs) = c :: cs := by
  rw [skipSpace, List.dropWhile_cons, solid]
  rfl

/-- A string is read up to its closing quote. -/
lemma tree_string {fuel : Nat} (s : String) (rest : List Char) :
    tree (fuel + 1) (stringChars s ++ rest) = some (.string (some s), rest) := by
  have body := stringBody_escaped s rest
  simp [stringChars, tree, skipSpace_cons, isSpace, body]

/-- An array whose first item begins here is read item by item. -/
lemma tree_items {fuel : Nat} {c : Char} {cs : List Char} (solid : isSpace c = false)
    (apart : c ≠ ']') :
    tree (fuel + 1) ('[' :: c :: cs) =
      (items fuel (c :: cs)).map fun (ts, rest) => (.array ts, rest) := by
  have first : skipSpace ('[' :: c :: cs) = '[' :: c :: cs := skipSpace_cons (by decide)
  simp only [tree, first, skipSpace_cons solid]
  split
  · rename_i e
    cases e
    exact absurd rfl apart
  · rfl

/-- An object whose first member begins here is read member by member. -/
lemma tree_members {fuel : Nat} {cs : List Char} :
    tree (fuel + 1) ('\x7b' :: '"' :: cs) =
      (members fuel ('"' :: cs)).map fun (ms, rest) => (.object ms, rest) := by
  simp [tree, skipSpace_cons, isSpace]

/-- The last item of an array is followed by its bracket. -/
lemma items_last {fuel : Nat} {cs rest : List Char} {t : Tree}
    (first : tree fuel cs = some (t, ']' :: rest)) : items (fuel + 1) cs = some ([t], rest) := by
  rw [items, first]
  simp [skipSpace_cons, isSpace]

/-- An item with a comma behind it is followed by other items. -/
lemma items_more {fuel : Nat} {cs more : List Char} {t : Tree}
    (first : tree fuel cs = some (t, ',' :: more)) :
    items (fuel + 1) cs = (items fuel more).map fun (ts, rest) => (t :: ts, rest) := by
  rw [items, first]
  simp [skipSpace_cons, isSpace]

/-- The last member of an object is followed by its brace. -/
lemma members_last {fuel : Nat} {name : String} {cs rest : List Char} {t : Tree}
    (first : tree fuel cs = some (t, '\x7d' :: rest)) :
    members (fuel + 1) (stringChars name ++ ':' :: cs) = some ([(some name, t)], rest) := by
  have body := stringBody_escaped name (':' :: cs)
  simp [stringChars, members, skipSpace_cons, isSpace, body, first]

/-- A member with a comma behind it is followed by other members. -/
lemma members_more {fuel : Nat} {name : String} {cs more : List Char} {t : Tree}
    (first : tree fuel cs = some (t, ',' :: more)) :
    members (fuel + 1) (stringChars name ++ ':' :: cs) =
      (members fuel more).map fun (ms, rest) => ((some name, t) :: ms, rest) := by
  have body := stringBody_escaped name (':' :: cs)
  simp [stringChars, members, skipSpace_cons, isSpace, body, first]

/-- Items that are written as trees are so one by one. -/
lemma itemTrees?_cons {v : Json} {vs : List Json} {ts : List Tree}
    (trees : itemTrees? (v :: vs) = some ts) :
    ∃ t ts', v.toTree? = some t ∧ itemTrees? vs = some ts' ∧ ts = t :: ts' := by
  rw [itemTrees?] at trees
  split at trees
  · rename_i t ts' first others
    exact ⟨t, ts', first, others, (Option.some_inj.1 trees).symm⟩
  · cases trees

/-- Members that are written as trees are so one by one. -/
lemma memberTrees?_cons {name : String} {v : Json} {ms : List (String × Json)}
    {ts : List (Option String × Tree)} (trees : memberTrees? ((name, v) :: ms) = some ts) :
    ∃ t ts', v.toTree? = some t ∧ memberTrees? ms = some ts' ∧ ts = (some name, t) :: ts' := by
  rw [memberTrees?] at trees
  split at trees
  · rename_i t ts' first others
    exact ⟨t, ts', first, others, (Option.some_inj.1 trees).symm⟩
  · cases trees

/-- The items of an array begin like the first one. -/
lemma writeItems_head {v : Json} {t : Tree} (vs : List Json) (tree : v.toTree? = some t) :
    ∃ c cs, writeItems (v :: vs) = c :: cs ∧ isSpace c = false ∧ c ≠ ']' := by
  obtain ⟨c, cs, e, solid, apart⟩ := writeChars_head tree
  cases vs with
  | nil => exact ⟨c, _, by rw [writeItems, e, List.cons_append], solid, apart⟩
  | cons v' vs => exact ⟨c, _, by rw [writeItems, e, List.cons_append]; exact nofun, solid, apart⟩

/-- The members of an object begin with the name of the first one. -/
lemma writeMembers_head (m : String × Json) (ms : List (String × Json)) :
    ∃ cs, writeMembers (m :: ms) = '"' :: cs := by
  obtain ⟨name, v⟩ := m
  cases ms with
  | nil => exact ⟨_, rfl⟩
  | cons => exact ⟨_, rfl⟩

mutual

/-- A value that was written is read back. -/
lemma tree_writeChars : ∀ (v : Json) {t : Tree} {fuel : Nat} (rest : List Char),
    v.toTree? = some t → (writeChars v).length ≤ fuel →
      tree fuel (writeChars v ++ rest) = some (t, rest)
  | .null, _, fuel + 1, rest, same, _ => by
    cases same
    simp [writeChars, tree, skipSpace_cons, isSpace]
  | .bool b, _, fuel + 1, rest, same, _ => by
    cases same
    cases b <;> simp [writeChars, tree, skipSpace_cons, isSpace]
  | .number n, _, _, _, same, _ => by cases same
  | .string s, _, fuel + 1, rest, same, _ => by
    cases same
    exact tree_string s rest
  | .array [], _, fuel + 1, rest, same, _ => by
    cases same
    simp [writeChars, writeItems, tree, skipSpace_cons, isSpace]
  | .array (v :: vs), _, fuel + 1, rest, same, enough => by
    obtain ⟨ts, trees, rfl⟩ := Option.map_eq_some_iff.1 same
    have read := items_writeItems (v :: vs) rest nofun trees (Nat.le_of_succ_le_succ enough)
    obtain ⟨t, -, first, -, -⟩ := itemTrees?_cons trees
    obtain ⟨c, cs, e, solid, apart⟩ := writeItems_head vs first
    rw [e] at read
    rw [writeChars, e, List.cons_append, List.cons_append, tree_items solid apart]
    rw [← List.cons_append, read, Option.map_some]
  | .object [], _, fuel + 1, rest, same, _ => by
    cases same
    simp [writeChars, writeMembers, tree, skipSpace_cons, isSpace]
  | .object (m :: ms), _, fuel + 1, rest, same, enough => by
    obtain ⟨ts, trees, rfl⟩ := Option.map_eq_some_iff.1 same
    have read := members_writeMembers (m :: ms) rest nofun trees (Nat.le_of_succ_le_succ enough)
    obtain ⟨cs, e⟩ := writeMembers_head m ms
    rw [e] at read
    rw [writeChars, e, List.cons_append, List.cons_append, tree_members]
    rw [← List.cons_append, read, Option.map_some]
  -- every value is written with at least one character, so that the fuel is not used up
  | .null, _, 0, _, _, enough | .bool true, _, 0, _, _, enough | .bool false, _, 0, _, _, enough
  | .string _, _, 0, _, _, enough | .array _, _, 0, _, _, enough
  | .object _, _, 0, _, _, enough => by
    exact absurd enough (by simp [writeChars, stringChars])

/-- The items of an array that was written are read back. -/
lemma items_writeItems : ∀ (vs : List Json) {ts : List Tree} {fuel : Nat} (rest : List Char),
    vs ≠ [] → itemTrees? vs = some ts → (writeItems vs).length ≤ fuel →
      items fuel (writeItems vs ++ rest) = some (ts, rest)
  | [], _, _, _, filled, _, _ => absurd rfl filled
  | [v], _, fuel, rest, _, trees, enough => by
    obtain ⟨t, _, first, ⟨⟩, rfl⟩ := itemTrees?_cons trees
    rw [writeItems] at enough ⊢
    obtain ⟨fuel, rfl⟩ : ∃ n, fuel = n + 1 := ⟨fuel - 1, by simp at enough; omega⟩
    rw [List.append_assoc]
    refine items_last (tree_writeChars v _ first ?_)
    simpa using enough
  | v :: v' :: vs, _, fuel, rest, _, trees, enough => by
    obtain ⟨t, ts, first, others, rfl⟩ := itemTrees?_cons trees
    have cut : writeItems (v :: v' :: vs) = writeChars v ++ ',' :: writeItems (v' :: vs) := by
      rw [writeItems]
      exact nofun
    rw [cut] at enough ⊢
    rw [List.length_append, List.length_cons] at enough
    obtain ⟨fuel, rfl⟩ : ∃ n, fuel = n + 1 := ⟨fuel - 1, by omega⟩
    have read : items fuel (writeItems (v' :: vs) ++ rest) = some (ts, rest) :=
      items_writeItems (v' :: vs) rest nofun others (by omega)
    rw [List.append_assoc, List.cons_append,
      items_more (tree_writeChars v _ first (by omega)), read, Option.map_some]

/-- The members of an object that was written are read back. -/
lemma members_writeMembers : ∀ (ms : List (String × Json)) {ts : List (Option String × Tree)}
    {fuel : Nat} (rest : List Char), ms ≠ [] → memberTrees? ms = some ts →
      (writeMembers ms).length ≤ fuel → members fuel (writeMembers ms ++ rest) = some (ts, rest)
  | [], _, _, _, filled, _, _ => absurd rfl filled
  | [(name, v)], _, fuel, rest, _, trees, enough => by
    obtain ⟨t, _, first, ⟨⟩, rfl⟩ := memberTrees?_cons trees
    rw [writeMembers, List.append_assoc, List.cons_append] at enough ⊢
    rw [List.length_append, List.length_cons, List.length_append] at enough
    obtain ⟨fuel, rfl⟩ : ∃ n, fuel = n + 1 := ⟨fuel - 1, by omega⟩
    rw [List.append_assoc, List.cons_append]
    exact members_last (tree_writeChars v _ first (by omega))
  | (name, v) :: m :: ms, _, fuel, rest, _, trees, enough => by
    obtain ⟨t, ts, first, others, rfl⟩ := memberTrees?_cons trees
    have cut : writeMembers ((name, v) :: m :: ms) =
        stringChars name ++ ':' :: (writeChars v ++ ',' :: writeMembers (m :: ms)) := by
      rw [writeMembers, List.append_assoc, List.cons_append]
      exact nofun
    rw [cut] at enough ⊢
    rw [List.length_append, List.length_cons, List.length_append, List.length_cons] at enough
    obtain ⟨fuel, rfl⟩ : ∃ n, fuel = n + 1 := ⟨fuel - 1, by omega⟩
    have read : members fuel (writeMembers (m :: ms) ++ rest) = some (ts, rest) :=
      members_writeMembers (m :: ms) rest nofun others (by omega)
    rw [List.append_assoc, List.cons_append, List.append_assoc, List.cons_append,
      members_more (tree_writeChars v _ first (by omega)), read, Option.map_some]

end

/-- A value without numbers that was written is read back as its tree. -/
theorem read?_write {v : Json} {t : Tree} (same : v.toTree? = some t) :
    Tree.read? v.write = some t := by
  have whole : tree (2 * (writeChars v).length + 2) (writeChars v ++ []) = some (t, []) :=
    tree_writeChars v [] same (by omega)
  rw [List.append_nil] at whole
  rw [Tree.read?, write, String.toList_ofList, Tree.readChars?, whole]
  rfl

/-- The tree of a text that may be absent. -/
def Tree.ofText? : Option String → Tree
  | some s => .string (some s)
  | none => .null

/-- A text that may be absent is written as its tree. -/
lemma toTree?_ofText? (o : Option String) : (Json.ofText? o).toTree? = some (Tree.ofText? o) := by
  cases o <;> rfl

/-- A text that may be absent is found in its tree. -/
lemma nullable_ofText? (o : Option String) : (Tree.ofText? o).nullable Tree.string? = some o := by
  cases o <;> rfl

end FillFeed.Json
