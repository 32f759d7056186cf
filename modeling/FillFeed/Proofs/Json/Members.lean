import Mathlib
import FillFeed.Json.Reader
import FillFeed.Json.Record

/-!
# Encodings of values

A text encodes a value (`Json.Encodes`) when it is read as a tree with that value in which no object
names a member twice; blanks, escapes and the order of members do not matter. Two trees that agree
up to some view (`Tree.Agree`) encode values that look the same through it. `Tree.Agree.record?`
says that records read from such trees have the same fields, which agree again, so that whatever is
read field by field depends on the values alone.
-/

namespace FillFeed.Json

namespace Tree

mutual

/-- Whether some object in a tree names a member twice. -/
def repeats : Tree → Bool
  | .array items => anyRepeats items
  | .object members => !decide (members.map (·.1)).Nodup || memberRepeats members
  | _ => false

/-- Whether some object in one of some trees names a member twice. -/
def anyRepeats : List Tree → Bool
  | [] => false
  | t :: ts => t.repeats || anyRepeats ts

/-- Whether some object in one of some members names a member twice. -/
def memberRepeats : List (Option String × Tree) → Bool
  | [] => false
  | (_, t) :: ms => t.repeats || memberRepeats ms

end

/-- A tree that encodes a value: it has this value, and no object in it names a member twice. -/
def Encodes (t : Tree) (v : Json) : Prop := ∃ depth, t.toValue depth = some v ∧ t.repeats = false

/-- Two trees that encode values which are the same through some view of values. -/
def Agree {α : Type} (view : Json → α) (t t' : Tree) : Prop :=
  ∃ v v', t.Encodes v ∧ t'.Encodes v' ∧ view v = view v'

end Tree

/-- A text that encodes a value. -/
def Encodes (raw : String) (v : Json) : Prop := ∃ t, Tree.read? raw = some t ∧ t.Encodes v

/-- A value with the members of an object changed according to their names. -/
def mapMembers (f : String → Json → Json) : Json → Json
  | .object members => .object (members.map fun (name, v) => (name, f name v))
  | v => v

/-- The text of a string. -/
def string? : Json → Option String
  | .string s => some s
  | _ => none

section

variable {α : Type} {f : String → Json → Json} {name : String} {v v' : Json}
  {ms : List (Option String × Tree)} {t t' : Tree}

/-- A member is looked up after a change of all members as it was before, and then changed. -/
lemma lookup_map_members (members : List (String × Json)) :
    (members.map fun (name, v) => (name, f name v)).lookup name =
      (members.lookup name).map (f name) := by
  induction members with
  | nil => rfl
  | cons m ms ih =>
    obtain ⟨other, v⟩ := m
    by_cases same : name = other
    · subst same
      simp
    · simpa [List.lookup_cons, beq_eq_false_iff_ne.2 same] using ih

/-- A member that is put among others is found there, and nothing else changes. -/
lemma lookup_insertMember (other : String) (members : List (String × Json)) :
    (insertMember name v members).lookup other =
      if other = name then some v else members.lookup other := by
  induction members with
  | nil =>
    by_cases same : other = name
    · simp [insertMember, same]
    · simp [insertMember, List.lookup_cons, same, beq_eq_false_iff_ne.2 same]
  | cons m ms ih =>
    obtain ⟨first, old⟩ := m
    rw [insertMember]
    split
    · rename_i here
      subst here
      by_cases same : other = name
      · simp [same]
      · simp [List.lookup_cons, same, beq_eq_false_iff_ne.2 same]
    · rename_i apart
      split
      · by_cases same : other = name
        · simp [same]
        · simp [List.lookup_cons, same, beq_eq_false_iff_ne.2 same]
      · rw [List.lookup_cons, ih, List.lookup_cons]
        by_cases same : other = name
        · subst same
          simp [beq_eq_false_iff_ne.2 apart]
        · simp [same]

/-- An object has the members that it is made of, when no name comes twice. -/
lemma exists_ofMembers (members : List (String × Json)) (distinct : (members.map (·.1)).Nodup) :
    ∃ ordered, ofMembers members = .object ordered ∧
      ∀ name, ordered.lookup name = members.lookup name := by
  refine ⟨_, rfl, ?_⟩
  suffices inserted : ∀ (acc : List (String × Json)) (name : String),
      (members.foldl (fun acc (name, value) => insertMember name value acc) acc).lookup name =
        (members.lookup name).or (acc.lookup name) by
    intro name
    rw [inserted]
    simp
  induction members with
  | nil => simp
  | cons m ms ih =>
    obtain ⟨first, v⟩ := m
    obtain ⟨fresh, distinct⟩ := List.nodup_cons.1 distinct
    intro acc name
    rw [List.foldl_cons, ih distinct, lookup_insertMember, List.lookup_cons]
    by_cases same : name = first
    · subst same
      have absent : ms.lookup name = none := by
        refine List.lookup_eq_none_iff.2 fun m mem => bne_iff_ne.2 ?_
        rintro rfl
        exact fresh (List.mem_map.2 ⟨m, mem, rfl⟩)
      simp [absent]
    · simp [same, beq_eq_false_iff_ne.2 same]

/-- Members go by the same names as their values. -/
lemma names_of_toMembers {depth : Nat} {members : List (String × Json)}
    (valued : Tree.toMembers depth ms = some members) :
    ms.map (·.1) = (members.map (·.1)).map some := by
  induction ms generalizing members with
  | nil =>
    cases valued
    rfl
  | cons m ms ih =>
    obtain ⟨name, t⟩ := m
    unfold Tree.toMembers at valued
    split at valued
    · rename_i rest
      cases valued
      simp [ih rest]
    · cases valued

/-- A member is found by its name together with its value. -/
lemma lookup_of_toMembers {depth : Nat} {members : List (String × Json)}
    (valued : Tree.toMembers depth ms = some members) (plain : Tree.memberRepeats ms = false)
    (name : String) :
    Option.Rel Tree.Encodes (ms.lookup (some name)) (members.lookup name) := by
  induction ms generalizing members with
  | nil =>
    cases valued
    exact .none
  | cons m ms ih =>
    obtain ⟨first, t⟩ := m
    unfold Tree.toMembers at valued
    split at valued
    · rename_i first v rest value others
      cases valued
      obtain ⟨once, plain⟩ := Bool.or_eq_false_iff.1 plain
      by_cases same : name = first
      · subst same
        have encodes : t.Encodes v := ⟨depth, value, once⟩
        simpa using encodes
      · have apart : (some name == some first) = false := by simpa using same
        rw [List.lookup_cons, List.lookup_cons, beq_eq_false_iff_ne.2 same, apart]
        exact ih others plain
    · cases valued

/-- What a tree looks like next to the value that it encodes. An object names each member once, and
its members encode those of the value; an array encodes the items one by one. -/
inductive Tree.Form : Tree → Json → Prop where
  | null : Form .null .null
  | bool {b} : Form (.bool b) (.bool b)
  | number {l n} : Form (.number l) (.number n)
  | string {s} : Form (.string (some s)) (.string s)
  | array {ts vs} (items : List.Forall₂ Encodes ts vs) : Form (.array ts) (.array vs)
  | object {ms members} (distinct : (ms.map (·.1)).Nodup) (named : ∀ m ∈ ms, m.1.isSome)
      (looks : ∀ name, Option.Rel Encodes (ms.lookup (some name)) (members.lookup name)) :
    Form (.object ms) (.object members)

/-- Trees that have values and name no member twice encode these values, one by one. -/
lemma forall₂_of_toValues {depth : Nat} {ts : List Tree} {vs : List Json}
    (valued : Tree.toValues depth ts = some vs) (plain : Tree.anyRepeats ts = false) :
    List.Forall₂ Tree.Encodes ts vs := by
  induction ts generalizing vs with
  | nil =>
    cases valued
    exact .nil
  | cons t ts ih =>
    rw [Tree.toValues] at valued
    split at valued
    · rename_i v vs first others
      cases valued
      obtain ⟨once, plain⟩ := Bool.or_eq_false_iff.1 plain
      exact .cons ⟨_, first, once⟩ (ih others plain)
    · cases valued

/-- A tree has the form of the value that it encodes. -/
lemma Tree.Encodes.form (encodes : t.Encodes v) : Form t v := by
  obtain ⟨depth, value, plain⟩ := encodes
  cases t with
  | null =>
    cases value
    exact .null
  | bool b =>
    cases value
    exact .bool
  | number l =>
    obtain ⟨n, -, rfl⟩ := Option.map_eq_some_iff.1 value
    exact .number
  | string s =>
    obtain ⟨s, rfl, rfl⟩ := Option.map_eq_some_iff.1 value
    exact .string
  | array ts =>
    rw [toValue] at value
    split at value
    · cases value
    · obtain ⟨vs, valued, rfl⟩ := Option.map_eq_some_iff.1 value
      exact .array (forall₂_of_toValues valued plain)
  | object ms =>
    rw [toValue] at value
    split at value
    · cases value
    obtain ⟨values, valued, rfl⟩ := Option.map_eq_some_iff.1 value
    obtain ⟨distinct, plain⟩ := Bool.or_eq_false_iff.1 plain
    have nodup : (ms.map (·.1)).Nodup := by simpa using distinct
    have names := names_of_toMembers valued
    have distinct : (values.map (·.1)).Nodup := by
      rw [names] at nodup
      exact nodup.of_map _
    -- no name is repeated, so that none of the members gives way to another when they are ordered
    obtain ⟨members, same, looks⟩ := exists_ofMembers values distinct
    rw [same]
    refine .object nodup ?_ ?_
    · intro m mem
      have named : m.1 ∈ (values.map (·.1)).map some := names ▸ List.mem_map_of_mem mem
      obtain ⟨name, -, e⟩ := List.mem_map.1 named
      rw [← e]
      rfl
    · intro name
      rw [looks]
      exact lookup_of_toMembers valued plain name

/-- Whether a tree is a string, and which one, is told by the value that it encodes. -/
lemma Tree.Encodes.string?_eq (encodes : t.Encodes v) : t.string? = v.string? := by
  cases encodes.form <;> rfl

/-- Only `null` encodes `null`. -/
lemma Tree.Encodes.eq_null_iff (encodes : t.Encodes v) : t = .null ↔ v = .null := by
  cases encodes.form <;> simp

/-- Members none of which is named twice are picked by their names. -/
lemma lookup_pickMembers (names : List String) (distinct : (ms.map (·.1)).Nodup)
    (named : ∀ m ∈ ms, m.1.isSome) :
    ∃ given, pickMembers names ms = some given ∧ ∀ name, given.lookup name =
      if name ∈ names then ms.lookup (some name) else none := by
  induction ms with
  | nil => exact ⟨[], rfl, by simp⟩
  | cons m ms ih =>
    obtain ⟨first, t⟩ := m
    obtain ⟨fresh, distinct⟩ := List.nodup_cons.1 distinct
    obtain ⟨given, picked, looks⟩ := ih distinct fun m mem => named m (List.mem_cons_of_mem _ mem)
    obtain ⟨first, rfl⟩ := Option.isSome_iff_exists.1 (named _ List.mem_cons_self)
    have absent : ms.lookup (some first) = none := by
      refine List.lookup_eq_none_iff.2 fun m mem => bne_iff_ne.2 ?_
      intro e
      exact fresh (List.mem_map.2 ⟨m, mem, e.symm⟩)
    by_cases wanted : first ∈ names
    · refine ⟨(first, t) :: given, ?_, ?_⟩
      · simp [pickMembers, picked, wanted, looks, absent]
      · intro name
        by_cases same : name = first
        · simp [same, wanted]
        · simp [List.lookup_cons, beq_eq_false_iff_ne.2 same, looks]
    · refine ⟨given, ?_, ?_⟩
      · simp [pickMembers, picked, wanted]
      · intro name
        by_cases same : name = first
        · simp [same, wanted, looks]
        · simp [List.lookup_cons, beq_eq_false_iff_ne.2 same, looks]

/-- An object that names no member twice holds a record, whose fields are its members. -/
lemma record?_object (names : List String) (distinct : (ms.map (·.1)).Nodup)
    (named : ∀ m ∈ ms, m.1.isSome) :
    ∃ r, (Tree.object ms).record? names = some r ∧ r.byPlace = false ∧
      ∀ name, r.given.lookup name = if name ∈ names then ms.lookup (some name) else none := by
  obtain ⟨given, picked, gives⟩ := lookup_pickMembers names distinct named
  refine ⟨⟨given, false⟩, ?_, rfl, gives⟩
  rw [Tree.record?, picked]
  rfl

namespace Tree.Agree

/-- What encodes the same value agrees through every view. -/
lemma of_id {view : Json → α} (agree : Agree id t t') : Agree view t t' := by
  obtain ⟨v, v', encodes, encodes', same⟩ := agree
  exact ⟨v, v', encodes, encodes', congrArg view same⟩

/-- What encodes the same value holds the same text, if any. -/
lemma string? (agree : Agree id t t') : t.string? = t'.string? := by
  obtain ⟨v, v', encodes, encodes', same⟩ := agree
  rw [encodes.string?_eq, encodes'.string?_eq]
  exact congrArg Json.string? same

/-- Two lookups that find encodings of values which look the same find trees that agree. -/
lemma of_rel {view : Json → α} {o o' : Option Tree} {w w' : Option Json}
    (encodes : Option.Rel Encodes o w) (encodes' : Option.Rel Encodes o' w')
    (same : w.map view = w'.map view) : Option.Rel (Agree view) o o' := by
  cases encodes with
  | none =>
    cases encodes' with
    | none => exact .none
    | some => cases same
  | some encodes =>
    cases encodes' with
    | none => cases same
    | some encodes' => exact .some ⟨_, _, encodes, encodes', Option.some_inj.1 same⟩

/-- Items that encode the same values agree one by one. -/
lemma of_items {view : Json → α} {ts ts' : List Tree} {vs : List Json}
    (items : List.Forall₂ Encodes ts vs) (items' : List.Forall₂ Encodes ts' vs) :
    List.Forall₂ (Agree view) ts ts' := by
  induction items generalizing ts' with
  | nil =>
    cases items'
    exact .nil
  | cons encodes _ ih =>
    cases items' with
    | cons encodes' others => exact .cons ⟨_, _, encodes, encodes', rfl⟩ (ih others)

/-- Items with the same names are found under the same name. -/
lemma lookup_zip {R : Tree → Tree → Prop} {ts ts' : List Tree} (related : List.Forall₂ R ts ts')
    (names : List String) (name : String) :
    Option.Rel R ((names.zip ts).lookup name) ((names.zip ts').lookup name) := by
  induction related generalizing names with
  | nil => simp
  | cons first _ ih =>
    cases names with
    | nil => simp
    | cons other names =>
      by_cases same : name = other
      · simpa [same] using first
      · simpa [List.lookup_cons, beq_eq_false_iff_ne.2 same] using ih names

/-- Two trees that agree hold no record, or records whose fields of the same name agree. -/
lemma record?_cases (names : List String) (agree : Agree (mapMembers f) t t') :
    (t.record? names = none ∧ t'.record? names = none) ∨
      ∃ r r', t.record? names = some r ∧ t'.record? names = some r' ∧
        ∀ name, Option.Rel (Agree (f name)) (r.given.lookup name) (r'.given.lookup name) := by
  obtain ⟨v, v', encodes, encodes', same⟩ := agree
  cases encodes.form with
  | @object ms members distinct named looks =>
    cases encodes'.form with
    | @object ms' members' distinct' named' looks' =>
      obtain ⟨r, holds, -, gives⟩ := record?_object names distinct named
      obtain ⟨r', holds', -, gives'⟩ := record?_object names distinct' named'
      refine .inr ⟨r, r', holds, holds', fun name => ?_⟩
      rw [gives, gives']
      split
      · refine of_rel (looks name) (looks' name) ?_
        have views := congrArg (List.lookup name) (Json.object.inj same)
        rw [lookup_map_members, lookup_map_members] at views
        exact views
      · exact .none
    | _ => cases same
  | @array ts vs items =>
    cases encodes'.form with
    | @array ts' vs' items' =>
      cases same
      have length : ts.length = ts'.length := items.length_eq.trans items'.length_eq.symm
      rw [Tree.record?, Tree.record?, length]
      split
      · exact .inr ⟨_, _, rfl, rfl, fun name => lookup_zip (of_items items items') names name⟩
      · exact .inl ⟨rfl, rfl⟩
    | _ => cases same
  | _ =>
    -- a value that is neither has no fields
    cases encodes'.form with
    | array | object => cases same
    | _ => exact .inl ⟨rfl, rfl⟩

/-- A field is read the same from records in which it agrees, as far as its reader tells. -/
lemma orElse {β γ : Type} {view : Json → α} {r r' : Record} {name : String} {absent : β}
    {read : Tree → Option β} {seen : β → γ}
    (agree : Option.Rel (Agree view) (r.given.lookup name) (r'.given.lookup name))
    (reads : ∀ t t', Agree view t t' → (read t).map seen = (read t').map seen) :
    (r.orElse name absent read).map seen = (r'.orElse name absent read).map seen := by
  unfold Record.orElse
  generalize r.given.lookup name = o, r'.given.lookup name = o' at agree
  cases agree with
  | none => rfl
  | some agree => exact reads _ _ agree

/-- A field that encodes the same value in both records is read the same. -/
lemma orElse_of_id {β : Type} {r r' : Record} {name : String} {absent : β} {read : Tree → Option β}
    (agree : Option.Rel (Agree id) (r.given.lookup name) (r'.given.lookup name))
    (reads : ∀ t t', Agree id t t' → read t = read t') :
    r.orElse name absent read = r'.orElse name absent read := by
  have same : (r.orElse name absent read).map id = (r'.orElse name absent read).map id :=
    orElse agree fun t t' agree => congrArg (Option.map id) (reads t t' agree)
  rwa [Option.map_id_fun, id, id] at same

/-- What `null` stands for is told from anything else, when the view tells `null` from it. -/
lemma nullable {β γ : Type} {view : Json → α} {read : Tree → Option β} {seen : β → γ}
    (agree : Agree view t t') (null : ∀ v v', view v = view v' → v = .null → v' = .null)
    (reads : (read t).map seen = (read t').map seen) :
    (t.nullable read).map (Option.map seen) = (t'.nullable read).map (Option.map seen) := by
  obtain ⟨v, v', encodes, encodes', same⟩ := agree
  have nulls : t = .null ↔ t' = .null := by
    rw [encodes.eq_null_iff, encodes'.eq_null_iff]
    exact ⟨null _ _ same, null _ _ same.symm⟩
  have of_ne {t : Tree} (ne : t ≠ .null) : t.nullable read = (read t).map some := by
    cases t with
    | null => exact absurd rfl ne
    | _ => rfl
  by_cases empty : t = .null
  · rw [empty, nulls.1 empty]
  · have swap (o : Option β) : (o.map some).map (Option.map seen) = (o.map seen).map some := by
      cases o <;> rfl
    rw [of_ne empty, of_ne (mt nulls.2 empty), swap, swap, reads]

/-- What `null` stands for is told from anything else. -/
lemma nullable_of_id {β : Type} {read : Tree → Option β} (agree : Agree id t t')
    (reads : read t = read t') : t.nullable read = t'.nullable read := by
  have same : (t.nullable read).map (Option.map id) = (t'.nullable read).map (Option.map id) :=
    nullable agree (fun _ _ same null => same.symm.trans null) (congrArg (Option.map id) reads)
  rwa [Option.map_id_fun, Option.map_id_fun, id, id] at same

end Tree.Agree

end

end FillFeed.Json
