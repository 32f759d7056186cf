import Mathlib
import FillFeed.Client.Shared

/-!
# Courses

A call of a client does not run alone: between two of its steps other calls may change what they
share. A `Course` is a run of one call in which nothing is assumed about these changes. It lists, as
`Deed`s, what the call found, what it met and what it did at each of its steps, so that a statement
about all courses holds whatever the other calls do.

`Course.split` and `Course.head` take a course apart at a deed, and `Course.preserves` lifts what
each deed preserves to the course. `replay` computes the course of a call that is left alone.
-/

namespace FillFeed.Client

/-- One step of a call: what it found shared and where it stood, what it met, what is shared
afterwards, where it goes, and what was seen of it. -/
structure Deed (σ : Type) where
  found : Shared
  stood : σ
  met : Happening
  left : Shared
  goes : σ
  did : List Effect

/-- A run of one call from one place to another whose deeds are all of a kind. -/
inductive Course {σ : Type} (kind : Deed σ → Prop) : σ → List (Deed σ) → σ → Prop where
  | refl (a : σ) : Course kind a [] a
  | tail {a : σ} {ds : List (Deed σ)} {d : Deed σ} (run : Course kind a ds d.stood)
      (deed : kind d) : Course kind a (ds ++ [d]) d.goes

/-- The same deed, where the call is seen as part of a larger one. -/
def Deed.map {σ τ : Type} (f : σ → τ) (d : Deed σ) : Deed τ :=
  ⟨d.found, f d.stood, d.met, d.left, f d.goes, d.did⟩

/-- All that was seen of some deeds. -/
def seen {σ : Type} (ds : List (Deed σ)) : List Effect := ds.flatMap (·.did)

/-- Some deeds of a call between which nothing that is shared changes: what each of them leaves is
what the next one finds. -/
inductive Undisturbed {σ : Type} (shared : Shared) : List (Deed σ) → Shared → Prop where
  | refl : Undisturbed shared [] shared
  | tail {ds : List (Deed σ)} {d : Deed σ} (before : Undisturbed shared ds d.found) :
      Undisturbed shared (ds ++ [d]) d.left

/-- The deeds of a call that nobody disturbs while it meets some happenings, and where it gets with
them. It ends when it cannot go on. -/
def replay {σ : Type} (deed? : Shared → σ → Happening → Option (Deed σ)) (shared : Shared) (a : σ) :
    List Happening → List (Deed σ) × σ
  | [] => ([], a)
  | h :: hs =>
    match deed? shared a h with
    | none => ([], a)
    | some d => (d :: (replay deed? d.left d.goes hs).1, (replay deed? d.left d.goes hs).2)

section

variable {σ : Type} {kind : Deed σ → Prop} {a b c : σ} {d : Deed σ} {xs ys ds : List (Deed σ)}

/-- Of no deeds nothing is seen. -/
@[simp] lemma seen_nil : seen ([] : List (Deed σ)) = [] := rfl

/-- What is seen of the first deed comes first. -/
@[simp] lemma seen_cons (d : Deed σ) (ds : List (Deed σ)) : seen (d :: ds) = d.did ++ seen ds := rfl

/-- What is seen of some deeds is put together like the deeds. -/
@[simp] lemma seen_append (xs ys : List (Deed σ)) : seen (xs ++ ys) = seen xs ++ seen ys := by
  simp [seen]

/-- A course without deeds stays where it is. -/
lemma Course.eq_of_nil (run : Course kind a [] b) : b = a := by
  generalize e : ([] : List (Deed σ)) = ds at run
  cases run with
  | refl => rfl
  | tail => simp at e

/-- A course ends with its last deed. -/
lemma Course.of_concat (run : Course kind a (ds ++ [d]) b) :
    Course kind a ds d.stood ∧ kind d ∧ b = d.goes := by
  generalize e : ds ++ [d] = all at run
  cases run with
  | refl => simp at e
  | tail run deed =>
    obtain ⟨rfl, rfl⟩ := List.append_singleton_inj.1 e
    exact ⟨run, deed, rfl⟩

/-- A course passes through a place between any two of its deeds. -/
lemma Course.split (run : Course kind a (xs ++ ys) c) :
    ∃ b, Course kind a xs b ∧ Course kind b ys c := by
  induction ys using List.reverseRecOn generalizing c with
  | nil => exact ⟨c, by simpa using run, .refl c⟩
  | append_singleton ys d ih =>
    rw [← List.append_assoc] at run
    obtain ⟨before, deed, rfl⟩ := run.of_concat
    obtain ⟨b, first, second⟩ := ih before
    exact ⟨b, first, second.tail deed⟩

/-- A course begins with its first deed. -/
lemma Course.head (run : Course kind a (d :: ds) c) :
    d.stood = a ∧ kind d ∧ Course kind d.goes ds c := by
  have run' : Course kind a ([d] ++ ds) c := run
  obtain ⟨b, first, rest⟩ := run'.split
  have first' : Course kind a ([] ++ [d]) b := first
  obtain ⟨start, deed, rfl⟩ := first'.of_concat
  exact ⟨start.eq_of_nil, deed, rest⟩

/-- A deed in front of a course makes a course. -/
lemma Course.cons (deed : kind d) (run : Course kind d.goes ds c) :
    Course kind d.stood (d :: ds) c := by
  induction run with
  | refl => exact @Course.tail _ _ _ [] _ (.refl _) deed
  | tail _ last ih => exact ih.tail last

/-- A course goes on with another one. -/
lemma Course.append (first : Course kind a xs b) (second : Course kind b ys c) :
    Course kind a (xs ++ ys) c := by
  induction second with
  | refl => simpa using first
  | tail _ deed ih =>
    rw [← List.append_assoc]
    exact ih.tail deed

/-- A course stays where it is or ends where one of its deeds goes. -/
lemma Course.end_cases (run : Course kind a ds b) : b = a ∨ ∃ d ∈ ds, d.goes = b := by
  cases run with
  | refl => exact .inl rfl
  | tail => exact .inr ⟨_, by simp, rfl⟩

/-- What every deed of a course preserves, the course preserves. -/
lemma Course.preserves {P : σ → Prop} (run : Course kind a ds b)
    (keeps : ∀ d ∈ ds, kind d → P d.stood → P d.goes) (start : P a) : P b := by
  induction run with
  | refl => exact start
  | @tail ds d _ deed ih =>
    have before : P d.stood := ih fun d mem => keeps d (List.mem_append_left _ mem)
    exact keeps d (by simp) deed before

/-- A course of a larger call that does what a smaller one does is a course of the smaller one. -/
lemma Course.of_map {τ : Type} {f : σ → τ} {kind' : Deed τ → Prop} {ds : List (Deed τ)} {t : τ}
    (lifts : ∀ d a, kind' d → d.stood = f a → ∃ d₀, kind d₀ ∧ d₀.stood = a ∧ d = d₀.map f)
    (run : Course kind' (f a) ds t) :
    ∃ b ds₀, t = f b ∧ ds = ds₀.map (Deed.map f) ∧ Course kind a ds₀ b := by
  induction run with
  | refl => exact ⟨a, [], rfl, rfl, .refl a⟩
  | tail _ deed ih =>
    -- by induction the call stands where the smaller one stands, as `lifts` needs it
    obtain ⟨b, ds₀, stood, rfl, run⟩ := ih
    obtain ⟨d₀, deed₀, rfl, rfl⟩ := lifts _ b deed stood
    exact ⟨d₀.goes, ds₀ ++ [d₀], rfl, by simp, run.tail deed₀⟩

/-- Without deeds nothing changes. -/
lemma Undisturbed.eq_of_nil {shared left : Shared}
    (alone : Undisturbed shared ([] : List (Deed σ)) left) : left = shared := by
  generalize e : ([] : List (Deed σ)) = ds at alone
  cases alone with
  | refl => rfl
  | tail => simp at e

/-- Undisturbed deeds end with an undisturbed deed. -/
lemma Undisturbed.of_concat {shared left : Shared} (alone : Undisturbed shared (ds ++ [d]) left) :
    Undisturbed shared ds d.found ∧ left = d.left := by
  generalize e : ds ++ [d] = all at alone
  cases alone with
  | refl => simp at e
  | tail before =>
    obtain ⟨rfl, rfl⟩ := List.append_singleton_inj.1 e
    exact ⟨before, rfl⟩

/-- A deed in front of undisturbed deeds that find what it leaves. -/
lemma Undisturbed.cons {left : Shared} (alone : Undisturbed d.left ds left) :
    Undisturbed d.found (d :: ds) left := by
  induction alone with
  | refl => exact @Undisturbed.tail _ _ [] _ .refl
  | tail _ ih => exact ih.tail

/-- What is replayed is undisturbed. -/
lemma Undisturbed.of_replay {deed? : Shared → σ → Happening → Option (Deed σ)}
    (sound : ∀ shared a h d, deed? shared a h = some d → d.found = shared) (shared : Shared)
    (a : σ) (hs : List Happening) :
    ∃ left, Undisturbed shared (replay deed? shared a hs).1 left := by
  induction hs generalizing shared a with
  | nil => exact ⟨shared, .refl⟩
  | cons h hs ih =>
    cases e : deed? shared a h with
    | none =>
      simp only [replay, e]
      exact ⟨shared, .refl⟩
    | some d =>
      obtain ⟨left, alone⟩ := ih d.left d.goes
      simp only [replay, e]
      exact ⟨left, sound shared a h d e ▸ alone.cons⟩

/-- What is replayed is a course. -/
lemma Course.of_replay {deed? : Shared → σ → Happening → Option (Deed σ)}
    (sound : ∀ shared a h d, deed? shared a h = some d → kind d ∧ d.stood = a) (shared : Shared)
    (a : σ) (hs : List Happening) :
    Course kind a (replay deed? shared a hs).1 (replay deed? shared a hs).2 := by
  induction hs generalizing shared a with
  | nil => exact .refl a
  | cons h hs ih =>
    cases e : deed? shared a h with
    | none =>
      simp only [replay, e]
      exact .refl a
    | some d =>
      obtain ⟨deed, rfl⟩ := sound shared a h d e
      simp only [replay, e]
      exact Course.cons deed (ih d.left d.goes)

end

end FillFeed.Client
