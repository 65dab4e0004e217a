/-
Where the calls of a body end.

A comma separates calls only outside of parentheses and braces, and
selections have braces of their own, so a body is split by a walk that counts
them (`Place.next`). It finds the calls again (`Place.splitCalls_intercalate`)
if each ends outside and has no comma there; for the parts of a call this
needs names without the characters of the grammar, and balanced selections.
-/
import Mathlib.Data.List.Basic

namespace GraphCalls

/-- The characters of the grammar. -/
def reservedChars : List Char := [':', '(', ')', '{', '}', ',', '$']

/-- A text without the characters of the grammar. -/
def Plain (s : String) : Prop := ∀ c ∈ reservedChars, c ∉ s.toList

theorem all_iff_plain {s : String} : (s.toList.all fun c => !reservedChars.contains c) = true ↔ Plain s := by
  simp only [Plain, List.all_eq_true, Bool.not_eq_true', List.contains_eq_mem, decide_eq_false_iff_not]
  exact ⟨fun h c hc hm => h c hm hc, fun h c hm hc => h c hc hm⟩

instance (s : String) : Decidable (Plain s) := decidable_of_iff _ all_iff_plain

/-- How deep in braces a text ends that starts at a given depth, if it never
closes one too many. -/
def depthAfter : Nat → List Char → Option Nat
  | d, [] => some d
  | d, c :: cs =>
    if c = '{' then depthAfter (d + 1) cs
    else if c = '}' then if d = 0 then none else depthAfter (d - 1) cs
    else depthAfter d cs

/-- A text that closes all the braces it opens, and no others. -/
def Balanced (s : String) : Prop := depthAfter 0 s.toList = some 0

instance (s : String) : Decidable (Balanced s) := inferInstanceAs (Decidable (_ = _))

/-! ## The calls of a body -/

/-- Where a body stands: between the parts of calls, in a list of arguments,
or in a selection at some depth of braces of its own. -/
inductive Place where
  | outside
  | arguments
  | selection (depth : Nat)
deriving DecidableEq

namespace Place

/-- The place after one more character. -/
def next : Place → Char → Place
  | outside, c => if c = '(' then arguments else if c = '{' then selection 0 else outside
  | arguments, c => if c = ')' then outside else arguments
  | selection d, c =>
    if c = '{' then selection (d + 1)
    else if c = '}' then if d = 0 then outside else selection (d - 1)
    else selection d

/-- The place after a text that separates no calls. -/
def after : Place → List Char → Option Place
  | p, [] => some p
  | p, c :: cs => if p = outside ∧ c = ',' then none else (p.next c).after cs

/-- The calls of a body, from a place within the first. -/
def splitCalls : Place → List Char → List (List Char)
  | _, [] => [[]]
  | p, c :: cs =>
    if p = outside ∧ c = ',' then [] :: splitCalls outside cs
    else (splitCalls (p.next c) cs).modifyHead (c :: ·)

theorem after_append : ∀ (p : Place) (a b : List Char), p.after (a ++ b) = (p.after a).bind (·.after b)
  | _, [], _ => rfl
  | p, c :: a, b => by
    rw [List.cons_append, after, after]
    by_cases h : p = outside ∧ c = ','
    · rw [if_pos h, if_pos h, Option.bind_none]
    · rw [if_neg h, if_neg h, after_append]

/-- A text that separates no calls belongs to the first. -/
theorem splitCalls_append : ∀ {p q : Place} {a : List Char} (rest : List Char), p.after a = some q →
    splitCalls p (a ++ rest) = (splitCalls q rest).modifyHead (a ++ ·)
  | p, q, [], rest, h => by
    simp only [after, Option.some.injEq] at h
    subst h
    simp only [List.nil_append]
    exact (congrFun List.modifyHead_id _).symm
  | p, q, c :: a, rest, h => by
    rw [after] at h
    split at h
    · cases h
    · next hsep =>
      rw [List.cons_append, splitCalls, if_neg hsep, splitCalls_append rest h, List.modifyHead_modifyHead]
      rfl

/-- A text that starts and ends outside and separates no calls. -/
def Unbroken (cs : List Char) : Prop := after outside cs = some outside

/-- A body is split where its calls were joined. -/
theorem splitCalls_intercalate : ∀ {texts : List (List Char)}, texts ≠ [] → (∀ t ∈ texts, Unbroken t) →
    splitCalls outside ([','].intercalate texts) = texts
  | [t], _, h => by
    have ht := splitCalls_append [] (h t (List.mem_cons_self ..))
    rw [List.append_nil] at ht
    rw [List.intercalate_singleton, ht]
    simp [splitCalls]
  | t :: u :: texts, _, h => by
    have ih := splitCalls_intercalate (List.cons_ne_nil u texts) fun v hv => h v (List.mem_cons_of_mem _ hv)
    rw [List.intercalate_cons_cons, List.append_assoc, splitCalls_append _ (h t (List.mem_cons_self ..)),
      List.singleton_append, splitCalls, if_pos ⟨rfl, rfl⟩, ih, List.modifyHead_cons, List.append_nil]

/-! ## The parts of a call -/

theorem unbroken_nil : Unbroken [] := rfl

theorem Unbroken.append {a b : List Char} (ha : Unbroken a) (hb : Unbroken b) : Unbroken (a ++ b) := by
  rw [Unbroken, after_append, ha, Option.bind_some, hb]

theorem unbroken_colon : Unbroken [':'] := rfl

theorem unbroken_of_plain : ∀ {cs : List Char}, (∀ c ∈ reservedChars, c ∉ cs) → Unbroken cs
  | [], _ => rfl
  | c :: cs, h => by
    have hc : c ∉ reservedChars := fun hc => h c hc (List.mem_cons_self ..)
    simp only [reservedChars, List.mem_cons, not_or] at hc
    have hcs : after outside cs = some outside :=
      unbroken_of_plain fun d hd hm => h d hd (List.mem_cons_of_mem _ hm)
    simp [Unbroken, after, next, hc, hcs]

theorem after_arguments : ∀ {cs : List Char}, ')' ∉ cs → after arguments cs = some arguments
  | [], _ => rfl
  | c :: cs, h => by
    simp only [List.mem_cons, not_or] at h
    simp [after, next, Ne.symm h.1, after_arguments h.2]

theorem unbroken_parentheses {cs : List Char} (h : ')' ∉ cs) : Unbroken ('(' :: (cs ++ [')'])) := by
  have hin : after arguments (cs ++ [')']) = some outside := by
    rw [after_append, after_arguments h]
    rfl
  simpa [Unbroken, after, next] using hin

/-- In a selection the place keeps count of the depth. -/
theorem after_selection : ∀ {d e : Nat} {cs : List Char}, depthAfter d cs = some e →
    after (selection d) cs = some (selection e)
  | d, e, [], h => by
    simp only [depthAfter, Option.some.injEq] at h
    rw [h, after]
  | d, e, c :: cs, h => by
    rw [after, if_neg (by simp), next]
    rw [depthAfter] at h
    by_cases hopen : c = '{'
    · rw [if_pos hopen] at h ⊢
      exact after_selection h
    · rw [if_neg hopen] at h ⊢
      by_cases hclose : c = '}'
      · rw [if_pos hclose] at h ⊢
        -- The text has no brace here that would close the selection itself.
        by_cases hd : d = 0
        · simp [hd] at h
        · rw [if_neg hd] at h ⊢
          exact after_selection h
      · rw [if_neg hclose] at h ⊢
        exact after_selection h

theorem unbroken_braces {cs : List Char} (h : depthAfter 0 cs = some 0) :
    Unbroken ('{' :: (cs ++ ['}'])) := by
  have hin : after (selection 0) (cs ++ ['}']) = some outside := by
    rw [after_append, after_selection h]
    rfl
  simpa [Unbroken, after, next] using hin

end Place
end GraphCalls
