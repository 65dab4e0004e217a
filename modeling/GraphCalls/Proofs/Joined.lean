/-
Lists that are joined with something between neighbours.
-/
import Mathlib.Data.List.Basic

namespace GraphCalls

theorem intercalate_append {α : Type} (sep : List α) : ∀ {as bs : List (List α)}, as ≠ [] → bs ≠ [] →
    sep.intercalate (as ++ bs) = sep.intercalate as ++ sep ++ sep.intercalate bs
  | [a], b :: bs, _, _ => by simp [List.intercalate_cons_cons]
  | a :: a' :: as, bs, _, hbs => by
    have ih := intercalate_append sep (List.cons_ne_nil a' as) hbs
    rw [List.cons_append] at ih
    rw [List.cons_append, List.cons_append, List.intercalate_cons_cons, List.intercalate_cons_cons, ih]
    simp only [List.append_assoc]

theorem not_mem_intercalate {c : Char} {sep : List Char} (hsep : c ∉ sep) : ∀ {ps : List (List Char)},
    (∀ p ∈ ps, c ∉ p) → c ∉ sep.intercalate ps
  | [], _ => by simp
  | [p], h => by simpa using h p
  | p :: q :: ps, h => by
    have ih : c ∉ sep.intercalate (q :: ps) :=
      not_mem_intercalate hsep fun r hr => h r (List.mem_cons_of_mem _ hr)
    rw [List.intercalate_cons_cons, List.mem_append, List.mem_append, not_or, not_or]
    exact ⟨⟨h p (List.mem_cons_self ..), hsep⟩, ih⟩

end GraphCalls
