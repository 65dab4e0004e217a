/-
Two runs side by side, of steps that can fail.

Two outcomes agree if both fail for one reason, or both succeed with results
that correspond. Steps one after the other, traversals and folds keep to that,
so of two runs of a program only the single steps have to be compared.
-/
import Mathlib.Data.List.Forall2

namespace GraphCalls

variable {ε ε' α β γ δ : Type}

/-- Two outcomes agree: corresponding results, or the same failure. -/
inductive Agree (R : α → β → Prop) : Except ε α → Except ε β → Prop
  | ok {a b} (h : R a b) : Agree R (.ok a) (.ok b)
  | error (e : ε) : Agree R (.error e) (.error e)

namespace Agree

variable {R : α → β → Prop} {S : γ → δ → Prop}

theorem imp {R' : α → β → Prop} {x : Except ε α} {y : Except ε β} (h : Agree R x y)
    (hR : ∀ {a b}, R a b → R' a b) : Agree R' x y := by
  cases h with
  | ok h => exact .ok (hR h)
  | error e => exact .error e

theorem of_eq {R : α → α → Prop} (hR : ∀ a, R a a) : ∀ x : Except ε α, Agree R x x
  | .ok a => .ok (hR a)
  | .error e => .error e

theorem bind {x : Except ε α} {y : Except ε β} {f : α → Except ε γ} {g : β → Except ε δ} (h : Agree R x y)
    (hf : ∀ {a b}, R a b → Agree S (f a) (g b)) : Agree S (x >>= f) (y >>= g) := by
  cases h with
  | ok h => exact hf h
  | error e => exact .error e

theorem mapError {x : Except ε α} {y : Except ε β} (h : Agree R x y) (f : ε → ε') :
    Agree R (x.mapError f) (y.mapError f) := by
  cases h with
  | ok h => exact .ok h
  | error e => exact .error (f e)

theorem mapM {f : α → Except ε γ} {g : β → Except ε δ} (hf : ∀ {a b}, R a b → Agree S (f a) (g b))
    {as : List α} {bs : List β} (h : List.Forall₂ R as bs) : Agree (List.Forall₂ S) (as.mapM f) (bs.mapM g) := by
  induction h with
  | nil => exact .ok .nil
  | cons hab _ ih =>
    rw [List.mapM_cons, List.mapM_cons]
    exact (hf hab).bind fun hcd => ih.bind fun hrest => .ok (.cons hcd hrest)

theorem foldlM {f : γ → α → Except ε γ} {g : δ → β → Except ε δ}
    (hf : ∀ {c d a b}, S c d → R a b → Agree S (f c a) (g d b)) {as : List α} {bs : List β}
    (h : List.Forall₂ R as bs) : ∀ {c d}, S c d → Agree S (as.foldlM f c) (bs.foldlM g d) := by
  induction h with
  | nil => exact fun hcd => .ok hcd
  | cons hab _ ih =>
    intro c d hcd
    rw [List.foldlM_cons, List.foldlM_cons]
    exact (hf hcd hab).bind ih

end Agree

/-- What does not tell corresponding items apart gives one list for both. -/
theorem map_eq_of_forall₂ {R : α → β → Prop} {f : α → γ} {g : β → γ} (hf : ∀ {a b}, R a b → f a = g b)
    {as : List α} {bs : List β} (h : List.Forall₂ R as bs) : as.map f = bs.map g := by
  induction h with
  | nil => rfl
  | cons hab _ ih => rw [List.map_cons, List.map_cons, hf hab, ih]

end GraphCalls
