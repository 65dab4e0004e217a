/-
The tokens of a tree.

A tree that was not broken off has tokens, and reading these, wherever a value
may stand, puts the tree in its place (`build_tokens`). So a text that has the
tokens of a tree is read as that tree (`parse_of_tokens`).
-/
import GraphCalls.Json.Source

namespace GraphCalls
namespace Source

/-- The tokens of a tree, up to where it is broken. -/
def tokens : Source → List Token
  | .null => [.null]
  | .bool b => [.bool b]
  | .number l => [.number l]
  | .string l => [.string l]
  | .array [] _ => [.openArray, .closeArray]
  | .array (x :: xs) _ => .openArray :: (tokens x ++ items xs)
  | .object [] _ => [.openObject, .closeObject]
  | .object ((k, x) :: ms) _ => .openObject :: .string k :: .colon :: (tokens x ++ members ms)
  | .broken _ => []
where
  items : List Source → List Token
    | [] => [.closeArray]
    | x :: xs => .comma :: (tokens x ++ items xs)
  members : List (StringLiteral × Source) → List Token
    | [] => [.closeObject]
    | (k, x) :: ms => .comma :: .string k :: .colon :: (tokens x ++ members ms)

/-- Nothing of a tree is broken. -/
def Complete : Source → Prop
  | .array xs fault => fault = none ∧ items xs
  | .object ms fault => fault = none ∧ members ms
  | .broken _ => False
  | _ => True
where
  items : List Source → Prop
    | [] => True
    | x :: xs => Complete x ∧ items xs
  members : List (StringLiteral × Source) → Prop
    | [] => True
    | (_, x) :: ms => Complete x ∧ members ms

/-- An array's first item is read as any other value. -/
theorem build_firstItem (up : List Frame) {t : Token} (h : t ≠ .closeArray) (ts : List Token) :
    build up .firstItem (t :: ts) = build (.array [] :: up) .value (t :: ts) := by
  have hstep : step up .firstItem t = step (.array [] :: up) .value t := by cases t <;> first | rfl | exact absurd rfl h
  rw [build, build, hstep]

theorem build_firstItem_tokens (up : List Frame) {s : Source} (h : s.Complete) (ts : List Token) :
    build up .firstItem (s.tokens ++ ts) = build (.array [] :: up) .value (s.tokens ++ ts) := by
  cases s with
  | array xs => cases xs <;> exact build_firstItem up (by simp) _
  | object ms => cases ms <;> exact build_firstItem up (by simp) _
  | broken => cases h
  | _ => exact build_firstItem up (by simp) _

/-- A tree's tokens put it in its place. -/
theorem build_tokens : (s : Source) → s.Complete → (up : List Frame) → (ts : List Token) →
    build up .value (s.tokens ++ ts) = build (complete s up).1 (complete s up).2 ts
  | .null, _, up, ts | .bool _, _, up, ts | .number _, _, up, ts | .string _, _, up, ts => rfl
  | .broken _, h, _, _ => h.elim
  | .array [] _, h, up, ts | .object [] _, h, up, ts => by
    obtain ⟨rfl, -⟩ := h
    rfl
  | .array (x :: xs) _, h, up, ts => by
    obtain ⟨rfl, hx, hxs⟩ := h
    have hfirst := build_tokens x hx (.array [] :: up) (tokens.items xs ++ ts)
    have hrest := items xs hxs [x] up ts
    simp only [tokens, List.cons_append, List.append_assoc]
    rw [build]
    simp only [step, startValue]
    rw [build_firstItem_tokens up hx, hfirst]
    exact hrest
  | .object ((k, x) :: ms) _, h, up, ts => by
    obtain ⟨rfl, hx, hms⟩ := h
    have hfirst := build_tokens x hx (.object [] k :: up) (tokens.members ms ++ ts)
    have hrest := members ms hms [(k, x)] up ts
    simp only [tokens, List.cons_append, List.append_assoc]
    simp only [build, step, startValue]
    rw [hfirst]
    exact hrest
where
  items : (xs : List Source) → Complete.items xs → (done : List Source) → (up : List Frame) → (ts : List Token) →
      build up (.afterItem done) (tokens.items xs ++ ts) =
        build (complete (.array (done.reverse ++ xs) none) up).1 (complete (.array (done.reverse ++ xs) none) up).2 ts
    | [], _, done, up, ts => by
      rw [List.append_nil]
      rfl
    | x :: xs, h, done, up, ts => by
      have hx := build_tokens x h.1 (.array done :: up) (tokens.items xs ++ ts)
      have hxs := items xs h.2 (x :: done) up ts
      rw [List.reverse_cons, List.append_assoc, List.singleton_append] at hxs
      simp only [tokens.items, List.cons_append, List.append_assoc]
      simp only [build, step]
      rw [hx]
      exact hxs
  members : (ms : List (StringLiteral × Source)) → Complete.members ms → (done : List (StringLiteral × Source)) →
      (up : List Frame) → (ts : List Token) → build up (.afterMember done) (tokens.members ms ++ ts) =
        build (complete (.object (done.reverse ++ ms) none) up).1 (complete (.object (done.reverse ++ ms) none) up).2 ts
    | [], _, done, up, ts => by
      rw [List.append_nil]
      rfl
    | (k, x) :: ms, h, done, up, ts => by
      have hx := build_tokens x h.1 (.object done k :: up) (tokens.members ms ++ ts)
      have hms := members ms h.2 ((k, x) :: done) up ts
      rw [List.reverse_cons, List.append_assoc, List.singleton_append] at hms
      simp only [tokens.members, List.cons_append, List.append_assoc]
      simp only [build, step]
      rw [hx]
      exact hms

/-- A text with the tokens of a tree is read as that tree, with nothing left. -/
theorem parse_of_tokens {text : String} {s : Source} (hs : s.Complete) (h : Token.ofText text = s.tokens) :
    parse text = ⟨s, false⟩ := by
  have hbuild := build_tokens s hs [] []
  rw [List.append_nil] at hbuild
  rw [parse, h, hbuild]
  rfl

end Source
end GraphCalls
