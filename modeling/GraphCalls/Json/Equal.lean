/-
Equality of JSON values as numbers.

Two values are equal when they differ at most in the sign of zeros: `0.0` and
`-0.0` are one number with two texts. The integer `1` and the float `1.0`
stay apart, as do objects that list their members in different orders.
-/
import GraphCalls.Json.Basic

namespace GraphCalls

/-- Whether two stored numbers are equal and of one kind. -/
def Number.equal : Number → Number → Bool
  | .int a, .int b => a == b
  | .float a, .float b => a.equal b
  | .int _, .float _ | .float _, .int _ => false

theorem Number.equal_self (n : Number) : n.equal n = true := by
  cases n <;> simp [equal, Binary64.equal_self]

theorem Number.equal_comm (m n : Number) : m.equal n = n.equal m := by
  cases m <;> cases n <;> simp [equal, Binary64.equal_comm, Bool.beq_comm]

namespace Json

/-- Whether two values are equal. -/
def equal : Json → Json → Bool
  | .null, .null => true
  | .bool a, .bool b => a == b
  | .number a, .number b => a.equal b
  | .string a, .string b => a == b
  | .array a, .array b => items a b
  | .object a, .object b => members a b
  | _, _ => false
where
  items : List Json → List Json → Bool
    | [], [] => true
    | x :: xs, y :: ys => equal x y && items xs ys
    | _, _ => false
  members : List (String × Json) → List (String × Json) → Bool
    | [], [] => true
    | (k, x) :: xs, (l, y) :: ys => k == l && equal x y && members xs ys
    | _, _ => false

/-- A value equals itself. -/
theorem equal_self : (v : Json) → v.equal v = true
  | .null => rfl
  | .bool _ => by simp [equal]
  | .number n => by simp [equal, n.equal_self]
  | .string _ => by simp [equal]
  | .array xs => by simp [equal, items xs]
  | .object ms => by simp [equal, members ms]
where
  items : (xs : List Json) → equal.items xs xs = true
    | [] => rfl
    | x :: xs => by simp [equal.items, equal_self x, items xs]
  members : (ms : List (String × Json)) → equal.members ms ms = true
    | [] => rfl
    | (_, x) :: ms => by simp [equal.members, equal_self x, members ms]

/-- The order of two values does not matter. -/
theorem equal_comm : (v w : Json) → v.equal w = w.equal v
  | .null, w | .bool _, w | .number _, w | .string _, w => by
    cases w <;> simp [equal, Bool.beq_comm, Number.equal_comm]
  | .array xs, w => by
    cases w with
    | array ys => simp only [equal]; exact items xs ys
    | _ => rfl
  | .object xs, w => by
    cases w with
    | object ys => simp only [equal]; exact members xs ys
    | _ => rfl
where
  items : (xs ys : List Json) → equal.items xs ys = equal.items ys xs
    | [], ys => by cases ys <;> rfl
    | x :: xs, [] => rfl
    | x :: xs, y :: ys => by simp only [equal.items]; rw [equal_comm x y, items xs ys]
  members : (xs ys : List (String × Json)) → equal.members xs ys = equal.members ys xs
    | [], ys => by cases ys <;> rfl
    | x :: xs, [] => rfl
    | (k, x) :: xs, (l, y) :: ys => by
      simp only [equal.members]; rw [equal_comm x y, members xs ys, Bool.beq_comm]

end Json
end GraphCalls
