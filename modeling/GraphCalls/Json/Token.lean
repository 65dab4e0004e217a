/-
Splitting JSON text into tokens.

Reading stops at the first place where the text stops being JSON. What stood
there is the last token, so that a reader that goes through the tokens in
order meets every fault in its place. A number or a string that breaks off
counts differently for a reader that keeps it and for one that skips it.
-/
import GraphCalls.Json.Literal
import GraphCalls.Number.Digits

namespace GraphCalls

/-- Where and how a text stops being JSON. -/
inductive Fault where
  /-- The text is not JSON here, or has ended. -/
  | plain (error : ReadError)
  /-- The text ended inside a number. -/
  | inNumber
  /-- A string broke off after some pieces. -/
  | inString (pieces : StringLiteral) (error : ReadError)
deriving DecidableEq

namespace Fault

/-- The error for a reader that keeps what it reads. -/
def kept : Fault → ReadError
  | .plain e => e
  | .inNumber => .truncated
  | .inString ps e => if ps.hopeless then .malformed else e

/-- The error for a reader that skips over the text: it looks at a string's
form only, and takes a number that breaks off for a malformed one. -/
def skipped : Fault → ReadError
  | .plain e => e
  | .inNumber => .malformed
  | .inString _ e => e

end Fault

/-- A token of JSON text. -/
inductive Token where
  | openArray
  | closeArray
  | openObject
  | closeObject
  | comma
  | colon
  | null
  | bool (value : Bool)
  | number (literal : NumberLiteral)
  | string (literal : StringLiteral)
  /-- The text stops being JSON here. -/
  | broken (fault : Fault)
deriving DecidableEq

namespace Token

/-- The blanks that may stand between tokens. -/
def isBlank (c : Char) : Bool := c == ' ' || c == '\n' || c == '\t' || c == '\r'

def digitValue (c : Char) : Nat := c.toNat - '0'.toNat

/-- The code unit that four hexadecimal digits write. -/
def unit? (a b c d : Char) : Option Nat :=
  match Digits.value? a, Digits.value? b, Digits.value? c, Digits.value? d with
  | some a, some b, some c, some d => some (((a * 16 + b) * 16 + c) * 16 + d)
  | _, _, _, _ => none

/-- What a code unit adds to a string. -/
def unitPiece (u : Nat) : StringPiece :=
  if isLeadSurrogate u || isTrailSurrogate u then .surrogate u else .char (Char.ofNat u)

/-- The character that a one letter escape stands for. -/
def escaped? : Char → Option Char
  | '"' => some '"'
  | '\\' => some '\\'
  | '/' => some '/'
  | 'b' => some '\x08'
  | 'f' => some '\x0c'
  | 'n' => some '\n'
  | 'r' => some '\r'
  | 't' => some '\t'
  | _ => none

/-- The bytes that characters take. -/
def byteCount (cs : List Char) : Nat := cs.foldl (fun n c => n + c.utf8Size) 0

/-- A string from after its opening quote: its pieces, in reverse onto
`acc`, and the text after the closing quote or what went wrong. -/
def scanString (acc : StringLiteral) : List Char → StringLiteral × Except ReadError (List Char)
  | [] => (acc.reverse, .error .truncated)
  | '"' :: r => (acc.reverse, .ok r)
  | ['\\'] => (acc.reverse, .error .truncated)
  | '\\' :: 'u' :: a :: b :: c :: d :: r =>
    match unit? a b c d with
    | some u => scanString (unitPiece u :: acc) r
    | none => (acc.reverse, .error .malformed)
  | '\\' :: 'u' :: r =>
    /- An escape needs four more bytes before its digits are looked at. -/
    (acc.reverse, .error (if byteCount r < 4 then .truncated else .malformed))
  | '\\' :: e :: r =>
    match escaped? e with
    | some c => scanString (.char c :: acc) r
    | none => (acc.reverse, .error .malformed)
  | c :: r => if c.toNat < 0x20 then (acc.reverse, .error .malformed) else scanString (.char c :: acc) r

theorem scanString_length {acc : StringLiteral} {cs : List Char} {ps : StringLiteral}
    {rest : List Char} (h : scanString acc cs = (ps, .ok rest)) : rest.length < cs.length := by
  fun_induction scanString acc cs <;> (simp_all; try omega)

/-- The rest of the text after a given word. -/
def scanWord : (word : List Char) → List Char → Except ReadError (List Char)
  | [], cs => .ok cs
  | _ :: _, [] => .error .truncated
  | w :: ws, c :: cs => if w = c then scanWord ws cs else .error .malformed

theorem scanWord_length {word cs rest : List Char} (h : scanWord word cs = .ok rest) :
    rest.length ≤ cs.length := by
  fun_induction scanWord word cs <;> (simp_all; try omega)

/-- A run of at least one digit, and the text after it. -/
def scanDigits (cs : List Char) : Except Fault (List Nat × List Char) :=
  match cs with
  | [] => .error .inNumber
  | c :: _ =>
    if c.isDigit then .ok ((cs.takeWhile Char.isDigit).map digitValue, cs.dropWhile Char.isDigit)
    else .error (.plain .malformed)

/-- A fraction, if a point follows. -/
def scanFraction : List Char → Except Fault (Option (List Nat) × List Char)
  | '.' :: cs => (scanDigits cs).map fun (ds, r) => (some ds, r)
  | cs => .ok (none, cs)

/-- An optional sign: whether it is negative, and the text after it. -/
def scanSign : List Char → Bool × List Char
  | '-' :: cs => (true, cs)
  | '+' :: cs => (false, cs)
  | cs => (false, cs)

/-- An exponent, if its mark follows. -/
def scanExponent : List Char → Except Fault (Option (Bool × List Nat) × List Char)
  | [] => .ok (none, [])
  | c :: cs =>
    if c = 'e' ∨ c = 'E' then
      (scanDigits (scanSign cs).2).map fun (ds, r) => (some ((scanSign cs).1, ds), r)
    else .ok (none, c :: cs)

/-- A number from after its sign. A leading zero stands alone. -/
def scanNumber (negative : Bool) (cs : List Char) : Except Fault (NumberLiteral × List Char) := do
  let (whole, r) ← scanDigits cs
  if whole.head? = some 0 ∧ 1 < whole.length then throw (.plain .malformed)
  let (fraction, r) ← scanFraction r
  let (exponent, r) ← scanExponent r
  return (⟨negative, whole, fraction, exponent⟩, r)

theorem length_dropWhile_le (p : Char → Bool) (cs : List Char) :
    (cs.dropWhile p).length ≤ cs.length := (List.dropWhile_sublist p).length_le

theorem scanDigits_length {cs : List Char} {p : List Nat × List Char}
    (h : scanDigits cs = .ok p) : p.2.length < cs.length := by
  unfold scanDigits at h
  split at h
  · simp at h
  · rename_i c cs'
    split at h
    · rename_i hc
      simp only [Except.ok.injEq] at h
      subst h
      simp only [List.dropWhile_cons, hc, if_true, List.length_cons]
      exact Nat.lt_succ_of_le (length_dropWhile_le _ _)
    · simp at h

theorem scanFraction_length {cs : List Char} {p : Option (List Nat) × List Char}
    (h : scanFraction cs = .ok p) : p.2.length ≤ cs.length := by
  unfold scanFraction at h
  split at h
  · rename_i cs'
    cases hd : scanDigits cs' with
    | error e => simp [hd, Except.map] at h
    | ok q =>
      simp only [hd, Except.map, Except.ok.injEq] at h
      subst h
      have := scanDigits_length hd
      simp only [List.length_cons]
      omega
  · simp only [Except.ok.injEq] at h
    subst h
    exact Nat.le_refl _

theorem scanSign_length (cs : List Char) : (scanSign cs).2.length ≤ cs.length := by
  unfold scanSign
  split <;> simp

theorem scanExponent_length {cs : List Char} {p : Option (Bool × List Nat) × List Char}
    (h : scanExponent cs = .ok p) : p.2.length ≤ cs.length := by
  unfold scanExponent at h
  split at h
  · simp only [Except.ok.injEq] at h
    subst h
    exact Nat.le_refl _
  · rename_i c cs'
    split at h
    · cases hd : scanDigits (scanSign cs').2 with
      | error e => simp [hd, Except.map] at h
      | ok q =>
        simp only [hd, Except.map, Except.ok.injEq] at h
        subst h
        have h1 := scanDigits_length hd
        have h2 := scanSign_length cs'
        simp only [List.length_cons]
        omega
    · simp only [Except.ok.injEq] at h
      subst h
      exact Nat.le_refl _

theorem scanNumber_length {negative : Bool} {cs : List Char} {p : NumberLiteral × List Char}
    (h : scanNumber negative cs = .ok p) : p.2.length < cs.length := by
  unfold scanNumber at h
  cases hw : scanDigits cs with
  | error e => simp [hw, bind, Except.bind] at h
  | ok w =>
    have h1 := scanDigits_length hw
    simp only [hw, bind, Except.bind] at h
    split at h
    · simp [throw, throwThe, MonadExceptOf.throw] at h
    · cases hf : scanFraction w.2 with
      | error e => simp [hf] at h
      | ok f =>
        have h2 := scanFraction_length hf
        simp only [pure, Except.pure, hf] at h
        cases he : scanExponent f.2 with
        | error e => simp [he] at h
        | ok x =>
          have h3 := scanExponent_length he
          simp only [he, Except.ok.injEq] at h
          subst h
          simp only
          omega

/-- The tokens of a text, in reverse onto `acc`. -/
def scan (acc : List Token) (cs : List Char) : List Token :=
  match cs with
  | [] => acc.reverse
  | c :: r =>
    if isBlank c then scan acc r
    else if c = '[' then scan (.openArray :: acc) r
    else if c = ']' then scan (.closeArray :: acc) r
    else if c = '{' then scan (.openObject :: acc) r
    else if c = '}' then scan (.closeObject :: acc) r
    else if c = ',' then scan (.comma :: acc) r
    else if c = ':' then scan (.colon :: acc) r
    else if c = '"' then
      match h : scanString [] r with
      | (ps, .ok rest) =>
        have := scanString_length h
        scan (.string ps :: acc) rest
      | (ps, .error e) => (.broken (.inString ps e) :: acc).reverse
    else if c = 'n' then
      match h : scanWord ['u', 'l', 'l'] r with
      | .ok rest =>
        have := scanWord_length h
        scan (.null :: acc) rest
      | .error e => (.broken (.plain e) :: acc).reverse
    else if c = 't' then
      match h : scanWord ['r', 'u', 'e'] r with
      | .ok rest =>
        have := scanWord_length h
        scan (.bool true :: acc) rest
      | .error e => (.broken (.plain e) :: acc).reverse
    else if c = 'f' then
      match h : scanWord ['a', 'l', 's', 'e'] r with
      | .ok rest =>
        have := scanWord_length h
        scan (.bool false :: acc) rest
      | .error e => (.broken (.plain e) :: acc).reverse
    else if c = '-' then
      match h : scanNumber true r with
      | .ok (l, rest) =>
        have := scanNumber_length h
        scan (.number l :: acc) rest
      | .error f => (.broken f :: acc).reverse
    else if c.isDigit then
      match h : scanNumber false (c :: r) with
      | .ok (l, rest) =>
        have := scanNumber_length h
        scan (.number l :: acc) rest
      | .error f => (.broken f :: acc).reverse
    else (.broken (.plain .malformed) :: acc).reverse
termination_by cs.length
decreasing_by all_goals (simp_all; try omega)

/-- The tokens of a text. -/
def ofText (text : String) : List Token := scan [] text.toList

end Token
end GraphCalls
