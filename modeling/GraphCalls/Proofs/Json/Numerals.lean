/-
Numbers, written and read again.

What a number's text is read as does not change with what follows, so long as
that could not be a part of the number (`scanNumber_append`). So a number whose
text is accepted when it stands alone is read in the same way anywhere
(`scan_chars`). Integers of 64 bits are read as themselves (`accepted_int`).
-/
import GraphCalls.Proofs.Json.Lexing
import GraphCalls.Proofs.Json.Order
import Mathlib.Data.List.TakeWhile

namespace GraphCalls

theorem takeWhile_append_of_stop {α : Type} {p : α → Bool} {bs : List α} (h : ∀ b ∈ bs.head?, p b = false) :
    ∀ as : List α, (as ++ bs).takeWhile p = as.takeWhile p
  | [] => by cases bs <;> simp_all
  | a :: as => by rw [List.cons_append, List.takeWhile_cons, List.takeWhile_cons, takeWhile_append_of_stop h as]

theorem dropWhile_append_of_stop {α : Type} {p : α → Bool} {bs : List α} (h : ∀ b ∈ bs.head?, p b = false) :
    ∀ as : List α, (as ++ bs).dropWhile p = as.dropWhile p ++ bs
  | [] => by cases bs <;> simp_all
  | a :: as => by
    rw [List.cons_append, List.dropWhile_cons, List.dropWhile_cons, dropWhile_append_of_stop h as]
    split <;> rfl

namespace Token

/-! ## What may follow a number -/

/-- A text that does not go on with a number before it. -/
def EndsNumber (rest : List Char) : Prop :=
  ∀ c ∈ rest.head?, c.isDigit = false ∧ c ≠ '.' ∧ c ≠ 'e' ∧ c ≠ 'E'

theorem EndsNumber.nil : EndsNumber [] := fun _ h => by cases h

theorem EndsNumber.cons {c : Char} (h : c.isDigit = false ∧ c ≠ '.' ∧ c ≠ 'e' ∧ c ≠ 'E') (rest : List Char) :
    EndsNumber (c :: rest) := fun d hd => by
  cases hd
  exact h

variable {cs r rest : List Char}

theorem scanDigits_append_of_stop {ds : List Nat} (h : scanDigits cs = .ok (ds, r))
    (hstop : ∀ c ∈ rest.head?, c.isDigit = false) : scanDigits (cs ++ rest) = .ok (ds, r ++ rest) := by
  cases cs with
  | nil => cases h
  | cons c cs =>
    rw [scanDigits] at h
    split at h
    next hc =>
      cases h
      rw [← takeWhile_append_of_stop hstop, ← dropWhile_append_of_stop hstop, List.cons_append, scanDigits, if_pos hc]
    · cases h

theorem scanDigits_append {ds : List Nat} (h : scanDigits cs = .ok (ds, r)) (hrest : EndsNumber rest) :
    scanDigits (cs ++ rest) = .ok (ds, r ++ rest) :=
  scanDigits_append_of_stop h fun c hc => (hrest c hc).1

theorem scanFraction_append {ds : Option (List Nat)} (h : scanFraction cs = .ok (ds, r)) (hrest : EndsNumber rest) :
    scanFraction (cs ++ rest) = .ok (ds, r ++ rest) := by
  rw [scanFraction.eq_def] at h
  split at h
  next cs =>
    obtain ⟨⟨fraction, r⟩, hdigits, h⟩ := map_eq_ok_iff.1 h
    cases h
    rw [List.cons_append, scanFraction, scanDigits_append hdigits hrest]
    rfl
  next hpoint =>
    cases h
    rw [scanFraction.eq_def]
    split
    next tail heq =>
      cases cs with
      | nil => exact absurd rfl (hrest '.' (by rw [show rest = '.' :: tail from heq]; rfl)).2.1
      | cons c cs => exact absurd ((List.cons.inj heq).1 ▸ rfl) (hpoint cs)
    · rfl

theorem scanSign_append (h : cs ≠ []) (rest : List Char) :
    scanSign (cs ++ rest) = ((scanSign cs).1, (scanSign cs).2 ++ rest) := by
  cases cs with
  | nil => exact absurd rfl h
  | cons c cs =>
    rw [List.cons_append, scanSign.eq_def, scanSign.eq_def (c :: cs)]
    split <;> simp_all

theorem scanExponent_append {x : Option (Bool × List Nat)} (h : scanExponent cs = .ok (x, r))
    (hrest : EndsNumber rest) : scanExponent (cs ++ rest) = .ok (x, r ++ rest) := by
  cases cs with
  | nil =>
    cases h
    cases rest with
    | nil => rfl
    | cons c rest =>
      have hc := hrest c rfl
      rw [List.nil_append, scanExponent, if_neg (by simp [hc.2.2])]
  | cons c cs =>
    rw [scanExponent] at h
    rw [List.cons_append, scanExponent]
    split at h
    next hc =>
      obtain ⟨⟨ds, r⟩, hdigits, h⟩ := map_eq_ok_iff.1 h
      cases h
      have hcs : cs ≠ [] := by
        rintro rfl
        cases hdigits
      rw [if_pos hc, scanSign_append hcs, scanDigits_append hdigits hrest]
      rfl
    next hc =>
      cases h
      rw [if_neg hc]
      rfl

theorem scanNumber_eq_ok_iff {negative : Bool} {l : NumberLiteral} : scanNumber negative cs = .ok (l, r) ↔
    ∃ whole r₁ fraction r₂ exponent, scanDigits cs = .ok (whole, r₁) ∧
      ¬(whole.head? = some 0 ∧ 1 < whole.length) ∧
      scanFraction r₁ = .ok (fraction, r₂) ∧ scanExponent r₂ = .ok (exponent, r) ∧
        l = ⟨negative, whole, fraction, exponent⟩ := by
  simp only [scanNumber, bind_eq_ok_iff, Prod.exists]
  constructor
  · rintro ⟨whole, r₁, hwhole, h⟩
    split at h
    · cases h
    next hzero =>
      simp only [bind_eq_ok_iff, Prod.exists] at h
      obtain ⟨fraction, r₂, hfraction, exponent, r₃, hexponent, h⟩ := h
      cases h
      exact ⟨whole, r₁, fraction, r₂, exponent, hwhole, hzero, hfraction, hexponent, rfl⟩
  · rintro ⟨whole, r₁, fraction, r₂, exponent, hwhole, hzero, hfraction, hexponent, rfl⟩
    refine ⟨whole, r₁, hwhole, ?_⟩
    rw [if_neg hzero]
    simp only [bind_eq_ok_iff, Prod.exists]
    exact ⟨fraction, r₂, hfraction, exponent, r, hexponent, rfl⟩

theorem scanNumber_append {negative : Bool} {l : NumberLiteral} (h : scanNumber negative cs = .ok (l, r))
    (hrest : EndsNumber rest) : scanNumber negative (cs ++ rest) = .ok (l, r ++ rest) := by
  obtain ⟨whole, r₁, fraction, r₂, exponent, hwhole, hzero, hfraction, hexponent, rfl⟩ := scanNumber_eq_ok_iff.1 h
  exact scanNumber_eq_ok_iff.2 ⟨whole, _, fraction, _, exponent, scanDigits_append hwhole hrest, hzero,
    scanFraction_append hfraction hrest, scanExponent_append hexponent hrest, rfl⟩

/-! ## Numbers among tokens -/

/-- The characters that texts of numbers are made of. -/
def isNumberChar (c : Char) : Bool := c.isDigit || c == '-' || c == '+' || c == '.' || c == 'e'

/-- The number at the start of a text, its sign included. -/
def numberAt : List Char → Except Fault (NumberLiteral × List Char)
  | '-' :: cs => scanNumber true cs
  | cs => scanNumber false cs

theorem numberAt_of_ne {c : Char} (h : c ≠ '-') (cs : List Char) : numberAt (c :: cs) = scanNumber false (c :: cs) := by
  rw [numberAt.eq_def]
  split
  next heq => exact absurd (List.cons.inj heq).1 h
  · rfl

theorem numberAt_append {l : NumberLiteral} (h : numberAt cs = .ok (l, r)) (hrest : EndsNumber rest) :
    numberAt (cs ++ rest) = .ok (l, r ++ rest) := by
  cases cs with
  | nil => cases h
  | cons c cs =>
    by_cases hc : c = '-'
    · subst hc
      exact scanNumber_append h hrest
    · rw [numberAt_of_ne hc] at h
      rw [List.cons_append, numberAt_of_ne hc]
      exact scanNumber_append h hrest

theorem ne_of_isDigit {c d : Char} (hc : c.isDigit = true) (hd : d.isDigit = false) : c ≠ d := by
  rintro rfl
  exact absurd hc (by simp [hd])

/-- A number is the token at the start of its text. -/
theorem scan_numberAt {c : Char} (h : isNumberChar c = true) (cs : List Char) :
    scan [] (c :: cs) = match numberAt (c :: cs) with
      | .ok (l, rest) => .number l :: scan [] rest
      | .error f => [.broken f] := by
  simp only [isNumberChar, Bool.or_eq_true, beq_iff_eq] at h
  rcases h with (((hdigit | rfl) | rfl) | rfl) | rfl
  · have hne : ∀ {d : Char}, d.isDigit = false → c ≠ d := ne_of_isDigit hdigit
    have hblank : isBlank c = false := by simp [isBlank, hne]
    rw [scan, numberAt_of_ne (hne rfl)]
    simp only [hblank, Bool.false_eq_true, if_false, if_true, Char.reduceIsDigit, hne, hdigit]
    split <;> simp_all [scan_eq_append [_]]
  · rw [scan, numberAt]
    simp only [isBlank, Char.reduceBEq, Bool.or_self, Bool.false_eq_true, if_false, if_true, Char.reduceEq]
    split <;> simp_all [scan_eq_append [_]]
  · simp [scan, isBlank, numberAt, scanNumber, scanDigits, bind, Except.bind]
  · simp [scan, isBlank, numberAt, scanNumber, scanDigits, bind, Except.bind]
  · simp [scan, isBlank, numberAt, scanNumber, scanDigits, bind, Except.bind]

/-- Only blanks have no tokens. -/
theorem isBlank_of_scan_eq (acc : List Token) (cs : List Char) :
    scan acc cs = acc.reverse → ∀ c ∈ cs, isBlank c = true := by
  fun_induction scan acc cs
  case case1 => simp
  case case2 hc ih => exact fun h => List.forall_mem_cons.2 ⟨hc, ih h⟩
  all_goals simp [scan_eq_append (_ :: _)]

end Token

namespace Number

open Token

/-! ## Accepted numbers -/

theorem isDigit_of_mem_natChars {n : Nat} : ∀ c ∈ natChars n, c.isDigit = true := fun _ hc =>
  Nat.isDigit_of_mem_toDigits (by decide) (by decide) hc

theorem isNumberChar_of_mem_natChars {n : Nat} {c : Char} (h : c ∈ natChars n) : isNumberChar c = true := by
  simp [isNumberChar, isDigit_of_mem_natChars c h]

theorem isNumberChar_of_mem_decimalChars {d : Nat} {k : Int} {c : Char} (h : c ∈ decimalChars d k) :
    isNumberChar c = true := by
  have hdigits : ∀ c ∈ natChars d, isNumberChar c = true := fun c hc => isNumberChar_of_mem_natChars hc
  rw [decimalChars] at h
  split at h
  · simp only [List.mem_append, List.mem_replicate, List.mem_cons, List.not_mem_nil, or_false] at h
    rcases h with (h | ⟨-, rfl⟩) | rfl | rfl
    · exact hdigits c h
    all_goals rfl
  split at h
  · rcases List.mem_append.1 h with h | h
    · exact hdigits c (List.mem_of_mem_take h)
    rcases List.mem_cons.1 h with rfl | h
    · rfl
    · exact hdigits c (List.mem_of_mem_drop h)
  split at h
  · simp only [List.mem_cons, List.mem_append, List.mem_replicate] at h
    rcases h with rfl | rfl | ⟨-, rfl⟩ | h
    · rfl
    · rfl
    · rfl
    · exact hdigits c h
  · rcases List.mem_append.1 h with h | h
    · split at h
      · cases h
      next hds => exact hdigits c (hds ▸ h)
      next hds =>
        simp only [List.mem_cons] at h
        rcases h with rfl | rfl | h
        · exact hdigits c (hds ▸ List.mem_cons_self ..)
        · rfl
        · exact hdigits c (hds ▸ List.mem_cons_of_mem _ h)
    · simp only [List.mem_cons] at h
      rcases h with rfl | rfl | h
      · rfl
      · split <;> rfl
      · exact isNumberChar_of_mem_natChars h

theorem isNumberChar_of_mem_chars {n : Number} : ∀ c ∈ n.chars, isNumberChar c = true := by
  cases n with
  | int i =>
    rw [chars, intChars]
    split
    · exact List.forall_mem_cons.2 ⟨rfl, fun c hc => isNumberChar_of_mem_natChars hc⟩
    · exact fun c hc => isNumberChar_of_mem_natChars hc
  | float x =>
    rw [chars, floatChars]
    have hmagnitude : ∀ c ∈ (if x.isZero then ['0', '.', '0'] else decimalChars x.shortest.1 x.shortest.2),
        isNumberChar c = true := by
      split
      · exact List.forall_mem_cons.2 ⟨rfl, List.forall_mem_cons.2 ⟨rfl, List.forall_mem_singleton.2 rfl⟩⟩
      · exact fun c hc => isNumberChar_of_mem_decimalChars hc
    cases x.negative with
    | true => exact List.forall_mem_cons.2 ⟨rfl, hmagnitude⟩
    | false => exact hmagnitude

/-- A number whose text can be read as a number, if not as the same. -/
def Accepted (n : Number) : Prop := ∃ m, Json.ofText (Json.number n).compact = .ok (.number m)

/-- The literal that a number's text is. -/
def literal (n : Number) : NumberLiteral :=
  match numberAt n.chars with
  | .ok (l, _) => l
  | .error _ => ⟨false, [], none, none⟩

/-- What a number's text is read as; the number itself if it is refused. -/
def reread (n : Number) : Number := n.literal.value?.getD n

/-- A number alone in its text. -/
theorem ofText_eq_ok {cs : List Char} (hcs : ∀ c ∈ cs, isNumberChar c = true) {v : Json}
    (h : Json.ofText (String.ofList cs) = .ok v) :
    ∃ l bs m, numberAt cs = .ok (l, bs) ∧ (∀ b ∈ bs, isBlank b = true) ∧ l.value? = some m ∧ v = .number m := by
  rw [Json.ofText, Source.parse, Token.ofText, String.toList_ofList, Source.Document.read_eq_ok_iff] at h
  cases cs with
  | nil =>
    rw [scan] at h
    cases h.1
  | cons c cs =>
    rw [scan_numberAt (hcs c (List.mem_cons_self ..))] at h
    cases hnumber : numberAt (c :: cs) with
    | error f =>
      rw [hnumber] at h
      cases h.1
    | ok p =>
      obtain ⟨l, bs⟩ := p
      simp only [hnumber, Source.build, Source.step, Source.startValue, Source.complete] at h
      cases hbs : scan [] bs with
      | cons t ts =>
        rw [hbs] at h
        cases h.2
      | nil =>
        rw [hbs, Source.build, Json.ofSource] at h
        cases hvalue : l.value? with
        | none => 
          simp [hvalue] at h
        | some m =>
          simp only [hvalue, Except.ok.injEq] at h
          exact ⟨l, bs, m, rfl, isBlank_of_scan_eq [] bs hbs, hvalue, h.1.symm⟩

theorem ofText_of_numberAt {cs : List Char} (hcs : ∀ c ∈ cs, isNumberChar c = true) {l : NumberLiteral}
    (hnumber : numberAt cs = .ok (l, [])) {m : Number} (hvalue : l.value? = some m) :
    Json.ofText (String.ofList cs) = .ok (.number m) := by
  cases cs with
  | nil => cases hnumber
  | cons c cs =>
    have htokens : scan [] (c :: cs) = [.number l] := by
      rw [scan_numberAt (hcs c (List.mem_cons_self ..)), hnumber]
      simp only [scan, List.reverse_nil]
    have hsource : Json.ofSource Json.maxDepth (.number l) = .ok (.number m) := by rw [Json.ofSource, hvalue]
    rw [Json.ofText, Source.parse, Token.ofText, String.toList_ofList, htokens, Source.Document.read_eq_ok_iff]
    exact ⟨hsource, rfl⟩

/-- An accepted number is one token wherever it stands. -/
theorem Accepted.scan_chars {n : Number} (h : n.Accepted) {rest : List Char} (hrest : EndsNumber rest) :
    scan [] (n.chars ++ rest) = .number n.literal :: scan [] rest := by
  obtain ⟨_, hm⟩ := h
  obtain ⟨l, bs, m, hnumber, hblank, -, -⟩ := ofText_eq_ok isNumberChar_of_mem_chars hm
  have hliteral : n.literal = l := by rw [literal, hnumber]
  have happend := numberAt_append hnumber hrest
  cases hcs : n.chars with
  | nil =>
    rw [hcs] at hnumber
    cases hnumber
  | cons c cs =>
    have hc : isNumberChar c = true := isNumberChar_of_mem_chars c (hcs ▸ List.mem_cons_self ..)
    rw [hcs, List.cons_append] at happend
    rw [List.cons_append, scan_numberAt hc, happend, hliteral]
    simp only [scan_blanks hblank]

theorem Accepted.value?_literal {n : Number} (h : n.Accepted) : n.literal.value? = some n.reread := by
  obtain ⟨_, hm⟩ := h
  obtain ⟨l, bs, m, hnumber, -, hvalue, -⟩ := ofText_eq_ok isNumberChar_of_mem_chars hm
  rw [reread, literal, hnumber, hvalue]
  rfl

/-! ## Integers -/

theorem digitsValue_natChars (n : Nat) : NumberLiteral.digitsValue ((natChars n).map digitValue) = n := by
  rw [NumberLiteral.digitsValue, List.foldl_map]
  exact Nat.ofDigitChars_ten_toDigits

/-- Only zero starts with a zero. -/
theorem eq_zero_of_head?_natChars {n : Nat} (h : (natChars n).head? = some '0') : n = 0 := by
  induction n using Nat.strong_induction_on with
  | _ n ih =>
    rw [natChars, Nat.toDigits_eq_if (by decide)] at h
    split at h
    · exact Nat.digitChar_eq_zero.1 (Option.some.inj h)
    next hn =>
      rw [List.head?_append_of_ne_nil _ Nat.toDigits_ne_nil] at h
      have hdiv : n / 10 = 0 := ih (n / 10) (by omega) h
      omega

theorem eq_zero_char_of_digitValue {c : Char} (hc : c.isDigit = true) (h : digitValue c = 0) : c = '0' := by
  have hbounds : 48 ≤ c.toNat ∧ c.toNat ≤ 57 := by simpa [Char.isDigit, UInt32.le_iff_toNat_le] using hc
  have hvalue : c.toNat - 48 = 0 := h
  have hc : c.toNat = 48 := by omega
  exact Char.toNat_inj.1 hc

theorem scanDigits_natChars (n : Nat) : scanDigits (natChars n) = .ok ((natChars n).map digitValue, []) := by
  have hdigits : ∀ c ∈ natChars n, c.isDigit = true := isDigit_of_mem_natChars
  have hne : natChars n ≠ [] := Nat.toDigits_ne_nil
  generalize natChars n = cs at hdigits hne
  cases cs with
  | nil => exact absurd rfl hne
  | cons c cs => rw [scanDigits, if_pos (hdigits c (List.mem_cons_self ..)), List.takeWhile_eq_self_iff.2 hdigits,
      List.dropWhile_eq_nil_iff.2 hdigits]

theorem scanNumber_natChars (negative : Bool) (n : Nat) :
    scanNumber negative (natChars n) = .ok (⟨negative, (natChars n).map digitValue, none, none⟩, []) := by
  have hzero : ¬(((natChars n).map digitValue).head? = some 0 ∧ 1 < ((natChars n).map digitValue).length) := by
    rintro ⟨hhead, hlength⟩
    rw [List.head?_map, Option.map_eq_some_iff] at hhead
    obtain ⟨c, hc, hvalue⟩ := hhead
    obtain rfl := eq_zero_char_of_digitValue (isDigit_of_mem_natChars c (List.mem_of_mem_head? hc)) hvalue
    obtain rfl := eq_zero_of_head?_natChars hc
    exact absurd hlength (by decide)
  exact scanNumber_eq_ok_iff.2 ⟨_, [], none, [], none, scanDigits_natChars n, hzero, rfl, rfl, rfl⟩

theorem numberAt_intChars (i : Int) :
    numberAt (intChars i) = .ok (⟨decide (i < 0), (natChars i.natAbs).map digitValue, none, none⟩, []) := by
  rw [intChars]
  split
  next hi => rw [numberAt, scanNumber_natChars, decide_eq_true hi]
  next hi =>
    rw [decide_eq_false hi, ← scanNumber_natChars]
    cases hcs : natChars i.natAbs with
    | nil => rfl
    | cons c cs => exact numberAt_of_ne (ne_of_isDigit (isDigit_of_mem_natChars c (hcs ▸ List.mem_cons_self ..)) rfl) cs

/-- The integers that are stored exactly. -/
def IsInteger (n : Number) : Prop := ∃ i, n = .int i ∧ minInt ≤ i ∧ i ≤ maxInt

theorem value?_literal_int {i : Int} (hmin : minInt ≤ i) (hmax : i ≤ maxInt) :
    (literal (.int i)).value? = some (.int i) := by
  have hliteral : literal (.int i) = ⟨decide (i < 0), (natChars i.natAbs).map digitValue, none, none⟩ := by
    rw [literal, chars, numberAt_intChars]
  simp only [minInt, maxInt, Bounds.minSigned64, Bounds.maxUnsigned64] at hmin hmax
  rw [hliteral, NumberLiteral.value?, digitsValue_natChars]
  by_cases hi : i < 0
  · have hbounds : 0 < i.natAbs ∧ i.natAbs ≤ Bounds.minSigned64 := by
      simp only [Bounds.minSigned64]
      omega
    have hvalue : -(i.natAbs : Int) = i := by omega
    simp only [Option.isNone_none, Bool.and_self, if_true, decide_eq_true hi, if_pos hbounds, hvalue]
  · have hbound : i.natAbs ≤ Bounds.maxUnsigned64 := by
      simp only [Bounds.maxUnsigned64]
      omega
    have hvalue : (i.natAbs : Int) = i := by omega
    simp only [Option.isNone_none, Bool.and_self, if_true, decide_eq_false hi, Bool.false_eq_true, if_false,
      if_pos hbound, hvalue]

theorem IsInteger.accepted {n : Number} (h : n.IsInteger) : n.Accepted := by
  obtain ⟨i, rfl, hmin, hmax⟩ := h
  have hvalue := value?_literal_int hmin hmax
  rw [literal, chars, numberAt_intChars] at hvalue
  have hchars : ∀ c ∈ intChars i, isNumberChar c = true := isNumberChar_of_mem_chars (n := .int i)
  exact ⟨.int i, ofText_of_numberAt hchars (numberAt_intChars i) hvalue⟩

theorem IsInteger.reread {n : Number} (h : n.IsInteger) : n.reread = n := by
  obtain ⟨i, rfl, hmin, hmax⟩ := h
  rw [Number.reread, value?_literal_int hmin hmax]
  rfl

end Number
end GraphCalls
