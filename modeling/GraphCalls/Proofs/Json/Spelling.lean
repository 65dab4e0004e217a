/-
A text for every value that can be stored.

Tokens that can be spelled at all make a text if each is followed by a blank
(`exists_text_of_spelled`). What a number was read from need not be at hand:
any stored number is also that of some digits with an exponent
(`exists_literal`), so a stored value has a tree that can be spelled, and with
it a text that is read as the value (`exists_ofText_of_ofSource`).
-/
import GraphCalls.Proofs.Json.RoundTrip

namespace GraphCalls

/-! ## Tokens that can be spelled -/

namespace Token

/-- Some characters are read as the token, whatever follows after a blank. -/
def Spelled (t : Token) : Prop := ∃ cs, ∀ rest, scan [] (cs ++ ' ' :: rest) = t :: scan [] rest

variable {t : Token} {cs : List Char}

theorem spelled_of_scan (cs : List Char) (h : ∀ rest, scan [] (cs ++ rest) = t :: scan [] rest) : t.Spelled :=
  ⟨cs, fun rest => by rw [h, Json.scan_space]⟩

theorem spelled_punctuation {c : Char} (h : (c, t) ∈ punctuation) : t.Spelled :=
  spelled_of_scan [c] fun rest => scan_punctuation h rest

theorem spelled_word (cs : List Char) (h : (cs, t) ∈ words) : t.Spelled :=
  spelled_of_scan cs fun rest => scan_word h rest

theorem spelled_string (s : String) : (Token.string (literalOf s)).Spelled :=
  spelled_of_scan _ fun rest => scan_quote s rest

theorem spelled_number {l : NumberLiteral} (hcs : ∀ c ∈ cs, isNumberChar c = true) (h : numberAt cs = .ok (l, [])) :
    (Token.number l).Spelled := by
  refine ⟨cs, fun rest => ?_⟩
  have happend := numberAt_append h (EndsNumber.cons (by decide) rest : EndsNumber (' ' :: rest))
  cases cs with
  | nil => cases h
  | cons c cs =>
    rw [List.cons_append] at happend
    rw [List.cons_append, scan_numberAt (hcs c (List.mem_cons_self ..)), happend]
    exact congrArg (Token.number l :: ·) (Json.scan_space rest)

/-- Tokens that can be spelled are those of a text. -/
theorem exists_text_of_spelled : ∀ {ts : List Token}, (∀ t ∈ ts, t.Spelled) → ∃ text, Token.ofText text = ts
  | [], _ => ⟨"", by rw [Token.ofText, String.toList_empty, scan, List.reverse_nil]⟩
  | t :: ts, h => by
    obtain ⟨⟨cs, hcs⟩, hts⟩ := List.forall_mem_cons.1 h
    obtain ⟨text, rfl⟩ := exists_text_of_spelled hts
    refine ⟨String.ofList (cs ++ ' ' :: text.toList), ?_⟩
    rw [Token.ofText, String.toList_ofList, hcs]
    rfl

end Token

/-! ## Numbers -/

namespace NumberLiteral

open Token

/-- The digits of a natural number. -/
def digits (n : Nat) : List Nat := (Number.natChars n).map digitValue

/-- A whole number times a power of ten. -/
def scientific (negative : Bool) (s : Nat) (e : Int) : NumberLiteral :=
  ⟨negative, digits s, none, some (decide (e < 0), digits e.natAbs)⟩

theorem le_foldl_digits : ∀ (ds : List Nat) (n : Nat), n ≤ ds.foldl (fun n d => 10 * n + d) n
  | [], _ => Nat.le_refl _
  | d :: ds, n => by
    have h := le_foldl_digits ds (10 * n + d)
    rw [List.foldl_cons]
    omega

/-- Digits that make a number of 64 bits are all taken. -/
theorem takeDigits_eq : ∀ (ds : List Nat) (n : Nat), ds.foldl (fun n d => 10 * n + d) n ≤ Bounds.maxUnsigned64 →
    takeDigits n ds = (ds.foldl (fun n d => 10 * n + d) n, [])
  | [], _, _ => rfl
  | d :: ds, n, h => by
    rw [List.foldl_cons] at h ⊢
    have hle := (le_foldl_digits ds (10 * n + d)).trans h
    rw [takeDigits, Nat.mul_comm n 10, if_pos hle, takeDigits_eq ds _ h]

theorem takeDigits_le : ∀ (ds : List Nat) (n : Nat), n ≤ Bounds.maxUnsigned64 →
    (takeDigits n ds).1 ≤ Bounds.maxUnsigned64
  | [], _, h => h
  | d :: ds, n, h => by
    rw [takeDigits]
    split
    next hle => exact takeDigits_le ds _ hle
    · exact h

theorem float?_scientific {s : Nat} (hs : s ≤ Bounds.maxUnsigned64) (negative : Bool) (e : Int) :
    (scientific negative s e).float? =
      ((Binary64.ofRatio false s 1).bind (·.scaleByTen e)).map fun x => if negative then x.neg else x := by
  have htake : takeDigits 0 (digits s) = (s, []) := by
    have hvalue : (digits s).foldl (fun n d => 10 * n + d) 0 = s := Number.digitsValue_natChars s
    rw [takeDigits_eq _ _ (by rwa [hvalue]), hvalue]
  have hexponent : (scientific negative s e).exponentValue = e := by
    have hvalue : digitsValue (digits e.natAbs) = e.natAbs := Number.digitsValue_natChars e.natAbs
    by_cases he : e < 0
    · simp only [scientific, exponentValue, he, decide_true, hvalue]
      omega
    · simp only [scientific, exponentValue, he, decide_false, hvalue]
      omega
  rw [float?, hexponent]
  simp only [scientific, htake, Option.getD_none, takeDigits, List.length_nil]
  rw [show ((0 : Nat) : Int) - (((0 : Nat) : Int) - ((0 : Nat) : Int)) + e = e by omega]
  rfl

theorem numberAt_scientific (negative : Bool) (s : Nat) (e : Int) : ∃ cs, (∀ c ∈ cs, isNumberChar c = true) ∧
    numberAt cs = .ok (scientific negative s e, []) := by
  have hdigit : ∀ {n : Nat}, ∀ c ∈ Number.natChars n, isNumberChar c = true :=
    fun c hc => Number.isNumberChar_of_mem_natChars hc
  have hexponent : scanExponent ('e' :: Number.intChars e) = .ok (some (decide (e < 0), digits e.natAbs), []) := by
    have hsign : scanSign (Number.intChars e) = (decide (e < 0), Number.natChars e.natAbs) := by
      rw [Number.intChars]
      split
      next he => rw [scanSign, decide_eq_true he]
      next he =>
        cases hcs : Number.natChars e.natAbs with
        | nil => rw [scanSign.eq_def, decide_eq_false he]
        | cons c cs =>
          have hc := Number.isDigit_of_mem_natChars c (hcs ▸ List.mem_cons_self ..)
          rw [scanSign.eq_def, decide_eq_false he]
          split
          next heq => exact absurd (List.cons.inj heq).1 (ne_of_isDigit hc rfl)
          next heq => exact absurd (List.cons.inj heq).1 (ne_of_isDigit hc rfl)
          · rfl
    rw [scanExponent, if_pos (.inl rfl), hsign, Number.scanDigits_natChars]
    rfl
  have hnumber : ∀ negative, scanNumber negative (Number.natChars s ++ 'e' :: Number.intChars e) =
      .ok (scientific negative s e, []) := by
    intro negative
    have hwhole := scanNumber_eq_ok_iff.1 (Number.scanNumber_natChars negative s)
    obtain ⟨_, _, _, _, _, hdigits, hzero, -⟩ := hwhole
    cases (Number.scanDigits_natChars s).symm.trans hdigits
    have hstop : ∀ c ∈ ('e' :: Number.intChars e).head?, c.isDigit = false := by simp
    have happend := scanDigits_append_of_stop hdigits hstop
    exact scanNumber_eq_ok_iff.2 ⟨_, _, none, _, _, happend, hzero, rfl, hexponent, rfl⟩
  have hall : ∀ c ∈ Number.natChars s ++ 'e' :: Number.intChars e, isNumberChar c = true := by
    refine List.forall_mem_append.2 ⟨hdigit, List.forall_mem_cons.2 ⟨rfl, ?_⟩⟩
    exact Number.isNumberChar_of_mem_chars (n := .int e)
  cases negative with
  | true =>
    exact ⟨'-' :: (Number.natChars s ++ 'e' :: Number.intChars e), List.forall_mem_cons.2 ⟨rfl, hall⟩, hnumber true⟩
  | false =>
    refine ⟨_, hall, ?_⟩
    cases hcs : Number.natChars s with
    | nil => exact absurd hcs Nat.toDigits_ne_nil
    | cons c cs =>
      have hc := Number.isDigit_of_mem_natChars c (hcs ▸ List.mem_cons_self ..)
      rw [List.cons_append, numberAt_of_ne (ne_of_isDigit hc rfl), ← List.cons_append, ← hcs, hnumber]

/-- A number that is stored has a literal that can be spelled. -/
theorem exists_literal {l : NumberLiteral} {n : Number} (h : l.value? = some n) :
    ∃ l', (Token.number l').Spelled ∧ l'.value? = some n := by
  have hint : ∀ {i : Int}, Number.minInt ≤ i → i ≤ Number.maxInt →
      ∃ l', (Token.number l').Spelled ∧ l'.value? = some (.int i) := by
    intro i hmin hmax
    have hvalue := Number.value?_literal_int hmin hmax
    rw [Number.literal, Number.chars, Number.numberAt_intChars] at hvalue
    exact ⟨_, spelled_number (Number.isNumberChar_of_mem_chars (n := .int i)) (Number.numberAt_intChars i), hvalue⟩
  have hfloat : l.float?.map Number.float = some n → ∃ l', (Token.number l').Spelled ∧ l'.value? = some n := by
    intro h
    have hs : (takeDigits (takeDigits 0 l.whole).1 (l.fraction.getD [])).1 ≤ Bounds.maxUnsigned64 :=
      takeDigits_le _ _ (takeDigits_le _ _ (Nat.zero_le _))
    rw [float?] at h
    obtain ⟨cs, hcs, hnumber⟩ := numberAt_scientific l.negative _ _
    refine ⟨_, spelled_number hcs hnumber, ?_⟩
    rw [value?, if_neg (by simp [scientific]), float?_scientific hs]
    exact h
  simp only [value?] at h
  split at h
  · split at h
    · split at h
      next hn =>
        cases h
        simp only [Bounds.minSigned64] at hn
        refine hint ?_ ?_ <;> simp only [Number.minInt, Number.maxInt, Bounds.minSigned64, Bounds.maxUnsigned64] <;>
          omega
      · exact hfloat h
    · split at h
      next hn =>
        cases h
        simp only [Bounds.maxUnsigned64] at hn
        refine hint ?_ ?_ <;> simp only [Number.minInt, Number.maxInt, Bounds.minSigned64, Bounds.maxUnsigned64] <;>
          omega
      · exact hfloat h
  · exact hfloat h

end NumberLiteral

/-! ## Stored values -/

namespace Json

open Token

/-- A whole tree of which each token can be spelled. -/
def Spellable (s : Source) : Prop := s.Complete ∧ ∀ t ∈ s.tokens, t.Spelled

/-- The items of an array can be spelled, up to its end. -/
def SpellableItems (xs : List Source) : Prop :=
  Source.Complete.items xs ∧ ∀ t ∈ Source.tokens.items xs, t.Spelled

def SpellableMembers (ms : List (StringLiteral × Source)) : Prop :=
  Source.Complete.members ms ∧ ∀ t ∈ Source.tokens.members ms, t.Spelled

theorem spellable_scalar {s : Source} {t : Token} (hs : s.Complete) (ht : s.tokens = [t]) (h : t.Spelled) :
    Spellable s := ⟨hs, by rw [ht]; exact List.forall_mem_singleton.2 h⟩

theorem spellableItems_nil : SpellableItems [] :=
  ⟨trivial, List.forall_mem_singleton.2 (spelled_punctuation (c := ']') (by decide))⟩

theorem spellableItems_cons {x : Source} {xs : List Source} (hx : Spellable x) (hxs : SpellableItems xs) :
    SpellableItems (x :: xs) :=
  ⟨⟨hx.1, hxs.1⟩, List.forall_mem_cons.2
    ⟨spelled_punctuation (c := ',') (by decide), List.forall_mem_append.2 ⟨hx.2, hxs.2⟩⟩⟩

/-- An array starts as it goes on, but for the comma. -/
theorem spellable_array : ∀ {xs : List Source}, SpellableItems xs → Spellable (.array xs none)
  | [], h => ⟨⟨rfl, h.1⟩, List.forall_mem_cons.2 ⟨spelled_punctuation (c := '[') (by decide), h.2⟩⟩
  | _ :: _, h => ⟨⟨rfl, h.1⟩, List.forall_mem_cons.2
      ⟨spelled_punctuation (c := '[') (by decide), (List.forall_mem_cons.1 h.2).2⟩⟩

theorem spellableMembers_nil : SpellableMembers [] :=
  ⟨trivial, List.forall_mem_singleton.2 (spelled_punctuation (c := '\x7d') (by decide))⟩

theorem spellableMembers_cons (name : String) {x : Source} {ms : List (StringLiteral × Source)} (hx : Spellable x)
    (hms : SpellableMembers ms) : SpellableMembers ((literalOf name, x) :: ms) :=
  ⟨⟨hx.1, hms.1⟩, List.forall_mem_cons.2 ⟨spelled_punctuation (c := ',') (by decide), List.forall_mem_cons.2
    ⟨spelled_string name, List.forall_mem_cons.2
      ⟨spelled_punctuation (c := ':') (by decide), List.forall_mem_append.2 ⟨hx.2, hms.2⟩⟩⟩⟩⟩

theorem spellable_object : ∀ {ms : List (StringLiteral × Source)}, SpellableMembers ms → Spellable (.object ms none)
  | [], h => ⟨⟨rfl, h.1⟩, List.forall_mem_cons.2 ⟨spelled_punctuation (c := '\x7b') (by decide), h.2⟩⟩
  | _ :: _, h => ⟨⟨rfl, h.1⟩, List.forall_mem_cons.2
      ⟨spelled_punctuation (c := '\x7b') (by decide), (List.forall_mem_cons.1 h.2).2⟩⟩

/-- What is stored of a tree is stored of one that can be spelled, and no less
if more levels may be opened. -/
theorem exists_spellable : {s : Source} → {d : Nat} → {v : Json} → ofSource d s = .ok v →
    ∃ s', Spellable s' ∧ ∀ d', d ≤ d' → ofSource d' s' = .ok v
  | .null, _, v, h => by
    cases h
    exact ⟨.null, spellable_scalar trivial rfl (spelled_word ['n', 'u', 'l', 'l'] (by decide)), fun _ _ => rfl⟩
  | .bool true, _, v, h => by
    cases h
    exact ⟨.bool true, spellable_scalar trivial rfl (spelled_word ['t', 'r', 'u', 'e'] (by decide)),
      fun _ _ => rfl⟩
  | .bool false, _, v, h => by
    cases h
    exact ⟨.bool false, spellable_scalar trivial rfl (spelled_word ['f', 'a', 'l', 's', 'e'] (by decide)),
      fun _ _ => rfl⟩
  | .number l, _, v, h => by
    rw [ofSource] at h
    split at h
    next n hn =>
      cases h
      obtain ⟨l', hspelled, hvalue⟩ := NumberLiteral.exists_literal hn
      exact ⟨.number l', spellable_scalar trivial rfl hspelled, fun _ _ => by rw [ofSource, hvalue]⟩
    · cases h
  | .string l, _, v, h => by
    rw [ofSource, map_eq_ok_iff] at h
    obtain ⟨s, -, rfl⟩ := h
    refine ⟨.string (literalOf s), spellable_scalar trivial rfl (spelled_string s), fun _ _ => ?_⟩
    rw [ofSource, storedString_literalOf]
    rfl
  | .array _ _, 0, _, h | .object _ _, 0, _, h => by cases h
  | .array xs fault, d + 1, v, h => by
    rw [ofSource, bind_eq_ok_iff] at h
    obtain ⟨vs, hvs, h⟩ := h
    obtain ⟨xs', hspelled, hread⟩ := items hvs
    cases fault with
    | some f => cases h
    | none =>
      cases h
      refine ⟨.array xs' none, spellable_array hspelled, fun d' hd => ?_⟩
      obtain ⟨d', rfl⟩ := Nat.exists_eq_add_of_lt hd
      rw [ofSource, hread _ (Nat.le_add_right d d')]
      rfl
  | .object ms fault, d + 1, v, h => by
    rw [ofSource, bind_eq_ok_iff] at h
    obtain ⟨vs, hvs, h⟩ := h
    obtain ⟨ms', hspelled, hread⟩ := members hvs
    cases fault with
    | some f => cases h
    | none =>
      cases h
      refine ⟨.object ms' none, spellable_object hspelled, fun d' hd => ?_⟩
      obtain ⟨d', rfl⟩ := Nat.exists_eq_add_of_lt hd
      rw [ofSource, hread _ (Nat.le_add_right d d')]
      rfl
  | .broken _, _, _, h => by cases h
where
  items : {xs : List Source} → {d : Nat} → {vs : List Json} → ofSource.items d xs = .ok vs →
      ∃ xs', SpellableItems xs' ∧ ∀ d', d ≤ d' → ofSource.items d' xs' = .ok vs
    | [], _, vs, h => by
      cases h
      exact ⟨[], spellableItems_nil, fun _ _ => rfl⟩
    | x :: xs, d, vs, h => by
      simp only [ofSource.items, bind_eq_ok_iff] at h
      obtain ⟨v, hv, ws, hws, h⟩ := h
      cases h
      obtain ⟨x', hx, hreadx⟩ := exists_spellable hv
      obtain ⟨xs', hxs, hread⟩ := items hws
      refine ⟨x' :: xs', spellableItems_cons hx hxs, fun d' hd => ?_⟩
      rw [ofSource.items, hreadx d' hd, hread d' hd]
      rfl
  members : {ms : List (StringLiteral × Source)} → {d : Nat} → {vs : List (String × Json)} →
      ofSource.members d ms = .ok vs →
      ∃ ms', SpellableMembers ms' ∧ ∀ d', d ≤ d' → ofSource.members d' ms' = .ok vs
    | [], _, vs, h => by
      cases h
      exact ⟨[], spellableMembers_nil, fun _ _ => rfl⟩
    | (k, x) :: ms, d, vs, h => by
      simp only [ofSource.members, bind_eq_ok_iff] at h
      obtain ⟨name, -, v, hv, ws, hws, h⟩ := h
      cases h
      obtain ⟨x', hx, hreadx⟩ := exists_spellable hv
      obtain ⟨ms', hms, hread⟩ := members hws
      refine ⟨(literalOf name, x') :: ms', spellableMembers_cons name hx hms, fun d' hd => ?_⟩
      rw [ofSource.members, storedString_literalOf, hreadx d' hd, hread d' hd]
      rfl

/-- What can be stored has a text that is read as it. -/
theorem exists_ofText_of_ofSource {s : Source} {d : Nat} {v : Json} (h : ofSource d s = .ok v) (hd : d ≤ maxDepth) :
    ∃ text, ofText text = .ok v := by
  obtain ⟨s', ⟨hcomplete, hspelled⟩, hread⟩ := exists_spellable h
  obtain ⟨text, htext⟩ := exists_text_of_spelled hspelled
  refine ⟨text, ?_⟩
  rw [ofText, Source.parse_of_tokens hcomplete htext]
  exact Source.Document.read_eq_ok_iff.2 ⟨hread maxDepth hd, rfl⟩

end Json
end GraphCalls
