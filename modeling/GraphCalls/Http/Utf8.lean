/-
UTF-8 text of bytes.

Where the bytes are no UTF-8, each longest start of a character, and each byte
that starts none, comes out as one replacement character. A mark at the start
does not count. Text comes out as it was encoded (`text_encode`).
-/
namespace GraphCalls
namespace Utf8

/-- A character that was begun: its bits so far, the bounds of the next byte,
and how many are to come after that. -/
structure Begun where
  bits : Nat
  low : Nat
  high : Nat
  more : Nat

/-- What stands for bytes that are no character. -/
def replacement : Char := '\ufffd'

/-- What a byte starts: a character that is whole, or one that goes on. -/
def start (b : Nat) : List Char × Option Begun :=
  if b < 0x80 then ([Char.ofNat b], none)
  else if 0xC2 ≤ b ∧ b < 0xE0 then ([], some ⟨b - 0xC0, 0x80, 0xBF, 0⟩)
  else if 0xE0 ≤ b ∧ b < 0xF0 then
    -- No character is written longer than it has to be, and none is a surrogate.
    ([], some ⟨b - 0xE0, if b = 0xE0 then 0xA0 else 0x80, if b = 0xED then 0x9F else 0xBF, 1⟩)
  else if 0xF0 ≤ b ∧ b < 0xF5 then
    ([], some ⟨b - 0xF0, if b = 0xF0 then 0x90 else 0x80, if b = 0xF4 then 0x8F else 0xBF, 2⟩)
  else ([replacement], none)

/-- One byte. A byte that does not go on with a character starts another one. -/
def step : Option Begun → Nat → List Char × Option Begun
  | none, b => start b
  | some p, b =>
    if p.low ≤ b ∧ b ≤ p.high then
      let bits := p.bits * 64 + b % 64
      match p.more with
      | 0 => ([Char.ofNat bits], none)
      | more + 1 => ([], some ⟨bits, 0x80, 0xBF, more⟩)
    else (replacement :: (start b).1, (start b).2)

/-- The characters of bytes, after those of `acc`, which are in reverse, and what
was begun. -/
def decode (acc : List Char) : Option Begun → List UInt8 → List Char
  | none, [] => acc.reverse
  | some _, [] => (replacement :: acc).reverse
  | p, b :: bytes => decode ((step p b.toNat).1.reverseAux acc) (step p b.toNat).2 bytes

/-- The mark that may stand before a text. -/
def mark : List UInt8 := [0xEF, 0xBB, 0xBF]

/-- The text of bytes, without a mark. -/
def text (bytes : List UInt8) : String :=
  String.ofList (decode [] none (if mark.isPrefixOf bytes then bytes.drop mark.length else bytes))

/-! ## First bytes -/

theorem start_one {n : Nat} (h : n < 0x80) : start n = ([Char.ofNat n], none) := by rw [start, if_pos h]

theorem start_two {n : Nat} (h : 2 ≤ n) (h' : n < 0x20) : start (n + 0xC0) = ([], some ⟨n, 0x80, 0xBF, 0⟩) := by
  simp (disch := omega) only [start, if_neg, if_pos, Nat.add_sub_cancel]

theorem start_three {n : Nat} (h : n < 0x10) : start (n + 0xE0) =
    ([], some ⟨n, if n = 0 then 0xA0 else 0x80, if n = 0xD then 0x9F else 0xBF, 1⟩) := by
  have hfirst : n + 0xE0 = 0xE0 ↔ n = 0 := by omega
  have hlast : n + 0xE0 = 0xED ↔ n = 0xD := by omega
  rw [start, if_neg (by omega), if_neg (by omega), if_pos (by omega), Nat.add_sub_cancel]
  simp only [hfirst, hlast]

theorem start_four {n : Nat} (h : n < 5) : start (n + 0xF0) =
    ([], some ⟨n, if n = 0 then 0x90 else 0x80, if n = 4 then 0x8F else 0xBF, 2⟩) := by
  have hfirst : n + 0xF0 = 0xF0 ↔ n = 0 := by omega
  have hlast : n + 0xF0 = 0xF4 ↔ n = 4 := by omega
  rw [start, if_neg (by omega), if_neg (by omega), if_neg (by omega), if_pos (by omega), Nat.add_sub_cancel]
  simp only [hfirst, hlast]

/-! ## Characters -/

variable {acc : List Char}

theorem decode_cons (p : Option Begun) (b : UInt8) (bytes : List UInt8) :
    decode acc p (b :: bytes) = decode ((step p b.toNat).1.reverseAux acc) (step p b.toNat).2 bytes := by
  cases p <;> rfl

theorem decode_first {b : Nat} (hb : b < 256) (bytes : List UInt8) :
    decode acc none (UInt8.ofNat b :: bytes) = decode ((start b).1.reverseAux acc) (start b).2 bytes := by
  rw [decode_cons, UInt8.toNat_ofNat', Nat.mod_eq_of_lt hb, step]

/-- A byte within the bounds ends a character that has no other to come. -/
theorem decode_last {bits low high b : Nat} (hb : b < 256) (h : low ≤ b ∧ b ≤ high) (bytes : List UInt8) :
    decode acc (some ⟨bits, low, high, 0⟩) (UInt8.ofNat b :: bytes) =
      decode (Char.ofNat (bits * 64 + b % 64) :: acc) none bytes := by
  rw [decode_cons, UInt8.toNat_ofNat', Nat.mod_eq_of_lt hb, step, if_pos h]
  rfl

theorem decode_more {bits low high more b : Nat} (hb : b < 256) (h : low ≤ b ∧ b ≤ high) (bytes : List UInt8) :
    decode acc (some ⟨bits, low, high, more + 1⟩) (UInt8.ofNat b :: bytes) =
      decode acc (some ⟨bits * 64 + b % 64, 0x80, 0xBF, more⟩) bytes := by
  rw [decode_cons, UInt8.toNat_ofNat', Nat.mod_eq_of_lt hb, step, if_pos h]
  rfl

/-- A character is decoded as it was encoded. -/
theorem decode_encodeChar (c : Char) (bytes : List UInt8) :
    decode acc none (String.utf8EncodeChar c ++ bytes) = decode (c :: acc) none bytes := by
  have hvalid : c.toNat < 0xD800 ∨ 0xDFFF < c.toNat ∧ c.toNat < 0x110000 := c.valid
  have hc : ∀ n, n = c.toNat → Char.ofNat n = c := fun n hn => hn ▸ c.ofNat_toNat
  simp only [String.utf8EncodeChar, Char.toNat_val]
  generalize c.toNat = v at hvalid hc
  split
  · rw [List.singleton_append, decode_first (by omega), start_one (by omega), hc v rfl]
    rfl
  split
  · rw [List.cons_append, List.singleton_append, decode_first (by omega), start_two (by omega) (by omega),
      List.reverseAux_nil, decode_last (by omega) (by omega), hc _ (by omega)]
  split
  · rw [List.cons_append, List.cons_append, List.singleton_append, decode_first (by omega), start_three (by omega),
      List.reverseAux_nil, decode_more (by omega) ?_, decode_last (by omega) (by omega), hc _ (by omega)]
    split <;> split <;> omega
  · rw [List.cons_append, List.cons_append, List.cons_append, List.singleton_append, decode_first (by omega),
      start_four (by omega), List.reverseAux_nil, decode_more (by omega) ?_, decode_more (by omega) (by omega),
      decode_last (by omega) (by omega), hc _ (by omega)]
    split <;> split <;> omega

/-- Text is decoded as it was encoded. -/
theorem decode_encode (cs : List Char) : decode acc none (cs.flatMap String.utf8EncodeChar) = acc.reverse ++ cs := by
  induction cs generalizing acc with
  | nil => rw [List.flatMap_nil, decode, List.append_nil]
  | cons c cs ih => rw [List.flatMap_cons, decode_encodeChar, ih, List.reverse_cons, List.append_assoc, List.singleton_append]

theorem reverse_isPrefix_decode (acc : List Char) (p : Option Begun) (bytes : List UInt8) :
    acc.reverse <+: decode acc p bytes := by
  induction bytes generalizing acc p with
  | nil =>
    cases p with
    | none => exact List.prefix_rfl
    | some p =>
      rw [decode, List.reverse_cons]
      exact List.prefix_append ..
  | cons b bytes ih =>
    have hstep := ih ((step p b.toNat).1.reverseAux acc) (step p b.toNat).2
    rw [List.reverseAux_eq, List.reverse_append, List.reverse_reverse] at hstep
    rw [decode_cons, List.reverseAux_eq]
    exact (List.prefix_append ..).trans hstep

/-- The text of encoded characters is made of them, but for a mark. -/
theorem text_encode (cs : List Char) : text (cs.flatMap String.utf8EncodeChar) =
    String.ofList (if cs.head? = some '\ufeff' then cs.tail else cs) := by
  have hmark : mark = String.utf8EncodeChar '\ufeff' := by decide
  rw [text]
  by_cases hcs : cs.head? = some '\ufeff'
  · obtain ⟨rest, rfl⟩ := List.head?_eq_some_iff.1 hcs
    rw [List.flatMap_cons, ← hmark, if_pos (List.isPrefixOf_iff_prefix.2 (List.prefix_append ..)), List.drop_left,
      decode_encode, if_pos hcs]
    rfl
  · -- Bytes that start with the mark would be decoded to its character first.
    have hprefix : ¬ mark.isPrefixOf (cs.flatMap String.utf8EncodeChar) = true := by
      intro hprefix
      obtain ⟨rest, hrest⟩ := List.isPrefixOf_iff_prefix.1 hprefix
      have hdecode : decode ['\ufeff'] none rest = cs := by
        rw [← decode_encodeChar, ← hmark, hrest, decode_encode]
        rfl
      obtain ⟨more, hmore⟩ := reverse_isPrefix_decode ['\ufeff'] none rest
      exact hcs (by rw [← hdecode, ← hmore]; rfl)
    rw [if_neg hprefix, decode_encode, if_neg hcs]
    rfl

/-- A start of a character that is broken off is replaced as one. -/
example : text [0xE2, 0x82, 0x41, 0xFF, 0xF0, 0x9F] = "\ufffdA\ufffd\ufffd" := by decide

end Utf8
end GraphCalls
