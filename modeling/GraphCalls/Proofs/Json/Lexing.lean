/-
The tokens of written scalars and punctuation.

Tokens are found one after the other, whatever was found before
(`scan_eq_append`). A string between quotes is one token, with its escapes
undone (`scan_quote`).
-/
import GraphCalls.Json.Printer
import GraphCalls.Json.Source

namespace GraphCalls
namespace Token

/-! ## One token after the other -/

theorem scan_append (before acc : List Token) (cs : List Char) :
    scan (acc ++ before) cs = before.reverse ++ scan acc cs := by
  fun_induction scan acc cs
  case case1 => simp [scan]
  all_goals (rw [scan]; try simp_all)
  -- What is left are the tokens that have scanners of their own.
  all_goals split <;> simp_all

theorem scan_eq_append (acc : List Token) (cs : List Char) : scan acc cs = acc.reverse ++ scan [] cs :=
  scan_append acc [] cs

theorem scan_blanks {bs : List Char} (h : ∀ b ∈ bs, isBlank b = true) (rest : List Char) :
    scan [] (bs ++ rest) = scan [] rest := by
  induction bs with
  | nil => rfl
  | cons b bs ih =>
    obtain ⟨hb, hbs⟩ := List.forall_mem_cons.1 h
    rw [List.cons_append, scan, if_pos hb, ih hbs]

/-- The tokens of one character. -/
def punctuation : List (Char × Token) :=
  [('[', .openArray), (']', .closeArray), ('{', .openObject), ('}', .closeObject), (',', .comma), (':', .colon)]

theorem scan_punctuation {c : Char} {t : Token} (h : (c, t) ∈ punctuation) (rest : List Char) :
    scan [] (c :: rest) = t :: scan [] rest := by
  simp only [punctuation, List.mem_cons, Prod.mk.injEq, List.not_mem_nil, or_false] at h
  rcases h with ⟨rfl, rfl⟩ | ⟨rfl, rfl⟩ | ⟨rfl, rfl⟩ | ⟨rfl, rfl⟩ | ⟨rfl, rfl⟩ | ⟨rfl, rfl⟩ <;>
    (rw [scan]; simp [isBlank, scan_eq_append [_]])

theorem scan_openArray (rest : List Char) : scan [] ('[' :: rest) = .openArray :: scan [] rest :=
  scan_punctuation (by decide) rest

theorem scan_closeArray (rest : List Char) : scan [] (']' :: rest) = .closeArray :: scan [] rest :=
  scan_punctuation (by decide) rest

theorem scan_openObject (rest : List Char) : scan [] ('{' :: rest) = .openObject :: scan [] rest :=
  scan_punctuation (by decide) rest

theorem scan_closeObject (rest : List Char) : scan [] ('}' :: rest) = .closeObject :: scan [] rest :=
  scan_punctuation (by decide) rest

theorem scan_comma (rest : List Char) : scan [] (',' :: rest) = .comma :: scan [] rest :=
  scan_punctuation (by decide) rest

theorem scan_colon (rest : List Char) : scan [] (':' :: rest) = .colon :: scan [] rest :=
  scan_punctuation (by decide) rest

/-- The tokens of fixed words. -/
def words : List (List Char × Token) :=
  [(['n', 'u', 'l', 'l'], .null), (['t', 'r', 'u', 'e'], .bool true), (['f', 'a', 'l', 's', 'e'], .bool false)]

theorem scan_word {cs : List Char} {t : Token} (h : (cs, t) ∈ words) (rest : List Char) :
    scan [] (cs ++ rest) = t :: scan [] rest := by
  simp only [words, List.mem_cons, Prod.mk.injEq, List.not_mem_nil, or_false] at h
  rcases h with ⟨rfl, rfl⟩ | ⟨rfl, rfl⟩ | ⟨rfl, rfl⟩ <;>
    (rw [List.cons_append, scan]; simp [isBlank, scanWord, scan_eq_append [_]])

/-! ## Strings -/

theorem unit?_lowerHex : ∀ n < 0x20, unit? '0' '0' (Digits.lowerHex (n / 16)) (Digits.lowerHex n) = some n := by decide

theorem unitPiece_of_lt {n : Nat} (h : n < 0x20) : unitPiece n = .char (Char.ofNat n) := by
  have hlead : isLeadSurrogate n = false := by simp only [isLeadSurrogate, Bool.and_eq_false_imp]; grind
  have htrail : isTrailSurrogate n = false := by simp only [isTrailSurrogate, Bool.and_eq_false_imp]; grind
  rw [unitPiece, hlead, htrail]
  rfl

theorem scanString_raw {c : Char} (hquote : c ≠ '"') (hbackslash : c ≠ '\\') (hlow : ¬c.toNat < 0x20)
    (acc : StringLiteral) (rest : List Char) : scanString acc (c :: rest) = scanString (.char c :: acc) rest := by
  rw [scanString.eq_def]
  split
  case h_7 heq =>
    obtain ⟨rfl, rfl⟩ := List.cons.inj heq
    rw [if_neg hlow]
  all_goals simp_all

/-- A character is read as it was, escaped or not. -/
theorem scanString_escapeChar (acc : StringLiteral) (c : Char) (rest : List Char) :
    scanString acc (Json.escapeChar c ++ rest) = scanString (.char c :: acc) rest := by
  rw [Json.escapeChar.eq_def]
  split
  case h_8 hquote hbackslash _ _ _ _ _ =>
    split
    next hlow =>
      simp only [List.cons_append, List.nil_append]
      rw [scanString, unit?_lowerHex _ hlow]
      simp only [unitPiece_of_lt hlow, Char.ofNat_toNat]
    next hlow => exact scanString_raw hquote hbackslash hlow acc rest
  all_goals
    simp only [List.cons_append, List.nil_append]
    rw [scanString.eq_def]
    simp [escaped?]

theorem scanString_flatMap (cs rest : List Char) : ∀ acc : StringLiteral,
    scanString acc (cs.flatMap Json.escapeChar ++ '"' :: rest) = (acc.reverse ++ cs.map .char, .ok rest) := by
  induction cs with
  | nil => intro acc; simp [scanString]
  | cons c cs ih =>
    intro acc
    rw [List.flatMap_cons, List.append_assoc, scanString_escapeChar, ih]
    simp

/-- The literal of a string that needs no units. -/
def literalOf (s : String) : StringLiteral := s.toList.map .char

theorem scan_quote (s : String) (rest : List Char) :
    scan [] (Json.quote s ++ rest) = .string (literalOf s) :: scan [] rest := by
  have hscan : scanString [] (s.toList.flatMap Json.escapeChar ++ '"' :: rest) = (literalOf s, .ok rest) :=
    scanString_flatMap s.toList rest []
  rw [Json.quote, List.cons_append, List.append_assoc, List.singleton_append, scan]
  simp only [isBlank, Char.reduceBEq, Bool.or_self, Bool.false_eq_true, if_false, Char.reduceEq, if_true]
  split
  · simp_all [scan_eq_append [_]]
  · simp_all

theorem chars?_map_char : ∀ cs : List Char, StringLiteral.chars? (cs.map .char) = some cs
  | [] => rfl
  | c :: cs => by rw [List.map_cons, StringLiteral.chars?, chars?_map_char cs]; rfl

theorem value?_literalOf (s : String) : (literalOf s).value? = some s := by
  rw [literalOf, StringLiteral.value?, chars?_map_char]
  simp

end Token
end GraphCalls
