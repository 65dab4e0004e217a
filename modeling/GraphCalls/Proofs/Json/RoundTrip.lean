/-
Values, written and read again.

The compact and the indented text of a value have the same tokens
(`tokens_compact`, `tokens_indented`), and those are the tokens of one tree
(`parse_of_tokens`). What is stored of the tree is the value itself, but for the
order of its members and for numbers that are not read as themselves
(`ofSource_source`).
-/
import GraphCalls.Proofs.Json.Numerals
import GraphCalls.Proofs.Json.Tree

namespace GraphCalls
namespace Json

/-- The numbers in a value. -/
def numbers : Json → List Number
  | .number n => [n]
  | .array xs => items xs
  | .object ms => members ms
  | _ => []
where
  items : List Json → List Number
    | [] => []
    | x :: xs => numbers x ++ items xs
  members : List (String × Json) → List Number
    | [] => []
    | (_, x) :: ms => numbers x ++ members ms

theorem forall_mem_numbers_members {p : Number → Prop} : ∀ {ms : List (String × Json)},
    (∀ n ∈ numbers.members ms, p n) ↔ ∀ m ∈ ms, ∀ n ∈ m.2.numbers, p n
  | [] => by simp [numbers.members]
  | m :: ms => by rw [numbers.members, List.forall_mem_append, List.forall_mem_cons, forall_mem_numbers_members]

/-- Changes the numbers in a value. -/
def mapNumbers (f : Number → Number) : Json → Json
  | .number n => .number (f n)
  | .array xs => .array (items xs)
  | .object ms => .object (members ms)
  | v => v
where
  items : List Json → List Json
    | [] => []
    | x :: xs => mapNumbers f x :: items xs
  members : List (String × Json) → List (String × Json)
    | [] => []
    | (k, x) :: ms => (k, mapNumbers f x) :: members ms

/-- A value with its numbers as they are read back. -/
def reread (v : Json) : Json := v.mapNumbers Number.reread

/-- The tokens of a value's text. -/
def tokens : Json → List Token
  | .null => [.null]
  | .bool b => [.bool b]
  | .number n => [.number n.literal]
  | .string s => [.string (Token.literalOf s)]
  | .array [] => [.openArray, .closeArray]
  | .array (x :: xs) => .openArray :: (tokens x ++ items xs)
  | .object [] => [.openObject, .closeObject]
  | .object ((k, v) :: ms) => .openObject :: .string (Token.literalOf k) :: .colon :: (tokens v ++ members ms)
where
  items : List Json → List Token
    | [] => [.closeArray]
    | x :: xs => .comma :: (tokens x ++ items xs)
  members : List (String × Json) → List Token
    | [] => [.closeObject]
    | (k, v) :: ms => .comma :: .string (Token.literalOf k) :: .colon :: (tokens v ++ members ms)

/-- The tree of a value's text. -/
def source : Json → Source
  | .null => .null
  | .bool b => .bool b
  | .number n => .number n.literal
  | .string s => .string (Token.literalOf s)
  | .array xs => .array (items xs) none
  | .object ms => .object (members ms) none
where
  items : List Json → List Source
    | [] => []
    | x :: xs => source x :: items xs
  members : List (String × Json) → List (StringLiteral × Source)
    | [] => []
    | (k, x) :: ms => (Token.literalOf k, source x) :: members ms

/-! ## From texts to tokens -/

section
open Token

theorem endsNumber_items (xs : List Json) (rest : List Char) : EndsNumber (chars.items xs ++ rest) := by
  cases xs <;> exact EndsNumber.cons (by decide) _

theorem endsNumber_members (ms : List (String × Json)) (rest : List Char) : EndsNumber (chars.members ms ++ rest) := by
  cases ms <;> exact EndsNumber.cons (by decide) _

theorem scan_chars : {v : Json} → {rest : List Char} → (∀ n ∈ v.numbers, n.Accepted) → EndsNumber rest →
    scan [] (v.chars ++ rest) = v.tokens ++ scan [] rest
  | .null, rest, _, _ => scan_word (by decide) rest
  | .bool true, rest, _, _ => scan_word (by decide) rest
  | .bool false, rest, _, _ => scan_word (by decide) rest
  | .number n, rest, h, hrest => (h n (List.mem_singleton_self n)).scan_chars hrest
  | .string s, rest, _, _ => scan_quote s rest
  | .array [], rest, _, _ => by
    simp only [chars, tokens, List.cons_append, List.nil_append, scan_openArray, scan_closeArray]
  | .array (x :: xs), rest, h, _ => by
    obtain ⟨hx, hxs⟩ := List.forall_mem_append.1 h
    simp only [chars, tokens, List.cons_append, List.append_assoc, scan_openArray]
    rw [scan_chars hx (endsNumber_items xs rest), items hxs]
  | .object [], rest, _, _ => by
    simp only [chars, tokens, List.cons_append, List.nil_append, scan_openObject, scan_closeObject]
  | .object ((k, v) :: ms), rest, h, _ => by
    obtain ⟨hv, hms⟩ := List.forall_mem_append.1 h
    simp only [chars, tokens, List.cons_append, List.append_assoc, scan_openObject, scan_quote, scan_colon]
    rw [scan_chars hv (endsNumber_members ms rest), members hms]
where
  items : {xs : List Json} → {rest : List Char} → (∀ n ∈ numbers.items xs, n.Accepted) →
      scan [] (chars.items xs ++ rest) = tokens.items xs ++ scan [] rest
    | [], rest, _ => scan_closeArray rest
    | x :: xs, rest, h => by
      obtain ⟨hx, hxs⟩ := List.forall_mem_append.1 h
      simp only [chars.items, tokens.items, List.cons_append, List.append_assoc, scan_comma]
      rw [scan_chars hx (endsNumber_items xs rest), items hxs]
  members : {ms : List (String × Json)} → {rest : List Char} → (∀ n ∈ numbers.members ms, n.Accepted) →
      scan [] (chars.members ms ++ rest) = tokens.members ms ++ scan [] rest
    | [], rest, _ => scan_closeObject rest
    | (k, v) :: ms, rest, h => by
      obtain ⟨hv, hms⟩ := List.forall_mem_append.1 h
      simp only [chars.members, tokens.members, List.cons_append, List.append_assoc, scan_comma, scan_quote, scan_colon]
      rw [scan_chars hv (endsNumber_members ms rest), members hms]

theorem scan_newline (level : Nat) (rest : List Char) : scan [] (newline level ++ rest) = scan [] rest := by
  refine scan_blanks (List.forall_mem_cons.2 ⟨rfl, fun b hb => ?_⟩) rest
  rw [List.eq_of_mem_replicate hb]
  rfl

theorem scan_space (rest : List Char) : scan [] (' ' :: rest) = scan [] rest :=
  scan_blanks (List.forall_mem_singleton.2 rfl) rest

theorem endsNumber_indentedItems (level : Nat) (xs : List Json) (rest : List Char) :
    EndsNumber (indentedChars.items level xs ++ rest) := by
  cases xs <;> exact EndsNumber.cons (by decide) _

theorem endsNumber_indentedMembers (level : Nat) (ms : List (String × Json)) (rest : List Char) :
    EndsNumber (indentedChars.members level ms ++ rest) := by
  cases ms <;> exact EndsNumber.cons (by decide) _

/-- The lines and blanks of the indented text make no tokens. -/
theorem scan_indentedChars : {v : Json} → {level : Nat} → {rest : List Char} → (∀ n ∈ v.numbers, n.Accepted) →
    EndsNumber rest → scan [] (v.indentedChars level ++ rest) = v.tokens ++ scan [] rest
  | .null, _, _, h, hrest => scan_chars (v := .null) h hrest
  | .bool true, _, _, h, hrest => scan_chars (v := .bool true) h hrest
  | .bool false, _, _, h, hrest => scan_chars (v := .bool false) h hrest
  | .number n, _, _, h, hrest => scan_chars (v := .number n) h hrest
  | .string s, _, _, h, hrest => scan_chars (v := .string s) h hrest
  | .array [], _, rest, _, _ => by
    simp only [indentedChars, tokens, List.cons_append, List.nil_append, scan_openArray, scan_closeArray]
  | .array (x :: xs), level, rest, h, _ => by
    obtain ⟨hx, hxs⟩ := List.forall_mem_append.1 h
    simp only [indentedChars, tokens, List.cons_append, List.append_assoc, scan_openArray, scan_newline]
    rw [scan_indentedChars hx (endsNumber_indentedItems level xs rest), items hxs]
  | .object [], _, rest, _, _ => by
    simp only [indentedChars, tokens, List.cons_append, List.nil_append, scan_openObject, scan_closeObject]
  | .object ((k, v) :: ms), level, rest, h, _ => by
    obtain ⟨hv, hms⟩ := List.forall_mem_append.1 h
    simp only [indentedChars, tokens, List.cons_append, List.append_assoc, scan_openObject, scan_newline, scan_quote,
      scan_colon, scan_space]
    rw [scan_indentedChars hv (endsNumber_indentedMembers level ms rest), members hms]
where
  items : {xs : List Json} → {level : Nat} → {rest : List Char} → (∀ n ∈ numbers.items xs, n.Accepted) →
      scan [] (indentedChars.items level xs ++ rest) = tokens.items xs ++ scan [] rest
    | [], level, rest, _ => by
      simp only [indentedChars.items, tokens.items, List.cons_append, List.nil_append, List.append_assoc, scan_newline,
        scan_closeArray]
    | x :: xs, level, rest, h => by
      obtain ⟨hx, hxs⟩ := List.forall_mem_append.1 h
      simp only [indentedChars.items, tokens.items, List.cons_append, List.append_assoc, scan_comma, scan_newline]
      rw [scan_indentedChars hx (endsNumber_indentedItems level xs rest), items hxs]
  members : {ms : List (String × Json)} → {level : Nat} → {rest : List Char} →
      (∀ n ∈ numbers.members ms, n.Accepted) →
      scan [] (indentedChars.members level ms ++ rest) = tokens.members ms ++ scan [] rest
    | [], level, rest, _ => by
      simp only [indentedChars.members, tokens.members, List.cons_append, List.nil_append, List.append_assoc,
        scan_newline, scan_closeObject]
    | (k, v) :: ms, level, rest, h => by
      obtain ⟨hv, hms⟩ := List.forall_mem_append.1 h
      simp only [indentedChars.members, tokens.members, List.cons_append, List.append_assoc, scan_comma, scan_newline,
        scan_quote, scan_colon, scan_space]
      rw [scan_indentedChars hv (endsNumber_indentedMembers level ms rest), members hms]

theorem tokens_compact {v : Json} (h : ∀ n ∈ v.numbers, n.Accepted) : Token.ofText v.compact = v.tokens := by
  have hscan := scan_chars h EndsNumber.nil
  rw [List.append_nil, scan, List.reverse_nil, List.append_nil] at hscan
  rwa [Token.ofText, compact, String.toList_ofList]

theorem tokens_indented {v : Json} (h : ∀ n ∈ v.numbers, n.Accepted) : Token.ofText v.indented = v.tokens := by
  have hscan : scan [] (v.indentedChars 0 ++ []) = v.tokens ++ scan [] [] := scan_indentedChars h EndsNumber.nil
  rw [List.append_nil, scan, List.reverse_nil, List.append_nil] at hscan
  rwa [Token.ofText, indented, String.toList_ofList]

end

/-! ## From tokens to trees -/

theorem complete_source : (v : Json) → v.source.Complete
  | .null | .bool _ | .number _ | .string _ => trivial
  | .array xs => ⟨rfl, items xs⟩
  | .object ms => ⟨rfl, members ms⟩
where
  items : (xs : List Json) → Source.Complete.items (source.items xs)
    | [] => trivial
    | x :: xs => ⟨complete_source x, items xs⟩
  members : (ms : List (String × Json)) → Source.Complete.members (source.members ms)
    | [] => trivial
    | (_, x) :: ms => ⟨complete_source x, members ms⟩

theorem tokens_source : (v : Json) → v.source.tokens = v.tokens
  | .null | .bool _ | .number _ | .string _ | .array [] | .object [] => rfl
  | .array (x :: xs) => by
    rw [source, source.items, Source.tokens, tokens, tokens_source x, items xs]
  | .object ((k, x) :: ms) => by
    rw [source, source.members, Source.tokens, tokens, tokens_source x, members ms]
where
  items : (xs : List Json) → Source.tokens.items (source.items xs) = tokens.items xs
    | [] => rfl
    | x :: xs => by
      rw [source.items, Source.tokens.items, tokens.items, tokens_source x, items xs]
  members : (ms : List (String × Json)) → Source.tokens.members (source.members ms) = tokens.members ms
    | [] => rfl
    | (k, x) :: ms => by
      rw [source.members, Source.tokens.members, tokens.members, tokens_source x, members ms]

theorem parse_of_tokens {text : String} {v : Json} (h : Token.ofText text = v.tokens) :
    Source.parse text = ⟨v.source, false⟩ :=
  Source.parse_of_tokens v.complete_source (h.trans v.tokens_source.symm)

/-! ## From trees to values -/

theorem storedString_literalOf (s : String) : storedString (Token.literalOf s) = .ok s := by
  rw [storedString, Token.value?_literalOf]

/-- The tree of a value stores the value, put in order and with its numbers as
they are read back. -/
theorem ofSource_source : {v : Json} → {d : Nat} → (∀ n ∈ v.numbers, n.Accepted) → v.depth ≤ d →
    ofSource d v.source = .ok v.reread.sorted
  | .null, _, _, _ | .bool _, _, _, _ => rfl
  | .number n, _, h, _ => by
    rw [source, ofSource, (h n (List.mem_singleton_self n)).value?_literal]
    rfl
  | .string s, _, _, _ => by
    rw [source, ofSource, storedString_literalOf]
    rfl
  | .array _, 0, _, hd | .object _, 0, _, hd => absurd hd (Nat.not_succ_le_zero _)
  | .array xs, d + 1, h, hd => by
    rw [source, ofSource, items h (Nat.le_of_succ_le_succ hd)]
    rfl
  | .object ms, d + 1, h, hd => by
    rw [source, ofSource, members h (Nat.le_of_succ_le_succ hd)]
    rfl
where
  items : {xs : List Json} → {d : Nat} → (∀ n ∈ numbers.items xs, n.Accepted) → depth.items xs ≤ d →
      ofSource.items d (source.items xs) = .ok (sorted.items (mapNumbers.items Number.reread xs))
    | [], _, _, _ => rfl
    | x :: xs, d, h, hd => by
      obtain ⟨hx, hxs⟩ := List.forall_mem_append.1 h
      obtain ⟨hdx, hdxs⟩ := Nat.max_le.1 hd
      rw [source.items, ofSource.items, ofSource_source hx hdx, items hxs hdxs]
      rfl
  members : {ms : List (String × Json)} → {d : Nat} → (∀ n ∈ numbers.members ms, n.Accepted) →
      depth.members ms ≤ d →
      ofSource.members d (source.members ms) = .ok (sorted.members (mapNumbers.members Number.reread ms))
    | [], _, _, _ => rfl
    | (k, v) :: ms, d, h, hd => by
      obtain ⟨hv, hms⟩ := List.forall_mem_append.1 h
      obtain ⟨hdv, hdms⟩ := Nat.max_le.1 hd
      rw [source.members, ofSource.members, storedString_literalOf, ofSource_source hv hdv, members hms hdms]
      rfl

theorem reread_of_isInteger : {v : Json} → (∀ n ∈ v.numbers, n.IsInteger) → v.reread = v
  | .null, _ | .bool _, _ | .string _, _ => rfl
  | .number n, h => congrArg Json.number (h n (List.mem_singleton_self n)).reread
  | .array _, h => congrArg Json.array (items h)
  | .object _, h => congrArg Json.object (members h)
where
  items : {xs : List Json} → (∀ n ∈ numbers.items xs, n.IsInteger) → mapNumbers.items Number.reread xs = xs
    | [], _ => rfl
    | _ :: _, h => by
      obtain ⟨hx, hxs⟩ := List.forall_mem_append.1 h
      exact congrArg₂ List.cons (reread_of_isInteger hx) (items hxs)
  members : {ms : List (String × Json)} → (∀ n ∈ numbers.members ms, n.IsInteger) →
      mapNumbers.members Number.reread ms = ms
    | [], _ => rfl
    | (k, _) :: _, h => by
      obtain ⟨hx, hxs⟩ := List.forall_mem_append.1 h
      exact congrArg₂ List.cons (congrArg (Prod.mk k) (reread_of_isInteger hx)) (members hxs)

theorem map_fst_mapNumbers (f : Number → Number) : ∀ ms : List (String × Json),
    (mapNumbers.members f ms).map Prod.fst = ms.map Prod.fst
  | [] => rfl
  | m :: ms => congrArg (List.cons m.1) (map_fst_mapNumbers f ms)

theorem sorted_mapNumbers (f : Number → Number) : {v : Json} → v.Sorted → (v.mapNumbers f).Sorted
  | .null, _ | .bool _, _ | .number _, _ | .string _, _ => trivial
  | .array _, h => items h
  | .object ms, h => ⟨(map_fst_mapNumbers f ms).symm ▸ h.1, members h.2⟩
where
  items : {xs : List Json} → Sorted.items xs → Sorted.items (mapNumbers.items f xs)
    | [], _ => trivial
    | _ :: _, h => ⟨sorted_mapNumbers f h.1, items h.2⟩
  members : {ms : List (String × Json)} → Sorted.members ms → Sorted.members (mapNumbers.members f ms)
    | [], _ => trivial
    | _ :: _, h => ⟨sorted_mapNumbers f h.1, members h.2⟩

/-! ## Texts read again -/

theorem read_of_tokens {text : String} {v : Json} (htext : Token.ofText text = v.tokens)
    (h : ∀ n ∈ v.numbers, n.Accepted) {d : Nat} (hd : v.depth ≤ d) :
    (Source.parse text).read (ofSource d) = .ok v.reread.sorted := by
  rw [parse_of_tokens htext, Source.Document.read_eq_ok_iff]
  exact ⟨ofSource_source h hd, rfl⟩

/-- A value that is stored comes back from any text with its tokens. -/
theorem ofText_of_tokens {text : String} {v : Json} (htext : Token.ofText text = v.tokens) (hv : v.Fits maxDepth)
    (h : ∀ n ∈ v.numbers, n.Accepted) : ofText text = .ok v.reread := by
  have hsorted : v.reread.Sorted := sorted_mapNumbers Number.reread hv.1
  rw [ofText, read_of_tokens htext h hv.2, sorted_of_sorted hsorted]

theorem ofText_indented {v : Json} (hv : v.Fits maxDepth) (h : ∀ n ∈ v.numbers, n.Accepted) :
    ofText v.indented = .ok v.reread := ofText_of_tokens (tokens_indented h) hv h

/-- A value whose numbers are integers comes back unchanged. -/
theorem ofText_compact {v : Json} (hv : v.Fits maxDepth) (h : ∀ n ∈ v.numbers, n.IsInteger) :
    ofText v.compact = .ok v := by
  have haccepted : ∀ n ∈ v.numbers, n.Accepted := fun n hn => (h n hn).accepted
  rw [ofText_of_tokens (tokens_compact haccepted) hv haccepted, reread_of_isInteger h]

end Json
end GraphCalls
