/-
The words that arguments are given by.

A word is cut at its first equals sign, and only what stands before the sign
can be at fault. The text after it is free: JSON is read as what it holds, so
a value that was printed comes back whatever is in it, equals signs and quotes
included, and text that is not JSON stands for itself (`argument_reads_back`).
-/
import GraphCalls.Proofs.Command.ResolvedConfig
import GraphCalls.Proofs.Json.RoundTrip

namespace GraphCalls
namespace Pair

variable {name word : String} {e : CommandError}

/-! ## Where a word is cut -/

theorem split?_of_not_mem (h : '=' ∉ word.toList) : split? word = none := by
  cases hsplit : split? word with
  | none => rfl
  | some given =>
    obtain ⟨hword, -⟩ := of_split?_eq_some hsplit
    exact absurd (by simp [hword]) h

/-- A word has no equals sign, or splits at its first one. -/
theorem not_mem_or_split (word : String) :
    '=' ∉ word.toList ∨ ∃ name text, word = name ++ "=" ++ text ∧ '=' ∉ name.toList := by
  by_cases h : '=' ∈ word.toList
  · obtain ⟨before, after, hword, hbefore⟩ := List.eq_append_cons_of_mem h
    refine .inr ⟨String.ofList before, String.ofList after, ?_, by simpa using hbefore⟩
    rw [← String.toList_inj, hword]
    simp
  · exact .inl h

/-- A word starts with the sign exactly if the name before it is empty. -/
theorem head?_eq_sign_iff (text : String) (hname : '=' ∉ name.toList) :
    (name ++ "=" ++ text).toList.head? = some '=' ↔ name = "" := by
  have hword : (name ++ "=" ++ text).toList = name.toList ++ '=' :: text.toList := by simp
  rw [hword, ← String.toList_eq_nil_iff]
  cases hcs : name.toList with
  | nil => simp
  | cons c cs =>
    have hc : c ≠ '=' := fun heq => hname (hcs ▸ heq ▸ List.mem_cons_self ..)
    simp [hc]

/-! ## What a word gives -/

theorem parse_of_not_mem (h : '=' ∉ word.toList) : parse word = .error (.unpaired word) := by
  rw [parse, split?_of_not_mem h]

theorem parse_unnamed (text : String) : parse ("" ++ "=" ++ text) = .error (.unnamed ("" ++ "=" ++ text)) := by
  rw [parse, split?_append text (by decide)]
  rfl

theorem argument_append (text : String) (hne : name ≠ "") (hname : '=' ∉ name.toList) :
    argument (name ++ "=" ++ text) = .ok (name, valueOf text) := by
  rw [argument, parse_append text hne hname]
  rfl

theorem argument_of_parse_eq_error (h : parse word = .error e) : argument word = .error e := by
  rw [argument, h]
  rfl

/-- A word is at fault if it has no equals sign, or nothing before the first. -/
theorem argument_eq_error_iff : argument word = .error e ↔
    '=' ∉ word.toList ∧ e = .unpaired word ∨ word.toList.head? = some '=' ∧ e = .unnamed word := by
  rcases not_mem_or_split word with hnone | ⟨name, text, rfl, hname⟩
  · have hhead : word.toList.head? ≠ some '=' := fun h => hnone (List.mem_of_mem_head? h)
    rw [argument_of_parse_eq_error (parse_of_not_mem hnone)]
    simp [hnone, hhead, eq_comm]
  · have hsign : '=' ∈ (name ++ "=" ++ text).toList := by simp
    simp only [hsign, not_true, false_and, false_or, head?_eq_sign_iff text hname]
    by_cases hne : name = ""
    · subst hne
      rw [argument_of_parse_eq_error (parse_unnamed text)]
      simp [eq_comm]
    · rw [argument_append text hne hname]
      simp [hne]

theorem valueOf_compact {v : Json} (hv : v.Fits Json.maxDepth) (hnumbers : ∀ n ∈ v.numbers, n.IsInteger) :
    valueOf v.compact = v := by
  rw [valueOf, Json.ofText_compact hv hnumbers]

theorem valueOf_of_eq_error {text : String} {err : ReadError} (h : Json.ofText text = .error err) :
    valueOf text = .string text := by
  rw [valueOf, h]

theorem valueOf_compact_string (s : String) : valueOf (Json.string s).compact = .string s :=
  valueOf_compact ⟨trivial, Nat.zero_le _⟩ fun _ hn => absurd hn List.not_mem_nil

/-- **Arguments undo printing.** After any name and an equals sign, the
compact text of a value without fractions gives the value; so every string can
be passed between quotes, whatever it looks like. Text that is not JSON gives
itself as a string. A word fails exactly if it has no equals sign or starts
with it. -/
theorem argument_reads_back :
    (∀ name : String, name ≠ "" → '=' ∉ name.toList →
      (∀ v : Json, v.Fits Json.maxDepth → (∀ n ∈ v.numbers, n.IsInteger) →
        argument (name ++ "=" ++ v.compact) = .ok (name, v)) ∧
      (∀ s : String, argument (name ++ "=" ++ (Json.string s).compact) = .ok (name, .string s)) ∧
      ∀ (text : String) (err : ReadError), Json.ofText text = .error err →
        argument (name ++ "=" ++ text) = .ok (name, .string text)) ∧
    ∀ (word : String) (e : CommandError), argument word = .error e ↔
      '=' ∉ word.toList ∧ e = .unpaired word ∨ word.toList.head? = some '=' ∧ e = .unnamed word := by
  refine ⟨fun name hne hname => ⟨fun v hv hnumbers => ?_, fun s => ?_, fun text err herr => ?_⟩,
    fun word e => argument_eq_error_iff⟩
  · rw [argument_append _ hne hname, valueOf_compact hv hnumbers]
  · rw [argument_append _ hne hname, valueOf_compact_string]
  · rw [argument_append _ hne hname, valueOf_of_eq_error herr]

/-- A value with the first and the last integer that are kept, and with texts
that look like something else. -/
def boundsValue : Json :=
  .object [("a=b", .array [.number (.int (-9223372036854775808)), .number (.int 18446744073709551615), .string "true"]),
    ("q\"", .null)]

theorem argument_reads_back_bounds :
    boundsValue.Fits Json.maxDepth ∧ (∀ n ∈ boundsValue.numbers, n.IsInteger) ∧
      argument "x=\x7b\"a=b\":[-9223372036854775808,18446744073709551615,\"true\"],\"q\\\"\":null\x7d" =
        .ok ("x", boundsValue) ∧
      argument "x=\"42\"" = .ok ("x", .string "42") ∧
      Json.ofText "[1," = .error .truncated ∧ argument "x=[1," = .ok ("x", .string "[1,") ∧
      argument "x" = .error (.unpaired "x") ∧ argument "=x" = .error (.unnamed "=x") := by
  have hfits : boundsValue.Fits Json.maxDepth := by
    refine ⟨⟨by decide, ?_⟩, by decide⟩
    simp [Json.Sorted.members, Json.Sorted, Json.Sorted.items]
  have hnumbers : ∀ n ∈ boundsValue.numbers, n.IsInteger := by
    intro n hn
    rcases List.mem_pair.1 hn with rfl | rfl
    · exact ⟨_, rfl, by decide, by decide⟩
    · exact ⟨_, rfl, by decide, by decide⟩
  have htruncated : Json.ofText "[1," = .error .truncated := by decide +kernel
  obtain ⟨hread, hfault⟩ := argument_reads_back
  obtain ⟨hvalue, hstring, htext⟩ := hread "x" (by decide) (by decide)
  exact ⟨hfits, hnumbers, hvalue boundsValue hfits hnumbers, hstring "42", htruncated, htext "[1," _ htruncated,
    (hfault "x" _).2 (.inl ⟨by decide, rfl⟩), (hfault "=x" _).2 (.inr ⟨by decide, rfl⟩)⟩

end Pair
end GraphCalls
