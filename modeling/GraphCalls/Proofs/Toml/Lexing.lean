/-
The tokens of keys and values that are written.

The machine goes through a text piece by piece (`Passes.append`). Whatever form
a string is written in, the machine has it again as it was when it comes to the
marks that end it: escapes are undone one character at a time
(`Takes.escapeChar`), and of marks in a row there are never more than two that
are not escaped. What is written is complete with the character after it, which
is a token of its own (`Writes`).
-/
import GraphCalls.Json.Printer
import GraphCalls.Proofs.Json.Numerals
import GraphCalls.Toml.Printer
import GraphCalls.Toml.Token

namespace GraphCalls
namespace Toml
namespace Token

variable {m m' m'' : Mode} {c : Char} {cs ds text : List Char} {ts us : List Token} {q : Quote} {multiline : Bool}

/-! ## One piece after the other -/

/-- The machine goes through a text, from one mode to another, and completes
tokens on the way. -/
inductive Passes : Mode → List Char → List Token → Mode → Prop
  | nil (m : Mode) : Passes m [] [] m
  | cons {m m' m'' : Mode} {c : Char} {cs : List Char} {ts us : List Token} (hc : step m c = some (ts, m'))
      (hcs : Passes m' cs us m'') : Passes m (c :: cs) (ts ++ us) m''

theorem Passes.append (h : Passes m cs ts m') (h' : Passes m' ds us m'') : Passes m (cs ++ ds) (ts ++ us) m'' := by
  induction h with
  | nil => exact h'
  | cons hc _ ih =>
    rw [List.cons_append, List.append_assoc]
    exact .cons hc (ih h')

/-- A character that completes nothing. -/
theorem Passes.silent (hc : step m c = some ([], m')) (hcs : Passes m' cs ts m'') : Passes m (c :: cs) ts m'' :=
  .cons hc hcs

theorem Passes.single (hc : step m c = some (ts, m')) : Passes m [c] ts m' := by
  rw [← List.append_nil ts]
  exact .cons hc (.nil m')

/-- A text goes on in the same way from modes that agree on its first character. -/
theorem Passes.of_head (h : Passes m cs ts m') (hcs : cs ≠ []) (hstep : ∀ c ∈ cs.head?, step m'' c = step m c) :
    Passes m'' cs ts m' := by
  cases h with
  | nil => exact absurd rfl hcs
  | cons hc hrest => exact .cons ((hstep _ rfl).trans hc) hrest

theorem Passes.run_eq (h : Passes m cs ts m') (rest : List Char) : run m (cs ++ rest) = (run m' rest).map (ts ++ ·) := by
  induction h with
  | nil => simp
  | cons hc _ ih =>
    rw [List.cons_append, run, hc]
    simp only [Option.bind_eq_bind, Option.bind_some, ih]
    cases run _ rest <;> simp

/-- A character that is a token of its own belongs to none before it. -/
theorem of_start_between (h : start c = some (ts, .between)) : isBareChar c = false ∧ ∀ q : Quote, c ≠ q.mark := by
  rw [start.eq_def] at h
  split at h
  case h_15 => split at h <;> cases h
  case h_5 | h_6 | h_7 => cases h
  all_goals exact ⟨by decide, fun q => by cases q <;> decide⟩

/-- A text that is one token, complete with the character after it. No line of
it ends with a carriage return. -/
structure Writes (cs : List Char) (t : Token) : Prop where
  passes : ∀ {c ts}, start c = some (ts, .between) → Passes .between (cs ++ [c]) (t :: ts) .between
  unbroken : '\r' ∉ cs

/-! ## Without quotes -/

theorem start_of_isBareChar (h : isBareChar c = true) : start c = some ([], .bare [c]) := by
  rw [start.eq_def]
  split
  case h_15 => rw [if_pos h]
  all_goals exact absurd h (by decide)

theorem passes_bare (h : ∀ c ∈ cs, isBareChar c = true) : Passes (.bare text) cs [] (.bare (cs.reverse ++ text)) := by
  induction cs generalizing text with
  | nil => exact .nil _
  | cons c cs ih =>
    rw [List.forall_mem_cons] at h
    rw [List.reverse_cons, List.append_assoc]
    exact .silent (if_pos h.1) (ih h.2)

theorem writes_bare (h : ∀ c ∈ cs, isBareChar c = true) (hcs : cs ≠ []) : Writes cs (.bare cs) where
  passes {c ts} hc := by
    obtain ⟨hbare, -⟩ := of_start_between hc
    have hend : step (.bare cs.reverse) c = some (.bare cs :: ts, .between) := by
      simp [step, hbare, startAfter, hc]
    cases cs with
    | nil => exact absurd rfl hcs
    | cons d cs =>
      rw [List.forall_mem_cons] at h
      rw [List.reverse_cons] at hend
      exact .silent (start_of_isBareChar h.1) ((passes_bare h.2).append (.single hend))
  unbroken hr := absurd (h _ hr) (by decide)

/-! ## Escapes -/

/-- In this mode text goes on, after what was read of it so far. -/
structure Takes (m : Mode) (multiline : Bool) (text : List Char) : Prop where
  plain : ∀ {c}, isPlain c = true → c ≠ '"' → c ≠ '\\' → step m c = some ([], resume multiline (c :: text))
  escape : step m '\\' = some ([], .escape multiline text)

theorem takes_line (text : List Char) : Takes (.line .basic text) false text where
  plain hplain hmark hescape := by simp [step, inLine, Quote.mark, hplain, hmark, hescape, resume]
  escape := rfl

theorem takes_block {marks : Nat} (h : marks ≤ 2) (text : List Char) :
    Takes (.block .basic text marks) true (List.replicate marks '"' ++ text) where
  plain hplain hmark hescape := by
    simp [step, inBlock, Quote.mark, hplain, hmark, hescape, resume, Nat.not_le.2 (Nat.lt_succ_of_le h)]
  escape := by simp [step, inBlock, Quote.mark, Nat.not_le.2 (Nat.lt_succ_of_le h)]

theorem value?_upperHex : ∀ n < 0x80, Digits.value? (Digits.upperHex (n / 16)) = some (n / 16) ∧
    Digits.value? (Digits.upperHex n) = some (n % 16) := by decide

theorem isPlain_of_isControl_eq_false (h : isControl c = false) (hbreak : c ≠ '\n') : isPlain c = true := by
  simp only [isControl, isPlain] at h ⊢
  grind

theorem passes_unicodeEscape (h : isControl c = true) (text : List Char) :
    Passes (.escape multiline text) (unicodeEscape c.toNat).tail [] (resume multiline (c :: text)) := by
  have hlow : c.toNat < 0x80 := by
    simp only [isControl] at h
    grind
  obtain ⟨hfirst, hlast⟩ := value?_upperHex _ hlow
  have hvalue : 16 * (c.toNat / 16) + c.toNat % 16 = c.toNat := Nat.div_add_mod _ _
  have hzero : Digits.value? '0' = some 0 := by decide
  have hvalid : c.toNat.isValidChar := c.valid
  have hfour : step (.code multiline text 4 0) '0' = some ([], .code multiline text 3 0) := by
    simp [step, inCode, hzero]
  have hthree : step (.code multiline text 3 0) '0' = some ([], .code multiline text 2 0) := by
    simp [step, inCode, hzero]
  have htwo : step (.code multiline text 2 0) (Digits.upperHex (c.toNat / 16)) =
      some ([], .code multiline text 1 (c.toNat / 16)) := by
    simp [step, inCode, hfirst]
  have hone : step (.code multiline text 1 (c.toNat / 16)) (Digits.upperHex c.toNat) =
      some ([], resume multiline (c :: text)) := by
    simp [step, inCode, hlast, hvalue, hvalid]
  exact .silent rfl (.silent hfour (.silent hthree (.silent htwo (.single hone))))

/-- A character is read as it was, escaped or not. -/
theorem Takes.escapeChar (h : Takes m multiline text) (c : Char) :
    Passes m (escapeChar c) [] (resume multiline (c :: text)) := by
  have hletter : ∀ {d e : Char}, escaped? d = some e → Passes m ['\\', d] [] (resume multiline (e :: text)) :=
    fun hd => .silent h.escape (.single (by simp [step, inEscape, hd]))
  rw [Toml.escapeChar.eq_def]
  split
  case h_8 htab hbreak _ _ hmark hescape =>
    split
    next hcontrol => exact .silent h.escape (passes_unicodeEscape hcontrol text)
    next hcontrol =>
      have hplain := isPlain_of_isControl_eq_false (Bool.eq_false_iff.2 hcontrol) hbreak
      exact .single (h.plain hplain hmark hescape)
  all_goals exact hletter rfl

theorem upperHex_ne_return : ∀ n < 0x80, Digits.upperHex (n / 16) ≠ '\r' ∧ Digits.upperHex n ≠ '\r' := by decide

theorem return_not_mem_escapeChar (c : Char) : '\r' ∉ Toml.escapeChar c := by
  intro hr
  rw [Toml.escapeChar.eq_def] at hr
  split at hr
  case h_8 =>
    split at hr
    next hcontrol =>
      have hlow : c.toNat < 0x80 := by
        simp only [isControl] at hcontrol
        grind
      obtain ⟨hfirst, hlast⟩ := upperHex_ne_return _ hlow
      simp [unicodeEscape, hfirst.symm, hlast.symm] at hr
    next hcontrol =>
      obtain rfl := List.mem_singleton.1 hr
      exact hcontrol (by decide)
  all_goals exact absurd hr (by decide)

/-! ## Strings on one line -/

theorem start_mark (q : Quote) : start q.mark = some ([], .opened q) := by cases q <;> rfl

/-- What stands between two marks is a string, if the machine has it all when
it comes to the second. -/
theorem writes_line {body : List Char} (h : Passes (.line q []) body [] (.line q cs.reverse))
    (hmark : ∀ c ∈ body.head?, c ≠ q.mark) (hr : '\r' ∉ body) :
    Writes (q.mark :: (body ++ [q.mark])) (.string false (String.ofList cs)) where
  passes {c ts} hc := by
    obtain ⟨-, hne⟩ := of_start_between hc
    have hend : ∀ text, step (.line q text) q.mark = some ([stringToken false text], .between) := fun text => if_pos rfl
    rw [List.cons_append, List.append_assoc, List.singleton_append]
    refine .silent (start_mark q) ?_
    cases body with
    | nil =>
      obtain rfl : cs = [] := by
        generalize hcs : cs.reverse = text at h
        cases h
        exact List.reverse_eq_nil_iff.1 hcs
      have hopened : step (.opened q) q.mark = some ([], .openedTwice q) := if_pos rfl
      refine .silent hopened (.single ?_)
      simp [step, hne q, startAfter, hc, stringToken]
    | cons d body =>
      have hstring : stringToken false cs.reverse = .string false (String.ofList cs) := by
        rw [stringToken, List.reverse_reverse]
      have hbody : Passes (.opened q) (d :: body) [] (.line q cs.reverse) :=
        h.of_head (List.cons_ne_nil _ _) fun c hc => if_neg (hmark c hc)
      have hmarked := hend cs.reverse
      rw [hstring] at hmarked
      exact hbody.append (.cons hmarked (.single hc))
  unbroken := by
    have hne : '\r' ≠ q.mark := by cases q <;> decide
    simp [hr, hne]

theorem passes_escapeChars : ∀ cs text : List Char,
    Passes (.line .basic text) (cs.flatMap Toml.escapeChar) [] (.line .basic (cs.reverse ++ text))
  | [], text => .nil _
  | c :: cs, text => by
    rw [List.flatMap_cons, List.reverse_cons, List.append_assoc]
    exact ((takes_line text).escapeChar c).append (passes_escapeChars cs (c :: text))

/-- No character is written by a mark that stands for itself. -/
theorem head?_escapeChar (c : Char) : ∀ d ∈ (Toml.escapeChar c).head?, d ≠ '"' ∧ (d = '\n' → c = '\n') := by
  intro d hd
  rw [Toml.escapeChar.eq_def] at hd
  split at hd
  case h_8 hbreak _ _ hmark _ =>
    split at hd
    next =>
      cases hd
      exact ⟨by decide, fun h => absurd h (by decide)⟩
    next =>
      cases hd
      exact ⟨hmark, id⟩
  all_goals
    cases hd
    exact ⟨by decide, fun h => absurd h (by decide)⟩

theorem escapeChar_ne_nil (c : Char) : Toml.escapeChar c ≠ [] := by
  rw [Toml.escapeChar.eq_def]
  split
  case h_8 => split <;> exact List.cons_ne_nil _ _
  all_goals exact List.cons_ne_nil _ _

theorem writes_basic (cs : List Char) : Writes (basic cs) (.string false (String.ofList cs)) := by
  have hpasses := passes_escapeChars cs []
  rw [List.append_nil] at hpasses
  refine writes_line hpasses ?_ ?_
  · cases cs with
    | nil => simp
    | cons c cs =>
      rw [List.flatMap_cons, List.head?_append_of_ne_nil _ (escapeChar_ne_nil c)]
      exact fun d hd => (head?_escapeChar c d hd).1
  · simp only [List.mem_flatMap, not_exists, not_and]
    exact fun c _ => return_not_mem_escapeChar c

theorem passes_plain (h : ∀ c ∈ cs, isPlain c = true ∧ c ≠ '\'') (text : List Char) :
    Passes (.line .literal text) cs [] (.line .literal (cs.reverse ++ text)) := by
  induction cs generalizing text with
  | nil => exact .nil _
  | cons c cs ih =>
    obtain ⟨⟨hplain, hmark⟩, hcs⟩ := List.forall_mem_cons.1 h
    rw [List.reverse_cons, List.append_assoc]
    exact .silent (by simp [step, inLine, Quote.mark, hplain, hmark]) (ih hcs _)

theorem writes_literal (h : ∀ c ∈ cs, isPlain c = true ∧ c ≠ '\'') :
    Writes (literal cs) (.string false (String.ofList cs)) := by
  have hpasses := passes_plain h []
  rw [List.append_nil] at hpasses
  refine writes_line hpasses (fun c hc => (h c (List.mem_of_mem_head? hc)).2) fun hr => ?_
  exact absurd (h _ hr).1 (by decide)

/-! ## Strings of many lines -/

theorem passes_marks : ∀ {n k : Nat}, k + n ≤ 4 →
    Passes (.block q text k) (List.replicate n q.mark) [] (.block q text (k + n))
  | 0, k, _ => .nil _
  | n + 1, k, h => by
    have hmark : step (.block q text k) q.mark = some ([], .block q text (k + 1)) := by
      have hk : k < 4 := by omega
      simp [step, inBlock, hk]
    rw [List.replicate_succ, Nat.add_comm n 1, ← Nat.add_assoc]
    exact .silent hmark (passes_marks (by omega))

/-- Three marks end a string; up to two that stand before them belong to it. -/
theorem passes_close {marks : Nat} (hmarks : marks ≤ 2) (q : Quote) (text : List Char)
    (hc : start c = some (ts, .between)) :
    Passes (.block q text marks) (List.replicate 3 q.mark ++ [c])
      (stringToken true (List.replicate marks q.mark ++ text) :: ts) .between := by
  obtain ⟨-, hne⟩ := of_start_between hc
  by_cases hfew : marks ≤ 1
  · have hend : step (.block q text (marks + 3)) c =
        some (stringToken true (List.replicate marks q.mark ++ text) :: ts, .between) := by
      simp [step, inBlock, hne q, startAfter, hc]
    exact (passes_marks (by omega)).append (.single hend)
  · obtain rfl : marks = 2 := by omega
    have hend : step (.block q text 4) q.mark = some ([stringToken true (q.mark :: q.mark :: text)], .between) := by
      simp [step, inBlock]
    rw [List.replicate_succ', List.append_assoc]
    exact (passes_marks (Nat.le_refl 4)).append (.cons hend (.single hc))

/-- What stands between three marks and three others is a string, if at most
two marks were not followed by anything else when the machine comes to the last
three. -/
theorem writes_block {body : List Char} {marks : Nat} (h : Passes (.block q [] 0) body [] (.block q text marks))
    (hmarks : marks ≤ 2) (htext : List.replicate marks q.mark ++ text = cs.reverse)
    (hbreak : '\n' ∉ cs → ∀ c ∈ body.head?, c ≠ '\n') (hr : '\r' ∉ body) :
    Writes (List.replicate 3 q.mark ++ leadingBreak cs ++ body ++ List.replicate 3 q.mark)
      (.string true (String.ofList cs)) where
  passes {c ts} hc := by
    have hopen : Passes .between (List.replicate 3 q.mark) [] (.blockStart q) :=
      .silent (start_mark q) (.silent (if_pos rfl) (.single (if_pos rfl)))
    have hstring : stringToken true (List.replicate marks q.mark ++ text) = .string true (String.ofList cs) := by
      rw [htext, stringToken, List.reverse_reverse]
    have hclose := passes_close hmarks q text hc
    rw [hstring] at hclose
    have hbody : Passes (.blockStart q) (leadingBreak cs ++ (body ++ (List.replicate 3 q.mark ++ [c])))
        (.string true (String.ofList cs) :: ts) .between := by
      by_cases hlead : '\n' ∈ cs
      · rw [leadingBreak, if_pos hlead]
        exact .silent rfl (h.append hclose)
      · rw [leadingBreak, if_neg hlead]
        refine (h.append hclose).of_head (by simp) fun d hd => ?_
        -- No line break stands first: it would not count.
        have hd : d ≠ '\r' ∧ d ≠ '\n' := by
          cases body with
          | nil =>
            cases hd
            cases q <;> decide
          | cons e body =>
            cases hd
            exact ⟨fun hd => hr (hd ▸ List.mem_cons_self ..), hbreak hlead d rfl⟩
        simp [step, hd.1, hd.2]
    simpa only [List.append_assoc, List.nil_append] using hopen.append hbody
  unbroken := by
    have hne : '\r' ≠ q.mark := by cases q <;> decide
    simp [hr, hne, leadingBreak]

/-- The machine has what was written, and the marks at its end are those that
it counts. -/
theorem passes_blockChars : ∀ (cs text : List Char) {marks : Nat}, marks ≤ 2 →
    ∃ text' marks', marks' ≤ 2 ∧
      Passes (.block .basic text marks) (blockChars marks cs) [] (.block .basic text' marks') ∧
      List.replicate marks' '"' ++ text' = cs.reverse ++ (List.replicate marks '"' ++ text)
  | [], text, marks, h => ⟨text, marks, h, .nil _, rfl⟩
  | c :: cs, text, marks, h => by
    have hopen : ¬3 ≤ marks := Nat.not_le.2 (Nat.lt_succ_of_le h)
    rw [blockChars]
    split_ifs with hbreak hmark
    · obtain ⟨text', marks', hle, hpasses, heq⟩ :=
        passes_blockChars cs ('\n' :: (List.replicate marks '"' ++ text)) (Nat.zero_le 2)
      refine ⟨text', marks', hle, .silent ?_ hpasses, by simp [heq, hbreak]⟩
      simp [step, inBlock, Quote.mark, hbreak, hopen, isBreak]
    · have hmore : marks + 1 ≤ 2 := by omega
      obtain ⟨text', marks', hle, hpasses, heq⟩ := passes_blockChars cs text hmore
      refine ⟨text', marks', hle, .silent ?_ hpasses, by simp [heq, hmark.1, List.replicate_succ]⟩
      have hfew : marks < 4 := by omega
      simp [step, inBlock, Quote.mark, hmark.1, hfew]
    · obtain ⟨text', marks', hle, hpasses, heq⟩ :=
        passes_blockChars cs (c :: (List.replicate marks '"' ++ text)) (Nat.zero_le 2)
      exact ⟨text', marks', hle, ((takes_block h text).escapeChar c).append hpasses, by simp [heq]⟩

theorem return_not_mem_blockChars : ∀ (cs : List Char) (marks : Nat), '\r' ∉ blockChars marks cs
  | [], _ => List.not_mem_nil
  | c :: cs, marks => by
    have hrest := return_not_mem_blockChars cs
    rw [blockChars]
    split_ifs with hbreak hmark
    · simp [hbreak, hrest]
    · simp [hmark.1, hrest]
    · simp [return_not_mem_escapeChar, hrest]

theorem head?_blockChars (h : '\n' ∉ cs) (marks : Nat) : ∀ d ∈ (blockChars marks cs).head?, d ≠ '\n' := by
  cases cs with
  | nil => simp [blockChars]
  | cons c cs =>
    simp only [List.mem_cons, not_or] at h
    rw [blockChars, if_neg (Ne.symm h.1)]
    split_ifs with hmark
    · rintro _ ⟨⟩
      exact Ne.symm h.1
    · rw [List.head?_append_of_ne_nil _ (escapeChar_ne_nil c)]
      exact fun d hd hbreak => h.1 ((head?_escapeChar c d hd).2 hbreak).symm

theorem writes_basicBlock (cs : List Char) : Writes (basicBlock cs) (.string true (String.ofList cs)) := by
  obtain ⟨text, marks, hle, hpasses, heq⟩ := passes_blockChars cs [] (Nat.zero_le 2)
  rw [List.replicate_zero, List.nil_append, List.append_nil] at heq
  exact writes_block (q := .basic) hpasses hle heq (fun hbreak => head?_blockChars hbreak 0)
    (return_not_mem_blockChars cs 0)

/-! ## Runs of marks -/

/-- The longest run and the present one, after one more character. -/
def countRun (c : Char) (run : Nat × Nat) (d : Char) : Nat × Nat :=
  if d = c then (max run.1 (run.2 + 1), run.2 + 1) else (run.1, 0)

theorem longestRun_eq (c : Char) (cs : List Char) : longestRun c cs = (cs.foldl (countRun c) (0, 0)).1 := rfl

theorem le_foldl_countRun (c : Char) : ∀ (cs : List Char) (run : Nat × Nat), run.1 ≤ (cs.foldl (countRun c) run).1
  | [], _ => Nat.le_refl _
  | d :: cs, run => by
    have hrest := le_foldl_countRun c cs (countRun c run d)
    refine Nat.le_trans ?_ hrest
    rw [countRun]
    split_ifs
    · exact Nat.le_max_left ..
    · exact Nat.le_refl _

theorem not_mem_of_longestRun_eq_zero (h : longestRun c cs = 0) : c ∉ cs := by
  intro hc
  obtain ⟨before, after, rfl⟩ := List.append_of_mem hc
  rw [longestRun_eq, List.foldl_append, List.foldl_cons] at h
  have hrest := le_foldl_countRun c after (countRun c (before.foldl (countRun c) (0, 0)) c)
  have hone : ∀ run : Nat × Nat, 1 ≤ (countRun c run c).1 := fun run => by
    rw [countRun, if_pos rfl]
    exact Nat.le_trans (Nat.le_add_left 1 _) (Nat.le_max_right ..)
  have hrun := hone (before.foldl (countRun c) (0, 0))
  omega

/-- Where no run is longer than two, all stands for itself. -/
theorem passes_literalBlock (hcontrol : ∀ c ∈ cs, isControl c = false) (text : List Char) {best marks : Nat}
    (hle : marks ≤ 2) (h : (cs.foldl (countRun '\'') (best, marks)).1 ≤ 2) :
    ∃ text' marks', marks' ≤ 2 ∧ Passes (.block .literal text marks) cs [] (.block .literal text' marks') ∧
      List.replicate marks' '\'' ++ text' = cs.reverse ++ (List.replicate marks '\'' ++ text) := by
  induction cs generalizing text best marks with
  | nil => exact ⟨text, marks, hle, .nil _, rfl⟩
  | cons c cs ih =>
    obtain ⟨hc, hcs⟩ := List.forall_mem_cons.1 hcontrol
    rw [List.foldl_cons] at h
    by_cases hmark : c = '\''
    · subst hmark
      rw [countRun, if_pos rfl] at h
      change (cs.foldl (countRun '\'') (max best (marks + 1), marks + 1)).1 ≤ 2 at h
      have hbest := le_foldl_countRun '\'' cs (max best (marks + 1), marks + 1)
      obtain ⟨text', marks', hle', hpasses, heq⟩ := ih hcs text (by omega) h
      refine ⟨text', marks', hle', .silent ?_ hpasses, by simp [heq, List.replicate_succ]⟩
      have hfew : marks < 4 := by omega
      simp [step, inBlock, Quote.mark, hfew]
    · rw [countRun, if_neg hmark] at h
      obtain ⟨text', marks', hle', hpasses, heq⟩ :=
        ih hcs (c :: (List.replicate marks '\'' ++ text)) (Nat.zero_le 2) h
      refine ⟨text', marks', hle', .silent ?_ hpasses, by simp [heq]⟩
      have hopen : ¬3 ≤ marks := Nat.not_le.2 (Nat.lt_succ_of_le hle)
      have hplain : isBreak c = true ∨ isPlain c = true := by
        by_cases hbreak : c = '\n'
        · exact .inl (hbreak ▸ rfl)
        · exact .inr (isPlain_of_isControl_eq_false hc hbreak)
      simp [step, inBlock, Quote.mark, hmark, hopen, hplain]

theorem writes_literalBlock (hcontrol : ∀ c ∈ cs, isControl c = false) (h : longestRun '\'' cs ≤ 2) :
    Writes (literalBlock cs) (.string true (String.ofList cs)) := by
  obtain ⟨text, marks, hle, hpasses, heq⟩ := passes_literalBlock hcontrol [] (Nat.zero_le 2) h
  rw [List.replicate_zero, List.nil_append, List.append_nil] at heq
  refine writes_block (q := .literal) hpasses hle heq (fun hbreak c hc hnewline => ?_) fun hr => ?_
  · exact hbreak (hnewline ▸ List.mem_of_mem_head? hc)
  · exact absurd (hcontrol _ hr) (by decide)

/-! ## Keys and values -/

theorem writes_string (cs : List Char) : ∃ multiline, Writes (stringChars cs) (.string multiline (String.ofList cs)) := by
  have hcontrol : cs.any isControl = false → ∀ c ∈ cs, isControl c = false := by simp
  rw [stringChars]
  split_ifs with hbasic hliteral hblock hliteralBlock
  · exact ⟨false, writes_basic cs⟩
  · simp only [Bool.and_eq_true, Bool.not_eq_true', decide_eq_true_eq, decide_eq_false_iff_not] at hliteral
    obtain ⟨⟨hnone, hbreak⟩, hruns⟩ := hliteral
    refine ⟨false, writes_literal fun c hc => ⟨isPlain_of_isControl_eq_false (hcontrol hnone c hc) ?_, ?_⟩⟩
    · rintro rfl
      exact hbreak hc
    · rintro rfl
      exact not_mem_of_longestRun_eq_zero hruns hc
  · exact ⟨true, writes_basicBlock cs⟩
  · simp only [Bool.and_eq_true, Bool.not_eq_true', decide_eq_true_eq] at hliteralBlock
    exact ⟨true, writes_literalBlock (hcontrol hliteralBlock.1) hliteralBlock.2⟩
  · exact ⟨true, writes_basicBlock cs⟩
  · exact ⟨false, writes_basic cs⟩

/-- The token that a key is written as. -/
def ofKey (key : String) : Token :=
  if !key.toList.isEmpty && key.toList.all isKeyChar then .bare key.toList else .string false key

theorem isBareChar_of_isKeyChar (h : isKeyChar c = true) : isBareChar c = true := by
  simp only [isKeyChar, Bool.or_eq_true] at h
  simp only [isBareChar, Bool.or_eq_true]
  exact .inl (.inl h)

theorem writes_key (key : String) : Writes (keyChars key) (ofKey key) := by
  have hstring : Token.string false key = .string false (String.ofList key.toList) := by rw [String.ofList_toList]
  rw [keyChars, ofKey]
  split_ifs with hbare hbasic hliteral
  · rw [Bool.and_eq_true] at hbare
    exact writes_bare (fun c hc => isBareChar_of_isKeyChar (List.all_eq_true.1 hbare.2 c hc)) (by simpa using hbare.1)
  · exact hstring ▸ writes_basic _
  · simp only [Bool.and_eq_true, Bool.not_eq_true', Bool.or_eq_false_iff, decide_eq_true_eq,
      decide_eq_false_iff_not] at hliteral
    obtain ⟨⟨hnone, hbreak⟩, hruns⟩ := hliteral
    refine hstring ▸ writes_literal fun c hc => ⟨isPlain_of_isControl_eq_false (by simpa using List.any_eq_false.1 hnone c hc) ?_, ?_⟩
    · rintro rfl
      exact hbreak hc
    · rintro rfl
      exact not_mem_of_longestRun_eq_zero hruns hc
  · exact hstring ▸ writes_basic _

theorem writes_natural (n : Nat) : Writes (toString (n : Int)).toList (.bare (Number.natChars n)) := by
  have hchars : (toString (n : Int)).toList = Number.natChars n := by
    show (Nat.repr n).toList = Number.natChars n
    simp [Number.natChars]
  rw [hchars]
  refine writes_bare (fun c hc => ?_) ?_
  · simp [isBareChar, Char.isAlphanum, Number.isDigit_of_mem_natChars c hc]
  · exact Nat.toDigits_ne_nil

end Token
end Toml
end GraphCalls
