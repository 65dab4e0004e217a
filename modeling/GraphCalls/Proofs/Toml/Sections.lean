/-
Written sections, read again.

A text of sections is a list of lines, and each line is read by itself
(`ofText?_of_lines`). A header opens the table of its path, and the line of a
setting fills it, so the text of sections is read as these, one after the other
(`ofText?_textOf`).
-/
import GraphCalls.Proofs.Joined
import GraphCalls.Proofs.Toml.Lexing
import GraphCalls.Toml.Parser
import Mathlib.Data.List.TakeDrop

namespace GraphCalls
namespace Toml

namespace Group

variable {g : Group} {gs line rest : List Group} {t : Token} {ts : List Token} {k : String} {path : List String}

/-! ## Groups -/

/-- Tokens that are gathered as they are. -/
def IsFlat (t : Token) : Prop := t ∉ [.openBracket, .closeBracket, .openBrace, .closeBrace]

theorem gather_flat (h : ∀ t ∈ ts, IsFlat t) (outer : List (Bool × List Group)) (acc : List Group) (more : List Token) :
    gather outer acc (ts ++ more) = gather outer ((ts.map .token).reverse ++ acc) more := by
  induction ts generalizing acc with
  | nil => rfl
  | cons t ts ih =>
    rw [List.forall_mem_cons] at h
    have hstep : gather outer acc (t :: (ts ++ more)) = gather outer (.token t :: acc) (ts ++ more) := by
      have ht := h.1
      cases t <;> simp [IsFlat, gather] at ht ⊢
    rw [List.cons_append, hstep, ih h.2]
    simp

theorem divide_ne_nil (p : Group → Bool) : ∀ gs : List Group, divide p gs ≠ []
  | [] => List.cons_ne_nil _ _
  | g :: gs => by
    rw [divide]
    split
    · exact List.cons_ne_nil _ _
    · split <;> exact List.cons_ne_nil _ _

theorem divide_append {p : Group → Bool} (hline : ∀ g ∈ line, p g = false) (hg : p g = true) (rest : List Group) :
    divide p (line ++ g :: rest) = line :: divide p rest := by
  induction line with
  | nil =>
    rw [List.nil_append, divide]
    split
    next h => exact absurd h (divide_ne_nil p rest)
    next part parts h => rw [if_pos hg, h]
  | cons g' line ih =>
    obtain ⟨hg', hline⟩ := List.forall_mem_cons.1 hline
    rw [List.cons_append, divide, ih hline]
    simp [hg']

/-! ## Lines -/

/-- A text that is one line, with the break at its end, and the groups of this
line. -/
structure WritesLine (cs : List Char) (gs : List Group) : Prop where
  gathers : ∃ ts, Token.Passes .between cs (ts ++ [.newline]) .between ∧
    ∀ acc more, gather [] acc (ts ++ more) = gather [] (gs.reverse ++ acc) more
  whole : ∀ g ∈ gs, isToken .newline g = false
  unbroken : '\r' ∉ cs

theorem writesLine_empty : WritesLine ['\n'] [] where
  gathers := ⟨[], .single rfl, fun _ _ => rfl⟩
  whole := by simp
  unbroken := by decide

theorem hasWholeBreaks_of_not_mem : ∀ {cs : List Char}, '\r' ∉ cs → Token.hasWholeBreaks cs = true
  | [], _ => rfl
  | c :: cs, h => by
    simp only [List.mem_cons, not_or] at h
    have hrest := hasWholeBreaks_of_not_mem h.2
    rw [Token.hasWholeBreaks.eq_def]
    split
    next heq => exact absurd (List.cons.inj heq).1.symm h.1
    next heq =>
      obtain ⟨rfl, rfl⟩ := List.cons.inj heq
      simp [Ne.symm h.1, hrest]
    next heq => cases heq

variable {css : List (List Char)} {gss : List (List Group)}

theorem passes_lines (h : List.Forall₂ WritesLine css gss) : ∃ ts, Token.Passes .between css.flatten ts .between ∧
    ∃ gs, (∀ acc, gather [] acc ts = some (acc.reverse ++ gs)) ∧ divide (isToken .newline) gs = gss ++ [[]] := by
  induction h with
  | nil => exact ⟨[], .nil _, [], fun acc => by simp [gather], rfl⟩
  | @cons cs gs css gss hline _ ih =>
    obtain ⟨ts, hpasses, hgather⟩ := hline.gathers
    obtain ⟨us, hrest, rest, hgathered, hdivided⟩ := ih
    have hnewline : ∀ t ∈ [Token.newline], IsFlat t := by simp [IsFlat]
    refine ⟨(ts ++ [.newline]) ++ us, ?_, gs ++ .token .newline :: rest, fun acc => ?_, ?_⟩
    · rw [List.flatten_cons]
      exact hpasses.append hrest
    · rw [List.append_assoc, hgather, gather_flat hnewline, hgathered]
      simp
    · rw [divide_append hline.whole (by simp [isToken]), hdivided, List.cons_append]

theorem line_nil (p : Progress) : p.line [] = some p := rfl

/-- Lines are read one after the other. -/
theorem ofText?_of_lines (h : List.Forall₂ WritesLine css gss) (hmark : '\ufeff' ∉ css.flatten.head?) :
    ofText? (String.ofList css.flatten) = (gss.foldlM Progress.line ⟨[], []⟩).map (·.root.toToml) := by
  obtain ⟨ts, hpasses, gs, hgathered, hdivided⟩ := passes_lines h
  have hreturn : '\r' ∉ css.flatten := by
    simp only [List.mem_flatten, not_exists, not_and]
    intro cs hcs
    obtain ⟨_, -, hline⟩ := exists_mem_of_forall₂ h hcs
    exact hline.unbroken
  have hmarkless : Token.withoutMark css.flatten = css.flatten := by
    rw [Token.withoutMark.eq_def]
    split
    next heq => exact absurd (by rw [heq]; rfl) hmark
    next => rfl
  have htokens : Token.ofText? (String.ofList css.flatten) = some ts := by
    have hrun := hpasses.run_eq []
    rw [List.append_nil] at hrun
    rw [Token.ofText?, String.toList_ofList, if_pos (hasWholeBreaks_of_not_mem hreturn), hmarkless, hrun]
    simp [Token.run, Token.finish]
  have hgroups := hgathered []
  rw [List.reverse_nil, List.nil_append] at hgroups
  rw [ofText?, htokens]
  simp only [Option.bind_eq_bind, Option.bind_some, hgroups, hdivided, List.foldlM_append]
  cases gss.foldlM Progress.line ⟨[], []⟩ with
  | none => rfl
  | some p => simp [line_nil]

/-! ## Keys -/

theorem key?_ofKey (k : String) : key? (.token (.ofKey k)) = some k := by
  rw [Token.ofKey]
  split
  next h =>
    rw [Bool.and_eq_true] at h
    rw [key?, if_pos h.2, String.ofList_toList]
  next => rfl

/-- Tokens of which keys and values are made. -/
def IsWord : Token → Prop
  | .bare _ | .string _ _ | .dot => True
  | _ => False

theorem IsWord.isFlat (h : IsWord t) : IsFlat t := by
  cases t <;> simp_all [IsWord, IsFlat]

theorem IsWord.isBlank (h : IsWord t) : isBlank (.token t) = false := by
  cases t <;> simp_all [IsWord, Group.isBlank]

theorem IsWord.isSpace (h : IsWord t) : isSpace (.token t) = false := by
  cases t <;> simp_all [IsWord, Group.isSpace, Group.isBlank]

theorem IsWord.isToken {u : Token} (h : IsWord t) (hu : ¬IsWord u) : isToken u (.token t) = false := by
  rw [Group.isToken, beq_eq_false_iff_ne]
  rintro rfl
  exact hu h

theorem isWord_ofKey (k : String) : IsWord (.ofKey k) := by
  rw [Token.ofKey]
  split <;> trivial

/-- The tokens of keys with dots between them. -/
def pathTokens : List String → List Token
  | [] => []
  | [k] => [.ofKey k]
  | k :: path => .ofKey k :: .dot :: pathTokens path

theorem passes_path : ∀ {path : List String}, path ≠ [] →
    Token.Passes .between (['.'].intercalate (path.map keyChars) ++ [']']) (pathTokens path ++ [.closeBracket]) .between
  | [k], _ => by
    rw [List.map_singleton, List.intercalate_singleton]
    exact (Token.writes_key k).passes rfl
  | k :: l :: path, _ => by
    have hrest := passes_path (List.cons_ne_nil l path)
    rw [List.map_cons, List.map_cons, List.intercalate_cons_cons, ← List.map_cons, List.append_assoc]
    exact ((Token.writes_key k).passes (c := '.') rfl).append hrest

theorem isWord_pathTokens : ∀ {path : List String}, ∀ t ∈ pathTokens path, IsWord t
  | [] => by simp [pathTokens]
  | [k] => List.forall_mem_singleton.2 (isWord_ofKey k)
  | k :: l :: path => List.forall_mem_cons.2 ⟨isWord_ofKey k, List.forall_mem_cons.2 ⟨trivial, isWord_pathTokens⟩⟩

theorem path?_pathTokens : ∀ {path : List String}, path ≠ [] → path? ((pathTokens path).map .token) = some path
  | [k], _ => by
    show (key? (.token (.ofKey k))).map ([·]) = some [k]
    rw [key?_ofKey]
    rfl
  | k :: l :: path, _ => by
    have hrest := path?_pathTokens (List.cons_ne_nil l path)
    have hdot : isToken .dot (.token .dot) = true := by simp [isToken]
    rw [pathTokens, List.map_cons, List.map_cons, path?, if_pos hdot, key?_ofKey, hrest]
    · rfl
    · simp

theorem keyPath?_pathTokens (hne : path ≠ []) (hlen : path.length ≤ maxDepth) :
    keyPath? ((pathTokens path).map .token) = some path := by
  have hblank : ((pathTokens path).map Group.token).filter (!isBlank ·) = (pathTokens path).map .token := by
    refine List.filter_eq_self.2 fun g hg => ?_
    obtain ⟨t, ht, rfl⟩ := List.mem_map.1 hg
    rw [(isWord_pathTokens t ht).isBlank]
    rfl
  rw [keyPath?, hblank, path?_pathTokens hne]
  simp [hlen]

/-! ## Headers and settings -/

/-- A header has its path in brackets. -/
theorem writesLine_header (hne : path ≠ []) :
    WritesLine (Section.headerChars path) [.brackets ((pathTokens path).map .token)] := by
  have hchars : Section.headerChars path = '[' :: ((['.'].intercalate (path.map keyChars) ++ [']']) ++ ['\n']) := by
    rw [Section.headerChars, if_neg (by simpa using hne), List.append_assoc]
    rfl
  refine ⟨⟨.openBracket :: (pathTokens path ++ [.closeBracket]), ?_, fun acc more => ?_⟩, by simp [isToken], ?_⟩
  · have hpasses : Token.Passes .between (Section.headerChars path)
        ([.openBracket] ++ ((pathTokens path ++ [.closeBracket]) ++ [.newline])) .between := by
      rw [hchars]
      exact .cons rfl ((passes_path hne).append (.single rfl))
    exact hpasses
  · rw [List.cons_append, List.append_assoc, gather, gather_flat fun t ht => (isWord_pathTokens t ht).isFlat]
    simp [gather]
  · have hpath : '\r' ∉ ['.'].intercalate (path.map keyChars) := by
      refine not_mem_intercalate (by decide) fun cs hcs => ?_
      obtain ⟨k, -, rfl⟩ := List.mem_map.1 hcs
      exact (Token.writes_key k).unbroken
    rw [hchars]
    simp [hpath]

theorem line_header (hne : path ≠ []) (hlen : path.length ≤ maxDepth) (p : Progress) :
    p.line [.brackets ((pathTokens path).map .token)] =
      (p.root.declare Layout.openTable path).map fun root => ⟨path, root⟩ := by
  have hkey := keyPath?_pathTokens hne hlen
  have htrim : trim isBlank [.brackets ((pathTokens path).map .token)] = [.brackets ((pathTokens path).map .token)] := rfl
  rw [Progress.line, htrim]
  split
  next heq => cases heq
  next key heq =>
    -- The path is made of tokens, and none of them is a bracket.
    injection heq with heq
    injection heq with heq
    have hmem : Group.brackets key ∈ (pathTokens path).map Group.token := heq ▸ List.mem_singleton_self _
    obtain ⟨t, -, ht⟩ := List.mem_map.1 hmem
    cases ht
  next key _ heq =>
    injection heq with heq
    injection heq with heq
    rw [← heq, hkey]
    simp only [Option.bind_eq_bind, Option.bind_some]
    cases p.root.declare Layout.openTable path <;> rfl
  next hother => exact absurd rfl (hother _)

/-- The groups of a setting. -/
def settingGroups (k : String) (t : Token) : List Group :=
  [.ofKey k, .blank ' ', .equals, .blank ' ', t].map .token

theorem writesLine_setting {s : String × Setting} (ht : Token.Writes s.2.chars t) (hword : IsWord t) :
    WritesLine (Section.settingChars s) (settingGroups s.1 t) := by
  have hkey := Token.writes_key s.1
  have hchars : Section.settingChars s = (keyChars s.1 ++ [' ']) ++ (['=', ' '] ++ (s.2.chars ++ ['\n'])) := by
    simp [Section.settingChars]
  refine ⟨⟨[.ofKey s.1, .blank ' ', .equals, .blank ' ', t], ?_, fun acc more => gather_flat ?_ [] acc more⟩, ?_, ?_⟩
  · have hpasses : Token.Passes .between (Section.settingChars s)
        ([.ofKey s.1, .blank ' '] ++ ([.equals] ++ ([.blank ' '] ++ [t, .newline]))) .between := by
      rw [hchars]
      exact (hkey.passes rfl).append (.cons rfl (.cons rfl (ht.passes rfl)))
    exact hpasses
  · simp only [List.forall_mem_cons]
    exact ⟨(isWord_ofKey s.1).isFlat, by simp [IsFlat], by simp [IsFlat], by simp [IsFlat], hword.isFlat, by simp⟩
  · simp only [settingGroups, List.map_cons, List.map_nil, List.forall_mem_cons]
    exact ⟨(isWord_ofKey s.1).isToken id, rfl, rfl, rfl, hword.isToken id, by simp⟩
  · rw [hchars]
    simp [hkey.unbroken, ht.unbroken]

theorem assignment?_setting (hword : IsWord t) : assignment? (settingGroups k t) = some ([k], [.token t]) := by
  have hspace : isSpace (.token (.ofKey k)) = false ∧ isSpace (.token t) = false :=
    ⟨(isWord_ofKey k).isSpace, hword.isSpace⟩
  have hspan : (settingGroups k t).span (!isToken .equals ·) =
      ([.token (.ofKey k), .token (.blank ' ')], [.token .equals, .token (.blank ' '), .token t]) := by
    have hne : isToken .equals (.token (.ofKey k)) = false := (isWord_ofKey k).isToken id
    have hblank : isToken .equals (.token (.blank ' ')) = false := rfl
    have hequals : isToken .equals (.token .equals) = true := rfl
    simp [settingGroups, List.span_eq_takeWhile_dropWhile, hne, hblank, hequals]
  have hpath : keyPath? [.token (.ofKey k)] = some [k] :=
    @keyPath?_pathTokens [k] (List.cons_ne_nil k []) (Nat.le_of_ble_eq_true rfl)
  have hblank : isSpace (.token (.blank ' ')) = true := rfl
  have htrim : trim isSpace [.token (.ofKey k), .token (.blank ' ')] = [.token (.ofKey k)] := by
    simp [trim, hspace.1, hblank]
  have htrimmed : trim isSpace [.token (.blank ' '), .token t] = [.token t] := by
    simp [trim, hspace.2, hblank]
  rw [assignment?, hspan]
  simp only [htrim, htrimmed, hpath, Option.map_some]

theorem line_setting {v : Toml} (hword : IsWord t) (hvalue : value? maxDepth [.token t] = some v) (p : Progress) :
    p.line (settingGroups k t) = (p.root.within (Layout.assign v [k]) p.header).map fun root => ⟨p.header, root⟩ := by
  have htrim : trim isBlank (settingGroups k t) = settingGroups k t := by
    simp [trim, settingGroups, (isWord_ofKey k).isBlank, hword.isBlank]
  rw [Progress.line, htrim]
  have hassignment := assignment?_setting (k := k) hword
  simp only [settingGroups, List.map_cons, List.map_nil] at hassignment ⊢
  simp only [hassignment, hvalue, Option.bind_eq_bind, Option.bind_some]
  cases p.root.within (Layout.assign v [k]) p.header <;> rfl

end Group

/-! ## Values -/

section
open GraphCalls.Token (digitValue)

variable {c : Char} {cs : List Char}

theorem value?_of_isDigit (h : c.isDigit = true) : Digits.value? c = some (digitValue c) := by
  have hbounds : '0' ≤ c ∧ c ≤ '9' := by simpa [Char.isDigit, Char.le_def] using h
  rw [Digits.value?, if_pos hbounds]
  rfl

theorem digitValue_lt (h : c.isDigit = true) : digitValue c < 10 := by
  have hbounds : 48 ≤ c.toNat ∧ c.toNat ≤ 57 := by simpa [Char.isDigit, UInt32.le_iff_toNat_le] using h
  have hvalue : digitValue c = c.toNat - 48 := rfl
  omega

theorem number?_of_digits (h : ∀ c ∈ cs, c.isDigit = true) :
    Digits.number? 10 cs = some (NumberLiteral.digitsValue (cs.map digitValue)) := by
  rw [Digits.number?, NumberLiteral.digitsValue, List.foldl_map]
  generalize 0 = n
  induction cs generalizing n with
  | nil => rfl
  | cons c cs ih =>
    obtain ⟨hc, hcs⟩ := List.forall_mem_cons.1 h
    rw [List.foldlM_cons, value?_of_isDigit hc]
    simp only [digitValue_lt hc, if_true, Option.bind_eq_bind, Option.bind_some]
    rw [ih hcs, List.foldl_cons, Nat.mul_comm]

end

namespace Scalar

variable {c : Char} {cs : List Char}

theorem ne_of_isDigit {d : Char} (h : c.isDigit = true) (hd : d.isDigit = false) : c ≠ d := by
  rintro rfl
  rw [h] at hd
  cases hd

theorem isGrouped_of_digits : ∀ {cs : List Char}, cs ≠ [] → (∀ c ∈ cs, c.isDigit = true) → isGrouped cs = true
  | [c], _, h => by
    have hc : c ≠ '_' := ne_of_isDigit (h c (List.mem_singleton_self c)) rfl
    simpa [isGrouped] using hc
  | c :: d :: cs, _, h => by
    obtain ⟨hc, hrest⟩ := List.forall_mem_cons.1 h
    have hc : c ≠ '_' := ne_of_isDigit hc rfl
    have hd : d ≠ '_' := ne_of_isDigit (hrest d (List.mem_cons_self ..)) rfl
    rw [isGrouped, isGrouped_of_digits (List.cons_ne_nil d cs) hrest]
    · simpa using hc
    all_goals simp [hd]

theorem decimal?_natChars (n : Nat) : decimal? (Number.natChars n) = some n := by
  have hdigits : ∀ c ∈ Number.natChars n, c.isDigit = true := Number.isDigit_of_mem_natChars
  have hzero : hasLeadingZero (Number.natChars n) = false := by
    rw [hasLeadingZero.eq_def]
    split
    next heq =>
      obtain rfl := Number.eq_zero_of_head?_natChars (n := n) (by rw [heq]; rfl)
      cases heq
    next => rfl
  have hfilter : (Number.natChars n).filter (· != '_') = Number.natChars n :=
    List.filter_eq_self.2 fun c hc => by simpa using ne_of_isDigit (hdigits c hc) rfl
  have hgrouped : isGrouped (Number.natChars n) = true := isGrouped_of_digits Nat.toDigits_ne_nil hdigits
  rw [decimal?, hzero, grouped?, hgrouped, hfilter, number?_of_digits hdigits, Number.digitsValue_natChars]
  rfl

theorem integer?_natChars {n : Nat} (h : (n : Int) ≤ maxInt) : integer? (Number.natChars n) = some (n : Int) := by
  have hdigits : ∀ c ∈ Number.natChars n, c.isDigit = true := Number.isDigit_of_mem_natChars
  have hsigned : signed (Number.natChars n) = (false, Number.natChars n) := by
    rw [signed.eq_def]
    split
    next heq => exact absurd (hdigits '-' (heq ▸ List.mem_cons_self ..)) (by decide)
    next heq => exact absurd (hdigits '+' (heq ▸ List.mem_cons_self ..)) (by decide)
    next => rfl
  have hbounds : minInt ≤ (n : Int) ∧ (n : Int) ≤ maxInt := ⟨by simp only [minInt]; omega, h⟩
  -- A letter behind the first digit would be no digit.
  have hletter : ∀ c d cs, Number.natChars n = c :: d :: cs → d.isDigit = true := fun c d cs heq =>
    hdigits d (heq ▸ List.mem_cons_of_mem _ (List.mem_cons_self ..))
  rw [integer?]
  · simp [hsigned, decimal?_natChars, hbounds, Option.filter]
  all_goals exact fun ds heq => absurd (hletter _ _ _ heq) (by decide)

/-- A natural number is read as itself. -/
theorem ofChars?_natChars {n : Nat} (h : (n : Int) ≤ maxInt) : ofChars? (Number.natChars n) = some (.integer n) := by
  have hdigits : ∀ c ∈ Number.natChars n, c.isDigit = true := Number.isDigit_of_mem_natChars
  have htrue : Number.natChars n ≠ ['t', 'r', 'u', 'e'] := fun heq =>
    absurd (hdigits 't' (heq ▸ List.mem_cons_self ..)) (by decide)
  have hfalse : Number.natChars n ≠ ['f', 'a', 'l', 's', 'e'] := fun heq =>
    absurd (hdigits 'f' (heq ▸ List.mem_cons_self ..)) (by decide)
  rw [ofChars?, if_neg htrue, if_neg hfalse, integer?_natChars h]

end Scalar

/-- The value of a setting. -/
def Setting.toToml : Setting → Toml
  | .string s => .string s
  | .integer n => .integer n

/-- Natural numbers that a document may hold, and all strings. -/
def Setting.Fits : Setting → Prop
  | .string _ => True
  | .integer n => 0 ≤ n ∧ n ≤ maxInt

/-- A setting is written as one token, and that token is read as its value. -/
theorem Setting.Fits.exists_token {v : Setting} (h : v.Fits) : ∃ t, Group.IsWord t ∧ Token.Writes v.chars t ∧
    Group.value? Group.maxDepth [.token t] = some v.toToml := by
  cases v with
  | string s =>
    obtain ⟨multiline, hwrites⟩ := Token.writes_string s.toList
    refine ⟨.string multiline (String.ofList s.toList), trivial, hwrites, ?_⟩
    simp [Group.value?, Setting.toToml]
  | integer i =>
    obtain ⟨n, rfl⟩ := Int.eq_ofNat_of_zero_le h.1
    refine ⟨.bare (Number.natChars n), trivial, Token.writes_natural n, ?_⟩
    have hchars := Scalar.ofChars?_natChars h.2
    simp [Group.value?, Group.bareChars?, Group.maxDepth, Setting.toToml, hchars]

/-! ## Sections -/

namespace Section

/-- Sets a setting in the table of a path. -/
def fill (path : List String) (root : Layout) (v : String × Setting) : Option Layout :=
  root.within (Layout.assign v.2.toToml [v.1]) path

/-- Opens the table of a section and sets its settings. -/
def enter (p : Group.Progress) (s : Section) : Option Group.Progress := do
  let root ← p.root.declare Layout.openTable s.path
  let root ← s.settings.foldlM (fill s.path) root
  return ⟨s.path, root⟩

/-- The path is not that of the outermost table, nor too long to be read, and
all settings fit. -/
structure Writable (s : Section) : Prop where
  path : s.path ≠ [] ∧ s.path.length ≤ Group.maxDepth
  settings : ∀ v ∈ s.settings, v.2.Fits

variable {s : Section} {ss : List Section}

theorem exists_setting_lines {settings : List (String × Setting)} (h : ∀ v ∈ settings, v.2.Fits) :
    ∃ gss, List.Forall₂ Group.WritesLine (settings.map settingChars) gss ∧
      ∀ path root, gss.foldlM Group.Progress.line ⟨path, root⟩ =
        (settings.foldlM (fill path) root).map fun root => ⟨path, root⟩ := by
  induction settings with
  | nil => exact ⟨[], .nil, fun _ _ => rfl⟩
  | cons v settings ih =>
    obtain ⟨hv, hsettings⟩ := List.forall_mem_cons.1 h
    obtain ⟨gss, hlines, hread⟩ := ih hsettings
    obtain ⟨t, hword, hwrites, hvalue⟩ := Setting.Fits.exists_token hv
    refine ⟨_ :: gss, .cons (Group.writesLine_setting hwrites hword) hlines, fun path root => ?_⟩
    rw [List.foldlM_cons, List.foldlM_cons, Group.line_setting hword hvalue, fill]
    cases Layout.within (Layout.assign v.2.toToml [v.1]) path root with
    | none => rfl
    | some root => exact hread path root

/-- The lines of a section are read as the section. -/
theorem Writable.exists_lines (h : s.Writable) :
    ∃ css gss, css.flatten = s.chars ∧ List.Forall₂ Group.WritesLine css gss ∧
      ∀ p, gss.foldlM Group.Progress.line p = enter p s := by
  obtain ⟨hne, hlen⟩ := h.path
  obtain ⟨gss, hlines, hread⟩ := exists_setting_lines h.settings
  refine ⟨headerChars s.path :: s.settings.map settingChars, _ :: gss, ?_,
    .cons (Group.writesLine_header hne) hlines, fun p => ?_⟩
  · rw [List.flatten_cons, chars, List.flatMap_def]
  · rw [List.foldlM_cons, Group.line_header hne hlen, enter]
    cases p.root.declare Layout.openTable s.path with
    | none => rfl
    | some root =>
      simp only [Option.map_some, Option.bind_eq_bind, Option.bind_some, hread]
      cases s.settings.foldlM (fill s.path) root <;> rfl

/-- Sections are read one after the other, whatever their lines: the empty one
between two of them does not matter. -/
theorem exists_lines (h : ∀ s ∈ ss, s.Writable) : ∃ css gss,
    css.flatten = ['\n'].intercalate (ss.map chars) ∧ List.Forall₂ Group.WritesLine css gss ∧
      ∀ p, gss.foldlM Group.Progress.line p = ss.foldlM enter p := by
  induction ss with
  | nil => exact ⟨[], [], rfl, .nil, fun _ => rfl⟩
  | cons s ss ih =>
    obtain ⟨hs, hss⟩ := List.forall_mem_cons.1 h
    obtain ⟨css, gss, hchars, hlines, hread⟩ := hs.exists_lines
    cases ss with
    | nil =>
      refine ⟨css, gss, by simp [hchars], hlines, fun p => ?_⟩
      rw [hread, List.foldlM_cons]
      cases enter p s <;> rfl
    | cons s' ss =>
      obtain ⟨css', gss', hchars', hlines', hread'⟩ := ih hss
      refine ⟨css ++ ['\n'] :: css', gss ++ [] :: gss', ?_, List.rel_append hlines (.cons Group.writesLine_empty hlines'),
        fun p => ?_⟩
      · rw [List.map_cons] at hchars' ⊢
        rw [List.flatten_append, List.flatten_cons, hchars, hchars', List.map_cons, List.intercalate_cons_cons,
          List.append_assoc]
      · rw [List.foldlM_append, hread, List.foldlM_cons]
        cases enter p s with
        | none => rfl
        | some p' => exact hread' p'

end Section

/-- **The text of sections is read as the sections**, one after the other. -/
theorem ofText?_textOf {ss : List Section} (h : ∀ s ∈ ss, s.Writable) :
    ofText? (textOf ss) = (ss.foldlM Section.enter ⟨[], []⟩).map (·.root.toToml) := by
  obtain ⟨css, gss, hchars, hlines, hread⟩ := Section.exists_lines h
  have hheader : ∀ s ∈ ss, ∃ cs, s.chars = '[' :: cs := fun s hs => by
    rw [Section.chars, Section.headerChars, if_neg (by simpa using (h s hs).path.1)]
    exact ⟨_, rfl⟩
  have hnone : (ss.map Section.chars).filter (!·.isEmpty) = ss.map Section.chars := by
    refine List.filter_eq_self.2 fun cs hcs => ?_
    obtain ⟨s, hs, rfl⟩ := List.mem_map.1 hcs
    obtain ⟨cs, hcs⟩ := hheader s hs
    rw [hcs]
    rfl
  have hmark : '\ufeff' ∉ css.flatten.head? := by
    rw [hchars]
    cases ss with
    | nil => simp
    | cons s ss =>
      obtain ⟨cs, hcs⟩ := hheader s (List.mem_cons_self ..)
      cases ss <;> simp [hcs, List.intercalate_cons_cons]
  rw [textOf, hnone, ← hchars, Group.ofText?_of_lines hlines hmark, hread]

end Toml
end GraphCalls
