/-
Reading the text of an operation.

A text is read from the outside in: its head and its body, the calls of the
body, the parts of a call. Names must be free of the characters of the
grammar, and selections balanced; nothing else is asked of them, and reading
gives back what was written (`read_text`).
-/
import GraphCalls.Proofs.Call.Nesting
import GraphCalls.Proofs.Call.OperationSyntax
import GraphCalls.Proofs.Joined
import GraphCalls.Proofs.Traversal
import Mathlib.Data.List.TakeDrop

namespace GraphCalls

/-! ## Parts of a text -/

/-- The text before the first `c`, and the text after it. -/
def cut (c : Char) : List Char → Option (List Char × List Char)
  | [] => none
  | d :: cs => if d = c then some ([], cs) else (cut c cs).map fun (a, b) => (d :: a, b)

theorem cut_append {c : Char} : ∀ {a : List Char} (b : List Char), c ∉ a → cut c (a ++ c :: b) = some (a, b)
  | [], b, _ => by rw [List.nil_append, cut, if_pos rfl]
  | d :: a, b, h => by
    simp only [List.mem_cons, not_or] at h
    rw [List.cons_append, cut, if_neg (Ne.symm h.1), cut_append b h.2]
    rfl

theorem span_append {p : Char → Bool} {a b : List Char} (ha : ∀ c ∈ a, p c = true)
    (hb : ∀ c ∈ b.head?, p c = false) : (a ++ b).span p = (a, b) := by
  have htake : b.takeWhile p = [] := by cases b <;> simp_all
  have hdrop : b.dropWhile p = b := by cases b <;> simp_all
  rw [List.span_eq_takeWhile_dropWhile, List.takeWhile_append_of_pos ha, List.dropWhile_append_of_pos ha,
    htake, hdrop, List.append_nil]

/-- The text between braces. -/
def inBraces? : List Char → Option (List Char)
  | '{' :: cs => if cs.getLast? = some '}' then some cs.dropLast else none
  | _ => none

theorem inBraces?_braces (a : List Char) : inBraces? ('{' :: (a ++ ['}'])) = some a := by
  simp [inBraces?]

theorem toList_parenthesised_nil (sep : String) : (Document.parenthesised sep []).toList = [] := by
  simp [Document.parenthesised]

theorem toList_parenthesised {α : Type} (sep : String) (text : α → String) {as : List α} (h : as ≠ []) :
    (Document.parenthesised sep (as.map text)).toList =
      '(' :: (sep.toList.intercalate (as.map fun a => (text a).toList) ++ [')']) := by
  simp [Document.parenthesised, h, String.toList_intercalate, Function.comp_def]

/-- A list in parentheses, if there is one, and the text after it. Each piece
starts with `lead`, except that the first leaves it out. -/
def readList {α : Type} (lead : List Char) (piece : List Char → Option α) :
    List Char → Option (List α × List Char)
  | '(' :: cs => do
    let (inside, rest) ← cut ')' cs
    let as ← ((lead ++ inside).splitOn ',').mapM fun p => (p.dropPrefix? lead).bind piece
    return (as, rest)
  | cs => some ([], cs)

theorem append_intercalate (lead : List Char) : ∀ {ps : List (List Char)}, ps ≠ [] →
    lead ++ (',' :: lead).intercalate ps = [','].intercalate (ps.map (lead ++ ·))
  | [p], _ => by simp
  | p :: q :: ps, _ => by
    have ih := append_intercalate lead (List.cons_ne_nil q ps)
    rw [List.map_cons] at ih
    rw [List.intercalate_cons_cons, List.map_cons, List.map_cons, List.intercalate_cons_cons, ← ih]
    simp only [List.append_assoc, List.cons_append, List.nil_append]

/-- With `lead` before the first piece as well, only commas separate. -/
theorem splitOn_lead_intercalate {lead : List Char} {ps : List (List Char)} (hne : ps ≠ [])
    (hlead : ',' ∉ lead) (hps : ∀ p ∈ ps, ',' ∉ p) :
    (lead ++ (',' :: lead).intercalate ps).splitOn ',' = ps.map (lead ++ ·) := by
  rw [append_intercalate lead hne, List.splitOn_intercalate]
  · intro l hl
    obtain ⟨p, hp, rfl⟩ := List.mem_map.1 hl
    rw [List.mem_append, not_or]
    exact ⟨hlead, hps p hp⟩
  · simpa using hne

/-- A list is read back if each piece is, and none has the characters that
bound it. -/
theorem readList_parenthesised {α : Type} {lead : List Char} {piece : List Char → Option α} {sep : String}
    {text : α → String} {as : List α} {rest : List Char} (hsep : sep.toList = ',' :: lead)
    (hlead : ',' ∉ lead ∧ ')' ∉ lead) (hbounds : ∀ a ∈ as, ',' ∉ (text a).toList ∧ ')' ∉ (text a).toList)
    (hpiece : ∀ a ∈ as, piece (text a).toList = some a) (hrest : '(' ∉ rest.head?) :
    readList lead piece ((Document.parenthesised sep (as.map text)).toList ++ rest) = some (as, rest) := by
  by_cases has : as = []
  · rw [has, List.map_nil, toList_parenthesised_nil, List.nil_append]
    unfold readList
    split
    · simp at hrest
    · rfl
  · let ps := as.map fun a => (text a).toList
    have hps : ps ≠ [] := by simpa [ps] using has
    have hbounds : ∀ p ∈ ps, ',' ∉ p ∧ ')' ∉ p := by simpa [ps] using hbounds
    have hcut : ')' ∉ (',' :: lead).intercalate ps :=
      not_mem_intercalate (by simp [hlead.2]) fun p hp => (hbounds p hp).2
    have hsplit : (lead ++ (',' :: lead).intercalate ps).splitOn ',' = ps.map (lead ++ ·) :=
      splitOn_lead_intercalate hps hlead.1 fun p hp => (hbounds p hp).1
    have hread : (ps.map (lead ++ ·)).mapM (fun p => (p.dropPrefix? lead).bind piece) = some as := by
      refine mapM_eq_some_iff.2 ?_
      simp only [ps, List.forall₂_map_left_iff]
      refine List.forall₂_same.2 fun a ha => ?_
      rw [List.dropPrefix?_append_of_beq _ (beq_self_eq_true lead)]
      exact hpiece a ha
    rw [toList_parenthesised sep text has, hsep, List.cons_append, List.append_assoc, List.singleton_append,
      readList, cut_append rest hcut]
    simp only [Option.bind_eq_bind, Option.bind_some, hsplit, hread]
    rfl

/-! ## Calls -/

/-- What the reader asks of a call. -/
structure CallSyntax.Readable (c : CallSyntax) : Prop where
  aliasName : Plain c.aliasName
  field : Plain c.field
  args : ∀ a ∈ c.args, Plain a.1 ∧ Plain a.2
  selection : ∀ s ∈ c.selection, Balanced s

namespace CallSyntax

/-- An argument: `name:$variable`. -/
def readArgument (cs : List Char) : Option (String × String) := do
  let (name, cs) ← cut ':' cs
  match cs with
  | '$' :: cs => some (String.ofList name, String.ofList cs)
  | _ => none

/-- A selection in braces, or nothing. -/
def readSelection : List Char → Option (Option String)
  | [] => some none
  | cs => (inBraces? cs).map fun s => some (String.ofList s)

/-- Whether a character can be of a field's name. -/
def isOfField (c : Char) : Bool := c ≠ '(' && c ≠ '{'

/-- A call: `alias:field(…){…}`. -/
def read (cs : List Char) : Option CallSyntax := do
  let (aliasName, cs) ← cut ':' cs
  let (field, cs) := cs.span isOfField
  let (args, cs) ← readList [' '] readArgument cs
  let selection ← readSelection cs
  return ⟨String.ofList aliasName, String.ofList field, args, selection⟩

theorem toList_argumentText (a : String × String) :
    (argumentText a).toList = a.1.toList ++ ':' :: '$' :: a.2.toList := by
  simp [argumentText]

theorem readArgument_text {a : String × String} (h : Plain a.1) :
    readArgument (argumentText a).toList = some a := by
  rw [toList_argumentText, readArgument, cut_append _ (h ':' (by decide))]
  simp

theorem toList_selectionText_some (s : String) :
    (selectionText (some s)).toList = '{' :: (s.toList ++ ['}']) := by
  simp [selectionText]

theorem readSelection_selectionText : ∀ selection : Option String,
    readSelection (selectionText selection).toList = some selection
  | none => by simp [selectionText, readSelection]
  | some s => by
    rw [toList_selectionText_some, readSelection, inBraces?_braces] <;> simp

theorem toList_text (c : CallSyntax) :
    c.text.toList = c.aliasName.toList ++ ':' :: (c.field.toList ++
      ((Document.parenthesised ", " (c.args.map argumentText)).toList ++
        (selectionText c.selection).toList)) := by
  simp [text]

theorem head?_selectionText (selection : Option String) : '(' ∉ (selectionText selection).toList.head? := by
  cases selection <;> simp [selectionText]

/-- The text after the field starts with a character that is not of it. -/
theorem head?_afterField (c : CallSyntax) :
    ∀ d ∈ ((Document.parenthesised ", " (c.args.map argumentText)).toList ++
      (selectionText c.selection).toList).head?, isOfField d = false := by
  by_cases h : c.args = []
  · rw [h, List.map_nil, toList_parenthesised_nil, List.nil_append]
    cases c.selection <;> simp [selectionText, isOfField]
  · simp [toList_parenthesised _ _ h, isOfField]

theorem Readable.argument_bounds {c : CallSyntax} (h : c.Readable) :
    ∀ a ∈ c.args, ',' ∉ (argumentText a).toList ∧ ')' ∉ (argumentText a).toList := by
  intro a ha
  have hname := (h.args a ha).1
  have hvar := (h.args a ha).2
  simp only [toList_argumentText, List.mem_append, List.mem_cons, not_or]
  exact ⟨⟨hname ',' (by decide), by decide, by decide, hvar ',' (by decide)⟩,
    ⟨hname ')' (by decide), by decide, by decide, hvar ')' (by decide)⟩⟩

/-- A call is read back. -/
theorem read_text {c : CallSyntax} (h : c.Readable) : read c.text.toList = some c := by
  have hfield : ∀ d ∈ c.field.toList, isOfField d = true := by
    intro d hd
    have hparen : d ≠ '(' := fun he => h.field '(' (by decide) (he ▸ hd)
    have hbrace : d ≠ '{' := fun he => h.field '{' (by decide) (he ▸ hd)
    simp [isOfField, hparen, hbrace]
  have hargs : readList [' '] readArgument ((Document.parenthesised ", " (c.args.map argumentText)).toList ++
      (selectionText c.selection).toList) = some (c.args, (selectionText c.selection).toList) :=
    readList_parenthesised (by decide) (by decide) h.argument_bounds
      (fun a ha => readArgument_text (h.args a ha).1) (head?_selectionText c.selection)
  rw [toList_text, read, cut_append _ (h.aliasName ':' (by decide))]
  simp only [Option.bind_eq_bind, Option.bind_some, span_append hfield (head?_afterField c), hargs,
    readSelection_selectionText, String.ofList_toList]
  rfl

/-- No comma in a call separates it. -/
theorem unbroken_text {c : CallSyntax} (h : c.Readable) : Place.Unbroken c.text.toList := by
  rw [toList_text, ← List.singleton_append]
  refine (Place.unbroken_of_plain h.aliasName).append (Place.unbroken_colon.append
    ((Place.unbroken_of_plain h.field).append (.append ?_ ?_)))
  · by_cases hargs : c.args = []
    · rw [hargs, List.map_nil, toList_parenthesised_nil]
      exact Place.unbroken_nil
    · rw [toList_parenthesised _ _ hargs]
      refine Place.unbroken_parentheses (not_mem_intercalate (by decide) fun p hp => ?_)
      obtain ⟨a, ha, rfl⟩ := List.mem_map.1 hp
      exact (h.argument_bounds a ha).2
  · cases hs : c.selection with
    | none => exact Place.unbroken_nil
    | some s =>
      rw [toList_selectionText_some]
      exact Place.unbroken_braces (h.selection s hs)

end CallSyntax

/-! ## Operations -/

/-- What the reader asks of an operation. -/
structure OperationSyntax.Readable (op : OperationSyntax) : Prop where
  declared : ∀ v ∈ op.declared, Plain v.1 ∧ Plain v.2
  calls : ∀ c ∈ op.calls, c.Readable

namespace OperationSyntax

/-- A declared variable: `$name:type`. -/
def readDeclaration : List Char → Option (String × String)
  | '$' :: cs => do
    let (name, type) ← cut ':' cs
    return (String.ofList name, String.ofList type)
  | _ => none

/-- The calls of a body; none if it is empty. -/
def readCalls (body : List Char) : Option (List CallSyntax) :=
  if body.isEmpty then some [] else (Place.splitCalls .outside body).mapM CallSyntax.read

/-- An operation: `kind queryName(…){…}`. -/
def read (text : String) : Option OperationSyntax := do
  let (kind, cs) ← cut ' ' text.toList
  let kind ← OperationKind.ofText? (String.ofList kind)
  let cs ← cs.dropPrefix? "queryName".toList
  let (declared, cs) ← readList [] readDeclaration cs
  let body ← inBraces? cs
  let calls ← readCalls body
  return ⟨kind, declared, calls⟩

theorem toList_declarationText (v : String × String) :
    (declarationText v).toList = '$' :: (v.1.toList ++ ':' :: v.2.toList) := by
  simp [declarationText]

theorem readDeclaration_text {v : String × String} (h : Plain v.1) :
    readDeclaration (declarationText v).toList = some v := by
  rw [toList_declarationText, readDeclaration, cut_append _ (h ':' (by decide))]
  simp

theorem Readable.declaration_bounds {op : OperationSyntax} (h : op.Readable) :
    ∀ v ∈ op.declared, ',' ∉ (declarationText v).toList ∧ ')' ∉ (declarationText v).toList := by
  intro v hv
  have hname := (h.declared v hv).1
  have htype := (h.declared v hv).2
  simp only [toList_declarationText, List.mem_append, List.mem_cons, not_or]
  exact ⟨⟨by decide, hname ',' (by decide), by decide, htype ',' (by decide)⟩,
    ⟨by decide, hname ')' (by decide), by decide, htype ')' (by decide)⟩⟩

theorem readCalls_intercalate : ∀ {calls : List CallSyntax}, (∀ c ∈ calls, c.Readable) →
    readCalls ([','].intercalate (calls.map fun c => c.text.toList)) = some calls
  | [], _ => rfl
  | c :: calls, h => by
    have hsplit : Place.splitCalls .outside ([','].intercalate ((c :: calls).map fun c => c.text.toList)) =
        (c :: calls).map fun c => c.text.toList := by
      refine Place.splitCalls_intercalate (by simp) fun t ht => ?_
      obtain ⟨c, hc, rfl⟩ := List.mem_map.1 ht
      exact CallSyntax.unbroken_text (h c hc)
    -- The text of a call is never empty, so a body with calls is not.
    have hne : [','].intercalate ((c :: calls).map fun c => c.text.toList) ≠ [] := by
      intro hempty
      rw [hempty, List.map_cons, CallSyntax.toList_text] at hsplit
      simp [Place.splitCalls] at hsplit
    rw [readCalls, if_neg (by simpa using hne), hsplit]
    refine mapM_eq_some_iff.2 ?_
    rw [List.forall₂_map_left_iff]
    exact List.forall₂_same.2 fun c hc => CallSyntax.read_text (h c hc)

theorem toList_text (op : OperationSyntax) :
    op.text.toList = op.kind.text.toList ++ ' ' :: ("queryName".toList ++
      ((Document.parenthesised "," (op.declared.map declarationText)).toList ++
        '{' :: ([','].intercalate (op.calls.map fun c => c.text.toList) ++ ['}']))) := by
  simp [text, String.toList_intercalate, Function.comp_def]

/-- **An operation is read back** from its text. -/
theorem read_text {op : OperationSyntax} (h : op.Readable) : read op.text = some op := by
  have hkind : ' ' ∉ op.kind.text.toList ∧ OperationKind.ofText? op.kind.text = some op.kind := by
    cases op.kind <;> decide
  have hdeclared (rest : List Char) : readList [] readDeclaration
      ((Document.parenthesised "," (op.declared.map declarationText)).toList ++ '{' :: rest) =
        some (op.declared, '{' :: rest) :=
    readList_parenthesised (by decide) (by decide) h.declaration_bounds
      (fun v hv => readDeclaration_text (h.declared v hv).1) (by simp)
  rw [read, toList_text, cut_append _ hkind.1]
  simp only [Option.bind_eq_bind, Option.bind_some, String.ofList_toList, hkind.2,
    List.dropPrefix?_append_of_beq _ (beq_self_eq_true "queryName".toList), hdeclared, inBraces?_braces,
    readCalls_intercalate h.calls]
  rfl

end OperationSyntax
end GraphCalls
