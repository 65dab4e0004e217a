/-
Data of a type, against data as it came.

Executed for data of a type, a call reads its response like one executed for
any data, and decodes the data on the way. So it succeeds exactly if the other
does and the data is absent or decodes, and then with the same errors and
extensions (`executeAs_decodes`).
-/
import GraphCalls.Proofs.Call.RequestBody
import GraphCalls.Proofs.Call.ResponseText
import GraphCalls.Proofs.Json.Decoding

namespace GraphCalls

/-! ## Types of data -/

/-- The types of data that are looked at: integers of 64 bits with a sign,
strings, lists of such integers, and maps from strings to them. -/
inductive DataType where
  | integer
  | string
  | integers
  | integerMap
deriving DecidableEq

namespace DataType

def Value : DataType → Type
  | .integer => Int
  | .string => String
  | .integers => List Int
  | .integerMap => Entries Int

/-- An integer of 64 bits with a sign. -/
def integerReader : Reader Int := .integer (-(Bounds.minSigned64 : Int)) Bounds.maxSigned64

def reader : (D : DataType) → Reader D.Value
  | .integer => integerReader
  | .string => .string
  | .integers => .list integerReader
  | .integerMap => .entries integerReader

/-- A value as it compares: a map has no order, so that of its keys stands for
any. -/
def canonical : (D : DataType) → D.Value → D.Value
  | .integer, n => n
  | .string, s => s
  | .integers, ns => ns
  | .integerMap, es => Json.sortMembers es

/-- Two values of a type are equal; maps are if their entries are, in order. -/
def Same (D : DataType) (x y : D.Value) : Prop := D.canonical x = D.canonical y

/-- Data of a type is what data as it came stands for: both are absent, or the
one decodes to the other. -/
inductive Decoded (D : DataType) : Option Json → Option D.Value → Prop
  | absent : Decoded D none none
  | present {v : Json} {x y : D.Value} (hv : D.reader.ofJson v = some y) (hx : D.Same x y) :
    Decoded D (some v) (some x)

end DataType

theorem DataType.agrees_integerReader : integerReader.Agrees := Reader.agrees_integer _ _

theorem DataType.strict_integerReader : integerReader.Strict := Reader.strict_integer _ _

/-- A value of a type is what the stored value decodes to, in its order. -/
theorem DataType.decodes_reader (D : DataType) :
    Reader.json.Decodes (fun v => (D.reader.ofJson v).map D.canonical) (D.reader.map D.canonical) := by
  have hagrees : ∀ {r : Reader D.Value}, r.Agrees → ∀ {d s v}, s.Distinct → Json.ofSource d s = .ok v →
      ((r.map D.canonical).ofSource d s).toOption = (r.ofJson v).map D.canonical := by
    intro r hr d s v hs hv
    rw [Reader.map, toOption_map, hr hs hv]
  cases D with
  | integer => exact (strict_integerReader.map _).decodes (hagrees agrees_integerReader)
  | string => exact (Reader.strict_string.map _).decodes (hagrees Reader.agrees_string)
  | integers => exact (strict_integerReader.list.map _).decodes (hagrees agrees_integerReader.list)
  | integerMap =>
    refine (strict_integerReader.entries.map _).decodes fun {d s v} hs hv => ?_
    exact (toOption_map ..).trans (agrees_integerReader.sortMembers_entries hs hv)

/-! ## Decoding a response -/

namespace Response

variable {β γ : Type} {f : β → Option γ} {r : Reader β} {t : Reader γ}

/-- Decodes the data of a response, if there is any. -/
def decode (f : β → Option γ) (a : Response β) : Option (Response γ) :=
  (a.data.mapM f).map fun x => ⟨x, a.errors, a.extensions⟩

def Draft.decode (f : β → Option γ) (a : Draft β) : Option (Draft γ) :=
  (a.data.mapM (Option.mapM f)).map fun x => ⟨x, a.errors, a.extensions⟩

theorem Draft.decode_eq_some_iff {a : Draft β} {b : Draft γ} : a.decode f = some b ↔
    a.data.mapM (Option.mapM f) = some b.data ∧ b.errors = a.errors ∧ b.extensions = a.extensions := by
  rw [decode, Option.map_eq_some_iff]
  constructor
  · rintro ⟨x, hx, rfl⟩
    exact ⟨hx, rfl, rfl⟩
  · rintro ⟨hx, herrors, hextensions⟩
    exact ⟨b.data, hx, by rw [← herrors, ← hextensions]⟩

theorem Draft.decode_some (x : Option β) (errors : Option (Option (List ErrorEntry)))
    (extensions : Option (Option Json)) :
    decode f ⟨some x, errors, extensions⟩ = (x.mapM f).map fun y => ⟨some y, errors, extensions⟩ := by
  have hdata : (some x).mapM (Option.mapM f) = (x.mapM f).map some := rfl
  rw [decode, hdata, Option.map_map]
  rfl

/-- Whether the data is there does not change when it is decoded. -/
theorem isSome_of_decode {a : Draft β} {b : Draft γ} (h : a.decode f = some b) : b.data.isSome = a.data.isSome := by
  obtain ⟨hdata, -, -⟩ := Draft.decode_eq_some_iff.1 h
  cases ha : a.data with
  | none =>
    rw [ha] at hdata
    rw [← Option.some.inj hdata]
    rfl
  | some x =>
    rw [ha] at hdata
    obtain ⟨y, -, hy⟩ := Option.map_eq_some_iff.1 hdata
    rw [← hy]
    rfl

/-- A draft of a response is decoded where its data is; the other fields are
read alike. -/
theorem decodes_record (h : r.Decodes f t) : Record.Decodes (Draft.decode f) (decode f) (record r) (record t) where
  fields := by
    refine .cons ⟨rfl, rfl, isSome_of_decode, fun {d s a} hs ha => ?_⟩ (.cons ?_ (.cons ?_ .nil))
    · obtain ⟨_ | _, errors, extensions⟩ := a
      swap
      · cases ha
      simp only [Field.of, toOption_map, h.option hs]
      cases ((Reader.option r).ofSource d s).toOption with
      | none => rfl
      | some x => exact Draft.decode_some x errors extensions
    · exact Field.decodes_of (fun h => (Draft.decode_eq_some_iff.1 h).2.1)
        fun x a => by simp only [Draft.decode, Option.map_map]; rfl
    · exact Field.decodes_of (fun h => (Draft.decode_eq_some_iff.1 h).2.2)
        fun x a => by simp only [Draft.decode, Option.map_map]; rfl
  apart := (orderly_record r).fields
  fresh := by
    simp only [record, List.forall_mem_cons]
    exact ⟨rfl, rfl, rfl, by simp⟩
  keep := rfl
  keep' := rfl
  empty := rfl
  finish a := by
    obtain ⟨_ | x, errors, extensions⟩ := a
    · rfl
    · rw [Draft.decode_some, Option.bind_map]
      exact Option.map_eq_bind ..

/-- A response is decoded as a whole, wherever in the text its data is. -/
theorem ofText_decodes (h : r.Decodes f t) {text : String} (hdistinct : (Source.parse text).root.Distinct) :
    (ofText t text).toOption = (ofText r text).toOption.bind (decode f) := by
  have hroot : ((reader t).ofSource Json.maxDepth (Source.parse text).root).toOption =
      ((reader r).ofSource Json.maxDepth (Source.parse text).root).toOption.bind (decode f) :=
    (decodes_record h).reader hdistinct
  rw [ofText, ofText, Reader.ofText, Reader.ofText, Source.Document.read, Source.Document.read, toOption_bind,
    toOption_bind, hroot, Option.bind_assoc, Option.bind_assoc]
  refine congrArg _ (funext fun a => ?_)
  cases (Source.parse text).trailing with
  | true => cases decode f a <;> rfl
  | false => exact Option.bind_fun_some (decode f a)

/-- A decoded response has decoded data, and else is as it was. -/
theorem decode_eq_some_iff {a : Response β} {b : Response γ} : decode f a = some b ↔
    a.data.mapM f = some b.data ∧ b.errors = a.errors ∧ b.extensions = a.extensions := by
  rw [decode, Option.map_eq_some_iff]
  constructor
  · rintro ⟨x, hx, rfl⟩
    exact ⟨hx, rfl, rfl⟩
  · rintro ⟨hx, herrors, hextensions⟩
    exact ⟨b.data, hx, by rw [← herrors, ← hextensions]⟩

theorem exists_of_decode_eq_none {a : Response β} (h : decode f a = none) : ∃ v, a.data = some v ∧ f v = none := by
  have hdata : a.data.mapM f = none := Option.map_eq_none_iff.1 h
  cases ha : a.data with
  | none =>
    rw [ha] at hdata
    cases hdata
  | some v =>
    rw [ha] at hdata
    exact ⟨v, rfl, Option.map_eq_none_iff.1 hdata⟩

variable {D : DataType} {text : String}

theorem decoded_of_mapM {v : Option Json} {x : Option D.Value}
    (h : v.mapM (fun v => (D.reader.ofJson v).map D.canonical) = some (x.map D.canonical)) : D.Decoded v x := by
  cases v with
  | none =>
    cases x with
    | none => exact .absent
    | some x => cases h
  | some v =>
    obtain ⟨y, hy, hx⟩ := Option.map_eq_some_iff.1 h
    obtain ⟨z, hz, rfl⟩ := Option.map_eq_some_iff.1 hy
    cases x with
    | none => cases hx
    | some x => exact .present hz (Option.some.inj hx).symm

/-- Either both ways there is a response, and the one is the other with its
data decoded; or there is none with data of the type, and if there is one with
any data then its data does not decode. -/
theorem ofText_decoded (D : DataType) (hdistinct : (Source.parse text).root.Distinct) :
    (∃ t u, ofText D.reader text = .ok t ∧ ofText .json text = .ok u ∧ D.Decoded u.data t.data ∧
      t.errors = u.errors ∧ t.extensions = u.extensions) ∨
    (∃ e, ofText D.reader text = .error e) ∧
      ∀ u, ofText .json text = .ok u → ∃ v, u.data = some v ∧ D.reader.ofJson v = none := by
  have htyped := ofText_decodes (Reader.decodes_map D.canonical D.reader) hdistinct
  rw [ofText_decodes D.decodes_reader hdistinct] at htyped
  cases ht : ofText D.reader text with
  | ok t =>
    have hdecode : decode (fun x => some (D.canonical x)) t = some ⟨t.data.map D.canonical, t.errors, t.extensions⟩ :=
      decode_eq_some_iff.2 ⟨by cases t.data <;> rfl, rfl, rfl⟩
    rw [ht] at htyped
    obtain ⟨u, hu, hdata⟩ := Option.bind_eq_some_iff.1 (htyped.trans hdecode)
    obtain ⟨hdata, herrors, hextensions⟩ := decode_eq_some_iff.1 hdata
    cases hread : ofText .json text with
    | error e =>
      rw [hread] at hu
      cases hu
    | ok u' =>
      rw [hread] at hu
      cases hu
      exact .inl ⟨t, u, rfl, rfl, decoded_of_mapM hdata, herrors, hextensions⟩
  | error e =>
    refine .inr ⟨⟨e, rfl⟩, fun u hu => ?_⟩
    rw [ht, hu] at htyped
    obtain ⟨v, hv, hnone⟩ := exists_of_decode_eq_none htyped
    exact ⟨v, hv, Option.map_eq_none_iff.1 hnone⟩

end Response

namespace Executor

variable {deadline after status : Nat} {body : String}

/-- An answer that is in time and no error is read. -/
theorem executeAs_result {δ : Type} (r : Reader δ) (hafter : after ≤ deadline) (hstatus : status < 400)
    (kind : OperationKind) (b : Batch) (headers : Entries String) :
    (executeAs r deadline kind b headers (.settles after (.answered ⟨status, body⟩))).result =
      readBody (Response.ofText r) body := by
  have herror : ¬ (400 ≤ status) := Nat.not_le.2 hstatus
  rw [executeAs, batchRequest_eq, post_ok]
  simp [Reply.await, hafter, bodyOf, Answer.isError, herror, Bind.bind, Except.bind]

theorem readBody_eq_ok_iff {α : Type} {f : String → Except ReadError α} {a : α} :
    readBody f body = .ok a ↔ f body = .ok a := by
  rw [readBody]
  cases f body <;> simp

/-- **Executed for data of a type, or for any data.** An answer that is no
error, in whose body no object repeats a name, is read as a response with data
of the type exactly if it is read as one with any data, and this is null or
decodes. Then the data of the one is absent where that of the other is, and else
what it decodes to, and errors and extensions are the same. In every other case
the response is invalid. -/
theorem executeAs_decodes (D : DataType) (hafter : after ≤ deadline) (hstatus : status < 400)
    (hbody : (Source.parse body).root.Distinct) (kind : OperationKind) (b : Batch) (headers : Entries String) :
    let reply := Reply.settles after (.answered ⟨status, body⟩)
    let typed := (executeAs D.reader deadline kind b headers reply).result
    let untyped := (execute deadline kind b headers reply).result
    ((∃ t, typed = .ok t) ↔
      ∃ u, untyped = .ok u ∧ (u.data = none ∨ ∃ v x, u.data = some v ∧ D.reader.ofJson v = some x)) ∧
    (∀ t u, typed = .ok t → untyped = .ok u →
      D.Decoded u.data t.data ∧ t.errors = u.errors ∧ t.extensions = u.extensions) ∧
    ((¬ ∃ t, typed = .ok t) → ∃ e, typed = .error (.invalidResponse e)) := by
  intro reply typed untyped
  have htyped : typed = readBody (Response.ofText D.reader) body := executeAs_result _ hafter hstatus kind b headers
  have huntyped : untyped = readBody (Response.ofText .json) body := executeAs_result _ hafter hstatus kind b headers
  rcases Response.ofText_decoded D hbody with ⟨t, u, ht, hu, hdata, herrors, hextensions⟩ | ⟨⟨e, he⟩, hall⟩
  · have htyped : typed = .ok t := htyped.trans (readBody_eq_ok_iff.2 ht)
    have huntyped : untyped = .ok u := huntyped.trans (readBody_eq_ok_iff.2 hu)
    refine ⟨⟨fun _ => ⟨u, huntyped, ?_⟩, fun _ => ⟨t, htyped⟩⟩, fun t' u' ht' hu' => ?_, fun h => absurd ⟨t, htyped⟩ h⟩
    · generalize u.data = v, t.data = x at hdata
      cases hdata with
      | absent => exact .inl rfl
      | @present v x y hv _ => exact .inr ⟨v, y, rfl, hv⟩
    · cases htyped.symm.trans ht'
      cases huntyped.symm.trans hu'
      exact ⟨hdata, herrors, hextensions⟩
  · have htyped : typed = .error (.invalidResponse e) := by rw [htyped, readBody, he]
    have hfails : ∀ t, typed ≠ .ok t := fun t ht => by cases htyped.symm.trans ht
    refine ⟨⟨fun ⟨t, ht⟩ => absurd ht (hfails t), ?_⟩, fun t u ht => absurd ht (hfails t), fun _ => ⟨e, htyped⟩⟩
    rintro ⟨u, hu, hdata⟩
    obtain ⟨v, hv, hnone⟩ := hall u (readBody_eq_ok_iff.1 (huntyped.symm.trans hu))
    rcases hdata with hdata | ⟨w, x, hw, hx⟩
    · cases hv.symm.trans hdata
    · cases hv.symm.trans hw
      cases hnone.symm.trans hx

/-- A response with a map as its data, which is stored in another order. -/
def countsText : String := "\x7b\"errors\": null, \"data\": \x7b\"b\": 1, \"a\": 2\x7d\x7d"

theorem executeAs_decodes_counts : ∃ t u : Response _, 10 ≤ 3000 ∧ 200 < 400 ∧
    (Source.parse countsText).root.Distinct ∧
    (executeAs DataType.integerMap.reader 3000 .query .empty [] (.settles 10 (.answered ⟨200, countsText⟩))).result =
      .ok t ∧
    (execute 3000 .query .empty [] (.settles 10 (.answered ⟨200, countsText⟩))).result = .ok u ∧
    u.data = some (.object [("a", .ofNat 2), ("b", .ofNat 1)]) ∧ DataType.integerMap.Decoded u.data t.data := by
  have hbody : (Source.parse countsText).root.Distinct := by decide +kernel
  have huntyped : (execute 3000 .query .empty [] (.settles 10 (.answered ⟨200, countsText⟩))).result =
      .ok ⟨some (.object [("a", .ofNat 2), ("b", .ofNat 1)]), none, none⟩ := by decide +kernel
  have hdecodes := executeAs_decodes .integerMap (by decide : 10 ≤ 3000) (by decide : 200 < 400) hbody .query .empty []
  obtain ⟨t, ht⟩ := hdecodes.1.2 ⟨_, huntyped, .inr ⟨_, [("a", 2), ("b", 1)], rfl, rfl⟩⟩
  exact ⟨t, _, by decide, by decide, hbody, ht, huntyped, rfl, (hdecodes.2.1 t _ ht huntyped).1⟩

end Executor
end GraphCalls
