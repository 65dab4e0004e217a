/-
Saved schemas.

A result of introspection that is saved is written indented, its members in
order. Read again it is the same value but for its numbers, and those have no
part in a schema: the file loads as the schema that was fetched, and what is no
schema is not saved (`introspect_saves`).
-/
import GraphCalls.Proofs.Call.RequestBody
import GraphCalls.Proofs.Command.AtDesk
import GraphCalls.Proofs.Schema.NumbersIgnored

namespace GraphCalls

/-- The text of a value that was read loads as the schema of the value. -/
theorem Registry.ofText_indented {text : String} {v : Json} (hv : Json.ofText text = .ok v)
    (hnumbers : ∀ n ∈ v.numbers, n.Accepted) : ofText v.indented = ofJson v := by
  rw [ofText, Json.ofText_indented (Json.fits_of_ofText hv) hnumbers]
  exact ofJson_mapNumbers Number.reread v

theorem Executor.schemaOf_eq_ok_iff {v : Json} {r : Registry} : schemaOf v = .ok r ↔ Registry.ofJson v = .ok r := by
  rw [schemaOf]
  cases Registry.ofJson v <;> simp

namespace HttpExecutor

variable {x : HttpExecutor} {network : Network Id}

/-- The schema of a server is that of its introspection result. -/
theorem fetchSchema_eq (x : HttpExecutor) (network : Network Id) :
    (x.fetchSchema network).run = (x.introspect network).run >>= Executor.schemaOf := rfl

/-- An introspection result is read from a text. -/
theorem exists_text_of_introspect {v : Json} (h : (x.introspect network).run = .ok v) :
    ∃ text, Json.ofText text = .ok v := by
  have hpost : ∃ reply : Reply, (Executor.introspect x.deadline [] reply).result = .ok v := ⟨_, h⟩
  obtain ⟨reply, hresult⟩ := hpost
  rw [Executor.introspect, Executor.introspectionRequest_eq, Executor.post_ok, bind_eq_ok_iff] at hresult
  obtain ⟨answer, -, hresult⟩ := hresult
  obtain ⟨text, -, hread⟩ := bind_eq_ok_iff.1 hresult
  refine ⟨text, ?_⟩
  rw [Executor.readBody] at hread
  split at hread
  next w hw =>
    cases hread
    exact hw
  · cases hread

end HttpExecutor

namespace Action

variable {home path : String} {network : Network Id} {o : GlobalOptions} {desk desk₀ : Desk} {x : HttpExecutor}

/-- What was fetched, as a step of a command. -/
theorem atDesk_fetched (home : String) (network : Network Id) (x : HttpExecutor) (desk : Desk) :
    atDesk (ofCall (x.introspect (Desk.shell home network).network)) desk =
      ((x.introspect network).run.mapError .call, desk) := by
  simp only [HttpExecutor.introspect, HttpExecutor.reply, Executor.introspectionRequest_eq]
  split <;> rfl

theorem atDesk_schemaOf {v : Json} {result : Except CallError Registry} (h : Executor.schemaOf v = result)
    (desk : Desk) : atDesk (ofCall (pure (Executor.schemaOf v))) desk = (result.mapError .call, desk) := h ▸ rfl

/-- An introspection result that is a schema is written to the file. -/
theorem atDesk_introspect_of_ok (hx : atDesk (executor (Desk.shell home network) o) desk = (.ok x, desk₀))
    {v : Json} (hv : (x.introspect network).run = .ok v) {r : Registry} (hr : Executor.schemaOf v = .ok r)
    {directory : Directory} (hwrite : desk₀.directory.write (Desk.inside home path) v.indented = .ok directory)
    (p : Paint) :
    ∃ output, atDesk (introspect (Desk.shell home network) p o (some path)) desk =
      (.ok (), { desk₀ with directory, output }) := by
  have hfetch := atDesk_fetched home network x desk₀
  rw [hv] at hfetch
  have hsave : atDesk (ofFile (.unwritable path) ((Desk.shell home network).write path v.indented)) desk₀ =
      (.ok (), { desk₀ with directory }) := by
    refine (atDesk_change _ (·.write (Desk.inside home path) v.indented) desk₀).trans ?_
    rw [hwrite]
  exact ⟨_, (atDesk_bind_of_ok hx).trans ((atDesk_bind_of_ok hfetch).trans ((atDesk_bind_of_ok (atDesk_schemaOf hr desk₀)).trans
    ((atDesk_bind_of_ok hsave).trans rfl)))⟩

/-- What is no schema ends the command before the file is written. -/
theorem atDesk_introspect_of_error (hx : atDesk (executor (Desk.shell home network) o) desk = (.ok x, desk₀))
    {e : CallError} (he : (x.fetchSchema network).run = .error e) (p : Paint) (output : Option String) :
    atDesk (introspect (Desk.shell home network) p o output) desk = (.error (.call e), desk₀) := by
  refine (atDesk_bind_of_ok hx).trans ?_
  have hfetch := atDesk_fetched home network x desk₀
  rw [HttpExecutor.fetchSchema_eq] at he
  cases hv : (x.introspect network).run with
  | error e' =>
    rw [hv] at he hfetch
    cases he
    exact atDesk_bind_of_error hfetch
  | ok v =>
    rw [hv] at he hfetch
    exact (atDesk_bind_of_ok hfetch).trans (atDesk_bind_of_error (atDesk_schemaOf he desk₀))

/-- A file that was written loads as the schema that its text holds. -/
theorem atDesk_schemaFile {directory : Directory} {text : String} {r : Registry} (hdesk : desk.directory = directory)
    (hread : directory.read (Desk.inside home path) = .ok text) (hr : Registry.ofText text = .ok r) :
    atDesk (schemaFile (Desk.shell home network) path) desk = (.ok r, desk) := by
  have htext : atDesk (ofFile (.unreadableSchema path) ((Desk.shell home network).read path)) desk =
      (.ok text, desk) := by
    rw [atDesk_read, hdesk, hread]
    rfl
  refine (atDesk_bind_of_ok htext).trans ?_
  rw [hr]
  rfl

/-- **A schema that is saved loads as the one that was fetched.** Where the
schema of a server is accepted and the file can be written, `introspect` saves
it, and loading the file gives that schema, provided that the numbers which are
written are accepted when they are read. Where it is refused, no file is
written. -/
theorem introspect_saves (hx : atDesk (executor (Desk.shell home network) o) desk = (.ok x, desk₀)) (p : Paint)
    (path : String) :
    (∀ r, (x.fetchSchema network).run = .ok r →
      (∀ v, (x.introspect network).run = .ok v → ∀ n ∈ v.numbers, n.Accepted) →
      (∀ text, ∃ directory, desk₀.directory.write (Desk.inside home path) text = .ok directory) →
      ∃ after, atDesk (introspect (Desk.shell home network) p o (some path)) desk = (.ok (), after) ∧
        ∀ network' o', o'.schema = some path → atDesk (schema (Desk.shell home network') o') after = (.ok r, after)) ∧
    ∀ e, (x.fetchSchema network).run = .error e →
      ∃ after, atDesk (introspect (Desk.shell home network) p o (some path)) desk = (.error (.call e), after) ∧
        after.directory.files = desk.directory.files := by
  constructor
  · intro r hr hnumbers hwritable
    obtain ⟨v, hv, hr⟩ := bind_eq_ok_iff.1 (HttpExecutor.fetchSchema_eq x network ▸ hr)
    obtain ⟨text, htext⟩ := HttpExecutor.exists_text_of_introspect hv
    obtain ⟨directory, hwrite⟩ := hwritable v.indented
    obtain ⟨output, hsave⟩ := atDesk_introspect_of_ok hx hv hr hwrite p
    have hload : Registry.ofText v.indented = .ok r := by
      rw [Registry.ofText_indented htext (hnumbers v hv)]
      exact Executor.schemaOf_eq_ok_iff.1 hr
    refine ⟨_, hsave, fun network' o' ho' => ?_⟩
    rw [schema, ho']
    exact atDesk_schemaFile rfl (Directory.read_of_write hwrite) hload
  · intro e he
    refine ⟨desk₀, atDesk_introspect_of_error hx he p (some path), ?_⟩
    have hkeeps := keepsFiles_executor home network o desk
    rwa [hx] at hkeeps

/-- An answer with a number beside the schema. -/
def timedAnswer : Json :=
  .object [("data", .object [("__schema", .object [("queryType", .object [("name", .string "Query")]),
      ("types", .array [.object [("kind", .string "OBJECT"), ("name", .string "Query")]])])]),
    ("seconds", .number (.float ⟨false, 4503599627370496, -53⟩))]

/-- A server that gives this answer to every request. -/
def timedServer : Network Id := fun _ _ => .settles 0 (.answered ⟨200, timedAnswer.compact⟩)

def localExecutor : HttpExecutor :=
  .ofConfig (.ofEndpoint ⟨"http", "", "", some (.domain "localhost"), none, .segments [""], none, none⟩)

theorem introspect_saves_timed : ∃ desk₀ after,
    atDesk (executor (Desk.shell "/home" timedServer) ⟨some "http://localhost/", "default", [], none, none⟩)
      ⟨.empty, "", ""⟩ = (.ok localExecutor, desk₀) ∧
    (∀ v, (localExecutor.introspect timedServer).run = .ok v → ∀ n ∈ v.numbers, n.Accepted) ∧
    (∀ text, ∃ directory, desk₀.directory.write (Desk.inside "/home" "schema.json") text = .ok directory) ∧
    atDesk (introspect (Desk.shell "/home" timedServer) ⟨false⟩
      ⟨some "http://localhost/", "default", [], none, none⟩ (some "schema.json")) ⟨.empty, "", ""⟩ =
      (.ok (), after) ∧
    atDesk (schema (Desk.shell "/home" .down) ⟨none, "default", [], none, some "schema.json"⟩) after =
      (.ok ⟨[⟨.object, "Query", none, none, none, none⟩], "Query", none, none⟩, after) := by
  have hx : atDesk (executor (Desk.shell "/home" timedServer) ⟨some "http://localhost/", "default", [], none, none⟩)
      ⟨.empty, "", ""⟩ = (.ok localExecutor, ⟨⟨[], [[".gqlbatch"]]⟩, "", ""⟩) := by decide +kernel
  have hanswer : (localExecutor.introspect timedServer).run = .ok timedAnswer := by decide +kernel
  have hfetched : (localExecutor.fetchSchema timedServer).run =
      .ok ⟨[⟨.object, "Query", none, none, none, none⟩], "Query", none, none⟩ := by
    rw [HttpExecutor.fetchSchema_eq, hanswer]
    rfl
  have hnumbers : ∀ v, (localExecutor.introspect timedServer).run = .ok v → ∀ n ∈ v.numbers, n.Accepted := by
    intro v hv n hn
    obtain rfl := Except.ok.inj (hanswer.symm.trans hv)
    obtain rfl := List.mem_singleton.1 hn
    exact ⟨.float ⟨false, 4503599627370496, -53⟩, by decide +kernel⟩
  have hlocate : Directory.locate ⟨[], [[".gqlbatch"]]⟩ (Desk.inside "/home" "schema.json") = .ok ["schema.json"] := by
    decide +kernel
  have hwritable : ∀ text, ∃ directory,
      Directory.write ⟨[], [[".gqlbatch"]]⟩ (Desk.inside "/home" "schema.json") text = .ok directory := by
    intro text
    rw [Directory.write, hlocate]
    exact ⟨_, rfl⟩
  obtain ⟨hsaves, -⟩ := introspect_saves hx ⟨false⟩ "schema.json"
  obtain ⟨after, hsaved, hloads⟩ := hsaves _ hfetched hnumbers hwritable
  exact ⟨_, after, hx, hnumbers, hwritable, hsaved, hloads .down _ rfl⟩

end Action
end GraphCalls
