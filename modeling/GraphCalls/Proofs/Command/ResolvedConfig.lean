/-
What a command is configured with.

Flags, profile and defaults are taken together setting by setting, and each
setting has checks of its own: the endpoint is read before anything else is
set, a word is split as its header is added, and the deadline is looked at
last, once all sources had their say. No check depends on another setting, so
a configuration is made exactly if every setting passes by itself
(`resolve_eq_ok_iff`). Then nothing of what was given is lost on the way
(`resolve_configures`).
-/
import GraphCalls.Proofs.Command.HeaderSources
import GraphCalls.Proofs.Command.PlannedValues
import Mathlib.Data.List.TakeWhile

namespace GraphCalls

/-! ## Words -/

namespace Pair

/-- A word gives a name and a value: the name ends at the first equals sign,
and there is one. -/
structure Splits (word : String) (given : String × String) : Prop where
  word_eq : word = given.1 ++ "=" ++ given.2
  named : given.1 ≠ ""
  first : '=' ∉ given.1.toList

variable {word : String} {given : String × String}

theorem of_split?_eq_some (h : split? word = some given) :
    word = given.1 ++ "=" ++ given.2 ∧ '=' ∉ given.1.toList := by
  rw [split?, List.span_eq_takeWhile_dropWhile] at h
  split at h
  next name c value hspan =>
    cases h
    obtain ⟨hname, hvalue⟩ := Prod.mk.inj hspan
    have hsign : c = '=' := by
      have hstop := List.head?_dropWhile_not (· != '=') word.toList
      rw [hvalue] at hstop
      simpa using hstop
    constructor
    · rw [← String.toList_inj, ← List.takeWhile_append_dropWhile (p := (· != '=')) (l := word.toList), hname, hvalue,
        hsign]
      simp
    · intro hmem
      rw [String.toList_ofList, ← hname] at hmem
      simpa using List.mem_takeWhile_imp hmem
  · cases h

theorem parse_eq_ok_iff : parse word = .ok given ↔ Splits word given := by
  constructor
  · intro h
    rw [parse] at h
    split at h
    · cases h
    next name value hsplit =>
      split at h
      · cases h
      next hname =>
        cases h
        obtain ⟨hword, hfirst⟩ := of_split?_eq_some hsplit
        exact ⟨hword, by simpa using hname, hfirst⟩
  · rintro ⟨rfl, hnamed, hfirst⟩
    exact parse_append given.2 hnamed hfirst

theorem mapM_parse_eq_ok_iff {words : List String} {gs : List (String × String)} :
    words.mapM parse = .ok gs ↔ List.Forall₂ Splits words gs := by
  rw [mapM_eq_ok_iff]
  simp only [parse_eq_ok_iff]

end Pair

/-! ## Checks -/

namespace ClientConfig

variable {c d : ClientConfig} {text : String}

theorem validate_eq_ok_iff : c.validate = .ok () ↔ c.endpoint.scheme ∈ schemes ∧ c.timeout ≠ 0 := by
  rw [validate]
  by_cases hscheme : c.endpoint.scheme ∈ schemes
  · by_cases hzero : c.timeout = 0 <;> simp [hscheme, hzero]
  · simp [hscheme]

theorem checked_eq_ok_iff : c.checked = .ok d ↔ c.validate = .ok () ∧ d = c := by
  rw [checked, bind_eq_ok_iff]
  constructor
  · rintro ⟨_, hvalid, h⟩
    exact ⟨hvalid, (Except.ok.inj h).symm⟩
  · rintro ⟨hvalid, rfl⟩
    exact ⟨(), hvalid, rfl⟩

theorem parse_eq_ok_iff :
    parse text = .ok c ↔ ∃ u, Url.parse text = .ok u ∧ u.scheme ∈ schemes ∧ c = .ofEndpoint u := by
  rw [parse]
  cases Url.parse text with
  | error e => simp
  | ok u =>
    have hdeadline : Executor.defaultDeadline ≠ 0 := by decide
    simp only [checked_eq_ok_iff, validate_eq_ok_iff, Except.ok.injEq]
    constructor
    · rintro ⟨⟨hscheme, -⟩, hc⟩
      exact ⟨u, rfl, hscheme, hc⟩
    · rintro ⟨_, rfl, hscheme, hc⟩
      exact ⟨⟨hscheme, hdeadline⟩, hc⟩

theorem foldl_withHeader : ∀ (hs : List (String × String)) (c : ClientConfig),
    hs.foldl (fun c h => c.withHeader h.1 h.2) c = { c with headers := Entries.setAll c.headers hs }
  | [], _ => rfl
  | h :: hs, c => foldl_withHeader hs (c.withHeader h.1 h.2)

end ClientConfig

/-! ## All sources together -/

namespace Profile

variable {p : Profile} {endpoint : Option String} {timeout : Option Nat} {flags : List String} {c : ClientConfig}

/-- The deadline that sources ask for, in milliseconds. -/
def askedDeadline (p : Profile) (timeout : Option Nat) : Nat := (timeout.or p.timeout).getD Executor.defaultDeadline

/-- The configuration of an endpoint, a deadline and headers that are set one
after the other. -/
def configured (u : Url) (deadline : Nat) (hs : List (String × String)) : ClientConfig :=
  ⟨u, Entries.setAll [] hs, min deadline Bounds.maxUnsigned64⟩

/-- Setting source after source comes to the same; to ask for no deadline is to
ask for the one that holds anyway. -/
theorem foldl_withHeader_eq_configured (u : Url) (p : Profile) (timeout : Option Nat) (given : List (String × String)) :
    given.foldl (fun c h => c.withHeader h.1 h.2) (p.headers.foldl (fun c h => c.withHeader h.1 h.2)
      (match timeout.or p.timeout with
        | some ms => (ClientConfig.ofEndpoint u).withTimeout (.ofMilliseconds ms)
        | none => .ofEndpoint u)) = configured u (p.askedDeadline timeout) (p.headers ++ given) := by
  rw [ClientConfig.foldl_withHeader, ClientConfig.foldl_withHeader, askedDeadline]
  cases timeout.or p.timeout with
  | none =>
    simp only [configured, Entries.setAll, List.foldl_append]
    rfl
  | some ms =>
    simp only [ClientConfig.withTimeout, Duration.milliseconds_ofMilliseconds, configured, Entries.setAll,
      List.foldl_append]
    rfl

theorem checked_configured_eq_ok_iff {u : Url} {deadline : Nat} {hs : List (String × String)} :
    (configured u deadline hs).checked = .ok c ↔
      u.scheme ∈ ClientConfig.schemes ∧ deadline ≠ 0 ∧ c = configured u deadline hs := by
  have hzero : (configured u deadline hs).timeout ≠ 0 ↔ deadline ≠ 0 := by
    have hmax : Bounds.maxUnsigned64 ≠ 0 := by decide
    simp only [configured]
    omega
  rw [ClientConfig.checked_eq_ok_iff, ClientConfig.validate_eq_ok_iff, hzero, and_assoc]
  rfl

/-- What all sources come to passes its checks by scheme and deadline alone. -/
theorem checked_sources_eq_ok_iff {u : Url} {given : List (String × String)} :
    (given.foldl (fun (c : ClientConfig) h => c.withHeader h.1 h.2) (p.headers.foldl (fun c h => c.withHeader h.1 h.2)
      (match timeout.or p.timeout with
        | some ms => (ClientConfig.ofEndpoint u).withTimeout (.ofMilliseconds ms)
        | none => .ofEndpoint u))).checked = .ok c ↔
      u.scheme ∈ ClientConfig.schemes ∧ p.askedDeadline timeout ≠ 0 ∧
        c = configured u (p.askedDeadline timeout) (p.headers ++ given) := by
  rw [foldl_withHeader_eq_configured, checked_configured_eq_ok_iff]

/-- Flags are all split before a header of theirs counts. -/
theorem foldlM_flags_eq_ok_iff {step : ClientConfig → String → Except CommandError ClientConfig} {d : ClientConfig}
    (hstep : ∀ c word, step c word = (Pair.parse word).map fun h => c.withHeader h.1 h.2) :
    flags.foldlM step c = .ok d ↔
      ∃ given, List.Forall₂ Pair.Splits flags given ∧ given.foldl (fun c h => c.withHeader h.1 h.2) c = d := by
  rw [foldlM_eq_mapM hstep, map_eq_ok_iff]
  simp only [Pair.mapM_parse_eq_ok_iff]

/-- A command is configured if there is an endpoint, of a scheme that can be
sent to, the deadline is not zero, and every flag has a name; and in no other
case. -/
theorem resolve_eq_ok_iff : p.resolve endpoint timeout flags = .ok c ↔
    ∃ text u given, endpoint.or p.endpoint = some text ∧ Url.parse text = .ok u ∧ u.scheme ∈ ClientConfig.schemes ∧
      p.askedDeadline timeout ≠ 0 ∧ List.Forall₂ Pair.Splits flags given ∧
      c = configured u (p.askedDeadline timeout) (p.headers ++ given) := by
  rw [resolve]
  cases endpoint.or p.endpoint with
  | none => simp
  | some text =>
    simp only [bind_eq_ok_iff, mapError_eq_ok_iff, ClientConfig.parse_eq_ok_iff]
    constructor
    · rintro ⟨_, ⟨u, hu, hscheme, rfl⟩, _, hfold, h⟩
      obtain ⟨given, hgiven, rfl⟩ := (foldlM_flags_eq_ok_iff fun c word => by cases Pair.parse word <;> rfl).1 hfold
      obtain ⟨-, hdeadline, hc⟩ := checked_sources_eq_ok_iff.1 h
      exact ⟨text, u, given, rfl, hu, hscheme, hdeadline, hgiven, hc⟩
    · rintro ⟨_, u, given, htext, hu, hscheme, hdeadline, hgiven, rfl⟩
      obtain rfl := Option.some.inj htext
      exact ⟨_, ⟨u, hu, hscheme, rfl⟩, _,
        (foldlM_flags_eq_ok_iff fun c word => by cases Pair.parse word <;> rfl).2 ⟨given, hgiven, rfl⟩,
        checked_sources_eq_ok_iff.2 ⟨hscheme, hdeadline, rfl⟩⟩

/-- The headers of a command are entries by exact name: of its flags the last
of a name, or else the profile's, and no others. -/
theorem mem_headers_configured_iff {u : Url} {deadline : Nat} {given : List (String × String)} {name value : String} :
    (name, value) ∈ (configured u deadline (p.headers ++ given)).headers ↔
      (Entries.get? given.reverse name).or (Entries.get? p.headers.reverse name) = some value := by
  have hget : Entries.get? (Entries.setAll [] (p.headers ++ given)) name =
      (Entries.get? given.reverse name).or (Entries.get? p.headers.reverse name) := by
    rw [Entries.get?_setAll, Entries.get?_nil, Option.or_none, List.reverse_append, Entries.get?_append]
  rw [← hget]
  exact ⟨Entries.get?_of_mem (Entries.nodup_setAll_nil _), Entries.mem_of_get?⟩

/-- **What a command is configured with.** It is configured if and only if an
endpoint is given, by flag or profile, which is a URL to be sent to over HTTP,
the deadline that is asked for is not zero, and every header flag has a name.
Then the configuration passes its checks, its endpoint is the one given, its
deadline is the one asked for whenever 64 bits can count it, and its headers
are those of the flags, the last of each name, and those of the profile that no
flag spells the same. -/
theorem resolve_configures (p : Profile) (endpoint : Option String) (timeout : Option Nat) (flags : List String) :
    ((∃ c, p.resolve endpoint timeout flags = .ok c) ↔
      (∃ text u, endpoint.or p.endpoint = some text ∧ Url.parse text = .ok u ∧
        (u.scheme = "http" ∨ u.scheme = "https")) ∧
      (timeout.or p.timeout).getD 3000 ≠ 0 ∧
      ∀ word ∈ flags, ∃ name value, Pair.Splits word (name, value)) ∧
    ∀ c, p.resolve endpoint timeout flags = .ok c →
      c.validate = .ok () ∧
      (∃ text, endpoint.or p.endpoint = some text ∧ Url.parse text = .ok c.endpoint) ∧
      (∀ ms ≤ Bounds.maxUnsigned64, (timeout.or p.timeout).getD 3000 = ms →
        c.timeout = ms ∧ c.deadline = .ofMilliseconds ms ∧ c.deadline.milliseconds = ms) ∧
      ∃ given, List.Forall₂ Pair.Splits flags given ∧ (c.headers.map Prod.fst).Nodup ∧
        ∀ name value, (name, value) ∈ c.headers ↔
          (Entries.get? given.reverse name).or (Entries.get? p.headers.reverse name) = some value := by
  constructor
  · simp only [resolve_eq_ok_iff]
    constructor
    · rintro ⟨_, text, u, given, htext, hu, hscheme, hdeadline, hgiven, -⟩
      refine ⟨⟨text, u, htext, hu, by simpa [ClientConfig.schemes] using hscheme⟩, hdeadline, fun word hword => ?_⟩
      obtain ⟨g, -, hg⟩ := exists_mem_of_forall₂ hgiven hword
      exact ⟨g.1, g.2, hg⟩
    · rintro ⟨⟨text, u, htext, hu, hscheme⟩, hdeadline, hflags⟩
      obtain ⟨given, hgiven⟩ : ∃ given, List.Forall₂ (fun g word => Pair.Splits word g) given flags :=
        exists_forall₂ fun word hword => let ⟨name, value, h⟩ := hflags word hword; ⟨(name, value), h⟩
      exact ⟨_, text, u, given, htext, hu, by simpa [ClientConfig.schemes] using hscheme, hdeadline, hgiven.flip, rfl⟩
  · intro c h
    obtain ⟨text, u, given, htext, hu, hscheme, hdeadline, hgiven, rfl⟩ := resolve_eq_ok_iff.1 h
    refine ⟨?_, ⟨text, htext, hu⟩, ?_, given, hgiven, Entries.nodup_setAll_nil _, fun name value => mem_headers_configured_iff⟩
    · have hchecked : (configured u (p.askedDeadline timeout) (p.headers ++ given)).checked = .ok _ :=
        checked_configured_eq_ok_iff.2 ⟨hscheme, hdeadline, rfl⟩
      exact (ClientConfig.checked_eq_ok_iff.1 hchecked).1
    · rintro ms hms rfl
      have hexact : (configured u (p.askedDeadline timeout) (p.headers ++ given)).timeout = p.askedDeadline timeout :=
        Nat.min_eq_left hms
      refine ⟨hexact, congrArg Duration.ofMilliseconds hexact, ?_⟩
      rw [ClientConfig.deadline, Duration.milliseconds_ofMilliseconds]
      exact hexact

/-- The longest deadline goes through as it is, and a flag comes before the profile. -/
example : (sample.resolve (some "https://example.com") (some 18446744073709551615) ["Authorization=a", "b=c=d"]).map
    (fun c => (c.timeout, c.headers)) =
      .ok (18446744073709551615, [("Authorization", "a"), ("b", "c=d")]) := by decide +kernel

end Profile
end GraphCalls
