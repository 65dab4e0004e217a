/-
Going through a list by a step that can fail.

A traversal succeeds if every step does, and then gives what the steps gave
(`mapM_eq_ok_iff`); if it fails, it is for the first step that does
(`mapM_eq_error_iff`). Where the results are folded up on the way, they may as
well be collected first (`foldlM_eq_mapM`), and steps that can be exchanged may
come in any order (`foldlM_perm`).
-/
import Mathlib.Data.List.Forall2
import Mathlib.Data.List.Perm.Basic

namespace GraphCalls

variable {ε α β γ δ : Type}

theorem bind_eq_ok_iff {x : Except ε α} {f : α → Except ε β} {b : β} :
    (x >>= f) = .ok b ↔ ∃ a, x = .ok a ∧ f a = .ok b := by
  cases x <;> simp [Bind.bind, Except.bind]

theorem map_eq_ok_iff {x : Except ε α} {f : α → β} {b : β} : x.map f = .ok b ↔ ∃ a, x = .ok a ∧ f a = b := by
  cases x <;> simp [Except.map]

theorem map_eq_error_iff {x : Except ε α} {f : α → β} {e : ε} : x.map f = .error e ↔ x = .error e := by
  cases x <;> simp [Except.map]

theorem mapError_eq_ok_iff {ε' : Type} {x : Except ε α} {f : ε → ε'} {a : α} : x.mapError f = .ok a ↔ x = .ok a := by
  cases x <;> simp [Except.mapError]

theorem mapM_eq_ok_iff {f : α → Except ε β} : ∀ {as : List α} {bs : List β},
    as.mapM f = .ok bs ↔ List.Forall₂ (fun a b => f a = .ok b) as bs
  | [], bs => by cases bs <;> simp [pure, Except.pure]
  | a :: as, bs => by
    rw [List.mapM_cons, bind_eq_ok_iff]
    constructor
    · rintro ⟨b, hb, h⟩
      obtain ⟨rest, hrest, h⟩ := bind_eq_ok_iff.1 h
      cases h
      exact .cons hb (mapM_eq_ok_iff.1 hrest)
    · rintro (_ | ⟨hb, hrest⟩)
      exact ⟨_, hb, bind_eq_ok_iff.2 ⟨_, mapM_eq_ok_iff.2 hrest, rfl⟩⟩

/-- What every step gives has what each result of a step has. -/
theorem forall_mem_of_mapM {f : α → Except ε β} {p : β → Prop} {as : List α} {bs : List β}
    (h : as.mapM f = .ok bs) (hf : ∀ a ∈ as, ∀ b, f a = .ok b → p b) : ∀ b ∈ bs, p b := by
  induction mapM_eq_ok_iff.1 h with
  | nil => simp
  | cons hb hrest ih =>
    rw [List.forall_mem_cons] at hf ⊢
    exact ⟨hf.1 _ hb, ih (mapM_eq_ok_iff.2 hrest) hf.2⟩

theorem exists_mem_of_forall₂ {R : α → β → Prop} {as : List α} {bs : List β} (h : List.Forall₂ R as bs) {a : α}
    (ha : a ∈ as) : ∃ b ∈ bs, R a b := by
  induction h with
  | nil => cases ha
  | cons hb _ ih =>
    rcases List.mem_cons.1 ha with rfl | ha
    · exact ⟨_, List.mem_cons_self .., hb⟩
    · obtain ⟨b, hmem, hb⟩ := ih ha
      exact ⟨b, List.mem_cons_of_mem _ hmem, hb⟩

theorem forall₂_comp {R : α → β → Prop} {S : β → γ → Prop} {T : α → γ → Prop} {as : List α} {bs : List β}
    {cs : List γ} (hab : List.Forall₂ R as bs) (hbc : List.Forall₂ S bs cs) (h : ∀ a b c, R a b → S b c → T a c) :
    List.Forall₂ T as cs := by
  induction hab generalizing cs with
  | nil =>
    cases hbc
    exact .nil
  | cons hr _ ih =>
    cases hbc with
    | cons hs hbc => exact .cons (h _ _ _ hr hs) (ih hbc)

theorem exists_mapM_eq_ok_iff {f : α → Except ε β} : ∀ {as : List α},
    (∃ bs, as.mapM f = .ok bs) ↔ ∀ a ∈ as, ∃ b, f a = .ok b
  | [] => by simp [pure, Except.pure]
  | a :: as => by
    rw [List.forall_mem_cons, ← exists_mapM_eq_ok_iff]
    simp only [mapM_eq_ok_iff, List.forall₂_cons_left_iff]
    constructor
    · rintro ⟨_, b, rest, hb, hrest, -⟩
      exact ⟨⟨b, hb⟩, rest, hrest⟩
    · rintro ⟨⟨b, hb⟩, rest, hrest⟩
      exact ⟨_, b, rest, hb, hrest, rfl⟩

/-- A traversal fails if a step does, for the first that does. -/
theorem mapM_eq_error_iff {f : α → Except ε β} {e : ε} : ∀ {as : List α}, as.mapM f = .error e ↔
    ∃ before a after, as = before ++ a :: after ∧ (∀ c ∈ before, ∃ b, f c = .ok b) ∧ f a = .error e
  | [] => by simp [pure, Except.pure]
  | a :: as => by
    rw [List.mapM_cons]
    cases ha : f a with
    | error e' =>
      constructor
      · intro h
        cases h
        exact ⟨[], a, as, rfl, by simp, ha⟩
      · rintro ⟨_ | ⟨b, before⟩, c, after, heq, hbefore, hc⟩
        · cases heq
          exact congrArg (· >>= _) (ha.symm.trans hc)
        · cases heq
          obtain ⟨b, hb⟩ := hbefore a (List.mem_cons_self ..)
          cases ha.symm.trans hb
    | ok b =>
      have hstep : (Except.ok b >>= fun b => as.mapM f >>= fun bs => pure (b :: bs)) = .error e ↔
          as.mapM f = .error e := by
        cases as.mapM f <;> simp [Bind.bind, Except.bind, pure, Except.pure]
      rw [hstep, mapM_eq_error_iff]
      constructor
      · rintro ⟨before, c, after, rfl, hbefore, hc⟩
        exact ⟨a :: before, c, after, rfl, List.forall_mem_cons.2 ⟨⟨b, ha⟩, hbefore⟩, hc⟩
      · rintro ⟨_ | ⟨_, before⟩, c, after, heq, hbefore, hc⟩
        · cases heq
          cases ha.symm.trans hc
        · cases heq
          exact ⟨before, c, after, rfl, (List.forall_mem_cons.1 hbefore).2, hc⟩

theorem exists_forall₂ {R : α → β → Prop} : ∀ {bs : List β}, (∀ b ∈ bs, ∃ a, R a b) → ∃ as, List.Forall₂ R as bs
  | [], _ => ⟨[], .nil⟩
  | b :: bs, h => by
    obtain ⟨⟨a, ha⟩, hbs⟩ := List.forall_mem_cons.1 h
    obtain ⟨as, has⟩ := exists_forall₂ hbs
    exact ⟨a :: as, .cons ha has⟩

theorem exists_of_mapM_eq_error {f : α → Except ε β} {e : ε} {as : List α} (h : as.mapM f = .error e) :
    ∃ a ∈ as, f a = .error e := by
  obtain ⟨_, a, _, rfl, -, ha⟩ := mapM_eq_error_iff.1 h
  exact ⟨a, List.mem_append_right _ (List.mem_cons_self ..), ha⟩

/-- If one step gives what another gives, changed, then so do the traversals. -/
theorem mapM_eq_map_of_forall₂ {f : α → Except ε γ} {g : β → Except ε δ} {h : δ → γ} {as : List α} {bs : List β}
    (hfg : List.Forall₂ (fun a b => f a = (g b).map h) as bs) : as.mapM f = (bs.mapM g).map (List.map h) := by
  induction hfg with
  | nil => rfl
  | @cons a b as bs hab _ ih =>
    rw [List.mapM_cons, List.mapM_cons, hab, ih]
    cases g b with
    | error e => rfl
    | ok d => cases bs.mapM g <;> rfl

theorem mapM_eq_some_some_iff {f : α → Option β} {x : Option α} {b : β} :
    x.mapM f = some (some b) ↔ ∃ a, x = some a ∧ f a = some b := by
  cases x with
  | none =>
    constructor
    · intro h
      cases h
    · rintro ⟨_, ⟨⟩, _⟩
  | some a =>
    change (f a).map some = some (some b) ↔ _
    simp

/-- If no step fails, a traversal gives what the steps gave. -/
theorem mapM_eq_some_iff {f : α → Option β} : ∀ {as : List α} {bs : List β},
    as.mapM f = some bs ↔ List.Forall₂ (fun a b => f a = some b) as bs
  | [], bs => by cases bs <;> simp
  | a :: as, bs => by
    rw [List.mapM_cons]
    constructor
    · intro h
      obtain ⟨b, hb, h⟩ := Option.bind_eq_some_iff.1 h
      obtain ⟨rest, hrest, h⟩ := Option.bind_eq_some_iff.1 h
      cases h
      exact .cons hb (mapM_eq_some_iff.1 hrest)
    · rintro (_ | ⟨hb, hrest⟩)
      exact Option.bind_eq_some_iff.2 ⟨_, hb, Option.bind_eq_some_iff.2 ⟨_, mapM_eq_some_iff.2 hrest, rfl⟩⟩

/-- What every step keeps is kept to the end. -/
theorem of_foldlM_eq_ok {p : γ → Prop} {step : γ → α → Except ε γ} : ∀ {as : List α} {c d : γ},
    (∀ a ∈ as, ∀ {c d}, p c → step c a = .ok d → p d) → p c → as.foldlM step c = .ok d → p d
  | [], c, d, _, hc, h => by
    cases h
    exact hc
  | a :: as, c, d, hstep, hc, h => by
    rw [List.foldlM_cons, bind_eq_ok_iff] at h
    obtain ⟨c', hc', h⟩ := h
    rw [List.forall_mem_cons] at hstep
    exact of_foldlM_eq_ok hstep.2 (hstep.1 hc hc') h

theorem of_foldlM_eq_some {p : γ → Prop} {step : γ → α → Option γ} : ∀ {as : List α} {c d : γ},
    (∀ a ∈ as, ∀ {c d}, p c → step c a = some d → p d) → p c → as.foldlM step c = some d → p d
  | [], c, d, _, hc, h => by
    cases h
    exact hc
  | a :: as, c, d, hstep, hc, h => by
    obtain ⟨c', hc', h⟩ := Option.bind_eq_some_iff.1 h
    rw [List.forall_mem_cons] at hstep
    exact of_foldlM_eq_some hstep.2 (hstep.1 hc hc') h

/-- Folding up what steps give is a traversal and then a fold. -/
theorem foldlM_eq_mapM {f : α → Except ε β} {g : γ → β → γ} {step : γ → α → Except ε γ}
    (hstep : ∀ c a, step c a = (f a).map (g c)) : ∀ (as : List α) (c : γ),
    as.foldlM step c = (as.mapM f).map fun bs => bs.foldl g c
  | [], c => rfl
  | a :: as, c => by
    rw [List.foldlM_cons, List.mapM_cons, hstep]
    cases ha : f a with
    | error e => rfl
    | ok b =>
      change as.foldlM step (g c b) = (as.mapM f >>= fun bs => pure (b :: bs)).map _
      rw [foldlM_eq_mapM hstep]
      cases as.mapM f <;> rfl

/-! ## Without the reason of a failure -/

theorem toOption_bind (x : Except ε α) (f : α → Except ε β) :
    (x >>= f).toOption = x.toOption.bind fun a => (f a).toOption := by
  cases x <;> rfl

theorem toOption_map (x : Except ε α) (f : α → β) : (x.map f).toOption = x.toOption.map f := by
  cases x <;> rfl

theorem toOption_mapM {f : α → Except ε γ} {g : β → Option γ} {as : List α} {bs : List β}
    (h : List.Forall₂ (fun a b => (f a).toOption = g b) as bs) : (as.mapM f).toOption = bs.mapM g := by
  induction h with
  | nil => rfl
  | cons hab _ ih =>
    rw [List.mapM_cons, List.mapM_cons, toOption_bind, hab]
    simp only [toOption_bind, ih]
    rfl

theorem toOption_foldlM {f : γ → α → Except ε γ} {g : γ → β → Option γ} {as : List α} {bs : List β}
    (h : List.Forall₂ (fun a b => ∀ c, (f c a).toOption = g c b) as bs) :
    ∀ c, (as.foldlM f c).toOption = bs.foldlM g c := by
  induction h with
  | nil => exact fun c => rfl
  | cons hab _ ih =>
    intro c
    rw [List.foldlM_cons, List.foldlM_cons, toOption_bind, hab]
    exact congrArg _ (funext ih)

theorem foldlM_eq_bind (f : γ → α → Option γ) : ∀ (as : List α) (x : Option γ),
    as.foldl (fun x a => x.bind (f · a)) x = x.bind (as.foldlM f ·)
  | [], x => by cases x <;> rfl
  | a :: as, x => by
    rw [List.foldl_cons, foldlM_eq_bind, Option.bind_assoc]
    rfl

/-- A fold does not see the order of steps that can be exchanged. -/
theorem foldlM_perm {f : γ → α → Option γ} {as bs : List α} (h : as.Perm bs)
    (hf : ∀ a ∈ as, ∀ b ∈ as, ∀ c, (f c a).bind (f · b) = (f c b).bind (f · a)) (c : γ) :
    as.foldlM f c = bs.foldlM f c := by
  have hfold := h.foldl_eq' (f := fun x a => x.bind (f · a))
    (fun a ha b hb x => by cases x with
      | none => rfl
      | some c => exact hf a ha b hb c) (some c)
  rw [foldlM_eq_bind, foldlM_eq_bind] at hfold
  exact hfold

end GraphCalls
