/-
Files that were written.

A file is read where it was written, with the text that it was given
(`read_of_write`): writing it takes no directory away on the way there.
-/
import GraphCalls.Files.Directory
import Mathlib.Tactic.SplitIfs

namespace GraphCalls
namespace Directory

variable {d : Directory} {place p q : FilePath} {text : String}

theorem isDirectory_put (h : d.isDirectory place = true) : (d.put q text).isDirectory place = true := by
  rw [isDirectory, Bool.or_eq_true, List.any_eq_true] at h
  rw [isDirectory, Bool.or_eq_true, List.any_eq_true]
  refine h.imp id ?_
  rintro ⟨f, hf, hwithin⟩
  by_cases hq : f.1 = q
  · exact ⟨(q, text), List.mem_cons_self .., hq ▸ hwithin⟩
  · exact ⟨f, List.mem_cons_of_mem _ (List.mem_filter.2 ⟨hf, bne_iff_ne.2 hq⟩), hwithin⟩

theorem follow_put {names : List String} (h : d.follow place names = .ok p) :
    (d.put q text).follow place names = .ok p := by
  induction names generalizing place with
  | nil => exact h
  | cons name rest ih =>
    rw [follow] at h ⊢
    cases hplace : d.isDirectory place with
    | false =>
      rw [hplace] at h
      cases h
    | true =>
      rw [hplace] at h
      rw [isDirectory_put hplace]
      simp only [Bool.not_true, Bool.false_eq_true, if_false] at h ⊢
      -- The names on the way mean the same as before.
      split_ifs at h ⊢
      all_goals exact ih h

theorem file?_put : (d.put p text).file? p = some text := by simp [file?, put]

theorem file?_put_of_ne (h : p ≠ q) : (d.put q text).file? p = d.file? p := by
  have hkept : ∀ f : FilePath × String, decide ((f.1 != q) = true ∧ (f.1 == p) = true) = (f.1 == p) := by
    intro f
    by_cases hf : f.1 = p <;> simp [hf, h]
  rw [file?, put, file?, List.find?_cons, beq_eq_false_iff_ne.2 (Ne.symm h), List.find?_filter]
  simp only [hkept]

theorem read_of_write {after : Directory} {path : String} (h : d.write path text = .ok after) :
    after.read path = .ok text := by
  rw [write] at h
  split at h
  · cases h
  next p hp =>
    split at h
    · cases h
    cases h
    have hlocate : (d.put p text).locate path = .ok p := by
      rw [locate] at hp ⊢
      split at hp
      · cases hp
      next hpath =>
        rw [if_neg hpath]
        exact follow_put hp
    rw [read, hlocate]
    simp only [file?_put]

theorem files_of_make {after : Directory} {path : String} (h : d.make path = .ok after) : after.files = d.files := by
  rw [make] at h
  split at h
  · cases h
  split at h
  · cases h
  split at h <;> (cases h; rfl)

/-- Where a directory was made, there is one; no file stood there, and none
stands there now. -/
theorem of_make {after : Directory} {path : String} (hplace : d.locate path = .ok p) (h : d.make path = .ok after) :
    after.isDirectory p = true ∧ after.file? p = none ∧ ∀ q, q ≠ p → after.isDirectory q = d.isDirectory q := by
  have hfiles := files_of_make h
  rw [make, hplace] at h
  simp only at h
  split_ifs at h with hfile hdirectory
  · cases h
    exact ⟨hdirectory, by simpa using hfile, fun _ _ => rfl⟩
  · cases h
    have hnone : d.file? p = none := by simpa using hfile
    exact ⟨by simp [isDirectory], hnone, fun q hq => by simp [isDirectory, hq]⟩

/-- A directory that is there is not made again. -/
theorem make_of_isDirectory {path : String} (hplace : d.locate path = .ok p) (hdirectory : d.isDirectory p = true)
    (hfile : d.file? p = none) : d.make path = .ok d := by
  rw [make, hplace]
  simp [hfile, hdirectory]

end Directory
end GraphCalls
