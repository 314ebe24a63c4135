import Mathlib.Data.List.Nodup

/-! # A lock that is handed over

Releasing passes the lock to the task that has waited longest, without unlocking it in between.
Nothing ever cancels the future of a waiting task. -/
namespace InspectionLine

structure ExecutorLock (τ : Type*) where
  locked : Bool := false
  waiters : List τ := []
  deriving DecidableEq, Repr

namespace ExecutorLock

variable {τ : Type*}

/-- Whether the task is in at once; if not, it stands at the end of the line. -/
def enter (lock : ExecutorLock τ) (task : τ) : Bool × ExecutorLock τ :=
  if lock.locked then (false, { lock with waiters := lock.waiters ++ [task] })
  else (true, { lock with locked := true })

def release (lock : ExecutorLock τ) : Option τ × ExecutorLock τ :=
  match lock.waiters with
  | [] => (none, { lock with locked := false })
  | successor :: waiters => (some successor, { lock with waiters })

/-- What a lock and the tasks around it agree on: one task at most is inside, only when the lock
is locked, and who stands in line is waiting. -/
structure Guards (lock : ExecutorLock τ) (inside waiting : τ → Prop) : Prop where
  alone : ∀ a b, inside a → inside b → a = b
  locked : ∀ a, inside a → lock.locked = true
  lined : ∀ a ∈ lock.waiters, waiting a
  nodup : lock.waiters.Nodup

namespace Guards

variable {lock lock' : ExecutorLock τ} {inside inside' waiting waiting' : τ → Prop} {task : τ}

theorem new : Guards ({} : ExecutorLock τ) (fun _ => False) waiting where
  alone _ _ h := h.elim
  locked _ h := h.elim
  lined _ h := absurd h List.not_mem_nil
  nodup := .nil

theorem mono (h : Guards lock inside waiting) (hinside : ∀ a, inside' a → inside a)
    (hwaiting : ∀ a ∈ lock.waiters, waiting a → waiting' a) : Guards lock inside' waiting' where
  alone a b ha hb := h.alone a b (hinside a ha) (hinside b hb)
  locked a ha := h.locked a (hinside a ha)
  lined a ha := hwaiting a ha (h.lined a ha)
  nodup := h.nodup

theorem enters (h : Guards lock inside waiting) (henter : lock.enter task = (true, lock')) :
    Guards lock' (fun a => inside a ∨ a = task) waiting := by
  unfold enter at henter
  split at henter
  · cases henter
  · rename_i hfree
    have hnone : ∀ a, ¬ inside a := fun a ha => hfree (h.locked a ha)
    cases henter
    exact {
      alone := fun a b ha hb =>
        (ha.resolve_left (hnone a)).trans (hb.resolve_left (hnone b)).symm
      locked := fun _ _ => rfl
      lined := h.lined
      nodup := h.nodup }

theorem waits (h : Guards lock inside waiting) (henter : lock.enter task = (false, lock'))
    (hnew : ¬ waiting task) : Guards lock' inside (fun a => waiting a ∨ a = task) := by
  unfold enter at henter
  split at henter
  · cases henter
    exact {
      alone := h.alone
      locked := h.locked
      lined := fun a ha => (List.mem_append.mp ha).imp (h.lined a) List.mem_singleton.mp
      nodup := List.nodup_append.mpr ⟨h.nodup, List.nodup_singleton _, fun a ha b hb hab =>
        hnew (List.mem_singleton.mp hb ▸ hab ▸ h.lined a ha)⟩ }
  · cases henter

theorem unlocks (h : Guards lock inside waiting) (hin : inside task)
    (hrelease : lock.release = (none, lock')) :
    Guards lock' (fun a => inside a ∧ a ≠ task) waiting := by
  unfold release at hrelease
  split at hrelease
  · rename_i hempty
    cases hrelease
    exact {
      alone := fun a _ ha _ => absurd (h.alone a task ha.1 hin) ha.2
      locked := fun a ha => absurd (h.alone a task ha.1 hin) ha.2
      lined := h.lined
      nodup := h.nodup }
  · cases hrelease

theorem hands_over {successor : τ} (h : Guards lock inside waiting) (hin : inside task)
    (hrelease : lock.release = (some successor, lock')) :
    waiting successor ∧ Guards lock' (fun a => inside a ∧ a ≠ task ∨ a = successor)
      (fun a => waiting a ∧ a ≠ successor) := by
  unfold release at hrelease
  split at hrelease
  · cases hrelease
  · rename_i next waiters hline
    cases hrelease
    have hnodup := h.nodup
    rw [hline] at hnodup
    obtain ⟨hnext, hrest⟩ := List.nodup_cons.mp hnodup
    have halone : ∀ a, inside a ∧ a ≠ task ∨ a = successor → a = successor := by
      rintro a (⟨ha, hne⟩ | ha)
      · exact absurd (h.alone a task ha hin) hne
      · exact ha
    refine ⟨h.lined successor (hline ▸ List.mem_cons_self), {
      alone := fun a b ha hb => (halone a ha).trans (halone b hb).symm
      locked := fun _ _ => h.locked task hin
      lined := fun a ha => ⟨h.lined a (hline ▸ List.mem_cons_of_mem successor ha), ?_⟩
      nodup := hrest }⟩
    rintro rfl
    exact hnext ha

end Guards

end ExecutorLock

end InspectionLine
