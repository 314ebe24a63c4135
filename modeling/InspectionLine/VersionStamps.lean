import InspectionLine.InputRuns
import Mathlib.Order.Basic

/-! # Stamped views

An object carries a stamp, and only a part of it is shown. The stamp orders what is shown when
no step takes it back and every step that changes the view moves it on. -/
namespace VersionStamps

variable {σ ι κ ν : Type*} {stamp : σ → κ} {view : σ → ν} {s t u : σ}

/-- From `s` to `t` the stamp is not taken back, and it moves on where the view changes. -/
structure Stamped [Preorder κ] (stamp : σ → κ) (view : σ → ν) (s t : σ) : Prop where
  stamp_le : stamp s ≤ stamp t
  stamp_lt : view s ≠ view t → stamp s < stamp t

theorem Stamped.refl [Preorder κ] (s : σ) : Stamped stamp view s s :=
  ⟨le_refl _, fun h => absurd rfl h⟩

theorem Stamped.of_lt [Preorder κ] (h : stamp s < stamp t) : Stamped stamp view s t :=
  ⟨h.le, fun _ => h⟩

theorem Stamped.trans [Preorder κ] (h : Stamped stamp view s t) (k : Stamped stamp view t u) :
    Stamped stamp view s u where
  stamp_le := h.stamp_le.trans k.stamp_le
  stamp_lt hne := by
    by_cases hst : view s = view t
    · exact h.stamp_le.trans_lt (k.stamp_lt (hst ▸ hne))
    · exact (h.stamp_lt hst).trans_le k.stamp_le

/-- Two objects on one path that carry the same stamp look the same. -/
theorem Stamped.same_view [Preorder κ] (h : Stamped stamp view s t) (he : stamp s = stamp t) :
    view s = view t := by
  by_contra hne
  exact absurd he (h.stamp_lt hne).ne

theorem stamped_of_execution [Preorder κ] {next : σ → ι → σ} {admits : σ → ι → Prop}
    (hstep : ∀ s e, admits s e → Stamped stamp view s (next s e))
    (h : InputRuns.Execution next admits s t) : Stamped stamp view s t :=
  h.relates .refl (fun _ _ _ => .trans) hstep

end VersionStamps
