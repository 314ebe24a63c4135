import Mathlib.Logic.Relation
import Mathlib.Data.List.Basic

/-! # Executions of input-driven transition systems

A system is a total step function together with a guard on its inputs. Concurrency is
the choice of the next input, so every interleaving is an execution. Narrowing the guard
gives the executions whose steps all meet a side condition. -/
namespace InputRuns

variable {σ ι : Type*}

/-- Executions from one state to another; the guard is read in the state before the step. -/
inductive Execution (next : σ → ι → σ) (admits : σ → ι → Prop) : σ → σ → Prop where
  | refl (s) : Execution next admits s s
  | tail {s t} (e) : Execution next admits s t → admits t e → Execution next admits s (next t e)

variable {next : σ → ι → σ} {admits : σ → ι → Prop}

theorem Execution.single {s : σ} {e : ι} (h : admits s e) :
    Execution next admits s (next s e) := .tail e (.refl s) h

theorem Execution.trans {s t u : σ} (h : Execution next admits s t)
    (k : Execution next admits t u) : Execution next admits s u := by
  induction k with
  | refl => exact h
  | tail e _ he ih => exact .tail e ih he

theorem Execution.mono {wider : σ → ι → Prop} (hw : ∀ s e, admits s e → wider s e) {s t : σ}
    (h : Execution next admits s t) : Execution next wider s t := by
  induction h with
  | refl => exact .refl _
  | tail e _ he ih => exact .tail e ih (hw _ _ he)

/-- The invariant rule: a property kept by every admitted step holds all along. -/
theorem Execution.invariant {P : σ → Prop} (hstep : ∀ s e, P s → admits s e → P (next s e))
    {s t : σ} (h : Execution next admits s t) (hs : P s) : P t := by
  induction h with
  | refl => exact hs
  | tail e _ he ih => exact hstep _ e ih he

/-- The relational rule: a reflexive and transitive relation containing every admitted
step contains every execution. -/
theorem Execution.relates {R : σ → σ → Prop} (hrefl : ∀ s, R s s)
    (htrans : ∀ s t u, R s t → R t u → R s u)
    (hstep : ∀ s e, admits s e → R s (next s e)) {s t : σ}
    (h : Execution next admits s t) : R s t := by
  induction h with
  | refl => exact hrefl _
  | tail e _ he ih => exact htrans _ _ _ ih (hstep _ e he)

def runTrace (next : σ → ι → σ) (s : σ) : List ι → σ
  | [] => s
  | e :: es => runTrace next (next s e) es

theorem run_trace_append (next : σ → ι → σ) (s : σ) (es fs : List ι) :
    runTrace next s (es ++ fs) = runTrace next (runTrace next s es) fs := by
  induction es generalizing s with
  | nil => rfl
  | cons e es ih => exact ih (next s e)

def ValidTrace (next : σ → ι → σ) (admits : σ → ι → Prop) (s : σ) : List ι → Prop
  | [] => True
  | e :: es => admits s e ∧ ValidTrace next admits (next s e) es

def decideValidTrace [∀ s e, Decidable (admits s e)] (s : σ) :
    (es : List ι) → Decidable (ValidTrace next admits s es)
  | [] => isTrue trivial
  | e :: es =>
    haveI := decideValidTrace (next s e) es
    inferInstanceAs (Decidable (admits s e ∧ ValidTrace next admits (next s e) es))

instance [∀ s e, Decidable (admits s e)] (s : σ) (es : List ι) :
    Decidable (ValidTrace next admits s es) := decideValidTrace s es

theorem valid_trace_execution {s : σ} {es : List ι} (h : ValidTrace next admits s es) :
    Execution next admits s (runTrace next s es) := by
  induction es generalizing s with
  | nil => exact .refl s
  | cons e es ih => exact (Execution.single h.1).trans (ih h.2)

theorem valid_trace_of_total (s : σ) (es : List ι) :
    ValidTrace next (fun _ _ => True) s es := by
  induction es generalizing s with
  | nil => trivial
  | cons e es ih => exact ⟨trivial, ih (next s e)⟩

end InputRuns
