import Mathlib.Logic.Basic

/-! # Programs that raise

A program changes a state, and returns or raises; what it has changed before it raises stays
changed. It has a postcondition for either end. -/
namespace RaisingPrograms

variable {ε σ α β γ : Type}

/-- From a state of `P` the program returns as `Q` says or raises as `E` says. -/
def Meets (P : σ → Prop) (p : EStateM ε σ α) (Q : α → σ → Prop) (E : ε → σ → Prop) : Prop :=
  ∀ s, P s → match p s with
    | .ok a s' => Q a s'
    | .error e s' => E e s'

/-- How the program ends is its result. -/
def attempt (p : EStateM ε σ α) : EStateM ε σ (Except ε α) :=
  tryCatch (do return .ok (← p)) fun e => return .error e

section
variable {P P' : σ → Prop} {p : EStateM ε σ α} {Q Q' : α → σ → Prop} {E E' : ε → σ → Prop}

theorem meets_pure (Q : α → σ → Prop) (E : ε → σ → Prop) (a : α) :
    Meets (Q a) (pure a : EStateM ε σ α) Q E := fun _ h => h

theorem meets_throw (Q : α → σ → Prop) (E : ε → σ → Prop) (e : ε) :
    Meets (E e) (throw e : EStateM ε σ α) Q E := fun _ h => h

theorem meets_weaken (h : Meets P p Q E) (hP : ∀ s, P' s → P s) (hQ : ∀ a s, Q a s → Q' a s)
    (hE : ∀ e s, E e s → E' e s) : Meets P' p Q' E' := by
  intro s hs
  have hend := h s (hP s hs)
  split at hend
  · exact hQ _ _ hend
  · exact hE _ _ hend

/-- What holds of no state in particular is a fact of the proof. -/
theorem meets_of_fact {c : Prop} (h : c → Meets P p Q E) : Meets (fun s => c ∧ P s) p Q E :=
  fun s hs => h hs.1 s hs.2

theorem meets_bind {R : α → σ → Prop} {f : α → EStateM ε σ β} {Q : β → σ → Prop}
    (hp : Meets P p R E) (hf : ∀ a, Meets (R a) (f a) Q E) : Meets P (p >>= f) Q E := by
  intro s hs
  have hend := hp s hs
  change match EStateM.bind p f s with
    | .ok b s' => Q b s'
    | .error e s' => E e s'
  unfold EStateM.bind
  cases hrun : p s with
  | ok a s' =>
    rw [hrun] at hend
    exact hf a s' hend
  | error e s' =>
    rw [hrun] at hend
    exact hend

theorem meets_const {c : Prop} (h : c → Meets (fun _ => True) p Q E) : Meets (fun _ => c) p Q E :=
  fun s hc => h hc s trivial

theorem meets_exists {ι : Type} {c : ι → Prop} {P : ι → σ → Prop}
    (h : ∀ i, c i → Meets (P i) p Q E) : Meets (fun s => ∃ i, c i ∧ P i s) p Q E :=
  fun s ⟨i, hc, hs⟩ => h i hc s hs

theorem meets_or (h : Meets P p Q E) (h' : Meets P' p Q E) :
    Meets (fun s => P s ∨ P' s) p Q E := fun s hs => hs.elim (h s) (h' s)

theorem meets_any (c : Prop) (p : EStateM ε σ α) :
    Meets (fun _ => c) p (fun _ _ => c) (fun _ _ => True) := by
  intro s hc
  split
  · exact hc
  · trivial

/-- What follows a look at the state starts from that state. -/
theorem meets_get_bind {f : σ → EStateM ε σ α}
    (h : ∀ s₁, Meets (fun s => s = s₁ ∧ P s) (f s₁) Q E) : Meets P (get >>= f) Q E :=
  fun s hs => h s s ⟨rfl, hs⟩

/-- What the handler starts from is how the program raises. -/
theorem meets_catch {R : ε → σ → Prop} {handler : ε → EStateM ε σ α} (hp : Meets P p Q R)
    (hh : ∀ e, Meets (R e) (handler e) Q E) : Meets P (tryCatch p handler) Q E := by
  intro s hs
  have hend := hp s hs
  change match EStateM.tryCatch p handler s with
    | .ok a s' => Q a s'
    | .error e s' => E e s'
  unfold EStateM.tryCatch
  cases hrun : p s with
  | ok a s' =>
    rw [hrun] at hend
    exact hend
  | error e s' =>
    rw [hrun] at hend
    exact hh e s' hend

/-- The cleanup comes after either end, and what it raises goes first. -/
theorem meets_finally {Q₁ : α → σ → Prop} {E₁ : ε → σ → Prop} {cleanup : EStateM ε σ β}
    (hp : Meets P p Q₁ E₁) (hreturn : ∀ a, Meets (Q₁ a) cleanup (fun _ => Q a) E)
    (hraise : ∀ e, Meets (E₁ e) cleanup (fun _ => E e) E) :
    Meets P (tryFinally p cleanup) Q E := by
  intro s hs
  have hend := hp s hs
  cases hrun : p s with
  | ok a s' =>
    rw [hrun] at hend
    have hafter := hreturn a s' hend
    cases hclean : cleanup s' with
    | ok b s'' =>
      rw [hclean] at hafter
      simp only [tryFinally, tryFinally', Functor.map, EStateM.map, hrun, hclean]
      exact hafter
    | error e s'' =>
      rw [hclean] at hafter
      simp only [tryFinally, tryFinally', Functor.map, EStateM.map, hrun, hclean]
      exact hafter
  | error e s' =>
    rw [hrun] at hend
    have hafter := hraise e s' hend
    cases hclean : cleanup s' with
    | ok b s'' =>
      rw [hclean] at hafter
      simp only [tryFinally, tryFinally', Functor.map, EStateM.map, hrun, hclean]
      exact hafter
    | error e' s'' =>
      rw [hclean] at hafter
      simp only [tryFinally, tryFinally', Functor.map, EStateM.map, hrun, hclean]
      exact hafter

theorem meets_attempt {Q : Except ε α → σ → Prop} {E' : ε → σ → Prop}
    (hp : Meets P p (fun a => Q (.ok a)) (fun e => Q (.error e))) :
    Meets P (attempt p) Q E' := by
  refine meets_catch (meets_bind hp fun a => ?_) fun e => ?_
  · exact meets_pure Q _ (.ok a)
  · exact meets_pure Q _ (.error e)

theorem meets_and (h : Meets P p Q E) (h' : Meets P' p Q' E') :
    Meets (fun s => P s ∧ P' s) p (fun a s => Q a s ∧ Q' a s) (fun e s => E e s ∧ E' e s) := by
  intro s hs
  have hend := h s hs.1
  have hend' := h' s hs.2
  cases hrun : p s with
  | ok a s' =>
    rw [hrun] at hend hend'
    exact ⟨hend, hend'⟩
  | error e s' =>
    rw [hrun] at hend hend'
    exact ⟨hend, hend'⟩

/-- A loop from one part of its list to the next. -/
theorem meets_for_m {I : List γ → σ → Prop} {f : γ → EStateM ε σ PUnit} {cs : List γ}
    (hstep : ∀ done c rest, cs = done ++ c :: rest →
      Meets (I done) (f c) (fun _ => I (done ++ [c])) E) :
    Meets (I []) (cs.forM f) (fun _ => I cs) E := by
  have hfrom : ∀ rest done, cs = done ++ rest →
      Meets (I done) (rest.forM f) (fun _ => I cs) E := by
    intro rest
    induction rest with
    | nil =>
      intro done hcs
      rw [List.append_nil] at hcs
      subst hcs
      exact fun _ h => h
    | cons c rest ih =>
      intro done hcs
      refine meets_bind (hstep done c rest hcs) fun _ => ih (done ++ [c]) ?_
      rw [hcs, List.append_assoc, List.singleton_append]
  exact hfrom cs [] rfl

end

/-! ### What a program keeps -/

/-- However the program ends, `I` still holds. -/
def Keeps (I : σ → Prop) (p : EStateM ε σ α) : Prop := Meets I p (fun _ => I) (fun _ => I)

section
variable {I : σ → Prop} {p : EStateM ε σ α}

theorem keeps_pure (a : α) : Keeps I (pure a : EStateM ε σ α) := fun _ h => h

theorem keeps_throw (e : ε) : Keeps I (throw e : EStateM ε σ α) := fun _ h => h

theorem keeps_get : Keeps I (get : EStateM ε σ σ) := fun _ h => h

theorem keeps_modify {f : σ → σ} (h : ∀ s, I s → I (f s)) :
    Keeps I (modify f : EStateM ε σ PUnit) := h

theorem keeps_bind {f : α → EStateM ε σ β} (hp : Keeps I p) (hf : ∀ a, Keeps I (f a)) :
    Keeps I (p >>= f) := meets_bind hp hf

theorem keeps_catch {handler : ε → EStateM ε σ α} (hp : Keeps I p)
    (hh : ∀ e, Keeps I (handler e)) : Keeps I (tryCatch p handler) := meets_catch hp hh

theorem keeps_finally {cleanup : EStateM ε σ β} (hp : Keeps I p) (hc : Keeps I cleanup) :
    Keeps I (tryFinally p cleanup) := meets_finally hp (fun _ => hc) fun _ => hc

theorem keeps_for_m {f : γ → EStateM ε σ PUnit} {cs : List γ} (h : ∀ c ∈ cs, Keeps I (f c)) :
    Keeps I (cs.forM f) :=
  meets_for_m (I := fun _ => I) fun _ c _ hcs =>
    h c (hcs ▸ List.mem_append_right _ List.mem_cons_self)

end

end RaisingPrograms
