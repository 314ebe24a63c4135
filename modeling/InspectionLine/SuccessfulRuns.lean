import Mathlib.Data.List.Forall2

/-! # Computations that succeed

A computation that may raise succeeds when each of its parts does, and its result is made of
theirs. -/
namespace SuccessfulRuns

universe u v

variable {ε : Type u} {α β : Type v}

theorem bind_ok {x : Except ε α} {f : α → Except ε β} {b : β} :
    (x >>= f) = .ok b ↔ ∃ a, x = .ok a ∧ f a = .ok b := by
  constructor
  · intro h
    cases x with
    | error e => cases h
    | ok a => exact ⟨a, rfl, h⟩
  · rintro ⟨a, rfl, h⟩
    exact h

theorem for_m_ok {γ : Type*} {f : γ → Except ε PUnit} {cs : List γ} :
    cs.forM f = .ok ⟨⟩ ↔ ∀ c ∈ cs, f c = .ok ⟨⟩ := by
  induction cs with
  | nil => exact ⟨fun _ c hc => absurd hc List.not_mem_nil, fun _ => rfl⟩
  | cons c cs ih =>
    change (f c >>= fun _ => cs.forM f) = _ ↔ _
    rw [bind_ok, List.forall_mem_cons]
    constructor
    · rintro ⟨⟨⟩, hc, hcs⟩
      exact ⟨hc, ih.mp hcs⟩
    · rintro ⟨hc, hcs⟩
      exact ⟨⟨⟩, hc, ih.mpr hcs⟩

theorem map_m_eq {f : α → Except ε β} {g : α → β} {as : List α}
    (h : ∀ a ∈ as, f a = .ok (g a)) : as.mapM f = .ok (as.map g) := by
  induction as with
  | nil => rfl
  | cons a as ih =>
    rw [List.mapM_cons, h a List.mem_cons_self, ih fun b hb => h b (List.mem_cons_of_mem a hb)]
    rfl

theorem map_m_forall₂ {f : α → Except ε β} {as : List α} {bs : List β} :
    as.mapM f = .ok bs ↔ List.Forall₂ (fun a b => f a = .ok b) as bs := by
  induction as generalizing bs with
  | nil =>
    rw [List.forall₂_nil_left_iff]
    exact ⟨fun h => by cases h; rfl, fun h => by subst h; rfl⟩
  | cons a as ih =>
    rw [List.mapM_cons, List.forall₂_cons_left_iff, bind_ok]
    constructor
    · rintro ⟨b, hb, h⟩
      obtain ⟨rest, hrest, h⟩ := bind_ok.mp h
      cases h
      exact ⟨b, rest, hb, ih.mp hrest, rfl⟩
    · rintro ⟨b, rest, hb, hrest, rfl⟩
      exact ⟨b, hb, bind_ok.mpr ⟨rest, ih.mpr hrest, rfl⟩⟩

theorem map_m_total {f : α → Except ε β} {as : List α} (h : ∀ a ∈ as, ∃ b, f a = .ok b) :
    ∃ bs, as.mapM f = .ok bs := by
  induction as with
  | nil => exact ⟨[], rfl⟩
  | cons a as ih =>
    obtain ⟨b, hb⟩ := h a List.mem_cons_self
    obtain ⟨bs, hbs⟩ := ih fun x hx => h x (List.mem_cons_of_mem a hx)
    refine ⟨b :: bs, ?_⟩
    rw [List.mapM_cons, hb, hbs]
    rfl

/-- A step of a run over two related lists. -/
theorem map_m_related {R : α → α → Prop} {S : β → β → Prop} {f g : α → Except ε β}
    (hf : ∀ a a', R a a' → ∀ b, f a = .ok b → ∃ b', g a' = .ok b' ∧ S b b') {as as' : List α}
    (h : List.Forall₂ R as as') {bs : List β} (hbs : as.mapM f = .ok bs) :
    ∃ bs', as'.mapM g = .ok bs' ∧ List.Forall₂ S bs bs' := by
  induction h generalizing bs with
  | nil =>
    cases hbs
    exact ⟨[], rfl, .nil⟩
  | @cons a a' as as' ha _ ih =>
    rw [List.mapM_cons] at hbs
    obtain ⟨b, hb, hbs⟩ := bind_ok.mp hbs
    obtain ⟨rest, hrest, hbs⟩ := bind_ok.mp hbs
    cases hbs
    obtain ⟨b', hb', hrel⟩ := hf a a' ha b hb
    obtain ⟨rest', hrest', hrels⟩ := ih hrest
    refine ⟨b' :: rest', ?_, .cons hrel hrels⟩
    rw [List.mapM_cons, hb', hrest']
    rfl

theorem mem_of_map_m {f : α → Except ε β} {as : List α} {bs : List β}
    (h : as.mapM f = .ok bs) {a : α} (ha : a ∈ as) : ∃ b ∈ bs, f a = .ok b := by
  induction as generalizing bs with
  | nil => cases ha
  | cons c as ih =>
    rw [List.mapM_cons] at h
    obtain ⟨b, hb, h⟩ := bind_ok.mp h
    obtain ⟨rest, hrest, h⟩ := bind_ok.mp h
    cases h
    rcases List.mem_cons.mp ha with rfl | ha
    · exact ⟨b, List.mem_cons_self, hb⟩
    · obtain ⟨d, hd, hfa⟩ := ih hrest ha
      exact ⟨d, List.mem_cons_of_mem b hd, hfa⟩

theorem exists_of_mem_left {R : α → β → Prop} {as : List α} {bs : List β}
    (h : List.Forall₂ R as bs) {a : α} (ha : a ∈ as) : ∃ b ∈ bs, R a b := by
  induction h with
  | nil => cases ha
  | cons hab _ ih =>
    rcases List.mem_cons.mp ha with rfl | ha
    · exact ⟨_, List.mem_cons_self, hab⟩
    · obtain ⟨b, hb, hrel⟩ := ih ha
      exact ⟨b, List.mem_cons_of_mem _ hb, hrel⟩

theorem exists_of_mem_right {R : α → β → Prop} {as : List α} {bs : List β}
    (h : List.Forall₂ R as bs) {b : β} (hb : b ∈ bs) : ∃ a ∈ as, R a b :=
  exists_of_mem_left h.flip hb

/-- What holds of the result, should there be one. -/
def Ends {γ : Type*} (P : γ → Prop) (x : Except ε γ) : Prop := ∀ c, x = .ok c → P c

theorem ends_error {γ : Type*} (P : γ → Prop) (e : ε) : Ends P (.error e : Except ε γ) := by
  intro c h
  cases h

theorem ends_pure {γ : Type*} {P : γ → Prop} {c : γ} (h : P c) :
    Ends P (pure c : Except ε γ) := by
  intro c' hc
  cases hc
  exact h

theorem ends_bind {P : β → Prop} {x : Except ε α} {f : α → Except ε β}
    (h : ∀ a, x = .ok a → Ends P (f a)) : Ends P (x >>= f) := by
  intro b hb
  obtain ⟨a, ha, hb⟩ := bind_ok.mp hb
  exact h a ha b hb

/-- A fold keeps what its steps keep. -/
theorem ends_fold {σ : Type v} {γ : Type*} {P : σ → Prop} {f : σ → γ → Except ε σ}
    (hstep : ∀ s c, P s → Ends P (f s c)) (cs : List γ) {s : σ} (hs : P s) :
    Ends P (cs.foldlM f s) := by
  induction cs generalizing s with
  | nil => exact ends_pure hs
  | cons c cs ih =>
    rw [List.foldlM_cons]
    exact ends_bind fun s' hs' => ih (hstep s c hs s' hs')

end SuccessfulRuns
