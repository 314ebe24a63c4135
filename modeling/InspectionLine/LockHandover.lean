import InspectionLine.ExecutorLock
import InspectionLine.InputRuns
import Mathlib.Logic.Function.Basic

/-! # The lock is handed over in the order of arrival

Every `async with` on the lock is one acquisition. A section under `_guard` is one step, and the
chosen successor is woken in a later one. -/
namespace InspectionLine

open InputRuns

namespace ExecutorLock

variable {τ : Type*}

/-- The loop of `release`: canceled waiters are dropped on the way to the first live one. -/
def popLive (canceled : τ → Bool) : List τ → Option τ × List τ
  | [] => (none, [])
  | candidate :: waiters =>
    if canceled candidate then popLive canceled waiters else (some candidate, waiters)

/-- `release`, where waiters may have been canceled. -/
def handOver (lock : ExecutorLock τ) (canceled : τ → Bool) : Option τ × ExecutorLock τ :=
  match popLive canceled lock.waiters with
  | (none, waiters) => (none, { locked := false, waiters })
  | (some successor, waiters) => (some successor, { lock with waiters })

theorem release_eq (lock : ExecutorLock τ) : lock.release = lock.handOver fun _ => false := by
  obtain ⟨locked, waiters⟩ := lock
  cases waiters <;> rfl

theorem pop_live_none {canceled : τ → Bool} {waiters rest : List τ}
    (h : popLive canceled waiters = (none, rest)) :
    rest = [] ∧ ∀ a ∈ waiters, canceled a = true := by
  induction waiters with
  | nil =>
    cases h
    exact ⟨rfl, fun _ ha => absurd ha List.not_mem_nil⟩
  | cons b waiters ih =>
    rw [popLive] at h
    split at h
    · rename_i hb
      obtain ⟨hrest, hall⟩ := ih h
      refine ⟨hrest, fun a ha => ?_⟩
      rcases List.mem_cons.mp ha with rfl | ha
      · exact hb
      · exact hall a ha
    · cases h

theorem pop_live_some {canceled : τ → Bool} {waiters rest : List τ} {successor : τ}
    (h : popLive canceled waiters = (some successor, rest)) :
    ∃ passed, waiters = passed ++ successor :: rest ∧ (∀ a ∈ passed, canceled a = true) ∧
      canceled successor = false := by
  induction waiters with
  | nil => cases h
  | cons b waiters ih =>
    rw [popLive] at h
    split at h
    · rename_i hb
      obtain ⟨passed, rfl, hpassed, hlive⟩ := ih h
      refine ⟨b :: passed, rfl, fun a ha => ?_, hlive⟩
      rcases List.mem_cons.mp ha with rfl | ha
      · exact hb
      · exact hpassed a ha
    · rename_i hb
      cases h
      exact ⟨[], rfl, fun _ ha => absurd ha List.not_mem_nil, eq_false_of_ne_true hb⟩

end ExecutorLock

/-- Where an acquisition stands. `selected` is in transit: `release` has chosen it, and its future
has no result yet. -/
inductive AcquisitionPhase (τ : Type*) where
  | notStarted
  | waiting
  | canceled
  | selected
  | woken
  | holding
  | waking (successor : τ)
  | released
  deriving DecidableEq, Repr

def AcquisitionPhase.owns {τ : Type*} : AcquisitionPhase τ → Bool
  | .selected | .woken | .holding => true
  | _ => false

/-- The acquisition has left, and its `release` still has to wake the successor. -/
def AcquisitionPhase.wakes {τ : Type*} : AcquisitionPhase τ → Bool
  | .waking _ => true
  | _ => false

/-- The lock belongs to the acquisition or has belonged to it. -/
def AcquisitionPhase.served {τ : Type*} : AcquisitionPhase τ → Bool
  | .selected | .woken | .holding | .waking _ | .released => true
  | _ => false

/-- The lock, its acquisitions, and in what order they came and became its owners. -/
structure LockWorld (τ : Type*) where
  lock : ExecutorLock τ := {}
  phase : τ → AcquisitionPhase τ := fun _ => .notStarted
  entered : List τ := []
  owners : List τ := []

inductive LockStep (τ : Type*) where
  | enter (a : τ)
  | cancel (a : τ)
  | release (a : τ)
  | wake (a : τ)
  | resume (a : τ)
  deriving DecidableEq, Repr

namespace LockWorld

variable {τ : Type*} [DecidableEq τ]

def canceled (phase : τ → AcquisitionPhase τ) (a : τ) : Bool := phase a = .canceled

def live (phase : τ → AcquisitionPhase τ) (a : τ) : Bool := !canceled phase a

def setPhase (w : LockWorld τ) (a : τ) (phase : AcquisitionPhase τ) : LockWorld τ :=
  { w with phase := Function.update w.phase a phase }

/-- `__aenter__` up to its `await`. -/
def enter (w : LockWorld τ) (a : τ) : LockWorld τ :=
  match w.lock.enter a with
  | (true, lock) => { w with
      lock, entered := w.entered ++ [a], owners := w.owners ++ [a] }.setPhase a .holding
  | (false, lock) => { w with lock, entered := w.entered ++ [a] }.setPhase a .waiting

/-- `release` up to the end of its section. -/
def release (w : LockWorld τ) (a : τ) : LockWorld τ :=
  match w.lock.handOver (canceled w.phase) with
  | (none, lock) => { w with lock }.setPhase a .released
  | (some successor, lock) => ({ w with
      lock, owners := w.owners ++ [successor] }.setPhase a (.waking successor)).setPhase
        successor .selected

/-- `set_result`, outside the section. -/
def wake (w : LockWorld τ) (a : τ) : LockWorld τ :=
  match w.phase a with
  | .waking successor => (w.setPhase a .released).setPhase successor .woken
  | _ => w

def next (w : LockWorld τ) : LockStep τ → LockWorld τ
  | .enter a => w.enter a
  | .cancel a => w.setPhase a .canceled
  | .release a => w.release a
  | .wake a => w.wake a
  | .resume a => w.setPhase a .holding

/-- Only who is inside releases, as `async with` does it, and no waiter is canceled once it is
selected. -/
def Admits (w : LockWorld τ) : LockStep τ → Prop
  | .enter a => w.phase a = .notStarted
  | .cancel a => w.phase a = .waiting
  | .release a => w.phase a = .holding
  | .wake a => (w.phase a).wakes = true
  | .resume a => w.phase a = .woken

instance (w : LockWorld τ) (e : LockStep τ) : Decidable (w.Admits e) := by
  cases e <;> dsimp only [Admits] <;> infer_instance

abbrev Run : LockWorld τ → LockWorld τ → Prop := Execution next Admits

/-- One acquisition owns a locked lock, who is in line waits or was canceled, and the owners with
the live waiters behind them are the live acquisitions in the order of their arrival. -/
structure HandedOver (lock : ExecutorLock τ) (phase : τ → AcquisitionPhase τ)
    (entered owners : List τ) : Prop where
  alone : ∀ a b, (phase a).owns = true → (phase b).owns = true → a = b
  owned : lock.locked = true ↔ ∃ a, (phase a).owns = true
  unlocked : lock.locked = false → lock.waiters = []
  lined : ∀ a ∈ lock.waiters, phase a = .waiting ∨ phase a = .canceled
  waits : ∀ a, phase a = .waiting → a ∈ lock.waiters
  nodup : lock.waiters.Nodup
  fresh : ∀ a, phase a = .notStarted ↔ a ∉ entered
  served : ∀ a ∈ owners, (phase a).served = true
  waking : ∀ a b, phase a = .waking b → phase b = .selected
  waker : ∀ a b c d, phase a = .waking c → phase b = .waking d → a = b
  order : owners ++ lock.waiters.filter (live phase) = entered.filter (live phase)

variable {lock lock' : ExecutorLock τ} {phase : τ → AcquisitionPhase τ} {entered owners : List τ}
  {a b : τ} {p : AcquisitionPhase τ}

theorem initial_handed_over :
    HandedOver ({} : ExecutorLock τ) (fun _ => .notStarted) [] [] := by
  constructor <;> simp [AcquisitionPhase.owns]

theorem live_eq_true : live phase a = true ↔ phase a ≠ .canceled := by
  simp [live, canceled]

/-- A phase that changes, but not to or from a cancellation, changes nobody's being live. -/
theorem live_update (ha : phase a ≠ .canceled) (hp : p ≠ .canceled) :
    live (Function.update phase a p) = live phase := by
  funext b
  simp only [live, canceled, Function.update_apply]
  split
  · rename_i hb
    rw [hb, decide_eq_false hp, decide_eq_false ha]
  · rfl

/-- Once the waiters in line are all canceled, no live one is among them. -/
theorem none_live {waiters : List τ} (h : ∀ b ∈ waiters, canceled phase b = true) :
    waiters.filter (live phase) = [] := by
  refine List.filter_eq_nil_iff.mpr fun b hb => ?_
  rw [live, h b hb]
  exact Bool.false_ne_true

/-! ### What one changed phase leaves as it was -/

theorem waking_update (h : ∀ b c, phase b = .waking c → phase c = .selected)
    (ha : phase a ≠ .selected) (hp : ∀ c, p ≠ .waking c) (b c : τ)
    (hb : Function.update phase a p b = .waking c) : Function.update phase a p c = .selected := by
  rw [Function.update_apply] at hb
  split at hb
  · exact absurd hb (hp c)
  · have hsel := h b c hb
    have hne : c ≠ a := by
      rintro rfl
      exact ha hsel
    rw [Function.update_of_ne hne]
    exact hsel

theorem waker_update (h : ∀ b c d e, phase b = .waking d → phase c = .waking e → b = c)
    (hp : ∀ c, p ≠ .waking c) (b c d e : τ) (hb : Function.update phase a p b = .waking d)
    (hc : Function.update phase a p c = .waking e) : b = c := by
  rw [Function.update_apply] at hb hc
  split at hb
  · exact absurd hb (hp d)
  · split at hc
    · exact absurd hc (hp e)
    · exact h b c d e hb hc

theorem served_update {owners : List τ} (h : ∀ b ∈ owners, (phase b).served = true)
    (hp : (phase a).served = true → p.served = true) :
    ∀ b ∈ owners, (Function.update phase a p b).served = true := by
  intro b hb
  rw [Function.update_apply]
  split
  · rename_i heq
    exact hp (heq ▸ h b hb)
  · exact h b hb

theorem fresh_update {entered : List τ} (h : ∀ b, phase b = .notStarted ↔ b ∉ entered)
    (ha : phase a ≠ .notStarted) (hp : p ≠ .notStarted) (b : τ) :
    Function.update phase a p b = .notStarted ↔ b ∉ entered := by
  rw [Function.update_apply]
  split
  · rename_i hb
    rw [hb]
    exact iff_of_false hp fun hnot => ha ((h a).mpr hnot)
  · exact h b

theorem fresh_enter {entered : List τ} (h : ∀ b, phase b = .notStarted ↔ b ∉ entered)
    (hp : p ≠ .notStarted) (b : τ) :
    Function.update phase a p b = .notStarted ↔ b ∉ entered ++ [a] := by
  rw [Function.update_apply, List.mem_append, List.mem_singleton, not_or]
  split
  · rename_i hb
    exact iff_of_false hp fun hnot => hnot.2 hb
  · rename_i hb
    rw [h b]
    exact (and_iff_left hb).symm

theorem lined_update {waiters : List τ}
    (h : ∀ b ∈ waiters, phase b = .waiting ∨ phase b = .canceled)
    (ha : phase a ≠ .waiting) (hc : phase a ≠ .canceled) :
    ∀ b ∈ waiters, Function.update phase a p b = .waiting ∨
      Function.update phase a p b = .canceled := by
  intro b hb
  have hne : b ≠ a := by
    rintro rfl
    exact (h b hb).elim ha hc
  rw [Function.update_of_ne hne]
  exact h b hb

theorem waits_update {waiters : List τ} (h : ∀ b, phase b = .waiting → b ∈ waiters)
    (hp : p ≠ .waiting) (b : τ) (hb : Function.update phase a p b = .waiting) : b ∈ waiters := by
  rw [Function.update_apply] at hb
  split at hb
  · exact absurd hb hp
  · exact h b hb

/-! ### What each step keeps -/

namespace HandedOver

theorem first (h : HandedOver lock phase entered owners) (hnew : phase a = .notStarted)
    (henter : lock.enter a = (true, lock')) :
    HandedOver lock' (Function.update phase a .holding) (entered ++ [a]) (owners ++ [a]) := by
  unfold ExecutorLock.enter at henter
  split at henter
  · cases henter
  rename_i hfree
  cases henter
  have hnobody : ∀ b, (phase b).owns ≠ true := fun b hb => hfree (h.owned.mpr ⟨b, hb⟩)
  have hline := h.unlocked (eq_false_of_ne_true hfree)
  have hmine : ∀ b, (Function.update phase a .holding b).owns = true → b = a := by
    intro b hb
    by_contra hne
    rw [Function.update_of_ne hne] at hb
    exact hnobody b hb
  refine {
    alone := fun b c hb hc => (hmine b hb).trans (hmine c hc).symm
    owned := ⟨fun _ => ⟨a, by rw [Function.update_self]; rfl⟩, fun _ => rfl⟩
    unlocked := fun hfalse => by cases hfalse
    lined := fun b hb => absurd (hline ▸ hb) List.not_mem_nil
    waits := waits_update h.waits nofun
    nodup := h.nodup
    fresh := fresh_enter h.fresh nofun
    served := fun b hb => ?_
    waking := waking_update h.waking (by simp [hnew]) nofun
    waker := waker_update h.waker nofun
    order := ?_ }
  · rcases List.mem_append.mp hb with hb | hb
    · exact served_update h.served (fun _ => rfl) b hb
    · rw [List.mem_singleton.mp hb, Function.update_self]
      rfl
  · have hmine : live phase a = true := live_eq_true.mpr (by simp [hnew])
    have horder := h.order
    have hlive : live (Function.update phase a .holding) = live phase :=
      live_update (by simp [hnew]) nofun
    rw [hline, List.filter_nil, List.append_nil] at horder
    rw [hlive, hline, List.filter_nil, List.append_nil,
      List.filter_append, ← horder, List.filter_singleton, hmine, cond_true]

/-- Who finds the lock taken stands at the end of the line. -/
theorem behind (h : HandedOver lock phase entered owners) (hnew : phase a = .notStarted)
    (henter : lock.enter a = (false, lock')) :
    HandedOver lock' (Function.update phase a .waiting) (entered ++ [a]) owners := by
  unfold ExecutorLock.enter at henter
  split at henter
  · rename_i htaken
    cases henter
    have howns : ∀ b, (Function.update phase a .waiting b).owns = (phase b).owns := by
      intro b
      rw [Function.update_apply]
      split
      · rename_i hb
        rw [hb, hnew]
        rfl
      · rfl
    have hnotin : a ∉ lock.waiters := by
      intro hin
      rcases h.lined a hin with hphase | hphase <;> rw [hnew] at hphase <;> cases hphase
    refine {
      alone := fun b c hb hc => h.alone b c ((howns b).symm.trans hb) ((howns c).symm.trans hc)
      owned := h.owned.trans (exists_congr fun b => by rw [howns b])
      unlocked := fun hfalse => absurd (htaken.symm.trans hfalse) nofun
      lined := fun b hb => ?_
      waits := fun b hb => ?_
      nodup := List.nodup_append.mpr ⟨h.nodup, List.nodup_singleton a, fun b hb c hc heq =>
        hnotin (List.mem_singleton.mp hc ▸ heq ▸ hb)⟩
      fresh := fresh_enter h.fresh nofun
      served := served_update h.served fun hserved => by rw [hnew] at hserved; cases hserved
      waking := waking_update h.waking (by simp [hnew]) nofun
      waker := waker_update h.waker nofun
      order := ?_ }
    · rcases List.mem_append.mp hb with hb | hb
      · exact lined_update h.lined (by simp [hnew]) (by simp [hnew]) b hb
      · rw [List.mem_singleton.mp hb, Function.update_self]
        exact .inl rfl
    · rw [Function.update_apply] at hb
      split at hb
      · rename_i heq
        exact List.mem_append_right _ (List.mem_singleton.mpr heq)
      · exact List.mem_append_left _ (h.waits b hb)
    · have hlive : live (Function.update phase a .waiting) = live phase :=
        live_update (by simp [hnew]) nofun
      rw [hlive, List.filter_append, List.filter_append,
        ← List.append_assoc, h.order]
  · cases henter

theorem cancel (h : HandedOver lock phase entered owners) (hwaits : phase a = .waiting) :
    HandedOver lock (Function.update phase a .canceled) entered owners := by
  have howns : ∀ b, (Function.update phase a .canceled b).owns = (phase b).owns := by
    intro b
    rw [Function.update_apply]
    split
    · rename_i hb
      rw [hb, hwaits]
      rfl
    · rfl
  refine {
    alone := fun b c hb hc => h.alone b c ((howns b).symm.trans hb) ((howns c).symm.trans hc)
    owned := h.owned.trans (exists_congr fun b => by rw [howns b])
    unlocked := h.unlocked
    lined := fun b hb => ?_
    waits := waits_update h.waits nofun
    nodup := h.nodup
    fresh := fresh_update h.fresh (by simp [hwaits]) nofun
    served := served_update h.served fun hserved => by rw [hwaits] at hserved; cases hserved
    waking := waking_update h.waking (by simp [hwaits]) nofun
    waker := waker_update h.waker nofun
    order := ?_ }
  · rw [Function.update_apply]
    split
    · exact .inr rfl
    · exact h.lined b hb
  · -- the canceled acquisition leaves both sides, and no owner is canceled
    have hlive : ∀ b, live (Function.update phase a .canceled) b =
        (decide (b ≠ a) && live phase b) := by
      intro b
      simp only [live, canceled, Function.update_apply]
      split
      · rename_i hb
        simp [hb]
      · rename_i hb
        simp [hb]
    have howners : owners.filter (fun b => decide (b ≠ a)) = owners := by
      refine List.filter_eq_self.mpr fun b hb => decide_eq_true ?_
      rintro rfl
      have hserved := h.served b hb
      rw [hwaits] at hserved
      cases hserved
    have hboth := congrArg (List.filter fun b => decide (b ≠ a)) h.order
    rw [List.filter_append, howners, List.filter_filter, List.filter_filter] at hboth
    rw [funext hlive]
    exact hboth

/-- An owner that stays an owner changes nothing else. -/
theorem inside (h : HandedOver lock phase entered owners) (ha : (phase a).owns = true)
    (hp : p.owns = true) (hquiet : phase a = .selected → ∀ b c, phase b ≠ .waking c) :
    HandedOver lock (Function.update phase a p) entered owners := by
  have hother : ∀ q : AcquisitionPhase τ, q.owns = false → phase a ≠ q ∧ p ≠ q := by
    refine fun q hq => ⟨?_, ?_⟩ <;> rintro heq
    · rw [heq, hq] at ha
      cases ha
    · rw [heq, hq] at hp
      cases hp
  have howns : ∀ b, (Function.update phase a p b).owns = (phase b).owns := by
    intro b
    rw [Function.update_apply]
    split
    · rename_i hb
      rw [hb, ha, hp]
    · rfl
  have hserved : p.served = true := by
    cases p <;> first | rfl | cases hp
  exact {
    alone := fun b c hb hc => h.alone b c ((howns b).symm.trans hb) ((howns c).symm.trans hc)
    owned := h.owned.trans (exists_congr fun b => by rw [howns b])
    unlocked := h.unlocked
    lined := lined_update h.lined (hother _ rfl).1 (hother _ rfl).1
    waits := waits_update h.waits (hother _ rfl).2
    nodup := h.nodup
    fresh := fresh_update h.fresh (hother _ rfl).1 (hother _ rfl).2
    served := served_update h.served fun _ => hserved
    waking := fun b c hb => by
      by_cases hsel : phase a = .selected
      · have hne : b ≠ a := by
          rintro rfl
          rw [Function.update_self] at hb
          exact (hother _ rfl).2 hb
        rw [Function.update_of_ne hne] at hb
        exact absurd hb (hquiet hsel b c)
      · exact waking_update h.waking hsel (fun c => (hother _ rfl).2) b c hb
    waker := waker_update h.waker fun c => (hother _ rfl).2
    order := by
      rw [live_update (hother _ rfl).1 (hother _ rfl).2]
      exact h.order }

theorem done (h : HandedOver lock phase entered owners) (hwaking : phase a = .waking b) :
    HandedOver lock (Function.update phase a .released) entered owners := by
  have howns : ∀ c, (Function.update phase a .released c).owns = (phase c).owns := by
    intro c
    rw [Function.update_apply]
    split
    · rename_i hc
      rw [hc, hwaking]
      rfl
    · rfl
  exact {
    alone := fun b c hb hc => h.alone b c ((howns b).symm.trans hb) ((howns c).symm.trans hc)
    owned := h.owned.trans (exists_congr fun b => by rw [howns b])
    unlocked := h.unlocked
    lined := lined_update h.lined (by simp [hwaking]) (by simp [hwaking])
    waits := waits_update h.waits nofun
    nodup := h.nodup
    fresh := fresh_update h.fresh (by simp [hwaking]) nofun
    served := served_update h.served fun _ => rfl
    waking := waking_update h.waking (by simp [hwaking]) nofun
    waker := waker_update h.waker nofun
    order := by
      have hlive : live (Function.update phase a .released) = live phase :=
        live_update (by simp [hwaking]) nofun
      rw [hlive]
      exact h.order }

theorem wake (h : HandedOver lock phase entered owners) (hwaking : phase a = .waking b) :
    HandedOver lock (Function.update (Function.update phase a .released) b .woken)
      entered owners := by
  have hsel := h.waking a b hwaking
  have hne : b ≠ a := by
    rintro rfl
    rw [hwaking] at hsel
    cases hsel
  refine (h.done hwaking).inside ?_ rfl fun _ c d hc => ?_
  · rw [Function.update_of_ne hne, hsel]
    rfl
  · -- only the releasing task was waking anybody
    rw [Function.update_apply] at hc
    split at hc
    · cases hc
    · rename_i hca
      exact hca (h.waker c a d b hc hwaking)

/-- While somebody is inside, nobody is about to be woken. -/
theorem nobody_wakes (h : HandedOver lock phase entered owners) (hholds : phase a = .holding)
    (b c : τ) : phase b ≠ .waking c := by
  intro hb
  have hsel := h.waking b c hb
  have hc := h.alone c a (by rw [hsel]; rfl) (by rw [hholds]; rfl)
  rw [hc, hholds] at hsel
  cases hsel

theorem unlock (h : HandedOver lock phase entered owners) (hholds : phase a = .holding)
    {waiters : List τ} (hpop : ExecutorLock.popLive (canceled phase) lock.waiters =
      (none, waiters)) :
    HandedOver { locked := false, waiters } (Function.update phase a .released) entered
      owners := by
  obtain ⟨rfl, hcanceled⟩ := ExecutorLock.pop_live_none hpop
  have hnobody : ∀ b, (Function.update phase a .released b).owns ≠ true := by
    intro b hb
    by_cases hne : b = a
    · rw [hne, Function.update_self] at hb
      cases hb
    · rw [Function.update_of_ne hne] at hb
      exact hne (h.alone b a hb (by rw [hholds]; rfl))
  refine {
    alone := fun b _ hb => absurd hb (hnobody b)
    owned := iff_of_false Bool.false_ne_true fun ⟨b, hb⟩ => hnobody b hb
    unlocked := fun _ => rfl
    lined := fun _ hb => absurd hb List.not_mem_nil
    waits := fun b hb => ?_
    nodup := .nil
    fresh := fresh_update h.fresh (by simp [hholds]) nofun
    served := served_update h.served fun _ => rfl
    waking := waking_update h.waking (by simp [hholds]) nofun
    waker := waker_update h.waker nofun
    order := ?_ }
  · rw [Function.update_apply] at hb
    split at hb
    · cases hb
    · have hc := hcanceled b (h.waits b hb)
      rw [canceled, hb] at hc
      cases hc
  · have hlive : live (Function.update phase a .released) = live phase :=
      live_update (by simp [hholds]) nofun
    rw [hlive, ← h.order, none_live hcanceled]
    rfl

/-- The chosen successor owns the lock before its future has a result. -/
theorem select (h : HandedOver lock phase entered owners) (hholds : phase a = .holding)
    {waiters : List τ} (hpop : ExecutorLock.popLive (canceled phase) lock.waiters =
      (some b, waiters)) :
    HandedOver { lock with waiters }
      (Function.update (Function.update phase a (.waking b)) b .selected) entered
      (owners ++ [b]) := by
  obtain ⟨passed, hline, hpassed, hlive⟩ := ExecutorLock.pop_live_some hpop
  have hin : b ∈ lock.waiters := by
    rw [hline]
    exact List.mem_append_right _ List.mem_cons_self
  have hwaits : phase b = .waiting := by
    refine (h.lined b hin).resolve_right fun hc => ?_
    rw [canceled, hc] at hlive
    cases hlive
  have hlocked : lock.locked = true := h.owned.mpr ⟨a, by rw [hholds]; rfl⟩
  have hnodup := h.nodup
  rw [hline] at hnodup
  obtain ⟨hnot, hrest⟩ := List.nodup_cons.mp (List.nodup_append.mp hnodup).2.1
  have hne : b ≠ a := by
    rintro rfl
    rw [hwaits] at hholds
    cases hholds
  obtain ⟨after, hafter⟩ : ∃ after, after =
      Function.update (Function.update phase a (.waking b)) b .selected := ⟨_, rfl⟩
  have hb : after b = .selected := by rw [hafter, Function.update_self]
  have ha : after a = .waking b := by
    rw [hafter, Function.update_of_ne hne.symm, Function.update_self]
  have hother : ∀ c, c ≠ a → c ≠ b → after c = phase c := by
    intro c hca hcb
    rw [hafter, Function.update_of_ne hcb, Function.update_of_ne hca]
  have hsame : live after = live phase := by
    have hfirst : live (Function.update phase a (.waking b)) = live phase :=
      live_update (by simp [hholds]) nofun
    rw [hafter, ← hfirst]
    exact live_update (by simp [Function.update_of_ne hne, hwaits]) nofun
  have howner : ∀ c, (after c).owns = true → c = b := by
    intro c hc
    by_contra hcb
    by_cases hca : c = a
    · rw [hca, ha] at hc
      cases hc
    · rw [hother c hca hcb] at hc
      exact hca (h.alone c a hc (by rw [hholds]; rfl))
  have hwaker : ∀ c d, after c = .waking d → c = a := by
    intro c d hc
    by_contra hca
    by_cases hcb : c = b
    · rw [hcb, hb] at hc
      cases hc
    · rw [hother c hca hcb] at hc
      exact h.nobody_wakes hholds c d hc
  rw [← hafter]
  refine {
    alone := fun c d hc hd => (howner c hc).trans (howner d hd).symm
    owned := iff_of_true hlocked ⟨b, by rw [hb]; rfl⟩
    unlocked := fun hfree => absurd (hlocked.symm.trans hfree) nofun
    lined := fun c hc => ?_
    waits := fun c hc => ?_
    nodup := hrest
    fresh := fun c => ?_
    served := fun c hc => ?_
    waking := fun c d hc => ?_
    waker := fun c d e f hc hd => (hwaker c e hc).trans (hwaker d f hd).symm
    order := ?_ }
  · have hold : phase c = .waiting ∨ phase c = .canceled := by
      refine h.lined c ?_
      rw [hline]
      exact List.mem_append_right _ (List.mem_cons_of_mem b hc)
    rw [hother c ?_ ?_]
    · exact hold
    · rintro rfl
      rcases hold with hold | hold <;> rw [hholds] at hold <;> cases hold
    · rintro rfl
      exact hnot hc
  · have hcb : c ≠ b := by
      rintro rfl
      rw [hb] at hc
      cases hc
    have hca : c ≠ a := by
      rintro rfl
      rw [ha] at hc
      cases hc
    rw [hother c hca hcb] at hc
    have hin := h.waits c hc
    rw [hline] at hin
    rcases List.mem_append.mp hin with hin | hin
    · have hcanceled := hpassed c hin
      rw [canceled, hc] at hcanceled
      cases hcanceled
    · exact (List.mem_cons.mp hin).resolve_left hcb
  · rw [← h.fresh c]
    by_cases hcb : c = b
    · rw [hcb, hb, hwaits]
      simp
    · by_cases hca : c = a
      · rw [hca, ha, hholds]
        simp
      · rw [hother c hca hcb]
  · by_cases hcb : c = b
    · rw [hcb, hb]
      rfl
    · by_cases hca : c = a
      · rw [hca, ha]
        rfl
      · rw [hother c hca hcb]
        exact h.served c ((List.mem_append.mp hc).resolve_right fun hc =>
          hcb (List.mem_singleton.mp hc))
  · have hca := hwaker c d hc
    rw [hca, ha] at hc
    cases hc
    exact hb
  · have horder := h.order
    rw [hline, List.filter_append, none_live hpassed, List.nil_append, List.filter_cons,
      if_pos (live_eq_true.mpr (by simp [hwaits]))] at horder
    rw [hsame]
    exact (List.append_assoc _ _ _).trans horder

end HandedOver

theorem handed_over_next {w : LockWorld τ} {e : LockStep τ}
    (h : HandedOver w.lock w.phase w.entered w.owners) (he : w.Admits e) :
    HandedOver (w.next e).lock (w.next e).phase (w.next e).entered (w.next e).owners := by
  cases e with
  | enter a =>
    simp only [next, enter]
    split
    · rename_i henter
      exact h.first he henter
    · rename_i henter
      exact h.behind he henter
  | cancel a => exact h.cancel he
  | release a =>
    simp only [next, release, ExecutorLock.handOver]
    cases hpop : ExecutorLock.popLive (canceled w.phase) w.lock.waiters with
    | mk successor waiters =>
      cases successor with
      | none => exact h.unlock he hpop
      | some b => exact h.select he hpop
  | wake a =>
    simp only [next, wake]
    split
    · rename_i b hwaking
      exact h.wake hwaking
    · exact h
  | resume a =>
    refine h.inside (by rw [show w.phase a = .woken from he]; rfl) rfl fun hsel => ?_
    rw [show w.phase a = .woken from he] at hsel
    cases hsel

/-- In every interleaving one acquisition at most owns the lock, the lock is unlocked only while
no live acquisition is in line, and the acquisitions become its owners in the order in which they
came, the canceled ones left out. -/
theorem handed_over_in_order {w : LockWorld τ} (h : Run {} w) :
    (∀ a b, (w.phase a).owns = true → (w.phase b).owns = true → a = b) ∧
      (w.lock.locked = false → ∀ a ∈ w.lock.waiters, canceled w.phase a = true) ∧
      w.owners ++ w.lock.waiters.filter (live w.phase) = w.entered.filter (live w.phase) := by
  have hkept := h.invariant
    (P := fun w : LockWorld τ => HandedOver w.lock w.phase w.entered w.owners)
    (fun _ _ hw he => handed_over_next hw he) initial_handed_over
  refine ⟨hkept.alone, fun hfree a ha => ?_, hkept.order⟩
  rw [hkept.unlocked hfree] at ha
  exact absurd ha List.not_mem_nil

/-- The second of three tasks gives up while it waits. -/
def threeTasks : List (LockStep ℕ) :=
  [.enter 0, .enter 1, .enter 2, .cancel 1, .release 0, .wake 0, .resume 2]

theorem canceled_waiter_passed_over :
    (runTrace next ({} : LockWorld ℕ) threeTasks).owners = [0, 2] ∧
      live (runTrace next ({} : LockWorld ℕ) threeTasks).phase 1 = false ∧
      (runTrace next ({} : LockWorld ℕ) threeTasks).owners ++
          (runTrace next ({} : LockWorld ℕ) threeTasks).lock.waiters.filter
            (live (runTrace next ({} : LockWorld ℕ) threeTasks).phase) =
        (runTrace next ({} : LockWorld ℕ) threeTasks).entered.filter
          (live (runTrace next ({} : LockWorld ℕ) threeTasks).phase) :=
  ⟨by decide, by decide,
    (handed_over_in_order (valid_trace_execution (by decide))).2.2⟩

end LockWorld

end InspectionLine
