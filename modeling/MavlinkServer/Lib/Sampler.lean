/-
  File:      MavlinkServer/Lib/Sampler.lean
  Subject:   A SAMPLER: a task that asks a source for its state again and
             again, and compares every answer with the one before. Nothing
             here names a program.

  * `Sampler α π` -- the last answer, under a lock of its own; what was made
    of the last comparison, under another; and where the task is;
  * `step` -- it takes the lock of the last answer, asks, compares, publishes
    under the second lock and remembers. The first lock is held until then;
  * `Tracks` -- nothing it remembers is ahead of the source, unless the source
    was set back and the sampler is about to be cleared; no answer is behind
    the one before. It is kept by every step that does not ask in that time;
  * `Shown` -- what is published shows the last answer.
-/
import Mathlib.Tactic.Common

namespace Lib

variable {α π : Type}

/-- Where a sampler is. -/
inductive SamplerPc (α π : Type) where
  | idle
  | wantsLast
  | asks
  | answered (current : α)
  | wantsPublished (current : α) (new : π)
  deriving DecidableEq, Repr

structure Sampler (α π : Type) where
  last : α
  published : π
  pc : SamplerPc α π
  deriving DecidableEq, Repr

/-- Where it is, without the answer it has. -/
inductive SamplerPhase where
  | idle
  | wantsLast
  | asks
  | answered
  | wantsPublished
  deriving DecidableEq, Repr

/-- The lock of the last answer is held. -/
def SamplerPhase.holdsLast : SamplerPhase → Bool
  | .idle | .wantsLast => false
  | .asks | .answered | .wantsPublished => true

namespace SamplerPc

def phase : SamplerPc α π → SamplerPhase
  | .idle => .idle
  | .wantsLast => .wantsLast
  | .asks => .asks
  | .answered _ => .answered
  | .wantsPublished _ _ => .wantsPublished

def current? : SamplerPc α π → Option α
  | .answered current | .wantsPublished current _ => some current
  | .idle | .wantsLast | .asks => none

theorem holdsLast_of_current? {pc : SamplerPc α π} {current : α} (h : pc.current? = some current) :
    pc.phase.holdsLast = true := by
  cases pc with
  | idle => cases h
  | wantsLast => cases h
  | asks => cases h
  | answered current => rfl
  | wantsPublished current new => rfl

end SamplerPc

namespace Sampler

/-- The next step of the task, when it does not wait for an answer: `lastFree` and
    `publishedFree` say whether it gets the locks, and `make` what is made of an answer and the
    one before. -/
def step (t : Sampler α π) (lastFree publishedFree : Bool) (make : α → α → π) :
    Option (Sampler α π) :=
  match t.pc with
  | .idle => some { t with pc := .wantsLast }
  | .wantsLast => if lastFree then some { t with pc := .asks } else none
  | .asks => none
  | .answered current => some { t with pc := .wantsPublished current (make current t.last) }
  | .wantsPublished current new =>
      if publishedFree then some { last := current, published := new, pc := .idle } else none

/-- The source answers. -/
def answer (t : Sampler α π) (current : α) : Sampler α π := { t with pc := .answered current }

variable {t t' : Sampler α π} {lastFree publishedFree : Bool} {make : α → α → π}

/-- **A step takes the lock of the last answer only where it waits for it.** -/
theorem holdsLast_step (h : t.step lastFree publishedFree make = some t')
    (hl : t'.pc.phase.holdsLast = true) :
    t.pc.phase.holdsLast = true ∨ t.pc.phase = .wantsLast := by
  cases hpc : t.pc with
  | idle =>
      simp only [step, hpc] at h
      cases h
      cases hl
  | wantsLast => exact Or.inr rfl
  | asks => exact Or.inl rfl
  | answered current => exact Or.inl rfl
  | wantsPublished current new => exact Or.inl rfl

/-- It keeps the lock as long as it does not get the other one. -/
theorem holdsLast_kept (h : t.step lastFree publishedFree make = some t')
    (hl : t.pc.phase.holdsLast = true) (hfree : publishedFree = false) :
    t'.pc.phase.holdsLast = true := by
  unfold step at h
  cases hpc : t.pc with
  | idle => rw [hpc] at hl; cases hl
  | wantsLast => rw [hpc] at hl; cases hl
  | asks => rw [hpc] at h; cases h
  | answered current =>
      rw [hpc] at h
      cases h
      rfl
  | wantsPublished current new =>
      rw [hpc, hfree] at h
      cases h

/-- A sampler that asks does not go on by itself. -/
theorem not_asks_step (h : t.step lastFree publishedFree make = some t') :
    t.pc.phase ≠ .asks := by
  intro hpc
  unfold step at h
  cases ht : t.pc with
  | asks => rw [ht] at h; cases h
  | idle => rw [ht] at hpc; cases hpc
  | wantsLast => rw [ht] at hpc; cases hpc
  | answered current => rw [ht] at hpc; cases hpc
  | wantsPublished current new => rw [ht] at hpc; cases hpc

/-! ## 1. Tracking a source that grows -/

/-- **Tracks**: what is remembered is behind the source, but for the time in which it is about to
    be cleared (`pending`); what was answered is ahead of what is remembered. -/
structure Tracks (Behind : α → α → Prop) (live : α) (pending : Prop) (t : Sampler α π) : Prop where
  last : ¬ pending → Behind t.last live
  current : ¬ pending → ∀ current, t.pc.current? = some current → Behind current live
  ordered : ∀ current, t.pc.current? = some current → Behind t.last current

variable {Behind : α → α → Prop} {live live' : α} {pending pending' : Prop}

/-- The source grows. -/
theorem Tracks.grow (h : Tracks Behind live pending t)
    (hpending : pending → pending')
    (hlive : ¬ pending' → ∀ a, a = t.last ∨ t.pc.current? = some a → Behind a live → Behind a live') :
    Tracks Behind live' pending' t where
  last := fun hp => hlive hp _ (Or.inl rfl) (h.last fun hp' => hp (hpending hp'))
  current := fun hp current hc =>
    hlive hp current (Or.inr hc) (h.current (fun hp' => hp (hpending hp')) current hc)
  ordered := h.ordered

/-- It is about to be cleared more often. -/
theorem Tracks.weaken (h : Tracks Behind live pending t) (hpending : pending → pending') :
    Tracks Behind live pending' t :=
  h.grow hpending fun _ _ _ hb => hb

/-- A sampler without an answer only remembers. -/
theorem tracks_of_no_current (hlast : ¬ pending → Behind t.last live)
    (hnone : t.pc.current? = none) : Tracks Behind live pending t where
  last := hlast
  current := fun _ current hc => by
    rw [hnone] at hc
    cases hc
  ordered := fun current hc => by
    rw [hnone] at hc
    cases hc

/-- The sampler takes a step. -/
theorem Tracks.step (h : Tracks Behind live pending t)
    (hstep : t.step lastFree publishedFree make = some t') : Tracks Behind live pending t' := by
  unfold Sampler.step at hstep
  cases hpc : t.pc with
  | idle =>
      rw [hpc] at hstep
      cases hstep
      exact tracks_of_no_current h.last rfl
  | wantsLast =>
      rw [hpc] at hstep
      obtain ⟨_, he⟩ := Option.ite_none_right_eq_some.mp hstep
      cases he
      exact tracks_of_no_current h.last rfl
  | asks =>
      rw [hpc] at hstep
      cases hstep
  | answered current =>
      rw [hpc] at hstep
      cases hstep
      refine ⟨h.last, fun hp a hc => ?_, fun a hc => ?_⟩
      · cases hc
        exact h.current hp current (by rw [hpc]; rfl)
      · cases hc
        exact h.ordered current (by rw [hpc]; rfl)
  | wantsPublished current new =>
      rw [hpc] at hstep
      obtain ⟨_, he⟩ := Option.ite_none_right_eq_some.mp hstep
      cases he
      exact tracks_of_no_current (fun hp => h.current hp current (by rw [hpc]; rfl)) rfl

/-- The source answers, at a time when the sampler is not about to be cleared. -/
theorem Tracks.answer (h : Tracks Behind live pending t) {current : α}
    (hlast : Behind t.last current) (hlive : ¬ pending → Behind current live) :
    Tracks Behind live pending (t.answer current) where
  last := h.last
  current := fun hp a hc => by
    cases hc
    exact hlive hp
  ordered := fun a hc => by
    cases hc
    exact hlast

/-- The sampler is cleared, by one who got the lock. -/
theorem tracks_clear {empty : α} {published : π} (hfree : t.pc.phase.holdsLast = false)
    (hempty : ∀ live, Behind empty live) :
    Tracks Behind live pending { t with last := empty, published := published } := by
  refine tracks_of_no_current (fun _ => hempty live) ?_
  cases hc : t.pc.current? with
  | none => rfl
  | some current =>
      rw [SamplerPc.holdsLast_of_current? hc] at hfree
      cases hfree

/-- What one who resets does to a sampler: at his place in the reset (`clears`) he has the lock and
    clears what is remembered, elsewhere he publishes at most. -/
inductive Reset (empty : α) (clears : Prop) (t : Sampler α π) : Sampler α π → Prop where
  | keep (published : π) (h : ¬ clears) : Reset empty clears t { t with published := published }
  | clear (published : π) (h : clears) (hfree : t.pc.phase.holdsLast = false) :
      Reset empty clears t { t with last := empty, published := published }

theorem Reset.last_eq {empty : α} {clears : Prop} (h : Reset empty clears t t') (hno : ¬ clears) :
    t'.last = t.last := by
  cases h with
  | keep published _ => rfl
  | clear published hc _ => exact absurd hc hno

/-- Only a clear ends the time in which a sampler is about to be cleared. -/
theorem Tracks.reset {empty : α} {clears : Prop} (h : Tracks Behind live pending t)
    (hreset : Reset empty clears t t') (hempty : ∀ live, Behind empty live)
    (hpending : ¬ clears → pending → pending') : Tracks Behind live pending' t' := by
  cases hreset with
  | keep published hno =>
      have hweak := h.weaken (hpending hno)
      exact ⟨hweak.last, hweak.current, hweak.ordered⟩
  | clear published _ hfree => exact tracks_clear hfree hempty

/-! ## 2. What is published -/

/-- **Shown**: what is published shows the last answer, and what is about to be shows the answer
    that it was made of. -/
structure Shown (Shows : π → α → Prop) (t : Sampler α π) : Prop where
  published : Shows t.published t.last
  new : ∀ current new, t.pc = .wantsPublished current new → Shows new current

variable {Shows : π → α → Prop}

theorem Shown.step (h : t.Shown Shows) (hmake : ∀ current last, Shows (make current last) current)
    (hstep : t.step lastFree publishedFree make = some t') : t'.Shown Shows := by
  unfold Sampler.step at hstep
  cases hpc : t.pc with
  | idle =>
      rw [hpc] at hstep
      cases hstep
      exact ⟨h.published, nofun⟩
  | wantsLast =>
      rw [hpc] at hstep
      obtain ⟨_, he⟩ := Option.ite_none_right_eq_some.mp hstep
      cases he
      exact ⟨h.published, nofun⟩
  | asks =>
      rw [hpc] at hstep
      cases hstep
  | answered current =>
      rw [hpc] at hstep
      cases hstep
      refine ⟨h.published, fun current' new he => ?_⟩
      cases he
      exact hmake current t.last
  | wantsPublished current new =>
      rw [hpc] at hstep
      obtain ⟨_, he⟩ := Option.ite_none_right_eq_some.mp hstep
      cases he
      exact ⟨h.new current new hpc, nofun⟩

theorem Shown.answer (h : t.Shown Shows) (current : α) : (t.answer current).Shown Shows :=
  ⟨h.published, nofun⟩

/-- The last answer is behind the next one. -/
theorem Tracks.last_step (h : Tracks Behind live pending t) (hrefl : ∀ a, Behind a a)
    (hstep : t.step lastFree publishedFree make = some t') : Behind t.last t'.last := by
  unfold Sampler.step at hstep
  cases hpc : t.pc with
  | idle =>
      rw [hpc] at hstep
      cases hstep
      exact hrefl t.last
  | wantsLast =>
      rw [hpc] at hstep
      obtain ⟨_, he⟩ := Option.ite_none_right_eq_some.mp hstep
      cases he
      exact hrefl t.last
  | asks =>
      rw [hpc] at hstep
      cases hstep
  | answered current =>
      rw [hpc] at hstep
      cases hstep
      exact hrefl t.last
  | wantsPublished current new =>
      rw [hpc] at hstep
      obtain ⟨_, he⟩ := Option.ite_none_right_eq_some.mp hstep
      cases he
      exact h.ordered current (by rw [hpc]; rfl)

end Sampler

end Lib
