/-
  File:      MavlinkServer/Stats/Locks.lean
  Subject:   WHO WAITS FOR WHOM IN THE STATS ACTOR. `reset` takes the published
             locks and then those of the last snapshots; an update task takes
             them the other way round, with a request to the hub in between.

  * `MutualWait` -- `reset` and an update task each wait for a lock that the
    other one holds;
  * `Overlap` -- an update task holds its last snapshot while `reset` is
    between taking the published lock of that kind and clearing the snapshot.
    No step ends it (`overlap_forever`);
  * `no_mutualWait` -- nobody waits for ever in runs that never let the two
    overlap; `mutualWait_reached` -- other runs there are.
-/
import MavlinkServer.Stats.Actor

namespace MavlinkServer.Stats

open Lib Hub

/-! ## 1. Taking locks -/

section Taking

variable {s s' : StatsActor} {a : StatsAction} {k : Kind}

/-- **An update task gets hold of its last snapshot only by waiting for the lock.** -/
theorem holdsLast_step (hs : Asked s) (h : s.step a = some s')
    (hl : (s'.phase k).holdsLast = true) :
    (s.phase k).holdsLast = true ∨
      ∃ now, a = .update k now ∧ s.waits (.update k) = some (.last k) := by
  cases a with
  | hub a =>
      obtain ⟨_, hub, _, rfl⟩ := hubStep_cases h
      left
      cases k <;> exact hl
  | reset now =>
      rw [(resetStep_frame h).2.1] at hl
      exact Or.inl hl
  | update k' now =>
      obtain ⟨_, _, hother, _, htakes, _⟩ := updateStep_frame h
      by_cases hk : k = k'
      · subst hk
        rcases htakes hl with hheld | hwants
        · exact Or.inl hheld
        · refine Or.inr ⟨now, rfl, ?_⟩
          simp only [StatsActor.waits, hwants]
      · rw [hother k hk] at hl
        exact Or.inl hl
  | serve party =>
      rw [(serve_frame h).2.2] at hl
      exact Or.inl hl
  | respond =>
      left
      obtain ⟨hub, _, _, ⟨_, rfl⟩ | ⟨read, hjob, rfl⟩⟩ := respond_cases h
      · cases k <;> exact hl
      · cases k with
        | hub => exact hl
        | hubMessages => exact hl
        | drivers =>
            have hasks := hs.drivers (by rw [hjob]; rfl)
            rw [hasks]
            rfl

/-- **`reset` gets between the two locks of a kind only by waiting for the first.** -/
theorem between_step (hs : Asked s) (h : s.step a = some s') (hb : s'.reset.between k = true) :
    s.reset.between k = true ∨ ∃ now, a = .reset now ∧ s.waits .reset = some (.published k) := by
  cases a with
  | hub a =>
      obtain ⟨_, hub, _, rfl⟩ := hubStep_cases h
      exact Or.inl hb
  | reset now =>
      obtain ⟨_, _, _, hrank, _⟩ := resetStep_frame h
      simp only [ResetPc.between, Bool.and_eq_true, decide_eq_true_eq] at hb ⊢
      by_cases htakes : k.takes < s.reset.rank
      · left
        omega
      · right
        exact ⟨now, rfl, ResetPc.waits_published.mpr (by omega)⟩
  | update k' now =>
      rw [(updateStep_frame h).2.1] at hb
      exact Or.inl hb
  | serve party =>
      rw [(serve_frame h).1] at hb
      exact Or.inl hb
  | respond =>
      left
      obtain ⟨hub, _, _, ⟨hjob, rfl⟩ | ⟨read, _, rfl⟩⟩ := respond_cases h
      · rw [hs.reset (by rw [hjob]; rfl)]
        cases k <;> rfl
      · exact hb

end Taking

/-! ## 2. Waiting for each other -/

/-- **`reset` and the update task of a kind each wait for a lock that the other one holds.** -/
def MutualWait (s : StatsActor) (k : Kind) : Prop :=
  ∃ lock lock', s.waits .reset = some lock ∧ s.holds (.update k) lock = true ∧
    s.waits (.update k) = some lock' ∧ s.holds .reset lock' = true

/-- The update task holds its last snapshot, and `reset` has the published lock of that kind and is
    still to clear the snapshot. -/
def Overlap (s : StatsActor) (k : Kind) : Prop :=
  (s.phase k).holdsLast = true ∧ s.reset.between k = true

/-- **Apart**: `reset` takes a published lock only while the update task of that kind does not hold
    its last snapshot, and the task takes that only while `reset` is not between the two. -/
def Apart (s : StatsActor) : StatsAction → Prop
  | .reset _ =>
      match s.waits .reset with
      | some (.published k) => (s.phase k).holdsLast = false
      | _ => True
  | .update k _ => s.waits (.update k) = some (.last k) → s.reset.between k = false
  | _ => True

instance (s : StatsActor) (a : StatsAction) : Decidable (Apart s a) := by
  cases a with
  | reset now => unfold Apart; dsimp only; split <;> infer_instance
  | update k now => unfold Apart; infer_instance
  | hub a => exact isTrue trivial
  | serve party => exact isTrue trivial
  | respond => exact isTrue trivial

/-- Two that wait for each other overlap. -/
theorem MutualWait.overlap {s : StatsActor} {k : Kind} (h : MutualWait s k) : Overlap s k := by
  obtain ⟨lock, lock', hreset, hheld, _, _⟩ := h
  cases lock with
  | startTime => cases hheld
  | published k' => cases hheld
  | last k' =>
      simp only [StatsActor.holds, Bool.and_eq_true, decide_eq_true_eq] at hheld
      obtain ⟨rfl, hholds⟩ := hheld
      have hclears : s.reset.rank = k.clears := ResetPc.waits_last.mp hreset
      have htakes := k.takes_lt_asks
      have hasks := k.asks_lt_clears
      refine ⟨hholds, ?_⟩
      simp only [ResetPc.between, Bool.and_eq_true, decide_eq_true_eq]
      omega

/-- **Steps that stay apart let nobody overlap.** -/
theorem apart_step {s s' : StatsActor} {a : StatsAction} (hs : Asked s)
    (hno : ∀ k, ¬ Overlap s k) (ha : Apart s a) (h : s.step a = some s') (k : Kind) :
    ¬ Overlap s' k := by
  rintro ⟨hheld, hbetween⟩
  rcases holdsLast_step hs h hheld with hheld' | ⟨now, rfl, hwaits⟩
  · rcases between_step hs h hbetween with hbetween' | ⟨now, rfl, hwaits⟩
    · exact hno k ⟨hheld', hbetween'⟩
    · simp only [Apart, hwaits] at ha
      rw [hheld'] at ha
      cases ha
  · -- the task has taken its snapshot, so `reset` has not moved
    have hsame := (updateStep_frame h).2.1
    rw [hsame, ha hwaits] at hbetween
    cases hbetween

theorem apart_reach {now : UInt64} {s : StatsActor}
    (h : Reach StatsActor.step Apart (.new now) s) : Asked s ∧ ∀ k, ¬ Overlap s k := by
  refine Reach.inv (I := fun s => Asked s ∧ ∀ k, ¬ Overlap s k) ⟨asked_new now, ?_⟩ ?_ h
  · intro k hover
    cases k <;> cases hover.1
  · exact fun s s' a hs ha hstep => ⟨asked_step hs.1 hstep, apart_step hs.1 hs.2 ha hstep⟩

/-- **Nobody waits for ever** in runs that stay apart. -/
theorem no_mutualWait {now : UInt64} {s : StatsActor}
    (h : Reach StatsActor.step Apart (.new now) s) (k : Kind) : ¬ MutualWait s k :=
  fun hwait => (apart_reach h).2 k hwait.overlap

/-- An update task that cannot publish keeps its last snapshot. -/
theorem holdsLast_kept {s s' : StatsActor} {a : StatsAction} {k : Kind}
    (hheld : (s.phase k).holdsLast = true) (hbetween : s.reset.between k = true)
    (h : s.step a = some s') : (s'.phase k).holdsLast = true := by
  cases a with
  | hub a =>
      obtain ⟨_, hub, _, rfl⟩ := hubStep_cases h
      cases k <;> exact hheld
  | reset now =>
      rw [(resetStep_frame h).2.1]
      exact hheld
  | update k' now =>
      obtain ⟨_, _, hother, _, _, hreleases⟩ := updateStep_frame h
      by_cases hk : k = k'
      · subst hk
        have hfree : s.free (.published k) = false := by
          rw [StatsActor.free_published, ResetPc.holdsPublished, Bool.not_eq_false']
          simp only [ResetPc.between, Bool.and_eq_true] at hbetween
          exact hbetween.1
        exact hreleases hheld hfree
      · rw [hother k hk]
        exact hheld
  | serve party =>
      rw [(serve_frame h).2.2]
      exact hheld
  | respond =>
      obtain ⟨hub, _, _, ⟨_, rfl⟩ | ⟨read, _, rfl⟩⟩ := respond_cases h
      · cases k <;> exact hheld
      · cases k with
        | hub => exact hheld
        | hubMessages => exact hheld
        | drivers => rfl

/-- A `reset` that cannot get a last snapshot stays before clearing it. -/
theorem between_kept {s s' : StatsActor} {a : StatsAction} {k : Kind}
    (hheld : (s.phase k).holdsLast = true) (hbetween : s.reset.between k = true)
    (h : s.step a = some s') : s'.reset.between k = true := by
  cases a with
  | hub a =>
      obtain ⟨_, hub, _, rfl⟩ := hubStep_cases h
      exact hbetween
  | reset now =>
      obtain ⟨_, _, _, hrank, hwaits⟩ := resetStep_frame h
      have hfree : s.free (.last k) = false := by
        rw [StatsActor.free_last, hheld]
        rfl
      have hnot : s.reset.rank ≠ k.clears := by
        intro hat
        have hgot := hwaits _ (ResetPc.waits_last.mpr hat)
        rw [hfree] at hgot
        cases hgot
      have hclears : k.clears ≤ 8 := by cases k <;> decide
      simp only [ResetPc.between, Bool.and_eq_true, decide_eq_true_eq] at hbetween ⊢
      omega
  | update k' now =>
      rw [(updateStep_frame h).2.1]
      exact hbetween
  | serve party =>
      rw [(serve_frame h).1]
      exact hbetween
  | respond =>
      obtain ⟨hub, _, _, ⟨hjob, rfl⟩ | ⟨read, _, rfl⟩⟩ := respond_cases h
      · cases k <;> rfl
      · exact hbetween

/-- **An overlap lasts for ever**: the task cannot publish, `reset` cannot clear the snapshot. -/
theorem overlap_forever {s s' : StatsActor} {k : Kind} (hs : Asked s) (ho : Overlap s k)
    (h : Reach StatsActor.step Free s s') : Overlap s' k := by
  refine (Reach.inv (I := fun s => Asked s ∧ Overlap s k) ⟨hs, ho⟩ ?_ h).2
  rintro s s' a ⟨hs, hheld, hbetween⟩ _ hstep
  refine ⟨asked_step hs hstep, holdsLast_kept hheld hbetween hstep, ?_⟩
  exact between_kept hheld hbetween hstep

section Runs

/-- An update of the hub's statistics has asked the hub when a reset takes the published locks; the
    hub answers the one and then the other. -/
def crossing : List StatsAction :=
  [.update .hub 1, .update .hub 1, .reset 2, .reset 2, .reset 2, .reset 2, .serve (.update .hub),
    .update .hub 3, .serve .reset, .hub (.clear 4), .hub (.clear 4), .hub (.clear 4), .respond,
    .reset 5, .reset 5, .reset 5]

/-- **`reset` waits for the last hub statistics, their task for the published ones.** -/
theorem mutualWait_reached : ¬ ∀ s, Reach StatsActor.step Free (.new 0) s →
    ∀ k, ¬ MutualWait s k := by
  intro hall
  obtain ⟨s, hreach, hreset, hheld, hupdate, hpublished⟩ :
      ∃ s, Reach StatsActor.step Free (.new 0) s ∧ s.waits .reset = some (.last .hub) ∧
        s.holds (.update .hub) (.last .hub) = true ∧
        s.waits (.update .hub) = some (.published .hub) ∧
        s.holds .reset (.published .hub) = true :=
    exists_of_execC crossing (by decide +kernel)
  exact hall s hreach .hub ⟨_, _, hreset, hheld, hupdate, hpublished⟩

/-- The reset comes after the update. -/
theorem no_mutualWait_apart : ∃ s, Reach StatsActor.step Apart (.new 0) s ∧
    s.waits .reset = some (.last .hub) ∧ ¬ MutualWait s .hub := by
  obtain ⟨s, hreach, hreset⟩ :
      ∃ s, Reach StatsActor.step Apart (.new 0) s ∧ s.waits .reset = some (.last .hub) :=
    exists_of_execC [.update .hub 1, .update .hub 1, .serve (.update .hub), .update .hub 1,
      .update .hub 1, .reset 2, .reset 2, .reset 2, .reset 2, .serve .reset, .hub (.clear 4),
      .hub (.clear 4), .hub (.clear 4), .respond, .reset 5, .reset 5, .reset 5] (by decide +kernel)
  exact ⟨s, hreach, hreset, no_mutualWait hreach .hub⟩

end Runs

end MavlinkServer.Stats
