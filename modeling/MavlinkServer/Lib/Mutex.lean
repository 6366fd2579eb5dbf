/-
  File:      MavlinkServer/Lib/Mutex.lean
  Subject:   MUTEXES MADE ON DEMAND. Threads share a table from keys to mutexes;
             the first one to ask for a key puts a mutex there. Nothing here
             names a program.

  * `Move` -- what a thread does: take the mutex of a key, give it back, act;
  * `Locks.step` -- any interleaving of any number of threads, each of which
    may be cancelled wherever it is (its guard is dropped);
  * `Guarded P key moves` -- a thread that acts only while it holds the mutex of
    `key`, in one critical section;
  * `LocksInv`, `acts_between` -- between two acts of one guarded thread there
    is none of another thread of the same key.
-/
import MavlinkServer.Lib.Run
import Mathlib.Logic.Function.Basic

namespace Lib

/-! ## 1. Threads -/

inductive Move (κ ε : Type) where
  | lock (key : κ)
  | unlock (key : κ)
  | act (event : ε)

/-- `named` has the mutex of its key in hand and waits for it, `inside` holds its guard. -/
inductive Standing where
  | outside
  | named (mutex : Nat)
  | inside (mutex : Nat)

structure Thread (κ ε : Type) where
  key : κ
  moves : List (Move κ ε)
  standing : Standing

/-- `locked` says of each mutex whether it is held; `log` has the acts of all threads in order. -/
structure Locks (κ ε : Type) where
  table : κ → Option Nat
  locked : List Bool
  threads : List (Thread κ ε)
  log : List (Nat × ε)

inductive LocksAction (κ ε : Type) where
  | spawn (key : κ) (moves : List (Move κ ε))
  | look (i : Nat)
  | take (i : Nat)
  | act (i : Nat)
  | release (i : Nat)
  | cancel (i : Nat)

namespace Locks

variable {κ ε : Type}

def new : Locks κ ε := ⟨fun _ => none, [], [], []⟩

def setThread (s : Locks κ ε) (i : Nat) (th : Thread κ ε) : Locks κ ε :=
  { s with threads := s.threads.set i th }

/-- Under the write lock of the table: the mutex of the key, made if there is none. -/
def look [DecidableEq κ] (s : Locks κ ε) (i : Nat) (th : Thread κ ε) : Option (Locks κ ε) :=
  match th.standing, th.moves with
  | .outside, .lock key :: _ =>
      match s.table key with
      | some m => some (s.setThread i { th with standing := .named m })
      | none =>
          let m := s.locked.length
          some { s.setThread i { th with standing := .named m } with
            table := Function.update s.table key (some m), locked := s.locked ++ [false] }
  | _, _ => none

def take (s : Locks κ ε) (i : Nat) (th : Thread κ ε) : Option (Locks κ ε) :=
  match th.standing, th.moves with
  | .named m, .lock _ :: rest =>
      if s.locked[m]? = some false then
        some { s.setThread i { th with moves := rest, standing := .inside m } with
          locked := s.locked.set m true }
      else none
  | _, _ => none

def act (s : Locks κ ε) (i : Nat) (th : Thread κ ε) : Option (Locks κ ε) :=
  match th.moves with
  | .act event :: rest =>
      some { s.setThread i { th with moves := rest } with log := s.log ++ [(i, event)] }
  | _ => none

def release (s : Locks κ ε) (i : Nat) (th : Thread κ ε) : Option (Locks κ ε) :=
  match th.standing, th.moves with
  | .inside m, .unlock _ :: rest =>
      some { s.setThread i { th with moves := rest, standing := .outside } with
        locked := s.locked.set m false }
  | _, _ => none

/-- The thread is dropped, and with it the guard it may hold. -/
def cancel (s : Locks κ ε) (i : Nat) (th : Thread κ ε) : Locks κ ε :=
  match th.standing with
  | .inside m =>
      { s.setThread i { th with moves := [], standing := .outside } with
        locked := s.locked.set m false }
  | _ => s.setThread i { th with moves := [], standing := .outside }

def step [DecidableEq κ] (s : Locks κ ε) : LocksAction κ ε → Option (Locks κ ε)
  | .spawn key moves => some { s with threads := s.threads ++ [⟨key, moves, .outside⟩] }
  | .look i => (s.threads[i]?).bind (s.look i)
  | .take i => (s.threads[i]?).bind (s.take i)
  | .act i => (s.threads[i]?).bind (s.act i)
  | .release i => (s.threads[i]?).bind (s.release i)
  | .cancel i => (s.threads[i]?).map (s.cancel i)

end Locks

/-! ## 2. Critical sections -/

section Guarding

variable {κ ε : Type} (P : κ → ε → Prop)

/-- What is left of a critical section: acts that the key admits (`P`), and then the mutex is given
    back, or never. -/
inductive Inside (key : κ) : List (Move κ ε) → Prop where
  | stop : Inside key []
  | last : Inside key [.unlock key]
  | act (event : ε) (rest : List (Move κ ε)) (hP : P key event) (h : Inside key rest) :
      Inside key (.act event :: rest)

/-- **One critical section**, and no act outside of it. -/
inductive Guarded (key : κ) : List (Move κ ε) → Prop where
  | enter (rest : List (Move κ ε)) (h : Inside P key rest) : Guarded key (.lock key :: rest)

end Guarding

namespace Locks

variable {κ ε : Type} {P : κ → ε → Prop} {s s' : Locks κ ε} {a : LocksAction κ ε}

/-- Only guarded threads are spawned. -/
def Disciplined (P : κ → ε → Prop) (_ : Locks κ ε) : LocksAction κ ε → Prop
  | .spawn key moves => Guarded P key moves
  | _ => True

/-- Where a guarded thread may stand. -/
def ThreadOk (P : κ → ε → Prop) (s : Locks κ ε) (th : Thread κ ε) : Prop :=
  match th.standing with
  | .outside => th.moves = [] ∨ Guarded P th.key th.moves
  | .named m => Guarded P th.key th.moves ∧ s.table th.key = some m
  | .inside m => Inside P th.key th.moves ∧ s.table th.key = some m ∧ s.locked[m]? = some true

/-- The mutex the thread holds. -/
def holds? (th : Thread κ ε) : Option Nat :=
  match th.standing with
  | .inside m => some m
  | _ => none

/-- The thread has been in its critical section. -/
def Entered (th : Thread κ ε) : Prop := holds? th ≠ none ∨ th.moves = []

/-- **The invariant.** -/
structure LocksInv (P : κ → ε → Prop) (s : Locks κ ε) : Prop where
  bound : ∀ key m, s.table key = some m → m < s.locked.length
  inj : ∀ key key' m, s.table key = some m → s.table key' = some m → key = key'
  thread : ∀ (i : Nat) (th : Thread κ ε), s.threads[i]? = some th → s.ThreadOk P th
  /-- nobody shares a guard -/
  alone : ∀ (i j m : Nat) (th th' : Thread κ ε), s.threads[i]? = some th →
    s.threads[j]? = some th' → holds? th = some m → holds? th' = some m → i = j
  /-- who has acted has been inside, and its key admitted the act -/
  entered : ∀ (i : Nat) (e : ε), (i, e) ∈ s.log →
    ∃ th, s.threads[i]? = some th ∧ Entered th ∧ P th.key e
  /-- since a thread inside has acted, nobody else of its key has -/
  since : ∀ (p q i j : Nat) (e f : ε) (th th' : Thread κ ε), p ≤ q → s.log[p]? = some (i, e) →
    s.log[q]? = some (j, f) → s.threads[i]? = some th → s.threads[j]? = some th' →
    th.key = th'.key → holds? th ≠ none → i = j
  between : ∀ (p q r i j : Nat) (e f g : ε) (th th' : Thread κ ε), p ≤ q → q ≤ r →
    s.log[p]? = some (i, e) → s.log[q]? = some (j, f) → s.log[r]? = some (i, g) →
    s.threads[i]? = some th → s.threads[j]? = some th' → th.key = th'.key → i = j

theorem inv_new : (new : Locks κ ε).LocksInv P := by
  constructor
  all_goals simp [new]

/-! ## 3. One step -/

theorem ThreadOk.mono {th : Thread κ ε} (h : s.ThreadOk P th)
    (htable : ∀ key m, s.table key = some m → s'.table key = some m)
    (hlocked : ∀ m, holds? th = some m → s.locked[m]? = some true → s'.locked[m]? = some true) :
    s'.ThreadOk P th := by
  obtain ⟨key, moves, standing⟩ := th
  cases standing with
  | outside => exact h
  | named m => exact ⟨h.1, htable _ _ h.2⟩
  | inside m => exact ⟨h.1, htable _ _ h.2.1, hlocked m rfl h.2.2⟩

/-- A thread that acts is inside. -/
theorem ThreadOk.inside_of_act {th : Thread κ ε} {event : ε} {rest : List (Move κ ε)}
    (h : s.ThreadOk P th) (hm : th.moves = .act event :: rest) :
    ∃ m, th.standing = .inside m ∧ P th.key event ∧ Inside P th.key rest ∧ s.table th.key = some m ∧
      s.locked[m]? = some true := by
  obtain ⟨key, moves, standing⟩ := th
  dsimp only at hm
  subst hm
  cases standing with
  | outside =>
      rcases h with h | h
      · cases h
      · cases h
  | named m => cases h.1
  | inside m =>
      cases h.1 with
      | act _ _ hP hrest => exact ⟨m, rfl, hP, hrest, h.2.1, h.2.2⟩

/-- **Two threads of one key are not inside together.** -/
theorem LocksInv.exclusive {i j : Nat} {th th' : Thread κ ε} (hi : s.LocksInv P)
    (h : s.threads[i]? = some th) (h' : s.threads[j]? = some th') (hkey : th.key = th'.key)
    (hin : holds? th ≠ none) (hin' : holds? th' ≠ none) : i = j := by
  have hok := hi.thread i th h
  have hok' := hi.thread j th' h'
  obtain ⟨key, moves, standing⟩ := th
  obtain ⟨key', moves', standing'⟩ := th'
  dsimp only at hkey
  subst hkey
  cases standing with
  | outside => exact absurd rfl hin
  | named m => exact absurd rfl hin
  | inside m =>
      cases standing' with
      | outside => exact absurd rfl hin'
      | named m' => exact absurd rfl hin'
      | inside m' =>
          have hsame : some m = some m' := hok.2.1.symm.trans hok'.2.1
          cases hsame
          exact hi.alone i j m _ _ h h' rfl rfl

/-- Reading a list behind the change of one thread. -/
theorem threads_set {i j : Nat} {th' u : Thread κ ε}
    (h : (s.threads.set i th')[j]? = some u) :
    (j = i ∧ u = th') ∨ (j ≠ i ∧ s.threads[j]? = some u) := by
  rw [List.getElem?_set] at h
  split at h
  · rename_i hij
    split at h
    · exact Or.inl ⟨hij.symm, (Option.some.inj h).symm⟩
    · cases h
  · rename_i hij
    exact Or.inr ⟨fun hji => hij hji.symm, h⟩

/-- What a step does to the thread that takes it, where it does not act. -/
structure Turn (P : κ → ε → Prop) (s : Locks κ ε) (i : Nat) (th th' : Thread κ ε)
    (s' : Locks κ ε) : Prop where
  key : th'.key = th.key
  threads : s'.threads = s.threads.set i th'
  log : s'.log = s.log
  bound : ∀ key m, s'.table key = some m → m < s'.locked.length
  inj : ∀ key key' m, s'.table key = some m → s'.table key' = some m → key = key'
  table : ∀ key m, s.table key = some m → s'.table key = some m
  locked : ∀ (j m : Nat) (u : Thread κ ε), j ≠ i → s.threads[j]? = some u → holds? u = some m →
    s.locked[m]? = some true → s'.locked[m]? = some true
  ok : s'.ThreadOk P th'
  /-- it enters a mutex nobody holds, and has not acted before -/
  enters : ∀ m, holds? th' = some m → holds? th = some m ∨
    (¬ Entered th ∧ ∀ (j : Nat) (u : Thread κ ε), s.threads[j]? = some u → holds? u ≠ some m)
  entered : Entered th → Entered th'

theorem Turn.inv {i : Nat} {th th' : Thread κ ε} (hi : s.LocksInv P) (hth : s.threads[i]? = some th)
    (ht : s.Turn P i th th' s') : s'.LocksInv P := by
  have hread : ∀ (j : Nat) (u : Thread κ ε), s'.threads[j]? = some u →
      (j = i ∧ u = th') ∨ (j ≠ i ∧ s.threads[j]? = some u) := by
    intro j u hu
    rw [ht.threads] at hu
    exact threads_set hu
  -- every thread had a place before, with the same key
  have hback : ∀ (j : Nat) (u : Thread κ ε), s'.threads[j]? = some u →
      ∃ v, s.threads[j]? = some v ∧ v.key = u.key := by
    intro j u hu
    rcases hread j u hu with ⟨rfl, rfl⟩ | ⟨_, hu⟩
    · exact ⟨th, hth, ht.key.symm⟩
    · exact ⟨u, hu, rfl⟩
  have hhas : s'.threads[i]? = some th' := by
    obtain ⟨hlt, _⟩ := List.getElem?_eq_some_iff.mp hth
    rw [ht.threads, List.getElem?_set, if_pos rfl, if_pos hlt]
  -- a thread that has acted and is inside was inside before
  have hinside : ∀ (j : Nat) (e : ε) (u : Thread κ ε), (j, e) ∈ s.log →
      s'.threads[j]? = some u → holds? u ≠ none →
      ∃ v, s.threads[j]? = some v ∧ v.key = u.key ∧ holds? v ≠ none := by
    intro j e u he hu hin
    rcases hread j u hu with ⟨rfl, rfl⟩ | ⟨_, hu⟩
    · refine ⟨th, hth, ht.key.symm, ?_⟩
      obtain ⟨m, hm⟩ := Option.ne_none_iff_exists'.mp hin
      rcases ht.enters m hm with hheld | ⟨hnot, _⟩
      · rw [hheld]
        exact hin ∘ fun h => by cases h
      · obtain ⟨v, hv, hentered, _⟩ := hi.entered j e he
        rw [hth] at hv
        cases hv
        exact absurd hentered hnot
    · exact ⟨u, hu, rfl, hin⟩
  refine ⟨ht.bound, ht.inj, fun j u hu => ?_, fun j l m u v hu hv hm hm' => ?_,
    fun j e he => ?_, fun p q j l e f u v hpq hp hq hu hv hkey hin => ?_,
    fun p q r j l e f g u v hpq hqr hp hq hr hu hv hkey => ?_⟩
  · rcases hread j u hu with ⟨_, rfl⟩ | ⟨hne, hu⟩
    · exact ht.ok
    · exact (hi.thread j u hu).mono ht.table fun m => ht.locked j m u hne hu
  · rcases hread j u hu with ⟨rfl, rfl⟩ | ⟨_, hu⟩
    · rcases hread l v hv with ⟨rfl, rfl⟩ | ⟨_, hv⟩
      · rfl
      · rcases ht.enters m hm with hheld | ⟨_, hnobody⟩
        · exact hi.alone j l m th v hth hv hheld hm'
        · exact absurd hm' (hnobody l v hv)
    · rcases hread l v hv with ⟨rfl, rfl⟩ | ⟨_, hv⟩
      · rcases ht.enters m hm' with hheld | ⟨_, hnobody⟩
        · exact hi.alone j l m u th hu hth hm hheld
        · exact absurd hm (hnobody j u hu)
      · exact hi.alone j l m u v hu hv hm hm'
  · rw [ht.log] at he
    obtain ⟨u, hu, hentered, hP⟩ := hi.entered j e he
    by_cases hji : j = i
    · subst hji
      rw [hth] at hu
      cases hu
      exact ⟨th', hhas, ht.entered hentered, by rw [ht.key]; exact hP⟩
    · exact ⟨u, by rw [ht.threads, List.getElem?_set, if_neg (Ne.symm hji), hu], hentered, hP⟩
  · rw [ht.log] at hp hq
    obtain ⟨u', hu', hkey', hin'⟩ := hinside j e u (List.mem_of_getElem? hp) hu hin
    obtain ⟨v', hv', hkey''⟩ := hback l v hv
    exact hi.since p q j l e f u' v' hpq hp hq hu' hv' (by rw [hkey', hkey, hkey'']) hin'
  · rw [ht.log] at hp hq hr
    obtain ⟨u', hu', hkey'⟩ := hback j u hu
    obtain ⟨v', hv', hkey''⟩ := hback l v hv
    exact hi.between p q r j l e f g u' v' hpq hqr hp hq hr hu' hv' (by rw [hkey', hkey, hkey''])

theorem turn_take {i : Nat} {th : Thread κ ε} (hi : s.LocksInv P) (hth : s.threads[i]? = some th)
    (h : s.take i th = some s') : ∃ th', s.Turn P i th th' s' := by
  have hok := hi.thread i th hth
  obtain ⟨key, moves, standing⟩ := th
  unfold take at h
  split at h
  · rename_i m key' rest hstanding hmoves
    dsimp only at hstanding hmoves
    subst hstanding hmoves
    split at h
    · rename_i hfree
      cases h
      obtain ⟨hguarded, htable⟩ :
          Guarded P key (.lock key' :: rest : List (Move κ ε)) ∧ s.table key = some m := hok
      cases hguarded with
      | enter _ hinside =>
      have hlt := hi.bound key m htable
      refine ⟨⟨key, rest, .inside m⟩, rfl, rfl, rfl, fun k l hk => ?_, hi.inj, fun _ _ hk => hk,
        fun j l u _ _ _ hl => ?_, ⟨hinside, htable, ?_⟩,
        fun l hl => Or.inr ⟨?_, fun j u hu => ?_⟩, ?_⟩
      · rw [List.length_set]
        exact hi.bound k l hk
      · by_cases hml : m = l
        · subst hml
          rw [List.getElem?_set, if_pos rfl, if_pos hlt]
        · exact (List.getElem?_set_ne hml).trans hl
      · rw [List.getElem?_set, if_pos rfl, if_pos hlt]
      · rintro (hheld | hmoves)
        · exact hheld rfl
        · cases hmoves
      · -- a mutex that is free is in nobody's hands
        cases hl
        intro hheld
        have hoku := hi.thread j u hu
        obtain ⟨key', moves', standing'⟩ := u
        cases standing' with
        | outside => cases hheld
        | named m' => cases hheld
        | inside m' =>
            cases hheld
            have hlocked := hoku.2.2
            rw [hfree] at hlocked
            cases hlocked
      · rintro (hheld | hmoves)
        · exact absurd rfl hheld
        · cases hmoves
    · cases h
  · cases h

/-- The thread gives its guard back, or is dropped. -/
theorem turn_leave {i : Nat} {th th' : Thread κ ε} (hi : s.LocksInv P)
    (hth : s.threads[i]? = some th) (hkey : th'.key = th.key) (hout : th'.standing = .outside)
    (hmoves : th'.moves = [])
    (hs : s'.threads = s.threads.set i th' ∧ s'.log = s.log ∧ s'.table = s.table)
    (hlocked : ∀ m, holds? th ≠ some m → s'.locked[m]? = s.locked[m]?)
    (hlength : s'.locked.length = s.locked.length) : s.Turn P i th th' s' := by
  obtain ⟨hthreads, hlog, htable⟩ := hs
  have hnone : holds? th' = none := by simp only [holds?, hout]
  refine ⟨hkey, hthreads, hlog, ?_, ?_, fun _ _ hk => by rw [htable]; exact hk,
    fun j m u hne hu hheld hl => ?_, ?_, fun m hm => ?_, fun _ => Or.inr hmoves⟩
  · rw [htable, hlength]
    exact hi.bound
  · rw [htable]
    exact hi.inj
  · rw [hlocked m fun h => hne (hi.alone j i m u th hu hth hheld h), hl]
  · simp only [ThreadOk, hout, hmoves, true_or]
  · rw [hnone] at hm
    cases hm

theorem turn_release {i : Nat} {th : Thread κ ε} (hi : s.LocksInv P)
    (hth : s.threads[i]? = some th) (h : s.release i th = some s') :
    ∃ th', s.Turn P i th th' s' := by
  have hok := hi.thread i th hth
  obtain ⟨key, moves, standing⟩ := th
  unfold release at h
  split at h
  · rename_i m key' rest hstanding hmoves
    dsimp only at hstanding hmoves
    subst hstanding hmoves
    cases h
    have hinside : Inside P key (.unlock key' :: rest : List (Move κ ε)) := hok.1
    cases hinside
    refine ⟨⟨key, [], .outside⟩, turn_leave hi hth rfl rfl rfl ⟨rfl, rfl, rfl⟩ (fun l hl => ?_) ?_⟩
    · exact List.getElem?_set_ne fun hml => hl (congrArg some hml)
    · exact List.length_set
  · cases h

theorem turn_cancel {i : Nat} {th : Thread κ ε} (hi : s.LocksInv P)
    (hth : s.threads[i]? = some th) : ∃ th', s.Turn P i th th' (s.cancel i th) := by
  obtain ⟨key, moves, standing⟩ := th
  refine ⟨⟨key, [], .outside⟩, ?_⟩
  cases standing with
  | outside => exact turn_leave hi hth rfl rfl rfl ⟨rfl, rfl, rfl⟩ (fun _ _ => rfl) rfl
  | named m => exact turn_leave hi hth rfl rfl rfl ⟨rfl, rfl, rfl⟩ (fun _ _ => rfl) rfl
  | inside m =>
      refine turn_leave hi hth rfl rfl rfl ⟨rfl, rfl, rfl⟩ (fun l hl => ?_) ?_
      · exact List.getElem?_set_ne fun hml => hl (congrArg some hml)
      · exact List.length_set

/-- **One thread acts.** -/
theorem inv_act {i : Nat} {th : Thread κ ε} (hi : s.LocksInv P) (hth : s.threads[i]? = some th)
    (h : s.act i th = some s') : s'.LocksInv P := by
  unfold act at h
  split at h
  · rename_i event rest hmoves
    cases h
    obtain ⟨m, hstanding, hP, hinside, htable, hlocked⟩ := (hi.thread i th hth).inside_of_act hmoves
    have hin : holds? th ≠ none := by simp [holds?, hstanding]
    have hlt := (List.getElem?_eq_some_iff.mp hth).1
    have hhas :
        (s.threads.set i { th with moves := rest })[i]? = some { th with moves := rest } := by
      rw [List.getElem?_set, if_pos rfl, if_pos hlt]
    have hread : ∀ (j : Nat) (u : Thread κ ε),
        (s.threads.set i { th with moves := rest })[j]? = some u →
        ∃ v, s.threads[j]? = some v ∧ v.key = u.key ∧ holds? u = holds? v := by
      intro j u hu
      rcases threads_set hu with ⟨rfl, rfl⟩ | ⟨_, hu⟩
      · exact ⟨th, hth, rfl, rfl⟩
      · exact ⟨u, hu, rfl, rfl⟩
    have hlog : ∀ (p j : Nat) (e : ε), (s.log ++ [(i, event)])[p]? = some (j, e) →
        (p < s.log.length ∧ s.log[p]? = some (j, e)) ∨ (p = s.log.length ∧ j = i) := by
      intro p j e hp
      rw [List.getElem?_append] at hp
      split at hp
      · rename_i hlt
        exact Or.inl ⟨hlt, hp⟩
      · rename_i hge
        obtain ⟨hp0, hp⟩ := List.getElem?_eq_some_iff.mp hp
        simp only [List.length_singleton] at hp0
        simp only [List.getElem_singleton, Prod.mk.injEq] at hp
        exact Or.inr ⟨by omega, hp.1.symm⟩
    refine ⟨hi.bound, hi.inj, fun j u hu => ?_, fun j l m u v hu hv hm hm' => ?_,
      fun j e he => ?_, fun p q j l e f u v hpq hp hq hu hv hkey hheld => ?_,
      fun p q r j l e f g u v hpq hqr hp hq hr hu hv hkey => ?_⟩
    · rcases threads_set hu with ⟨_, rfl⟩ | ⟨_, hu⟩
      · obtain ⟨key, moves, standing⟩ := th
        dsimp only at hstanding
        subst hstanding
        exact ⟨hinside, htable, hlocked⟩
      · exact hi.thread j u hu
    · obtain ⟨u', hu', _, hholds⟩ := hread j u hu
      obtain ⟨v', hv', _, hholds'⟩ := hread l v hv
      exact hi.alone j l m u' v' hu' hv' (by rw [← hholds, hm]) (by rw [← hholds', hm'])
    · rcases List.mem_append.mp he with he | he
      · obtain ⟨u, hu, hentered, hadmits⟩ := hi.entered j e he
        by_cases hij : i = j
        · subst hij
          rw [hth] at hu
          cases hu
          exact ⟨_, hhas, Or.inl hin, hadmits⟩
        · exact ⟨u, (List.getElem?_set_ne hij).trans hu, hentered, hadmits⟩
      · cases List.mem_singleton.mp he
        exact ⟨_, hhas, Or.inl hin, hP⟩
    · obtain ⟨u', hu', hkey', hholds⟩ := hread j u hu
      obtain ⟨v', hv', hkey'', hholds'⟩ := hread l v hv
      have hsame : u'.key = v'.key := by rw [hkey', hkey, hkey'']
      rw [hholds] at hheld
      rcases hlog q l f hq with ⟨hq0, hq⟩ | ⟨_, rfl⟩
      · rcases hlog p j e hp with ⟨_, hp⟩ | ⟨hp0, _⟩
        · exact hi.since p q j l e f u' v' hpq hp hq hu' hv' hsame hheld
        · omega
      · rw [hth] at hv'
        cases hv'
        exact hi.exclusive hu' hth hsame hheld hin
    · obtain ⟨u', hu', hkey', hholds⟩ := hread j u hu
      obtain ⟨v', hv', hkey'', hholds'⟩ := hread l v hv
      have hsame : u'.key = v'.key := by rw [hkey', hkey, hkey'']
      rcases hlog r j g hr with ⟨hr0, hr⟩ | ⟨_, rfl⟩
      · rcases hlog q l f hq with ⟨_, hq⟩ | ⟨hq0, _⟩
        · rcases hlog p j e hp with ⟨_, hp⟩ | ⟨hp0, _⟩
          · exact hi.between p q r j l e f g u' v' hpq hqr hp hq hr hu' hv' hsame
          · omega
        · omega
      · -- the act that closes the span is the new one, so its thread is inside
        rw [hth] at hu'
        cases hu'
        rcases hlog q l f hq with ⟨hq0, hq⟩ | ⟨_, rfl⟩
        · rcases hlog p j e hp with ⟨_, hp⟩ | ⟨hp0, _⟩
          · exact hi.since p q j l e f th v' hpq hp hq hth hv' hsame hin
          · omega
        · rfl
  · cases h

theorem inv_spawn {key : κ} {moves : List (Move κ ε)} (hi : s.LocksInv P)
    (hguarded : Guarded P key moves) :
    LocksInv P { s with threads := s.threads ++ [⟨key, moves, .outside⟩] } := by
  have hread : ∀ (j : Nat) (u : Thread κ ε), (s.threads ++ [⟨key, moves, .outside⟩])[j]? = some u →
      s.threads[j]? = some u ∨ (s.threads[j]? = none ∧ u = ⟨key, moves, .outside⟩) := by
    intro j u hu
    rw [List.getElem?_append] at hu
    split at hu
    · exact Or.inl hu
    · rename_i hge
      exact Or.inr ⟨List.getElem?_eq_none (Nat.le_of_not_lt hge),
        List.mem_singleton.mp (List.mem_of_getElem? hu)⟩
  -- a thread that has acted, or holds a guard, is not the new one
  have hacted : ∀ (p j : Nat) (e : ε) (u : Thread κ ε), s.log[p]? = some (j, e) →
      (s.threads ++ [⟨key, moves, .outside⟩])[j]? = some u → s.threads[j]? = some u := by
    intro p j e u hp hu
    obtain ⟨v, hv, _⟩ := hi.entered j e (List.mem_of_getElem? hp)
    rcases hread j u hu with hu | ⟨hnone, _⟩
    · exact hu
    · rw [hv] at hnone
      cases hnone
  have hheld : ∀ (j m : Nat) (u : Thread κ ε),
      (s.threads ++ [⟨key, moves, .outside⟩])[j]? = some u → holds? u = some m →
      s.threads[j]? = some u := by
    intro j m u hu hm
    rcases hread j u hu with hu | ⟨_, rfl⟩
    · exact hu
    · cases hm
  refine ⟨hi.bound, hi.inj, fun j u hu => ?_, fun j l m u v hu hv hm hm' => ?_,
    fun j e he => ?_, fun p q j l e f u v hpq hp hq hu hv hkey hin => ?_,
    fun p q r j l e f g u v hpq hqr hp hq hr hu hv hkey => ?_⟩
  · rcases hread j u hu with hu | ⟨_, rfl⟩
    · exact hi.thread j u hu
    · exact Or.inr hguarded
  · exact hi.alone j l m u v (hheld j m u hu hm) (hheld l m v hv hm') hm hm'
  · obtain ⟨u, hu, hentered⟩ := hi.entered j e he
    have hlt := (List.getElem?_eq_some_iff.mp hu).1
    exact ⟨u, (List.getElem?_append_left hlt).trans hu, hentered⟩
  · exact hi.since p q j l e f u v hpq hp hq (hacted p j e u hp hu) (hacted q l f v hq hv) hkey hin
  · exact hi.between p q r j l e f g u v hpq hqr hp hq hr (hacted p j e u hp hu)
      (hacted q l f v hq hv) hkey

/-! ## 4. Every run -/

variable [DecidableEq κ]

/-- **Racing first users get the same mutex**: the table names one mutex for each key. -/
theorem turn_look {i : Nat} {th : Thread κ ε} (hi : s.LocksInv P) (hth : s.threads[i]? = some th)
    (h : s.look i th = some s') : ∃ th', s.Turn P i th th' s' := by
  have hok := hi.thread i th hth
  obtain ⟨key, moves, standing⟩ := th
  unfold look at h
  split at h
  · rename_i key' rest hstanding hmoves
    dsimp only at hstanding hmoves
    subst hstanding hmoves
    have hguarded : Guarded P key (.lock key' :: rest : List (Move κ ε)) := by
      rcases hok with hok | hok
      · cases hok
      · exact hok
    obtain rfl : key = key' := by cases hguarded; rfl
    have hout : ¬ Entered (⟨key, .lock key :: rest, .outside⟩ : Thread κ ε) := by
      rintro (hheld | hmoves)
      · exact hheld rfl
      · cases hmoves
    split at h
    · rename_i m htable
      cases h
      exact ⟨⟨key, .lock key :: rest, .named m⟩, rfl, rfl, rfl, hi.bound, hi.inj, fun _ _ hk => hk,
        fun _ _ _ _ _ _ hl => hl, ⟨hguarded, htable⟩, (fun _ hl => by cases hl),
        fun hentered => absurd hentered hout⟩
    · rename_i hnone
      cases h
      have hget : ∀ k m, Function.update s.table key (some s.locked.length) k = some m →
          (k = key ∧ m = s.locked.length) ∨ (k ≠ key ∧ s.table k = some m) := by
        intro k m hk
        by_cases hkey : k = key
        · subst hkey
          rw [Function.update_self] at hk
          exact Or.inl ⟨rfl, (Option.some.inj hk).symm⟩
        · rw [Function.update_of_ne hkey] at hk
          exact Or.inr ⟨hkey, hk⟩
      refine ⟨⟨key, .lock key :: rest, .named s.locked.length⟩, rfl, rfl, rfl, fun k m hk => ?_,
        fun k k' m hk hk' => ?_, fun k m hk => ?_, fun j m u _ _ _ hl => ?_,
        ⟨hguarded, Function.update_self ..⟩, (fun _ hl => by cases hl),
        fun hentered => absurd hentered hout⟩
      · rw [List.length_append, List.length_singleton]
        rcases hget k m hk with ⟨_, rfl⟩ | ⟨_, hk⟩
        · omega
        · have := hi.bound k m hk
          omega
      · rcases hget k m hk with ⟨rfl, rfl⟩ | ⟨_, hold⟩
        · rcases hget k' _ hk' with ⟨rfl, _⟩ | ⟨_, hold'⟩
          · rfl
          · exact absurd (hi.bound k' _ hold') (Nat.lt_irrefl _)
        · rcases hget k' m hk' with ⟨rfl, rfl⟩ | ⟨_, hold'⟩
          · exact absurd (hi.bound k _ hold) (Nat.lt_irrefl _)
          · exact hi.inj k k' m hold hold'
      · have hne : k ≠ key := by
          rintro rfl
          rw [hnone] at hk
          cases hk
        exact (Function.update_of_ne hne ..).trans hk
      · obtain ⟨hlt, _⟩ := List.getElem?_eq_some_iff.mp hl
        exact (List.getElem?_append_left hlt).trans hl
  · cases h

theorem inv_step (hi : s.LocksInv P) (hd : s.Disciplined P a) (h : s.step a = some s') :
    s'.LocksInv P := by
  cases a with
  | spawn key moves =>
      cases h
      exact inv_spawn hi hd
  | look i =>
      obtain ⟨th, hth, h⟩ := Option.bind_eq_some_iff.mp h
      obtain ⟨th', ht⟩ := turn_look hi hth h
      exact ht.inv hi hth
  | take i =>
      obtain ⟨th, hth, h⟩ := Option.bind_eq_some_iff.mp h
      obtain ⟨th', ht⟩ := turn_take hi hth h
      exact ht.inv hi hth
  | act i =>
      obtain ⟨th, hth, h⟩ := Option.bind_eq_some_iff.mp h
      exact inv_act hi hth h
  | release i =>
      obtain ⟨th, hth, h⟩ := Option.bind_eq_some_iff.mp h
      obtain ⟨th', ht⟩ := turn_release hi hth h
      exact ht.inv hi hth
  | cancel i =>
      obtain ⟨th, hth, rfl⟩ := Option.map_eq_some_iff.mp h
      obtain ⟨th', ht⟩ := turn_cancel hi hth
      exact ht.inv hi hth

theorem inv_reach (h : Reach step (Disciplined P) (new : Locks κ ε) s) : s.LocksInv P :=
  Reach.inv inv_new (fun _ _ _ hi hC hs => inv_step hi hC hs) h

/-- **Between two acts of a thread** nobody else of its key acts. -/
theorem acts_between (h : Reach step (Disciplined P) (new : Locks κ ε) s) {p q r i j : Nat}
    {e f g : ε} (hpq : p ≤ q) (hqr : q ≤ r) (hp : s.log[p]? = some (i, e))
    (hq : s.log[q]? = some (j, f)) (hr : s.log[r]? = some (i, g)) :
    ∃ th th', s.threads[i]? = some th ∧ P th.key e ∧ P th.key g ∧ s.threads[j]? = some th' ∧
      P th'.key f ∧ (th.key = th'.key → i = j) := by
  have hi := inv_reach h
  obtain ⟨th, hth, _, hPe⟩ := hi.entered i e (List.mem_of_getElem? hp)
  obtain ⟨th1, hth1, _, hPg⟩ := hi.entered i g (List.mem_of_getElem? hr)
  obtain ⟨th', hth', _, hPf⟩ := hi.entered j f (List.mem_of_getElem? hq)
  rw [hth] at hth1
  cases hth1
  exact ⟨th, th', hth, hPe, hPg, hth', hPf,
    hi.between p q r i j e f g th th' hpq hqr hp hq hr hth hth'⟩

end Locks

end Lib
