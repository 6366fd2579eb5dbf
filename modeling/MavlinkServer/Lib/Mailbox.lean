/-
  File:      MavlinkServer/Lib/Mailbox.lean
  Subject:   AN ACTOR BEHIND A MAILBOX. Callers put requests into a mailbox of
             bounded capacity and wait for the answers; one task takes the
             requests in order. A caller may give up at any time. Nothing here
             names a program.

  * `Service` -- what the task makes of a request, and what else may happen to
    its state;
  * `MailCall`, `CallStage` -- a call, from the wait for room to the answer;
  * `Mailbox`, `step` -- all calls, and the history of what was served;
  * `Linear` -- the invariant, kept by every step (`linear_step`);
  * `returned_served` -- a call that returned took effect once, between its
    call and its return, so the history is one order of all calls that keeps
    the order of those that do not overlap.
-/
import Mathlib.Data.List.Nodup
import MavlinkServer.Lib.Run

namespace Lib

/-- What an actor makes of a request, and what else may happen to its state. -/
structure Service (σ Req Resp Env : Type) where
  handle : σ → Req → Resp × σ
  env : σ → Env → Option σ

/-- How far a call is. -/
inductive CallStage (Resp : Type) where
  /-- the caller waits for room in the mailbox -/
  | sending
  | queued
  | answered (response : Resp)
  /-- the caller has the answer; `at` is the length of the history then -/
  | returned (response : Resp) (at_ : Nat)
  /-- the caller gave up -/
  | dropped
  deriving DecidableEq, Repr

structure MailCall (Req Resp : Type) where
  request : Req
  stage : CallStage Resp
  /-- the length of the history at the call -/
  calledAt : Nat
  deriving DecidableEq, Repr

/-- What happened to the state of the actor. -/
inductive Happened (Req Resp Env : Type) where
  | served (call : Nat) (request : Req) (response : Resp)
  | env (e : Env)
  deriving DecidableEq, Repr

def Happened.call? {Req Resp Env : Type} : Happened Req Resp Env → Option Nat
  | .served call _ _ => some call
  | .env _ => none

structure Mailbox (σ Req Resp Env : Type) where
  state : σ
  /-- the calls whose requests are in the mailbox -/
  queue : List Nat
  calls : List (MailCall Req Resp)
  history : List (Happened Req Resp Env)
  deriving DecidableEq, Repr

inductive MailboxAction (Req Env : Type) where
  | call (request : Req)
  /-- there is room for the request of this call -/
  | send (call : Nat)
  /-- the task takes the next request and answers it -/
  | serve
  | receive (call : Nat)
  | drop (call : Nat)
  | env (e : Env)
  deriving DecidableEq, Repr

variable {σ Req Resp Env : Type}

/-! ## 1. The steps -/

/-- The answer reaches a caller that still waits for it. -/
def MailCall.answer (c : MailCall Req Resp) (response : Resp) : MailCall Req Resp :=
  match c.stage with
  | .queued => { c with stage := .answered response }
  | _ => c

namespace Service

variable (service : Service σ Req Resp Env)

/-- The state after what happened. -/
def after (s : σ) : List (Happened Req Resp Env) → σ
  | [] => s
  | .served _ request _ :: rest => after (service.handle s request).2 rest
  | .env e :: rest => after ((service.env s e).getD s) rest

theorem after_append (s : σ) (h h' : List (Happened Req Resp Env)) :
    service.after s (h ++ h') = service.after (service.after s h) h' := by
  induction h generalizing s with
  | nil => rfl
  | cons e rest ih =>
      cases e with
      | served call request response => exact ih _
      | env e => exact ih _

end Service

namespace Mailbox

def start (s : σ) : Mailbox σ Req Resp Env := ⟨s, [], [], []⟩

def step (service : Service σ Req Resp Env) (capacity : Nat) (m : Mailbox σ Req Resp Env) :
    MailboxAction Req Env → Option (Mailbox σ Req Resp Env)
  | .call request =>
      some { m with calls := m.calls ++ [⟨request, .sending, m.history.length⟩] }
  | .send id =>
      match m.calls[id]? with
      | some ⟨request, .sending, calledAt⟩ =>
          if m.queue.length < capacity then
            some { m with
              queue := m.queue ++ [id]
              calls := m.calls.set id ⟨request, .queued, calledAt⟩ }
          else none
      | _ => none
  | .serve =>
      match m.queue with
      | [] => none
      | id :: rest =>
          m.calls[id]?.map fun c =>
            let (response, state) := service.handle m.state c.request
            { state
              queue := rest
              calls := m.calls.set id (c.answer response)
              history := m.history ++ [.served id c.request response] }
  | .receive id =>
      match m.calls[id]? with
      | some ⟨request, .answered response, calledAt⟩ =>
          some { m with
            calls := m.calls.set id ⟨request, .returned response m.history.length, calledAt⟩ }
      | _ => none
  | .drop id =>
      match m.calls[id]? with
      | some ⟨_, .returned _ _, _⟩ => none
      | some c => some { m with calls := m.calls.set id { c with stage := .dropped } }
      | none => none
  | .env e =>
      (service.env m.state e).map fun state =>
        { m with state, history := m.history ++ [.env e] }

/-- The calls whose requests were put into the mailbox, in that order. -/
def sent (m : Mailbox σ Req Resp Env) : List Nat := m.history.filterMap Happened.call? ++ m.queue

/-! ## 2. The invariant -/

variable {service : Service σ Req Resp Env} {capacity : Nat} {s0 : σ}
  {m m' : Mailbox σ Req Resp Env} {id : Nat} {c : MailCall Req Resp}

/-- Where the request of a call is. -/
def Placed (m : Mailbox σ Req Resp Env) (id : Nat) (c : MailCall Req Resp) : Prop :=
  match c.stage with
  | .sending => id ∉ m.sent
  | .queued => id ∈ m.queue
  | .answered response =>
      ∃ i, c.calledAt ≤ i ∧ m.history[i]? = some (.served id c.request response)
  | .returned response at_ =>
      ∃ i, c.calledAt ≤ i ∧ i < at_ ∧ m.history[i]? = some (.served id c.request response)
  | .dropped => True

/-- **The invariant**: the history explains the state and every answer, no request is served twice,
    and a call that was answered is in the history behind its beginning. -/
structure Linear (service : Service σ Req Resp Env) (s0 : σ) (m : Mailbox σ Req Resp Env) :
    Prop where
  state : m.state = service.after s0 m.history
  answers : ∀ (i id : Nat) (request : Req) (response : Resp),
    m.history[i]? = some (.served id request response) →
    (service.handle (service.after s0 (m.history.take i)) request).1 = response
  once : m.sent.Nodup
  waits : ∀ id ∈ m.queue, ∃ c : MailCall Req Resp, m.calls[id]? = some c ∧
    (c.stage = .queued ∨ c.stage = .dropped)
  begun : ∀ (id : Nat) (c : MailCall Req Resp), m.calls[id]? = some c →
    c.calledAt ≤ m.history.length
  placed : ∀ (id : Nat) (c : MailCall Req Resp), m.calls[id]? = some c → m.Placed id c
  origin : ∀ (i id : Nat) (request : Req) (response : Resp),
    m.history[i]? = some (.served id request response) →
    ∃ c : MailCall Req Resp, m.calls[id]? = some c ∧ c.request = request ∧ c.calledAt ≤ i

theorem linear_start : (start s0 : Mailbox σ Req Resp Env).Linear service s0 where
  state := rfl
  answers := fun _ _ _ _ h => by cases h
  once := List.nodup_nil
  waits := fun _ h => absurd h List.not_mem_nil
  begun := fun _ _ h => by cases h
  placed := fun _ _ h => by cases h
  origin := fun _ _ _ _ h => by cases h

/-- What was put into the mailbox belongs to a call. -/
theorem Linear.sent_lt (h : m.Linear service s0) (hid : id ∈ m.sent) : id < m.calls.length := by
  rcases List.mem_append.mp hid with hserved | hqueue
  · obtain ⟨e, he, hcall⟩ := List.mem_filterMap.mp hserved
    cases e with
    | env e => cases hcall
    | served call request response =>
        cases hcall
        obtain ⟨i, hi⟩ := List.getElem?_of_mem he
        obtain ⟨c, hc, _⟩ := h.origin i id request response hi
        exact (List.getElem?_eq_some_iff.mp hc).1
  · obtain ⟨c, hc, _⟩ := h.waits id hqueue
    exact (List.getElem?_eq_some_iff.mp hc).1

/-- The call under a number after one call was changed. -/
theorem call_of_set {calls : List (MailCall Req Resp)} {id' : Nat} {d : MailCall Req Resp}
    (h : (calls.set id c)[id']? = some d) : id' = id ∧ d = c ∨ id' ≠ id ∧ calls[id']? = some d := by
  rw [List.getElem?_set] at h
  split at h
  · rename_i heq
    split at h
    · exact Or.inl ⟨heq.symm, (Option.some.inj h).symm⟩
    · cases h
  · rename_i hne
    exact Or.inr ⟨fun e => hne e.symm, h⟩

/-- What a call rests on stays when the history grows, no request of it is sent and none is
    taken. -/
theorem Placed.grow (h : m.Placed id c) (hh : m.history <+: m'.history)
    (hs : id ∈ m'.sent → id ∈ m.sent) (hq : id ∈ m.queue → id ∈ m'.queue) : m'.Placed id c := by
  obtain ⟨more, hmore⟩ := hh
  have hkeep : ∀ (i : Nat) (x : Happened Req Resp Env), m.history[i]? = some x →
      m'.history[i]? = some x := by
    intro i x hi
    rw [← hmore, List.getElem?_append_left (List.getElem?_eq_some_iff.mp hi).1]
    exact hi
  revert h
  unfold Placed
  cases c.stage with
  | sending => exact fun h hin => h (hs hin)
  | queued => exact hq
  | answered response =>
      rintro ⟨i, hle, hi⟩
      exact ⟨i, hle, hkeep i _ hi⟩
  | returned response at_ =>
      rintro ⟨i, hle, hlt, hi⟩
      exact ⟨i, hle, hlt, hkeep i _ hi⟩
  | dropped => exact fun h => h

theorem getElem?_concat {α : Type} {l : List α} {a x : α} {i : Nat}
    (h : (l ++ [a])[i]? = some x) : l[i]? = some x ∨ i = l.length ∧ a = x := by
  rw [List.getElem?_append] at h
  split at h
  · exact Or.inl h
  · obtain ⟨hlt, hget⟩ := List.getElem?_eq_some_iff.mp h
    rw [List.length_singleton] at hlt
    rw [List.getElem_singleton] at hget
    exact Or.inr ⟨by omega, hget⟩

/-- A caller begins a call. -/
theorem Linear.call (h : m.Linear service s0) (request : Req) :
    ({ m with calls := m.calls ++ [⟨request, .sending, m.history.length⟩] } :
      Mailbox σ Req Resp Env).Linear service s0 := by
  have hcall : ∀ (id : Nat) (c : MailCall Req Resp),
      (m.calls ++ [⟨request, .sending, m.history.length⟩])[id]? = some c →
      m.calls[id]? = some c ∨ id = m.calls.length ∧ c = ⟨request, .sending, m.history.length⟩ := by
    intro id c hc
    exact (getElem?_concat hc).imp_right fun ⟨hid, he⟩ => ⟨hid, he.symm⟩
  refine ⟨h.state, h.answers, h.once, ?_, ?_, ?_, ?_⟩
  · intro id hid
    obtain ⟨c, hc, hst⟩ := h.waits id hid
    exact ⟨c, (List.getElem?_append_left (List.getElem?_eq_some_iff.mp hc).1).trans hc, hst⟩
  · intro id c hc
    rcases hcall id c hc with hold | ⟨_, rfl⟩
    · exact h.begun id c hold
    · exact Nat.le_refl _
  · intro id c hc
    rcases hcall id c hc with hold | ⟨rfl, rfl⟩
    · exact (h.placed id c hold).grow List.prefix_rfl (fun hs => hs) fun hq => hq
    · exact fun hs => absurd (h.sent_lt hs) (Nat.lt_irrefl _)
  · intro i id request response hi
    obtain ⟨c, hc, hreq⟩ := h.origin i id request response hi
    exact ⟨c, (List.getElem?_append_left (List.getElem?_eq_some_iff.mp hc).1).trans hc, hreq⟩

/-- What was served still belongs to its call when the stage of a call changes. -/
theorem origin_set {calls : List (MailCall Req Resp)} {i id' : Nat} {request : Req}
    {d : MailCall Req Resp} (hc : calls[id]? = some c) (hreq : d.request = c.request)
    (hat : d.calledAt = c.calledAt)
    (h : ∃ c : MailCall Req Resp, calls[id']? = some c ∧ c.request = request ∧ c.calledAt ≤ i) :
    ∃ c : MailCall Req Resp, (calls.set id d)[id']? = some c ∧ c.request = request ∧
      c.calledAt ≤ i := by
  obtain ⟨c', hc', hreq', hat'⟩ := h
  by_cases heq : id' = id
  · subst heq
    rw [hc] at hc'
    cases hc'
    exact ⟨d, List.getElem?_set_self (List.getElem?_eq_some_iff.mp hc).1, hreq.trans hreq',
      hat ▸ hat'⟩
  · exact ⟨c', (List.getElem?_set_ne (Ne.symm heq)).trans hc', hreq', hat'⟩

/-- A call changes and nothing else: it goes on from where its request is. -/
theorem Linear.setCall (h : m.Linear service s0) {d : MailCall Req Resp}
    (hc : m.calls[id]? = some c) (hreq : d.request = c.request) (hat : d.calledAt = c.calledAt)
    (hplaced : m.Placed id d)
    (hwaits : id ∈ m.queue → d.stage = .queued ∨ d.stage = .dropped) :
    ({ m with calls := m.calls.set id d } : Mailbox σ Req Resp Env).Linear service s0 := by
  have hlt := (List.getElem?_eq_some_iff.mp hc).1
  refine ⟨h.state, h.answers, h.once, ?_, ?_, ?_, ?_⟩
  · intro id' hid'
    by_cases heq : id' = id
    · subst heq
      exact ⟨d, List.getElem?_set_self hlt, hwaits hid'⟩
    · obtain ⟨c', hc', hst⟩ := h.waits id' hid'
      exact ⟨c', (List.getElem?_set_ne (Ne.symm heq)).trans hc', hst⟩
  · intro id' c' hc'
    rcases call_of_set hc' with ⟨_, rfl⟩ | ⟨_, hold⟩
    · rw [hat]
      exact h.begun id c hc
    · exact h.begun id' c' hold
  · intro id' c' hc'
    rcases call_of_set hc' with ⟨rfl, rfl⟩ | ⟨_, hold⟩
    · exact hplaced.grow List.prefix_rfl (fun hs => hs) fun hq => hq
    · exact (h.placed id' c' hold).grow List.prefix_rfl (fun hs => hs) fun hq => hq
  · intro i id' request response hi
    exact origin_set hc hreq hat (h.origin i id' request response hi)

/-- The request of a call goes into the mailbox. -/
theorem Linear.send (h : m.Linear service s0) {request : Req} {calledAt : Nat}
    (hc : m.calls[id]? = some ⟨request, .sending, calledAt⟩) :
    ({ m with
      queue := m.queue ++ [id]
      calls := m.calls.set id ⟨request, .queued, calledAt⟩ } :
      Mailbox σ Req Resp Env).Linear service s0 := by
  have hlt := (List.getElem?_eq_some_iff.mp hc).1
  have hnot : id ∉ m.sent := h.placed id _ hc
  have hsent : m.history.filterMap Happened.call? ++ (m.queue ++ [id]) = m.sent ++ [id] :=
    (List.append_assoc _ _ _).symm
  refine ⟨h.state, h.answers, ?_, ?_, ?_, ?_, ?_⟩
  · show (m.history.filterMap Happened.call? ++ (m.queue ++ [id])).Nodup
    rw [hsent]
    exact List.nodup_append.mpr ⟨h.once, List.nodup_singleton _, fun a ha b hb e =>
      hnot (List.mem_singleton.mp hb ▸ e ▸ ha)⟩
  · intro id' hid'
    rcases List.mem_append.mp hid' with hold | hnew
    · obtain ⟨c', hc', hst⟩ := h.waits id' hold
      have hne : id' ≠ id := fun e => hnot (e ▸ List.mem_append_right _ hold)
      exact ⟨c', (List.getElem?_set_ne (Ne.symm hne)).trans hc', hst⟩
    · obtain rfl := List.mem_singleton.mp hnew
      exact ⟨_, List.getElem?_set_self hlt, Or.inl rfl⟩
  · intro id' c' hc'
    rcases call_of_set hc' with ⟨_, rfl⟩ | ⟨_, hold⟩
    · exact h.begun id ⟨request, .sending, calledAt⟩ hc
    · exact h.begun id' c' hold
  · intro id' c' hc'
    rcases call_of_set hc' with ⟨rfl, rfl⟩ | ⟨hne, hold⟩
    · exact List.mem_append_right _ (List.mem_singleton.mpr rfl)
    · refine (h.placed id' c' hold).grow List.prefix_rfl (fun hs => ?_) (List.mem_append_left _)
      have hs' : id' ∈ m.sent ++ [id] := hsent ▸ hs
      rcases List.mem_append.mp hs' with hin | heq
      · exact hin
      · exact absurd (List.mem_singleton.mp heq) hne
  · intro i id' request response hi
    exact origin_set hc rfl rfl (h.origin i id' request response hi)

/-- What an answer explains stays explained in a longer history. -/
theorem Linear.answers_append (h : m.Linear service s0) {e : Happened Req Resp Env}
    (hnew : ∀ (id : Nat) (request : Req) (response : Resp), e = .served id request response →
      (service.handle m.state request).1 = response) (i id : Nat) (request : Req) (response : Resp)
    (hi : (m.history ++ [e])[i]? = some (.served id request response)) :
    (service.handle (service.after s0 ((m.history ++ [e]).take i)) request).1 = response := by
  rcases getElem?_concat hi with hold | ⟨rfl, he⟩
  · rw [List.take_append_of_le_length (Nat.le_of_lt (List.getElem?_eq_some_iff.mp hold).1)]
    exact h.answers i id request response hold
  · rw [List.take_left, ← h.state]
    exact hnew id request response he

/-- The actor takes a request and answers it. -/
theorem Linear.serve (h : m.Linear service s0) {rest : List Nat} (hq : m.queue = id :: rest)
    (hc : m.calls[id]? = some c) :
    ({ state := (service.handle m.state c.request).2
       queue := rest
       calls := m.calls.set id (c.answer (service.handle m.state c.request).1)
       history := m.history ++ [.served id c.request (service.handle m.state c.request).1] } :
      Mailbox σ Req Resp Env).Linear service s0 := by
  have hsent : (m.history ++ [Happened.served id c.request
      (service.handle m.state c.request).1]).filterMap Happened.call? ++ rest = m.sent := by
    rw [List.filterMap_append]
    unfold sent
    rw [hq, List.append_assoc]
    rfl
  have hnodup := h.once
  unfold sent at hnodup
  rw [hq, List.nodup_append, List.nodup_cons] at hnodup
  obtain ⟨_, ⟨hrest, _⟩, hfar⟩ := hnodup
  have hst : c.stage = .queued ∨ c.stage = .dropped := by
    obtain ⟨c', hc', hst⟩ := h.waits id (hq ▸ List.mem_cons_self)
    rw [hc] at hc'
    cases hc'
    exact hst
  have hat : (c.answer (service.handle m.state c.request).1).calledAt = c.calledAt := by
    unfold MailCall.answer
    split <;> rfl
  have hreq : (c.answer (service.handle m.state c.request).1).request = c.request := by
    unfold MailCall.answer
    split <;> rfl
  refine ⟨?_, ?_, ?_, ?_, ?_, ?_, ?_⟩
  · show _ = service.after s0 _
    rw [Service.after_append, ← h.state]
    rfl
  · refine h.answers_append fun id' request response he => ?_
    cases he
    rfl
  · show (_ ++ rest).Nodup
    rw [hsent]
    exact h.once
  · intro id' hid'
    have hne : id' ≠ id := fun e => hrest (e ▸ hid')
    obtain ⟨c', hc', hst'⟩ := h.waits id' (hq ▸ List.mem_cons_of_mem _ hid')
    exact ⟨c', (List.getElem?_set_ne (Ne.symm hne)).trans hc', hst'⟩
  · intro id' c' hc'
    rw [List.length_append]
    refine Nat.le_add_right_of_le ?_
    rcases call_of_set hc' with ⟨_, rfl⟩ | ⟨_, hold⟩
    · rw [hat]
      exact h.begun id c hc
    · exact h.begun id' c' hold
  · intro id' c' hc'
    rcases call_of_set hc' with ⟨rfl, rfl⟩ | ⟨hne, hold⟩
    · rcases hst with hst | hst
      · simp only [MailCall.answer, hst]
        exact ⟨m.history.length, h.begun id' c hc, List.getElem?_concat_length⟩
      · simp only [MailCall.answer, hst, Placed]
    · refine (h.placed id' c' hold).grow (List.prefix_append _ _) (fun hs => ?_) fun hin => ?_
      · exact hsent ▸ hs
      · rw [hq] at hin
        exact (List.mem_cons.mp hin).resolve_left hne
  · intro i id' request response hi
    refine origin_set hc hreq hat ?_
    rcases getElem?_concat hi with hold | ⟨rfl, he⟩
    · exact h.origin i id' request response hold
    · cases he
      exact ⟨c, hc, rfl, h.begun id c hc⟩

/-- Something else happens to the state of the actor. -/
theorem Linear.env (h : m.Linear service s0) {e : Env} {s : σ} (he : service.env m.state e = some s) :
    ({ m with state := s, history := m.history ++ [.env e] } :
      Mailbox σ Req Resp Env).Linear service s0 := by
  have hmap : (m.history ++ [Happened.env e]).filterMap Happened.call? =
      m.history.filterMap Happened.call? := by
    rw [List.filterMap_append]
    exact List.append_nil _
  refine ⟨?_, ?_, ?_, h.waits, ?_, ?_, ?_⟩
  · show s = service.after s0 _
    rw [Service.after_append, ← h.state]
    show s = (service.env m.state e).getD m.state
    rw [he]
    rfl
  · exact h.answers_append fun id request response hno => by cases hno
  · show ((m.history ++ [Happened.env e]).filterMap Happened.call? ++ m.queue).Nodup
    rw [hmap]
    exact h.once
  · intro id c hc
    rw [List.length_append]
    exact Nat.le_add_right_of_le (h.begun id c hc)
  · intro id c hc
    refine (h.placed id c hc).grow (List.prefix_append _ _) (fun hs => ?_) fun hq => hq
    unfold sent at hs
    rw [hmap] at hs
    exact hs
  · intro i id request response hi
    rcases getElem?_concat hi with hold | ⟨_, he⟩
    · exact h.origin i id request response hold
    · cases he

/-- **Every step keeps the invariant.** -/
theorem linear_step {a : MailboxAction Req Env} (h : m.Linear service s0)
    (hs : m.step service capacity a = some m') : m'.Linear service s0 := by
  cases a with
  | call request =>
      cases hs
      exact h.call request
  | send id =>
      simp only [step] at hs
      split at hs
      · rename_i request calledAt hc
        split at hs
        · cases hs
          exact h.send hc
        · cases hs
      · cases hs
  | serve =>
      simp only [step] at hs
      split at hs
      · cases hs
      · rename_i id rest hq
        obtain ⟨c, hc, hm⟩ := Option.map_eq_some_iff.mp hs
        cases hm
        exact h.serve hq hc
  | receive id =>
      simp only [step] at hs
      split at hs
      · rename_i request response calledAt hc
        cases hs
        obtain ⟨i, hle, hi⟩ := h.placed id _ hc
        refine h.setCall hc rfl rfl ⟨i, hle, (List.getElem?_eq_some_iff.mp hi).1, hi⟩ fun hq => ?_
        -- a call that is answered has left the mailbox
        obtain ⟨c, hc', hst⟩ := h.waits id hq
        rw [hc] at hc'
        cases hc'
        rcases hst with hst | hst <;> cases hst
      · cases hs
  | drop id =>
      simp only [step] at hs
      split at hs
      · cases hs
      · rename_i c hc
        cases hs
        exact h.setCall hc rfl rfl trivial fun _ => Or.inr rfl
      · cases hs
  | env e =>
      obtain ⟨s, he, hm⟩ := Option.map_eq_some_iff.mp hs
      cases hm
      exact h.env he

theorem linear_reach {C : Mailbox σ Req Resp Env → MailboxAction Req Env → Prop}
    (h : Reach (step service capacity) C (start s0) m) : m.Linear service s0 :=
  h.inv linear_start fun _ _ _ hi _ hs => linear_step hi hs

/-! ## 3. What a caller may rely on -/

/-- A request is in the history at one place. -/
theorem Linear.served_once (h : m.Linear service s0) {i j : Nat} {x y : Happened Req Resp Env}
    (hi : m.history[i]? = some x) (hj : m.history[j]? = some y) (hx : x.call? = some id)
    (hy : y.call? = some id) : i = j := by
  have hnodup := (List.nodup_append.mp h.once).1
  rw [List.Nodup, List.pairwise_filterMap, List.pairwise_iff_getElem] at hnodup
  obtain ⟨hi', rfl⟩ := List.getElem?_eq_some_iff.mp hi
  obtain ⟨hj', rfl⟩ := List.getElem?_eq_some_iff.mp hj
  rcases Nat.lt_trichotomy i j with hlt | heq | hgt
  · exact absurd rfl (hnodup i j hi' hj' hlt id hx id hy)
  · exact heq
  · exact absurd rfl (hnodup j i hj' hi' hgt id hy id hx)

/-- What was served belongs to a call that began before, and has not returned before. -/
theorem Linear.served_during (h : m.Linear service s0) {i : Nat} {request : Req} {response : Resp}
    (hi : m.history[i]? = some (.served id request response)) :
    ∃ c : MailCall Req Resp, m.calls[id]? = some c ∧ c.request = request ∧ c.calledAt ≤ i ∧
      ∀ (response' : Resp) (at_ : Nat), c.stage = .returned response' at_ → i < at_ := by
  obtain ⟨c, hc, hreq, hat⟩ := h.origin i id request response hi
  refine ⟨c, hc, hreq, hat, fun response' at_ hst => ?_⟩
  have hplaced := h.placed id c hc
  simp only [Placed, hst] at hplaced
  obtain ⟨j, _, hlt, hj⟩ := hplaced
  rwa [h.served_once hi hj rfl rfl]

/-- **A call that returned took effect once, between its call and its return**, and its answer is
    the one of the state at that point of the history. -/
theorem Linear.returned_served (h : m.Linear service s0) {request : Req} {response : Resp}
    {at_ calledAt : Nat} (hc : m.calls[id]? = some ⟨request, .returned response at_, calledAt⟩) :
    ∃ i, calledAt ≤ i ∧ i < at_ ∧ m.history[i]? = some (.served id request response) ∧
      (service.handle (service.after s0 (m.history.take i)) request).1 = response ∧
      ∀ (j : Nat) (x : Happened Req Resp Env), m.history[j]? = some x → x.call? = some id →
        j = i := by
  obtain ⟨i, hle, hlt, hi⟩ := h.placed id _ hc
  exact ⟨i, hle, hlt, hi, h.answers i id request response hi,
    fun j x hj hx => h.served_once hj hi hx rfl⟩

end Mailbox

end Lib
