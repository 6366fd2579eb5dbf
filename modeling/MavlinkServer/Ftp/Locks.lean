/-
  File:      MavlinkServer/Ftp/Locks.lean
  Subject:   ONE FTP OPERATION PER TARGET AT A TIME (`target_lock` in
             `src/lib/drivers/rest/mavftp/client.rs`). `TARGET_LOCKS` is a table
             of mutexes made on demand, shared by all operations.

  * `movesOf` -- what a run of an operation shows to the others: it takes and
    gives back the lock of its target, and sends messages;
  * `Operates t op moves` -- the moves of some run. Requests are numbered from
    a counter all operations share, so any number may stand in them;
  * `guarded_run` -- every operation does all it sends in one critical section
    of its target;
  * `requests_exclusive` -- the theorem.
-/
import MavlinkServer.Lib.Mutex
import MavlinkServer.Ftp.Release

namespace MavlinkServer.Ftp

open Lib Await

/-! ## 1. The moves of an operation -/

/-- The vehicle component a message is addressed to. -/
def MavMessage.addressee : MavMessage → Option Target
  | .fileTransferProtocol _ system component _ => some ⟨system, component⟩
  | .other => none

/-- The opcode of the FTP request a message carries. -/
def MavMessage.opcode? (message : MavMessage) : Option FtpOpcode :=
  (requestRead (.sent message)).map (·.opcode)

/-- The message with another number in the first two bytes of its payload. -/
def MavMessage.renumber (seq : UInt16) : MavMessage → MavMessage
  | .fileTransferProtocol network system component payload =>
      .fileTransferProtocol network system component
        ⟨toLe 2 seq.toNat ++ payload.val.drop 2, by
          rw [List.length_append, List.length_drop, payload.property, length_toLe]
          rfl⟩
  | .other => .other

def moveOf : FtpEvent → Option (Move Target MavMessage)
  | .locked t => some (.lock t)
  | .unlocked t => some (.unlock t)
  | .sent message => some (.act message)
  | _ => none

def movesOf {α : Type} (x : Client α) (w : World) : List (Move Target MavMessage) :=
  (eventsOf x w).filterMap moveOf

/-- The same move; a message may carry another number. -/
inductive Renumbered : Move Target MavMessage → Move Target MavMessage → Prop where
  | lock (t : Target) : Renumbered (.lock t) (.lock t)
  | unlock (t : Target) : Renumbered (.unlock t) (.unlock t)
  | act (message : MavMessage) (seq : UInt16) :
      Renumbered (.act message) (.act (message.renumber seq))

/-- **The moves of some run of the operation.** -/
def Operates (t : Target) (op : PathOperation) (moves : List (Move Target MavMessage)) : Prop :=
  ∃ w, List.Forall₂ Renumbered (movesOf (op.run t) w) moves

/-- Every thread is an FTP operation. -/
def Operations (_ : Locks Target MavMessage) : LocksAction Target MavMessage → Prop
  | .spawn t moves => ∃ op, Operates t op moves
  | _ => True

/-! ## 2. One critical section -/

/-- What an operation records while it holds the lock of `t`. -/
def Talks (t : Target) : FtpEvent → Prop
  | .sent message => message.addressee = some t
  | .locked _ => False
  | .unlocked _ => False
  | _ => True

instance (t : Target) : AdmitsRead (Talks t) t (fun _ => True) where
  sent _ _ := rfl
  accepted _ _ _ := trivial
  progress _ := trivial
  opened _ _ := trivial
  copied _ := trivial
  ended _ := trivial

/-- A target admits the messages addressed to it. -/
abbrev Admitted (t : Target) (message : MavMessage) : Prop := message.addressee = some t

theorem inside_talks {t : Target} {tail : List (Move Target MavMessage)}
    (htail : Inside Admitted t tail) :
    ∀ (l : List FtpEvent), (∀ e ∈ l, Talks t e) →
      Inside Admitted t (l.filterMap moveOf ++ tail) := by
  intro l
  induction l with
  | nil => exact fun _ => htail
  | cons e l ih =>
      intro hl
      have hrest := ih fun e' he' => hl e' (List.mem_cons_of_mem _ he')
      have he := hl e List.mem_cons_self
      cases e with
      | sent message => exact .act message _ he hrest
      | locked t' => exact he.elim
      | unlocked t' => exact he.elim
      | accepted request reply => exact hrest
      | opened session fileSize => exact hrest
      | copied chunk => exact hrest
      | ended nak => exact hrest
      | progress value => exact hrest

theorem guarded_withTargetLock {α : Type} {t : Target} {x : Client α} (hx : Emits (Talks t) x)
    (w : World) : Guarded Admitted t (movesOf (withTargetLock t x) w) := by
  obtain ⟨l, hl, _, _, ⟨_, hevents⟩ | hevents⟩ := eventsOf_withTargetLock (t := t) hx w
  · have hinside := inside_talks (t := t) .stop l hl
    rw [List.append_nil] at hinside
    rw [movesOf, hevents]
    exact .enter (l.filterMap moveOf) hinside
  · have hinside := inside_talks (t := t) .last l hl
    have hmoves : (l ++ [FtpEvent.unlocked t]).filterMap moveOf =
        l.filterMap moveOf ++ [.unlock t] := List.filterMap_append
    rw [← hmoves] at hinside
    rw [movesOf, hevents]
    exact .enter ((l ++ [FtpEvent.unlocked t]).filterMap moveOf) hinside

/-- Dropping the result shows nothing. -/
theorem movesOf_discard {α : Type} (x : Client α) (w : World) :
    movesOf (do let _ ← x) w = movesOf x w := by
  unfold movesOf eventsOf
  rw [bind_apply]
  cases x w with
  | mk o w1 => cases o <;> rfl

/-- **Every operation does all it sends in one critical section of its target**, whatever helper
    sends it and whichever way the operation ends. -/
theorem guarded_run (t : Target) (op : PathOperation) (w : World) :
    Guarded Admitted t (movesOf (op.run t) w) := by
  have one : ∀ {α : Type} (opcode : FtpOpcode) (data : List UInt8) (offset : UInt32)
      (finish : FtpPayload → Client α), (∀ resp, Emits (Talks t) (finish resp)) →
      Guarded Admitted t (movesOf (dataOperation t opcode data offset finish) w) :=
    fun opcode data offset finish hf =>
      guarded_withTargetLock (emits_dataExchange (fun _ => trivial) hf) w
  cases op with
  | listDirectoryEntries path =>
      rw [PathOperation.run, movesOf_discard]
      exact guarded_withTargetLock (fun w => emits_listLoop (fun _ _ => trivial) _ _ _ w) w
  | readFile path progress maxSize =>
      rw [PathOperation.run, movesOf_discard, burstReadFileInner_eq]
      refine guarded_withTargetLock (emits_opening (fun _ => trivial) fun resp => ?_) w
      exact Moves.bind (emits_admitted fun _ _ => trivial) fun _ =>
        emits_readOpened (fun _ _ => trivial) (fun _ _ => trivial) fun _ _ => trivial
  | writeFile path data =>
      rw [PathOperation.run, writeFile_eq]
      exact guarded_withTargetLock (emits_opening (fun _ => trivial) fun resp =>
        emits_writeOpened (fun _ _ => trivial) fun _ _ => trivial) w
  | removeFile path => exact one _ path 0 _ fun _ => Moves.pure _
  | createDirectory path => exact one _ path 0 _ fun _ => Moves.pure _
  | removeDirectory path => exact one _ path 0 _ fun _ => Moves.pure _
  | truncateFile path offset => exact one _ path offset _ fun _ => Moves.pure _
  | calcCrc32 path =>
      rw [PathOperation.run, movesOf_discard]
      exact one _ path 0 _ fun _ => Moves.ite (Moves.pure _) (Moves.fail _)
  | rename source dest => exact one _ _ 0 _ fun _ => Moves.pure _

/-! ## 3. Other numbers -/

theorem MavMessage.renumber_addressee (seq : UInt16) (message : MavMessage) :
    (message.renumber seq).addressee = message.addressee := by
  cases message <;> rfl

theorem inside_renumbered {t : Target} {moves moves' : List (Move Target MavMessage)}
    (h : Inside Admitted t moves) (hr : List.Forall₂ Renumbered moves moves') :
    Inside Admitted t moves' := by
  induction hr with
  | nil => exact h
  | cons hmove hrest ih =>
      cases hmove with
      | lock t' => cases h
      | unlock t' =>
          cases h
          cases hrest
          exact .last
      | act message seq =>
          cases h with
          | act _ _ hP h =>
              exact .act _ _ (by rw [Admitted, MavMessage.renumber_addressee]; exact hP) (ih h)

/-- The renumbered message is the one the client would have built with that number. -/
theorem renumber_buildFtpMessage (t : Target) (req : FtpPayload) (seq : UInt16) :
    (buildFtpMessage t req).renumber seq = buildFtpMessage t { req with seqNumber := seq } :=
  rfl

/-- Every message has the number it has. -/
theorem renumber_self (message : MavMessage) : ∃ seq, message.renumber seq = message := by
  cases message with
  | fileTransferProtocol network system component payload =>
      have htake : (payload.val.take 2).length = 2 := by
        rw [List.length_take, payload.property]
        rfl
      have hfits : ofLe (payload.val.take 2) < 2 ^ 16 := by
        have hlt := ofLe_lt (payload.val.take 2)
        rw [htake] at hlt
        exact hlt
      refine ⟨UInt16.ofNat (ofLe (payload.val.take 2)), ?_⟩
      have hread :
          toLe 2 (UInt16.ofNat (ofLe (payload.val.take 2))).toNat = payload.val.take 2 := by
        rw [UInt16.toNat_ofNat', Nat.mod_eq_of_lt hfits]
        have hback := toLe_ofLe (payload.val.take 2)
        rw [htake] at hback
        exact hback
      refine congrArg (MavMessage.fileTransferProtocol network system component) (Subtype.ext ?_)
      show toLe 2 _ ++ payload.val.drop 2 = payload.val
      rw [hread, List.take_append_drop]
  | other => exact ⟨0, rfl⟩

/-- The run of an operation on its own is among those it may have. -/
theorem operates_run (t : Target) (op : PathOperation) (w : World) :
    Operates t op (movesOf (op.run t) w) := by
  refine ⟨w, ?_⟩
  induction movesOf (op.run t) w with
  | nil => exact .nil
  | cons move rest ih =>
      refine .cons ?_ ih
      cases move with
      | lock t' => exact .lock t'
      | unlock t' => exact .unlock t'
      | act message =>
          obtain ⟨seq, hseq⟩ := renumber_self message
          have hact := Renumbered.act message seq
          rw [hseq] at hact
          exact hact

theorem Operates.guarded {t : Target} {op : PathOperation} {moves : List (Move Target MavMessage)}
    (h : Operates t op moves) : Guarded Admitted t moves := by
  obtain ⟨w, hr⟩ := h
  have hguarded := guarded_run t op w
  generalize movesOf (op.run t) w = run at hr hguarded
  cases hr with
  | nil => cases hguarded
  | cons hmove hrest =>
      cases hguarded with
      | enter _ hinside =>
          cases hmove
          exact .enter _ (inside_renumbered hinside hrest)

/-! ## 4. Every interleaving -/

/-- **One FTP operation per target at a time.** In every interleaving of any number of operations,
    the request `q` that is sent to the same target between two requests `p`, `r` of an operation is
    a request of that operation; so no other operation's ResetSessions or TerminateSession comes
    between its OpenFileRO or CreateFile and its TerminateSession. -/
theorem requests_exclusive {s : Locks Target MavMessage}
    (h : Reach Locks.step Operations Locks.new s) :
    (∀ (p q r i j : Nat) (first mid last : MavMessage), p ≤ q → q ≤ r →
      s.log[p]? = some (i, first) → s.log[q]? = some (j, mid) → s.log[r]? = some (i, last) →
      mid.addressee = first.addressee → j = i) ∧
    (∀ (p q r i j : Nat) (opens mid closes : MavMessage), p ≤ q → q ≤ r →
      s.log[p]? = some (i, opens) → s.log[q]? = some (j, mid) → s.log[r]? = some (i, closes) →
      opens.opcode? = some .openFileRO ∨ opens.opcode? = some .createFile →
      closes.opcode? = some .terminateSession →
      mid.opcode? = some .resetSessions ∨ mid.opcode? = some .terminateSession →
      mid.addressee = opens.addressee → j = i) := by
  have hreach : Reach Locks.step (Locks.Disciplined Admitted) Locks.new s := by
    refine h.mono fun s a ha => ?_
    cases a with
    | spawn t moves =>
        obtain ⟨op, hop⟩ := ha
        exact hop.guarded
    | look i => trivial
    | take i => trivial
    | act i => trivial
    | release i => trivial
    | cancel i => trivial
  have exclusive : ∀ (p q r i j : Nat) (first mid last : MavMessage), p ≤ q → q ≤ r →
      s.log[p]? = some (i, first) → s.log[q]? = some (j, mid) → s.log[r]? = some (i, last) →
      mid.addressee = first.addressee → j = i := by
    intro p q r i j first mid last hpq hqr hp hq hr haddr
    obtain ⟨th, th', _, hfirst, _, _, hmid, halone⟩ := Locks.acts_between hreach hpq hqr hp hq hr
    have hkey : some th.key = some th'.key := by rw [← hfirst, ← hmid, haddr]
    exact (halone (Option.some.inj hkey)).symm
  exact ⟨exclusive, fun p q r i j opens mid closes hpq hqr hp hq hr _ _ _ haddr =>
    exclusive p q r i j opens mid closes hpq hqr hp hq hr haddr⟩

section Runs

/-- Two removals, on two vehicles; the first one's request times out once. -/
def firstRemoval : List (Move Target MavMessage) :=
  movesOf ((PathOperation.removeFile [97]).run ⟨1, 1⟩) ⟨0, [], [.elapsed], []⟩

def secondRemoval : List (Move Target MavMessage) :=
  movesOf ((PathOperation.removeFile [97]).run ⟨2, 1⟩) ⟨1, [], [], []⟩

def removals : Locks Target MavMessage :=
  { (Locks.new : Locks Target MavMessage) with
    threads := [⟨⟨1, 1⟩, firstRemoval, .outside⟩, ⟨⟨2, 1⟩, secondRemoval, .outside⟩] }

theorem removals_reached : Reach Locks.step Operations Locks.new removals := by
  have first : Reach Locks.step Operations Locks.new
      { (Locks.new : Locks Target MavMessage) with
        threads := [⟨⟨1, 1⟩, firstRemoval, .outside⟩] } :=
    .next _ _ (.spawn ⟨1, 1⟩ firstRemoval) .start ⟨_, operates_run ⟨1, 1⟩ _ _⟩ rfl
  exact .next _ _ (.spawn ⟨2, 1⟩ secondRemoval) first ⟨_, operates_run ⟨2, 1⟩ _ _⟩ rfl

/-- Nobody new comes. -/
def NoSpawn (_ : Locks Target MavMessage) : LocksAction Target MavMessage → Prop
  | .spawn _ _ => False
  | _ => True

instance (s : Locks Target MavMessage) (a : LocksAction Target MavMessage) :
    Decidable (NoSpawn s a) := by
  cases a with
  | spawn t moves => exact isFalse id
  | look i => exact isTrue trivial
  | take i => exact isTrue trivial
  | act i => exact isTrue trivial
  | release i => exact isTrue trivial
  | cancel i => exact isTrue trivial

/-- Operations on different targets come in any order: the second removal is sent between the two
    transmissions of the first one. It goes to another target. -/
theorem requests_exclusive_removals : ∃ s : Locks Target MavMessage,
    Reach Locks.step Operations Locks.new s ∧ ∃ first mid last : MavMessage,
      s.log = [(0, first), (1, mid), (0, last)] ∧ mid.addressee ≠ first.addressee := by
  obtain ⟨s, hreach, hlog⟩ : ∃ s, Reach Locks.step NoSpawn removals s ∧
      s.log.map Prod.fst = [0, 1, 0] :=
    exists_of_execC [.look 0, .look 1, .take 0, .take 1, .act 0, .act 1, .act 0] (by decide +kernel)
  have hall : Reach Locks.step Operations Locks.new s :=
    removals_reached.trans
      (hreach.mono fun s a ha => by cases a <;> first | exact ha.elim | trivial)
  obtain ⟨⟨i, first⟩, tail, hs, hi, htail⟩ := List.map_eq_cons_iff.mp hlog
  obtain ⟨⟨j, mid⟩, tail, rfl, hj, htail⟩ := List.map_eq_cons_iff.mp htail
  obtain ⟨⟨k, last⟩, tail, rfl, hk, htail⟩ := List.map_eq_cons_iff.mp htail
  obtain rfl := List.map_eq_nil_iff.mp htail
  dsimp only at hi hj hk
  subst hi hj hk
  refine ⟨s, hall, first, mid, last, hs, fun haddr => ?_⟩
  have h01 := (requests_exclusive hall).1 0 1 2 0 1 first mid last (by decide) (by decide)
    (by rw [hs]; rfl) (by rw [hs]; rfl) (by rw [hs]; rfl) haddr
  cases h01

end Runs

end MavlinkServer.Ftp
