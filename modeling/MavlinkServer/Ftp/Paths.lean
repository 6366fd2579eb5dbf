/-
  File:      MavlinkServer/Ftp/Paths.lean
  Subject:   WHICH FILE A REQUEST NAMES. The path of an operation goes through
             two narrowings on its way to the vehicle: its length through a
             cast to `u8`, its bytes through a copy of 239 at most.

  * `PathOperation` -- the nine operations that take a path, with the bytes
    their request must carry;
  * `NamesFile` -- what the vehicle reads in those requests is the path;
  * `namesFile_iff` -- it is exactly for the paths up to 239 bytes. No
    operation looks at the length of its path.
-/
import MavlinkServer.Ftp.Reassembly

namespace MavlinkServer.Ftp

open Lib Await

/-! ## 1. The operations -/

inductive PathOperation where
  | listDirectoryEntries (path : List UInt8)
  | readFile (path : List UInt8) (progress : Bool) (maxSize : Option Nat)
  | writeFile (path data : List UInt8)
  | removeFile (path : List UInt8)
  | createDirectory (path : List UInt8)
  | removeDirectory (path : List UInt8)
  | truncateFile (path : List UInt8) (offset : UInt32)
  | calcCrc32 (path : List UInt8)
  | rename (source dest : List UInt8)

namespace PathOperation

/-- The opcode of the request that carries the path. -/
def opcode : PathOperation → FtpOpcode
  | listDirectoryEntries _ => .listDirectory
  | readFile _ _ _ => .openFileRO
  | writeFile _ _ => .createFile
  | removeFile _ => .removeFile
  | createDirectory _ => .createDirectory
  | removeDirectory _ => .removeDirectory
  | truncateFile _ _ => .truncateFile
  | calcCrc32 _ => .calcFileCRC32
  | rename _ _ => .rename

/-- The bytes that name the file, for a rename both names around a NUL. -/
def name : PathOperation → List UInt8
  | listDirectoryEntries path => path
  | readFile path _ _ => path
  | writeFile path _ => path
  | removeFile path => path
  | createDirectory path => path
  | removeDirectory path => path
  | truncateFile path _ => path
  | calcCrc32 path => path
  | rename source dest => source ++ 0 :: dest

/-- No NUL in the caller's paths. -/
def NulFree : PathOperation → Prop
  | rename source dest => 0 ∉ source ∧ 0 ∉ dest
  | op => 0 ∉ op.name

/-- The operation, its result dropped. -/
def run (t : Target) : PathOperation → Client Unit
  | listDirectoryEntries path => do let _ ← Ftp.listDirectoryEntries t path
  | readFile path progress maxSize => do let _ ← burstReadFileInner t path progress maxSize
  | writeFile path data => Ftp.writeFile t path data
  | removeFile path => Ftp.removeFile t path
  | createDirectory path => Ftp.createDirectory t path
  | removeDirectory path => Ftp.removeDirectory t path
  | truncateFile path offset => Ftp.truncateFile t path offset
  | calcCrc32 path => do let _ ← Ftp.calcCrc32 t path
  | rename source dest => Ftp.rename t source dest

end PathOperation

/-! ## 2. What the vehicle reads -/

/-- The events of a run. -/
def eventsOf {α : Type} (x : Client α) (w : World) : List FtpEvent :=
  (x w).2.trace.drop w.trace.length

/-- A request as the vehicle decodes it. -/
def requestRead : FtpEvent → Option FtpPayload
  | .sent (.fileTransferProtocol _ _ _ payload) => (FtpPayload.decode payload).toOption
  | _ => none

/-- The requests the vehicle reads in a run. -/
def requestsRead {α : Type} (x : Client α) (w : World) : List FtpPayload :=
  (eventsOf x w).filterMap requestRead

/-- **The path requests of the operation name the caller's file**: `data[..size]` is the path. -/
def NamesFile (op : PathOperation) (t : Target) (w : World) : Prop :=
  ∀ req ∈ requestsRead (op.run t) w, req.opcode = op.opcode →
    req.data.take req.size.toNat = op.name

instance (op : PathOperation) (t : Target) (w : World) : Decidable (NamesFile op t w) :=
  inferInstanceAs (Decidable (∀ req ∈ requestsRead (op.run t) w, req.opcode = op.opcode →
    req.data.take req.size.toNat = op.name))

theorem eventsOf_emits {α : Type} {P : FtpEvent → Prop} {x : Client α} (h : Emits P x)
    {w : World} {e : FtpEvent} (he : e ∈ eventsOf x w) : P e := by
  obtain ⟨events, heq, hP⟩ := (h w).trace
  rw [eventsOf, heq, List.drop_left] at he
  exact hP e he

/-- What the vehicle makes of a request: its header, and of the data what fits. -/
theorem requestRead_sent (t : Target) (req : FtpPayload) :
    requestRead (.sent (buildFtpMessage t req)) =
      some { req with data := req.dataArea.take (min req.size.toNat ftpDataMaxLen) } := by
  show (FtpPayload.decode req.encode).toOption = _
  rw [FtpPayload.decode_encode]
  rfl

/-- The request carries this name, its length cut to 8 bits. -/
def Carries (opcode : FtpOpcode) (name : List UInt8) (req : FtpPayload) : Prop :=
  req.opcode = opcode → req.data = name ∧ req.size = UInt8.ofNat name.length

theorem carries_pathRequest (opcode : FtpOpcode) (name : List UInt8) (offset : UInt32)
    (seq : UInt16) : Carries opcode name (pathRequest opcode name offset seq) :=
  fun _ => ⟨rfl, rfl⟩

theorem carries_of_ne {opcode : FtpOpcode} {name : List UInt8} {req : FtpPayload}
    (h : req.opcode ≠ opcode) : Carries opcode name req := fun he => absurd he h

/-- A request of another opcode than the path's carries nothing. -/
theorem carries_other {opcode other : FtpOpcode} {name : List UInt8} (hne : other ≠ opcode) :
    ∀ req : FtpPayload, req.opcode = other → Carries opcode name req := by
  intro req hreq
  exact carries_of_ne (by rw [hreq]; exact hne)

theorem Emits.discard {α : Type} {P : FtpEvent → Prop} {x : Client α} (h : Emits P x) :
    Emits P (do let _ ← x) :=
  Moves.bind h fun _ => Moves.pure _

/-- **Every path request of every operation** carries the whole name and the cast length. -/
theorem emits_run (op : PathOperation) (t : Target) :
    Emits (Reads (Carries op.opcode op.name)) (op.run t) := by
  have one : ∀ (opcode : FtpOpcode) (name : List UInt8) (offset : UInt32),
      Emits (Reads (Carries opcode name)) (dataOperation t opcode name offset fun _ => pure ()) :=
    fun opcode name offset =>
      emits_dataOperation (carries_pathRequest opcode name offset) fun _ => Moves.pure _
  cases op with
  | listDirectoryEntries path =>
      exact (emits_listDirectoryEntries (carries_pathRequest _ path)).discard
  | readFile path progress maxSize =>
      exact (emits_burstReadFileInner (carries_pathRequest _ path 0)
        (carries_other (by decide)) (carries_other (by decide)) (carries_other (by decide))
        (carries_other (by decide))).discard
  | writeFile path data =>
      exact emits_writeFile (carries_pathRequest _ path 0) (carries_other (by decide))
        (carries_other (by decide)) (carries_other (by decide))
  | removeFile path => exact one _ path 0
  | createDirectory path => exact one _ path 0
  | removeDirectory path => exact one _ path 0
  | truncateFile path offset => exact one _ path offset
  | rename source dest => exact one _ _ 0
  | calcCrc32 path =>
      refine Emits.discard ?_
      refine emits_dataOperation (carries_pathRequest _ path 0) fun resp => ?_
      exact Moves.ite (Moves.pure _) (Moves.fail _)

/-- **What is read of a request that carries a name** is the name exactly when it fits. -/
theorem read_carries {opcode : FtpOpcode} {name : List UInt8} {e : FtpEvent} {req : FtpPayload}
    (h : Reads (Carries opcode name) e) (hread : requestRead e = some req)
    (ho : req.opcode = opcode) :
    req.data.take req.size.toNat = name ↔ name.length ≤ 239 := by
  cases e with
  | sent message =>
      obtain ⟨t, sent, rfl, hcarries⟩ := h
      rw [requestRead_sent] at hread
      cases hread
      obtain ⟨hdata, hsize⟩ := hcarries ho
      dsimp only
      constructor
      · intro heq
        have hlen := congrArg List.length heq
        rw [List.length_take, List.length_take, ftpDataMaxLen_eq] at hlen
        omega
      · intro hfit
        have hcast : sent.size.toNat = sent.data.length := by
          rw [hsize, hdata, UInt8.toNat_ofNat']
          omega
        rw [FtpPayload.dataArea_take (by rw [hdata]; exact hfit) hcast, hcast, List.take_length,
          hdata]
  | _ => cases hread

/-! ## 3. Runs that send the path request

The vehicle answers a ResetSessions and then nothing more: the operation has sent its path request
and waits. -/

/-- The operation waits; the last it did was to send `req`. -/
def WaitsFor {α : Type} (x : Client α) (w : World) (t : Target) (req : FtpPayload) : Prop :=
  ∃ w' events, x w = (.waiting, w') ∧ w'.trace = w.trace ++ events ++ [.sent (buildFtpMessage t req)]

namespace WaitsFor

variable {α β : Type} {x : Client α} {f : α → Client β} {w w1 : World} {t : Target}
  {req : FtpPayload}

theorem bind (h : WaitsFor x w t req) : WaitsFor (x >>= f) w t req := by
  obtain ⟨w', events, hx, ht⟩ := h
  exact ⟨w', events, bind_of_waiting hx, ht⟩

theorem after {a : α} {l : List FtpEvent} (hx : x w = (.ok a, w1))
    (ht : w1.trace = w.trace ++ l) (h : WaitsFor (f a) w1 t req) :
    WaitsFor (x >>= f) w t req := by
  obtain ⟨w', events, hf, ht'⟩ := h
  refine ⟨w', l ++ events, by rw [bind_of_ok hx, hf], ?_⟩
  rw [ht', ht, List.append_assoc w.trace]

theorem attempt (h : WaitsFor x w t req) : WaitsFor (attempt x) w t req := by
  obtain ⟨w', events, hx, ht⟩ := h
  exact ⟨w', events, attempt_of_waiting hx, ht⟩

theorem withContext {text : String} (h : WaitsFor x w t req) :
    WaitsFor (withContext text x) w t req := h.attempt.bind

theorem withTargetLock (h : WaitsFor x { w with trace := w.trace ++ [.locked t] } t req) :
    WaitsFor (withTargetLock t x) w t req :=
  after ((note_ok (u := ())).mpr rfl) rfl h.attempt.bind

/-- Nothing arrives: the request is sent and waited for. -/
theorem sendAndReceive (hub : w.hubAnswers = []) (hin : w.inbox = []) :
    WaitsFor (sendAndReceive t req) w t req := by
  have hsub : subscribe w = (.ok (), w) := by
    unfold subscribe
    rw [hub]
  refine after (l := []) hsub (List.append_nil _).symm ?_
  refine ⟨{ w with trace := w.trace ++ [.sent (buildFtpMessage t req)] }, [], ?_, ?_⟩
  · have hsent : sendFtpMessage t req w =
        (.ok (), { w with trace := w.trace ++ [.sent (buildFtpMessage t req)] }) := rfl
    refine (bind_of_ok hsent).trans (bind_of_waiting ?_)
    simp [awaitFtp, hin, recvFtp]
  · rw [List.append_nil]

theorem dataOperation {opcode : FtpOpcode} {data : List UInt8} {offset : UInt32}
    {finish : FtpPayload → Client α} (hub : w.hubAnswers = []) (hin : w.inbox = []) :
    WaitsFor (dataOperation t opcode data offset finish) w t
      (pathRequest opcode data offset w.seqNumber) := by
  have hreq : ∀ w', dataRequest opcode data offset w' = (.ok (pathRequest opcode data offset
      w'.seqNumber), { w' with seqNumber := w'.seqNumber + 1 }) := fun _ => rfl
  refine withTargetLock (after (l := []) (hreq _) (List.append_nil _).symm (bind ?_))
  exact sendAndReceive hub hin

end WaitsFor

/-- The vehicle answers a ResetSessions, and then nothing more. -/
def resetAnswered (t : Target) : World where
  seqNumber := 0
  hubAnswers := []
  inbox := [packet t (serverAck 1 .resetSessions 0 0 [])]
  trace := []

theorem resetSessions_answered (t : Target) (text : String) (l : List FtpEvent) :
    ∃ events, withContext text (resetSessions t) { resetAnswered t with trace := l } =
      (.ok (), { seqNumber := 1, hubAnswers := [], inbox := [], trace := l ++ events }) := by
  let req := FtpPayload.newRequest .resetSessions 0
  let resp := serverAck 1 .resetSessions 0 0 []
  let inbox := (resetAnswered t).inbox
  let sent := l ++ [.sent (buildFtpMessage t req)]
  let done := sent ++ [.accepted req resp]
  refine ⟨[.sent (buildFtpMessage t req), .accepted req resp], ?_⟩
  have hawait : awaitFtp t (some 0) ⟨1, [], inbox, sent⟩ = (.ok (.reply resp), ⟨1, [], [], sent⟩) :=
    awaitFtp_ok.mpr ⟨[], recvFtp_packet (by decide) (by decide) (by decide), rfl⟩
  have hsend : sendAndReceive t req ⟨1, [], inbox, l⟩ = (.ok resp, ⟨1, [], [], done⟩) := by
    have hsub : subscribe ⟨1, [], inbox, l⟩ = (.ok (), ⟨1, [], inbox, l⟩) := rfl
    have hsent : sendFtpMessage t req ⟨1, [], inbox, l⟩ = (.ok (), ⟨1, [], inbox, sent⟩) := rfl
    exact (bind_of_ok hsub).trans ((bind_of_ok hsent).trans ((bind_of_ok hawait).trans rfl))
  have hreset : resetSessions t ⟨0, [], inbox, l⟩ = (.ok (), ⟨1, [], [], done⟩) := by
    have hreq : newRequest .resetSessions ⟨0, [], inbox, l⟩ = (.ok req, ⟨1, [], inbox, l⟩) := rfl
    exact (bind_of_ok hreq).trans ((bind_of_ok hsend).trans rfl)
  have hdone : done = l ++ [.sent (buildFtpMessage t req), .accepted req resp] :=
    List.append_assoc _ _ _
  rw [hdone] at hreset
  exact (bind_of_ok (attempt_ok.mpr hreset)).trans rfl

/-- **Every operation sends its path request in some run.** -/
theorem waitsFor_run (op : PathOperation) (t : Target) :
    ∃ w req, w.trace = [] ∧ WaitsFor (op.run t) w t req ∧ req.opcode = op.opcode := by
  have one : ∀ (opcode : FtpOpcode) (name : List UInt8) (offset : UInt32) {α : Type}
      (finish : FtpPayload → Client α),
      WaitsFor (dataOperation t opcode name offset finish) ⟨0, [], [], []⟩ t
        (pathRequest opcode name offset 0) := fun _ _ _ _ _ => .dataOperation rfl rfl
  cases op with
  | removeFile path => exact ⟨_, _, rfl, one .removeFile path 0 _, rfl⟩
  | createDirectory path => exact ⟨_, _, rfl, one .createDirectory path 0 _, rfl⟩
  | removeDirectory path => exact ⟨_, _, rfl, one .removeDirectory path 0 _, rfl⟩
  | truncateFile path offset => exact ⟨_, _, rfl, one .truncateFile path offset _, rfl⟩
  | rename source dest => exact ⟨_, _, rfl, one .rename _ 0 _, rfl⟩
  | calcCrc32 path => exact ⟨_, _, rfl, (one .calcFileCRC32 path 0 _).bind, rfl⟩
  | listDirectoryEntries path =>
      refine ⟨⟨0, [], [], []⟩, pathRequest .listDirectory path 0 0, rfl, ?_, rfl⟩
      refine WaitsFor.bind (.withTargetLock ?_)
      have hreq : ∀ w', dataRequest .listDirectory path 0 w' = (.ok (pathRequest .listDirectory
          path 0 w'.seqNumber), { w' with seqNumber := w'.seqNumber + 1 }) := fun _ => rfl
      exact .after (l := []) (hreq _) rfl (WaitsFor.sendAndReceive rfl rfl).bind
  | readFile path progress maxSize =>
      obtain ⟨events, hreset⟩ :=
        resetSessions_answered t "ResetSessions failed before OpenFileRO" [.locked t]
      refine ⟨resetAnswered t, pathRequest .openFileRO path 0 1, rfl, ?_, rfl⟩
      refine WaitsFor.bind (.withTargetLock (WaitsFor.bind (.after hreset rfl ?_)))
      have hreq : ∀ w', dataRequest .openFileRO path 0 w' = (.ok (pathRequest .openFileRO path 0
          w'.seqNumber), { w' with seqNumber := w'.seqNumber + 1 }) := fun _ => rfl
      exact .after (l := []) (hreq _) (List.append_nil _).symm
        (WaitsFor.withContext (.sendAndReceive rfl rfl)).bind
  | writeFile path data =>
      obtain ⟨events, hreset⟩ :=
        resetSessions_answered t "ResetSessions failed before CreateFile" [.locked t]
      refine ⟨resetAnswered t, pathRequest .createFile path 0 1, rfl, ?_, rfl⟩
      refine .withTargetLock (.after hreset rfl ?_)
      have hreq : ∀ w', dataRequest .createFile path 0 w' = (.ok (pathRequest .createFile path 0
          w'.seqNumber), { w' with seqNumber := w'.seqNumber + 1 }) := fun _ => rfl
      exact .after (l := []) (hreq _) (List.append_nil _).symm
        (WaitsFor.withContext (.sendAndReceive rfl rfl)).bind

/-! ## 4. The paths that arrive whole -/

/-- **Requests name the caller's file exactly for names up to 239 bytes.** A longer name is cut,
    or its length wraps at 256, and the operation goes on with what is left. -/
theorem namesFile_iff (op : PathOperation) (t : Target) :
    (∀ w, NamesFile op t w) ↔ op.name.length ≤ 239 := by
  have carried : ∀ w (e : FtpEvent), e ∈ eventsOf (op.run t) w →
      Reads (Carries op.opcode op.name) e := fun w e he => eventsOf_emits (emits_run op t) he
  constructor
  · intro hall
    obtain ⟨w, req, htrace, ⟨w', events, hrun, hsent⟩, hop⟩ := waitsFor_run op t
    have hmem : .sent (buildFtpMessage t req) ∈ eventsOf (op.run t) w := by
      rw [eventsOf, hrun, hsent, htrace]
      exact List.mem_append_right _ (List.mem_singleton_self _)
    have hread := List.mem_filterMap.mpr ⟨_, hmem, requestRead_sent t req⟩
    exact (read_carries (carried w _ hmem) (requestRead_sent t req) hop).mp (hall w _ hread hop)
  · intro hfit w req hreq hop
    obtain ⟨e, he, hread⟩ := List.mem_filterMap.mp hreq
    exact (read_carries (carried w e he) hread hop).mpr hfit

/-- **A path of 257 letters `a` is removed as the file `a`.** -/
theorem removeFile_otherName :
    ¬ ∀ (op : PathOperation) (t : Target) (w : World), op.NulFree → NamesFile op t w := by
  intro hall
  have hread : requestsRead ((PathOperation.removeFile (List.replicate 257 97)).run ⟨1, 1⟩)
      ⟨0, [], [], []⟩ =
        [{ FtpPayload.newRequest .removeFile 0 with size := 1, data := [97] }] := by
    decide +kernel
  have hnul : (PathOperation.removeFile (List.replicate 257 97)).NulFree := by
    show (0 : UInt8) ∉ List.replicate 257 97
    rw [List.mem_replicate]
    decide
  have hnamed := hall (.removeFile (List.replicate 257 97)) ⟨1, 1⟩ ⟨0, [], [], []⟩ hnul
  unfold NamesFile at hnamed
  rw [hread] at hnamed
  have hlen := congrArg List.length (hnamed _ (List.mem_singleton_self _) rfl)
  have hname : (PathOperation.removeFile (List.replicate 257 97)).name.length = 257 :=
    List.length_replicate
  rw [hname, List.length_take] at hlen
  exact absurd hlen (by decide)

end MavlinkServer.Ftp
