/-
  File:      MavlinkServer/Tlog/Progress.lean
  Subject:   THE TWO LOOPS OF PLAYING A LOG (`TlogReader::handle_file` in
             `src/lib/drivers/tlog/reader.rs`), AND THAT THEY END.

  `Tlog/Reader` has the loop byte by byte, with a reader of which it is known
  where it finds its frames. Here the loops are as they stand, one in the other,
  with the assertion on the start byte, and of the reader it is known only that
  it goes forward.

  * `FrameReader` -- what the loops rely on;
  * `searchStep`, `search` -- the inner loop; `turn` -- the outer one, once;
    `fileLoop` -- the outer loop;
  * `Advances` -- at least one byte of the file was consumed;
  * **`handleFile_progress`** -- every iteration advances or is the last, the
    assertion holds, and the loops end on every file;
  * `fileLoop_handleFile` -- they play what `handleFile` plays.
-/
import MavlinkServer.Tlog.Replay

namespace MavlinkServer.Tlog

open Lib Drivers

/-! ## 1. The loops -/

/-- What the loops rely on: reading a frame from its start byte on consumes that byte at least,
    whatever comes of it, and a frame that is read has that byte. -/
structure FrameReader where
  /-- `read_v2_raw_message_async` -/
  readV2RawMessage : PeekReader → Except MessageReadError (List UInt8) × PeekReader
  read_forward : ∀ r, r.bytes.head? = some magicV2 → ∃ k buffered, 0 < k ∧
    k + buffered ≤ r.bytes.length ∧
    (readV2RawMessage r).2 = ⟨r.bytes.drop k, buffered, r.position + k⟩
  read_frame : ∀ r frame, (readV2RawMessage r).1 = .ok frame → frame ≠ []
  /-- `Packet::from` -/
  packet : List UInt8 → Packet
  /-- `DateTime::from_timestamp_micros` gives a time -/
  fromTimestampMicros : UInt64 → Bool

inductive Search where
  /-- `peek_exact` has failed, and `?` leaves both loops -/
  | failed (e : MessageReadError)
  | skipped (r : PeekReader)
  /-- the eight bytes in front of a start byte -/
  | found (bytes : List UInt8) (r : PeekReader)
  deriving DecidableEq, Repr

/-- One iteration of the inner loop. -/
def searchStep (r : PeekReader) : Search :=
  match r.peekExact 9 with
  | none => .failed .io
  | some (bytes, r) =>
      if bytes[8]? = some magicV2 then .found (bytes.take 8) r else .skipped (r.consume 1)

/-- The inner loop; `skipped` is left when the fuel is used up. -/
def search : Nat → PeekReader → Search
  | 0, r => .skipped r
  | fuel + 1, r =>
      match searchStep r with
      | .skipped r => search fuel r
      | .failed e => .failed e
      | .found bytes r => .found bytes r

inductive Turn where
  | failed (e : MessageReadError)
  /-- `assert_eq!`, or `len() - 1` below zero -/
  | panicked
  | goesOn (effects : List Effect) (r : PeekReader)
  /-- the inner loop has not ended -/
  | running
  deriving DecidableEq, Repr

section Loops

variable (m : FrameReader) (path : String) (results : Nat → List CallbackResult)

/-- What becomes of a frame: the rest of it is dropped from what was read ahead, and the message is
    counted, shown to the callbacks and, unless one objects, sent. An error is only logged. -/
def takeFrame (timestamp : UInt64) :
    Except MessageReadError (List UInt8) × PeekReader → Turn
  | (.error _, r) => .goesOn [] r
  | (.ok frame, r) =>
      if frame.length = 0 then .panicked
      else
        let message : Protocol := ⟨path, timestamp, m.packet frame⟩
        .goesOn (input message (results (r.position - frame.length))) (r.consume (frame.length - 1))

/-- One iteration of the outer loop. -/
def turn (fuel : Nat) (r : PeekReader) : Turn :=
  match search fuel r with
  | .failed e => .failed e
  | .skipped _ => .running
  | .found bytes r =>
      let usSinceEpoch := UInt64.ofNat (ofBe bytes)
      if m.fromTimestampMicros usSinceEpoch = false then .goesOn [] (r.consume 1)
      else
        -- the reader stands at the magic byte
        match (r.consume 8).peekExact 1 with
        | none => .failed .io
        | some (bytes, r) =>
            if bytes[0]? ≠ some magicV2 then .panicked
            else takeFrame m path results usSinceEpoch (m.readV2RawMessage r)

inductive LoopEnd where
  | failed (e : MessageReadError)
  | panicked
  | running
  deriving DecidableEq, Repr

/-- What the outer loop does, and how it ends. -/
def fileLoop : Nat → PeekReader → List Effect × LoopEnd
  | 0, _ => ([], .running)
  | fuel + 1, r =>
      match turn m path results (fuel + 1) r with
      | .failed e => ([], .failed e)
      | .panicked => ([], .panicked)
      | .running => ([], .running)
      | .goesOn effects r => (effects ++ (fileLoop fuel r).1, (fileLoop fuel r).2)

end Loops

/-! ## 2. Progress -/

/-- `k` bytes of the file were consumed from one reader to the other. -/
def Moves (k : Nat) (r r' : PeekReader) : Prop :=
  k ≤ r.bytes.length ∧ r'.bytes = r.bytes.drop k ∧ r'.position = r.position + k

/-- **At least one byte of the file was consumed.** -/
def Advances (r r' : PeekReader) : Prop := ∃ k, 0 < k ∧ Moves k r r'

variable {r r' r'' : PeekReader} {k k' : Nat}

theorem Moves.trans (h : Moves k r r') (h' : Moves k' r' r'') : Moves (k + k') r r'' := by
  obtain ⟨hle, hbytes, hposition⟩ := h
  obtain ⟨hle', hbytes', hposition'⟩ := h'
  rw [hbytes, List.length_drop] at hle'
  refine ⟨by omega, ?_, ?_⟩
  · rw [hbytes', hbytes, List.drop_drop]
  · rw [hposition', hposition, Nat.add_assoc]

theorem Moves.length (h : Moves k r r') : r'.bytes.length + k = r.bytes.length := by
  obtain ⟨hle, hbytes, _⟩ := h
  rw [hbytes, List.length_drop]
  omega

theorem Advances.length_lt (h : Advances r r') : r'.bytes.length < r.bytes.length := by
  obtain ⟨k, hpos, hmoves⟩ := h
  have hlength := hmoves.length
  omega

/-- Peeking leaves the reader where it is, with so much read ahead. -/
theorem peekExact_eq_some {n : Nat} {bytes : List UInt8} (h : r.peekExact n = some (bytes, r')) :
    n ≤ r.bytes.length ∧ bytes = r.bytes.take n ∧ r' = { r with buffered := max r.buffered n } := by
  unfold PeekReader.peekExact at h
  split at h
  · rename_i hle
    cases h
    exact ⟨hle, rfl, rfl⟩
  · cases h

theorem moves_consume {n : Nat} (hbuffered : n ≤ r.buffered) (hlen : n ≤ r.bytes.length) :
    Moves n r (r.consume n) := by
  rw [consume_of_le hbuffered]
  exact ⟨hlen, rfl, rfl⟩

/-- Dropping what was read ahead goes forward, or stays where it is. -/
theorem moves_consume_min {n : Nat} (hlen : r.buffered ≤ r.bytes.length) :
    Moves (min n r.buffered) r (r.consume n) :=
  ⟨Nat.le_trans (Nat.min_le_right _ _) hlen, rfl, rfl⟩

/-- The reader at a start byte with its stamp in front, both of them read ahead. -/
structure Stamped (bytes : List UInt8) (r : PeekReader) : Prop where
  length : 9 ≤ r.bytes.length
  buffered : 9 ≤ r.buffered
  magic : r.bytes[8]? = some magicV2
  stamp : bytes = r.bytes.take 8

/-- Behind the stamp the reader stands at the start byte, which is peeked at once more. -/
theorem Stamped.peek {bytes : List UInt8} (h : Stamped bytes r) :
    Moves 8 r (r.consume 8) ∧ (r.consume 8).bytes.head? = some magicV2 ∧
      ∃ first, (r.consume 8).peekExact 1 = some (first, r.consume 8) ∧
        first[0]? = some magicV2 := by
  have hlength := h.length
  have hbuffered := h.buffered
  have hmoves : Moves 8 r (r.consume 8) := moves_consume (by omega) (by omega)
  have hleft := hmoves.length
  have hhead : (r.consume 8).bytes.head? = some magicV2 := by
    rw [hmoves.2.1, List.head?_drop]
    exact h.magic
  have hahead : max (r.consume 8).buffered 1 = (r.consume 8).buffered := by
    rw [consume_of_le (by omega)]
    show max (r.buffered - 8) 1 = r.buffered - 8
    omega
  refine ⟨hmoves, hhead, (r.consume 8).bytes.take 1, ?_, ?_⟩
  · unfold PeekReader.peekExact
    rw [if_pos (by omega), hahead]
  · rw [List.getElem?_take_of_lt Nat.one_pos, ← List.head?_eq_getElem?]
    exact hhead

/-- **One iteration of the inner loop** fails, consumes a byte, or has found a start byte. -/
theorem searchStep_progress (r : PeekReader) :
    match searchStep r with
    | .failed e => e = .io
    | .skipped r' => Advances r r'
    | .found bytes r' => Moves 0 r r' ∧ Stamped bytes r' := by
  unfold searchStep
  cases hpeek : r.peekExact 9 with
  | none => rfl
  | some peeked =>
      obtain ⟨bytes, r'⟩ := peeked
      obtain ⟨hlen, rfl, rfl⟩ := peekExact_eq_some hpeek
      have hbuffered : 9 ≤ max r.buffered 9 := Nat.le_max_right _ _
      dsimp only
      split
      · rename_i heq
        split at heq
        · cases heq
        · cases heq
      · rename_i r' heq
        split at heq
        · cases heq
        · cases heq
          have hmoves : Moves 1 { r with buffered := max r.buffered 9 }
              (PeekReader.consume { r with buffered := max r.buffered 9 } 1) :=
            moves_consume (Nat.le_trans (by decide) hbuffered) (Nat.le_trans (by decide) hlen)
          exact ⟨1, Nat.one_pos, hmoves⟩
      · rename_i bytes r' heq
        split at heq
        · rename_i hmagic
          cases heq
          rw [List.getElem?_take_of_lt (by omega)] at hmagic
          refine ⟨⟨Nat.zero_le _, rfl, rfl⟩, hlen, hbuffered, hmagic, ?_⟩
          rw [List.take_take]
          rfl
        · cases heq

/-- **The inner loop** ends before its fuel does, as every iteration consumes a byte. -/
theorem search_progress (fuel : Nat) (r : PeekReader) :
    match search fuel r with
    | .failed e => e = .io
    | .skipped r' => r'.bytes.length + fuel ≤ r.bytes.length
    | .found bytes r' => (∃ k, Moves k r r') ∧ Stamped bytes r' := by
  induction fuel generalizing r with
  | zero => exact Nat.le_refl _
  | succ fuel ih =>
      have hstep := searchStep_progress r
      unfold search
      cases hs : searchStep r with
      | failed e =>
          rw [hs] at hstep
          exact hstep
      | skipped r' =>
          rw [hs] at hstep
          have hless := hstep.length_lt
          obtain ⟨k, _, hmoves⟩ := hstep
          have hrest := ih r'
          dsimp only
          cases hr : search fuel r' with
          | failed e =>
              rw [hr] at hrest
              exact hrest
          | skipped r'' =>
              rw [hr] at hrest
              dsimp only at hrest ⊢
              omega
          | found bytes r'' =>
              rw [hr] at hrest
              obtain ⟨⟨k', hmoves'⟩, hstamped⟩ := hrest
              exact ⟨⟨k + k', hmoves.trans hmoves'⟩, hstamped⟩
      | found bytes r' =>
          rw [hs] at hstep
          exact ⟨⟨0, hstep.1⟩, hstep.2⟩

section Turns

variable (m : FrameReader) (path : String) (results : Nat → List CallbackResult)

/-- From a start byte on, whatever is read, the loop goes on and the start byte is consumed. -/
theorem takeFrame_progress (timestamp : UInt64) (hmagic : r.bytes.head? = some magicV2) :
    ∃ effects r', takeFrame m path results timestamp (m.readV2RawMessage r) = .goesOn effects r' ∧
      Advances r r' := by
  obtain ⟨k, buffered, hpos, hle, hread⟩ := m.read_forward r hmagic
  cases hm : m.readV2RawMessage r with
  | mk result r' =>
      rw [hm] at hread
      obtain rfl : r' = ⟨r.bytes.drop k, buffered, r.position + k⟩ := hread
      have hmoves : Moves k r ⟨r.bytes.drop k, buffered, r.position + k⟩ :=
        ⟨by omega, rfl, rfl⟩
      cases result with
      | error e => exact ⟨[], _, rfl, k, hpos, hmoves⟩
      | ok frame =>
          have hne : frame ≠ [] := m.read_frame r frame (by rw [hm])
          have hlength : frame.length ≠ 0 := fun h => hne (List.eq_nil_of_length_eq_zero h)
          unfold takeFrame
          dsimp only
          rw [if_neg hlength]
          have hleft : buffered ≤ (r.bytes.drop k).length := by
            rw [List.length_drop]
            omega
          have hrest := moves_consume_min (r := ⟨r.bytes.drop k, buffered, r.position + k⟩)
            (n := frame.length - 1) hleft
          exact ⟨_, _, rfl, _, Nat.lt_of_lt_of_le hpos (Nat.le_add_right _ _), hmoves.trans hrest⟩

/-- **One iteration of the outer loop** fails or consumes a byte. The assertion holds: the byte that
    is peeked at is the one that the inner loop has found. -/
theorem turn_progress (fuel : Nat) (r : PeekReader) :
    match turn m path results fuel r with
    | .failed e => e = .io
    | .panicked => False
    | .goesOn _ r' => Advances r r'
    | .running => fuel ≤ r.bytes.length := by
  have hsearch := search_progress fuel r
  unfold turn
  cases hs : search fuel r with
  | failed e =>
      rw [hs] at hsearch
      exact hsearch
  | skipped r' =>
      rw [hs] at hsearch
      exact Nat.le_trans (Nat.le_add_left _ _) hsearch
  | found bytes r' =>
      rw [hs] at hsearch
      obtain ⟨⟨k, hmoves⟩, hstamped⟩ := hsearch
      have hlength := hstamped.length
      have hbuffered := hstamped.buffered
      dsimp only
      by_cases htime : m.fromTimestampMicros (UInt64.ofNat (ofBe bytes)) = false
      · rw [if_pos htime]
        have hone : Moves 1 r' (r'.consume 1) := moves_consume (by omega) (by omega)
        exact ⟨k + 1, Nat.succ_pos k, hmoves.trans hone⟩
      · obtain ⟨hstamp, hhead, first, hpeek, hfirst⟩ := hstamped.peek
        rw [if_neg htime, hpeek]
        dsimp only
        rw [if_neg (not_not.mpr hfirst)]
        obtain ⟨effects, r'', hgoes, j, hpos, hmoves'⟩ :=
          takeFrame_progress m path results (UInt64.ofNat (ofBe bytes)) hhead
        rw [hgoes]
        exact ⟨k + 8 + j, by omega, (hmoves.trans hstamp).trans hmoves'⟩

/-- **The loops end**, at the end of the file, with as much fuel as the file has bytes and one
    more. -/
theorem fileLoop_ends : ∀ (fuel : Nat) (r : PeekReader), r.bytes.length < fuel →
    (fileLoop m path results fuel r).2 = .failed .io := by
  intro fuel
  induction fuel with
  | zero => exact fun r h => absurd h (Nat.not_lt_zero _)
  | succ fuel ih =>
      intro r hfuel
      have hturn := turn_progress m path results (fuel + 1) r
      unfold fileLoop
      cases ht : turn m path results (fuel + 1) r with
      | failed e =>
          rw [ht] at hturn
          exact congrArg LoopEnd.failed hturn
      | panicked =>
          rw [ht] at hturn
          exact hturn.elim
      | goesOn effects r' =>
          rw [ht] at hturn
          have hless := hturn.length_lt
          exact ih r' (by omega)
      | running =>
          rw [ht] at hturn
          dsimp only at hturn
          omega

/-- **Playing a log always makes progress.** Every iteration of the inner loop fails, has found a
    start byte or consumes a byte; every iteration of the outer loop fails or consumes a byte, and
    its assertion holds, provided the inner loop has an iteration for every byte that is left; and
    on every file both loops end. -/
theorem handleFile_progress (m : FrameReader) (path : String)
    (results : Nat → List CallbackResult) :
    (∀ r, match searchStep r with
      | .failed _ => True
      | .skipped r' => Advances r r'
      | .found _ r' => Moves 0 r r') ∧
      (∀ r fuel, r.bytes.length < fuel →
        (∃ e, turn m path results fuel r = .failed e) ∨
          ∃ effects r', turn m path results fuel r = .goesOn effects r' ∧ Advances r r') ∧
      ∀ (file : List UInt8) (fuel : Nat), file.length < fuel →
        (fileLoop m path results fuel (.new file)).2 = .failed .io := by
  refine ⟨fun r => ?_, fun r fuel hfuel => ?_, fun file fuel hfuel => ?_⟩
  · have hstep := searchStep_progress r
    cases hs : searchStep r with
    | failed e => trivial
    | skipped r' =>
        rw [hs] at hstep
        exact hstep
    | found bytes r' =>
        rw [hs] at hstep
        exact hstep.1
  · have hturn := turn_progress m path results fuel r
    cases ht : turn m path results fuel r with
    | failed e => exact Or.inl ⟨e, rfl⟩
    | panicked =>
        rw [ht] at hturn
        exact hturn.elim
    | goesOn effects r' =>
        rw [ht] at hturn
        exact Or.inr ⟨effects, r', rfl, hturn⟩
    | running =>
        rw [ht] at hturn
        dsimp only at hturn
        omega
  · exact fileLoop_ends m path results fuel (.new file) hfuel

end Turns

/-! ## 3. The loop byte by byte -/

/-- A reader whose errors, too, come after the start byte goes forward. -/
def FrameReader.ofMavlink (m : MavlinkReader)
    (herror : ∀ r e r', r.bytes.head? = some magicV2 → m.readV2RawMessage r = (.error e, r') →
      ∃ k buffered, 0 < k ∧ k + buffered ≤ r.bytes.length ∧
        r' = ⟨r.bytes.drop k, buffered, r.position + k⟩) : FrameReader where
  readV2RawMessage := m.readV2RawMessage
  read_forward := by
    intro r hmagic
    cases hscan : scan m.frame? r.bytes with
    | none =>
        obtain ⟨e, k, buffered, hread⟩ := m.read_nothing r hscan
        obtain ⟨k', buffered', hpos, hle, hr⟩ := herror r e _ hmagic hread
        exact ⟨k', buffered', hpos, hle, by rw [hread, hr]⟩
    | some found =>
        obtain ⟨k, n⟩ := found
        have hframe := m.frame_length _ _ (scan_eq_some.mp hscan).2.1
        rw [List.length_drop] at hframe
        refine ⟨k + n, 0, by omega, by omega, ?_⟩
        rw [m.read_frame r k n hscan, Nat.add_assoc]
  read_frame := by
    intro r frame hok
    cases hscan : scan m.frame? r.bytes with
    | none =>
        obtain ⟨e, k, buffered, hread⟩ := m.read_nothing r hscan
        rw [hread] at hok
        cases hok
    | some found =>
        obtain ⟨k, n⟩ := found
        have hframe := m.frame_length _ _ (scan_eq_some.mp hscan).2.1
        rw [m.read_frame r k n hscan] at hok
        cases hok
        intro hnil
        have hlength := congrArg List.length hnil
        rw [List.length_take, List.length_nil] at hlength
        omega
  packet := m.packet
  fromTimestampMicros := m.fromTimestampMicros

section Steps

variable {m : MavlinkReader} {path : String} {results : Nat → List CallbackResult}

theorem fileStep_failed {e : MessageReadError} (h : searchStep r = .failed e) :
    fileStep m path r = .failed e := by
  unfold searchStep at h
  unfold fileStep
  cases hpeek : r.peekExact 9 with
  | none =>
      rw [hpeek] at h
      cases h
      rfl
  | some peeked =>
      rw [hpeek] at h
      dsimp only at h
      split at h
      · cases h
      · cases h

theorem fileStep_skipped (h : searchStep r = .skipped r') : fileStep m path r = .goesOn r' := by
  unfold searchStep at h
  unfold fileStep
  cases hpeek : r.peekExact 9 with
  | none => rw [hpeek] at h; cases h
  | some peeked =>
      rw [hpeek] at h
      dsimp only at h ⊢
      split at h
      · cases h
      · rename_i hmagic
        cases h
        exact if_pos hmagic

/-- From a start byte on, the step does what is behind the inner loop. -/
theorem fileStep_found (path : String) {bytes : List UInt8} (h : searchStep r = .found bytes r') :
    fileStep m path r =
      if m.fromTimestampMicros (UInt64.ofNat (ofBe bytes)) = false then .goesOn (r'.consume 1)
      else playFrame m path (UInt64.ofNat (ofBe bytes)) (m.readV2RawMessage (r'.consume 8)) := by
  unfold searchStep at h
  unfold fileStep
  cases hpeek : r.peekExact 9 with
  | none => rw [hpeek] at h; cases h
  | some peeked =>
      rw [hpeek] at h
      dsimp only at h ⊢
      split at h
      · rename_i hmagic
        cases h
        rw [if_neg (not_not.mpr hmagic)]
        rfl
      · cases h

/-- The inner loop is some steps that only drop bytes, up to where it ends. -/
theorem search_steps (m : MavlinkReader) (path : String) (fuel : Nat) (r : PeekReader) :
    match search fuel r with
    | .failed e => ∃ n, ∀ rest, handleFile m path (rest + n + 1) r = ([], .failed e)
    | .skipped _ => True
    | .found bytes r' => ∃ n r₀, searchStep r₀ = .found bytes r' ∧
        ∀ rest, handleFile m path (rest + n) r = handleFile m path rest r₀ := by
  induction fuel generalizing r with
  | zero => trivial
  | succ fuel ih =>
      unfold search
      cases hs : searchStep r with
      | failed e =>
          refine ⟨0, fun rest => ?_⟩
          rw [handleFile, fileStep_failed hs]
      | skipped r' =>
          have hrest := ih r'
          dsimp only
          cases hr : search fuel r' with
          | failed e =>
              rw [hr] at hrest
              obtain ⟨n, hn⟩ := hrest
              refine ⟨n + 1, fun rest => ?_⟩
              rw [handleFile, fileStep_skipped hs]
              exact hn rest
          | skipped r'' => trivial
          | found bytes r'' =>
              rw [hr] at hrest
              obtain ⟨n, r₀, hfound, hn⟩ := hrest
              refine ⟨n + 1, r₀, hfound, fun rest => ?_⟩
              rw [← Nat.add_assoc, handleFile, fileStep_skipped hs]
              exact hn rest
      | found bytes r' => exact ⟨0, r, hs, fun rest => rfl⟩

variable (herror : ∀ r e r', r.bytes.head? = some magicV2 →
  m.readV2RawMessage r = (.error e, r') → ∃ k buffered, 0 < k ∧ k + buffered ≤ r.bytes.length ∧
    r' = ⟨r.bytes.drop k, buffered, r.position + k⟩)

/-- Behind a start byte, the turn and the step do the same with what is read. -/
theorem takeFrame_playFrame (timestamp : UInt64)
    (hstep : fileStep m path r' = playFrame m path timestamp (m.readV2RawMessage r)) :
    ∃ effects r'' played, takeFrame (.ofMavlink m herror) path results timestamp
        (m.readV2RawMessage r) = .goesOn effects r'' ∧
      effects = played.flatMap (Played.effects results) ∧
      ∀ rest, handleFile m path (rest + 1) r' =
        (played ++ (handleFile m path rest r'').1, (handleFile m path rest r'').2) := by
  cases hread : m.readV2RawMessage r with
  | mk result r₁ =>
      cases result with
      | error e =>
          refine ⟨[], r₁, [], rfl, rfl, fun rest => ?_⟩
          rw [handleFile, hstep, hread]
          rfl
      | ok frame =>
          have hframe : ((FrameReader.ofMavlink m herror).readV2RawMessage r).1 = .ok frame :=
            congrArg Prod.fst hread
          have hne : frame.length ≠ 0 := fun h =>
            FrameReader.read_frame (.ofMavlink m herror) r frame hframe
              (List.eq_nil_of_length_eq_zero h)
          refine ⟨_, _, [⟨r₁.position - frame.length, ⟨path, timestamp, m.packet frame⟩⟩],
            if_neg hne, (List.append_nil _).symm, fun rest => ?_⟩
          rw [handleFile, hstep, hread]
          rfl

/-- **A turn is some steps.** -/
theorem turn_steps (path : String) (results : Nat → List CallbackResult) (fuel : Nat)
    (r : PeekReader) :
    match turn (.ofMavlink m herror) path results fuel r with
    | .failed e => ∃ n, ∀ rest, handleFile m path (rest + n + 1) r = ([], .failed e)
    | .goesOn effects r' => ∃ n played,
        effects = played.flatMap (Played.effects results) ∧
        ∀ rest, handleFile m path (rest + n + 1) r =
          (played ++ (handleFile m path rest r').1, (handleFile m path rest r').2)
    | .panicked | .running => True := by
  have hsteps := search_steps m path fuel r
  have hsearch := search_progress fuel r
  unfold turn
  cases hs : search fuel r with
  | failed e =>
      rw [hs] at hsteps
      exact hsteps
  | skipped r' => trivial
  | found bytes r' =>
      rw [hs] at hsteps hsearch
      obtain ⟨n, r₀, hfound, hn⟩ := hsteps
      obtain ⟨_, hstamped⟩ := hsearch
      have hstep : fileStep m path r₀ = _ := fileStep_found path hfound
      dsimp only
      by_cases htime : m.fromTimestampMicros (UInt64.ofNat (ofBe bytes)) = false
      · have hbad : (FrameReader.ofMavlink m herror).fromTimestampMicros
            (UInt64.ofNat (ofBe bytes)) = false := htime
        rw [if_pos htime] at hstep
        rw [if_pos hbad]
        refine ⟨n, [], rfl, fun rest => ?_⟩
        rw [Nat.add_right_comm, hn, handleFile, hstep]
        rfl
      · have hgood : ¬ (FrameReader.ofMavlink m herror).fromTimestampMicros
            (UInt64.ofNat (ofBe bytes)) = false := htime
        obtain ⟨_, _, first, hpeek, hfirst⟩ := hstamped.peek
        rw [if_neg htime] at hstep
        rw [if_neg hgood, hpeek]
        dsimp only
        rw [if_neg (not_not.mpr hfirst)]
        obtain ⟨effects, r'', played, hgoes, heffects, hplays⟩ :=
          takeFrame_playFrame herror (UInt64.ofNat (ofBe bytes)) hstep
        have hturn : takeFrame (.ofMavlink m herror) path results (UInt64.ofNat (ofBe bytes))
            ((FrameReader.ofMavlink m herror).readV2RawMessage (r'.consume 8)) =
              .goesOn effects r'' := hgoes
        rw [hturn]
        refine ⟨n, played, heffects, fun rest => ?_⟩
        rw [Nat.add_right_comm, hn]
        exact hplays rest

/-- **The two loops play what the loop byte by byte plays.** -/
theorem fileLoop_handleFile : ∀ (fuel : Nat) (r : PeekReader) (effects : List Effect)
    (e : MessageReadError),
    fileLoop (.ofMavlink m herror) path results fuel r = (effects, .failed e) →
      ∃ n played, handleFile m path n r = (played, .failed e) ∧
        effects = played.flatMap (Played.effects results) := by
  intro fuel
  induction fuel with
  | zero =>
      intro r effects e h
      cases h
  | succ fuel ih =>
      intro r effects e h
      have hsteps := turn_steps herror path results (fuel + 1) r
      unfold fileLoop at h
      cases ht : turn (.ofMavlink m herror) path results (fuel + 1) r with
      | failed e' =>
          rw [ht] at h hsteps
          cases h
          obtain ⟨n, hn⟩ := hsteps
          exact ⟨_, [], hn 0, rfl⟩
      | panicked => rw [ht] at h; cases h
      | running => rw [ht] at h; cases h
      | goesOn effects' r' =>
          rw [ht] at h hsteps
          obtain ⟨n, played, heffects, hn⟩ := hsteps
          dsimp only at h
          cases hrest : fileLoop (.ofMavlink m herror) path results fuel r' with
          | mk effects'' loopEnd =>
              rw [hrest] at h
              cases h
              obtain ⟨n', played', hplays, heffects'⟩ := ih r' effects'' e hrest
              refine ⟨n' + n + 1, played ++ played', ?_, ?_⟩
              · rw [hn, hplays]
              · rw [List.flatMap_append, heffects, heffects']

omit herror in
/-- More fuel changes nothing once the end is reached. -/
theorem handleFile_more {e : MessageReadError} (extra : Nat) :
    ∀ (fuel : Nat) (r : PeekReader) {played : List Played},
      handleFile m path fuel r = (played, .failed e) →
        handleFile m path (fuel + extra) r = (played, .failed e) := by
  intro fuel
  induction fuel with
  | zero =>
      intro r played h
      cases h
  | succ fuel ih =>
      intro r played h
      rw [Nat.add_right_comm]
      unfold handleFile at h ⊢
      cases hstep : fileStep m path r with
      | failed e' =>
          rw [hstep] at h
          exact h
      | goesOn r' =>
          rw [hstep] at h
          exact ih r' h
      | plays p r' =>
          rw [hstep] at h
          dsimp only at h ⊢
          cases hrest : handleFile m path fuel r' with
          | mk played' fileEnd =>
              rw [hrest] at h
              cases h
              rw [ih r' hrest]

/-- **On every file** the two loops do what is done with the messages that `playFile` plays. -/
theorem fileLoop_playFile (file : List UInt8) :
    (fileLoop (.ofMavlink m herror) path results (file.length + 1) (.new file)).1 =
      (playFile m path file).1.flatMap (Played.effects results) := by
  have hend := fileLoop_ends (.ofMavlink m herror) path results (file.length + 1) (.new file)
    (Nat.lt_succ_self _)
  cases hloop : fileLoop (.ofMavlink m herror) path results (file.length + 1) (.new file) with
  | mk effects loopEnd =>
      rw [hloop] at hend
      obtain rfl : loopEnd = .failed .io := hend
      obtain ⟨n, played, hplays, rfl⟩ := fileLoop_handleFile herror _ _ _ _ hloop
      have hfile : handleFile m path (file.length + 1) (.new file) =
          ((playFile m path file).1, .failed .io) :=
        Prod.ext rfl (playFile_fails file)
      have hsame := (handleFile_more (file.length + 1) n (.new file) hplays).symm.trans
        (Nat.add_comm n _ ▸ handleFile_more n (file.length + 1) (.new file) hfile)
      cases hsame
      rfl

end Steps

/-- The reader that knows heartbeats goes forward. -/
def heartbeatFrames : FrameReader := .ofMavlink heartbeatReader fun r e r' hmagic hread => by
  have hpos : 0 < r.bytes.length := by
    cases hb : r.bytes with
    | nil => rw [hb] at hmagic; cases hmagic
    | cons b bytes => exact Nat.succ_pos _
  have hread' : readFirstFrame heartbeatFrame? r = (.error e, r') := hread
  unfold readFirstFrame at hread'
  split at hread'
  · cases hread'
  · cases hread'
    exact ⟨r.bytes.length, 0, hpos, Nat.le_refl _, rfl⟩

theorem handleFile_progress_magic :
    (fileLoop heartbeatFrames "flight.tlog" (fun _ => []) 10
      (.new [0, 0, 0, 0, 0, 0, 0, 0, 0xFD])).2 = .failed .io :=
  (handleFile_progress heartbeatFrames "flight.tlog" fun _ => []).2.2 _ 10 (by decide)

end MavlinkServer.Tlog
