/-
  File:      MavlinkServer/Tlog/Reader.lean
  Subject:   PLAYING A LOG (`TlogReader::handle_file` in
             `src/lib/drivers/tlog/reader.rs`).

  * `PeekReader` -- the reader with its look-ahead: what is left of the file,
    how much of it is buffered and how much was consumed;
  * `MavlinkReader` -- what the loop relies on: which bytes are a frame, how a
    frame is read, which timestamps are accepted;
  * `fileStep` -- the loop up to its next turn: a byte is dropped, a message is
    played, or the file is at its end;
  * `handleFile` -- the loop. It ends with an error, always (`playFile_fails`);
  * `Replays` -- what it plays, as a search for a stamp and a search for a
    frame; `handleFile_replays` connects the two.
-/
import MavlinkServer.Lib.LittleEndian
import MavlinkServer.Lib.Scan
import MavlinkServer.Drivers.GenericTasks

namespace MavlinkServer.Tlog

open Lib Drivers

/-! ## 1. The reader -/

/-- `AsyncPeekReader`. -/
structure PeekReader where
  /-- what has not been consumed -/
  bytes : List UInt8
  /-- how much of it has been read ahead -/
  buffered : Nat
  /-- how much was consumed -/
  position : Nat
  deriving DecidableEq, Repr

namespace PeekReader

def new (file : List UInt8) : PeekReader := ⟨file, 0, 0⟩

/-- `peek_exact`; it fails when the file has fewer bytes left. -/
def peekExact (r : PeekReader) (n : Nat) : Option (List UInt8 × PeekReader) :=
  if n ≤ r.bytes.length then some (r.bytes.take n, { r with buffered := max r.buffered n })
  else none

/-- `consume` drops no more than has been read ahead. -/
def consume (r : PeekReader) (n : Nat) : PeekReader where
  bytes := r.bytes.drop (min n r.buffered)
  buffered := r.buffered - min n r.buffered
  position := r.position + min n r.buffered

end PeekReader

/-- `MessageReadError`; of an IO error the loop does not look at more. -/
inductive MessageReadError where
  | io
  | parse
  deriving DecidableEq, Repr

def magicV1 : UInt8 := 0xFE

/-- `mavlink::MAV_STX_V2` -/
def magicV2 : UInt8 := 0xFD

/-- What the loop relies on: the frames of the protocol, the packet that a frame is, reading a frame
    and converting a time. Reading skips to the first byte that starts a frame and leaves the reader
    just behind that frame; without one the reader comes to the end of the file. -/
structure MavlinkReader where
  /-- the length of the MAVLink 2 frame with a valid CRC that the bytes start with -/
  frame? : List UInt8 → Option Nat
  frame_magic : ∀ bytes n, frame? bytes = some n → bytes.head? = some magicV2
  frame_length : ∀ bytes n, frame? bytes = some n → 0 < n ∧ n ≤ bytes.length
  frame_append : ∀ bytes more n, frame? bytes = some n → frame? (bytes ++ more) = some n
  /-- `Packet::from` -/
  packet : List UInt8 → Packet
  packet_bytes : ∀ frame, (packet frame).bytes = frame
  /-- `read_v2_raw_message_async` -/
  readV2RawMessage : PeekReader → Except MessageReadError (List UInt8) × PeekReader
  read_frame : ∀ r k n, scan frame? r.bytes = some (k, n) →
    readV2RawMessage r = (.ok ((r.bytes.drop k).take n), ⟨r.bytes.drop (k + n), 0, r.position + k + n⟩)
  read_nothing : ∀ r, scan frame? r.bytes = none → ∃ e k buffered,
    readV2RawMessage r = (.error e, ⟨r.bytes.drop k, buffered, r.position + k⟩)
  /-- `DateTime::from_timestamp_micros` gives a time -/
  fromTimestampMicros : UInt64 → Bool

/-! ## 2. The loop -/

/-- A message that the loop plays, and where its frame starts in the file. -/
structure Played where
  offset : Nat
  message : Protocol
  deriving DecidableEq, Repr

inductive FileStep where
  /-- `peek_exact` has failed, and `?` leaves the loop -/
  | failed (e : MessageReadError)
  | goesOn (r : PeekReader)
  | plays (p : Played) (r : PeekReader)
  deriving DecidableEq, Repr

def timestampOf (bytes : List UInt8) : UInt64 := .ofNat (ofBe (bytes.take 8))

section Loop

variable (m : MavlinkReader) (path : String)

/-- The message is played, with the time of the stamp; the bytes that are still read ahead are no
    part of it. -/
def playFrame (timestamp : UInt64) :
    Except MessageReadError (List UInt8) × PeekReader → FileStep
  | (.ok frame, r) =>
      .plays ⟨r.position - frame.length, ⟨path, timestamp, m.packet frame⟩⟩
        (r.consume (frame.length - 1))
  | (.error _, r) => .goesOn r

def fileStep (r : PeekReader) : FileStep :=
  match r.peekExact 9 with
  | none => .failed .io
  | some (bytes, r) =>
      if bytes[8]? ≠ some magicV2 then .goesOn (r.consume 1)
      else if m.fromTimestampMicros (timestampOf bytes) = false then .goesOn (r.consume 1)
      else
        -- the reader stands at the magic byte
        playFrame m path (timestampOf bytes) (m.readV2RawMessage (r.consume 8))

inductive FileEnd where
  | failed (e : MessageReadError)
  | running
  deriving DecidableEq, Repr

/-- The messages that the loop plays, and how it ends. -/
def handleFile : Nat → PeekReader → List Played × FileEnd
  | 0, _ => ([], .running)
  | fuel + 1, r =>
      match fileStep m path r with
      | .failed e => ([], .failed e)
      | .goesOn r => handleFile fuel r
      | .plays p r => (p :: (handleFile fuel r).1, (handleFile fuel r).2)

/-- What the loop plays of a file: every turn consumes a byte. -/
def playFile (file : List UInt8) : List Played × FileEnd :=
  handleFile m path (file.length + 1) (.new file)

end Loop

/-- What playing a message does, with the results of the callbacks for the message at that offset. -/
def Played.effects (results : Nat → List CallbackResult) (p : Played) : List Effect :=
  input p.message (results p.offset)

/-- What goes into the hub. -/
def sentOf (results : Nat → List CallbackResult) (played : List Played) : List Played :=
  played.filter fun p => !vetoed (results p.offset)

theorem sentOf_effects (results : Nat → List CallbackResult) (played : List Played) :
    (played.flatMap (Played.effects results)).filterMap Effect.sent? =
      (sentOf results played).map (·.message) := by
  induction played with
  | nil => rfl
  | cons p played ih =>
      rw [List.flatMap_cons, List.filterMap_append, ih, Played.effects, sent?_input]
      simp only [sentOf, List.filter_cons]
      cases vetoed (results p.offset) <;> rfl

/-! ## 3. What the loop plays -/

section Replay

/-- The time in front of a magic byte, when the bytes start with one that is accepted. -/
def MavlinkReader.stamp? (m : MavlinkReader) (bytes : List UInt8) : Option UInt64 :=
  if bytes[8]? = some magicV2 ∧ m.fromTimestampMicros (timestampOf bytes) = true then
    some (timestampOf bytes)
  else none

variable {m : MavlinkReader} {path : String}

/-- **Replays**: the next stamp is looked for, from there the next frame, and so on behind it. -/
inductive Replays (m : MavlinkReader) (path : String) : Nat → List UInt8 → List Played → Prop where
  | unstamped (position : Nat) (bytes : List UInt8) (hs : scan m.stamp? bytes = none) :
      Replays m path position bytes []
  | noFrame (position : Nat) (bytes : List UInt8) (p : Nat) (timestamp : UInt64)
      (hs : scan m.stamp? bytes = some (p, timestamp))
      (hf : scan m.frame? (bytes.drop (p + 8)) = none) : Replays m path position bytes []
  | plays (position : Nat) (bytes : List UInt8) (p k n : Nat) (timestamp : UInt64)
      (played : List Played) (hs : scan m.stamp? bytes = some (p, timestamp))
      (hf : scan m.frame? (bytes.drop (p + 8)) = some (k, n))
      (hrest : Replays m path (position + (p + 8 + k + n)) (bytes.drop (p + 8 + k + n)) played) :
      Replays m path position bytes
        (⟨position + (p + 8 + k),
          ⟨path, timestamp, m.packet ((bytes.drop (p + 8 + k)).take n)⟩⟩ :: played)

/-- A byte that starts no stamp is skipped. -/
theorem Replays.skip {position : Nat} {b : UInt8} {bytes : List UInt8} {played : List Played}
    (hmiss : m.stamp? (b :: bytes) = none) (h : Replays m path (position + 1) bytes played) :
    Replays m path position (b :: bytes) played := by
  have hscan := scan_cons_miss hmiss
  cases h with
  | unstamped _ _ hs =>
      rw [hs] at hscan
      exact .unstamped _ _ hscan
  | noFrame _ _ p timestamp hs hf =>
      rw [hs] at hscan
      have hdrop : (b :: bytes).drop (p + 1 + 8) = bytes.drop (p + 8) := by
        rw [Nat.add_right_comm]
        rfl
      exact .noFrame _ _ (p + 1) timestamp hscan (hdrop ▸ hf)
  | plays _ _ p k n timestamp played hs hf hrest =>
      rw [hs] at hscan
      have hdrop : ∀ j, (b :: bytes).drop (p + 1 + 8 + j) = bytes.drop (p + 8 + j) := fun j => by
        have hj : p + 1 + 8 + j = (p + 8 + j) + 1 := by omega
        rw [hj]
        rfl
      have hrest' : Replays m path (position + (p + 1 + 8 + k + n))
          ((b :: bytes).drop (p + 1 + 8 + k + n)) played := by
        have hpos : position + (p + 1 + 8 + k + n) = position + 1 + (p + 8 + k + n) := by omega
        rw [hpos, Nat.add_assoc (p + 1 + 8), hdrop (k + n), ← Nat.add_assoc (p + 8)]
        exact hrest
      have hplays := Replays.plays position (b :: bytes) (p + 1) k n timestamp played hscan
        (by rw [hdrop 0]; exact hf) hrest'
      have hpos : position + (p + 1 + 8 + k) = position + 1 + (p + 8 + k) := by omega
      rw [hdrop k, hpos] at hplays
      exact hplays

/-- Without a frame nothing is played. -/
theorem Replays.eq_nil {position : Nat} {bytes : List UInt8} {played : List Played}
    (h : Replays m path position bytes played) (hnone : ∀ j, m.frame? (bytes.drop j) = none) :
    played = [] := by
  cases h with
  | unstamped | noFrame => rfl
  | plays _ _ p k n timestamp played hs hf hrest =>
      have hframe := (scan_eq_some.mp hf).2.1
      rw [List.drop_drop, hnone] at hframe
      cases hframe

/-- **Silent**: behind the first stamp no frame starts. -/
def Silent (m : MavlinkReader) (bytes : List UInt8) : Prop :=
  ∀ p timestamp, scan m.stamp? bytes = some (p, timestamp) →
    ∀ j, p + 8 ≤ j → m.frame? (bytes.drop j) = none

theorem Replays.eq_nil_iff {position : Nat} {bytes : List UInt8} {played : List Played}
    (h : Replays m path position bytes played) : played = [] ↔ Silent m bytes := by
  cases h with
  | unstamped _ _ hs =>
      refine ⟨fun _ p timestamp hp => ?_, fun _ => rfl⟩
      rw [hs] at hp
      cases hp
  | noFrame _ _ p timestamp hs hf =>
      refine ⟨fun _ p' timestamp' hp j hj => ?_, fun _ => rfl⟩
      rw [hs] at hp
      cases hp
      have hnone := scan_eq_none.mp hf (j - (p + 8))
      have hj' : p + 8 + (j - (p + 8)) = j := by omega
      rw [List.drop_drop, hj'] at hnone
      exact hnone
  | plays _ _ p k n timestamp played hs hf hrest =>
      refine ⟨nofun, fun hsilent => ?_⟩
      have hframe := (scan_eq_some.mp hf).2.1
      rw [List.drop_drop, hsilent p timestamp hs (p + 8 + k) (by omega)] at hframe
      cases hframe

theorem stamp?_of_length {bytes : List UInt8} (h : bytes.length < 9) : m.stamp? bytes = none := by
  have hnone : bytes[8]? = none := List.getElem?_eq_none (by omega)
  unfold MavlinkReader.stamp?
  rw [hnone, if_neg]
  rintro ⟨hmagic, _⟩
  cases hmagic

/-- The nine bytes that are peeked at decide whether there is a stamp. -/
theorem stamp?_take {bytes : List UInt8} :
    m.stamp? bytes =
      if (bytes.take 9)[8]? = some magicV2 ∧
          m.fromTimestampMicros (timestampOf (bytes.take 9)) = true then
        some (timestampOf (bytes.take 9))
      else none := by
  have hmagic : (bytes.take 9)[8]? = bytes[8]? := List.getElem?_take_of_lt (by omega)
  have htime : timestampOf (bytes.take 9) = timestampOf bytes := by
    unfold timestampOf
    rw [List.take_take]
    rfl
  rw [hmagic, htime]
  rfl

theorem consume_of_le {r : PeekReader} {n : Nat} (h : n ≤ r.buffered) :
    r.consume n = ⟨r.bytes.drop n, r.buffered - n, r.position + n⟩ := by
  unfold PeekReader.consume
  rw [Nat.min_eq_left h]

theorem consume_none {bytes : List UInt8} {position n : Nat} :
    PeekReader.consume ⟨bytes, 0, position⟩ n = ⟨bytes, 0, position⟩ := by
  unfold PeekReader.consume
  rw [Nat.min_zero]
  rfl

theorem fileStep_short {r : PeekReader} (h : r.bytes.length < 9) :
    fileStep m path r = .failed .io := by
  have hpeek : r.peekExact 9 = none := if_neg (by omega)
  unfold fileStep
  rw [hpeek]

/-- Without a stamp a byte is dropped. -/
theorem fileStep_unstamped (path : String) {r : PeekReader} (hlen : 9 ≤ r.bytes.length)
    (hstamp : m.stamp? r.bytes = none) : ∃ b bytes buffered, r.bytes = b :: bytes ∧
      fileStep m path r = .goesOn ⟨bytes, buffered, r.position + 1⟩ := by
  have hpeek : r.peekExact 9 = some (r.bytes.take 9, { r with buffered := max r.buffered 9 }) :=
    if_pos hlen
  have hstep : fileStep m path r =
      .goesOn (PeekReader.consume { r with buffered := max r.buffered 9 } 1) := by
    unfold fileStep
    rw [hpeek]
    dsimp only
    rw [stamp?_take] at hstamp
    by_cases hmagic : (r.bytes.take 9)[8]? = some magicV2
    · by_cases htime : m.fromTimestampMicros (timestampOf (r.bytes.take 9)) = true
      · rw [if_pos ⟨hmagic, htime⟩] at hstamp
        cases hstamp
      · rw [if_neg fun h => h hmagic, if_pos (Bool.not_eq_true _ ▸ htime)]
    · rw [if_pos hmagic]
  rw [consume_of_le (by show 1 ≤ max r.buffered 9; omega)] at hstep
  cases hb : r.bytes with
  | nil =>
      rw [hb] at hlen
      cases hlen
  | cons b bytes =>
      rw [hb] at hstep
      exact ⟨b, bytes, _, rfl, hstep⟩

/-- With a stamp the reader goes on from the magic byte. -/
theorem fileStep_stamped {r : PeekReader} {timestamp : UInt64} (hlen : 9 ≤ r.bytes.length)
    (hstamp : m.stamp? r.bytes = some timestamp) :
    fileStep m path r = playFrame m path timestamp
      (m.readV2RawMessage ⟨r.bytes.drop 8, max r.buffered 9 - 8, r.position + 8⟩) := by
  have hpeek : r.peekExact 9 = some (r.bytes.take 9, { r with buffered := max r.buffered 9 }) :=
    if_pos hlen
  rw [stamp?_take] at hstamp
  split at hstamp
  · rename_i h
    cases hstamp
    unfold fileStep
    rw [hpeek]
    dsimp only
    rw [if_neg fun hne => hne h.1, if_neg (by rw [h.2]; exact Bool.noConfusion),
      consume_of_le (by show 8 ≤ max r.buffered 9; omega)]
  · cases hstamp

theorem fileStep_noFrame (path : String) {r : PeekReader} {timestamp : UInt64}
    (hlen : 9 ≤ r.bytes.length)
    (hstamp : m.stamp? r.bytes = some timestamp) (hf : scan m.frame? (r.bytes.drop 8) = none) :
    ∃ k buffered, fileStep m path r =
      .goesOn ⟨r.bytes.drop (8 + k), buffered, r.position + (8 + k)⟩ := by
  obtain ⟨e, k, buffered, hread⟩ :=
    m.read_nothing ⟨r.bytes.drop 8, max r.buffered 9 - 8, r.position + 8⟩ hf
  refine ⟨k, buffered, ?_⟩
  rw [fileStep_stamped hlen hstamp, hread, List.drop_drop, Nat.add_assoc]
  rfl

theorem fileStep_plays {r : PeekReader} {timestamp : UInt64} {k n : Nat}
    (hlen : 9 ≤ r.bytes.length) (hstamp : m.stamp? r.bytes = some timestamp)
    (hf : scan m.frame? (r.bytes.drop 8) = some (k, n)) :
    fileStep m path r =
      .plays
        ⟨r.position + (8 + k), ⟨path, timestamp, m.packet ((r.bytes.drop (8 + k)).take n)⟩⟩
        ⟨r.bytes.drop (8 + k + n), 0, r.position + (8 + k + n)⟩ := by
  have hread := m.read_frame ⟨r.bytes.drop 8, max r.buffered 9 - 8, r.position + 8⟩ k n hf
  have hlength : ((r.bytes.drop (8 + k)).take n).length = n := by
    have hle := (m.frame_length _ _ (scan_eq_some.mp hf).2.1).2
    rw [List.drop_drop] at hle
    rw [List.length_take]
    omega
  have hoffset : r.position + (8 + k + n) - n = r.position + (8 + k) := by omega
  have hposition : r.position + 8 + k + n = r.position + (8 + k + n) := by omega
  rw [List.drop_drop, List.drop_drop, hposition, ← Nat.add_assoc 8 k n] at hread
  rw [fileStep_stamped hlen hstamp, hread, playFrame, hlength, hoffset, consume_none]

/-- **What the loop plays is the replay of the bytes**, and the loop ends with an error: a turn
    consumes a byte, so fuel for every byte and one more turn is enough. -/
theorem handleFile_replays : ∀ (fuel : Nat) (r : PeekReader), r.bytes.length < fuel →
    Replays m path r.position r.bytes (handleFile m path fuel r).1 ∧
      (handleFile m path fuel r).2 = .failed .io := by
  intro fuel
  induction fuel with
  | zero => exact fun r h => absurd h (Nat.not_lt_zero _)
  | succ fuel ih =>
      intro r hfuel
      unfold handleFile
      by_cases hlen : 9 ≤ r.bytes.length
      · cases hstamp : m.stamp? r.bytes with
        | none =>
            obtain ⟨b, bytes, buffered, hb, hstep⟩ := fileStep_unstamped path hlen hstamp
            rw [hb] at hfuel hstamp
            rw [hstep, hb]
            have hrest := ih ⟨bytes, buffered, r.position + 1⟩ (Nat.lt_of_succ_lt_succ hfuel)
            exact ⟨hrest.1.skip hstamp, hrest.2⟩
        | some timestamp =>
            have hscan := scan_hit hstamp
            cases hf : scan m.frame? (r.bytes.drop 8) with
            | none =>
                obtain ⟨k, buffered, hstep⟩ := fileStep_noFrame path hlen hstamp hf
                rw [hstep]
                have hshort : (r.bytes.drop (8 + k)).length < fuel := by
                  rw [List.length_drop]
                  omega
                have hrest := ih ⟨r.bytes.drop (8 + k), buffered, r.position + (8 + k)⟩ hshort
                have hnil := hrest.1.eq_nil fun j => by
                  have hnone := scan_eq_none.mp hf (k + j)
                  rw [List.drop_drop, ← Nat.add_assoc] at hnone
                  rw [List.drop_drop]
                  exact hnone
                dsimp only
                rw [hnil]
                exact ⟨.noFrame _ _ 0 timestamp hscan hf, hrest.2⟩
            | some found =>
                obtain ⟨k, n⟩ := found
                rw [fileStep_plays hlen hstamp hf]
                have hshort : (r.bytes.drop (8 + k + n)).length < fuel := by
                  rw [List.length_drop]
                  omega
                have hrest := ih ⟨r.bytes.drop (8 + k + n), 0, r.position + (8 + k + n)⟩ hshort
                have hrest' := hrest.1
                rw [← Nat.zero_add 8] at hrest' hf
                have hplays := Replays.plays r.position r.bytes 0 k n timestamp _ hscan hf hrest'
                rw [Nat.zero_add] at hplays
                exact ⟨hplays, hrest.2⟩
      · have hshort : r.bytes.length < 9 := by omega
        rw [fileStep_short hshort]
        refine ⟨.unstamped _ _ (scan_eq_none.mpr fun j => stamp?_of_length ?_), rfl⟩
        rw [List.length_drop]
        omega

theorem playFile_replays (m : MavlinkReader) (path : String) (file : List UInt8) :
    Replays m path 0 file (playFile m path file).1 :=
  (handleFile_replays _ (.new file) (Nat.lt_succ_self _)).1

/-- **The loop has no other end than an error**, which at the latest the end of the file is. -/
theorem playFile_fails (file : List UInt8) : (playFile m path file).2 = .failed .io :=
  (handleFile_replays _ (.new file) (Nat.lt_succ_self _)).2

end Replay

end MavlinkServer.Tlog
