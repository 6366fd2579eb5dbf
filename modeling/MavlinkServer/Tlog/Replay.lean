/-
  File:      MavlinkServer/Tlog/Replay.lean
  Subject:   A RECORDED LOG PLAYED AGAIN (`TlogWriter::handle_client` in
             `src/lib/drivers/tlog/writer.rs` against `TlogReader::handle_file`
             in `src/lib/drivers/tlog/reader.rs`).

  The writer puts eight bytes of time in front of every frame. The reader knows
  the frames of MAVLink 2 only, and takes the eight bytes in front of any 0xFD
  for a time.

  * `Record`, `tlogFile` -- what is recorded, and the file it makes;
  * `v2Records` -- the records of version 2 as they are to be played;
  * `Clean` -- no byte of the other records is taken for the start of one;
  * `keepsRecords_iff` -- the reader plays the records of version 2, each once
    with its own time, exactly when the log is clean;
  * `clean_of_v2` -- a log of version 2 only is;
  * `keepsRecords_mode` -- a version 1 heartbeat that is not.
-/
import MavlinkServer.Tlog.Reader

namespace MavlinkServer.Tlog

open Lib Drivers

/-! ## 1. Recorded logs -/

inductive Version where
  | v1
  | v2
  deriving DecidableEq, Repr

/-- Of a frame of version 1 the first byte is all that is asked for: the reader does not know these
    frames. -/
def Version.Frames (m : MavlinkReader) (frame : List UInt8) : Version → Prop
  | .v1 => frame.head? = some magicV1
  | .v2 => m.frame? frame = some frame.length

structure Record (m : MavlinkReader) where
  version : Version
  timestamp : UInt64
  frame : List UInt8
  accepted : m.fromTimestampMicros timestamp = true
  valid : version.Frames m frame

variable {m : MavlinkReader} {path : String}

/-- `timestamp.to_be_bytes()` and the bytes of the message. -/
def Record.bytes (r : Record m) : List UInt8 := toBe 8 r.timestamp.toNat ++ r.frame

def tlogFile (records : List (Record m)) : List UInt8 := records.flatMap Record.bytes

/-- The records of version 2, with the offset of their frame in the file. -/
def v2Records (path : String) : Nat → List (Record m) → List Played
  | _, [] => []
  | position, r :: records =>
      match r.version with
      | .v1 => v2Records path (position + r.bytes.length) records
      | .v2 =>
          ⟨position + 8, ⟨path, r.timestamp, m.packet r.frame⟩⟩ ::
            v2Records path (position + r.bytes.length) records

/-- **Keeps records**: what goes into the hub are the records of version 2, in their order, each
    once, with its time and its bytes. -/
def KeepsRecords (path : String) (results : Nat → List CallbackResult)
    (records : List (Record m)) : Prop :=
  sentOf results (playFile m path (tlogFile records)).1 = v2Records path 0 records

/-! ## 2. Clean logs -/

/-- The first stamp at or behind the start of the stretch leads to the record behind the stretch: it
    spells the time of the record, and no frame starts between the two. -/
def Leads (stretch : List UInt8) (r : Record m) (rest : List UInt8) : Prop :=
  ∀ p timestamp, scan m.stamp? (stretch ++ (r.bytes ++ rest)) = some (p, timestamp) →
    timestamp = r.timestamp ∧
      ∀ j, p + 8 ≤ j → j < stretch.length + 8 → m.frame? ((stretch ++ (r.bytes ++ rest)).drop j) = none

/-- **Clean**: every stretch of records of version 1 leads to the record of version 2 behind it, and
    the last one to nothing. -/
def Clean : List UInt8 → List (Record m) → Prop
  | stretch, [] => Silent m stretch
  | stretch, r :: records =>
      match r.version with
      | .v1 => Clean (stretch ++ r.bytes) records
      | .v2 => Leads stretch r (tlogFile records) ∧ Clean [] records

/-! ## 3. What is played of a log -/

theorem length_bytes (r : Record m) : r.bytes.length = 8 + r.frame.length := by
  rw [Record.bytes, List.length_append, length_toBe]

theorem tlogFile_cons (r : Record m) (records : List (Record m)) :
    tlogFile (r :: records) = r.bytes ++ tlogFile records := List.flatMap_cons

theorem timestampOf_bytes (r : Record m) (rest : List UInt8) :
    timestampOf (r.bytes ++ rest) = r.timestamp := by
  have htake : (r.bytes ++ rest).take 8 = toBe 8 r.timestamp.toNat := by
    rw [Record.bytes, List.append_assoc]
    exact List.take_left' (length_toBe ..)
  have hfits : r.timestamp.toNat < 256 ^ 8 := r.timestamp.toNat_lt
  unfold timestampOf
  rw [htake, ofBe_toBe hfits]
  exact UInt64.ofNat_toNat

theorem drop_bytes (r : Record m) (rest : List UInt8) :
    (r.bytes ++ rest).drop 8 = r.frame ++ rest := by
  rw [Record.bytes, List.append_assoc]
  exact List.drop_left' (length_toBe ..)

section V2

variable {r : Record m}

theorem frame?_frame (hv : r.version = .v2) (rest : List UInt8) :
    m.frame? (r.frame ++ rest) = some r.frame.length := by
  have hvalid := r.valid
  rw [hv] at hvalid
  exact m.frame_append _ rest _ hvalid

/-- A record of version 2 starts with its own stamp. -/
theorem stamp?_bytes (hv : r.version = .v2) (rest : List UInt8) :
    m.stamp? (r.bytes ++ rest) = some r.timestamp := by
  have hmagic : (r.bytes ++ rest)[8]? = some magicV2 := by
    have hhead := m.frame_magic _ _ (frame?_frame hv rest)
    rw [← drop_bytes, List.head?_drop] at hhead
    exact hhead
  unfold MavlinkReader.stamp?
  rw [timestampOf_bytes, if_pos ⟨hmagic, r.accepted⟩]

theorem drop_own (stretch rest : List UInt8) :
    (stretch ++ (r.bytes ++ rest)).drop (stretch.length + 8) = r.frame ++ rest := by
  rw [← List.drop_drop, List.drop_left, drop_bytes]

/-- Behind a stretch a stamp and a frame are found, the record's own at the latest; the stretch leads
    to the record when the time is the record's and the frame is its own. -/
theorem finds_own (hv : r.version = .v2) (stretch rest : List UInt8) : ∃ p timestamp k n,
    scan m.stamp? (stretch ++ (r.bytes ++ rest)) = some (p, timestamp) ∧
      scan m.frame? ((stretch ++ (r.bytes ++ rest)).drop (p + 8)) = some (k, n) ∧
      (Leads stretch r rest ↔ timestamp = r.timestamp ∧ p + 8 + k = stretch.length + 8) ∧
      (p + 8 + k = stretch.length + 8 → n = r.frame.length) := by
  have hstamp : m.stamp? ((stretch ++ (r.bytes ++ rest)).drop stretch.length) =
      some r.timestamp := by
    rw [List.drop_left]
    exact stamp?_bytes hv _
  obtain ⟨p, timestamp, hp, hs⟩ := scan_of_hit hstamp
  have hframe : m.frame? (((stretch ++ (r.bytes ++ rest)).drop (p + 8)).drop
      (stretch.length - p)) = some r.frame.length := by
    have hat : p + 8 + (stretch.length - p) = stretch.length + 8 := by omega
    rw [List.drop_drop, hat, drop_own]
    exact frame?_frame hv _
  obtain ⟨k, n, hk, hf⟩ := scan_of_hit hframe
  refine ⟨p, timestamp, k, n, hs, hf, ⟨fun hleads => ?_, ?_⟩, fun hat => ?_⟩
  · obtain ⟨htime, hnone⟩ := hleads p timestamp hs
    refine ⟨htime, ?_⟩
    by_contra hne
    have hfound := (scan_eq_some.mp hf).2.1
    rw [List.drop_drop, hnone (p + 8 + k) (by omega) (by omega)] at hfound
    cases hfound
  · rintro ⟨htime, hat⟩ p' timestamp' hs'
    rw [hs] at hs'
    cases hs'
    refine ⟨htime, fun j hj hlt => ?_⟩
    have hnone := (scan_eq_some.mp hf).2.2 (j - (p + 8)) (by omega)
    have hj' : p + 8 + (j - (p + 8)) = j := by omega
    rw [List.drop_drop, hj'] at hnone
    exact hnone
  · have hk' : k = stretch.length - p := by omega
    rw [hk'] at hf
    exact scan_eq_some_of_hit hframe hf

end V2

/-- **The stretch in front decides**: what is played of the rest of a log is its records of version
    2, exactly when the stretch leads to the next one, and so on. The induction is on the records;
    those of version 1 lengthen the stretch. -/
theorem replays_eq_iff : ∀ (records : List (Record m)) (stretch : List UInt8) (position : Nat)
    (played : List Played), Replays m path position (stretch ++ tlogFile records) played →
      (played = v2Records path (position + stretch.length) records ↔ Clean stretch records) := by
  intro records
  induction records with
  | nil =>
      intro stretch position played h
      rw [show tlogFile ([] : List (Record m)) = [] from rfl, List.append_nil] at h
      exact h.eq_nil_iff
  | cons r records ih =>
      intro stretch position played h
      rw [tlogFile_cons] at h
      unfold v2Records Clean
      cases hv : r.version with
      | v1 =>
          rw [← List.append_assoc] at h
          have hrest := ih (stretch ++ r.bytes) position played h
          rw [List.length_append, ← Nat.add_assoc] at hrest
          exact hrest
      | v2 =>
          obtain ⟨p, timestamp, k, n, hs, hf, hleads, hown⟩ := finds_own hv stretch (tlogFile records)
          cases h with
          | unstamped _ _ hs' =>
              rw [hs] at hs'
              cases hs'
          | noFrame _ _ p' timestamp' hs' hf' =>
              rw [hs] at hs'
              cases hs'
              rw [hf] at hf'
              cases hf'
          | plays _ _ p' k' n' timestamp' played hs' hf' hrest =>
              rw [hs] at hs'
              cases hs'
              rw [hf] at hf'
              cases hf'
              have htail (hat : p + 8 + k = stretch.length + 8) :
                  played = v2Records path (position + stretch.length + r.bytes.length) records ↔
                    Clean [] records := by
                have hposition : position + (stretch.length + 8 + r.frame.length) =
                    position + stretch.length + r.bytes.length := by
                  rw [length_bytes]
                  omega
                rw [hat, hown hat, ← List.drop_drop, drop_own, List.drop_left, hposition] at hrest
                exact ih [] _ played hrest
              rw [hleads]
              constructor
              · intro he
                obtain ⟨hhead, hrest'⟩ := List.cons.inj he
                have hoffset : position + (p + 8 + k) = position + stretch.length + 8 :=
                  congrArg Played.offset hhead
                have htime : timestamp = r.timestamp :=
                  congrArg (fun x => x.message.timestamp) hhead
                have hat : p + 8 + k = stretch.length + 8 := by omega
                exact ⟨⟨htime, hat⟩, (htail hat).mp hrest'⟩
              · rintro ⟨⟨htime, hat⟩, hclean⟩
                dsimp only
                rw [(htail hat).mpr hclean, htime, hat, hown hat, drop_own, List.take_left,
                  ← Nat.add_assoc position stretch.length 8]

theorem sentOf_of_accepted {results : Nat → List CallbackResult}
    (hok : ∀ offset, vetoed (results offset) = false) (played : List Played) :
    sentOf results played = played := by
  refine List.filter_eq_self.mpr fun p _ => ?_
  rw [hok]
  rfl

/-- **The records of version 2 are kept exactly when the log is clean**, for every log and callbacks
    that accept. -/
theorem keepsRecords_iff (path : String) (records : List (Record m))
    {results : Nat → List CallbackResult} (hok : ∀ offset, vetoed (results offset) = false) :
    KeepsRecords path results records ↔ Clean [] records := by
  have hreplays := playFile_replays m path (tlogFile records)
  unfold KeepsRecords
  rw [sentOf_of_accepted hok]
  exact replays_eq_iff records [] 0 _ hreplays

/-- A log of records of version 2 only is clean. -/
theorem clean_of_v2 {records : List (Record m)} (h : ∀ r ∈ records, r.version = .v2) :
    Clean [] records := by
  induction records with
  | nil =>
      intro p timestamp hs
      rw [scan_eq_none.mpr fun j => by rw [List.drop_nil]; exact stamp?_of_length (by decide)] at hs
      cases hs
  | cons r records ih =>
      have hv := h r List.mem_cons_self
      unfold Clean
      rw [hv]
      refine ⟨fun p timestamp hs => ?_, ih fun r' hr' => h r' (List.mem_cons_of_mem _ hr')⟩
      rw [List.nil_append, scan_hit (stamp?_bytes hv _)] at hs
      cases hs
      exact ⟨rfl, fun j hj hlt => by simp only [List.length_nil] at hlt; omega⟩

/-! ## 4. A log that is not clean -/

/-- The checksum of MAVLink, one byte more. -/
def crcAccumulate (crc : UInt16) (byte : UInt8) : UInt16 :=
  let low := byte ^^^ crc.toUInt8
  let mixed := (low ^^^ (low <<< 4)).toUInt16
  (crc >>> 8) ^^^ (mixed <<< 8) ^^^ (mixed <<< 3) ^^^ (mixed >>> 4)

/-- The length that a frame of version 2 announces: header, payload, checksum and signature. -/
def announcedLength (bytes : List UInt8) : Nat :=
  let payload := (bytes[1]?.getD 0).toNat
  let signed := (bytes[2]?.getD 0) &&& 1 ≠ 0
  payload + (if signed then 25 else 12)

/-- `has_valid_crc`, with 50 for the extra byte of a HEARTBEAT. -/
def hasValidCrc (frame : List UInt8) : Bool :=
  let payload := (frame[1]?.getD 0).toNat
  let crc := crcAccumulate (((frame.drop 1).take (9 + payload)).foldl crcAccumulate 0xFFFF) 50
  ofLe ((frame.drop (10 + payload)).take 2) = crc.toNat

/-- A reader that knows heartbeats. -/
def heartbeatFrame? (bytes : List UInt8) : Option Nat :=
  if bytes.head? = some magicV2 ∧ announcedLength bytes ≤ bytes.length ∧
      hasValidCrc (bytes.take (announcedLength bytes)) = true then
    some (announcedLength bytes)
  else none

theorem announcedLength_append {bytes : List UInt8} (more : List UInt8)
    (h : announcedLength bytes ≤ bytes.length) :
    announcedLength (bytes ++ more) = announcedLength bytes := by
  have hlong : 12 ≤ announcedLength bytes := by
    unfold announcedLength
    dsimp only
    split <;> omega
  have h1 : (bytes ++ more)[1]? = bytes[1]? := List.getElem?_append_left (by omega)
  have h2 : (bytes ++ more)[2]? = bytes[2]? := List.getElem?_append_left (by omega)
  unfold announcedLength
  rw [h1, h2]

theorem heartbeatFrame?_eq_some {bytes : List UInt8} {n : Nat} (h : heartbeatFrame? bytes = some n) :
    bytes.head? = some magicV2 ∧ n = announcedLength bytes ∧ n ≤ bytes.length ∧
      hasValidCrc (bytes.take n) = true := by
  unfold heartbeatFrame? at h
  split at h
  · rename_i hc
    cases h
    exact ⟨hc.1, rfl, hc.2⟩
  · cases h

def packetOfFrame (frame : List UInt8) : Packet where
  bytes := frame
  systemId := frame[5]?.getD 0
  componentId := frame[6]?.getD 0
  messageId := .ofNat (ofLe ((frame.drop 7).take 3))
  payload := (frame.drop 10).take (frame[1]?.getD 0).toNat

/-- A read that does what is said of it. -/
def readFirstFrame (frame? : List UInt8 → Option Nat) (r : PeekReader) :
    Except MessageReadError (List UInt8) × PeekReader :=
  match scan frame? r.bytes with
  | some (k, n) => (.ok ((r.bytes.drop k).take n), ⟨r.bytes.drop (k + n), 0, r.position + k + n⟩)
  | none => (.error .io, ⟨r.bytes.drop r.bytes.length, 0, r.position + r.bytes.length⟩)

def heartbeatReader : MavlinkReader where
  frame? := heartbeatFrame?
  frame_magic := fun _ _ h => (heartbeatFrame?_eq_some h).1
  frame_length := fun bytes n h => by
    obtain ⟨_, hn, hle, _⟩ := heartbeatFrame?_eq_some h
    refine ⟨?_, hle⟩
    rw [hn]
    unfold announcedLength
    dsimp only
    split <;> omega
  frame_append := fun bytes more n h => by
    obtain ⟨hmagic, hn, hle, hcrc⟩ := heartbeatFrame?_eq_some h
    have hlength := announcedLength_append more (hn ▸ hle)
    have hhead : (bytes ++ more).head? = some magicV2 := by
      rw [List.head?_append, hmagic]
      rfl
    unfold heartbeatFrame?
    rw [hlength, ← hn, if_pos]
    refine ⟨hhead, ?_, ?_⟩
    · rw [List.length_append]
      omega
    · rw [List.take_append_of_le_length hle]
      exact hcrc
  packet := packetOfFrame
  packet_bytes := fun _ => rfl
  readV2RawMessage := readFirstFrame heartbeatFrame?
  read_frame := fun r k n h => by
    unfold readFirstFrame
    rw [h]
  read_nothing := fun r h => by
    unfold readFirstFrame
    rw [h]
    exact ⟨.io, r.bytes.length, 0, rfl⟩
  fromTimestampMicros := fun us => us ≤ 8210266876799999999 || us ≥ 10112142844909551616

/-- A heartbeat of version 1 with the custom mode 0xFD. -/
def modeHeartbeat : Record heartbeatReader where
  version := .v1
  timestamp := 0x000616b3e4644ec0
  frame := [0xFE, 9, 0, 1, 1, 0, 0xFD, 0, 0, 0, 2, 3, 81, 4, 3, 0x85, 0xA5]
  accepted := by decide
  valid := rfl

theorem heartbeatPacket_valid :
    heartbeatFrame? heartbeatPacket.bytes = some heartbeatPacket.bytes.length := by decide +kernel

/-- A heartbeat of version 2, a second later. -/
def nextHeartbeat : Record heartbeatReader where
  version := .v2
  timestamp := 0x000616b3e4739100
  frame := heartbeatPacket.bytes
  accepted := by decide
  valid := heartbeatPacket_valid

/-- The log of a single heartbeat of version 2 is kept. -/
theorem keepsRecords_heartbeat :
    KeepsRecords "/logs/00001.tlog" (fun _ => [.ok]) [nextHeartbeat] := by
  have hv2 : ∀ r ∈ [nextHeartbeat], r.version = .v2 := fun r hr => by
    rw [List.mem_singleton.mp hr]
    rfl
  exact (keepsRecords_iff "/logs/00001.tlog" [nextHeartbeat] fun _ => rfl).mpr (clean_of_v2 hv2)

/-- **The mode is taken for a magic byte**: the heartbeat behind it is played with a time that is made
    of the end of the other record's time and the head of its frame. -/
theorem keepsRecords_mode :
    ¬ KeepsRecords "/logs/00001.tlog" (fun _ => []) [modeHeartbeat, nextHeartbeat] ∧
      (playFile heartbeatReader "/logs/00001.tlog"
        (tlogFile [modeHeartbeat, nextHeartbeat])).1.map (·.message.timestamp) =
          [0x4ec0fe0900010100] := by
  have hplayed : (playFile heartbeatReader "/logs/00001.tlog"
      (tlogFile [modeHeartbeat, nextHeartbeat])).1.map (·.message.timestamp) =
        [0x4ec0fe0900010100] := by decide +kernel
  refine ⟨fun hkeeps => ?_, hplayed⟩
  unfold KeepsRecords at hkeeps
  rw [sentOf_of_accepted fun _ => rfl] at hkeeps
  rw [hkeeps] at hplayed
  cases hplayed

end MavlinkServer.Tlog
