/-
  File:      MavlinkServer/Ftp/Limit.lean
  Subject:   THE LIMIT OF A DOWNLOAD (`max_size` of `read_file` in
             `src/lib/drivers/rest/mavftp/client.rs`). `open_read_session`
             compares it with the size that the reply to OpenFileRO announces,
             and nothing else does.

  * `fileData` -- the buffer at a point of a download;
  * `length_copied` -- a chunk makes it as long as the end of the chunk;
  * `withinLimit_iff` -- the buffer and the file stay within the limit exactly
    when every chunk that is copied ends there.
-/
import MavlinkServer.Ftp.Visits

namespace MavlinkServer.Ftp

open Lib Await

def ReadPoint.fileData : ReadPoint → List UInt8
  | .cycle _ state _ => state.fileData
  | .burst _ state _ => state.fileData
  | .repair _ _ _ state => state.fileData
  | .finish _ state => state.fileData
  | .done fileData => fileData
  | .reset | .openFile | .opened _ _ | .closing _ _ => []

/-- **A download keeps to its limit**: what it returns, and its buffer at every point. -/
structure WithinLimit (t : Target) (path : List UInt8) (max : Nat) (w : World) : Prop where
  returned : ∀ data w', readFile t path (some max) w = (.ok data, w') → data.length ≤ max
  buffer : ∀ s, ReadCall.Visited ⟨t, path, false, some max⟩ w s → s.point.fileData.length ≤ max

/-- Every chunk that the download copies ends within the limit. -/
def ChunksWithin (t : Target) (path : List UInt8) (max : Nat) (w : World) : Prop :=
  ∀ s, ReadCall.Visited ⟨t, path, false, some max⟩ w s →
    ∀ chunk, ReadCall.takes ⟨t, path, false, some max⟩ s.point s.world = some chunk →
      chunk.offset + chunk.size ≤ max

/-! ## 1. The length of the buffer -/

section Steps

variable {r : ReadCall} {p p' : ReadPoint}

/-- **A chunk makes the buffer as long as its end**, at least. -/
theorem length_copied {chunk : Chunk} (h : Goes r p (some chunk) p') :
    p'.fileData.length = max p.fileData.length (chunk.offset + chunk.size) := by
  cases h with
  | copied session state state' retries resp hextend p' hp =>
      have hlen := length_copyChunkIntoBuffer (extendContiguous_some hextend).2.1
      rcases hp with rfl | rfl
      · exact hlen
      · exact hlen
  | repaired session missing blocks filled state resp fileData hlt hcopy =>
      exact length_copyChunkIntoBuffer hcopy

/-- The buffer, and the size that was announced. -/
structure ReadPoint.Fits (max : Nat) (p : ReadPoint) : Prop where
  buffer : p.fileData.length ≤ max
  announced : ∀ session fileSize, p = .opened session fileSize → fileSize ≤ max

theorem fits_goes {max : Nat} {chunk : Option Chunk} (hmax : r.maxSize = some max)
    (hp : p.Fits max) (hchunk : ∀ c, chunk = some c → c.offset + c.size ≤ max)
    (h : Goes r p chunk p') : p'.Fits max := by
  constructor
  · cases chunk with
    | some chunk =>
        rw [length_copied h]
        exact Nat.max_le.mpr ⟨hp.buffer, hchunk chunk rfl⟩
    | none =>
        cases h with
        | subscribed session fileSize =>
            show (List.replicate fileSize 0).length ≤ max
            rw [List.length_replicate]
            exact hp.announced session fileSize rfl
        | finished session state => exact Nat.le_trans (List.length_take_le' _ _) hp.buffer
        | requested | skipped | elapsed | eof | blocksDone | blockDone => exact hp.buffer
        | reset | rejected | opened | failed | repairFailed => exact Nat.zero_le _
  · rintro session fileSize rfl
    cases h with
    | opened _ _ hsmall => exact hsmall max hmax
    | copied _ _ _ _ _ _ _ hq => rcases hq with hq | hq <;> cases hq

end Steps

/-! ## 2. The limit -/

section Runs

variable {t : Target} {path : List UInt8} {max : Nat} {w : World}

theorem fits_of_chunksWithin (h : ChunksWithin t path max w) {s : ReadState}
    (hs : ReadCall.Visited ⟨t, path, false, some max⟩ w s) : s.point.Fits max := by
  induction hs with
  | start => exact ⟨Nat.zero_le _, fun _ _ heq => by cases heq⟩
  | next s s' a hs _ hstep ih =>
      obtain ⟨hadvance, _⟩ := step_some.mp hstep
      exact fits_goes rfl ih (h s hs) (goes_of_advance hadvance)

/-- **A download keeps to its limit exactly when every chunk it copies ends there.** The size that
    is announced plays no part in it. -/
theorem withinLimit_iff (t : Target) (path : List UInt8) (max : Nat) (w : World) :
    WithinLimit t path max w ↔ ChunksWithin t path max w := by
  constructor
  · intro h s hs chunk htakes
    obtain ⟨p', w', hadvance⟩ := advance_of_takes htakes
    have hgoes := goes_of_advance hadvance
    rw [htakes] at hgoes
    -- the next point is passed too, and its buffer holds the chunk
    have hnext := h.buffer _ (.next s ⟨p', w', _⟩ () hs trivial (step_some.mpr ⟨hadvance, rfl⟩))
    rw [length_copied hgoes] at hnext
    exact Nat.le_trans (Nat.le_max_right _ _) hnext
  · intro h
    refine ⟨fun data w' hread => ?_, fun s hs => (fits_of_chunksWithin h hs).buffer⟩
    obtain ⟨s, hs, hdone⟩ := visited_of_ok (r := ⟨t, path, false, some max⟩) hread
    have hfits := (fits_of_chunksWithin h hs).buffer
    rw [hdone] at hfits
    exact hfits

end Runs

section Examples

/-- OpenFileRO is answered with two bytes of data, which announce nothing; the burst brings three
    bytes. -/
def shortOpenRun : World where
  seqNumber := 0
  hubAnswers := []
  inbox := [serverAck 1 .resetSessions 0 0 [], serverAck 2 .openFileRO 1 0 [3, 0],
    serverAck 3 .burstReadFile 1 0 [7, 8, 9], serverNak 4 .burstReadFile 1 3 6,
    serverAck 4 .terminateSession 1 0 []].map (packet vehicle)
  trace := []

theorem readFile_shortOpen : (readFile vehicle [97] (some 2) shortOpenRun).1 = .ok [7, 8, 9] := by
  decide +kernel

/-- **A download beyond its limit**: three bytes, where two were asked for at most. -/
theorem withinLimit_shortOpen : ¬ WithinLimit vehicle [97] 2 shortOpenRun := fun h =>
  absurd (h.returned [7, 8, 9] _ (run_eq readFile_shortOpen)) (by decide)

end Examples

end MavlinkServer.Ftp
