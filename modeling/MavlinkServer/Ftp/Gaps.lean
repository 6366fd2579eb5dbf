/-
  File:      MavlinkServer/Ftp/Gaps.lean
  Subject:   THE GAPS OF A BURST (`apply_burst_chunk`, `copy_chunk_into_buffer`
             and `BurstReadState` in `src/lib/drivers/rest/mavftp/client.rs`):
             runs of calls that return `Ok`, in any order of offsets and sizes.

  * `BurstRun` -- the state, and the replies for which a call returned `true`;
  * `Laid` -- the invariant: the missing blocks and the accepted replies are
    pieces laid end to end from 0 to `contiguous_end`, and the buffer holds
    each reply where it lies (`laid_extend` for one reply);
  * `Bookkept` -- what the five fields say of one another;
  * `gaps_bookkept` -- it holds in every state reached, and `contiguous_end`
    moves exactly with the calls that return `true`;
  * `burstPhase_bookkept` -- and at the end of a burst phase.
-/
import MavlinkServer.Ftp.Arithmetic
import MavlinkServer.Ftp.Isolation
import MavlinkServer.Lib.Tiling

namespace MavlinkServer.Ftp

open Lib Await

/-! ## 1. A run of calls -/

/-- One call: the reply, whether there is a `progress`, and the world it is made in. -/
structure ChunkCall where
  resp : FtpPayload
  progress : Bool
  world : World
  deriving DecidableEq, Repr

/-- The end of the chunk is a `u32`. -/
def ChunkCall.EndFits (c : ChunkCall) : Prop := c.resp.offset.toNat + c.resp.size.toNat < 2 ^ 32

instance (c : ChunkCall) : Decidable c.EndFits := inferInstanceAs (Decidable (_ < _))

def ChunkCall.result (c : ChunkCall) (state : BurstReadState) :
    Outcome FtpFailure (Option BurstReadState) :=
  (applyBurstChunk state c.resp c.progress c.world).1

structure BurstRun where
  state : BurstReadState
  /-- the replies for which the call returned `true`, in the order of the calls -/
  accepted : List FtpPayload
  deriving DecidableEq, Repr

namespace BurstRun

def new (fileSize : Nat) : BurstRun := ⟨.new fileSize, []⟩

/-- A call that returns `Ok`. One that returns an error is not a step. -/
def step (r : BurstRun) (c : ChunkCall) : Option BurstRun :=
  match c.result r.state with
  | .ok (some state') => some ⟨state', r.accepted ++ [c.resp]⟩
  | .ok none => some r
  | _ => none

variable {r r' : BurstRun} {c : ChunkCall}

/-- **What a call can do**: nothing, where it returns `false`, or take the reply up. -/
theorem step_cases (h : r.step c = some r') :
    c.result r.state = .ok none ∧ r' = r ∨
      ∃ state', c.result r.state = .ok (some state') ∧
        extendContiguous r.state c.resp = .ok (some state') ∧
        r' = ⟨state', r.accepted ++ [c.resp]⟩ := by
  unfold step at h
  cases hresult : c.result r.state with
  | ok o =>
      rw [hresult] at h
      cases o with
      | none =>
          cases h
          exact Or.inl ⟨rfl, rfl⟩
      | some state' =>
          cases h
          have hextend := (applyBurstChunk_ok (run_eq hresult)).1
          exact Or.inr ⟨state', rfl, hextend, rfl⟩
  | err e =>
      rw [hresult] at h
      cases h
  | waiting =>
      rw [hresult] at h
      cases h

end BurstRun

/-! ## 2. Blocks and replies end to end -/

/-- The positions of a block. -/
def MissingBlock.Covers (b : MissingBlock) (i : Nat) : Prop :=
  b.offset.toNat ≤ i ∧ i < b.offset.toNat + b.size.toNat

/-- The positions that `copy_chunk_into_buffer` writes for a reply. -/
def FtpPayload.Writes (resp : FtpPayload) (i : Nat) : Prop :=
  resp.offset.toNat ≤ i ∧ i < resp.offset.toNat + resp.size.toNat

instance (resp : FtpPayload) (i : Nat) : Decidable (resp.Writes i) :=
  inferInstanceAs (Decidable (_ ∧ _))

/-- It writes these, and leaves what else the buffer held. -/
theorem copyChunkIntoBuffer_writes {fileData fileData' : List UInt8} {resp : FtpPayload}
    (h : copyChunkIntoBuffer fileData resp.offset resp.size.toNat resp.data = .ok fileData')
    (i : Nat) :
    (resp.Writes i → fileData'[i]? = resp.data[i - resp.offset.toNat]?) ∧
      (¬ resp.Writes i → i < fileData.length → fileData'[i]? = fileData[i]?) := by
  obtain ⟨hlen, rfl⟩ := copyChunkIntoBuffer_ok.mp h
  have htake : (resp.data.take resp.size.toNat).length = resp.size.toNat := by
    rw [List.length_take, Nat.min_eq_left hlen]
  have hoff : resp.offset.toNat ≤
      (padTo fileData (resp.offset.toNat + resp.size.toNat) 0).length := by
    rw [length_padTo]
    omega
  constructor
  · rintro ⟨hge, hlt⟩
    rw [getElem?_overlay_inside hoff hge (by rw [htake]; exact hlt)]
    exact List.getElem?_take_of_lt (by omega)
  · intro hout hin
    have hout : ¬ (resp.offset.toNat ≤ i ∧ i < resp.offset.toNat + resp.size.toNat) := hout
    rw [getElem?_overlay_outside hoff (by rw [htake]; omega), getElem?_padTo hin]

/-- What lies below `contiguous_end`: a block that was jumped over, or a reply. -/
abbrev Piece : Type := MissingBlock ⊕ FtpPayload

def pieceOffset : Piece → Nat
  | .inl b => b.offset.toNat
  | .inr resp => resp.offset.toNat

def pieceSize : Piece → Nat
  | .inl b => b.size.toNat
  | .inr resp => resp.size.toNat

/-- **The invariant of a run**: its blocks and replies are `pieces`, end to end from 0. -/
structure BurstRun.Laid (fileSize : Nat) (r : BurstRun) (pieces : List Piece) : Prop where
  tiles : Tiles pieceOffset pieceSize 0 pieces r.state.contiguousEnd.toNat
  missing : lefts pieces = r.state.missingBlocks
  accepted : rights pieces = r.accepted
  written : r.state.bytesWritten.toNat = (r.accepted.map fun resp => resp.size.toNat).sum
  length : r.state.fileData.length = max fileSize r.state.contiguousEnd.toNat
  bytes : ∀ resp ∈ r.accepted, ∀ i, resp.Writes i →
    r.state.fileData[i]? = resp.data[i - resp.offset.toNat]?

/-- What a reply that is taken up does to the frontier, if its end is a `u32`. -/
theorem frontier_extend {state state' : BurstReadState} {resp : FtpPayload}
    (hfits : resp.offset.toNat + resp.size.toNat < 2 ^ 32)
    (hextend : extendContiguous state resp = .ok (some state')) :
    state.contiguousEnd.toNat ≤ resp.offset.toNat ∧ 0 < resp.size.toNat ∧
      state'.contiguousEnd.toNat = resp.offset.toNat + resp.size.toNat := by
  obtain ⟨hle, _, hend, _⟩ := extendContiguous_some hextend
  have hne := extendContiguous_nonempty hextend
  refine ⟨UInt32.le_iff_toNat_le.mp hle, Nat.pos_of_ne_zero fun hz => ?_, ?_⟩
  · exact hne (UInt8.toNat_inj.mp hz)
  · rw [hend]
    exact toNat_add_size hfits

namespace BurstRun

theorem laid_new (fileSize : Nat) : (BurstRun.new fileSize).Laid fileSize [] where
  tiles := rfl
  missing := rfl
  accepted := rfl
  written := rfl
  length := by
    show (List.replicate fileSize (0 : UInt8)).length = max fileSize 0
    rw [List.length_replicate, Nat.max_zero]
  bytes := fun _ h => absurd h List.not_mem_nil

section

variable {fileSize : Nat} {r : BurstRun} {pieces : List Piece} {resp : FtpPayload}
  {state' : BurstReadState}

theorem Laid.mem_accepted (h : r.Laid fileSize pieces) {old : FtpPayload} :
    old ∈ r.accepted ↔ Sum.inr old ∈ pieces := by
  rw [← h.accepted]
  exact mem_rights

theorem Laid.sums (h : r.Laid fileSize pieces) :
    (r.state.missingBlocks.map fun b => b.size.toNat).sum + r.state.bytesWritten.toNat =
      r.state.contiguousEnd.toNat := by
  have hsum := h.tiles.sum
  rw [sum_lefts_rights, h.missing, h.accepted, Nat.zero_add] at hsum
  rw [h.written]
  exact hsum

theorem Laid.written_le (h : r.Laid fileSize pieces) :
    r.state.bytesWritten.toNat ≤ r.state.contiguousEnd.toNat := by
  rw [← h.sums]
  exact Nat.le_add_left _ _

/-- The pieces up to the offset of a reply that is taken up: the block in front of it, if it jumps
    ahead, is one of them. -/
theorem Laid.up_to_offset (h : r.Laid fileSize pieces)
    (hextend : extendContiguous r.state resp = .ok (some state')) :
    ∃ pieces', Tiles pieceOffset pieceSize 0 pieces' resp.offset.toNat ∧
      lefts pieces' = state'.missingBlocks ∧ rights pieces' = r.accepted := by
  obtain ⟨hle, _, _, hblocks⟩ := extendContiguous_some hextend
  have hle' : r.state.contiguousEnd.toNat ≤ resp.offset.toNat := UInt32.le_iff_toNat_le.mp hle
  rw [hblocks]
  split
  · rename_i hgt
    have hgt' : r.state.contiguousEnd.toNat < resp.offset.toNat := UInt32.lt_iff_toNat_lt.mp hgt
    have hsub : (resp.offset - r.state.contiguousEnd).toNat =
        resp.offset.toNat - r.state.contiguousEnd.toNat := UInt32.toNat_sub_of_le _ _ hle
    let gap : MissingBlock := ⟨r.state.contiguousEnd, resp.offset - r.state.contiguousEnd⟩
    have hgap : pieceSize (.inl gap) = resp.offset.toNat - r.state.contiguousEnd.toNat := hsub
    refine ⟨pieces ++ [.inl gap], ?_, ?_, ?_⟩
    · have := h.tiles.concat (t := .inl gap) rfl (by omega)
      rw [hgap] at this
      rwa [Nat.add_sub_cancel' hle'] at this
    · rw [lefts_inl, h.missing]
    · rw [rights_inl, h.accepted]
  · rename_i hgt
    have hsame : r.state.contiguousEnd.toNat = resp.offset.toNat :=
      Nat.le_antisymm hle' (UInt32.le_iff_toNat_le.mp (UInt32.not_lt.mp hgt))
    refine ⟨pieces, ?_, ?_, h.accepted⟩
    · rw [← hsame]
      exact h.tiles
    · rw [h.missing, List.append_nil]

/-- The bytes of the replies stay, as a new one starts where they end, and its own are there. -/
theorem Laid.bytes_extend (h : r.Laid fileSize pieces)
    (hextend : extendContiguous r.state resp = .ok (some state')) :
    ∀ old ∈ r.accepted ++ [resp], ∀ i, old.Writes i →
      state'.fileData[i]? = old.data[i - old.offset.toNat]? := by
  obtain ⟨hle, hcopy, _, _⟩ := extendContiguous_some hextend
  have hle' : r.state.contiguousEnd.toNat ≤ resp.offset.toNat := UInt32.le_iff_toNat_le.mp hle
  intro old hold i hi
  obtain ⟨hinside, houtside⟩ := copyChunkIntoBuffer_writes hcopy i
  rcases List.mem_append.mp hold with hold | hnew
  · have hend := (h.tiles.mem (h.mem_accepted.mp hold)).2.2
    have hbelow : i < r.state.contiguousEnd.toNat := Nat.lt_of_lt_of_le hi.2 hend
    have hin : i < r.state.fileData.length := by
      rw [h.length]
      omega
    rw [houtside (fun hw => absurd hw.1 (by omega)) hin]
    exact h.bytes old hold i hi
  · rw [List.mem_singleton.mp hnew] at hi ⊢
    exact hinside hi

/-- **One reply keeps the invariant**, if its end is a `u32`. -/
theorem laid_extend (h : r.Laid fileSize pieces)
    (hfits : resp.offset.toNat + resp.size.toNat < 2 ^ 32)
    (hextend : extendContiguous r.state resp = .ok (some state')) :
    ∃ pieces', BurstRun.Laid fileSize ⟨state', r.accepted ++ [resp]⟩ pieces' := by
  obtain ⟨hle, hsize, hend⟩ := frontier_extend hfits hextend
  obtain ⟨_, hcopy, _, _⟩ := extendContiguous_some hextend
  obtain ⟨pieces', htiles, hmissing, haccepted⟩ := h.up_to_offset hextend
  refine ⟨pieces' ++ [.inr resp], ?_, ?_, ?_, ?_, ?_, h.bytes_extend hextend⟩
  · rw [hend]
    exact htiles.concat rfl hsize
  · rw [lefts_inr, hmissing]
  · rw [rights_inr, haccepted]
  · -- no more bytes are written than lie below the offset, so the counter does not wrap
    have hwritten := h.written_le
    rw [bytesWritten_extend hextend, toNat_add_size (by omega), h.written, List.map_append,
      List.sum_append]
    rfl
  · rw [length_copyChunkIntoBuffer hcopy, h.length, hend]
    omega

end

/-! ## 3. What the fields say of one another -/

/-- The bookkeeping of the gaps. -/
structure Bookkept (fileSize : Nat) (r : BurstRun) : Prop where
  nonempty : ∀ b ∈ r.state.missingBlocks, 0 < b.size
  disjoint : r.state.missingBlocks.Pairwise fun b b' => ∀ i, ¬ (b.Covers i ∧ b'.Covers i)
  increasing : r.state.missingBlocks.Pairwise fun b b' => b.offset < b'.offset
  inside : ∀ b ∈ r.state.missingBlocks,
    b.offset.toNat + b.size.toNat ≤ r.state.contiguousEnd.toNat
  balance : r.state.bytesWritten.toNat + (r.state.missingBlocks.map fun b => b.size.toNat).sum =
    r.state.contiguousEnd.toNat
  length : r.state.fileData.length = max fileSize r.state.contiguousEnd.toNat
  /-- written by exactly one of the accepted replies -/
  once : ∀ i < r.state.contiguousEnd.toNat, (∀ b ∈ r.state.missingBlocks, ¬ b.Covers i) →
    (r.accepted.countP fun resp => resp.Writes i) = 1
  /-- and the byte is that reply's -/
  bytes : ∀ resp ∈ r.accepted, ∀ i, resp.Writes i →
    r.state.fileData[i]? = resp.data[i - resp.offset.toNat]?

theorem Laid.bookkept {fileSize : Nat} {r : BurstRun} {pieces : List Piece}
    (h : r.Laid fileSize pieces) : r.Bookkept fileSize := by
  have hmem : ∀ b ∈ r.state.missingBlocks, 0 < b.size.toNat ∧
      b.offset.toNat + b.size.toNat ≤ r.state.contiguousEnd.toNat := by
    intro b hb
    rw [← h.missing] at hb
    obtain ⟨hsize, _, hend⟩ := h.tiles.mem (mem_lefts.mp hb)
    exact ⟨hsize, hend⟩
  have hordered : r.state.missingBlocks.Pairwise fun b b' =>
      b.offset.toNat + b.size.toNat ≤ b'.offset.toNat := by
    rw [← h.missing]
    exact h.tiles.pairwise_lefts
  refine ⟨fun b hb => UInt32.lt_iff_toNat_lt.mpr (hmem b hb).1, ?_, ?_, fun b hb => (hmem b hb).2,
    ?_, h.length, ?_, h.bytes⟩
  · refine hordered.imp fun {b b'} hle i => ?_
    rintro ⟨hi, hi'⟩
    have hlt := hi.2
    have hge := hi'.1
    omega
  · refine hordered.imp_of_mem fun {b b'} hb _ hle => UInt32.lt_iff_toNat_lt.mpr ?_
    have hpos := (hmem b hb).1
    omega
  · rw [Nat.add_comm]
    exact h.sums
  · intro i hi hout
    rw [← h.accepted]
    rw [← h.missing] at hout
    exact h.tiles.countP_rights ⟨Nat.zero_le i, hi⟩ hout

section Runs

variable {fileSize : Nat} {r : BurstRun}

theorem laid_of_reach (h : Reach step (fun _ c => c.EndFits) (.new fileSize) r) :
    ∃ pieces, r.Laid fileSize pieces := by
  refine h.inv (I := fun r => ∃ pieces, r.Laid fileSize pieces) ⟨[], laid_new fileSize⟩ ?_
  rintro r r' c ⟨pieces, hl⟩ hfits hstep
  rcases step_cases hstep with ⟨_, rfl⟩ | ⟨state', _, hextend, rfl⟩
  · exact ⟨pieces, hl⟩
  · exact laid_extend hl hfits hextend

/-- `contiguous_end` moves with the calls that return `true`, and never back. -/
theorem contiguousEnd_step {r' : BurstRun} {c : ChunkCall} (hfits : c.EndFits)
    (hstep : r.step c = some r') :
    r.state.contiguousEnd ≤ r'.state.contiguousEnd ∧
      (r.state.contiguousEnd < r'.state.contiguousEnd ↔
        ∃ state', c.result r.state = .ok (some state')) := by
  rcases step_cases hstep with ⟨hresult, rfl⟩ | ⟨state', hresult, hextend, rfl⟩
  · refine ⟨UInt32.le_refl _, fun hlt => absurd hlt (UInt32.lt_irrefl _), fun ⟨state', h⟩ => ?_⟩
    rw [hresult] at h
    cases h
  · have hlt : r.state.contiguousEnd < state'.contiguousEnd := by
      obtain ⟨hle, hsize, hend⟩ := frontier_extend hfits hextend
      rw [UInt32.lt_iff_toNat_lt, hend]
      omega
    exact ⟨UInt32.le_of_lt hlt, fun _ => ⟨state', hresult⟩, fun _ => hlt⟩

/-- **The bookkeeping of the gaps** holds in every state that calls reach, whatever their offsets
    and sizes, and `contiguous_end` grows exactly with the calls that return `true`. -/
theorem gaps_bookkept (h : Reach step (fun _ c => c.EndFits) (.new fileSize) r) :
    r.Bookkept fileSize ∧
      ∀ (c : ChunkCall) (r' : BurstRun), c.EndFits → r.step c = some r' →
        r.state.contiguousEnd ≤ r'.state.contiguousEnd ∧
          (r.state.contiguousEnd < r'.state.contiguousEnd ↔
            ∃ state', c.result r.state = .ok (some state')) := by
  obtain ⟨pieces, hl⟩ := laid_of_reach h
  exact ⟨hl.bookkept, fun c r' hfits hstep => contiguousEnd_step hfits hstep⟩

end Runs

section Examples

def idleWorld : World := ⟨0, [], [], []⟩

/-- A reply that jumps ahead, the same one again, and the one behind it. -/
def jumpCalls : List ChunkCall :=
  [⟨serverAck 1 .burstReadFile 1 4 [1, 2, 3], false, idleWorld⟩,
    ⟨serverAck 1 .burstReadFile 1 4 [1, 2, 3], false, idleWorld⟩,
    ⟨serverAck 2 .burstReadFile 1 7 [8, 9], true, idleWorld⟩]

def jumped : BurstRun where
  state := ⟨[0, 0, 0, 0, 1, 2, 3, 8, 9], 9, 5, [⟨0, 4⟩], 0⟩
  accepted := [serverAck 1 .burstReadFile 1 4 [1, 2, 3], serverAck 2 .burstReadFile 1 7 [8, 9]]

theorem reach_jumped : Reach step (fun _ c => c.EndFits) (.new 0) jumped :=
  reach_of_execC (show execC step (fun _ c => c.EndFits) (.new 0) jumpCalls = some jumped by
    decide +kernel)

/-- The call that appends one more byte. -/
def appendCall : ChunkCall := ⟨serverAck 3 .burstReadFile 1 9 [5], false, idleWorld⟩

def appended : BurstRun where
  state := ⟨[0, 0, 0, 0, 1, 2, 3, 8, 9, 5], 10, 6, [⟨0, 4⟩], 0⟩
  accepted := jumped.accepted ++ [appendCall.resp]

theorem gaps_bookkept_jumped :
    jumped.Bookkept 0 ∧ jumped.step appendCall = some appended ∧
      jumped.state.contiguousEnd < appended.state.contiguousEnd := by
  have hstep : jumped.step appendCall = some appended := by decide +kernel
  have hresult : appendCall.result jumped.state = .ok (some appended.state) := by decide +kernel
  obtain ⟨hbookkept, hnext⟩ := gaps_bookkept reach_jumped
  exact ⟨hbookkept, hstep, (hnext appendCall appended (by decide) hstep).2.mpr ⟨_, hresult⟩⟩

end Examples

/-! ## 4. The burst phase -/

section Phase

variable {fileSize : Nat} {state : BurstReadState} {accepted : List FtpPayload}

/-- One delivered reply of a burst keeps the invariant, whether or not it is taken up. -/
theorem laid_absorb {pieces : List Piece} {resp : FtpPayload}
    (h : BurstRun.Laid fileSize ⟨state, accepted⟩ pieces)
    (hfits : isBurstAck resp → resp.offset.toNat + resp.size.toNat < 2 ^ 32) :
    ∃ taken pieces', taken.Sublist [resp] ∧
      BurstRun.Laid fileSize ⟨absorb state resp, accepted ++ taken⟩ pieces' := by
  have hsame : BurstRun.Laid fileSize ⟨state, accepted ++ []⟩ pieces := by
    rw [List.append_nil]
    exact h
  unfold absorb
  split
  · rename_i hack
    split
    · rename_i state' hextend
      obtain ⟨pieces', hl⟩ := laid_extend h (hfits hack) hextend
      -- the count of the packets is no part of the bookkeeping
      exact ⟨[resp], pieces', .refl _,
        hl.tiles, hl.missing, hl.accepted, hl.written, hl.length, hl.bytes⟩
    · exact ⟨[], pieces, List.nil_sublist _, hsame⟩
  · exact ⟨[], pieces, List.nil_sublist _, hsame⟩

theorem laid_foldl_absorb {resps : List FtpPayload} {pieces : List Piece}
    (h : BurstRun.Laid fileSize ⟨state, accepted⟩ pieces)
    (hfits : ∀ resp ∈ resps, isBurstAck resp → resp.offset.toNat + resp.size.toNat < 2 ^ 32) :
    ∃ taken pieces', taken.Sublist resps ∧
      BurstRun.Laid fileSize ⟨resps.foldl absorb state, accepted ++ taken⟩ pieces' := by
  induction resps generalizing state accepted pieces with
  | nil =>
      refine ⟨[], pieces, .slnil, ?_⟩
      rw [List.append_nil]
      exact h
  | cons resp rest ih =>
      obtain ⟨taken, pieces₁, hfirst, hl⟩ := laid_absorb h (hfits resp List.mem_cons_self)
      obtain ⟨later, pieces₂, hrest, hl⟩ := ih hl fun resp hr => hfits resp (.tail _ hr)
      rw [List.append_assoc] at hl
      exact ⟨taken ++ later, pieces₂, hfirst.append hrest, hl⟩

/-- **The bookkeeping at the end of the burst phase**, after any number of cycles and timeouts: the
    replies that were taken up are some of those delivered, in their order. -/
theorem burstPhase_bookkept {t : Target} {session : UInt8} {progress : Bool} {fuel : Nat}
    {w w' : World}
    (hfits : ∀ resp ∈ deliveredBeforeEof t w.inbox, isBurstAck resp →
      resp.offset.toNat + resp.size.toNat < 2 ^ 32)
    (h : burstPhase t session progress fuel (.new fileSize) 0 w = (.ok state, w')) :
    ∃ accepted, accepted.Sublist (deliveredBeforeEof t w.inbox) ∧
      BurstRun.Bookkept fileSize ⟨state, accepted⟩ := by
  obtain ⟨accepted, _, hsub, hl⟩ := laid_foldl_absorb (laid_new fileSize) hfits
  rw [burstPhase_ok h]
  exact ⟨accepted, hsub, hl.bookkept⟩

end Phase

end BurstRun

end MavlinkServer.Ftp
