/-
  File:      MavlinkServer/Ftp/WireFormat.lean
  Subject:   THE WIRE FORMAT, BOTH WAYS. `decode` undoes `encode` on payloads
             whose data fits; here is the other direction, over every buffer.

  * `FtpBuffer.byte` -- a byte of the 251;
  * `FtpBuffer.dataLen` -- how much of the data area its `size` byte declares;
  * `decode_eq` -- what `decode` reads, byte by byte;
  * `decode_error_iff` -- a buffer is refused exactly for an unknown opcode;
  * `encode_decode` -- what was read and is written again is the buffer with
    its padding byte and everything behind the declared data cleared.
-/
import Mathlib.Tactic.IntervalCases
import MavlinkServer.Ftp.Protocol

namespace MavlinkServer.Ftp

open Lib

/-! ## 1. A buffer by its bytes -/

namespace FtpBuffer

/-- `payload[i]`. -/
def byte (b : FtpBuffer) (i : Fin 251) : UInt8 := b.val.get (i.cast b.property.symm)

/-- The bytes of the two opcodes. -/
def opcodeByte (b : FtpBuffer) : UInt8 := b.byte 3

def reqOpcodeByte (b : FtpBuffer) : UInt8 := b.byte 5

theorem getElem?_byte (b : FtpBuffer) (i : Fin 251) : b.val[i.val]? = some (b.byte i) :=
  List.getElem?_eq_getElem (by rw [b.property]; exact i.isLt)

/-- `(size as usize).min(FTP_DATA_MAX_LEN)`. -/
def dataLen (b : FtpBuffer) : Nat := min (b.byte 4).toNat ftpDataMaxLen

/-- A buffer is its header, and the data area behind it. -/
@[elab_as_elim]
theorem header_cases {P : FtpBuffer → Prop} (b : FtpBuffer)
    (header : ∀ s0 s1 session opcode size reqOpcode burst padding o0 o1 o2 o3 area hlen,
      P ⟨s0 :: s1 :: session :: opcode :: size :: reqOpcode :: burst :: padding :: o0 :: o1 ::
        o2 :: o3 :: area, hlen⟩) : P b := by
  obtain ⟨_ | ⟨s0, _ | ⟨s1, _ | ⟨session, _ | ⟨opcode, _ | ⟨size, _ | ⟨reqOpcode, _ | ⟨burst,
    _ | ⟨padding, _ | ⟨o0, _ | ⟨o1, _ | ⟨o2, _ | ⟨o3, area⟩⟩⟩⟩⟩⟩⟩⟩⟩⟩⟩⟩, hlen⟩ := b
  -- every list shorter than the header contradicts the length of the buffer
  all_goals first
    | exact header s0 s1 session opcode size reqOpcode burst padding o0 o1 o2 o3 area hlen
    | exact absurd hlen (by simp [ftpMessagePayload])

end FtpBuffer

namespace FtpPayload

/-- **What is read out of a buffer**, by the positions of its bytes. -/
theorem decode_eq (b : FtpBuffer) : decode b = (do
    let opcode ← FtpOpcode.tryFrom (b.byte 3)
    let reqOpcode ← FtpOpcode.tryFrom (b.byte 5)
    .ok { seqNumber := UInt16.ofNat (ofLe (slice b.val 0 2))
          session := b.byte 2
          opcode
          size := b.byte 4
          reqOpcode
          burstComplete := b.byte 6
          offset := UInt32.ofNat (ofLe (slice b.val 8 4))
          data := slice b.val ftpHeaderLen b.dataLen }) := by
  cases b using FtpBuffer.header_cases
  rfl

end FtpPayload

/-! ## 2. What is refused -/

theorem FtpOpcode.toU8_of_fromRepr {v : UInt8} {o : FtpOpcode} (h : fromRepr v = some o) :
    o.toU8 = v := by
  unfold fromRepr at h
  split at h
  -- one case a row of the table, and the last for every other byte
  all_goals cases h
  all_goals exact UInt8.toNat_inj.mp (Eq.symm (by assumption))

theorem FtpOpcode.tryFrom_ok {v : UInt8} {o : FtpOpcode} (h : tryFrom v = .ok o) : o.toU8 = v := by
  unfold tryFrom at h
  split at h
  · rename_i o' ho
    cases h
    exact toU8_of_fromRepr ho
  · cases h

theorem FtpOpcode.tryFrom_error_iff {v : UInt8} :
    (∃ e, tryFrom v = .error e) ↔ fromRepr v = Option.none := by
  unfold tryFrom
  split
  · rename_i o ho
    simp [ho]
  · rename_i hn
    simp [hn]

namespace FtpPayload

/-- **Only an unknown opcode is refused.** -/
theorem decode_error_iff (b : FtpBuffer) : (∃ e, decode b = .error e) ↔
    FtpOpcode.fromRepr (b.byte 3) = none ∨ FtpOpcode.fromRepr (b.byte 5) = none := by
  rw [← FtpOpcode.tryFrom_error_iff, ← FtpOpcode.tryFrom_error_iff, decode_eq]
  cases h3 : FtpOpcode.tryFrom (b.byte 3) with
  | error e => simp [bind, Except.bind]
  | ok opcode =>
      cases h5 : FtpOpcode.tryFrom (b.byte 5) with
      | error e => simp [bind, Except.bind]
      | ok reqOpcode => simp [bind, Except.bind]

/-- What is accepted, field by field. -/
theorem decode_ok {b : FtpBuffer} {p : FtpPayload} (h : decode b = .ok p) :
    p.opcode.toU8 = b.byte 3 ∧ p.reqOpcode.toU8 = b.byte 5 ∧
      p = { seqNumber := UInt16.ofNat (ofLe (slice b.val 0 2))
            session := b.byte 2
            opcode := p.opcode
            size := b.byte 4
            reqOpcode := p.reqOpcode
            burstComplete := b.byte 6
            offset := UInt32.ofNat (ofLe (slice b.val 8 4))
            data := slice b.val ftpHeaderLen b.dataLen } := by
  rw [decode_eq] at h
  cases h3 : FtpOpcode.tryFrom (b.byte 3) with
  | error e => simp [h3, bind, Except.bind] at h
  | ok opcode =>
      cases h5 : FtpOpcode.tryFrom (b.byte 5) with
      | error e => simp [h3, h5, bind, Except.bind] at h
      | ok reqOpcode =>
          simp only [h3, h5, bind, Except.bind, Except.ok.injEq] at h
          subst h
          exact ⟨FtpOpcode.tryFrom_ok h3, FtpOpcode.tryFrom_ok h5, rfl⟩

/-! ## 3. What is written again -/

theorem slice_seqNumber (b : FtpBuffer) : slice b.val 0 2 = [b.byte 0, b.byte 1] := by
  cases b using FtpBuffer.header_cases
  rfl

theorem slice_offset (b : FtpBuffer) :
    slice b.val 8 4 = [b.byte 8, b.byte 9, b.byte 10, b.byte 11] := by
  cases b using FtpBuffer.header_cases
  rfl

/-- The header comes back as it was, with the padding cleared. -/
theorem header_of_decode {b : FtpBuffer} {p : FtpPayload} (h : decode b = .ok p) :
    p.header = [b.byte 0, b.byte 1, b.byte 2, b.byte 3, b.byte 4, b.byte 5, b.byte 6, 0,
      b.byte 8, b.byte 9, b.byte 10, b.byte 11] := by
  obtain ⟨hop, hreq, hp⟩ := decode_ok h
  have hseq : toLe 2 p.seqNumber.toNat = [b.byte 0, b.byte 1] := by
    have hlt : ofLe [b.byte 0, b.byte 1] < 256 ^ 2 := ofLe_lt [b.byte 0, b.byte 1]
    have hnum : p.seqNumber.toNat = ofLe [b.byte 0, b.byte 1] := by
      rw [hp, slice_seqNumber]
      exact UInt16.toNat_ofNat_of_lt' hlt
    rw [hnum]
    exact toLe_ofLe [b.byte 0, b.byte 1]
  have hoff : toLe 4 p.offset.toNat = [b.byte 8, b.byte 9, b.byte 10, b.byte 11] := by
    have hlt : ofLe [b.byte 8, b.byte 9, b.byte 10, b.byte 11] < 256 ^ 4 :=
      ofLe_lt [b.byte 8, b.byte 9, b.byte 10, b.byte 11]
    have hnum : p.offset.toNat = ofLe [b.byte 8, b.byte 9, b.byte 10, b.byte 11] := by
      rw [hp, slice_offset]
      exact UInt32.toNat_ofNat_of_lt' hlt
    rw [hnum]
    exact toLe_ofLe [b.byte 8, b.byte 9, b.byte 10, b.byte 11]
  rw [header, hseq, hoff, hop, hreq, hp]
  rfl

theorem encode_val (p : FtpPayload) : p.encode.val = p.header ++ p.dataArea := rfl

theorem length_header (p : FtpPayload) : p.header.length = ftpHeaderLen := by
  simp only [header, List.length_append, length_toLe, List.length_cons, List.length_nil]
  rfl

/-- The declared data comes back, and nothing behind it. -/
theorem dataArea_of_decode {b : FtpBuffer} {p : FtpPayload} (h : decode b = .ok p) :
    p.dataArea = padTo (slice b.val ftpHeaderLen b.dataLen) ftpDataMaxLen 0 := by
  have hdata : p.data = slice b.val ftpHeaderLen b.dataLen := by rw [(decode_ok h).2.2]
  have hlen : (slice b.val ftpHeaderLen b.dataLen).length ≤ ftpDataMaxLen :=
    Nat.le_trans (List.length_take_le _ _) (Nat.min_le_right _ _)
  rw [dataArea, hdata, List.take_of_length_le hlen]

theorem length_slice_data (b : FtpBuffer) :
    (slice b.val ftpHeaderLen b.dataLen).length = b.dataLen := by
  have hle : b.dataLen ≤ ftpDataMaxLen := Nat.min_le_right _ _
  refine length_slice ?_
  rw [b.property]
  simp only [ftpDataMaxLen_eq, ftpHeaderLen, ftpMessagePayload] at hle ⊢
  omega

/-- **Every byte that was looked at is written again.** -/
theorem encode_decode {b : FtpBuffer} {p : FtpPayload} (h : decode b = .ok p) {i : Fin 251}
    (hi : i.val < 7 ∨ 8 ≤ i.val ∧ i.val < ftpHeaderLen + b.dataLen) :
    p.encode.byte i = b.byte i := by
  apply Option.some.inj
  rw [← FtpBuffer.getElem?_byte, ← FtpBuffer.getElem?_byte, encode_val]
  by_cases hhead : i.val < ftpHeaderLen
  · rw [List.getElem?_append_left (by rw [length_header]; exact hhead), header_of_decode h]
    obtain ⟨i, hi251⟩ := i
    simp only [ftpHeaderLen] at hhead hi ⊢
    have h7 : i ≠ 7 := by omega
    interval_cases i
    all_goals first
      | exact absurd rfl h7
      | exact (b.getElem?_byte _).symm
  · have hge : ftpHeaderLen ≤ i.val := Nat.le_of_not_lt hhead
    have hlt : i.val - ftpHeaderLen < b.dataLen := by
      simp only [ftpHeaderLen] at hge hi ⊢
      omega
    rw [List.getElem?_append_right (by rw [length_header]; exact hge), length_header,
      dataArea_of_decode h, getElem?_padTo (by rw [length_slice_data]; exact hlt),
      getElem?_slice hlt, Nat.add_sub_cancel' hge]

/-- **Everything else is zero**: the padding byte and what the size byte does not declare. -/
theorem encode_decode_zero {b : FtpBuffer} {p : FtpPayload} (h : decode b = .ok p) {i : Fin 251}
    (hi : i.val = 7 ∨ ftpHeaderLen + b.dataLen ≤ i.val) : p.encode.byte i = 0 := by
  apply Option.some.inj
  rw [← FtpBuffer.getElem?_byte, encode_val]
  rcases hi with h7 | hge
  · rw [h7, header_of_decode h]
    rfl
  · have hhead : ftpHeaderLen ≤ i.val := Nat.le_trans (Nat.le_add_right _ _) hge
    have hlen := length_slice_data b
    have hle : b.dataLen ≤ ftpDataMaxLen := Nat.min_le_right _ _
    have hi251 := i.isLt
    rw [List.getElem?_append_right (by rw [length_header]; exact hhead), length_header,
      dataArea_of_decode h, padTo, List.getElem?_append_right (by rw [hlen]; omega), hlen,
      List.getElem?_replicate_of_lt]
    simp only [ftpHeaderLen, ftpDataMaxLen_eq] at hle hge ⊢
    omega

/-- **The wire format round trip, over every payload that fits and over every buffer.** -/
theorem wire_format_round_trip :
    (∀ p : FtpPayload, p.data.length = p.size.toNat → p.data.length ≤ ftpDataMaxLen →
      decode p.encode = .ok p) ∧
    ∀ b : FtpBuffer,
      ((∃ e, decode b = .error e) ↔
        FtpOpcode.fromRepr (b.byte 3) = none ∨ FtpOpcode.fromRepr (b.byte 5) = none) ∧
      ∀ p, decode b = .ok p →
        (∀ i : Fin 251, i.val < 7 ∨ 8 ≤ i.val ∧
          i.val < ftpHeaderLen + min p.size.toNat ftpDataMaxLen → p.encode.byte i = b.byte i) ∧
        ∀ i : Fin 251, i.val = 7 ∨ ftpHeaderLen + min p.size.toNat ftpDataMaxLen ≤ i.val →
          p.encode.byte i = 0 := by
  refine ⟨fun p hsize hfit => decode_encode_of_fits hfit hsize.symm,
    fun b => ⟨decode_error_iff b, fun p hp => ?_⟩⟩
  have hdeclared : min p.size.toNat ftpDataMaxLen = b.dataLen := by
    rw [FtpBuffer.dataLen, (decode_ok hp).2.2]
  rw [hdeclared]
  exact ⟨fun _ hi => encode_decode hp hi, fun _ hi => encode_decode_zero hp hi⟩

/-- A one-byte reply, and the buffer whose bytes are all one: its size byte declares one byte of
    data, the padding and the rest are cleared. -/
theorem wire_format_round_trip_ones :
    decode (FtpPayload.encode ⟨7, 2, .ack, 1, .readFile, 0, 300, [42]⟩) =
      .ok ⟨7, 2, .ack, 1, .readFile, 0, 300, [42]⟩ ∧
    ∃ p, decode ⟨List.replicate 251 1, List.length_replicate⟩ = .ok p ∧
      p.encode.byte 12 = 1 ∧ p.encode.byte 7 = 0 ∧ p.encode.byte 13 = 0 := by
  refine ⟨wire_format_round_trip.1 _ (by decide) (by decide),
    ⟨257, 1, .terminateSession, 1, .terminateSession, 1, 16843009, [1]⟩, by decide, ?_⟩
  have h := (wire_format_round_trip.2 ⟨List.replicate 251 1, List.length_replicate⟩).2
    ⟨257, 1, .terminateSession, 1, .terminateSession, 1, 16843009, [1]⟩ (by decide)
  exact ⟨h.1 12 (by decide), h.2 7 (by decide), h.2 13 (by decide)⟩

end FtpPayload
end MavlinkServer.Ftp
