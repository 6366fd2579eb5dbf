/-
  File:      MavlinkServer/Drivers/Adapters.lean
  Subject:   THE STREAM SIDE OF THE ADAPTERS (`ZenohRawReader::poll_next` in
             `src/lib/drivers/zenoh/raw_adapter.rs`, and `poll_next` of
             `WebSocketClientAdapter` and `WebSocketServerAdapter` in
             `src/lib/drivers/websocket/`).

  The three take samples or frames in and decode packets out of what they have.
  The two of the WebSocket are one loop (`Lib/Decoder`) with the frames of their
  own library; the reader of Zenoh goes on to `decode_eof` when the samples end.
  The codec is a parameter.

  * `TungsteniteMessage`, `AxumMessage`, `Sample` -- what is taken in;
  * `pollNext` of each adapter, and `carried`, the bytes in a piece;
  * **`adapters_uncut`** -- for a codec that is incremental, the packets of all
    three do not depend on where the bytes are cut, and an error loses none;
  * `heartbeatCodec` -- a codec of that kind, for heartbeats.
-/
import MavlinkServer.Lib.Decoder
import MavlinkServer.Tlog.Replay

namespace MavlinkServer.Drivers

open Lib

/-! ## 1. WebSockets -/

/-- The IO errors of the adapters, and those that the codec has of its own. -/
inductive IoError (ε : Type) where
  | invalidData (text : String)
  | other (error : ε)
  | codec (error : ε)
  deriving DecidableEq, Repr

/-- `tokio_tungstenite::tungstenite::Message` -/
inductive TungsteniteMessage where
  | text (text : String)
  | binary (data : List UInt8)
  | ping (data : List UInt8)
  | pong (data : List UInt8)
  | close (frame : Option (UInt16 × String))
  | frame (payload : List UInt8)
  deriving DecidableEq, Repr

/-- `axum::extract::ws::Message` -/
inductive AxumMessage where
  | text (text : String)
  | binary (data : List UInt8)
  | ping (data : List UInt8)
  | pong (data : List UInt8)
  | close (frame : Option (UInt16 × String))
  deriving DecidableEq, Repr

variable {σ ι ε : Type}

abbrev WebSocketClientAdapter (σ : Type) := Buffered σ UInt8

/-- The `match` on what the socket gives. -/
def WebSocketClientAdapter.feed :
    Option (Except ε TungsteniteMessage) → Feed UInt8 (IoError ε)
  | some (.ok (.binary data)) => .data data
  | some (.ok (.close _)) | some (.ok (.ping _)) | some (.ok (.pong _))
  | some (.ok (.frame _)) => .skip
  | some (.ok (.text _)) => .fail (.invalidData "Text frames not supported")
  | some (.error error) => .fail (.other error)
  | none => .ended

def WebSocketClientAdapter.pollNext (codec : Decoder σ UInt8 ι (IoError ε))
    (inner : List (Poll (Option (Except ε TungsteniteMessage)))) (adapter : WebSocketClientAdapter σ) :
    Poll (Option (Except (IoError ε) ι)) × WebSocketClientAdapter σ ×
      List (Poll (Option (Except ε TungsteniteMessage))) :=
  Buffered.pollNext codec WebSocketClientAdapter.feed inner adapter

/-- The bytes of the stream in a frame. -/
def TungsteniteMessage.carried : Option (Except ε TungsteniteMessage) → Option (List UInt8)
  | some (.ok (.binary data)) => some data
  | some (.ok (.ping _)) | some (.ok (.pong _)) | some (.ok (.close _)) | some (.ok (.frame _)) =>
      some []
  | _ => none

abbrev WebSocketServerAdapter (σ : Type) := Buffered σ UInt8

def WebSocketServerAdapter.feed : Option (Except ε AxumMessage) → Feed UInt8 (IoError ε)
  | some (.ok (.binary data)) => .data data
  | some (.ok (.close _)) | some (.ok (.ping _)) | some (.ok (.pong _)) => .skip
  | some (.ok (.text _)) => .fail (.invalidData "Text frames not supported")
  | some (.error error) => .fail (.other error)
  | none => .ended

def WebSocketServerAdapter.pollNext (codec : Decoder σ UInt8 ι (IoError ε))
    (inner : List (Poll (Option (Except ε AxumMessage)))) (adapter : WebSocketServerAdapter σ) :
    Poll (Option (Except (IoError ε) ι)) × WebSocketServerAdapter σ ×
      List (Poll (Option (Except ε AxumMessage))) :=
  Buffered.pollNext codec WebSocketServerAdapter.feed inner adapter

def AxumMessage.carried : Option (Except ε AxumMessage) → Option (List UInt8)
  | some (.ok (.binary data)) => some data
  | some (.ok (.ping _)) | some (.ok (.pong _)) | some (.ok (.close _)) => some []
  | _ => none

theorem feed_tungstenite (message : Option (Except ε TungsteniteMessage)) (bytes : List UInt8)
    (h : TungsteniteMessage.carried message = some bytes) :
    (WebSocketClientAdapter.feed message).bytes? = some bytes := by
  unfold TungsteniteMessage.carried at h
  split at h
  all_goals cases h
  all_goals rfl

theorem feed_axum (message : Option (Except ε AxumMessage)) (bytes : List UInt8)
    (h : AxumMessage.carried message = some bytes) :
    (WebSocketServerAdapter.feed message).bytes? = some bytes := by
  unfold AxumMessage.carried at h
  split at h
  all_goals cases h
  all_goals rfl

/-! ## 2. Zenoh -/

structure Sample where
  /-- `payload().slices()` -/
  slices : List (List UInt8)
  deriving DecidableEq, Repr

structure ZenohRawReader (σ : Type) where
  codec : σ
  buffer : List UInt8
  endOfStream : Bool
  deriving DecidableEq, Repr

def ZenohRawReader.pollNext (codec : Decoder σ UInt8 ι (IoError ε))
    (decodeEof : σ → List UInt8 → Except (IoError ε) (Option ι) × σ × List UInt8)
    (samples : List (Poll (Option Sample))) (reader : ZenohRawReader σ) :
    Poll (Option (Except (IoError ε) ι)) × ZenohRawReader σ × List (Poll (Option Sample)) :=
  let decodeResult :=
    if reader.endOfStream then decodeEof reader.codec reader.buffer
    else codec.decode reader.codec reader.buffer
  let reader : ZenohRawReader σ :=
    { reader with codec := decodeResult.2.1, buffer := decodeResult.2.2 }
  match decodeResult.1 with
  | .ok (some item) => (.ready (some (.ok item)), reader, samples)
  | .ok none =>
      if reader.endOfStream then (.ready none, reader, samples)
      else
        -- need more data
        match samples with
        | [] => (.pending, reader, [])
        | .pending :: samples => (.pending, reader, samples)
        | .ready (some sample) :: samples =>
            pollNext codec decodeEof samples
              { reader with buffer := sample.slices.foldl (· ++ ·) reader.buffer }
        | .ready none :: samples =>
            pollNext codec decodeEof samples { reader with endOfStream := true }
  | .error error => (.ready (some (.error error)), reader, samples)

/-- While there are samples. -/
def ZenohRawReader.receiving (r : Buffered σ UInt8) : ZenohRawReader σ := ⟨r.codec, r.buffer, false⟩

def Sample.carried (sample : Option Sample) : Option (List UInt8) :=
  sample.map fun sample => sample.slices.flatten

/-- While it receives, the reader of Zenoh is the same loop, the payload of a sample being its data. -/
def Sample.feed : Option Sample → Feed UInt8 (IoError ε)
  | some sample => .data sample.slices.flatten
  | none => .ended

section Receiving

variable {codec : Decoder σ UInt8 ι (IoError ε)}
  {decodeEof : σ → List UInt8 → Except (IoError ε) (Option ι) × σ × List UInt8}
  {samples : List (Poll (Option Sample))} {bytes : List UInt8}

theorem feed_sample (sample : Option Sample) (bytes : List UInt8)
    (h : Sample.carried sample = some bytes) :
    (Sample.feed sample : Feed UInt8 (IoError ε)).bytes? = some bytes := by
  cases sample with
  | none => cases h
  | some sample => exact h

section Attempt

variable {r : Buffered σ UInt8} {s : σ} {b : List UInt8}

theorem receiving_item {item : ι} (h : codec.decode r.codec r.buffer = (.ok (some item), s, b)) :
    ZenohRawReader.pollNext codec decodeEof samples (.receiving r) =
      (.ready (some (.ok item)), .receiving ⟨s, b⟩, samples) := by
  unfold ZenohRawReader.pollNext
  simp only [ZenohRawReader.receiving, Bool.false_eq_true, if_false, h]

theorem receiving_error {e : IoError ε} (h : codec.decode r.codec r.buffer = (.error e, s, b)) :
    ZenohRawReader.pollNext codec decodeEof samples (.receiving r) =
      (.ready (some (.error e)), .receiving ⟨s, b⟩, samples) := by
  unfold ZenohRawReader.pollNext
  simp only [ZenohRawReader.receiving, Bool.false_eq_true, if_false, h]

theorem receiving_wait (h : codec.decode r.codec r.buffer = (.ok none, s, b))
    {rest : List (Poll (Option Sample))}
    (hrest : samples = [] ∧ rest = [] ∨ samples = .pending :: rest) :
    ZenohRawReader.pollNext codec decodeEof samples (.receiving r) =
      (.pending, .receiving ⟨s, b⟩, rest) := by
  rcases hrest with ⟨rfl, rfl⟩ | rfl
  · unfold ZenohRawReader.pollNext
    simp only [ZenohRawReader.receiving, Bool.false_eq_true, if_false, h]
  · unfold ZenohRawReader.pollNext
    simp only [ZenohRawReader.receiving, Bool.false_eq_true, if_false, h]

theorem receiving_sample (h : codec.decode r.codec r.buffer = (.ok none, s, b))
    {sample : Option Sample}
    (hcarried : Sample.carried sample = some bytes) :
    ZenohRawReader.pollNext codec decodeEof (.ready sample :: samples) (.receiving r) =
      ZenohRawReader.pollNext codec decodeEof samples (.receiving ⟨s, b ++ bytes⟩) := by
  cases sample with
  | none => cases hcarried
  | some sample =>
    cases hcarried
    have hslices : sample.slices.foldl (· ++ ·) b = b ++ sample.slices.flatten := by
      rw [List.foldl_append_eq_append, List.map_id']
    conv => lhs; rw [ZenohRawReader.pollNext]
    simp only [ZenohRawReader.receiving, Bool.false_eq_true, if_false, h, hslices]

end Attempt

variable (decodeEof) in
theorem pollNext_receiving (hcut : Cut Sample.carried samples bytes) (r : Buffered σ UInt8) :
    ∃ answer r' rest, Buffered.pollNext codec Sample.feed samples r = (answer, r', rest) ∧
      ZenohRawReader.pollNext codec decodeEof samples (.receiving r) =
        (answer, .receiving r', rest) ∧ ∃ more, Cut Sample.carried rest more := by
  induction hcut generalizing r with
  | nil =>
    rcases hd : codec.decode r.codec r.buffer with ⟨e | _ | item, s, b⟩
    · exact ⟨_, _, _, pollNext_error hd, receiving_error hd, _, .nil⟩
    · exact ⟨_, _, _, pollNext_wait hd (.inl ⟨rfl, rfl⟩), receiving_wait hd (.inl ⟨rfl, rfl⟩), _, .nil⟩
    · exact ⟨_, _, _, pollNext_item hd, receiving_item hd, _, .nil⟩
  | pending later _ =>
    rcases hd : codec.decode r.codec r.buffer with ⟨e | _ | item, s, b⟩
    · exact ⟨_, _, _, pollNext_error hd, receiving_error hd, _, .pending later⟩
    · exact ⟨_, _, _, pollNext_wait hd (.inr rfl), receiving_wait hd (.inr rfl), _, later⟩
    · exact ⟨_, _, _, pollNext_item hd, receiving_item hd, _, .pending later⟩
  | piece h later ih =>
    rcases hd : codec.decode r.codec r.buffer with ⟨e | _ | item, s, b⟩
    · exact ⟨_, _, _, pollNext_error hd, receiving_error hd, _, .piece h later⟩
    · obtain ⟨answer, r', rest, hpoll, hzenoh, hmore⟩ := ih ⟨s, b ++ _⟩
      exact ⟨answer, r', rest, (pollNext_feed hd (feed_sample _ _ h)).trans hpoll,
        (receiving_sample hd h).trans hzenoh, hmore⟩
    · exact ⟨_, _, _, pollNext_item hd, receiving_item hd, _, .piece h later⟩

/-- What the reader of Zenoh does with samples, whatever is left of them. -/
theorem receiving_of_pollNext {r r' : Buffered σ UInt8} {rest : List (Poll (Option Sample))}
    {answer : Poll (Option (Except (IoError ε) ι))}
    (hcut : ∃ bytes, Cut Sample.carried samples bytes)
    (h : Buffered.pollNext codec Sample.feed samples r = (answer, r', rest)) :
    ZenohRawReader.pollNext codec decodeEof samples (.receiving r) = (answer, .receiving r', rest) ∧
      ∃ more, Cut Sample.carried rest more := by
  obtain ⟨bytes, hcut⟩ := hcut
  obtain ⟨answer', r₁, rest', hpoll, hzenoh⟩ :=
    pollNext_receiving decodeEof hcut r
  rw [h] at hpoll
  cases hpoll
  exact hzenoh

end Receiving

/-! ## 3. Cuts -/

/-- **Adapters uncut**: whichever way the bytes come in samples or in frames, with frames that carry
    none in between, polling comes to wait for more with the items that the codec has for all the
    bytes at once, and a decode error loses none of those still buffered. -/
theorem adapters_uncut {codec : Decoder σ UInt8 ι (IoError ε)} (hcodec : Incremental codec)
    (decodeEof : σ → List UInt8 → Except (IoError ε) (Option ι) × σ × List UInt8) :
    (CutFree codec (ZenohRawReader.pollNext codec decodeEof) .receiving Sample.carried ∧
      KeepsBuffer codec (ZenohRawReader.pollNext codec decodeEof) .receiving Sample.carried) ∧
    (CutFree codec (WebSocketClientAdapter.pollNext codec) id TungsteniteMessage.carried ∧
      KeepsBuffer codec (WebSocketClientAdapter.pollNext codec) id TungsteniteMessage.carried) ∧
    (CutFree codec (WebSocketServerAdapter.pollNext codec) id AxumMessage.carried ∧
      KeepsBuffer codec (WebSocketServerAdapter.pollNext codec) id AxumMessage.carried) := by
  refine ⟨⟨?_, ?_⟩, ⟨?_, ?_⟩, ?_, ?_⟩
  · exact (hcodec.cutFree feed_sample).map receiving_of_pollNext
  · intro r samples bytes hcut e reader rest h
    obtain ⟨answer, r', rest', hpoll, hzenoh, _⟩ := pollNext_receiving decodeEof hcut r
    rw [hzenoh] at h
    cases h
    obtain ⟨last, s, b, hawaits, hdecode, rfl⟩ :=
      keepsBuffer_pollNext codec feed_sample r samples bytes hcut e r' rest hpoll
    exact ⟨last, s, b, hawaits, hdecode, rfl⟩
  · exact hcodec.cutFree feed_tungstenite
  · exact keepsBuffer_pollNext codec feed_tungstenite
  · exact hcodec.cutFree feed_axum
  · exact keepsBuffer_pollNext codec feed_axum

/-! ## 4. A codec -/

open Tlog

/-- What starts here, or may start here when more bytes come: a frame, or too little of one. -/
def opens (bytes : List UInt8) : Bool :=
  bytes.head? = some magicV2 ∧ bytes.length < announcedLength bytes

/-- The first heartbeat in the bytes, and what is behind it; what is in front of it is skipped. -/
def decodeHeartbeat : List UInt8 → Option Packet × List UInt8
  | [] => (none, [])
  | byte :: bytes =>
      match heartbeatFrame? (byte :: bytes) with
      | some n => (some (packetOfFrame ((byte :: bytes).take n)), (byte :: bytes).drop n)
      | none =>
          if opens (byte :: bytes) then (none, byte :: bytes)
          else decodeHeartbeat bytes

/-- A codec that knows heartbeats. -/
def heartbeatCodec : Decoder Unit UInt8 Packet (IoError String) where
  decode := fun _ bytes => (.ok (decodeHeartbeat bytes).1, (), (decodeHeartbeat bytes).2)

/-- Where no frame starts, none starts with more bytes behind. -/
theorem heartbeatFrame?_append_none {bytes : List UInt8} (more : List UInt8)
    (hne : bytes ≠ []) (hnone : heartbeatFrame? bytes = none) (hclosed : opens bytes = false) :
    heartbeatFrame? (bytes ++ more) = none ∧ opens (bytes ++ more) = false := by
  have hhead : (bytes ++ more).head? = bytes.head? := by
    rcases bytes with _ | ⟨b, bytes⟩
    · exact absurd rfl hne
    · rfl
  by_cases hmagic : bytes.head? = some magicV2
  · have hle : announcedLength bytes ≤ bytes.length := by
      unfold opens at hclosed
      simp only [hmagic, true_and, decide_eq_false_iff_not] at hclosed
      omega
    have hlength := announcedLength_append more hle
    constructor
    · cases hframe : heartbeatFrame? (bytes ++ more) with
      | none => rfl
      | some n =>
        obtain ⟨_, rfl, _, hcrc⟩ := heartbeatFrame?_eq_some hframe
        rw [hlength, List.take_append_of_le_length hle] at hcrc
        unfold heartbeatFrame? at hnone
        rw [if_pos ⟨hmagic, hle, hcrc⟩] at hnone
        cases hnone
    · unfold opens
      rw [hlength, List.length_append]
      exact decide_eq_false fun h => by omega
  · constructor
    · cases hframe : heartbeatFrame? (bytes ++ more) with
      | none => rfl
      | some n => exact absurd (hhead ▸ (heartbeatFrame?_eq_some hframe).1) hmagic
    · unfold opens
      rw [hhead]
      exact decide_eq_false fun h => hmagic h.1

section Decode

variable {bytes rest : List UInt8} {byte : UInt8}

theorem decodeHeartbeat_frame {n : Nat} (h : heartbeatFrame? (byte :: bytes) = some n) :
    decodeHeartbeat (byte :: bytes) =
      (some (packetOfFrame ((byte :: bytes).take n)), (byte :: bytes).drop n) := by
  rw [decodeHeartbeat, h]

theorem decodeHeartbeat_opens (h : heartbeatFrame? (byte :: bytes) = none)
    (hopens : opens (byte :: bytes) = true) :
    decodeHeartbeat (byte :: bytes) = (none, byte :: bytes) := by
  rw [decodeHeartbeat, h]
  exact if_pos hopens

theorem decodeHeartbeat_skip (h : heartbeatFrame? (byte :: bytes) = none)
    (hopens : opens (byte :: bytes) = false) :
    decodeHeartbeat (byte :: bytes) = decodeHeartbeat bytes := by
  rw [decodeHeartbeat, h]
  exact if_neg (by rw [hopens]; exact Bool.false_ne_true)

/-- What is skipped is skipped with more bytes behind, too. -/
theorem decodeHeartbeat_skip_append (more : List UInt8) (h : heartbeatFrame? (byte :: bytes) = none)
    (hopens : opens (byte :: bytes) = false) :
    decodeHeartbeat (byte :: bytes ++ more) = decodeHeartbeat (bytes ++ more) := by
  obtain ⟨hframe, hclosed⟩ := heartbeatFrame?_append_none more (List.cons_ne_nil _ _) h hopens
  exact decodeHeartbeat_skip hframe hclosed

theorem decodeHeartbeat_item {p : Packet} (h : decodeHeartbeat bytes = (some p, rest)) :
    rest.length < bytes.length ∧
      ∀ more, decodeHeartbeat (bytes ++ more) = (some p, rest ++ more) := by
  induction bytes with
  | nil => cases h
  | cons byte bytes ih =>
    cases hframe : heartbeatFrame? (byte :: bytes) with
    | some n =>
      obtain ⟨hpos, hle⟩ := heartbeatReader.frame_length _ _ hframe
      rw [decodeHeartbeat_frame hframe] at h
      cases h
      refine ⟨?_, fun more => ?_⟩
      · rw [List.length_drop]
        omega
      · have happend : heartbeatFrame? (byte :: (bytes ++ more)) = some n :=
          heartbeatReader.frame_append _ more _ hframe
        show decodeHeartbeat (byte :: (bytes ++ more)) = _
        rw [decodeHeartbeat_frame happend, ← List.cons_append,
          List.take_append_of_le_length hle, List.drop_append_of_le_length hle]
    | none =>
      cases hopens : opens (byte :: bytes) with
      | true =>
        rw [decodeHeartbeat_opens hframe hopens] at h
        cases h
      | false =>
        rw [decodeHeartbeat_skip hframe hopens] at h
        obtain ⟨hlt, hmore⟩ := ih h
        refine ⟨Nat.lt_succ_of_lt hlt, fun more => ?_⟩
        rw [decodeHeartbeat_skip_append more hframe hopens]
        exact hmore more

theorem decodeHeartbeat_none (h : decodeHeartbeat bytes = (none, rest)) (more : List UInt8) :
    decodeHeartbeat (bytes ++ more) = decodeHeartbeat (rest ++ more) := by
  induction bytes with
  | nil =>
    cases h
    rfl
  | cons byte bytes ih =>
    cases hframe : heartbeatFrame? (byte :: bytes) with
    | some n =>
      rw [decodeHeartbeat_frame hframe] at h
      cases h
    | none =>
      cases hopens : opens (byte :: bytes) with
      | true =>
        rw [decodeHeartbeat_opens hframe hopens] at h
        cases h
        rfl
      | false =>
        rw [decodeHeartbeat_skip hframe hopens] at h
        rw [decodeHeartbeat_skip_append more hframe hopens]
        exact ih h

theorem heartbeatCodec_decode {s s' : Unit} {item : Option Packet}
    (h : heartbeatCodec.decode s bytes = (.ok item, s', rest)) :
    decodeHeartbeat bytes = (item, rest) := by
  unfold heartbeatCodec at h
  simp only [Prod.mk.injEq, Except.ok.injEq] at h
  exact Prod.ext h.1 h.2.2

end Decode

theorem heartbeatCodec_incremental : Incremental heartbeatCodec :=
  .of_stable
    (fun h => by
      obtain ⟨hlt, hmore⟩ := decodeHeartbeat_item (heartbeatCodec_decode h)
      refine ⟨hlt, fun ys => ?_⟩
      show (_, _, _) = _
      rw [hmore ys])
    (fun h => by cases h)
    (fun h ys => by
      show (_, _, _) = (_, _, _)
      rw [decodeHeartbeat_none (heartbeatCodec_decode h) ys])

/-- A heartbeat in two frames, with an empty frame in front and a ping in between. -/
def cutHeartbeat : List (Poll (Option (Except String AxumMessage))) :=
  [.ready (some (.ok (.binary []))), .ready (some (.ok (.binary (heartbeatPacket.bytes.take 7)))),
    .pending, .ready (some (.ok (.ping [1]))),
    .ready (some (.ok (.binary (heartbeatPacket.bytes.drop 7))))]

theorem adapters_uncut_ping :
    Cut AxumMessage.carried cutHeartbeat heartbeatPacket.bytes ∧
      Polled (WebSocketServerAdapter.pollNext heartbeatCodec) cutHeartbeat ⟨(), []⟩
        [.ok heartbeatPacket] := by
  have hcut : Cut AxumMessage.carried cutHeartbeat ([] ++ (heartbeatPacket.bytes.take 7 ++
      ([] ++ (heartbeatPacket.bytes.drop 7 ++ [])))) :=
    .piece rfl (.piece rfl (.pending (.piece rfl (.piece rfl .nil))))
  replace hcut : Cut AxumMessage.carried cutHeartbeat heartbeatPacket.bytes := hcut
  have hdecode : decodeHeartbeat heartbeatPacket.bytes = (some heartbeatPacket, []) := by
    decide +kernel
  have hdrains :
      Drains heartbeatCodec () ([] ++ heartbeatPacket.bytes) [.ok heartbeatPacket] () [] := by
    have hfirst : heartbeatCodec.decode () ([] ++ heartbeatPacket.bytes) =
        (.ok (some heartbeatPacket), (), []) := by
      show (_, _, _) = _
      rw [List.nil_append, hdecode]
    exact .item hfirst (.dry rfl)
  obtain ⟨_, _, hserver, _⟩ :=
    adapters_uncut heartbeatCodec_incremental fun s b => (.ok none, s, b)
  obtain ⟨items, t, u, hwhole, hpolled⟩ := hserver ⟨(), []⟩ heartbeatPacket.bytes
  exact ⟨hcut, (hpolled cutHeartbeat hcut _).mpr (hdrains.unique hwhole).1⟩

end MavlinkServer.Drivers
