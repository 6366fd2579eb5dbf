/-
  File:      MavlinkServer/Ftp/Protocol.lean
  Subject:   THE PAYLOAD OF A MAVLINK FTP MESSAGE
             (`src/lib/drivers/rest/mavftp/protocol.rs`).

  * `FtpOpcode`, `FtpError` -- the two `repr(u8)` enumerations with their
    `from_repr` tables;
  * `FtpPayload`, `encode`, `decode` -- the 251-byte wire format: a header of
    12 bytes and 239 bytes of data;
  * `checkNak` -- a reply read as a result;
  * `decode_encode` -- what the other side reads out of an encoded request:
    every header field, and the data as far as `size` and the 239 bytes reach.
-/
import MavlinkServer.Lib.LittleEndian
import MavlinkServer.Lib.Overlay

namespace MavlinkServer.Ftp

open Lib

/-! ## 1. Opcodes and error codes -/

def ftpHeaderLen : Nat := 12
def ftpMessagePayload : Nat := 251
def ftpDataMaxLen : Nat := ftpMessagePayload - ftpHeaderLen

@[simp] theorem ftpDataMaxLen_eq : ftpDataMaxLen = 239 := rfl

inductive FtpOpcode where
  | none
  | terminateSession
  | resetSessions
  | listDirectory
  | openFileRO
  | readFile
  | createFile
  | writeFile
  | removeFile
  | createDirectory
  | removeDirectory
  | openFileWO
  | truncateFile
  | rename
  | calcFileCRC32
  | burstReadFile
  | ack
  | nak
  deriving DecidableEq, Repr

/-- `self.opcode as u8`. -/
def FtpOpcode.toU8 : FtpOpcode → UInt8
  | .none => 0
  | .terminateSession => 1
  | .resetSessions => 2
  | .listDirectory => 3
  | .openFileRO => 4
  | .readFile => 5
  | .createFile => 6
  | .writeFile => 7
  | .removeFile => 8
  | .createDirectory => 9
  | .removeDirectory => 10
  | .openFileWO => 11
  | .truncateFile => 12
  | .rename => 13
  | .calcFileCRC32 => 14
  | .burstReadFile => 15
  | .ack => 128
  | .nak => 129

def FtpOpcode.fromRepr (v : UInt8) : Option FtpOpcode :=
  match v.toNat with
  | 0 => some .none
  | 1 => some .terminateSession
  | 2 => some .resetSessions
  | 3 => some .listDirectory
  | 4 => some .openFileRO
  | 5 => some .readFile
  | 6 => some .createFile
  | 7 => some .writeFile
  | 8 => some .removeFile
  | 9 => some .createDirectory
  | 10 => some .removeDirectory
  | 11 => some .openFileWO
  | 12 => some .truncateFile
  | 13 => some .rename
  | 14 => some .calcFileCRC32
  | 15 => some .burstReadFile
  | 128 => some .ack
  | 129 => some .nak
  | _ => Option.none

@[simp] theorem FtpOpcode.fromRepr_toU8 (o : FtpOpcode) : fromRepr o.toU8 = some o := by
  cases o <;> rfl

inductive FtpError where
  | none
  | fail
  | failErrno
  | invalidDataSize
  | invalidSession
  | noSessionsAvailable
  | eof
  | unknownCommand
  | fileExists
  | fileProtected
  | fileNotFound
  deriving DecidableEq, Repr

def FtpError.fromRepr (v : UInt8) : Option FtpError :=
  match v.toNat with
  | 0 => some .none
  | 1 => some .fail
  | 2 => some .failErrno
  | 3 => some .invalidDataSize
  | 4 => some .invalidSession
  | 5 => some .noSessionsAvailable
  | 6 => some .eof
  | 7 => some .unknownCommand
  | 8 => some .fileExists
  | 9 => some .fileProtected
  | 10 => some .fileNotFound
  | _ => Option.none

structure FtpNakError where
  errCode : FtpError
  errno : Option UInt8
  deriving DecidableEq, Repr

/-- The errors the FTP client returns (`anyhow::Error` in the source, one constructor for each
    place that makes one). `context` is `anyhow`'s wrapper with its text. -/
inductive FtpFailure where
  /-- `FtpClientError::TimedOut` -/
  | timedOut
  | nak (error : FtpNakError)
  /-- "Unknown FTP opcode: {v}" -/
  | unknownOpcode (v : UInt8)
  /-- the cursor ran out of bytes (not reachable on a 251-byte payload) -/
  | unexpectedEof
  /-- "Hub broadcast channel closed" -/
  | channelClosed
  /-- `hub::sender()` got no answer from the hub -/
  | hubUnavailable
  /-- "FTP response declared {chunk_size} bytes but only provided {}" -/
  | shortChunk (declared provided : Nat)
  /-- "CRC32 response too short" -/
  | crcTooShort
  /-- "File size {file_size} bytes exceeds limit of {max} bytes" -/
  | tooLarge (fileSize max : Nat)
  /-- the slice `&entry[1..]` of `parse_listing_entries` panics -/
  | slicePanic
  | context (text : String) (cause : FtpFailure)
  deriving DecidableEq, Repr

def FtpOpcode.tryFrom (v : UInt8) : Except FtpFailure FtpOpcode :=
  match FtpOpcode.fromRepr v with
  | some o => .ok o
  | Option.none => .error (.unknownOpcode v)

@[simp] theorem FtpOpcode.tryFrom_toU8 (o : FtpOpcode) : tryFrom o.toU8 = .ok o := by
  simp only [tryFrom, fromRepr_toU8]

/-! ## 2. The payload and its wire format -/

structure FtpPayload where
  seqNumber : UInt16
  session : UInt8
  opcode : FtpOpcode
  size : UInt8
  reqOpcode : FtpOpcode
  burstComplete : UInt8
  offset : UInt32
  data : List UInt8
  deriving DecidableEq, Repr

/-- The payload field of a FILE_TRANSFER_PROTOCOL message, `[u8; 251]`. -/
def FtpBuffer : Type := { b : List UInt8 // b.length = ftpMessagePayload }
  deriving DecidableEq

instance : Repr FtpBuffer := ⟨fun b => reprPrec b.val⟩

namespace FtpPayload

/-- The 12 header bytes of `encode`. -/
def header (p : FtpPayload) : List UInt8 :=
  toLe 2 p.seqNumber.toNat ++
    [p.session, p.opcode.toU8, p.size, p.reqOpcode.toU8, p.burstComplete, 0] ++
    toLe 4 p.offset.toNat

/-- `copy_from_slice(&self.data[..copy_len])` into the zeroed data area. -/
def dataArea (p : FtpPayload) : List UInt8 := padTo (p.data.take ftpDataMaxLen) ftpDataMaxLen 0

theorem length_dataArea (p : FtpPayload) : p.dataArea.length = ftpDataMaxLen := by
  rw [dataArea, length_padTo, List.length_take]
  omega

def encode (p : FtpPayload) : FtpBuffer :=
  ⟨p.header ++ p.dataArea, by
    rw [List.length_append, length_dataArea]
    simp only [header, List.length_append, length_toLe, List.length_cons, List.length_nil]
    rfl⟩

def decode (payload : FtpBuffer) : Except FtpFailure FtpPayload :=
  match payload.val with
  | s0 :: s1 :: session :: opcode :: size :: reqOpcode :: burstComplete :: _padding ::
      o0 :: o1 :: o2 :: o3 :: area => do
      let opcode ← FtpOpcode.tryFrom opcode
      let reqOpcode ← FtpOpcode.tryFrom reqOpcode
      .ok { seqNumber := UInt16.ofNat (ofLe [s0, s1])
            session
            opcode
            size
            reqOpcode
            burstComplete
            offset := UInt32.ofNat (ofLe [o0, o1, o2, o3])
            data := area.take (min size.toNat ftpDataMaxLen) }
  | _ => .error .unexpectedEof

/-- A request: only the opcode and the number are set. -/
def newRequest (opcode : FtpOpcode) (seqNumber : UInt16) : FtpPayload where
  seqNumber := seqNumber
  session := 0
  opcode := opcode
  size := 0
  reqOpcode := .none
  burstComplete := 0
  offset := 0
  data := []

/-- **What is read out of an encoded payload**: every header field as it was, and of the data
    area as many bytes as `size` says, 239 at most. -/
theorem decode_encode (p : FtpPayload) :
    decode p.encode = .ok { p with data := p.dataArea.take (min p.size.toNat ftpDataMaxLen) } := by
  have hseq : UInt16.ofNat (ofLe (toLe 2 p.seqNumber.toNat)) = p.seqNumber := by
    rw [ofLe_toLe p.seqNumber.toNat_lt, UInt16.ofNat_toNat]
  have hoff : UInt32.ofNat (ofLe (toLe 4 p.offset.toNat)) = p.offset := by
    rw [ofLe_toLe p.offset.toNat_lt, UInt32.ofNat_toNat]
  simp only [toLe] at hseq hoff
  simp only [decode, encode, header, toLe, List.cons_append, List.nil_append,
    FtpOpcode.tryFrom_toU8, hseq, hoff]
  rfl

/-- Data that fits and is as long as `size` says is read back whole. -/
theorem dataArea_take {p : FtpPayload} (hfit : p.data.length ≤ ftpDataMaxLen)
    (hsize : p.size.toNat = p.data.length) :
    p.dataArea.take (min p.size.toNat ftpDataMaxLen) = p.data := by
  rw [hsize, Nat.min_eq_left hfit, dataArea, List.take_of_length_le hfit, padTo,
    List.take_left]

/-- **The wire format round trip** for payloads whose data fits. -/
theorem decode_encode_of_fits {p : FtpPayload} (hfit : p.data.length ≤ ftpDataMaxLen)
    (hsize : p.size.toNat = p.data.length) : decode p.encode = .ok p := by
  rw [decode_encode, dataArea_take hfit hsize]

end FtpPayload

/-! ## 3. Replies -/

/-- A reply as a result: a Nak is an error with its code and, for `FailErrno`, its errno. -/
def checkNak (resp : FtpPayload) : Except FtpNakError Unit :=
  if resp.opcode = .nak then
    let errCode :=
      match resp.data with
      | [] => .fail
      | code :: _ => (FtpError.fromRepr code).getD .fail
    let errno :=
      match resp.data with
      | _ :: errno :: _ => if errCode = .failErrno then some errno else none
      | _ => none
    .error { errCode, errno }
  else
    .ok ()

/-- Only a Nak is an error. -/
theorem checkNak_ok {resp : FtpPayload} : checkNak resp = .ok () ↔ resp.opcode ≠ .nak := by
  unfold checkNak
  split <;> simp_all

theorem checkNak_error {resp : FtpPayload} {e : FtpNakError} (h : checkNak resp = .error e) :
    resp.opcode = .nak := by
  by_contra hn
  rw [checkNak_ok.mpr hn] at h
  cases h

end MavlinkServer.Ftp
