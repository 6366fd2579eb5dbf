/-
  File:      MavlinkServer/Ftp/Listing.lean
  Subject:   DIRECTORY LISTINGS (`parse_listing_entries` in
             `src/lib/drivers/rest/mavftp/protocol.rs`).

  A Rust `String` is modelled by its UTF-8 bytes. `fromUtf8Lossy` follows
  `String::from_utf8_lossy`: every maximal ill-formed part becomes one
  U+FFFD. `sliceFrom` is the slice `&entry[i..]`, which panics unless `i` is
  a character boundary; a panic is `none` here.
-/
import MavlinkServer.Ftp.Protocol

namespace MavlinkServer.Ftp

/-! ## 1. Text -/

/-- A UTF-8 continuation byte. -/
def isContinuation (b : UInt8) : Bool := 0x80 ≤ b && b ≤ 0xBF

/-- The bytes that may follow the lead byte of a character of three or four bytes. -/
def secondByteOk (lead b : UInt8) : Bool :=
  if lead = 0xE0 then 0xA0 ≤ b && b ≤ 0xBF
  else if lead = 0xED then 0x80 ≤ b && b ≤ 0x9F
  else if lead = 0xF0 then 0x90 ≤ b && b ≤ 0xBF
  else if lead = 0xF4 then 0x80 ≤ b && b ≤ 0x8F
  else isContinuation b

/-- U+FFFD in UTF-8. -/
def replacement : List UInt8 := [0xEF, 0xBF, 0xBD]

/-- How many bytes the character that starts with `lead` has, 0 where none starts with it. -/
def charWidth (lead : UInt8) : Nat :=
  if lead < 0x80 then 1
  else if 0xC2 ≤ lead && lead ≤ 0xDF then 2
  else if 0xE0 ≤ lead && lead ≤ 0xEF then 3
  else if 0xF0 ≤ lead && lead ≤ 0xF4 then 4
  else 0

/-- The length of the longest front part of `lead :: rest` that starts a well-formed character
    (its second byte in range, the others continuations), up to its width. -/
def wellFormedPart (lead : UInt8) (rest : List UInt8) : Nat :=
  match charWidth lead, rest with
  | 2, b1 :: _ => if isContinuation b1 then 2 else 1
  | 3, b1 :: tail =>
      if secondByteOk lead b1 then 2 + ((tail.take 1).takeWhile isContinuation).length else 1
  | 4, b1 :: tail =>
      if secondByteOk lead b1 then 2 + ((tail.take 2).takeWhile isContinuation).length else 1
  | _, _ => 1

/-- `String::from_utf8_lossy`, on at most `fuel` characters. -/
def fromUtf8LossyAux : Nat → List UInt8 → List UInt8
  | 0, _ => []
  | _ + 1, [] => []
  | fuel + 1, lead :: rest =>
      let n := wellFormedPart lead rest
      if n = charWidth lead then
        (lead :: rest).take n ++ fromUtf8LossyAux fuel ((lead :: rest).drop n)
      else
        replacement ++ fromUtf8LossyAux fuel ((lead :: rest).drop n)

def fromUtf8Lossy (data : List UInt8) : List UInt8 := fromUtf8LossyAux data.length data

/-- `&entry[i..]`. -/
def sliceFrom (entry : List UInt8) (i : Nat) : Option (List UInt8) :=
  match entry.drop i with
  | [] => if i = entry.length then some [] else none
  | b :: rest => if isContinuation b then none else some (b :: rest)

/-- `text.split(sep)` for a one-byte separator. -/
def splitOn (sep : UInt8) : List UInt8 → List (List UInt8)
  | [] => [[]]
  | b :: rest =>
      if b = sep then [] :: splitOn sep rest
      else
        match splitOn sep rest with
        | [] => [[b]]
        | part :: parts => (b :: part) :: parts

/-- `text.split_once(sep)`. -/
def splitOnce (sep : UInt8) : List UInt8 → Option (List UInt8 × List UInt8)
  | [] => none
  | b :: rest =>
      if b = sep then some ([], rest)
      else (splitOnce sep rest).map fun (before, after) => (b :: before, after)

/-- The digits of `str::parse::<u64>()`, `none` on another byte or past 64 bits. -/
def parseDigits (acc : Nat) : List UInt8 → Option UInt64
  | [] => some (UInt64.ofNat acc)
  | b :: rest =>
      if 48 ≤ b && b ≤ 57 then
        let acc := 10 * acc + (b.toNat - 48)
        if acc < 2 ^ 64 then parseDigits acc rest else none
      else none

/-- `str::parse::<u64>().ok()`: an optional `+`, then at least one digit. -/
def parseU64 (text : List UInt8) : Option UInt64 :=
  match text with
  | [] => none
  | 43 :: [] => none
  | 43 :: digits => parseDigits 0 digits
  | digits => parseDigits 0 digits

/-! ## 2. Entries -/

inductive ListingEntryKind where
  | directory
  | file
  | skip
  deriving DecidableEq, Repr

/-- `from_repr`: `b'D'`, `b'F'`, `b'S'`. -/
def ListingEntryKind.fromRepr (v : UInt8) : Option ListingEntryKind :=
  match v.toNat with
  | 68 => some .directory
  | 70 => some .file
  | 83 => some .skip
  | _ => none

structure ListingEntry where
  kind : ListingEntryKind
  name : List UInt8
  size : Option UInt64
  deriving DecidableEq, Repr

/-- One segment of the listing: `some none` where the segment is not an entry, `none` where the
    slice panics. -/
def parseListingEntry (entry : List UInt8) : Option (Option ListingEntry) :=
  match entry.head? with
  | none => some none
  | some first =>
      match ListingEntryKind.fromRepr first with
      | none => some none
      | some kind => do
          let rest ← sliceFrom entry 1
          match kind with
          | .directory => some (some ⟨.directory, rest, none⟩)
          | .skip => some (some ⟨.skip, rest, none⟩)
          | .file =>
              match splitOnce 9 rest with
              | some (name, size) => some (some ⟨.file, name, parseU64 size⟩)
              | none => some (some ⟨.file, rest, none⟩)

def parseListingEntries (data : List UInt8) : Option (List ListingEntry) :=
  let segments := (splitOn 0 (fromUtf8Lossy data)).filter fun entry => !entry.isEmpty
  (segments.mapM parseListingEntry).map fun entries => entries.filterMap id

end MavlinkServer.Ftp
