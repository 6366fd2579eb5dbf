/-
  File:      MavlinkServer/Ftp/Paging.lean
  Subject:   WHICH DIRECTORIES ARE LISTED WHOLE (`list_directory_entries` and
             `parse_listing_entries`).

  The next offset is the number of entries that were parsed; the server counts
  every entry, also those of a type the parser skips.

  * `fromUtf8Lossy_nul`, `parseListingEntries_segments` -- a reply is parsed
    entry by entry;
  * `Directory`, `Packing` -- a directory, and what a server may put into each
    reply;
  * `Answered` -- the events to come are its answers to the requests of the run;
  * `ListsOnce` -- the run returns every entry once, in the server's order;
  * `listsOnce_iff` -- the directories of which this holds.
-/
import MavlinkServer.Ftp.Release

namespace MavlinkServer.Ftp

open Lib Await

/-! ## 1. Characters and NUL -/

section Text

variable {lead b : UInt8} {rest data pre post : List UInt8} {fuel : Nat}

theorem takeWhile_continuation_nul (k : Nat) (tail post : List UInt8) :
    ((tail ++ 0 :: post).take k).takeWhile isContinuation =
      (tail.take k).takeWhile isContinuation := by
  induction tail generalizing k with
  | nil =>
      cases k with
      | zero => rfl
      | succ k => rfl
  | cons c tail ih =>
      cases k with
      | zero => rfl
      | succ k => simp only [List.cons_append, List.take_succ_cons, List.takeWhile_cons, ih]

theorem secondByteOk_nul (lead : UInt8) : secondByteOk lead 0 = false := by
  unfold secondByteOk
  repeat' split
  all_goals rfl

/-- NUL continues no character. -/
theorem wellFormedPart_nul (lead : UInt8) (pre post : List UInt8) :
    wellFormedPart lead (pre ++ 0 :: post) = wellFormedPart lead pre := by
  unfold wellFormedPart
  generalize charWidth lead = width
  cases pre with
  | nil =>
      rcases width with _ | _ | _ | _ | _ | width
      · rfl
      · rfl
      · rfl
      · exact if_neg (by rw [secondByteOk_nul]; decide)
      · exact if_neg (by rw [secondByteOk_nul]; decide)
      · rfl
  | cons b1 tail =>
      rcases width with _ | _ | _ | _ | _ | width
      · rfl
      · rfl
      · rfl
      · show (if secondByteOk lead b1 then
            2 + (((tail ++ 0 :: post).take 1).takeWhile isContinuation).length else 1) =
          if secondByteOk lead b1 then 2 + ((tail.take 1).takeWhile isContinuation).length else 1
        rw [takeWhile_continuation_nul]
      · show (if secondByteOk lead b1 then
            2 + (((tail ++ 0 :: post).take 2).takeWhile isContinuation).length else 1) =
          if secondByteOk lead b1 then 2 + ((tail.take 2).takeWhile isContinuation).length else 1
        rw [takeWhile_continuation_nul]
      · rfl

theorem wellFormedPart_pos (lead : UInt8) (rest : List UInt8) : 1 ≤ wellFormedPart lead rest := by
  unfold wellFormedPart
  split
  · split <;> omega
  · split <;> omega
  · split <;> omega
  · exact Nat.le_refl 1

theorem wellFormedPart_le (lead : UInt8) (rest : List UInt8) :
    wellFormedPart lead rest ≤ (lead :: rest).length := by
  have hwhile : ∀ (k : Nat) (tail : List UInt8),
      ((tail.take k).takeWhile isContinuation).length ≤ tail.length := fun k tail =>
    (List.takeWhile_sublist _).length_le.trans (List.length_take_le' ..)
  unfold wellFormedPart
  split
  · split <;> simp only [List.length_cons] <;> omega
  · split
    · rename_i tail _ _
      have htail := hwhile 1 tail
      simp only [List.length_cons]
      omega
    · simp only [List.length_cons]
      omega
  · split
    · rename_i tail _ _
      have htail := hwhile 2 tail
      simp only [List.length_cons]
      omega
    · simp only [List.length_cons]
      omega
  · simp only [List.length_cons]
    omega

/-- What becomes of the first `wellFormedPart` bytes. -/
def lossyPart (lead : UInt8) (rest : List UInt8) : List UInt8 :=
  if wellFormedPart lead rest = charWidth lead then
    (lead :: rest).take (wellFormedPart lead rest)
  else replacement

theorem fromUtf8LossyAux_fuel :
    ∀ {fuel : Nat} {data : List UInt8}, data.length ≤ fuel →
      fromUtf8LossyAux fuel data = fromUtf8Lossy data := by
  have step : ∀ (fuel fuel' : Nat) (data : List UInt8), data.length ≤ fuel → fuel ≤ fuel' →
      fromUtf8LossyAux fuel' data = fromUtf8LossyAux fuel data := by
    intro fuel
    induction fuel with
    | zero =>
        intro fuel' data hlen _
        obtain rfl := List.eq_nil_of_length_eq_zero (Nat.le_zero.mp hlen)
        cases fuel' <;> rfl
    | succ fuel ih =>
        intro fuel' data hlen hle
        cases fuel' with
        | zero => omega
        | succ fuel' =>
            cases data with
            | nil => rfl
            | cons lead rest =>
                have hpos := wellFormedPart_pos lead rest
                have hrest := ih fuel' ((lead :: rest).drop (wellFormedPart lead rest))
                  (by rw [List.length_drop]; omega) (by omega)
                simp only [fromUtf8LossyAux, hrest]
  intro fuel data hlen
  exact step data.length fuel data (Nat.le_refl _) hlen

theorem fromUtf8Lossy_cons (lead : UInt8) (rest : List UInt8) :
    fromUtf8Lossy (lead :: rest) = lossyPart lead rest ++
      fromUtf8Lossy ((lead :: rest).drop (wellFormedPart lead rest)) := by
  have hpos := wellFormedPart_pos lead rest
  have hrest : fromUtf8LossyAux rest.length ((lead :: rest).drop (wellFormedPart lead rest)) =
      fromUtf8Lossy ((lead :: rest).drop (wellFormedPart lead rest)) :=
    fromUtf8LossyAux_fuel (by rw [List.length_drop, List.length_cons]; omega)
  show fromUtf8LossyAux (rest.length + 1) (lead :: rest) = _
  simp only [fromUtf8LossyAux, hrest, lossyPart]
  split <;> rfl

/-- **Text is read piece by piece**: a NUL keeps what is before it apart from what is behind it. -/
theorem fromUtf8Lossy_nul (pre post : List UInt8) :
    fromUtf8Lossy (pre ++ 0 :: post) = fromUtf8Lossy pre ++ 0 :: fromUtf8Lossy post := by
  induction hlen : pre.length using Nat.strongRecOn generalizing pre with
  | ind n ih =>
      cases pre with
      | nil => exact fromUtf8Lossy_cons 0 post
      | cons lead rest =>
          have hpos := wellFormedPart_pos lead rest
          have hle := wellFormedPart_le lead rest
          have hpart : lossyPart lead (rest ++ 0 :: post) = lossyPart lead rest := by
            unfold lossyPart
            rw [wellFormedPart_nul, ← List.cons_append, List.take_append_of_le_length hle]
          have hdrop : ((lead :: rest) ++ 0 :: post).drop (wellFormedPart lead rest) =
              (lead :: rest).drop (wellFormedPart lead rest) ++ 0 :: post :=
            List.drop_append_of_le_length hle
          have hrest := ih _ (by rw [← hlen, List.length_drop]; omega)
            ((lead :: rest).drop (wellFormedPart lead rest)) rfl
          rw [List.cons_append, fromUtf8Lossy_cons, hpart, wellFormedPart_nul, ← List.cons_append,
            hdrop, hrest, fromUtf8Lossy_cons, List.append_assoc]

/-- A character of one byte stays as it is. -/
theorem fromUtf8Lossy_ascii (h : lead < 0x80) :
    fromUtf8Lossy (lead :: rest) = lead :: fromUtf8Lossy rest := by
  have hwidth : charWidth lead = 1 := if_pos h
  have hone : wellFormedPart lead rest = 1 := by
    unfold wellFormedPart
    rw [hwidth]
    cases rest <;> rfl
  rw [fromUtf8Lossy_cons, lossyPart, hone, hwidth]
  rfl

theorem lossyPart_head (lead : UInt8) (rest : List UInt8) :
    ∃ tail, lossyPart lead rest = lead :: tail ∧ charWidth lead ≠ 0 ∨
      lossyPart lead rest = 0xEF :: tail := by
  have hpos := wellFormedPart_pos lead rest
  unfold lossyPart
  split
  · rename_i h
    obtain ⟨n, hn⟩ := Nat.exists_eq_add_of_le' hpos
    exact ⟨rest.take n, Or.inl ⟨by rw [hn]; rfl, by omega⟩⟩
  · exact ⟨[0xBF, 0xBD], Or.inr rfl⟩

theorem isContinuation_width (h : isContinuation lead = true) : charWidth lead = 0 := by
  unfold isContinuation at h
  have hlead : 0x80 ≤ lead ∧ lead ≤ 0xBF := by simpa using h
  have h1 : ¬ lead < 0x80 := UInt8.not_lt.mpr hlead.1
  have h2 : ¬ 0xC2 ≤ lead := fun h' => absurd (UInt8.le_trans h' hlead.2) (by decide)
  have h3 : ¬ 0xE0 ≤ lead := fun h' => absurd (UInt8.le_trans h' hlead.2) (by decide)
  have h4 : ¬ 0xF0 ≤ lead := fun h' => absurd (UInt8.le_trans h' hlead.2) (by decide)
  simp [charWidth, h1, h2, h3, h4]

/-- Text never begins inside a character, so the slice behind an ASCII byte is taken. -/
theorem sliceFrom_lossy (lead : UInt8) (rest : List UInt8) :
    sliceFrom (lead :: fromUtf8Lossy rest) 1 = some (fromUtf8Lossy rest) := by
  unfold sliceFrom
  cases rest with
  | nil => rfl
  | cons b rest =>
      obtain ⟨tail, htail⟩ := lossyPart_head b rest
      rw [fromUtf8Lossy_cons]
      rcases htail with ⟨htail, hwidth⟩ | htail
      · rw [htail]
        refine if_neg fun hcont => hwidth (isContinuation_width ?_)
        exact hcont
      · rw [htail]
        rfl

theorem fromUtf8Lossy_eq_nil : fromUtf8Lossy data = [] ↔ data = [] := by
  cases data with
  | nil => exact ⟨fun _ => rfl, fun _ => rfl⟩
  | cons lead rest =>
      obtain ⟨tail, htail | htail⟩ := lossyPart_head lead rest
      · rw [fromUtf8Lossy_cons, htail.1]
        simp
      · rw [fromUtf8Lossy_cons, htail]
        simp

/-- No NUL comes in. -/
theorem mem_fromUtf8Lossy (h : b ∈ fromUtf8Lossy data) : b ∈ data ∨ b ∈ replacement := by
  induction hlen : data.length using Nat.strongRecOn generalizing data with
  | ind n ih =>
      cases data with
      | nil => cases h
      | cons lead rest =>
          have hpos := wellFormedPart_pos lead rest
          rw [fromUtf8Lossy_cons] at h
          rcases List.mem_append.mp h with h | h
          · unfold lossyPart at h
            split at h
            · exact Or.inl (List.mem_of_mem_take h)
            · exact Or.inr h
          · have hshort : ((lead :: rest).drop (wellFormedPart lead rest)).length < n := by
              rw [← hlen, List.length_drop, List.length_cons]
              omega
            exact (ih _ hshort h rfl).imp_left List.mem_of_mem_drop

theorem nul_mem_fromUtf8Lossy (h : (0 : UInt8) ∉ data) : (0 : UInt8) ∉ fromUtf8Lossy data :=
  fun hmem => (mem_fromUtf8Lossy hmem).elim h (by decide)

theorem splitOn_ne_nil (sep : UInt8) (data : List UInt8) : splitOn sep data ≠ [] := by
  cases data with
  | nil => simp [splitOn]
  | cons b rest =>
      unfold splitOn
      split
      · simp
      · split <;> simp

theorem splitOn_of_not_mem {sep : UInt8} (h : sep ∉ data) : splitOn sep data = [data] := by
  induction data with
  | nil => rfl
  | cons b rest ih =>
      have hb : b ≠ sep := fun hb => h (hb ▸ List.mem_cons_self ..)
      rw [splitOn, if_neg hb, ih fun hmem => h (List.mem_cons_of_mem _ hmem)]

theorem splitOn_append (sep : UInt8) (pre post : List UInt8) :
    splitOn sep (pre ++ sep :: post) = splitOn sep pre ++ splitOn sep post := by
  induction pre with
  | nil => simp [splitOn]
  | cons b rest ih =>
      rw [List.cons_append, splitOn, splitOn, ih]
      split
      · rfl
      · cases hparts : splitOn sep rest with
        | nil => exact absurd hparts (splitOn_ne_nil sep rest)
        | cons part parts => rfl

/-- The segments of the text are those of the bytes, each read on its own. -/
theorem splitOn_fromUtf8Lossy (data : List UInt8) :
    splitOn 0 (fromUtf8Lossy data) = (splitOn 0 data).map fromUtf8Lossy := by
  induction hlen : data.length using Nat.strongRecOn generalizing data with
  | ind n ih =>
      by_cases hnul : (0 : UInt8) ∈ data
      · obtain ⟨pre, post, rfl, hpre⟩ := List.eq_append_cons_of_mem hnul
        have hshort : post.length < n := by
          rw [← hlen, List.length_append, List.length_cons]
          omega
        rw [fromUtf8Lossy_nul, splitOn_append, splitOn_append, ih _ hshort post rfl,
          splitOn_of_not_mem hpre, splitOn_of_not_mem (nul_mem_fromUtf8Lossy hpre)]
        rfl
      · rw [splitOn_of_not_mem hnul, splitOn_of_not_mem (nul_mem_fromUtf8Lossy hnul)]
        rfl

end Text

/-! ## 2. Entries -/

/-- The entry a text stands for, none where its type is not D, F or S. -/
def listed : List UInt8 → Option ListingEntry
  | [] => none
  | first :: rest => (ListingEntryKind.fromRepr first).map fun kind =>
      if kind = .file then
        match splitOnce 9 (fromUtf8Lossy rest) with
        | some (name, size) => ⟨.file, name, parseU64 size⟩
        | none => ⟨.file, fromUtf8Lossy rest, none⟩
      else ⟨kind, fromUtf8Lossy rest, none⟩

/-- The texts between the NULs. -/
def segments (data : List UInt8) : List (List UInt8) :=
  (splitOn 0 data).filter fun entry => !entry.isEmpty

section Entries

theorem fromRepr_ascii {first : UInt8} {kind : ListingEntryKind}
    (h : ListingEntryKind.fromRepr first = some kind) : first < 0x80 := by
  have hfirst : first.toNat = 68 ∨ first.toNat = 70 ∨ first.toNat = 83 := by
    unfold ListingEntryKind.fromRepr at h
    split at h
    · omega
    · omega
    · omega
    · cases h
  rw [UInt8.lt_iff_toNat_lt]
  have htop : (0x80 : UInt8).toNat = 128 := rfl
  omega

theorem parseListingEntry_lossy {entry : List UInt8} (hne : entry ≠ []) :
    parseListingEntry (fromUtf8Lossy entry) = some (listed entry) := by
  cases entry with
  | nil => exact absurd rfl hne
  | cons first rest =>
      cases hkind : ListingEntryKind.fromRepr first with
      | none =>
          obtain ⟨b, tail, hhead, hb⟩ : ∃ b tail, fromUtf8Lossy (first :: rest) = b :: tail ∧
              ListingEntryKind.fromRepr b = none := by
            obtain ⟨tail, htail | htail⟩ := lossyPart_head first rest
            · exact ⟨first, _, by rw [fromUtf8Lossy_cons, htail.1]; rfl, hkind⟩
            · exact ⟨0xEF, _, by rw [fromUtf8Lossy_cons, htail]; rfl, rfl⟩
          rw [hhead, listed, hkind]
          simp only [parseListingEntry, List.head?_cons, hb, Option.map_none]
      | some kind =>
          rw [fromUtf8Lossy_ascii (fromRepr_ascii hkind), listed, hkind]
          simp only [parseListingEntry, List.head?_cons, hkind, sliceFrom_lossy, Option.map_some]
          cases kind with
          | directory => rfl
          | skip => rfl
          | file =>
              show (match splitOnce 9 (fromUtf8Lossy rest) with
                | some (name, size) => some (some (⟨.file, name, parseU64 size⟩ : ListingEntry))
                | none => some (some ⟨.file, fromUtf8Lossy rest, none⟩)) = _
              cases splitOnce 9 (fromUtf8Lossy rest) <;> rfl

/-- **A reply is parsed entry by entry**, and never panics. -/
theorem parseListingEntries_segments (data : List UInt8) :
    parseListingEntries data = some ((segments data).filterMap listed) := by
  have hsegments : ((splitOn 0 data).map fromUtf8Lossy).filter (fun entry => !entry.isEmpty) =
      (segments data).map fromUtf8Lossy := by
    rw [List.filter_map, segments]
    refine congrArg _ (List.filter_congr fun entry _ => ?_)
    have hempty : (fromUtf8Lossy entry).isEmpty = entry.isEmpty := by
      rw [Bool.eq_iff_iff, List.isEmpty_iff, List.isEmpty_iff, fromUtf8Lossy_eq_nil]
    simp only [Function.comp_apply, hempty]
  have hmap : ∀ l : List (List UInt8), (∀ entry ∈ l, entry ≠ []) →
      (l.map fromUtf8Lossy).mapM parseListingEntry = some (l.map listed) := by
    intro l
    induction l with
    | nil => exact fun _ => rfl
    | cons entry l ih =>
        intro h
        rw [List.map_cons, List.mapM_cons,
          parseListingEntry_lossy (h entry (List.mem_cons_self ..)),
          ih fun e he => h e (List.mem_cons_of_mem _ he)]
        rfl
  have hne : ∀ entry ∈ segments data, entry ≠ [] := by
    intro entry hentry
    have hkept := (List.mem_filter.mp hentry).2
    simpa using hkept
  unfold parseListingEntries
  simp only [splitOn_fromUtf8Lossy, hsegments, hmap _ hne, Option.map_some, List.filterMap_map,
    Function.id_comp]

end Entries

/-! ## 3. The directory and its server -/

/-- Entries that a reply can hold. -/
structure Directory where
  entries : List (List UInt8)
  named : ∀ entry ∈ entries, entry ≠ [] ∧ (0 : UInt8) ∉ entry ∧ entry.length ≤ ftpDataMaxLen

namespace Directory

/-- **The listing**: the entries of type D, F and S, in the server's order. -/
def listing (d : Directory) : List ListingEntry := d.entries.filterMap listed

/-- No entry of another type stands before one of type D, F or S. -/
def TypedFirst (d : Directory) : Prop :=
  d.entries.Pairwise fun entry later => (listed later).isSome → (listed entry).isSome

end Directory

/-- What the server puts into its replies: at an offset, some run of the entries from there on.
    The choice may differ from one request to the next. -/
structure Packing (d : Directory) where
  data : Nat → Nat → List UInt8
  fits : ∀ round offset, (data round offset).length ≤ ftpDataMaxLen
  run : ∀ round offset, offset < d.entries.length →
    segments (data round offset) ≠ [] ∧ segments (data round offset) <+: d.entries.drop offset

namespace Packing

variable {d : Directory} (p : Packing d)

/-- The reply to a ListDirectory request. -/
def reply (round : Nat) (req : FtpPayload) : FtpPayload :=
  if req.offset.toNat < d.entries.length then
    serverAck (req.seqNumber + 1) .listDirectory 0 req.offset (p.data round req.offset.toNat)
  else serverNak (req.seqNumber + 1) .listDirectory 0 req.offset 6

/-- The replies to these requests, in order. -/
def replies (t : Target) : Nat → List FtpPayload → List HubEvent
  | _, [] => []
  | round, req :: rest => packet t (p.reply round req) :: replies t (round + 1) rest

/-- The entries that are parsed from one reply. -/
def page (round offset : Nat) : List ListingEntry :=
  if offset < d.entries.length then (segments (p.data round offset)).filterMap listed else []

end Packing

/-- **The server answers**: the events to come are its replies to the requests of the run, one for
    each, in order. -/
def Answered {d : Directory} {α : Type} (t : Target) (p : Packing d) (round : Nat) (x : Client α)
    (w : World) : Prop :=
  w.inbox = p.replies t round (requestsRead x w)

/-- **A directory is listed once**: with every packing the run ends, and returns the listing. -/
def ListsOnce (t : Target) (path : List UInt8) (d : Directory) : Prop :=
  ∀ (p : Packing d) (w : World), w.hubAnswers = [] →
    (∃ inbox, Answered t p 0 (listDirectoryEntries t path) { w with inbox }) ∧
      ∀ inbox, Answered t p 0 (listDirectoryEntries t path) { w with inbox } →
        (listDirectoryEntries t path { w with inbox }).1 = .ok d.listing

/-! ## 4. The run -/

section Run

variable {t : Target} {path : List UInt8} {offset : UInt32} {acc : List ListingEntry} {fuel : Nat}
  {w : World} {d : Directory} {p : Packing d} {round : Nat}

theorem sendAndReceive_sends (payload : FtpPayload) (hhub : w.hubAnswers = []) :
    ∃ l, (sendAndReceive t payload w).2.trace =
      w.trace ++ .sent (buildFtpMessage t payload) :: l := by
  have hsub : subscribe w = (.ok (), w) := by
    unfold subscribe
    rw [hhub]
  have again : ∀ (error : FtpFailure) (rest : List HubEvent), ∃ l,
      (sendAndReceiveLoop t payload 4 error (w.sending t payload rest)).2.trace =
        w.trace ++ .sent (buildFtpMessage t payload) :: l := by
    intro error rest
    obtain ⟨n, htrace, _⟩ := sendAndReceiveLoop_events (t := t) payload 4 error
      (w.sending t payload rest)
    rw [htrace, World.sending, List.append_assoc]
    exact ⟨_, rfl⟩
  unfold sendAndReceive
  rw [bind_of_ok hsub]
  cases hr : recvFtp t (some payload.seqNumber) w.inbox with
  | none =>
      rw [ftpMaxRetries, sendAndReceiveLoop_waits hr]
      exact ⟨[], rfl⟩
  | some r =>
      obtain ⟨r, rest⟩ := r
      cases r with
      | reply resp =>
          rw [ftpMaxRetries, sendAndReceiveLoop_reply hr]
          exact ⟨[.accepted payload resp], by simp [World.sending]⟩
      | failed error =>
          rw [ftpMaxRetries, sendAndReceiveLoop_failed hr]
          exact again error rest
      | elapsed =>
          rw [ftpMaxRetries, sendAndReceiveLoop_elapsed hr]
          exact again .timedOut rest

/-- A request whose reply comes next. -/
theorem sendAndReceive_packet {payload resp : FtpPayload} {rest : List HubEvent}
    (hhub : w.hubAnswers = []) (hin : w.inbox = packet t resp :: rest)
    (hfit : resp.data.length ≤ ftpDataMaxLen) (hsize : resp.size.toNat = resp.data.length)
    (he : expected (some payload.seqNumber) resp = true) :
    sendAndReceive t payload w = (.ok resp, { w with
      inbox := rest
      trace := w.trace ++ [.sent (buildFtpMessage t payload), .accepted payload resp] }) := by
  have hsub : subscribe w = (.ok (), w) := by
    unfold subscribe
    rw [hhub]
  have hrecv : recvFtp t (some payload.seqNumber) w.inbox = some (.reply resp, rest) := by
    rw [hin]
    exact recvFtp_packet hfit hsize he
  unfold sendAndReceive
  rw [bind_of_ok hsub, ftpMaxRetries, sendAndReceiveLoop_reply hrecv]
  simp [World.sending]

/-- Every round begins with its request. -/
theorem listLoop_sends (hhub : w.hubAnswers = []) :
    ∃ l, (listLoop t path (fuel + 1) offset acc w).2.trace = w.trace ++
      .sent (buildFtpMessage t (pathRequest .listDirectory path offset w.seqNumber)) :: l := by
  obtain ⟨l, hl⟩ := sendAndReceive_sends (t := t)
    (pathRequest .listDirectory path offset w.seqNumber)
    (w := { w with seqNumber := w.seqNumber + 1 }) hhub
  have hreq : dataRequest .listDirectory path offset w =
      (.ok (pathRequest .listDirectory path offset w.seqNumber),
        { w with seqNumber := w.seqNumber + 1 }) := rfl
  unfold listLoop
  rw [bind_of_ok hreq, bind_apply]
  cases hr : sendAndReceive t (pathRequest .listDirectory path offset w.seqNumber)
      { w with seqNumber := w.seqNumber + 1 } with
  | mk o w1 =>
      rw [hr] at hl
      cases o with
      | err error => exact ⟨l, hl⟩
      | waiting => exact ⟨l, hl⟩
      | ok resp =>
          have grows : ∀ x : Client (List ListingEntry), Emits (Asks fun _ => True) x →
              ∃ l, (x w1).2.trace = w.trace ++ .sent (buildFtpMessage t
                (pathRequest .listDirectory path offset w.seqNumber)) :: l := by
            intro x hx
            obtain ⟨l', hl', _⟩ := (hx w1).trace
            exact ⟨l ++ l', by rw [hl', hl]; simp⟩
          refine grows _ ?_
          split
          · exact Moves.ite (Moves.pure _) (Moves.fail _)
          · split
            · exact Moves.fail _
            · exact Moves.pure _
            · exact emits_listLoop (fun _ _ => trivial) _ _ _

theorem Packing.reply_fits (p : Packing d) (round : Nat) (req : FtpPayload) :
    (p.reply round req).data.length ≤ ftpDataMaxLen ∧
      (p.reply round req).size.toNat = (p.reply round req).data.length := by
  have hsize : ∀ data : List UInt8, data.length ≤ ftpDataMaxLen →
      (UInt8.ofNat data.length).toNat = data.length := by
    intro data hdata
    have htop : ftpDataMaxLen = 239 := rfl
    rw [UInt8.toNat_ofNat']
    omega
  unfold reply
  split
  · exact ⟨p.fits _ _, hsize _ (p.fits _ _)⟩
  · have hone : ([6] : List UInt8).length ≤ ftpDataMaxLen := by decide
    exact ⟨hone, hsize [6] hone⟩

theorem Packing.reply_expected (p : Packing d) (round : Nat) (req : FtpPayload) :
    expected (some req.seqNumber) (p.reply round req) = true := by
  unfold reply
  split <;> simp [expected, serverAck, serverNak]

/-- Behind one request and its reply. -/
def World.replied (w : World) (t : Target) (req resp : FtpPayload)
    (rest : List HubEvent) : World :=
  { w with
    seqNumber := w.seqNumber + 1
    inbox := rest
    trace := w.trace ++ [.sent (buildFtpMessage t req), .accepted req resp] }

/-- **One round**: the page of the reply is taken; without one the run ends. -/
theorem listLoop_page {req : FtpPayload} {rest : List HubEvent} (hhub : w.hubAnswers = [])
    (hoffset : req.offset = offset) (hseq : req.seqNumber = w.seqNumber)
    (hin : w.inbox = packet t (p.reply round req) :: rest) :
    listLoop t path (fuel + 1) offset acc w =
      (if p.page round offset.toNat = [] then pure acc
        else listLoop t path fuel (offset + UInt32.ofNat (p.page round offset.toNat).length)
          (acc ++ p.page round offset.toNat))
        (w.replied t (pathRequest .listDirectory path offset w.seqNumber) (p.reply round req)
          rest) := by
  obtain ⟨hfit, hsize⟩ := p.reply_fits round req
  have hexpected := p.reply_expected round req
  rw [hseq] at hexpected
  have hreq : dataRequest .listDirectory path offset w =
      (.ok (pathRequest .listDirectory path offset w.seqNumber),
        { w with seqNumber := w.seqNumber + 1 }) := rfl
  have hsend : sendAndReceive t (pathRequest .listDirectory path offset w.seqNumber)
      { w with seqNumber := w.seqNumber + 1 } =
        (.ok (p.reply round req), w.replied t (pathRequest .listDirectory path offset w.seqNumber)
          (p.reply round req) rest) :=
    sendAndReceive_packet hhub hin hfit hsize hexpected
  conv_lhs => unfold listLoop
  rw [bind_of_ok hreq, bind_of_ok hsend]
  generalize w.replied t (pathRequest .listDirectory path offset w.seqNumber)
    (p.reply round req) rest = w'
  unfold Packing.reply Packing.page
  rw [hoffset]
  by_cases hlt : offset.toNat < d.entries.length
  · rw [if_pos hlt, if_pos hlt]
    have hok : checkNak (serverAck (req.seqNumber + 1) .listDirectory 0 offset
        (p.data round offset.toNat)) = .ok () := rfl
    rw [hok]
    simp only [serverAck, parseListingEntries_segments]
    cases (segments (p.data round offset.toNat)).filterMap listed with
    | nil => rfl
    | cons entry entries => rfl
  · rw [if_neg hlt, if_neg hlt, if_pos rfl]
    rfl

/-- The request of a round comes before those of the rounds behind it. -/
theorem requestsRead_replied {x y : Client (List ListingEntry)} {payload resp req : FtpPayload}
    {rest : List HubEvent} (hy : Emits (Asks fun _ => True) y)
    (hread : requestRead (.sent (buildFtpMessage t payload)) = some req)
    (h : x w = y (w.replied t payload resp rest)) :
    requestsRead x w = req :: requestsRead y (w.replied t payload resp rest) := by
  obtain ⟨l, hl, _⟩ := (hy (w.replied t payload resp rest)).trace
  have hx : (x w).2.trace = w.trace ++ .sent (buildFtpMessage t payload) ::
      .accepted payload resp :: l := by
    rw [h, hl]
    simp [World.replied]
  rw [requestsRead, requestsRead, eventsOf_eq hx, eventsOf_eq hl, List.filterMap_cons, hread]
  rfl

/-- What goes on behind a page. -/
def listRest (t : Target) (path : List UInt8) (fuel : Nat) (offset : UInt32)
    (acc page : List ListingEntry) : Client (List ListingEntry) :=
  if page = [] then pure acc
  else listLoop t path fuel (offset + UInt32.ofNat page.length) (acc ++ page)

theorem emits_listRest {page : List ListingEntry} :
    Emits (Asks fun _ => True) (listRest t path fuel offset acc page) :=
  Moves.ite (Moves.pure _) (emits_listLoop (fun _ _ => trivial) _ _ _)

/-- **A run is answered** if its first reply answers its request, and the rest is answered. -/
theorem Answered.of_page {req : FtpPayload} {rest : List HubEvent} (hhub : w.hubAnswers = [])
    (hread : requestRead (.sent (buildFtpMessage t
      (pathRequest .listDirectory path offset w.seqNumber))) = some req)
    (hoffset : req.offset = offset) (hseq : req.seqNumber = w.seqNumber)
    (hin : w.inbox = packet t (p.reply round req) :: rest) :
    Answered t p round (listLoop t path (fuel + 1) offset acc) w ↔
      Answered t p (round + 1) (listRest t path fuel offset acc (p.page round offset.toNat))
        (w.replied t (pathRequest .listDirectory path offset w.seqNumber) (p.reply round req)
          rest) := by
  have hrun := @listLoop_page t path offset acc fuel w d p round req rest hhub hoffset hseq hin
  unfold Answered
  rw [requestsRead_replied emits_listRest hread hrun, hin]
  constructor
  · intro h
    exact (List.cons.inj h).2
  · intro h
    exact congrArg _ h

/-- The first reply of an answered run. -/
theorem Answered.head (hhub : w.hubAnswers = [])
    (h : Answered t p round (listLoop t path (fuel + 1) offset acc) w) :
    ∃ req rest, requestRead (.sent (buildFtpMessage t
        (pathRequest .listDirectory path offset w.seqNumber))) = some req ∧
      req.offset = offset ∧ req.seqNumber = w.seqNumber ∧
      w.inbox = packet t (p.reply round req) :: rest := by
  obtain ⟨l, hl⟩ := @listLoop_sends t path offset acc fuel w hhub
  refine ⟨_, p.replies t (round + 1) (l.filterMap requestRead), requestRead_sent t _, rfl, rfl, ?_⟩
  rw [h, requestsRead, eventsOf_eq hl, List.filterMap_cons, requestRead_sent]
  rfl

/-- **One round of an answered run.** -/
theorem Answered.page (hhub : w.hubAnswers = [])
    (h : Answered t p round (listLoop t path (fuel + 1) offset acc) w) :
    ∃ w', w'.hubAnswers = [] ∧ w.inbox.length = w'.inbox.length + 1 ∧
      listLoop t path (fuel + 1) offset acc w =
        listRest t path fuel offset acc (p.page round offset.toNat) w' ∧
      Answered t p (round + 1) (listRest t path fuel offset acc (p.page round offset.toNat))
        w' := by
  obtain ⟨req, rest, hread, hoffset, hseq, hin⟩ := h.head hhub
  refine ⟨w.replied t (pathRequest .listDirectory path offset w.seqNumber) (p.reply round req)
    rest, hhub, by rw [hin]; rfl, listLoop_page hhub hoffset hseq hin,
    (Answered.of_page hhub hread hoffset hseq hin).mp h⟩

theorem listRest_nil : listRest t path fuel offset acc [] = pure acc := if_pos rfl

theorem listRest_of_ne {page : List ListingEntry} (h : page ≠ []) :
    listRest t path fuel offset acc page =
      listLoop t path fuel (offset + UInt32.ofNat page.length) (acc ++ page) := if_neg h

theorem Answered.pure (hin : w.inbox = []) :
    Answered t p round (Pure.pure acc : Client (List ListingEntry)) w := by
  have hnone : eventsOf (Pure.pure acc : Client (List ListingEntry)) w = [] :=
    eventsOf_eq (List.append_nil _).symm
  rw [Answered, hin, requestsRead, hnone]
  rfl

end Run

/-! ## 5. Counting -/

section Counting

variable {α β : Type} {f : α → Option β} {l run : List α}

theorem filterMap_eq_nil_of_head {a : α}
    (hl : (a :: l).Pairwise fun x y => (f y).isSome → (f x).isSome) (ha : f a = none) :
    (a :: l).filterMap f = [] := by
  refine List.filterMap_eq_nil_iff.mpr fun b hb => ?_
  rcases List.mem_cons.mp hb with rfl | hb
  · exact ha
  · have himp := List.rel_of_pairwise_cons hl hb
    rw [ha] at himp
    cases hfb : f b with
    | none => rfl
    | some c => exact absurd (himp (by rw [hfb]; rfl)) (by simp)

/-- What a front part leaves, counted by the values it has. -/
theorem filterMap_run (hl : l.Pairwise fun x y => (f y).isSome → (f x).isSome)
    (hrun : run <+: l) :
    run.filterMap f ++ (l.drop (run.filterMap f).length).filterMap f = l.filterMap f := by
  induction l generalizing run with
  | nil =>
      obtain rfl := List.prefix_nil.mp hrun
      rfl
  | cons a l ih =>
      cases run with
      | nil => rfl
      | cons b run =>
          obtain ⟨rfl, hrun'⟩ := List.cons_prefix_cons.mp hrun
          cases hb : f b with
          | none =>
              have hnil := filterMap_eq_nil_of_head hl hb
              have hnil' : (b :: run).filterMap f = [] :=
                List.filterMap_eq_nil_iff.mpr fun x hx =>
                  List.filterMap_eq_nil_iff.mp hnil x (hrun.subset hx)
              rw [hnil', List.length_nil, List.drop_zero, List.nil_append]
          | some c =>
              rw [List.filterMap_cons_some hb, List.filterMap_cons_some hb, List.length_cons,
                List.drop_succ_cons, List.cons_append, ih hl.of_cons hrun']

theorem filterMap_eq_nil_of_run (hl : l.Pairwise fun x y => (f y).isSome → (f x).isSome)
    (hrun : run <+: l) (hne : run ≠ []) (hnil : run.filterMap f = []) : l.filterMap f = [] := by
  cases run with
  | nil => exact absurd rfl hne
  | cons b run =>
      obtain ⟨rest, rfl⟩ := hrun
      exact filterMap_eq_nil_of_head hl
        (List.filterMap_eq_nil_iff.mp hnil b (List.mem_cons_self ..))

/-- If there are only as many values as stand in front, all values come first. -/
theorem pairwise_of_findIdx (h : (l.filterMap f).length = l.findIdx fun x => (f x).isNone) :
    l.Pairwise fun x y => (f y).isSome → (f x).isSome := by
  induction l with
  | nil => exact .nil
  | cons a l ih =>
      cases ha : f a with
      | none =>
          rw [List.findIdx_cons, ha] at h
          have hnone := List.filterMap_eq_nil_iff.mp (List.eq_nil_of_length_eq_zero h)
          have hl : ∀ b ∈ l, f b = none := fun b hb => hnone b (List.mem_cons_of_mem _ hb)
          refine List.pairwise_cons.mpr ⟨fun b hb hsome => ?_, List.Pairwise.imp_of_mem ?_
            (List.pairwise_of_forall fun _ _ => trivial)⟩
          · rw [hl b hb] at hsome
            cases hsome
          · intro x y _ hy _ hsome
            rw [hl y hy] at hsome
            cases hsome
      | some c =>
          rw [List.findIdx_cons, ha, List.filterMap_cons_some ha] at h
          have htail : (l.filterMap f).length = l.findIdx fun x => (f x).isNone :=
            Nat.succ.inj h
          exact List.pairwise_cons.mpr ⟨fun _ _ _ => by rw [ha]; rfl, ih htail⟩

end Counting

/-! ## 6. Directories that are listed whole -/

section Listing

variable {t : Target} {path : List UInt8} {d : Directory} {p : Packing d}

theorem Packing.page_eq (htyped : d.TypedFirst) (round offset : Nat) :
    p.page round offset ++
      (d.entries.drop (offset + (p.page round offset).length)).filterMap listed =
        (d.entries.drop offset).filterMap listed := by
  unfold Packing.page
  split
  · rename_i hlt
    rw [← List.drop_drop]
    exact filterMap_run (htyped.sublist (List.drop_sublist ..)) (p.run round offset hlt).2
  · rfl

theorem Packing.page_last (htyped : d.TypedFirst) {round offset : Nat}
    (hpage : p.page round offset = []) : (d.entries.drop offset).filterMap listed = [] := by
  unfold Packing.page at hpage
  split at hpage
  · rename_i hlt
    obtain ⟨hne, hrun⟩ := p.run round offset hlt
    exact filterMap_eq_nil_of_run (htyped.sublist (List.drop_sublist ..)) hrun hne hpage
  · rename_i hge
    rw [List.drop_eq_nil_of_le (Nat.le_of_not_lt hge)]
    rfl

/-- **An answered run returns the listing.** The induction is on the rounds; the offset counts the
    entries taken so far. -/
theorem listLoop_ok (htyped : d.TypedFirst) (hsmall : d.listing.length < 2 ^ 32) :
    ∀ (fuel round : Nat) (offset : UInt32) (acc : List ListingEntry) (w : World),
      w.hubAnswers = [] → w.inbox.length < fuel → offset.toNat = acc.length →
      acc ++ (d.entries.drop offset.toNat).filterMap listed = d.listing →
      Answered t p round (listLoop t path fuel offset acc) w →
      (listLoop t path fuel offset acc w).1 = .ok d.listing := by
  intro fuel
  induction fuel with
  | zero =>
      intro round offset acc w _ hfuel
      exact absurd hfuel (Nat.not_lt_zero _)
  | succ fuel ih =>
      intro round offset acc w hhub hfuel hoffset hacc h
      obtain ⟨w', hhub', hlength, hrun, hrest⟩ := h.page hhub
      have hpage := p.page_eq htyped round offset.toNat
      rw [hrun]
      by_cases hnil : p.page round offset.toNat = []
      · rw [p.page_last htyped hnil, List.append_nil] at hacc
        rw [hnil, listRest_nil, hacc]
        rfl
      · rw [listRest_of_ne hnil] at hrest ⊢
        have hlen := congrArg List.length hacc
        rw [← hpage] at hlen
        simp only [List.length_append] at hlen
        have hend : (offset + UInt32.ofNat (p.page round offset.toNat).length).toNat =
            offset.toNat + (p.page round offset.toNat).length :=
          toNat_advance (Nat.le_refl _) (by omega)
        refine ih _ _ _ w' hhub' (by omega) ?_ ?_ hrest
        · rw [hend, hoffset, List.length_append]
        · rw [hend, List.append_assoc, hpage, hacc]

/-- **The run ends**: some sequence of replies answers all of its requests. -/
theorem listLoop_answered (htyped : d.TypedFirst) (hsmall : d.listing.length < 2 ^ 32) (n : Nat) :
    ∀ (round : Nat) (offset : UInt32) (acc : List ListingEntry) (seqNumber : UInt16)
      (trace : List FtpEvent),
      acc.length = offset.toNat →
      acc ++ (d.entries.drop offset.toNat).filterMap listed = d.listing →
      ((d.entries.drop offset.toNat).filterMap listed).length = n →
      ∃ inbox, ∀ fuel, inbox.length < fuel →
        Answered t p round (listLoop t path fuel offset acc) ⟨seqNumber, [], inbox, trace⟩ := by
  induction n using Nat.strongRecOn with
  | ind n ih =>
      intro round offset acc seqNumber trace hoffset hacc hn
      obtain ⟨req, hread, hreq, hseq⟩ : ∃ req, requestRead (.sent (buildFtpMessage t
          (pathRequest .listDirectory path offset seqNumber))) = some req ∧ req.offset = offset ∧
          req.seqNumber = seqNumber := ⟨_, requestRead_sent t _, rfl, rfl⟩
      -- the reply to this request comes first
      suffices hrest : ∃ inbox, ∀ fuel, inbox.length < fuel →
          Answered t p (round + 1) (listRest t path fuel offset acc (p.page round offset.toNat))
            ⟨seqNumber + 1, [], inbox, trace ++
              [.sent (buildFtpMessage t (pathRequest .listDirectory path offset seqNumber)),
                .accepted (pathRequest .listDirectory path offset seqNumber)
                  (p.reply round req)]⟩ by
        obtain ⟨inbox, hinbox⟩ := hrest
        refine ⟨packet t (p.reply round req) :: inbox, fun fuel hfuel => ?_⟩
        cases fuel with
        | zero => exact absurd hfuel (Nat.not_lt_zero _)
        | succ fuel =>
            have hnext := hinbox fuel (by rw [List.length_cons] at hfuel; omega)
            exact (@Answered.of_page t path offset acc fuel
              ⟨seqNumber, [], packet t (p.reply round req) :: inbox, trace⟩ d p round req inbox rfl
              hread hreq hseq rfl).mpr hnext
      have hpage := p.page_eq htyped round offset.toNat
      by_cases hnil : p.page round offset.toNat = []
      · rw [hnil]
        refine ⟨[], fun fuel _ => ?_⟩
        rw [listRest_nil]
        exact Answered.pure rfl
      · have hlen := congrArg List.length hpage
        have htotal := congrArg List.length hacc
        have hpos := List.length_pos_iff.mpr hnil
        simp only [List.length_append] at hlen htotal
        have hend : (offset + UInt32.ofNat (p.page round offset.toNat).length).toNat =
            offset.toNat + (p.page round offset.toNat).length :=
          toNat_advance (Nat.le_refl _) (by omega)
        obtain ⟨inbox, hinbox⟩ := ih ((d.entries.drop (offset.toNat +
          (p.page round offset.toNat).length)).filterMap listed).length (by omega) (round + 1)
          (offset + UInt32.ofNat (p.page round offset.toNat).length)
          (acc ++ p.page round offset.toNat) (seqNumber + 1) (trace ++
              [.sent (buildFtpMessage t (pathRequest .listDirectory path offset seqNumber)),
                .accepted (pathRequest .listDirectory path offset seqNumber)
                  (p.reply round req)]) (by rw [hend, List.length_append, hoffset])
          (by rw [hend, List.append_assoc, hpage, hacc]) (by rw [hend])
        refine ⟨inbox, fun fuel hfuel => ?_⟩
        rw [listRest_of_ne hnil]
        exact hinbox fuel hfuel

end Listing

/-! ## 7. One entry a reply -/

section Single

variable {t : Target} {path : List UInt8} {d : Directory}

theorem segments_of_entry {entry : List UInt8} (hne : entry ≠ []) (hnul : (0 : UInt8) ∉ entry) :
    segments entry = [entry] := by
  have hkept : entry.isEmpty = false := by
    rw [List.isEmpty_eq_false_iff]
    exact hne
  rw [segments, splitOn_of_not_mem hnul, List.filter_cons, hkept]
  rfl

/-- The server that sends one entry at a time. -/
def Directory.single (d : Directory) : Packing d where
  data _ offset := d.entries[offset]?.getD []
  fits _ offset := by
    by_cases h : offset < d.entries.length
    · rw [List.getElem?_eq_getElem h]
      exact (d.named _ (List.getElem_mem h)).2.2
    · rw [List.getElem?_eq_none (Nat.le_of_not_lt h)]
      exact Nat.zero_le _
  run _ offset h := by
    obtain ⟨hne, hnul, _⟩ := d.named _ (List.getElem_mem h)
    rw [List.getElem?_eq_getElem h, Option.getD_some, segments_of_entry hne hnul,
      List.drop_eq_getElem_cons h]
    exact ⟨by simp, List.prefix_append _ _⟩

/-- The entries before the first one of another type. -/
def Directory.leading (d : Directory) : Nat :=
  d.entries.findIdx fun entry => (listed entry).isNone

/-- The page at an offset is what the one entry there gives. -/
theorem Directory.single_page {round offset : Nat} (h : offset < d.entries.length) :
    d.single.page round offset = [d.entries[offset]].filterMap listed := by
  obtain ⟨hne, hnul, _⟩ := d.named _ (List.getElem_mem h)
  have hdata : d.single.data round offset = d.entries[offset] := by
    show d.entries[offset]?.getD [] = _
    rw [List.getElem?_eq_getElem h, Option.getD_some]
  rw [Packing.page, if_pos h, hdata, segments_of_entry hne hnul]

theorem Directory.single_page_lt {round offset : Nat} (h : offset < d.leading) :
    (d.single.page round offset).length = 1 := by
  have hlt : offset < d.entries.length := Nat.lt_of_lt_of_le h List.findIdx_le_length
  have hlisted : (listed d.entries[offset]).isNone = false := by
    simpa using List.not_of_lt_findIdx h
  cases he : listed d.entries[offset] with
  | none =>
      rw [he] at hlisted
      cases hlisted
  | some e => rw [d.single_page hlt, List.filterMap_cons_some he, List.filterMap_nil,
      List.length_singleton]

theorem Directory.single_page_end (round : Nat) : d.single.page round d.leading = [] := by
  by_cases hlt : d.leading < d.entries.length
  · have hnot : (listed d.entries[d.leading]).isNone = true :=
      List.findIdx_getElem (w := hlt)
    rw [d.single_page hlt, List.filterMap_cons_none (Option.isNone_iff_eq_none.mp hnot),
      List.filterMap_nil]
  · exact if_neg hlt

/-- **One entry a reply**: a run that returns stops at the first entry of another type, or at the
    end; past the 32 bits of the offset it never gets there. -/
theorem single_ok :
    ∀ (fuel round : Nat) (offset : UInt32) (acc l : List ListingEntry) (w : World),
      w.hubAnswers = [] → offset.toNat ≤ d.leading →
      Answered t d.single round (listLoop t path fuel offset acc) w →
      (listLoop t path fuel offset acc w).1 = .ok l →
      d.leading < 2 ^ 32 ∧ l.length + offset.toNat = acc.length + d.leading := by
  intro fuel
  induction fuel with
  | zero =>
      intro round offset acc l w _ _ _ h
      cases h
  | succ fuel ih =>
      intro round offset acc l w hhub hle ha h
      obtain ⟨w', hhub', _, hrun, hrest⟩ := ha.page hhub
      rw [hrun] at h
      rcases Nat.lt_or_eq_of_le hle with hlt | heq
      · have hone := @Directory.single_page_lt d round _ hlt
        have hne : d.single.page round offset.toNat ≠ [] := by
          intro hnil
          rw [hnil] at hone
          exact absurd hone (by decide)
        rw [listRest_of_ne hne] at h hrest
        have hoffset := offset.toNat_lt
        have hnext : (offset + UInt32.ofNat (d.single.page round offset.toNat).length).toNat =
            (offset.toNat + 1) % 2 ^ 32 := by
          rw [hone, UInt32.toNat_add]
          rfl
        obtain ⟨hsmall, hlength⟩ := ih _ _ _ l w' hhub' (by rw [hnext]; omega) hrest h
        rw [hnext, List.length_append, hone] at hlength
        exact ⟨hsmall, by omega⟩
      · rw [heq, d.single_page_end, listRest_nil] at h
        cases h
        rw [← heq]
        exact ⟨offset.toNat_lt, rfl⟩

end Single

/-! ## 8. The whole listing -/

section Whole

variable {t : Target} {path : List UInt8} {d : Directory} {p : Packing d} {w : World}

/-- The lock takes no part in the exchange. -/
theorem answered_listDirectoryEntries :
    (Answered t p 0 (listDirectoryEntries t path) w ↔
      Answered t p 0 (listLoop t path (w.inbox.length + 1) 0 [])
        { w with trace := w.trace ++ [.locked t] }) ∧
      (listLoop t path (w.inbox.length + 1) 0 [] { w with trace := w.trace ++ [.locked t] }).1 =
        (listDirectoryEntries t path w).1 := by
  have hx : Emits (Asks fun _ => True) fun w => listLoop t path (w.inbox.length + 1) 0 [] w :=
    fun w => emits_listLoop (fun _ _ => trivial) _ _ _ w
  obtain ⟨l, _, hl, hout, hevents⟩ := eventsOf_withTargetLock (t := t) hx w
  refine ⟨?_, hout⟩
  have hrequests : requestsRead (listDirectoryEntries t path) w =
      requestsRead (listLoop t path (w.inbox.length + 1) 0 [])
        { w with trace := w.trace ++ [.locked t] } := by
    have hl' : eventsOf (listLoop t path (w.inbox.length + 1) 0 [])
        { w with trace := w.trace ++ [.locked t] } = l := hl
    rw [requestsRead, requestsRead, hl']
    rcases hevents with ⟨_, hevents⟩ | hevents
    · rw [listDirectoryEntries, hevents]
      rfl
    · rw [listDirectoryEntries, hevents, List.filterMap_cons_none rfl, List.filterMap_append]
      exact List.append_nil _
  unfold Answered
  rw [hrequests]

/-- **Which directories are listed whole**: those in which the entries of type D, F and S come
    first, and are fewer than 2^32. Elsewhere some packing cuts the listing short, gives an entry
    twice, or keeps the run going for ever. -/
theorem listsOnce_iff (t : Target) (path : List UInt8) (d : Directory) :
    ListsOnce t path d ↔ d.TypedFirst ∧ d.listing.length < 2 ^ 32 := by
  constructor
  · intro h
    obtain ⟨⟨inbox, ha⟩, hall⟩ := h d.single ⟨0, [], [], []⟩ rfl
    have hok := hall inbox ha
    obtain ⟨hiff, hout⟩ := @answered_listDirectoryEntries t path d d.single ⟨0, [], inbox, []⟩
    rw [← hout] at hok
    obtain ⟨hsmall, hlength⟩ := single_ok _ 0 0 [] d.listing _ rfl (Nat.zero_le _) (hiff.mp ha) hok
    have hcount : d.listing.length = d.leading := by simpa using hlength
    exact ⟨pairwise_of_findIdx hcount, by rw [hcount]; exact hsmall⟩
  · rintro ⟨htyped, hsmall⟩ p w hhub
    constructor
    · obtain ⟨inbox, hinbox⟩ := @listLoop_answered t path d p htyped hsmall
        d.listing.length 0 0 [] w.seqNumber (w.trace ++ [.locked t]) rfl rfl rfl
      refine ⟨inbox, answered_listDirectoryEntries.1.mpr ?_⟩
      have hrun := hinbox (inbox.length + 1) (Nat.lt_succ_self _)
      rw [← hhub] at hrun
      exact hrun
    · intro inbox ha
      obtain ⟨hiff, hout⟩ := @answered_listDirectoryEntries t path d p { w with inbox }
      rw [← hout]
      exact listLoop_ok htyped hsmall _ 0 0 [] _ hhub (Nat.lt_succ_self _) rfl rfl (hiff.mp ha)

end Whole

section Runs

/-- An entry of type X, then a directory. -/
def mixedDirectory : Directory where
  entries := [[88, 49], [68, 50]]
  named := by decide

/-- Both in one reply; from the second on, the second alone. -/
def mixedPacking : Packing mixedDirectory where
  data _ offset := if offset = 0 then [88, 49, 0, 68, 50] else if offset = 1 then [68, 50] else []
  fits _ offset := by
    split
    · decide
    · split <;> decide
  run _ offset h := by
    rcases offset with _ | _ | offset
    · exact ⟨by decide, by decide⟩
    · exact ⟨by decide, by decide⟩
    · exact absurd h (by simp [mixedDirectory])

def skippedRun : World where
  seqNumber := 0
  hubAnswers := []
  inbox := [serverAck 1 .listDirectory 0 0 [88, 49, 0, 68, 50],
    serverAck 2 .listDirectory 0 1 [68, 50], serverNak 3 .listDirectory 0 2 6].map (packet vehicle)
  trace := []

/-- **A directory listed twice**: the parser skips the first entry, the next offset is 1, and the
    second entry comes again. -/
theorem listsOnce_mixed : ¬ ListsOnce vehicle [47] mixedDirectory := by
  intro h
  have ha : Answered vehicle mixedPacking 0 (listDirectoryEntries vehicle [47]) skippedRun := by
    unfold Answered
    decide +kernel
  have hrun : (listDirectoryEntries vehicle [47] skippedRun).1 =
      .ok [⟨.directory, [50], none⟩, ⟨.directory, [50], none⟩] := by decide +kernel
  have hok := (h mixedPacking skippedRun rfl).2 skippedRun.inbox ha
  have hlisting : mixedDirectory.listing = [⟨.directory, [50], none⟩] := by decide
  have hrun' : (listDirectoryEntries vehicle [47] { skippedRun with inbox := skippedRun.inbox }).1 =
      .ok [⟨.directory, [50], none⟩, ⟨.directory, [50], none⟩] := hrun
  rw [hrun', hlisting] at hok
  cases hok

end Runs

end MavlinkServer.Ftp
