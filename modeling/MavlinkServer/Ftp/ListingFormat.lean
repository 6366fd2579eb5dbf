/-
  File:      MavlinkServer/Ftp/ListingFormat.lean
  Subject:   THE LISTING GRAMMAR, WRITTEN AND READ (`parse_listing_entries`).

  * `IsUtf8` -- the bytes of some characters;
  * `fromUtf8Lossy_utf8` -- well-formed text is not touched by the lossy reading;
  * `parseU64_decimal` -- a decimal number is read back;
  * `ListingEntry.text`, `serializeListing` -- the grammar: the kind, the name,
    for a file perhaps a TAB and its size, a NUL;
  * `ListingEntry.Writable` -- the entries it can express;
  * `parse_serialize` -- they are read back, and no bytes make the reading panic.
-/
import MavlinkServer.Ftp.Paging

namespace MavlinkServer.Ftp

/-! ## 1. Characters -/

/-- The bytes of a text. -/
def utf8 (text : List Char) : List UInt8 := text.flatMap String.utf8EncodeChar

/-- Valid UTF-8: the encoding of Unicode scalar values. -/
def IsUtf8 (bytes : List UInt8) : Prop := ∃ text : List Char, bytes = utf8 text

theorem utf8_cons (c : Char) (text : List Char) :
    utf8 (c :: text) = String.utf8EncodeChar c ++ utf8 text := rfl

theorem IsUtf8.append {a b : List UInt8} (ha : IsUtf8 a) (hb : IsUtf8 b) : IsUtf8 (a ++ b) := by
  obtain ⟨s, rfl⟩ := ha
  obtain ⟨t, rfl⟩ := hb
  exact ⟨s ++ t, by simp only [utf8, List.flatMap_append]⟩

section Characters

/-! The tables of `charWidth` and `secondByteOk` at the bytes an encoder writes. -/

theorem isContinuation_low : ∀ m < 0x40, isContinuation (UInt8.ofNat (m + 0x80)) = true := by
  decide

theorem charWidth_two : ∀ n < 0x20, 2 ≤ n → charWidth (UInt8.ofNat (n + 0xc0)) = 2 := by decide

theorem charWidth_three : ∀ n < 0x10, charWidth (UInt8.ofNat (n + 0xe0)) = 3 := by decide

theorem charWidth_four : ∀ n < 5, charWidth (UInt8.ofNat (n + 0xf0)) = 4 := by decide

/-- No overlong form and no surrogate. -/
theorem secondByteOk_three : ∀ n < 0x10, ∀ m < 0x40, (n = 0 → 0x20 ≤ m) → (n = 0xd → m < 0x20) →
    secondByteOk (UInt8.ofNat (n + 0xe0)) (UInt8.ofNat (m + 0x80)) = true := by
  intro n hn m hm hlow hhigh
  have hlead : (UInt8.ofNat (n + 0xe0)).toNat = n + 0xe0 := UInt8.toNat_ofNat_of_lt' (by grind)
  have hb : (UInt8.ofNat (m + 0x80)).toNat = m + 0x80 := UInt8.toNat_ofNat_of_lt' (by grind)
  simp only [secondByteOk, isContinuation, UInt8.le_iff_toNat_le, ← UInt8.toNat_inj, hlead, hb]
  split_ifs <;> grind

/-- No overlong form and nothing past U+10FFFF. -/
theorem secondByteOk_four : ∀ n < 5, ∀ m < 0x40, (n = 0 → 0x10 ≤ m) → (n = 4 → m < 0x10) →
    secondByteOk (UInt8.ofNat (n + 0xf0)) (UInt8.ofNat (m + 0x80)) = true := by
  intro n hn m hm hlow hhigh
  have hlead : (UInt8.ofNat (n + 0xf0)).toNat = n + 0xf0 := UInt8.toNat_ofNat_of_lt' (by grind)
  have hb : (UInt8.ofNat (m + 0x80)).toNat = m + 0x80 := UInt8.toNat_ofNat_of_lt' (by grind)
  simp only [secondByteOk, isContinuation, UInt8.le_iff_toNat_le, ← UInt8.toNat_inj, hlead, hb]
  split_ifs <;> grind

variable {lead b1 b2 b3 : UInt8} {rest : List UInt8}

theorem wellFormedPart_two (hw : charWidth lead = 2) (h1 : isContinuation b1 = true) :
    wellFormedPart lead (b1 :: rest) = 2 := by
  simp only [wellFormedPart, hw, h1, if_true]

theorem wellFormedPart_three (hw : charWidth lead = 3) (h1 : secondByteOk lead b1 = true)
    (h2 : isContinuation b2 = true) : wellFormedPart lead (b1 :: b2 :: rest) = 3 := by
  simp only [wellFormedPart, hw, h1, if_true, List.take_succ_cons, List.take_zero,
    List.takeWhile_cons, h2, List.takeWhile_nil, List.length_cons, List.length_nil]

theorem wellFormedPart_four (hw : charWidth lead = 4) (h1 : secondByteOk lead b1 = true)
    (h2 : isContinuation b2 = true) (h3 : isContinuation b3 = true) :
    wellFormedPart lead (b1 :: b2 :: b3 :: rest) = 4 := by
  simp only [wellFormedPart, hw, h1, if_true, List.take_succ_cons, List.take_zero,
    List.takeWhile_cons, h2, h3, List.takeWhile_nil, List.length_cons, List.length_nil]

/-- A whole character stays as it is. -/
theorem fromUtf8Lossy_whole {tail : List UInt8} (hw : charWidth lead = (lead :: tail).length)
    (hpart : wellFormedPart lead (tail ++ rest) = charWidth lead) :
    fromUtf8Lossy (lead :: tail ++ rest) = lead :: tail ++ fromUtf8Lossy rest := by
  rw [List.cons_append, fromUtf8Lossy_cons, lossyPart, if_pos hpart, hpart, hw,
    ← List.cons_append, List.take_left, List.drop_left]

/-- **A character is read as it was written.** -/
theorem fromUtf8Lossy_char (c : Char) (rest : List UInt8) :
    fromUtf8Lossy (String.utf8EncodeChar c ++ rest) =
      String.utf8EncodeChar c ++ fromUtf8Lossy rest := by
  have hvalid : c.val.toNat < 0xD800 ∨ 0xDFFF < c.val.toNat ∧ c.val.toNat < 0x110000 := c.valid
  unfold String.utf8EncodeChar
  generalize c.val.toNat = v at hvalid ⊢
  simp only
  have hlow (n : Nat) := isContinuation_low (n % 0x40) (Nat.mod_lt _ (by decide))
  split
  · -- one byte
    rename_i h1
    refine fromUtf8Lossy_ascii (UInt8.lt_iff_toNat_lt.mpr ?_)
    rw [UInt8.toNat_ofNat']
    exact Nat.lt_of_le_of_lt (Nat.mod_le _ _) (Nat.lt_succ_of_le h1)
  · split
    · -- two bytes
      have hw := charWidth_two (v / 64 % 0x20) (by omega) (by omega)
      refine fromUtf8Lossy_whole hw ?_
      rw [hw]
      exact wellFormedPart_two hw (hlow v)
    · split
      · -- three bytes: the second one excludes overlong forms and surrogates
        have hw := charWidth_three (v / 4096 % 0x10) (by omega)
        have h1 := secondByteOk_three (v / 4096 % 0x10) (by omega) (v / 64 % 0x40) (by omega)
          (by omega) (by omega)
        refine fromUtf8Lossy_whole hw ?_
        rw [hw]
        exact wellFormedPart_three hw h1 (hlow v)
      · -- four bytes
        have hw := charWidth_four (v / 262144 % 0x08) (by omega)
        have h1 := secondByteOk_four (v / 262144 % 0x08) (by omega) (v / 4096 % 0x40) (by omega)
          (by omega) (by omega)
        refine fromUtf8Lossy_whole hw ?_
        rw [hw]
        exact wellFormedPart_four hw h1 (hlow (v / 64)) (hlow v)

/-- **Well-formed text is not touched.** -/
theorem fromUtf8Lossy_utf8 {bytes : List UInt8} (h : IsUtf8 bytes) :
    fromUtf8Lossy bytes = bytes := by
  obtain ⟨text, rfl⟩ := h
  induction text with
  | nil => rfl
  | cons c text ih => rw [utf8_cons, fromUtf8Lossy_char, ih]

end Characters

/-! ## 2. Numbers -/

/-- A number as it is printed. -/
def decimal (n : UInt64) : List UInt8 := utf8 (Nat.toDigits 10 n.toNat)

section Numbers

variable {c : Char} {digits : List Char} {acc : Nat}

theorem utf8_digit (h : c.isDigit = true) :
    String.utf8EncodeChar c = [UInt8.ofNat c.toNat] ∧ 48 ≤ c.toNat ∧ c.toNat ≤ 57 := by
  have hrange : 48 ≤ c.toNat ∧ c.toNat ≤ 57 := by
    simpa [Char.isDigit, UInt32.le_iff_toNat_le] using h
  refine ⟨if_pos ?_, hrange⟩
  have htop : c.val.toNat ≤ 57 := hrange.2
  omega

theorem le_ofDigitChars (digits : List Char) (acc : Nat) :
    acc ≤ Nat.ofDigitChars 10 digits acc := by
  induction digits generalizing acc with
  | nil => exact Nat.le_refl _
  | cons c digits ih =>
      rw [Nat.ofDigitChars_cons]
      exact Nat.le_trans (by omega) (ih _)

theorem parseDigits_cons (h : c.isDigit = true) (rest : List UInt8) :
    parseDigits acc (String.utf8EncodeChar c ++ rest) =
      if 10 * acc + (c.toNat - 48) < 2 ^ 64 then
        parseDigits (10 * acc + (c.toNat - 48)) rest
      else none := by
  obtain ⟨hbyte, hlow, hhigh⟩ := utf8_digit h
  have hnat : (UInt8.ofNat c.toNat).toNat = c.toNat :=
    UInt8.toNat_ofNat_of_lt' (by simp only [UInt8.size]; omega)
  have hdigit : (48 ≤ UInt8.ofNat c.toNat && UInt8.ofNat c.toNat ≤ 57) = true := by
    simp only [Bool.and_eq_true, decide_eq_true_eq, UInt8.le_iff_toNat_le, hnat]
    exact ⟨hlow, hhigh⟩
  rw [hbyte, List.singleton_append, parseDigits, if_pos hdigit, hnat]

/-- Digits are read as the number they denote, as far as it fits. -/
theorem parseDigits_utf8 (hdigits : ∀ c ∈ digits, c.isDigit = true)
    (hfits : Nat.ofDigitChars 10 digits acc < 2 ^ 64) :
    parseDigits acc (utf8 digits) = some (UInt64.ofNat (Nat.ofDigitChars 10 digits acc)) := by
  induction digits generalizing acc with
  | nil => rfl
  | cons c digits ih =>
      rw [Nat.ofDigitChars_cons] at hfits ⊢
      have hlt : 10 * acc + (c.toNat - 48) < 2 ^ 64 :=
        Nat.lt_of_le_of_lt (le_ofDigitChars digits _) hfits
      rw [utf8_cons, parseDigits_cons (hdigits c (List.mem_cons_self ..)), if_pos hlt]
      exact ih (fun c hc => hdigits c (List.mem_cons_of_mem _ hc)) hfits

theorem parseU64_digit (h : c.isDigit = true) (rest : List UInt8) :
    parseU64 (String.utf8EncodeChar c ++ rest) =
      parseDigits 0 (String.utf8EncodeChar c ++ rest) := by
  obtain ⟨hbyte, hlow, hhigh⟩ := utf8_digit h
  have hplus : UInt8.ofNat c.toNat ≠ 43 := by
    intro h43
    have hnat : (UInt8.ofNat c.toNat).toNat = c.toNat :=
      UInt8.toNat_ofNat_of_lt' (by simp only [UInt8.size]; omega)
    rw [h43] at hnat
    have h43' : (43 : UInt8).toNat = 43 := rfl
    omega
  rw [hbyte, List.singleton_append]
  unfold parseU64
  split
  · rename_i heq
    cases heq
  · rename_i heq
    exact absurd (List.cons.inj heq).1 hplus
  · rename_i heq
    exact absurd (List.cons.inj heq).1 hplus
  · rfl

theorem isDigit_toDigits {n : Nat} {c : Char} (h : c ∈ Nat.toDigits 10 n) : c.isDigit = true :=
  Nat.isDigit_of_mem_toDigits (by decide) (by decide) h

/-- **A printed number is read back.** -/
theorem parseU64_decimal (n : UInt64) : parseU64 (decimal n) = some n := by
  have hval : Nat.ofDigitChars 10 (Nat.toDigits 10 n.toNat) 0 = n.toNat :=
    Nat.ofDigitChars_ten_toDigits
  have hread : parseDigits 0 (decimal n) = some n := by
    rw [decimal, parseDigits_utf8 (fun c hc => isDigit_toDigits hc) (by rw [hval]; exact n.toNat_lt),
      hval, UInt64.ofNat_toNat]
  cases hdigits : Nat.toDigits 10 n.toNat with
  | nil => exact absurd hdigits Nat.toDigits_ne_nil
  | cons c digits =>
      have hc : c.isDigit = true := isDigit_toDigits (hdigits ▸ List.mem_cons_self ..)
      rw [← hread, decimal, hdigits, utf8_cons, parseU64_digit hc]

theorem nul_not_mem_decimal (n : UInt64) : (0 : UInt8) ∉ decimal n := by
  intro hmem
  obtain ⟨c, hc, hbyte⟩ := List.mem_flatMap.mp hmem
  obtain ⟨heq, hlow, hhigh⟩ := utf8_digit (isDigit_toDigits hc)
  rw [heq, List.mem_singleton] at hbyte
  have hnat : (UInt8.ofNat c.toNat).toNat = c.toNat :=
    UInt8.toNat_ofNat_of_lt' (by simp only [UInt8.size]; omega)
  rw [← hbyte] at hnat
  have hzero : (0 : UInt8).toNat = 0 := rfl
  omega

end Numbers

/-! ## 3. The grammar -/

/-- `b'D'`, `b'F'`, `b'S'`. -/
def ListingEntryKind.toU8 : ListingEntryKind → UInt8
  | .directory => 68
  | .file => 70
  | .skip => 83

@[simp] theorem ListingEntryKind.fromRepr_toU8 (k : ListingEntryKind) :
    fromRepr k.toU8 = some k := by
  cases k <;> rfl

namespace ListingEntry

/-- What stands behind the name. -/
def sizeText (e : ListingEntry) : List UInt8 :=
  match e.size with
  | some size => 9 :: decimal size
  | none => []

/-- `<kind byte><name>[TAB<decimal size>]`. -/
def text (e : ListingEntry) : List UInt8 := e.kind.toU8 :: (e.name ++ e.sizeText)

/-- The entries the grammar can express. -/
structure Writable (e : ListingEntry) : Prop where
  utf8 : IsUtf8 e.name
  noNul : (0 : UInt8) ∉ e.name
  noTab : e.kind = .file → (9 : UInt8) ∉ e.name
  sized : e.kind ≠ .file → e.size = none

end ListingEntry

/-- The entries, each behind it a NUL. -/
def serializeListing (entries : List ListingEntry) : List UInt8 :=
  entries.flatMap fun e => e.text ++ [0]

section Grammar

variable {e : ListingEntry} {entries : List ListingEntry} {name rest : List UInt8}

theorem splitOnce_none {sep : UInt8} (h : sep ∉ name) : splitOnce sep name = none := by
  induction name with
  | nil => rfl
  | cons b name ih =>
      have hb : b ≠ sep := fun hb => h (hb ▸ List.mem_cons_self ..)
      rw [splitOnce, if_neg hb, ih fun hmem => h (List.mem_cons_of_mem _ hmem)]
      rfl

theorem splitOnce_append {sep : UInt8} (h : sep ∉ name) :
    splitOnce sep (name ++ sep :: rest) = some (name, rest) := by
  induction name with
  | nil => exact if_pos rfl
  | cons b name ih =>
      have hb : b ≠ sep := fun hb => h (hb ▸ List.mem_cons_self ..)
      rw [List.cons_append, splitOnce, if_neg hb, ih fun hmem => h (List.mem_cons_of_mem _ hmem)]
      rfl

namespace ListingEntry

theorem isUtf8_sizeText (e : ListingEntry) : IsUtf8 e.sizeText := by
  unfold sizeText
  split
  · rename_i size _
    exact ⟨Char.ofNat 9 :: Nat.toDigits 10 size.toNat, rfl⟩
  · exact ⟨[], rfl⟩

theorem nul_not_mem_sizeText (e : ListingEntry) : (0 : UInt8) ∉ e.sizeText := by
  unfold sizeText
  split
  · intro hmem
    rcases List.mem_cons.mp hmem with h | h
    · exact absurd h (by decide)
    · exact nul_not_mem_decimal _ h
  · exact List.not_mem_nil

theorem Writable.nul_not_mem_text (h : e.Writable) : (0 : UInt8) ∉ e.text := by
  intro hmem
  rcases List.mem_cons.mp hmem with hkind | hmem
  · cases hk : e.kind <;> rw [hk] at hkind <;> exact absurd hkind (by decide)
  · rcases List.mem_append.mp hmem with hname | hsize
    · exact h.noNul hname
    · exact e.nul_not_mem_sizeText hsize

/-- **One entry is read back.** -/
theorem Writable.listed_text (h : e.Writable) : listed e.text = some e := by
  have hread : fromUtf8Lossy (e.name ++ e.sizeText) = e.name ++ e.sizeText :=
    fromUtf8Lossy_utf8 (h.utf8.append e.isUtf8_sizeText)
  obtain ⟨kind, name, size⟩ := e
  simp only [text, listed, ListingEntryKind.fromRepr_toU8, Option.map_some, hread,
    Option.some.injEq]
  by_cases hfile : kind = .file
  · subst hfile
    have htab : (9 : UInt8) ∉ name := h.noTab rfl
    rw [if_pos rfl]
    cases size with
    | none => simp only [sizeText, List.append_nil, splitOnce_none htab]
    | some size => simp only [sizeText, splitOnce_append htab, parseU64_decimal]
  · have hsize : size = none := h.sized hfile
    rw [if_neg hfile, hsize]
    simp only [sizeText, List.append_nil]

end ListingEntry

theorem splitOn_serialize (h : ∀ e ∈ entries, e.Writable) :
    splitOn 0 (serializeListing entries) = entries.map ListingEntry.text ++ [[]] := by
  induction entries with
  | nil => rfl
  | cons e entries ih =>
      have hshape : serializeListing (e :: entries) = e.text ++ 0 :: serializeListing entries := by
        simp only [serializeListing, List.flatMap_cons, List.append_assoc, List.singleton_append]
      rw [hshape, splitOn_append, splitOn_of_not_mem (h e (List.mem_cons_self ..)).nul_not_mem_text,
        ih fun e he => h e (List.mem_cons_of_mem _ he)]
      rfl

/-- The segments of the text are the entries. -/
theorem segments_serialize (h : ∀ e ∈ entries, e.Writable) :
    segments (serializeListing entries) = entries.map ListingEntry.text := by
  have hkept : ∀ text ∈ entries.map ListingEntry.text, (!text.isEmpty) = true := by
    intro text htext
    obtain ⟨e, _, rfl⟩ := List.mem_map.mp htext
    rfl
  rw [segments, splitOn_serialize h, List.filter_append, List.filter_eq_self.mpr hkept]
  exact List.append_nil _

/-- **What is written is read back, and no bytes at all make the reading panic.** -/
theorem parse_serialize :
    (∀ entries : List ListingEntry, (∀ e ∈ entries, e.Writable) →
      parseListingEntries (serializeListing entries) = some entries) ∧
    ∀ data : List UInt8, parseListingEntries data ≠ none := by
  constructor
  · intro entries h
    have hlisted : (entries.map ListingEntry.text).filterMap listed = entries := by
      rw [List.filterMap_map]
      have hsome : ∀ e ∈ entries, (listed ∘ ListingEntry.text) e = some e :=
        fun e he => (h e he).listed_text
      rw [List.filterMap_congr hsome, List.filterMap_some]
    rw [parseListingEntries_segments, segments_serialize h, hlisted]
  · intro data hpanic
    rw [parseListingEntries_segments] at hpanic
    cases hpanic

/-- A directory `é`, a file of the greatest size and a nameless entry to skip; and bytes that are
    no UTF-8. -/
theorem parse_serialize_greatest :
    parseListingEntries (serializeListing
        [⟨.directory, [195, 169], none⟩, ⟨.file, [97], some 18446744073709551615⟩,
          ⟨.skip, [], none⟩]) =
      some [⟨.directory, [195, 169], none⟩, ⟨.file, [97], some 18446744073709551615⟩,
        ⟨.skip, [], none⟩] ∧
    parseListingEntries [70, 255, 0, 128] ≠ none := by
  refine ⟨parse_serialize.1 _ ?_, parse_serialize.2 _⟩
  intro e he
  rcases List.mem_cons.mp he with rfl | he
  · exact ⟨⟨[Char.ofNat 233], by decide⟩, by decide, by decide, fun _ => rfl⟩
  · rcases List.mem_cons.mp he with rfl | he
    · exact ⟨⟨[Char.ofNat 97], by decide⟩, by decide, by decide, by decide⟩
    · obtain rfl := List.mem_singleton.mp he
      exact ⟨⟨[], rfl⟩, by decide, by decide, fun _ => rfl⟩

end Grammar
end MavlinkServer.Ftp
