/-
  File:      MavlinkServer/Tlog/LogName.lean
  Subject:   THE NAMES OF LOGS (`create_tlog_file` and `get_sequence` in
             `src/lib/drivers/tlog/writer.rs`).

  A name is written with `{sequence:05}` and the local time, and found again by
  the regular expression `^(\d{5})-\d{4}-\d{2}-\d{2}_\d{2}-\d{2}-\d{2}\.tlog$`.
  The width of the one is the least there is, that of the other is exact.

  * `logName`, `DigitClass.captures` -- writing and finding;
  * `sequence?_logName` -- a name is found when its number has five digits and
    its year four, and else it is not;
  * `DigitClass.getSequence` -- the number behind the last one that is found.
-/
import MavlinkServer.Drivers.Endpoints

namespace MavlinkServer.Tlog

open Lib Drivers

/-! ## 1. Writing a name -/

/-- `{n:0width}`: zeros in front, up to the width. -/
def padded (width n : Nat) : Text :=
  List.replicate (width - (Nat.toDigits 10 n).length) '0' ++ Nat.toDigits 10 n

/-- Local time, as far as the name tells it. -/
structure Timestamp where
  year : Int
  month : Fin 100
  day : Fin 100
  hour : Fin 100
  minute : Fin 100
  second : Fin 100
  deriving DecidableEq, Repr

/-- `%Y` writes years before 0 and past 9999 with a sign. -/
def yearText (year : Int) : Text :=
  if 0 ≤ year ∧ year ≤ 9999 then padded 4 year.natAbs
  else (if year < 0 then '-' else '+') :: padded 4 year.natAbs

/-- `%Y-%m-%d_%H-%M-%S` -/
def Timestamp.text (t : Timestamp) : Text :=
  yearText t.year ++ '-' :: (padded 2 t.month ++ '-' :: (padded 2 t.day ++ '_' :: (padded 2 t.hour ++
    '-' :: (padded 2 t.minute ++ '-' :: padded 2 t.second))))

/-- `{sequence:05}-{timestamp}.tlog` -/
def logName (sequence : Nat) (t : Timestamp) : Text :=
  padded 5 sequence ++ '-' :: (t.text ++ ".tlog".toList)

def noon : Timestamp := ⟨2024, 4, 22, 12, 0, 0⟩

def newYear : Timestamp := ⟨2026, 1, 1, 0, 0, 0⟩

example : logName 7 newYear = "00007-2026-01-01_00-00-00.tlog".toList := by decide

/-! ## 2. Finding it -/

/-- `\d` of the regex crate: the decimal digits of all scripts. -/
structure DigitClass where
  isDigit : Char → Bool
  ascii : ∀ c, c.isDigit = true → isDigit c = true
  plus : isDigit '+' = false
  minus : isDigit '-' = false

/-- `\d{n}`: the digits and what is behind them. -/
def DigitClass.digits (d : DigitClass) (n : Nat) (text : Text) : Option (Text × Text) :=
  if n ≤ text.length ∧ (text.take n).all d.isDigit then some (text.take n, text.drop n) else none

/-- A character that stands for itself. -/
def literal (c : Char) : Text → Option Text
  | [] => none
  | c' :: rest => if c' = c then some rest else none

/-- What the expression wants behind the number, up to the end. -/
def DigitClass.timed (d : DigitClass) (rest : Text) : Option Unit := do
  let rest ← literal '-' rest
  let (_, rest) ← d.digits 4 rest
  let rest ← literal '-' rest
  let (_, rest) ← d.digits 2 rest
  let rest ← literal '-' rest
  let (_, rest) ← d.digits 2 rest
  let rest ← literal '_' rest
  let (_, rest) ← d.digits 2 rest
  let rest ← literal '-' rest
  let (_, rest) ← d.digits 2 rest
  let rest ← literal '-' rest
  let (_, rest) ← d.digits 2 rest
  if rest = ".tlog".toList then some () else none

/-- The first group of the regular expression of `get_sequence`. -/
def DigitClass.captures (d : DigitClass) (fileName : Text) : Option Text := do
  let (number, rest) ← d.digits 5 fileName
  d.timed rest
  some number

/-- The number in a name, `none` where it is not UTF-8. `parse::<u32>` reads ASCII digits only. -/
def DigitClass.sequence? (d : DigitClass) (fileName : Option Text) : Option Nat :=
  (fileName.bind d.captures).bind (parseUnsigned 4294967295)

/-- `get_sequence`, once the directory has been listed. -/
def DigitClass.getSequence (d : DigitClass) (names : List (Option Text)) : Nat :=
  ((names.filterMap d.sequence?).foldr max 0) + 1

/-- `get_sequence(&path).await.unwrap_or_default()` -/
def DigitClass.nextSequence (d : DigitClass) (names : List (Option Text)) (listed : Bool) : Nat :=
  if listed then d.getSequence names else 0

/-- What `create_tlog_file` meets. -/
structure LogCreation where
  /-- the directory is there, or can be made -/
  directory : Bool
  /-- it can be listed -/
  listed : Bool
  time : Timestamp
  /-- the file can be opened -/
  opened : Bool
  deriving DecidableEq, Repr

/-- The digits that are in the names of logs. -/
def asciiDigits : DigitClass := ⟨Char.isDigit, fun _ h => h, rfl, rfl⟩

section Digits

variable {d : DigitClass} {width n : Nat} {text rest : Text} {c : Char}

theorem length_padded (width n : Nat) :
    (padded width n).length = max width (Nat.toDigits 10 n).length := by
  unfold padded
  rw [List.length_append, List.length_replicate]
  omega

/-- A number that fits has exactly the width. -/
theorem length_padded_of_lt (hw : 0 < width) (h : n < 10 ^ width) :
    (padded width n).length = width := by
  have hle := (Nat.length_toDigits_le_iff (by decide) hw).mpr h
  rw [length_padded]
  omega

theorem lt_length_padded (hw : 0 < width) (h : 10 ^ width ≤ n) :
    width < (padded width n).length := by
  have hlt : ¬ (Nat.toDigits 10 n).length ≤ width := fun hle =>
    absurd ((Nat.length_toDigits_le_iff (by decide) hw).mp hle) (Nat.not_lt.mpr h)
  rw [length_padded]
  omega

theorem isDigit_of_mem_padded (h : c ∈ padded width n) : c.isDigit = true := by
  rcases List.mem_append.mp h with h | h
  · rw [List.eq_of_mem_replicate h]
    rfl
  · exact Nat.isDigit_of_mem_toDigits (by decide) (by decide) h

theorem ofDigitChars_padded (width n : Nat) : Nat.ofDigitChars 10 (padded width n) 0 = n := by
  unfold padded
  rw [Nat.ofDigitChars_append, Nat.ofDigitChars_replicate_zero, Nat.mul_zero]
  exact Nat.ofDigitChars_ten_toDigits

/-- **A padded number is read back.** -/
theorem parseUnsigned_padded {max : Nat} (h : n ≤ max) :
    parseUnsigned max (padded width n) = some n := by
  have hne : padded width n ≠ [] := by
    unfold padded
    intro hnil
    exact absurd (List.append_eq_nil_iff.mp hnil).2 Nat.toDigits_ne_nil
  have hvalue := ofDigitChars_padded width n
  rw [parseUnsigned_of_digits hne (fun c hc => isDigit_of_mem_padded hc) (hvalue.symm ▸ h), hvalue]

theorem digits_append (hlen : text.length = n) (hall : ∀ c ∈ text, d.isDigit c = true) :
    d.digits n (text ++ rest) = some (text, rest) := by
  unfold DigitClass.digits
  rw [List.take_left' hlen, List.drop_left' hlen, if_pos]
  refine ⟨?_, List.all_eq_true.mpr hall⟩
  rw [List.length_append]
  omega

theorem digits_padded (hw : 0 < width) (h : n < 10 ^ width) (rest : Text) :
    d.digits width (padded width n ++ rest) = some (padded width n, rest) :=
  digits_append (length_padded_of_lt hw h) fun c hc => d.ascii c (isDigit_of_mem_padded hc)

theorem literal_cons (c : Char) (rest : Text) : literal c (c :: rest) = some rest := if_pos rfl

/-- A year that is written with four digits. -/
def FourDigits (year : Int) : Prop := 0 ≤ year ∧ year ≤ 9999

instance (year : Int) : Decidable (FourDigits year) := inferInstanceAs (Decidable (_ ∧ _))

theorem digits_two (n : Fin 100) (rest : Text) :
    d.digits 2 (padded 2 n ++ rest) = some (padded 2 n, rest) :=
  digits_padded (by decide) n.isLt rest

theorem digits_year {year : Int} (h : FourDigits year) (rest : Text) :
    d.digits 4 (yearText year ++ rest) = some (yearText year, rest) := by
  have htext : yearText year = padded 4 year.natAbs := if_pos h
  have hfits : year.natAbs < 10 ^ 4 := by
    obtain ⟨hlow, hhigh⟩ := h
    omega
  rw [htext]
  exact digits_padded (by decide) hfits rest

/-- The expression does not take a sign for a digit. -/
theorem digits_signed {year : Int} (h : ¬ FourDigits year) (rest : Text) :
    d.digits 4 (yearText year ++ rest) = none := by
  have htext : yearText year = (if year < 0 then '-' else '+') :: padded 4 year.natAbs := if_neg h
  rw [htext]
  refine if_neg fun hall => ?_
  have hsign := List.all_eq_true.mp hall.2 (if year < 0 then '-' else '+') List.mem_cons_self
  split at hsign
  · rw [d.minus] at hsign
    cases hsign
  · rw [d.plus] at hsign
    cases hsign

/-- The time is found behind the number. -/
theorem captures_padded (hn : n < 100000) {t : Timestamp} (h : FourDigits t.year) :
    d.captures (logName n t) = some (padded 5 n) := by
  simp only [DigitClass.captures, DigitClass.timed, logName, Timestamp.text, List.append_assoc,
    List.cons_append, Option.bind_eq_bind, Option.bind_some,
    digits_padded (d := d) (by decide : 0 < 5) hn, digits_year h, digits_two, literal_cons, if_true]

/-- A sixth digit stands where the expression wants a hyphen. -/
theorem captures_six (hn : 100000 ≤ n) (t : Timestamp) : d.captures (logName n t) = none := by
  have hlong : 5 < (padded 5 n).length := lt_length_padded (by decide) hn
  obtain ⟨front, c, back, hsplit, hfront⟩ : ∃ front c back, padded 5 n = front ++ c :: back ∧
      front.length = 5 := by
    refine ⟨(padded 5 n).take 5, (padded 5 n)[5], (padded 5 n).drop 6, ?_, ?_⟩
    · rw [List.getElem_cons_drop, List.take_append_drop]
    · rw [List.length_take]
      omega
  have hdigit : ∀ c' ∈ front ++ c :: back, c'.isDigit = true := fun c' hc =>
    isDigit_of_mem_padded (hsplit ▸ hc)
  have hc : c ≠ '-' := by
    intro hminus
    have hmem := hdigit c (List.mem_append_right _ List.mem_cons_self)
    rw [hminus] at hmem
    exact absurd hmem (by decide)
  have htake : ∀ rest, d.digits 5 (front ++ rest) = some (front, rest) := fun rest =>
    digits_append hfront fun c' hc' => d.ascii c' (hdigit c' (List.mem_append_left _ hc'))
  simp only [DigitClass.captures, DigitClass.timed, logName, hsplit, List.append_assoc,
    List.cons_append, htake, Option.bind_eq_bind, Option.bind_some, literal, if_neg hc,
    Option.bind_none]

theorem captures_signed (hn : n < 100000) {t : Timestamp} (h : ¬ FourDigits t.year) :
    d.captures (logName n t) = none := by
  simp only [DigitClass.captures, DigitClass.timed, logName, Timestamp.text, List.append_assoc,
    List.cons_append, Option.bind_eq_bind, Option.bind_some,
    digits_padded (d := d) (by decide : 0 < 5) hn, digits_signed h, literal_cons, Option.bind_none]

/-- **A name is found** when its number has five digits and its year four, and else it is not. -/
theorem sequence?_logName (d : DigitClass) (n : Nat) (t : Timestamp) :
    d.sequence? (some (logName n t)) = if n < 100000 ∧ FourDigits t.year then some n else none := by
  unfold DigitClass.sequence?
  rw [Option.bind_some]
  by_cases hn : n < 100000
  · by_cases h : FourDigits t.year
    · rw [captures_padded hn h, if_pos ⟨hn, h⟩]
      exact parseUnsigned_padded (by omega)
    · rw [captures_signed hn h, if_neg fun hc => h hc.2]
      rfl
  · rw [captures_six (Nat.not_lt.mp hn), if_neg fun hc => hn hc.1]
    rfl

theorem length_captures {fileName number : Text} (h : d.captures fileName = some number) :
    number.length = 5 := by
  unfold DigitClass.captures at h
  obtain ⟨⟨first, rest⟩, hdigits, h⟩ := Option.bind_eq_some_iff.mp h
  obtain ⟨_, _, hnumber⟩ := Option.bind_eq_some_iff.mp h
  cases hnumber
  unfold DigitClass.digits at hdigits
  split at hdigits
  · rename_i hlong
    cases hdigits
    rw [List.length_take]
    omega
  · cases hdigits

theorem ofDigitChars_lt : ∀ (digits : Text) (acc : Nat), digits.all Char.isDigit = true →
    Nat.ofDigitChars 10 digits acc < 10 ^ digits.length * (acc + 1)
  | [], acc, _ => by simp
  | c :: digits, acc, h => by
      rw [List.all_cons, Bool.and_eq_true] at h
      have hc : c.toNat ≤ 57 := by
        have hrange : 48 ≤ c.toNat ∧ c.toNat ≤ 57 := by
          simpa [Char.isDigit, UInt32.le_iff_toNat_le] using h.1
        exact hrange.2
      have hzero : '0'.toNat = 48 := rfl
      rw [Nat.ofDigitChars_cons, List.length_cons, pow_succ, Nat.mul_assoc]
      refine Nat.lt_of_lt_of_le (ofDigitChars_lt digits _ h.2) ?_
      exact Nat.mul_le_mul_left _ (by omega)

/-- No number that is found has more than five digits. -/
theorem sequence?_lt {name : Option Text} (h : d.sequence? name = some n) : n < 100000 := by
  obtain ⟨number, hnumber, hparse⟩ := Option.bind_eq_some_iff.mp h
  obtain ⟨fileName, _, hcaptures⟩ := Option.bind_eq_some_iff.mp hnumber
  have hlength := length_captures hcaptures
  unfold parseUnsigned at hparse
  dsimp only at hparse
  have hshort : (if number.head? = some '+' then number.tail else number).length ≤ 5 := by
    split
    · rw [List.length_tail]
      omega
    · omega
  generalize (if number.head? = some '+' then number.tail else number) = digits at hparse hshort
  split at hparse
  · rename_i hdigits
    cases hparse
    have hlt := ofDigitChars_lt digits 0 hdigits.2.1
    rw [Nat.ofDigitChars_eq_foldl, Nat.zero_add, Nat.mul_one] at hlt
    exact Nat.lt_of_lt_of_le hlt (Nat.pow_le_pow_right (by decide) hshort)
  · cases hparse

/-! ## 3. The next number -/

variable {names : List (Option Text)} {m : Nat}

theorem le_foldr_max {n : Nat} {l : List Nat} (h : n ∈ l) : n ≤ l.foldr max 0 := by
  induction l with
  | nil => cases h
  | cons m l ih =>
      rw [List.foldr_cons]
      rcases List.mem_cons.mp h with rfl | h
      · exact Nat.le_max_left ..
      · exact Nat.le_trans (ih h) (Nat.le_max_right ..)

theorem foldr_max_mem (l : List Nat) : l.foldr max 0 = 0 ∨ l.foldr max 0 ∈ l := by
  induction l with
  | nil => exact Or.inl rfl
  | cons m l ih =>
      rw [List.foldr_cons]
      rcases Nat.le_total m (l.foldr max 0) with hle | hle
      · rw [Nat.max_eq_right hle]
        exact ih.imp_right fun h => List.mem_cons_of_mem _ h
      · rw [Nat.max_eq_left hle]
        exact Or.inr List.mem_cons_self

theorem foldr_max_le {n : Nat} {l : List Nat} (h : ∀ m ∈ l, m ≤ n) : l.foldr max 0 ≤ n := by
  induction l with
  | nil => exact Nat.zero_le n
  | cons m l ih =>
      rw [List.foldr_cons]
      exact Nat.max_le.mpr
        ⟨h m List.mem_cons_self, ih fun m' hm' => h m' (List.mem_cons_of_mem _ hm')⟩

/-- A number that is found in a name is below the next one. -/
theorem lt_getSequence {name : Option Text} (hmem : name ∈ names) (h : d.sequence? name = some n) :
    n < d.getSequence names :=
  Nat.lt_succ_of_le (le_foldr_max (List.mem_filterMap.mpr ⟨name, hmem, h⟩))

theorem getSequence_le (h : ∀ name ∈ names, ∀ n, d.sequence? name = some n → n ≤ m) :
    d.getSequence names ≤ m + 1 := by
  refine Nat.succ_le_succ (foldr_max_le fun n hn => ?_)
  obtain ⟨name, hmem, hname⟩ := List.mem_filterMap.mp hn
  exact h name hmem n hname

/-- The next number has six digits at most. -/
theorem getSequence_le_last (d : DigitClass) (names : List (Option Text)) :
    d.getSequence names ≤ 100000 :=
  getSequence_le fun _ _ _ h => Nat.le_of_lt_succ (sequence?_lt h)

/-- As long as nothing has the number 99999 the next number has five digits. -/
theorem getSequence_lt (h : ∀ name ∈ names, d.sequence? name ≠ some 99999) :
    d.getSequence names < 100000 := by
  refine Nat.lt_succ_of_le (getSequence_le (m := 99998) fun name hmem n hn => ?_)
  have hlt := sequence?_lt hn
  have hne : n ≠ 99999 := fun he => h name hmem (he ▸ hn)
  omega

end Digits

end MavlinkServer.Tlog
