/-
  File:      MavlinkServer/Lib/Json.lean
  Subject:   JSON VALUES, WRITTEN BY ONE PROGRAM AND READ BY ANOTHER. Nothing
             here names a program.

  The reader decides by type what it takes for a value, so it may take less than
  the writer wrote.

  * `Json` -- the values; a number without sign and fraction is exact, and a
    float that is none of the finite ones is written as null;
  * `field`, `asUnsigned`, `asFloat`, `asOption`, `asMap` -- readers;
    `ofFloat`, `ofOption`, `ofMap` -- writers;
  * **`Reads p result image`** -- the image is read if `p` holds, and nothing
    otherwise; `Reads.bind`, `reads_mapM` -- how it composes;
  * `reads_asUnsigned`, `reads_asOption`, `reads_asMap` -- for each reader.
-/
import MavlinkServer.Lib.IndexMap
import Std.Data.String.ToNat

namespace Lib

/-! ## 1. Values -/

inductive Json where
  | null
  | number (n : Nat)
  | float (x : Float)
  | string (text : String)
  | object (entries : List (String × Json))

namespace Json

def ofFloat (x : Float) : Json := if x.isFinite then .float x else .null

def asFloat : Json → Option Float
  | .float x => some x
  | .number n => some (Float.ofNat n)
  | _ => none

/-- A number that the target type has room for. -/
def asUnsigned (bound : Nat) : Json → Option Nat
  | .number n => if n < bound then some n else none
  | _ => none

def asString : Json → Option String
  | .string text => some text
  | _ => none

/-- The field of an object; that it is there twice is an error. -/
def field (name : String) : Json → Option Json
  | .object entries =>
      match entries.filter fun e => e.1 = name with
      | [(_, value)] => some value
      | _ => none
  | _ => none

section Generic

variable {α β κ ν : Type}

def ofOption (write : α → Json) : Option α → Json
  | none => .null
  | some a => write a

def asOption (read : Json → Option β) : Json → Option (Option β)
  | .null => some none
  | value => (read value).bind fun value => some (some value)

/-- A field that need not be there. -/
def optionField (name : String) (read : Json → Option β) : Json → Option (Option β)
  | .object entries =>
      match entries.filter fun e => e.1 = name with
      | [] => some none
      | [(_, value)] => value.asOption read
      | _ => none
  | _ => none

end Generic

end Json

/-- The text of a key, and how it is read back. -/
structure KeyFormat (κ : Type) where
  text : κ → String
  parse : String → Option κ
  parse_text : ∀ k, parse (text k) = some k

namespace Json

variable {α β κ : Type}

def ofMap (key : KeyFormat κ) (write : α → Json) (m : IndexMap κ α) : Json :=
  .object (m.entries.map fun e => (key.text e.1, write e.2))

def asMap [DecidableEq κ] (key : KeyFormat κ) (read : Json → Option β) :
    Json → Option (IndexMap κ β)
  | .object entries => do
      let entries ← entries.mapM fun e => do
        let k ← key.parse e.1
        let value ← read e.2
        return (k, value)
      return entries.foldl (fun m e => (m.insert e.1 e.2).2) .empty
  | _ => none

end Json

/-! ## 2. Reading what was written -/

variable {α β γ κ : Type} {p q : Prop} {result : Option β} {image : β}

/-- **Reads**: the image if the condition holds, and an error if it does not. -/
def Reads (p : Prop) (result : Option β) (image : β) : Prop :=
  (p → result = some image) ∧ (¬ p → result = none)

theorem Reads.of_some (h : result = some image) : Reads True result image :=
  ⟨fun _ => h, fun hno => absurd trivial hno⟩

theorem Reads.congr (h : Reads p result image) (hpq : p ↔ q) : Reads q result image :=
  ⟨fun hq => h.1 (hpq.mpr hq), fun hq => h.2 fun hp => hq (hpq.mp hp)⟩

/-- One reader after the other: both conditions have to hold. -/
theorem Reads.bind {next : β → Option γ} {last : γ} (h : Reads p result image)
    (hnext : Reads q (next image) last) : Reads (p ∧ q) (result.bind next) last := by
  by_cases hp : p
  · rw [h.1 hp, Option.bind_some]
    exact hnext.congr (and_iff_right hp).symm
  · rw [h.2 hp, Option.bind_none]
    exact ⟨fun hpq => absurd hpq.1 hp, fun _ => rfl⟩

/-- Behind something that is there for sure, the rest decides. -/
theorem Reads.after {first : Option γ} {a : γ} {next : γ → Option β} (hfirst : first = some a)
    (h : Reads p (next a) image) : Reads p (first.bind next) image := by
  rw [hfirst]
  exact h

/-- What is made of the value read is made of the image. -/
theorem Reads.bind_some {f : β → γ} (h : Reads p result image) :
    Reads p (result.bind fun value => some (f value)) (f image) := by
  constructor
  · intro hp
    rw [h.1 hp]
    rfl
  · intro hp
    rw [h.2 hp]
    rfl

/-- What is read at all fits. -/
theorem Reads.of_isSome (h : Reads p result image) (hsome : ∃ value, result = some value) : p := by
  by_contra hno
  obtain ⟨value, hvalue⟩ := hsome
  rw [h.2 hno] at hvalue
  cases hvalue

/-- A list is read when each of its elements is. -/
theorem reads_mapM {read : α → Option β} {fits : α → Prop} {image : α → β} {l : List α}
    (h : ∀ a ∈ l, Reads (fits a) (read a) (image a)) :
    Reads (∀ a ∈ l, fits a) (l.mapM read) (l.map image) := by
  induction l with
  | nil => exact (Reads.of_some rfl).congr (iff_of_true trivial fun _ ha => absurd ha List.not_mem_nil)
  | cons a l ih =>
    obtain ⟨ha, hl⟩ := List.forall_mem_cons.mp h
    rw [List.mapM_cons]
    have hrest : Reads (∀ a ∈ l, fits a) ((l.mapM read).bind fun images => some (image a :: images))
        (image a :: l.map image) := (ih hl).bind_some
    exact (ha.bind hrest).congr List.forall_mem_cons.symm

/-! ## 3. The readers -/

theorem reads_asFloat (x : Float) : Reads (x.isFinite = true) (Json.ofFloat x).asFloat x := by
  unfold Json.ofFloat
  constructor
  · intro hfinite
    rw [if_pos hfinite]
    rfl
  · intro hno
    rw [if_neg hno]
    rfl

theorem reads_asUnsigned (bound n : Nat) :
    Reads (n < bound) ((Json.number n).asUnsigned bound) n :=
  ⟨fun h => if_pos h, fun h => if_neg h⟩

/-- A value that is not there is read as such, provided that nothing else is written as null. -/
theorem reads_asOption {write : α → Json} {read : Json → Option β} {fits : α → Prop} {image : α → β}
    (hnull : ∀ a, write a ≠ .null) (h : ∀ a, Reads (fits a) (read (write a)) (image a))
    (value : Option α) :
    Reads (∀ a ∈ value, fits a) ((Json.ofOption write value).asOption read) (value.map image) := by
  cases value with
  | none => exact (Reads.of_some rfl).congr (iff_of_true trivial fun _ ha => by cases ha)
  | some a =>
    have hread : (Json.ofOption write (some a)).asOption read =
        (read (write a)).bind fun value => some (some value) := by
      show (write a).asOption read = _
      unfold Json.asOption
      split
      · rename_i hnone
        exact absurd hnone (hnull a)
      · rfl
    rw [hread]
    exact (h a).bind_some.congr ⟨fun ha a' ha' => Option.mem_some.mp ha' ▸ ha, fun ha => ha a rfl⟩

/-- A map is read when each of its values is, with its keys in their order. -/
theorem reads_asMap [DecidableEq κ] (key : KeyFormat κ) {write : α → Json}
    {read : Json → Option β} {fits : α → Prop} {image : α → β}
    (h : ∀ a, Reads (fits a) (read (write a)) (image a)) (m : IndexMap κ α) :
    Reads (∀ e ∈ m.entries, fits e.2) ((Json.ofMap key write m).asMap key read)
      (m.collect fun a => some (image a)) := by
  have hentries : Reads (∀ e ∈ m.entries, fits e.2)
      ((m.entries.map fun e => (key.text e.1, write e.2)).mapM fun e => do
        let k ← key.parse e.1
        let value ← read e.2
        return (k, value))
      (m.entries.map fun e => (e.1, image e.2)) := by
    rw [List.mapM_map]
    refine reads_mapM fun e _ => ?_
    show Reads _ ((key.parse (key.text e.1)).bind _) _
    rw [key.parse_text, Option.bind_some]
    exact (h e.2).bind_some
  have hcollect : (m.entries.map fun e => (e.1, image e.2)).foldl
      (fun m e => (m.insert e.1 e.2).2) IndexMap.empty = m.collect fun a => some (image a) := by
    rw [List.foldl_map]
    rfl
  rw [← hcollect]
  exact hentries.bind_some

/-! ## 4. Keys -/

/-- A key that is a number below the bound, in the digits that it is written with. -/
def parseKey (bound : Nat) (text : String) : Option Nat :=
  text.toNat?.filter fun n => n.repr = text ∧ n < bound

theorem parseKey_repr {bound n : Nat} (h : n < bound) : parseKey bound n.repr = some n := by
  unfold parseKey
  rw [Nat.toNat?_repr, Option.filter_some, if_pos (decide_eq_true ⟨rfl, h⟩)]

def KeyFormat.u8 : KeyFormat UInt8 where
  text := fun k => k.toNat.repr
  parse := fun text => (parseKey (2 ^ 8) text).map UInt8.ofNat
  parse_text := fun k => by
    rw [parseKey_repr k.toNat_lt, Option.map_some, UInt8.ofNat_toNat]

def KeyFormat.u32 : KeyFormat UInt32 where
  text := fun k => k.toNat.repr
  parse := fun text => (parseKey (2 ^ 32) text).map UInt32.ofNat
  parse_text := fun k => by
    rw [parseKey_repr k.toNat_lt, Option.map_some, UInt32.ofNat_toNat]

end Lib
