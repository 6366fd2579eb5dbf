/-
  File:      MavlinkServer/Rest/Data.lean
  Subject:   THE LATEST MESSAGES (`src/lib/drivers/rest/data.rs`): for each
             vehicle, component and message name the last message, how many
             came, and how often.

  * `MAVLinkVehiclesData`, … -- the nested tables, and `update` of each;
    `entryUpdate` -- `.entry(key).or_insert(value).update(..)`;
  * `Temporal` -- the two times, the counter and the frequency, with the latter
    over the rationals and not rounded to an `f32`;
  * `find`, `find_update` -- the tables as one, whose messages each change the
    entry of their key;
  * `find_run` -- the entry of a key after any messages;
  * `countsMessages_iff`, `frequency_iff` -- what its counter and its frequency
    stand for.

  The message type of the MAVLink crate is a parameter, with the name it gives
  a message.
-/
import Mathlib.Algebra.Order.Field.Rat
import Mathlib.Tactic.FieldSimp
import Mathlib.Tactic.Linarith
import Mathlib.Tactic.NormNum
import Mathlib.Tactic.Ring
import MavlinkServer.Lib.Keyed
import MavlinkServer.Rest.Control

namespace MavlinkServer.Rest

open Lib

variable {Message : Type}

/-! ## 1. The entry of a message -/

structure Temporal where
  firstUpdateUs : UInt64
  lastUpdateUs : UInt64
  counter : UInt64
  frequency : ℚ
  deriving DecidableEq, Repr

namespace Temporal

/-- `Temporal::default`, with the reading of the clock. -/
def default (nowUs : UInt64) : Temporal where
  firstUpdateUs := nowUs
  lastUpdateUs := nowUs
  counter := 1
  frequency := 0

/-- `(10e6 * counter) / (last_update_us - first_update_us)`: in Rust, `10e6` is ten million. Two
    equal times give zero here and infinity as an `f32`. Where the clock has gone back between the
    two, the difference wraps as in a release build; a build with overflow checks panics. -/
def rate (temporal : Temporal) : ℚ :=
  10000000 * temporal.counter.toNat / (temporal.lastUpdateUs - temporal.firstUpdateUs).toNat

def update (temporal : Temporal) (nowUs : UInt64) : Temporal :=
  let temporal := { temporal with lastUpdateUs := nowUs, counter := temporal.counter + 1 }
  { temporal with frequency := temporal.rate }

end Temporal

structure Status where
  time : Temporal
  deriving DecidableEq, Repr

def Status.default (nowUs : UInt64) : Status := ⟨.default nowUs⟩

def Status.update (status : Status) (nowUs : UInt64) : Status := ⟨status.time.update nowUs⟩

structure MAVLinkMessageStatus (Message : Type) where
  message : Message
  status : Status

def MAVLinkMessageStatus.update (entry : MAVLinkMessageStatus Message) (message : Message)
    (nowUs : UInt64) : MAVLinkMessageStatus Message :=
  { message, status := entry.status.update nowUs }

/-! ## 2. The tables -/

/-- One call of `data::update`. The clock is read for `Status::default()`, which is an argument of
    `or_insert` and so evaluated in every call, and then for the update. -/
structure DataUpdate (Message : Type) where
  header : MavHeader
  message : Message
  createdUs : UInt64
  nowUs : UInt64

/-- `.entry(key).or_insert(value).update(..)`. -/
def entryUpdate {K V : Type} [DecidableEq K] (table : K → Option V) (key : K) (value : V)
    (update : V → V) : K → Option V :=
  Function.update table key (some (update ((table key).getD value)))

structure MAVLinkVehicleComponentData (Message : Type) where
  id : UInt8
  messages : String → Option (MAVLinkMessageStatus Message)

structure MAVLinkVehicleData (Message : Type) where
  id : UInt8
  components : UInt8 → Option (MAVLinkVehicleComponentData Message)

structure MAVLinkVehiclesData (Message : Type) where
  vehicles : UInt8 → Option (MAVLinkVehicleData Message)

section Update

variable (messageName : Message → String)

def MAVLinkVehicleComponentData.update (component : MAVLinkVehicleComponentData Message)
    (input : DataUpdate Message) : MAVLinkVehicleComponentData Message :=
  { component with
    messages := entryUpdate component.messages (messageName input.message)
      { message := input.message, status := .default input.createdUs }
      fun entry => entry.update input.message input.nowUs }

def MAVLinkVehicleData.update (vehicle : MAVLinkVehicleData Message) (input : DataUpdate Message) :
    MAVLinkVehicleData Message :=
  { vehicle with
    components := entryUpdate vehicle.components input.header.componentId
      { id := input.header.componentId, messages := fun _ => none }
      fun component => component.update messageName input }

namespace MAVLinkVehiclesData

/-- `MAVLinkVehiclesData::default()`. -/
def default : MAVLinkVehiclesData Message := ⟨fun _ => none⟩

def update (data : MAVLinkVehiclesData Message) (input : DataUpdate Message) :
    MAVLinkVehiclesData Message :=
  { vehicles := entryUpdate data.vehicles input.header.systemId
      { id := input.header.systemId, components := fun _ => none }
      fun vehicle => vehicle.update messageName input }

def run (inputs : List (DataUpdate Message)) : MAVLinkVehiclesData Message :=
  inputs.foldl (update messageName) default

end MAVLinkVehiclesData

end Update

/-! ## 3. One table -/

structure DataKey where
  systemId : UInt8
  componentId : UInt8
  messageName : String
  deriving DecidableEq, Repr

section Keys

variable {messageName : Message → String} {inputs : List (DataUpdate Message)}

def DataUpdate.key (messageName : Message → String) (input : DataUpdate Message) : DataKey :=
  ⟨input.header.systemId, input.header.componentId, messageName input.message⟩

/-- The entry of a key. -/
def MAVLinkVehiclesData.find (data : MAVLinkVehiclesData Message) (key : DataKey) :
    Option (MAVLinkMessageStatus Message) :=
  ((data.vehicles key.systemId).bind fun vehicle => vehicle.components key.componentId).bind
    fun component => component.messages key.messageName

/-- What a message does to the entry of its key. -/
def stepMessage (input : DataUpdate Message) (entry : Option (MAVLinkMessageStatus Message)) :
    Option (MAVLinkMessageStatus Message) :=
  some ((entry.getD ⟨input.message, .default input.createdUs⟩).update input.message input.nowUs)

theorem entryUpdate_self {K V : Type} [DecidableEq K] (table : K → Option V) (k : K) (value : V)
    (update : V → V) : entryUpdate table k value update k = some (update ((table k).getD value)) :=
  Function.update_self ..

theorem entryUpdate_of_ne {K V : Type} [DecidableEq K] {table : K → Option V} {k k' : K} {value : V}
    {update : V → V} (h : k' ≠ k) : entryUpdate table k value update k' = table k' :=
  Function.update_of_ne h ..

/-- A vehicle that is inserted brings no entry. -/
theorem components_getD (vehicle : Option (MAVLinkVehicleData Message)) (id componentId : UInt8) :
    (vehicle.getD ⟨id, fun _ => none⟩).components componentId =
      vehicle.bind fun vehicle => vehicle.components componentId := by
  cases vehicle <;> rfl

theorem messages_getD (component : Option (MAVLinkVehicleComponentData Message)) (id : UInt8)
    (name : String) : (component.getD ⟨id, fun _ => none⟩).messages name =
      component.bind fun component => component.messages name := by
  cases component <;> rfl

theorem find_component (component : Option (MAVLinkVehicleComponentData Message)) (id : UInt8)
    (input : DataUpdate Message) (name : String) :
    ((component.getD ⟨id, fun _ => none⟩).update messageName input).messages name =
      if messageName input.message = name then
        stepMessage input (component.bind fun component => component.messages name)
      else component.bind fun component => component.messages name := by
  unfold MAVLinkVehicleComponentData.update
  by_cases hname : messageName input.message = name
  · subst hname
    rw [if_pos rfl]
    simp only [entryUpdate_self, messages_getD, stepMessage]
  · rw [if_neg hname]
    simp only [entryUpdate_of_ne (Ne.symm hname), messages_getD]

/-- **A message changes the entry of its key alone.** -/
theorem find_update (data : MAVLinkVehiclesData Message) (input : DataUpdate Message) :
    (data.update messageName input).find =
      Keyed.apply (DataUpdate.key messageName) stepMessage data.find input := by
  funext key
  obtain ⟨systemId, componentId, name⟩ := key
  by_cases hsystem : input.header.systemId = systemId
  · by_cases hcomponent : input.header.componentId = componentId
    · subst hsystem hcomponent
      simp only [MAVLinkVehiclesData.find, MAVLinkVehiclesData.update, entryUpdate_self,
        MAVLinkVehicleData.update, Option.bind_some, find_component, components_getD]
      by_cases hname : messageName input.message = name
      · have hkey : input.key messageName =
            ⟨input.header.systemId, input.header.componentId, name⟩ := by
          rw [DataUpdate.key, hname]
        rw [if_pos hname, Keyed.apply_same hkey]
        rfl
      · have hkey : input.key messageName ≠
            ⟨input.header.systemId, input.header.componentId, name⟩ :=
          fun h => hname (congrArg DataKey.messageName h)
        rw [if_neg hname, Keyed.apply_of_ne hkey]
        rfl
    · have hkey : input.key messageName ≠ ⟨systemId, componentId, name⟩ :=
        fun h => hcomponent (congrArg DataKey.componentId h)
      rw [Keyed.apply_of_ne hkey]
      subst hsystem
      simp only [MAVLinkVehiclesData.find, MAVLinkVehiclesData.update, entryUpdate_self,
        MAVLinkVehicleData.update, Option.bind_some, entryUpdate_of_ne (Ne.symm hcomponent),
        components_getD]
  · have hkey : input.key messageName ≠ ⟨systemId, componentId, name⟩ :=
      fun h => hsystem (congrArg DataKey.systemId h)
    rw [Keyed.apply_of_ne hkey]
    simp only [MAVLinkVehiclesData.find, MAVLinkVehiclesData.update,
      entryUpdate_of_ne (Ne.symm hsystem)]

/-- The messages of a key, in order. -/
def occurrences (messageName : Message → String) (key : DataKey)
    (inputs : List (DataUpdate Message)) : List (DataUpdate Message) :=
  inputs.filter fun input => input.key messageName = key

/-- **The entry of a key** comes from its messages. -/
theorem find_run (key : DataKey) : (MAVLinkVehiclesData.run messageName inputs).find key =
    (occurrences messageName key inputs).foldl
      (fun entry input => stepMessage input entry) none := by
  have hrun : ∀ data : MAVLinkVehiclesData Message,
      (inputs.foldl (MAVLinkVehiclesData.update messageName) data).find =
        Keyed.run (DataUpdate.key messageName) stepMessage data.find inputs := by
    induction inputs with
    | nil => exact fun _ => rfl
    | cons input inputs ih =>
        intro data
        rw [List.foldl_cons, ih, find_update, Keyed.run_cons]
  rw [MAVLinkVehiclesData.run, hrun, Keyed.run_at]
  rfl

/-! ## 4. The messages of one key -/

/-- What an entry holds after further messages. -/
theorem foldl_stepMessage (inputs : List (DataUpdate Message))
    (entry : MAVLinkMessageStatus Message) :
    ∃ entry', inputs.foldl (fun entry input => stepMessage input entry) (some entry) = some entry' ∧
      entry'.status.time.firstUpdateUs = entry.status.time.firstUpdateUs ∧
      entry'.status.time.counter = entry.status.time.counter + UInt64.ofNat inputs.length ∧
      ∀ input, inputs.getLast? = some input → entry'.message = input.message ∧
        entry'.status.time.lastUpdateUs = input.nowUs ∧
        entry'.status.time.frequency = entry'.status.time.rate := by
  induction inputs generalizing entry with
  | nil =>
      exact ⟨entry, rfl, rfl, (UInt64.add_zero _).symm, fun _ h => by cases h⟩
  | cons input inputs ih =>
      obtain ⟨entry', hrun, hfirst, hcounter, hlast⟩ := ih (entry.update input.message input.nowUs)
      refine ⟨entry', hrun, hfirst, ?_, fun last h => ?_⟩
      · have hone : (entry.update input.message input.nowUs).status.time.counter =
            entry.status.time.counter + 1 := rfl
        rw [hcounter, hone, List.length_cons, UInt64.ofNat_add, UInt64.add_assoc,
          UInt64.add_comm 1]
        rfl
      · cases inputs with
        | nil =>
            cases h
            cases hrun
            exact ⟨rfl, rfl, rfl⟩
        | cons next inputs => exact hlast last (by rwa [List.getLast?_cons_cons] at h)

/-- **The entry of a key**, after its messages: one more than they are, and the last of them. -/
theorem find_of_occurrences (key : DataKey) {input : DataUpdate Message}
    {later : List (DataUpdate Message)} (h : occurrences messageName key inputs = input :: later) :
    ∃ entry, (MAVLinkVehiclesData.run messageName inputs).find key = some entry ∧
      entry.status.time.firstUpdateUs = input.createdUs ∧
      entry.status.time.counter = UInt64.ofNat (later.length + 2) ∧
      ∀ last, (input :: later).getLast? = some last → entry.message = last.message ∧
        entry.status.time.lastUpdateUs = last.nowUs ∧
        entry.status.time.frequency = entry.status.time.rate := by
  obtain ⟨entry, hrun, hfirst, hcounter, hlast⟩ := foldl_stepMessage (input :: later)
    ⟨input.message, .default input.createdUs⟩
  refine ⟨entry, ?_, hfirst, ?_, hlast⟩
  · rw [find_run, h, ← hrun]
    rfl
  · have hone : (Status.default input.createdUs).time.counter = UInt64.ofNat 1 := rfl
    rw [hcounter, hone, ← UInt64.ofNat_add, List.length_cons, Nat.add_comm 1]

theorem find_of_none {key : DataKey} (h : occurrences messageName key inputs = []) :
    (MAVLinkVehiclesData.run messageName inputs).find key = none := by
  rw [find_run, h]
  rfl

end Keys

/-! ## 5. What the counter and the frequency stand for -/

section Counters

variable {messageName : Message → String} {inputs : List (DataUpdate Message)}

/-- **The counters count messages**: of every key that occurs, the number of its messages and the
    last of them; and no other key. -/
structure CountsMessages (messageName : Message → String) (inputs : List (DataUpdate Message)) :
    Prop where
  counted : ∀ key last, (occurrences messageName key inputs).getLast? = some last →
    ∃ entry, (MAVLinkVehiclesData.run messageName inputs).find key = some entry ∧
      entry.status.time.counter = UInt64.ofNat (occurrences messageName key inputs).length ∧
      entry.message = last.message
  noOther : ∀ key, occurrences messageName key inputs = [] →
    (MAVLinkVehiclesData.run messageName inputs).find key = none

/-- A key that occurs is counted once too often. -/
theorem not_countsMessages (key : DataKey) {input : DataUpdate Message}
    {later : List (DataUpdate Message)} (h : occurrences messageName key inputs = input :: later) :
    ¬ CountsMessages messageName inputs := by
  intro hcounts
  obtain ⟨last, hlast⟩ : ∃ last, (input :: later).getLast? = some last :=
    Option.isSome_iff_exists.mp (by simp)
  obtain ⟨entry, hfind, hcounter, _⟩ := hcounts.counted key last (h ▸ hlast)
  obtain ⟨entry', hfind', _, hcounter', _⟩ := find_of_occurrences key h
  obtain rfl := Option.some.inj (hfind.symm.trans hfind')
  rw [h, List.length_cons] at hcounter
  have hsum : UInt64.ofNat (later.length + 2) = UInt64.ofNat (later.length + 1) + 1 :=
    UInt64.ofNat_add (later.length + 1) 1
  have hsucc : UInt64.ofNat (later.length + 1) + 1 = UInt64.ofNat (later.length + 1) + 0 := by
    rw [← hsum, ← hcounter', hcounter, UInt64.add_zero]
  exact absurd ((UInt64.add_right_inj _).mp hsucc) (by decide)

/-- **The counters count messages only while there are none.** -/
theorem countsMessages_iff : CountsMessages messageName inputs ↔ inputs = [] := by
  constructor
  · intro hcounts
    cases hinputs : inputs with
    | nil => rfl
    | cons input rest =>
        have hoccurs : occurrences messageName (input.key messageName) inputs =
            input :: occurrences messageName (input.key messageName) rest := by
          rw [hinputs]
          exact List.filter_cons_of_pos (decide_eq_true rfl)
        exact absurd hcounts (not_countsMessages _ hoccurs)
  · rintro rfl
    exact ⟨fun _ _ h => (by cases h), fun _ h => find_of_none h⟩

/-- One heartbeat is counted twice. -/
theorem not_countsMessages_heartbeat :
    ¬ CountsMessages (fun message : String => message) [⟨⟨1, 1, 0⟩, "HEARTBEAT", 5, 5⟩] :=
  not_countsMessages ⟨1, 1, "HEARTBEAT"⟩ rfl

/-- Messages per second: the counted messages by the elapsed time. -/
def Temporal.perSecond (temporal : Temporal) : ℚ :=
  temporal.counter.toNat /
    (((temporal.lastUpdateUs.toNat : ℚ) - temporal.firstUpdateUs.toNat) / 1000000)

theorem Temporal.elapsed_ne_zero {temporal : Temporal}
    (h : temporal.firstUpdateUs < temporal.lastUpdateUs) :
    (temporal.lastUpdateUs.toNat : ℚ) - temporal.firstUpdateUs.toNat ≠ 0 :=
  (sub_pos.mpr (Nat.cast_lt.mpr (UInt64.lt_iff_toNat_lt.mp h))).ne'

/-- The rate is ten times that. -/
theorem Temporal.rate_eq (temporal : Temporal)
    (h : temporal.firstUpdateUs < temporal.lastUpdateUs) :
    temporal.rate = 10 * temporal.perSecond := by
  have hle : temporal.firstUpdateUs ≤ temporal.lastUpdateUs := UInt64.le_of_lt h
  have hsub : ((temporal.lastUpdateUs - temporal.firstUpdateUs).toNat : ℚ) =
      temporal.lastUpdateUs.toNat - temporal.firstUpdateUs.toNat := by
    rw [UInt64.toNat_sub_of_le _ _ hle, Nat.cast_sub (UInt64.le_iff_toNat_le.mp hle)]
  have helapsed := elapsed_ne_zero h
  rw [rate, perSecond, hsub]
  field_simp
  ring

theorem Temporal.perSecond_eq_zero {temporal : Temporal}
    (h : temporal.firstUpdateUs < temporal.lastUpdateUs) :
    temporal.perSecond = 0 ↔ temporal.counter = 0 := by
  have hsecond : ((temporal.lastUpdateUs.toNat : ℚ) - temporal.firstUpdateUs.toNat) / 1000000 ≠ 0 :=
    div_ne_zero (elapsed_ne_zero h) (by norm_num)
  rw [perSecond, div_eq_zero_iff, or_iff_left hsecond, Nat.cast_eq_zero, ← UInt64.toNat_inj]
  rfl

/-- **The frequency is messages per second only where the counter has wrapped to zero.** -/
theorem frequency_iff (key : DataKey) (entry : MAVLinkMessageStatus Message)
    (hentry : (MAVLinkVehiclesData.run messageName inputs).find key = some entry)
    (hmany : 2 ≤ (occurrences messageName key inputs).length)
    (helapsed : entry.status.time.firstUpdateUs < entry.status.time.lastUpdateUs) :
    entry.status.time.frequency = entry.status.time.perSecond ↔
      2 ^ 64 ∣ (occurrences messageName key inputs).length + 1 := by
  cases hoccurs : occurrences messageName key inputs with
  | nil =>
      rw [hoccurs] at hmany
      exact absurd hmany (Nat.not_succ_le_zero 1)
  | cons input later =>
      obtain ⟨entry', hfind, _, hcounter, hlast⟩ := find_of_occurrences key hoccurs
      obtain rfl := Option.some.inj (hentry.symm.trans hfind)
      obtain ⟨last, hgetLast⟩ : ∃ last, (input :: later).getLast? = some last :=
        Option.isSome_iff_exists.mp (by simp)
      have hrate := (hlast last hgetLast).2.2
      have hzero : entry.status.time.frequency = entry.status.time.perSecond ↔
          entry.status.time.counter = 0 := by
        rw [hrate, Temporal.rate_eq _ helapsed, ← Temporal.perSecond_eq_zero helapsed]
        constructor
        · intro h
          linarith
        · intro h
          rw [h, mul_zero]
      rw [hzero, hcounter, ← UInt64.toNat_inj, UInt64.toNat_ofNat', List.length_cons]
      exact (Nat.dvd_iff_mod_eq_zero ..).symm

/-- Two heartbeats, a second apart. -/
def heartbeats : List (DataUpdate String) :=
  [⟨⟨1, 1, 0⟩, "HEARTBEAT", 0, 0⟩, ⟨⟨1, 1, 1⟩, "HEARTBEAT", 1000000, 1000000⟩]

theorem occurrences_heartbeats :
    occurrences id ⟨1, 1, "HEARTBEAT"⟩ heartbeats = heartbeats := rfl

theorem heartbeats_entry : ∃ entry, (MAVLinkVehiclesData.run id heartbeats).find
      ⟨1, 1, "HEARTBEAT"⟩ = some entry ∧
    entry.status.time.firstUpdateUs < entry.status.time.lastUpdateUs ∧
    entry.status.time.counter = 3 ∧ entry.status.time.frequency = entry.status.time.rate := by
  obtain ⟨entry, hfind, hfirst, hcounter, hlast⟩ := find_of_occurrences
    ⟨1, 1, "HEARTBEAT"⟩ occurrences_heartbeats
  obtain ⟨_, hlast, hrate⟩ := hlast _ rfl
  exact ⟨entry, hfind, by rw [hfirst, hlast]; decide, hcounter, hrate⟩

theorem frequency_iff_heartbeats : ∃ entry, (MAVLinkVehiclesData.run id heartbeats).find
      ⟨1, 1, "HEARTBEAT"⟩ = some entry ∧
    (entry.status.time.frequency = entry.status.time.perSecond ↔ 2 ^ 64 ∣ 2 + 1) := by
  obtain ⟨entry, hfind, helapsed, _, _⟩ := heartbeats_entry
  exact ⟨entry, hfind, frequency_iff ⟨1, 1, "HEARTBEAT"⟩ entry hfind (by decide) helapsed⟩

/-- Three are counted, and thirty a second reported. -/
theorem frequency_tenfold : ∃ entry, (MAVLinkVehiclesData.run id heartbeats).find
      ⟨1, 1, "HEARTBEAT"⟩ = some entry ∧
    2 ≤ (occurrences id ⟨1, 1, "HEARTBEAT"⟩ heartbeats).length ∧
    entry.status.time.firstUpdateUs < entry.status.time.lastUpdateUs ∧
    entry.status.time.frequency ≠ entry.status.time.perSecond := by
  obtain ⟨entry, hfind, helapsed, hcounter, hrate⟩ := heartbeats_entry
  refine ⟨entry, hfind, by decide, helapsed, fun h => ?_⟩
  have hzero : entry.status.time.perSecond = 0 := by
    rw [hrate, Temporal.rate_eq _ helapsed] at h
    linarith
  rw [Temporal.perSecond_eq_zero helapsed, hcounter] at hzero
  cases hzero

end Counters
end MavlinkServer.Rest
