/-
  File:      MavlinkServer/Stats/Accumulated.lean
  Subject:   THE ACCUMULATED COUNTERS (`src/lib/stats/accumulated`). Every
             counter counts messages and bytes modulo 2^64.

  * `AccumulatedStatsInner` -- one counter: `new` for the first message,
    `update` for every further one;
  * `AccumulatedDriverStats` -- a driver's counters, absent until their first
    message;
  * `AccumulatedHubMessagesStats` -- one counter for each (system, component,
    message id), in a map of maps of maps;
  * `sum_messages_update`, `sum_bytes_update` -- a message adds itself once to
    any sum over the leaves, whether it is the first of its kind or not;
  * `le_updated` -- a counter that does not wrap does not go back.

  The clock's readings are arguments (`now`).
-/
import MavlinkServer.Lib.IndexMap
import Mathlib.Data.UInt

namespace MavlinkServer.Stats

open Lib

/-! ## 1. Messages -/

/-- `Protocol`, with what its packet says of itself. -/
structure Protocol where
  origin : String
  timestamp : UInt64
  systemId : UInt8
  componentId : UInt8
  messageId : UInt32
  packetSize : Nat
  deriving DecidableEq, Repr

/-- The size of the packet as the counters add it up. -/
def Protocol.size (message : Protocol) : UInt64 := UInt64.ofNat message.packetSize

/-! ## 2. One counter -/

structure AccumulatedStatsInner where
  lastMessage : Option Protocol
  lastUpdateUs : UInt64
  messages : UInt64
  bytes : UInt64
  delay : UInt64
  deriving DecidableEq, Repr

namespace AccumulatedStatsInner

/-- `Default for AccumulatedStatsInner`. -/
def default (now : UInt64) : AccumulatedStatsInner := ⟨none, now, 0, 0, 0⟩

def new (now : UInt64) (message : Protocol) : AccumulatedStatsInner where
  lastMessage := some message
  lastUpdateUs := now
  messages := 1
  bytes := message.size
  delay := now - message.timestamp

def update (stats : AccumulatedStatsInner) (now : UInt64) (message : Protocol) :
    AccumulatedStatsInner where
  lastMessage := some message
  lastUpdateUs := now
  messages := stats.messages + 1
  bytes := stats.bytes + message.size
  delay := stats.delay + (now - message.timestamp)

/-- A counter that may not be there yet is made by its first message. -/
def updated (now : UInt64) (message : Protocol) : Option AccumulatedStatsInner → AccumulatedStatsInner
  | some stats => stats.update now message
  | none => new now message

/-- What a counter that may not be there counts. -/
def messagesOf (stats : Option AccumulatedStatsInner) : UInt64 := (stats.map (·.messages)).getD 0

def bytesOf (stats : Option AccumulatedStatsInner) : UInt64 := (stats.map (·.bytes)).getD 0

/-- **Not ahead**: neither counts more than the other has counted. -/
def Le (a b : Option AccumulatedStatsInner) : Prop :=
  messagesOf a ≤ messagesOf b ∧ bytesOf a ≤ bytesOf b

instance (a b : Option AccumulatedStatsInner) : Decidable (Le a b) :=
  inferInstanceAs (Decidable (_ ∧ _))

/-- One more message does not wrap the counter. -/
def Room (stats : Option AccumulatedStatsInner) (message : Protocol) : Prop :=
  (messagesOf stats).toNat + 1 < 2 ^ 64 ∧
    (bytesOf stats).toNat + message.packetSize < 2 ^ 64

instance (stats : Option AccumulatedStatsInner) (message : Protocol) :
    Decidable (Room stats message) := inferInstanceAs (Decidable (_ ∧ _))

variable {stats a b c : Option AccumulatedStatsInner} {now : UInt64} {message : Protocol}

@[simp] theorem messagesOf_some (s : AccumulatedStatsInner) : messagesOf (some s) = s.messages := rfl

@[simp] theorem bytesOf_some (s : AccumulatedStatsInner) : bytesOf (some s) = s.bytes := rfl

/-- **One message more**, in a counter that is there and in a new one. -/
theorem messages_updated : (updated now message stats).messages = messagesOf stats + 1 := by
  cases stats with
  | none => rfl
  | some stats => rfl

theorem bytes_updated : (updated now message stats).bytes = bytesOf stats + message.size := by
  cases stats with
  | none => exact (zero_add message.size).symm
  | some stats => rfl

theorem Le.refl (a : Option AccumulatedStatsInner) : Le a a :=
  ⟨UInt64.le_refl _, UInt64.le_refl _⟩

theorem Le.trans (h : Le a b) (h' : Le b c) : Le a c :=
  ⟨UInt64.le_trans h.1 h'.1, UInt64.le_trans h.2 h'.2⟩

/-- Nothing is behind a counter without messages. -/
theorem le_of_zero (hm : messagesOf a = 0) (hb : bytesOf a = 0) : Le a b := by
  unfold Le
  rw [hm, hb]
  exact ⟨UInt64.zero_le, UInt64.zero_le⟩

theorem none_le : Le none b := le_of_zero rfl rfl

theorem default_le : Le (some (default now)) b := le_of_zero rfl rfl

/-- **A counter with room does not go back.** -/
theorem le_updated (h : Room stats message) : Le stats (some (updated now message stats)) := by
  obtain ⟨hm, hb⟩ := h
  have hsize : message.size.toNat = message.packetSize := by
    show (UInt64.ofNat message.packetSize).toNat = _
    rw [UInt64.toNat_ofNat']
    exact Nat.mod_eq_of_lt (by omega)
  constructor
  · rw [messagesOf_some, messages_updated, UInt64.le_iff_toNat_le, UInt64.toNat_add]
    show _ ≤ (_ + 1) % 2 ^ 64
    omega
  · rw [bytesOf_some, bytes_updated, UInt64.le_iff_toNat_le, UInt64.toNat_add, hsize]
    omega

end AccumulatedStatsInner

/-! ## 3. The counters of a driver -/

structure AccumulatedDriverStatsInner where
  input : Option AccumulatedStatsInner
  output : Option AccumulatedStatsInner
  deriving DecidableEq, Repr

namespace AccumulatedDriverStatsInner

def default : AccumulatedDriverStatsInner := ⟨none, none⟩

def updateInput (stats : AccumulatedDriverStatsInner) (now : UInt64) (message : Protocol) :
    AccumulatedDriverStatsInner :=
  { stats with input := some (AccumulatedStatsInner.updated now message stats.input) }

def updateOutput (stats : AccumulatedDriverStatsInner) (now : UInt64) (message : Protocol) :
    AccumulatedDriverStatsInner :=
  { stats with output := some (AccumulatedStatsInner.updated now message stats.output) }

/-- Neither counter of the one is ahead of the other's. -/
def Le (a b : AccumulatedDriverStatsInner) : Prop :=
  AccumulatedStatsInner.Le a.input b.input ∧ AccumulatedStatsInner.Le a.output b.output

instance (a b : AccumulatedDriverStatsInner) : Decidable (Le a b) :=
  inferInstanceAs (Decidable (_ ∧ _))

end AccumulatedDriverStatsInner

structure AccumulatedDriverStats where
  name : String
  driverType : String
  endpoint : String
  stats : AccumulatedDriverStatsInner
  deriving DecidableEq, Repr

/-- `reset_stats` of every driver. -/
def AccumulatedDriverStats.resetStats (driver : AccumulatedDriverStats) : AccumulatedDriverStats :=
  { driver with stats := .default }

/-! ## 4. The counters of the hub's messages -/

abbrev SystemId : Type := UInt8
abbrev ComponentId : Type := UInt8
abbrev MessageId : Type := UInt32

/-- A leaf for every message id of every component of every system. The server has such maps of
    accumulated counters, and maps of the same shape of the statistics made from them. -/
structure ComponentMessageStats (α : Type) where
  messagesStats : IndexMap MessageId α
  deriving DecidableEq

structure SystemMessagesStats (α : Type) where
  componentsMessagesStats : IndexMap ComponentId (ComponentMessageStats α)
  deriving DecidableEq

structure HubMessagesStats (α : Type) where
  systemsMessagesStats : IndexMap SystemId (SystemMessagesStats α)
  deriving DecidableEq

namespace ComponentMessageStats

variable {α : Type}

def empty : ComponentMessageStats α := ⟨.empty⟩

def leaf? (stats : ComponentMessageStats α) (messageId : MessageId) : Option α :=
  stats.messagesStats.get? messageId

def entry (stats : ComponentMessageStats α) (messageId : MessageId) (f : Option α → α) :
    ComponentMessageStats α :=
  ⟨stats.messagesStats.entry messageId f⟩

def sum {M : Type} [AddCommMonoid M] (stats : ComponentMessageStats α) (g : α → M) : M :=
  stats.messagesStats.sum g

end ComponentMessageStats

namespace SystemMessagesStats

variable {α : Type}

def empty : SystemMessagesStats α := ⟨.empty⟩

def leaf? (stats : SystemMessagesStats α) (componentId : ComponentId) (messageId : MessageId) :
    Option α :=
  (stats.componentsMessagesStats.get? componentId).bind (·.leaf? messageId)

def entry (stats : SystemMessagesStats α) (componentId : ComponentId) (messageId : MessageId)
    (f : Option α → α) : SystemMessagesStats α :=
  ⟨stats.componentsMessagesStats.entry componentId fun component =>
    (component.getD .empty).entry messageId f⟩

def sum {M : Type} [AddCommMonoid M] (stats : SystemMessagesStats α) (g : α → M) : M :=
  stats.componentsMessagesStats.sum fun component => component.sum g

end SystemMessagesStats

namespace HubMessagesStats

variable {α : Type}

def empty : HubMessagesStats α := ⟨.empty⟩

def leaf? (stats : HubMessagesStats α) (systemId : SystemId) (componentId : ComponentId)
    (messageId : MessageId) : Option α :=
  (stats.systemsMessagesStats.get? systemId).bind (·.leaf? componentId messageId)

/-- `.entry(..).or_default()` down to the leaf, and what is done to it. -/
def entry (stats : HubMessagesStats α) (systemId : SystemId) (componentId : ComponentId)
    (messageId : MessageId) (f : Option α → α) : HubMessagesStats α :=
  ⟨stats.systemsMessagesStats.entry systemId fun system =>
    (system.getD .empty).entry componentId messageId f⟩

/-- The sum over all leaves. -/
def sum {M : Type} [AddCommMonoid M] (stats : HubMessagesStats α) (g : α → M) : M :=
  stats.systemsMessagesStats.sum fun system => system.sum g

end HubMessagesStats

abbrev AccumulatedHubMessagesStats : Type := HubMessagesStats AccumulatedStatsInner

/-- `AccumulatedHubMessagesStats::update`. -/
def AccumulatedHubMessagesStats.update (stats : AccumulatedHubMessagesStats) (now : UInt64)
    (message : Protocol) : AccumulatedHubMessagesStats :=
  HubMessagesStats.entry stats message.systemId message.componentId message.messageId
    (AccumulatedStatsInner.updated now message)

section Leaves

variable {α M : Type} [AddCommMonoid M] {f : Option α → α} {g : α → M} {d : M}
variable {systemId systemId' : SystemId} {componentId componentId' : ComponentId}
variable {messageId messageId' : MessageId}

theorem sum_empty : (HubMessagesStats.empty : HubMessagesStats α).sum g = 0 := List.sum_nil

/-- **The sum over the leaves grows with the leaf**, be it there, or its component or its system
    not. -/
theorem sum_entry (hnone : g (f none) = d) (hsome : ∀ v, g (f (some v)) = g v + d)
    (stats : HubMessagesStats α) :
    (stats.entry systemId componentId messageId f).sum g = stats.sum g + d := by
  have hcomponent : ∀ component : ComponentMessageStats α,
      (component.entry messageId f).sum g = component.sum g + d :=
    fun component => IndexMap.sum_entry hnone hsome
  have hsystem : ∀ system : SystemMessagesStats α,
      (system.entry componentId messageId f).sum g = system.sum g + d := by
    intro system
    have hnew : (ComponentMessageStats.empty.entry messageId f).sum g = d :=
      (hcomponent .empty).trans (zero_add d)
    exact IndexMap.sum_entry
      (f := fun component : Option (ComponentMessageStats α) =>
        (component.getD .empty).entry messageId f)
      (g := fun component : ComponentMessageStats α => component.sum g) hnew hcomponent
  have hnew : (SystemMessagesStats.empty.entry componentId messageId f).sum g = d :=
    (hsystem .empty).trans (zero_add d)
  exact IndexMap.sum_entry
    (f := fun system : Option (SystemMessagesStats α) =>
      (system.getD .empty).entry componentId messageId f)
    (g := fun system : SystemMessagesStats α => system.sum g) hnew hsystem

theorem ComponentMessageStats.leaf?_entry (stats : ComponentMessageStats α) :
    (stats.entry messageId f).leaf? messageId' =
      if messageId' = messageId then some (f (stats.leaf? messageId))
      else stats.leaf? messageId' := by
  show (stats.messagesStats.entry messageId f).get? messageId' = _
  split
  · rename_i h
    rw [h]
    exact IndexMap.get?_entry_self
  · rename_i h
    exact IndexMap.get?_entry_of_ne h

theorem SystemMessagesStats.leaf?_entry (stats : SystemMessagesStats α) :
    (stats.entry componentId messageId f).leaf? componentId' messageId' =
      if componentId' = componentId ∧ messageId' = messageId then
        some (f (stats.leaf? componentId messageId))
      else stats.leaf? componentId' messageId' := by
  have hempty : ∀ component : Option (ComponentMessageStats α),
      (component.getD .empty).leaf? = fun id => component.bind (·.leaf? id) := by
    intro component
    cases component <;> rfl
  unfold SystemMessagesStats.leaf? SystemMessagesStats.entry
  by_cases hc : componentId' = componentId
  · subst hc
    rw [IndexMap.get?_entry_self, Option.bind_some, ComponentMessageStats.leaf?_entry, hempty]
    simp only [true_and]
  · rw [IndexMap.get?_entry_of_ne hc, if_neg fun h => hc h.1]

/-- **What is under a key after an entry was made**: the new leaf, or what was there. -/
theorem HubMessagesStats.leaf?_entry (stats : HubMessagesStats α) :
    (stats.entry systemId componentId messageId f).leaf? systemId' componentId' messageId' =
      if systemId' = systemId ∧ componentId' = componentId ∧ messageId' = messageId then
        some (f (stats.leaf? systemId componentId messageId))
      else stats.leaf? systemId' componentId' messageId' := by
  have hempty : ∀ system : Option (SystemMessagesStats α),
      (system.getD .empty).leaf? = fun c id => system.bind (·.leaf? c id) := by
    intro system
    cases system <;> rfl
  unfold HubMessagesStats.leaf? HubMessagesStats.entry
  by_cases hs : systemId' = systemId
  · subst hs
    rw [IndexMap.get?_entry_self, Option.bind_some, SystemMessagesStats.leaf?_entry, hempty]
    simp only [true_and]
  · rw [IndexMap.get?_entry_of_ne hs, if_neg fun h => hs h.1]

end Leaves

/-- **A message adds itself once to the leaves.** -/
theorem sum_messages_update (stats : AccumulatedHubMessagesStats) (now : UInt64)
    (message : Protocol) :
    HubMessagesStats.sum (stats.update now message) (·.messages) =
      HubMessagesStats.sum stats (·.messages) + 1 :=
  sum_entry rfl (fun _ => rfl) stats

theorem sum_bytes_update (stats : AccumulatedHubMessagesStats) (now : UInt64)
    (message : Protocol) :
    HubMessagesStats.sum (stats.update now message) (·.bytes) =
      HubMessagesStats.sum stats (·.bytes) + message.size :=
  sum_entry rfl (fun _ => rfl) stats

end MavlinkServer.Stats
