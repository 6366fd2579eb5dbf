/-
  File:      MavlinkServer/Stats/Format.lean
  Subject:   THE STATISTICS AS THE SERVER WRITES THEM AND THE WEB PAGE READS
             THEM (the types of `src/lib/stats/` with `Serialize`, those of
             `src/webpage/src/stats/` with `Deserialize`, and the three
             `deal_with_..._stats_message` of `src/webpage/src/app.rs`).

  The two declare their types apart from each other: on the server a total is a
  u64, in a sample of the page a u32. The text of a JSON value is left out, as
  `serde_json` reads the value that it wrote.

  * `toJson` -- what the server writes, type by type;
  * `ofJson` -- what the page reads;
  * `StatsInner.sample` -- the sample that says the same; `Fits` -- it exists;
  * `reads_hubStats`, `reads_driversStats`, `reads_hubMessagesStats` -- it is what
    is read;
  * **`agree_iff`** -- the two agree on a message exactly when all totals in it
    are below 2^32.
-/
import MavlinkServer.Stats.Published
import MavlinkServer.Lib.Json

namespace MavlinkServer.Stats

open Lib Hub

/-! ## 1. The server -/

def ByteStats.toJson (stats : ByteStats) : Json :=
  .object [("total_bytes", .number stats.totalBytes.toNat),
    ("bytes_per_second", .ofFloat stats.bytesPerSecond),
    ("average_bytes_per_second", .ofFloat stats.averageBytesPerSecond)]

def MessageStats.toJson (stats : MessageStats) : Json :=
  .object [("total_messages", .number stats.totalMessages.toNat),
    ("messages_per_second", .ofFloat stats.messagesPerSecond),
    ("average_messages_per_second", .ofFloat stats.averageMessagesPerSecond)]

def DelayStats.toJson (stats : DelayStats) : Json :=
  .object [("delay", .ofFloat stats.delay), ("jitter", .ofFloat stats.jitter)]

def StatsInner.toJson (stats : StatsInner) : Json :=
  .object [("last_message_time_us", .number stats.lastMessageTimeUs.toNat),
    ("bytes", stats.bytes.toJson), ("messages", stats.messages.toJson),
    ("delay_stats", stats.delayStats.toJson)]

def DriverStatsInner.toJson (stats : DriverStatsInner) : Json :=
  .object [("input", .ofOption StatsInner.toJson stats.input),
    ("output", .ofOption StatsInner.toJson stats.output)]

def DriverStats.toJson (driver : DriverStats) : Json :=
  .object [("name", .string driver.name), ("driver_type", .string driver.driverType),
    ("endpoint", .string driver.endpoint), ("stats", driver.stats.toJson)]

/-- A map by UUIDs; their text is the `uuid` crate's. -/
def DriversStats.toJson (uuid : KeyFormat DriverUuid) (drivers : DriversStats) : Json :=
  .ofMap uuid DriverStats.toJson drivers

def ComponentMessageStats.toJson (stats : ComponentMessageStats StatsInner) : Json :=
  .object [("messages_stats", .ofMap .u32 StatsInner.toJson stats.messagesStats)]

def SystemMessagesStats.toJson (stats : SystemMessagesStats StatsInner) : Json :=
  .object [("components_messages_stats",
    .ofMap .u8 ComponentMessageStats.toJson stats.componentsMessagesStats)]

def HubMessagesStats.toJson (stats : HubMessagesStats StatsInner) : Json :=
  .object [("systems_messages_stats",
    .ofMap .u8 SystemMessagesStats.toJson stats.systemsMessagesStats)]

end MavlinkServer.Stats

namespace MavlinkServer.Webpage

open Lib Hub Stats

/-! ## 2. The web page -/

structure ByteStatsSample where
  totalBytes : UInt32
  bytesPerSecond : Float
  averageBytesPerSecond : Float

structure MessageStatsSample where
  totalMessages : UInt32
  messagesPerSecond : Float
  averageMessagesPerSecond : Float

structure DelayStatsSample where
  delay : Float
  jitter : Float

/-- `StatsInner<B, M, D>` of the page. -/
structure StatsInnerOf (B M D : Type) where
  lastMessageTimeUs : UInt64
  bytes : B
  messages : M
  delayStats : D

abbrev StatsSample : Type := StatsInnerOf ByteStatsSample MessageStatsSample DelayStatsSample

/-- Deserializing into a `u32`, and into a `u64`. -/
def asU32 (value : Json) : Option UInt32 :=
  (value.asUnsigned (2 ^ 32)).bind fun n => some (.ofNat n)

def asU64 (value : Json) : Option UInt64 :=
  (value.asUnsigned (2 ^ 64)).bind fun n => some (.ofNat n)

def ByteStatsSample.ofJson (value : Json) : Option ByteStatsSample := do
  let totalBytes ← asU32 (← value.field "total_bytes")
  let bytesPerSecond ← (← value.field "bytes_per_second").asFloat
  let averageBytesPerSecond ← (← value.field "average_bytes_per_second").asFloat
  return ⟨totalBytes, bytesPerSecond, averageBytesPerSecond⟩

def MessageStatsSample.ofJson (value : Json) : Option MessageStatsSample := do
  let totalMessages ← asU32 (← value.field "total_messages")
  let messagesPerSecond ← (← value.field "messages_per_second").asFloat
  let averageMessagesPerSecond ← (← value.field "average_messages_per_second").asFloat
  return ⟨totalMessages, messagesPerSecond, averageMessagesPerSecond⟩

def DelayStatsSample.ofJson (value : Json) : Option DelayStatsSample := do
  let delay ← (← value.field "delay").asFloat
  let jitter ← (← value.field "jitter").asFloat
  return ⟨delay, jitter⟩

def StatsSample.ofJson (value : Json) : Option StatsSample := do
  let lastMessageTimeUs ← asU64 (← value.field "last_message_time_us")
  let bytes ← ByteStatsSample.ofJson (← value.field "bytes")
  let messages ← MessageStatsSample.ofJson (← value.field "messages")
  let delayStats ← DelayStatsSample.ofJson (← value.field "delay_stats")
  return ⟨lastMessageTimeUs, bytes, messages, delayStats⟩

/-- `HubStats<B, M, D>`: with `#[serde(flatten)]` its fields are those of the one field it has. -/
structure HubStatsSample where
  stats : StatsSample

def HubStatsSample.ofJson (value : Json) : Option HubStatsSample :=
  (StatsSample.ofJson value).bind fun stats => some ⟨stats⟩

structure DriverStatsInnerSample where
  input : Option StatsSample
  output : Option StatsSample

def DriverStatsInnerSample.ofJson (value : Json) : Option DriverStatsInnerSample := do
  let input ← value.optionField "input" StatsSample.ofJson
  let output ← value.optionField "output" StatsSample.ofJson
  return ⟨input, output⟩

structure DriverStatsSample where
  name : String
  driverType : String
  endpoint : String
  stats : DriverStatsInnerSample

def DriverStatsSample.ofJson (value : Json) : Option DriverStatsSample := do
  let name ← (← value.field "name").asString
  let driverType ← (← value.field "driver_type").asString
  let endpoint ← (← value.field "endpoint").asString
  let stats ← DriverStatsInnerSample.ofJson (← value.field "stats")
  return ⟨name, driverType, endpoint, stats⟩

/-- `DriversStats<B, M, D>`: with `#[serde(flatten)]` it is the map. -/
structure DriversStatsSample where
  driversStats : IndexMap DriverUuid DriverStatsSample

def DriversStatsSample.ofJson (uuid : KeyFormat DriverUuid) (value : Json) :
    Option DriversStatsSample :=
  (value.asMap uuid DriverStatsSample.ofJson).bind fun drivers => some ⟨drivers⟩

/-- The maps of the page have the shape of the server's. -/
def componentMessageStatsOfJson (value : Json) : Option (ComponentMessageStats StatsSample) := do
  let messagesStats ← (← value.field "messages_stats").asMap .u32 StatsSample.ofJson
  return ⟨messagesStats⟩

def systemMessagesStatsOfJson (value : Json) : Option (SystemMessagesStats StatsSample) := do
  let componentsMessagesStats ←
    (← value.field "components_messages_stats").asMap .u8 componentMessageStatsOfJson
  return ⟨componentsMessagesStats⟩

/-- `HubMessagesStatsSample` -/
def hubMessagesStatsOfJson (value : Json) : Option (HubMessagesStats StatsSample) := do
  let systemsMessagesStats ←
    (← value.field "systems_messages_stats").asMap .u8 systemMessagesStatsOfJson
  return ⟨systemsMessagesStats⟩

/-! ## 3. Leaf by leaf -/

theorem reads_asU32 (n : UInt64) :
    Reads (n.toNat < 2 ^ 32) (asU32 (.number n.toNat)) n.toUInt32 := by
  have hread := (reads_asUnsigned (2 ^ 32) n.toNat).bind_some (f := UInt32.ofNat)
  exact hread

theorem reads_asU64 (n : UInt64) : Reads True (asU64 (.number n.toNat)) n := by
  have hread := (reads_asUnsigned (2 ^ 64) n.toNat).bind_some (f := UInt64.ofNat)
  rw [UInt64.ofNat_toNat] at hread
  exact hread.congr (iff_true_intro n.toNat_lt)

end MavlinkServer.Webpage

namespace MavlinkServer.Stats

open Lib Hub Webpage

/-- The sample that says the same, its totals modulo 2^32. -/
def ByteStats.sample (stats : ByteStats) : ByteStatsSample :=
  ⟨stats.totalBytes.toUInt32, stats.bytesPerSecond, stats.averageBytesPerSecond⟩

def MessageStats.sample (stats : MessageStats) : MessageStatsSample :=
  ⟨stats.totalMessages.toUInt32, stats.messagesPerSecond, stats.averageMessagesPerSecond⟩

def StatsInner.sample (stats : StatsInner) : StatsSample :=
  ⟨stats.lastMessageTimeUs, stats.bytes.sample, stats.messages.sample,
    ⟨stats.delayStats.delay, stats.delayStats.jitter⟩⟩

def ByteStats.Fits (stats : ByteStats) : Prop :=
  stats.totalBytes.toNat < 2 ^ 32 ∧ stats.bytesPerSecond.isFinite = true ∧
    stats.averageBytesPerSecond.isFinite = true

def MessageStats.Fits (stats : MessageStats) : Prop :=
  stats.totalMessages.toNat < 2 ^ 32 ∧ stats.messagesPerSecond.isFinite = true ∧
    stats.averageMessagesPerSecond.isFinite = true

/-- **Fits**: the totals are below 2^32, and the rates, the delay and the jitter are numbers. -/
def StatsInner.Fits (stats : StatsInner) : Prop :=
  stats.bytes.Fits ∧ stats.messages.Fits ∧ stats.delayStats.delay.isFinite = true ∧
    stats.delayStats.jitter.isFinite = true

theorem reads_byteStats (stats : ByteStats) :
    Reads stats.Fits (ByteStatsSample.ofJson stats.toJson) stats.sample := by
  unfold ByteStatsSample.ofJson
  refine .after rfl ((reads_asU32 _).bind ?_)
  refine .after rfl ((reads_asFloat _).bind ?_)
  exact .after rfl (reads_asFloat _).bind_some

theorem reads_messageStats (stats : MessageStats) :
    Reads stats.Fits (MessageStatsSample.ofJson stats.toJson) stats.sample := by
  unfold MessageStatsSample.ofJson
  refine .after rfl ((reads_asU32 _).bind ?_)
  refine .after rfl ((reads_asFloat _).bind ?_)
  exact .after rfl (reads_asFloat _).bind_some

theorem reads_delayStats (stats : DelayStats) :
    Reads (stats.delay.isFinite = true ∧ stats.jitter.isFinite = true)
      (DelayStatsSample.ofJson stats.toJson) ⟨stats.delay, stats.jitter⟩ := by
  unfold DelayStatsSample.ofJson
  refine .after rfl ((reads_asFloat _).bind ?_)
  exact .after rfl (reads_asFloat _).bind_some

theorem reads_statsInner (stats : StatsInner) :
    Reads stats.Fits (StatsSample.ofJson stats.toJson) stats.sample := by
  refine Reads.congr (p := True ∧ stats.Fits) ?_ (by rw [true_and])
  unfold StatsSample.ofJson
  refine .after rfl ((reads_asU64 _).bind ?_)
  refine .after rfl ((reads_byteStats _).bind ?_)
  refine .after rfl ((reads_messageStats _).bind ?_)
  exact .after rfl (reads_delayStats _).bind_some

/-! ## 4. The three messages -/

def DriverStats.sample (driver : DriverStats) : DriverStatsSample :=
  ⟨driver.name, driver.driverType, driver.endpoint,
    driver.stats.input.map StatsInner.sample, driver.stats.output.map StatsInner.sample⟩

def DriverStats.Fits (driver : DriverStats) : Prop :=
  (∀ stats ∈ driver.stats.input, stats.Fits) ∧ ∀ stats ∈ driver.stats.output, stats.Fits

def DriversStats.sample (drivers : DriversStats) : DriversStatsSample :=
  ⟨drivers.collect fun driver => some driver.sample⟩

def ComponentMessageStats.sample (stats : ComponentMessageStats StatsInner) :
    ComponentMessageStats StatsSample :=
  ⟨stats.messagesStats.collect fun leaf => some leaf.sample⟩

def ComponentMessageStats.Fits (stats : ComponentMessageStats StatsInner) : Prop :=
  ∀ e ∈ stats.messagesStats.entries, e.2.Fits

def SystemMessagesStats.sample (stats : SystemMessagesStats StatsInner) :
    SystemMessagesStats StatsSample :=
  ⟨stats.componentsMessagesStats.collect fun component => some component.sample⟩

def SystemMessagesStats.Fits (stats : SystemMessagesStats StatsInner) : Prop :=
  ∀ e ∈ stats.componentsMessagesStats.entries, e.2.Fits

def HubMessagesStats.sample (stats : HubMessagesStats StatsInner) : HubMessagesStats StatsSample :=
  ⟨stats.systemsMessagesStats.collect fun system => some system.sample⟩

def HubMessagesStats.Fits (stats : HubMessagesStats StatsInner) : Prop :=
  ∀ e ∈ stats.systemsMessagesStats.entries, e.2.Fits

theorem reads_hubStats (stats : StatsInner) :
    Reads stats.Fits (HubStatsSample.ofJson stats.toJson) ⟨stats.sample⟩ :=
  (reads_statsInner stats).bind_some

theorem reads_statsOption (stats : Option StatsInner) :
    Reads (∀ s ∈ stats, s.Fits) ((Json.ofOption StatsInner.toJson stats).asOption StatsSample.ofJson)
      (stats.map StatsInner.sample) :=
  reads_asOption (fun _ h => by cases h) reads_statsInner stats

theorem reads_driverStats (driver : DriverStats) :
    Reads driver.Fits (DriverStatsSample.ofJson driver.toJson) driver.sample := by
  have hstats : Reads driver.Fits (DriverStatsInnerSample.ofJson driver.stats.toJson)
      ⟨driver.stats.input.map StatsInner.sample, driver.stats.output.map StatsInner.sample⟩ := by
    unfold DriverStatsInnerSample.ofJson
    exact (reads_statsOption _).bind (reads_statsOption _).bind_some
  unfold DriverStatsSample.ofJson
  -- the three texts are read whatever they are
  refine .after rfl (.after rfl (.after rfl (.after rfl (.after rfl (.after rfl ?_)))))
  exact .after rfl hstats.bind_some

theorem reads_driversStats (uuid : KeyFormat DriverUuid) (drivers : DriversStats) :
    Reads (∀ e ∈ drivers.entries, e.2.Fits) (DriversStatsSample.ofJson uuid (drivers.toJson uuid))
      drivers.sample :=
  (reads_asMap uuid reads_driverStats drivers).bind_some

theorem reads_componentMessageStats (stats : ComponentMessageStats StatsInner) :
    Reads stats.Fits (componentMessageStatsOfJson stats.toJson) stats.sample := by
  unfold componentMessageStatsOfJson
  exact .after rfl (reads_asMap .u32 reads_statsInner stats.messagesStats).bind_some

theorem reads_systemMessagesStats (stats : SystemMessagesStats StatsInner) :
    Reads stats.Fits (systemMessagesStatsOfJson stats.toJson) stats.sample := by
  unfold systemMessagesStatsOfJson
  exact .after rfl
    (reads_asMap .u8 reads_componentMessageStats stats.componentsMessagesStats).bind_some

theorem reads_hubMessagesStats (stats : HubMessagesStats StatsInner) :
    Reads stats.Fits (hubMessagesStatsOfJson stats.toJson) stats.sample := by
  unfold hubMessagesStatsOfJson
  exact .after rfl (reads_asMap .u8 reads_systemMessagesStats stats.systemsMessagesStats).bind_some

/-! ## 5. When the two agree -/

def SameTotals (stats : StatsInner) (sample : StatsSample) : Prop :=
  sample.bytes.totalBytes.toNat = stats.bytes.totalBytes.toNat ∧
    sample.messages.totalMessages.toNat = stats.messages.totalMessages.toNat

def SameDriver (driver : DriverStats) (sample : DriverStatsSample) : Prop :=
  Option.Rel SameTotals driver.stats.input sample.stats.input ∧
    Option.Rel SameTotals driver.stats.output sample.stats.output

/-- **The page agrees on the hub's statistics**: it reads them, with the same totals. -/
def AgreesOnHub (stats : StatsInner) : Prop :=
  ∃ sample, HubStatsSample.ofJson stats.toJson = some sample ∧ SameTotals stats sample.stats

/-- **On the drivers'**: for every driver. -/
def AgreesOnDrivers (uuid : KeyFormat DriverUuid) (drivers : DriversStats) : Prop :=
  ∃ sample, DriversStatsSample.ofJson uuid (drivers.toJson uuid) = some sample ∧
    ∀ driver, Option.Rel SameDriver (drivers.get? driver) (sample.driversStats.get? driver)

/-- **On the messages'**: for every message of every component of every system. -/
def AgreesOnMessages (stats : HubMessagesStats StatsInner) : Prop :=
  ∃ sample, hubMessagesStatsOfJson stats.toJson = some sample ∧
    ∀ systemId componentId messageId, Option.Rel SameTotals
      (stats.leaf? systemId componentId messageId) (sample.leaf? systemId componentId messageId)

theorem StatsInner.Fits.sameTotals {stats : StatsInner} (h : stats.Fits) :
    SameTotals stats stats.sample := by
  obtain ⟨⟨hbytes, _⟩, ⟨hmessages, _⟩, _⟩ := h
  constructor
  · show stats.bytes.totalBytes.toUInt32.toNat = _
    rw [UInt64.toNat_toUInt32, Nat.mod_eq_of_lt hbytes]
  · show stats.messages.totalMessages.toUInt32.toNat = _
    rw [UInt64.toNat_toUInt32, Nat.mod_eq_of_lt hmessages]

theorem sameTotals_option {stats : Option StatsInner} (h : ∀ s ∈ stats, s.Fits) :
    Option.Rel SameTotals stats (stats.map StatsInner.sample) := by
  cases stats with
  | none => exact .none
  | some stats => exact .some (h stats rfl).sameTotals

theorem DriverStats.Fits.sameDriver {driver : DriverStats} (h : driver.Fits) :
    SameDriver driver driver.sample :=
  ⟨sameTotals_option h.1, sameTotals_option h.2⟩

theorem HubMessagesStats.leaf?_sample (stats : HubMessagesStats StatsInner) (systemId : SystemId)
    (componentId : ComponentId) (messageId : MessageId) :
    stats.sample.leaf? systemId componentId messageId =
      (stats.leaf? systemId componentId messageId).map StatsInner.sample := by
  unfold leaf? sample
  rw [IndexMap.get?_collect]
  cases stats.systemsMessagesStats.get? systemId with
  | none => rfl
  | some system =>
    show (system.sample.componentsMessagesStats.get? componentId).bind _ =
      ((system.componentsMessagesStats.get? componentId).bind _).map _
    unfold SystemMessagesStats.sample
    rw [IndexMap.get?_collect]
    cases system.componentsMessagesStats.get? componentId with
    | none => rfl
    | some component =>
      show component.sample.messagesStats.get? messageId =
        (component.messagesStats.get? messageId).map _
      unfold ComponentMessageStats.sample
      rw [IndexMap.get?_collect]
      cases component.messagesStats.get? messageId <;> rfl

/-- The leaves of the three maps, one after the other. -/
theorem HubMessagesStats.fits_iff_leaves (stats : HubMessagesStats StatsInner) : stats.Fits ↔
    ∀ systemId componentId messageId leaf,
      stats.leaf? systemId componentId messageId = some leaf → leaf.Fits := by
  constructor
  · intro h systemId componentId messageId leaf hleaf
    obtain ⟨system, hsystem, hleaf⟩ := Option.bind_eq_some_iff.mp hleaf
    obtain ⟨component, hcomponent, hleaf⟩ := Option.bind_eq_some_iff.mp hleaf
    exact h _ (IndexMap.get?_eq_some.mp hsystem) _ (IndexMap.get?_eq_some.mp hcomponent) _
      (IndexMap.get?_eq_some.mp hleaf)
  · rintro h ⟨systemId, system⟩ hsystem ⟨componentId, component⟩ hcomponent ⟨messageId, leaf⟩ hleaf
    refine h systemId componentId messageId leaf ?_
    refine Option.bind_eq_some_iff.mpr ⟨system, IndexMap.get?_eq_some.mpr hsystem, ?_⟩
    exact Option.bind_eq_some_iff.mpr
      ⟨component, IndexMap.get?_eq_some.mpr hcomponent, IndexMap.get?_eq_some.mpr hleaf⟩

theorem fits_drivers_iff (drivers : DriversStats) : (∀ e ∈ drivers.entries, e.2.Fits) ↔
    ∀ uuid driver, drivers.get? uuid = some driver → driver.Fits :=
  ⟨fun h _ _ hget => h _ (IndexMap.get?_eq_some.mp hget),
    fun h e he => h e.1 e.2 (IndexMap.get?_eq_some.mpr he)⟩

/-- **When server and page agree**: on each of the three messages exactly when every statistics in it
    fits, the totals into 32 bits. Otherwise the page reads nothing of the message. -/
theorem agree_iff (uuid : KeyFormat DriverUuid) :
    (∀ stats, AgreesOnHub stats ↔ stats.Fits) ∧
    (∀ drivers, AgreesOnDrivers uuid drivers ↔
      ∀ id driver, drivers.get? id = some driver → driver.Fits) ∧
    (∀ stats, AgreesOnMessages stats ↔ ∀ systemId componentId messageId leaf,
      stats.leaf? systemId componentId messageId = some leaf → leaf.Fits) := by
  refine ⟨fun stats => ?_, fun drivers => ?_, fun stats => ?_⟩
  · have hreads := reads_hubStats stats
    constructor
    · rintro ⟨sample, hread, _⟩
      exact hreads.of_isSome ⟨sample, hread⟩
    · exact fun h => ⟨_, hreads.1 h, h.sameTotals⟩
  · rw [← fits_drivers_iff]
    have hreads := reads_driversStats uuid drivers
    constructor
    · rintro ⟨sample, hread, _⟩
      exact hreads.of_isSome ⟨sample, hread⟩
    · intro h
      refine ⟨_, hreads.1 h, fun id => ?_⟩
      show Option.Rel SameDriver (drivers.get? id) ((drivers.collect _).get? id)
      rw [IndexMap.get?_collect]
      cases hget : drivers.get? id with
      | none => exact .none
      | some driver => exact .some ((h _ (IndexMap.get?_eq_some.mp hget)).sameDriver)
  · rw [← HubMessagesStats.fits_iff_leaves]
    have hreads := reads_hubMessagesStats stats
    constructor
    · rintro ⟨sample, hread, _⟩
      exact hreads.of_isSome ⟨sample, hread⟩
    · intro h
      refine ⟨_, hreads.1 h, fun systemId componentId messageId => ?_⟩
      rw [HubMessagesStats.leaf?_sample]
      refine sameTotals_option fun leaf hleaf => ?_
      exact (HubMessagesStats.fits_iff_leaves stats).mp h _ _ _ leaf hleaf

/-- A counter with sixteen bytes less than 2^32. -/
def fourGigabytes : AccumulatedStatsInner where
  lastMessage := none
  lastUpdateUs := 86400000000
  messages := 107374182
  bytes := 4294967280
  delay := 0

/-- **One message more**, and the page reads nothing of the hub's statistics. -/
theorem agrees_fourGigabytes : ¬ AgreesOnHub (newHubStats 0
    (fourGigabytes.update 86400010000 ⟨"192.168.2.1:14550", 86400010000, 1, 1, 30, 40⟩)
    fourGigabytes) := by
  rintro ⟨sample, hread, _⟩
  have hfits := (reads_hubStats _).of_isSome ⟨sample, hread⟩
  exact absurd hfits.1.1 (by decide)

end MavlinkServer.Stats
