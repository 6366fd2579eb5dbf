/-
  File:      MavlinkServer/Stats/Streams.lean
  Subject:   THE STREAMS OF STATISTICS (`src/lib/stats/actor.rs`:
             `hub_stats_stream`, `hub_messages_stats_stream`,
             `drivers_stats_stream`, and the `notify_waiters` of the update
             tasks).

  * `statsAnnouncer` -- the stats actor with the statistics of one kind: its
    update task notifies after every update, `reset` never does, and nobody
    reads them while `reset` holds their lock;
  * `Streaming` -- without a reset, what is published shows the last snapshot,
    and that is behind the hub's counters;
  * `hubStream_monotone`, `hubMessagesStream_monotone` -- then the totals on a
    stream never go back, and are never ahead of what the hub has counted.
-/
import MavlinkServer.Lib.Notify
import MavlinkServer.Stats.Monotone

namespace MavlinkServer.Stats

open Lib Hub

/-! ## 1. What is streamed -/

abbrev Kind.Published : Kind → Type
  | .hub => StatsInner
  | .drivers => DriversStats
  | .hubMessages => HubMessagesStats StatsInner

def StatsActor.published (s : StatsActor) : (k : Kind) → k.Published
  | .hub => s.hubTask.published
  | .drivers => s.driversTask.published
  | .hubMessages => s.hubMessagesTask.published

def statsAnnouncer (k : Kind) : Announcer StatsActor StatsAction k.Published where
  step := StatsActor.step
  value s := s.published k
  readable s := s.free (.published k)
  own
    | .update k' _ => decide (k' = k)
    | _ => false
  publishes s
    | .update k' _ => decide (k' = k) && decide (s.phase k = .wantsPublished)
    | _ => false

abbrev Streams (k : Kind) : Type := Watched StatsActor k.Published

/-- The capacity of `mpsc::channel(100)`. -/
def Streams.step {k : Kind} : Streams k → WatchAction StatsAction → Option (Streams k) :=
  Watched.step (statsAnnouncer k) 100

/-! ## 2. What the statistics show -/

def totalBytesOf (stats : Option StatsInner) : UInt64 := (stats.map (·.bytes.totalBytes)).getD 0

def totalMessagesOf (stats : Option StatsInner) : UInt64 :=
  (stats.map (·.messages.totalMessages)).getD 0

/-- Neither total is ahead of the other's. -/
def TotalsLe (older newer : Option StatsInner) : Prop :=
  totalBytesOf older ≤ totalBytesOf newer ∧ totalMessagesOf older ≤ totalMessagesOf newer

/-- The totals are those of a counter. -/
def TotalsOf (stats : Option StatsInner) (counter : Option AccumulatedStatsInner) : Prop :=
  totalBytesOf stats = AccumulatedStatsInner.bytesOf counter ∧
    totalMessagesOf stats = AccumulatedStatsInner.messagesOf counter

theorem TotalsOf.le {stats stats' : Option StatsInner}
    {counter counter' : Option AccumulatedStatsInner}
    (h : TotalsOf stats counter) (h' : TotalsOf stats' counter')
    (hle : AccumulatedStatsInner.Le counter counter') : TotalsLe stats stats' := by
  unfold TotalsLe
  rw [h.1, h.2, h'.1, h'.2]
  exact ⟨hle.2, hle.1⟩

def hubShows (stats : StatsInner) (counter : AccumulatedStatsInner) : Prop :=
  TotalsOf (some stats) (some counter)

def hubMessagesShows (stats : HubMessagesStats StatsInner) (counters : AccumulatedHubMessagesStats) :
    Prop :=
  ∀ systemId componentId messageId,
    TotalsOf (stats.leaf? systemId componentId messageId)
        (counters.leaf? systemId componentId messageId) ∧
      (stats.leaf? systemId componentId messageId).isSome =
        (counters.leaf? systemId componentId messageId).isSome

theorem hubShows_new (startTime : UInt64) (current last : AccumulatedStatsInner) :
    hubShows (newHubStats startTime current last) current := ⟨rfl, rfl⟩

/-- The leaf under a key after one is put in for every key of a list. -/
theorem leaf?_foldl_entry {α β : Type} (f : β → α) (systemId : SystemId)
    (componentId : ComponentId) (messageId : MessageId) :
    ∀ (l : List (SystemId × ComponentId × MessageId × β)) (stats : HubMessagesStats α),
      let new := l.foldl (fun new (systemId, componentId, messageId, b) =>
        new.entry systemId componentId messageId fun _ => f b) stats
      (∃ b, (systemId, componentId, messageId, b) ∈ l ∧
          new.leaf? systemId componentId messageId = some (f b)) ∨
        (∀ b, (systemId, componentId, messageId, b) ∉ l) ∧
          new.leaf? systemId componentId messageId = stats.leaf? systemId componentId messageId
  | [], stats => Or.inr ⟨fun _ => List.not_mem_nil, rfl⟩
  | (systemId', componentId', messageId', b') :: l, stats => by
      rcases leaf?_foldl_entry f systemId componentId messageId l
          (stats.entry systemId' componentId' messageId' fun _ => f b') with
        ⟨b, hmem, hleaf⟩ | ⟨hno, hleaf⟩
      · exact Or.inl ⟨b, List.mem_cons_of_mem _ hmem, hleaf⟩
      · rw [HubMessagesStats.leaf?_entry] at hleaf
        split at hleaf
        · rename_i hkey
          obtain ⟨rfl, rfl, rfl⟩ := hkey
          exact Or.inl ⟨b', List.mem_cons_self, hleaf⟩
        · rename_i hkey
          refine Or.inr ⟨fun b hmem => ?_, hleaf⟩
          rcases List.mem_cons.mp hmem with he | hmem
          · cases he
            exact hkey ⟨rfl, rfl, rfl⟩
          · exact hno b hmem

theorem hubMessagesShows_new (now startTime : UInt64) (current last : AccumulatedHubMessagesStats) :
    hubMessagesShows (newHubMessagesStats now startTime current last) current := by
  intro systemId componentId messageId
  rcases leaf?_foldl_entry (fun call : Call => call.result startTime) systemId componentId
    messageId (hubMessagesCalls now last current) .empty with ⟨call, hmem, hleaf⟩ | ⟨hno, hleaf⟩
  · obtain ⟨⟨systemId', componentId', messageId', stats⟩, hleaves, he⟩ := List.mem_map.mp hmem
    cases he
    unfold newHubMessagesStats
    rw [hleaf, mem_leaves.mp hleaves]
    exact ⟨⟨rfl, rfl⟩, rfl⟩
  · have hnone : current.leaf? systemId componentId messageId = none := by
      refine Option.eq_none_iff_forall_not_mem.mpr fun stats hs => ?_
      exact hno _ (List.mem_map.mpr ⟨_, mem_leaves.mpr hs, rfl⟩)
    unfold newHubMessagesStats
    rw [hleaf, hnone]
    exact ⟨⟨rfl, rfl⟩, rfl⟩

/-- The older counters are behind, and none of them is missing in the newer ones. -/
def hubMessagesWithin (older newer : AccumulatedHubMessagesStats) : Prop :=
  hubMessagesBehind older newer ∧ ∀ systemId componentId messageId,
    (older.leaf? systemId componentId messageId).isSome →
      (newer.leaf? systemId componentId messageId).isSome

theorem hubMessagesWithin_refl (stats : AccumulatedHubMessagesStats) :
    hubMessagesWithin stats stats :=
  ⟨fun _ _ _ => AccumulatedStatsInner.Le.refl _, fun _ _ _ h => h⟩

theorem hubMessagesWithin_empty (live : AccumulatedHubMessagesStats) :
    hubMessagesWithin .empty live :=
  ⟨hubMessagesBehind_empty live, fun _ _ _ h => by cases h⟩

/-- The hub counts messages, and forgets none. -/
theorem hubMessagesWithin_step {s s' : HubStats} {a : HubStatsAction} (hw : NoWrap s a)
    (h : s.step a = some s') (hr : s'.job.resetting = false) {older : AccumulatedHubMessagesStats}
    (hb : hubMessagesWithin older s.hubMessagesStats) :
    hubMessagesWithin older s'.hubMessagesStats := by
  refine ⟨hubMessagesBehind_step hw h hr hb.1, fun systemId componentId messageId hold => ?_⟩
  have hthere := hb.2 systemId componentId messageId hold
  rcases (counters_step h hr).2.1 with hsame | ⟨now, message, _, _, hnew⟩
  · rwa [hsame]
  · rw [hnew]
    unfold AccumulatedHubMessagesStats.update
    rw [HubMessagesStats.leaf?_entry]
    split
    · rfl
    · exact hthere

/-! ## 3. Without a reset -/

/-- No counter wraps in the step, and `reset` is not called. -/
def Undisturbed (s : StatsActor) (a : StatsAction) : Prop := NoneWraps s a ∧ ∀ now, a ≠ .reset now

instance (s : StatsActor) : ∀ a, Decidable (Undisturbed s a)
  | .reset now => isFalse fun h => h.2 now rfl
  | .hub a => decidable_of_iff (NoneWraps s (.hub a)) ⟨fun h => ⟨h, nofun⟩, fun h => h.1⟩
  | .update _ _ | .serve _ | .respond => isTrue ⟨trivial, nofun⟩

/-- **The invariant**: nothing is being reset, the snapshots are behind the hub's counters, and what
    is published shows the last ones. -/
structure Streaming (s : StatsActor) : Prop where
  reset : s.reset = .idle
  job : s.hub.job.resetting = false
  hub : s.hubTask.Tracks hubBehind s.hub.hubStats False
  hubMessages : s.hubMessagesTask.Tracks hubMessagesWithin s.hub.hubMessagesStats False
  hubShown : s.hubTask.Shown hubShows
  hubMessagesShown : s.hubMessagesTask.Shown hubMessagesShows

/-- The last snapshots go on. -/
def LastsLe (s s' : StatsActor) : Prop :=
  hubBehind s.hubTask.last s'.hubTask.last ∧
    hubMessagesWithin s.hubMessagesTask.last s'.hubMessagesTask.last

theorem LastsLe.refl (s : StatsActor) : LastsLe s s :=
  ⟨AccumulatedStatsInner.Le.refl _, hubMessagesWithin_refl _⟩

theorem LastsLe.trans (s s' s'' : StatsActor) (h : LastsLe s s') (h' : LastsLe s' s'') :
    LastsLe s s'' :=
  ⟨h.1.trans h'.1, fun systemId componentId messageId =>
      (h.2.1 systemId componentId messageId).trans (h'.2.1 systemId componentId messageId),
    fun systemId componentId messageId hthere =>
      h'.2.2 systemId componentId messageId (h.2.2 systemId componentId messageId hthere)⟩

theorem streaming_new (now : UInt64) : Streaming (.new now) where
  reset := rfl
  job := rfl
  hub := Sampler.tracks_clear (t := ⟨.default now, .default, .idle⟩) rfl hubBehind_default
  hubMessages := Sampler.tracks_clear (t := ⟨.empty, .empty, .idle⟩) rfl hubMessagesWithin_empty
  hubShown := ⟨⟨rfl, rfl⟩, nofun⟩
  hubMessagesShown := ⟨fun _ _ _ => ⟨⟨rfl, rfl⟩, rfl⟩, nofun⟩

theorem streaming_update {s s' : StatsActor} {k : Kind} {now : UInt64} (h : Streaming s)
    (hs : s.step (.update k now) = some s') : Streaming s' ∧ LastsLe s s' := by
  cases k with
  | hub =>
      obtain ⟨t, ht, rfl⟩ := Option.map_eq_some_iff.mp hs
      exact ⟨⟨h.reset, h.job, h.hub.step ht, h.hubMessages,
          h.hubShown.step (hubShows_new s.startTime) ht, h.hubMessagesShown⟩,
        h.hub.last_step (fun _ => AccumulatedStatsInner.Le.refl _) ht, hubMessagesWithin_refl _⟩
  | drivers =>
      obtain ⟨t, _, rfl⟩ := Option.map_eq_some_iff.mp hs
      exact ⟨⟨h.reset, h.job, h.hub, h.hubMessages, h.hubShown, h.hubMessagesShown⟩, .refl s⟩
  | hubMessages =>
      obtain ⟨t, ht, rfl⟩ := Option.map_eq_some_iff.mp hs
      exact ⟨⟨h.reset, h.job, h.hub, h.hubMessages.step ht, h.hubShown,
          h.hubMessagesShown.step (hubMessagesShows_new now s.startTime) ht⟩,
        AccumulatedStatsInner.Le.refl _, h.hubMessages.last_step hubMessagesWithin_refl ht⟩

theorem streaming_serve {s s' : StatsActor} {party : Party} (h : Streaming s)
    (hs : s.step (.serve party) = some s') : Streaming s' ∧ LastsLe s s' := by
  cases party with
  | reset =>
      obtain ⟨hasks, _⟩ := Option.ite_none_right_eq_some.mp hs
      rw [h.reset] at hasks
      cases hasks
  | update k =>
      cases k with
      | hub =>
          obtain ⟨_, he⟩ := Option.ite_none_right_eq_some.mp hs
          cases he
          refine ⟨⟨h.reset, h.job, ?_, h.hubMessages, h.hubShown.answer _, h.hubMessagesShown⟩,
            .refl s⟩
          exact h.hub.answer (h.hub.last not_false) fun _ => AccumulatedStatsInner.Le.refl _
      | drivers =>
          obtain ⟨_, hs⟩ := Option.ite_none_right_eq_some.mp hs
          obtain ⟨hub, hh, rfl⟩ := Option.map_eq_some_iff.mp hs
          obtain ⟨_, he⟩ := Option.ite_none_right_eq_some.mp hh
          cases he
          exact ⟨⟨h.reset, rfl, h.hub, h.hubMessages, h.hubShown, h.hubMessagesShown⟩, .refl s⟩
      | hubMessages =>
          obtain ⟨_, he⟩ := Option.ite_none_right_eq_some.mp hs
          cases he
          refine ⟨⟨h.reset, h.job, h.hub, ?_, h.hubShown, h.hubMessagesShown.answer _⟩, .refl s⟩
          exact h.hubMessages.answer (h.hubMessages.last not_false) fun _ =>
            hubMessagesWithin_refl _

/-- **Every step keeps the invariant**, and no snapshot is behind the one before. -/
theorem streaming_step {s s' : StatsActor} {a : StatsAction} (h : Streaming s)
    (hC : Undisturbed s a) (hs : s.step a = some s') : Streaming s' ∧ LastsLe s s' := by
  cases a with
  | hub a =>
      obtain ⟨hown, hub, hh, rfl⟩ := hubStep_cases hs
      have hjob : hub.job.resetting = false := (job_step hown hh).1.trans h.job
      refine ⟨⟨h.reset, hjob, ?_, ?_, h.hubShown, h.hubMessagesShown⟩, .refl s⟩
      · exact h.hub.grow (fun hp => hp) fun _ _ _ hb => hubBehind_step hC.1 hh hjob hb
      · exact h.hubMessages.grow (fun hp => hp) fun _ _ _ hb =>
          hubMessagesWithin_step hC.1 hh hjob hb
  | reset now => exact absurd rfl (hC.2 now)
  | update k now => exact streaming_update h hs
  | serve party => exact streaming_serve h hs
  | respond =>
      obtain ⟨hub, hh, hidle, hcase⟩ := respond_cases hs
      rcases hcase with ⟨hjob, _⟩ | ⟨read, _, rfl⟩
      · have hreset := h.job
        rw [hjob] at hreset
        cases hreset
      · obtain ⟨_, rfl⟩ := answer_cases hh
        exact ⟨⟨h.reset, rfl, h.hub, h.hubMessages, h.hubShown, h.hubMessagesShown⟩, .refl s⟩

/-! ## 4. What a client of a stream sees -/

section Clients

variable {start : UInt64} {k : Kind} {m : Streams k}

/-- The states behind the values of a stream. -/
theorem streams_past (h : Reach Streams.step (Watched.hostMeets Undisturbed)
    (Watched.start (.new start)) m) :
    Streaming m.host ∧ m.past.Pairwise LastsLe ∧ (∀ s ∈ m.past, LastsLe s m.host) ∧
      ∀ s ∈ m.past, Streaming s :=
  Watched.past_pairwise LastsLe.refl LastsLe.trans (streaming_new start)
    (fun _ _ _ hi hC hs => streaming_step hi hC hs) h

/-- **On the stream of the hub's statistics the totals never go back**, in every run without a
    reset and without a wrap, however late a client reads; and none is ahead of what the hub has
    counted. -/
theorem hubStream_monotone {m : Streams .hub}
    (h : Reach Streams.step (Watched.hostMeets Undisturbed) (Watched.start (.new start)) m)
    {w : Watcher StatsInner} (hw : w ∈ m.watchers) :
    w.deliveries.Pairwise (fun d d' => TotalsLe (some d.value) (some d'.value)) ∧
      ∀ d ∈ w.deliveries, d.value.bytes.totalBytes ≤ m.host.hub.hubStats.bytes ∧
        d.value.messages.totalMessages ≤ m.host.hub.hubStats.messages := by
  obtain ⟨hhost, hpast, hlast, hall⟩ := streams_past h
  have hfresh := Watched.fresh_reach h w hw
  constructor
  · refine hfresh.values_pairwise (Q := fun p p' => TotalsLe (some p) (some p'))
      (hpast.imp_of_mem fun hs hs' hle => ?_)
    exact (hall _ hs).hubShown.published.le (hall _ hs').hubShown.published hle.1
  · intro d hd
    obtain ⟨_, _, s, hs, hv, _⟩ := hfresh.read d hd
    have hmem := List.mem_of_getElem? hs
    have hle := ((hlast s hmem).1).trans (hhost.hub.last not_false)
    have hshown : hubShows d.value s.hubTask.last := hv ▸ (hall s hmem).hubShown.published
    obtain ⟨hbytes, hmessages⟩ := hshown
    exact ⟨le_of_eq_of_le hbytes hle.2, le_of_eq_of_le hmessages hle.1⟩

/-- **On the stream of the messages' statistics no total goes back**, and no entry that was there is
    missing later, for every system, component and message. -/
theorem hubMessagesStream_monotone {m : Streams .hubMessages}
    (h : Reach Streams.step (Watched.hostMeets Undisturbed) (Watched.start (.new start)) m)
    {w : Watcher (HubMessagesStats StatsInner)} (hw : w ∈ m.watchers) :
    w.deliveries.Pairwise fun d d' => ∀ systemId componentId messageId,
      TotalsLe (d.value.leaf? systemId componentId messageId)
          (d'.value.leaf? systemId componentId messageId) ∧
        ((d.value.leaf? systemId componentId messageId).isSome →
          (d'.value.leaf? systemId componentId messageId).isSome) := by
  obtain ⟨_, hpast, _, hall⟩ := streams_past h
  refine (Watched.fresh_reach h w hw).values_pairwise (Q := fun p p' => ∀ systemId componentId
      messageId, TotalsLe (p.leaf? systemId componentId messageId)
          (p'.leaf? systemId componentId messageId) ∧
        ((p.leaf? systemId componentId messageId).isSome →
          (p'.leaf? systemId componentId messageId).isSome))
    (hpast.imp_of_mem fun hs hs' hle systemId componentId messageId => ?_)
  obtain ⟨htotals, hthere⟩ := (hall _ hs).hubMessagesShown.published systemId componentId messageId
  obtain ⟨htotals', hthere'⟩ :=
    (hall _ hs').hubMessagesShown.published systemId componentId messageId
  refine ⟨htotals.le htotals' (hle.2.1 systemId componentId messageId), fun h => ?_⟩
  exact hthere'.trans (hle.2.2 systemId componentId messageId (hthere.symm.trans h))

end Clients

section Runs

/-- The hub counts a message, an update task publishes what it has counted, and a client of the
    stream, which may be late, gets it. -/
def streamOnce (k : Kind) (now : UInt64) : List (WatchAction StatsAction) :=
  [.watcher 0 .wait, .host (.hub (.recv heartbeat)), .host (.hub (.total now)),
    .host (.hub (.detail now)), .host (.update k now), .host (.update k now),
    .host (.serve (.update k)), .host (.update k now), .host (.update k now), .notify,
    .watcher 0 .read, .watcher 0 .send]

theorem hubStream_monotone_twice : ∃ m : Streams .hub, ∃ w ∈ m.watchers, w.deliveries.length = 2 ∧
    w.deliveries.Pairwise (fun d d' => TotalsLe (some d.value) (some d'.value)) ∧
      ∀ d ∈ w.deliveries, d.value.bytes.totalBytes ≤ m.host.hub.hubStats.bytes ∧
        d.value.messages.totalMessages ≤ m.host.hub.hubStats.messages := by
  obtain ⟨m, hreach, w, hw, htwo⟩ : ∃ m : Streams .hub,
      Reach Streams.step (Watched.hostMeets Undisturbed) (Watched.start (.new 0)) m ∧
        ∃ w ∈ m.watchers, w.deliveries.length = 2 :=
    exists_of_execC (.watch :: (streamOnce .hub 1 ++ streamOnce .hub 2)) (by decide +kernel)
  exact ⟨m, w, hw, htwo, hubStream_monotone hreach hw⟩

theorem hubMessagesStream_monotone_twice : ∃ m : Streams .hubMessages, ∃ w ∈ m.watchers,
    w.deliveries.length = 2 ∧ w.deliveries.Pairwise fun d d' => ∀ systemId componentId messageId,
      TotalsLe (d.value.leaf? systemId componentId messageId)
          (d'.value.leaf? systemId componentId messageId) ∧
        ((d.value.leaf? systemId componentId messageId).isSome →
          (d'.value.leaf? systemId componentId messageId).isSome) := by
  obtain ⟨m, hreach, w, hw, htwo⟩ : ∃ m : Streams .hubMessages,
      Reach Streams.step (Watched.hostMeets Undisturbed) (Watched.start (.new 0)) m ∧
        ∃ w ∈ m.watchers, w.deliveries.length = 2 :=
    exists_of_execC (.watch :: (streamOnce .hubMessages 1 ++ streamOnce .hubMessages 2))
      (by decide +kernel)
  exact ⟨m, w, hw, htwo, hubMessagesStream_monotone hreach hw⟩

end Runs

end MavlinkServer.Stats
