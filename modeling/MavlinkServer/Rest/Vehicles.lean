/-
  File:      MavlinkServer/Rest/Vehicles.lean
  Subject:   WHICH MESSAGES SHAPE THE VEHICLE TABLE.

  `control::update` makes the entry of a system in front of the guards of
  `Vehicle::update`, so that a message no guard lets through can leave an entry.

  * `Vehicle.untimed` -- a vehicle without its times;
  * `entry_eq` -- the entry of a system, from its messages alone;
  * `ShapedByAutopilots`, `Announced` -- what is asked of a sequence of calls,
    and the sequences that have it;
  * `shapedByAutopilots_iff` -- they are the same.
-/
import MavlinkServer.Rest.Control
import MavlinkServer.Lib.Keyed

namespace MavlinkServer.Rest

variable {Metadata : Type} {getParameters : GetParameters Metadata}

/-! ## 1. Without the times -/

def VehicleComponent.untimed (component : VehicleComponent Metadata) : VehicleComponent Metadata :=
  { component with context := { component.context with lastUpdate := 0 } }

def VehicleComponents.untimed : VehicleComponents Metadata → VehicleComponents Metadata
  | autopilot component => autopilot component.untimed

/-- The vehicle without `last_update`. -/
def Vehicle.untimed (vehicle : Vehicle Metadata) : Vehicle Metadata :=
  { vehicle with components := fun id => (vehicle.components id).map .untimed }

section Untimed

variable {vehicle : Vehicle Metadata} {component : VehicleComponent Metadata} {clock : Clock}
  {header : MavHeader} {message : MavMessage}

@[simp] theorem Vehicle.untimed_vehicleId : vehicle.untimed.vehicleId = vehicle.vehicleId := rfl

@[simp] theorem VehicleComponent.untimed_untimed : component.untimed.untimed = component.untimed :=
  rfl

@[simp] theorem Vehicle.untimed_untimed : vehicle.untimed.untimed = vehicle.untimed := by
  have hidempotent : (VehicleComponents.untimed ∘ VehicleComponents.untimed) =
      (VehicleComponents.untimed : VehicleComponents Metadata → _) := by
    funext components
    cases components
    rfl
  simp only [untimed, Option.map_map, hidempotent]

theorem Vehicle.untimed_setAutopilot (componentId : UInt8) :
    (vehicle.setAutopilot componentId component).untimed =
      vehicle.untimed.setAutopilot componentId component.untimed := by
  unfold untimed setAutopilot
  congr 1
  funext id
  by_cases hid : id = componentId
  · subst hid
    simp [VehicleComponents.untimed]
  · simp [Function.update_of_ne hid]

theorem Vehicle.untimed_initial (vehicleId : UInt8) (now : Nat) :
    (Vehicle.initial vehicleId now : Vehicle Metadata).untimed = .initial vehicleId 0 := by
  unfold untimed initial
  congr 1
  funext id
  by_cases hid : id = mavCompIdAutopilot1
  · subst hid
    simp [VehicleComponents.untimed, VehicleComponent.untimed, VehicleComponent.initial,
      VehicleContext.initial]
  · simp [Function.update_of_ne hid]

/-- No arm of the `match` looks at `last_update`. -/
theorem VehicleComponent.handle_untimed (vehicleId componentId : UInt8) :
    (component.handle vehicleId componentId getParameters message).component.untimed =
      (component.untimed.handle vehicleId componentId getParameters message).component := by
  cases message with
  | autopilotVersion data =>
      have htype : component.untimed.vehicleType = component.vehicleType := rfl
      have hdiffers : ∀ vehicleType, component.untimed.differs vehicleType data =
          component.differs vehicleType data := fun _ => rfl
      simp only [handle, autopilotVersionMessage, htype, hdiffers]
      cases component.vehicleType with
      | none => rfl
      | some vehicleType => dsimp only; split <;> rfl
  | _ => rfl

/-- What is left of `broadcast` without the times. -/
theorem Vehicle.broadcast_untimed (componentId : UInt8) (handled : Handled Metadata) :
    (vehicle.broadcast clock componentId handled).1.untimed =
      vehicle.untimed.setAutopilot componentId handled.component.untimed := by
  unfold broadcast
  split
  · exact untimed_setAutopilot componentId
  · exact untimed_setAutopilot componentId

/-- **The times do not shape a vehicle.** -/
theorem Vehicle.update_untimed (clock' : Clock) :
    (vehicle.update getParameters clock header message).1.untimed =
      (vehicle.untimed.update getParameters clock' header message).1.untimed := by
  unfold update
  rw [untimed_vehicleId]
  split
  · exact untimed_untimed.symm
  · split
    · exact untimed_untimed.symm
    · have hcomponents : vehicle.untimed.components header.componentId =
          (vehicle.components header.componentId).map .untimed := rfl
      rw [hcomponents]
      cases vehicle.components header.componentId with
      | none => exact untimed_untimed.symm
      | some components =>
          cases components with
          | autopilot component =>
              simp only [Option.map_some, VehicleComponents.untimed, broadcast_untimed,
                VehicleComponent.handle_untimed, VehicleComponent.untimed_untimed, untimed_untimed]

/-- Only the autopilot of a vehicle changes it. -/
theorem Vehicle.update_of_ne (h : header.componentId ≠ mavCompIdAutopilot1) :
    (vehicle.update getParameters clock header message).1 = vehicle := by
  unfold update
  rw [if_pos h]
  split <;> rfl

theorem Vehicle.update_vehicleId :
    (vehicle.update getParameters clock header message).1.vehicleId = vehicle.vehicleId := by
  unfold update
  split
  · rfl
  · split
    · rfl
    · split
      · rfl
      · unfold broadcast
        split <;> rfl

end Untimed

/-! ## 2. The entry of a system -/

def MavHeader.fromAutopilot (header : MavHeader) : Bool := header.componentId == mavCompIdAutopilot1

def MavHeader.fromSystem (system : UInt8) (header : MavHeader) : Bool := header.systemId == system

/-- The pairs that are given to `control::update`, without the times. -/
def messagesOf (inputs : List Input) : List (MavHeader × MavMessage) :=
  inputs.map fun input => (input.header, input.message)

/-- The entry of a system, without its times. -/
def entryOf (getParameters : GetParameters Metadata) (inputs : List Input) (system : UInt8) :
    Option (Vehicle Metadata) :=
  ((Control.run getParameters inputs).table system).map .untimed

/-- A new vehicle after these messages, at no particular time. -/
def shaped (getParameters : GetParameters Metadata) (system : UInt8)
    (messages : List (MavHeader × MavMessage)) : Vehicle Metadata :=
  messages.foldl (fun vehicle m =>
    (vehicle.update getParameters ⟨0, 0, 0, 0⟩ m.1 m.2).1.untimed) (.initial system 0)

/-- The messages of the autopilot of a system. -/
def ofAutopilot (system : UInt8) (messages : List (MavHeader × MavMessage)) :
    List (MavHeader × MavMessage) :=
  messages.filter fun m => m.1.fromAutopilot && m.1.fromSystem system

section Entry

variable {inputs : List Input} {system : UInt8}

/-- What one call does to the entry of its system. -/
def stepEntry (getParameters : GetParameters Metadata) (input : Input)
    (vehicle : Option (Vehicle Metadata)) : Option (Vehicle Metadata) :=
  some ((vehicle.getD (.initial input.header.systemId input.clock.created)).update getParameters
    input.clock input.header input.message).1

theorem run_table (inputs : List Input) :
    (Control.run getParameters inputs).table =
      Lib.Keyed.run (fun input : Input => input.header.systemId) (stepEntry getParameters)
        (fun _ => none) inputs := by
  have step : ∀ (inputs : List Input) (control : Control Metadata),
      (inputs.foldl (Control.update getParameters) control).table =
        Lib.Keyed.run (fun input : Input => input.header.systemId) (stepEntry getParameters)
          control.table inputs := by
    intro inputs
    induction inputs with
    | nil => exact fun _ => rfl
    | cons input inputs ih => exact fun control => ih _
  exact step inputs .start

/-- The calls for one system, from an entry that is there. -/
theorem foldl_stepEntry :
    ∀ (inputs : List Input) (vehicle : Vehicle Metadata),
      (inputs.foldl (fun v i => stepEntry getParameters i v) (some vehicle)).map .untimed =
        some (((messagesOf inputs).filter fun m => m.1.fromAutopilot).foldl (fun vehicle m =>
          (vehicle.update getParameters ⟨0, 0, 0, 0⟩ m.1 m.2).1.untimed) vehicle.untimed) := by
  intro inputs
  induction inputs with
  | nil => exact fun _ => rfl
  | cons input inputs ih =>
      intro vehicle
      have hmessages : messagesOf (input :: inputs) =
          (input.header, input.message) :: messagesOf inputs := rfl
      rw [List.foldl_cons, stepEntry, Option.getD_some, ih, hmessages]
      by_cases hauto : input.header.fromAutopilot = true
      · rw [List.filter_cons, if_pos hauto, List.foldl_cons, ← Vehicle.update_untimed]
      · have hne : input.header.componentId ≠ mavCompIdAutopilot1 := by
          simpa [MavHeader.fromAutopilot] using hauto
        rw [List.filter_cons, if_neg hauto, Vehicle.update_of_ne hne]

variable (getParameters) in
/-- **The entry of a system**: there is one as soon as the system has been heard, and it is what
    the messages of its autopilot make of a new vehicle. -/
theorem entry_eq (inputs : List Input) (system : UInt8) :
    entryOf getParameters inputs system =
      if (messagesOf inputs).any (fun m => m.1.fromSystem system) then
        some (shaped getParameters system (ofAutopilot system (messagesOf inputs)))
      else none := by
  have hmessages : ofAutopilot system (messagesOf inputs) =
      (messagesOf (inputs.filter fun i => i.header.systemId = system)).filter fun m =>
        m.1.fromAutopilot := by
    rw [ofAutopilot, messagesOf, messagesOf, List.filter_map, List.filter_map, List.filter_filter]
    rfl
  have hany : (messagesOf inputs).any (fun m => m.1.fromSystem system) =
      !(inputs.filter fun i => i.header.systemId = system).isEmpty := by
    rw [messagesOf, List.any_map, Bool.eq_iff_iff]
    simp [MavHeader.fromSystem]
  rw [entryOf, run_table, Lib.Keyed.run_at, hmessages, hany]
  cases hown : inputs.filter fun i => i.header.systemId = system with
  | nil => rfl
  | cons input rest =>
      have hsystem : input.header.systemId = system := by
        have hmem := List.mem_filter.mp (hown ▸ List.mem_cons_self (a := input) (l := rest))
        simpa using hmem.2
      have hfirst : (input :: rest).foldl (fun v i => stepEntry getParameters i v) none =
          (input :: rest).foldl (fun v i => stepEntry getParameters i v)
            (some (.initial system input.clock.created)) := by
        rw [List.foldl_cons, List.foldl_cons, stepEntry, stepEntry, hsystem]
        rfl
      rw [hfirst, foldl_stepEntry, Vehicle.untimed_initial]
      rfl

theorem shaped_vehicleId (system : UInt8) (messages : List (MavHeader × MavMessage)) :
    (shaped getParameters system messages).vehicleId = system := by
  have step : ∀ (messages : List (MavHeader × MavMessage)) (vehicle : Vehicle Metadata),
      (messages.foldl (fun vehicle m =>
        (vehicle.update getParameters ⟨0, 0, 0, 0⟩ m.1 m.2).1.untimed) vehicle).vehicleId =
          vehicle.vehicleId := by
    intro messages
    induction messages with
    | nil => exact fun _ => rfl
    | cons m messages ih =>
        intro vehicle
        rw [List.foldl_cons, ih]
        exact Vehicle.update_vehicleId
  exact step messages _

/-- An entry is kept under its own identifier. -/
theorem mem_vehicles {now : Nat} {vehicle : Vehicle Metadata}
    (h : vehicle ∈ (Control.run getParameters inputs).vehicles now) :
    (entryOf getParameters inputs vehicle.vehicleId).isSome := by
  obtain ⟨id, _, hid⟩ := List.mem_filterMap.mp h
  obtain ⟨stored, hstored, rfl⟩ := Option.map_eq_some_iff.mp hid
  have hentry : entryOf getParameters inputs (UInt8.ofNat id) = some stored.untimed := by
    rw [entryOf, hstored]
    rfl
  have hkey : stored.vehicleId = UInt8.ofNat id := by
    have heq := entry_eq getParameters inputs (UInt8.ofNat id)
    rw [hentry] at heq
    split at heq
    · rw [← Vehicle.untimed_vehicleId, Option.some.inj heq, shaped_vehicleId]
    · cases heq
  have hclone : (stored.clone now).vehicleId = UInt8.ofNat id := hkey
  rw [hclone, hentry]
  rfl

end Entry

/-! ## 3. The table without the other messages -/

/-- **Only autopilots shape the table**, of a sequence of calls: it is the table of the calls for
    autopilots' messages, at whatever times; the entry of a system comes from the messages of its
    own autopilot; and a system without such a message is not listed. -/
structure ShapedByAutopilots (getParameters : GetParameters Metadata) (inputs : List Input) :
    Prop where
  purged : ∀ others : List Input,
    messagesOf others = (messagesOf inputs).filter (fun m => m.1.fromAutopilot) →
    ∀ system, entryOf getParameters inputs system = entryOf getParameters others system
  own : ∀ (system : UInt8) (others : List Input),
    messagesOf others = ofAutopilot system (messagesOf inputs) →
    entryOf getParameters inputs system = entryOf getParameters others system
  silent : ∀ system : UInt8, ofAutopilot system (messagesOf inputs) = [] →
    ∀ now, ∀ vehicle ∈ (Control.run getParameters inputs).vehicles now, vehicle.vehicleId ≠ system

/-- Every system that is heard in the sequence has a message of its autopilot in it. -/
def Announced (messages : List (MavHeader × MavMessage)) : Prop :=
  ∀ m ∈ messages, ofAutopilot m.1.systemId messages ≠ []

section Announcing

variable {inputs : List Input}

/-- Where every system is announced, its entry comes from its autopilot. -/
theorem Announced.entry_eq (h : Announced (messagesOf inputs)) (system : UInt8) :
    entryOf getParameters inputs system =
      if ofAutopilot system (messagesOf inputs) = [] then none
      else some (shaped getParameters system (ofAutopilot system (messagesOf inputs))) := by
  rw [MavlinkServer.Rest.entry_eq]
  by_cases hnone : ofAutopilot system (messagesOf inputs) = []
  · have hunheard : (messagesOf inputs).any (fun m => m.1.fromSystem system) = false := by
      rw [List.any_eq_false]
      intro m hm hsystem
      have heq : m.1.systemId = system := by simpa [MavHeader.fromSystem] using hsystem
      exact h m hm (heq ▸ hnone)
    rw [hunheard, if_pos hnone]
    rfl
  · obtain ⟨m, hm⟩ := List.exists_mem_of_ne_nil _ hnone
    obtain ⟨hm, hboth⟩ := List.mem_filter.mp hm
    have hheard : (messagesOf inputs).any (fun m => m.1.fromSystem system) = true :=
      List.any_eq_true.mpr ⟨m, hm, (Bool.and_eq_true_iff.mp hboth).2⟩
    rw [hheard, if_neg hnone]
    rfl

/-- Messages of autopilots announce their systems. -/
theorem Announced.of_autopilots {messages : List (MavHeader × MavMessage)}
    (h : ∀ m ∈ messages, m.1.fromAutopilot = true) : Announced messages := by
  intro m hm hnone
  have hmem : m ∈ ofAutopilot m.1.systemId messages :=
    List.mem_filter.mpr ⟨hm, by simp [h m hm, MavHeader.fromSystem]⟩
  rw [hnone] at hmem
  cases hmem

/-- Calls for the messages of autopilots alone make the same entry, if they have those of the
    system. -/
theorem Announced.entry_same (h : Announced (messagesOf inputs)) {others : List Input}
    {system : UInt8} (hauto : ∀ m ∈ messagesOf others, m.1.fromAutopilot = true)
    (hsame : ofAutopilot system (messagesOf others) = ofAutopilot system (messagesOf inputs)) :
    entryOf getParameters inputs system = entryOf getParameters others system := by
  rw [h.entry_eq, (Announced.of_autopilots hauto).entry_eq, hsame]

/-- **Which sequences leave a table that only autopilots shaped**: those in which every system that
    is heard is also heard through its autopilot. Any other system leaves the entry of a vehicle
    that nobody announced. -/
theorem shapedByAutopilots_iff (getParameters : GetParameters Metadata) (inputs : List Input) :
    ShapedByAutopilots getParameters inputs ↔ Announced (messagesOf inputs) := by
  constructor
  · intro h m hm hnone
    obtain ⟨input, hinput, rfl⟩ := List.mem_map.mp hm
    -- the same calls without those for other components
    have hpurged := h.purged (inputs.filter fun i => i.header.fromAutopilot)
      (by rw [messagesOf, messagesOf, List.filter_map]; rfl) input.header.systemId
    rw [entry_eq, entry_eq] at hpurged
    have hheard : (messagesOf inputs).any (fun m => m.1.fromSystem input.header.systemId) = true :=
      List.any_eq_true.mpr ⟨_, hm, by simp [MavHeader.fromSystem]⟩
    have hunheard : (messagesOf (inputs.filter fun i => i.header.fromAutopilot)).any
        (fun m => m.1.fromSystem input.header.systemId) = false := by
      rw [List.any_eq_false]
      intro m' hm' hsystem
      obtain ⟨i, hi, rfl⟩ := List.mem_map.mp hm'
      obtain ⟨hi, hauto⟩ := List.mem_filter.mp hi
      have hmem : (i.header, i.message) ∈ ofAutopilot input.header.systemId (messagesOf inputs) :=
        List.mem_filter.mpr ⟨List.mem_map_of_mem hi, Bool.and_eq_true_iff.mpr ⟨hauto, hsystem⟩⟩
      have hnone' : ofAutopilot input.header.systemId (messagesOf inputs) = [] := hnone
      rw [hnone'] at hmem
      cases hmem
    rw [if_pos hheard, hunheard] at hpurged
    cases hpurged
  · intro h
    refine ⟨fun others hothers system => ?_, fun system others hothers => ?_,
      fun system hnone now vehicle hmem heq => ?_⟩
    · refine h.entry_same (fun m hm => ?_) ?_
      · rw [hothers] at hm
        exact (List.mem_filter.mp hm).2
      · rw [hothers, ofAutopilot, ofAutopilot, List.filter_filter]
        refine List.filter_congr fun m _ => ?_
        cases m.1.fromAutopilot <;> simp
    · refine h.entry_same (fun m hm => ?_) ?_
      · rw [hothers] at hm
        exact (Bool.and_eq_true_iff.mp (List.mem_filter.mp hm).2).1
      · rw [hothers, ofAutopilot, ofAutopilot, List.filter_filter]
        refine List.filter_congr fun m _ => ?_
        rw [Bool.and_self]
    · have hsome := mem_vehicles hmem
      rw [heq, h.entry_eq, if_pos hnone] at hsome
      cases hsome

end Announcing

section Runs

/-- A heartbeat of the ground station with system 255 and component 190. -/
def stationInput : Input where
  clock := ⟨0, 0, 0, 0⟩
  header := ⟨255, 190, 0⟩
  message := .heartbeat ⟨0, 6, 8, 0⟩

/-- **A ground station as a vehicle**: one message of it, and the table has an entry that the
    sequence without it does not have. -/
theorem shapedByAutopilots_station :
    ¬ ShapedByAutopilots (fun _ _ _ => none : GetParameters Unit) [stationInput] := by
  intro h
  have hpurged := h.purged [] rfl 255
  cases hpurged

end Runs

end MavlinkServer.Rest
