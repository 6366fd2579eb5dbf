/-
  File:      MavlinkServer/Rest/Lookup.lean
  Subject:   LOOKING MESSAGES UP (`pointer` and `messages` in
             `src/lib/drivers/rest/data.rs`, and the route over them in
             `src/lib/web/routes/v1/rest/mavlink.rs`).

  The tables are written as a JSON value, and the path of the request is a
  pointer into it.

  * `DataFormat` -- what is serialised elsewhere: a message, the scalars, and
    the text of a value;
  * `MAVLinkVehiclesData.toValue`, … -- the value of each table;
  * `MAVLinkVehiclesData.pointer` -- what the route answers;
  * `requestPath` -- the path that is asked for to reach given tokens;
  * `pointer_entry` -- what a path into an entry gives;
  * **`mavlink_last`** -- after any messages: a path into a message of a
    component gives what it reaches in the last one with that name.
-/
import MavlinkServer.Lib.Json
import MavlinkServer.Lib.JsonPointer
import MavlinkServer.Rest.Data

namespace MavlinkServer.Rest

open Lib

variable {Message Scalar : Type}

/-! ## 1. The tables as a value -/

/-- What the message type, the scalars and `to_string_pretty` give. The tables are hash maps, and
    written as they are their order is not fixed. -/
structure DataFormat (Message Scalar : Type) where
  message : Message → Value Scalar
  number : UInt64 → Scalar
  float : ℚ → Scalar
  null : Scalar
  pretty : Value Scalar → String
  prettyData : MAVLinkVehiclesData Message → String
  prettyVehicles : (UInt8 → Option (MAVLinkVehicleData Message)) → String

/-- The value of a structure. -/
def fields (entries : List (String × Value Scalar)) : Value Scalar :=
  .object fun name => (entries.find? fun e => e.1 = name).map (·.2)

/-- The value of a table. -/
def tableValue {K V : Type} (key : KeyFormat K) (table : K → Option V) (write : V → Value Scalar) :
    Value Scalar :=
  .object fun text => (key.parse text).bind fun k => (table k).map write

/-- The names of messages are keys as they are. -/
def nameFormat : KeyFormat String := ⟨id, some, fun _ => rfl⟩

section Write

variable (format : DataFormat Message Scalar)

/-- A frequency over no time is not finite, and null. -/
def Temporal.toValue (temporal : Temporal) : Value Scalar :=
  fields [("first_update_us", .scalar (format.number temporal.firstUpdateUs)),
    ("last_update_us", .scalar (format.number temporal.lastUpdateUs)),
    ("counter", .scalar (format.number temporal.counter)),
    ("frequency", .scalar (if temporal.firstUpdateUs = temporal.lastUpdateUs then format.null
      else format.float temporal.frequency))]

def Status.toValue (status : Status) : Value Scalar :=
  fields [("time", status.time.toValue format)]

def MAVLinkMessageStatus.toValue (entry : MAVLinkMessageStatus Message) : Value Scalar :=
  fields [("message", format.message entry.message), ("status", entry.status.toValue format)]

def MAVLinkVehicleComponentData.toValue (component : MAVLinkVehicleComponentData Message) :
    Value Scalar :=
  fields [("id", .scalar (format.number component.id.toUInt64)),
    ("messages", tableValue nameFormat component.messages (MAVLinkMessageStatus.toValue format))]

def MAVLinkVehicleData.toValue (vehicle : MAVLinkVehicleData Message) : Value Scalar :=
  fields [("id", .scalar (format.number vehicle.id.toUInt64)),
    ("components",
      tableValue .u8 vehicle.components (MAVLinkVehicleComponentData.toValue format))]

def MAVLinkVehiclesData.toValue (data : MAVLinkVehiclesData Message) : Value Scalar :=
  fields [("vehicles", tableValue .u8 data.vehicles (MAVLinkVehicleData.toValue format))]

/-! ## 2. The route -/

/-- The content, or "None". -/
def DataFormat.answer (content : Option (Value Scalar)) : String :=
  match content with
  | some content => format.pretty content
  | none => "None"

def MAVLinkVehiclesData.pointer (data : MAVLinkVehiclesData Message) (path : String) : String :=
  if path = "" then format.prettyData data
  else if "/" ++ path = "/vehicles" then format.prettyVehicles data.vehicles
  else format.answer ((data.toValue format).pointer ("/" ++ path))

end Write

/-- The path of a request, without the slash in front, that reaches the tokens. -/
def requestPath (tokens : List String) : String := String.ofList ((render tokens).toList.drop 1)

/-- The tokens of an entry, and further ones below it. -/
def entryTokens (key : DataKey) (rest : List String) : List String :=
  "vehicles" :: KeyFormat.u8.text key.systemId :: "components" ::
    KeyFormat.u8.text key.componentId :: "messages" :: key.messageName :: rest

/-! ## 3. What a path gives -/

section Lookup

variable {format : DataFormat Message Scalar} {data : MAVLinkVehiclesData Message}
  {messageName : Message → String} {inputs : List (DataUpdate Message)}

/-- The route puts the slash back. -/
theorem slash_requestPath (token : String) (tokens : List String) :
    "/" ++ requestPath (token :: tokens) = render (token :: tokens) := by
  have htext : (render (token :: tokens)).toList =
      '/' :: (escape token ++ tokens.flatMap fun token => '/' :: escape token) := by
    rw [render, String.toList_ofList]
    rfl
  rw [← String.toList_inj, String.toList_append, requestPath, htext]
  simp

theorem child_tableValue {K V : Type} (key : KeyFormat K) (table : K → Option V)
    (write : V → Value Scalar) (k : K) :
    (tableValue key table write).child (key.text k) = (table k).map write := by
  rw [tableValue, Value.child_object, key.parse_text, Option.bind_some]

/-- **The tokens of an entry lead to it.** -/
theorem walk_entryTokens (key : DataKey) (rest : List String) :
    (data.toValue format).walk (entryTokens key rest) =
      (data.find key).bind fun entry => (entry.toValue format).walk rest := by
  obtain ⟨systemId, componentId, name⟩ := key
  show (((tableValue .u8 data.vehicles _).child _).bind _) = _
  rw [child_tableValue, MAVLinkVehiclesData.find]
  cases data.vehicles systemId with
  | none => rfl
  | some vehicle =>
      show (((tableValue .u8 vehicle.components _).child _).bind _) = _
      rw [child_tableValue, Option.bind_some]
      cases vehicle.components componentId with
      | none => rfl
      | some component =>
          show (((tableValue nameFormat component.messages _).child (nameFormat.text name)).bind _)
            = _
          rw [child_tableValue, Option.bind_some]
          cases component.messages name <;> rfl

/-- A path of two tokens or more from "vehicles" is none of the two special ones. -/
theorem pointer_requestPath (token : String) (tokens : List String) :
    data.pointer format (requestPath ("vehicles" :: token :: tokens)) =
      format.answer ((data.toValue format).walk ("vehicles" :: token :: tokens)) := by
  have hslash := slash_requestPath "vehicles" (token :: tokens)
  have htext : (render ("vehicles" :: token :: tokens)).toList =
      "/vehicles/".toList ++ (escape token ++ tokens.flatMap fun token => '/' :: escape token) := by
    rw [render, String.toList_ofList]
    rfl
  unfold MAVLinkVehiclesData.pointer
  rw [if_neg, if_neg, hslash, Value.pointer_render]
  · intro h
    have hlist := congrArg String.toList (hslash.symm.trans h)
    rw [htext] at hlist
    simpa using congrArg List.length hlist
  · intro h
    have hlist := congrArg String.toList (hslash.symm.trans (congrArg ("/" ++ ·) h))
    rw [htext] at hlist
    simpa using congrArg List.length hlist

/-- A text that writes no key reaches nothing: "vehicles/01" is not the vehicle 1. -/
theorem pointer_of_no_key {text : String} (h : KeyFormat.u8.parse text = none)
    (rest : List String) :
    data.pointer format (requestPath ("vehicles" :: text :: rest)) = "None" := by
  rw [pointer_requestPath]
  show format.answer (((tableValue .u8 data.vehicles _).child text).bind _) = _
  rw [tableValue, Value.child_object, h]
  rfl

/-- **What a path into an entry gives**: what it reaches there, or "None" when there is no entry. -/
theorem pointer_entry (key : DataKey) (rest : List String) :
    data.pointer format (requestPath (entryTokens key rest)) =
      format.answer ((data.find key).bind fun entry => (entry.toValue format).walk rest) := by
  rw [← walk_entryTokens]
  exact pointer_requestPath _ _

/-- **The messages that are looked up are the last ones.** After any messages, a path into a message
    of a component gives what it reaches in the last message of that name from there, and "None" if
    there was none. -/
theorem mavlink_last (format : DataFormat Message Scalar) (key : DataKey) (rest : List String) :
    (MAVLinkVehiclesData.run messageName inputs).pointer format
        (requestPath (entryTokens key ("message" :: rest))) =
      format.answer ((occurrences messageName key inputs).getLast?.bind fun last =>
        (format.message last.message).walk rest) := by
  rw [pointer_entry]
  cases hoccurs : occurrences messageName key inputs with
  | nil => rw [find_of_none hoccurs]; rfl
  | cons input later =>
      obtain ⟨last, hlast⟩ : ∃ last, (input :: later).getLast? = some last :=
        Option.isSome_iff_exists.mp (by simp)
      obtain ⟨entry, hfind, _, _, hentry⟩ := find_of_occurrences key hoccurs
      rw [hfind, hlast, Option.bind_some, Option.bind_some, ← (hentry last hlast).1]
      rfl

/-- A message changes what paths into its own entry give, and no others. -/
theorem pointer_update_of_ne {input : DataUpdate Message} {key : DataKey}
    (h : input.key messageName ≠ key) (rest : List String) :
    (data.update messageName input).pointer format (requestPath (entryTokens key rest)) =
      data.pointer format (requestPath (entryTokens key rest)) := by
  rw [pointer_entry, pointer_entry, find_update, Keyed.apply_of_ne h]

end Lookup

end MavlinkServer.Rest
