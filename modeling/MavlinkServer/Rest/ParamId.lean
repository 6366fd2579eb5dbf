/-
  File:      MavlinkServer/Rest/ParamId.lean
  Subject:   THE NAME IN A PARAM_ID (`src/lib/drivers/rest/autopilot/mod.rs`:
             `Parameter::id`, `Parameter::string_from_param_id`).

  A PARAM_ID is 16 bytes: a name, and a NUL behind it where there is room for
  one. `id` fills what is left with NULs. `string_from_param_id` does not look
  for the first NUL: it reads all 16 bytes and takes the NULs off the end.

  * `nameOf` -- what the comment on `id` says the name is;
  * `Padded` -- nothing but NULs behind the first one;
  * **`stringFromParamId_eq_nameOf`** -- the two readings agree exactly on the
    padded ones; with `stringFromParamId_id`, every name that fits is read back;
  * `called_paramValue` -- which entry a PARAM_VALUE changes.
-/
import MavlinkServer.Ftp.ListingFormat
import MavlinkServer.Rest.Parameters
import Mathlib.Data.List.DropRight

namespace MavlinkServer.Rest

open Ftp

/-! ## 1. The bytes of a name -/

/-- `Parameter::id`: a buffer of NULs with the first 16 bytes of the name in front. -/
def Parameter.id (parameter : Parameter) : Vector UInt8 16 :=
  let len := min parameter.name.length 16
  ⟨(parameter.name.take len ++ List.replicate (16 - len) 0).toArray, by
    rw [List.size_toArray, List.length_append, List.length_take, List.length_replicate]
    omega⟩

/-- The bytes before the first NUL, or all of them. -/
def beforeNul (bytes : List UInt8) : List UInt8 := bytes.takeWhile (· != 0)

/-- The name by the comment on `Parameter::id`. -/
def nameOf (paramId : Vector UInt8 16) : List UInt8 := fromUtf8Lossy (beforeNul paramId.toList)

/-- **Nothing but NULs behind the first NUL.** -/
def Padded (paramId : Vector UInt8 16) : Prop :=
  ∀ b ∈ paramId.toList.dropWhile (· != 0), b = 0

instance (paramId : Vector UInt8 16) : Decidable (Padded paramId) :=
  inferInstanceAs (Decidable (∀ b ∈ paramId.toList.dropWhile (· != 0), b = 0))

/-! ## 2. Trimming -/

variable {text tail data : List UInt8}

theorem trimEndNul_eq_rdropWhile (text : List UInt8) :
    trimEndNul text = text.rdropWhile (· == 0) := rfl

/-- What is trimmed off are NULs. -/
theorem trimEndNul_append (text : List UInt8) :
    ∃ n, text = trimEndNul text ++ List.replicate n 0 := by
  have hnul : ∀ b ∈ text.rtakeWhile (· == 0), b = 0 := by
    intro b hb
    have hzero := List.mem_rtakeWhile_imp hb
    exact eq_of_beq hzero
  refine ⟨(text.rtakeWhile (· == 0)).length, ?_⟩
  rw [← List.eq_replicate_of_mem hnul, trimEndNul_eq_rdropWhile, List.rdropWhile_append_rtakeWhile]

theorem trimEndNul_of_not_mem (h : (0 : UInt8) ∉ text) : trimEndNul text = text := by
  rw [trimEndNul_eq_rdropWhile, List.rdropWhile_eq_self_iff]
  intro hne hlast
  exact h (eq_of_beq hlast ▸ List.getLast_mem hne)

theorem trimEndNul_replicate (text : List UInt8) (n : Nat) :
    trimEndNul (text ++ List.replicate n 0) = trimEndNul text := by
  induction n with
  | zero => rw [List.replicate_zero, List.append_nil]
  | succ n ih =>
      rw [List.replicate_succ', ← List.append_assoc, trimEndNul_eq_rdropWhile,
        List.rdropWhile_concat_pos _ _ _ rfl]
      exact ih

/-- A text without NULs is what trimming leaves exactly when only NULs follow it. -/
theorem trimEndNul_eq_iff (h : (0 : UInt8) ∉ text) :
    trimEndNul (text ++ tail) = text ↔ ∀ b ∈ tail, b = 0 := by
  constructor
  · intro htrim b hb
    obtain ⟨n, hn⟩ := trimEndNul_append (text ++ tail)
    rw [htrim] at hn
    rw [List.append_cancel_left hn] at hb
    exact List.eq_of_mem_replicate hb
  · intro htail
    rw [List.eq_replicate_of_mem htail, trimEndNul_replicate, trimEndNul_of_not_mem h]

/-! ## 3. Reading -/

/-- The lossy reading makes NULs of NULs, and of nothing else. -/
theorem fromUtf8Lossy_nuls : (∀ b ∈ fromUtf8Lossy data, b = 0) ↔ ∀ b ∈ data, b = 0 := by
  induction data with
  | nil => exact ⟨fun _ _ h => absurd h List.not_mem_nil, fun _ _ h => absurd h List.not_mem_nil⟩
  | cons lead rest ih =>
      by_cases hlead : lead = 0
      · subst hlead
        rw [fromUtf8Lossy_ascii (by decide), List.forall_mem_cons, List.forall_mem_cons, ih]
      · refine ⟨fun h => ?_, fun h => absurd (h lead List.mem_cons_self) hlead⟩
        obtain ⟨tail, htail⟩ := lossyPart_head lead rest
        rw [fromUtf8Lossy_cons] at h
        rcases htail with ⟨htail, _⟩ | htail
        · rw [htail] at h
          exact absurd (h lead List.mem_cons_self) hlead
        · rw [htail] at h
          exact absurd (h 0xEF List.mem_cons_self) (by decide)

/-- The text before the first NUL, and the text from there on. -/
theorem fromUtf8Lossy_split (bytes : List UInt8) :
    fromUtf8Lossy bytes =
      fromUtf8Lossy (beforeNul bytes) ++ fromUtf8Lossy (bytes.dropWhile (· != 0)) := by
  have hsplit : beforeNul bytes ++ bytes.dropWhile (· != 0) = bytes :=
    List.takeWhile_append_dropWhile
  cases hrest : bytes.dropWhile (· != 0) with
  | nil =>
      rw [hrest, List.append_nil] at hsplit
      rw [hsplit]
      exact (List.append_nil _).symm
  | cons b rest =>
      have hb : b = 0 := by
        have hnot := List.head?_dropWhile_not (· != (0 : UInt8)) bytes
        rw [hrest] at hnot
        simpa using hnot
      rw [hrest, hb] at hsplit
      rw [hb, fromUtf8Lossy_ascii (by decide), ← fromUtf8Lossy_nul, hsplit]

theorem nul_not_mem_beforeNul (bytes : List UInt8) : (0 : UInt8) ∉ beforeNul bytes := by
  intro h
  have hne := List.mem_takeWhile_imp h
  exact absurd hne (by decide)

/-- **The code reads the name of the comment exactly where nothing follows the first NUL.** -/
theorem stringFromParamId_eq_nameOf (paramId : Vector UInt8 16) :
    stringFromParamId paramId = nameOf paramId ↔ Padded paramId := by
  unfold stringFromParamId nameOf
  rw [fromUtf8Lossy_split,
    trimEndNul_eq_iff (nul_mem_fromUtf8Lossy (nul_not_mem_beforeNul _))]
  exact fromUtf8Lossy_nuls

/-! ## 4. Writing and reading -/

/-- The bytes of a name that fits. -/
theorem Parameter.toList_id {parameter : Parameter} (hlen : parameter.name.length ≤ 16) :
    parameter.id.toList = parameter.name ++ List.replicate (16 - parameter.name.length) 0 := by
  show (Array.mk _).toList = _
  rw [Nat.min_eq_left hlen, List.take_length]

/-- **Every name that fits is read back.** -/
theorem stringFromParamId_id {parameter : Parameter} (hutf8 : IsUtf8 parameter.name)
    (hlen : parameter.name.length ≤ 16) (hnul : (0 : UInt8) ∉ parameter.name) :
    stringFromParamId parameter.id = parameter.name := by
  have hzeros : ∀ n, fromUtf8Lossy (List.replicate n 0) = List.replicate n 0 := by
    intro n
    induction n with
    | zero => rfl
    | succ n ih => rw [List.replicate_succ, fromUtf8Lossy_ascii (by decide), ih]
  have hread : fromUtf8Lossy parameter.id.toList =
      parameter.name ++ List.replicate (16 - parameter.name.length) 0 := by
    rw [Parameter.toList_id hlen]
    cases 16 - parameter.name.length with
    | zero => rw [List.replicate_zero, List.append_nil, fromUtf8Lossy_utf8 hutf8]
    | succ n => rw [List.replicate_succ, fromUtf8Lossy_nul, fromUtf8Lossy_utf8 hutf8, hzeros]
  unfold stringFromParamId
  rw [hread, trimEndNul_replicate, trimEndNul_of_not_mem hnul]

/-! ## 5. The entry of a PARAM_VALUE -/

section Entry

variable {Metadata : Type} {getParameters : GetParameters Metadata} {vehicle : Vehicle Metadata}
  {component : VehicleComponent Metadata} {input : Input} {data : ParamValueData}

/-- The entry under the name that was read becomes the reported one; the others stay. -/
theorem called_paramValue (hauto : vehicle.autopilot = some component)
    (happlies : input.Applies vehicle.vehicleId) (hmessage : input.message = .paramValue data) :
    (vehicle.called getParameters input).1.parameters =
      Function.update vehicle.parameters (stringFromParamId data.paramId)
        (some (component.paramValueData data)) := by
  funext name
  by_cases hname : name = stringFromParamId data.paramId
  · obtain ⟨now, hnext, _⟩ := Vehicle.called_of_applies getParameters hauto happlies
    rw [hname, Function.update_self, Vehicle.parameters, hnext, handled, hmessage]
    exact Function.update_self ..
  · rw [Function.update_of_ne hname]
    refine Vehicle.called_parameters hauto ?_
    rintro ⟨_, data', hdata, hread⟩
    rw [hmessage] at hdata
    cases hdata
    exact hname hread.symm

/-- **Names and entries**: the name by the comment is read exactly where nothing follows the first
    NUL; every name that fits is read back from its own bytes; and a PARAM_VALUE changes the entry
    of its name, and no other, exactly where nothing follows the first NUL. -/
theorem paramId_names (getParameters : GetParameters Metadata) :
    (∀ paramId, stringFromParamId paramId = nameOf paramId ↔ Padded paramId) ∧
      (∀ parameter : Parameter, IsUtf8 parameter.name → parameter.name.length ≤ 16 →
        (0 : UInt8) ∉ parameter.name → stringFromParamId parameter.id = parameter.name) ∧
      ∀ (vehicle : Vehicle Metadata) (component : VehicleComponent Metadata) (input : Input)
        (data : ParamValueData), vehicle.autopilot = some component →
        input.Applies vehicle.vehicleId → input.message = .paramValue data →
        (Padded data.paramId → (vehicle.called getParameters input).1.parameters =
          Function.update vehicle.parameters (nameOf data.paramId)
            (some (component.paramValueData data))) ∧
        (¬ Padded data.paramId → (vehicle.called getParameters input).1.parameters
          (nameOf data.paramId) = vehicle.parameters (nameOf data.paramId)) := by
  refine ⟨stringFromParamId_eq_nameOf, fun _ => stringFromParamId_id, ?_⟩
  intro vehicle component input data hauto happlies hmessage
  have hentry : (vehicle.called getParameters input).1.parameters = _ :=
    called_paramValue hauto happlies hmessage
  constructor
  · intro hpadded
    rw [hentry, (stringFromParamId_eq_nameOf _).mpr hpadded]
  · intro hnot
    have hne : nameOf data.paramId ≠ stringFromParamId data.paramId := fun h =>
      hnot ((stringFromParamId_eq_nameOf _).mp h.symm)
    rw [hentry, Function.update_of_ne hne]

/-- "AB", and NULs. -/
def twoLetters : ParamValueData :=
  ⟨#v[65, 66, 0, 0, 0, 0, 0, 0, 0, 0, 0, 0, 0, 0, 0, 0], 0, 1, 0, 9⟩

theorem paramId_names_twoLetters :
    stringFromParamId (Parameter.id ⟨[65, 66], 0, .real32, 1, 0⟩) = [65, 66] ∧
      ((Vehicle.initial 1 0).called namedTables
          (autopilotInput (.paramValue twoLetters))).1.parameters =
        Function.update (Vehicle.initial 1 0).parameters (nameOf twoLetters.paramId)
          (some ((VehicleComponent.initial 0).paramValueData twoLetters)) := by
  obtain ⟨_, hread, hentry⟩ := paramId_names namedTables
  refine ⟨hread ⟨[65, 66], 0, .real32, 1, 0⟩ ⟨['A', 'B'], rfl⟩ (by decide) (by decide), ?_⟩
  have hpadded : Padded twoLetters.paramId := by decide +kernel
  exact (hentry (Vehicle.initial 1 0) (VehicleComponent.initial 0)
    (autopilotInput (.paramValue twoLetters)) twoLetters rfl ⟨rfl, rfl⟩ rfl).1 hpadded

/-- **Bytes behind the NUL come with the name**: "AB", NUL, "C" is not read as "AB". -/
theorem paramId_goesOn : ¬ ∀ paramId, stringFromParamId paramId = nameOf paramId := by
  intro hall
  have hsame := hall #v[65, 66, 0, 67, 0, 0, 0, 0, 0, 0, 0, 0, 0, 0, 0, 0]
  exact absurd hsame (by decide)

end Entry

end MavlinkServer.Rest
