/-
  File:      MavlinkServer/Drivers/ZenohSend.lean
  Subject:   MESSAGES IN JSON TO ZENOH (`Zenoh::send_task` and `publish_json`
             in `src/lib/drivers/zenoh/json.rs`).

  Every hub message that is not from Zenoh goes out whole on `mavlink/out` and
  on a topic of its sender and name, and field by field on topics below that.

  * `PublishCrates`, `ZenohSession` -- what the task uses of other crates, and
    what the session makes of its requests, which may fail at any time;
  * `publishJson` -- a publisher is declared with the first payload of its topic;
  * `sendTask` -- the loop; `publications` -- what one message comes to;
  * `PublishOk` -- a publisher is kept under the topic it was declared for;
  * `Carries` -- what the subscribers of each topic get;
  * **`sendTask_carries`** -- each topic carries the payloads that belong on it,
    in their order, all of them while the session does what it is asked for, and
    `mavlink/in` carries none.
-/
import MavlinkServer.Drivers.ZenohJson
import MavlinkServer.Lib.IndexMap
import MavlinkServer.Lib.Json

namespace MavlinkServer.Drivers

open Lib Hub Rest

/-! ## 1. Publishing -/

/-- What the task uses of other crates. -/
structure PublishCrates (M : Type) where
  /-- `read_any_msg_async` -/
  readAnyMsg : Packet → Option (MavHeader × M)
  messageId : M → UInt32
  messageName : M → String
  /-- `json5::to_string` of a message with its header -/
  toString : MavlinkJson M → Option String
  /-- the members of the object that `serde_json::to_value` makes of a message, each value as
      `json5::to_string` writes it -/
  members : M → List (String × String)
  /-- `KeyExpr::try_from` takes the topic -/
  keyExpr : String → Bool

/-- A payload that was put, and the publisher it was put with. -/
structure Put where
  publisher : Nat
  payload : String
  deriving DecidableEq, Repr

structure Publishing where
  /-- `publishers` -/
  publishers : IndexMap String Nat
  /-- the publishers of the session, each with the topic that it was declared for -/
  declared : List String
  puts : List Put
  /-- how many requests the session has got -/
  requests : Nat
  deriving DecidableEq

def Publishing.start : Publishing := ⟨.empty, [], [], 0⟩

/-- Which requests of the task succeed, by their number. -/
structure ZenohSession where
  declares : Nat → Bool
  puts : Nat → Bool

/-- The session does what it is asked for. -/
def ZenohSession.Reliable (session : ZenohSession) : Prop :=
  ∀ n, session.declares n = true ∧ session.puts n = true

def Publishing.put (session : ZenohSession) (s : Publishing) (publisher : Nat) (payload : String) :
    Publishing :=
  { s with
    puts := if session.puts s.requests then s.puts ++ [⟨publisher, payload⟩] else s.puts
    requests := s.requests + 1 }

section Task

variable {M : Type} (c : PublishCrates M) (session : ZenohSession)

def publishJson (s : Publishing) (topicName payload : String) : Publishing :=
  match s.publishers.get? topicName with
  | some publisher => s.put session publisher payload
  | none =>
      if c.keyExpr topicName then
        if session.declares s.requests then
          Publishing.put session
            { s with
              publishers := (s.publishers.insert topicName s.declared.length).2
              declared := s.declared ++ [topicName]
              requests := s.requests + 1 }
            s.declared.length payload
        else { s with requests := s.requests + 1 }
      else s

/-! ## 2. The task -/

/-- `Protocol::to_mavlink_json`. -/
def PublishCrates.toMavlinkJson (packet : Packet) : Option (MavlinkJson M) :=
  (c.readAnyMsg packet).map fun (header, message) => ⟨⟨header, some (c.messageId message)⟩, message⟩

def outTopicName : String := "mavlink/out"

def messageTopicName (systemId componentId : UInt8) (messageName : String) : String :=
  "mavlink/" ++ systemId.toNat.repr ++ "/" ++ componentId.toNat.repr ++ "/" ++ messageName

def fieldTopicName (messageTopicName fieldName : String) : String :=
  messageTopicName ++ "/" ++ fieldName

/-- A message as the task publishes it. -/
structure Due (M : Type) where
  content : MavlinkJson M
  json : String

/-- The topics and payloads of a message, in their order. -/
def PublishCrates.publications (due : Due M) : List (String × String) :=
  let header := due.content.header.inner
  let topic := messageTopicName header.systemId header.componentId
    (c.messageName due.content.message)
  (outTopicName, due.json) :: (topic, due.json) ::
    (c.members due.content.message).map fun (name, value) => (fieldTopicName topic name, value)

/-- What an iteration meets: the hub's receiver, and what the callbacks give. -/
structure ZenohSendInput where
  outcome : Recv Protocol
  results : List CallbackResult
  deriving DecidableEq

/-- What is published of a message that the callbacks accept. -/
def PublishCrates.dueOf (message : Protocol) : Option (Due M) :=
  (c.toMavlinkJson message.packet).bind fun content =>
    (c.toString content).map fun json => ⟨content, json⟩

/-- One iteration of `'mainloop`. -/
def sendBody (s : Publishing) (i : ZenohSendInput) : Iteration Publishing Effect TaskError :=
  match i.outcome with
  | .closed => ⟨s, [], .leave⟩
  | .lagged _ => ⟨s, [], .next⟩
  | .message message =>
      if message.origin = "zenoh" then ⟨s, [], .next⟩
      else
        let effects := [.updateOutput message, .callAll message i.results]
        if vetoed i.results then ⟨s, effects, .next⟩
        else
          match c.dueOf message with
          | none => ⟨s, effects, .next⟩
          | some due =>
              ⟨(c.publications due).foldl
                (fun s (topicName, payload) => publishJson c session s topicName payload) s,
                effects, .next⟩

/-- `Zenoh::send_task`. -/
def sendTask (inputs : List ZenohSendInput) : Iteration Publishing Effect TaskError :=
  runLoop (sendBody c session) .start inputs

/-- The message that an iteration publishes, if it does. -/
def ZenohSendInput.due? (i : ZenohSendInput) : Option (Due M) :=
  match i.outcome with
  | .message message =>
      if message.origin = "zenoh" ∨ vetoed i.results = true then none else c.dueOf message
  | .closed | .lagged _ => none

/-- The messages that are published: up to the end of the hub's channel. -/
def dues (inputs : List ZenohSendInput) : List (Due M) :=
  (inputs.takeWhile fun i => i.outcome ≠ .closed).filterMap (ZenohSendInput.due? c)

end Task

/-! ## 3. Publishers -/

/-- **The invariant**: a publisher is kept under its topic, and no topic has two. -/
structure PublishOk (s : Publishing) : Prop where
  known : ∀ topic publisher, s.publishers.get? topic = some publisher →
    s.declared[publisher]? = some topic
  kept : ∀ topic ∈ s.declared, s.publishers.get? topic ≠ none
  nodup : s.declared.Nodup
  puts : ∀ put ∈ s.puts, put.publisher < s.declared.length

theorem publishOk_start : PublishOk .start where
  known := fun _ _ h => by cases h
  kept := fun _ h => absurd h List.not_mem_nil
  nodup := List.nodup_nil
  puts := fun _ h => absurd h List.not_mem_nil

/-- What the subscribers of a topic get. -/
def Publishing.carried (s : Publishing) (topic : String) : List String :=
  s.puts.filterMap fun put =>
    if s.declared[put.publisher]? = some topic then some put.payload else none

section Publish

variable {M : Type} (c : PublishCrates M) (session : ZenohSession) {s : Publishing}

/-- A payload that is put goes to the topic of its publisher, if it goes. -/
theorem publishOk_put (h : PublishOk s) {topic : String} {publisher : Nat} (payload : String)
    (hp : s.declared[publisher]? = some topic) :
    PublishOk (s.put session publisher payload) ∧
      ∃ taken : Bool, (session.Reliable → taken = true) ∧ ∀ topic',
        (s.put session publisher payload).carried topic' =
          s.carried topic' ++ if taken ∧ topic' = topic then [payload] else [] := by
  unfold Publishing.put
  by_cases htaken : session.puts s.requests = true
  · rw [if_pos htaken]
    refine ⟨⟨h.known, h.kept, h.nodup, fun put hput => ?_⟩, true, fun _ => rfl, fun topic' => ?_⟩
    · rcases List.mem_append.mp hput with hold | hnew
      · exact h.puts put hold
      · rw [List.mem_singleton.mp hnew]
        exact (List.getElem?_eq_some_iff.mp hp).1
    · unfold Publishing.carried
      dsimp only
      rw [List.filterMap_append]
      congr 1
      by_cases htopic : topic' = topic
      · simp [htopic, hp]
      · have hne : topic ≠ topic' := Ne.symm htopic
        simp [htopic, hp, hne]
  · rw [if_neg htaken]
    refine ⟨⟨h.known, h.kept, h.nodup, h.puts⟩, false, fun hr => absurd (hr _).2 htaken,
      fun topic' => ?_⟩
    simp [Publishing.carried]

/-- A publisher that is declared keeps what the topics have carried. -/
theorem publishOk_declare (h : PublishOk s) {topic : String} (hnew : s.publishers.get? topic = none) :
    let s' : Publishing := { s with
      publishers := (s.publishers.insert topic s.declared.length).2
      declared := s.declared ++ [topic]
      requests := s.requests + 1 }
    PublishOk s' ∧ ∀ topic', s'.carried topic' = s.carried topic' := by
  have hold : ∀ {i : Nat} {t : String}, s.declared[i]? = some t →
      (s.declared ++ [topic])[i]? = some t := fun hi =>
    (List.getElem?_append_left (List.getElem?_eq_some_iff.mp hi).1).trans hi
  refine ⟨⟨fun topic' publisher hget => ?_, fun topic' hin => ?_, ?_, fun put hput => ?_⟩,
    fun topic' => ?_⟩
  · by_cases htopic : topic' = topic
    · subst htopic
      rw [IndexMap.get?_insert_self] at hget
      cases hget
      exact List.getElem?_concat_length
    · rw [IndexMap.get?_insert_of_ne htopic] at hget
      exact hold (h.known topic' publisher hget)
  · by_cases htopic : topic' = topic
    · subst htopic
      rw [IndexMap.get?_insert_self]
      exact Option.some_ne_none _
    · rw [IndexMap.get?_insert_of_ne htopic]
      rcases List.mem_append.mp hin with hin | hin
      · exact h.kept topic' hin
      · exact absurd (List.mem_singleton.mp hin) htopic
  · refine List.nodup_append.mpr ⟨h.nodup, List.nodup_singleton _, fun t ht t' ht' e => ?_⟩
    rw [e, List.mem_singleton.mp ht'] at ht
    exact h.kept topic ht hnew
  · rw [List.length_append]
    exact Nat.lt_add_right _ (h.puts put hput)
  · unfold Publishing.carried
    refine List.filterMap_congr fun put hput => ?_
    rw [List.getElem?_append_left (h.puts put hput)]

/-- **A payload goes to its own topic**, if it goes, and to no other. -/
theorem publishJson_carried (h : PublishOk s) (topic payload : String) :
    PublishOk (publishJson c session s topic payload) ∧
      ∃ taken : Bool, (session.Reliable → c.keyExpr topic = true → taken = true) ∧ ∀ topic',
        (publishJson c session s topic payload).carried topic' =
          s.carried topic' ++ if taken ∧ topic' = topic then [payload] else [] := by
  have hnothing : ∀ topic', s.carried topic' =
      s.carried topic' ++ if false = true ∧ topic' = topic then [payload] else [] :=
    fun topic' => by simp
  unfold publishJson
  cases hget : s.publishers.get? topic with
  | some publisher =>
      obtain ⟨hok, taken, hreliable, hcarried⟩ :=
        publishOk_put session h payload (h.known topic publisher hget)
      exact ⟨hok, taken, fun hr _ => hreliable hr, hcarried⟩
  | none =>
      dsimp only
      by_cases hkey : c.keyExpr topic = true
      · rw [if_pos hkey]
        by_cases hdeclare : session.declares s.requests = true
        · rw [if_pos hdeclare]
          obtain ⟨hok, hsame⟩ := publishOk_declare h hget
          obtain ⟨hok', taken, hreliable, hcarried⟩ :=
            publishOk_put session hok payload List.getElem?_concat_length
          refine ⟨hok', taken, fun hr _ => hreliable hr, fun topic' => ?_⟩
          rw [hcarried, hsame]
        · rw [if_neg hdeclare]
          exact ⟨⟨h.known, h.kept, h.nodup, h.puts⟩, false,
            fun hr _ => absurd (hr _).1 hdeclare, hnothing⟩
      · rw [if_neg hkey]
        exact ⟨h, false, fun _ hk => absurd hk hkey, hnothing⟩

/-- Payloads that are published one after the other. -/
theorem foldl_publishJson (l : List (String × String)) (h : PublishOk s) :
    let s' := l.foldl (fun s (topicName, payload) => publishJson c session s topicName payload) s
    PublishOk s' ∧ ∃ taken : List (String × String), taken.Sublist l ∧
      (session.Reliable → (∀ p ∈ l, c.keyExpr p.1 = true) → taken = l) ∧
      ∀ topic', s'.carried topic' =
        s.carried topic' ++ (taken.filter fun p => p.1 = topic').map (·.2) := by
  induction l generalizing s with
  | nil => exact ⟨h, [], List.Sublist.slnil, fun _ _ => rfl, fun topic' => by simp⟩
  | cons p l ih =>
      obtain ⟨topic, payload⟩ := p
      obtain ⟨hok, first, hfirst, hone⟩ := publishJson_carried c session h topic payload
      obtain ⟨hok', taken, hsub, hall, hrest⟩ := ih hok
      refine ⟨hok', (if first then [(topic, payload)] else []) ++ taken, ?_, fun hr hkeys => ?_,
        fun topic' => ?_⟩
      · cases first with
        | true => exact hsub.cons_cons _
        | false => exact hsub.cons _
      · rw [hfirst hr (hkeys _ List.mem_cons_self),
          hall hr fun p hp => hkeys p (List.mem_cons_of_mem _ hp)]
        rfl
      · show Publishing.carried (l.foldl _ _) topic' = _
        rw [hrest, hone, List.append_assoc]
        congr 1
        cases first with
        | false => simp
        | true =>
            by_cases htopic : topic' = topic
            · subst htopic
              simp
            · have hne : topic ≠ topic' := Ne.symm htopic
              simp [htopic, hne]

end Publish

/-! ## 4. Topics -/

/-- A segment of a topic. -/
def Segment (text : String) : Prop := '/' ∉ text.toList

instance (text : String) : Decidable (Segment text) := inferInstanceAs (Decidable (¬ _))

theorem segment_repr (n : UInt8) : Segment n.toNat.repr := by
  intro h
  rw [Nat.toList_repr] at h
  exact absurd (Ftp.isDigit_toDigits h) (by decide)

/-- The segment in front of the first slash, and what stands behind it. -/
theorem split_segment {a a' b b' : List Char} (ha : '/' ∉ a) (ha' : '/' ∉ a')
    (h : a ++ '/' :: b = a' ++ '/' :: b') : a = a' ∧ b = b' := by
  induction a generalizing a' with
  | nil =>
      cases a' with
      | nil => exact ⟨rfl, (List.cons.inj h).2⟩
      | cons x a' => exact absurd ((List.cons.inj h).1 ▸ List.mem_cons_self) ha'
  | cons x a ih =>
      cases a' with
      | nil => exact absurd ((List.cons.inj h).1 ▸ List.mem_cons_self) ha
      | cons x' a' =>
          obtain ⟨rfl, hrest⟩ := List.cons.inj h
          obtain ⟨rfl, hb⟩ := ih (fun hin => ha (List.mem_cons_of_mem _ hin))
            (fun hin => ha' (List.mem_cons_of_mem _ hin)) hrest
          exact ⟨rfl, hb⟩

section Topics

variable {systemId componentId systemId' componentId' : UInt8}
  {name name' fieldName fieldName' : String}

theorem toList_messageTopicName : (messageTopicName systemId componentId name).toList =
    "mavlink".toList ++ '/' :: (systemId.toNat.repr.toList ++
      '/' :: (componentId.toNat.repr.toList ++ '/' :: name.toList)) := by
  unfold messageTopicName
  simp only [String.toList_append, List.append_assoc]
  rfl

/-- **A topic says who sent the message**, and all behind that. -/
theorem messageTopicName_inj :
    messageTopicName systemId componentId name = messageTopicName systemId' componentId' name' ↔
      systemId = systemId' ∧ componentId = componentId' ∧ name = name' := by
  constructor
  · intro h
    have hlist := congrArg String.toList h
    rw [toList_messageTopicName, toList_messageTopicName] at hlist
    obtain ⟨_, hlist⟩ := split_segment (by decide) (by decide) hlist
    obtain ⟨hsystem, hlist⟩ := split_segment (segment_repr _) (segment_repr _) hlist
    obtain ⟨hcomponent, hname⟩ := split_segment (segment_repr _) (segment_repr _) hlist
    exact ⟨UInt8.toNat_inj.mp (Nat.repr_inj.mp (String.toList_inj.mp hsystem)),
      UInt8.toNat_inj.mp (Nat.repr_inj.mp (String.toList_inj.mp hcomponent)),
      String.toList_inj.mp hname⟩
  · rintro ⟨rfl, rfl, rfl⟩
    rfl

/-- The topic of a field is that of a message with a slash in its name. -/
theorem fieldTopicName_eq : fieldTopicName (messageTopicName systemId componentId name) fieldName =
    messageTopicName systemId componentId (name ++ "/" ++ fieldName) := by
  unfold fieldTopicName messageTopicName
  simp only [String.append_assoc]

theorem fieldTopicName_inj (hname : Segment name) (hname' : Segment name') :
    fieldTopicName (messageTopicName systemId componentId name) fieldName =
        fieldTopicName (messageTopicName systemId' componentId' name') fieldName' ↔
      systemId = systemId' ∧ componentId = componentId' ∧ name = name' ∧ fieldName = fieldName' := by
  rw [fieldTopicName_eq, fieldTopicName_eq, messageTopicName_inj]
  refine and_congr_right fun _ => and_congr_right fun _ => ⟨fun h => ?_, ?_⟩
  · have hlist := congrArg String.toList h
    simp only [String.toList_append, List.append_assoc] at hlist
    obtain ⟨hn, hf⟩ := split_segment hname hname' hlist
    exact ⟨String.toList_inj.mp hn, String.toList_inj.mp hf⟩
  · rintro ⟨rfl, rfl⟩
    rfl

theorem fieldTopicName_ne (hname' : Segment name') :
    fieldTopicName (messageTopicName systemId componentId name) fieldName ≠
      messageTopicName systemId' componentId' name' := by
  rw [fieldTopicName_eq, ne_eq, messageTopicName_inj]
  rintro ⟨_, _, rfl⟩
  refine hname' ?_
  simp only [String.toList_append]
  exact List.mem_append_left _ (List.mem_append_right _ (List.mem_singleton.mpr rfl))

/-- Behind `mavlink/` there is another slash. -/
theorem messageTopicName_ne {text : String} (htext : Segment text) :
    messageTopicName systemId componentId name ≠ "mavlink/" ++ text := by
  intro h
  have hlist := congrArg String.toList h
  rw [toList_messageTopicName, String.toList_append] at hlist
  have hprefix : '/' ∉ "mavlink".toList := by decide
  obtain ⟨_, hlist⟩ := split_segment hprefix hprefix hlist
  have hslash : '/' ∈ systemId.toNat.repr.toList ++
      '/' :: (componentId.toNat.repr.toList ++ '/' :: name.toList) :=
    List.mem_append_right _ List.mem_cons_self
  rw [hlist] at hslash
  exact htext hslash

end Topics

/-! ## 5. What each topic carries -/

section Carries

variable {M : Type} (c : PublishCrates M) (session : ZenohSession)

/-- The message is from this component, and of this name. -/
def Due.IsFrom (systemId componentId : UInt8) (name : String) (due : Due M) : Prop :=
  due.content.header.inner.systemId = systemId ∧
    due.content.header.inner.componentId = componentId ∧
    c.messageName due.content.message = name

instance (systemId componentId : UInt8) (name : String) (due : Due M) :
    Decidable (due.IsFrom c systemId componentId name) := inferInstanceAs (Decidable (_ ∧ _))

/-- The values of a field in the messages, in their order. -/
def valuesOf (fieldName : String) (dues : List (Due M)) : List String :=
  dues.flatMap fun due =>
    ((c.members due.content.message).filter fun member => member.1 = fieldName).map (·.2)

/-- **What the subscribers get**, up to `R`: on `mavlink/out` all messages, on the topic of a
    component and a name its messages of that name, and below that the values of each field; on
    every other topic nothing, and so nothing on the one that the driver listens to. -/
structure Carries (R : List String → List String → Prop) (s : Publishing) (dues : List (Due M)) :
    Prop where
  out : R (s.carried outTopicName) (dues.map (·.json))
  message : ∀ systemId componentId name, Segment name →
    R (s.carried (messageTopicName systemId componentId name))
      ((dues.filter fun due => due.IsFrom c systemId componentId name).map (·.json))
  field : ∀ systemId componentId name fieldName, Segment name →
    R (s.carried (fieldTopicName (messageTopicName systemId componentId name) fieldName))
      (valuesOf c fieldName (dues.filter fun due => due.IsFrom c systemId componentId name))
  other : ∀ topic, topic ≠ outTopicName →
    (∀ systemId componentId name, topic ≠ messageTopicName systemId componentId name) →
    s.carried topic = []
  input : s.carried "mavlink/in" = []

variable {c session}

/-- The payloads of the messages on a topic. -/
theorem payloads_flatMap (dues : List (Due M)) (topic : String) :
    ((dues.flatMap c.publications).filter fun p => p.1 = topic).map (·.2) =
      dues.flatMap fun due => ((c.publications due).filter fun p => p.1 = topic).map (·.2) := by
  rw [List.filter_flatMap, List.map_flatMap]

theorem flatMap_filter {α β : Type} (l : List α) (p : α → Prop) [DecidablePred p] (f : α → List β) :
    (l.filter fun a => p a).flatMap f = l.flatMap fun a => if p a then f a else [] := by
  induction l with
  | nil => rfl
  | cons a l ih =>
      rw [List.flatMap_cons, ← ih]
      by_cases h : p a <;> simp [h]

/-- A topic that is none of the fields' carries the message, or nothing. -/
theorem payloads_message (due : Due M) {topic : String}
    (hfield : ∀ systemId componentId name fieldName,
      fieldTopicName (messageTopicName systemId componentId name) fieldName ≠ topic) :
    ((c.publications due).filter fun p => p.1 = topic).map (·.2) =
      (if outTopicName = topic then [due.json] else []) ++
        if messageTopicName due.content.header.inner.systemId due.content.header.inner.componentId
          (c.messageName due.content.message) = topic then [due.json] else [] := by
  have hnone : ((c.members due.content.message).map fun member =>
      (fieldTopicName (messageTopicName due.content.header.inner.systemId
        due.content.header.inner.componentId (c.messageName due.content.message)) member.1,
        member.2)).filter (fun p => p.1 = topic) = [] := by
    refine List.filter_eq_nil_iff.mpr fun p hp => ?_
    obtain ⟨member, _, rfl⟩ := List.mem_map.mp hp
    simpa using hfield _ _ _ _
  unfold PublishCrates.publications
  dsimp only
  rw [List.filter_cons, List.filter_cons, hnone]
  by_cases hout : outTopicName = topic <;> by_cases hmessage : messageTopicName
      due.content.header.inner.systemId due.content.header.inner.componentId
        (c.messageName due.content.message) = topic <;> simp [hout, hmessage]

/-- The topic of a field carries its value in a message of the component and the name. -/
theorem payloads_field (hnames : ∀ message, Segment (c.messageName message)) (due : Due M)
    {systemId componentId : UInt8} {name fieldName : String} (hname : Segment name) :
    ((c.publications due).filter fun p =>
        p.1 = fieldTopicName (messageTopicName systemId componentId name) fieldName).map (·.2) =
      if due.IsFrom c systemId componentId name then
        ((c.members due.content.message).filter fun member => member.1 = fieldName).map (·.2)
      else [] := by
  have hout : outTopicName ≠
      fieldTopicName (messageTopicName systemId componentId name) fieldName := by
    rw [fieldTopicName_eq]
    exact (messageTopicName_ne (show Segment "out" by decide)).symm
  have hmessage : messageTopicName due.content.header.inner.systemId
      due.content.header.inner.componentId (c.messageName due.content.message) ≠
        fieldTopicName (messageTopicName systemId componentId name) fieldName :=
    (fieldTopicName_ne (hnames due.content.message)).symm
  unfold PublishCrates.publications
  dsimp only
  rw [List.filter_cons_of_neg (by simpa using hout),
    List.filter_cons_of_neg (by simpa using hmessage), List.filter_map, List.map_map]
  have hcongr : ∀ member : String × String,
      fieldTopicName (messageTopicName due.content.header.inner.systemId
          due.content.header.inner.componentId (c.messageName due.content.message)) member.1 =
        fieldTopicName (messageTopicName systemId componentId name) fieldName ↔
      due.IsFrom c systemId componentId name ∧ member.1 = fieldName := fun member => by
    rw [fieldTopicName_inj (hnames _) hname]
    exact ⟨fun ⟨hs, hc, hn, hf⟩ => ⟨⟨hs, hc, hn⟩, hf⟩, fun ⟨⟨hs, hc, hn⟩, hf⟩ => ⟨hs, hc, hn, hf⟩⟩
  simp only [Function.comp_def, hcongr]
  by_cases hfrom : due.IsFrom c systemId componentId name <;> simp [hfrom]

/-- **What the payloads of the messages come to on each topic.** -/
theorem carries_of {R : List String → List String → Prop} {s : Publishing} {dues : List (Due M)}
    (hnames : ∀ message, Segment (c.messageName message)) (hnil : ∀ l, R l [] → l = [])
    (h : ∀ topic, R (s.carried topic)
      (((dues.flatMap c.publications).filter fun p => p.1 = topic).map (·.2))) :
    Carries c R s dues := by
  have hout : ∀ {systemId componentId : UInt8} {name : String},
      messageTopicName systemId componentId name ≠ outTopicName :=
    messageTopicName_ne (show Segment "out" by decide)
  have hfieldOut : ∀ systemId componentId name fieldName,
      fieldTopicName (messageTopicName systemId componentId name) fieldName ≠ outTopicName := by
    intro systemId componentId name fieldName
    rw [fieldTopicName_eq]
    exact hout
  have hother : ∀ topic, topic ≠ outTopicName →
      (∀ systemId componentId name, topic ≠ messageTopicName systemId componentId name) →
      s.carried topic = [] := by
    intro topic hno hnone
    refine hnil _ ?_
    have hall := h topic
    rw [payloads_flatMap, List.flatMap_eq_nil_iff.mpr] at hall
    · exact hall
    · intro due _
      rw [payloads_message due fun systemId componentId name fieldName he => by
          rw [fieldTopicName_eq] at he
          exact hnone _ _ _ he.symm,
        if_neg (Ne.symm hno), if_neg fun he => hnone _ _ _ he.symm]
      rfl
  refine ⟨?_, fun systemId componentId name hname => ?_,
    fun systemId componentId name fieldName hname => ?_, hother, hother _ (by decide) ?_⟩
  · have hall := h outTopicName
    rw [payloads_flatMap] at hall
    simp only [payloads_message _ hfieldOut, if_neg hout, if_true, List.append_nil] at hall
    rwa [← List.map_eq_flatMap] at hall
  · have hall := h (messageTopicName systemId componentId name)
    rw [payloads_flatMap] at hall
    simp only [payloads_message _ fun _ _ _ _ => fieldTopicName_ne hname, if_neg (Ne.symm hout),
      List.nil_append, messageTopicName_inj] at hall
    rw [List.map_eq_flatMap, flatMap_filter]
    exact hall
  · have hall := h (fieldTopicName (messageTopicName systemId componentId name) fieldName)
    rw [payloads_flatMap] at hall
    simp only [payloads_field hnames _ hname] at hall
    unfold valuesOf
    rw [flatMap_filter]
    exact hall
  · exact fun _ _ _ => (messageTopicName_ne (show Segment "in" by decide)).symm

/-- The state of the task is what the messages that are due are published to, in their order. -/
theorem state_runLoop (inputs : List ZenohSendInput) (s : Publishing) :
    (runLoop (sendBody c session) s inputs).state =
      ((dues c inputs).flatMap c.publications).foldl
        (fun s (topicName, payload) => publishJson c session s topicName payload) s := by
  induction inputs generalizing s with
  | nil => rfl
  | cons i rest ih =>
      obtain ⟨outcome, results⟩ := i
      cases outcome with
      | closed =>
          rw [runLoop_cons_stop (by simp [sendBody])]
          rfl
      | lagged count =>
          rw [runLoop_cons_next (by rfl)]
          exact ih s
      | message message =>
          have hnext : (sendBody c session s ⟨.message message, results⟩).flow = .next := by
            unfold sendBody
            dsimp only
            split
            · rfl
            · split
              · rfl
              · split <;> rfl
          have hdues : dues c (⟨.message message, results⟩ :: rest) =
              (ZenohSendInput.due? c ⟨.message message, results⟩).toList ++ dues c rest := by
            unfold dues
            rw [List.takeWhile_cons_of_pos (by simp), List.filterMap_cons]
            cases ZenohSendInput.due? c ⟨.message message, results⟩ <;> rfl
          rw [runLoop_cons_next hnext, hdues, List.flatMap_append, List.foldl_append]
          refine (ih _).trans ?_
          congr 1
          unfold sendBody ZenohSendInput.due?
          dsimp only
          by_cases horigin : message.origin = "zenoh"
          · simp [horigin]
          · by_cases hveto : vetoed results = true
            · simp [horigin, hveto]
            · cases hdue : c.dueOf message with
              | none => simp [horigin, hveto]
              | some due => simp [horigin, hveto]

/-- **Each topic carries what belongs on it.** Whichever requests of the session fail, no topic has
    two publishers and the subscribers of each topic get payloads that belong there, in the order of
    the messages; while none fails, and the topics of the messages are key expressions, they get all
    of them. -/
theorem sendTask_carries (hnames : ∀ message, Segment (c.messageName message))
    (inputs : List ZenohSendInput) :
    (sendTask c session inputs).state.declared.Nodup ∧
      Carries c List.Sublist (sendTask c session inputs).state (dues c inputs) ∧
      (session.Reliable →
        (∀ due ∈ dues c inputs, ∀ p ∈ c.publications due, c.keyExpr p.1 = true) →
          Carries c Eq (sendTask c session inputs).state (dues c inputs)) := by
  obtain ⟨hok, taken, hsub, hall, hcarried⟩ := foldl_publishJson c session
    ((dues c inputs).flatMap c.publications) publishOk_start
  rw [← state_runLoop] at hok
  simp only [← state_runLoop] at hcarried
  have htaken : ∀ topic, (sendTask c session inputs).state.carried topic =
      (taken.filter fun p => p.1 = topic).map (·.2) := hcarried
  refine ⟨hok.nodup, carries_of hnames (fun _ => List.eq_nil_of_sublist_nil) fun topic => ?_,
    fun hr hkeys => carries_of hnames (fun _ h => h) fun topic => ?_⟩
  · rw [htaken]
    exact (hsub.filter _).map _
  · rw [htaken, hall hr fun p hp => ?_]
    obtain ⟨due, hdue, hp⟩ := List.mem_flatMap.mp hp
    exact hkeys due hdue p hp

end Carries

section Runs

/-- A key expression without wildcards: chunks that are not empty, without the characters that zenoh
    keeps for itself. -/
def plainKeyExpr (topic : String) : Bool :=
  (topic.toList.splitOn '/').all fun chunk => chunk ≠ [] && chunk.all fun x => x ∉ "*$?#".toList

def heartbeatPublish : PublishCrates HeartbeatData where
  readAnyMsg packet := if packet = heartbeatPacket then some (⟨1, 1, 0⟩, ⟨0, 2, 3, 81⟩) else none
  messageId _ := 0
  messageName _ := "HEARTBEAT"
  toString _ := some heartbeatJson
  members _ := [("autopilot", "\x7btype:'MAV_AUTOPILOT_ARDUPILOTMEGA'\x7d"), ("custom_mode", "0"),
    ("mavlink_version", "3"), ("type", "'HEARTBEAT'")]
  keyExpr := plainKeyExpr

/-- A heartbeat from a TCP client, one from Zenoh itself, and the end. -/
def twoHeartbeats : List ZenohSendInput :=
  [⟨.message ⟨"TcpClient:1", 0, heartbeatPacket⟩, []⟩, ⟨.lagged 3, []⟩,
    ⟨.message ⟨"zenoh", 1, heartbeatPacket⟩, []⟩, ⟨.closed, []⟩]

theorem sendTask_carries_heartbeat : (dues heartbeatPublish twoHeartbeats).length = 1 ∧
    Carries heartbeatPublish Eq
      (sendTask heartbeatPublish ⟨fun _ => true, fun _ => true⟩ twoHeartbeats).state
      (dues heartbeatPublish twoHeartbeats) :=
  ⟨by decide +kernel, (sendTask_carries (fun _ => show Segment "HEARTBEAT" by decide)
    twoHeartbeats).2.2 (fun _ => ⟨rfl, rfl⟩) (by decide +kernel)⟩

end Runs

end MavlinkServer.Drivers
