/-
  File:      MavlinkServer/Drivers/Endpoints.lean
  Subject:   THE ENDPOINTS OF A COMMAND LINE (`DriverInfo` in
             `src/lib/drivers/mod.rs`, and what each driver makes of a URL).

  * `Text`, `parseUnsigned`, `parseDirection` -- texts, and what `str::parse`
    reads out of them;
  * `UrlCrate`, `Outside` -- the functions of the url crate, and what else the
    code asks: files, the classes of a regular expression, the names given so
    far, the deserializers of the fake drivers;
  * `Unwrap` -- a place where the code unwraps, and may panic;
  * `Typ.validSchemes`, `Typ.createEndpointFromUrl` -- the thirteen drivers,
    each under its own name;
  * `Usable`, `returns_createEndpointFromUrl` -- when one of them does not panic.
-/
import MavlinkServer.Hub.Registry
import Mathlib.Data.List.Basic
import Mathlib.Logic.Function.Basic

namespace MavlinkServer.Drivers

open Hub

/-! ## 1. Texts -/

abbrev Text : Type := List Char

/-- `str::parse` of an unsigned integer: decimal digits, perhaps behind a `+`. -/
def parseUnsigned (max : Nat) (text : Text) : Option Nat :=
  let digits := if text.head? = some '+' then text.tail else text
  let value := digits.foldl (fun n c => 10 * n + (c.toNat - '0'.toNat)) 0
  if digits ≠ [] ∧ digits.all Char.isDigit ∧ value ≤ max then some value else none

def parseU8 (text : Text) : Option UInt8 := (parseUnsigned 255 text).map UInt8.ofNat

def parseU16 (text : Text) : Option UInt16 := (parseUnsigned 65535 text).map UInt16.ofNat

def parseU32 (text : Text) : Option UInt32 := (parseUnsigned 4294967295 text).map UInt32.ofNat

/-- Digits are read as the number that they are the digits of. -/
theorem parseUnsigned_of_digits {max : Nat} {text : Text} (hne : text ≠ [])
    (hdigit : ∀ c ∈ text, c.isDigit = true) (hmax : Nat.ofDigitChars 10 text 0 ≤ max) :
    parseUnsigned max text = some (Nat.ofDigitChars 10 text 0) := by
  have hplus : text.head? ≠ some '+' := fun hhead =>
    absurd (hdigit '+' (List.mem_of_head? hhead)) (by decide)
  have hvalue : text.foldl (fun n c => 10 * n + (c.toNat - '0'.toNat)) 0 =
      Nat.ofDigitChars 10 text 0 := Nat.ofDigitChars_eq_foldl.symm
  unfold parseUnsigned
  dsimp only
  rw [if_neg hplus, hvalue, if_pos ⟨hne, List.all_eq_true.mpr hdigit, hmax⟩]

/-- `contains`. -/
def containsText (part : Text) : Text → Bool
  | [] => part.isEmpty
  | c :: rest => part.isPrefixOf (c :: rest) || containsText part rest

/-- `strip_suffix`. -/
def stripSuffix (ending text : Text) : Option Text :=
  if ending <:+ text then some (text.take (text.length - ending.length)) else none

/-- `Direction::from_str`. -/
def parseDirection (text : Text) : Option Direction :=
  if text = "both".toList then some .both
  else if text = "receiver".toList then some .receiver
  else if text = "sender".toList then some .sender
  else none

/-! ## 2. What the code calls -/

/-- The functions of the url crate. -/
structure UrlCrate (Url : Type) where
  parse : Text → Option Url
  scheme : Url → Text
  hostStr : Url → Option Text
  port : Url → Option UInt16
  path : Url → Text
  query : Url → Option Text
  queryPairs : Url → List (Text × Text)
  /-- `none` is an error, which leaves the URL as it is -/
  setPort : Url → Option UInt16 → Option Url
  /-- `query_pairs_mut().append_pair` -/
  appendPair : Url → Text → Text → Url

structure FakeSinkParams where
  name : Text
  printAsBytes : Bool
  printAsJson : Bool
  forceParse : Bool
  deriving DecidableEq, Repr

structure FakeSourceParams where
  name : Text
  periodUs : UInt64
  systemId : UInt8
  componentId : UInt8
  messageId : UInt32
  deriving DecidableEq, Repr

/-- `NAMES_MAP`: the last number given for a name. -/
abbrev NamesMap : Type := Text → Option UInt32

structure Outside (Url : Type) extends UrlCrate Url where
  /-- `\w` and `\d` of the regex crate -/
  isWord : Char → Bool
  isDigit : Char → Bool
  /-- `std::fs::metadata(path).is_ok()` -/
  metadata : Text → Bool
  names : NamesMap
  /-- `serde_urlencoded::from_str`, with the parameters that it starts from -/
  sinkParams : Text → FakeSinkParams → Option FakeSinkParams
  sourceParams : Text → FakeSourceParams → Option FakeSourceParams

/-- `generate_new_default_name`: the name, and the map behind it. -/
def generateNewDefaultName (names : NamesMap) (kind : Text) : Option Text × NamesMap :=
  let num : UInt32 :=
    match names kind with
    | some n => if n = 4294967295 then n else n + 1
    | none => 0
  (if num = 4294967295 then none else some (kind ++ Nat.toDigits 10 num.toNat),
    Function.update names kind (some num))

/-- The `unwrap`s on the way of an entry. -/
inductive Unwrap where
  | urlFromLegacy
  | hostStr
  | port
  | stripSuffix
  /-- `generate_new_default_name(..)` -/
  | defaultName
  deriving DecidableEq, Repr

def unwrap {α : Type} (place : Unwrap) : Option α → Except Unwrap α
  | some a => .ok a
  | none => .error place

/-! ## 3. The drivers -/

inductive Typ where
  | tlogWriter
  | tlogReader
  | serial
  | tcpClient
  | tcpServer
  | udpClient
  | udpServer
  | webSocketClient
  | webSocketServer
  | fakeSink
  | fakeSource
  | zenoh
  | zenohRaw
  deriving DecidableEq, Repr

inductive FileCreationCondition where
  | whileArmed (systemId : Option UInt8) (componentId : UInt8)
  | always
  deriving DecidableEq, Repr

/-- A driver, as its builder makes it. -/
inductive EndpointDriver where
  | tlogWriter (path : Text) (condition : FileCreationCondition)
  | tlogReader (path : Text)
  | serial (portName : Text) (baudRate : UInt32)
  | tcpClient (remoteAddr : Text) (direction : Direction)
  | tcpServer (localAddr : Text) (direction : Direction)
  | udpClient (remoteAddr : Text) (direction : Direction)
  | udpServer (localAddr : Text) (direction : Direction)
  | webSocketClient (remoteAddr : Text) (scheme : Text) (direction : Direction)
  | webSocketServer (localAddr : Text) (scheme : Text) (direction : Direction)
  | fakeSink (params : FakeSinkParams)
  | fakeSource (params : FakeSourceParams)
  | zenoh
  | zenohRaw
  deriving DecidableEq, Repr

/-- `valid_schemes`. -/
def Typ.validSchemes : Typ → List Text
  | tlogWriter => ["tlogwriter".toList, "tlogw".toList]
  | tlogReader => ["tlogreader".toList, "tlogr".toList]
  | serial => ["serial".toList]
  | tcpClient => ["tcpc".toList, "tcpclient".toList, "tcpout".toList, "tcp".toList]
  | tcpServer => ["tcps".toList, "tcpserver".toList, "tcpin".toList]
  | udpClient => ["udpclient".toList, "udpout".toList, "udpc".toList]
  | udpServer => ["udpserver".toList, "udpin".toList, "udps".toList]
  | webSocketClient => ["wsclient".toList, "wssclient".toList]
  | webSocketServer => ["wsserver".toList, "wssserver".toList]
  | fakeSink => ["fakesink".toList, "fakeclient".toList, "fakec".toList]
  | fakeSource => ["fakesource".toList, "fakeserver".toList, "fakesrc".toList, "fakes".toList]
  | zenoh => ["zenoh".toList]
  | zenohRaw => ["zenohraw".toList]

/-- `endpoints`. -/
def endpoints : List Typ :=
  [.tlogWriter, .tlogReader, .serial, .tcpClient, .tcpServer, .udpClient, .udpServer,
    .webSocketClient, .webSocketServer, .fakeSink, .fakeSource, .zenoh, .zenohRaw]

section Create

variable {Url : Type} (outside : Outside Url) (url : Url)

/-- `format!("{host}:{port}")`, of a host and a port that are unwrapped. -/
def address : Except Unwrap Text := do
  let host ← unwrap .hostStr (outside.hostStr url)
  let port ← unwrap .port (outside.port url)
  pure (host ++ ':' :: Nat.toDigits 10 port.toNat)

/-- The first `direction` of the query that is one. -/
def directionOf : Direction :=
  ((outside.queryPairs url).findSome? fun (key, value) =>
    if key ≠ "direction".toList then none else parseDirection value).getD .both

/-- A parameter of the query as a `HashMap` has it: the last one of its name. -/
def param (key : Text) : Option Text :=
  ((outside.queryPairs url).filter (·.1 = key)).getLast?.map (·.2)

/-- `MAV_COMP_ID_AUTOPILOT1` when there is no other. -/
def TlogWriterInfo.createEndpointFromUrl : Option EndpointDriver :=
  let expectedSystemId := (param outside url "system_id".toList).bind parseU8
  let expectedComponentId := ((param outside url "component_id".toList).bind parseU8).getD 1
  let fileCreationCondition :=
    if param outside url "when".toList = some "while_armed".toList then
      FileCreationCondition.whileArmed expectedSystemId expectedComponentId
    else .always
  some (.tlogWriter (outside.path url) fileCreationCondition)

def TlogReaderInfo.createEndpointFromUrl : Option EndpointDriver :=
  some (.tlogReader (outside.path url))

def portAndBaudFromUrl : Text × UInt32 :=
  let path := outside.path url
  let stripped := path.dropWhile (· = '/')
  let portName :=
    if path = [] ∨ path = ['/'] then (outside.hostStr url).getD []
    else if "COM".toList <+: stripped.map Char.toUpper then stripped
    else path
  let baudRate := (((outside.queryPairs url).findSome? fun (key, value) =>
    if key = "baudrate".toList ∨ key = "arg2".toList then parseU32 value else none).or
      ((outside.port url).map fun port => port.toUInt32)).getD 115200
  (portName, baudRate)

def SerialInfo.createEndpointFromUrl : Option EndpointDriver :=
  let (portName, baudRate) := portAndBaudFromUrl outside url
  some (.serial portName baudRate)

def TcpClientInfo.createEndpointFromUrl : Except Unwrap (Option EndpointDriver) := do
  let remoteAddr ← address outside url
  pure (some (.tcpClient remoteAddr (directionOf outside url)))

def TcpServerInfo.createEndpointFromUrl : Except Unwrap (Option EndpointDriver) := do
  let localAddr ← address outside url
  pure (some (.tcpServer localAddr (directionOf outside url)))

/-- A UDP client that only receives is not made. -/
def UdpClientInfo.createEndpointFromUrl : Except Unwrap (Option EndpointDriver) := do
  let remoteAddr ← address outside url
  let direction := directionOf outside url
  pure (if direction = .receiver then none else some (.udpClient remoteAddr direction))

def UdpServerInfo.createEndpointFromUrl : Except Unwrap (Option EndpointDriver) := do
  let localAddr ← address outside url
  pure (some (.udpServer localAddr (directionOf outside url)))

def WebSocketClientInfo.createEndpointFromUrl : Except Unwrap (Option EndpointDriver) := do
  let scheme ← unwrap .stripSuffix (stripSuffix "client".toList (outside.scheme url))
  let remoteAddr ← address outside url
  pure (some (.webSocketClient remoteAddr scheme (directionOf outside url)))

/-- A host and a port that are missing have defaults. -/
def WebSocketServerInfo.createEndpointFromUrl : Except Unwrap (Option EndpointDriver) := do
  let scheme ← unwrap .stripSuffix (stripSuffix "server".toList (outside.scheme url))
  let host := (outside.hostStr url).getD "0.0.0.0".toList
  let port := (outside.port url).getD 9988
  let localAddr := host ++ ':' :: Nat.toDigits 10 port.toNat
  pure (some (.webSocketServer localAddr scheme (directionOf outside url)))

/-- `FakeSinkParams::default()`. -/
def FakeSinkParams.default : Except Unwrap FakeSinkParams := do
  let name ← unwrap .defaultName (generateNewDefaultName outside.names "FakeSink".toList).1
  pure { name, printAsBytes := false, printAsJson := true, forceParse := false }

/-- The deserializer begins with the defaults, and they stand in for a query that it refuses. -/
def FakeSinkInfo.createEndpointFromUrl : Except Unwrap (Option EndpointDriver) := do
  let default ← FakeSinkParams.default outside
  let params :=
    ((outside.query url).bind fun query => outside.sinkParams query default).getD default
  pure (some (.fakeSink params))

/-- `FakeSourceParams::default()`, with MAV_COMP_ID_USER42 and a HEARTBEAT. -/
def FakeSourceParams.default : Except Unwrap FakeSourceParams := do
  let name ← unwrap .defaultName (generateNewDefaultName outside.names "FakeSource".toList).1
  pure { name, periodUs := 1000000, systemId := 42, componentId := 66, messageId := 0 }

def FakeSourceInfo.createEndpointFromUrl : Except Unwrap (Option EndpointDriver) := do
  let default ← FakeSourceParams.default outside
  let params :=
    ((outside.query url).bind fun query => outside.sourceParams query default).getD default
  pure (some (.fakeSource params))

def ZenohInfo.createEndpointFromUrl : Except Unwrap (Option EndpointDriver) := do
  let _host ← unwrap .hostStr (outside.hostStr url)
  let _port ← unwrap .port (outside.port url)
  pure (some .zenoh)

def ZenohRawInfo.createEndpointFromUrl : Except Unwrap (Option EndpointDriver) := do
  let _host ← unwrap .hostStr (outside.hostStr url)
  let _port ← unwrap .port (outside.port url)
  pure (some .zenohRaw)

/-- `create_endpoint_from_url` of an endpoint. -/
def Typ.createEndpointFromUrl : Typ → Except Unwrap (Option EndpointDriver)
  | tlogWriter => pure (TlogWriterInfo.createEndpointFromUrl outside url)
  | tlogReader => pure (TlogReaderInfo.createEndpointFromUrl outside url)
  | serial => pure (SerialInfo.createEndpointFromUrl outside url)
  | tcpClient => TcpClientInfo.createEndpointFromUrl outside url
  | tcpServer => TcpServerInfo.createEndpointFromUrl outside url
  | udpClient => UdpClientInfo.createEndpointFromUrl outside url
  | udpServer => UdpServerInfo.createEndpointFromUrl outside url
  | webSocketClient => WebSocketClientInfo.createEndpointFromUrl outside url
  | webSocketServer => WebSocketServerInfo.createEndpointFromUrl outside url
  | fakeSink => FakeSinkInfo.createEndpointFromUrl outside url
  | fakeSource => FakeSourceInfo.createEndpointFromUrl outside url
  | zenoh => ZenohInfo.createEndpointFromUrl outside url
  | zenohRaw => ZenohRawInfo.createEndpointFromUrl outside url

end Create

/-! ## 4. Which of them panic -/

/-- The computation ends without a panic. -/
def Returns {α : Type} (x : Except Unwrap α) : Prop := ∃ a, x = .ok a

section Returns

variable {α β : Type}

@[simp] theorem returns_ok (a : α) : Returns (.ok a) := ⟨a, rfl⟩

@[simp] theorem returns_pure (a : α) : Returns (pure a) := ⟨a, rfl⟩

@[simp] theorem not_returns_error (place : Unwrap) :
    ¬ Returns (.error place : Except Unwrap α) := by
  rintro ⟨_, ⟨⟩⟩

@[simp] theorem returns_map {x : Except Unwrap α} {f : α → β} :
    Returns (f <$> x) ↔ Returns x := by
  cases x with
  | error place =>
      constructor
      · rintro ⟨_, ⟨⟩⟩
      · rintro ⟨_, ⟨⟩⟩
  | ok a => exact ⟨fun _ => ⟨a, rfl⟩, fun _ => ⟨f a, rfl⟩⟩

theorem returns_bind {x : Except Unwrap α} {f : α → Except Unwrap β} :
    Returns (x >>= f) ↔ ∃ a, x = .ok a ∧ Returns (f a) := by
  cases x with
  | error place =>
      constructor
      · rintro ⟨_, ⟨⟩⟩
      · rintro ⟨_, ⟨⟩, _⟩
  | ok a =>
      constructor
      · exact fun h => ⟨a, rfl, h⟩
      · rintro ⟨_, ⟨⟩, h⟩
        exact h

@[simp] theorem unwrap_eq_ok {place : Unwrap} {o : Option α} {a : α} :
    unwrap place o = .ok a ↔ o = some a := by
  cases o <;> simp [unwrap]

@[simp] theorem returns_unwrap {place : Unwrap} {o : Option α} :
    Returns (unwrap place o) ↔ o.isSome = true := by
  cases o <;> simp [unwrap]

theorem returns_unwrap_bind {place : Unwrap} {o : Option α} {f : α → Except Unwrap β} :
    Returns (unwrap place o >>= f) ↔ ∃ a, o = some a ∧ Returns (f a) := by
  rw [returns_bind]
  simp only [unwrap_eq_ok]

end Returns

/-- The drivers that unwrap the host and the port. -/
def Typ.needsAddress : Typ → Bool
  | tcpClient | tcpServer | udpClient | udpServer | webSocketClient | zenoh | zenohRaw => true
  | tlogWriter | tlogReader | serial | webSocketServer | fakeSink | fakeSource => false

/-- What they strip from the end of the scheme. -/
def Typ.ending? : Typ → Option Text
  | webSocketClient => some "client".toList
  | webSocketServer => some "server".toList
  | _ => none

/-- What they take a default name of. -/
def Typ.defaultName? : Typ → Option Text
  | fakeSink => some "FakeSink".toList
  | fakeSource => some "FakeSource".toList
  | _ => none

section Usable

variable {Url : Type} {outside : Outside Url} {url : Url} {typ : Typ}

/-- A name is left: `u32::MAX` has not been reached. -/
def NameLeft (outside : Outside Url) (kind : Text) : Prop :=
  (generateNewDefaultName outside.names kind).1.isSome = true

/-- **What a driver asks of a URL.** -/
structure Usable (outside : Outside Url) (typ : Typ) (url : Url) : Prop where
  host : typ.needsAddress = true → (outside.hostStr url).isSome = true
  port : typ.needsAddress = true → (outside.port url).isSome = true
  ending : ∀ ending ∈ typ.ending?, ending <:+ outside.scheme url
  named : ∀ kind ∈ typ.defaultName?, NameLeft outside kind

theorem returns_address : Returns (address outside url) ↔
    (outside.hostStr url).isSome = true ∧ (outside.port url).isSome = true := by
  simp [address, returns_unwrap_bind, Option.isSome_iff_exists]

theorem isSome_stripSuffix {ending text : Text} :
    (stripSuffix ending text).isSome = true ↔ ending <:+ text := by
  unfold stripSuffix
  split <;> simp_all

/-- **A driver is made of a URL, or is not, without a panic exactly when it has what it asks.** -/
theorem returns_createEndpointFromUrl :
    Returns (typ.createEndpointFromUrl outside url) ↔ Usable outside typ url := by
  have husable : Usable outside typ url ↔
      ((typ.needsAddress = true →
        (outside.hostStr url).isSome = true ∧ (outside.port url).isSome = true) ∧
      (∀ ending ∈ typ.ending?, ending <:+ outside.scheme url) ∧
      ∀ kind ∈ typ.defaultName?, NameLeft outside kind) :=
    ⟨fun h => ⟨fun hneeds => ⟨h.host hneeds, h.port hneeds⟩, h.ending, h.named⟩,
      fun h => ⟨fun hneeds => (h.1 hneeds).1, fun hneeds => (h.1 hneeds).2, h.2.1, h.2.2⟩⟩
  rw [husable]
  cases typ with
  | tlogWriter | tlogReader | serial =>
      simp [Typ.createEndpointFromUrl, Typ.needsAddress, Typ.ending?, Typ.defaultName?]
  | tcpClient | tcpServer | udpClient | udpServer =>
      simp [Typ.createEndpointFromUrl, TcpClientInfo.createEndpointFromUrl,
        TcpServerInfo.createEndpointFromUrl, UdpClientInfo.createEndpointFromUrl,
        UdpServerInfo.createEndpointFromUrl, Typ.needsAddress, Typ.ending?, Typ.defaultName?,
        returns_address]
  | webSocketClient =>
      simp [Typ.createEndpointFromUrl, WebSocketClientInfo.createEndpointFromUrl, Typ.needsAddress,
        Typ.ending?, Typ.defaultName?, returns_unwrap_bind, returns_address,
        ← isSome_stripSuffix, Option.isSome_iff_exists, and_comm]
  | webSocketServer =>
      simp [Typ.createEndpointFromUrl, WebSocketServerInfo.createEndpointFromUrl, Typ.needsAddress,
        Typ.ending?, Typ.defaultName?, isSome_stripSuffix]
  | fakeSink =>
      simp [Typ.createEndpointFromUrl, FakeSinkInfo.createEndpointFromUrl, FakeSinkParams.default,
        Typ.needsAddress, Typ.ending?, Typ.defaultName?, NameLeft]
  | fakeSource =>
      simp [Typ.createEndpointFromUrl, FakeSourceInfo.createEndpointFromUrl,
        FakeSourceParams.default, Typ.needsAddress, Typ.ending?, Typ.defaultName?, NameLeft]
  | zenoh | zenohRaw =>
      simp [Typ.createEndpointFromUrl, ZenohInfo.createEndpointFromUrl,
        ZenohRawInfo.createEndpointFromUrl, Typ.needsAddress, Typ.ending?, Typ.defaultName?,
        returns_unwrap_bind, Option.isSome_iff_exists]

end Usable
end MavlinkServer.Drivers
