/-
  File:      MavlinkServer/Drivers/Address.lean
  Subject:   THE ADDRESS OF AN OLD ENTRY, AND THE ONE ITS DRIVER OPENS
             (`url_from_legacy` and `create_endpoint_from_url` of the log file
             drivers and of the serial driver; `port_and_baud_from_url` in
             `src/lib/drivers/serial/mod.rs`).

  The address goes through a URL: what stands before its first slash becomes the
  host, and the path comes back percent-encoded, without its dots.

  * `Names`, `EndpointDriver.opens` -- what an entry names, and what a driver
    opens;
  * `UrlCrate.Standard` -- the url crate follows the URL standard;
  * `Address.Kept` -- the addresses that survive;
  * **`opens_iff`** -- a driver opens the address of its entry exactly when it is
    one of these.
-/
import MavlinkServer.Drivers.Entry
import MavlinkServer.Lib.UrlStandard

namespace MavlinkServer.Drivers

open Lib.UrlStandard

/-! ## 1. What an entry names -/

inductive Address where
  | file (path : Text)
  | device (portName : Text) (baudRate : UInt32)
  deriving DecidableEq, Repr

/-- `tlogr:<FILE>`, `tlogw:<FILE>` and `serial:<PORT>:<BAUD>`, with the other schemes of these
    drivers. -/
inductive Names : Text → Address → Prop
  | file {typ : Typ} {scheme path : Text} (htyp : typ = .tlogReader ∨ typ = .tlogWriter)
      (hscheme : scheme ∈ typ.validSchemes) : Names (scheme ++ ':' :: path) (.file path)
  | device {scheme portName baud : Text} {baudRate : UInt32}
      (hscheme : scheme ∈ Typ.serial.validSchemes) (hbaud : parseU32 baud = some baudRate) :
      Names (scheme ++ ':' :: (portName ++ ':' :: baud)) (.device portName baudRate)

/-- What a driver opens; a path before it is made canonical. -/
def EndpointDriver.opens : EndpointDriver → Option Address
  | .tlogWriter path _ => some (.file path)
  | .tlogReader path => some (.file path)
  | .serial portName baudRate => some (.device portName baudRate)
  | _ => none

/-! ## 2. What the URL standard says -/

/-- **The url crate follows the URL standard**, in one of its editions. -/
structure UrlCrate.Standard {Url : Type} (crate : UrlCrate Url) (caret : Bool) : Prop where
  path_parse : ∀ (typ : Typ) (scheme rest : Text) (url : Url), typ.defaultScheme = some scheme →
    ':' ∉ rest → crate.parse (scheme ++ "://".toList ++ rest) = some url →
    crate.path url = standardPath caret rest
  host_parse : ∀ (typ : Typ) (scheme rest : Text) (url : Url), typ.defaultScheme = some scheme →
    ':' ∉ rest → crate.parse (scheme ++ "://".toList ++ rest) = some url →
    (crate.hostStr url).getD [] = standardHost rest
  /-- a query stands behind a question mark -/
  queryPairs_parse : ∀ (typ : Typ) (scheme rest : Text) (url : Url),
    typ.defaultScheme = some scheme → '?' ∉ rest →
    crate.parse (scheme ++ "://".toList ++ rest) = some url → crate.queryPairs url = []
  setPort_keeps : ∀ (url url' : Url) (port : Option UInt16), crate.setPort url port = some url' →
    crate.path url' = crate.path url ∧ crate.queryPairs url' = crate.queryPairs url
  /-- a pair is decoded as it was given -/
  appendPair_adds : ∀ (url : Url) (key value : Text),
    crate.path (crate.appendPair url key value) = crate.path url ∧
      crate.queryPairs (crate.appendPair url key value) = crate.queryPairs url ++ [(key, value)]

/-! ## 3. The addresses that survive -/

/-- A port that `port_and_baud_from_url` takes its slashes from. -/
def ComPort (path : Text) : Prop :=
  "COM".toList <+: (path.dropWhile (· = '/')).map Char.toUpper

instance (path : Text) : Decidable (ComPort path) := inferInstanceAs (Decidable (_ <+: _))

/-- **The addresses that survive.** A file is given by a path that is its own path in a URL; a
    device by such a path too, unless it looks like a port of Windows, or by a name that is its own
    host, unless that is a number. -/
def Address.Kept (caret : Bool) : Address → Prop
  | .file path => ':' ∉ path ∧ OwnPath caret path
  | .device portName _ => parseU16 portName = none ∧
      (OwnHost portName ∨ OwnPath caret portName ∧ portName ≠ ['/'] ∧ ¬ ComPort portName)

/-! ## 4. From an entry to its URL -/

section Legacy

variable {Url : Type} {outside : Outside Url} {legacy : DriverDescriptionLegacy} {entry : Text}
  {driver : EndpointDriver}

theorem not_mem_validSchemes {typ : Typ} {scheme : Text} (h : scheme ∈ typ.validSchemes) :
    ':' ∉ scheme := by
  revert scheme
  cases typ <;> decide

/-- What is taken out of an entry. -/
theorem legacy_of_scheme {typ : Typ} {scheme rest : Text} (hscheme : scheme ∈ typ.validSchemes)
    (h : processOldFormat outside (scheme ++ ':' :: rest) = some legacy) :
    legacy.typ = typ ∧ legacy.arg1 ≠ [] ∧
      rest.splitOn ':' = legacy.arg1 :: legacy.arg2.toList := by
  have hsplit : (scheme ++ ':' :: rest).splitOn ':' = scheme :: rest.splitOn ':' :=
    List.splitOn_append_cons_self_of_not_mem (not_mem_validSchemes hscheme) rest
  unfold processOldFormat at h
  split at h
  · cases h
  obtain ⟨⟨scheme', arg1, arg2⟩, hcaptures, hfind⟩ := Option.bind_eq_some_iff.mp h
  obtain ⟨typ', hfound, rfl⟩ := Option.map_eq_some_iff.mp hfind
  obtain ⟨hpieces, hne⟩ := captures_pieces hcaptures
  rw [hsplit] at hpieces
  obtain ⟨rfl, hrest⟩ := List.cons.inj hpieces
  rw [find_scheme hscheme] at hfound
  exact ⟨(Option.some.inj hfound).symm, hne, hrest⟩

theorem eq_of_splitOn_singleton {text piece : Text} (h : text.splitOn ':' = [piece]) :
    text = piece := by
  have hjoin : [':'].intercalate (text.splitOn ':') = text := List.intercalate_splitOn ':'
  rw [h, List.intercalate_singleton] at hjoin
  exact hjoin.symm

/-- Where there is a second piece, it is all that follows the colon. -/
theorem pieces_of_two {first second arg1 : Text} {arg2 : Option Text}
    (h : (first ++ ':' :: second).splitOn ':' = arg1 :: arg2.toList) :
    first = arg1 ∧ arg2 = some second := by
  rw [List.splitOn_append_cons_self] at h
  rcases List.append_eq_cons_iff.mp h with ⟨hnil, _⟩ | ⟨more, hfirst, hrest⟩
  · exact absurd hnil (List.splitOn_ne_nil _ _)
  cases arg2 with
  | none => exact absurd (List.append_eq_nil_iff.mp hrest.symm).2 (List.splitOn_ne_nil _ _)
  | some arg2 =>
      rcases List.append_eq_singleton_iff.mp hrest.symm with ⟨rfl, hsecond⟩ | ⟨_, hnil⟩
      · exact ⟨eq_of_splitOn_singleton hfirst,
          congrArg some (eq_of_splitOn_singleton hsecond).symm⟩
      · exact absurd hnil (List.splitOn_ne_nil _ _)

theorem firstDriver_some {typs : List Typ}
    (h : firstDriver outside entry typs = .ok (some driver)) :
    ∃ typ ∈ typs, tryEndpoint outside entry typ = .ok (some driver) := by
  induction typs with
  | nil => cases h
  | cons typ rest ih =>
      rw [firstDriver] at h
      cases htry : tryEndpoint outside entry typ with
      | error place =>
          rw [htry] at h
          cases h
      | ok result =>
          rw [htry] at h
          cases result with
          | some other =>
              cases h
              exact ⟨typ, List.mem_cons_self, htry⟩
          | none =>
              obtain ⟨other, hmem, hother⟩ := ih h
              exact ⟨other, List.mem_cons_of_mem _ hmem, hother⟩

/-- **The driver of an old entry**: it is made of the URL of the entry, at its own endpoint. -/
theorem driver_of_legacy (hlegacy : processOldFormat outside entry = some legacy)
    (hcreate : createDriverFromEntry outside entry = .ok (.ok driver)) :
    ∃ url, (legacy.typ.urlFromLegacy outside legacy).toOption = some url ∧
      legacy.typ.createEndpointFromUrl outside url = .ok (some driver) := by
  have hfirst : firstDriver outside entry endpoints = .ok (some driver) := by
    unfold createDriverFromEntry at hcreate
    cases hresult : firstDriver outside entry endpoints with
    | error place =>
        rw [hresult] at hcreate
        cases hcreate
    | ok result =>
        rw [hresult] at hcreate
        cases result with
        | none => cases hcreate
        | some other =>
            cases hcreate
            rfl
  obtain ⟨typ, _, htry⟩ := firstDriver_some hfirst
  rw [tryEndpoint, hlegacy] at htry
  dsimp only at htry
  split at htry
  · cases htry
  · rename_i htyp
    obtain rfl := not_ne_iff.mp htyp
    unfold Typ.createEndpointFromLegacy at htry
    cases hurl : (legacy.typ.urlFromLegacy outside legacy).toOption with
    | none =>
        rw [hurl] at htry
        cases htry
    | some url =>
        rw [hurl] at htry
        exact ⟨url, rfl, htry⟩

end Legacy

/-! ## 5. Files -/

section File

variable {Url : Type} {outside : Outside Url} {caret : Bool} {legacy : DriverDescriptionLegacy}
  {driver : EndpointDriver} {url : Url} {text path : Text}

theorem placePort_of_set {url' : Url} {port : UInt16} {argument : Option Text}
    (h : outside.setPort url (some port) = some url') :
    placePort outside url (some port) argument = (url', argument) := by
  rw [placePort, h]

theorem placePort_of_refused {port : UInt16} {argument : Option Text}
    (h : outside.setPort url (some port) = none) :
    placePort outside url (some port) argument =
      (url, argument.or (some (Nat.toDigits 10 port.toNat))) := by
  rw [placePort, h]

theorem placed_keeps (hstandard : outside.toUrlCrate.Standard caret) (url : Url)
    (port : Option UInt16) (argument : Option Text) :
    outside.path (placed outside url port argument) = outside.path url := by
  have hargument : ∀ (url : Url) (argument : Option Text),
      outside.path (placeArgument outside url argument) = outside.path url := by
    rintro url (_ | argument)
    · rfl
    · exact (hstandard.appendPair_adds url _ argument).1
  unfold placed
  rw [hargument]
  cases port with
  | none => rfl
  | some port =>
      cases hset : outside.setPort url (some port) with
      | none => rw [placePort_of_refused hset]
      | some url' =>
          rw [placePort_of_set hset]
          exact (hstandard.setPort_keeps url url' _ hset).1

theorem opens_tlogReader (hstandard : outside.toUrlCrate.Standard caret)
    (htyp : legacy.typ = .tlogReader) (hcolon : ':' ∉ legacy.arg1)
    (hurl : (legacy.typ.urlFromLegacy outside legacy).toOption = some url)
    (hdriver : legacy.typ.createEndpointFromUrl outside url = .ok (some driver)) :
    driver.opens = some (.file (standardPath caret legacy.arg1)) := by
  rw [htyp] at hurl hdriver
  have hparse := (TlogReaderInfo.urlFromLegacy_eq_some.mp hurl).2
  cases hdriver
  rw [EndpointDriver.opens, hstandard.path_parse .tlogReader _ _ _ rfl hcolon hparse]

theorem opens_tlogWriter (hstandard : outside.toUrlCrate.Standard caret)
    (htyp : legacy.typ = .tlogWriter) (hcolon : ':' ∉ legacy.host)
    (hurl : (legacy.typ.urlFromLegacy outside legacy).toOption = some url)
    (hdriver : legacy.typ.createEndpointFromUrl outside url = .ok (some driver)) :
    driver.opens = some (.file (standardPath caret legacy.host)) := by
  rw [htyp] at hurl hdriver
  rw [urlFromLegacy_of_ne (by decide)] at hurl
  obtain ⟨parsed, hparse, rfl⟩ := (DriverInfo.urlFromLegacy_eq_some rfl).mp hurl
  cases hdriver
  rw [EndpointDriver.opens, placed_keeps hstandard,
    hstandard.path_parse .tlogWriter _ _ _ rfl hcolon hparse]

/-- A path that begins with a slash is no number. -/
theorem parseU16_of_absolute (h : path.head? = some '/') : parseU16 path = none := by
  obtain ⟨rest, rfl⟩ := List.head?_eq_some_iff.mp h
  simp [parseU16, parseUnsigned]

/-- The piece before the first colon is the whole text when there is none. -/
theorem eq_of_splitOn {first : Text} {rest : List Text} (h : text.splitOn ':' = first :: rest)
    (hcolon : ':' ∉ text) : first = text := by
  rw [List.splitOn_eq_singleton hcolon] at h
  exact (List.cons.inj h).1.symm

/-- **The path of a log file is kept exactly when it is its own path.** -/
theorem file_kept_iff (hne : legacy.arg1 ≠ [])
    (hsplit : path.splitOn ':' = legacy.arg1 :: legacy.arg2.toList)
    (htext : text = legacy.arg1 ∨ text = legacy.host) :
    standardPath caret text = path ↔ ':' ∉ path ∧ OwnPath caret path := by
  have harg1 : ':' ∉ legacy.arg1 := not_mem_of_mem_splitOn (hsplit ▸ List.mem_cons_self)
  have hcolon : ':' ∉ text := by
    rcases htext with rfl | rfl
    · exact harg1
    · exact not_mem_host_of_arg1 harg1
  -- the text is the path, unless that is a number
  have hsame : ':' ∉ path → parseU16 path = none → text = path := by
    intro hnone hnumber
    have hfirst := eq_of_splitOn hsplit hnone
    rcases htext with rfl | rfl
    · exact hfirst
    · rw [DriverDescriptionLegacy.host, hfirst, hnumber]
      rfl
  constructor
  · intro hpath
    have hnone : ':' ∉ path := by
      intro hmem
      rw [← hpath] at hmem
      rcases mem_standardPath hmem with h | h | ⟨h, _⟩
      · exact absurd h (by decide)
      · exact absurd h (by decide)
      · exact hcolon h
    have hnil : path ≠ [] := eq_of_splitOn hsplit hnone ▸ hne
    have habsolute : path.head? = some '/' := by
      rw [← hpath] at hnil ⊢
      exact standardPath_head hnil
    rw [hsame hnone (parseU16_of_absolute habsolute)] at hpath
    exact ⟨hnone, (standardPath_eq_self_iff hnil).mp hpath⟩
  · rintro ⟨hnone, hown⟩
    rw [hsame hnone (parseU16_of_absolute hown.absolute)]
    exact (standardPath_eq_self_iff (eq_of_splitOn hsplit hnone ▸ hne)).mpr hown

end File

/-! ## 6. Devices -/

section Device

variable {Url : Type} {outside : Outside Url} {caret : Bool} {legacy : DriverDescriptionLegacy}
  {driver : EndpointDriver} {url : Url} {portName value : Text} {port : UInt16}
  {baudRate : UInt32}

/-- **The name of a device is kept exactly when it is its own host, or its own path and no port of
    Windows.** -/
theorem portName_eq_iff (hpath : outside.path url = standardPath caret portName)
    (hhost : (outside.hostStr url).getD [] = standardHost portName) :
    (portAndBaudFromUrl outside url).1 = portName ↔
      OwnHost portName ∨ OwnPath caret portName ∧ portName ≠ ['/'] ∧ ¬ ComPort portName := by
  have hown : OwnPath caret portName → standardPath caret portName = portName := by
    intro h
    refine (standardPath_eq_self_iff ?_).mpr h
    rintro rfl
    exact absurd h.absolute (by decide)
  unfold portAndBaudFromUrl
  dsimp only
  rw [hpath, hhost]
  by_cases hempty : standardPath caret portName = [] ∨ standardPath caret portName = ['/']
  · rw [if_pos hempty, standardHost_eq_self_iff]
    refine ⟨Or.inl, fun h => h.resolve_right fun ⟨hpathOwn, hslash, _⟩ => ?_⟩
    rw [hown hpathOwn] at hempty
    rcases hempty with rfl | rfl
    · exact absurd hpathOwn.absolute (by decide)
    · exact hslash rfl
  · rw [if_neg hempty]
    obtain ⟨hnil, hslash⟩ := not_or.mp hempty
    have hnoHost : ¬ OwnHost portName := fun h => hnil (standardPath_of_ownHost h)
    by_cases hcom : ComPort (standardPath caret portName)
    · unfold ComPort at hcom
      rw [if_pos hcom]
      refine iff_of_false (fun heq => ?_) (not_or.mpr ⟨hnoHost, fun ⟨hpathOwn, _, hno⟩ => ?_⟩)
      · -- without its slash, the path is shorter than any text that it can be the path of
        have hplain : ∀ c ∈ portName, pathSet caret c = false := fun c hc =>
          pathSet_of_mem_standardPath ((List.dropWhile_sublist _).mem (heq ▸ hc))
        have hle := length_standardPath_le hplain
        obtain ⟨rest, hrest⟩ := List.head?_eq_some_iff.mp (standardPath_head hnil)
        rw [hrest, List.dropWhile_cons_of_pos (by decide)] at heq
        have hshort := (List.dropWhile_sublist (· = '/') (l := rest)).length_le
        rw [heq] at hshort
        rw [hrest, List.length_cons] at hle
        omega
      · rw [hown hpathOwn] at hcom
        exact hno hcom
    · unfold ComPort at hcom
      rw [if_neg hcom]
      constructor
      · intro heq
        rw [heq] at hnil hslash hcom
        exact Or.inr ⟨(standardPath_eq_self_iff hnil).mp heq, hslash, hcom⟩
      · exact fun h => hown (h.resolve_left hnoHost).1

/-- A number that fits is read in the same way with more room. -/
theorem parseUnsigned_mono {max max' n : Nat} (hle : max ≤ max')
    (h : parseUnsigned max value = some n) : n ≤ max ∧ parseUnsigned max' value = some n := by
  unfold parseUnsigned at h ⊢
  dsimp only at h ⊢
  generalize (if value.head? = some '+' then value.tail else value) = digits at h ⊢
  obtain ⟨⟨hne, hdigit, hmax⟩, hvalue⟩ := Option.ite_none_right_eq_some.mp h
  obtain rfl := Option.some.inj hvalue
  exact ⟨hmax, if_pos ⟨hne, hdigit, hmax.trans hle⟩⟩

theorem toUInt32_ofNat {n : Nat} (h : n ≤ 65535) :
    (UInt16.ofNat n).toUInt32 = UInt32.ofNat n := by
  apply UInt32.toNat_inj.mp
  have hsmall : n < UInt16.size := Nat.lt_succ_of_le h
  have hlarge : n < UInt32.size := hsmall.trans (by decide)
  rw [UInt16.toNat_toUInt32, UInt16.toNat_ofNat_of_lt' hsmall, UInt32.toNat_ofNat_of_lt' hlarge]

theorem parseU32_of_parseU16 (h : parseU16 value = some port) :
    parseU32 value = some port.toUInt32 := by
  obtain ⟨n, hn, rfl⟩ := Option.map_eq_some_iff.mp h
  obtain ⟨hle, hparse⟩ := parseUnsigned_mono (by decide : 65535 ≤ 4294967295) hn
  rw [parseU32, hparse, toUInt32_ofNat hle]
  rfl

/-- A port is read back from the text that `to_string` makes of it. -/
theorem parseU32_toDigits (port : UInt16) :
    parseU32 (Nat.toDigits 10 port.toNat) = some port.toUInt32 := by
  have hvalue : Nat.ofDigitChars 10 (Nat.toDigits 10 port.toNat) 0 = port.toNat :=
    Nat.ofDigitChars_ten_toDigits
  have hlt := port.toNat_lt
  have hparse : parseUnsigned 4294967295 (Nat.toDigits 10 port.toNat) = some port.toNat := by
    rw [parseUnsigned_of_digits Nat.toDigits_ne_nil
      (fun c hc => Nat.isDigit_of_mem_toDigits (by decide) (by decide) hc) (by omega), hvalue]
  have hwide := toUInt32_ofNat (Nat.le_of_lt_succ hlt)
  rw [UInt16.ofNat_toNat] at hwide
  rw [parseU32, hparse, hwide]
  rfl

theorem baudRate_of_argument (hpairs : outside.queryPairs url = [("arg2".toList, value)])
    (hvalue : parseU32 value = some baudRate) : (portAndBaudFromUrl outside url).2 = baudRate := by
  unfold portAndBaudFromUrl
  rw [hpairs]
  simp only [List.findSome?_cons, or_true, if_true, hvalue, Option.some_or, Option.getD_some]

theorem baudRate_of_port (hpairs : outside.queryPairs url = [])
    (hport : outside.port url = some port) :
    (portAndBaudFromUrl outside url).2 = port.toUInt32 := by
  unfold portAndBaudFromUrl
  rw [hpairs, hport]
  rfl

/-- **The baud rate is kept**, as the port of the URL where it can be, as an argument of it where
    not. -/
theorem baudRate_placed (hcrate : outside.toUrlCrate.Contract)
    (hstandard : outside.toUrlCrate.Standard caret) {baud : Text}
    (hnumber : parseU16 legacy.arg1 = none) (harg2 : legacy.arg2 = some baud)
    (hbaud : parseU32 baud = some baudRate) (hpairs : outside.queryPairs url = [])
    (hscheme : outside.scheme url ∉ specialSchemes) :
    (portAndBaudFromUrl outside (placed outside url legacy.port legacy.argument)).2 =
      baudRate := by
  have hadded : ∀ value, outside.queryPairs
      (placeArgument outside url (some value)) = [("arg2".toList, value)] := by
    intro value
    exact (hstandard.appendPair_adds url _ value).2.trans (by rw [hpairs]; rfl)
  have hport : legacy.port = parseU16 baud := by
    rw [DriverDescriptionLegacy.port, hnumber, harg2]
    rfl
  have hargument : legacy.argument = (some baud).filter fun arg2 => (parseU16 arg2).isNone := by
    rw [DriverDescriptionLegacy.argument, hnumber, harg2]
    rfl
  unfold placed
  rw [hport, hargument]
  cases hsmall : parseU16 baud with
  | none =>
      have hkept : (some baud).filter (fun arg2 => (parseU16 arg2).isNone) = some baud := by
        rw [Option.filter_some, hsmall]
        rfl
      rw [hkept]
      exact baudRate_of_argument (hadded baud) hbaud
  | some port =>
      have hnone : (some baud).filter (fun arg2 => (parseU16 arg2).isNone) = none := by
        rw [Option.filter_some, hsmall]
        rfl
      obtain rfl := Option.some.inj (hbaud.symm.trans (parseU32_of_parseU16 hsmall))
      rw [hnone]
      cases hset : outside.setPort url (some port) with
      | none =>
          rw [placePort_of_refused hset]
          exact baudRate_of_argument (hadded _) (parseU32_toDigits port)
      | some url' =>
          rw [placePort_of_set hset]
          exact baudRate_of_port ((hstandard.setPort_keeps url url' _ hset).2.trans hpairs)
            (hcrate.port_setPort url url' port hscheme hset)

theorem scheme_serial (hcrate : outside.toUrlCrate.Contract) {rest : Text}
    (hparse : outside.parse ("serial".toList ++ "://".toList ++ rest) = some url) :
    outside.scheme url ∉ specialSchemes ∧ outside.scheme url ≠ "file".toList := by
  rw [hcrate.scheme_parse .serial _ _ _ rfl hparse]
  decide

/-- The name that is read back of the URL of an old entry. -/
theorem portName_placed_iff (hcrate : outside.toUrlCrate.Contract)
    (hstandard : outside.toUrlCrate.Standard caret) (hcolon : ':' ∉ legacy.host)
    (hparse : outside.parse ("serial".toList ++ "://".toList ++ legacy.host) = some url) :
    (portAndBaudFromUrl outside (placed outside url legacy.port legacy.argument)).1 =
        legacy.host ↔
      OwnHost legacy.host ∨
        OwnPath caret legacy.host ∧ legacy.host ≠ ['/'] ∧ ¬ ComPort legacy.host := by
  obtain ⟨_, hkeeps, _⟩ := placed_url hcrate legacy.port legacy.argument
    (hcrate.port_parse .serial _ _ _ rfl hcolon hparse) (scheme_serial hcrate hparse)
  have hpath := hstandard.path_parse .serial _ _ _ rfl hcolon hparse
  have hhost := hstandard.host_parse .serial _ _ _ rfl hcolon hparse
  refine portName_eq_iff ((placed_keeps hstandard _ _ _).trans hpath) ?_
  rw [hkeeps, hhost]

theorem ownHost_unspecified : OwnHost "0.0.0.0".toList :=
  ⟨forall_mem_of_all (by decide), forall_mem_of_all (by decide), by decide⟩

theorem opens_serial_eq (portName portName' : Text) (baudRate baudRate' : UInt32) :
    (EndpointDriver.serial portName baudRate).opens = some (.device portName' baudRate') ↔
      portName = portName' ∧ baudRate = baudRate' := by
  rw [EndpointDriver.opens, Option.some.injEq, Address.device.injEq]

/-- **A serial driver opens the device of its entry exactly when the name is one that survives.** -/
theorem opens_serial_iff (hcrate : outside.toUrlCrate.Contract)
    (hstandard : outside.toUrlCrate.Standard caret) {baud : Text} (htyp : legacy.typ = .serial)
    (hcolon : ':' ∉ legacy.arg1) (harg2 : legacy.arg2 = some baud)
    (hbaud : parseU32 baud = some baudRate)
    (hurl : (legacy.typ.urlFromLegacy outside legacy).toOption = some url)
    (hdriver : legacy.typ.createEndpointFromUrl outside url = .ok (some driver)) :
    driver.opens = some (.device legacy.arg1 baudRate) ↔
      (Address.device legacy.arg1 baudRate).Kept caret := by
  rw [htyp] at hurl hdriver
  rw [urlFromLegacy_of_ne (by decide)] at hurl
  obtain ⟨parsed, hparse, rfl⟩ := (DriverInfo.urlFromLegacy_eq_some rfl).mp hurl
  have hhost := not_mem_host_of_arg1 hcolon
  have hname := portName_placed_iff hcrate hstandard hhost hparse
  have hserial : driver = .serial
      (portAndBaudFromUrl outside (placed outside parsed legacy.port legacy.argument)).1
      (portAndBaudFromUrl outside (placed outside parsed legacy.port legacy.argument)).2 := by
    cases hdriver
    rfl
  rw [hserial, opens_serial_eq, Address.Kept]
  cases hnumber : parseU16 legacy.arg1 with
  | some number =>
      have hunspecified : legacy.host = "0.0.0.0".toList := by
        rw [DriverDescriptionLegacy.host, hnumber]
        rfl
      rw [hunspecified] at hname
      refine iff_of_false (fun h => ?_) fun h => nomatch h.1
      rw [← h.1, hname.mpr (Or.inl ownHost_unspecified)] at hnumber
      cases hnumber
  | none =>
      have hsame : legacy.host = legacy.arg1 := by
        rw [DriverDescriptionLegacy.host, hnumber]
        rfl
      rw [hsame] at hname hparse
      rw [hname]
      refine ⟨fun h => ⟨rfl, h.1⟩, fun h => ⟨h.2, ?_⟩⟩
      have hquery : '?' ∉ legacy.arg1 := by
        intro hmem
        rcases h.2 with hown | ⟨hown, _⟩
        · exact hown.bare _ hmem (by decide)
        · have hset := hown.plain _ hmem
          rw [pathSet_signs caret '?' (by decide)] at hset
          cases hset
      exact baudRate_placed hcrate hstandard hnumber harg2 hbaud
        (hstandard.queryPairs_parse .serial _ _ _ rfl hquery hparse)
        (scheme_serial hcrate hparse).1

end Device

/-! ## 7. Every entry -/

section Entry

variable {Url : Type} {outside : Outside Url} {caret : Bool} {entry : Text} {address : Address}
  {driver : EndpointDriver}

/-- **A driver opens the address of its entry exactly when that is one that survives.** -/
theorem opens_iff (hcrate : outside.toUrlCrate.Contract)
    (hstandard : outside.toUrlCrate.Standard caret) (hnames : Names entry address)
    (hlegacy : (processOldFormat outside entry).isSome = true)
    (hcreate : createDriverFromEntry outside entry = .ok (.ok driver)) :
    driver.opens = some address ↔ address.Kept caret := by
  obtain ⟨legacy, hlegacy⟩ := Option.isSome_iff_exists.mp hlegacy
  obtain ⟨url, hurl, hdriver⟩ := driver_of_legacy hlegacy hcreate
  have hhost := not_mem_host hlegacy
  cases hnames with
  | @file typ scheme path htyp hscheme =>
      obtain ⟨rfl, hne, hsplit⟩ := legacy_of_scheme hscheme hlegacy
      have harg1 : ':' ∉ legacy.arg1 := not_mem_of_mem_splitOn (hsplit ▸ List.mem_cons_self)
      -- which text is parsed depends on the driver
      have hopens : ∃ text, (text = legacy.arg1 ∨ text = legacy.host) ∧
          driver.opens = some (.file (standardPath caret text)) := by
        rcases htyp with htyp | htyp
        · exact ⟨_, Or.inl rfl, opens_tlogReader hstandard htyp harg1 hurl hdriver⟩
        · exact ⟨_, Or.inr rfl, opens_tlogWriter hstandard htyp hhost hurl hdriver⟩
      obtain ⟨text, htext, hopens⟩ := hopens
      rw [hopens, Option.some.injEq, Address.file.injEq]
      exact file_kept_iff hne hsplit htext
  | @device scheme portName baud baudRate hscheme hbaud =>
      obtain ⟨htyp, _, hsplit⟩ := legacy_of_scheme hscheme hlegacy
      obtain ⟨rfl, harg2⟩ := pieces_of_two hsplit
      have harg1 : ':' ∉ legacy.arg1 := not_mem_of_mem_splitOn (hsplit ▸ List.mem_cons_self)
      exact opens_serial_iff hcrate hstandard htyp harg1 harg2 hbaud hurl hdriver

end Entry

/-! ## 8. A url crate that follows the standard -/

structure StandardUrl where
  scheme : Text
  host : Text
  port : Option UInt16
  path : Text
  queryPairs : List (Text × Text)
  deriving DecidableEq, Repr

/-- URLs of a scheme in small letters, a host in letters, digits and dots that may be missing, and a
    path. -/
def standardCrate : UrlCrate StandardUrl where
  parse text :=
    let scheme := text.takeWhile (· ≠ ':')
    let rest := text.drop (scheme.length + 3)
    if text = scheme ++ "://".toList ++ rest ∧ scheme ≠ [] ∧ scheme.all Char.isLower ∧
        ¬ specialSchemes.contains scheme ∧ scheme ≠ "file".toList ∧ ':' ∉ rest ∧ '?' ∉ rest ∧
        (standardHost rest).all (fun c => c.isAlphanum || c = '.') then
      some { scheme, host := standardHost rest, port := none, path := standardPath true rest,
             queryPairs := [] }
    else none
  scheme url := url.scheme
  hostStr url := if url.host = [] then none else some url.host
  port url := url.port
  path url := url.path
  query _ := none
  queryPairs url := url.queryPairs
  setPort url port :=
    if url.host ≠ [] ∧ url.scheme ≠ "file".toList then some { url with port } else none
  appendPair url key value := { url with queryPairs := url.queryPairs ++ [(key, value)] }

theorem standardCrate_parse {typ : Typ} {scheme rest : Text} {url : StandardUrl}
    (hscheme : typ.defaultScheme = some scheme)
    (hparse : standardCrate.parse (scheme ++ "://".toList ++ rest) = some url) :
    url = { scheme, host := standardHost rest, port := none, path := standardPath true rest,
            queryPairs := [] } := by
  have htake : (scheme ++ "://".toList ++ rest).takeWhile (· ≠ ':') = scheme := by
    cases typ <;> cases hscheme <;> rfl
  have hdrop : (scheme ++ "://".toList ++ rest).drop (scheme.length + 3) = rest :=
    List.drop_left' (by rw [List.length_append]; rfl)
  simp only [standardCrate, htake, hdrop] at hparse
  split at hparse
  · exact (Option.some.inj hparse).symm
  · cases hparse

theorem standardCrate_setPort {url url' : StandardUrl} {port : Option UInt16}
    (h : standardCrate.setPort url port = some url') : url' = { url with port } := by
  simp only [standardCrate] at h
  split at h
  · exact (Option.some.inj h).symm
  · cases h

theorem standardCrate_contract : standardCrate.Contract where
  scheme_parse typ scheme rest url hscheme hparse := by
    rw [standardCrate_parse hscheme hparse]
    rfl
  port_parse typ scheme rest url hscheme _ hparse := by
    rw [standardCrate_parse hscheme hparse]
    rfl
  setPort_isSome url port := by
    simp [standardCrate, HasHost]
  setPort_keeps url url' port h := by
    rw [standardCrate_setPort h]
    exact ⟨rfl, rfl⟩
  port_setPort url url' port _ h := by
    rw [standardCrate_setPort h]
    rfl
  appendPair_keeps _ _ _ := ⟨rfl, rfl, rfl⟩

theorem standardCrate_standard : standardCrate.Standard true where
  path_parse typ scheme rest url hscheme _ hparse := by
    rw [standardCrate_parse hscheme hparse]
    rfl
  host_parse typ scheme rest url hscheme _ hparse := by
    rw [standardCrate_parse hscheme hparse]
    cases hhost : standardHost rest with
    | nil => rfl
    | cons c host => rfl
  queryPairs_parse typ scheme rest url hscheme _ hparse := by
    rw [standardCrate_parse hscheme hparse]
    rfl
  setPort_keeps url url' port h := by
    rw [standardCrate_setPort h]
    exact ⟨rfl, rfl⟩
  appendPair_adds _ _ _ := ⟨rfl, rfl⟩

/-- Every file is there. -/
def standardOutside : Outside StandardUrl where
  toUrlCrate := standardCrate
  isWord c := c.isAlphanum || c = '_'
  isDigit := Char.isDigit
  metadata _ := true
  names _ := none
  sinkParams _ _ := none
  sourceParams _ _ := none

/-- An absolute log file, and a device with a baud rate that is no port. -/
theorem opens_iff_absolute :
    (Address.file "/tmp/little_potato.tlog".toList).Kept true ∧
      (Address.device "/dev/ttyACM0".toList 115200).Kept true := by
  have hfile : createDriverFromEntry standardOutside "tlogw:/tmp/little_potato.tlog".toList =
      .ok (.ok (.tlogWriter "/tmp/little_potato.tlog".toList .always)) := by decide +kernel
  have hdevice : createDriverFromEntry standardOutside "serial:/dev/ttyACM0:115200".toList =
      .ok (.ok (.serial "/dev/ttyACM0".toList 115200)) := by decide +kernel
  have hnames : Names "tlogw:/tmp/little_potato.tlog".toList
      (.file "/tmp/little_potato.tlog".toList) :=
    .file (Or.inr rfl) (by decide : "tlogw".toList ∈ Typ.tlogWriter.validSchemes)
  have hnames' : Names "serial:/dev/ttyACM0:115200".toList
      (.device "/dev/ttyACM0".toList 115200) :=
    @Names.device "serial".toList "/dev/ttyACM0".toList "115200".toList 115200 (by decide)
      (by decide +kernel)
  exact ⟨(opens_iff standardCrate_contract standardCrate_standard hnames (by decide +kernel)
      hfile).mp rfl,
    (opens_iff standardCrate_contract standardCrate_standard hnames' (by decide +kernel)
      hdevice).mp rfl⟩

example : createDriverFromEntry standardOutside "tlogw:/tmp/my log.tlog".toList =
    .ok (.ok (.tlogWriter "/tmp/my%20log.tlog".toList .always)) := by decide +kernel

example : createDriverFromEntry standardOutside "serial:COM1:9600".toList =
    .ok (.ok (.serial "COM1".toList 9600)) := by decide +kernel

/-- A log file in a folder of the working directory: the folder becomes the host. -/
theorem opens_relative : standardOutside.toUrlCrate.Contract ∧
    standardOutside.toUrlCrate.Standard true ∧
    createDriverFromEntry standardOutside "tlogr:tests/files/flight.tlog".toList =
      .ok (.ok (.tlogReader "/files/flight.tlog".toList)) ∧
    ¬ ∀ (entry : Text) (address : Address) (driver : EndpointDriver), Names entry address →
      (processOldFormat standardOutside entry).isSome = true →
      createDriverFromEntry standardOutside entry = .ok (.ok driver) →
      driver.opens = some address := by
  have hcreate : createDriverFromEntry standardOutside "tlogr:tests/files/flight.tlog".toList =
      .ok (.ok (.tlogReader "/files/flight.tlog".toList)) := by decide +kernel
  have hnames : Names "tlogr:tests/files/flight.tlog".toList
      (.file "tests/files/flight.tlog".toList) :=
    .file (Or.inl rfl) (by decide : "tlogr".toList ∈ Typ.tlogReader.validSchemes)
  refine ⟨standardCrate_contract, standardCrate_standard, hcreate, fun h => ?_⟩
  have hopens := h _ _ _ hnames (by decide +kernel) hcreate
  exact absurd hopens (by decide)

end MavlinkServer.Drivers
