/-
  File:      MavlinkServer/Drivers/Entry.lean
  Subject:   FROM AN ENTRY OF THE COMMAND LINE TO A DRIVER
             (`process_old_format`, `url_from_legacy` and
             `create_driver_from_entry` in `src/lib/drivers/mod.rs`;
             `TlogReaderInfo::url_from_legacy`).

  * `processOldFormat` -- entries of the form scheme:arg1:arg2;
  * `urlFromLegacy` -- the URL that is made of one;
  * `createDriverFromEntry` -- the first endpoint that gives a driver;
  * `UrlCrate.Contract` -- what the url crate documents;
  * `Accepted`, `returns_createDriverFromEntry` -- the entries that do not make
    it panic.

  The result is an error of `Except Unwrap` where the code panics.
-/
import MavlinkServer.Drivers.Endpoints

namespace MavlinkServer.Drivers

open Hub

/-! ## 1. Entries -/

structure DriverDescriptionLegacy where
  typ : Typ
  arg1 : Text
  arg2 : Option Text
  deriving DecidableEq, Repr

inductive LegacyError where
  /-- "No default scheme set" -/
  | noDefaultScheme
  /-- "Failed to parse URL from legacy entry" -/
  | unparsed (entry : DriverDescriptionLegacy)
  /-- "Failed to get metadata for file" -/
  | noMetadata
  deriving DecidableEq, Repr

section Entry

variable {Url : Type} (outside : Outside Url)

/-- The captures of `^(?P<scheme>\w+):(?P<arg1>[^:]+)(:(?P<arg2>\d+))?$`: neither a word nor a
    number has a colon in it. -/
def captures (entry : Text) : Option (Text × Text × Option Text) :=
  match entry.splitOn ':' with
  | [scheme, arg1] =>
      if scheme ≠ [] ∧ scheme.all outside.isWord ∧ arg1 ≠ [] then some (scheme, arg1, none)
      else none
  | [scheme, arg1, arg2] =>
      if scheme ≠ [] ∧ scheme.all outside.isWord ∧ arg1 ≠ [] ∧
          arg2 ≠ [] ∧ arg2.all outside.isDigit then
        some (scheme, arg1, some arg2)
      else none
  | _ => none

def processOldFormat (entry : Text) : Option DriverDescriptionLegacy :=
  if containsText "://".toList entry then none
  else
    (captures outside entry).bind fun (scheme, arg1, arg2) =>
      (endpoints.find? fun typ => scheme ∈ typ.validSchemes).map fun typ => { typ, arg1, arg2 }

namespace DriverDescriptionLegacy

variable (legacy : DriverDescriptionLegacy)

/-- `arg1`, unless that is a port. -/
def host : Text := if (parseU16 legacy.arg1).isSome then "0.0.0.0".toList else legacy.arg1

/-- `arg1`, or else `arg2`, when it is one. -/
def port : Option UInt16 := (parseU16 legacy.arg1).or (legacy.arg2.bind parseU16)

/-- An `arg2` that is no port, beside an `arg1` that is none. -/
def argument : Option Text :=
  if (parseU16 legacy.arg1).isSome then none
  else legacy.arg2.filter fun arg2 => (parseU16 arg2).isNone

end DriverDescriptionLegacy

/-- `default_scheme`. -/
def Typ.defaultScheme (typ : Typ) : Option Text := typ.validSchemes.head?

/-- `set_port`; a port that cannot be set becomes an argument, if there is none. -/
def placePort (url : Url) (port : Option UInt16) (argument : Option Text) : Url × Option Text :=
  match port with
  | none => (url, argument)
  | some port =>
      match outside.setPort url (some port) with
      | some url => (url, argument)
      | none => (url, argument.or (some (Nat.toDigits 10 port.toNat)))

/-- `append_pair("arg2", ..)`. -/
def placeArgument (url : Url) (argument : Option Text) : Url :=
  match argument with
  | none => url
  | some argument => outside.appendPair url "arg2".toList argument

/-- The end of `url_from_legacy`. -/
def placed (url : Url) (port : Option UInt16) (argument : Option Text) : Url :=
  placeArgument outside (placePort outside url port argument).1
    (placePort outside url port argument).2

/-- `url_from_legacy` of the trait. -/
def DriverInfo.urlFromLegacy (typ : Typ) (legacy : DriverDescriptionLegacy) :
    Except LegacyError Url :=
  match typ.defaultScheme with
  | none => .error .noDefaultScheme
  | some scheme =>
      match outside.parse (scheme ++ "://".toList ++ legacy.host) with
      | none => .error (.unparsed legacy)
      | some url => .ok (placed outside url legacy.port legacy.argument)

def TlogReaderInfo.urlFromLegacy (legacy : DriverDescriptionLegacy) : Except LegacyError Url :=
  match Typ.tlogReader.defaultScheme with
  | none => .error .noDefaultScheme
  | some scheme =>
      if outside.metadata legacy.arg1 then
        match outside.parse (scheme ++ "://".toList ++ legacy.arg1) with
        | none => .error (.unparsed legacy)
        | some url => .ok url
      else .error .noMetadata

/-- `url_from_legacy` of an endpoint. -/
def Typ.urlFromLegacy : Typ → DriverDescriptionLegacy → Except LegacyError Url
  | tlogReader => TlogReaderInfo.urlFromLegacy outside
  | typ => DriverInfo.urlFromLegacy outside typ

/-- The driver of an old entry, at its endpoint. -/
def Typ.createEndpointFromLegacy (typ : Typ) (legacy : DriverDescriptionLegacy) :
    Except Unwrap (Option EndpointDriver) := do
  let url ← unwrap .urlFromLegacy (typ.urlFromLegacy outside legacy).toOption
  typ.createEndpointFromUrl outside url

/-- What `create_driver_from_entry` does at one endpoint. -/
def tryEndpoint (entry : Text) (typ : Typ) : Except Unwrap (Option EndpointDriver) :=
  match processOldFormat outside entry with
  | some legacy =>
      if legacy.typ ≠ typ then pure none else typ.createEndpointFromLegacy outside legacy
  | none =>
      match outside.parse entry with
      | none => pure none
      | some url =>
          if outside.scheme url ∈ typ.validSchemes then typ.createEndpointFromUrl outside url
          else pure none

/-- `filter_map(..).next()`. -/
def firstDriver (entry : Text) : List Typ → Except Unwrap (Option EndpointDriver)
  | [] => pure none
  | typ :: rest => do
      match ← tryEndpoint outside entry typ with
      | some driver => pure (some driver)
      | none => firstDriver entry rest

def createDriverFromEntry (entry : Text) : Except Unwrap (Except Text EndpointDriver) := do
  match ← firstDriver outside entry endpoints with
  | some driver => pure (.ok driver)
  | none => pure (.error ("Found no driver for entry: ".toList ++ entry))

end Entry
/-! ## 2. What the url crate documents -/

/-- `set_port` refuses a URL without a host, and one of a file. -/
def HasHost {Url : Type} (crate : UrlCrate Url) (url : Url) : Prop :=
  ∃ host, crate.hostStr url = some host ∧ host ≠ []

/-- The schemes that have a default port; it is not shown. -/
def specialSchemes : List Text :=
  ["http".toList, "https".toList, "ws".toList, "wss".toList, "ftp".toList]

/-- **The url crate**, as far as an entry depends on it. -/
structure UrlCrate.Contract {Url : Type} (crate : UrlCrate Url) : Prop where
  /-- a URL has the scheme it is written with -/
  scheme_parse : ∀ (typ : Typ) (scheme rest : Text) (url : Url), typ.defaultScheme = some scheme →
    crate.parse (scheme ++ "://".toList ++ rest) = some url → crate.scheme url = scheme
  /-- a port stands behind a colon -/
  port_parse : ∀ (typ : Typ) (scheme rest : Text) (url : Url), typ.defaultScheme = some scheme →
    ':' ∉ rest → crate.parse (scheme ++ "://".toList ++ rest) = some url → crate.port url = none
  setPort_isSome : ∀ (url : Url) (port : UInt16), (crate.setPort url (some port)).isSome = true ↔
    HasHost crate url ∧ crate.scheme url ≠ "file".toList
  setPort_keeps : ∀ (url url' : Url) (port : Option UInt16), crate.setPort url port = some url' →
    crate.scheme url' = crate.scheme url ∧ crate.hostStr url' = crate.hostStr url
  port_setPort : ∀ (url url' : Url) (port : UInt16), crate.scheme url ∉ specialSchemes →
    crate.setPort url (some port) = some url' → crate.port url' = some port
  appendPair_keeps : ∀ (url : Url) (key value : Text),
    crate.scheme (crate.appendPair url key value) = crate.scheme url ∧
      crate.hostStr (crate.appendPair url key value) = crate.hostStr url ∧
      crate.port (crate.appendPair url key value) = crate.port url

/-! ## 3. Schemes -/

theorem mem_endpoints (typ : Typ) : typ ∈ endpoints := by
  cases typ <;> decide

theorem exists_defaultScheme (typ : Typ) :
    ∃ scheme, typ.defaultScheme = some scheme ∧ scheme ∈ typ.validSchemes := by
  cases typ <;> exact ⟨_, rfl, List.mem_cons_self⟩

/-- Every scheme belongs to one endpoint. -/
theorem find_scheme {typ : Typ} {scheme : Text} (h : scheme ∈ typ.validSchemes) :
    endpoints.find? (fun typ => scheme ∈ typ.validSchemes) = some typ := by
  revert scheme
  cases typ <;> decide

theorem validSchemes_unique {typ other : Typ} {scheme : Text} (h : scheme ∈ typ.validSchemes)
    (hother : scheme ∈ other.validSchemes) : other = typ :=
  Option.some.inj ((find_scheme hother).symm.trans (find_scheme h))

/-- The `strip_suffix` of a valid scheme. -/
theorem ending_validSchemes {typ : Typ} {scheme : Text} (h : scheme ∈ typ.validSchemes) :
    ∀ ending ∈ typ.ending?, ending <:+ scheme := by
  revert scheme
  cases typ <;> decide

theorem validSchemes_plain {typ : Typ} {scheme : Text} (h : scheme ∈ typ.validSchemes) :
    scheme ∉ specialSchemes ∧ scheme ≠ "file".toList := by
  revert scheme
  cases typ <;> decide

/-! ## 4. The entries that do not panic -/

section Accepted

variable {Url : Type} {outside : Outside Url} {legacy : DriverDescriptionLegacy} {entry : Text}

/-- The text that `url_from_legacy` gives to `Url::parse`. -/
def DriverDescriptionLegacy.text (legacy : DriverDescriptionLegacy) : Text :=
  legacy.typ.defaultScheme.getD [] ++ "://".toList ++
    if legacy.typ = .tlogReader then legacy.arg1 else legacy.host

/-- **What an entry in the old form needs**: a log file that is there, a URL that parses, a host and
    a port for the drivers that unwrap them, and a name for those that are given one. -/
structure LegacyAccepted (outside : Outside Url) (legacy : DriverDescriptionLegacy) : Prop where
  file : legacy.typ = .tlogReader → outside.metadata legacy.arg1 = true
  parsed : ∃ url, outside.parse legacy.text = some url ∧
    (legacy.typ.needsAddress = true → HasHost outside.toUrlCrate url)
  port : legacy.typ.needsAddress = true → legacy.port.isSome = true
  named : ∀ kind ∈ legacy.typ.defaultName?, NameLeft outside kind

/-- **What an entry in the form of a URL needs**: the same of its own host and port. -/
structure UrlAccepted (outside : Outside Url) (typ : Typ) (url : Url) : Prop where
  host : typ.needsAddress = true → (outside.hostStr url).isSome = true
  port : typ.needsAddress = true → (outside.port url).isSome = true
  named : ∀ kind ∈ typ.defaultName?, NameLeft outside kind

/-- **The entries that do not panic.** One that is in neither form, or has no known scheme, is
    among them. -/
structure Accepted (outside : Outside Url) (entry : Text) : Prop where
  legacy : ∀ legacy, processOldFormat outside entry = some legacy → LegacyAccepted outside legacy
  url : processOldFormat outside entry = none → ∀ url, outside.parse entry = some url →
    ∀ typ : Typ, outside.scheme url ∈ typ.validSchemes → UrlAccepted outside typ url

/-- A piece between two colons has none. -/
theorem not_mem_of_mem_splitOn {text piece : Text} (h : piece ∈ text.splitOn ':') :
    ':' ∉ piece := by
  induction text generalizing piece with
  | nil =>
      rw [List.splitOn_nil, List.mem_singleton] at h
      exact h ▸ List.not_mem_nil
  | cons c text ih =>
      rw [List.splitOn_cons_eq_if_modifyHead] at h
      split at h
      · rcases List.mem_cons.mp h with rfl | h
        · exact List.not_mem_nil
        · exact ih h
      · rename_i hc
        cases hsplit : text.splitOn ':' with
        | nil => exact absurd hsplit (List.splitOn_ne_nil _ _)
        | cons first rest =>
            rw [hsplit, List.modifyHead_cons] at h
            rcases List.mem_cons.mp h with rfl | h
            · rintro hmem
              rcases List.mem_cons.mp hmem with rfl | hmem
              · exact hc (beq_self_eq_true ':')
              · exact ih (hsplit ▸ List.mem_cons_self) hmem
            · exact ih (hsplit ▸ List.mem_cons_of_mem _ h)

/-- The captures are the pieces between the colons. -/
theorem captures_pieces {scheme arg1 : Text} {arg2 : Option Text}
    (h : captures outside entry = some (scheme, arg1, arg2)) :
    entry.splitOn ':' = scheme :: arg1 :: arg2.toList ∧ arg1 ≠ [] := by
  unfold captures at h
  split at h
  · rename_i hsplit
    split at h
    · rename_i hguard
      cases h
      exact ⟨hsplit, hguard.2.2⟩
    · cases h
  · rename_i hsplit
    split at h
    · rename_i hguard
      cases h
      exact ⟨hsplit, hguard.2.2.1⟩
    · cases h
  · cases h

theorem captures_arg1 {scheme arg1 : Text} {arg2 : Option Text}
    (h : captures outside entry = some (scheme, arg1, arg2)) : ':' ∉ arg1 :=
  not_mem_of_mem_splitOn (by rw [(captures_pieces h).1]; simp)

theorem not_mem_host_of_arg1 (h : ':' ∉ legacy.arg1) : ':' ∉ legacy.host := by
  unfold DriverDescriptionLegacy.host
  split
  · decide
  · exact h

/-- No colon stands in what follows the scheme of an old entry. -/
theorem not_mem_host (h : processOldFormat outside entry = some legacy) : ':' ∉ legacy.host := by
  unfold processOldFormat at h
  split at h
  · cases h
  · obtain ⟨⟨scheme, arg1, arg2⟩, hcaptures, hfind⟩ := Option.bind_eq_some_iff.mp h
    obtain ⟨typ, _, rfl⟩ := Option.map_eq_some_iff.mp hfind
    exact not_mem_host_of_arg1 (captures_arg1 hcaptures)

theorem placeArgument_keeps (hcrate : outside.toUrlCrate.Contract) (url : Url)
    (argument : Option Text) :
    outside.scheme (placeArgument outside url argument) = outside.scheme url ∧
      outside.hostStr (placeArgument outside url argument) = outside.hostStr url ∧
      outside.port (placeArgument outside url argument) = outside.port url := by
  cases argument with
  | none => exact ⟨rfl, rfl, rfl⟩
  | some argument => exact hcrate.appendPair_keeps url _ argument

/-- **The URL of an old entry**: it has the scheme and the host of the text it is parsed from, and a
    port exactly when there is one to give, and a host to give it to. -/
theorem placed_url (hcrate : outside.toUrlCrate.Contract) {url : Url} (port : Option UInt16)
    (argument : Option Text) (hport : outside.port url = none)
    (hscheme : outside.scheme url ∉ specialSchemes ∧ outside.scheme url ≠ "file".toList) :
    outside.scheme (placed outside url port argument) = outside.scheme url ∧
      outside.hostStr (placed outside url port argument) = outside.hostStr url ∧
      ((outside.port (placed outside url port argument)).isSome = true ↔
        port.isSome = true ∧ HasHost outside.toUrlCrate url) := by
  unfold placed
  obtain ⟨h1, h2, h3⟩ := placeArgument_keeps hcrate (placePort outside url port argument).1
    (placePort outside url port argument).2
  rw [h1, h2, h3]
  cases port with
  | none => simp [placePort, hport]
  | some port =>
      have hset := hcrate.setPort_isSome url port
      cases hplaced : outside.setPort url (some port) with
      | none =>
          rw [hplaced] at hset
          have hnone : ¬ HasHost outside.toUrlCrate url := fun hhost => by
            cases hset.mpr ⟨hhost, hscheme.2⟩
          simp [placePort, hplaced, hport, hnone]
      | some url' =>
          rw [hplaced] at hset
          have hhost := (hset.mp rfl).1
          obtain ⟨hs, hh⟩ := hcrate.setPort_keeps url url' _ hplaced
          have hp := hcrate.port_setPort url url' port hscheme.1 hplaced
          simp [placePort, hplaced, hs, hh, hp, hhost]

/-- A driver made of a URL with one of its schemes. -/
theorem returns_create_of_scheme {typ : Typ} {url : Url}
    (h : outside.scheme url ∈ typ.validSchemes) :
    Returns (typ.createEndpointFromUrl outside url) ↔ UrlAccepted outside typ url := by
  rw [returns_createEndpointFromUrl]
  exact ⟨fun h' => ⟨h'.host, h'.port, h'.named⟩,
    fun h' => ⟨h'.host, h'.port, ending_validSchemes h, h'.named⟩⟩

theorem TlogReaderInfo.urlFromLegacy_eq_some {url : Url} :
    (TlogReaderInfo.urlFromLegacy outside legacy).toOption = some url ↔
      outside.metadata legacy.arg1 = true ∧
        outside.parse ("tlogreader".toList ++ "://".toList ++ legacy.arg1) = some url := by
  unfold TlogReaderInfo.urlFromLegacy
  cases hfile : outside.metadata legacy.arg1 with
  | false => simp [Typ.defaultScheme, Typ.validSchemes, Except.toOption]
  | true =>
      cases hparse : outside.parse ("tlogreader".toList ++ "://".toList ++ legacy.arg1) with
      | none => simp_all [Typ.defaultScheme, Typ.validSchemes, Except.toOption]
      | some parsed => simp_all [Typ.defaultScheme, Typ.validSchemes, Except.toOption]

theorem DriverInfo.urlFromLegacy_eq_some {typ : Typ} {scheme : Text} {url : Url}
    (hscheme : typ.defaultScheme = some scheme) :
    (DriverInfo.urlFromLegacy outside typ legacy).toOption = some url ↔
      ∃ parsed, outside.parse (scheme ++ "://".toList ++ legacy.host) = some parsed ∧
        placed outside parsed legacy.port legacy.argument = url := by
  unfold DriverInfo.urlFromLegacy
  rw [hscheme]
  cases hparse : outside.parse (scheme ++ "://".toList ++ legacy.host) with
  | none => simp_all [Except.toOption]
  | some parsed => simp_all [Except.toOption]

theorem urlFromLegacy_of_ne {typ : Typ} (h : typ ≠ .tlogReader) :
    typ.urlFromLegacy outside legacy = DriverInfo.urlFromLegacy outside typ legacy := by
  cases typ with
  | tlogReader => exact absurd rfl h
  | _ => rfl

/-- The driver of an old entry that names a log file to read. -/
theorem returns_legacy_tlogReader (htyp : legacy.typ = .tlogReader) :
    Returns (legacy.typ.createEndpointFromLegacy outside legacy) ↔
      LegacyAccepted outside legacy := by
  have htext : legacy.text = "tlogreader".toList ++ "://".toList ++ legacy.arg1 := by
    rw [DriverDescriptionLegacy.text, htyp, if_pos rfl]
    rfl
  have hurl : ∀ url, (legacy.typ.urlFromLegacy outside legacy).toOption = some url ↔
      outside.metadata legacy.arg1 = true ∧ outside.parse legacy.text = some url := by
    intro url
    rw [htext, htyp]
    exact TlogReaderInfo.urlFromLegacy_eq_some
  rw [Typ.createEndpointFromLegacy, returns_unwrap_bind]
  constructor
  · rintro ⟨url, hsome, _⟩
    obtain ⟨hfile, hparse⟩ := (hurl url).mp hsome
    exact
      { file := fun _ => hfile
        parsed := ⟨url, hparse, by simp [htyp, Typ.needsAddress]⟩
        port := by simp [htyp, Typ.needsAddress]
        named := by simp [htyp, Typ.defaultName?] }
  · intro h
    obtain ⟨url, hparse, _⟩ := h.parsed
    refine ⟨url, (hurl url).mpr ⟨h.file htyp, hparse⟩, ?_⟩
    rw [htyp]
    exact ⟨_, rfl⟩

/-- The driver of any other old entry. -/
theorem returns_legacy_of_ne (hcrate : outside.toUrlCrate.Contract) (hcolon : ':' ∉ legacy.host)
    (htyp : legacy.typ ≠ .tlogReader) :
    Returns (legacy.typ.createEndpointFromLegacy outside legacy) ↔
      LegacyAccepted outside legacy := by
  obtain ⟨scheme, hscheme, hvalid⟩ := exists_defaultScheme legacy.typ
  have htext : legacy.text = scheme ++ "://".toList ++ legacy.host := by
    rw [DriverDescriptionLegacy.text, hscheme, if_neg htyp]
    rfl
  have hurl : ∀ url, (legacy.typ.urlFromLegacy outside legacy).toOption = some url ↔
      ∃ parsed, outside.parse legacy.text = some parsed ∧
        placed outside parsed legacy.port legacy.argument = url := by
    intro url
    rw [htext, urlFromLegacy_of_ne htyp]
    exact DriverInfo.urlFromLegacy_eq_some hscheme
  -- the URL that is made of the one that is parsed
  have hplaced : ∀ parsed, outside.parse legacy.text = some parsed →
      outside.hostStr (placed outside parsed legacy.port legacy.argument) =
          outside.hostStr parsed ∧
        ((outside.port (placed outside parsed legacy.port legacy.argument)).isSome = true ↔
          legacy.port.isSome = true ∧ HasHost outside.toUrlCrate parsed) ∧
        (Returns (legacy.typ.createEndpointFromUrl outside
            (placed outside parsed legacy.port legacy.argument)) ↔
          UrlAccepted outside legacy.typ
            (placed outside parsed legacy.port legacy.argument)) := by
    intro parsed hparse
    rw [htext] at hparse
    have hs := hcrate.scheme_parse legacy.typ scheme legacy.host parsed hscheme hparse
    have hp := hcrate.port_parse legacy.typ scheme legacy.host parsed hscheme hcolon hparse
    obtain ⟨h1, h2, h3⟩ := placed_url hcrate legacy.port legacy.argument hp
      (hs ▸ validSchemes_plain hvalid)
    exact ⟨h2, h3, returns_create_of_scheme (by rw [h1, hs]; exact hvalid)⟩
  rw [Typ.createEndpointFromLegacy, returns_unwrap_bind]
  constructor
  · rintro ⟨url, hsome, hreturns⟩
    obtain ⟨parsed, hparse, rfl⟩ := (hurl url).mp hsome
    obtain ⟨_, hport, hcreate⟩ := hplaced parsed hparse
    have haccepted := hcreate.mp hreturns
    exact
      { file := fun h => absurd h htyp
        parsed := ⟨parsed, hparse, fun hneeds => (hport.mp (haccepted.port hneeds)).2⟩
        port := fun hneeds => (hport.mp (haccepted.port hneeds)).1
        named := haccepted.named }
  · intro h
    obtain ⟨parsed, hparse, hhost⟩ := h.parsed
    obtain ⟨hhostStr, hport, hcreate⟩ := hplaced parsed hparse
    refine ⟨_, (hurl _).mpr ⟨parsed, hparse, rfl⟩, hcreate.mpr ?_⟩
    refine ⟨fun hneeds => ?_, fun hneeds => hport.mpr ⟨h.port hneeds, hhost hneeds⟩, h.named⟩
    obtain ⟨host, heq, _⟩ := hhost hneeds
    rw [hhostStr, heq]
    rfl

/-- Endpoints that pass an entry on give no driver. -/
theorem firstDriver_none {typs : List Typ}
    (h : ∀ typ ∈ typs, tryEndpoint outside entry typ = .ok none) :
    firstDriver outside entry typs = .ok none := by
  induction typs with
  | nil => rfl
  | cons typ rest ih =>
      rw [firstDriver, h typ List.mem_cons_self]
      exact ih fun other hother => h other (List.mem_cons_of_mem _ hother)

/-- When all endpoints but one pass the entry on, that one decides. -/
theorem returns_firstDriver {typ : Typ} {typs : List Typ} (hmem : typ ∈ typs)
    (hothers : ∀ other ∈ typs, other ≠ typ → tryEndpoint outside entry other = .ok none) :
    Returns (firstDriver outside entry typs) ↔ Returns (tryEndpoint outside entry typ) := by
  induction typs with
  | nil => cases hmem
  | cons first rest ih =>
      have hrest : ∀ other ∈ rest, other ≠ typ → tryEndpoint outside entry other = .ok none :=
        fun other hother => hothers other (List.mem_cons_of_mem _ hother)
      rw [firstDriver]
      by_cases hfirst : first = typ
      · subst hfirst
        cases htry : tryEndpoint outside entry first with
        | error place =>
            refine iff_of_false ?_ (not_returns_error place)
            exact not_returns_error place
        | ok driver =>
            cases driver with
            | some driver => exact iff_of_true ⟨_, rfl⟩ (returns_ok _)
            | none =>
                refine iff_of_true ?_ (returns_ok _)
                -- the rest gives no driver, be the endpoint in it again or not
                have hnone : firstDriver outside entry rest = .ok none := firstDriver_none fun other
                    hother => by
                  by_cases heq : other = first
                  · exact heq ▸ htry
                  · exact hrest other hother heq
                exact ⟨none, hnone⟩
      · rw [hothers first List.mem_cons_self hfirst]
        exact ih ((List.mem_cons.mp hmem).resolve_left (Ne.symm hfirst)) hrest

theorem returns_createDriverFromEntry_iff : Returns (createDriverFromEntry outside entry) ↔
    Returns (firstDriver outside entry endpoints) := by
  unfold createDriverFromEntry
  cases firstDriver outside entry endpoints with
  | error place => exact iff_of_false (not_returns_error place) (not_returns_error place)
  | ok driver => cases driver <;> exact iff_of_true ⟨_, rfl⟩ (returns_ok _)

/-- An entry in the old form goes to its own endpoint. -/
theorem returns_of_legacy (hcrate : outside.toUrlCrate.Contract)
    (hlegacy : processOldFormat outside entry = some legacy) :
    Returns (firstDriver outside entry endpoints) ↔ LegacyAccepted outside legacy := by
  have htry : ∀ typ, tryEndpoint outside entry typ =
      if legacy.typ ≠ typ then pure none else typ.createEndpointFromLegacy outside legacy := by
    intro typ
    rw [tryEndpoint, hlegacy]
  have hothers : ∀ other ∈ endpoints, other ≠ legacy.typ →
      tryEndpoint outside entry other = .ok none := by
    intro other _ hne
    rw [htry, if_pos hne.symm]
    rfl
  rw [returns_firstDriver (mem_endpoints legacy.typ) hothers, htry, if_neg (not_not_intro rfl)]
  by_cases htyp : legacy.typ = .tlogReader
  · exact returns_legacy_tlogReader htyp
  · exact returns_legacy_of_ne hcrate (not_mem_host hlegacy) htyp

/-- A URL goes to the endpoint that has its scheme, if there is one. -/
theorem returns_of_url (hlegacy : processOldFormat outside entry = none) {url : Url}
    (hparse : outside.parse entry = some url) :
    Returns (firstDriver outside entry endpoints) ↔
      ∀ typ : Typ, outside.scheme url ∈ typ.validSchemes → UrlAccepted outside typ url := by
  have htry : ∀ typ, tryEndpoint outside entry typ =
      if outside.scheme url ∈ typ.validSchemes then typ.createEndpointFromUrl outside url
      else pure none := by
    intro typ
    rw [tryEndpoint, hlegacy, hparse]
  by_cases hscheme : ∃ typ : Typ, outside.scheme url ∈ typ.validSchemes
  · obtain ⟨typ, hscheme⟩ := hscheme
    have hothers : ∀ other ∈ endpoints, other ≠ typ →
        tryEndpoint outside entry other = .ok none := by
      intro other _ hne
      rw [htry, if_neg fun hother => hne (validSchemes_unique hscheme hother)]
      rfl
    rw [returns_firstDriver (mem_endpoints typ) hothers, htry, if_pos hscheme,
      returns_create_of_scheme hscheme]
    constructor
    · intro h other hother
      exact validSchemes_unique hscheme hother ▸ h
    · exact fun h => h typ hscheme
  · have hnone : firstDriver outside entry endpoints = .ok none := firstDriver_none fun typ _ => by
      rw [htry, if_neg fun h => hscheme ⟨typ, h⟩]
      rfl
    exact iff_of_true ⟨none, hnone⟩ fun typ h => absurd ⟨typ, h⟩ hscheme

theorem returns_of_unparsed (hlegacy : processOldFormat outside entry = none)
    (hparse : outside.parse entry = none) : Returns (firstDriver outside entry endpoints) := by
  refine ⟨none, firstDriver_none fun typ _ => ?_⟩
  rw [tryEndpoint, hlegacy, hparse]
  rfl

/-- **An entry gives a driver or an error, and no panic, exactly when it is accepted.** -/
theorem returns_createDriverFromEntry (outside : Outside Url)
    (hcrate : outside.toUrlCrate.Contract) (entry : Text) :
    Returns (createDriverFromEntry outside entry) ↔ Accepted outside entry := by
  rw [returns_createDriverFromEntry_iff]
  cases hlegacy : processOldFormat outside entry with
  | some legacy =>
      rw [returns_of_legacy hcrate hlegacy]
      constructor
      · intro h
        refine ⟨fun _ hsome => ?_, fun hnone => ?_⟩
        · obtain rfl := Option.some.inj (hlegacy.symm.trans hsome)
          exact h
        · rw [hlegacy] at hnone
          cases hnone
      · exact fun h => h.legacy legacy hlegacy
  | none =>
      have hold : ∀ legacy, processOldFormat outside entry = some legacy →
          LegacyAccepted outside legacy := by
        intro legacy hsome
        rw [hlegacy] at hsome
        cases hsome
      cases hparse : outside.parse entry with
      | none =>
          refine iff_of_true (returns_of_unparsed hlegacy hparse) ⟨hold, fun _ url hsome => ?_⟩
          rw [hparse] at hsome
          cases hsome
      | some url =>
          rw [returns_of_url hlegacy hparse]
          constructor
          · intro h
            refine ⟨hold, fun _ url' hsome => ?_⟩
            obtain rfl := Option.some.inj (hparse.symm.trans hsome)
            exact h
          · exact fun h => h.url hlegacy url hparse

end Accepted

/-! ## 5. A small url crate -/

structure PlainUrl where
  scheme : Text
  hostStr : Text
  port : Option UInt16
  queryPairs : List (Text × Text)
  deriving DecidableEq, Repr

/-- URLs of a scheme and a host, of small letters, digits and dots. -/
def plainCrate : UrlCrate PlainUrl where
  parse text :=
    let scheme := text.takeWhile (· ≠ ':')
    let host := text.drop (scheme.length + 3)
    if text = scheme ++ "://".toList ++ host ∧ scheme ≠ [] ∧ scheme.all Char.isLower ∧
        scheme ∉ specialSchemes ∧ scheme ≠ "file".toList ∧ host ≠ [] ∧
        host.all (fun c => c.isLower || c.isDigit || c = '.') then
      some { scheme, hostStr := host, port := none, queryPairs := [] }
    else none
  scheme url := url.scheme
  hostStr url := some url.hostStr
  port url := url.port
  path _ := []
  query _ := none
  queryPairs url := url.queryPairs
  setPort url port :=
    if url.hostStr ≠ [] ∧ url.scheme ≠ "file".toList then some { url with port } else none
  appendPair url key value := { url with queryPairs := url.queryPairs ++ [(key, value)] }

theorem plainCrate_contract : plainCrate.Contract where
  scheme_parse typ scheme rest url hscheme hparse := by
    have htake : (scheme ++ "://".toList ++ rest).takeWhile (· ≠ ':') = scheme := by
      cases typ <;> cases hscheme <;> rfl
    simp only [plainCrate] at hparse
    split at hparse
    · cases hparse
      exact htake
    · cases hparse
  port_parse typ scheme rest url _ _ hparse := by
    simp only [plainCrate] at hparse
    split at hparse
    · cases hparse
      rfl
    · cases hparse
  setPort_isSome url port := by
    simp [plainCrate, HasHost]
  setPort_keeps url url' port h := by
    simp only [plainCrate] at h
    split at h
    · cases h
      exact ⟨rfl, rfl⟩
    · cases h
  port_setPort url url' port _ h := by
    simp only [plainCrate] at h
    split at h
    · cases h
      rfl
    · cases h
  appendPair_keeps _ _ _ := ⟨rfl, rfl, rfl⟩

def plainOutside : Outside PlainUrl where
  toUrlCrate := plainCrate
  isWord c := c.isAlphanum || c = '_'
  isDigit := Char.isDigit
  metadata _ := false
  names _ := none
  sinkParams _ _ := none
  sourceParams _ _ := none

/-- A UDP server in the old form. -/
theorem returns_createDriverFromEntry_udpServer :
    createDriverFromEntry plainOutside "udps:0.0.0.0:14550".toList =
        .ok (.ok (.udpServer "0.0.0.0:14550".toList .both)) ∧
      Accepted plainOutside "udps:0.0.0.0:14550".toList := by
  have hcreate : createDriverFromEntry plainOutside "udps:0.0.0.0:14550".toList =
      .ok (.ok (.udpServer "0.0.0.0:14550".toList .both)) := by decide +kernel
  exact ⟨hcreate, (returns_createDriverFromEntry plainOutside plainCrate_contract _).mp
    ⟨_, hcreate⟩⟩

/-- A TCP client without a port. -/
theorem createDriverFromEntry_panics : plainOutside.toUrlCrate.Contract ∧
    createDriverFromEntry plainOutside "tcpclient:example".toList = .error .port ∧
    ¬ Returns (createDriverFromEntry plainOutside "tcpclient:example".toList) := by
  have hport : createDriverFromEntry plainOutside "tcpclient:example".toList = .error .port := by
    decide +kernel
  refine ⟨plainCrate_contract, hport, ?_⟩
  rw [hport]
  exact not_returns_error _

end MavlinkServer.Drivers
