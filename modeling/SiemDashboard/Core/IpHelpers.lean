import Mathlib.Data.Rat.Defs
import SiemDashboard.Lib.Caches
import SiemDashboard.Lib.Python

/-!
# The location of an address

`core/ip_helpers.py`: the lookup of an address at the geolocation provider, its two caches and the
circuit that keeps a failing provider from being asked.

* **State** — `GeoState`: the positive and the negative cache, the provider's failures, and what was
  written to the caches.
* **Provider** — `ProviderAnswer`, `recordGeolocationProviderFailure`,
  `resetGeolocationProviderFailures`.
* **Lookup** — `cacheUnknownLocation`, `askProvider` (the `try` block), `lookupIpLocation`.
* **Facts** — `cacheUnknownLocation_fst` (when writing an unknown location raises),
  `askProvider_cases`.
-/

namespace SiemDashboard.IpHelpers

open Python Caches

/-! ## State -/

/-- Where an address is, as the provider puts it. -/
structure Location where
  country : Json
  city : Json
  lat : Json
  lon : Json

/-- `_unknown_location()`. -/
def unknownLocation : Location := ⟨.null, .null, .null, .null⟩

/-- An entry of `geo_negative_cache`. -/
structure NegativeEntry where
  location : Location
  expiresAt : ℚ
  reason : String

/-- `geo_provider_state`. -/
structure ProviderState where
  failureCount : Nat
  openedUntil : ℚ
  lastLogAt : ℚ
  lastFailureReason : Option String

/-- The process-wide state.  `stored` is not kept by the program: it records what was last written
    to either cache under an address. -/
structure GeoState where
  geoCache : Dict String Location
  geoNegativeCache : Dict String NegativeEntry
  geoProviderState : ProviderState
  stored : Dict String Location

/-- The state when the module has been loaded. -/
def GeoState.initial : GeoState := ⟨∅, ∅, ⟨0, 0, 0, none⟩, ∅⟩

/-- The settings read from the environment. -/
structure GeoConfig where
  negativeCacheTtlSeconds : Int
  providerFailureThreshold : Int
  providerCooldownSeconds : Int
  failureLogThrottleSeconds : Int

/-- The settings of an environment that names none. -/
def defaultConfig : GeoConfig := ⟨900, 3, 60, 60⟩

/-- The size past which a cache is emptied. -/
@[irreducible] def maxEntries : Nat := 5000

/-! ## Provider -/

/-- What the request for an address comes to: an exception, by the name of its type, or a response
    with its status code, where it has one, and its body read as JSON. -/
inductive ProviderAnswer where
  | raised (type : String)
  | response (statusCode : Option Int) (body : Except String Json)

/-- `_record_geolocation_provider_failure`. -/
def recordGeolocationProviderFailure (config : GeoConfig) (reason : String) (now : ℚ)
    (s : GeoState) : GeoState :=
  let state := s.geoProviderState
  let failureCount := state.failureCount + 1
  let openedUntil :=
    if max 1 config.providerFailureThreshold ≤ failureCount then
      now + (max 1 config.providerCooldownSeconds : Int)
    else state.openedUntil
  let lastLogAt :=
    if (max 1 config.failureLogThrottleSeconds : Int) ≤ now - state.lastLogAt then now
    else state.lastLogAt
  { s with geoProviderState := ⟨failureCount, openedUntil, lastLogAt, some reason⟩ }

/-- `_reset_geolocation_provider_failures`. -/
def resetGeolocationProviderFailures (s : GeoState) : GeoState :=
  let state := s.geoProviderState
  { s with geoProviderState := { state with
      failureCount := 0, openedUntil := 0, lastFailureReason := none } }

/-! ## Lookup -/

/-- `_cache_unknown_location`.  The entry is read back from the dict, which may just have been
    emptied. -/
def cacheUnknownLocation (config : GeoConfig) (ipAddress reason : String) (now : ℚ)
    (s : GeoState) : Except String Location × GeoState :=
  let entry : NegativeEntry :=
    ⟨unknownLocation, now + (max 1 config.negativeCacheTtlSeconds : Int), reason⟩
  let s := { s with
    geoNegativeCache := store maxEntries s.geoNegativeCache ipAddress entry
    stored := s.stored.insert ipAddress entry.location }
  match s.geoNegativeCache.lookup ipAddress with
  | some entry => (.ok entry.location, s)
  | none => (.error "KeyError", s)

/-- A call of `lookup_ip_location`: its argument, the reading of the clock, and what the provider
    would answer. -/
structure LookupCall where
  ipAddress : Json
  now : ℚ
  answer : ProviderAnswer

/-- The `try` block: the provider is asked. -/
def askProvider (py : Python) (config : GeoConfig) (ipAddress : String) (call : LookupCall)
    (s : GeoState) : Except String Location × GeoState :=
  match call.answer with
  | .raised type => (.error type, s)
  | .response statusCode body =>
    if statusCode.getD 200 ≠ 200 then
      let reason := "http_" ++ toString (statusCode.getD 200)
      cacheUnknownLocation config ipAddress reason call.now
        (recordGeolocationProviderFailure config reason call.now s)
    else
      match body with
      | .error type => (.error type, s)
      | .ok data =>
        if data.isObj = false then
          let reason := "malformed_response"
          cacheUnknownLocation config ipAddress reason call.now
            (recordGeolocationProviderFailure config reason call.now s)
        else if (data.get "status").str? ≠ some "success" then
          let reason := py.str
            (((data.get "message").orElse (data.get "status")).orElse (.str "provider_unknown"))
          cacheUnknownLocation config ipAddress reason call.now s
        else
          let location : Location :=
            ⟨data.get "country", data.get "city", data.get "lat", data.get "lon"⟩
          let s := resetGeolocationProviderFailures s
          (.ok location, { s with
            geoCache := store maxEntries s.geoCache ipAddress location
            stored := s.stored.insert ipAddress location })

/-- The address that a call asks for: `str(ip_address or "").strip()`. -/
def LookupCall.key (py : Python) (call : LookupCall) : String :=
  strip (py.str (call.ipAddress.orElse (.str "")))

/-- The entry of the negative cache that has not expired. -/
def liveNegativeEntryAt? (s : GeoState) (ipAddress : String) (now : ℚ) : Option NegativeEntry :=
  (s.geoNegativeCache.lookup ipAddress).filter fun entry => now < entry.expiresAt

/-- `lookup_ip_location` after the caches have been looked at: what is left of an expired entry is
    removed, and the provider asked unless its circuit is open. -/
def lookupUncached (py : Python) (config : GeoConfig) (ipAddress : String) (call : LookupCall)
    (s : GeoState) : Except String Location × GeoState :=
  let s := { s with geoNegativeCache := s.geoNegativeCache.erase ipAddress }
  if call.now < s.geoProviderState.openedUntil then
    cacheUnknownLocation config ipAddress "provider_circuit_open" call.now s
  else
    match askProvider py config ipAddress call s with
    | (.ok location, s) => (.ok location, s)
    | (.error type, s) =>
      cacheUnknownLocation config ipAddress type call.now
        (recordGeolocationProviderFailure config type call.now s)

/-- `lookup_ip_location`. -/
def lookupIpLocation (py : Python) (config : GeoConfig) (call : LookupCall) (s : GeoState) :
    Except String Location × GeoState :=
  let ipAddress := call.key py
  if ipAddress = "" then (.ok unknownLocation, s)
  else
    match s.geoCache.lookup ipAddress with
    | some location => (.ok location, s)
    | none =>
      match liveNegativeEntryAt? s ipAddress call.now with
      | some entry => (.ok entry.location, s)
      | none => lookupUncached py config ipAddress call s

/-- One call after another, whatever became of the calls before. -/
def stepLookup (py : Python) (config : GeoConfig) (s : GeoState) (call : LookupCall) : GeoState :=
  (lookupIpLocation py config call s).2

def answeredFromCache (py : Python) (s : GeoState) (call : LookupCall) : Bool :=
  call.key py ≠ "" && ((s.geoCache.lookup (call.key py)).isSome ||
    (liveNegativeEntryAt? s (call.key py) call.now).isSome)

/-! ## Facts -/

/-- The request raises: there is no response, or its body cannot be read. -/
def ProviderAnswer.raises : ProviderAnswer → Bool
  | .raised _ => true
  | .response statusCode (.error _) => statusCode.getD 200 = 200
  | .response _ (.ok _) => false

section

variable {py : Python} {config : GeoConfig} {ipAddress : String}

/-- The unknown location is returned where there was room for it. -/
theorem cacheUnknownLocation_fst {s : GeoState} (hfresh : ipAddress ∉ s.geoNegativeCache)
    (reason : String) (now : ℚ) :
    (cacheUnknownLocation config ipAddress reason now s).1 =
      if size s.geoNegativeCache < maxEntries then .ok unknownLocation else .error "KeyError" := by
  have hlookup := @lookup_store _ _ _ maxEntries s.geoNegativeCache ipAddress hfresh
    ⟨unknownLocation, now + (max 1 config.negativeCacheTtlSeconds : Int), reason⟩
  simp only [cacheUnknownLocation, hlookup]
  by_cases hroom : size s.geoNegativeCache < maxEntries
  · simp only [if_pos hroom]
  · simp only [if_neg hroom]

theorem cacheUnknownLocation_isOk {s : GeoState} (hfresh : ipAddress ∉ s.geoNegativeCache)
    (reason : String) (now : ℚ) :
    (∃ location, (cacheUnknownLocation config ipAddress reason now s).1 = .ok location) ↔
      ¬ maxEntries ≤ size s.geoNegativeCache := by
  rw [cacheUnknownLocation_fst hfresh, not_le]
  by_cases hroom : size s.geoNegativeCache < maxEntries
  · simp [hroom]
  · simp [hroom]

/-- The state in which the unknown location has been written. -/
theorem cacheUnknownLocation_snd (s : GeoState) (reason : String) (now : ℚ) :
    (cacheUnknownLocation config ipAddress reason now s).2 =
      { s with
        geoNegativeCache := store maxEntries s.geoNegativeCache ipAddress
          ⟨unknownLocation, now + (max 1 config.negativeCacheTtlSeconds : Int), reason⟩
        stored := s.stored.insert ipAddress unknownLocation } := by
  unfold cacheUnknownLocation
  dsimp only
  split <;> rfl

/-- What the request can come to: it raises, the unknown location is written, or the location of the
    address is. -/
theorem askProvider_cases (py : Python) (config : GeoConfig) (ipAddress : String)
    (call : LookupCall) (s : GeoState) :
    (call.answer.raises = true ∧ ∃ type, askProvider py config ipAddress call s = (.error type, s)) ∨
    (call.answer.raises = false ∧ ∃ state reason, askProvider py config ipAddress call s =
      cacheUnknownLocation config ipAddress reason call.now { s with geoProviderState := state }) ∨
    (call.answer.raises = false ∧ ∃ state location, askProvider py config ipAddress call s =
      (.ok location, { s with
        geoProviderState := state
        geoCache := store maxEntries s.geoCache ipAddress location
        stored := s.stored.insert ipAddress location })) := by
  unfold askProvider
  cases hanswer : call.answer with
  | raised type => exact .inl ⟨rfl, type, rfl⟩
  | response statusCode body =>
    dsimp only
    by_cases hstatus : statusCode.getD 200 = 200
    · rw [if_neg (not_not.mpr hstatus)]
      cases body with
      | error type => exact .inl ⟨by simp [ProviderAnswer.raises, hstatus], type, rfl⟩
      | ok data =>
        dsimp only
        refine .inr ?_
        split
        · exact .inl ⟨rfl, _, _, rfl⟩
        · split
          · exact .inl ⟨rfl, s.geoProviderState, _, rfl⟩
          · exact .inr ⟨rfl, _, _, rfl⟩
    · rw [if_pos hstatus]
      refine .inr (.inl ⟨?_, _, _, rfl⟩)
      cases body with
      | error type => simp [ProviderAnswer.raises, hstatus]
      | ok data => rfl

end

end SiemDashboard.IpHelpers
