import SiemDashboard.Core.IpHelpers
import SiemDashboard.Lib.Runs

/-!
# The location lookup over a process's life

* **Caches** — `Sound`: both caches stay in their bound and hold what was last written.
* **Lookup** — `Overflows`: the calls that find the negative cache full and read back an entry that
  has just been thrown away; `lookupUncached_isOk`.
* **Result** — `location_lookup`, and a run of calls the last of which raises.
-/

namespace SiemDashboard.LocationCache

open Python Caches IpHelpers

/-! ## Caches -/

/-- The caches keep their bound, and hold what was last written under each address. -/
structure Sound (s : GeoState) : Prop where
  cacheSize : size s.geoCache ≤ maxEntries
  negativeSize : size s.geoNegativeCache ≤ maxEntries
  cached : Coherent id s.geoCache s.stored
  negative : Coherent NegativeEntry.location s.geoNegativeCache s.stored

theorem sound_initial : Sound GeoState.initial where
  cacheSize := by simp [GeoState.initial]
  negativeSize := by simp [GeoState.initial]
  cached := Coherent.empty
  negative := Coherent.empty

variable {py : Python} {config : GeoConfig} {ipAddress : String} {s : GeoState}

theorem Sound.provider (hs : Sound s) (state : ProviderState) :
    Sound { s with geoProviderState := state } :=
  ⟨hs.cacheSize, hs.negativeSize, hs.cached, hs.negative⟩

theorem Sound.forget (hs : Sound s) (ipAddress : String) :
    Sound { s with geoNegativeCache := s.geoNegativeCache.erase ipAddress } where
  cacheSize := hs.cacheSize
  negativeSize := (size_erase_le _ _).trans hs.negativeSize
  cached := hs.cached
  negative := hs.negative.erase ipAddress

theorem Sound.unknown (hs : Sound s) (hcache : ipAddress ∉ s.geoCache) (reason : String)
    (now : ℚ) : Sound (cacheUnknownLocation config ipAddress reason now s).2 := by
  rw [cacheUnknownLocation_snd]
  exact {
    cacheSize := hs.cacheSize
    negativeSize := size_store_le _ _ _ _
    cached := hs.cached.write hcache _
    negative := hs.negative.store maxEntries ipAddress ⟨unknownLocation, _, reason⟩ }

theorem Sound.located (hs : Sound s) (hfresh : ipAddress ∉ s.geoNegativeCache)
    (location : Location) (state : ProviderState) :
    Sound { s with
      geoProviderState := state
      geoCache := store maxEntries s.geoCache ipAddress location
      stored := s.stored.insert ipAddress location } where
  cacheSize := size_store_le _ _ _ _
  negativeSize := hs.negativeSize
  cached := hs.cached.store maxEntries ipAddress location
  negative := hs.negative.write hfresh location

/-! ## Lookup -/

/-- An address that neither cache answers for finds the negative cache full, while the provider's
    circuit is open or the request raises. -/
def Overflows (py : Python) (s : GeoState) (call : LookupCall) : Prop :=
  call.key py ≠ "" ∧ answeredFromCache py s call = false ∧
    maxEntries ≤ size (s.geoNegativeCache.erase (call.key py)) ∧
    (call.now < s.geoProviderState.openedUntil ∨ call.answer.raises = true)

/-- Where writing the unknown location raises, the negative cache has been emptied. -/
theorem unknown_error {reason type : String} {now : ℚ} {s' : GeoState}
    (hfresh : ipAddress ∉ s.geoNegativeCache)
    (h : cacheUnknownLocation config ipAddress reason now s = (.error type, s')) :
    s'.geoCache = s.geoCache ∧ s'.geoNegativeCache = ∅ := by
  have hresult := @cacheUnknownLocation_fst config ipAddress s hfresh reason now
  have hstate := @cacheUnknownLocation_snd config ipAddress s reason now
  rw [h] at hresult hstate
  split at hresult
  · cases hresult
  · next hfull =>
    subst hstate
    exact ⟨rfl, store_of_full hfresh (by omega) _⟩

/-- A lookup that asks the provider keeps the caches sound; it raises where the unknown location is
    written outside the `try` block and the negative cache is full. -/
theorem lookupUncached_spec (hs : Sound s) (hcache : ipAddress ∉ s.geoCache) (call : LookupCall) :
    Sound (lookupUncached py config ipAddress call s).2 ∧
    ((∃ location, (lookupUncached py config ipAddress call s).1 = .ok location) ↔
      ¬ (maxEntries ≤ size (s.geoNegativeCache.erase ipAddress) ∧
        (call.now < s.geoProviderState.openedUntil ∨ call.answer.raises = true))) := by
  have hforget : Sound { s with geoNegativeCache := s.geoNegativeCache.erase ipAddress } :=
    hs.forget ipAddress
  have hfresh : ipAddress ∉ s.geoNegativeCache.erase ipAddress := by
    rw [AList.mem_erase]
    exact fun h => h.1 rfl
  unfold lookupUncached
  dsimp only
  by_cases hopen : call.now < s.geoProviderState.openedUntil
  · rw [if_pos hopen, cacheUnknownLocation_isOk hfresh]
    exact ⟨hforget.unknown hcache _ _, by simp [hopen]⟩
  · rw [if_neg hopen]
    rcases askProvider_cases py config ipAddress call
        { s with geoNegativeCache := s.geoNegativeCache.erase ipAddress } with
      ⟨hraises, type, hask⟩ | ⟨hanswers, state, reason, hask⟩ | ⟨hanswers, state, location, hask⟩
    · -- the handler writes into the cache that the `try` block has left
      rw [hask]
      have hok := @cacheUnknownLocation_isOk config ipAddress
        (recordGeolocationProviderFailure config type call.now
          { s with geoNegativeCache := s.geoNegativeCache.erase ipAddress }) hfresh type call.now
      exact ⟨(hforget.provider _).unknown hcache _ _, by rw [hok]; simp [hraises,
        recordGeolocationProviderFailure]⟩
    · -- a `KeyError` of the `try` block is caught, and the handler finds the cache empty
      have hsound := @Sound.unknown config ipAddress _ (hforget.provider state) hcache reason call.now
      rw [hask]
      rcases hwrite : cacheUnknownLocation config ipAddress reason call.now
          { s with
            geoNegativeCache := s.geoNegativeCache.erase ipAddress
            geoProviderState := state } with ⟨type | location, s'⟩
      · rw [hwrite] at hsound
        obtain ⟨hsame, hempty⟩ := unknown_error hfresh hwrite
        have hroom := @cacheUnknownLocation_isOk config ipAddress
          (recordGeolocationProviderFailure config type call.now s')
          (by simp [recordGeolocationProviderFailure, hempty]) type call.now
        refine ⟨(hsound.provider _).unknown (hsame ▸ hcache) _ _, ?_⟩
        rw [hroom]
        simp [recordGeolocationProviderFailure, hempty, hopen, hanswers, maxEntries]
      · rw [hwrite] at hsound
        exact ⟨hsound, by simp [hopen, hanswers]⟩
    · rw [hask]
      exact ⟨hforget.located hfresh location state, by simp [hopen, hanswers]⟩

/-! ## Result -/

/-- What a call should do: it returns, leaves both caches in their bound, and gives what was last
    written under its address where a cache answers. -/
def Meets (py : Python) (config : GeoConfig) (s : GeoState) (call : LookupCall) : Prop :=
  ∃ location, (lookupIpLocation py config call s).1 = .ok location ∧
    size (stepLookup py config s call).geoCache ≤ maxEntries ∧
    size (stepLookup py config s call).geoNegativeCache ≤ maxEntries ∧
    (answeredFromCache py s call = true → s.stored.lookup (call.key py) = some location)

theorem lookup_spec (py : Python) (config : GeoConfig) (s : GeoState) (call : LookupCall)
    (hs : Sound s) :
    Sound (stepLookup py config s call) ∧ (Meets py config s call ↔ ¬ Overflows py s call) := by
  unfold Meets stepLookup
  suffices h : Sound (lookupIpLocation py config call s).2 ∧
      ((∃ location, (lookupIpLocation py config call s).1 = .ok location) ↔
        ¬ Overflows py s call) ∧
      (∀ location, (lookupIpLocation py config call s).1 = .ok location →
        answeredFromCache py s call = true → s.stored.lookup (call.key py) = some location) by
    obtain ⟨hsound, hiff, hstored⟩ := h
    refine ⟨hsound, ?_⟩
    rw [← hiff]
    exact exists_congr fun location =>
      ⟨fun h => h.1, fun h => ⟨h, hsound.cacheSize, hsound.negativeSize, hstored location h⟩⟩
  unfold lookupIpLocation Overflows
  dsimp only
  by_cases hblank : call.key py = ""
  · simp [hblank, hs, answeredFromCache]
  · rw [if_neg hblank]
    cases hcache : s.geoCache.lookup (call.key py) with
    | some location =>
      have hanswered : answeredFromCache py s call = true := by
        simp [answeredFromCache, hblank, hcache]
      refine ⟨hs, by simp [hanswered], ?_⟩
      intro answer h _
      rw [← Except.ok.inj h]
      exact hs.cached _ _ hcache
    | none =>
      cases hlive : liveNegativeEntryAt? s (call.key py) call.now with
      | some entry =>
        have hanswered : answeredFromCache py s call = true := by
          simp [answeredFromCache, hblank, hlive]
        refine ⟨hs, by simp [hanswered], ?_⟩
        intro answer h _
        rw [← Except.ok.inj h]
        exact hs.negative _ _ (Option.filter_eq_some_iff.mp hlive).1
      | none =>
        have hanswered : answeredFromCache py s call = false := by
          simp [answeredFromCache, hcache, hlive]
        have hspec := @lookupUncached_spec py config _ _ hs (AList.lookup_eq_none.mp hcache) call
        refine ⟨hspec.1, ?_, fun _ _ h => absurd (hanswered.symm.trans h) (by decide)⟩
        rw [hspec.2]
        simp [hblank, hanswered]

/-- From the state of a fresh process, the calls of a run all return, keep the caches in their bounds
    and answer from the caches what was last written, just where none of them overflows the negative
    cache. -/
theorem location_lookup (py : Python) (config : GeoConfig) (calls : List LookupCall) :
    Runs.Along (stepLookup py config) (Meets py config) GeoState.initial calls ↔
      Runs.Along (stepLookup py config) (fun s call => ¬ Overflows py s call) GeoState.initial
        calls :=
  Runs.along_congr_of_invariant (fun s call hs => (lookup_spec py config s call hs).1)
    (fun s call hs => (lookup_spec py config s call hs).2) sound_initial calls

/-- The lookup of an address whose request ends with an exception. -/
def unanswered (i : Nat) : LookupCall :=
  ⟨.str ("2001:db8::" ++ toString i), 0, .raised "ConnectTimeout"⟩

theorem unanswered_key (py : Python) (i : Nat) :
    (unanswered i).key py = "2001:db8::" ++ toString i := by
  have hchars : ∀ c ∈ ("2001:db8::" ++ toString i).toList, isSpace c = false := by
    intro c hc
    have hstart : ("2001:db8::".toList.all fun c => !isSpace c) = true := by decide
    rw [String.toList_append, List.mem_append] at hc
    rcases hc with hc | hc
    · simpa using List.all_eq_true.mp hstart c hc
    · rw [Nat.toString_eq_ofList_toDigits, String.toList_ofList] at hc
      exact isSpace_of_isDigit (Nat.isDigit_of_mem_toDigits (by decide) (by decide) hc)
  have hne : "2001:db8::" ++ toString i ≠ "" := by simp
  have htruthy : (unanswered i).ipAddress.truthy = true := by
    simp [unanswered, Json.truthy]
  rw [LookupCall.key, Json.orElse, if_pos htruthy]
  simp only [unanswered, str_str, strip, stripChars_of_noSpace hchars, String.ofList_toList]

theorem unanswered_key_inj {py : Python} {i j : Nat}
    (h : (unanswered i).key py = (unanswered j).key py) : i = j := by
  rw [unanswered_key, unanswered_key, String.append_right_inj] at h
  have hdigits : Nat.ofDigitChars 10 (toString i).toList 0 =
      Nat.ofDigitChars 10 (toString j).toList 0 := by rw [h]
  simpa [Nat.toString_eq_ofList_toDigits] using hdigits

/-- The negative cache holds the first `n` addresses without an answer, and nothing else is
    cached. -/
structure Filled (py : Python) (n : Nat) (s : GeoState) : Prop where
  cache : s.geoCache = ∅
  size : size s.geoNegativeCache = n
  keys : ∀ k ∈ s.geoNegativeCache, ∃ i < n, k = (unanswered i).key py

theorem Filled.notMem {n : Nat} (h : Filled py n s) :
    (unanswered n).key py ∉ s.geoNegativeCache := by
  intro hmem
  obtain ⟨i, hi, hkey⟩ := h.keys _ hmem
  exact absurd (unanswered_key_inj hkey) (by omega)

theorem Filled.uncached {n : Nat} (h : Filled py n s) :
    (unanswered n).key py ≠ "" ∧ answeredFromCache py s (unanswered n) = false := by
  have hnegative : s.geoNegativeCache.lookup ((unanswered n).key py) = none :=
    AList.lookup_eq_none.mpr h.notMem
  constructor
  · rw [unanswered_key]
    simp
  · simp [answeredFromCache, liveNegativeEntryAt?, h.cache, hnegative]

/-- One more lookup without an answer writes one more entry. -/
theorem Filled.step {n : Nat} (h : Filled py n s) (hn : n < maxEntries) :
    Filled py (n + 1) (stepLookup py config s (unanswered n)) := by
  obtain ⟨hblank, huncached⟩ := h.uncached
  have hnegative : s.geoNegativeCache.lookup ((unanswered n).key py) = none :=
    AList.lookup_eq_none.mpr h.notMem
  have hwritten : ∃ entry, (stepLookup py config s (unanswered n)).geoCache = ∅ ∧
      (stepLookup py config s (unanswered n)).geoNegativeCache =
        store maxEntries s.geoNegativeCache ((unanswered n).key py) entry := by
    simp only [stepLookup, lookupIpLocation, if_neg hblank, h.cache, AList.lookup_empty,
      liveNegativeEntryAt?, hnegative, Option.filter_none, lookupUncached,
      erase_of_notMem h.notMem]
    split
    · rw [cacheUnknownLocation_snd]
      exact ⟨_, rfl, rfl⟩
    · simp only [askProvider, unanswered, cacheUnknownLocation_snd]
      exact ⟨_, rfl, rfl⟩
  obtain ⟨entry, hcache, hstore⟩ := hwritten
  have hroom : Caches.size s.geoNegativeCache < maxEntries := by
    rw [h.size]
    exact hn
  refine ⟨hcache, ?_, ?_⟩
  · rw [hstore, size_store_of_lt h.notMem hroom, h.size]
  · intro k hk
    rw [hstore] at hk
    rcases mem_store hk with rfl | hk
    · exact ⟨n, by omega, rfl⟩
    · obtain ⟨i, hi, rfl⟩ := h.keys k hk
      exact ⟨i, by omega, rfl⟩

theorem filled_after (py : Python) (config : GeoConfig) {n : Nat} (hn : n ≤ maxEntries) :
    Filled py n (Runs.after (stepLookup py config) GeoState.initial
      ((List.range n).map unanswered)) := by
  induction n with
  | zero => exact ⟨rfl, rfl, fun k hk => absurd hk (AList.notMem_empty k)⟩
  | succ n ih =>
    rw [List.range_succ, List.map_append, Runs.after_append]
    exact (ih (by omega)).step (by omega)

theorem sound_after (py : Python) (config : GeoConfig) (calls : List LookupCall) :
    Sound (Runs.after (stepLookup py config) GeoState.initial calls) :=
  @Runs.invariant _ _ (stepLookup py config) Sound (fun _ _ => True)
    (fun s call hs _ => (lookup_spec py config s call hs).1) _ sound_initial calls
    (Runs.along_of_forall (fun _ _ => trivial) _ _)

theorem filled_overflows {s : GeoState} (h : Filled py maxEntries s) :
    Overflows py s (unanswered maxEntries) := by
  refine ⟨h.uncached.1, h.uncached.2, ?_, .inr rfl⟩
  rw [erase_of_notMem h.notMem, h.size]

/-- The last of 5001 lookups of different addresses that the provider does not answer raises. -/
theorem unanswered_not_meets (py : Python) (config : GeoConfig) :
    ¬ Runs.Along (stepLookup py config) (Meets py config) GeoState.initial
      ((List.range (maxEntries + 1)).map unanswered) := by
  intro h
  rw [List.range_succ, List.map_append, Runs.along_append] at h
  have hsound := sound_after py config ((List.range maxEntries).map unanswered)
  have hfilled := filled_after py config (le_refl maxEntries)
  exact (lookup_spec py config _ _ hsound).2.mp h.2.1 (filled_overflows hfilled)

theorem unanswered_lookups_raise :
    ¬ Runs.Along (stepLookup ⟨fun _ => "", fun _ => "", fun _ _ => .ok none⟩ defaultConfig)
      (Meets ⟨fun _ => "", fun _ => "", fun _ _ => .ok none⟩ defaultConfig) GeoState.initial
      ((List.range (maxEntries + 1)).map unanswered) :=
  unanswered_not_meets _ _

end SiemDashboard.LocationCache
