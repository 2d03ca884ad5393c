import SiemDashboard.Core.BriefingQueries
import SiemDashboard.Verification.StepTrail

/-!
# Comparison with earlier investigations

Which earlier investigation of an entity the deduplication of candidates compares with.  The rows come
newest first, and a dict that is built from them keeps the last one of a key.

* **Results** — `Recorded`, `IsLatest`, `IsOldest`.
* **Lookup** — `lookup_recentDedupFingerprints`, `oldest_of_lookup`, `exists_lookup_eq`.
* **Result** — `DedupAsClaimed`, `OldestLikeLatest`, `dedup_compares_latest`, and evidence that changes.
-/

namespace SiemDashboard.BriefingInvestigation

open Dicts Python Queries StepTrail

/-! ## Results -/

section Results

variable (render : RowTexts) (results : List CandidateResult) (scheduleId before : Int)
  (budget : InvestigationBudget)

/-- The results in the horizon. -/
def recentResults : List CandidateResult :=
  results.filter (isRecentResult scheduleId before budget)

/-- The result is one of the key in the horizon, with the fingerprint. -/
def Recorded (key fingerprint : String) (result : CandidateResult) : Prop :=
  result ∈ recentResults results scheduleId before budget ∧
    result.entry? render = some (key, fingerprint)

/-- The fingerprint is one of those that were recorded last for the key. -/
def IsLatest (key fingerprint : String) : Prop :=
  ∃ result, Recorded render results scheduleId before budget key fingerprint result ∧
    ∀ other fingerprint', Recorded render results scheduleId before budget key fingerprint' other →
      other.createdAt ≤ result.createdAt

/-- The fingerprint is one of those that were recorded first for the key. -/
def IsOldest (key fingerprint : String) : Prop :=
  ∃ result, Recorded render results scheduleId before budget key fingerprint result ∧
    ∀ other fingerprint', Recorded render results scheduleId before budget key fingerprint' other →
      result.createdAt ≤ other.createdAt

end Results

/-! ## Lookup -/

section Lookup

variable {render : RowTexts} {results : List CandidateResult} {scheduleId before : Int}
  {budget : InvestigationBudget} {query : NewestFirst CandidateResult.createdAt} {key : String}

/-- The last row of a key is what is found. -/
theorem lookup_recentDedupFingerprints
    (hfew : (recentResults results scheduleId before budget).length ≤ 500) :
    (recentDedupFingerprints render query results scheduleId before budget).lookup key =
      ((((query.order (recentResults results scheduleId before budget)).filterMap
        (CandidateResult.entry? render)).reverse.find? fun entry => entry.1 = key).map Prod.snd) := by
  have htake : (query.order (recentResults results scheduleId before budget)).take 500 =
      query.order (recentResults results scheduleId before budget) := by
    rw [List.take_of_length_le]
    rw [(query.perm _).length_eq]
    exact hfew
  unfold recentDedupFingerprints
  rw [lookup_ofWrites]
  change (((((query.order (recentResults results scheduleId before budget)).take 500).filterMap
    (CandidateResult.entry? render)).reverse.find? _).map _) = _
  rw [htake]

/-- What a list without the key at its end has for it. -/
theorem find?_reverse_filterMap {α β : Type} {f : α → Option β} {p : β → Bool} {newer older : List α}
    {a : α} {b : β} (hf : f a = some b) (hp : p b = true)
    (holder : ∀ x ∈ older, ∀ y, f x = some y → p y = false) :
    ((newer ++ a :: older).filterMap f).reverse.find? p = some b := by
  have hnone : ((older.filterMap f).reverse.find? p) = none := by
    rw [List.find?_eq_none]
    intro y hy
    obtain ⟨x, hx, hxy⟩ := List.mem_filterMap.mp (List.mem_reverse.mp hy)
    rw [holder x hx y hxy]
    simp
  rw [List.filterMap_append, List.filterMap_cons, hf, List.reverse_append, List.reverse_cons,
    List.append_assoc, List.find?_append, hnone, Option.none_or]
  simp [hp]

/-- The last element for which there is a value, split off. -/
theorem exists_split_of_find? {α β : Type} {f : α → Option β} {p : β → Bool} {l : List α} {b : β}
    (h : (l.filterMap f).reverse.find? p = some b) :
    ∃ newer a older, l = newer ++ a :: older ∧ f a = some b ∧
      ∀ x ∈ older, ∀ y, f x = some y → p y = false := by
  induction l using List.reverseRecOn with
  | nil => cases h
  | append_singleton l x ih =>
    rw [List.filterMap_append, List.filterMap_cons, List.filterMap_nil, List.reverse_append,
      List.find?_append] at h
    cases hx : f x with
    | none =>
      rw [hx] at h
      obtain ⟨newer, a, older, rfl, ha, holder⟩ := ih h
      refine ⟨newer, a, older ++ [x], by simp, ha, fun x' hx' y hy => ?_⟩
      rcases List.mem_append.mp hx' with hx' | hx'
      · exact holder x' hx' y hy
      · rw [List.mem_singleton.mp hx', hx] at hy
        cases hy
    | some y =>
      rw [hx, List.reverse_singleton, List.find?_singleton] at h
      by_cases hy : p y = true
      · rw [if_pos hy, Option.some_or] at h
        exact ⟨l, x, [], rfl, hx.trans h, nofun⟩
      · rw [if_neg hy, Option.none_or] at h
        obtain ⟨newer, a, older, rfl, ha, holder⟩ := ih h
        refine ⟨newer, a, older ++ [x], by simp, ha, fun x' hx' y' hy' => ?_⟩
        rcases List.mem_append.mp hx' with hx' | hx'
        · exact holder x' hx' y' hy'
        · rw [List.mem_singleton.mp hx', hx] at hy'
          rw [← Option.some.inj hy']
          exact Bool.not_eq_true _ ▸ hy

/-- What is found is a fingerprint that was recorded first. -/
theorem oldest_of_lookup (hfew : (recentResults results scheduleId before budget).length ≤ 500)
    {fingerprint : String}
    (h : (recentDedupFingerprints render query results scheduleId before budget).lookup key =
      some fingerprint) : IsOldest render results scheduleId before budget key fingerprint := by
  rw [lookup_recentDedupFingerprints hfew, Option.map_eq_some_iff] at h
  obtain ⟨entry, hfind, hfingerprint⟩ := h
  have hkey : entry.1 = key := by simpa using List.find?_some hfind
  obtain ⟨newer, result, older, horder, hentry, holder⟩ := exists_split_of_find? hfind
  have hentry' : result.entry? render = some (key, fingerprint) := by
    rw [hentry, ← hkey, ← hfingerprint]
  have hmem (other : CandidateResult) :
      other ∈ recentResults results scheduleId before budget ↔ other ∈ newer ++ result :: older := by
    rw [← horder]
    exact query.mem_order.symm
  refine ⟨result, ⟨(hmem result).mpr (by simp), hentry'⟩, fun other fingerprint' hother => ?_⟩
  have hsorted := query.sorted (recentResults results scheduleId before budget)
  rw [horder, List.pairwise_append] at hsorted
  rcases List.mem_append.mp ((hmem other).mp hother.1) with hnewer | hrest
  · exact hsorted.2.2 other hnewer result List.mem_cons_self
  · rcases List.mem_cons.mp hrest with rfl | holder'
    · exact le_refl _
    · have habsent := holder other holder' _ hother.2
      simp at habsent

/-- A fingerprint that was recorded first may be what is found. -/
theorem exists_lookup_eq (hfew : (recentResults results scheduleId before budget).length ≤ 500)
    {fingerprint : String} (h : IsOldest render results scheduleId before budget key fingerprint) :
    ∃ query, (recentDedupFingerprints render query results scheduleId before budget).lookup key =
      some fingerprint := by
  obtain ⟨result, ⟨hmem, hentry⟩, holdest⟩ := h
  obtain ⟨query, newer, older, horder, holder⟩ :=
    @NewestFirst.exists_before_older _ CandidateResult.createdAt _ _ hmem
  refine ⟨query, ?_⟩
  rw [lookup_recentDedupFingerprints hfew, horder,
    @find?_reverse_filterMap _ _ _ (fun entry => decide (entry.1 = key)) newer older result _ hentry
      (by simp), Option.map_some]
  intro other hother entry hother'
  have hlt := holder other hother
  by_contra hkey
  have hkey : entry.1 = key := by simpa using hkey
  have hrecorded : Recorded render results scheduleId before budget key entry.2 other := by
    refine ⟨?_, by rw [hother', ← hkey]⟩
    rw [← query.mem_order, horder]
    exact List.mem_append_right _ (List.mem_cons_of_mem _ hother)
  have hle := holdest other entry.2 hrecorded
  omega

end Lookup

/-! ## Result -/

section Result

variable (texts : BriefingTexts) (render : RowTexts) (results : List CandidateResult)
  (scheduleId before : Int) (budget : InvestigationBudget) (candidate : Candidate)

/-- However the database orders rows of one time and whatever the evidence of the entity is now, its
    candidate is a duplicate just where the fingerprint recorded last is the one it has. -/
def DedupAsClaimed : Prop :=
  ∀ query fingerprint,
    Candidate.isDuplicate texts { candidate with fingerprint := fingerprint }
        (fun key => (recentDedupFingerprints render query results scheduleId before budget).lookup key) =
        true ↔
      IsLatest render results scheduleId before budget (candidate.dedupKey texts) fingerprint

/-- What was recorded first for the entity in the horizon is what was recorded last. -/
def OldestLikeLatest : Prop :=
  ∀ first last, IsOldest render results scheduleId before budget (candidate.dedupKey texts) first →
    IsLatest render results scheduleId before budget (candidate.dedupKey texts) last → first = last

variable {texts render results scheduleId before budget candidate}

theorem isDuplicate_iff {query : NewestFirst CandidateResult.createdAt} {fingerprint : String} :
    Candidate.isDuplicate texts { candidate with fingerprint := fingerprint }
        (fun key => (recentDedupFingerprints render query results scheduleId before budget).lookup key) =
        true ↔
      (recentDedupFingerprints render query results scheduleId before budget).lookup
        (candidate.dedupKey texts) = some fingerprint :=
  beq_iff_eq

/-- Where there is a result of the key, there is one that was recorded last. -/
theorem IsOldest.exists_latest {key fingerprint : String}
    (h : IsOldest render results scheduleId before budget key fingerprint) :
    ∃ last, IsLatest render results scheduleId before budget key last := by
  obtain ⟨result, hresult, -⟩ := h
  let ofKey := (recentResults results scheduleId before budget).filter fun other =>
    (other.entry? render).any fun entry => entry.1 = key
  have hofKey (other : CandidateResult) :
      other ∈ ofKey ↔ ∃ f, Recorded render results scheduleId before budget key f other := by
    change other ∈ List.filter _ _ ↔ _
    rw [List.mem_filter]
    constructor
    · intro hother
      obtain ⟨hmem, hkey⟩ := hother
      obtain ⟨entry, hentry, hkey⟩ := (Option.any_eq_true ..).mp hkey
      refine ⟨entry.2, hmem, ?_⟩
      rw [hentry, ← of_decide_eq_true hkey]
    · rintro ⟨f, hmem, hentry⟩
      refine ⟨hmem, ?_⟩
      rw [hentry]
      simp
  have hne : ofKey ≠ [] := List.ne_nil_of_mem ((hofKey result).mpr ⟨fingerprint, hresult⟩)
  obtain ⟨row, hrow, hnewest⟩ := exists_newest CandidateResult.createdAt hne
  obtain ⟨last, hlast⟩ := (hofKey row).mp hrow
  exact ⟨last, row, hlast, fun other f hother => hnewest other ((hofKey other).mpr ⟨f, hother⟩)⟩

/-- Where nothing is found for a key, nothing was recorded for it. -/
theorem not_recorded_of_lookup {query : NewestFirst CandidateResult.createdAt}
    (hfew : (recentResults results scheduleId before budget).length ≤ 500) {key : String}
    (h : (recentDedupFingerprints render query results scheduleId before budget).lookup key = none)
    (fingerprint : String) (result : CandidateResult) :
    ¬ Recorded render results scheduleId before budget key fingerprint result := by
  intro hrecorded
  rw [lookup_recentDedupFingerprints hfew, Option.map_eq_none_iff, List.find?_eq_none] at h
  have hentry := h (key, fingerprint) (List.mem_reverse.mpr
    (List.mem_filterMap.mpr ⟨result, query.mem_order.mpr hrecorded.1, hrecorded.2⟩))
  simp at hentry

/-- **Deduplication.**  With at most five hundred results in the horizon, the candidate of an entity is
    compared with the latest look at it just where that found what the first one in the horizon did. -/
theorem dedup_compares_latest (texts : BriefingTexts) (render : RowTexts)
    {results : List CandidateResult} {scheduleId before : Int} {budget : InvestigationBudget}
    (hfew : (recentResults results scheduleId before budget).length ≤ 500) (candidate : Candidate) :
    DedupAsClaimed texts render results scheduleId before budget candidate ↔
      OldestLikeLatest texts render results scheduleId before budget candidate := by
  constructor
  · intro h first last hfirst hlast
    obtain ⟨query, hquery⟩ := exists_lookup_eq hfew hfirst
    have hfound := isDuplicate_iff.mp ((h query last).mpr hlast)
    rw [hquery] at hfound
    exact Option.some.inj hfound
  · intro h query fingerprint
    rw [isDuplicate_iff]
    constructor
    · intro hfound
      have hfirst := oldest_of_lookup hfew hfound
      obtain ⟨last, hlast⟩ := hfirst.exists_latest
      rw [h fingerprint last hfirst hlast]
      exact hlast
    · intro hlast
      cases hfound : (recentDedupFingerprints render query results scheduleId before budget).lookup
          (candidate.dedupKey texts) with
      | none =>
        obtain ⟨result, hrecorded, -⟩ := hlast
        exact absurd hrecorded (not_recorded_of_lookup hfew hfound fingerprint result)
      | some first => rw [h first fingerprint (oldest_of_lookup hfew hfound) hlast]

end Result

/-- Renderings that tell no values apart. -/
def plainRows : RowTexts := ⟨fun _ => "", fun _ => ""⟩

/-- A successful investigation of alert 7, with its evidence and time. -/
def alertResult (fingerprint : String) (time : Int) : CandidateResult where
  scheduleId := 1
  startedAt := time
  runStatus := "success"
  stepType := "investigation_candidate_result"
  stepStatus := "success"
  sanitizedInput := .obj
    [("dedup_key", .str "scheduled-soc-investigationalert7"), ("evidence_fingerprint", .str fingerprint)]
  createdAt := time

theorem recentResults_alertResults (first last : String) :
    recentResults [alertResult first 1, alertResult last 2] 1 3 defaultBudget =
      [alertResult first 1, alertResult last 2] := by
  have hrecent : ∀ fingerprint, isRecentResult 1 3 defaultBudget (alertResult fingerprint 1) = true ∧
      isRecentResult 1 3 defaultBudget (alertResult fingerprint 2) = true :=
    fun _ => ⟨rfl, rfl⟩
  unfold recentResults
  rw [List.filter_cons_of_pos (hrecent first).1, List.filter_cons_of_pos (hrecent last).2]
  rfl

/-- Evidence that did not change is compared with the latest look. -/
theorem dedup_compares_latest_unchanged :
    DedupAsClaimed plainTexts plainRows [alertResult "a" 1, alertResult "a" 2] 1 3 defaultBudget
        windowAlert ↔
      OldestLikeLatest plainTexts plainRows [alertResult "a" 1, alertResult "a" 2] 1 3 defaultBudget
        windowAlert :=
  dedup_compares_latest plainTexts plainRows (by decide +kernel) windowAlert

/-- Evidence that changed between two looks is compared with the first one. -/
theorem dedup_compares_oldest :
    ¬ DedupAsClaimed plainTexts plainRows [alertResult "a" 1, alertResult "b" 2] 1 3 defaultBudget
      windowAlert := by
  intro h
  have hlatest : IsLatest plainRows [alertResult "a" 1, alertResult "b" 2] 1 3 defaultBudget
      (windowAlert.dedupKey plainTexts) "b" := by
    have hresults := recentResults_alertResults "a" "b"
    refine ⟨alertResult "b" 2, ⟨by rw [hresults]; simp, by decide +kernel⟩, ?_⟩
    intro other fingerprint hother
    have hmem := hother.1
    rw [hresults, List.mem_cons, List.mem_singleton] at hmem
    rcases hmem with rfl | rfl
    · decide
    · decide
  have hduplicate := (h (.stable CandidateResult.createdAt) "b").mpr hlatest
  revert hduplicate
  decide +kernel

end SiemDashboard.BriefingInvestigation
