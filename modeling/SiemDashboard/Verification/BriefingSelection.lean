import Mathlib.Data.List.Induction
import Mathlib.Data.List.Nodup
import Mathlib.Data.String.Basic
import SiemDashboard.Verification.BriefingDedup

/-!
# The candidates that a briefing selects

Each query ranks its rows by urgency and cuts them one above the budget.  The candidates of all types are then
listed by type and by id as a text, and cut to the budget.

* **Rows** — `urgentFirst_trans`, `mostUrgent_pairwise`, `mostUrgent_distinct`.
* **Listing** — `idText`, `listed`, `listed_sorted`, `before_trans`, `dedupedCandidates_eq`.
* **Plan** — `rawCandidates`, `orderedCandidates`, `orderedCandidates_eq`, `mem_selected_iff`.
* **Result** — `RespectsUrgency`, `KeepsMostUrgent`, `selection_respects_urgency`, and a critical
  alert that is left out.
-/

namespace SiemDashboard.BriefingInvestigation

open Python Tables StepTrail

/-! ## Rows -/

section Rows

variable {ρ : Type} {rank : ρ → Nat} {time : ρ → Int} {id : ρ → Nat} {rows : List ρ}

theorem urgentFirst_total (x y : ρ) : urgentFirst rank time id x y ∨ urgentFirst rank time id y x := by
  unfold urgentFirst
  omega

theorem urgentFirst_trans (x y z : ρ) (hxy : urgentFirst rank time id x y)
    (hyz : urgentFirst rank time id y z) : urgentFirst rank time id x z := by
  unfold urgentFirst at hxy hyz ⊢
  omega

/-- The rows come by rank. -/
theorem mostUrgent_pairwise :
    (mostUrgent rank time id rows).Pairwise fun x y => rank x ≤ rank y := by
  have hsorted := @List.pairwise_insertionSort _ (urgentFirst rank time id) _ ⟨urgentFirst_total⟩
    ⟨urgentFirst_trans⟩ rows
  refine hsorted.imp fun {x y} h => ?_
  unfold urgentFirst at h
  omega

theorem mostUrgent_perm : (mostUrgent rank time id rows).Perm rows := List.perm_insertionSort _ _

/-- The rows of a table come with distinct ids. -/
theorem mostUrgent_distinct {table : Table ρ id} (p : ρ → Bool) :
    (mostUrgent rank time id (table.rows.filter p)).Pairwise fun x y => id x ≠ id y := by
  have hfilter : (table.rows.filter p).Sublist table.rows := List.filter_sublist
  exact (mostUrgent_perm.pairwise_iff fun {x y} h => Ne.symm h).mpr
    (table.rows_distinct.sublist hfilter)

end Rows

/-! ## Listing -/

section Listing

variable {ρ : Type} {id : ρ → Nat} {rows : List ρ}

/-- The texts of numbers tell them apart. -/
theorem toString_nat_inj {m n : Nat} (h : toString m = toString n) : m = n := by
  have hdecimal := Digits.ascii.decimal_ascii
  have hint := congrArg (Python.int Digits.ascii.decimal) h
  rw [int_toString hdecimal, int_toString hdecimal] at hint
  exact Int.ofNat.inj (Option.some.inj hint)

def idText (id : ρ → Nat) (row : ρ) : String := toString (id row)

/-- The order of ids as texts. -/
def byIdText (id : ρ → Nat) (x y : ρ) : Prop := idText id x ≤ idText id y

instance (id : ρ → Nat) : DecidableRel (byIdText id) :=
  fun x y => inferInstanceAs (Decidable (idText id x ≤ idText id y))

/-- The rows in the order of their ids as texts. -/
def listed (id : ρ → Nat) (rows : List ρ) : List ρ := rows.insertionSort (byIdText id)

theorem listed_perm : (listed id rows).Perm rows := List.perm_insertionSort _ _

/-- Rows of distinct ids are listed by growing texts. -/
theorem listed_sorted (hdistinct : rows.Pairwise fun x y => id x ≠ id y) :
    (listed id rows).Pairwise fun x y => idText id x < idText id y := by
  have hsorted := @List.pairwise_insertionSort _ (byIdText id) _
    ⟨fun x y => le_total (idText id x) (idText id y)⟩
    ⟨fun _ _ _ hxy hyz => le_trans hxy hyz⟩ rows
  have hlisted : (listed id rows).Pairwise fun x y => id x ≠ id y :=
    (listed_perm.pairwise_iff fun {x y} h => Ne.symm h).mpr hdistinct
  refine (hsorted.and hlisted).imp fun {x y} h => lt_of_le_of_ne h.1 fun htext => h.2 ?_
  exact toString_nat_inj htext

theorem before_total (x y : Candidate) : Candidate.before x y ∨ Candidate.before y x := by
  unfold Candidate.before
  rcases lt_trichotomy x.entityType y.entityType with h | h | h
  · exact .inl (.inl h)
  · exact (le_total x.entityId y.entityId).imp (fun hid => .inr ⟨h, hid⟩)
      fun hid => .inr ⟨h.symm, hid⟩
  · exact .inr (.inl h)

theorem before_trans (x y z : Candidate) (hxy : Candidate.before x y) (hyz : Candidate.before y z) :
    Candidate.before x z := by
  unfold Candidate.before at hxy hyz ⊢
  rcases hxy with hxy | ⟨htype, hid⟩
  · rcases hyz with hyz | ⟨htype', -⟩
    · exact .inl (lt_trans hxy hyz)
    · exact .inl (htype' ▸ hxy)
  · rcases hyz with hyz | ⟨htype', hid'⟩
    · exact .inl (htype ▸ hyz)
    · exact .inr ⟨htype.trans htype', le_trans hid hid'⟩

/-- Two candidates before each other are of one entity. -/
theorem entity_eq_of_before {x y : Candidate} (hxy : Candidate.before x y)
    (hyx : Candidate.before y x) : x.entityType = y.entityType ∧ x.entityId = y.entityId := by
  unfold Candidate.before at hxy hyx
  rcases hxy with hxy | ⟨htype, hid⟩
  · rcases hyx with hyx | ⟨htype', -⟩
    · exact absurd (lt_trans hxy hyx) (lt_irrefl _)
    · rw [htype'] at hxy
      exact absurd hxy (lt_irrefl _)
  · rcases hyx with hyx | ⟨-, hid'⟩
    · rw [htype] at hyx
      exact absurd hyx (lt_irrefl _)
    · exact ⟨htype, le_antisymm hid hid'⟩

/-- Candidates of different keys are all kept. -/
theorem dedupedCandidates_eq {texts : BriefingTexts} {raw : List Candidate}
    (h : raw.Pairwise fun x y => x.dedupKey texts ≠ y.dedupKey texts) :
    dedupedCandidates texts raw = raw := by
  induction raw using List.reverseRecOn with
  | nil => rfl
  | append_singleton raw candidate ih =>
    rw [List.pairwise_append] at h
    have hkept : dedupedCandidates texts raw = raw := ih h.1
    have hnew : (raw.any fun c => c.dedupKey texts = candidate.dedupKey texts) = false := by
      rw [List.any_eq_false]
      intro c hc
      simpa using h.2.2 c hc candidate (List.mem_singleton_self candidate)
    unfold dedupedCandidates at hkept ⊢
    rw [List.foldl_append, hkept, List.foldl_cons, List.foldl_nil, hnew]
    rfl

end Listing

/-! ## Plan -/

section Plan

/-- The candidates of rows, all of one type. -/
structure Lists {ρ : Type} (id : ρ → Nat) (candidate : ρ → Candidate) (type : String) : Prop where
  type_eq : ∀ row, (candidate row).entityType = type
  id_eq : ∀ row, (candidate row).entityId = idText id row

variable {ρ : Type} {id : ρ → Nat} {candidate : ρ → Candidate} {type : String} {rows : List ρ}

theorem Lists.pairwise (hlists : Lists id candidate type)
    (hdistinct : rows.Pairwise fun x y => id x ≠ id y) :
    ((listed id rows).map candidate).Pairwise Candidate.before := by
  refine List.pairwise_map.mpr ((listed_sorted hdistinct).imp fun {x y} h => .inr ⟨?_, ?_⟩)
  · rw [hlists.type_eq, hlists.type_eq]
  · rw [hlists.id_eq, hlists.id_eq]
    exact h.le

/-- Two candidates are of different entities. -/
def Apart (x y : Candidate) : Prop := x.entityType = y.entityType → x.entityId ≠ y.entityId

theorem Lists.apart (hlists : Lists id candidate type)
    (hdistinct : rows.Pairwise fun x y => id x ≠ id y) : (rows.map candidate).Pairwise Apart := by
  refine List.pairwise_map.mpr (hdistinct.imp fun {x y} h _ hid => h ?_)
  rw [hlists.id_eq, hlists.id_eq] at hid
  exact toString_nat_inj hid

theorem Lists.type_of_mem (hlists : Lists id candidate type) {c : Candidate}
    (h : c ∈ rows.map candidate) : c.entityType = type := by
  obtain ⟨row, -, rfl⟩ := List.mem_map.mp h
  exact hlists.type_eq row

/-- Among candidates of other types and those of some of its rows, a table finds the candidate of a row
    just where the row is. -/
theorem Lists.mem_iff (hlists : Lists id candidate type) (others : List Candidate) (all kept : List ρ)
    (hothers : ∀ c ∈ others, c.entityType ≠ type)
    (hdistinct : all.Pairwise fun x y => id x ≠ id y) (hkept : ∀ row ∈ kept, row ∈ all) {row : ρ}
    (hrow : row ∈ all) {selected : List Candidate}
    (hselected : ∀ c, c ∈ selected ↔ c ∈ kept.map candidate ∨ c ∈ others) :
    candidate row ∈ selected ↔ row ∈ kept := by
  rw [hselected]
  constructor
  · rintro (hmem | hmem)
    · obtain ⟨other, hother, heq⟩ := List.mem_map.mp hmem
      have hid : idText id other = idText id row := by
        rw [← hlists.id_eq, ← hlists.id_eq, heq]
      have hnodup : (all.map id).Nodup := List.pairwise_map.mpr hdistinct
      have hsame : other = row :=
        List.inj_on_of_nodup_map hnodup (hkept other hother) hrow (toString_nat_inj hid)
      rw [← hsame]
      exact hother
    · exact absurd (hlists.type_eq row) (hothers _ hmem)
  · intro hmem
    exact .inl (List.mem_map_of_mem hmem)

instance : Std.Symm Apart := ⟨fun _ _ h htype hid => h htype.symm hid.symm⟩

theorem Apart.of_types {x y : Candidate} {type type' : String} (hx : x.entityType = type)
    (hy : y.entityType = type') (hne : type ≠ type') : Apart x y := by
  intro htype
  rw [hx, hy] at htype
  exact absurd htype hne

theorem before_of_types {x y : Candidate} {type type' : String} (hx : x.entityType = type)
    (hy : y.entityType = type') (hlt : type < type') : Candidate.before x y := by
  unfold Candidate.before
  rw [hx, hy]
  exact .inl hlt

variable (texts : BriefingTexts) (render : RowTexts) (situation : Situation) (start stop : Int)
  (budget : InvestigationBudget)

theorem alertCandidate_lists : Lists AlertRow.id (alertCandidate texts render) "alert" :=
  ⟨fun _ => rfl, fun _ => rfl⟩

theorem incidentCandidate_lists : Lists IncidentRow.id (incidentCandidate texts render) "incident" :=
  ⟨fun _ => rfl, fun _ => rfl⟩

theorem reconCandidate_lists : Lists ReconRow.id (reconCandidate texts render) "recon_activity" :=
  ⟨fun _ => rfl, fun _ => rfl⟩

theorem indicatorCandidate_lists : Lists IndicatorRow.id (indicatorCandidate texts render) "indicator" :=
  ⟨fun _ => rfl, fun _ => rfl⟩

/-- The alerts that their query returns. -/
def topAlerts : List AlertRow := (windowAlerts situation start stop).take (budget.maxEntities + 1)

/-- The incidents that their query returns. -/
def topIncidents : List IncidentRow := (windowIncidents situation stop).take (budget.maxEntities + 1)

/-- The recon activities that their query returns. -/
def topReconActivities : List ReconRow :=
  (windowReconActivities situation start stop).take (budget.maxEntities + 1)

/-- The indicators that their query returns. -/
def topIndicators : List IndicatorRow :=
  (watchedIndicators situation stop).take (budget.maxEntities + 1)

/-- The candidates as the queries return them. -/
def rawCandidates : List Candidate :=
  (topAlerts situation start stop budget).map (alertCandidate texts render) ++
    (topIncidents situation stop budget).map (incidentCandidate texts render) ++
    (topReconActivities situation start stop budget).map (reconCandidate texts render) ++
    (topIndicators situation stop budget).map (indicatorCandidate texts render)

/-- The candidates by type and by id. -/
def orderedCandidates : List Candidate :=
  (listed AlertRow.id (topAlerts situation start stop budget)).map (alertCandidate texts render) ++
    ((listed IncidentRow.id (topIncidents situation stop budget)).map (incidentCandidate texts render) ++
      ((listed IndicatorRow.id (topIndicators situation stop budget)).map
          (indicatorCandidate texts render) ++
        (listed ReconRow.id (topReconActivities situation start stop budget)).map
          (reconCandidate texts render)))

/-- The candidates after those of the incidents. -/
def afterIncidents : List Candidate :=
  (listed IndicatorRow.id (topIndicators situation stop budget)).map (indicatorCandidate texts render) ++
    (listed ReconRow.id (topReconActivities situation start stop budget)).map
      (reconCandidate texts render)

theorem orderedCandidates_split : orderedCandidates texts render situation start stop budget =
    (listed AlertRow.id (topAlerts situation start stop budget)).map (alertCandidate texts render) ++
      ((listed IncidentRow.id (topIncidents situation stop budget)).map
          (incidentCandidate texts render) ++
        afterIncidents texts render situation start stop budget) := rfl

variable {texts render situation start stop budget} in
theorem type_of_mem_afterIncidents {c : Candidate}
    (h : c ∈ afterIncidents texts render situation start stop budget) :
    c.entityType = "indicator" ∨ c.entityType = "recon_activity" :=
  (List.mem_append.mp h).imp (indicatorCandidate_lists texts render).type_of_mem
    (reconCandidate_lists texts render).type_of_mem

theorem topAlerts_distinct :
    (topAlerts situation start stop budget).Pairwise fun x y => x.id ≠ y.id :=
  (mostUrgent_distinct _).sublist (List.take_sublist _ _)

theorem topIncidents_distinct :
    (topIncidents situation stop budget).Pairwise fun x y => x.id ≠ y.id :=
  (mostUrgent_distinct _).sublist (List.take_sublist _ _)

theorem topReconActivities_distinct :
    (topReconActivities situation start stop budget).Pairwise fun x y => x.id ≠ y.id :=
  (mostUrgent_distinct _).sublist (List.take_sublist _ _)

theorem topIndicators_distinct :
    (topIndicators situation stop budget).Pairwise fun x y => x.id ≠ y.id :=
  (mostUrgent_distinct _).sublist (List.take_sublist _ _)

theorem orderedCandidates_perm :
    (orderedCandidates texts render situation start stop budget).Perm
      (rawCandidates texts render situation start stop budget) := by
  unfold orderedCandidates rawCandidates
  rw [List.append_assoc, List.append_assoc]
  refine (listed_perm.map _).append ((listed_perm.map _).append ?_)
  exact List.perm_append_comm.trans ((listed_perm.map _).append (listed_perm.map _))

theorem orderedCandidates_pairwise :
    (orderedCandidates texts render situation start stop budget).Pairwise Candidate.before := by
  have halert := alertCandidate_lists texts render
  have hincident := incidentCandidate_lists texts render
  have hindicator := indicatorCandidate_lists texts render
  have hrecon := reconCandidate_lists texts render
  unfold orderedCandidates
  rw [List.pairwise_append, List.pairwise_append, List.pairwise_append]
  refine ⟨halert.pairwise (topAlerts_distinct ..), ⟨hincident.pairwise (topIncidents_distinct ..),
    ⟨hindicator.pairwise (topIndicators_distinct ..),
      hrecon.pairwise (topReconActivities_distinct ..), fun x hx y hy => ?_⟩,
    fun x hx y hy => ?_⟩, fun x hx y hy => ?_⟩
  · exact before_of_types (hindicator.type_of_mem hx) (hrecon.type_of_mem hy) (by decide +kernel)
  · rcases List.mem_append.mp hy with hy | hy
    · exact before_of_types (hincident.type_of_mem hx) (hindicator.type_of_mem hy) (by decide +kernel)
    · exact before_of_types (hincident.type_of_mem hx) (hrecon.type_of_mem hy) (by decide +kernel)
  · rcases List.mem_append.mp hy with hy | hy
    · exact before_of_types (halert.type_of_mem hx) (hincident.type_of_mem hy) (by decide +kernel)
    · rcases List.mem_append.mp hy with hy | hy
      · exact before_of_types (halert.type_of_mem hx) (hindicator.type_of_mem hy) (by decide +kernel)
      · exact before_of_types (halert.type_of_mem hx) (hrecon.type_of_mem hy) (by decide +kernel)

theorem rawCandidates_apart :
    (rawCandidates texts render situation start stop budget).Pairwise Apart := by
  have halert := alertCandidate_lists texts render
  have hincident := incidentCandidate_lists texts render
  have hindicator := indicatorCandidate_lists texts render
  have hrecon := reconCandidate_lists texts render
  unfold rawCandidates
  rw [List.pairwise_append, List.pairwise_append, List.pairwise_append]
  refine ⟨⟨⟨halert.apart (topAlerts_distinct ..), hincident.apart (topIncidents_distinct ..),
    fun x hx y hy => ?_⟩, hrecon.apart (topReconActivities_distinct ..), fun x hx y hy => ?_⟩,
    hindicator.apart (topIndicators_distinct ..), fun x hx y hy => ?_⟩
  · exact .of_types (halert.type_of_mem hx) (hincident.type_of_mem hy) (by decide)
  · rcases List.mem_append.mp hx with hx | hx
    · exact .of_types (halert.type_of_mem hx) (hrecon.type_of_mem hy) (by decide)
    · exact .of_types (hincident.type_of_mem hx) (hrecon.type_of_mem hy) (by decide)
  · rcases List.mem_append.mp hx with hx | hx
    · rcases List.mem_append.mp hx with hx | hx
      · exact .of_types (halert.type_of_mem hx) (hindicator.type_of_mem hy) (by decide)
      · exact .of_types (hincident.type_of_mem hx) (hindicator.type_of_mem hy) (by decide)
    · exact .of_types (hrecon.type_of_mem hx) (hindicator.type_of_mem hy) (by decide)

/-- Sorting the candidates of the queries lists them by type and by id. -/
theorem orderedCandidates_eq :
    (rawCandidates texts render situation start stop budget).insertionSort Candidate.before =
      orderedCandidates texts render situation start stop budget := by
  have hperm := orderedCandidates_perm texts render situation start stop budget
  have hsorted := @List.pairwise_insertionSort _ Candidate.before _ ⟨before_total⟩ ⟨before_trans⟩
    (rawCandidates texts render situation start stop budget)
  refine List.Perm.eq_of_pairwise (fun x y hx hy hxy hyx => ?_) hsorted
    (orderedCandidates_pairwise ..) ((List.perm_insertionSort _ _).trans hperm.symm)
  by_contra hne
  obtain ⟨htype, hid⟩ := entity_eq_of_before hxy hyx
  have happart := (rawCandidates_apart texts render situation start stop budget).forall
    ((List.mem_insertionSort _).mp hx) (hperm.mem_iff.mp hy) hne
  exact happart htype hid

end Plan

/-! ## Result -/

section Result

variable (texts : BriefingTexts) (render : RowTexts) (situation : Situation) (start stop : Int)
  (budget : InvestigationBudget)

/-- The keys tell the entities of the queries apart, as SHA-256 does without a collision. -/
def KeysTellApart : Prop :=
  ∀ x ∈ rawCandidates texts render situation start stop budget,
    ∀ y ∈ rawCandidates texts render situation start stop budget,
      x.dedupKey texts = y.dedupKey texts → x.entityType = y.entityType ∧ x.entityId = y.entityId

/-- No alert and no incident that is left out is more urgent than one that is selected. -/
structure RespectsUrgency (selected : List Candidate) : Prop where
  alerts : ∀ a ∈ windowAlerts situation start stop, ∀ b ∈ windowAlerts situation start stop,
    alertCandidate texts render a ∉ selected → alertCandidate texts render b ∈ selected →
      b.rank ≤ a.rank
  incidents : ∀ a ∈ windowIncidents situation stop, ∀ b ∈ windowIncidents situation stop,
    incidentCandidate texts render a ∉ selected → incidentCandidate texts render b ∈ selected →
      b.rank ≤ a.rank

/-- Of the rows of a query, those whose ids come first as texts are the most urgent. -/
def KeepsMostUrgent {ρ : Type} (rank id : ρ → Nat) (top : List ρ) (room : Nat) : Prop :=
  ∀ a ∈ top, ∀ b ∈ top, room ≤ Queries.place (idText id) top a →
    Queries.place (idText id) top b < room → rank b ≤ rank a

variable {texts render situation start stop budget}

/-- The keys keep all candidates. -/
theorem dedupedCandidates_raw (hkeys : KeysTellApart texts render situation start stop budget) :
    dedupedCandidates texts (rawCandidates texts render situation start stop budget) =
      rawCandidates texts render situation start stop budget := by
  refine dedupedCandidates_eq ?_
  refine (rawCandidates_apart texts render situation start stop budget).imp_of_mem
    fun {x y} hx hy happart hkey => ?_
  obtain ⟨htype, hid⟩ := hkeys x hx y hy hkey
  exact happart htype hid

/-- The plan is the first candidates in their order. -/
theorem planInvestigationCandidates_eq
    (hkeys : KeysTellApart texts render situation start stop budget) (ref : Json)
    (findings : Findings) :
    ∃ skipped, planInvestigationCandidates texts
      (situationFindings texts render situation start stop budget findings) ⟨ref, true⟩ budget =
        .ok ((orderedCandidates texts render situation start stop budget).take budget.maxEntities,
          skipped) := by
  have hlimit : max 1 (budget.maxEntities + 1) = budget.maxEntities + 1 := by omega
  have hraw : alertCandidates texts render situation start stop (budget.maxEntities + 1) ++
      incidentCandidates texts render situation stop (budget.maxEntities + 1) ++
      reconCandidates texts render situation start stop (budget.maxEntities + 1) ++
      indicatorCandidates texts render situation stop (budget.maxEntities + 1) =
        rawCandidates texts render situation start stop budget := by
    unfold alertCandidates incidentCandidates reconCandidates indicatorCandidates
    rw [hlimit]
    rfl
  have hordered : (dedupedCandidates texts
      (alertCandidates texts render situation start stop (budget.maxEntities + 1) ++
        incidentCandidates texts render situation stop (budget.maxEntities + 1) ++
        reconCandidates texts render situation start stop (budget.maxEntities + 1) ++
        indicatorCandidates texts render situation stop (budget.maxEntities + 1))).insertionSort
          Candidate.before = orderedCandidates texts render situation start stop budget := by
    rw [hraw, dedupedCandidates_raw hkeys, orderedCandidates_eq]
  rw [← hordered]
  exact ⟨_, rfl⟩

/-- An alert is selected just where its id is among the first ones. -/
theorem alert_selected_iff {row : AlertRow} (hrow : row ∈ windowAlerts situation start stop) :
    alertCandidate texts render row ∈
        (orderedCandidates texts render situation start stop budget).take budget.maxEntities ↔
      row ∈ (listed AlertRow.id (topAlerts situation start stop budget)).take budget.maxEntities := by
  have hincident := incidentCandidate_lists texts render
  have hrest : ∀ c ∈ afterIncidents texts render situation start stop budget,
      c.entityType ≠ "alert" := by
    intro c hc
    rcases type_of_mem_afterIncidents hc with htype | htype
    · rw [htype]
      decide
    · rw [htype]
      decide
  have hothers : ∀ c ∈ ((listed IncidentRow.id (topIncidents situation stop budget)).map
      (incidentCandidate texts render) ++ afterIncidents texts render situation start stop budget).take
        (budget.maxEntities - ((listed AlertRow.id (topAlerts situation start stop budget)).map
          (alertCandidate texts render)).length), c.entityType ≠ "alert" := by
    intro c hc
    rcases List.mem_append.mp (List.mem_of_mem_take hc) with hc | hc
    · rw [hincident.type_of_mem hc]
      decide
    · exact hrest c hc
  refine (alertCandidate_lists texts render).mem_iff _ (windowAlerts situation start stop) _ hothers
    (mostUrgent_distinct _) (fun other hother => ?_) hrow (fun c => ?_)
  · exact List.mem_of_mem_take (listed_perm.mem_iff.mp (List.mem_of_mem_take hother))
  · rw [orderedCandidates_split, List.take_append, List.mem_append, List.map_take]

/-- An incident is selected just where its id is among the first ones that the alerts leave room for. -/
theorem incident_selected_iff {row : IncidentRow} (hrow : row ∈ windowIncidents situation stop) :
    incidentCandidate texts render row ∈
        (orderedCandidates texts render situation start stop budget).take budget.maxEntities ↔
      row ∈ (listed IncidentRow.id (topIncidents situation stop budget)).take
        (budget.maxEntities - (windowAlerts situation start stop).length) := by
  have halert := alertCandidate_lists texts render
  have hroom : budget.maxEntities - ((listed AlertRow.id (topAlerts situation start stop budget)).map
      (alertCandidate texts render)).length =
        budget.maxEntities - (windowAlerts situation start stop).length := by
    rw [List.length_map, listed_perm.length_eq]
    unfold topAlerts
    rw [List.length_take]
    omega
  have hothers : ∀ c ∈ ((listed AlertRow.id (topAlerts situation start stop budget)).map
      (alertCandidate texts render)).take budget.maxEntities ++
        (afterIncidents texts render situation start stop budget).take
          (budget.maxEntities - (windowAlerts situation start stop).length -
            ((listed IncidentRow.id (topIncidents situation stop budget)).map
              (incidentCandidate texts render)).length), c.entityType ≠ "incident" := by
    intro c hc
    rcases List.mem_append.mp hc with hc | hc
    · rw [halert.type_of_mem (List.mem_of_mem_take hc)]
      decide
    · rcases type_of_mem_afterIncidents (List.mem_of_mem_take hc) with htype | htype
      · rw [htype]
        decide
      · rw [htype]
        decide
  refine (incidentCandidate_lists texts render).mem_iff _ (windowIncidents situation stop) _ hothers
    (mostUrgent_distinct _) (fun other hother => ?_) hrow (fun c => ?_)
  · exact List.mem_of_mem_take (listed_perm.mem_iff.mp (List.mem_of_mem_take hother))
  · rw [orderedCandidates_split, List.take_append, List.take_append, hroom, List.mem_append,
      List.mem_append, List.mem_append, List.map_take]
    constructor
    · rintro (hmem | hmem | hmem)
      · exact .inr (.inl hmem)
      · exact .inl hmem
      · exact .inr (.inr hmem)
    · rintro (hmem | hmem | hmem)
      · exact .inr (.inl hmem)
      · exact .inl hmem
      · exact .inr (.inr hmem)

/-- The plan respects urgency just where, of the alerts and of the incidents that the queries return, those
    whose ids come first as texts are the most urgent. -/
theorem selection_respects_urgency
    (hkeys : KeysTellApart texts render situation start stop budget) (ref : Json)
    (findings : Findings) :
    ∃ selected skipped, planInvestigationCandidates texts
        (situationFindings texts render situation start stop budget findings) ⟨ref, true⟩ budget =
          .ok (selected, skipped) ∧
      (RespectsUrgency texts render situation start stop selected ↔
        KeepsMostUrgent AlertRow.rank AlertRow.id
            ((windowAlerts situation start stop).take (budget.maxEntities + 1)) budget.maxEntities ∧
          KeepsMostUrgent IncidentRow.rank IncidentRow.id
            ((windowIncidents situation stop).take (budget.maxEntities + 1))
            (budget.maxEntities - (windowAlerts situation start stop).length)) := by
  obtain ⟨skipped, hplan⟩ := planInvestigationCandidates_eq hkeys ref findings
  have halerts := @Queries.keeps_ranks_iff _ _ _ (idText AlertRow.id) AlertRow.rank
    (windowAlerts situation start stop) _ (budget.maxEntities + 1) budget.maxEntities
    mostUrgent_pairwise listed_perm (listed_sorted (topAlerts_distinct situation start stop budget))
  have hincidents := @Queries.keeps_ranks_iff _ _ _ (idText IncidentRow.id) IncidentRow.rank
    (windowIncidents situation stop) _ (budget.maxEntities + 1)
    (budget.maxEntities - (windowAlerts situation start stop).length)
    mostUrgent_pairwise listed_perm (listed_sorted (topIncidents_distinct situation stop budget))
  refine ⟨_, skipped, hplan, fun hrespects => ⟨halerts.mp ?_, hincidents.mp ?_⟩, fun h => ⟨?_, ?_⟩⟩
  · intro a ha b hb hout hin
    exact hrespects.alerts a ha b hb (fun hmem => hout ((alert_selected_iff ha).mp hmem))
      ((alert_selected_iff hb).mpr hin)
  · intro a ha b hb hout hin
    exact hrespects.incidents a ha b hb (fun hmem => hout ((incident_selected_iff ha).mp hmem))
      ((incident_selected_iff hb).mpr hin)
  · intro a ha b hb hout hin
    exact halerts.mpr h.1 a ha b hb (fun hmem => hout ((alert_selected_iff ha).mpr hmem))
      ((alert_selected_iff hb).mp hin)
  · intro a ha b hb hout hin
    exact hincidents.mpr h.2 a ha b hb (fun hmem => hout ((incident_selected_iff ha).mpr hmem))
      ((incident_selected_iff hb).mp hin)

end Result

/-! ## A critical alert that is left out -/

/-- An alert of the window. -/
def alertRow (id : Nat) (severity : String) : AlertRow where
  id := id
  alertType := "failed_login_threshold"
  severity := severity
  status := "open"
  sourceIp := some "203.0.113.9"
  createdAt := 1
  message := "Failed logins"
  context := .obj []

def alertTable (rows : List AlertRow) (next : Nat) (h : ∀ row ∈ rows, row.id < next) :
    Table AlertRow AlertRow.id where
  next := next
  row? id := rows.find? fun row => row.id = id
  fresh id hid := by
    rw [List.find?_eq_none]
    intro row hrow heq
    have hlt := h row hrow
    have hid' : row.id = id := of_decide_eq_true heq
    omega
  keyed id row hrow := by
    have hsome := List.find?_some hrow
    exact of_decide_eq_true hsome

def twoAlerts (critical low : Nat) : Situation where
  alerts := alertTable [alertRow critical "critical", alertRow low "low"] (max critical low + 1) (by
    intro row hrow
    rcases List.mem_pair.mp hrow with rfl | rfl
    · exact Nat.lt_succ_of_le (le_max_left _ _)
    · exact Nat.lt_succ_of_le (le_max_right _ _))
  incidents := .empty
  reconActivities := .empty
  indicators := .empty

def oneEntity : InvestigationBudget := { defaultBudget with maxEntities := 1 }

/-- Alert 8 comes before alert 9, and is selected. -/
theorem selection_respects_urgency_inOrder :
    ∃ selected skipped, planInvestigationCandidates plainTexts
        (situationFindings plainTexts plainRows (twoAlerts 8 9) 0 1 oneEntity (findingsOf [] []))
          ⟨.obj [], true⟩ oneEntity = .ok (selected, skipped) ∧
      (RespectsUrgency plainTexts plainRows (twoAlerts 8 9) 0 1 selected ↔
        KeepsMostUrgent AlertRow.rank AlertRow.id ((windowAlerts (twoAlerts 8 9) 0 1).take 2) 1 ∧
          KeepsMostUrgent IncidentRow.rank IncidentRow.id ((windowIncidents (twoAlerts 8 9) 1).take 2)
            (1 - (windowAlerts (twoAlerts 8 9) 0 1).length)) :=
  have hkeys : KeysTellApart plainTexts plainRows (twoAlerts 8 9) 0 1 oneEntity := by
    unfold KeysTellApart
    decide +kernel
  selection_respects_urgency hkeys (.obj []) (findingsOf [] [])

/-- The text of 10 comes before that of 9: the low alert 10 is selected and the critical alert 9 is not. -/
theorem critical_alert_left_out :
    ∃ selected skipped, planInvestigationCandidates plainTexts
        (situationFindings plainTexts plainRows (twoAlerts 9 10) 0 1 oneEntity (findingsOf [] []))
          ⟨.obj [], true⟩ oneEntity = .ok (selected, skipped) ∧
      alertRow 9 "critical" ∈ windowAlerts (twoAlerts 9 10) 0 1 ∧
      alertRow 10 "low" ∈ windowAlerts (twoAlerts 9 10) 0 1 ∧
      ¬ RespectsUrgency plainTexts plainRows (twoAlerts 9 10) 0 1 selected := by
  have hkeys : KeysTellApart plainTexts plainRows (twoAlerts 9 10) 0 1 oneEntity := by
    unfold KeysTellApart
    decide +kernel
  have hwindow : windowAlerts (twoAlerts 9 10) 0 1 = [alertRow 9 "critical", alertRow 10 "low"] := by
    rfl
  have hkept : (listed AlertRow.id (topAlerts (twoAlerts 9 10) 0 1 oneEntity)).take 1 =
      [alertRow 10 "low"] := by
    rfl
  have hcritical : alertRow 9 "critical" ∈ windowAlerts (twoAlerts 9 10) 0 1 := by
    rw [hwindow]
    exact List.mem_cons_self
  have hlow : alertRow 10 "low" ∈ windowAlerts (twoAlerts 9 10) 0 1 := by
    rw [hwindow]
    exact List.mem_cons_of_mem _ List.mem_cons_self
  obtain ⟨skipped, hplan⟩ := planInvestigationCandidates_eq hkeys (.obj []) (findingsOf [] [])
  refine ⟨_, skipped, hplan, hcritical, hlow, fun hrespects => ?_⟩
  have hrank := hrespects.alerts _ hcritical _ hlow (fun hmem => ?_) ((alert_selected_iff hlow).mpr ?_)
  · revert hrank
    decide +kernel
  · have hmem' := (alert_selected_iff hcritical).mp hmem
    have hids := List.mem_map_of_mem (f := AlertRow.id) hmem'
    revert hids
    decide +kernel
  · show _ ∈ (listed AlertRow.id (topAlerts (twoAlerts 9 10) 0 1 oneEntity)).take 1
    rw [hkept]
    exact List.mem_cons_self

end SiemDashboard.BriefingInvestigation
