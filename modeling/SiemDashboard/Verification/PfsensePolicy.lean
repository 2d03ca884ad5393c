import SiemDashboard.Lib.Runs
import SiemDashboard.Verification.PfsenseTraffic

/-!
# The policy of the filter and its overrides

The policy in force is read from rows that anything may have written: it is all of them or none.  Requests change one
row at a time, and what they leave is what their last accepted one asked for.

* **Categories** — `ofName?_eq_some`.
* **Entries** — `ConfigEntry.Fits`; `validateConfigEntry_eq_ok`, `validateConfigEntry_parameters`: an entry that was
  accepted is accepted again, as itself.
* **Rows** — `RowsRead`, `applyRows_eq_ok`; `loadEffectivePolicy_all_or_nothing`.
* **Tables** — `entryIn`, `table_rowsRead`.
* **Requests** — `PatchRequest`, `requestedEntry`, `lastRequested`; `policy_over_requests`.
-/

namespace SiemDashboard.PfsenseFilterlog

open Python

/-! ## Categories -/

theorem ofName?_name (category : Category) : Category.ofName? category.name = some category := by
  cases category <;> decide

theorem ofName?_eq_some {name : String} {category : Category} :
    Category.ofName? name = some category ↔ name = category.name := by
  constructor
  · intro h
    unfold Category.ofName? at h
    have hname := List.find?_some h
    exact (of_decide_eq_true hname).symm
  · rintro rfl
    exact ofName?_name category

theorem name_injective : Function.Injective Category.name := by
  intro first second h
  have hfirst := ofName?_name first
  rw [h, ofName?_name second] at hfirst
  exact (Option.some.inj hfirst).symm

/-! ## Entries -/

/-- Some distinct ports, in order. -/
structure SensitivePorts (ports : List Int) : Prop where
  ne_nil : ports ≠ []
  length_le : ports.length ≤ maxSensitivePorts
  sorted : ports.Pairwise (· < ·)
  range : ∀ port ∈ ports, 1 ≤ port ∧ port ≤ 65535

/-- Only the one category has ports. -/
structure ConfigEntry.Fits (category : Category) (entry : ConfigEntry) : Prop where
  ports : category = .inboundSensitivePortAllows → SensitivePorts entry.sensitivePorts
  others : category ≠ .inboundSensitivePortAllows → entry.sensitivePorts = []

theorem EffectivePolicy.valid_iff {policy : EffectivePolicy} :
    policy.Valid ↔ ∀ category, (policy.entries category).Fits category := by
  constructor
  · intro h category
    refine ⟨?_, h.others category⟩
    rintro rfl
    exact ⟨h.ne_nil, h.length_le, h.sorted, h.range⟩
  · intro h
    have hports := (h .inboundSensitivePortAllows).ports rfl
    exact ⟨hports.ne_nil, hports.length_le, hports.sorted, hports.range, fun category hcategory =>
      (h category).others hcategory⟩

theorem sensitivePort_eq_ok {item : Json} {port : Int} (h : sensitivePort item = .ok port) :
    item = .int port ∧ 1 ≤ port ∧ port ≤ 65535 := by
  cases item with
  | int n =>
    unfold sensitivePort at h
    dsimp only at h
    by_cases hrange : n < 1 ∨ 65535 < n
    · rw [if_pos hrange] at h
      cases h
    · rw [if_neg hrange] at h
      cases h
      exact ⟨rfl, by omega, by omega⟩
  | _ => cases h

theorem sensitivePort_int {port : Int} (hrange : 1 ≤ port ∧ port ≤ 65535) : sensitivePort (.int port) = .ok port :=
  if_neg (by omega)

theorem validateSensitivePorts_eq_ok {value : Json} {ports : List Int} (h : validateSensitivePorts value = .ok ports) :
    SensitivePorts ports := by
  unfold validateSensitivePorts at h
  split at h
  · next items =>
    split at h
    · cases h
    · next hbounds =>
      obtain ⟨found, hfound, h⟩ := Checks.bind_eq_ok.mp h
      split at h
      · next hnodup =>
        have hsort : found.insertionSort (· ≤ ·) = ports := Except.ok.inj h
        have hperm : List.Perm ports found := by
          rw [← hsort]
          exact List.perm_insertionSort _ _
        have hlength : ports.length = items.length := by
          rw [hperm.length_eq, (Checks.mapM_forall₂ hfound).length_eq]
        rw [not_or, List.isEmpty_iff, not_lt] at hbounds
        have hordered : ports.Pairwise (· ≤ ·) := by
          rw [← hsort]
          exact List.pairwise_insertionSort _ _
        refine ⟨?_, by omega, ?_, ?_⟩
        · rintro rfl
          exact hbounds.1 (List.length_eq_zero_iff.mp hlength.symm)
        · exact (hordered.and (hperm.nodup_iff.mpr hnodup)).imp fun hboth => lt_of_le_of_ne hboth.1 hboth.2
        · intro port hport
          obtain ⟨item, -, hitem⟩ := Checks.exists_of_mem_mapM hfound (hperm.mem_iff.mp hport)
          exact (sensitivePort_eq_ok hitem).2
      · cases h
  · cases h

/-- Ports that were accepted are accepted again, as they are. -/
theorem validateSensitivePorts_ports {ports : List Int} (h : SensitivePorts ports) :
    validateSensitivePorts (.arr (ports.map .int)) = .ok ports := by
  have hsize : ¬ ((ports.map Json.int).isEmpty = true ∨ maxSensitivePorts < (ports.map Json.int).length) := by
    rw [List.isEmpty_iff, List.map_eq_nil_iff, List.length_map]
    exact not_or.mpr ⟨h.ne_nil, not_lt.mpr h.length_le⟩
  have hmap : (ports.map Json.int).mapM sensitivePort = .ok ports := by
    have hrange := h.range
    clear hsize h
    induction ports with
    | nil => rfl
    | cons port ports ih =>
      obtain ⟨hport, hports⟩ := List.forall_mem_cons.mp hrange
      rw [List.map_cons, List.mapM_cons, sensitivePort_int hport, ih hports]
      rfl
  have hnodup : ports.Nodup := h.sorted.imp fun hlt => ne_of_lt hlt
  have hsort : ports.insertionSort (· ≤ ·) = ports := (h.sorted.imp fun hlt => le_of_lt hlt).insertionSort_eq
  unfold validateSensitivePorts
  dsimp only
  rw [if_neg hsize, hmap]
  show (if ports.Nodup then Except.ok (ports.insertionSort (· ≤ ·)) else _) = _
  rw [if_pos hnodup, hsort]

section Entries

variable {loads : String → Option Json} {category : Category} {enabled parameters : Json} {entry : ConfigEntry}

theorem validateConfigEntry_eq_ok (h : validateConfigEntry loads category enabled parameters = .ok entry) :
    entry.Fits category := by
  unfold validateConfigEntry at h
  split at h
  · next value =>
    obtain ⟨given, hgiven, h⟩ := Checks.bind_eq_ok.mp h
    dsimp only at h
    split at h
    · next hcategory =>
      split at h
      · cases h
      · obtain ⟨ports, hports, hentry⟩ := Checks.map_eq_ok.mp h
        subst hentry
        exact ⟨fun _ => validateSensitivePorts_eq_ok hports, fun hother => absurd hcategory hother⟩
    · next hcategory =>
      split at h
      · cases h
      · cases h
        exact ⟨fun hsame => absurd hsame hcategory, fun _ => rfl⟩
  · cases h

/-- An entry that was accepted is accepted again, as itself. -/
theorem validateConfigEntry_parameters (h : entry.Fits category) :
    validateConfigEntry loads category (.bool entry.enabled) (entry.parameters category) = .ok entry := by
  by_cases hcategory : category = .inboundSensitivePortAllows
  · have hports := validateSensitivePorts_ports (h.ports hcategory)
    subst hcategory
    show Except.map (fun ports => (⟨entry.enabled, ports⟩ : ConfigEntry))
      (validateSensitivePorts (.arr (entry.sensitivePorts.map .int))) = _
    rw [hports]
    rfl
  · have hnil := h.others hcategory
    unfold validateConfigEntry ConfigEntry.parameters
    dsimp only
    rw [if_neg hcategory]
    show (if category = .inboundSensitivePortAllows then _ else Except.ok (⟨entry.enabled, []⟩ : ConfigEntry)) = _
    rw [if_neg hcategory, ← hnil]

theorem defaultEntry_fits (category : Category) : (defaultEntry category).Fits category := by
  constructor
  · rintro rfl
    exact ⟨by decide, by decide, by decide, by decide⟩
  · intro hcategory
    cases category with
    | inboundSensitivePortAllows => exact absurd rfl hcategory
    | _ => rfl

end Entries

/-! ## Rows -/

section Rows

variable {loads : String → Option Json}

/-- The entries are those of the rows, with defaults where there is none. -/
structure RowsRead (loads : String → Option Json) (rows : List ConfigRow) (entries : Category → ConfigEntry) :
    Prop where
  nodup : (rows.map ConfigRow.category).Nodup
  reads : ∀ row ∈ rows, ∃ category, row.category = Category.name category ∧
    validateConfigEntry loads category row.enabled row.parameters = .ok (entries category)
  others : ∀ category, (∀ row ∈ rows, row.category ≠ Category.name category) →
    entries category = defaultEntry category

theorem applyRows_eq_ok {seen : List String} {before after : Category → ConfigEntry} {rows : List ConfigRow} :
    applyRows loads seen before rows = .ok after ↔
      (rows.map ConfigRow.category).Nodup ∧ (∀ row ∈ rows, row.category ∉ seen) ∧
        (∀ row ∈ rows, ∃ category, row.category = Category.name category ∧
          validateConfigEntry loads category row.enabled row.parameters = .ok (after category)) ∧
        ∀ category, (∀ row ∈ rows, row.category ≠ Category.name category) → after category = before category := by
  induction rows generalizing seen before with
  | nil =>
    constructor
    · intro h
      have hsame : before = after := Except.ok.inj h
      rw [hsame]
      exact ⟨List.nodup_nil, List.forall_mem_nil _, List.forall_mem_nil _, fun _ _ => rfl⟩
    · intro h
      have hsame : after = before := funext fun category => h.2.2.2 category (List.forall_mem_nil _)
      rw [hsame]
      rfl
  | cons row rows ih =>
    rw [List.map_cons, List.nodup_cons, List.forall_mem_cons, List.forall_mem_cons]
    unfold applyRows
    constructor
    · intro h
      split at h
      · cases h
      · next hseen =>
        split at h
        · cases h
        · next category hname =>
          obtain ⟨entry, hentry, h⟩ := Checks.bind_eq_ok.mp h
          obtain ⟨hnodup, hunseen, hreads, hothers⟩ := ih.mp h
          rw [ofName?_eq_some] at hname
          have hfresh : ∀ other ∈ rows, other.category ≠ Category.name category := by
            intro other hother heq
            refine hunseen other hother (List.mem_cons.mpr (Or.inl ?_))
            rw [heq, hname]
          have hafter : after category = entry := by
            rw [hothers category hfresh, Function.update_self]
          refine ⟨⟨?_, hnodup⟩, ⟨hseen, ?_⟩, ⟨⟨category, hname, ?_⟩, hreads⟩, ?_⟩
          · intro hmem
            obtain ⟨other, hother, heq⟩ := List.mem_map.mp hmem
            exact hfresh other hother (heq.trans hname)
          · intro other hother hmem
            exact hunseen other hother (List.mem_cons_of_mem _ hmem)
          · rw [hafter, hentry]
          · intro other hnone
            obtain ⟨hhead, hrest⟩ := List.forall_mem_cons.mp hnone
            have hne : other ≠ category := by
              rintro rfl
              exact hhead hname
            rw [hothers other hrest, Function.update_of_ne hne]
    · rintro ⟨⟨hfresh, hnodup⟩, ⟨hseen, hunseen⟩, ⟨⟨category, hname, hentry⟩, hreads⟩, hothers⟩
      rw [if_neg hseen, ofName?_eq_some.mpr hname]
      refine Checks.bind_eq_ok.mpr ⟨_, hentry, ih.mpr ⟨hnodup, ?_, hreads, ?_⟩⟩
      · intro other hother hmem
        rcases List.mem_cons.mp hmem with heq | hmem
        · exact hfresh (List.mem_map.mpr ⟨other, hother, heq⟩)
        · exact hunseen other hother hmem
      · intro other hnone
        by_cases hsame : other = category
        · rw [hsame, Function.update_self]
        · rw [Function.update_of_ne hsame]
          refine hothers other (List.forall_mem_cons.mpr ⟨fun heq => ?_, hnone⟩)
          exact hsame (name_injective (heq.symm.trans hname))

variable {rows : List ConfigRow} {entries : Category → ConfigEntry}

theorem rowsRead_iff : RowsRead loads rows entries ↔ applyRows loads [] defaultEntry rows = .ok entries := by
  rw [applyRows_eq_ok]
  constructor
  · intro h
    exact ⟨h.nodup, fun row hrow => List.not_mem_nil, h.reads, h.others⟩
  · rintro ⟨hnodup, -, hreads, hothers⟩
    exact ⟨hnodup, hreads, hothers⟩

theorem RowsRead.perm {rows' : List ConfigRow} (hperm : rows.Perm rows') (h : RowsRead loads rows entries) :
    RowsRead loads rows' entries where
  nodup := ((hperm.map _).nodup_iff).mp h.nodup
  reads row hrow := h.reads row (hperm.mem_iff.mpr hrow)
  others category hnone := h.others category fun row hrow => hnone row (hperm.mem_iff.mp hrow)

theorem RowsRead.fits (h : RowsRead loads rows entries) (category : Category) : (entries category).Fits category := by
  by_cases hrow : ∀ row ∈ rows, row.category ≠ Category.name category
  · rw [h.others category hrow]
    exact defaultEntry_fits category
  · push Not at hrow
    obtain ⟨row, hmem, hname⟩ := hrow
    obtain ⟨found, hfound, hentry⟩ := h.reads row hmem
    rw [← name_injective (hfound.symm.trans hname)]
    exact validateConfigEntry_eq_ok hentry

theorem loadEffectivePolicy_read (h : RowsRead loads rows entries) :
    loadEffectivePolicy loads (some rows) = ⟨"applied", entries⟩ := by
  unfold loadEffectivePolicy
  dsimp only
  rw [rowsRead_iff.mp h]

theorem loadEffectivePolicy_unread (h : ¬ ∃ entries, RowsRead loads rows entries) :
    loadEffectivePolicy loads (some rows) = defaultEffectivePolicy "invalid" := by
  unfold loadEffectivePolicy
  dsimp only
  split
  · next entries hentries => exact absurd ⟨entries, rowsRead_iff.mpr hentries⟩ h
  · rfl

/-- **All or nothing.**  The policy that is read from any rows is valid; either every row is read and stands in it, or
    it is that of the defaults; and the order of the rows makes no difference. -/
theorem loadEffectivePolicy_all_or_nothing (loads : String → Option Json) (rows : List ConfigRow) :
    (loadEffectivePolicy loads (some rows)).Valid ∧
      ((∃ entries, RowsRead loads rows entries ∧ loadEffectivePolicy loads (some rows) = ⟨"applied", entries⟩) ∨
        (¬ ∃ entries, RowsRead loads rows entries) ∧
          loadEffectivePolicy loads (some rows) = defaultEffectivePolicy "invalid") ∧
      ∀ rows', rows.Perm rows' → loadEffectivePolicy loads (some rows') = loadEffectivePolicy loads (some rows) := by
  rw [EffectivePolicy.valid_iff]
  by_cases hread : ∃ entries, RowsRead loads rows entries
  · obtain ⟨entries, hentries⟩ := hread
    have hpolicy := loadEffectivePolicy_read hentries
    refine ⟨?_, Or.inl ⟨entries, hentries, hpolicy⟩, fun rows' hperm => ?_⟩
    · rw [hpolicy]
      exact hentries.fits
    · rw [hpolicy, loadEffectivePolicy_read (hentries.perm hperm)]
  · have hpolicy := loadEffectivePolicy_unread hread
    refine ⟨?_, Or.inr ⟨hread, hpolicy⟩, fun rows' hperm => ?_⟩
    · rw [hpolicy]
      exact defaultEntry_fits
    · rw [hpolicy]
      refine loadEffectivePolicy_unread fun hread' => hread ?_
      obtain ⟨entries, hentries⟩ := hread'
      exact ⟨entries, hentries.perm hperm.symm⟩

end Rows

/-! ## Tables -/

section Tables

variable (loads : String → Option Json)

/-- The entry that the row of a category stands for, if it can be read; the default where there is no row. -/
def entryIn (table : PolicyTable) (category : Category) : Option ConfigEntry :=
  match table category with
  | none => some (defaultEntry category)
  | some stored => (validateConfigEntry loads category (.bool stored.enabled) stored.parameters).toOption

/-- The policy in force. -/
def policyIn (table : PolicyTable) : EffectivePolicy := loadEffectivePolicy loads (some table.rows)

theorem mem_rows {table : PolicyTable} {row : ConfigRow} : row ∈ table.rows ↔ ∃ category stored,
    table category = some stored ∧ ⟨Category.name category, .bool stored.enabled, stored.parameters⟩ = row := by
  unfold PolicyTable.rows
  rw [List.mem_filterMap]
  constructor
  · rintro ⟨category, -, hrow⟩
    obtain ⟨stored, hstored, heq⟩ := Option.map_eq_some_iff.mp hrow
    exact ⟨category, stored, hstored, heq⟩
  · rintro ⟨category, stored, hstored, heq⟩
    have hmem : category ∈ categories := by
      cases category <;> decide
    exact ⟨category, hmem, Option.map_eq_some_iff.mpr ⟨stored, hstored, heq⟩⟩

theorem rows_nodup (table : PolicyTable) : (table.rows.map ConfigRow.category).Nodup := by
  have hnames (listed : List Category) :
      (listed.filterMap fun category => (table category).map fun entry =>
        (⟨category.name, .bool entry.enabled, entry.parameters⟩ : ConfigRow)).map ConfigRow.category =
        (listed.filter fun category => (table category).isSome).map Category.name := by
    induction listed with
    | nil => rfl
    | cons category listed ih =>
      cases hstored : table category with
      | none => simp [hstored, ih]
      | some stored => simp [hstored, ih]
  unfold PolicyTable.rows
  rw [hnames]
  have hnodup : categories.Nodup := by decide
  exact (hnodup.filter _).map name_injective

variable {loads}

theorem table_rowsRead {table : PolicyTable} {entries : Category → ConfigEntry} :
    RowsRead loads table.rows entries ↔ ∀ category, entryIn loads table category = some (entries category) := by
  constructor
  · intro h category
    unfold entryIn
    split
    · next hnone =>
      refine congrArg some (h.others category fun row hrow hname => ?_).symm
      obtain ⟨other, stored, hstored, rfl⟩ := mem_rows.mp hrow
      rw [← name_injective hname, hstored] at hnone
      cases hnone
    · next stored hstored =>
      obtain ⟨other, hother, hentry⟩ := h.reads _ (mem_rows.mpr ⟨category, stored, hstored, rfl⟩)
      rw [← name_injective hother] at hentry
      exact Checks.toOption_eq_some.mpr hentry
  · intro h
    refine ⟨rows_nodup table, fun row hrow => ?_, fun category hnone => ?_⟩
    · obtain ⟨category, stored, hstored, rfl⟩ := mem_rows.mp hrow
      have hentry := h category
      unfold entryIn at hentry
      rw [hstored] at hentry
      exact ⟨category, rfl, Checks.toOption_eq_some.mp hentry⟩
    · have hentry := h category
      unfold entryIn at hentry
      split at hentry
      · exact (Option.some.inj hentry).symm
      · next stored hstored => exact absurd rfl (hnone _ (mem_rows.mpr ⟨category, stored, hstored, rfl⟩))

/-- The policy is in force where every row can be read, and then it is that of the rows. -/
theorem policyIn_cases (table : PolicyTable) :
    ((policyIn loads table).status = "applied" ∧
        ∀ category, entryIn loads table category = some ((policyIn loads table).entries category)) ∨
      policyIn loads table = defaultEffectivePolicy "invalid" ∧ ∃ category, entryIn loads table category = none := by
  by_cases hread : ∃ entries, RowsRead loads table.rows entries
  · obtain ⟨entries, hentries⟩ := hread
    refine Or.inl ?_
    unfold policyIn
    rw [loadEffectivePolicy_read hentries]
    exact ⟨rfl, table_rowsRead.mp hentries⟩
  · refine Or.inr ⟨loadEffectivePolicy_unread hread, ?_⟩
    by_contra hall
    push Not at hall
    refine hread ⟨fun category => (entryIn loads table category).getD (defaultEntry category), ?_⟩
    refine table_rowsRead.mpr fun category => ?_
    obtain ⟨entry, hentry⟩ := Option.ne_none_iff_exists'.mp (hall category)
    rw [hentry]
    rfl

end Tables

/-! ## Requests -/

/-- A request to change an entry. -/
structure PatchRequest where
  category : String
  payload : Json

section Requests

variable (loads : String → Option Json)

/-- What the request is answered with, and the table after it. -/
def answered (table : PolicyTable) (request : PatchRequest) : PatchResponse × PolicyTable :=
  updatePfsenseIngestFilter loads table request.category request.payload

/-- The table after the request. -/
def patched (table : PolicyTable) (request : PatchRequest) : PolicyTable := (answered loads table request).2

/-- The request is accepted, and it is for the category. -/
def Updates (category : Category) (table : PolicyTable) (request : PatchRequest) : Prop :=
  ∃ entry, (answered loads table request).1 = .updated category entry

/-- The entry that an accepted request asks for. -/
def requestedEntry (table : PolicyTable) (request : PatchRequest) (category : Category) : Option ConfigEntry :=
  match (answered loads table request).1 with
  | .updated changed _ =>
    if changed = category then
      (validateConfigEntry loads category (request.payload.get "enabled")
        (request.payload.getD "parameters" (((policyIn loads table).entries category).parameters category))).toOption
    else none
  | _ => none

/-- The entry that the last accepted request for a category asks for. -/
def lastRequested : PolicyTable → List PatchRequest → Category → Option ConfigEntry
  | _, [], _ => none
  | table, request :: requests, category =>
    (lastRequested (patched loads table request) requests category).or (requestedEntry loads table request category)

variable {loads}

/-- A request is refused, and the table stays, or an entry is accepted and stored. -/
theorem answered_eq (table : PolicyTable) (request : PatchRequest) :
    (∃ response, answered loads table request = (response, table) ∧
        ∀ category entry, response ≠ PatchResponse.updated category entry) ∨
      ∃ changed entry reported,
        validateConfigEntry loads changed (request.payload.get "enabled")
            (request.payload.getD "parameters"
              (((policyIn loads table).entries changed).parameters changed)) = .ok entry ∧
          answered loads table request = (.updated changed reported,
            Function.update table changed (some ⟨entry.enabled, entry.parameters changed⟩)) := by
  unfold answered updatePfsenseIngestFilter
  split
  · exact Or.inl ⟨_, rfl, by rintro _ _ ⟨⟩⟩
  · next changed hname =>
    split
    · exact Or.inl ⟨_, rfl, by rintro _ _ ⟨⟩⟩
    · split
      · exact Or.inl ⟨_, rfl, by rintro _ _ ⟨⟩⟩
      · split
        · exact Or.inl ⟨_, rfl, by rintro _ _ ⟨⟩⟩
        · unfold upsertConfigOverride
          dsimp only
          split
          · exact Or.inl ⟨_, rfl, by rintro _ _ ⟨⟩⟩
          · next table' htable =>
            obtain ⟨entry, hentry, rfl⟩ := Checks.map_eq_ok.mp htable
            exact Or.inr ⟨changed, entry, _, hentry, rfl⟩

/-- What a request may come to. -/
theorem answered_cases (table : PolicyTable) (request : PatchRequest) :
    (patched loads table request = table ∧ ∀ category, requestedEntry loads table request category = none ∧
        ¬ Updates loads category table request) ∨
      ∃ changed entry, entry.Fits changed ∧
        patched loads table request =
          Function.update table changed (some ⟨entry.enabled, entry.parameters changed⟩) ∧
        ∀ category, requestedEntry loads table request category = (if changed = category then some entry else none) ∧
          (Updates loads category table request ↔ changed = category) := by
  rcases @answered_eq loads table request with
    ⟨response, hanswer, hresponse⟩ | ⟨changed, entry, reported, hentry, hanswer⟩
  · have hnone (category : Category) (entry : ConfigEntry) :
        (answered loads table request).1 ≠ .updated category entry := by
      rw [hanswer]
      exact hresponse category entry
    refine Or.inl ⟨congrArg Prod.snd hanswer, fun category => ⟨?_, fun hupdates => ?_⟩⟩
    · unfold requestedEntry
      split
      · next changed entry heq => exact absurd heq (hnone changed entry)
      · rfl
    · obtain ⟨entry, heq⟩ := hupdates
      exact hnone category entry heq
  · have hupdated : (answered loads table request).1 = .updated changed reported := congrArg Prod.fst hanswer
    refine Or.inr ⟨changed, entry, validateConfigEntry_eq_ok hentry, congrArg Prod.snd hanswer,
      fun category => ⟨?_, ?_⟩⟩
    · unfold requestedEntry
      rw [hupdated]
      dsimp only
      by_cases hsame : changed = category
      · subst hsame
        rw [if_pos rfl, if_pos rfl, hentry]
        rfl
      · rw [if_neg hsame, if_neg hsame]
    · unfold Updates
      rw [hupdated]
      constructor
      · rintro ⟨found, heq⟩
        exact (PatchResponse.updated.inj heq).1
      · rintro rfl
        exact ⟨reported, rfl⟩

theorem isSome_requestedEntry (table : PolicyTable) (request : PatchRequest) (category : Category) :
    (requestedEntry loads table request category).isSome = true ↔ Updates loads category table request := by
  rcases answered_cases table request with ⟨-, hrefused⟩ | ⟨changed, entry, -, -, haccepted⟩
  · obtain ⟨hnone, hupdates⟩ := hrefused category
    rw [hnone]
    exact iff_of_false Bool.false_ne_true hupdates
  · obtain ⟨hrequested, hupdates⟩ := haccepted category
    rw [hrequested, hupdates]
    by_cases hsame : changed = category
    · rw [if_pos hsame]
      exact iff_of_true rfl hsame
    · rw [if_neg hsame]
      exact iff_of_false Bool.false_ne_true hsame

theorem entryIn_patched (table : PolicyTable) (request : PatchRequest) (category : Category) :
    entryIn loads (patched loads table request) category =
      (requestedEntry loads table request category).or (entryIn loads table category) := by
  rcases answered_cases table request with ⟨hsame, hrefused⟩ | ⟨changed, entry, hfits, htable, haccepted⟩
  · rw [hsame, (hrefused category).1]
    rfl
  · rw [htable, (haccepted category).1]
    unfold entryIn
    by_cases hsame : changed = category
    · subst hsame
      rw [Function.update_self, if_pos rfl]
      dsimp only
      rw [validateConfigEntry_parameters hfits]
      rfl
    · rw [Function.update_of_ne (Ne.symm hsame), if_neg hsame]
      rfl

theorem entryIn_after (table : PolicyTable) (requests : List PatchRequest) (category : Category) :
    entryIn loads (Runs.after (patched loads) table requests) category =
      (lastRequested loads table requests category).or (entryIn loads table category) := by
  induction requests generalizing table with
  | nil => rfl
  | cons request requests ih =>
    rw [Runs.after_cons, ih, entryIn_patched, lastRequested, Option.or_assoc]

theorem isSome_lastRequested (table : PolicyTable) (requests : List PatchRequest) (category : Category) :
    (lastRequested loads table requests category).isSome = true ↔
      Runs.Happened (patched loads) (Updates loads category) table requests := by
  induction requests generalizing table with
  | nil => exact iff_of_false Bool.false_ne_true Runs.not_happened_nil
  | cons request requests ih =>
    rw [lastRequested, Option.isSome_or, Bool.or_eq_true, ih, isSome_requestedEntry, Runs.happened_cons, or_comm]

/-- **Requests.**  After any requests to any table the policy is in force just where every category whose row could
    not be read has been updated; each entry is then what the last accepted request for it has asked for, and where
    there was none, what it was; otherwise the policy is that of the defaults. -/
theorem policy_over_requests (loads : String → Option Json) (table : PolicyTable) (requests : List PatchRequest) :
    ((policyIn loads (Runs.after (patched loads) table requests)).status = "applied" ↔
        ∀ category, entryIn loads table category = none →
          Runs.Happened (patched loads) (Updates loads category) table requests) ∧
      ((policyIn loads (Runs.after (patched loads) table requests)).status = "applied" ∧
          (∀ category, some ((policyIn loads (Runs.after (patched loads) table requests)).entries category) =
            (lastRequested loads table requests category).or (entryIn loads table category)) ∨
        policyIn loads (Runs.after (patched loads) table requests) = defaultEffectivePolicy "invalid") := by
  have hentries := @entryIn_after loads table requests
  rcases @policyIn_cases loads (Runs.after (patched loads) table requests) with ⟨hstatus, hread⟩ | ⟨hinvalid, hbroken⟩
  · refine ⟨iff_of_true hstatus fun category hnone => ?_, Or.inl ⟨hstatus, fun category => ?_⟩⟩
    · rw [← isSome_lastRequested]
      have hsome := hread category
      rw [hentries, hnone, Option.or_none] at hsome
      rw [hsome]
      rfl
    · rw [← hread category, hentries]
  · refine ⟨iff_of_false ?_ fun hhealed => ?_, Or.inr hinvalid⟩
    · rw [hinvalid]
      decide
    · obtain ⟨category, hnone⟩ := hbroken
      rw [hentries, Option.or_eq_none_iff] at hnone
      have hsome := isSome_lastRequested table requests category |>.mpr (hhealed category hnone.2)
      rw [hnone.1] at hsome
      cases hsome

end Requests

end SiemDashboard.PfsenseFilterlog
