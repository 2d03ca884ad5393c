import SiemDashboard.Core.IpReputation

/-!
# What a reputation counts

The alert types are written down twice, in the weight tables and in the queries.  The score of an address
is compared with the sum over the weight tables; they agree for every address without an alert of the one
type that the second query leaves out.

* **Counts** — `signalTotal`, `correlationTotal`, `getIpReputation_score`.
* **Queries** — `getD_alertCounts`.
* **Result** — `configuredScore`, `Listed`, `Accounts`, `accounts_iff`; `unqueriedCorrelation_ignored`.
-/

namespace SiemDashboard.ReputationAccounting

open IpReputation

variable {Ip : Type} [DecidableEq Ip]

/-! ## Counts -/

section Counts

variable (counts : String → Nat)

/-- The sum over `signal_config`. -/
def signalTotal : Nat := (signalConfig.map fun config => counts config.key * config.weight).sum

/-- The sum over `correlation_signal_config`. -/
def correlationTotal : Nat :=
  (correlationSignalConfig.map fun config => counts config.key * config.weight).sum

variable {counts}

/-- Leaving out what counts nothing leaves a sum alone. -/
theorem sum_filterMap {α β : Type} {f : α → Option β} {total : β → Nat} {g : α → Nat}
    (h : ∀ a, (f a).elim 0 total = g a) (l : List α) :
    ((l.filterMap f).map total).sum = (l.map g).sum := by
  induction l with
  | nil => rfl
  | cons a l ih =>
    have ha := h a
    rw [List.map_cons, List.sum_cons, ← ih]
    cases hfa : f a with
    | none =>
      rw [hfa, Option.elim_none] at ha
      rw [List.filterMap_cons_none hfa, ← ha, Nat.zero_add]
    | some b =>
      rw [hfa, Option.elim_some] at ha
      rw [List.filterMap_cons_some hfa, List.map_cons, List.sum_cons, ha]

theorem sum_signalContributions {found : String → Option Nat}
    (hcounts : ∀ key, (found key).getD 0 = counts key) :
    ((signalContributions found).map (·.total)).sum = signalTotal counts := by
  refine sum_filterMap (fun config => ?_) signalConfig
  dsimp only
  rw [hcounts]
  split
  · next hzero => rw [hzero, Nat.zero_mul, Option.elim_none]
  · rfl

theorem rawCorrelationBonus_eq {found : String → Option Nat}
    (hcounts : ∀ key, (found key).getD 0 = counts key) :
    rawCorrelationBonus found = correlationTotal counts := by
  refine sum_filterMap (fun config => ?_) correlationSignalConfig
  dsimp only
  rw [hcounts]
  split
  · next hzero => rw [hzero, Nat.zero_mul, Option.elim_none]
  · rfl

theorem sum_correlationContribution (found : String → Option Nat) :
    ((correlationContribution found).map (·.total)).sum =
      min (rawCorrelationBonus found) correlationBonusCap := by
  unfold correlationContribution
  dsimp only
  split
  · next hzero => simp [hzero]
  · simp

theorem sum_blockContribution (activeBlockCount : Nat) :
    ((blockContribution activeBlockCount).map (·.total)).sum = activeBlockCount * blockWeight := by
  unfold blockContribution
  split
  · next hzero => simp [hzero]
  · simp

/-- A sum over a table grows with its counts. -/
theorem sum_map_mul_le {α : Type} {more : String → Nat} (key : α → String) (weight : α → Nat)
    (h : ∀ k, counts k ≤ more k) (l : List α) :
    (l.map fun a => counts (key a) * weight a).sum ≤ (l.map fun a => more (key a) * weight a).sum := by
  induction l with
  | nil => exact Nat.le_refl _
  | cons a l ih =>
    rw [List.map_cons, List.map_cons, List.sum_cons, List.sum_cons]
    exact Nat.add_le_add (Nat.mul_le_mul_right _ (h (key a))) ih

end Counts

/-! ## Queries -/

section Queries

variable (tables : ReputationTables Ip) (sourceIp : Ip)

/-- The counts that a query leaves. -/
def queriedCount (alertTypes : List String) (alertType : String) : Nat :=
  if alertType ∈ alertTypes then tables.alertCount sourceIp alertType else 0

theorem getD_alertCounts (alertTypes : List String) (alertType : String) :
    (tables.alertCounts sourceIp alertTypes alertType).getD 0 =
      queriedCount tables sourceIp alertTypes alertType := by
  unfold ReputationTables.alertCounts queriedCount
  by_cases hqueried : alertType ∈ alertTypes
  · by_cases hcount : 0 < tables.alertCount sourceIp alertType
    · simp [hqueried, hcount]
    · simp [hqueried, Nat.eq_zero_of_not_pos hcount]
  · simp [hqueried]

/-- The score by the counts that the queries leave. -/
theorem getIpReputation_score :
    (getIpReputation tables (some sourceIp)).score =
      signalTotal (queriedCount tables sourceIp signalAlertTypes) +
        min (correlationTotal (queriedCount tables sourceIp IpReputation.correlationAlertTypes))
          correlationBonusCap +
        tables.activeBlockCount sourceIp * blockWeight := by
  unfold getIpReputation foundSignals
  dsimp only
  rw [List.map_append, List.map_append, List.sum_append, List.sum_append,
    sum_signalContributions (getD_alertCounts tables sourceIp _), sum_correlationContribution,
    rawCorrelationBonus_eq (getD_alertCounts tables sourceIp _), sum_blockContribution]

/-- The first query asks for every type of its table. -/
theorem signalTotal_queried :
    signalTotal (queriedCount tables sourceIp signalAlertTypes) =
      signalTotal (tables.alertCount sourceIp) := by
  simp [signalTotal, signalConfig, queriedCount, signalAlertTypes]

/-- The type that the second query leaves out. -/
def unqueriedType : String := "azure_auth_abuse_exception_correlation"

/-- The second query asks for every other type of its table. -/
theorem correlationTotal_queried :
    correlationTotal (tables.alertCount sourceIp) =
      correlationTotal (queriedCount tables sourceIp IpReputation.correlationAlertTypes) +
        tables.alertCount sourceIp unqueriedType * 4 := by
  simp [correlationTotal, correlationSignalConfig, queriedCount, IpReputation.correlationAlertTypes,
    unqueriedType]
  omega

end Queries

/-! ## Result -/

section Result

variable (tables : ReputationTables Ip) (sourceIp : Ip)

/-- The score by the weight tables: every configured type by its alerts, the correlation types up to their
    cap, and the active blocks. -/
def configuredScore : Nat :=
  signalTotal (tables.alertCount sourceIp) +
    min (correlationTotal (tables.alertCount sourceIp)) correlationBonusCap +
    tables.activeBlockCount sourceIp * blockWeight

def configuredTypes : List String :=
  signalConfig.map (·.key) ++ correlationSignalConfig.map (·.key)

/-- A type is listed with its alerts among the signals, or among the types of the correlation bonus. -/
def Listed (reputation : Reputation) (alertType : String) (count : Nat) : Prop :=
  ∃ signal ∈ reputation.contributingSignals,
    (signal.signal = alertType ∧ signal.count = count) ∨
    ∃ bonus ∈ signal.bonus, ∃ entry ∈ bonus.correlationAlertTypes,
      entry.alertType = alertType ∧ entry.count = count

/-- The tables with one more alert. -/
def withAlert (row : AlertRow Ip) : ReputationTables Ip := { tables with alerts := row :: tables.alerts }

/-- The reputation accounts for the alerts of the address. -/
structure Accounts : Prop where
  score_eq : (getIpReputation tables (some sourceIp)).score = configuredScore tables sourceIp
  contributes : ∀ alertType ∈ configuredTypes, 0 < tables.alertCount sourceIp alertType →
    Listed (getIpReputation tables (some sourceIp)) alertType (tables.alertCount sourceIp alertType)
  monotone : ∀ row, (getIpReputation tables (some sourceIp)).score ≤
    (getIpReputation (withAlert tables row) (some sourceIp)).score

variable {tables sourceIp}

/-- One more alert never lowers the score. -/
theorem score_le_withAlert (row : AlertRow Ip) :
    (getIpReputation tables (some sourceIp)).score ≤
      (getIpReputation (withAlert tables row) (some sourceIp)).score := by
  have hcount (alertTypes : List String) (alertType : String) :
      queriedCount tables sourceIp alertTypes alertType ≤
        queriedCount (withAlert tables row) sourceIp alertTypes alertType := by
    unfold queriedCount
    split
    · unfold ReputationTables.alertCount withAlert
      rw [List.countP_cons]
      exact Nat.le_add_right _ _
    · exact Nat.le_refl _
  have hsignals : signalTotal (queriedCount tables sourceIp signalAlertTypes) ≤
      signalTotal (queriedCount (withAlert tables row) sourceIp signalAlertTypes) :=
    sum_map_mul_le _ _ (hcount _) signalConfig
  have hcorrelations :
      correlationTotal (queriedCount tables sourceIp IpReputation.correlationAlertTypes) ≤
        correlationTotal
          (queriedCount (withAlert tables row) sourceIp IpReputation.correlationAlertTypes) :=
    sum_map_mul_le _ _ (hcount _) correlationSignalConfig
  have hblocks : (withAlert tables row).activeBlockCount sourceIp = tables.activeBlockCount sourceIp :=
    rfl
  rw [getIpReputation_score, getIpReputation_score, hblocks]
  omega

/-- The score is the configured one just where the alerts of the unqueried type would not matter. -/
theorem score_eq_iff :
    (getIpReputation tables (some sourceIp)).score = configuredScore tables sourceIp ↔
      tables.alertCount sourceIp unqueriedType = 0 ∨
        correlationBonusCap ≤
          correlationTotal (queriedCount tables sourceIp IpReputation.correlationAlertTypes) := by
  rw [getIpReputation_score, signalTotal_queried]
  unfold configuredScore
  rw [correlationTotal_queried]
  omega

/-- What is listed was found. -/
theorem mem_contributingSignals {signal : Contributing} :
    signal ∈ (getIpReputation tables (some sourceIp)).contributingSignals ↔
      signal ∈ foundSignals tables sourceIp :=
  List.mem_insertionSort Contributing.before

/-- A queried type of the first table is listed. -/
theorem listed_signal {config : SignalConfig} (hconfig : config ∈ signalConfig)
    (hqueried : config.key ∈ signalAlertTypes) (hcount : 0 < tables.alertCount sourceIp config.key) :
    Listed (getIpReputation tables (some sourceIp)) config.key
      (tables.alertCount sourceIp config.key) := by
  have hfound : (tables.alertCounts sourceIp signalAlertTypes config.key).getD 0 =
      tables.alertCount sourceIp config.key := by
    rw [getD_alertCounts, queriedCount, if_pos hqueried]
  refine ⟨⟨config.key, config.label, tables.alertCount sourceIp config.key, some config.weight,
    tables.alertCount sourceIp config.key * config.weight, none, config.summaryPhrase⟩, ?_,
    Or.inl ⟨rfl, rfl⟩⟩
  rw [mem_contributingSignals]
  unfold foundSignals
  rw [List.mem_append, List.mem_append]
  refine Or.inl (Or.inl (List.mem_filterMap.mpr ⟨config, hconfig, ?_⟩))
  dsimp only
  rw [hfound, if_neg (Nat.ne_of_gt hcount)]

/-- A queried type of the second table is listed. -/
theorem listed_correlation {config : CorrelationConfig} (hconfig : config ∈ correlationSignalConfig)
    (hqueried : config.key ∈ IpReputation.correlationAlertTypes)
    (hweight : 0 < config.weight) (hcount : 0 < tables.alertCount sourceIp config.key) :
    Listed (getIpReputation tables (some sourceIp)) config.key
      (tables.alertCount sourceIp config.key) := by
  have hfound : (tables.alertCounts sourceIp IpReputation.correlationAlertTypes config.key).getD 0 =
      tables.alertCount sourceIp config.key := by
    rw [getD_alertCounts, queriedCount, if_pos hqueried]
  have hentry : (⟨config.key, config.label, tables.alertCount sourceIp config.key, config.weight,
      tables.alertCount sourceIp config.key * config.weight⟩ : CorrelationAlertType) ∈
      correlationTypes (tables.alertCounts sourceIp IpReputation.correlationAlertTypes) := by
    refine List.mem_filterMap.mpr ⟨config, hconfig, ?_⟩
    dsimp only
    rw [hfound, if_neg (Nat.ne_of_gt hcount)]
  have hpos : 0 < rawCorrelationBonus
      (tables.alertCounts sourceIp IpReputation.correlationAlertTypes) := by
    unfold rawCorrelationBonus
    rw [List.sum_pos_iff_exists_pos_nat]
    exact ⟨_, List.mem_map_of_mem hentry, Nat.mul_pos hcount hweight⟩
  have hbonus (found : String → Option Nat) (h : 0 < rawCorrelationBonus found) :
      ∃ signal ∈ correlationContribution found, ∃ bonus ∈ signal.bonus,
        bonus.correlationAlertTypes = correlationTypes found := by
    unfold correlationContribution
    dsimp only
    rw [if_neg (Nat.ne_of_gt h)]
    exact ⟨_, List.mem_singleton_self _, _, rfl, rfl⟩
  obtain ⟨signal, hsignal, bonus, hmem, htypes⟩ := hbonus _ hpos
  rw [← htypes] at hentry
  refine ⟨signal, ?_, Or.inr ⟨bonus, hmem, _, hentry, rfl, rfl⟩⟩
  rw [mem_contributingSignals]
  unfold foundSignals
  rw [List.mem_append, List.mem_append]
  exact Or.inl (Or.inr hsignal)

/-- An entry of the correlation bonus has a queried type. -/
theorem queried_of_mem_correlationTypes {entry : CorrelationAlertType}
    (hentry : entry ∈
      correlationTypes (tables.alertCounts sourceIp IpReputation.correlationAlertTypes)) :
    entry.alertType ∈ IpReputation.correlationAlertTypes := by
  obtain ⟨config, -, hconfig⟩ := List.mem_filterMap.mp hentry
  dsimp only at hconfig
  rw [getD_alertCounts] at hconfig
  by_cases hcount : queriedCount tables sourceIp IpReputation.correlationAlertTypes config.key = 0
  · rw [if_pos hcount] at hconfig
    cases hconfig
  · rw [if_neg hcount] at hconfig
    rw [← Option.some.inj hconfig]
    by_contra hunqueried
    exact hcount (if_neg hunqueried)

/-- A signal is that of a queried type, or one of the two other ones. -/
theorem signal_of_mem_foundSignals {signal : Contributing}
    (hsignal : signal ∈ foundSignals tables sourceIp) :
    (signal.signal ∈ signalConfig.map (·.key) ∨ signal.signal = "correlation_escalation_bonus" ∨
      signal.signal = "blocked_ips") ∧
    ∀ bonus ∈ signal.bonus, bonus.correlationAlertTypes =
      correlationTypes (tables.alertCounts sourceIp IpReputation.correlationAlertTypes) := by
  unfold foundSignals at hsignal
  rw [List.mem_append, List.mem_append] at hsignal
  rcases hsignal with (hsignal | hbonus) | hblock
  · obtain ⟨config, hconfig, hfound⟩ := List.mem_filterMap.mp hsignal
    dsimp only at hfound
    split at hfound
    · cases hfound
    · rw [← Option.some.inj hfound]
      exact ⟨Or.inl (List.mem_map_of_mem hconfig), fun _ hnone => by cases hnone⟩
  · unfold correlationContribution at hbonus
    dsimp only at hbonus
    split at hbonus
    · cases hbonus
    · rw [List.mem_singleton] at hbonus
      subst hbonus
      refine ⟨Or.inr (Or.inl rfl), fun bonus hmem => ?_⟩
      rw [← Option.some.inj hmem]
  · unfold blockContribution at hblock
    split at hblock
    · cases hblock
    · rw [List.mem_singleton] at hblock
      subst hblock
      exact ⟨Or.inr (Or.inr rfl), fun _ hnone => by cases hnone⟩

/-- The unqueried type is never listed. -/
theorem not_listed_unqueried {count : Nat} :
    ¬ Listed (getIpReputation tables (some sourceIp)) unqueriedType count := by
  rintro ⟨signal, hsignal, hlisted⟩
  obtain ⟨hname, hbonus⟩ := signal_of_mem_foundSignals (mem_contributingSignals.mp hsignal)
  rcases hlisted with ⟨hsame, -⟩ | ⟨bonus, hmem, entry, hentry, hsame, -⟩
  · rw [hsame] at hname
    revert hname
    decide
  · rw [hbonus bonus hmem] at hentry
    have hqueried := queried_of_mem_correlationTypes hentry
    rw [hsame] at hqueried
    revert hqueried
    decide

/-- Every other configured type is listed with its alerts. -/
theorem listed_of_configured (hnone : tables.alertCount sourceIp unqueriedType = 0)
    {alertType : String} (hconfigured : alertType ∈ configuredTypes)
    (hcount : 0 < tables.alertCount sourceIp alertType) :
    Listed (getIpReputation tables (some sourceIp)) alertType
      (tables.alertCount sourceIp alertType) := by
  unfold configuredTypes at hconfigured
  rw [List.mem_append, List.mem_map, List.mem_map] at hconfigured
  rcases hconfigured with ⟨config, hconfig, rfl⟩ | ⟨config, hconfig, rfl⟩
  · have hqueried : ∀ config ∈ signalConfig, config.key ∈ signalAlertTypes := by decide
    exact listed_signal hconfig (hqueried config hconfig) hcount
  · have hqueried : ∀ config ∈ correlationSignalConfig, 0 < config.weight ∧
        (config.key = unqueriedType ∨ config.key ∈ IpReputation.correlationAlertTypes) := by decide
    obtain ⟨hweight, hunqueried | hqueried⟩ := hqueried config hconfig
    · rw [hunqueried, hnone] at hcount
      cases hcount
    · exact listed_correlation hconfig hqueried hweight hcount

/-- **Reputation accounting**: the reputation of an address accounts for its alerts just where none of
    them has the type that the second query leaves out; the score alone is the configured one also where
    the other correlations reach their cap. -/
theorem accounts_iff (tables : ReputationTables Ip) (sourceIp : Ip) :
    (Accounts tables sourceIp ↔ tables.alertCount sourceIp unqueriedType = 0) ∧
    ((getIpReputation tables (some sourceIp)).score = configuredScore tables sourceIp ↔
      tables.alertCount sourceIp unqueriedType = 0 ∨
        correlationBonusCap ≤
          correlationTotal (queriedCount tables sourceIp IpReputation.correlationAlertTypes)) := by
  refine ⟨⟨fun h => ?_, fun hnone => ?_⟩, score_eq_iff⟩
  · by_contra hsome
    have hconfigured : unqueriedType ∈ configuredTypes := by decide
    exact not_listed_unqueried (h.contributes _ hconfigured (Nat.pos_of_ne_zero hsome))
  · exact ⟨score_eq_iff.mpr (Or.inl hnone), fun _ => listed_of_configured hnone, score_le_withAlert⟩

end Result

/-- Two cloud correlations of one address. -/
def unqueriedCorrelation : ReputationTables Nat where
  alerts := [⟨1, unqueriedType⟩, ⟨1, unqueriedType⟩]
  blockedIps := []
  now := 0

/-- They count nothing, where the weight tables give them the cap of eight. -/
theorem unqueriedCorrelation_ignored :
    ¬ Accounts unqueriedCorrelation 1 ∧
    (getIpReputation unqueriedCorrelation (some 1)).score = 0 ∧
    configuredScore unqueriedCorrelation 1 = 8 := by
  have hscore : (getIpReputation unqueriedCorrelation (some 1)).score = 0 := by decide +kernel
  have hconfigured : configuredScore unqueriedCorrelation 1 = 8 := by decide +kernel
  refine ⟨fun h => ?_, hscore, hconfigured⟩
  have heq := h.score_eq
  rw [hscore, hconfigured] at heq
  cases heq

end SiemDashboard.ReputationAccounting
