import SiemDashboard.Engines.PfsenseDatagrams
import SiemDashboard.Lib.Runs
import SiemDashboard.Verification.PfsenseTraffic
import SiemDashboard.Verification.RateLimiting

/-!
# What the listener counts and what it lets through

Whatever the socket gives and however the requests to the backend end, every datagram is counted once, and what reaches
the parser and the backend keeps to the limits.

* **Counting** — `counted`, `processDatagram_stats`; `Counts`, `counts_receive`; `listener_counts`.
* **Limits** — `Processed.handled`, `processDatagram_limiter`; `Limits`, `limits_receive`; `listener_limits`.
-/

namespace SiemDashboard.PfsenseFilterlog

open Python PfsenseListener RateLimiting

/-! ## Counting -/

/-- The counters with a result counted. -/
def counted (stats : PfSenseListenerStats) : Except String Outcome → PfSenseListenerStats
  | .ok .rejectedSource => { stats with rejectedSource := stats.rejectedSource + 1 }
  | .ok .rateLimited => { stats with rateLimited := stats.rateLimited + 1 }
  | .ok .oversized => { stats with oversized := stats.oversized + 1 }
  | .ok .parseFailed =>
    { stats with accepted := stats.accepted + 1, parseFailed := stats.parseFailed + 1 }
  | .ok .filtered =>
    { stats with
      accepted := stats.accepted + 1, forwarded := stats.forwarded + 1, filtered := stats.filtered + 1 }
  | .ok .ingested =>
    { stats with
      accepted := stats.accepted + 1, forwarded := stats.forwarded + 1, ingested := stats.ingested + 1 }
  | .ok .rejected =>
    { stats with
      accepted := stats.accepted + 1, forwarded := stats.forwarded + 1, rejected := stats.rejected + 1 }
  | .ok .backendFailed =>
    { stats with
      accepted := stats.accepted + 1, forwarded := stats.forwarded + 1,
      backendFailed := stats.backendFailed + 1 }
  | .error _ => { stats with accepted := stats.accepted + 1 }

def PfSenseListenerStats.counter (stats : PfSenseListenerStats) : Outcome → Nat
  | .rejectedSource => stats.rejectedSource
  | .rateLimited => stats.rateLimited
  | .oversized => stats.oversized
  | .parseFailed => stats.parseFailed
  | .filtered => stats.filtered
  | .ingested => stats.ingested
  | .rejected => stats.rejected
  | .backendFailed => stats.backendFailed

/-- The datagram ended so. -/
def Processed.endsIn (outcome : Outcome) (processed : Processed) : Bool :=
  match processed.result with
  | .ok found => found = outcome
  | .error _ => false

section Counting

variable {lib : EventLibrary} {config : PfSenseListenerConfig} {send : NormalizedEvent → UrlopenResult}

/-- The counters say what the datagram came to. -/
theorem processDatagram_stats (datagram : Datagram) (stats : PfSenseListenerStats) (limiter : RateLimiter) :
    (processDatagram lib config send datagram stats limiter).2.1 =
      counted stats (processDatagram lib config send datagram stats limiter).1 := by
  unfold processDatagram
  split
  · rfl
  · dsimp only
    split
    · rfl
    · split
      · rfl
      · split
        · rfl
        · rfl
        · split
          · rfl
          · unfold countForwarded
            dsimp only
            split
            · rfl
            · split
              · rfl
              · split
                · rfl
                · rfl

/-- What the counters are in the loop. -/
structure Counts (config : PfSenseListenerConfig) (listener : Listener) : Prop where
  processed : listener.packetsProcessed = listener.log.length
  counters : ∀ outcome, listener.stats.counter outcome = listener.log.countP (Processed.endsIn outcome)
  all : listener.packetsProcessed = listener.stats.accepted + listener.stats.rejectedSource +
    listener.stats.rateLimited + listener.stats.oversized
  accepted : listener.stats.accepted = listener.stats.parseFailed + listener.stats.forwarded +
    if listener.raised.isSome then 1 else 0
  forwarded : listener.stats.forwarded = listener.stats.filtered + listener.stats.ingested +
    listener.stats.rejected + listener.stats.backendFailed
  bounded : ∀ count ∈ config.maxPackets, (listener.packetsProcessed : Int) ≤ max 0 count

theorem counts_start (config : PfSenseListenerConfig) : Counts config (.start config) where
  processed := rfl
  counters outcome := by cases outcome <;> rfl
  all := rfl
  accepted := rfl
  forwarded := rfl
  bounded _ _ := le_max_left _ _

theorem counter_counted (stats : PfSenseListenerStats) (result : Except String Outcome) (outcome : Outcome)
    (time : ℚ) (sourceIp : String) : (counted stats result).counter outcome =
      stats.counter outcome + if Processed.endsIn outcome ⟨time, sourceIp, result⟩ then 1 else 0 := by
  cases result with
  | error text => cases outcome <;> rfl
  | ok found => cases found <;> cases outcome <;> rfl

/-- The loop goes round once. -/
theorem counts_receive {listener : Listener} (h : Counts config listener) (arrival : Arrival) :
    Counts config (receive lib config listener arrival) := by
  unfold receive
  split
  · exact h
  · next hleft =>
    unfold Listener.Left at hleft
    simp only [not_or, not_exists, not_and] at hleft
    obtain ⟨hraised, -, hcount⟩ := hleft
    dsimp only
    split
    · exact ⟨h.processed, h.counters, h.all, h.accepted, h.forwarded, h.bounded⟩
    · exact ⟨h.processed, h.counters, h.all, h.accepted, h.forwarded, h.bounded⟩
    · next datagram _ =>
      have hall := h.all
      have haccepted := h.accepted
      have hforwarded := h.forwarded
      rw [if_neg hraised] at haccepted
      rw [processDatagram_stats]
      generalize (processDatagram lib config arrival.send datagram listener.stats listener.limiter).1 = result
      constructor <;> dsimp only
      · rw [h.processed, List.length_append, List.length_singleton]
      · intro outcome
        rw [@counter_counted _ _ _ datagram.monotonic datagram.sourceIp, h.counters, List.countP_append,
          List.countP_singleton]
      · cases result with
        | error text =>
          dsimp only [counted]
          omega
        | ok found => cases found <;> dsimp only [counted] <;> omega
      · cases result with
        | error text =>
          show listener.stats.accepted + 1 = listener.stats.parseFailed + listener.stats.forwarded + 1
          omega
        | ok found => cases found <;> simp only [counted, raisedText, Option.isSome_none] <;> simp <;> omega
      · cases result with
        | error text =>
          dsimp only [counted]
          omega
        | ok found => cases found <;> dsimp only [counted] <;> omega
      · intro count hmem
        have hless := hcount count hmem
        have hbound := h.bounded count hmem
        push_cast
        omega

end Counting

/-- **Counting.**  Whatever arrives and however the requests to the backend end: each counter says how many datagrams
    ended so; every datagram was accepted or refused for one reason; each accepted one failed to parse or was
    forwarded, but for one where something was raised, which ended the loop; each forwarded one has one of four
    outcomes; and no more datagrams are processed than the configuration says. -/
theorem listener_counts (lib : EventLibrary) (config : PfSenseListenerConfig) (arrivals : List Arrival) :
    Counts config (Runs.after (receive lib config) (.start config) arrivals) :=
  @Runs.invariant _ _ (receive lib config) (Counts config) (fun _ _ => True)
    (fun _ arrival h _ => counts_receive h arrival) _ (counts_start config) arrivals
    (Runs.along_of_forall (fun _ _ => trivial) _ _)

/-! ## Limits -/

/-- The limiter was asked about the datagram. -/
def Processed.asked (processed : Processed) : Bool := !processed.endsIn .rejectedSource

/-- The limiter let the datagram through. -/
def Processed.handled (processed : Processed) : Bool := processed.asked && !processed.endsIn .rateLimited

def limiterCalls (log : List Processed) : List (ℚ × String) :=
  (log.filter Processed.asked).map fun processed => (processed.time, processed.sourceIp)

/-- The calls of the limiter, with its answers. -/
def limiterAnswers (log : List Processed) : List Answered :=
  (log.filter Processed.asked).map fun processed => ⟨processed.time, processed.sourceIp, processed.handled⟩

/-- The times of the datagrams that were let through. -/
def handledTimes (log : List Processed) : List ℚ := (log.filter Processed.handled).map Processed.time

/-- The times of the datagrams of a source that were let through. -/
def handledFrom (sourceIp : String) (log : List Processed) : List ℚ :=
  handledTimes (log.filter fun processed => processed.sourceIp = sourceIp)

/-- When a datagram arrives, if one does. -/
def Arrival.time? (arrival : Arrival) : Option ℚ :=
  match arrival.received with
  | .datagram datagram => some datagram.monotonic
  | .timeout | .osError => none

section Limits

variable {lib : EventLibrary} {config : PfSenseListenerConfig} {send : NormalizedEvent → UrlopenResult}

/-- A datagram is looked at only where its source is allowed and the limiter allows it. -/
theorem processDatagram_limiter (datagram : Datagram) (stats : PfSenseListenerStats) (limiter : RateLimiter) :
    let result := processDatagram lib config send datagram stats limiter
    let processed : Processed := ⟨datagram.monotonic, datagram.sourceIp, result.1⟩
    (datagram.sourceIp ∉ config.allowedSourceIps ∧ processed.asked = false ∧ result.2.2 = limiter) ∨
      datagram.sourceIp ∈ config.allowedSourceIps ∧ processed.asked = true ∧
        processed.handled = (limiter.allow datagram.monotonic datagram.sourceIp).1 ∧
        result.2.2 = (limiter.allow datagram.monotonic datagram.sourceIp).2 := by
  dsimp only
  unfold processDatagram
  split
  · next hsource => exact Or.inl ⟨hsource, rfl, rfl⟩
  · next hsource =>
    refine Or.inr ⟨not_not.mp hsource, ?_⟩
    dsimp only
    split
    · next hrefused =>
      rw [Bool.not_eq_true'] at hrefused
      rw [hrefused]
      exact ⟨rfl, rfl, rfl⟩
    · next hallowed =>
      rw [Bool.not_eq_true', Bool.not_eq_false] at hallowed
      rw [hallowed]
      split
      · exact ⟨rfl, rfl, rfl⟩
      · split
        · exact ⟨rfl, rfl, rfl⟩
        · exact ⟨rfl, rfl, rfl⟩
        · split
          · exact ⟨rfl, rfl, rfl⟩
          · unfold countForwarded
            dsimp only
            split
            · exact ⟨rfl, rfl, rfl⟩
            · split
              · exact ⟨rfl, rfl, rfl⟩
              · split
                · exact ⟨rfl, rfl, rfl⟩
                · exact ⟨rfl, rfl, rfl⟩

/-- The limiter is where its calls have brought it. -/
structure Limits (config : PfSenseListenerConfig) (listener : Listener) : Prop where
  served : (Listener.start config).limiter.serve (limiterCalls listener.log) =
    (limiterAnswers listener.log, listener.limiter)
  sources : ∀ processed ∈ listener.log, processed.asked = true → processed.sourceIp ∈ config.allowedSourceIps

theorem limits_receive {listener : Listener} (h : Limits config listener) (arrival : Arrival) :
    Limits config (receive lib config listener arrival) := by
  unfold receive
  split
  · exact h
  · dsimp only
    split
    · exact ⟨h.served, h.sources⟩
    · exact ⟨h.served, h.sources⟩
    · next datagram _ =>
      have hcases := @processDatagram_limiter lib config arrival.send datagram listener.stats listener.limiter
      dsimp only at hcases
      rcases hcases with ⟨-, hasked, hlimiter⟩ | ⟨hsource, hasked, hhandled, hlimiter⟩
      · constructor <;> dsimp only
        · unfold limiterCalls limiterAnswers
          rw [List.filter_append, List.filter_singleton, hasked, cond_false, List.append_nil, hlimiter]
          exact h.served
        · intro processed hmem
          rcases List.mem_append.mp hmem with hmem | hmem
          · exact h.sources processed hmem
          · rw [List.mem_singleton.mp hmem, hasked]
            exact fun hfalse => absurd hfalse Bool.false_ne_true
      · constructor <;> dsimp only
        · unfold limiterCalls limiterAnswers
          rw [List.filter_append, List.filter_singleton, hasked, cond_true, List.map_append, List.map_append,
            List.map_singleton, List.map_singleton, serve_snoc, hhandled, hlimiter]
          have hserved := h.served
          unfold limiterCalls limiterAnswers at hserved
          rw [hserved]
        · intro processed hmem
          rcases List.mem_append.mp hmem with hmem | hmem
          · exact h.sources processed hmem
          · rw [List.mem_singleton.mp hmem]
            exact fun _ => hsource

/-- What is processed is in the order of its arrival. -/
theorem log_times (arrivals : List Arrival) : ∀ listener : Listener, ∃ times,
    times.Sublist (arrivals.filterMap Arrival.time?) ∧ (Runs.after (receive lib config) listener arrivals).log.map Processed.time =
      listener.log.map Processed.time ++ times := by
  induction arrivals with
  | nil => exact fun listener => ⟨[], List.Sublist.refl _, (List.append_nil _).symm⟩
  | cons arrival arrivals ih =>
    intro listener
    obtain ⟨times, hsub, htimes⟩ := ih (receive lib config listener arrival)
    rw [Runs.after_cons, htimes]
    unfold receive
    split
    · exact ⟨times, hsub.trans (List.Sublist.filterMap _ (List.sublist_cons_self _ _)), rfl⟩
    · dsimp only
      split
      · exact ⟨times, hsub.trans (List.Sublist.filterMap _ (List.sublist_cons_self _ _)), rfl⟩
      · exact ⟨times, hsub.trans (List.Sublist.filterMap _ (List.sublist_cons_self _ _)), rfl⟩
      · next datagram hreceived =>
        have htime : arrival.time? = some datagram.monotonic := by
          unfold Arrival.time?
          rw [hreceived]
        refine ⟨datagram.monotonic :: times, ?_, ?_⟩
        · rw [List.filterMap_cons_some htime]
          exact hsub.cons_cons _
        · dsimp only
          rw [List.map_append, List.append_assoc]
          rfl

theorem handledTimes_eq (log : List Processed) : handledTimes log = allowedTimes (limiterAnswers log) := by
  unfold handledTimes allowedTimes limiterAnswers
  rw [List.filter_map, List.map_map, List.filter_filter]
  refine congrArg _ (List.filter_congr fun processed _ => ?_)
  show processed.handled = (processed.handled && processed.asked)
  unfold Processed.handled
  cases processed.asked <;> simp

theorem handledFrom_eq (sourceIp : String) (log : List Processed) :
    handledFrom sourceIp log = allowedFrom sourceIp (limiterAnswers log) := by
  unfold handledFrom allowedFrom
  rw [handledTimes_eq]
  refine congrArg _ ?_
  unfold limiterAnswers
  rw [List.filter_map, List.filter_filter, List.filter_filter]
  refine congrArg _ (List.filter_congr fun processed _ => ?_)
  exact Bool.and_comm _ _

theorem after_limits (arrivals : List Arrival) :
    Limits config (Runs.after (receive lib config) (.start config) arrivals) :=
  @Runs.invariant _ _ (receive lib config) (Limits config) (fun _ _ => True)
    (fun _ arrival h _ => limits_receive h arrival) _ ⟨rfl, List.forall_mem_nil _⟩ arrivals
    (Runs.along_of_forall (fun _ _ => trivial) _ _)

end Limits

/-- **Limits.**  Whatever arrives at nondecreasing times, no half-open interval of one window holds more datagrams that
    the listener has handled than the limits, in total and from each source, and each of these sources is allowed. -/
theorem listener_limits (lib : EventLibrary) (config : PfSenseListenerConfig) (arrivals : List Arrival)
    (htimes : (arrivals.filterMap Arrival.time?).Pairwise (· ≤ ·)) :
    let log := (Runs.after (receive lib config) (.start config) arrivals).log
    (∀ start, countIco (max 0 config.rateLimitWindowSeconds) start (handledTimes log) ≤
        config.globalRateLimit.toNat) ∧
      (∀ sourceIp start, countIco (max 0 config.rateLimitWindowSeconds) start (handledFrom sourceIp log) ≤
        config.perSourceRateLimit.toNat) ∧
      ∀ processed ∈ log, processed.handled = true → processed.sourceIp ∈ config.allowedSourceIps := by
  intro log
  have hlimits : Limits config (Runs.after (receive lib config) (.start config) arrivals) := after_limits arrivals
  obtain ⟨times, hsub, hlog⟩ := @log_times lib config arrivals (.start config)
  have hsorted : (limiterCalls log).map Prod.fst |>.Pairwise (· ≤ ·) := by
    have hcalls : ((limiterCalls log).map Prod.fst).Sublist times := by
      unfold limiterCalls
      rw [List.map_map]
      have hfilter := (@List.filter_sublist _ Processed.asked log).map Processed.time
      rwa [hlog] at hfilter
    exact (htimes.sublist hsub).sublist hcalls
  obtain ⟨last, hlast⟩ := exists_last (limiterCalls log)
  have hserved := served_of_sorted config.globalRateLimit config.perSourceRateLimit config.rateLimitWindowSeconds
    hsorted hlast
  have hanswers : ((RateLimiter.init config.globalRateLimit config.perSourceRateLimit
      config.rateLimitWindowSeconds).serve (limiterCalls log)).1 = limiterAnswers log :=
    congrArg Prod.fst hlimits.served
  have hglobal := hserved.keeps.global_admitted
  have hsource := hserved.keeps.source_admitted
  rw [hserved.same.globalLimit, hserved.same.windowSeconds, hanswers, ← handledTimes_eq] at hglobal
  rw [hserved.same.perSourceLimit, hserved.same.windowSeconds, hanswers] at hsource
  refine ⟨countIco_le hglobal, fun sourceIp => ?_, fun processed hmem hhandled => ?_⟩
  · rw [handledFrom_eq]
    exact countIco_le (hsource sourceIp)
  · unfold Processed.handled at hhandled
    rw [Bool.and_eq_true] at hhandled
    exact hlimits.sources processed hmem hhandled.1

def smallLimits : PfSenseListenerConfig where
  bindPort := 5514
  allowedSourceIps := ["192.0.2.1"]
  apiKey := "key"
  maxPacketBytes := 4096
  globalRateLimit := 2
  perSourceRateLimit := 1
  rateLimitWindowSeconds := 1
  environment := "prod"
  maxPackets := none

/-- Datagrams without a text. -/
def emptyArrivals : List Arrival :=
  [0, 1 / 2, 1 / 2, 2].map fun time =>
    ⟨.datagram ⟨⟨0, "", false⟩, "192.0.2.1", time, ⟨0, some 0⟩, none⟩, false, fun _ => .timeout⟩

theorem emptyArrivals_limits : countIco (max 0 1) (1 / 2) (handledFrom "192.0.2.1"
    (Runs.after (receive exampleEvents smallLimits) (.start smallLimits) emptyArrivals).log) ≤ 1 :=
  (listener_limits exampleEvents smallLimits emptyArrivals (by decide +kernel)).2.1 "192.0.2.1" (1 / 2)

end SiemDashboard.PfsenseFilterlog
