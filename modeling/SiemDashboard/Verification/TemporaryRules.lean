import SiemDashboard.Engines.DetectionSimulator
import SiemDashboard.Lib.Checks

/-!
# What a temporary rule finds

* **Lists** — `inList_agrees_iff`: a list and the equality with one of its items.
* **Groups** — `Fits`, `collect_fits`: the events of a group are matching events of its value.
* **Windows** — `eventsInWindow_spec`.
* **Evidence** — `reportedGroup_evidence`: what a reported match stands for.
-/

namespace SiemDashboard.DetectionSimulator

open Python PfsenseFilterlog Checks

/-! ## Lists -/

section

variable {lib : Library}

@[simp] theorem sameValue_str {s : String} {v : Json} : sameValue lib (.str s) v = true ↔ v = .str s := by
  cases v with
  | str t => simp [sameValue, eq_comm]
  | _ => simp [sameValue]

theorem eq_str_of_sameValue {v : Json} {t : String} (h : sameValue lib v (.str t) = true) : v = .str t := by
  cases v with
  | str s => simpa [sameValue] using h
  | _ => simp [sameValue] at h

@[simp] theorem sameValue_int {m n : Int} : sameValue lib (.int m) (.int n) = decide (m = n) := rfl

/-- The value of a numeric field is an integer, if there is one. -/
theorem extract_numeric {event actual : Json} {field : Field} (hnumeric : field.isNumeric = true)
    (h : extractTemporaryRuleField lib event field = .ok actual) : actual = .null ∨ ∃ n, actual = .int n := by
  unfold extractTemporaryRuleField at h
  cases field with
  | destinationPort =>
    dsimp only at h
    exact integerField_cases h
  | httpStatus =>
    dsimp only at h
    exact firstInteger_cases h
  | _ => cases hnumeric

/-- The scalar is of the kind that the field is compared with. -/
def Suits (field : Field) : Scalar → Prop
  | .int _ => field.isNumeric = true
  | .text _ => field.isNumeric = false

theorem validateScalar_suits {field : Field} {value : Json} {fieldName : String} {scalar : Scalar}
    (h : validateScalar field value fieldName = .ok scalar) : Suits field scalar := by
  rw [validateScalar] at h
  split at h
  · next hnumeric =>
    obtain ⟨n, -, rfl⟩ := map_eq_ok.1 h
    exact hnumeric
  · next hnumeric =>
    obtain ⟨s, -, rfl⟩ := map_eq_ok.1 h
    exact Bool.eq_false_iff.2 hnumeric

/-- The items of an accepted list are of the kind of the field. -/
theorem validateList_suits {field : Field} {value : Json} {items : List Scalar}
    (h : validateTemporaryRuleValue field .inList value = .ok (.list items)) :
    ∀ item ∈ items, Suits field item := by
  have hallowed : (!(if field.isNumeric then Operator.inList.forNumbers else Operator.inList.forStrings)) =
      false := by
    split <;> rfl
  unfold validateTemporaryRuleValue at h
  rw [hallowed, if_neg Bool.false_ne_true, if_pos rfl] at h
  split at h
  · split at h
    · cases h
    · obtain ⟨scalars, hscalars, heq⟩ := map_eq_ok.1 h
      cases heq
      intro item hitem
      obtain ⟨value, -, hvalue⟩ := exists_of_mem_mapM hscalars hitem
      exact validateScalar_suits hvalue
  · cases h

/-- A text is in a list where it is equal to one of the items. -/
theorem inList_text {items : List Scalar} {text : String} (htexts : ∀ item ∈ items, ∃ s, item = .text s) :
    temporaryRuleValueMatches lib .inList (.list items) (.str text) = true ↔
      ∃ item ∈ items, temporaryRuleValueMatches lib .equals (.scalar item) (.str text) = true := by
  have hlist : temporaryRuleValueMatches lib .inList (.list items) (.str text) =
      decide (Scalar.text (fold lib text) ∈ items.map (foldScalar lib)) := rfl
  rw [hlist, decide_eq_true_eq, List.mem_map]
  refine exists_congr fun item => and_congr_right fun hitem => ?_
  obtain ⟨s, rfl⟩ := htexts item hitem
  have hequals : temporaryRuleValueMatches lib .equals (.scalar (.text s)) (.str text) =
      decide (fold lib text = fold lib s) := rfl
  rw [hequals, decide_eq_true_eq, foldScalar, Scalar.text.injEq, eq_comm]

theorem inList_int {items : List Scalar} {n : Int} (hints : ∀ item ∈ items, ∃ m, item = .int m) :
    temporaryRuleValueMatches lib .inList (.list items) (.int n) = true ↔
      ∃ item ∈ items, temporaryRuleValueMatches lib .equals (.scalar item) (.int n) = true := by
  have hlist : temporaryRuleValueMatches lib .inList (.list items) (.int n) =
      items.any fun item => sameValue lib item.json (.int n) := rfl
  rw [hlist, List.any_eq_true]
  refine exists_congr fun item => and_congr_right fun hitem => ?_
  obtain ⟨m, rfl⟩ := hints item hitem
  have hequals : temporaryRuleValueMatches lib .equals (.scalar (.int m)) (.int n) = decide (n = m) := rfl
  rw [hequals, Scalar.json, sameValue_int, decide_eq_true_eq, decide_eq_true_eq, eq_comm]

/-- What is neither missing nor a text is in no list of texts. -/
theorem inList_other {items : List Scalar} {actual : Json} (htexts : ∀ item ∈ items, ∃ s, item = .text s)
    (hnull : actual.isNull = false) (hstr : actual.str? = none) :
    temporaryRuleValueMatches lib .inList (.list items) actual = false := by
  have hlist : temporaryRuleValueMatches lib .inList (.list items) actual =
      items.any fun item => sameValue lib item.json actual := by
    cases actual with
    | str s => cases hstr
    | null => cases hnull
    | _ => rfl
  rw [hlist, List.any_eq_false]
  intro item hitem hsame
  obtain ⟨s, rfl⟩ := htexts item hitem
  rw [Scalar.json, sameValue_str] at hsame
  rw [hsame] at hstr
  cases hstr

theorem equals_text {actual : Json} (hnull : actual.isNull = false) (s : String) :
    temporaryRuleValueMatches lib .equals (.scalar (.text s)) actual = true ↔
      fold lib (display lib.py actual) = fold lib s := by
  have hequals : temporaryRuleValueMatches lib .equals (.scalar (.text s)) actual =
      decide (fold lib (display lib.py actual) = fold lib s) := by
    rw [temporaryRuleValueMatches, hnull]
    rfl
  rw [hequals, decide_eq_true_eq]

@[simp] theorem matches_null (operator : Operator) (expected : Expected) :
    temporaryRuleValueMatches lib operator expected .null = false := rfl

/-- The value of a field is a text, or missing, or no item of the list is its text up to case and blanks. -/
def ReadsAsText (lib : Library) (items : List Scalar) (actual : Json) : Prop :=
  actual = .null ∨ (∃ s, actual = .str s) ∨
    ∀ item ∈ items, foldScalar lib item ≠ .text (fold lib (display lib.py actual))

end

/-- A list agrees with the equalities that it stands for, where the field is numeric or its value is a text or
    missing; another value is compared by its text in an equality, and never found in a list of texts. -/
theorem inList_agrees_iff (lib : Library) (field : Field) (value : Json) (items : List Scalar)
    (hitems : validateTemporaryRuleValue field .inList value = .ok (.list items)) (event actual : Json)
    (hactual : extractTemporaryRuleField lib event field = .ok actual) :
    (temporaryRuleValueMatches lib .inList (.list items) actual = true ↔
        ∃ item ∈ items, temporaryRuleValueMatches lib .equals (.scalar item) actual = true) ↔
      field.isNumeric = true ∨ ReadsAsText lib items actual := by
  have hsuits := validateList_suits hitems
  by_cases hnumeric : field.isNumeric = true
  · refine iff_of_true ?_ (Or.inl hnumeric)
    rcases extract_numeric hnumeric hactual with rfl | ⟨n, rfl⟩
    · simp
    · refine inList_int fun item hitem => ?_
      cases item with
      | int m => exact ⟨m, rfl⟩
      | text s => exact absurd (hsuits _ hitem) (by simp [Suits, hnumeric])
  have htexts : ∀ item ∈ items, ∃ s, item = .text s := by
    intro item hitem
    cases item with
    | text s => exact ⟨s, rfl⟩
    | int m => exact absurd (hsuits _ hitem) hnumeric
  rw [or_iff_right hnumeric, ReadsAsText]
  cases hnull : actual.isNull with
  | true =>
    cases actual with
    | null => simp
    | _ => cases hnull
  | false =>
    cases hstr : actual.str? with
    | some s =>
      rw [Json.str?_eq_some] at hstr
      subst hstr
      exact iff_of_true (inList_text htexts) (Or.inr (Or.inl ⟨s, rfl⟩))
    | none =>
      have hnot : ¬ (actual = .null ∨ ∃ s, actual = .str s) := by
        rintro (rfl | ⟨s, rfl⟩)
        · cases hnull
        · cases hstr
      have hor : actual = .null ∨ (∃ s, actual = .str s) ∨
          (∀ item ∈ items, foldScalar lib item ≠ .text (fold lib (display lib.py actual))) ↔
          ∀ item ∈ items, foldScalar lib item ≠ .text (fold lib (display lib.py actual)) := by
        rw [← or_assoc]
        exact or_iff_right hnot
      rw [inList_other htexts hnull hstr, hor]
      simp only [Bool.false_eq_true, false_iff, not_exists, not_and]
      refine forall_congr' fun item => forall_congr' fun hitem => not_congr ?_
      obtain ⟨s, rfl⟩ := htexts item hitem
      rw [equals_text hnull, foldScalar, Scalar.text.injEq, eq_comm]

/-- An interpreter that writes integers, reads no times but two, and a database that stores every text. -/
def exampleLibrary : Library where
  py := ⟨fun _ => "", fun _ => "", fun _ _ => .ok none⟩
  digits := .ascii
  lower := lower
  fromisoformat text :=
    if text = "2024-05-01T08:00:00+00:00" then some ⟨63850147200000000, some 0⟩
    else if text = "2024-05-03T08:00:00+00:00" then some ⟨63850320000000000, some 0⟩
    else none
  inet value := value.str?
  inet_null := rfl

/-- A failed login at the bank. -/
def loginEvent (username : Json) (sourceIp timestamp : String) : Json :=
  .obj [("event_type", .str "failed_login"), ("severity", .str "high"), ("source_ip", .str sourceIp),
    ("event_timestamp", .str timestamp), ("raw_payload", .obj [("username", username)])]

theorem adminInList_agrees :
    temporaryRuleValueMatches exampleLibrary .inList (.list [.text "Admin", .text "root"]) (.str "ADMIN ") =
        true ↔
      ∃ item ∈ [Scalar.text "Admin", .text "root"],
        temporaryRuleValueMatches exampleLibrary .equals (.scalar item) (.str "ADMIN ") = true :=
  (inList_agrees_iff exampleLibrary .username (.arr [.str " Admin", .str "root"]) _ (by rfl)
    (loginEvent (.str "ADMIN ") "198.51.100.7" "") _ (by rfl)).2 (Or.inr (Or.inr (Or.inl ⟨_, rfl⟩)))

/-- The number 1001 is equal to the text `1001` and not in the list of it. -/
theorem numberInList_disagrees :
    validateTemporaryRuleValue .username .inList (.arr [.str "1001"]) = .ok (.list [.text "1001"]) ∧
      extractTemporaryRuleField exampleLibrary (loginEvent (.int 1001) "198.51.100.7" "") .username =
        .ok (.int 1001) ∧
      ¬ (temporaryRuleValueMatches exampleLibrary .inList (.list [.text "1001"]) (.int 1001) = true ↔
        ∃ item ∈ [Scalar.text "1001"],
          temporaryRuleValueMatches exampleLibrary .equals (.scalar item) (.int 1001) = true) := by
  refine ⟨by rfl, by rfl, fun hagrees => ?_⟩
  have hequals : ∃ item ∈ [Scalar.text "1001"],
      temporaryRuleValueMatches exampleLibrary .equals (.scalar item) (.int 1001) = true :=
    ⟨_, List.mem_singleton_self _, by decide +kernel⟩
  have hlist := hagrees.2 hequals
  exact absurd hlist (by decide +kernel)

/-! ## Groups -/

section

variable {lib : Library} {rule : TemporaryRule}

/-- The event counts for the rule, and its value is this one. -/
def HasValue (lib : Library) (rule : TemporaryRule) (key : Json) (event : Json) : Prop :=
  ∃ value, groupValue lib rule event = .ok (some value) ∧ (value = key ∨ sameValue lib key value = true)

/-- The group is made of some of the events, each of which has its value. -/
structure Fits (lib : Library) (rule : TemporaryRule) (events : List Json) (group : Group) : Prop where
  part : group.events.Sublist events
  value : ∀ event ∈ group.events, HasValue lib rule group.key event

theorem Fits.append {events : List Json} {group : Group} (h : Fits lib rule events group) (more : List Json) :
    Fits lib rule (events ++ more) group :=
  ⟨h.part.trans (List.sublist_append_left events more), h.value⟩

/-- What one more event does to the groups. -/
theorem addToGroup_cases {value event : Json} {groups : List Group} {group : Group}
    (h : group ∈ addToGroup lib value event groups) :
    group ∈ groups ∨ group = ⟨value, [event]⟩ ∨
      ∃ old ∈ groups, sameValue lib old.key value = true ∧ group = ⟨old.key, old.events ++ [event]⟩ := by
  induction groups with
  | nil => exact Or.inr (Or.inl (List.mem_singleton.1 h))
  | cons first rest ih =>
    rw [addToGroup] at h
    split at h
    · next hsame =>
      rcases List.mem_cons.1 h with rfl | hrest
      · exact Or.inr (Or.inr ⟨first, List.mem_cons_self, hsame, rfl⟩)
      · exact Or.inl (List.mem_cons_of_mem _ hrest)
    · rcases List.mem_cons.1 h with rfl | hrest
      · exact Or.inl List.mem_cons_self
      · rcases ih hrest with hold | hnew | ⟨old, hold, hsame, heq⟩
        · exact Or.inl (List.mem_cons_of_mem _ hold)
        · exact Or.inr (Or.inl hnew)
        · exact Or.inr (Or.inr ⟨old, List.mem_cons_of_mem _ hold, hsame, heq⟩)

/-- An event that counts goes into a group of its value. -/
theorem addToGroup_fits {done : List Json} {groups : List Group} {value event : Json}
    (hvalue : groupValue lib rule event = .ok (some value))
    (hfits : ∀ group ∈ groups, Fits lib rule done group) :
    ∀ group ∈ addToGroup lib value event groups, Fits lib rule (done ++ [event]) group := by
  intro group hgroup
  rcases addToGroup_cases hgroup with hold | rfl | ⟨old, hold, hsame, rfl⟩
  · exact (hfits group hold).append [event]
  · refine ⟨List.sublist_append_right done [event], fun other hother => ?_⟩
    rw [List.mem_singleton.1 hother]
    exact ⟨value, hvalue, Or.inl rfl⟩
  · refine ⟨(hfits old hold).part.append (List.Sublist.refl [event]), fun other hother => ?_⟩
    rcases List.mem_append.1 hother with hother | hother
    · exact (hfits old hold).value other hother
    · rw [List.mem_singleton.1 hother]
      exact ⟨value, hvalue, Or.inr hsame⟩

/-- The groups are made of the events that the loop has passed. -/
theorem collect_fits {events done : List Json} {before collected : Collected}
    (h : collect lib rule events before = .ok collected)
    (hfits : ∀ group ∈ before.groups, Fits lib rule done group) :
    ∀ group ∈ collected.groups, Fits lib rule (done ++ events) group := by
  induction events generalizing done before with
  | nil =>
    cases h
    rw [List.append_nil]
    exact hfits
  | cons event events ih =>
    rw [collect] at h
    obtain ⟨found, hfound, h⟩ := bind_eq_ok.1 h
    rw [List.append_cons]
    cases found with
    | none => exact ih h fun group hgroup => (hfits group hgroup).append [event]
    | some value => exact ih h (addToGroup_fits hfound hfits)

/-- A group that is looked up by a text is that of the text. -/
theorem eventsOf_cases {text : String} {groups : List Group} {event : Json}
    (h : event ∈ eventsOf lib text groups) :
    ∃ group ∈ groups, group.key = .str text ∧ event ∈ group.events := by
  unfold eventsOf at h
  split at h
  · next group hfound =>
    have hsame := List.find?_some hfound
    exact ⟨group, List.mem_of_find?_eq_some hfound, eq_str_of_sameValue hsame, h⟩
  · cases h

/-! ## Windows -/

/-- The event has a readable timestamp. -/
def Stamped (lib : Library) (event : Json) (time : Int) : Prop :=
  parseIsoTimestamp lib (event.get "event_timestamp") = .ok (some time)

theorem allSome_cons {α : Type} (option : Option α) (options : List (Option α)) :
    (option :: options).allSome = option.bind fun value => options.allSome.map (value :: ·) := by
  unfold List.allSome
  rw [List.mapM_cons]
  cases option with
  | none => rfl
  | some value => cases options.mapM id <;> rfl

theorem allSome_eq_some {α : Type} {options : List (Option α)} {values : List α} :
    options.allSome = some values ↔ options = values.map some := by
  induction options generalizing values with
  | nil =>
    constructor
    · intro h
      cases h
      rfl
    · intro h
      rw [List.map_eq_nil_iff.1 h.symm]
      rfl
  | cons option options ih =>
    rw [allSome_cons]
    cases option with
    | none =>
      cases values with
      | nil => simp
      | cons first rest => simp
    | some value =>
      rw [Option.bind_some, Option.map_eq_some_iff]
      cases values with
      | nil => simp
      | cons first rest => simp [ih, and_comm]

theorem map_fst_filter_zip_sublist {α β : Type} (as : List α) (bs : List β) (p : α × β → Bool) :
    (((as.zip bs).filter p).map Prod.fst).Sublist as := by
  have hzip : ((as.zip bs).map Prod.fst).Sublist as := by
    induction as generalizing bs with
    | nil => simp
    | cons a as ih =>
      cases bs with
      | nil => simp
      | cons b bs =>
        rw [List.zip_cons_cons, List.map_cons]
        exact (ih bs).cons_cons a
  exact (List.filter_sublist.map Prod.fst).trans hzip

/-- Where every event has a timestamp, none is missing. -/
theorem times_of_stamped {events : List Json} {timestamps : List (Option Int)}
    (hpairs : List.Forall₂ (fun event timestamp =>
      parseIsoTimestamp lib (event.get "event_timestamp") = .ok timestamp) events timestamps)
    (hstamped : ∀ event ∈ events, ∃ time, Stamped lib event time) :
    ∃ times : List Int, timestamps = times.map some := by
  induction hpairs with
  | nil => exact ⟨[], rfl⟩
  | @cons event timestamp _ _ hread _ ih =>
    obtain ⟨time, htime⟩ := hstamped event List.mem_cons_self
    obtain ⟨times, rfl⟩ := ih fun other hother => hstamped other (List.mem_cons_of_mem _ hother)
    rw [Stamped, hread] at htime
    cases htime
    exact ⟨time :: times, rfl⟩

/-- The events of a window are some of the events, and where all events have a timestamp they lie within the
    rule's minutes before the last one. -/
theorem eventsInWindow_spec {events window : List Json} {basis : WindowBasis}
    (h : eventsInWindow lib rule events = .ok (window, basis)) :
    window.Sublist events ∧
      ((∀ event ∈ events, ∃ time, Stamped lib event time) →
        ∃ start, ∀ event ∈ window, ∃ time, Stamped lib event time ∧ start ≤ time ∧
          time ≤ start + windowMicros rule) := by
  unfold eventsInWindow at h
  obtain ⟨timestamps, htimestamps, h⟩ := bind_eq_ok.1 h
  have hpairs := mapM_forall₂ htimestamps
  cases htimes : timestamps.allSome with
  | none =>
    rw [htimes] at h
    cases h
    refine ⟨List.Sublist.refl events, fun hstamped => ?_⟩
    obtain ⟨times, hall⟩ := times_of_stamped hpairs hstamped
    rw [allSome_eq_some.2 hall] at htimes
    cases htimes
  | some times =>
    rw [allSome_eq_some] at htimes
    subst htimes
    rw [allSome_eq_some.2 rfl] at h
    cases hmax : times.max? with
    | none =>
      rw [Option.bind_some, hmax] at h
      cases h
      have hnil : times = [] := List.max?_eq_none_iff.1 hmax
      have hevents : events = [] := by
        rw [hnil] at hpairs
        exact List.forall₂_nil_right_iff.1 hpairs
      rw [hevents]
      exact ⟨List.Sublist.refl [], fun _ => ⟨0, fun event hevent => by cases hevent⟩⟩
    | some windowEnd =>
      rw [Option.bind_some, hmax] at h
      dsimp only [Option.map_some] at h
      obtain ⟨windowStart, hstart, h⟩ := bind_eq_ok.1 h
      cases h
      obtain ⟨-, rfl⟩ := checked_eq_ok.1 hstart
      refine ⟨map_fst_filter_zip_sublist events times _, fun _ =>
        ⟨windowEnd - windowMicros rule, fun event hevent => ?_⟩⟩
      obtain ⟨⟨other, time⟩, hpair, rfl⟩ := List.mem_map.1 hevent
      obtain ⟨hzip, hlow⟩ := List.mem_filter.1 hpair
      have hread : Stamped lib other time := by
        have hzip' : (other, some time) ∈ events.zip (times.map some) := by
          rw [List.zip_map_right]
          exact List.mem_map.2 ⟨(other, time), hzip, rfl⟩
        exact List.forall₂_zip hpairs hzip'
      have hhigh : time ≤ windowEnd :=
        (List.max?_eq_some_iff.1 hmax).2 time (List.of_mem_zip hzip).2
      refine ⟨time, hread, of_decide_eq_true hlow, ?_⟩
      show time ≤ _
      omega

/-! ## Evidence -/

/-- The source address of a list of events is that of one of them, or missing. -/
theorem firstSourceIp_cases (events : List Json) :
    firstSourceIp events = .null ∨ ∃ event ∈ events, firstSourceIp events = event.get "source_ip" := by
  unfold firstSourceIp
  cases hfound : (events.map fun event => event.get "source_ip").find? Json.truthy with
  | none => exact Or.inl rfl
  | some address =>
    obtain ⟨event, hevent, rfl⟩ := List.mem_map.1 (List.mem_of_find?_eq_some hfound)
    exact Or.inr ⟨event, hevent, rfl⟩

theorem insertTemporaryAlertPreview_eq_ok {matchedGroup : String} {observedValue : Nat} {sourceIp : Json}
    {alert : AlertPreview}
    (h : insertTemporaryAlertPreview lib rule matchedGroup observedValue sourceIp = .ok alert) :
    lib.inet sourceIp = some alert.sourceIp := by
  unfold insertTemporaryAlertPreview at h
  split at h
  · cases h
  · next hinet =>
    cases h
    exact hinet

theorem groupResult_eq_ok {group : Group} {result : GroupResult}
    (h : groupResult lib rule group = .ok result) :
    ∃ window, eventsInWindow lib rule group.events = .ok (window, result.windowBasis) ∧
      result.groupValue = display lib.py group.key ∧ result.matchCount = window.length := by
  unfold groupResult at h
  obtain ⟨⟨window, basis⟩, hwindow, h⟩ := bind_eq_ok.1 h
  cases h
  exact ⟨window, hwindow, rfl, rfl⟩

/-- What a run that reports a match has found: the largest of the groups, and an alert with the first address of
    the events that are looked up by the group's text. -/
theorem run_matched {events : List Json} {report : Report}
    (hrun : runTemporaryPipeline lib rule events = .ok report) (hmatched : report.matched = true) :
    ∃ collected, collect lib rule (candidateEvents rule events) ⟨[], []⟩ = .ok collected ∧
      ∃ group ∈ collected.groups, ∃ window basis, eventsInWindow lib rule group.events = .ok (window, basis) ∧
        report.matchedGroup = some (display lib.py group.key) ∧ rule.threshold ≤ window.length ∧
        ∃ alert, report.alert = some alert ∧
          lib.inet (firstSourceIp (eventsOf lib (display lib.py group.key) collected.groups)) =
            some alert.sourceIp := by
  unfold runTemporaryPipeline at hrun
  dsimp only at hrun
  obtain ⟨collected, hcollected, hrun⟩ := bind_eq_ok.1 hrun
  refine ⟨collected, hcollected, ?_⟩
  obtain ⟨results, hresults, hrun⟩ := bind_eq_ok.1 hrun
  cases htop : ((results.insertionSort GroupResult.before).take 50).head? with
  | none =>
    rw [htop] at hrun
    cases hrun
    cases hmatched
  | some top =>
    rw [htop] at hrun
    dsimp only at hrun
    have hmem : top ∈ results :=
      (List.perm_insertionSort _ results).mem_iff.1 (List.mem_of_mem_take (List.mem_of_head? htop))
    obtain ⟨group, hgroup, hresult⟩ := exists_of_mem_mapM hresults hmem
    obtain ⟨window, hwindow, hvalue, hcount⟩ := groupResult_eq_ok hresult
    split at hrun
    · next hthreshold =>
      obtain ⟨alert, halert, hrun⟩ := bind_eq_ok.1 hrun
      cases hrun
      rw [hvalue] at halert
      exact ⟨group, hgroup, window, top.windowBasis, hwindow, congrArg some hvalue, hcount ▸ hthreshold, alert,
        rfl, insertTemporaryAlertPreview_eq_ok halert⟩
    · cases hrun
      cases hmatched

theorem validateBoundedInt_eq_ok {value : Json} {fieldName : String} {minimum maximum n : Int}
    (h : validateBoundedInt value fieldName minimum maximum = .ok n) : minimum ≤ n ∧ n ≤ maximum := by
  unfold validateBoundedInt at h
  split at h
  · split at h
    · cases h
    · next hbounds =>
      cases h
      omega
  · cases h

/-- What a reported match is meant to show: events of the reported value within one window, as many as the
    threshold asks for, one of which has the address of the alert. -/
def ReportsItsEvidence (lib : Library) (rule : TemporaryRule) (events : List Json) (report : Report) : Prop :=
  ∃ key window, report.matchedGroup = some (display lib.py key) ∧
    window.Sublist (candidateEvents rule events) ∧ window ≠ [] ∧ rule.threshold ≤ window.length ∧
    (∀ event ∈ window, HasValue lib rule key event) ∧
    (∃ start, ∀ event ∈ window, ∀ time, Stamped lib event time →
      start ≤ time ∧ time ≤ start + windowMicros rule) ∧
    ∃ alert, report.alert = some alert ∧ ∃ event ∈ window,
      lib.inet (event.get "source_ip") = some alert.sourceIp

theorem threshold_pos {digits : Digits} {json : Json}
    (h : validateTemporaryRuleContract digits json = .ok rule) : 1 ≤ rule.threshold := by
  unfold validateTemporaryRuleContract at h
  obtain ⟨-, -, h⟩ := bind_eq_ok.1 h
  obtain ⟨-, -, h⟩ := bind_eq_ok.1 h
  obtain ⟨source, -, h⟩ := bind_eq_ok.1 h
  obtain ⟨inputFormat, -, h⟩ := bind_eq_ok.1 h
  obtain ⟨-, -, h⟩ := bind_eq_ok.1 h
  obtain ⟨eventType, -, h⟩ := bind_eq_ok.1 h
  obtain ⟨-, -, h⟩ := bind_eq_ok.1 h
  obtain ⟨condition, -, h⟩ := bind_eq_ok.1 h
  obtain ⟨groupByField, -, h⟩ := bind_eq_ok.1 h
  obtain ⟨threshold, hthreshold, h⟩ := bind_eq_ok.1 h
  obtain ⟨windowMinutes, -, h⟩ := bind_eq_ok.1 h
  obtain ⟨severity, -, h⟩ := bind_eq_ok.1 h
  obtain ⟨-, -, h⟩ := bind_eq_ok.1 h
  obtain ⟨mitreTechniqueId, -, h⟩ := bind_eq_ok.1 h
  obtain ⟨-, -, h⟩ := bind_eq_ok.1 h
  have hrule : rule.threshold = threshold := by
    cases h
    rfl
  rw [hrule]
  exact (validateBoundedInt_eq_ok hthreshold).1

/-- The value of an event that counts is that of the field. -/
theorem groupValue_eq_some {event value : Json} (h : groupValue lib rule event = .ok (some value)) :
    extractTemporaryRuleField lib event rule.groupByField = .ok value := by
  unfold groupValue at h
  obtain ⟨holds, -, h⟩ := bind_eq_ok.1 h
  split at h
  · cases h
  · obtain ⟨found, hfound, h⟩ := bind_eq_ok.1 h
    split at h
    · cases h
    · split at h
      · cases h
        exact hfound
      · cases h

/-- The events of a source address have it. -/
theorem HasValue.sourceIp {text : String} {event : Json} (hfield : rule.groupByField = .sourceIp)
    (h : HasValue lib rule (.str text) event) : event.get "source_ip" = .str text := by
  obtain ⟨value, hvalue, hsame⟩ := h
  have hextract := groupValue_eq_some hvalue
  rw [hfield] at hextract
  rw [show event.get "source_ip" = value from Except.ok.inj hextract]
  rcases hsame with rfl | hsame
  · rfl
  · exact sameValue_str.1 hsame

/-- The address of an alert is that of an event of the group whose key is the text. -/
theorem alert_of_text {events : List Json} {text address : String} {collected : Collected}
    (hfits : ∀ group ∈ collected.groups, Fits lib rule events group)
    (h : lib.inet (firstSourceIp (eventsOf lib text collected.groups)) = some address) :
    ∃ event ∈ events, HasValue lib rule (.str text) event ∧ lib.inet (event.get "source_ip") = some address := by
  rcases firstSourceIp_cases (eventsOf lib text collected.groups) with hnull | ⟨event, hevent, hfirst⟩
  · rw [hnull, lib.inet_null] at h
    cases h
  · obtain ⟨group, hgroup, hkey, hmem⟩ := eventsOf_cases hevent
    have hfit := hfits group hgroup
    refine ⟨event, hfit.part.subset hmem, ?_, hfirst ▸ h⟩
    rw [← hkey]
    exact hfit.value event hmem

theorem run_fits {events : List Json} {collected : Collected}
    (h : collect lib rule events ⟨[], []⟩ = .ok collected) :
    ∀ group ∈ collected.groups, Fits lib rule events group := by
  have hstart : ∀ group ∈ (⟨[], []⟩ : Collected).groups, Fits lib rule [] group := fun group hgroup => by
    cases hgroup
  exact collect_fits h hstart

/-- A rule that groups by a number never reports a match: its groups are looked up by their texts, and the
    database refuses an alert without an address. -/
theorem numericGroup_noMatch (hnumeric : rule.groupByField.isNumeric = true) {events : List Json}
    {report : Report} (hrun : runTemporaryPipeline lib rule events = .ok report) : report.matched = false := by
  by_contra hnot
  obtain ⟨collected, hcollected, group, hgroup, window, basis, -, -, -, alert, -, haddress⟩ :=
    run_matched hrun (Bool.not_eq_false _ ▸ hnot)
  obtain ⟨event, -, ⟨value, hvalue, hsame⟩, -⟩ := alert_of_text (run_fits hcollected) haddress
  have hstr : value = .str (display lib.py group.key) := by
    rcases hsame with heq | hsame
    · exact heq
    · exact sameValue_str.1 hsame
  rcases extract_numeric hnumeric (groupValue_eq_some hvalue) with hnull | ⟨n, hint⟩
  · rw [hstr] at hnull
    cases hnull
  · rw [hstr] at hint
    cases hint

end

/-- What a reported match stands for: as many events of one value as the threshold asks for, from one window
    where all events of the value have a timestamp; for a value that is a text the alert has the address of an
    event of that value, and of one of the window where the value is the address. -/
theorem reportedGroup_evidence (lib : Library) (json : Json) (rule : TemporaryRule)
    (hrule : validateTemporaryRuleContract lib.digits json = .ok rule) (events : List Json) (report : Report)
    (hrun : runTemporaryPipeline lib rule events = .ok report) (hmatched : report.matched = true) :
    ∃ key window, report.matchedGroup = some (display lib.py key) ∧
      window.Sublist (candidateEvents rule events) ∧ window ≠ [] ∧ rule.threshold ≤ window.length ∧
      (∀ event ∈ window, HasValue lib rule key event) ∧
      ((∀ event ∈ candidateEvents rule events, HasValue lib rule key event →
          ∃ time, Stamped lib event time) →
        ∃ start, ∀ event ∈ window, ∃ time, Stamped lib event time ∧ start ≤ time ∧
          time ≤ start + windowMicros rule) ∧
      ∀ text, key = .str text → ∃ alert, report.alert = some alert ∧
        (∃ event ∈ candidateEvents rule events, HasValue lib rule key event ∧
          lib.inet (event.get "source_ip") = some alert.sourceIp) ∧
        (rule.groupByField = .sourceIp → ∃ event ∈ window,
          lib.inet (event.get "source_ip") = some alert.sourceIp) := by
  obtain ⟨collected, hcollected, group, hgroup, window, basis, hwindow, hreported, hthreshold, alert, halert,
    haddress⟩ := run_matched hrun hmatched
  have hfits := run_fits hcollected
  have hfit := hfits group hgroup
  obtain ⟨hpart, hstamped⟩ := eventsInWindow_spec hwindow
  have hpos := threshold_pos hrule
  have hne : window ≠ [] := by
    rintro rfl
    rw [List.length_nil] at hthreshold
    omega
  refine ⟨group.key, window, hreported, hpart.trans hfit.part, hne, hthreshold, ?_, ?_, ?_⟩
  · intro event hevent
    exact hfit.value event (hpart.subset hevent)
  · intro hall
    exact hstamped fun event hevent =>
      hall event (hfit.part.subset hevent) (hfit.value event hevent)
  · intro text htext
    have hshown : display lib.py group.key = text := by rw [htext]; rfl
    rw [hshown] at haddress
    obtain ⟨event, hevent, hvalue, hinet⟩ := alert_of_text hfits haddress
    refine ⟨alert, halert, ⟨event, hevent, htext ▸ hvalue, hinet⟩, fun hfield => ?_⟩
    obtain ⟨other, hother⟩ := List.exists_mem_of_ne_nil window hne
    have hvalue' := hfit.value other (hpart.subset hother)
    rw [htext] at hvalue'
    refine ⟨other, hother, ?_⟩
    rw [hvalue'.sourceIp hfield, ← hvalue.sourceIp hfield]
    exact hinet

/-- A rule about serious events at the bank. -/
def loginRuleJson (groupByField : String) (threshold : Int) : Json :=
  .obj [("source", .str "bank_app"), ("source_type", .str "custom"), ("input_format", .str "json_array"),
    ("condition", .obj [("field", .str "severity"), ("operator", .str "equals"), ("value", .str "high")]),
    ("aggregation", .obj [("type", .str "count"), ("group_by_field", .str groupByField)]),
    ("threshold", .int threshold), ("window_minutes", .int 5), ("severity", .str "high")]

def loginRule (groupByField : Field) (threshold : Int) : TemporaryRule where
  source := .bankApp
  inputFormat := "json_array"
  eventType := none
  condition := .leaf .severity .equals (.scalar (.text "high"))
  groupByField := groupByField
  threshold := threshold
  windowMinutes := 5
  severity := "high"
  mitreTechniqueId := none

/-- What is reported of one group that reaches the threshold. -/
def loginReport (groupByField group : String) (candidates : Nat) (results : List GroupResult) (top : GroupResult)
    (sourceIp : String) : Report where
  candidateEventCount := candidates
  matchingEventCount := candidates
  groupedResults := results
  matched := true
  matchedGroup := some group
  observedValue := top.matchCount
  windowBasis := top.windowBasis
  alert := some ⟨sourceIp, "high", s!"Temporary playground rule matched {top.matchCount} event(s) for " ++
    s!"{groupByField}={group} within 5 minute(s) on any event type.", none⟩

/-- Two failed logins from one address at one time. -/
theorem twoLogins_evidence :
    ∃ key window, some "198.51.100.7" = some (display exampleLibrary.py key) ∧
      window.Sublist [loginEvent (.str "ann") "198.51.100.7" "2024-05-01T08:00:00Z",
        loginEvent (.str "bob") "198.51.100.7" "2024-05-01T08:00:00Z"] ∧ window ≠ [] ∧
      (2 : Int) ≤ window.length := by
  obtain ⟨key, window, hgroup, hpart, hne, hlength, -⟩ := reportedGroup_evidence exampleLibrary
    (loginRuleJson "source_ip" 2) (loginRule .sourceIp 2) (by rfl)
    [loginEvent (.str "ann") "198.51.100.7" "2024-05-01T08:00:00Z",
      loginEvent (.str "bob") "198.51.100.7" "2024-05-01T08:00:00Z"]
    (loginReport "source_ip" "198.51.100.7" 2 [⟨"198.51.100.7", 2, .eventTimestamps, .str "198.51.100.7"⟩]
      ⟨"198.51.100.7", 2, .eventTimestamps, .str "198.51.100.7"⟩ "198.51.100.7") (by rfl) rfl
  exact ⟨key, window, hgroup, hpart, hne, hlength⟩

section

variable {rule : TemporaryRule}

theorem windowMicros_loginRule (groupByField : Field) (threshold : Int) :
    windowMicros (loginRule groupByField threshold) = 300000000 := rfl

/-- The third login of a user has no timestamp: the other two, two days apart, count together. -/
theorem withoutTimestamps_noEvidence :
    ¬ ReportsItsEvidence exampleLibrary (loginRule .username 3)
      [loginEvent (.str "ann") "198.51.100.7" "2024-05-01T08:00:00Z",
        loginEvent (.str "ann") "198.51.100.7" "2024-05-03T08:00:00Z", loginEvent (.str "ann") "198.51.100.7" ""]
      (loginReport "username" "ann" 3 [⟨"ann", 3, .requestScopeWithoutTimestamps, .str "198.51.100.7"⟩]
        ⟨"ann", 3, .requestScopeWithoutTimestamps, .str "198.51.100.7"⟩ "198.51.100.7") := by
  rintro ⟨key, window, -, hpart, -, hlength, -, ⟨start, hstart⟩, -⟩
  have hthree : (3 : Int) ≤ window.length := hlength
  have hwindow := hpart.eq_of_length_le (by show 3 ≤ window.length; omega)
  subst hwindow
  have hfirst := (hstart _ List.mem_cons_self 63850147200000000 (by rfl)).1
  have hsecond := (hstart _ (List.mem_cons_of_mem _ List.mem_cons_self)
    63850320000000000 (by rfl)).2
  rw [windowMicros_loginRule] at hsecond
  omega

/-- The first login of a user is two days older than the window, but the alert has its address. -/
theorem olderAddress_noEvidence :
    ¬ ReportsItsEvidence exampleLibrary (loginRule .username 2)
      [loginEvent (.str "ann") "198.51.100.7" "2024-05-01T08:00:00Z",
        loginEvent (.str "ann") "198.51.100.8" "2024-05-03T08:00:00Z",
        loginEvent (.str "ann") "198.51.100.8" "2024-05-03T08:00:00Z"]
      (loginReport "username" "ann" 3 [⟨"ann", 2, .eventTimestamps, .str "198.51.100.8"⟩]
        ⟨"ann", 2, .eventTimestamps, .str "198.51.100.8"⟩ "198.51.100.7") := by
  rintro ⟨key, window, -, hpart, -, hlength, -, ⟨start, hstart⟩, alert, halert, event, hevent, hinet⟩
  cases halert
  have htwo : (2 : Int) ≤ window.length := hlength
  have hlate : ∀ other ∈ [loginEvent (.str "ann") "198.51.100.8" "2024-05-03T08:00:00Z",
      loginEvent (.str "ann") "198.51.100.8" "2024-05-03T08:00:00Z"],
      other = loginEvent (.str "ann") "198.51.100.8" "2024-05-03T08:00:00Z" := by
    intro other hother
    simpa using hother
  cases hpart with
  | cons _ hpart =>
    rw [hlate event (hpart.subset hevent)] at hinet
    exact absurd hinet (by decide)
  | cons_cons _ hpart =>
    rename_i rest
    have hne : rest ≠ [] := by
      rintro rfl
      have hone : (2 : Int) ≤ 1 := htwo
      omega
    obtain ⟨other, hother⟩ := List.exists_mem_of_ne_nil rest hne
    have heq := hlate other (hpart.subset hother)
    have hfirst := (hstart _ List.mem_cons_self 63850147200000000 (by rfl)).1
    have hsecond := (hstart other (List.mem_cons_of_mem _ hother)
      63850320000000000 (by rw [heq]; rfl)).2
    rw [windowMicros_loginRule] at hsecond
    omega

/-- Three logins of the number 1001 are reported with the address of a login of the text `1001`. -/
theorem otherGroup_noEvidence :
    ¬ ReportsItsEvidence exampleLibrary (loginRule .username 3)
      [loginEvent (.int 1001) "198.51.100.7" "", loginEvent (.int 1001) "198.51.100.7" "",
        loginEvent (.int 1001) "198.51.100.7" "", loginEvent (.str "1001") "198.51.100.8" ""]
      (loginReport "username" "1001" 4
        [⟨"1001", 3, .requestScopeWithoutTimestamps, .str "198.51.100.7"⟩,
          ⟨"1001", 1, .requestScopeWithoutTimestamps, .str "198.51.100.8"⟩]
        ⟨"1001", 3, .requestScopeWithoutTimestamps, .str "198.51.100.7"⟩ "198.51.100.8") := by
  rintro ⟨key, window, -, hpart, -, hlength, hvalues, -, alert, halert, event, hevent, hinet⟩
  cases halert
  have hthree : (3 : Int) ≤ window.length := hlength
  have hnumber : groupValue exampleLibrary (loginRule .username 3) (loginEvent (.int 1001) "198.51.100.7" "") =
      .ok (some (.int 1001)) := by rfl
  have htext : groupValue exampleLibrary (loginRule .username 3) (loginEvent (.str "1001") "198.51.100.8" "") =
      .ok (some (.str "1001")) := by rfl
  have hlast : event = loginEvent (.str "1001") "198.51.100.8" "" := by
    rcases List.mem_cons.1 (hpart.subset hevent) with rfl | hrest
    · exact absurd hinet (by decide)
    rcases List.mem_cons.1 hrest with rfl | hrest
    · exact absurd hinet (by decide)
    rcases List.mem_cons.1 hrest with rfl | hrest
    · exact absurd hinet (by decide)
    · exact List.mem_singleton.1 hrest
  have hkey : key = .str "1001" := by
    obtain ⟨value, hvalue, hsame⟩ := hvalues event hevent
    rw [hlast, htext] at hvalue
    cases hvalue
    rcases hsame with heq | hsame
    · exact heq.symm
    · exact eq_str_of_sameValue hsame
  have hnot : loginEvent (.int 1001) "198.51.100.7" "" ∉ window := by
    intro hmem
    obtain ⟨value, hvalue, hsame⟩ := hvalues _ hmem
    rw [hnumber] at hvalue
    cases hvalue
    rw [hkey, sameValue_str] at hsame
    rcases hsame with heq | heq <;> cases heq
  -- none of the three is in the window
  cases hpart with
  | cons_cons _ _ => exact hnot List.mem_cons_self
  | cons _ hpart =>
    cases hpart with
    | cons_cons _ _ => exact hnot List.mem_cons_self
    | cons _ hpart =>
      cases hpart with
      | cons_cons _ _ => exact hnot List.mem_cons_self
      | cons _ hpart =>
        have hle := hpart.length_le
        rw [List.length_singleton] at hle
        omega

end

/-- Three accepted rules whose matches are reported without their evidence. -/
theorem match_withoutEvidence :
    validateTemporaryRuleContract exampleLibrary.digits (loginRuleJson "username" 3) =
        .ok (loginRule .username 3) ∧
      validateTemporaryRuleContract exampleLibrary.digits (loginRuleJson "username" 2) =
        .ok (loginRule .username 2) ∧
      (∃ report, runTemporaryPipeline exampleLibrary (loginRule .username 3)
          [loginEvent (.str "ann") "198.51.100.7" "2024-05-01T08:00:00Z",
            loginEvent (.str "ann") "198.51.100.7" "2024-05-03T08:00:00Z",
            loginEvent (.str "ann") "198.51.100.7" ""] = .ok report ∧ report.matched = true ∧
        ¬ ReportsItsEvidence exampleLibrary (loginRule .username 3)
          [loginEvent (.str "ann") "198.51.100.7" "2024-05-01T08:00:00Z",
            loginEvent (.str "ann") "198.51.100.7" "2024-05-03T08:00:00Z",
            loginEvent (.str "ann") "198.51.100.7" ""] report) ∧
      (∃ report, runTemporaryPipeline exampleLibrary (loginRule .username 2)
          [loginEvent (.str "ann") "198.51.100.7" "2024-05-01T08:00:00Z",
            loginEvent (.str "ann") "198.51.100.8" "2024-05-03T08:00:00Z",
            loginEvent (.str "ann") "198.51.100.8" "2024-05-03T08:00:00Z"] = .ok report ∧
        report.matched = true ∧
        ¬ ReportsItsEvidence exampleLibrary (loginRule .username 2)
          [loginEvent (.str "ann") "198.51.100.7" "2024-05-01T08:00:00Z",
            loginEvent (.str "ann") "198.51.100.8" "2024-05-03T08:00:00Z",
            loginEvent (.str "ann") "198.51.100.8" "2024-05-03T08:00:00Z"] report) ∧
      ∃ report, runTemporaryPipeline exampleLibrary (loginRule .username 3)
          [loginEvent (.int 1001) "198.51.100.7" "", loginEvent (.int 1001) "198.51.100.7" "",
            loginEvent (.int 1001) "198.51.100.7" "", loginEvent (.str "1001") "198.51.100.8" ""] =
          .ok report ∧ report.matched = true ∧
        ¬ ReportsItsEvidence exampleLibrary (loginRule .username 3)
          [loginEvent (.int 1001) "198.51.100.7" "", loginEvent (.int 1001) "198.51.100.7" "",
            loginEvent (.int 1001) "198.51.100.7" "", loginEvent (.str "1001") "198.51.100.8" ""] report :=
  ⟨by rfl, by rfl, ⟨_, by rfl, rfl, withoutTimestamps_noEvidence⟩, ⟨_, by rfl, rfl, olderAddress_noEvidence⟩,
    ⟨_, by rfl, rfl, otherGroup_noEvidence⟩⟩

end SiemDashboard.DetectionSimulator
