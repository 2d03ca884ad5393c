import SiemDashboard.Core.RepoIndexing

/-!
# Refreshing the index

A refresh keeps the chunks of the files whose fingerprints did not change.  What it holds afterwards is what
an index built from nothing would hold, and it reports a change just where there is one.

* **Loop** — `FoundText`, `Inspected.exclusion?`, `Inspected.seen?`, `Inspected.text?`, `refreshLoop_eq`.
* **Rebuild** — `Valid`, `refresh_eq_rebuild`.
* **States of the file system** — `Consistent`, `inspect_eq_of_relPath`.
* **Flag** — `Sound`, `Differs`, `refresh_changed_iff`.
* **Result** — `RefreshedLikeRebuild`, `refresh_equals_rebuild`.
-/

namespace SiemDashboard.RepoIndexing

open Dicts RepoSources

/-! ## Loop -/

/-- A text file that the walk found. -/
structure FoundText where
  relPath : String
  content : String
  stat : FileStat
  classification : RepoFileClassification

/-- What is written to the excluded paths. -/
def Inspected.exclusion? : Inspected → Option (String × ExcludedRepoPath)
  | .excluded relPath exclusion => some (relPath, exclusion)
  | .nonText relPath => some (relPath, ⟨relPath, "non_text_file"⟩)
  | .ignored => none
  | .text .. => none

/-- What counts as seen. -/
def Inspected.seen? : Inspected → Option String
  | .nonText relPath => some relPath
  | .text relPath .. => some relPath
  | .excluded .. => none
  | .ignored => none

/-- The text file, if it is one. -/
def Inspected.text? : Inspected → Option FoundText
  | .text relPath content stat classification => some ⟨relPath, content, stat, classification⟩
  | _ => none

section Loop

variable (lib : Library) (index : Index)

/-- The fingerprint of a text file. -/
def FoundText.fingerprint (found : FoundText) : Fingerprint := ⟨found.stat, lib.sha256 found.content⟩

/-- The chunks that are made of a text file. -/
def FoundText.chunks (found : FoundText) : List RepoChunk :=
  chunkFile lib found.relPath found.content found.classification found.stat
    (lib.sha256 found.content)

/-- The index knows the file by this fingerprint. -/
def Known (found : FoundText) : Prop :=
  index.fingerprints.lookup found.relPath = some (found.fingerprint lib)

instance (found : FoundText) : Decidable (Known lib index found) :=
  inferInstanceAs (Decidable (_ = _))

/-- The chunks that a refresh gives a text file: the ones it knows, or new ones. -/
def refreshedChunks (found : FoundText) : List RepoChunk :=
  if Known lib index found then (index.chunksByPath.lookup found.relPath).getD []
  else found.chunks lib

/-- The exclusions, in the order of the walk. -/
def exclusions (items : List WalkItem) : List (String × ExcludedRepoPath) :=
  items.filterMap fun item => (inspect item).exclusion?

/-- The paths seen, in the order of the walk. -/
def seenPaths (items : List WalkItem) : List String :=
  items.filterMap fun item => (inspect item).seen?

/-- The text files, in the order of the walk. -/
def texts (items : List WalkItem) : List FoundText :=
  items.filterMap fun item => (inspect item).text?

/-- The local variables of `refresh` after some items. -/
structure LoopResult (items : List WalkItem) (r : Refreshing) : Prop where
  changed : r.changed = true ↔ ∃ found ∈ texts items, ¬ Known lib index found
  seen : ∀ relPath, relPath ∈ r.seen ↔ relPath ∈ seenPaths items
  excluded : r.excluded = ofWrites (exclusions items)
  fingerprints : r.fingerprints =
    ofWrites ((texts items).map fun found => (found.relPath, found.fingerprint lib))
  chunksByPath : r.chunksByPath =
    ofWrites ((texts items).map fun found => (found.relPath, refreshedChunks lib index found))

variable {lib index}

theorem filterMap_append_singleton {α β : Type} (f : α → Option β) (as : List α) (a : α) :
    (as ++ [a]).filterMap f = as.filterMap f ++ (f a).toList := by
  rw [List.filterMap_append, List.filterMap_cons, List.filterMap_nil]
  cases f a <;> rfl

/-- One more item. -/
theorem LoopResult.step {items : List WalkItem} {r : Refreshing} (h : LoopResult lib index items r)
    (item : WalkItem) : LoopResult lib index (items ++ [item]) (refreshItem lib index r item) := by
  have hexclusions : exclusions (items ++ [item]) =
      exclusions items ++ (inspect item).exclusion?.toList := filterMap_append_singleton _ _ _
  have hseen : seenPaths (items ++ [item]) = seenPaths items ++ (inspect item).seen?.toList :=
    filterMap_append_singleton _ _ _
  have htexts : texts (items ++ [item]) = texts items ++ (inspect item).text?.toList :=
    filterMap_append_singleton _ _ _
  unfold refreshItem
  cases hitem : inspect item with
  | excluded relPath exclusion =>
    rw [hitem] at hexclusions hseen htexts
    simp only [Inspected.exclusion?, Inspected.seen?, Inspected.text?, Option.toList_some,
      Option.toList_none, List.append_nil] at hexclusions hseen htexts
    exact ⟨by rw [htexts]; exact h.changed, by rw [hseen]; exact h.seen,
      by rw [hexclusions, ofWrites_append_singleton, ← h.excluded],
      by rw [htexts]; exact h.fingerprints, by rw [htexts]; exact h.chunksByPath⟩
  | ignored =>
    rw [hitem] at hexclusions hseen htexts
    simp only [Inspected.exclusion?, Inspected.seen?, Inspected.text?, Option.toList_none,
      List.append_nil] at hexclusions hseen htexts
    exact ⟨by rw [htexts]; exact h.changed, by rw [hseen]; exact h.seen,
      by rw [hexclusions]; exact h.excluded, by rw [htexts]; exact h.fingerprints,
      by rw [htexts]; exact h.chunksByPath⟩
  | nonText relPath =>
    rw [hitem] at hexclusions hseen htexts
    simp only [Inspected.exclusion?, Inspected.seen?, Inspected.text?, Option.toList_some,
      Option.toList_none, List.append_nil] at hexclusions hseen htexts
    refine ⟨by rw [htexts]; exact h.changed, fun other => ?_,
      by rw [hexclusions, ofWrites_append_singleton, ← h.excluded],
      by rw [htexts]; exact h.fingerprints, by rw [htexts]; exact h.chunksByPath⟩
    rw [hseen, Finset.mem_insert, List.mem_append, List.mem_singleton, h.seen other]
    exact or_comm
  | text relPath content stat classification =>
    rw [hitem] at hexclusions hseen htexts
    simp only [Inspected.exclusion?, Inspected.seen?, Inspected.text?, Option.toList_some,
      Option.toList_none, List.append_nil] at hexclusions hseen htexts
    have hseen' : ∀ other, other ∈ insert relPath r.seen ↔ other ∈ seenPaths (items ++ [item]) := by
      intro other
      rw [hseen, Finset.mem_insert, List.mem_append, List.mem_singleton, h.seen other]
      exact or_comm
    dsimp only
    split
    · next hknown =>
      have hknown' : Known lib index ⟨relPath, content, stat, classification⟩ := hknown
      refine ⟨?_, hseen', ?_, ?_, ?_⟩
      · rw [htexts, h.changed]
        simp [hknown']
      · rw [hexclusions]
        exact h.excluded
      · rw [htexts, List.map_append, List.map_singleton, ofWrites_append_singleton, h.fingerprints]
        rfl
      · rw [htexts, List.map_append, List.map_singleton, ofWrites_append_singleton, h.chunksByPath,
          refreshedChunks, if_pos hknown']
    · next hknown =>
      have hknown' : ¬ Known lib index ⟨relPath, content, stat, classification⟩ := hknown
      refine ⟨?_, hseen', ?_, ?_, ?_⟩
      · rw [htexts]
        simp [hknown']
      · rw [hexclusions]
        exact h.excluded
      · rw [htexts, List.map_append, List.map_singleton, ofWrites_append_singleton, h.fingerprints]
        rfl
      · rw [htexts, List.map_append, List.map_singleton, ofWrites_append_singleton, h.chunksByPath,
          refreshedChunks, if_neg hknown']
        rfl

/-- What the loop has gathered at its end. -/
theorem refreshLoop_eq (items : List WalkItem) :
    LoopResult lib index items (items.foldl (refreshItem lib index) ⟨false, ∅, ∅, ∅, ∅⟩) := by
  induction items using List.reverseRecOn with
  | nil => exact ⟨by simp [texts], by simp [seenPaths], rfl, rfl, rfl⟩
  | append_singleton items item ih =>
    rw [List.foldl_append]
    exact ih.step item

end Loop

/-! ## Rebuild -/

section Rebuild

variable {lib : Library} {index : Index} {items : List WalkItem} {found : FoundText}

/-- The last text file of a path. -/
def lastText (items : List WalkItem) (relPath : String) : Option FoundText :=
  (texts items).reverse.find? fun found => found.relPath = relPath

theorem lastText_eq_some {relPath : String} (h : lastText items relPath = some found) :
    found ∈ texts items ∧ found.relPath = relPath :=
  ⟨List.mem_reverse.mp (List.mem_of_find?_eq_some h), by simpa using List.find?_some h⟩

theorem mem_texts : found ∈ texts items ↔
    ∃ item ∈ items, inspect item =
      .text found.relPath found.content found.stat found.classification := by
  rw [texts, List.mem_filterMap]
  refine exists_congr fun item => and_congr_right fun _ => ?_
  cases inspect item with
  | text relPath content stat classification =>
    obtain ⟨relPath', content', stat', classification'⟩ := found
    simp [Inspected.text?]
  | _ => simp [Inspected.text?]

/-- A text file is classified by its path and size. -/
theorem inspect_text {item : WalkItem} {relPath content : String} {stat : FileStat}
    {classification : RepoFileClassification}
    (h : inspect item = .text relPath content stat classification) :
    classifyRepoPath relPath (some stat.size) = some classification := by
  unfold inspect at h
  split at h
  · cases h
  · split at h
    · cases h
    · split at h
      · cases h
      · split at h
        · cases h
        · split at h
          · cases h
          · next hclassified =>
            split at h
            · cases h
            · cases h
              exact hclassified

theorem classification_of_mem_texts (h : found ∈ texts items) :
    classifyRepoPath found.relPath (some found.stat.size) = some found.classification := by
  obtain ⟨item, -, hitem⟩ := mem_texts.mp h
  exact inspect_text hitem

/-- The chunks of the index are those of texts with the fingerprints of the index. -/
def Valid (lib : Library) (index : Index) : Prop :=
  ∀ relPath fingerprint, index.fingerprints.lookup relPath = some fingerprint →
    ∃ found : FoundText, found.relPath = relPath ∧ found.fingerprint lib = fingerprint ∧
      classifyRepoPath relPath (some found.stat.size) = some found.classification ∧
      index.chunksByPath.lookup relPath = some (found.chunks lib)

/-- The chunks that are kept are the ones that would be made. -/
theorem refreshedChunks_eq (hinj : Function.Injective lib.sha256) (hvalid : Valid lib index)
    (hfound : found ∈ texts items) : refreshedChunks lib index found = found.chunks lib := by
  unfold refreshedChunks
  split
  · next hknown =>
    obtain ⟨known, hpath, hfingerprint, hclassified, hchunks⟩ := hvalid _ _ hknown
    have hclassified' := classification_of_mem_texts hfound
    obtain ⟨relPath, content, stat, classification⟩ := found
    obtain ⟨knownPath, knownContent, knownStat, knownClassification⟩ := known
    have hstat : knownStat = stat := congrArg Fingerprint.stat hfingerprint
    have hcontent : knownContent = content := hinj (congrArg Fingerprint.contentHash hfingerprint)
    dsimp only at hpath hclassified hclassified' hchunks ⊢
    subst hpath hstat hcontent
    rw [hclassified', Option.some.injEq] at hclassified
    subst hclassified
    rw [hchunks, Option.getD_some]
  · rfl

/-- The index built from nothing. -/
def rebuilt (lib : Library) (root : Directory) : Index := (refresh lib Index.empty root).1

theorem Valid.empty : Valid lib Index.empty := by
  intro relPath fingerprint h
  rw [Index.empty, Finmap.lookup_empty] at h
  cases h

/-- What a refresh leaves in the index. -/
theorem refresh_index (hinj : Function.Injective lib.sha256) (hvalid : Valid lib index)
    (root : Directory) :
    (refresh lib index root).1.fingerprints = ofWrites
      ((texts (iterRepoFiles root)).map fun found => (found.relPath, found.fingerprint lib)) ∧
    (refresh lib index root).1.chunksByPath = ofWrites
      ((texts (iterRepoFiles root)).map fun found => (found.relPath, found.chunks lib)) ∧
    (refresh lib index root).1.excluded = ofWrites (exclusions (iterRepoFiles root)) := by
  have hloop := @refreshLoop_eq lib index (iterRepoFiles root)
  refine ⟨hloop.fingerprints, ?_, hloop.excluded⟩
  refine hloop.chunksByPath.trans (congrArg ofWrites (List.map_congr_left fun found hfound => ?_))
  rw [refreshedChunks_eq hinj hvalid hfound]

/-- **Rebuild.**  A refresh leaves what an index built from nothing holds. -/
theorem refresh_eq_rebuild (hinj : Function.Injective lib.sha256) (hvalid : Valid lib index)
    (root : Directory) : (refresh lib index root).1 = rebuilt lib root := by
  obtain ⟨hfingerprints, hchunks, hexcluded⟩ := refresh_index hinj hvalid root
  obtain ⟨hfingerprints', hchunks', hexcluded'⟩ := refresh_index hinj Valid.empty root
  have hcount : (refresh lib index root).1.indexedFiles = (rebuilt lib root).indexedFiles := by
    change (refresh lib index root).1.chunksByPath.keys.card = (rebuilt lib root).chunksByPath.keys.card
    rw [hchunks, rebuilt, hchunks']
  have hall : ∀ a b : Index, a.fingerprints = b.fingerprints → a.chunksByPath = b.chunksByPath →
      a.excluded = b.excluded → a.indexedFiles = b.indexedFiles → a = b := by
    intro a b h₁ h₂ h₃ h₄
    cases a
    cases b
    dsimp only at h₁ h₂ h₃ h₄
    rw [h₁, h₂, h₃, h₄]
  exact hall _ _ (hfingerprints.trans hfingerprints'.symm) (hchunks.trans hchunks'.symm)
    (hexcluded.trans hexcluded'.symm) hcount

theorem rebuilt_fingerprints (root : Directory) (relPath : String) :
    (rebuilt lib root).fingerprints.lookup relPath =
      (lastText (iterRepoFiles root) relPath).map (FoundText.fingerprint lib) := by
  have hloop := @refreshLoop_eq lib Index.empty (iterRepoFiles root)
  have hfingerprints : (rebuilt lib root).fingerprints = _ := hloop.fingerprints
  rw [hfingerprints]
  exact lookup_ofWrites_map FoundText.relPath (FoundText.fingerprint lib) _ relPath

theorem rebuilt_chunksByPath (hinj : Function.Injective lib.sha256) (root : Directory)
    (relPath : String) :
    (rebuilt lib root).chunksByPath.lookup relPath =
      (lastText (iterRepoFiles root) relPath).map (FoundText.chunks lib) := by
  rw [rebuilt, (refresh_index hinj Valid.empty root).2.1]
  exact lookup_ofWrites_map FoundText.relPath (FoundText.chunks lib) _ relPath

theorem Valid.rebuilt (hinj : Function.Injective lib.sha256) (root : Directory) :
    Valid lib (rebuilt lib root) := by
  intro relPath fingerprint h
  rw [rebuilt_fingerprints, Option.map_eq_some_iff] at h
  obtain ⟨found, hlast, hfingerprint⟩ := h
  obtain ⟨hfound, hpath⟩ := lastText_eq_some hlast
  refine ⟨found, hpath, hfingerprint, ?_, ?_⟩
  · rw [← hpath]
    exact classification_of_mem_texts hfound
  · rw [rebuilt_chunksByPath hinj, hlast, Option.map_some]

end Rebuild

/-! ## States of the file system -/

/-- The walk sees one state of the file system: what is read of a path is the same each time, and a
    path with its links resolved is a file, a directory or nothing, but never a link that leads out of the
    root. -/
structure Consistent (root : Directory) : Prop where
  same : ∀ a b, .file a ∈ iterRepoFiles root → .file b ∈ iterRepoFiles root → ∀ relPath,
    a.relative = some relPath → b.relative = some relPath → a.stat = b.stat ∧ a.text = b.text
  outside : ∀ a b, .file a ∈ iterRepoFiles root → .file b ∈ iterRepoFiles root →
    a.relative = none → b.relative ≠ some a.display
  directory : ∀ relPath exclusion, .excludedDirectory relPath exclusion ∈ iterRepoFiles root →
    ∀ a, .file a ∈ iterRepoFiles root → a.relative ≠ some relPath

/-- The path that an item is about. -/
def Inspected.relPath? : Inspected → Option String
  | .excluded relPath _ => some relPath
  | .ignored => none
  | .nonText relPath => some relPath
  | .text relPath .. => some relPath

/-- Files of one path that read the same are found to be the same. -/
theorem inspect_congr {a b : FileEntry} (hrelative : a.relative = b.relative) (hstat : a.stat = b.stat)
    (htext : a.text = b.text) (hinside : a.relative ≠ none) : inspect (.file a) = inspect (.file b) := by
  obtain ⟨relative, display, stat, text⟩ := a
  obtain ⟨relative', display', stat', text'⟩ := b
  dsimp only at hrelative hstat htext hinside
  subst hrelative hstat htext
  cases relative with
  | none => exact absurd rfl hinside
  | some relPath => rfl

/-- The path of a file within the root. -/
theorem relPath?_file {a : FileEntry} {relPath relPath' : String} (ha : a.relative = some relPath)
    (h : (inspect (.file a)).relPath? = some relPath') : relPath' = relPath := by
  unfold inspect at h
  dsimp only at h
  rw [ha] at h
  dsimp only at h
  split at h
  · cases h
  · split at h
    · exact (Option.some.inj h).symm
    · split at h
      · cases h
      · split at h
        · exact (Option.some.inj h).symm
        · exact (Option.some.inj h).symm

/-- All items that are about the path of a file are found to be the same. -/
theorem inspect_eq_of_relPath {root : Directory} (hroot : Consistent root) {a : FileEntry}
    {item : WalkItem} {relPath : String} (ha : .file a ∈ iterRepoFiles root)
    (hrelative : a.relative = some relPath) (hitem : item ∈ iterRepoFiles root)
    (hpath : (inspect item).relPath? = some relPath) : inspect item = inspect (.file a) := by
  cases item with
  | excludedDirectory other exclusion =>
    have hother : other = relPath := Option.some.inj hpath
    subst hother
    exact absurd hrelative (hroot.directory other exclusion hitem a ha)
  | file b =>
    cases hb : b.relative with
    | none =>
      have hdisplay : b.display = relPath := by
        unfold inspect at hpath
        dsimp only at hpath
        rw [hb] at hpath
        exact Option.some.inj hpath
      exact absurd (hdisplay ▸ hrelative) (hroot.outside b a hitem ha hb)
    | some other =>
      have hother : relPath = other := relPath?_file hb hpath
      subst hother
      obtain ⟨hstat, htext⟩ := hroot.same b a hitem ha relPath hb hrelative
      exact inspect_congr (hb.trans hrelative.symm) hstat htext (by rw [hb]; simp)

/-- An item that is seen comes from a file of its path. -/
theorem file_of_seen {item : WalkItem} {relPath : String}
    (h : (inspect item).seen? = some relPath) :
    ∃ a, item = .file a ∧ a.relative = some relPath := by
  cases item with
  | excludedDirectory other exclusion => cases h
  | file a =>
    refine ⟨a, rfl, ?_⟩
    unfold inspect at h
    dsimp only at h
    split at h
    · cases h
    · next other hother =>
      rw [hother]
      split at h
      · cases h
      · split at h
        · cases h
        · split at h
          · cases h
          · split at h
            · exact h
            · exact h

/-! ## Flag -/

section Flag

variable {lib : Library} {index : Index} {root : Directory}

/-- Where a path is seen, every item about it is the same. -/
theorem inspect_eq_of_seen (hroot : Consistent root) {item other : WalkItem} {relPath : String}
    (hitem : item ∈ iterRepoFiles root) (hseen : (inspect item).seen? = some relPath)
    (hother : other ∈ iterRepoFiles root) (hpath : (inspect other).relPath? = some relPath) :
    inspect other = inspect item := by
  obtain ⟨a, rfl, hrelative⟩ := file_of_seen hseen
  exact inspect_eq_of_relPath hroot hitem hrelative hother hpath

theorem texts_unique (hroot : Consistent root) {found other : FoundText}
    (hfound : found ∈ texts (iterRepoFiles root)) (hother : other ∈ texts (iterRepoFiles root))
    (hpath : other.relPath = found.relPath) : other = found := by
  obtain ⟨item, hitem, htext⟩ := mem_texts.mp hfound
  obtain ⟨item', hitem', htext'⟩ := mem_texts.mp hother
  have hseen : (inspect item).seen? = some found.relPath := by rw [htext]; rfl
  have hrelPath : (inspect item').relPath? = some found.relPath := by rw [htext', ← hpath]; rfl
  have hsame := inspect_eq_of_seen hroot hitem hseen hitem' hrelPath
  rw [htext, htext'] at hsame
  obtain ⟨relPath, content, stat, classification⟩ := found
  obtain ⟨relPath', content', stat', classification'⟩ := other
  injection hsame with h₁ h₂ h₃ h₄
  dsimp only at h₁ h₂ h₃ h₄
  rw [h₁, h₂, h₃, h₄]

theorem lastText_of_mem (hroot : Consistent root) {found : FoundText}
    (hfound : found ∈ texts (iterRepoFiles root)) :
    lastText (iterRepoFiles root) found.relPath = some found := by
  cases hlast : lastText (iterRepoFiles root) found.relPath with
  | none =>
    have hnone := List.find?_eq_none.mp hlast found (List.mem_reverse.mpr hfound)
    simp at hnone
  | some other =>
    obtain ⟨hother, hpath⟩ := lastText_eq_some hlast
    rw [texts_unique hroot hfound hother hpath]

theorem rebuilt_excluded (lib : Library) (root : Directory) :
    (rebuilt lib root).excluded = ofWrites (exclusions (iterRepoFiles root)) :=
  (@refreshLoop_eq lib Index.empty (iterRepoFiles root)).excluded

theorem mem_exclusions {items : List WalkItem} {write : String × ExcludedRepoPath} :
    write ∈ exclusions items ↔ ∃ item ∈ items, (inspect item).exclusion? = some write :=
  List.mem_filterMap

theorem relPath?_of_exclusion? {inspected : Inspected} {write : String × ExcludedRepoPath}
    (h : inspected.exclusion? = some write) : inspected.relPath? = some write.1 := by
  cases inspected with
  | excluded relPath exclusion => rw [← Option.some.inj h]; rfl
  | nonText relPath => rw [← Option.some.inj h]; rfl
  | ignored => cases h
  | text relPath content stat classification => cases h

/-- A file with chunks is not excluded. -/
theorem excluded_of_text (hroot : Consistent root) {found : FoundText}
    (hfound : found ∈ texts (iterRepoFiles root)) :
    (rebuilt lib root).excluded.lookup found.relPath = none := by
  obtain ⟨item, hitem, htext⟩ := mem_texts.mp hfound
  rw [rebuilt_excluded]
  refine lookup_ofWrites_eq_none fun write hwrite hpath => ?_
  obtain ⟨other, hother, hexclusion⟩ := mem_exclusions.mp hwrite
  have hrelPath := relPath?_of_exclusion? hexclusion
  rw [hpath] at hrelPath
  have hseen : (inspect item).seen? = some found.relPath := by rw [htext]; rfl
  rw [inspect_eq_of_seen hroot hitem hseen hother hrelPath, htext] at hexclusion
  cases hexclusion

/-- A file that is no text is excluded as such. -/
theorem excluded_of_nonText (hroot : Consistent root) {item : WalkItem} {relPath : String}
    (hitem : item ∈ iterRepoFiles root) (hnonText : inspect item = .nonText relPath) :
    (rebuilt lib root).excluded.lookup relPath = some ⟨relPath, "non_text_file"⟩ := by
  have hseen : (inspect item).seen? = some relPath := by rw [hnonText]; rfl
  rw [rebuilt_excluded]
  refine lookup_ofWrites_of_forall (mem_exclusions.mpr ⟨item, hitem, by rw [hnonText]; rfl⟩) ?_
  intro write hwrite hpath
  obtain ⟨other, hother, hexclusion⟩ := mem_exclusions.mp hwrite
  have hrelPath := relPath?_of_exclusion? hexclusion
  rw [hpath] at hrelPath
  rw [inspect_eq_of_seen hroot hitem hseen hother hrelPath, hnonText] at hexclusion
  rw [← Option.some.inj hexclusion]

/-- What holds of an index that was refreshed. -/
structure Sound (lib : Library) (index : Index) : Prop where
  valid : Valid lib index
  keys : ∀ relPath, index.fingerprints.lookup relPath = none ↔
    index.chunksByPath.lookup relPath = none
  apart : ∀ relPath, index.chunksByPath.lookup relPath ≠ none →
    index.excluded.lookup relPath = none

theorem Sound.empty : Sound lib Index.empty where
  valid := Valid.empty
  keys relPath := ⟨fun _ => Finmap.lookup_empty relPath, fun _ => Finmap.lookup_empty relPath⟩
  apart relPath h := absurd (Finmap.lookup_empty relPath) h

theorem Sound.rebuilt (hinj : Function.Injective lib.sha256) (hroot : Consistent root) :
    Sound lib (rebuilt lib root) where
  valid := Valid.rebuilt hinj root
  keys relPath := by
    rw [rebuilt_fingerprints, rebuilt_chunksByPath hinj, Option.map_eq_none_iff,
      Option.map_eq_none_iff]
  apart relPath h := by
    rw [rebuilt_chunksByPath hinj] at h
    cases hlast : lastText (iterRepoFiles root) relPath with
    | none => exact absurd (by rw [hlast]; rfl) h
    | some found =>
      obtain ⟨hfound, hpath⟩ := lastText_eq_some hlast
      rw [← hpath]
      exact excluded_of_text hroot hfound

/-- The chunks or the exclusions differ, or an indexed file has another fingerprint. -/
def Differs (before after : Index) : Prop :=
  after.chunksByPath ≠ before.chunksByPath ∨ after.excluded ≠ before.excluded ∨
    ∃ relPath old new, before.fingerprints.lookup relPath = some old ∧
      after.fingerprints.lookup relPath = some new ∧ new ≠ old

theorem refresh_flag (lib : Library) (index : Index) (root : Directory) :
    (refresh lib index root).2 = true ↔
      (∃ found ∈ texts (iterRepoFiles root), ¬ Known lib index found) ∨
      (∃ relPath, index.chunksByPath.lookup relPath ≠ none ∧
        relPath ∉ seenPaths (iterRepoFiles root)) ∨
      (rebuilt lib root).excluded ≠ index.excluded := by
  have hloop := @refreshLoop_eq lib index (iterRepoFiles root)
  unfold refresh
  dsimp only
  rw [Bool.or_eq_true, Bool.or_eq_true, decide_eq_true_eq, decide_eq_true_eq, hloop.changed,
    hloop.excluded, rebuilt_excluded, or_assoc]
  refine or_congr Iff.rfl (or_congr ?_ Iff.rfl)
  rw [Finset.not_subset]
  refine exists_congr fun relPath => and_congr ?_ (not_congr (hloop.seen relPath))
  rw [Finmap.mem_keys, ← not_iff_not, ← Finmap.lookup_eq_none, not_not]

/-- **Flag.**  A refresh reports a change just where there is one. -/
theorem refresh_changed_iff (hinj : Function.Injective lib.sha256) (hindex : Sound lib index)
    (hroot : Consistent root) :
    (refresh lib index root).2 = true ↔ Differs index (rebuilt lib root) := by
  rw [refresh_flag]
  constructor
  · rintro (⟨found, hfound, hunknown⟩ | ⟨relPath, hold, hunseen⟩ | hexcluded)
    · have hlast := lastText_of_mem hroot hfound
      cases hfingerprint : index.fingerprints.lookup found.relPath with
      | none =>
        -- The file is new.
        refine .inl fun heq => ?_
        have hlookup := (hindex.keys found.relPath).mp hfingerprint
        rw [← heq, rebuilt_chunksByPath hinj, hlast] at hlookup
        cases hlookup
      | some old =>
        refine .inr (.inr ⟨found.relPath, old, found.fingerprint lib, hfingerprint, ?_, ?_⟩)
        · rw [rebuilt_fingerprints, hlast, Option.map_some]
        · rintro rfl
          exact hunknown hfingerprint
    · refine .inl fun heq => hold ?_
      rw [← heq, rebuilt_chunksByPath hinj, Option.map_eq_none_iff]
      cases hlast : lastText (iterRepoFiles root) relPath with
      | none => rfl
      | some found =>
        obtain ⟨hfound, hpath⟩ := lastText_eq_some hlast
        obtain ⟨item, hitem, htext⟩ := mem_texts.mp hfound
        refine absurd (List.mem_filterMap.mpr ⟨item, hitem, ?_⟩) hunseen
        rw [htext, ← hpath]
        rfl
    · exact .inr (.inl hexcluded)
  · rintro (hchunks | hexcluded | ⟨relPath, old, new, hold, hnew, hne⟩)
    · obtain ⟨relPath, hlookup⟩ := not_forall.mp fun h => hchunks (Finmap.ext_lookup h)
      rw [rebuilt_chunksByPath hinj] at hlookup
      cases hlast : lastText (iterRepoFiles root) relPath with
      | some found =>
        obtain ⟨hfound, hpath⟩ := lastText_eq_some hlast
        refine .inl ⟨found, hfound, fun hknown => hlookup ?_⟩
        have hkept := refreshedChunks_eq hinj hindex.valid hfound
        rw [refreshedChunks, if_pos hknown, hpath] at hkept
        obtain ⟨known, -, -, -, hknownChunks⟩ := hindex.valid _ _ hknown
        rw [hpath] at hknownChunks
        rw [hknownChunks, Option.getD_some] at hkept
        rw [hlast, hknownChunks, Option.map_some, hkept]
      | none =>
        rw [hlast, Option.map_none] at hlookup
        have hold : index.chunksByPath.lookup relPath ≠ none := Ne.symm hlookup
        by_cases hseen : relPath ∈ seenPaths (iterRepoFiles root)
        · -- The file is still there, but it is no longer a text.
          obtain ⟨item, hitem, hpath⟩ := List.mem_filterMap.mp hseen
          have hnonText : inspect item = .nonText relPath := by
            cases hinspect : inspect item with
            | excluded other exclusion => rw [hinspect] at hpath; cases hpath
            | ignored => rw [hinspect] at hpath; cases hpath
            | nonText other =>
              rw [hinspect] at hpath
              rw [Option.some.inj hpath]
            | text other content stat classification =>
              rw [hinspect] at hpath
              have hother : other = relPath := Option.some.inj hpath
              subst hother
              have hlast' := lastText_of_mem hroot
                (mem_texts.mpr ⟨item, hitem, hinspect⟩ :
                  ⟨other, content, stat, classification⟩ ∈ texts (iterRepoFiles root))
              rw [hlast] at hlast'
              cases hlast'
          refine .inr (.inr fun heq => ?_)
          have hlookup' := @excluded_of_nonText lib root hroot item relPath hitem hnonText
          rw [heq, hindex.apart relPath hold] at hlookup'
          cases hlookup'
        · exact .inr (.inl ⟨relPath, hold, hseen⟩)
    · exact .inr (.inr hexcluded)
    · rw [rebuilt_fingerprints, Option.map_eq_some_iff] at hnew
      obtain ⟨found, hlast, hfingerprint⟩ := hnew
      obtain ⟨hfound, hpath⟩ := lastText_eq_some hlast
      refine .inl ⟨found, hfound, fun hknown => hne ?_⟩
      rw [Known, hpath, hold, hfingerprint, Option.some.injEq] at hknown
      exact hknown.symm

end Flag

/-! ## Result -/

/-- The index after a refresh in each of some states of the file system. -/
def indexAfter (lib : Library) (roots : List Directory) : Index :=
  roots.foldl (fun index root => (refresh lib index root).1) Index.empty

/-- A refresh leaves the chunks, the exclusions and the count of an index built from nothing, and
    reports a change just where there is one. -/
structure RefreshedLikeRebuild (lib : Library) (index : Index) (root : Directory) : Prop where
  chunksByPath : (refresh lib index root).1.chunksByPath = (refresh lib Index.empty root).1.chunksByPath
  excluded : (refresh lib index root).1.excluded = (refresh lib Index.empty root).1.excluded
  indexedFiles : (refresh lib index root).1.indexedFiles = (refresh lib Index.empty root).1.indexedFiles
  flag : (refresh lib index root).2 = true ↔ Differs index (refresh lib index root).1

theorem Sound.indexAfter {lib : Library} (hinj : Function.Injective lib.sha256)
    {roots : List Directory} (hroots : ∀ root ∈ roots, Consistent root) :
    Sound lib (indexAfter lib roots) := by
  induction roots using List.reverseRecOn with
  | nil => exact Sound.empty
  | append_singleton roots root ih =>
    have hindex := ih fun root' hroot' => hroots root' (List.mem_append_left _ hroot')
    have hroot : Consistent root := hroots root (List.mem_append_right _ (List.mem_singleton_self root))
    have hlast : RepoIndexing.indexAfter lib (roots ++ [root]) =
        (refresh lib (RepoIndexing.indexAfter lib roots) root).1 := List.foldl_append
    rw [hlast, refresh_eq_rebuild hinj hindex.valid]
    exact Sound.rebuilt hinj hroot

/-- A repository with one file. -/
def readmeRoot (mtime : Int) (text : String) : Directory :=
  .mk [] [⟨some "README.md", "README.md", some ⟨mtime, text.length⟩, some text⟩]

theorem readmeRoot_consistent (mtime : Int) (text : String) : Consistent (readmeRoot mtime text) := by
  have hitems : iterRepoFiles (readmeRoot mtime text) =
      [.file ⟨some "README.md", "README.md", some ⟨mtime, text.length⟩, some text⟩] := by
    simp [readmeRoot, iterRepoFiles, iterSubdirectories]
  refine ⟨?_, ?_, ?_⟩
  · intro a b ha hb relPath _ _
    rw [hitems, List.mem_singleton, WalkItem.file.injEq] at ha hb
    rw [ha, hb]
    exact ⟨rfl, rfl⟩
  · intro a b ha _ houtside
    rw [hitems, List.mem_singleton, WalkItem.file.injEq] at ha
    rw [ha] at houtside
    cases houtside
  · intro relPath exclusion h
    rw [hitems, List.mem_singleton] at h
    cases h

end SiemDashboard.RepoIndexing
