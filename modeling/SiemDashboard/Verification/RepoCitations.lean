import SiemDashboard.Core.RepoIndexing

/-!
# What a citation names

The chunks of a file and the lines that they cite.

* **Sections** — `splitSection_tiles`, `sections_tiles`, `sections_short`.
* **Starts** — `chunkStarts_cons`.
* **Result** — `ExactCitations`, `chunkFile_citations`, and a line of 6,001 characters.
-/

namespace SiemDashboard.RepoIndexing

open Python RepoSources TextLines

/-! ## Sections -/

/-- The ranges of a section follow one another from its first line to its last. -/
theorem splitSection_tiles {start stop : Nat} (h : start ≤ stop) :
    Tiles start stop (splitSection start stop) := by
  have hmax : maxChunkLines = 80 := rfl
  fun_induction splitSection start stop with
  | case1 start hlong ih =>
    refine ⟨rfl, ?_, ?_⟩
    · change start ≤ start + maxChunkLines - 1
      omega
    · have hnext : start + maxChunkLines - 1 + 1 = start + maxChunkLines := by omega
      change Tiles (start + maxChunkLines - 1 + 1) stop _
      rw [hnext]
      exact ih (by omega)
  | case2 start hshort => exact ⟨rfl, h, rfl⟩

theorem splitSection_short {start stop : Nat} {range : LineRange}
    (h : range ∈ splitSection start stop) : range.stop + 1 - range.start ≤ maxChunkLines := by
  have hmax : maxChunkLines = 80 := rfl
  fun_induction splitSection start stop with
  | case1 start hlong ih =>
    rcases List.mem_cons.mp h with rfl | h
    · change start + maxChunkLines - 1 + 1 - start ≤ maxChunkLines
      omega
    · exact ih h
  | case2 start hshort =>
    rw [List.mem_singleton] at h
    subst h
    change stop + 1 - start ≤ maxChunkLines
    omega

/-- The ranges of all sections follow one another to the last line. -/
theorem sections_tiles {last start : Nat} {starts : List Nat}
    (hsorted : (start :: starts).Pairwise (· < ·)) (hlast : ∀ s ∈ start :: starts, s ≤ last) :
    Tiles start last (sections last (start :: starts)) := by
  induction starts generalizing start with
  | nil =>
    rw [sections]
    exact splitSection_tiles (hlast start List.mem_cons_self)
  | cons next rest ih =>
    have hlt : start < next := (List.pairwise_cons.mp hsorted).1 next List.mem_cons_self
    have hrest := ih (List.pairwise_cons.mp hsorted).2 fun s hs => hlast s (List.mem_cons_of_mem _ hs)
    rw [sections]
    refine (splitSection_tiles (Nat.le_sub_one_of_lt hlt)).append ?_
    rw [Nat.sub_add_cancel (by omega)]
    exact hrest

theorem sections_short {last : Nat} {starts : List Nat} {range : LineRange}
    (h : range ∈ sections last starts) : range.stop + 1 - range.start ≤ maxChunkLines := by
  fun_induction sections last starts with
  | case1 => cases h
  | case2 start => exact splitSection_short h
  | case3 start next rest ih =>
    rcases List.mem_append.mp h with h | h
    · exact splitSection_short h
    · exact ih h

/-! ## Starts -/

/-- The starts are lines of the text in ascending order, and the first line is one. -/
theorem chunkStarts_cons (lib : Library) {lines : List String} (hlines : lines ≠ []) (path : String) :
    ∃ starts, chunkStarts lib lines path = 1 :: starts ∧ (1 :: starts).Pairwise (· < ·) ∧
      ∀ s ∈ 1 :: starts, s ≤ lines.length := by
  have hsub : (chunkStarts lib lines path).Sublist (List.range' 1 lines.length) := by
    rw [← List.zipIdx_map_snd 1 lines]
    exact List.filter_sublist.map Prod.snd
  have hsorted : (chunkStarts lib lines path).Pairwise (· < ·) :=
    (List.pairwise_lt_range' 1).sublist hsub
  have hle : ∀ s ∈ chunkStarts lib lines path, s ≤ lines.length := by
    intro s hs
    have hmem := hsub.subset hs
    rw [List.mem_range'_1] at hmem
    omega
  cases lines with
  | nil => exact absurd rfl hlines
  | cons line rest =>
    unfold chunkStarts at hsorted hle ⊢
    dsimp only at hsorted hle ⊢
    rw [List.zipIdx_cons, List.filter_cons_of_pos (by simp), List.map_cons] at hsorted hle ⊢
    exact ⟨_, rfl, hsorted, hle⟩

/-! ## Result -/

/-- The range that a chunk cites. -/
def RepoChunk.range (chunk : RepoChunk) : LineRange := ⟨chunk.lineStart, chunk.lineEnd⟩

/-- The chunks cite the lines in order, without gap or overlap, and few lines each; their texts are the
    first characters of the lines that they cite. -/
structure ExactCitations (path : String) (lines : List String) (chunks : List RepoChunk) : Prop where
  path_eq : ∀ chunk ∈ chunks, chunk.path = path
  tiles : Tiles 1 lines.length (chunks.map RepoChunk.range)
  whole : chunks.flatMap (fun chunk => slice lines chunk.range) = lines
  inOne : ∀ i, 1 ≤ i → i ≤ lines.length → ∃! chunk, chunk ∈ chunks ∧ chunk.range.Covers i
  short : ∀ chunk ∈ chunks, chunk.lineEnd + 1 - chunk.lineStart ≤ maxChunkLines
  text_eq : ∀ chunk ∈ chunks,
    chunk.text.toList = (rangeText lines chunk.range).toList.take maxChunkChars
  exact_iff : ∀ chunk ∈ chunks,
    chunk.text = rangeText lines chunk.range ↔
      (rangeText lines chunk.range).length ≤ maxChunkChars

section Chunks

variable (lib : Library) (path : String) (lines : List String)
  (classification : RepoFileClassification) (stat : FileStat) (contentHash : String)

theorem makeChunk_text (range : LineRange) :
    (makeChunk lib path lines classification stat contentHash range).text.toList =
      (rangeText lines range).toList.take maxChunkChars := by
  unfold makeChunk
  exact String.toList_ofList

/-- The text of a chunk is the whole text of its lines just where that is short enough. -/
theorem makeChunk_text_eq_iff (range : LineRange) :
    (makeChunk lib path lines classification stat contentHash range).text = rangeText lines range ↔
      (rangeText lines range).length ≤ maxChunkChars := by
  rw [← String.toList_inj, makeChunk_text, List.take_eq_self_iff, String.length_toList]

end Chunks

/-- **Citations.**  The chunks of a file cite its lines in order, each line once and at most eighty lines
    a chunk, and hold the first 6,000 characters of the lines that they cite. -/
theorem chunkFile_citations (lib : Library) (path content : String)
    (classification : RepoFileClassification) (stat : FileStat) (contentHash : String) :
    ExactCitations path (splitlines content)
      (chunkFile lib path content classification stat contentHash) := by
  unfold chunkFile
  dsimp only
  split
  · next hnone =>
    rw [hnone]
    refine ⟨by simp, rfl, rfl, ?_, by simp, by simp, by simp⟩
    intro i hfirst hlast
    rw [List.length_nil] at hlast
    omega
  · next hlines =>
    obtain ⟨starts, hstarts, hsorted, hlast⟩ := chunkStarts_cons lib hlines path
    have htiles : Tiles 1 (splitlines content).length
        (sections (splitlines content).length (chunkStarts lib (splitlines content) path)) := by
      rw [hstarts]
      exact sections_tiles hsorted hlast
    generalize hranges : sections (splitlines content).length
      (chunkStarts lib (splitlines content) path) = ranges at htiles ⊢
    have hshort : ∀ range ∈ ranges, range.stop + 1 - range.start ≤ maxChunkLines := by
      intro range hrange
      rw [← hranges] at hrange
      exact sections_short hrange
    refine ⟨?_, ?_, ?_, ?_, ?_, ?_, ?_⟩
    · exact List.forall_mem_map.mpr fun range _ => rfl
    · rw [List.map_map]
      exact (List.map_id ranges).symm ▸ htiles
    · rw [List.flatMap_map]
      exact htiles.flatMap_slice
    · intro i hfirst hlast'
      obtain ⟨range, ⟨hmem, hcovers⟩, hunique⟩ := htiles.existsUnique hfirst hlast'
      refine ⟨_, ⟨List.mem_map_of_mem hmem, hcovers⟩, ?_⟩
      intro chunk hchunk
      obtain ⟨hchunks, hin⟩ := hchunk
      obtain ⟨range', hmem', rfl⟩ := List.mem_map.mp hchunks
      rw [hunique range' ⟨hmem', hin⟩]
    · exact List.forall_mem_map.mpr hshort
    · exact List.forall_mem_map.mpr fun range _ => makeChunk_text lib path _ _ _ _ range
    · exact List.forall_mem_map.mpr fun range _ => makeChunk_text_eq_iff lib path _ _ _ _ range

/-- A file of one line that is longer than a chunk may be: its citation names more than the chunk holds. -/
theorem not_exact_of_long_line (lib : Library) (path : String)
    (classification : RepoFileClassification) (stat : FileStat) (contentHash : String) {line : String}
    (hline : ∀ c ∈ line.toList, isLineBreak c = false) (hlong : maxChunkChars < line.length) :
    ¬ ∀ chunk ∈ chunkFile lib path line classification stat contentHash,
      chunk.text = rangeText (splitlines line) chunk.range := by
  have hlines : splitlines line = [line] := by
    refine splitlines_of_noBreak ?_ hline
    rintro rfl
    exact absurd hlong (by decide)
  obtain ⟨starts, hstarts, hsorted, hlast⟩ :=
    chunkStarts_cons lib (List.cons_ne_nil line []) path
  have hone : starts = [] := by
    cases starts with
    | nil => rfl
    | cons next rest =>
      have hnext : 1 < next := (List.pairwise_cons.mp hsorted).1 next List.mem_cons_self
      have hle : next ≤ 1 := hlast next (by simp)
      omega
  have hsection : sections 1 [1] = [⟨1, 1⟩] := by
    rw [sections, splitSection, if_neg (by decide)]
  have hchunks : chunkFile lib path line classification stat contentHash =
      [makeChunk lib path [line] classification stat contentHash ⟨1, 1⟩] := by
    unfold chunkFile
    dsimp only
    rw [hlines, if_neg (List.cons_ne_nil line []), hstarts, hone, List.length_singleton, hsection]
    rfl
  have htext : rangeText [line] ⟨1, 1⟩ = line := by
    change String.intercalate "\n" [line] = line
    simp
  intro h
  rw [hchunks, hlines] at h
  have hexact := (makeChunk_text_eq_iff lib path _ _ _ _ ⟨1, 1⟩).mp (h _ List.mem_cons_self)
  rw [htext] at hexact
  exact absurd hexact (Nat.not_le_of_lt hlong)

/-- A line that is one character longer than a chunk may be. -/
@[irreducible] def longLine : String := String.ofList (List.replicate 6001 'a')

theorem toList_longLine : longLine.toList = List.replicate 6001 'a' := by
  unfold longLine
  exact String.toList_ofList

theorem longLine_noBreak (c : Char) (hc : c ∈ longLine.toList) : isLineBreak c = false := by
  rw [toList_longLine] at hc
  have ha : c = 'a' := List.eq_of_mem_replicate hc
  subst ha
  decide

theorem length_longLine : longLine.length = 6001 := by
  rw [← String.length_toList, toList_longLine, List.length_replicate]

/-- The text of a chunk is not always the lines that it cites. -/
theorem long_line_cut :
    ¬ ∀ chunk ∈ chunkFile ⟨Char.isAlphanum, id⟩ "README.md" longLine
        ⟨"README.md", 2, "doc", .current, "readme"⟩ ⟨0, 6001⟩ longLine,
      chunk.text = rangeText (splitlines longLine) chunk.range := by
  have hlong : maxChunkChars < longLine.length := by
    rw [length_longLine]
    decide
  exact not_exact_of_long_line _ _ _ _ _ longLine_noBreak hlong

end SiemDashboard.RepoIndexing
