import Mathlib.Data.List.Dedup
import Mathlib.Data.List.Sort
import Mathlib.Data.String.Basic
import SiemDashboard.Core.RepoSources
import SiemDashboard.Lib.Dicts
import SiemDashboard.Lib.TextLines

/-!
# The index of the repository assistant

`core/ai/repo_index.py`: the files of the repository cut into chunks with line numbers, and the refresh that
keeps the chunks of files that did not change.

* **Structure of a line** — `structureName` (`_STRUCTURE_RE`), `routePath` (`_ROUTE_RE`).
* **Chunks** — `RepoChunk`, `chunkStarts`, `sections`, `makeChunk`, `chunkFile`.
* **Walk** — `Directory`, `iterRepoFiles`.
* **Index** — `Index`, `Inspected`, `inspect`, `Refreshing`, `refreshItem`, `refresh`.
-/

namespace SiemDashboard.RepoIndexing

open Dicts Python RepoSources TextLines

/-! ## Structure of a line -/

/-- `[A-Za-z_]`. -/
def isIdentifierStart (c : Char) : Bool := c.isAlpha || c == '_'

/-- `[A-Za-z0-9_]`. -/
def isIdentifierChar (c : Char) : Bool := c.isAlphanum || c == '_'

/-- A word with whitespace after it: what follows both. -/
def afterWord (words : List String) (cs : List Char) : Option (List Char) :=
  (words.find? fun word => word.toList.isPrefixOf cs).bind fun word =>
    let rest := cs.drop word.length
    if (rest.head?.any isSpace) then some (rest.dropWhile isSpace) else none

/-- The identifier at the beginning, and what follows it. -/
def identifier (cs : List Char) : Option (String × List Char) :=
  if cs.head?.any isIdentifierStart then
    some (String.ofList (cs.takeWhile isIdentifierChar), cs.dropWhile isIdentifierChar)
  else none

/-- `^\s*(?:async\s+)?(?:def|class|function)\s+([A-Za-z_][A-Za-z0-9_]*)`. -/
def definitionName (cs : List Char) : Option String :=
  let rest := cs.dropWhile isSpace
  let rest := (afterWord ["async"] rest).getD rest
  (afterWord ["def", "class", "function"] rest).bind fun rest => (identifier rest).map Prod.fst

/-- `^\s*(?:export\s+)?(?:const|let|var)\s+([A-Za-z_][A-Za-z0-9_]*)\s*=`. -/
def bindingName (cs : List Char) : Option String :=
  let rest := cs.dropWhile isSpace
  let rest := (afterWord ["export"] rest).getD rest
  (afterWord ["const", "let", "var"] rest).bind fun rest =>
    (identifier rest).bind fun (name, rest) =>
      if (rest.dropWhile isSpace).head? = some '=' then some name else none

/-- The name that `_STRUCTURE_RE.search` finds in a line. -/
def structureName (line : String) : Option String :=
  (definitionName line.toList).or (bindingName line.toList)

/-- `["']`. -/
def isQuote (c : Char) : Bool := c == '"' || c == '\''

/-- What `.route(["']([^"']+)` matches at the beginning. -/
def routeCall (cs : List Char) : Option String :=
  if ".route(".toList.isPrefixOf cs then
    match cs.drop 7 with
    | quote :: rest =>
      let path := rest.takeWhile fun c => !isQuote c
      if isQuote quote && !path.isEmpty then some (String.ofList path) else none
    | [] => none
  else none

/-- `_ROUTE_RE` at one place: `@[\w.]+`, as long as possible, and a call of `route`. -/
def routeAt (isWord : Char → Bool) (cs : List Char) : Option String :=
  match cs with
  | '@' :: rest =>
    let run := rest.takeWhile fun c => isWord c || c == '.'
    (List.range run.length).reverse.findSome? fun n => routeCall (rest.drop (n + 1))
  | _ => none

/-- The path that `_ROUTE_RE.search` finds in a line. -/
def routePath (isWord : Char → Bool) (line : String) : Option String :=
  line.toList.tails.findSome? (routeAt isWord)

/-! ## Chunks -/

/-- `MAX_CHUNK_LINES`. -/
def maxChunkLines : Nat := 80

/-- `MAX_CHUNK_CHARS`. -/
def maxChunkChars : Nat := 6000

/-- What is left to the interpreter and the hash: the characters of `\w`, and the digest of a text. -/
structure Library where
  isWord : Char → Bool
  sha256 : String → String

/-- `RepoChunk`.  A modification time is known by what tells it from others. -/
structure RepoChunk where
  path : String
  lineStart : Nat
  lineEnd : Nat
  text : String
  trustTier : Nat
  sourceKind : String
  label : Label
  mtime : Int
  size : Nat
  contentHash : String
  symbols : List String
deriving DecidableEq

/-- The modification time and the size of a file. -/
structure FileStat where
  mtime : Int
  size : Nat
deriving DecidableEq

section Chunks

variable (lib : Library)

/-- The symbols that a line adds. -/
def lineSymbols (line : String) : List String :=
  (structureName line).toList ++ (routePath lib.isWord line).toList

/-- `_extract_symbols`, in order. -/
def extractSymbols (text : String) : List String :=
  ((splitlines text).flatMap (lineSymbols lib)).dedup.insertionSort (· ≤ ·)

def startsChunk (suffix line : String) : Bool :=
  [".md", ".txt", ".yaml", ".yml"].contains suffix &&
      (line.toList.dropWhile isSpace).head? == some '#' ||
    [".py", ".js", ".jsx"].contains suffix &&
      ((structureName line).isSome || (routePath lib.isWord line).isSome)

/-- `_chunk_starts`, of a text with a first line. -/
def chunkStarts (lines : List String) (path : String) : List Nat :=
  let suffix := lower (pathSuffix path)
  ((lines.zipIdx 1).filter fun entry => entry.2 == 1 || startsChunk lib suffix entry.1).map Prod.snd

/-- The loop of `_chunk_file` that splits one section. -/
def splitSection (start stop : Nat) : List LineRange :=
  if maxChunkLines < stop + 1 - start then
    ⟨start, start + maxChunkLines - 1⟩ :: splitSection (start + maxChunkLines) stop
  else [⟨start, stop⟩]
termination_by stop + 1 - start
decreasing_by
  have hlines : maxChunkLines = 80 := rfl
  omega

/-- The ranges of the chunks of a text whose last line is given: a section ends before the next one
    starts. -/
def sections (last : Nat) : List Nat → List LineRange
  | [] => []
  | [start] => splitSection start last
  | start :: next :: rest => splitSection start (next - 1) ++ sections last (next :: rest)

def rangeText (lines : List String) (range : LineRange) : String := joinLines (slice lines range)

/-- `_make_chunk`. -/
def makeChunk (path : String) (lines : List String) (classification : RepoFileClassification)
    (stat : FileStat) (contentHash : String) (range : LineRange) : RepoChunk :=
  let text := String.ofList ((rangeText lines range).toList.take maxChunkChars)
  { path := path
    lineStart := range.start
    lineEnd := range.stop
    text := text
    trustTier := classification.trustTier
    sourceKind := classification.sourceKind
    label := classification.label
    mtime := stat.mtime
    size := stat.size
    contentHash := contentHash
    symbols := extractSymbols lib text }

/-- `_chunk_file`. -/
def chunkFile (path content : String) (classification : RepoFileClassification) (stat : FileStat)
    (contentHash : String) : List RepoChunk :=
  let lines := splitlines content
  if lines = [] then []
  else
    (sections lines.length (chunkStarts lib lines path)).map
      (makeChunk lib path lines classification stat contentHash)

end Chunks

/-! ## Walk -/

/-- A file that the walk comes to. -/
structure FileEntry where
  /-- `_safe_relative_path`: none where the file lies outside the root. -/
  relative : Option String
  /-- `_display_path`. -/
  display : String
  /-- `path.stat()`, none where it fails. -/
  stat : Option FileStat
  /-- The text that is read from the file, none where it cannot be read. -/
  text : Option String

/-- A directory that the walk comes to. -/
structure DirectoryEntry where
  relative : Option String
  display : String
  isLink : Bool

/-- What there is in a directory, in the order of the names. -/
inductive Directory where
  | mk (subdirectories : List (DirectoryEntry × Directory)) (files : List FileEntry)

/-- The path by which a directory is excluded. -/
def DirectoryEntry.relPath (entry : DirectoryEntry) : String :=
  (entry.relative.filter (· ≠ "")).getD entry.display

/-- What the walk meets, in order: the directories that it leaves out, and the files. -/
inductive WalkItem where
  | excludedDirectory (relPath : String) (exclusion : ExcludedRepoPath)
  | file (entry : FileEntry)

def excludedDirectory? (entry : DirectoryEntry) : Option WalkItem :=
  (excludedRepoPath entry.relPath none).map (.excludedDirectory entry.relPath)

/-- The walk goes into a directory that is not excluded and is no link. -/
def isWalked (entry : DirectoryEntry) : Bool :=
  (excludedRepoPath entry.relPath none).isNone && !entry.isLink

mutual

/-- `_iter_repo_files`. -/
def iterRepoFiles : Directory → List WalkItem
  | .mk subdirectories files =>
    (subdirectories.filterMap fun sub => excludedDirectory? sub.1) ++ files.map .file ++
      iterSubdirectories subdirectories

/-- The walk through the directories that are kept. -/
def iterSubdirectories : List (DirectoryEntry × Directory) → List WalkItem
  | [] => []
  | (entry, directory) :: rest =>
    (if isWalked entry then iterRepoFiles directory else []) ++ iterSubdirectories rest

end

/-! ## Index -/

/-- What a file is recognized by. -/
structure Fingerprint where
  stat : FileStat
  contentHash : String
deriving DecidableEq

/-- `RepoIndex`. -/
structure Index where
  fingerprints : Dict Fingerprint
  chunksByPath : Dict (List RepoChunk)
  excluded : Dict ExcludedRepoPath
  indexedFiles : Nat

/-- The index before the first refresh. -/
def Index.empty : Index := ⟨∅, ∅, ∅, 0⟩

/-- What a refresh finds out about an item of the walk. -/
inductive Inspected where
  | excluded (relPath : String) (exclusion : ExcludedRepoPath)
  | ignored
  | nonText (relPath : String)
  | text (relPath content : String) (stat : FileStat) (classification : RepoFileClassification)

/-- `_read_text`. -/
def readText (entry : FileEntry) : Option String :=
  entry.text.filter fun content => !content.toList.contains '\x00'

/-- What the loop of `refresh` finds out before it looks at the fingerprints. -/
def inspect : WalkItem → Inspected
  | .excludedDirectory relPath exclusion => .excluded relPath exclusion
  | .file entry =>
    match entry.relative with
    | none => .excluded entry.display ⟨entry.display, "outside_repo_root"⟩
    | some relPath =>
      match entry.stat with
      | none => .ignored
      | some stat =>
        match excludedRepoPath relPath (some stat.size) with
        | some exclusion => .excluded relPath exclusion
        | none =>
          match classifyRepoPath relPath (some stat.size) with
          | none => .ignored
          | some classification =>
            match readText entry with
            | none => .nonText relPath
            | some content => .text relPath content stat classification

/-- The local variables of `refresh`. -/
structure Refreshing where
  changed : Bool
  seen : Finset String
  excluded : Dict ExcludedRepoPath
  fingerprints : Dict Fingerprint
  chunksByPath : Dict (List RepoChunk)

section Refresh

variable (lib : Library) (index : Index)

/-- The body of the loop of `refresh`. -/
def refreshItem (r : Refreshing) (item : WalkItem) : Refreshing :=
  match inspect item with
  | .excluded relPath exclusion => { r with excluded := r.excluded.insert relPath exclusion }
  | .ignored => r
  | .nonText relPath =>
    { r with
      seen := insert relPath r.seen
      excluded := r.excluded.insert relPath ⟨relPath, "non_text_file"⟩ }
  | .text relPath content stat classification =>
    let fingerprint : Fingerprint := ⟨stat, lib.sha256 content⟩
    let seen := insert relPath r.seen
    let fingerprints := r.fingerprints.insert relPath fingerprint
    if index.fingerprints.lookup relPath = some fingerprint then
      { r with
        seen := seen
        fingerprints := fingerprints
        chunksByPath :=
          r.chunksByPath.insert relPath ((index.chunksByPath.lookup relPath).getD []) }
    else
      { r with
        changed := true
        seen := seen
        fingerprints := fingerprints
        chunksByPath := r.chunksByPath.insert relPath
          (chunkFile lib relPath content classification stat fingerprint.contentHash) }

/-- `refresh`: the new index, and whether it changed. -/
def refresh (root : Directory) : Index × Bool :=
  let r := (iterRepoFiles root).foldl (refreshItem lib index) ⟨false, ∅, ∅, ∅, ∅⟩
  (⟨r.fingerprints, r.chunksByPath, r.excluded, r.chunksByPath.keys.card⟩,
    r.changed || decide (¬ index.chunksByPath.keys ⊆ r.seen) || decide (r.excluded ≠ index.excluded))

end Refresh

end SiemDashboard.RepoIndexing
