import SiemDashboard.Lib.Python

/-!
# Sources of the repository assistant

`core/ai/repo_sources.py`: which files of the repository the assistant may read, and how far it may trust
them.

* **Paths** — pure paths of `pathlib`: `pathParts`, `pathName`, `pathSuffix`.
* **Exclusions** — `normalizeRepoPath`, `excludedRepoPath`.
* **Classification** — `classifyRepoPath`.
-/

namespace SiemDashboard.RepoSources

open Python

/-! ## Paths -/

/-- The parts between the slashes of a text. -/
def splitSlashes : List Char → List Char → List String
  | begun, [] => [String.ofList begun.reverse]
  | begun, '/' :: cs => String.ofList begun.reverse :: splitSlashes [] cs
  | begun, c :: cs => splitSlashes (c :: begun) cs

/-- `PurePosixPath(path).parts`, of a relative path. -/
def pathParts (path : String) : List String :=
  (splitSlashes [] path.toList).filter fun part => part ≠ "" && part ≠ "."

/-- `PurePosixPath(path).name`. -/
def pathName (path : String) : String := (pathParts path).getLast?.getD ""

/-- `PurePosixPath(path).suffix`: from the last dot of the name on, where that is neither its first nor
    its last character. -/
def pathSuffix (path : String) : String :=
  let name := (pathName path).toList
  let extension := (name.reverse.takeWhile (· ≠ '.')).reverse
  let stem := name.length - extension.length - 1
  if '.' ∈ name ∧ stem ≠ 0 ∧ extension ≠ [] then String.ofList ('.' :: extension) else ""

/-- `text.startswith(start)`. -/
def startsWith (start text : String) : Bool := start.toList.isPrefixOf text.toList

/-! ## Exclusions -/

/-- `MAX_INDEXED_FILE_BYTES`. -/
def maxIndexedFileBytes : Nat := 220000

/-- `_BINARY_OR_GENERATED_SUFFIXES`. -/
def binaryOrGeneratedSuffixes : List String :=
  [".png", ".jpg", ".jpeg", ".gif", ".webp", ".svg", ".ico", ".pdf", ".zip", ".gz", ".sqlite", ".db",
    ".pyc", ".map"]

/-- `_EXCLUDED_PARTS`. -/
def excludedParts : List String :=
  [".git", ".venv", "__pycache__", ".pytest_cache", "node_modules", "venv", "build", "coverage",
    ".mypy_cache", ".ruff_cache"]

/-- `_SECRET_FILE_NAMES`. -/
def secretFileNames : List String :=
  [".env", ".env.local", ".env.production", ".env.development", "id_rsa", "id_ed25519"]

/-- `_SECRET_SUFFIXES`. -/
def secretSuffixes : List String := [".pem", ".key", ".p12", ".pfx", ".crt"]

/-- `_GENERATED_REPORT_MARKERS`. -/
def generatedReportMarkers : List String := ["sonar", "coverage", "screenshot"]

/-- `ExcludedRepoPath`. -/
structure ExcludedRepoPath where
  path : String
  reason : String
deriving DecidableEq, Repr

/-- `text.strip("/")`. -/
def stripSlashes (text : List Char) : List Char :=
  (text.dropWhile (· = '/')).rdropWhile (· = '/')

/-- `normalize_repo_path`. -/
def normalizeRepoPath (path : String) : String :=
  let normalized := String.ofList (stripSlashes (replaceChar '\\' "/" path).toList)
  if normalized = "" ∨ normalized = "." then "." else normalized

/-- `excluded_repo_path`. -/
def excludedRepoPath (path : String) (size : Option Nat) : Option ExcludedRepoPath :=
  let normalized := normalizeRepoPath path
  let suffix := lower (pathSuffix normalized)
  let name := pathName normalized
  let lowerPath := lower normalized
  if size.any (maxIndexedFileBytes < ·) then some ⟨normalized, "oversized_file"⟩
  else if (pathParts normalized).any excludedParts.contains then
    some ⟨normalized, "excluded_runtime_or_generated_path"⟩
  else if secretFileNames.contains name || startsWith ".env" (lower name) then
    some ⟨normalized, "secret_file"⟩
  else if secretSuffixes.contains suffix then some ⟨normalized, "credential_file"⟩
  else if suffix = ".log" then some ⟨normalized, "log_file"⟩
  else if binaryOrGeneratedSuffixes.contains suffix then
    some ⟨normalized, "binary_or_generated_file"⟩
  else if [".json", ".csv"].contains suffix &&
      generatedReportMarkers.any (fun marker => mentions marker lowerPath) then
    some ⟨normalized, "generated_report"⟩
  else if startsWith "tmp_" normalized || mentions "/tmp_" normalized then
    some ⟨normalized, "temporary_file"⟩
  else none

/-! ## Classification -/

/-- `_TIER_0_FILES`. -/
def tier0Files : List String :=
  ["AGENTS.md", "docs/mac-vm-source-of-truth-policy.md", "openspec/config.yaml",
    "openspec/spec-index.md"]

/-- `_CURRENT_SOURCE_DIRS`. -/
def currentSourceDirs : List String :=
  ["core", "routes", "engines", "helpers", "adapters", "integrations", "scripts", "migrations"]

/-- `_CURRENT_SOURCE_FILES`. -/
def currentSourceFiles : List String := ["siem_backend.py", "schema.sql"]

/-- `_CURRENT_SOURCE_SUFFIXES`. -/
def currentSourceSuffixes : List String := [".py", ".js", ".jsx", ".sql", ".yaml", ".yml", ".json"]

/-- `_DOC_SUFFIXES`. -/
def docSuffixes : List String := [".md", ".txt", ".yaml", ".yml"]

/-- `_HISTORICAL_MARKERS`. -/
def historicalMarkers : List String :=
  ["handoff", "archive", "archived", "decomposition", "cleanup", "old", "legacy"]

/-- `LABEL_CURRENT` and `LABEL_HISTORICAL`. -/
inductive Label where
  | current
  | historical
deriving DecidableEq, Repr

/-- `RepoFileClassification`. -/
structure RepoFileClassification where
  path : String
  trustTier : Nat
  sourceKind : String
  label : Label
  reason : String
deriving DecidableEq, Repr

/-- `_is_historical_doc`. -/
def isHistoricalDoc (lowerPath : String) : Bool :=
  startsWith "docs/internal-ai-notes/" lowerPath ||
    historicalMarkers.any fun marker => mentions marker lowerPath

/-- `classify_repo_path`. -/
def classifyRepoPath (path : String) (size : Option Nat) : Option RepoFileClassification :=
  let normalized := normalizeRepoPath path
  if (excludedRepoPath normalized size).isSome then none
  else
    let suffix := lower (pathSuffix normalized)
    let parts := pathParts normalized
    let top := parts.head?.getD ""
    if tier0Files.contains normalized then
      some ⟨normalized, 0, "policy", .current, "tier_0_policy"⟩
    else if currentSourceFiles.contains normalized then
      some ⟨normalized, 1, "source", .current, "current_source_file"⟩
    else if currentSourceDirs.contains top && currentSourceSuffixes.contains suffix then
      some ⟨normalized, 1, "source", .current, "current_source_dir"⟩
    else if parts.take 2 = ["frontend", "src"] ∧ currentSourceSuffixes.contains suffix then
      some ⟨normalized, 1, "source", .current, "frontend_source"⟩
    else if top = "tests" ∧ [".py", ".sql", ".md"].contains suffix then
      some ⟨normalized, 1, "test", .current, "focused_tests"⟩
    else if parts.take 2 = ["openspec", "archive"] then
      some ⟨normalized, 3, "openspec", .historical, "archived_openspec"⟩
    else if top = "openspec" ∧ docSuffixes.contains suffix then
      some ⟨normalized, 2, "openspec", .current, "active_or_accepted_openspec"⟩
    else if top = "docs" ∧ docSuffixes.contains suffix then
      if isHistoricalDoc (lower normalized) then
        some ⟨normalized, 3, "doc", .historical, "historical_doc"⟩
      else some ⟨normalized, 2, "doc", .current, "current_doc"⟩
    else if normalized = "README.md" then some ⟨normalized, 2, "doc", .current, "readme"⟩
    else none

end SiemDashboard.RepoSources
