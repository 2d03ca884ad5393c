import SiemDashboard.Lib.Python

/-!
# URLs

`urllib.parse` on characters: how a URL is split into its parts, put together again and joined with a
reference.

* **Texts** — `before`, `after`, `split`, `clean`: what is dropped before a URL is read.
* **Parts** — `splitScheme`, `splitNetloc`, `Parts`; `urlsplit`, `urlparse`.
* **Network locations** — `hostname`, `port`.
* **Joining** — `urlunsplit`, `urlunparse`, `urljoin`.
* **Authority** — `authority`: the scheme and the network location that are read; `authority_slashes`,
  `authority_urlunparse`.
* **Joins** — `IsBase`, `Joined`: whose network location a joined URL has; `urljoin_joined`,
  `urljoin_returns`.
-/

namespace Urls

open Python

/-- Texts as characters. -/
abbrev Text := List Char

/-! ## Texts -/

/-- The text up to the first occurrence of a character. -/
def before (c : Char) (text : Text) : Text := text.takeWhile (· ≠ c)

/-- The text after the first occurrence of a character, empty where there is none. -/
def after (c : Char) (text : Text) : Text := (text.dropWhile (· ≠ c)).drop 1

/-- `str.split`, with a separator of one character. -/
def split (sep : Char) : Text → List Text
  | [] => [[]]
  | c :: cs =>
    if c = sep then [] :: split sep cs
    else
      match split sep cs with
      | [] => [[c]]
      | part :: parts => (c :: part) :: parts

/-- `_WHATWG_C0_CONTROL_OR_SPACE`. -/
def isC0OrSpace (c : Char) : Bool := decide (c.toNat ≤ 32)

/-- `_UNSAFE_URL_BYTES_TO_REMOVE`. -/
def isUnsafe (c : Char) : Bool := c = '\t' || c = '\r' || c = '\n'

/-- What `urlsplit` reads of a text. -/
def clean (url : Text) : Text := (url.dropWhile isC0OrSpace).filter (!isUnsafe ·)

/-! ## Parts -/

/-- What the splitting takes from elsewhere: `_check_bracketed_host` and the NFKC check of
    `_checknetloc`, where they raise, and `str.lower`. -/
structure Library where
  refusesBracketed : Text → Bool
  refusesNormalized : Text → Bool
  lower : Text → Text
  lower_ascii : ∀ text : Text, (∀ c ∈ text, c.toNat < 128) → lower text = text.map lowerChar

/-- `scheme_chars`. -/
def isSchemeChar (c : Char) : Bool := c.isAlphanum || c = '+' || c = '-' || c = '.'

/-- Whether the text before the first colon is a scheme. -/
def hasScheme (url : Text) : Bool :=
  url.contains ':' && (before ':' url).all isSchemeChar && (url.head?.any Char.isAlpha)

/-- The scheme of a cleaned text, or the default, and the rest. -/
def splitScheme (default url : Text) : Text × Text :=
  if hasScheme url then ((before ':' url).map lowerChar, after ':' url) else (default, url)

/-- Where a network location ends. -/
def isDelimiter (c : Char) : Bool := c = '/' || c = '?' || c = '#'

/-- `_splitnetloc`, where the text starts with two slashes. -/
def splitNetloc : Text → Text × Text
  | '/' :: '/' :: rest => (rest.takeWhile (!isDelimiter ·), rest.dropWhile (!isDelimiter ·))
  | url => ([], url)

/-- The network locations for which `urlsplit` raises `ValueError`. -/
def Library.refuses (lib : Library) (netloc : Text) : Bool :=
  (netloc.contains '[' != netloc.contains ']') ||
    (netloc.contains '[' && netloc.contains ']' &&
      lib.refusesBracketed (before ']' (after '[' netloc))) ||
    (!netloc.all (fun c => decide (c.toNat < 128)) && lib.refusesNormalized netloc)

/-- `SplitResult`, with the parameters of `ParseResult`. -/
structure Parts where
  scheme : Text
  netloc : Text
  path : Text
  params : Text
  query : Text
  fragment : Text

/-- `urlsplit`; none where it raises `ValueError`. The default is a scheme that has been read. -/
def urlsplit (lib : Library) (default url : Text) : Option Parts :=
  let (scheme, rest) := splitScheme default (clean url)
  let (netloc, rest) := splitNetloc rest
  if lib.refuses netloc then none
  else
    some
      { scheme := scheme
        netloc := netloc
        path := before '?' (before '#' rest)
        params := []
        query := after '?' (before '#' rest)
        fragment := after '#' rest }

/-- `uses_relative`. -/
def usesRelative : List Text :=
  ["", "ftp", "http", "gopher", "nntp", "imap", "wais", "file", "https", "shttp", "mms", "prospero",
    "rtsp", "rtsps", "rtspu", "sftp", "svn", "svn+ssh", "ws", "wss"].map String.toList

/-- `uses_netloc`. -/
def usesNetloc : List Text :=
  ["", "ftp", "http", "gopher", "nntp", "telnet", "imap", "wais", "file", "mms", "https", "shttp",
    "snews", "prospero", "rtsp", "rtsps", "rtspu", "rsync", "svn", "svn+ssh", "sftp", "nfs", "git",
    "git+ssh", "ws", "wss"].map String.toList

/-- `uses_params`. -/
def usesParams : List Text :=
  ["", "ftp", "hdl", "prospero", "http", "imap", "https", "shttp", "rtsp", "rtsps", "rtspu", "sip",
    "sips", "mms", "sftp", "tel"].map String.toList

/-- `_splitparams`: the parameters follow the first semicolon of the last segment. -/
def splitParams (path : Text) : Text × Text :=
  let directory := path.rdropWhile (· ≠ '/')
  let last := path.rtakeWhile (· ≠ '/')
  if last.contains ';' then (directory ++ before ';' last, after ';' last) else (path, [])

/-- `urlparse`. -/
def urlparse (lib : Library) (default url : Text) : Option Parts :=
  (urlsplit lib default url).map fun parts =>
    if usesParams.contains parts.scheme && parts.path.contains ';' then
      { parts with path := (splitParams parts.path).1, params := (splitParams parts.path).2 }
    else parts

/-! ## Network locations -/

/-- `_hostinfo`: the host and the port of a network location. -/
def hostinfo (netloc : Text) : Text × Text :=
  let info := netloc.rtakeWhile (· ≠ '@')
  if info.contains '[' then
    (before ']' (after '[' info), after ':' (after ']' (after '[' info)))
  else (before ':' info, after ':' info)

/-- `hostname`. -/
def hostname (lib : Library) (netloc : Text) : Option Text :=
  let host := (hostinfo netloc).1
  if host = [] then none else some (lib.lower (before '%' host) ++ host.dropWhile (· ≠ '%'))

/-- `port`: a number, none where there is no port, or `ValueError`. -/
def port (netloc : Text) : Except Unit (Option Nat) :=
  let digits := (hostinfo netloc).2
  if digits = [] then .ok none
  else if digits.all Char.isDigit then
    let value := digits.foldl (fun n c => 10 * n + (c.toNat - '0'.toNat)) 0
    if value ≤ 65535 then .ok (some value) else .error ()
  else .error ()

/-! ## Joining -/

/-- A path after a network location. -/
def rooted : Text → Text
  | [] => []
  | '/' :: rest => '/' :: rest
  | path => '/' :: path

/-- A part of a URL after its mark, where there is one. -/
def marked (mark : Char) (part : Text) : Text := if part = [] then [] else mark :: part

/-- `urlunsplit`. -/
def urlunsplit (scheme netloc url query fragment : Text) : Text :=
  let url :=
    if netloc ≠ [] || (scheme ≠ [] && usesNetloc.contains scheme) || url.take 2 = ['/', '/'] then
      '/' :: '/' :: (netloc ++ rooted url)
    else url
  let url := if scheme ≠ [] then scheme ++ ':' :: url else url
  url ++ marked '?' query ++ marked '#' fragment

/-- `urlunparse`. -/
def urlunparse (parts : Parts) : Text :=
  let url := if parts.params ≠ [] then parts.path ++ ';' :: parts.params else parts.path
  urlunsplit parts.scheme parts.netloc url parts.query parts.fragment

/-- `segments[1:-1] = filter(None, segments[1:-1])`. -/
def dropEmptyInner : List Text → List Text
  | [] => []
  | first :: rest => first :: (rest.dropLast.filter (· ≠ []) ++ rest.getLast?.toList)

/-- The segments of the path of a reference, after those of its base. -/
def joinedSegments (base path : Text) : List Text :=
  if path.head? = some '/' then split '/' path
  else
    let parts := split '/' base
    let parts := if parts.getLast? = some [] then parts else parts.dropLast
    dropEmptyInner (parts ++ split '/' path)

/-- One segment of the loop that resolves `.` and `..`. -/
def resolveSegment (resolved : List Text) (segment : Text) : List Text :=
  if segment = ['.', '.'] then resolved.dropLast
  else if segment = ['.'] then resolved
  else resolved ++ [segment]

def resolvePath (segments : List Text) : Text :=
  let resolved := segments.foldl resolveSegment []
  let resolved :=
    if segments.getLast? = some ['.'] || segments.getLast? = some ['.', '.'] then resolved ++ [[]]
    else resolved
  let path := List.intercalate ['/'] resolved
  if path = [] then ['/'] else path

/-- A reference without a network location, in the place of its base. -/
def joinPaths (base reference : Parts) : Parts :=
  if reference.path = [] ∧ reference.params = [] then
    { reference with
      netloc := base.netloc
      path := base.path
      params := base.params
      query := if reference.query = [] then base.query else reference.query }
  else
    { reference with
      netloc := base.netloc
      path := resolvePath (joinedSegments base.path reference.path) }

/-- `urljoin`. -/
def urljoin (lib : Library) (base url : Text) : Option Text :=
  if base = [] then some url
  else if url = [] then some base
  else do
    let baseParts ← urlparse lib [] base
    let parts ← urlparse lib baseParts.scheme url
    if parts.scheme ≠ baseParts.scheme || !usesRelative.contains parts.scheme then return url
    else if !usesNetloc.contains parts.scheme then
      return urlunparse { joinPaths baseParts parts with netloc := parts.netloc }
    else if parts.netloc ≠ [] then return urlunparse parts
    else return urlunparse (joinPaths baseParts parts)

/-! ## Authority -/

/-- The scheme and the network location that `urlsplit` reads. -/
def authority (default url : Text) : Text × Text :=
  ((splitScheme default (clean url)).1, (splitNetloc (splitScheme default (clean url)).2).1)

section

variable {lib : Library} {default url : Text}

theorem urlparse_eq_none :
    urlparse lib default url = none ↔ lib.refuses (authority default url).2 = true := by
  unfold urlparse urlsplit authority
  dsimp only
  split
  · next hrefuses => simp [hrefuses]
  · next hrefuses => simp [hrefuses]

/-- What is read of a URL names its authority. -/
theorem urlparse_authority {parts : Parts} (h : urlparse lib default url = some parts) :
    parts.scheme = (authority default url).1 ∧ parts.netloc = (authority default url).2 := by
  unfold urlparse at h
  obtain ⟨parsed, hsplit, hparts⟩ := Option.map_eq_some_iff.mp h
  unfold urlsplit at hsplit
  dsimp only at hsplit
  split at hsplit
  · cases hsplit
  · cases hsplit
    dsimp only at hparts
    split at hparts
    · subst hparts
      exact ⟨rfl, rfl⟩
    · subst hparts
      exact ⟨rfl, rfl⟩

theorem urlparse_isSome (h : lib.refuses (authority default url).2 = false) :
    ∃ parts, urlparse lib default url = some parts := by
  refine Option.ne_none_iff_exists'.mp fun hnone => ?_
  rw [urlparse_eq_none.mp hnone] at h
  cases h

theorem splitNetloc_slashes (rest : Text) :
    splitNetloc ('/' :: '/' :: rest) =
      (rest.takeWhile (!isDelimiter ·), rest.dropWhile (!isDelimiter ·)) := rfl

theorem splitNetloc_spec (url : Text) {c : Char} (hc : c ∈ (splitNetloc url).1) :
    c ∈ url ∧ isDelimiter c = false := by
  unfold splitNetloc at hc
  split at hc
  · next rest =>
    have htake := List.mem_takeWhile_imp hc
    refine ⟨?_, by simpa using htake⟩
    exact List.mem_cons_of_mem _ (List.mem_cons_of_mem _ (List.takeWhile_subset _ hc))
  · cases hc

theorem splitScheme_subset (default url : Text) {c : Char} (hc : c ∈ (splitScheme default url).2) :
    c ∈ url := by
  unfold splitScheme at hc
  split at hc
  · exact (List.dropWhile_suffix _).subset ((List.drop_suffix _ _).subset hc)
  · exact hc

/-- A network location holds nothing that ends it, and nothing that is dropped. -/
structure IsNetloc (netloc : Text) : Prop where
  inner : ∀ c ∈ netloc, isDelimiter c = false
  kept : ∀ c ∈ netloc, isUnsafe c = false

theorem isNetloc_authority (default url : Text) : IsNetloc (authority default url).2 where
  inner _ hc := (splitNetloc_spec _ hc).2
  kept c hc := by
    have hclean := splitScheme_subset _ _ (splitNetloc_spec _ hc).1
    have hfilter := (List.mem_filter.mp hclean).2
    simpa using hfilter

/-- A scheme as it is read: a letter, then letters, digits and signs, in lower case. -/
structure IsScheme (scheme : Text) : Prop where
  head : scheme.head?.any Char.isAlpha = true
  chars : scheme.all isSchemeChar = true
  lower : scheme.map lowerChar = scheme

theorem isAlpha_iff (c : Char) :
    c.isAlpha = true ↔ 65 ≤ c.toNat ∧ c.toNat ≤ 90 ∨ 97 ≤ c.toNat ∧ c.toNat ≤ 122 := by
  have hletters : c.isAlpha = (decide ('A'.val ≤ c.val ∧ c.val ≤ 'Z'.val) ||
      (decide ('a'.val ≤ c.val) && decide (c.val ≤ 'z'.val))) := rfl
  rw [hletters]
  simp only [Bool.or_eq_true, Bool.and_eq_true, decide_eq_true_eq, UInt32.le_iff_toNat_le]
  exact Iff.rfl

theorem isSchemeChar_iff (c : Char) :
    isSchemeChar c = true ↔ c.isAlpha = true ∨ 48 ≤ c.toNat ∧ c.toNat ≤ 57 ∨
      c.toNat = 43 ∨ c.toNat = 45 ∨ c.toNat = 46 := by
  have hplus : c = '+' ↔ c.toNat = 43 := (Char.toNat_inj (c := c) (d := '+')).symm
  have hminus : c = '-' ↔ c.toNat = 45 := (Char.toNat_inj (c := c) (d := '-')).symm
  have hdot : c = '.' ↔ c.toNat = 46 := (Char.toNat_inj (c := c) (d := '.')).symm
  have hdigit : c.isDigit = true ↔ 48 ≤ c.toNat ∧ c.toNat ≤ 57 := by
    simp only [Char.isDigit, Bool.and_eq_true, decide_eq_true_eq, UInt32.le_iff_toNat_le, ge_iff_le]
    exact Iff.rfl
  simp only [isSchemeChar, Char.isAlphanum, Bool.or_eq_true, decide_eq_true_eq, hplus, hminus, hdot,
    hdigit, or_assoc]

theorem schemeChar_toNat {c : Char} (h : isSchemeChar c = true) :
    32 < c.toNat ∧ c.toNat < 128 ∧ c ≠ ':' := by
  have hcolon : c ≠ ':' := by
    rintro rfl
    exact absurd h (by decide)
  rw [isSchemeChar_iff, isAlpha_iff] at h
  exact ⟨by omega, by omega, hcolon⟩

theorem schemeChar_kept {c : Char} (h : isSchemeChar c = true) : isUnsafe c = false := by
  have hrange := (schemeChar_toNat h).1
  simp only [isUnsafe, Bool.or_eq_false_iff, decide_eq_false_iff_not]
  refine ⟨⟨?_, ?_⟩, ?_⟩
  · rintro rfl
    exact absurd hrange (by decide)
  · rintro rfl
    exact absurd hrange (by decide)
  · rintro rfl
    exact absurd hrange (by decide)

theorem before_append {c : Char} {text : Text} (h : c ∉ text) (rest : Text) :
    before c (text ++ c :: rest) = text ∧ after c (text ++ c :: rest) = rest := by
  have hall : ∀ a ∈ text, (decide (a ≠ c)) = true := by
    intro a ha
    rw [decide_eq_true_eq]
    rintro rfl
    exact h ha
  unfold before after
  rw [List.takeWhile_append_of_pos hall, List.dropWhile_append_of_pos hall]
  simp

theorem splitScheme_of_scheme {scheme : Text} (h : IsScheme scheme) (default rest : Text) :
    splitScheme default (scheme ++ ':' :: rest) = (scheme, rest) := by
  have hcolon : ':' ∉ scheme := fun hmem =>
    (schemeChar_toNat (List.all_eq_true.mp h.chars _ hmem)).2.2 rfl
  obtain ⟨hbefore, hafter⟩ := before_append hcolon rest
  have hhead : (scheme ++ ':' :: rest).head?.any Char.isAlpha = true := by
    have hfirst := h.head
    cases scheme with
    | nil => cases hfirst
    | cons c cs => exact hfirst
  have hscheme : hasScheme (scheme ++ ':' :: rest) = true := by
    unfold hasScheme
    rw [hbefore, h.chars, hhead]
    simp
  rw [splitScheme, if_pos hscheme, hbefore, hafter, h.lower]

/-- Lower case keeps the characters of schemes. -/
theorem schemeChar_lower {c : Char} (h : isSchemeChar c = true) :
    isSchemeChar (lowerChar c) = true ∧ (c.isAlpha = true → (lowerChar c).isAlpha = true) := by
  rw [isSchemeChar_iff, isAlpha_iff] at h
  simp only [isSchemeChar_iff, isAlpha_iff, lowerChar_toNat]
  split_ifs <;> omega

/-- A scheme has no whitespace around it, and is in lower case. -/
theorem IsScheme.normalized {scheme : Text} (h : IsScheme scheme) :
    lib.lower (stripChars scheme) = scheme := by
  have hspace : ∀ c ∈ scheme, isSpace c = false := by
    intro c hc
    have hrange := schemeChar_toNat (List.all_eq_true.mp h.chars c hc)
    simp only [isSpace, Bool.or_eq_false_iff, Bool.and_eq_false_iff, decide_eq_false_iff_not,
      beq_eq_false_iff_ne]
    omega
  rw [stripChars_of_noSpace hspace, lib.lower_ascii, h.lower]
  intro c hc
  exact (schemeChar_toNat (List.all_eq_true.mp h.chars c hc)).2.1

/-- A scheme is read, or the default stands. -/
theorem authority_scheme (default url : Text) :
    (authority default url).1 = default ∨ IsScheme (authority default url).1 := by
  unfold authority splitScheme
  split
  · next hscheme =>
    refine .inr ?_
    simp only [hasScheme, Bool.and_eq_true] at hscheme
    obtain ⟨⟨hcolon, hchars⟩, hhead⟩ := hscheme
    dsimp only
    generalize hname : before ':' (clean url) = name at *
    have halpha : name.head?.any Char.isAlpha = true := by
      cases hurl : clean url with
      | nil =>
        rw [hurl] at hhead
        cases hhead
      | cons c cs =>
        rw [hurl] at hhead hname
        have hletter : c.isAlpha = true := hhead
        have hc : c ≠ ':' := by
          rintro rfl
          exact absurd hletter (by decide)
        rw [← hname, before, List.takeWhile_cons_of_pos (by simpa using hc)]
        exact hletter
    constructor
    · cases name with
      | nil => cases halpha
      | cons c cs =>
        exact (schemeChar_lower (List.all_eq_true.mp hchars c List.mem_cons_self)).2 halpha
    · rw [List.all_map, List.all_eq_true]
      intro c hc
      exact (schemeChar_lower (List.all_eq_true.mp hchars c hc)).1
    · rw [List.map_map]
      exact List.map_congr_left fun c _ => lowerChar_lowerChar c
  · exact .inl rfl

/-- A scheme that is named does not depend on the default. -/
theorem authority_of_named {url : Text} (h : (authority [] url).1 ≠ []) (default : Text) :
    authority default url = authority [] url := by
  unfold authority splitScheme at *
  split at h
  · next hscheme => simp only [hscheme, if_true]
  · exact absurd rfl h

theorem clean_append {text : Text} (hhead : text.head?.any isC0OrSpace = false)
    (hne : text ≠ []) (rest : Text) :
    clean (text ++ rest) = text.filter (!isUnsafe ·) ++ rest.filter (!isUnsafe ·) := by
  cases text with
  | nil => exact absurd rfl hne
  | cons c cs =>
    have hfirst : isC0OrSpace c = false := by simpa using hhead
    rw [clean, List.cons_append, List.dropWhile_cons_of_neg (by simp [hfirst]), ← List.cons_append,
      List.filter_append]

/-- What may follow a network location. -/
def Ends (rest : Text) : Prop := rest.head?.all isDelimiter = true

theorem takeWhile_netloc {netloc rest : Text} (h : IsNetloc netloc) (hrest : Ends rest) :
    (netloc ++ rest).takeWhile (!isDelimiter ·) = netloc := by
  rw [List.takeWhile_append_of_pos (fun c hc => by simp [h.inner c hc])]
  cases rest with
  | nil => simp
  | cons c cs =>
    have hdelimiter : isDelimiter c = true := by simpa [Ends] using hrest
    simp [hdelimiter]

theorem ends_filter {rest : Text} (h : Ends rest) : Ends (rest.filter (!isUnsafe ·)) := by
  cases rest with
  | nil => exact h
  | cons c cs =>
    have hdelimiter : isDelimiter c = true := by simpa [Ends] using h
    have hkept : isUnsafe c = false := by
      simp only [isDelimiter, Bool.or_eq_true, decide_eq_true_eq] at hdelimiter
      rcases hdelimiter with (rfl | rfl) | rfl
      · decide
      · decide
      · decide
    rw [List.filter_cons_of_pos (by simp [hkept])]
    simpa [Ends] using hdelimiter

/-- **A scheme and a network location** that are written down are read again. -/
theorem authority_written {scheme netloc rest : Text} (hscheme : IsScheme scheme)
    (hnetloc : IsNetloc netloc) (hrest : Ends rest) (default : Text) :
    authority default (scheme ++ ':' :: '/' :: '/' :: (netloc ++ rest)) = (scheme, netloc) := by
  have hhead : scheme.head?.any isC0OrSpace = false := by
    cases hcs : scheme with
    | nil => rfl
    | cons c cs =>
      have hchar : isSchemeChar c = true := by
        refine List.all_eq_true.mp hscheme.chars c ?_
        rw [hcs]
        exact List.mem_cons_self
      have hrange := (schemeChar_toNat hchar).1
      simp [isC0OrSpace]
      omega
  have hne : scheme ≠ [] := by
    rintro rfl
    exact absurd hscheme.head (by decide)
  have hkeep : scheme.filter (!isUnsafe ·) = scheme := by
    rw [List.filter_eq_self]
    intro c hc
    rw [schemeChar_kept (List.all_eq_true.mp hscheme.chars c hc)]
    rfl
  have hnet : netloc.filter (!isUnsafe ·) = netloc := by
    rw [List.filter_eq_self]
    intro c hc
    rw [hnetloc.kept c hc]
    rfl
  have hclean : clean (scheme ++ ':' :: '/' :: '/' :: (netloc ++ rest)) =
      scheme ++ ':' :: '/' :: '/' :: (netloc ++ rest.filter (!isUnsafe ·)) := by
    rw [clean_append hhead hne, hkeep, List.filter_cons_of_pos (by decide),
      List.filter_cons_of_pos (by decide), List.filter_cons_of_pos (by decide), List.filter_append,
      hnet]
  unfold authority
  rw [hclean, splitScheme_of_scheme hscheme, splitNetloc_slashes,
    takeWhile_netloc hnetloc (ends_filter hrest)]

/-! ### Slashes at the end -/

/-- A number of slashes. -/
def slashes (n : Nat) : Text := List.replicate n '/'

theorem takeWhile_slashes (text : Text) (n : Nat) :
    (text ++ slashes n).takeWhile (!isDelimiter ·) = text.takeWhile (!isDelimiter ·) := by
  induction text with
  | nil =>
    cases n with
    | zero => rfl
    | succ n => rfl
  | cons c cs ih =>
    rw [List.cons_append, List.takeWhile_cons, List.takeWhile_cons, ih]

theorem clean_slashes (text : Text) (n : Nat) : clean (text ++ slashes n) = clean text ++ slashes n := by
  have hdrop : (slashes n).dropWhile isC0OrSpace = slashes n := by
    cases n with
    | zero => rfl
    | succ n => rfl
  have hkeep : (slashes n).filter (!isUnsafe ·) = slashes n := by
    rw [List.filter_eq_self]
    intro c hc
    rw [List.eq_of_mem_replicate hc]
    decide
  unfold clean
  rw [List.dropWhile_append, hdrop]
  split
  · next hempty =>
    rw [List.isEmpty_iff.mp hempty, hkeep]
    rfl
  · rw [List.filter_append, hkeep]

theorem splitScheme_slashes (text : Text) (n : Nat) :
    splitScheme default (text ++ slashes n) =
      ((splitScheme default text).1, (splitScheme default text).2 ++ slashes n) := by
  by_cases hcolon : ':' ∈ text
  · obtain ⟨name, rest, rfl, hname⟩ := List.eq_append_cons_of_mem hcolon
    have hlong : name ++ ':' :: rest ++ slashes n = name ++ ':' :: (rest ++ slashes n) := by simp
    have hsame : hasScheme (name ++ ':' :: (rest ++ slashes n)) = hasScheme (name ++ ':' :: rest) := by
      unfold hasScheme
      rw [(before_append hname _).1, (before_append hname _).1]
      cases name with
      | nil => simp
      | cons c cs => simp
    rw [hlong]
    unfold splitScheme
    rw [hsame, (before_append hname _).1, (before_append hname _).1, (before_append hname _).2,
      (before_append hname _).2]
    split
    · rfl
    · simp
  · have hnone : hasScheme text = false := by simp [hasScheme, hcolon]
    have hslash : ':' ∉ slashes n := by
      intro hmem
      exact absurd (List.eq_of_mem_replicate hmem) (by decide)
    have hlong : hasScheme (text ++ slashes n) = false := by simp [hasScheme, hcolon, hslash]
    simp [splitScheme, hnone, hlong]

theorem splitNetloc_all_slashes (n : Nat) : (splitNetloc (slashes n)).1 = [] := by
  match n with
  | 0 => rfl
  | 1 => rfl
  | n + 2 =>
    have htake := takeWhile_slashes [] n
    exact htake

theorem splitNetloc_replaced {text : Text} {n : Nat} (m : Nat)
    (h : (splitNetloc (text ++ slashes n)).1 ≠ []) :
    (splitNetloc (text ++ slashes m)).1 = (splitNetloc (text ++ slashes n)).1 := by
  by_cases htwo : ∃ rest, text = '/' :: '/' :: rest
  · obtain ⟨rest, rfl⟩ := htwo
    rw [List.cons_append, List.cons_append, List.cons_append, List.cons_append, splitNetloc_slashes,
      splitNetloc_slashes, takeWhile_slashes, takeWhile_slashes]
  · refine absurd ?_ h
    match text with
    | [] => exact splitNetloc_all_slashes n
    | [c] =>
      by_cases hc : c = '/'
      · subst hc
        exact splitNetloc_all_slashes (n + 1)
      · unfold splitNetloc
        split
        · next hslash => exact absurd (List.cons.inj hslash).1 hc
        · rfl
    | c :: d :: rest =>
      unfold splitNetloc
      split
      · next hslash =>
        cases hslash
        exact absurd ⟨rest, rfl⟩ htwo
      · rfl

/-- **The slashes at the end** of a text do not matter to the authority before them. -/
theorem authority_slashes {text : Text} {n : Nat} (m : Nat)
    (hnetloc : (authority default (text ++ slashes n)).2 ≠ []) :
    authority default (text ++ slashes m) = authority default (text ++ slashes n) := by
  unfold authority at *
  rw [clean_slashes, splitScheme_slashes] at hnetloc
  rw [clean_slashes, clean_slashes, splitScheme_slashes, splitScheme_slashes]
  exact Prod.ext rfl (splitNetloc_replaced m hnetloc)

/-! ### URLs that are put together -/

theorem ends_rooted (path : Text) : Ends (rooted path) := by
  unfold rooted
  split
  · rfl
  · rfl
  · rfl

theorem ends_marked {mark : Char} (h : isDelimiter mark = true) (part : Text) :
    Ends (marked mark part) := by
  unfold marked
  split
  · rfl
  · simpa [Ends] using h

theorem ends_append {rest more : Text} (h : Ends rest) (hmore : Ends more) : Ends (rest ++ more) := by
  cases rest with
  | nil => exact hmore
  | cons c cs => exact h

/-- **A URL that is put together** has the scheme and the network location of its parts. -/
theorem authority_urlunparse {parts : Parts} (hscheme : IsScheme parts.scheme)
    (hnetloc : IsNetloc parts.netloc) (hne : parts.netloc ≠ []) (default : Text) :
    authority default (urlunparse parts) = (parts.scheme, parts.netloc) := by
  have hsome : parts.scheme ≠ [] := by
    intro hnil
    have hhead := hscheme.head
    rw [hnil] at hhead
    cases hhead
  have hwritten : ∃ rest, Ends rest ∧
      urlunparse parts = parts.scheme ++ ':' :: '/' :: '/' :: (parts.netloc ++ rest) := by
    unfold urlunparse urlunsplit
    generalize (if parts.params ≠ [] then parts.path ++ ';' :: parts.params else parts.path) = url
    dsimp only
    rw [if_pos hsome, if_pos (by simp [hne])]
    refine ⟨rooted url ++ marked '?' parts.query ++ marked '#' parts.fragment,
      ends_append (ends_append (ends_rooted url) (ends_marked (by decide) _))
        (ends_marked (by decide) _), ?_⟩
    simp
  obtain ⟨rest, hrest, hurl⟩ := hwritten
  rw [hurl]
  exact authority_written hscheme hnetloc hrest default

/-! ## Joins -/

/-- The bases of the joins below: a URL with a network location, of a scheme that has them and relative
    references. -/
structure IsBase (lib : Library) (base scheme netloc : Text) : Prop where
  read : authority [] base = (scheme, netloc)
  isScheme : IsScheme scheme
  named : netloc ≠ []
  allowed : lib.refuses netloc = false
  relative : scheme ∈ usesRelative
  located : scheme ∈ usesNetloc

theorem IsBase.ne_nil {base scheme netloc : Text} (h : IsBase lib base scheme netloc) : base ≠ [] := by
  rintro rfl
  exact h.named (Prod.mk.inj h.read).2.symm

theorem IsBase.isNetloc {base scheme netloc : Text} (h : IsBase lib base scheme netloc) :
    IsNetloc netloc := by
  have hread := isNetloc_authority [] base
  rwa [h.read] at hread

theorem IsBase.parts {base scheme netloc : Text} (h : IsBase lib base scheme netloc) :
    ∃ parts, urlparse lib [] base = some parts ∧ parts.scheme = scheme ∧ parts.netloc = netloc := by
  have hallowed : lib.refuses (authority [] base).2 = false := by
    rw [h.read]
    exact h.allowed
  obtain ⟨parts, hparts⟩ := urlparse_isSome hallowed
  obtain ⟨hscheme, hnetloc⟩ := urlparse_authority hparts
  rw [h.read] at hscheme hnetloc
  exact ⟨parts, hparts, hscheme, hnetloc⟩

theorem joinPaths_authority (base reference : Parts) :
    (joinPaths base reference).scheme = reference.scheme ∧
      (joinPaths base reference).netloc = base.netloc := by
  unfold joinPaths
  split
  · exact ⟨rfl, rfl⟩
  · exact ⟨rfl, rfl⟩

/-- What a reference makes of the authority of a base: its own where it names one, else that of the
    base; a reference of another scheme is returned as it is. -/
inductive Joined (base : Text × Text) (url target : Text) : Prop where
  | other (hscheme : (authority base.1 url).1 ≠ base.1) (htarget : target = url)
  | named (hscheme : (authority base.1 url).1 = base.1) (hnetloc : (authority base.1 url).2 ≠ [])
      (htarget : authority [] target = (base.1, (authority base.1 url).2))
  | relative (hscheme : (authority base.1 url).1 = base.1) (hnetloc : (authority base.1 url).2 = [])
      (htarget : authority [] target = base)

/-- **The authority of a join.** -/
theorem urljoin_joined {base scheme netloc target : Text} (hbase : IsBase lib base scheme netloc)
    (hurl : url ≠ []) (h : urljoin lib base url = some target) :
    Joined (scheme, netloc) url target := by
  obtain ⟨baseParts, hbaseParts, hbaseScheme, hbaseNetloc⟩ := hbase.parts
  unfold urljoin at h
  rw [if_neg hbase.ne_nil, if_neg hurl, hbaseParts] at h
  simp only [Option.bind_eq_bind, Option.bind_some] at h
  obtain ⟨parts, hparts, h⟩ := Option.bind_eq_some_iff.mp h
  obtain ⟨hscheme, hnetloc⟩ := urlparse_authority hparts
  rw [hbaseScheme] at h hscheme hnetloc
  by_cases hsame : parts.scheme = scheme
  · rw [hsame] at h hscheme
    rw [if_neg (by simp [hbase.relative]), if_neg (by simp [hbase.located])] at h
    split at h
    · next hnamed =>
      cases h
      have hread := @authority_urlunparse parts (hsame ▸ hbase.isScheme)
        (hnetloc ▸ isNetloc_authority scheme url) hnamed []
      rw [hnetloc] at hnamed hread
      rw [hsame] at hread
      exact .named hscheme.symm hnamed hread
    · next hunnamed =>
      cases h
      obtain ⟨hjoinScheme, hjoinNetloc⟩ := joinPaths_authority baseParts parts
      rw [hsame] at hjoinScheme
      rw [hbaseNetloc] at hjoinNetloc
      have hread := @authority_urlunparse (joinPaths baseParts parts)
        (hjoinScheme ▸ hbase.isScheme) (hjoinNetloc ▸ hbase.isNetloc)
        (hjoinNetloc ▸ hbase.named) []
      rw [hjoinScheme, hjoinNetloc] at hread
      refine .relative hscheme.symm ?_ hread
      rw [← hnetloc]
      exact not_not.mp hunnamed
  · rw [if_pos (by simp [hsame])] at h
    cases h
    rw [hscheme] at hsame
    exact .other hsame rfl

/-- A reference whose network location is accepted is joined. -/
theorem urljoin_returns {base scheme netloc : Text} (hbase : IsBase lib base scheme netloc)
    (hallowed : lib.refuses (authority scheme url).2 = false) :
    ∃ target, urljoin lib base url = some target := by
  obtain ⟨baseParts, hbaseParts, hbaseScheme, -⟩ := hbase.parts
  obtain ⟨parts, hparts⟩ := urlparse_isSome hallowed
  rw [← hbaseScheme] at hparts
  unfold urljoin
  rw [hbaseParts]
  simp only [Option.bind_eq_bind, Option.bind_some, hparts]
  split
  · exact ⟨_, rfl⟩
  · split
    · exact ⟨_, rfl⟩
    · split
      · exact ⟨_, rfl⟩
      · split
        · exact ⟨_, rfl⟩
        · split
          · exact ⟨_, rfl⟩
          · exact ⟨_, rfl⟩

end

end Urls
