import SiemDashboard.Integrations.WebhookAdapter

/-!
# The host of webhook requests

When the URL of a webhook request has the scheme, the host and the port of the configured one: unless the
path, read as a reference, names a host of its own.

* **Targets** — `AllowedHost`, `validate_eq_none_iff`: what an allowed URL looks like.
* **Origins** — `Origin`, `origin`; `isBase_directory`.
* **Result** — `SameHost`, `StaysAtHome`; `resolved_origin_iff`, `tabbed_path_leaves`.
-/

namespace SiemDashboard.WebhookTarget

open Python Urls WebhookAdapter

/-! ## Targets -/

/-- A network location whose host is read and not blocked. -/
def AllowedHost (env : WebhookEnv) (netloc : Text) : Prop :=
  netloc ≠ [] ∧ env.urls.refuses netloc = false ∧
    env.urls.lower (stripChars ((hostname env.urls netloc).getD [])) ≠ [] ∧
    isBlockedHostname env (env.urls.lower (stripChars ((hostname env.urls netloc).getD []))) = false

section

variable {env : WebhookEnv} {url : Text}

theorem isScheme_https : IsScheme https := by constructor <;> decide

theorem hostnameFromUrl_eq {parts : Parts} (h : urlparse env.urls [] url = some parts) :
    hostnameFromUrl env url =
      if env.urls.lower (stripChars ((hostname env.urls parts.netloc).getD [])) = [] then none
      else some (env.urls.lower (stripChars ((hostname env.urls parts.netloc).getD []))) := by
  rw [hostnameFromUrl, h]
  rfl

/-- The scheme of an allowed URL is as it is read. -/
theorem scheme_https {parts : Parts} (h : urlparse env.urls [] url = some parts) :
    env.urls.lower (stripChars parts.scheme) = https ↔ parts.scheme = https := by
  have hread := (urlparse_authority h).1
  rcases authority_scheme [] url with hnone | hscheme
  · rw [hread, hnone]
    have hlower : env.urls.lower (stripChars []) = [] := env.urls.lower_ascii [] (by simp)
    rw [hlower]
  · rw [← hread] at hscheme
    rw [hscheme.normalized]

/-- **An allowed URL** has the scheme `https` and an allowed host. -/
theorem validate_eq_none_iff :
    validateHttpsTargetUrl env url = none ↔
      (authority [] url).1 = https ∧ AllowedHost env (authority [] url).2 := by
  by_cases hempty : url = []
  · subst hempty
    simp [validateHttpsTargetUrl, authority, AllowedHost, clean, splitScheme, hasScheme, https]
  · unfold validateHttpsTargetUrl
    rw [if_neg hempty]
    cases hparse : urlparse env.urls [] url with
    | none =>
      have hrefused := urlparse_eq_none.mp hparse
      simp [AllowedHost, hrefused]
    | some parts =>
      obtain ⟨hscheme, hnetloc⟩ := urlparse_authority hparse
      have haccepted : env.urls.refuses parts.netloc = false := by
        by_contra hrefuses
        rw [Bool.not_eq_false, hnetloc] at hrefuses
        rw [urlparse_eq_none.mpr hrefuses] at hparse
        cases hparse
      dsimp only
      rw [hostnameFromUrl_eq hparse, ← hscheme, ← hnetloc]
      by_cases hhttps : parts.scheme = https
      · have hlower := (scheme_https hparse).mpr hhttps
        have hlisted : refusedSchemes.contains https = false := by decide
        rw [hlower, hlisted, if_neg (by decide), if_neg (by simp)]
        unfold AllowedHost
        by_cases hnamed : parts.netloc = []
        · simp [hnamed]
        · rw [if_neg hnamed]
          by_cases hhost :
              env.urls.lower (stripChars ((hostname env.urls parts.netloc).getD [])) = []
          · simp [hhost]
          · rw [if_neg hhost]
            dsimp only
            by_cases hblocked : isBlockedHostname env
                (env.urls.lower (stripChars ((hostname env.urls parts.netloc).getD []))) = true
            · simp [hblocked]
            · rw [if_neg hblocked]
              exact iff_of_true rfl ⟨hhttps, hnamed, haccepted, hhost,
                eq_false_of_ne_true hblocked⟩
      · have hlower : env.urls.lower (stripChars parts.scheme) ≠ https :=
          fun heq => hhttps ((scheme_https hparse).mp heq)
        rw [if_pos hlower]
        simp only [hhttps, false_and, iff_false]
        split
        · simp
        · simp

/-! ## Origins -/

/-- The scheme, the host and the port of a URL. -/
structure Origin where
  scheme : Text
  host : Option Text
  port : Except Unit (Option Nat)

/-- The origin of a URL, as `urlparse` reads it. -/
def origin (env : WebhookEnv) (url : Text) : Option Origin :=
  (urlparse env.urls [] url).map fun parts =>
    ⟨parts.scheme, hostname env.urls parts.netloc, port parts.netloc⟩

/-- The network locations have one host and one port. -/
def SameHost (env : WebhookEnv) (a b : Text) : Prop :=
  hostname env.urls a = hostname env.urls b ∧ port a = port b

theorem origin_eq (h : env.urls.refuses (authority [] url).2 = false) :
    origin env url = some ⟨(authority [] url).1, hostname env.urls (authority [] url).2,
      port (authority [] url).2⟩ := by
  obtain ⟨parts, hparts⟩ := urlparse_isSome h
  obtain ⟨hscheme, hnetloc⟩ := urlparse_authority hparts
  rw [origin, hparts, Option.map_some, hscheme, hnetloc]

/-- The text of a base without the slashes at its end. -/
theorem base_slashes (base : Text) :
    ∃ n, base = base.rdropWhile (· = '/') ++ slashes n := by
  refine ⟨(base.rtakeWhile (· = '/')).length, ?_⟩
  have hall : ∀ c ∈ base.rtakeWhile (· = '/'), c = '/' := by
    intro c hc
    have hmem := List.mem_reverse.mp hc
    simpa using List.mem_takeWhile_imp hmem
  have hslashes : base.rtakeWhile (· = '/') = slashes (base.rtakeWhile (· = '/')).length :=
    List.eq_replicate_iff.mpr ⟨rfl, hall⟩
  rw [← hslashes, List.rdropWhile_append_rtakeWhile]

/-- The directory of an allowed URL has its authority. -/
theorem isBase_directory {base : Text} (h : validateHttpsTargetUrl env base = none) :
    IsBase env.urls (directory base) https (authority [] base).2 := by
  obtain ⟨hscheme, hnamed, haccepted, -⟩ := validate_eq_none_iff.mp h
  obtain ⟨n, hn⟩ := base_slashes base
  refine ⟨?_, isScheme_https, hnamed, haccepted, by decide, by decide⟩
  have hnetloc : (authority [] (base.rdropWhile (· = '/') ++ slashes n)).2 ≠ [] := by
    rw [← hn]
    exact hnamed
  have hsame := authority_slashes 1 hnetloc
  rw [← hn] at hsame
  have hdirectory : directory base = base.rdropWhile (· = '/') ++ slashes 1 := rfl
  rw [hdirectory, hsame]
  exact Prod.ext hscheme rfl

/-! ## Result -/

variable {config : WebhookConfig} {path : Text}

/-- The reference that a plain path makes names no network location over `https`, or none that is
    allowed, or one with the host and the port of the base. -/
def StaysAtHome (env : WebhookEnv) (base path : Text) : Prop :=
  isPlainPath path = true → (authority https (reference path)).1 = https →
    AllowedHost env (authority https (reference path)).2 →
    SameHost env (authority https (reference path)).2 (authority [] base).2

theorem checkedTarget_eq {target : Text} :
    checkedTarget env target = .target url ↔ target = url ∧ validateHttpsTargetUrl env url = none := by
  unfold checkedTarget
  split
  · next failure hfailure =>
    simp only [reduceCtorEq, false_iff, not_and]
    rintro rfl
    rw [hfailure]
    simp
  · next hnone =>
    rw [Resolution.target.injEq]
    constructor
    · rintro rfl
      exact ⟨rfl, hnone⟩
    · exact And.left

theorem resolveRequestUrl_eq
    (hvalid : validateHttpsTargetUrl env (configuredWebhookUrl config) = none) :
    resolveRequestUrl env config path = .target url ↔
      validateHttpsTargetUrl env url = none ∧
      (stripChars path = [] ∧ url = configuredWebhookUrl config ∨
        stripChars path ≠ [] ∧ isPlainPath (stripChars path) = true ∧
          urljoin env.urls (directory (configuredWebhookUrl config)) (reference (stripChars path)) =
            some url) := by
  have hne : configuredWebhookUrl config ≠ [] := by
    intro hnil
    rw [hnil] at hvalid
    cases hvalid
  unfold resolveRequestUrl
  dsimp only
  rw [if_neg hne, hvalid]
  dsimp only
  by_cases hempty : stripChars path = []
  · rw [if_pos hempty, checkedTarget_eq]
    simp only [hempty, true_and, ne_eq, not_true_eq_false, false_and, or_false]
    exact ⟨fun h => ⟨h.2, h.1.symm⟩, fun h => ⟨h.2.symm, h.1⟩⟩
  · rw [if_neg hempty]
    by_cases hplain : isPlainPath (stripChars path) = true
    · rw [hplain]
      simp only [Bool.not_true, Bool.false_eq_true, if_false, hempty, false_and, ne_eq,
        not_false_eq_true, true_and, false_or]
      split
      · next hnone => simp [hnone]
      · next target hsome =>
        rw [checkedTarget_eq, hsome, Option.some.injEq, and_comm]
    · rw [if_pos (by simpa using hplain)]
      simp [hempty, hplain]

/-- A target that is returned has the origin of the base, or the network location that its reference
    names. -/
theorem origin_of_joined {target : Text}
    (hvalid : validateHttpsTargetUrl env (configuredWebhookUrl config) = none)
    (htarget : validateHttpsTargetUrl env target = none)
    (hjoined : Joined (https, (authority [] (configuredWebhookUrl config)).2)
      (reference (stripChars path)) target) :
    origin env target = origin env (configuredWebhookUrl config) ∨
      (authority https (reference (stripChars path))).1 = https ∧
        AllowedHost env (authority https (reference (stripChars path))).2 ∧
        origin env target = some ⟨https,
          hostname env.urls (authority https (reference (stripChars path))).2,
          port (authority https (reference (stripChars path))).2⟩ := by
  obtain ⟨hscheme, hallowed⟩ := validate_eq_none_iff.mp htarget
  obtain ⟨hbaseScheme, hbaseAllowed⟩ := validate_eq_none_iff.mp hvalid
  rw [origin_eq hallowed.2.1, hscheme, origin_eq hbaseAllowed.2.1, hbaseScheme]
  cases hjoined with
  | other hother hsame =>
    rw [hsame] at hscheme
    have hnamed := authority_of_named (by rw [hscheme]; decide) https
    rw [hnamed, hscheme] at hother
    exact absurd rfl hother
  | named hown hnetloc hread =>
    have hsame : (authority [] target).2 = (authority https (reference (stripChars path))).2 := by
      rw [hread]
    rw [hsame] at hallowed ⊢
    exact .inr ⟨hown, hallowed, rfl⟩
  | relative hown hnetloc hread =>
    have hsame : (authority [] target).2 = (authority [] (configuredWebhookUrl config)).2 := by
      rw [hread]
    rw [hsame]
    exact .inl rfl

/-- **The origin of a request** is that of the configured URL, exactly where the path names no other
    allowed host: a path is screened as it is written, while the library reads it without leading control
    characters and spaces, and without tabs and line breaks. -/
theorem resolved_origin_iff (env : WebhookEnv) (config : WebhookConfig) (path : Text)
    (hvalid : validateHttpsTargetUrl env (configuredWebhookUrl config) = none) :
    (∀ url, resolveRequestUrl env config path = .target url →
      origin env url = origin env (configuredWebhookUrl config)) ↔
      StaysAtHome env (configuredWebhookUrl config) (stripChars path) := by
  have hbase := isBase_directory hvalid
  obtain ⟨hbaseScheme, hbaseAllowed⟩ := validate_eq_none_iff.mp hvalid
  constructor
  · intro hall hplain hscheme hallowed
    have hempty : stripChars path ≠ [] := by
      intro hnil
      rw [hnil] at hplain
      cases hplain
    have hreference : reference (stripChars path) ≠ [] := by
      intro hnil
      rw [hnil] at hallowed
      exact hallowed.1 rfl
    obtain ⟨target, htarget⟩ := urljoin_returns hbase hallowed.2.1
    have hread : authority [] target = (https, (authority https (reference (stripChars path))).2) := by
      cases urljoin_joined hbase hreference htarget with
      | other hother hsame => exact absurd hscheme hother
      | named hown hnetloc hread => exact hread
      | relative hown hnetloc hread => exact absurd hnetloc hallowed.1
    have htargetAllowed : validateHttpsTargetUrl env target = none := by
      rw [validate_eq_none_iff, hread]
      exact ⟨rfl, hallowed⟩
    have horigin := hall target ((resolveRequestUrl_eq hvalid).mpr
      ⟨htargetAllowed, .inr ⟨hempty, hplain, htarget⟩⟩)
    rw [origin_eq (by rw [hread]; exact hallowed.2.1), origin_eq hbaseAllowed.2.1, hread] at horigin
    have hparts := Origin.mk.inj (Option.some.inj horigin)
    exact ⟨hparts.2.1, hparts.2.2⟩
  · intro hstays url hurl
    obtain ⟨htarget, ⟨-, rfl⟩ | ⟨-, hplain, hjoin⟩⟩ := (resolveRequestUrl_eq hvalid).mp hurl
    · rfl
    · by_cases hreference : reference (stripChars path) = []
      · rw [hreference] at hjoin
        unfold urljoin at hjoin
        rw [if_neg hbase.ne_nil, if_pos rfl] at hjoin
        cases hjoin
        rw [origin_eq (by rw [hbase.read]; exact hbaseAllowed.2.1), origin_eq hbaseAllowed.2.1,
          hbase.read, hbaseScheme]
      · rcases origin_of_joined hvalid htarget (urljoin_joined hbase hreference hjoin) with
          hsame | ⟨hscheme, hallowed, horigin⟩
        · exact hsame
        · obtain ⟨hhost, hport⟩ := hstays hplain hscheme hallowed
          rw [horigin, hhost, hport, origin_eq hbaseAllowed.2.1, hbaseScheme]

end

/-! ### A path with a tab -/

/-- Addresses are not read, hosts are in ASCII. -/
def plainEnv : WebhookEnv where
  urls :=
    { refusesBracketed := fun _ => true
      refusesNormalized := fun _ => true
      lower := fun text => text.map lowerChar
      lower_ascii := fun _ _ => rfl }
  blockedAddress _ := none
  decimal c := if c.isDigit then some (c.toNat - '0'.toNat) else none

/-- A configured URL. -/
def hooks : WebhookConfig where
  webhookUrl := some "https://hooks.example.com/services".toList
  webhookBaseUrl := none

/-- A path below the configured URL. -/
theorem resolved_origin_alerts :
    (∀ url, resolveRequestUrl plainEnv hooks "/alerts".toList = .target url →
      origin plainEnv url = origin plainEnv (configuredWebhookUrl hooks)) ↔
      StaysAtHome plainEnv (configuredWebhookUrl hooks) (stripChars "/alerts".toList) :=
  resolved_origin_iff plainEnv hooks "/alerts".toList (by decide +kernel)

/-- A slash, a tab and two slashes pass the screen, and name another host. -/
theorem tabbed_path_leaves :
    ¬ ∀ (env : WebhookEnv) (config : WebhookConfig) (path url : Text),
      validateHttpsTargetUrl env (configuredWebhookUrl config) = none →
      resolveRequestUrl env config path = .target url →
      origin env url = origin env (configuredWebhookUrl config) := by
  intro hall
  have hsame := hall plainEnv hooks "/\t//evil.example.net/collect".toList
    "https://evil.example.net/collect".toList (by decide +kernel) (by decide +kernel)
  have hhost := congrArg (fun o => (o.bind Origin.host).map String.ofList) hsame
  revert hhost
  decide +kernel

end SiemDashboard.WebhookTarget
