import SiemDashboard.Lib.Urls

/-!
# Webhook targets

`integrations/webhook_adapter.py`: which URL a webhook request is sent to.

* **Configuration** — `WebhookConfig`, `configuredWebhookUrl`.
* **Hosts** — `hostnameFromUrl`, `isBlockedHostname`.
* **Targets** — `validateHttpsTargetUrl`, `isPlainPath`, `resolveRequestUrl`.
-/

namespace SiemDashboard.WebhookAdapter

open Python Urls

/-! ## Configuration -/

/-- What the adapter takes from the libraries: the parts of URLs, the addresses that
    `ipaddress.ip_address` reads (private, loopback, link-local, reserved or multicast ones are blocked),
    and the digits of `int`. -/
structure WebhookEnv where
  urls : Urls.Library
  blockedAddress : Text → Option Bool
  decimal : Char → Option Nat

/-- `WEBHOOK_URL` and `WEBHOOK_BASE_URL`. -/
structure WebhookConfig where
  webhookUrl : Option Text
  webhookBaseUrl : Option Text

/-- `_configured_webhook_url`. -/
def configuredWebhookUrl (config : WebhookConfig) : Text :=
  let url := stripChars (config.webhookUrl.getD [])
  if url ≠ [] then url else stripChars (config.webhookBaseUrl.getD [])

/-! ## Hosts -/

/-- `_hostname_from_url`. -/
def hostnameFromUrl (env : WebhookEnv) (url : Text) : Option Text :=
  (urlparse env.urls [] url).bind fun parsed =>
    let host := env.urls.lower (stripChars ((hostname env.urls parsed.netloc).getD []))
    if host = [] then none else some host

/-- The texts of `localhost` and of the addresses that stand for it. -/
def localHosts : List Text := ["localhost", "0.0.0.0", "::1", "[::1]"].map String.toList

/-- The domains whose hosts are blocked. -/
def localDomains : List Text :=
  [".localhost", ".local", ".internal", ".metadata.google.internal"].map String.toList

/-- The beginnings of addresses that are blocked in hosts that are not read as an address. -/
def localPrefixes : List Text := ["127.", "10.", "192.168.", "169.254."].map String.toList

/-- The second part of a host in `172.16.0.0/12`. -/
def inPrivateRange (env : WebhookEnv) (host : Text) : Bool :=
  match (split '.' host)[1]? with
  | none => false
  | some part =>
    match Python.int env.decimal (String.ofList part) with
    | none => false
    | some second => 16 ≤ second && second ≤ 31

/-- `_is_blocked_hostname`. -/
def isBlockedHostname (env : WebhookEnv) (hostname : Text) : Bool :=
  let host := (env.urls.lower (stripChars hostname)).rdropWhile (· = '.')
  if host = [] then true
  else if localHosts.contains host then true
  else if localDomains.any fun domain => domain.isSuffixOf host then true
  else if host = "metadata.google.internal".toList then true
  else
    match env.blockedAddress
        ((host.dropWhile fun c => c = '[' || c = ']').rdropWhile fun c => c = '[' || c = ']') with
    | some blocked => blocked
    | none =>
      if localPrefixes.any fun start => start.isPrefixOf host then true
      else if "172.".toList.isPrefixOf host then inPrivateRange env host
      else false

/-! ## Targets -/

/-- The `failure_classification` of a target that is refused. -/
inductive TargetFailure where
  | credentialMissing
  | malformedPayload
  | invalidTarget
  | invalidCredentials
deriving DecidableEq

/-- The schemes that are refused as targets. -/
def refusedSchemes : List Text := ["file", "ftp", "gopher", "javascript", "data"].map String.toList

/-- `https`. -/
def https : Text := ['h', 't', 't', 'p', 's']

/-- `_validate_https_target_url`; none where the URL is allowed. -/
def validateHttpsTargetUrl (env : WebhookEnv) (url : Text) : Option TargetFailure :=
  if url = [] then some .credentialMissing
  else
    match urlparse env.urls [] url with
    | none => some .malformedPayload
    | some parsed =>
      let scheme := env.urls.lower (stripChars parsed.scheme)
      if refusedSchemes.contains scheme then some .invalidTarget
      else if scheme ≠ https then some .invalidCredentials
      else if parsed.netloc = [] then some .malformedPayload
      else
        match hostnameFromUrl env url with
        | none => some .invalidTarget
        | some hostname => if isBlockedHostname env hostname then some .invalidTarget else none

/-- What `_resolve_request_url` comes to: a target, a refusal, or the `ValueError` of `urljoin`. -/
inductive Resolution where
  | target (url : Text)
  | refused (failure : TargetFailure)
  | raised
deriving DecidableEq

/-- A target is checked like the configured URL. -/
def checkedTarget (env : WebhookEnv) (target : Text) : Resolution :=
  match validateHttpsTargetUrl env target with
  | some failure => .refused failure
  | none => .target target

/-- The path starts with one slash, and has no `://`. -/
def isPlainPath (path : Text) : Bool :=
  ['/'].isPrefixOf path && !decide ([':', '/', '/'] <:+: path) && !(['/', '/'].isPrefixOf path)

/-- `path.lstrip("/")`. -/
def reference (path : Text) : Text := path.dropWhile (· = '/')

/-- `base_url.rstrip("/") + "/"`. -/
def directory (baseUrl : Text) : Text := baseUrl.rdropWhile (· = '/') ++ ['/']

/-- `_resolve_request_url`, with the text `str(params.get("path") or "")`. -/
def resolveRequestUrl (env : WebhookEnv) (config : WebhookConfig) (pathText : Text) : Resolution :=
  let baseUrl := configuredWebhookUrl config
  if baseUrl = [] then .refused .credentialMissing
  else
    match validateHttpsTargetUrl env baseUrl with
    | some failure => .refused failure
    | none =>
      let path := stripChars pathText
      if path = [] then checkedTarget env baseUrl
      else if !isPlainPath path then .refused .malformedPayload
      else
        match urljoin env.urls (directory baseUrl) (reference path) with
        | none => .raised
        | some target => checkedTarget env target

end SiemDashboard.WebhookAdapter
