import SiemDashboard.Core.DeadLetterStore
import SiemDashboard.Lib.JsonPaths

/-!
# Redaction of metadata

The redaction that `core/soar_response_outcomes.py` and `core/notification_delivery_store.py` apply to
metadata before it is stored.  Both files have the same functions over lists of their own.

* **Rules** — `RedactionRules`, `unsafeMetadataKey`, `containsUrl`.
* **Redaction** — `sanitizeScalar`, `redactFields`, `redactMetadata`.
* **Members** — `redactSoarOutcomeMetadata`, `redactNotificationDeliveryMetadata`.
-/

namespace SiemDashboard.MetadataRedaction

open DeadLetterStore Python

/-! ## Rules -/

/-- The lists of `_unsafe_metadata_key`. -/
structure RedactionRules where
  keyDenylist : List String
  keySubstringDeny : List String

/-- `_unsafe_metadata_key`. -/
def unsafeMetadataKey (rules : RedactionRules) (key : String) : Bool :=
  let lk := lower key
  rules.keyDenylist.contains lk ||
    (mentions "webhook_url" lk || ["webhook", "incoming_webhook", "incoming_webhook_url"].contains lk) ||
    ("_webhook_url".toList.isSuffixOf lk.toList || "webhookurl".toList.isSuffixOf lk.toList) ||
    rules.keySubstringDeny.any fun part => mentions part lk

/-- `_URL_RE.search`: a web address begins at some place of the text. -/
def containsUrl (text : String) : Bool := text.toList.tails.any startsUrl

/-- What takes the place of a text with a web address. -/
def redactedUrl : String := "[REDACTED_URL]"

/-! ## Redaction -/

section Redaction

variable (rules : RedactionRules)

mutual

/-- `_sanitize_scalar`. -/
def sanitizeScalar : Json → Json
  | .str s => .str (if containsUrl s then redactedUrl else s)
  | .obj kvs => .obj (redactFields kvs)
  | .arr items => .arr (sanitizeItems items)
  | .null => .null
  | .bool b => .bool b
  | .int n => .int n
  | .float text => .float text

def sanitizeItems : List Json → List Json
  | [] => []
  | v :: items => sanitizeScalar v :: sanitizeItems items

/-- The loop over the fields of a dict. -/
def redactFields : List (String × Json) → List (String × Json)
  | [] => []
  | (key, value) :: kvs =>
    if unsafeMetadataKey rules key then redactFields kvs
    else (key, sanitizeScalar value) :: redactFields kvs

end

/-- The redaction of metadata, or the `TypeError` of metadata that is no dict. -/
def redactMetadata (metadata : Json) : Except String Json :=
  if !metadata.truthy then .ok (.obj [])
  else
    match metadata with
    | .obj kvs => .ok (.obj (redactFields rules kvs))
    | _ => .error "metadata must be a dict or None"

end Redaction

/-! ## Members -/

/-- `_METADATA_KEY_DENYLIST` and `_METADATA_KEY_SUBSTRING_DENY` of `core/soar_response_outcomes.py`. -/
def soarOutcomeRules : RedactionRules where
  keyDenylist :=
    ["authorization", "cookie", "cookies", "headers", "raw_payload", "raw_response", "webhook_url",
      "slack_webhook_url", "teams_webhook_url", "access_token", "refresh_token", "password", "secret",
      "api_key", "apikey"]
  keySubstringDeny :=
    ["token", "secret", "password", "authorization", "cookie", "bearer", "api_key", "apikey", "_url",
      "slack_webhook", "teams_webhook"]

/-- `_METADATA_KEY_DENYLIST` and `_METADATA_KEY_SUBSTRING_DENY` of
    `core/notification_delivery_store.py`. -/
def notificationDeliveryRules : RedactionRules where
  keyDenylist :=
    ["authorization", "cookie", "cookies", "headers", "raw_payload", "raw_response", "webhook_url",
      "slack_webhook_url", "teams_webhook_url", "access_token", "refresh_token", "password", "secret",
      "api_key", "apikey"]
  keySubstringDeny :=
    ["token", "secret", "password", "authorization", "cookie", "bearer", "api_key", "apikey", "_url",
      "slack_webhook", "teams_webhook"]

/-- `redact_soar_outcome_metadata`. -/
def redactSoarOutcomeMetadata (metadata : Json) : Except String Json :=
  redactMetadata soarOutcomeRules metadata

/-- `redact_notification_delivery_metadata`. -/
def redactNotificationDeliveryMetadata (metadata : Json) : Except String Json :=
  redactMetadata notificationDeliveryRules metadata

end SiemDashboard.MetadataRedaction
