import Blocklist.Text.Affix
import Blocklist.Text.Case
import Blocklist.Rule.Fault

/-!
Headers a rule may remove. Those that security or the protocol itself rests on are
protected, on the side of the exchange where they matter.
-/

namespace Blocklist.HeaderRemoval

/-- Headers that are never removed from responses. -/
def protectedInResponses : List String :=
  ["access-control-allow-origin", "access-control-allow-credentials",
    "access-control-allow-headers", "access-control-allow-methods",
    "access-control-expose-headers", "access-control-max-age",
    "access-control-request-headers", "access-control-request-method", "origin",
    "timing-allow-origin", "allow", "cross-origin-embedder-policy",
    "cross-origin-opener-policy", "cross-origin-resource-policy", "content-security-policy",
    "content-security-policy-report-only", "expect-ct", "feature-policy", "origin-isolation",
    "strict-transport-security", "upgrade-insecure-requests", "x-content-type-options",
    "x-download-options", "x-frame-options", "x-permitted-cross-domain-policies",
    "x-powered-by", "x-xss-protection", "public-key-pins", "public-key-pins-report-only",
    "sec-websocket-key", "sec-websocket-extensions", "sec-websocket-accept",
    "sec-websocket-protocol", "sec-websocket-version", "p3p", "sec-fetch-mode",
    "sec-fetch-dest", "sec-fetch-site", "sec-fetch-user", "referrer-policy", "content-type",
    "content-length", "accept", "accept-encoding", "host", "connection", "transfer-encoding",
    "upgrade"]

/-- Headers that are never removed from requests. -/
def protectedInRequests : List String :=
  ["access-control-request-headers", "access-control-request-method", "origin", "referer",
    "cookie", "content-type", "content-length", "accept", "accept-encoding", "host",
    "connection", "transfer-encoding", "upgrade", "sec-fetch-mode", "sec-fetch-dest",
    "sec-fetch-site", "sec-fetch-user"]

/-- What marks a header of requests. -/
def requestMark : List Char := ['r', 'e', 'q', 'u', 'e', 's', 't', ':']

/-- Reads the header that a value names: `request:name` or `name`, in any case. -/
def ofValue (value : String) : Except RuleFault HeaderRemoval :=
  let (fromRequests, rest) :=
    match Text.after? requestMark value.toList with
    | some rest => (true, rest)
    | none => (false, value.toList)
  let name := String.ofList (Text.asciiLower (Text.trim rest))
  let kept := if fromRequests then protectedInRequests else protectedInResponses
  if name.isEmpty then .error .missingHeaderName
  else if kept.contains name then .error (.protectedHeader name)
  else .ok { name, fromRequests }

end Blocklist.HeaderRemoval
