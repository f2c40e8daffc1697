import StripeEntitlements.Parity.Pattern
import StripeEntitlements.Parity.Runtime

/-!
# Redacted Snapshots

`event_audit.py` and `event-audit.ts`: the fields of an Event that may be stored. Both
runtimes read the same fields with the same patterns; Python matches whole texts, TypeScript
searches for the anchored pattern.

## Main results

- `auditSnapshot_congr` — the snapshot depends on the answers of patterns and integers only
- `redactedEventSnapshot_agree` — the runtimes store the same snapshot of every object
-/

namespace StripeEntitlements

open Text

/-! ## Patterns -/

namespace AuditPattern

def lower (c : Char) : Bool := 'a' ≤ c && c ≤ 'z'

def digit (c : Char) : Bool := '0' ≤ c && c ≤ '9'

def nonzero (c : Char) : Bool := '1' ≤ c && c ≤ '9'

def alnum (c : Char) : Bool := lower c || ('A' ≤ c && c ≤ 'Z') || digit c

/-- `[0-9a-f]` without regard to case; no other character folds into it. -/
def hex (c : Char) : Bool := digit c || ('a' ≤ c && c ≤ 'f') || ('A' ≤ c && c ≤ 'F')

def exactly (class? : Char → Bool) (n : Nat) : Pattern := .many class? n (some n)

def plus (class? : Char → Bool) : Pattern := .many class? 1 none

/-- `_SECRET_VALUE`. -/
def secretValue : Pattern :=
  .alt (.seqs [.notAfter alnum, .alt (.lit "sk") (.lit "rk"), .lit "_",
      .alt (.lit "test") (.lit "live"), .lit "_", plus alnum])
    (.alt (.seqs [.notAfter alnum, .lit "whsec_", plus alnum])
      (.seqs [plus alnum, .lit "_secret_", plus alnum]))

/-- `_AUDIT_TOKEN`. -/
def auditToken : Pattern :=
  .seq (.one alnum)
    (.many (fun c => alnum c || c = '_' || c = '.' || c = ':' || c = '-') 0 (some 511))

/-- `_UUID`. -/
def uuid : Pattern :=
  .seqs [exactly hex 8, .lit "-", exactly hex 4, .lit "-", exactly hex 4, .lit "-", exactly hex 4,
    .lit "-", exactly hex 12]

/-- `_SLUG`. -/
def slug : Pattern :=
  .seq (.one lower) (.many (fun c => lower c || digit c || c = '_' || c = '-') 0 (some 127))

/-- `_CANONICAL_CREDITS`. -/
def canonicalCredits : Pattern :=
  .seq (.alt (.lit "0") (.seq (.one nonzero) (.many digit 0 none)))
    (.opt (.seq (.lit ".") (.many digit 1 (some 6))))

/-- `_POSITIVE_INTEGER`. -/
def positiveInteger : Pattern := .seq (.one nonzero) (.many digit 0 (some 18))

def currency : Pattern := exactly lower 3

def smallNumber : Pattern := .seq (.one nonzero) (.many digit 0 (some 3))

/-- `_METADATA_PATTERNS`. -/
def metadata : List (String × Pattern) := [
  ("account_id", uuid),
  ("billing_kind", .lit "credit_pack"),
  ("credit_pack_order_id", uuid),
  ("currency", currency),
  ("expires_days", smallNumber),
  ("lookup_key", slug),
  ("pack_credits", canonicalCredits),
  ("pack_key", slug),
  ("pack_schema_version", smallNumber),
  ("plan", slug),
  ("plan_key", slug),
  ("plan_interval", .alt (.lit "month") (.lit "year")),
  ("price_amount", positiveInteger),
  ("product_line", slug),
  ("transition_policy", .alt (.lit "full_period_reset") (.lit "prorated_delta"))]

end AuditPattern

/-! ## Snapshots -/

/-- How a runtime matches a whole text and reads an integer. -/
structure AuditRuntime where
  whole : Pattern → String → Bool
  integer : Json → Option Int

namespace AuditRuntime

variable (r : AuditRuntime)

/-- `_audit_token`. -/
def auditToken (value : Json) : Option Json :=
  match value with
  | .str s =>
      if r.whole AuditPattern.auditToken s && !AuditPattern.secretValue.search s then some value
      else none
  | _ => none

/-- `_object_id`. -/
def objectId (value : Json) : Option Json :=
  r.auditToken (if value.isObj then value.get "id" else value)

/-- A text that matches its pattern. -/
def matching (pattern : Pattern) (value : Json) : Option Json :=
  match value with
  | .str s => if r.whole pattern s then some value else none
  | _ => none

/-- The members of the fields that a reader lets through. -/
def members (read : Json → Option Json) (value : Json) (fields : List String) :
    List (String × Json) :=
  fields.filterMap fun field => (read (value.get field)).map (field, ·)

/-- `_safe_metadata`. -/
def safeMetadata (value : Json) : List (String × Json) :=
  if value.isObj then
    AuditPattern.metadata.filterMap fun (key, pattern) =>
      match value.get key with
      | .str s =>
          if r.whole pattern s && !AuditPattern.secretValue.search s then some (key, .str s)
          else none
      | _ => none
  else []

def boolean (value : Json) : Option Json := value.asBool.map .bool

/-- `_audit_object`. -/
def auditObject (value : Json) : List (String × Json) :=
  if value.isObj then
    members r.objectId value ["id"] ++
      members r.objectId value
        ["customer", "subscription", "invoice", "payment_intent", "charge", "latest_charge"] ++
      members r.auditToken value ["object", "status", "payment_status", "mode", "billing_reason"] ++
      members (r.matching AuditPattern.uuid) value ["client_reference_id"] ++
      members (r.matching AuditPattern.currency) value ["currency"] ++
      members boolean value ["livemode", "paid", "refunded"] ++
      members (fun v => (r.integer v).map .int) value
        ["created", "amount", "amount_due", "amount_paid", "amount_received", "amount_refunded"] ++
      match r.safeMetadata (value.get "metadata") with
      | [] => []
      | metadata => [("metadata", .obj metadata)]
  else []

/-- The allowlisted members of an Event. -/
def auditSnapshot (event : Json) : List (String × Json) :=
  members r.auditToken event ["id", "object", "type", "api_version"] ++
    members boolean event ["livemode"] ++
    members (fun v => (r.integer v).map .int) event ["created"] ++
    match r.auditObject ((event.get "data").get "object") with
    | [] => []
    | object => [("data", .obj [("object", .obj object)])]

end AuditRuntime

namespace Python

def auditRuntime : AuditRuntime := { whole := Pattern.fullmatch, integer := Json.asInt }

/-- `redacted_event_snapshot`. -/
def redactedEventSnapshot (event : Json) : Transaction Json :=
  onMapping event (.ok (.obj (auditRuntime.auditSnapshot event)))

end Python

namespace TypeScript

def auditRuntime : AuditRuntime :=
  { whole := fun p => p.anchored.search, integer := safeInteger }

/-- `redactedEventSnapshot`. -/
def redactedEventSnapshot (event : Json) : Json :=
  if event.isObj then .obj (auditRuntime.auditSnapshot event) else .obj []

end TypeScript

/-! ## Agreement -/

theorem AuditRuntime.members_congr {read read' : Json → Option Json} {value : Json}
    {fields : List String} (h : ∀ field ∈ fields, read (value.get field) = read' (value.get field)) :
    members read value fields = members read' value fields := by
  unfold members
  apply List.filterMap_congr
  intro field hfield
  rw [h field hfield]

/-- The snapshot depends on what the runtime answers for texts, and for the integers of the
    Event. -/
theorem AuditRuntime.auditSnapshot_congr {r r' : AuditRuntime} {event : Json}
    (hwhole : r.whole = r'.whole)
    (hinteger : ∀ v : Json, v.safe = true → r.integer v = r'.integer v)
    (hsafe : event.safe = true) : r.auditSnapshot event = r'.auditSnapshot event := by
  have htoken : r.auditToken = r'.auditToken := by
    funext value
    rw [auditToken.eq_def, auditToken.eq_def, hwhole]
  have hid : r.objectId = r'.objectId := by
    funext value
    rw [objectId, objectId, htoken]
  have hmatching : r.matching = r'.matching := by
    funext pattern value
    rw [matching.eq_def, matching.eq_def, hwhole]
  have hmetadata : r.safeMetadata = r'.safeMetadata := by
    funext value
    rw [safeMetadata, safeMetadata, hwhole]
  have hintegers : ∀ (value : Json) (fields : List String), value.safe = true →
      members (fun v => (r.integer v).map .int) value fields =
        members (fun v => (r'.integer v).map .int) value fields := by
    intro value fields hvalue
    apply members_congr
    intro field _
    rw [hinteger _ (Json.safe_get hvalue field)]
  have hobject : r.auditObject ((event.get "data").get "object") =
      r'.auditObject ((event.get "data").get "object") := by
    have hdata := Json.safe_get (Json.safe_get hsafe "data") "object"
    rw [auditObject, auditObject, htoken, hid, hmatching, hmetadata, hintegers _ _ hdata]
  rw [auditSnapshot, auditSnapshot, htoken, hintegers _ _ hsafe, hobject]

/-- The snapshots agree on every object; Python raises for anything else. -/
theorem redactedEventSnapshot_agree {event : Json} (hsafe : event.safe = true) :
    Python.redactedEventSnapshot event = .ok (TypeScript.redactedEventSnapshot event) ↔
      event.isObj = true := by
  have hwhole : Python.auditRuntime.whole = TypeScript.auditRuntime.whole := by
    funext pattern text
    exact (Pattern.search_anchored pattern text).symm
  have hsame : Python.auditRuntime.auditSnapshot event =
      TypeScript.auditRuntime.auditSnapshot event :=
    AuditRuntime.auditSnapshot_congr hwhole
      (fun v hv => (TypeScript.safeInteger_eq hv).symm) hsafe
  rw [Python.redactedEventSnapshot, Python.onMapping_eq_ok, TypeScript.redactedEventSnapshot]
  constructor
  · exact And.left
  · intro hobject
    rw [if_pos hobject, hsame]
    exact ⟨hobject, rfl⟩

end StripeEntitlements
