import Mathlib.Data.Rat.Defs
import PromptRail.Library.PyText

/-!
# Privacy of runtime events (`privacy/policy.py`)

A policy copies a tree of attributes and leaves out what it does not allow. One budget is shared by the whole tree: every mapping that
is entered takes from it, and every item that is copied. What is left of it is passed on from item to item.
-/

namespace PromptRail

namespace Privacy

open PyText (Text)

/-! ## Attributes -/

/-- A float. -/
inductive FloatValue where
  | finite (x : ℚ)
  | infinity (negative : Bool)
  | nan
deriving DecidableEq

/-- `math.isfinite`. -/
def FloatValue.isFinite : FloatValue → Bool
  | .finite _ => true
  | .infinity _ | .nan => false

/-- A key of a mapping: a text, or any other object. -/
inductive Key where
  | str (t : Text)
  | other (object : Nat)
deriving DecidableEq

/-- A value of an attribute. A sequence is a list or a tuple, an object is anything that a policy does not look into. -/
inductive Attribute where
  | none
  | bool (b : Bool)
  | int (n : Int)
  | float (x : FloatValue)
  | str (t : Text)
  | mapping (items : List (Key × Attribute))
  | sequence (items : List Attribute)
  | object (object : Nat)

/-- The items of a mapping, in order. -/
abbrev Items := List (Key × Attribute)

/-- `output[key] = value`. -/
def setItem : Items → Key → Attribute → Items
  | [], key, value => [(key, value)]
  | (key', value') :: rest, key, value => if key' = key then (key, value) :: rest else (key', value') :: setItem rest key value

/-! ## Keys -/

/-- `_CONTENT_KEY_PARTS`. -/
def contentKeyParts : List String :=
  ["prompt", "completion", "message", "messages", "body", "document", "documents", "content", "input", "output", "source", "code",
    "tool_input", "tool_output", "response", "statement", "url"]

/-- `_SECRET_KEY_PARTS`. -/
def secretKeyParts : List String := ["api_key", "apikey", "authorization", "cookie", "credential", "password", "secret"]

/-- `_SAFE_METADATA_SUFFIXES`. -/
def safeMetadataSuffixes : List String :=
  ["_chars", "_count", "_duration_ms", "_hash", "_id", "_length", "_mime_type", "_model", "_name", "_size", "_size_bytes", "_status",
    "_tokens", "_type", "_method", "_operation", "_phase", "_provider", "_system"]

/-- `_SAFE_METADATA_KEYS`. -/
def safeMetadataKeys : List String :=
  ["duration_ms", "error_type", "kind", "model", "name", "operation", "phase", "provider", "status"]

/-- `_SAFE_METADATA_PREFIXES`. -/
def safeMetadataPrefixes : List String :=
  ["agent_", "branch_", "error_", "gen_ai_", "llm_", "otel_", "promptrail_", "retrieval_", "tool_", "workflow_"]

/-- `any(part in text for part in parts)`. -/
def containsAny (parts : List String) (t : Text) : Bool := parts.any fun part => t.tails.any fun rest => part.toList.isPrefixOf rest

/-- `text.endswith(suffixes)`. -/
def endsWithAny (suffixes : List String) (t : Text) : Bool := suffixes.any fun suffix => suffix.toList.isSuffixOf t

/-- `text.startswith(prefixes)`. -/
def startsWithAny (prefixes : List String) (t : Text) : Bool := prefixes.any fun part => part.toList.isPrefixOf t

/-- `key.lower().replace("-", "_").replace(".", "_")`. -/
def normalizeKey (lower : Text → Text) (key : Text) : Text := (lower key).map fun c => if c = '-' ∨ c = '.' then '_' else c

/-- A secret key. -/
def isSecretKey (normalized : Text) : Bool := containsAny secretKeyParts normalized

/-- A token key. -/
def isTokenKey (normalized : Text) : Bool := normalized == "token".toList || endsWithAny ["_token"] normalized

/-- A content key. -/
def isContentKey (normalized : Text) : Bool := containsAny contentKeyParts normalized

/-! ## The policy -/

/-- `mode`. -/
inductive Mode where
  | metadataOnly
  | content
deriving DecidableEq

/-- `PrivacyPolicy`, as `__post_init__` accepts it. -/
structure PrivacyPolicy where
  mode : Mode := .metadataOnly
  maxDepth : Nat := 4
  maxItems : Nat := 50
  maxStringLength : Nat := 2048
  maxTotalAttributes : Nat := 200
  maxDepth_pos : 1 ≤ maxDepth := by decide
  maxItems_pos : 1 ≤ maxItems := by decide
  maxStringLength_pos : 1 ≤ maxStringLength := by decide
  maxTotalAttributes_pos : 1 ≤ maxTotalAttributes := by decide

variable (lower : Text → Text) (policy : PrivacyPolicy)

/-- `value is None or isinstance(value, bool | int | float)`. -/
def Attribute.isScalar : Attribute → Bool
  | .none | .bool _ | .int _ | .float _ => true
  | .str _ | .mapping _ | .sequence _ | .object _ => false

/-- `isinstance(value, Mapping)`. -/
def Attribute.isMapping : Attribute → Bool
  | .mapping _ => true
  | _ => false

/-- `_allows_item`. -/
def allowsItem (key : Text) (value : Attribute) : Bool :=
  if policy.mode = .content then true
  else
    let normalized := normalizeKey lower key
    if isSecretKey normalized then false
    else if isTokenKey normalized then false
    else if isContentKey normalized then endsWithAny safeMetadataSuffixes normalized
    else if safeMetadataKeys.any (·.toList == normalized) then true
    else if startsWithAny safeMetadataPrefixes normalized then true
    else if endsWithAny safeMetadataSuffixes normalized then true
    else if value.isMapping then true
    else value.isScalar

mutual

/-- `_sanitize_value`: the value that is kept, if it is, and what is left of the budget. -/
def sanitizeValue : Attribute → Nat → Nat → Option Attribute × Nat
  | .none, _, budget => (some .none, budget)
  | .bool b, _, budget => (some (.bool b), budget)
  | .int n, _, budget => (some (.int n), budget)
  | .float x, _, budget => (if x.isFinite then some (.float x) else none, budget)
  | .str t, _, budget => (some (.str (t.take policy.maxStringLength)), budget)
  | .mapping items, depth, budget =>
    if policy.maxDepth ≤ depth ∨ budget = 0 then (some (.mapping []), budget)
    else
      let copied := sanitizeItems items [] depth (budget - 1)
      (some (.mapping copied.1), copied.2)
  | .sequence items, depth, budget =>
    if policy.maxDepth ≤ depth then (some (.sequence []), budget)
    else
      let copied := sanitizeElements items policy.maxItems depth budget
      (some (.sequence copied.1), copied.2)
  | .object _, _, budget => (none, budget)

/-- The loop of `_sanitize_mapping`, over the items that are left. -/
def sanitizeItems : Items → Items → Nat → Nat → Items × Nat
  | [], output, _, budget => (output, budget)
  | (key, item) :: rest, output, depth, budget =>
    if policy.maxItems ≤ output.length then (output, budget)
    else
      match key with
      | .other _ => sanitizeItems rest output depth budget
      | .str text =>
        if !allowsItem lower policy text item then sanitizeItems rest output depth budget
        else if budget = 0 then (output, budget)
        else
          match sanitizeValue item (depth + 1) (budget - 1) with
          | (some sanitized, left) => sanitizeItems rest (setItem output (.str text) sanitized) depth left
          | (none, left) => sanitizeItems rest output depth left

/-- The loop of `_sanitize_sequence`, over the items that are left and the number of them that are still to be taken. -/
def sanitizeElements : List Attribute → Nat → Nat → Nat → List Attribute × Nat
  | [], _, _, budget => ([], budget)
  | _ :: _, 0, _, budget => ([], budget)
  | item :: rest, room + 1, depth, budget =>
    if budget = 0 then ([], budget)
    else
      match sanitizeValue item (depth + 1) (budget - 1) with
      | (some sanitized, left) =>
        let copied := sanitizeElements rest room depth left
        (sanitized :: copied.1, copied.2)
      | (none, left) => sanitizeElements rest room depth left

end

/-- `_sanitize_mapping`. -/
def sanitizeMapping (items : Items) (depth budget : Nat) : Items × Nat :=
  if policy.maxDepth ≤ depth ∨ budget = 0 then ([], budget) else sanitizeItems lower policy items [] depth (budget - 1)

/-- `_sanitize_value` of a mapping is `_sanitize_mapping`. -/
theorem sanitizeValue_mapping (items : Items) (depth budget : Nat) :
    sanitizeValue lower policy (.mapping items) depth budget =
      (some (.mapping (sanitizeMapping lower policy items depth budget).1), (sanitizeMapping lower policy items depth budget).2) := by
  unfold sanitizeValue sanitizeMapping
  split <;> rfl

/-- `sanitize`. -/
def sanitize (attributes : Option Items) : Items :=
  match attributes with
  | none | some [] => []
  | some (item :: items) => (sanitizeMapping lower policy (item :: items) 0 policy.maxTotalAttributes).1

/-- The policy and the attributes of a test of the source: the content and the secret are left out, and the items after the second. -/
example :
    sanitize (List.map Char.toLower) { maxDepth := 3, maxItems := 2, maxStringLength := 4 }
      (some [(.str "model".toList, .str "abcdef".toList), (.str "messages".toList, .sequence [.str "secret".toList]),
        (.str "api_key".toList, .str "pr_live_SECRET".toList), (.str "db.statement".toList, .str "select".toList),
        (.str "summary".toList, .str "raw".toList),
        (.str "nested".toList, .mapping [(.str "ok".toList, .bool true), (.str "object".toList, .object 0), (.str "more".toList, .int 3)]),
        (.str "extra".toList, .int 1)]) =
      [(.str "model".toList, .str "abcd".toList),
        (.str "nested".toList, .mapping [(.str "ok".toList, .bool true), (.str "more".toList, .int 3)])] := by
  rfl

end Privacy

end PromptRail
