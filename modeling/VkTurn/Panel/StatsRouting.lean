import VkTurn.Panel.RuntimeInbounds
import VkTurn.Store.Hoisting

/-! # The routing of the statistics

`EnsureStatsRouting` moves the rule of Xray's own api inbound to the front of the routing rules.  A
configuration is the JSON that its text holds; its sections are kept as they are, and only the rules
are decoded without a type.  Numbers that no float holds, which the decoder refuses, are left out.
-/

namespace VkTurn.Panel

open VkTurn.Store
open VkTurn.Text (JsonValue JsonFields stringField fieldsOfList setField setField_of_ne
  reprintFields reprintFields_apply stringField_reprint)

/-! ## Rules -/

/-- A `map[string]any`, which an element `null` leaves nil. -/
abbrev RoutingRule := Option JsonFields

def isText (text : String) : JsonValue → Bool
  | .string other => other = text
  | _ => false

/-- What `findApiRule` looks for. -/
def isApiRule : RoutingRule → Bool
  | none => false
  | some rule => stringField "outboundTag" rule = some "api" &&
    match rule "inboundTag" with
    | some (.array tags) => tags.any (isText "api")
    | some tag => isText "api" tag
    | none => false

def findApiRule (rules : List RoutingRule) : Option Nat := rules.findIdx? isApiRule

/-- The rule that is put in where there is none. -/
def defaultApiRule : JsonFields := fieldsOfList [
  ("type", .string "field"),
  ("inboundTag", .array [.string "api"]),
  ("outboundTag", .string "api")]

def ruleValue : RoutingRule → JsonValue
  | none => .null
  | some rule => .object rule

def decodeRule (float : String → String) : JsonValue → Except String RoutingRule
  | .null => .ok none
  | .object rule => .ok (some (reprintFields float rule))
  | _ => .error "json: cannot unmarshal into Go value of type map[string]interface {}"

def decodeRules (float : String → String) : Option JsonValue → Except String (List RoutingRule)
  | none => .ok []
  | some .null => .ok []
  | some (.array elements) => elements.mapM (decodeRule float)
  | some _ => .error "json: cannot unmarshal into Go value of type []map[string]interface {}"

/-! ## Sections -/

/-- A `map[string]json.RawMessage`, nil for `null`. -/
def decodeSections : JsonValue → Except String (Option JsonFields)
  | .null => .ok none
  | .object fields => .ok (some fields)
  | _ => .error "json: cannot unmarshal into Go value of type map[string]json.RawMessage"

def decodeRouting : Option JsonValue → Except String JsonFields
  | none => .ok fun _ => none
  | some routing => (decodeSections routing).map (·.getD fun _ => none)

/-! ## EnsureStatsRouting -/

/-- What is returned: the text that came in, or the text of another configuration. -/
inductive StatsRouting where
  | unchanged
  | marshalled (config : JsonFields)

def StatsRouting.config (raw : JsonColumn) : StatsRouting → JsonColumn
  | unchanged => raw
  | marshalled config => .json (.object config)

def ensureStatsRouting (float : String → String) : JsonColumn → Except String StatsRouting
  | .text _ => .error "invalid character"
  | .json raw => do
    let cfg ← decodeSections raw
    let routing ← decodeRouting (cfg.bind (· "routing"))
    let rules ← decodeRules float (routing "rules")
    let apiIdx := findApiRule rules
    if apiIdx = some 0 then return .unchanged
    let rules := hoist (some defaultApiRule) rules apiIdx
    let rulesJSON := JsonValue.array (rules.map ruleValue)
    match cfg with
    | none => throw "panic: assignment to entry in nil map"
    | some cfg =>
      return .marshalled (setField "routing" (.object (setField "rules" rulesJSON routing)) cfg)

/-! ## What is pinned, and what is kept -/

def sectionsOf : JsonColumn → JsonFields
  | .json (.object cfg) => cfg
  | _ => fun _ => none

def routingOf (config : JsonColumn) : JsonFields :=
  (Text.objectField "routing" (sectionsOf config)).getD fun _ => none

def rulesOf (config : JsonColumn) : List JsonValue :=
  match routingOf config "rules" with
  | some (.array rules) => rules
  | _ => []

def isApi (rule : JsonValue) : Bool := isApiRule rule.object?

/-- The rule that a value is decoded into. -/
def ruleOf (float : String → String) (value : JsonValue) : RoutingRule :=
  value.object?.map (reprintFields float)

section Rules

variable {float number : String → String} {value : JsonValue} {rule : RoutingRule}
  {elements : List JsonValue} {rules : List RoutingRule}

theorem isText_reprint (text : String) (value : JsonValue) :
    isText text (value.reprint float) = isText text value := by
  cases value <;> rfl

theorem isApiRule_reprint (fields : JsonFields) :
    isApiRule (some (reprintFields float fields)) = isApiRule (some fields) := by
  unfold isApiRule
  dsimp only
  rw [stringField_reprint, reprintFields_apply]
  congr 1
  cases fields "inboundTag" with
  | none => rfl
  | some tag =>
    cases tag with
    | array tags =>
      simp only [Option.map_some, JsonValue.reprint, JsonValue.reprintAll_eq_map, List.any_map]
      congr 1
      exact funext fun tag => isText_reprint "api" tag
    | null => rfl
    | bool truth => rfl
    | number text => rfl
    | string text => rfl
    | object inner => rfl

theorem isApiRule_ruleOf : isApiRule (ruleOf float value) = isApi value := by
  unfold ruleOf isApi
  cases value.object? with
  | none => rfl
  | some fields => exact isApiRule_reprint fields

theorem decodeRule_eq_ok : decodeRule float value = .ok rule ↔
    (value = .null ∨ ∃ fields, value = .object fields) ∧ rule = ruleOf float value := by
  cases value <;> simp [decodeRule, ruleOf, JsonValue.object?, eq_comm]

/-- What a rule is written as again. -/
theorem ruleValue_ruleOf (isRule : value = .null ∨ ∃ fields, value = .object fields) :
    ruleValue (ruleOf float value) = value.reprint float := by
  obtain rfl | ⟨fields, rfl⟩ := isRule <;> rfl

theorem decodeRules_array_eq_ok : decodeRules float (some (.array elements)) = .ok rules ↔
    (∀ value ∈ elements, value = .null ∨ ∃ fields, value = .object fields) ∧
      rules = elements.map (ruleOf float) := by
  constructor
  · intro decoded
    refine ⟨fun value member => ?_, mapM_eq_map (fun _ _ isRule => (decodeRule_eq_ok.mp isRule).2)
      decoded⟩
    obtain ⟨rule, _, isRule⟩ := exists_of_mapM_eq_ok decoded member
    exact (decodeRule_eq_ok.mp isRule).1
  · rintro ⟨areRules, rfl⟩
    exact mapM_eq_ok_map fun value member => decodeRule_eq_ok.mpr ⟨areRules value member, rfl⟩

/-- Rules come from a list, or there are none. -/
theorem decodeRules_eq_ok {field : Option JsonValue}
    (decoded : decodeRules float field = .ok rules) :
    ∃ elements, (field = some (.array elements) ∨
        (elements = [] ∧ (field = none ∨ field = some .null))) ∧
      (∀ value ∈ elements, value = .null ∨ ∃ fields, value = .object fields) ∧
      rules = elements.map (ruleOf float) := by
  cases field with
  | none =>
    cases decoded
    exact ⟨[], .inr ⟨rfl, .inl rfl⟩, by simp, rfl⟩
  | some value =>
    cases value with
    | null =>
      cases decoded
      exact ⟨[], .inr ⟨rfl, .inr rfl⟩, by simp, rfl⟩
    | array elements => exact ⟨elements, .inl rfl, decodeRules_array_eq_ok.mp decoded⟩
    | bool truth => cases decoded
    | number text => cases decoded
    | string text => cases decoded
    | object fields => cases decoded

end Rules

section Result

variable {float number : String → String} {raw : JsonColumn} {result : StatsRouting}
  {rule : RoutingRule}

/-- What is written in place of the rules of a list. -/
def hoistedRules (float : String → String) (elements : List JsonValue) : List JsonValue :=
  (hoist (.object defaultApiRule) elements (elements.findIdx? isApi)).map fun value =>
    ruleValue (ruleOf float value)

theorem reprint_defaultApiRule : reprintFields float defaultApiRule = defaultApiRule := by
  funext key
  rw [reprintFields_apply]
  unfold defaultApiRule fieldsOfList
  simp only [List.lookup_cons, List.lookup_nil]
  split
  · rfl
  · split
    · rfl
    · split
      · rfl
      · rfl

theorem isApi_defaultApiRule : isApi (.object defaultApiRule) = true := by
  decide

theorem findApiRule_map (elements : List JsonValue) :
    findApiRule (elements.map (ruleOf float)) = elements.findIdx? isApi := by
  have sameRules : isApiRule ∘ ruleOf float = isApi := funext fun value => isApiRule_ruleOf
  unfold findApiRule
  rw [List.findIdx?_map, sameRules]

theorem hoist_rules (elements : List JsonValue) (apiIdx : Option Nat) :
    hoist (some defaultApiRule) (elements.map (ruleOf float)) apiIdx =
      (hoist (.object defaultApiRule) elements apiIdx).map (ruleOf float) := by
  have isDefault : some defaultApiRule = ruleOf float (.object defaultApiRule) :=
    congrArg some reprint_defaultApiRule.symm
  rw [isDefault]
  exact hoist_map _ apiIdx

theorem rulesOf_eq {config : JsonColumn} {elements : List JsonValue}
    (isField : routingOf config "rules" = some (.array elements) ∨
      (elements = [] ∧
        (routingOf config "rules" = none ∨ routingOf config "rules" = some .null))) :
    rulesOf config = elements := by
  unfold rulesOf
  obtain isList | ⟨rfl, isNone | isNull⟩ := isField
  · rw [isList]
  · rw [isNone]
  · rw [isNull]

/-- What the routing section is decoded into. -/
theorem decodeRouting_eq_ok {cfg : JsonFields} {routing : JsonFields}
    (decoded : decodeRouting (cfg "routing") = .ok routing) :
    routingOf (.json (.object cfg)) = routing := by
  unfold routingOf Text.objectField sectionsOf
  dsimp only
  cases isField : cfg "routing" with
  | none =>
    rw [isField] at decoded
    cases decoded
    rfl
  | some value =>
    rw [isField] at decoded
    cases value with
    | null =>
      cases decoded
      rfl
    | object fields =>
      cases decoded
      rfl
    | bool truth => cases decoded
    | number text => cases decoded
    | string text => cases decoded
    | array elements => cases decoded

/-- A call that succeeds found an object, and either left it or wrote the hoisted rules into it. -/
theorem ensureStatsRouting_eq_ok (succeeds : ensureStatsRouting float raw = .ok result) :
    ∃ cfg, raw = .json (.object cfg) ∧
      (∀ value ∈ rulesOf raw, value = .null ∨ ∃ fields, value = .object fields) ∧
      (((rulesOf raw).findIdx? isApi = some 0 ∧ result = .unchanged) ∨
        ((rulesOf raw).findIdx? isApi ≠ some 0 ∧ result = .marshalled (setField "routing"
          (.object (setField "rules" (.array (hoistedRules float (rulesOf raw)))
            (routingOf raw))) cfg))) := by
  cases raw with
  | text content => cases succeeds
  | json value =>
    obtain ⟨cfg, isConfig, routed⟩ := bind_eq_ok.mp succeeds
    obtain ⟨routing, isRouting, ruled⟩ := bind_eq_ok.mp routed
    obtain ⟨rules, areRules, ends⟩ := bind_eq_ok.mp ruled
    obtain ⟨elements, isField, areObjects, rfl⟩ := decodeRules_eq_ok areRules
    dsimp only at ends
    rw [findApiRule_map, hoist_rules] at ends
    cases cfg with
    | none =>
      -- a nil map has no rules, and is not written to
      cases isRouting
      obtain ⟨rfl, _⟩ : elements = [] ∧ _ := isField.resolve_left nofun
      cases ends
    | some cfg =>
      have isObject : value = .object cfg := by
        cases value with
        | object fields =>
          cases isConfig
          rfl
        | null => cases isConfig
        | bool truth => cases isConfig
        | number text => cases isConfig
        | string text => cases isConfig
        | array elements => cases isConfig
      rw [isObject]
      rw [← decodeRouting_eq_ok isRouting] at isField ends
      rw [rulesOf_eq isField]
      refine ⟨cfg, rfl, areObjects, ?_⟩
      split at ends
      · rename_i isFront
        cases ends
        exact .inl ⟨isFront, rfl⟩
      · rename_i notFront
        cases ends
        refine .inr ⟨notFront, ?_⟩
        unfold hoistedRules
        rw [List.map_map]
        rfl

/-- The rules as written are those that are hoisted, up to how their numbers are written. -/
theorem hoistedRules_same {elements : List JsonValue}
    (areRules : ∀ value ∈ elements, value = .null ∨ ∃ fields, value = .object fields)
    (exact : ∀ rule ∈ elements, rule.AllNumbers fun text => number (float text) = number text) :
    List.Forall₂ (JsonValue.Same number) (hoistedRules float elements)
      (hoist (.object defaultApiRule) elements (elements.findIdx? isApi)) := by
  have kept (rule : JsonValue) (member : rule ∈ elements) :
      JsonValue.Same number (ruleValue (ruleOf float rule)) rule := by
    rw [ruleValue_ruleOf (areRules rule member)]
    exact JsonValue.reprint_same (exact rule member)
  have isDefault : ruleValue (ruleOf float (.object defaultApiRule)) = .object defaultApiRule :=
    congrArg JsonValue.object reprint_defaultApiRule
  unfold hoistedRules
  rw [List.forall₂_map_left_iff, List.forall₂_same]
  intro rule member
  obtain isMoved | isAdded := (@hoist_findIdx? _ isApi (.object defaultApiRule) elements).perm
  · exact kept rule (isMoved.mem_iff.mp member)
  · obtain rfl | inRules := List.mem_cons.mp (isAdded.mem_iff.mp member)
    · rw [isDefault]
      exact JsonValue.Same.rfl
    · exact kept rule inRules

theorem isApi_ruleValue : isApi (ruleValue rule) = isApiRule rule := by
  cases rule <;> rfl

theorem isApi_hoistedRules {elements : List JsonValue} :
    (hoistedRules float elements).findIdx? isApi = some 0 := by
  have sameRules : (isApi ∘ fun value => ruleValue (ruleOf float value)) = isApi :=
    funext fun value => isApi_ruleValue.trans isApiRule_ruleOf
  unfold hoistedRules
  rw [List.findIdx?_map, sameRules]
  exact hoist_findIdx?.front isApi_defaultApiRule

/-- The configuration with other rules. -/
theorem routingOf_setRules {cfg routing : JsonFields} {rules : JsonValue} :
    routingOf (.json (.object (setField "routing" (.object (setField "rules" rules routing))
      cfg))) = setField "rules" rules routing := by
  unfold routingOf Text.objectField sectionsOf
  simp [JsonValue.object?]

/-- A configuration with an api rule in front is left as it is. -/
theorem ensureStatsRouting_unchanged {cfg : JsonFields} {elements : List JsonValue}
    (hasRules : routingOf (.json (.object cfg)) "rules" = some (.array elements))
    (areRules : ∀ value ∈ elements, value = .null ∨ ∃ fields, value = .object fields)
    (isFront : elements.findIdx? isApi = some 0) :
    ensureStatsRouting float (.json (.object cfg)) = .ok .unchanged := by
  have isRouting : decodeRouting (cfg "routing") = .ok (routingOf (.json (.object cfg))) := by
    unfold routingOf Text.objectField sectionsOf at hasRules ⊢
    dsimp only at hasRules ⊢
    cases isField : cfg "routing" with
    | none => rfl
    | some value =>
      rw [isField] at hasRules
      cases value with
      | object fields => rfl
      | _ => cases hasRules
  have decoded := @decodeRules_array_eq_ok float elements _ |>.mpr ⟨areRules, rfl⟩
  refine bind_eq_ok.mpr ⟨some cfg, rfl, bind_eq_ok.mpr ⟨_, isRouting, ?_⟩⟩
  rw [hasRules]
  refine bind_eq_ok.mpr ⟨_, decoded, ?_⟩
  dsimp only
  rw [findApiRule_map, if_pos isFront]
  rfl

/-- Where it succeeds, `EnsureStatsRouting` has the first api rule in front of the others, or the
    default one, keeps everything else, and has nothing to do the next time. -/
theorem ensureStatsRouting_pins
    (exact : ∀ rule ∈ rulesOf raw, rule.AllNumbers fun text => number (float text) = number text)
    (succeeds : ensureStatsRouting float raw = .ok result) :
    (∃ pinned, Hoisted isApi (.object defaultApiRule) (rulesOf raw) pinned ∧
      List.Forall₂ (JsonValue.Same number) (rulesOf (result.config raw)) pinned) ∧
    (∀ key ≠ "routing", sectionsOf (result.config raw) key = sectionsOf raw key) ∧
    (∀ key ≠ "rules", routingOf (result.config raw) key = routingOf raw key) ∧
    ensureStatsRouting float (result.config raw) = .ok .unchanged := by
  obtain ⟨cfg, rfl, areRules, ⟨isFront, rfl⟩ | ⟨_, rfl⟩⟩ := ensureStatsRouting_eq_ok succeeds
  · refine ⟨⟨_, hoisted_self isFront, ?_⟩, fun _ _ => rfl, fun _ _ => rfl, succeeds⟩
    exact List.forall₂_same.mpr fun _ _ => JsonValue.Same.rfl
  · have hasRules := @routingOf_setRules cfg (routingOf (.json (.object cfg)))
      (.array (hoistedRules float (rulesOf (.json (.object cfg)))))
    have isField := congrFun hasRules "rules"
    rw [Text.setField_self] at isField
    unfold StatsRouting.config
    refine ⟨⟨_, hoist_findIdx?, ?_⟩, fun key other => setField_of_ne other, fun key other => ?_, ?_⟩
    · rw [rulesOf_eq (.inl isField)]
      exact hoistedRules_same areRules exact
    · rw [hasRules]
      exact setField_of_ne other
    · refine ensureStatsRouting_unchanged isField (fun value member => ?_) isApi_hoistedRules
      obtain ⟨element, _, rfl⟩ := List.mem_map.mp member
      cases ruleOf float element with
      | none => exact .inl rfl
      | some fields => exact .inr ⟨fields, rfl⟩

end Result

/-- A rule that sends everything from an inbound to another server, in front of the api rule. -/
def cascadeRules : List JsonValue := [
  .object (fieldsOfList [
    ("type", .string "field"), ("inboundTag", .array [.string "inbound-443"]),
    ("port", .number "443"), ("outboundTag", .string "vless-cascade")]),
  .object (fieldsOfList [
    ("type", .string "field"), ("inboundTag", .string "api"), ("outboundTag", .string "api")])]

def cascadeConfig : JsonColumn :=
  .json (.object (fieldsOfList [
    ("log", .object (fieldsOfList [])),
    ("routing", .object (fieldsOfList [
      ("domainStrategy", .string "AsIs"), ("rules", .array cascadeRules)]))]))

theorem ensureStatsRouting_pins_cascade :
    ∃ result, ensureStatsRouting id cascadeConfig = .ok result ∧
      (∃ pinned, Hoisted isApi (.object defaultApiRule) (rulesOf cascadeConfig) pinned ∧
        List.Forall₂ (JsonValue.Same id) (rulesOf (result.config cascadeConfig)) pinned) ∧
      (∀ key ≠ "routing",
        sectionsOf (result.config cascadeConfig) key = sectionsOf cascadeConfig key) ∧
      (∀ key ≠ "rules",
        routingOf (result.config cascadeConfig) key = routingOf cascadeConfig key) ∧
      ensureStatsRouting id (result.config cascadeConfig) = .ok .unchanged :=
  ⟨_, rfl, ensureStatsRouting_pins
    (fun rule _ => JsonValue.allNumbers_of_forall (fun _ => rfl) rule) rfl⟩

end VkTurn.Panel
