import Houfeng.Evidence.Descriptor

/-!
# Redaction

`redactPayload` walks a decoded payload with the paths of its descriptor. Every scalar, and every
array under a sensitive path, is decided by its definition: included, stripped, masked or refused.
Items of an array share its path. Objects have their keys in order.
-/

namespace Houfeng.Evidence

def maxCanonicalStringBytes : Nat := 64 * 1024

inductive RedactionMode
  | normalOnly
  | includeSensitiveTopology
  | maskSensitiveTopology
  | unknown (text : String)

def RedactionMode.known : RedactionMode → Bool
  | .unknown _ => false
  | _ => true

inductive RedactionAction
  | included
  | stripped
  | masked
  | forbidden
deriving DecidableEq

structure FieldDecision where
  path : String
  sensitivity : Sensitivity
  action : RedactionAction

/-- The decisions of a redactor by path, in order of their paths. -/
abbrev Decisions := List FieldDecision

def insertDecision (decision : FieldDecision) : Decisions → Decisions
  | [] => [decision]
  | d :: rest =>
    if decision.path = d.path then decision :: rest
    else if decision.path < d.path then decision :: d :: rest
    else d :: insertDecision decision rest

def record (definition : FieldDefinition) (action : RedactionAction) (decisions : Decisions) :
    Decisions :=
  insertDecision ⟨definition.path, definition.sensitivity, action⟩ decisions

def childPath (path key : String) : String := if path = "" then key else path ++ "." ++ key

/-- The definition of a path in the schema index; a later field replaces an earlier one. -/
def Descriptor.definition? (d : Descriptor) (path : String) : Option FieldDefinition :=
  d.fields.reverse.find? (·.path = path)

def Descriptor.hasDescendant (d : Descriptor) (path : String) : Bool :=
  d.fields.any fun f => isBelow path f.path

variable (lib : Services)

def forbiddenStringContent (value : String) : Bool :=
  lib.matchesSecretPattern (String.ofList ((lib.nfkc value).toList.map lib.toLower))

mutual

def validateNoForbiddenFieldNames : Json → String → Except EvidenceError Unit
  | .obj fields, path => validateNamesFields fields path
  | .arr items, path => validateNamesItems items path
  | _, _ => .ok ()

def validateNamesItems : List Json → String → Except EvidenceError Unit
  | [], _ => .ok ()
  | item :: rest, path =>
    match validateNoForbiddenFieldNames item path with
    | .error e => .error e
    | .ok () => validateNamesItems rest path

def validateNamesFields : List (String × Json) → String → Except EvidenceError Unit
  | [], _ => .ok ()
  | (key, item) :: rest, path =>
    if forbiddenFieldPath lib (childPath path key) then .error (.forbiddenField (childPath path key))
    else
      match validateNoForbiddenFieldNames item (childPath path key) with
      | .error e => .error e
      | .ok () => validateNamesFields rest path

end

mutual

def walkSafeStructuredValue : Json → String → Except EvidenceError Unit
  | .obj fields, path => walkSafeFields fields path
  | .arr items, path => walkSafeItems items path
  | .str s, path => if forbiddenStringContent lib s then .error (.forbiddenField path) else .ok ()
  | _, _ => .ok ()

def walkSafeItems : List Json → String → Except EvidenceError Unit
  | [], _ => .ok ()
  | item :: rest, path =>
    match walkSafeStructuredValue item path with
    | .error e => .error e
    | .ok () => walkSafeItems rest path

def walkSafeFields : List (String × Json) → String → Except EvidenceError Unit
  | [], _ => .ok ()
  | (key, item) :: rest, path =>
    if forbiddenFieldPath lib (path ++ "." ++ key) then .error (.forbiddenField path)
    else
      match walkSafeStructuredValue item (path ++ "." ++ key) with
      | .error e => .error e
      | .ok () => walkSafeFields rest path

end

/-! ## Values of fields -/

def normalizeURLField (definition : FieldDefinition) (value : Json) : Except EvidenceError Json :=
  if definition.format = .url then
    match value with
    | .str s =>
      match lib.normalizeEvidenceURL s with
      | some normalized => .ok (.str normalized)
      | none => .error (.invalidCanonicalPayload ("URL field " ++ definition.path))
    | _ => .error (.invalidCanonicalPayload ("URL field " ++ definition.path))
  else .ok value

def checkString (definition : FieldDefinition) : Json → Except EvidenceError Unit
  | .str s =>
    if s.utf8ByteSize > maxCanonicalStringBytes then
      .error (.invalidCanonicalPayload ("string field " ++ definition.path))
    else if forbiddenStringContent lib s then .error (.forbiddenField definition.path)
    else .ok ()
  | _ => .ok ()

def normalizeFieldValue (definition : FieldDefinition) (value : Json) :
    Except EvidenceError Json := do
  let value ← normalizeURLField lib definition value
  checkString lib definition value
  walkSafeStructuredValue lib value definition.path
  pure value

def redactedText : String := "[redacted]"

def maskSensitiveValue : Json → Json
  | .arr items => .arr (items.map fun _ => .str redactedText)
  | _ => .str redactedText

def includeValue (definition : FieldDefinition) (value : Json) (decisions : Decisions) :
    Except EvidenceError (Option Json × Decisions) :=
  match value with
  | .arr items => do
    let normalized ← items.mapM (normalizeFieldValue lib definition)
    pure (some (.arr normalized), record definition .included decisions)
  | value => do
    let normalized ← normalizeFieldValue lib definition value
    pure (some normalized, record definition .included decisions)

/-- The value that is kept, if any, and the decisions so far. -/
def applyDefinition (mode : RedactionMode) (definition : FieldDefinition) (value : Json)
    (decisions : Decisions) : Except EvidenceError (Option Json × Decisions) :=
  match definition.sensitivity with
  | .forbidden => .error (.forbiddenField definition.path)
  | .sensitiveTopology =>
    match mode with
    | .normalOnly => .ok (none, record definition .stripped decisions)
    | .maskSensitiveTopology =>
      .ok (some (maskSensitiveValue value), record definition .masked decisions)
    | .includeSensitiveTopology | .unknown _ => includeValue lib definition value decisions
  | .normal => includeValue lib definition value decisions
  | .unknown _ => .error (.invalidKindDescriptor "field sensitivity")

/-! ## The walk -/

variable (d : Descriptor) (mode : RedactionMode)

def walkScalar (value : Json) (path : String) (decisions : Decisions) :
    Except EvidenceError (Option Json × Decisions) :=
  match d.definition? path with
  | none => .error (.fieldNotAllowed path)
  | some definition => applyDefinition lib mode definition value decisions

mutual

/-- The value that is kept, if any, and the decisions so far. -/
def walk : Json → String → Decisions → Except EvidenceError (Option Json × Decisions)
  | .obj fields, path, decisions =>
    if path ≠ "" ∧ d.hasDescendant path = false then .error (.fieldNotAllowed path)
    else do
      let (output, decisions) ← walkFields fields path decisions
      pure (some (.obj output), decisions)
  | .arr items, path, decisions =>
    match d.definition? path with
    | none =>
      if d.hasDescendant path = false then .error (.fieldNotAllowed path)
      else do
        let (output, decisions) ← walkItems items path decisions
        pure (some (.arr output), decisions)
    | some definition =>
      if definition.sensitivity ≠ .normal then
        applyDefinition lib mode definition (.arr items) decisions
      else do
        let (output, decisions) ← walkItems items path (record definition .included decisions)
        pure (some (.arr output), decisions)
  | .null, path, decisions => walkScalar lib d mode .null path decisions
  | .bool b, path, decisions => walkScalar lib d mode (.bool b) path decisions
  | .num t, path, decisions => walkScalar lib d mode (.num t) path decisions
  | .str s, path, decisions => walkScalar lib d mode (.str s) path decisions

def walkItems : List Json → String → Decisions → Except EvidenceError (List Json × Decisions)
  | [], _, decisions => .ok ([], decisions)
  | item :: rest, path, decisions => do
    let (child, decisions) ← walk item path decisions
    let (output, decisions) ← walkItems rest path decisions
    pure (child.toList ++ output, decisions)

def walkFields : List (String × Json) → String → Decisions →
    Except EvidenceError (List (String × Json) × Decisions)
  | [], _, decisions => .ok ([], decisions)
  | (key, item) :: rest, path, decisions =>
    if forbiddenFieldPath lib (childPath path key) then .error (.forbiddenField (childPath path key))
    else do
      let (child, decisions) ← walk item (childPath path key) decisions
      let (output, decisions) ← walkFields rest path decisions
      pure (child.toList.map (fun v => (key, v)) ++ output, decisions)

end

/-- `redactPayload` of an object with these fields: the fields that are kept and the report. -/
def redactPayload (fields : List (String × Json)) :
    Except EvidenceError (List (String × Json) × Decisions) :=
  if mode.known = false then .error (.invalidCanonicalPayload "redaction mode")
  else do
    validateNoForbiddenFieldNames lib (.obj fields) ""
    let (redacted, decisions) ← walkFields lib d mode fields "" []
    if decisions.any (·.action = .included) then pure (redacted, decisions)
    else .error (.invalidCanonicalPayload "content-free payload")

end Houfeng.Evidence
