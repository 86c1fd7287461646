import Houfeng.Evidence.Number
import Houfeng.Evidence.Redaction
import Houfeng.Foundation.Base64
import Houfeng.Foundation.JsonRead

/-!
# Canonical payloads

`CanonicalizePayload` inspects a Go value against the resource limits, encodes it, reads it back as
a generic tree, normalizes numbers, redacts, and encodes the canonical document.
`DecodeCanonicalPayload` accepts such a document only if canonicalizing its payload gives the same
bytes again. Texts stand for their UTF-8 bytes.
-/

namespace Houfeng.Evidence

open AgentApi (Digest)

/-! ## Limits -/

def maxCanonicalNestingDepth : Nat := 32
def maxCanonicalNodeCount : Nat := 300000
def maxCanonicalCollectionEntries : Nat := 50000
def maxCanonicalAggregateCollectionEntries : Nat := 250000
def maxCanonicalAggregateStringBytes : Nat := maxCanonicalPayloadBytes
def maxCanonicalAggregateKeyBytes : Nat := 1024 * 1024
def maxCanonicalEstimatedInputWorkBytes : Nat := 8 * 1024 * 1024
def structuredIndirectionEstimatedWorkBytes : Nat := 8

/-- `structuredValueBudget`, without the references in progress: the values of the model have no
cycles. -/
structure Budget where
  nodes : Nat
  collectionEntries : Nat
  stringBytes : Nat
  keyBytes : Nat
  estimatedWork : Nat

def Budget.empty : Budget := ⟨0, 0, 0, 0, 0⟩

def canonicalResourceLimit {α : Type} (name : String) : Except EvidenceError α :=
  .error (.invalidCanonicalPayload (name ++ " resource limit"))

namespace Budget

def addWork (b : Budget) (size : Nat) : Except EvidenceError Budget :=
  if b.estimatedWork + size > maxCanonicalEstimatedInputWorkBytes then
    canonicalResourceLimit "estimated input work"
  else .ok { b with estimatedWork := b.estimatedWork + size }

def countNode (b : Budget) (depth : Nat) : Except EvidenceError Budget :=
  if depth > maxCanonicalNestingDepth then canonicalResourceLimit "nesting depth"
  else if b.nodes + 1 > maxCanonicalNodeCount then canonicalResourceLimit "node count"
  else .ok { b with nodes := b.nodes + 1 }

def addNode (b : Budget) (depth work : Nat) : Except EvidenceError Budget := do
  (← b.countNode depth).addWork work

def addCollection (b : Budget) (entries : Nat) : Except EvidenceError Budget :=
  if entries > maxCanonicalCollectionEntries then canonicalResourceLimit "collection entries"
  else if b.collectionEntries + entries > maxCanonicalAggregateCollectionEntries then
    canonicalResourceLimit "aggregate collection entries"
  else { b with collectionEntries := b.collectionEntries + entries }.addWork (entries * 4)

def countString (b : Budget) (size : Nat) : Except EvidenceError Budget :=
  if b.stringBytes + size > maxCanonicalAggregateStringBytes then
    canonicalResourceLimit "aggregate string bytes"
  else .ok { b with stringBytes := b.stringBytes + size }

def addStringBytes (b : Budget) (size : Nat) : Except EvidenceError Budget := do
  (← b.countString size).addWork size

def countKey (b : Budget) (key : String) : Except EvidenceError Budget :=
  if key.utf8ByteSize > 128 then .error (.invalidCanonicalPayload "object key")
  else if b.keyBytes + key.utf8ByteSize > maxCanonicalAggregateKeyBytes then
    canonicalResourceLimit "aggregate key bytes"
  else .ok { b with keyBytes := b.keyBytes + key.utf8ByteSize }

def addKeyBytes (b : Budget) (key : String) : Except EvidenceError Budget := do
  (← b.countKey key).addWork key.utf8ByteSize

end Budget

/-! ## Go values -/

/-- A Go value as reflection and `encoding/json` see it. A structure has the fields the inspection
visits, under their keys, and the fields its encoding consists of: promotion and omission of fields
are the encoder's. Times and floating-point numbers are the texts they are encoded as, if they
can be. -/
inductive GoValue
  | nil
  | nilInterface
  | interface (v : GoValue)
  | nilPointer
  | pointer (v : GoValue)
  | time (text : Option String)
  | number (text : String)
  | custom
  | bool (b : Bool)
  | int (n : Int)
  | float (text : Option String)
  | string (s : String)
  | nilSlice
  | bytes (b : List UInt8)
  | slice (items : List GoValue)
  | array (items : List GoValue)
  | nilMap
  | map (stringKeys : Bool) (entries : List (String × GoValue))
  | struct (visible : List (String × GoValue)) (encoded : List (String × GoValue))
  | unsupported

def inspectByte (depth : Nat) (b : Budget) : Except EvidenceError Budget := do
  (← b.addNode depth 16).addWork 24

def inspectBytes : Nat → Nat → Budget → Except EvidenceError Budget
  | 0, _, b => .ok b
  | n + 1, depth, b =>
    match inspectByte depth b with
    | .error e => .error e
    | .ok b => inspectBytes n depth b

mutual

def inspect : GoValue → Nat → Budget → Except EvidenceError Budget
  | .nil, depth, b => b.addNode depth 4
  | .nilInterface, depth, b | .nilPointer, depth, b =>
    b.addNode depth structuredIndirectionEstimatedWorkBytes
  | .interface v, depth, b | .pointer v, depth, b => do
    let b ← b.addNode depth structuredIndirectionEstimatedWorkBytes
    inspect v (depth + 1) b
  | .time _, depth, b => do
    (← b.addNode depth 16).addStringBytes 64
  | .number text, depth, b => do
    let b ← b.addNode depth 16
    match normalizeJSONNumber text with
    | none => .error (.invalidCanonicalPayload "number")
    | some _ => b.addWork text.utf8ByteSize
  | .custom, depth, b => do
    let _ ← b.addNode depth 16
    .error (.invalidCanonicalPayload "custom JSON marshaler")
  | .bool _, depth, b => b.addNode depth 16
  | .int _, depth, b => do
    (← b.addNode depth 16).addWork 24
  | .float text, depth, b => do
    let b ← b.addNode depth 16
    match text with
    | none => .error (.invalidCanonicalPayload "number")
    | some _ => b.addWork 32
  | .string s, depth, b => do
    let b ← b.addNode depth 16
    if s.utf8ByteSize > maxCanonicalStringBytes then .error (.invalidCanonicalPayload "string")
    else b.addStringBytes s.utf8ByteSize
  | .nilSlice, depth, b => do
    (← b.addNode depth 16).addCollection 0
  | .bytes bytes, depth, b => do
    let b ← b.addNode depth 16
    let b ← b.addCollection bytes.length
    inspectBytes bytes.length (depth + 1) b
  | .slice items, depth, b | .array items, depth, b => do
    let b ← b.addNode depth 16
    let b ← b.addCollection items.length
    inspectItems items (depth + 1) b
  | .nilMap, depth, b => b.addNode depth 16
  | .map stringKeys entries, depth, b => do
    let b ← b.addNode depth 16
    if stringKeys = false then .error (.invalidCanonicalPayload "object key type")
    else
      let b ← b.addCollection entries.length
      inspectFields entries (depth + 1) b
  | .struct visible _, depth, b => do
    let b ← b.addNode depth 16
    let b ← b.addCollection visible.length
    inspectFields visible (depth + 1) b
  | .unsupported, depth, b => do
    let _ ← b.addNode depth 16
    .error (.invalidCanonicalPayload "JSON value")

def inspectItems : List GoValue → Nat → Budget → Except EvidenceError Budget
  | [], _, b => .ok b
  | v :: rest, depth, b => do
    let b ← inspect v depth b
    inspectItems rest depth b

def inspectFields : List (String × GoValue) → Nat → Budget → Except EvidenceError Budget
  | [], _, b => .ok b
  | (key, v) :: rest, depth, b => do
    let b ← b.addKeyBytes key
    let b ← inspect v depth b
    inspectFields rest depth b

end

def numberLiteral (text : String) : Option Json :=
  if Json.validNumber text.toList then some (.num text) else none

mutual

def marshal : GoValue → Option Json
  | .nil | .nilInterface | .nilPointer | .nilSlice | .nilMap => some .null
  | .interface v | .pointer v => marshal v
  | .time text => text.map .str
  | .number text => numberLiteral text
  | .bool b => some (.bool b)
  | .int n => numberLiteral (toString n)
  | .float text => text.bind numberLiteral
  | .string s => some (.str s)
  | .bytes bytes => some (.str (String.ofList (Base64.encodePadded Base64.std bytes)))
  | .slice items | .array items => (marshalItems items).map .arr
  | .map _ entries => (marshalFields entries).map .obj
  | .struct _ encoded => (marshalFields encoded).map .obj
  | .custom | .unsupported => none

def marshalItems : List GoValue → Option (List Json)
  | [] => some []
  | v :: rest => do
    let j ← marshal v
    let items ← marshalItems rest
    some (j :: items)

def marshalFields : List (String × GoValue) → Option (List (String × Json))
  | [] => some []
  | (key, v) :: rest => do
    let j ← marshal v
    let fields ← marshalFields rest
    some ((key, j) :: fields)

end

/-! ## Normalization -/

mutual

/-- `normalizeDecodedJSONValue`, with the budget it leaves. -/
def normalizeDecodedJSONValue : Json → Nat → Budget → Except EvidenceError (Json × Budget)
  | .null, depth, b => do pure (.null, ← b.countNode depth)
  | .bool v, depth, b => do pure (.bool v, ← b.countNode depth)
  | .str s, depth, b => do
    let b ← b.countNode depth
    if s.utf8ByteSize > maxCanonicalStringBytes then .error (.invalidCanonicalPayload "string")
    else pure (.str s, ← b.countString s.utf8ByteSize)
  | .num text, depth, b => do
    let b ← b.countNode depth
    match normalizeJSONNumber text with
    | none => .error (.invalidCanonicalPayload "number")
    | some text => pure (.num text, b)
  | .arr items, depth, b => do
    let b ← b.countNode depth
    let b ← b.addCollection items.length
    let (output, b) ← normalizeDecodedItems items (depth + 1) b
    pure (.arr output, b)
  | .obj fields, depth, b => do
    let b ← b.countNode depth
    let b ← b.addCollection fields.length
    let (output, b) ← normalizeDecodedFields fields (depth + 1) b
    pure (.obj output, b)

def normalizeDecodedItems : List Json → Nat → Budget → Except EvidenceError (List Json × Budget)
  | [], _, b => .ok ([], b)
  | j :: rest, depth, b => do
    let (j, b) ← normalizeDecodedJSONValue j depth b
    let (output, b) ← normalizeDecodedItems rest depth b
    pure (j :: output, b)

def normalizeDecodedFields : List (String × Json) → Nat → Budget →
    Except EvidenceError (List (String × Json) × Budget)
  | [], _, b => .ok ([], b)
  | (key, j) :: rest, depth, b => do
    let b ← b.countKey key
    let (j, b) ← normalizeDecodedJSONValue j depth b
    let (output, b) ← normalizeDecodedFields rest depth b
    pure ((key, j) :: output, b)

end

def decodeTree (encoded : String) : Except EvidenceError Json :=
  match Json.read encoded with
  | none => .error (.invalidCanonicalPayload "decode")
  | some j => .ok j.canonical

def normalizeStructuredValue (input : GoValue) : Except EvidenceError Json := do
  let _ ← inspect input 1 .empty
  match marshal input with
  | none => .error (.invalidCanonicalPayload "marshal")
  | some j =>
    let encoded := j.text false
    if encoded.utf8ByteSize > maxCanonicalEstimatedInputWorkBytes then
      canonicalResourceLimit "encoded input work"
    else
      let value ← decodeTree encoded
      let (normalized, _) ← normalizeDecodedJSONValue value 1 .empty
      pure normalized

/-- The fields of the payload. -/
def normalizePayload (input : GoValue) : Except EvidenceError (List (String × Json)) := do
  match ← normalizeStructuredValue input with
  | .obj fields => pure fields
  | _ => .error (.invalidCanonicalPayload "payload must be an object")

/-! ## Documents -/

def canonicalHashDomainV1 : String := "houfeng.evidence.canonical-payload.v1\x00"

structure CanonicalPayload where
  bytes : String
  hash : Digest

variable (lib : Services)

def canonicalPayloadDigest (encoded : String) : Digest :=
  lib.sha256 (canonicalHashDomainV1.toUTF8.toList ++ encoded.toUTF8.toList)

/-- `canonicalDocument` as it is encoded. -/
def canonicalDocument (version : Nat) (key : KindKey) (payload : List (String × Json)) : Json :=
  .obj [("canonicalization_version", .num (toString version)), ("kind", .str key.kind),
    ("schema_version", .num (toString key.schemaVersion)), ("payload", .obj payload)]

/-- `marshalCanonicalDocument` and the checks of its size. -/
def encodeDocument (d : Descriptor) (payload : List (String × Json)) :
    Except EvidenceError CanonicalPayload :=
  let encoded := (canonicalDocument d.conformance.canonicalizationVersion d.key payload).text false
  if encoded.utf8ByteSize > d.conformance.maxCanonicalBytes ∨
      encoded.utf8ByteSize > maxCanonicalPayloadBytes then .error .canonicalPayloadTooLarge
  else .ok ⟨encoded, canonicalPayloadDigest lib encoded⟩

def canonicalizePayload (d : Descriptor) (input : GoValue) (mode : RedactionMode) :
    Except EvidenceError (CanonicalPayload × Decisions) := do
  d.validate lib
  let payload ← normalizePayload input
  let (redacted, report) ← redactPayload lib d mode payload
  let canonical ← encodeDocument lib d redacted
  pure (canonical, report)

end Houfeng.Evidence
