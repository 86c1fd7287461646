import Houfeng.AgentApi.Types
import Mathlib.Data.List.Infix

/-!
# Descriptors of evidence kinds

The field schema of an evidence kind and its validation: known keys, well-formed and unambiguous
paths, and no path that names a secret unless it is classified as forbidden. Unicode tables, the
secret patterns, URL normalization and the hash are functions of libraries.
-/

namespace Houfeng.Evidence

open AgentApi (Digest)

/-- What the evidence code takes from libraries. -/
structure Services where
  nfkc : String → String
  isUpper : Char → Bool
  isLower : Char → Bool
  isDigit : Char → Bool
  toLower : Char → Char
  matchesSecretPattern : String → Bool
  normalizeEvidenceURL : String → Option String
  sha256 : List UInt8 → Digest

structure KindKey where
  kind : String
  schemaVersion : Nat
deriving DecidableEq

def knownKindKeys : List KindKey :=
  [⟨"ip_quality.report", 1⟩, ⟨"monitoring.host", 1⟩, ⟨"monitoring.probe", 2⟩,
    ⟨"monitoring.event", 2⟩, ⟨"subscription.cost", 1⟩, ⟨"command.audit", 1⟩,
    ⟨"comparison.result", 1⟩]

/-- A text outside the constants is `unknown`. -/
inductive Sensitivity
  | normal
  | sensitiveTopology
  | forbidden
  | unknown (text : String)
deriving DecidableEq

def Sensitivity.known : Sensitivity → Bool
  | .unknown _ => false
  | _ => true

inductive FieldFormat
  | text
  | url
  | unknown (text : String)
deriving DecidableEq

def FieldFormat.known : FieldFormat → Bool
  | .unknown _ => false
  | _ => true

structure FieldDefinition where
  path : String
  sensitivity : Sensitivity
  format : FieldFormat

structure ConformanceMetadata where
  canonicalizationVersion : Nat
  forbiddenCorpusVersion : Nat
  rendererVersion : String
  maxCanonicalBytes : Nat

structure Descriptor where
  key : KindKey
  fields : List FieldDefinition
  conformance : ConformanceMetadata

/-- The errors of the package, with the detail that follows them. -/
inductive EvidenceError
  | invalidKindDescriptor (detail : String)
  | kindNotRegistered (key : KindKey)
  | unknownKindVersion (key : KindKey)
  | fieldNotAllowed (path : String)
  | forbiddenField (path : String)
  | invalidCanonicalPayload (detail : String)
  | canonicalPayloadTooLarge
deriving DecidableEq

def canonicalizationVersionV1 : Nat := 1

def forbiddenCorpusVersionV1 : Nat := 1

def maxCanonicalPayloadBytes : Nat := 5 * 1024 * 1024

def validateKnownKindKey (key : KindKey) : Except EvidenceError Unit :=
  if key ∈ knownKindKeys then .ok ()
  else if knownKindKeys.any (·.kind = key.kind) then .error (.unknownKindVersion key)
  else .error (.kindNotRegistered key)

/-! ## Names -/

/-- `strings.Split` at a character. -/
def splitAt (sep : Char) (s : String) : List String := (s.toList.splitOn sep).map String.ofList

def isLowerLetter (c : Char) : Bool := 'a' ≤ c && c ≤ 'z'

def isDecimalDigit (c : Char) : Bool := '0' ≤ c && c ≤ '9'

def validRegistryToken (value : String) : Bool :=
  value.utf8ByteSize ≤ 128 && value.toList.head?.any isLowerLetter &&
    value.toList.tail.all (fun c => isLowerLetter c || isDecimalDigit c || c = '_' || c = '-' ||
      c = '.') &&
    value.toList.getLast?.any fun c => isLowerLetter c || isDecimalDigit c

def validFieldPath (value : String) : Bool :=
  value ≠ "" && value.utf8ByteSize ≤ 128 && (splitAt '.' value).all validRegistryToken

variable (lib : Services)

def normalizeIdentifierLoop : Option Char → List Char → List Char → Bool → List Char
  | _, [], built, _ => built
  | previous, c :: rest, built, lastUnderscore =>
    if lib.isUpper c then
      let previousIsLowerOrDigit := previous.any fun p => lib.isLower p || lib.isDigit p
      let acronymBoundary := previous.any lib.isUpper && rest.head?.any lib.isLower
      let separated := (previousIsLowerOrDigit || acronymBoundary) && !built.isEmpty &&
        !lastUnderscore
      normalizeIdentifierLoop (some c) rest
        ((if separated then built ++ ['_'] else built) ++ [lib.toLower c]) false
    else if c = '-' ∨ c = ' ' then
      normalizeIdentifierLoop (some c) rest (if lastUnderscore then built else built ++ ['_']) true
    else normalizeIdentifierLoop (some c) rest (built ++ [lib.toLower c]) (c = '_')

def normalizeIdentifier (value : String) : String :=
  String.ofList (normalizeIdentifierLoop lib none (lib.nfkc value).toList [] false)

def forbiddenIdentifierConcepts : List String :=
  ["token", "password", "passwd", "secret", "key", "authorization", "authorization_header",
    "cookie", "set_cookie", "header", "headers", "request_headers", "response_headers",
    "env", "environment", "mount", "mounts", "container_id", "fingerprint", "raw",
    "raw_json", "json", "stdout", "stderr", "output", "details", "userinfo", "user_info", "query",
    "query_params", "fragment"]

/-- Some consecutive words name a forbidden concept. -/
def forbiddenIdentifier (normalized : String) : Bool :=
  let tokens := (splitAt '_' normalized).filter (· ≠ "")
  tokens.tails.any fun suffix => suffix.inits.any fun words =>
    words ≠ [] && forbiddenIdentifierConcepts.contains ("_".intercalate words)

def forbiddenFieldPath (path : String) : Bool :=
  let segments := (splitAt '.' path).map (normalizeIdentifier lib)
  segments.any forbiddenIdentifier || forbiddenIdentifier ("_".intercalate segments)

/-! ## Validation -/

def isBelow (path candidate : String) : Bool := (path ++ ".").toList.isPrefixOf candidate.toList

def validateField (seen : List String) (field : FieldDefinition) : Except EvidenceError Unit :=
  if validFieldPath field.path = false ∨ field.sensitivity.known = false ∨
      field.format.known = false then
    .error (.invalidKindDescriptor "field schema")
  else if field.path ∈ seen then .error (.invalidKindDescriptor ("duplicate field " ++ field.path))
  else if forbiddenFieldPath lib field.path = true ∧ field.sensitivity ≠ .forbidden then
    .error (.invalidKindDescriptor ("forbidden field " ++ field.path ++ " is misclassified"))
  else .ok ()

def validateFields : List String → List FieldDefinition → Except EvidenceError Unit
  | _, [] => .ok ()
  | seen, field :: rest =>
    match validateField lib seen field with
    | .error e => .error e
    | .ok () => validateFields (field.path :: seen) rest

def Descriptor.validate (d : Descriptor) : Except EvidenceError Unit :=
  match validateKnownKindKey d.key with
  | .error _ => .error (.invalidKindDescriptor "key")
  | .ok () =>
    if d.conformance.canonicalizationVersion ≠ canonicalizationVersionV1 ∨
        d.conformance.forbiddenCorpusVersion ≠ forbiddenCorpusVersionV1 ∨
        validRegistryToken d.conformance.rendererVersion = false ∨
        d.conformance.maxCanonicalBytes = 0 ∨
        d.conformance.maxCanonicalBytes > maxCanonicalPayloadBytes then
      .error (.invalidKindDescriptor "conformance metadata")
    else if d.fields = [] then .error (.invalidKindDescriptor "empty field schema")
    else
      match validateFields lib [] d.fields with
      | .error e => .error e
      | .ok () =>
        if d.fields.all (·.sensitivity ≠ .normal) then
          .error (.invalidKindDescriptor "no normal field")
        else if d.fields.any fun f => d.fields.any fun g => isBelow f.path g.path then
          .error (.invalidKindDescriptor "ambiguous fields")
        else .ok ()

end Houfeng.Evidence
