import Houfeng.Evidence.Canonical
import Houfeng.Foundation.Fallible
import Houfeng.Foundation.Sha256

/-!
# Redaction hides sensitive values

Two payloads that differ only in what stands at sensitive paths are canonicalized alike when
sensitive topology is left out.
-/

namespace Houfeng.Evidence

open Option Except Json

variable {lib : Services} {d : Descriptor} {mode : RedactionMode}

/-! ## Descriptors -/

theorem Descriptor.mem_of_definition? {path : String} {f : FieldDefinition}
    (h : d.definition? path = some f) : f ∈ d.fields ∧ f.path = path := by
  have hmem := List.mem_of_find?_eq_some h
  have hpath := List.find?_some h
  exact ⟨List.mem_reverse.mp hmem, by simpa using hpath⟩

structure Descriptor.Unambiguous (d : Descriptor) : Prop where
  nonempty : ∀ f ∈ d.fields, f.path ≠ ""
  apart : ∀ f ∈ d.fields, d.hasDescendant f.path = false

theorem validateFields_ok {seen : List String} {fields : List FieldDefinition}
    (h : validateFields lib seen fields = .ok ()) : ∀ f ∈ fields, validFieldPath f.path = true := by
  induction fields generalizing seen with
  | nil => simp
  | cons field rest ih =>
    rw [validateFields] at h
    split at h
    · cases h
    · next hfield =>
      rintro f (_ | ⟨_, hf⟩)
      · unfold validateField at hfield
        split_ifs at hfield with h1
        rw [not_or] at h1
        simpa using h1.1
      · exact ih h f hf

theorem Descriptor.unambiguous_of_validate (h : d.validate lib = .ok ()) : d.Unambiguous := by
  unfold Descriptor.validate at h
  split at h
  · cases h
  · cases hfields : validateFields lib [] d.fields with
    | error e =>
      rw [hfields] at h
      split_ifs at h
    | ok u =>
      rw [hfields] at h
      split_ifs at h with h1 h2 h3 h4
      refine ⟨fun f hf => ?_, fun f hf => ?_⟩
      · have hpath := validateFields_ok hfields f hf
        simp only [validFieldPath, Bool.and_eq_true, decide_eq_true_eq] at hpath
        exact hpath.1.1
      · simp only [List.any_eq_true, not_exists, not_and] at h4
        rw [Descriptor.hasDescendant, List.any_eq_false]
        exact fun g hg => h4 f hf g hg

/-! ## Agreement -/

def Descriptor.Sensitive (d : Descriptor) (path : String) : Prop :=
  ∃ f, d.definition? path = some f ∧ f.sensitivity = .sensitiveTopology

mutual

/-- Two values at a path that differ at most in the values at sensitive paths. -/
inductive Agree (d : Descriptor) : String → Json → Json → Prop
  | sensitive {path : String} {v w : Json} (h : d.Sensitive path) : Agree d path v w
  | null {path : String} : Agree d path .null .null
  | bool {path : String} (b : Bool) : Agree d path (.bool b) (.bool b)
  | num {path : String} (t : String) : Agree d path (.num t) (.num t)
  | str {path : String} (s : String) : Agree d path (.str s) (.str s)
  | arr {path : String} {xs ys : List Json} (h : AgreeItems d path xs ys) :
    Agree d path (.arr xs) (.arr ys)
  | obj {path : String} {fs gs : List (String × Json)} (h : AgreeFields d path fs gs) :
    Agree d path (.obj fs) (.obj gs)

inductive AgreeItems (d : Descriptor) : String → List Json → List Json → Prop
  | nil {path : String} : AgreeItems d path [] []
  | cons {path : String} {x y : Json} {xs ys : List Json} (h : Agree d path x y)
    (hrest : AgreeItems d path xs ys) : AgreeItems d path (x :: xs) (y :: ys)

inductive AgreeFields (d : Descriptor) : String → List (String × Json) → List (String × Json) → Prop
  | nil {path : String} : AgreeFields d path [] []
  | cons {path key : String} {v w : Json} {fs gs : List (String × Json)}
    (h : Agree d (childPath path key) v w) (hrest : AgreeFields d path fs gs) :
    AgreeFields d path ((key, v) :: fs) ((key, w) :: gs)

end

/-! ## Normalization keeps agreement -/

mutual

theorem normalizeDecodedJSONValue_agree {v w v' w' : Json} {path : String} {depth : Nat}
    {b c b' c' : Budget} (h : Agree d path v w)
    (hv : normalizeDecodedJSONValue v depth b = .ok (v', b'))
    (hw : normalizeDecodedJSONValue w depth c = .ok (w', c')) : Agree d path v' w' := by
  cases h with
  | sensitive h => exact .sensitive h
  | null | bool =>
    rw [normalizeDecodedJSONValue] at hv hw
    obtain ⟨_, _, -, -, hv, hw⟩ := except_binds_eq_ok hv hw
    cases ok.inj hv
    cases ok.inj hw
    first | exact .null | exact .bool _
  | num t =>
    rw [normalizeDecodedJSONValue] at hv hw
    obtain ⟨_, _, -, -, hv, hw⟩ := except_binds_eq_ok hv hw
    cases ht : normalizeJSONNumber t with
    | none =>
      rw [ht] at hv
      cases hv
    | some t' =>
      rw [ht] at hv hw
      cases ok.inj hv
      cases ok.inj hw
      exact .num t'
  | str s =>
    rw [normalizeDecodedJSONValue] at hv hw
    obtain ⟨_, _, -, -, hv, hw⟩ := except_binds_eq_ok hv hw
    split_ifs at hv hw
    obtain ⟨_, _, -, -, hv, hw⟩ := except_binds_eq_ok hv hw
    cases ok.inj hv
    cases ok.inj hw
    exact .str s
  | arr h =>
    rw [normalizeDecodedJSONValue] at hv hw
    obtain ⟨_, _, -, -, hv, hw⟩ := except_binds_eq_ok hv hw
    obtain ⟨_, _, -, -, hv, hw⟩ := except_binds_eq_ok hv hw
    obtain ⟨⟨xs, b2⟩, ⟨ys, c2⟩, hxs, hys, hv, hw⟩ := except_binds_eq_ok hv hw
    cases ok.inj hv
    cases ok.inj hw
    exact .arr (normalizeDecodedItems_agree h hxs hys)
  | obj h =>
    rw [normalizeDecodedJSONValue] at hv hw
    obtain ⟨_, _, -, -, hv, hw⟩ := except_binds_eq_ok hv hw
    obtain ⟨_, _, -, -, hv, hw⟩ := except_binds_eq_ok hv hw
    obtain ⟨⟨fs, b2⟩, ⟨gs, c2⟩, hfs, hgs, hv, hw⟩ := except_binds_eq_ok hv hw
    cases ok.inj hv
    cases ok.inj hw
    exact .obj (normalizeDecodedFields_agree h hfs hgs)

theorem normalizeDecodedItems_agree {xs ys xs' ys' : List Json} {path : String} {depth : Nat}
    {b c b' c' : Budget} (h : AgreeItems d path xs ys)
    (hx : normalizeDecodedItems xs depth b = .ok (xs', b'))
    (hy : normalizeDecodedItems ys depth c = .ok (ys', c')) : AgreeItems d path xs' ys' := by
  cases h with
  | nil =>
    cases hx
    cases hy
    exact .nil
  | cons h hrest =>
    rw [normalizeDecodedItems] at hx hy
    obtain ⟨⟨x, b1⟩, ⟨y, c1⟩, hx1, hy1, hx, hy⟩ := except_binds_eq_ok hx hy
    obtain ⟨⟨xs, b2⟩, ⟨ys, c2⟩, hx2, hy2, hx, hy⟩ := except_binds_eq_ok hx hy
    cases ok.inj hx
    cases ok.inj hy
    exact .cons (normalizeDecodedJSONValue_agree h hx1 hy1)
      (normalizeDecodedItems_agree hrest hx2 hy2)

theorem normalizeDecodedFields_agree {fs gs fs' gs' : List (String × Json)} {path : String}
    {depth : Nat} {b c b' c' : Budget} (h : AgreeFields d path fs gs)
    (hf : normalizeDecodedFields fs depth b = .ok (fs', b'))
    (hg : normalizeDecodedFields gs depth c = .ok (gs', c')) : AgreeFields d path fs' gs' := by
  cases h with
  | nil =>
    cases hf
    cases hg
    exact .nil
  | cons h hrest =>
    rw [normalizeDecodedFields] at hf hg
    obtain ⟨_, _, -, -, hf, hg⟩ := except_binds_eq_ok hf hg
    obtain ⟨⟨v, b1⟩, ⟨w, c1⟩, hf1, hg1, hf, hg⟩ := except_binds_eq_ok hf hg
    obtain ⟨⟨fs, b2⟩, ⟨gs, c2⟩, hf2, hg2, hf, hg⟩ := except_binds_eq_ok hf hg
    cases ok.inj hf
    cases ok.inj hg
    exact .cons (normalizeDecodedJSONValue_agree h hf1 hg1)
      (normalizeDecodedFields_agree hrest hf2 hg2)

end

/-! ## The walk -/

/-- At a sensitive path, an accepted value is stripped, whatever it is. -/
theorem walk_of_sensitive (hd : d.Unambiguous) {path : String} (h : d.Sensitive path) :
    ∃ f, d.definition? path = some f ∧ ∀ v decisions r,
      walk lib d .normalOnly v path decisions = .ok r → r = (none, record f .stripped decisions) := by
  obtain ⟨f, hf, hs⟩ := h
  obtain ⟨hmem, hpath⟩ := Descriptor.mem_of_definition? hf
  have happly : ∀ v decisions, applyDefinition lib .normalOnly f v decisions =
      .ok (none, record f .stripped decisions) := by
    intro v decisions
    simp only [applyDefinition, hs]
  have hscalar : ∀ v decisions, walkScalar lib d .normalOnly v path decisions =
      .ok (none, record f .stripped decisions) := by
    intro v decisions
    simp only [walkScalar, hf, happly]
  refine ⟨f, hf, fun v decisions r hr => ?_⟩
  cases v with
  | obj fields =>
    have hbelow : path ≠ "" ∧ d.hasDescendant path = false :=
      hpath ▸ ⟨hd.nonempty f hmem, hd.apart f hmem⟩
    rw [walk, if_pos hbelow] at hr
    cases hr
  | arr items =>
    rw [walk, hf] at hr
    simp only [hs, happly] at hr
    exact (ok.inj hr).symm
  | null =>
    rw [walk, hscalar] at hr
    exact (ok.inj hr).symm
  | bool b =>
    rw [walk, hscalar] at hr
    exact (ok.inj hr).symm
  | num t =>
    rw [walk, hscalar] at hr
    exact (ok.inj hr).symm
  | str s =>
    rw [walk, hscalar] at hr
    exact (ok.inj hr).symm

mutual

theorem walk_agree (hd : d.Unambiguous) {v w : Json} {path : String} {decisions : Decisions}
    {r r' : Option Json × Decisions} (h : Agree d path v w)
    (hv : walk lib d .normalOnly v path decisions = .ok r)
    (hw : walk lib d .normalOnly w path decisions = .ok r') : r = r' := by
  cases h with
  | sensitive h =>
    obtain ⟨f, -, hstripped⟩ : ∃ f, d.definition? path = some f ∧ ∀ v decisions r,
        walk lib d .normalOnly v path decisions = .ok r →
          r = (none, record f .stripped decisions) := walk_of_sensitive hd h
    rw [hstripped v decisions r hv, hstripped w decisions r' hw]
  | null | bool | num | str => exact ok.inj (hv.symm.trans hw)
  | @arr _ xs ys h =>
    rw [walk] at hv hw
    cases hdef : d.definition? path with
    | none =>
      rw [hdef] at hv hw
      dsimp only at hv hw
      split_ifs at hv hw
      obtain ⟨p, q, hxs, hys, hv, hw⟩ := except_binds_eq_ok hv hw
      rw [walkItems_agree hd h hxs hys] at hv
      exact ok.inj (hv.symm.trans hw)
    | some f =>
      rw [hdef] at hv hw
      dsimp only at hv hw
      split_ifs at hv hw with hnormal
      · by_cases hs : f.sensitivity = .sensitiveTopology
        · simp only [applyDefinition, hs] at hv hw
          exact ok.inj (hv.symm.trans hw)
        · -- neither normal nor sensitive: the definition refuses every value
          cases hf : f.sensitivity with
          | normal => exact absurd hf hnormal
          | sensitiveTopology => exact absurd hf hs
          | forbidden =>
            simp only [applyDefinition, hf] at hv
            cases hv
          | unknown text =>
            simp only [applyDefinition, hf] at hv
            cases hv
      · obtain ⟨p, q, hxs, hys, hv, hw⟩ := except_binds_eq_ok hv hw
        rw [walkItems_agree hd h hxs hys] at hv
        exact ok.inj (hv.symm.trans hw)
  | obj h =>
    rw [walk] at hv hw
    split_ifs at hv hw
    obtain ⟨p, q, hfs, hgs, hv, hw⟩ := except_binds_eq_ok hv hw
    rw [walkFields_agree hd h hfs hgs] at hv
    exact ok.inj (hv.symm.trans hw)

theorem walkItems_agree (hd : d.Unambiguous) {xs ys : List Json} {path : String}
    {decisions : Decisions} {r r' : List Json × Decisions} (h : AgreeItems d path xs ys)
    (hx : walkItems lib d .normalOnly xs path decisions = .ok r)
    (hy : walkItems lib d .normalOnly ys path decisions = .ok r') : r = r' := by
  cases h with
  | nil => exact ok.inj (hx.symm.trans hy)
  | cons h hrest =>
    rw [walkItems] at hx hy
    obtain ⟨p, p', hx1, hy1, hx, hy⟩ := except_binds_eq_ok hx hy
    obtain ⟨q, q', hx2, hy2, hx, hy⟩ := except_binds_eq_ok hx hy
    obtain rfl := walk_agree hd h hx1 hy1
    obtain rfl := walkItems_agree hd hrest hx2 hy2
    exact ok.inj (hx.symm.trans hy)

theorem walkFields_agree (hd : d.Unambiguous) {fs gs : List (String × Json)} {path : String}
    {decisions : Decisions} {r r' : List (String × Json) × Decisions}
    (h : AgreeFields d path fs gs)
    (hf : walkFields lib d .normalOnly fs path decisions = .ok r)
    (hg : walkFields lib d .normalOnly gs path decisions = .ok r') : r = r' := by
  cases h with
  | nil => exact ok.inj (hf.symm.trans hg)
  | cons h hrest =>
    rw [walkFields] at hf hg
    split_ifs at hf hg
    obtain ⟨p, p', hf1, hg1, hf, hg⟩ := except_binds_eq_ok hf hg
    obtain ⟨q, q', hf2, hg2, hf, hg⟩ := except_binds_eq_ok hf hg
    obtain rfl := walk_agree hd h hf1 hg1
    obtain rfl := walkFields_agree hd hrest hf2 hg2
    exact ok.inj (hf.symm.trans hg)

end

theorem redactPayload_agree (hd : d.Unambiguous) {fs gs : List (String × Json)}
    {r r' : List (String × Json) × Decisions} (h : AgreeFields d "" fs gs)
    (hf : redactPayload lib d .normalOnly fs = .ok r)
    (hg : redactPayload lib d .normalOnly gs = .ok r') : r = r' := by
  rw [redactPayload, if_neg (by decide)] at hf hg
  obtain ⟨_, _, -, -, hf, hg⟩ := except_binds_eq_ok hf hg
  obtain ⟨p, q, hwalk, hwalk', hf, hg⟩ := except_binds_eq_ok hf hg
  rw [walkFields_agree hd h hwalk hwalk'] at hf
  exact ok.inj (hf.symm.trans hg)

/-! ## Canonicalization -/

theorem numbersValid_numberLiteral {text : String} {j : Json} (h : numberLiteral text = some j) :
    j.numbersValid = true := by
  unfold numberLiteral at h
  split_ifs at h with hvalid
  cases h
  exact hvalid

mutual

theorem numbersValid_marshal : ∀ {v : GoValue} {j : Json}, marshal v = some j →
    j.numbersValid = true
  | .nil, j, h | .nilInterface, j, h | .nilPointer, j, h | .nilSlice, j, h | .nilMap, j, h => by
    rw [marshal] at h
    cases h
    rfl
  | .interface v, j, h | .pointer v, j, h => numbersValid_marshal (by rwa [marshal] at h)
  | .time text, j, h => by
    rw [marshal] at h
    obtain ⟨s, -, rfl⟩ := map_eq_some_iff.mp h
    rfl
  | .number text, j, h => by
    rw [marshal] at h
    exact numbersValid_numberLiteral h
  | .bool b, j, h => by
    rw [marshal] at h
    cases h
    rfl
  | .int n, j, h => by
    rw [marshal] at h
    exact numbersValid_numberLiteral h
  | .float text, j, h => by
    rw [marshal] at h
    obtain ⟨t, -, h⟩ := bind_eq_some_iff.mp h
    exact numbersValid_numberLiteral h
  | .string s, j, h => by
    rw [marshal] at h
    cases h
    rfl
  | .bytes b, j, h => by
    rw [marshal] at h
    cases h
    rfl
  | .slice items, j, h | .array items, j, h => by
    rw [marshal] at h
    obtain ⟨js, hitems, rfl⟩ := map_eq_some_iff.mp h
    exact numbersValidItems_marshal hitems
  | .map _ entries, j, h => by
    rw [marshal] at h
    obtain ⟨fs, hfields, rfl⟩ := map_eq_some_iff.mp h
    exact numbersValidFields_marshal hfields
  | .struct _ encoded, j, h => by
    rw [marshal] at h
    obtain ⟨fs, hfields, rfl⟩ := map_eq_some_iff.mp h
    exact numbersValidFields_marshal hfields
  | .custom, j, h | .unsupported, j, h => by
    rw [marshal] at h
    cases h

theorem numbersValidItems_marshal : ∀ {items : List GoValue} {js : List Json},
    marshalItems items = some js → numbersValidItems js = true
  | [], js, h => by
    rw [marshalItems] at h
    cases h
    rfl
  | v :: rest, js, h => by
    rw [marshalItems] at h
    obtain ⟨j, hj, h⟩ := bind_eq_some_iff.mp h
    obtain ⟨rest', hrest, h⟩ := bind_eq_some_iff.mp h
    cases h
    rw [numbersValidItems, numbersValid_marshal hj, numbersValidItems_marshal hrest]
    rfl

theorem numbersValidFields_marshal : ∀ {entries : List (String × GoValue)}
    {fs : List (String × Json)}, marshalFields entries = some fs → numbersValidFields fs = true
  | [], fs, h => by
    rw [marshalFields] at h
    cases h
    rfl
  | (key, v) :: rest, fs, h => by
    rw [marshalFields] at h
    obtain ⟨j, hj, h⟩ := bind_eq_some_iff.mp h
    obtain ⟨rest', hrest, h⟩ := bind_eq_some_iff.mp h
    cases h
    rw [numbersValidFields, numbersValid_marshal hj, numbersValidFields_marshal hrest]
    rfl

end

def payloadTree (input : GoValue) : Option Json := (marshal input).map canonical

variable {input : GoValue}

theorem normalizePayload_ok {fields : List (String × Json)}
    (h : normalizePayload input = .ok fields) :
    ∃ tree b b', payloadTree input = some tree ∧ inspect input 1 .empty = .ok b ∧
      normalizeDecodedJSONValue tree 1 .empty = .ok (.obj fields, b') := by
  rw [normalizePayload] at h
  obtain ⟨v, hv, h⟩ := except_bind_eq_ok h
  rw [normalizeStructuredValue] at hv
  obtain ⟨b, hb, hv⟩ := except_bind_eq_ok hv
  split at hv
  · cases hv
  next j hj =>
    dsimp only at hv
    split_ifs at hv
    · cases hv
    · obtain ⟨tree, htree, hv⟩ := except_bind_eq_ok hv
      rw [decodeTree, read_text (numbersValid_marshal hj)] at htree
      obtain rfl := ok.inj htree
      obtain ⟨p, hp, hv⟩ := except_bind_eq_ok hv
      obtain rfl := ok.inj hv
      refine ⟨j.canonical, b, p.2, by rw [payloadTree, hj]; rfl, hb, ?_⟩
      split at h
      · next fs heq =>
        obtain rfl := ok.inj h
        rw [hp, ← heq]
      · cases h

theorem canonicalizePayload_ok {canonical : CanonicalPayload} {report : Decisions}
    (h : canonicalizePayload lib d input mode = .ok (canonical, report)) :
    d.validate lib = .ok () ∧ ∃ fields redacted, normalizePayload input = .ok fields ∧
      redactPayload lib d mode fields = .ok (redacted, report) ∧
      encodeDocument lib d redacted = .ok canonical := by
  rw [canonicalizePayload] at h
  obtain ⟨_, hvalid, h⟩ := except_bind_eq_ok h
  obtain ⟨fields, hfields, h⟩ := except_bind_eq_ok h
  obtain ⟨⟨redacted, report'⟩, hredacted, h⟩ := except_bind_eq_ok h
  obtain ⟨canonical', hcanonical, h⟩ := except_bind_eq_ok h
  cases ok.inj h
  exact ⟨hvalid, fields, redacted, hfields, hredacted, hcanonical⟩

/-- **Noninterference.** Payloads that differ only in the values at sensitive paths have the same
canonical bytes, hash and decisions when sensitive topology is left out. -/
theorem redaction_noninterference {p q : GoValue} {v w : Json} {cp cq : CanonicalPayload}
    {rp rq : Decisions} (hp : payloadTree p = some v) (hq : payloadTree q = some w)
    (hagree : Agree d "" v w)
    (hcp : canonicalizePayload lib d p .normalOnly = .ok (cp, rp))
    (hcq : canonicalizePayload lib d q .normalOnly = .ok (cq, rq)) :
    cp.bytes = cq.bytes ∧ cp.hash = cq.hash ∧ rp = rq := by
  obtain ⟨hvalid, fs, rs, hfs, hrs, hes⟩ := canonicalizePayload_ok hcp
  obtain ⟨-, gs, ss, hgs, hss, het⟩ := canonicalizePayload_ok hcq
  have hd := Descriptor.unambiguous_of_validate hvalid
  obtain ⟨v', _, _, hv', -, hnormal⟩ := normalizePayload_ok hfs
  obtain ⟨w', _, _, hw', -, hnormal'⟩ := normalizePayload_ok hgs
  obtain rfl := some.inj (hp.symm.trans hv')
  obtain rfl := some.inj (hq.symm.trans hw')
  have hfields : AgreeFields d "" fs gs := by
    cases normalizeDecodedJSONValue_agree hagree hnormal hnormal' with
    | obj h => exact h
    | sensitive h =>
      obtain ⟨f, hf, -⟩ := h
      obtain ⟨hmem, hpath⟩ := Descriptor.mem_of_definition? hf
      exact absurd hpath (hd.nonempty f hmem)
  cases redactPayload_agree hd hfields hrs hss
  cases ok.inj (hes.symm.trans het)
  exact ⟨rfl, rfl, rfl⟩

/-! ## A small kind -/

def asciiServices : Services where
  nfkc s := s
  isUpper c := 'A' ≤ c && c ≤ 'Z'
  isLower c := 'a' ≤ c && c ≤ 'z'
  isDigit c := '0' ≤ c && c ≤ '9'
  toLower c := c.toLower
  matchesSecretPattern _ := false
  normalizeEvidenceURL _ := none
  sha256 := Sha256.sum256

def sampleDescriptor : Descriptor where
  key := ⟨"monitoring.host", 1⟩
  fields := [⟨"count", .normal, .text⟩, ⟨"hosts", .sensitiveTopology, .text⟩]
  conformance := ⟨1, 1, "v1", 4096⟩

def sampleText : String :=
  "\x7b\"canonicalization_version\":1,\"kind\":\"monitoring.host\",\"schema_version\":1," ++
    "\"payload\":\x7b\"count\":2\x7d\x7d"

def samplePayload (hosts : GoValue) : GoValue := .struct [("count", .int 2), ("hosts", hosts)]
  [("count", .int 2), ("hosts", hosts)]

theorem redaction_noninterference_hosts : ∃ cp rp cq rq,
    canonicalizePayload asciiServices sampleDescriptor
      (samplePayload (.slice [.string "alpha", .string "beta"])) .normalOnly = .ok (cp, rp) ∧
    canonicalizePayload asciiServices sampleDescriptor (samplePayload (.bool true)) .normalOnly =
      .ok (cq, rq) ∧ cp.bytes = sampleText ∧ cp.bytes = cq.bytes ∧ cp.hash = cq.hash ∧ rp = rq := by
  have hp : (canonicalizePayload asciiServices sampleDescriptor
      (samplePayload (.slice [.string "alpha", .string "beta"])) .normalOnly).map (·.1.bytes) =
      .ok sampleText := by decide +kernel
  have hq : (canonicalizePayload asciiServices sampleDescriptor (samplePayload (.bool true))
      .normalOnly).map (·.1.bytes) = .ok sampleText := by decide +kernel
  have hsensitive : sampleDescriptor.Sensitive (childPath "" "hosts") := ⟨_, rfl, rfl⟩
  obtain ⟨⟨cp, rp⟩, hp, hbytes⟩ := except_map_eq_ok hp
  obtain ⟨⟨cq, rq⟩, hq, -⟩ := except_map_eq_ok hq
  exact ⟨cp, rp, cq, rq, hp, hq, hbytes, redaction_noninterference rfl rfl
    (.obj (.cons (.num _) (.cons (.sensitive hsensitive) .nil))) hp hq⟩

end Houfeng.Evidence
