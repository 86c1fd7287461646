import Houfeng.Foundation.Framing
import Houfeng.Foundation.Transaction

/-!
# The active text detector

`activeTextDetector` reads a text in chunks and says whether it is active: whether it starts like a
script or holds markup that a browser would act on. It keeps one candidate tag, the lowered bytes
from a `<` on, and either drops it or turns active.

The HTML tokenizer, the atom table, the lowering of attribute names and the URL parser are
libraries (`Parsers`). A context is the answers of its checks, the `n`-th of them `ctx n`.
-/

namespace Houfeng.Attachments

open Framing (Bytes)

def ascii (s : String) : Bytes := s.toList.map fun c => UInt8.ofNat c.toNat

inductive AdmissionError
  | invalidAdmissionRequest
  | context

/-- The first token of a candidate, with the attribute names of a tag. -/
inductive Token
  | error (eof : Bool)
  | startTag (name : Bytes) (attributes : List Bytes)
  | selfClosingTag (name : Bytes) (attributes : List Bytes)
  | doctype
  | other

structure Parsers where
  next : Bytes → Token
  /-- `atom.Lookup` finds the name. -/
  lookup : Bytes → Bool
  /-- `bytes.ToLower`. -/
  toLower : Bytes → Bytes
  /-- Scheme and host of `url.ParseRequestURI`. -/
  parseRequestURI : Bytes → Option (Bytes × Bytes)

/-- The answers of the checks of a context: whether it is done. -/
abbrev Context := Nat → Bool

def background : Context := fun _ => false

/-- Code that checks a context; the state counts the checks. -/
abbrev Checked := Tx AdmissionError Nat

def ctxErr (ctx : Context) : Checked PUnit := fun n =>
  if ctx n then .error .context else .ok (⟨⟩, n + 1)

def isASCIIAlpha (value : UInt8) : Bool :=
  (0x41 ≤ value && value ≤ 0x5a) || (0x61 ≤ value && value ≤ 0x7a)

def lowerASCII (value : UInt8) : UInt8 :=
  if 0x41 ≤ value && value ≤ 0x5a then value + 0x20 else value

/-- Blank, tab, line feed, carriage return, vertical tab and form feed. -/
def whitespace : Bytes := [0x20, 0x09, 0x0a, 0x0d, 0x0b, 0x0c]

def isActiveTextWhitespace (value : UInt8) : Bool := value ∈ whitespace

def leadingActiveTextSignatures : List Bytes := [ascii "#!", ascii "@echo off"]

def incompleteActiveMarkup : List Bytes :=
  [ascii "<!doctype html", ascii "<html", ascii "<script", ascii "<svg", ascii "<?xml",
    ascii "<?php"]

def maxActiveTextTagBytes : Nat := 4 * 1024

def activeTextContextCheckBytes : Nat := 4 * 1024

def byteOrderMark : Bytes := [0xef, 0xbb, 0xbf]

structure ActiveTextDetector where
  active : Bool := false
  initialized : Bool := false
  bom : Bytes := []
  bomChecked : Bool := false
  leading : Bool := false
  leadingCandidate : Bytes := []
  tagCandidate : Bytes := []
  incompleteTag : Bool := false
  tokenizerCalls : Nat := 0

/-! ## Candidates -/

def isActiveHTMLAttribute (p : Parsers) (key : Bytes) : Bool :=
  let lower := p.toLower key
  (ascii "on").isPrefixOf lower || lower = ascii "action" || lower = ascii "formaction" ||
    lower = ascii "href" || lower = ascii "src" || lower = ascii "style" ||
    lower = ascii "xlink:href"

/-- The loop of `markdownURIScheme` over the bytes after `scheme`. -/
def schemeFrom (scheme : Bytes) : Bytes → Option Bytes
  | [] => none
  | value :: rest =>
    if value = 0x3a then some scheme
    else if value = 0x2b ∨ value = 0x2d ∨ value = 0x2e then schemeFrom (scheme ++ [value]) rest
    else if isASCIIAlpha value ∨ (0x30 ≤ value ∧ value ≤ 0x39) then
      schemeFrom (scheme ++ [value]) rest
    else none

def markdownURIScheme : Bytes → Option Bytes
  | first :: second :: rest =>
    if isASCIIAlpha first then schemeFrom [first] (second :: rest) else none
  | _ => none

/-- None if the candidate is not shaped like a URI, else whether it is allowed. -/
def classifyMarkdownAutolink (p : Parsers) (candidate : Bytes) : Option Bool :=
  if candidate.length < 3 ∨ candidate.head? ≠ some 0x3c ∨ candidate.getLast? ≠ some 0x3e then none
  else
    let rawURI := (candidate.drop 1).dropLast
    match markdownURIScheme rawURI with
    | none => none
    | some scheme =>
      if rawURI.any (· ∈ whitespace) then some false
      else match p.parseRequestURI rawURI with
        | none => some false
        | some (parsedScheme, host) =>
          some (parsedScheme = scheme ∧ (scheme = ascii "http" ∨ scheme = ascii "https") ∧
            host ≠ [])

def activeTag (p : Parsers) (name : Bytes) (attributes : List Bytes) : Bool × Bool :=
  if name = [] then (false, true)
  else (p.lookup name || attributes.any (isActiveHTMLAttribute p) || name.contains 0x2d, true)

/-- Whether the candidate is active and whether it is complete. -/
def activeMarkupCandidate (p : Parsers) (candidate : Bytes) : Bool × Bool :=
  match p.next candidate with
  | .error eof => if eof then (false, false) else (true, false)
  | token =>
    match classifyMarkdownAutolink p candidate with
    | some allowed => (!allowed, true)
    | none =>
      match token with
      | .startTag name attributes => activeTag p name attributes
      | .selfClosingTag name attributes => activeTag p name attributes
      | .doctype => (true, true)
      | _ => (false, true)

/-! ## The detector -/

namespace ActiveTextDetector

variable (p : Parsers) (ctx : Context)

def resetTag (d : ActiveTextDetector) : ActiveTextDetector :=
  { d with tagCandidate := [], incompleteTag := false }

def observeLeadingSignature (d : ActiveTextDetector) (lower original : UInt8) :
    ActiveTextDetector :=
  if d.leading = false then d
  else if d.leadingCandidate = [] ∧ isActiveTextWhitespace original then d
  else
    let d := { d with leadingCandidate := d.leadingCandidate ++ [lower] }
    if d.leadingCandidate ∈ leadingActiveTextSignatures then { d with active := true }
    else if leadingActiveTextSignatures.any (d.leadingCandidate.isPrefixOf ·) then d
    else { d with leading := false, leadingCandidate := [] }

def observeTag (d : ActiveTextDetector) (original lower : UInt8) : Checked ActiveTextDetector :=
  if d.tagCandidate = [] then
    if original ≠ 0x3c then pure d else pure { d with tagCandidate := [lower] }
  else if maxActiveTextTagBytes ≤ d.tagCandidate.length then pure { d with active := true }
  else
    let d := { d with tagCandidate := d.tagCandidate ++ [lower] }
    if d.tagCandidate.length = 2 ∧ isActiveTextWhitespace original then pure d.resetTag
    else if d.tagCandidate ∈ incompleteActiveMarkup then pure { d with active := true }
    else if original = 0x3e then
      if d.incompleteTag then pure { d with active := true }
      else do
        ctxErr ctx
        let d := { d with tokenizerCalls := d.tokenizerCalls + 1 }
        match activeMarkupCandidate p d.tagCandidate with
        | (true, _) => pure { d with active := true }
        | (false, true) => pure d.resetTag
        | (false, false) => pure { d with incompleteTag := true }
    else if d.tagCandidate.length = 2 ∧ original ≠ 0x2f ∧ original ≠ 0x21 ∧ original ≠ 0x3f ∧
        isASCIIAlpha original = false then pure d.resetTag
    else pure d

def observeByte (d : ActiveTextDetector) (value : UInt8) : Checked ActiveTextDetector :=
  let lower := lowerASCII value
  let d := d.observeLeadingSignature lower value
  if d.active then pure d else observeTag p ctx d value lower

def observeBytes : ActiveTextDetector → Bytes → Checked ActiveTextDetector
  | d, [] => pure d
  | d, initial :: rest => do
    let d ← observeByte p ctx d initial
    observeBytes d rest

def observeNext (d : ActiveTextDetector) (value : UInt8) : Checked ActiveTextDetector :=
  if d.bomChecked = false then
    let d := { d with bom := d.bom ++ [value] }
    if d.bom.isPrefixOf byteOrderMark ∧ d.bom.length < 3 then pure d
    else
      let d := { d with bomChecked := true }
      if d.bom = byteOrderMark then pure { d with bom := [] }
      else do
        let d' ← observeBytes p ctx d d.bom
        pure { d' with bom := [] }
  else observeByte p ctx d value

/-- The loop of `observe` from the byte at `index` on. -/
def observeFrom : Nat → ActiveTextDetector → Bytes → Checked ActiveTextDetector
  | _, d, [] => pure d
  | index, d, value :: rest => do
    if index % activeTextContextCheckBytes = 0 then ctxErr ctx
    if d.active then pure d
    else do
      let d ← observeNext p ctx d value
      observeFrom (index + 1) d rest

/-- No context is an invalid request. -/
def observe (ctx : Option Context) (d : ActiveTextDetector) (content : Bytes) :
    Checked ActiveTextDetector :=
  match ctx with
  | none => throw .invalidAdmissionRequest
  | some ctx =>
    let d := if d.initialized = false then { d with initialized := true, leading := true } else d
    observeFrom p ctx 0 d content

def observeChunks (ctx : Option Context) : ActiveTextDetector → List Bytes →
    Checked ActiveTextDetector
  | d, [] => pure d
  | d, chunk :: rest => do
    let d ← observe p ctx d chunk
    observeChunks ctx d rest

end ActiveTextDetector

def looksLikeActiveText (p : Parsers) (ctx : Option Context) (content : Bytes) : Checked Bool := do
  let d ← ActiveTextDetector.observe p ctx {} content
  pure d.active

def MarkerAt (content marker : Bytes) (offset : Nat) : Prop :=
  ((content.drop offset).take marker.length).map lowerASCII = marker

instance (content marker : Bytes) (offset : Nat) : Decidable (MarkerAt content marker offset) :=
  inferInstanceAs (Decidable (_ = _))

/-! ## Open tags -/

/-- The lowered bytes of the tag that is open behind `value`, if `tag` was open before it. A `<` opens
a tag. A second byte that begins no tag drops it, and so does a `>` where the tokenizer finds a
complete token that is not active. Every other byte belongs to the tag, be it a `<`. -/
def nextTag (p : Parsers) (tag : Bytes) (value : UInt8) : Bytes :=
  let longer := tag ++ [lowerASCII value]
  if tag = [] then if value = 0x3c then [0x3c] else []
  else if tag.length = 1 ∧ isActiveTextWhitespace value then []
  else if value = 0x3e then if activeMarkupCandidate p longer = (false, true) then [] else longer
  else if tag.length = 1 ∧ value ≠ 0x2f ∧ value ≠ 0x21 ∧ value ≠ 0x3f ∧ isASCIIAlpha value = false
    then []
  else longer

/-- The tag that is open behind a text. -/
def openTag (p : Parsers) : Bytes → Bytes → Bytes
  | tag, [] => tag
  | tag, value :: rest => openTag p (nextTag p tag value) rest

end Houfeng.Attachments
