import Houfeng.Center.Syncing

/-!
# Markdown of exported records

The document an export writes for a record, and how an import takes it apart again: the title, the
section of included materials, and the references that are rebound to imported members. Texts are
lists of characters.
-/

namespace Houfeng.Portability

open Center

abbrev Text := List Char

/-! ## Export -/

structure UnavailableMaterial where
  kind : Text
  id : Text
  reason : Text

def authorizedHeading : Text := "\n## 已授权材料\n".toList
def unavailableHeading : Text := "\n## 不可用材料\n".toList

def endLine (body : Text) : Text := if body.getLast? = some '\n' then body else body ++ ['\n']

def includedLine (id : Text) : Text := '-' :: ' ' :: (id ++ ['\n'])

def unavailableLine (item : UnavailableMaterial) : Text :=
  '-' :: ' ' :: (item.kind ++ " `".toList ++ item.id ++ "`：".toList ++ item.reason ++ ['\n'])

def includedSection (included : List Text) : Text :=
  if included = [] then [] else authorizedHeading ++ '\n' :: included.flatMap includedLine

def unavailableSection (unavailable : List UnavailableMaterial) : Text :=
  if unavailable = [] then [] else unavailableHeading ++ '\n' :: unavailable.flatMap unavailableLine

/-- Title, body and the lists of materials. -/
def renderMarkdownExport (title body : Text) (included : List Text)
    (unavailable : List UnavailableMaterial) : Text :=
  '#' :: ' ' :: (title ++ '\n' :: '\n' :: (endLine body ++ includedSection included ++
    unavailableSection unavailable))

/-! ## Import -/

/-- What comes before and after the first occurrence. -/
def cutAt (part : Text) : Text → Option (Text × Text)
  | [] => if part.isPrefixOf [] then some ([], []) else none
  | c :: cs =>
    if part.isPrefixOf (c :: cs) then some ([], (c :: cs).drop part.length)
    else (cutAt part cs).map fun (before, rest) => (c :: before, rest)

/-- `strings.TrimRight(text, "\n")`. -/
def trimNewlines (text : Text) : Text := (text.reverse.dropWhile (· = '\n')).reverse

/-- Cuts the list of authorized materials out. -/
def stripExportMarkdownChrome (body : Text) : Text :=
  match cutAt authorizedHeading body with
  | none => body
  | some (before, rest) =>
    match cutAt "\n## ".toList rest with
    | some (_, tail) => before ++ ("\n## ".toList ++ tail)
    | none => trimNewlines before ++ ['\n']

def trimText (text : Text) : Text := ((text.dropWhile isSpace).reverse.dropWhile isSpace).reverse

/-- The first heading. -/
def headingTitle (lines : List Text) : Text :=
  match lines.find? fun line => ['#', ' '].isPrefixOf line with
  | some line => trimText (line.drop 2)
  | none => "imported record".toList

/-- `parseImportedMarkdown`, of the payload of an entry whose path names its record. -/
def parseImportedMarkdown (payload : Text) : Text × Text :=
  let body := stripExportMarkdownChrome payload
  (headingTitle (body.splitOn '\n'), body)

/-! ## References -/

def isIDChar (c : Char) : Bool := c.isAlphanum || c = '_' || c = '-'

/-- `[A-Za-z0-9][A-Za-z0-9_-]{0,127}`. -/
def isReferenceID : Text → Bool
  | [] => false
  | c :: cs => c.isAlphanum && cs.all isIDChar && cs.length ≤ 127

def referenceKinds : List Text := ["evidence".toList, "attachment".toList]

def commentLine (kind id : Text) : Text :=
  "<!-- houfeng-ref:v1 ".toList ++ kind ++ ' ' :: (id ++ " -->".toList)

def linkLine (label kind id : Text) : Text :=
  '[' :: (label ++ "](houfeng-".toList ++ kind ++ ':' :: (id ++ [')']))

/-- `importedReferenceCommentPattern`: kind and identifier. -/
def matchComment (line : Text) : Option (Text × Text) :=
  referenceKinds.findSome? fun kind =>
    let id := (line.drop ("<!-- houfeng-ref:v1 ".toList ++ kind).length).tail.takeWhile isIDChar
    if isReferenceID id ∧ line = commentLine kind id then some (kind, id) else none

/-- `importedReferenceLinkPattern`: label, kind and identifier; the label is as long as it can be. -/
def matchLink (line : Text) : Option (Text × Text × Text) :=
  ((List.range line.length).reverse.flatMap fun size =>
      referenceKinds.map fun kind => (size, kind)).findSome? fun (size, kind) =>
    let label := line.tail.take size
    let id := (line.drop (size + 12 + kind.length)).takeWhile isIDChar
    if label ≠ [] ∧ isReferenceID id ∧ line = linkLine label kind id then some (label, kind, id)
    else none

/-- `rebindImportedMarkdownReferences`, on lines; `remap` gives the planned target of a member. -/
def rebindLines (remap : Text → Text → Option Text) : List Text → List Text
  | [] => []
  | line :: rest =>
    match matchComment (trimText line) with
    | some (kind, id) =>
      match rest with
      | next :: rest' =>
        match matchLink (trimText next) with
        | some (label, kind', id') =>
          if kind = kind' ∧ id = id' then
            match remap kind id with
            | some target =>
              commentLine kind target :: linkLine label kind' target :: rebindLines remap rest'
            | none => label :: rebindLines remap rest'
          else rebindLines remap (next :: rest')
        | none => rebindLines remap (next :: rest')
      | [] => []
    | none =>
      match matchLink (trimText line) with
      | some (label, _, _) => label :: rebindLines remap rest
      | none => line :: rebindLines remap rest

/-- Points references at their targets; without one the label stays. -/
def rebindImportedMarkdownReferences (remap : Text → Text → Option Text) (body : Text) : Text :=
  ['\n'].intercalate (rebindLines remap (body.splitOn '\n'))

end Houfeng.Portability
