import LunConsole.Gateway
import LunConsole.Watch.Objects
import LunConsole.Watch.Shapes
/-!
# What the API server says of a list

A list is read page by page, and each page tells whether there is another one. From then on the
server reports changes, one on a line. A line that breaks off says nothing, since a stream may end
in the middle of a line.
-/

set_option autoImplicit false

namespace LunConsole

/-! ## 1. Pages -/

/-- A page of a list. -/
structure ListPage (α : Type) where
  resourceVersion : Option String
  continueAt : Option String
  objects : List α

/-- Where a page continues and at which version it was read. -/
structure PageMarks where
  resourceVersion : Option String
  continueAt : Option String

instance : Wire PageMarks where
  encode m := .object <|
    Json.memberIf "resourceVersion" m.resourceVersion ++ Json.memberIf "continue" m.continueAt
  decode? x := do
    let ms ← x.members?
    let _ : Option String ← Json.part? ms "selfLink"
    let _ : Option Int64 ← Json.part? ms "remainingItemCount"
    return {
      resourceVersion := ← Json.part? ms "resourceVersion"
      continueAt := ← Json.part? ms "continue" }

/-- Some members of an object as the fields of a record. All others are taken in as well, before it
is known that nobody asks for them, so they have to denote something. -/
def Json.gathered? (names : List String) (x : Json) : Option Json.Fields := do
  let ms ← x.members?
  if ms.any fun m => !names.contains m.1 && m.2.fault?.isSome then none
  (Json.object ms).record? names names.length

instance {α : Type} [Wire α] : Wire (ListPage α) where
  encode p := .object <|
    Json.member "metadata" (PageMarks.mk p.resourceVersion p.continueAt)
      ++ Json.member "items" p.objects
  decode? x := do
    let fs ← x.gathered? ["metadata", "items"]
    let marks : PageMarks ← fs.withDefault? "metadata" ⟨none, none⟩
    let objects : Option (List α) := match ← fs.lookup "items" with
      | .null => some []
      | x => decode? x
    return ⟨marks.resourceVersion, marks.continueAt, ← objects⟩

/-! ## 2. Changes -/

/-- A change of a list, or word from the server. -/
inductive WatchMessage (α : Type) where
  | put (x : α)
  | deleted (x : α)
  /-- Nothing has changed up to a version. -/
  | bookmark
  | failed (status : ApiStatus)

/-- What a bookmark says of the position in the list. -/
structure BookmarkMarks where
  resourceVersion : String
  annotations : TextMap

instance : Wire BookmarkMarks where
  encode m := .object <|
    Json.member "resourceVersion" m.resourceVersion ++ Json.member "annotations" m.annotations
  decode? x := do
    let fs ← x.record? ["resourceVersion", "annotations"] 1
    return {
      resourceVersion := ← fs.required? "resourceVersion"
      annotations := ← fs.withDefault? "annotations" ∅ }

/-- The type of the objects of a list and the version up to which nothing has changed. -/
structure Bookmark where
  apiVersion : String
  kind : String
  marks : BookmarkMarks

instance : Wire Bookmark where
  encode b := .object <|
    Json.member "apiVersion" b.apiVersion ++ Json.member "kind" b.kind
      ++ Json.member "metadata" b.marks
  decode? x := do
    let gathered ← x.gathered? ["metadata"]
    let fs ← x.record? ["apiVersion", "kind"] 2
    return {
      apiVersion := ← fs.required? "apiVersion"
      kind := ← fs.required? "kind"
      marks := ← gathered.required? "metadata" }

instance : HasShape Bookmark where
  shape :=
    let marks : Json.Shape := .record BookmarkMarks [
      ("resourceVersion", .ofType String), ("annotations", (Json.Shape.ofType String).map)]
    let whole : Json.Shape := .recordWith .any Bookmark [("metadata", marks)]
    { whole with
      begins
        | .array _ => false
        | x => whole.begins x }

/-- The words for the kinds of messages. -/
def watchWords : List String := ["ADDED", "MODIFIED", "DELETED", "BOOKMARK", "ERROR"]

/-- The kinds of messages. -/
def watchWord : Json.Shape where
  fits x := x.word?.any watchWords.contains
  begins
    | .broken .endInWord => false
    | .object [("", .broken f)] => f.isEnd
    | .object [(word, .broken f)] => f.isEnd && watchWords.contains word
    | .object [(word, .null), (_, .broken .endInObject)] => watchWords.contains word
    | x => Json.Shape.isCut x

namespace WatchMessage

variable {α : Type} [Wire α] [HasShape α]

/-- The message of a kind about an object. -/
def ofObject? (kind : String) (x : Json) : Option (WatchMessage α) :=
  if kind = "ADDED" ∨ kind = "MODIFIED" then (readWhole? x).map put
  else if kind = "DELETED" then (readWhole? x).map deleted
  else if kind = "BOOKMARK" then (readWhole? x : Option Bookmark).map fun _ => bookmark
  else if kind = "ERROR" then (readWhole? x).map failed
  else none

/-- What the object of a message looks like, as its kind says. -/
def objectShape (α : Type) [Wire α] [HasShape α] (kind : String) : Json.Shape :=
  if kind = "BOOKMARK" then shape Bookmark
  else if kind = "ERROR" then shape ApiStatus
  else shape α

/-- Reads a message from JSON. Its kind may be told after its object; then all of the object has to
denote something, since it is taken in before its kind is known. -/
def ofJson? (x : Json) : Option (WatchMessage α) := do
  let fs ← x.record? ["type", "object"] 2
  let kind ← (← fs.lookup "type").word?
  let object ← fs.lookup "object"
  let kindComesFirst := fs.head?.any fun f => f.1 = "type"
  if !kindComesFirst && object.fault?.isSome then none
  ofObject? kind object

/-- Whether the fields of a message, of which the last one has broken off, are right so far. -/
def beginsFields (α : Type) [Wire α] [HasShape α] : Json.Fields → Bool
  | [] => true
  | [("type", kind)] => watchWord.begins kind
  | [("object", x)] => Json.Shape.any.begins x
  | [("type", kind), ("object", x)] =>
      kind.word?.any fun kind => watchWords.contains kind && (objectShape α kind).begins x
  | [("object", x), ("type", kind)] => x.fault?.isNone && watchWord.begins kind
  | _ => false

/-- Whether the fields of a message, none of which has broken off, are right so far. -/
def fitsFields (α : Type) [Wire α] [HasShape α] : Json.Fields → Bool
  | [] => true
  | [("type", kind)] => watchWord.fits kind
  | [("object", x)] => Json.Shape.any.fits x
  | fs => (ofJson? (.object fs) : Option (WatchMessage α)).isSome

/-- Whether a line that has broken off can still become a message. -/
def begins (α : Type) [Wire α] [HasShape α] : Json → Bool
  | .object ms =>
      let isField (m : String × Json) : Bool := m.1 = "type" || m.1 = "object"
      let fields := ms.filter isField
      Json.Shape.beginsWith (fun m => isField m || !m.2.isBroken)
          (fun m => isField m || Json.Shape.ignored.begins m.2) ms
        && if ms.getLast?.any isField then beginsFields α fields else fitsFields α fields
  | .array [kind] => watchWord.begins kind
  | .array [kind, x] => beginsFields α [("type", kind), ("object", x)]
  | .array [kind, x, .broken .endInArray] => fitsFields α [("type", kind), ("object", x)]
  | x => Json.Shape.isCut x

/-- What a line says. -/
inductive Line (α : Type) where
  | nothing
  | message (m : WatchMessage α)
  | fault (f : RequestFailure)

/-- Reads a line. -/
def ofLine (line : String) : Line α :=
  let (x, left) := Json.opening line
  let unusable : Line α := .fault (.unusable "the line is no message")
  match left with
  | .error b => if b.fault.isEnd && begins α x then .nothing else unusable
  | .ok rest =>
      let message? : Option (WatchMessage α) :=
        if (rest.dropWhile Json.isBlank).isEmpty then ofJson? x else none
      match message? with
      | some m => .message m
      | none =>
          match (readText? line : Option ApiStatus) with
          | some status => .fault (.refused status)
          | none => unusable

end WatchMessage

/-- The lines of a text, each without its end. -/
def textLines (text : String) : List String :=
  let lines := text.splitOn "\n"
  let lines := if lines.getLast? = some "" then lines.dropLast else lines
  lines.map fun line => if line.endsWith "\r" then (line.dropEnd 1).toString else line

end LunConsole
