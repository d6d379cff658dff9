import LunConsole.Snapshot
import LunConsole.Watch.Message
/-!
# Following a list

A follower reads a list and then follows its changes. It waits for a page of the list, with the
objects of earlier pages in hand, or it follows the changes, or it has come to its end. What it
learns is news (`Follower.Step`), and a fold over the news makes the snapshots that are published
(`Tracker`).

News is published from the first complete reading on, errors always. An error leaves the content
as it was; the next change clears it. When the position in the list is lost the list is read
again, and its content stays until then. An object without a name cannot be told from others: it
ends the follower, and the content stays for good.
-/

set_option autoImplicit false

namespace LunConsole

/-- What is learnt about a list. -/
inductive News (α : Type) where
  /-- The list has been read anew. -/
  | restarted (xs : List α)
  /-- An object is new or has changed. -/
  | put (x : α)
  | deleted (x : α)
  | failed (f : RequestFailure)

/-- The state of a follower: waiting for a page, following the changes, or neither any more. -/
inductive Follower (α : Type) where
  | reading (sofar : List α)
  | following
  | ended

namespace Follower

variable {α : Type}

/-- A follower that has not read anything. -/
def start : Follower α := .reading []

/-- The news from one answer or one line, and the state after it. -/
structure Step (α : Type) where
  news : Option (News α)
  next : Follower α

/-- The list cannot be relied on: it is read from the beginning. -/
def lost (f : RequestFailure) : Step α := ⟨some (.failed f), start⟩

/-- The failure of a list or an object without a version. -/
def noVersion : RequestFailure := .unusable "there is no resource version"

/-- News about objects `xs`, which have to be named. -/
def tell [ApiObject α] (xs : List α) (n : News α) : Step α :=
  if xs.all isNamed then ⟨some n, .following⟩ else ⟨none, .ended⟩

/-- Takes in the answer to a request for a page. -/
def page [Wire α] [ApiObject α] (sofar : List α) (a : ApiAnswer) : Step α :=
  match (a.object : Except RequestFailure (ListPage α)) with
  | .error f => lost f
  | .ok p =>
      let objects := sofar ++ p.objects
      if p.continueAt.getD "" ≠ "" then ⟨none, .reading objects⟩
      else if p.resourceVersion.getD "" ≠ "" then tell objects (.restarted objects)
      else lost noVersion

/-- The code of an error that says that the position in the list is lost. -/
def gone : UInt16 := 410

/-- Takes in a message about the list. -/
def message [ApiObject α] : WatchMessage α → Step α
  | .put x => if objectVersion x = "" then lost noVersion else tell [x] (.put x)
  | .deleted x => if objectVersion x = "" then lost noVersion else tell [x] (.deleted x)
  | .bookmark => ⟨none, .following⟩
  | .failed status =>
      if status.code = gone then lost (.refused status)
      else ⟨some (.failed (.refused status)), .following⟩

/-- Takes in a line. -/
def line [Wire α] [HasShape α] [ApiObject α] (text : String) : Step α :=
  match (WatchMessage.ofLine text : WatchMessage.Line α) with
  | .nothing => ⟨none, .following⟩
  | .message m => message m
  | .fault f => ⟨some (.failed f), .following⟩

/-- Whether the follower follows the changes. -/
def isFollowing : Follower α → Bool
  | following => true
  | _ => false

end Follower

/-! ## Snapshots from news -/

/-- The objects that are known, whether the list has been read at all, and the snapshot that was
published last. -/
structure Tracker (α β : Type) where
  objects : List α
  ready : Bool
  current : Snapshot β

namespace Tracker

variable {α β : Type}

/-- Nothing is known. -/
def empty : Tracker α β := ⟨[], false, .empty⟩

/-- The known objects after news. -/
def objectsAfter [ApiObject α] (xs : List α) : News α → List α
  | .restarted ys => Objects.ofList ys
  | .put x => Objects.put x xs
  | .deleted x => Objects.remove x xs
  | .failed _ => xs

/-- The error that a snapshot carries after a failure. -/
def errorText (list : String) (f : RequestFailure) : String :=
  (ConsoleError.watchFailed list f.text).message

/-- Takes in news. The snapshot is the one to publish, if any; it shows the objects as `view`
says. -/
def take [ApiObject α] (list : String) (view : α → β) (t : Tracker α β) (n : News α) :
    Tracker α β × Option (Snapshot β) :=
  let objects := objectsAfter t.objects n
  match n with
  | .failed f =>
      let current := t.current.withError (errorText list f)
      ({ t with current }, some current)
  | n =>
      let ready := t.ready || match n with
        | .restarted _ => true
        | _ => false
      if ready then
        let current := t.current.replace (objects.map view)
        (⟨objects, ready, current⟩, some current)
      else ({ t with objects }, none)

end Tracker

end LunConsole
