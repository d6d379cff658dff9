import LunConsole.Watch.Follower
import LunConsole.Watch.Source
/-!
# Watching a list

A session keeps one list of the console up to date. It asks for pages, then for a stream of
changes, and for another stream whenever one ends; what the server does (`ServerEvent`) leads to
snapshots, which the console takes in. A refused stream is read for what its answer says, and then
asked for again. If the list cannot even be asked for, that is all that is ever learnt of it; nor is
anything learnt once the follower has ended.
-/

set_option autoImplicit false

namespace LunConsole

/-- What the server does. -/
inductive ServerEvent where
  /-- A request for a page is answered. -/
  | page (a : ApiAnswer)
  /-- A stream of changes begins. -/
  | opened
  /-- The request for a stream is answered in some other way. -/
  | refused (a : ApiAnswer)
  /-- Lines come in on the stream. -/
  | lines (text : String)
  /-- The stream ends. -/
  | closed

/-- What a session waits for. -/
inductive Awaited where
  | page
  | stream
  | lines
  /-- There is nothing to wait for, as no request can be sent or none is left to send. -/
  | nothing
  deriving DecidableEq, Repr

/-- A session: whether requests can be sent, how far the list has been followed, whether a stream
is open, and what is known. -/
structure Session (α β : Type) where
  reachable : Bool
  follower : Follower α
  streaming : Bool
  tracker : Tracker α β

namespace Session

variable {α β : Type}

/-- What the session waits for. -/
def awaits (s : Session α β) : Awaited :=
  match s.reachable, s.follower with
  | false, _ => .nothing
  | true, .reading _ => .page
  | true, .following => if s.streaming then .lines else .stream
  | true, .ended => .nothing

variable [Wire α] [HasShape α] [ApiObject α]

/-- Takes in what was learnt, and shows the console what is to be published. -/
def learn (src : Source α β) (s : Session α β) (c : Console) (step : Follower.Step α) :
    Session α β × Console :=
  let (tracker, published) := match step.news with
    | some n => s.tracker.take src.list.text src.view n
    | none => (s.tracker, none)
  let c := match published with
    | some snapshot => src.apply c snapshot
    | none => c
  (⟨s.reachable, step.next, s.streaming && step.next.isFollowing, tracker⟩, c)

/-- A session that has asked for its first page, or failed to. -/
def start (src : Source α β) (c : Console) : Session α β × Console :=
  if (src.target? c.config).isSome then (⟨true, .start, false, .empty⟩, c)
  else learn src ⟨false, .start, false, .empty⟩ c (Follower.lost .unsendable)

/-- Takes in lines as long as the follower follows the changes. -/
def hear (src : Source α β) (s : Session α β) (c : Console) : List String → Session α β × Console
  | [] => (s, c)
  | line :: lines =>
      if s.follower.isFollowing then
        let (s, c) := learn src s c (Follower.line line)
        hear src s c lines
      else (s, c)

/-- Takes in an event; one that the session does not wait for changes nothing. -/
def after (src : Source α β) (s : Session α β) (c : Console) : ServerEvent → Session α β × Console
  | .page a =>
      match s.awaits, s.follower with
      | .page, .reading sofar => learn src s c (Follower.page sofar a)
      | _, _ => (s, c)
  | .opened => (if s.awaits = .stream then { s with streaming := true } else s, c)
  | .refused a => if s.awaits = .stream then hear src s c (textLines a.body) else (s, c)
  | .lines text => if s.awaits = .lines then hear src s c (textLines text) else (s, c)
  | .closed => ({ s with streaming := false }, c)

end Session

end LunConsole
