import LunConsole.Console.Action
/-!
# Runs of a console

Between two steps of a request anything may happen to the console: snapshots come in, other
requests start, go on and end. A run is a console with the requests that are under way
(`Run`), each under a number of its own, and `Run.next?` says what one event does to it, what is
called and what is answered. An event happens at once; a request that takes several steps is
therefore divided into them, each an event of its own. `Run.Leads` collects the events of a run
from its start.

A request to change a role claims the slot of its node, looks at the state, sends its patch,
settles and releases the slot. A creation makes its plan, sends it and takes in the reply. Any
number of requests may be under way, also for the same node; that no two of them hold the same slot
is nothing the form of a run would see to.

A request to change a role may also be given up by whoever made it while it waits. Then nothing
more is done for it.
-/

set_option autoImplicit false

namespace LunConsole

/-- How far a request has come. -/
inductive Request where
  /-- It has claimed the slot of a node and has not looked at the state. -/
  | claimed (node : String) (enabled : Bool)
  /-- It knows the call that it is about to make. -/
  | ready (call : Call)
  /-- It has made the call and waits for the outcome. -/
  | waiting (call : Call)
  /-- It knows its answer and has not released the slot of the node. -/
  | settled (node : String) (answer : Answer)

/-- A console with the requests under way by their numbers. -/
structure Run where
  console : Console
  requests : Std.ExtTreeMap Nat Request

/-- What may happen. -/
inductive RunEvent where
  | nodes (s : Snapshot StorageNode)
  | discovery (s : Snapshot DiscoveryReport)
  | disks (s : Snapshot LocalDisk)
  /-- A request comes in and gets a number that no other one has. -/
  | ask (id : Nat) (action : Action)
  /-- A request that has claimed its slot looks at the state. -/
  | look (id : Nat)
  /-- A request makes its call. -/
  | send (id : Nat)
  /-- A request to change a role learns the outcome of its patch. -/
  | settle (id : Nat) (failure : Option ConsoleError)
  /-- It releases the slot of its node and answers. -/
  | release (id : Nat)
  /-- It is given up while it waits for the outcome. -/
  | abandon (id : Nat)
  /-- The creation of a filesystem or of the cluster ends. -/
  | filesystemReply (id : Nat) (reply : Except ConsoleError FilesystemClaim)
  | clusterReply (id : Nat) (reply : Except ConsoleError Cluster)
  /-- Time passes. -/
  | tick (now : Instant)

/-- What is seen of a run from outside. -/
inductive RunOutput where
  | called (call : Call)
  | answered (answer : Answer)

namespace Run

/-- A run that begins. -/
def start (config : Config) (clock : Instant) : Run := ⟨.new config clock, ∅⟩

/-- The run with another console. -/
def withConsole (r : Run) (c : Console) : Run := { r with console := c }

/-- The run with a request that has come so far. -/
def withRequest (r : Run) (id : Nat) (q : Request) : Run :=
  { r with requests := r.requests.insert id q }

/-- The run without a request that has ended. -/
def without (r : Run) (id : Nat) : Run := { r with requests := r.requests.erase id }

/-- A request comes in. One to change a role claims the slot of its node or is refused; every other
one ends at once or plans its call. -/
def ask (r : Run) (id : Nat) : Action → Run × List RunOutput
  | .toggleRole node enabled =>
      match r.console.claimSlot node with
      | none => (r, [.answered (.refused (.toggleInFlight node))])
      | some c => ((r.withConsole c).withRequest id (.claimed node enabled), [])
  | action =>
      match r.console.perform action with
      | (c, .ended answer) => (r.withConsole c, [.answered answer])
      | (c, .waits call) => ((r.withConsole c).withRequest id (.ready call), [])

/-- What a request to change a role does after it has looked at the state. -/
def afterLook (node : String) : ToggleStart → Request
  | .refused e => .settled node (.refused e)
  | .unchanged role => .settled node (.toggled (.unchanged role))
  | .sent t => .ready (.patchNode t)

/-- A request that holds its slot looks at the state. -/
def look (r : Run) (id : Nat) (node : String) (enabled : Bool) : Run :=
  let (c, start) := r.console.beginToggle node enabled
  (r.withConsole c).withRequest id (afterLook node start)

/-- A request learns the outcome of its patch. -/
def settle (r : Run) (id : Nat) (t : SentToggle) (failure : Option ConsoleError) : Run :=
  let (c, outcome) := r.console.settleToggle t failure
  (r.withConsole c).withRequest id (.settled t.node (.toggled outcome))

/-- A creation takes in the reply and answers. -/
def finish (r : Run) (id : Nat) (call : Call) (reply : Except ConsoleError call.Result) :
    Run × List RunOutput :=
  let (c, answer) := r.console.finish call reply
  ((r.withConsole c).without id, [.answered answer])

/-- What an event does; `none` if it cannot happen. -/
def next? (r : Run) : RunEvent → Option (Run × List RunOutput)
  | .nodes s => some (r.withConsole (r.console.applyNodes s), [])
  | .discovery s => some (r.withConsole (r.console.applyDiscovery s), [])
  | .disks s => some (r.withConsole (r.console.applyDisks s), [])
  | .ask id action => if r.requests.contains id then none else some (r.ask id action)
  | .look id =>
      match r.requests[id]? with
      | some (.claimed node enabled) => some (r.look id node enabled, [])
      | _ => none
  | .send id =>
      match r.requests[id]? with
      | some (.ready call) => some (r.withRequest id (.waiting call), [.called call])
      | _ => none
  | .settle id failure =>
      match r.requests[id]? with
      | some (.waiting (.patchNode t)) => some (r.settle id t failure, [])
      | _ => none
  | .release id =>
      match r.requests[id]? with
      | some (.settled node answer) =>
          some ((r.withConsole (r.console.releaseSlot node)).without id, [.answered answer])
      | _ => none
  | .abandon id =>
      match r.requests[id]? with
      -- neither the role nor the slot is put in order
      | some (.waiting (.patchNode _)) => some (r.without id, [])
      | _ => none
  | .filesystemReply id reply =>
      match r.requests[id]? with
      | some (.waiting (.createFilesystem name claim)) =>
          some (r.finish id (.createFilesystem name claim) reply)
      | _ => none
  | .clusterReply id reply =>
      match r.requests[id]? with
      | some (.waiting (.createCluster cluster)) =>
          some (r.finish id (.createCluster cluster) reply)
      | _ => none
  | .tick now => some (r.withConsole { r.console with clock := now }, [])

/-- The runs from a start, with their events and what was seen of each. -/
inductive Leads (config : Config) (clock : Instant) : List (RunEvent × List RunOutput) → Run → Prop
  | start : Leads config clock [] (start config clock)
  | step {history : List (RunEvent × List RunOutput)} {r r' : Run} {e : RunEvent}
      {outputs : List RunOutput} :
      Leads config clock history r → r.next? e = some (r', outputs) →
        Leads config clock (history ++ [(e, outputs)]) r'

/-- The states that a run may reach. -/
def Reachable (config : Config) (clock : Instant) (r : Run) : Prop :=
  ∃ history, Leads config clock history r

/-- Tries events one after the other, passing over those that cannot happen: what happened, and
the run after it. -/
def play (r : Run) : List RunEvent → List (RunEvent × List RunOutput) × Run
  | [] => ([], r)
  | e :: es =>
      match r.next? e with
      | none => play r es
      | some (r', outputs) => ((e, outputs) :: (play r' es).1, (play r' es).2)

end Run

end LunConsole
