import LunConsole.Console.Run
import LunConsole.Proofs.Console.Move
import LunConsole.Proofs.GrowingLists
/-!
# What happens in a run

`Run.next?` looks up how far a request has come before it does anything, and `Run.ask` tells a
change of a role from everything else. Both are undone here once: an event *happens* with all that
had to hold for it (`Happens`, `Asked`), and what is to hold after every event is shown of each of
these cases (`happens_of_next?`).

Much of it does not depend on what a request asks for. A *step* leaves that out: of what is done at
once it says no more than that no role is touched, and of a planned call only that it was planned.
What is to hold of the requests of a run is shown of each step (`step_of_next?`). What is to hold of
its console needs less still: every step is a move of the console or none, so it is shown of each
move (`Leads.console_induction`).

The last section is about a request that is let alone: if it ends without a call, it comes to what
the console does of it at once (`play_of_ended`).
-/

set_option autoImplicit false

namespace LunConsole

namespace Run

open Console

/-! ## 1. Events -/

theorem requests_withRequest (r : Run) (id : Nat) (q : Request) (i : Nat) :
    (r.withRequest id q).requests[i]? = if id = i then some q else r.requests[i]? := by
  simp [withRequest, Std.ExtTreeMap.getElem?_insert]

theorem requests_without (r : Run) (id i : Nat) :
    (r.without id).requests[i]? = if id = i then none else r.requests[i]? := by
  simp [without, Std.ExtTreeMap.getElem?_erase]

/-- A request comes in: a change of a role is refused or claims its slot, everything else ends at
once or knows its call. -/
inductive Asked (r : Run) (id : Nat) : Action → Run → List RunOutput → Prop
  | taken {node : String} {enabled : Bool} (htaken : r.console.inFlight.contains node = true) :
      Asked r id (.toggleRole node enabled) r [.answered (.refused (.toggleInFlight node))]
  | claimed {node : String} {enabled : Bool} (hfree : r.console.inFlight.contains node = false) :
      Asked r id (.toggleRole node enabled)
        ((r.withConsole { r.console with inFlight := r.console.inFlight.insert node }).withRequest
          id (.claimed node enabled)) []
  | ended {action : Action} {c : Console} {answer : Answer}
      (hother : ∀ node enabled, action ≠ .toggleRole node enabled)
      (hperform : r.console.perform action = (c, .ended answer)) :
      Asked r id action (r.withConsole c) [.answered answer]
  | planned {action : Action} {c : Console} {call : Call}
      (hother : ∀ node enabled, action ≠ .toggleRole node enabled)
      (hperform : r.console.perform action = (c, .waits call)) :
      Asked r id action ((r.withConsole c).withRequest id (.ready call)) []

theorem asked_ask (r : Run) (id : Nat) (action : Action) :
    Asked r id action (r.ask id action).1 (r.ask id action).2 := by
  -- only a change of a role claims a slot; all else is left to `perform`
  rcases toggleRole_or_other action with ⟨node, enabled, rfl⟩ | hother
  · simp only [ask, claimSlot]
    split_ifs with htaken
    · exact .taken htaken
    · exact .claimed (eq_false_of_ne_true htaken)
  · rw [ask]
    · rcases hperform : r.console.perform action with ⟨c, answer | call⟩
      · exact .ended hother hperform
      · exact .planned hother hperform
    · exact hother

theorem Asked.ask_eq {r r' : Run} {id : Nat} {action : Action} {outputs : List RunOutput}
    (h : Asked r id action r' outputs) : r.ask id action = (r', outputs) := by
  cases h with
  | taken htaken => simp only [ask, claimSlot, htaken, if_true]
  | claimed hfree => simp only [ask, claimSlot, hfree, Bool.false_eq_true, if_false]
  | ended hother hperform =>
      rw [ask, hperform]
      exact hother
  | planned hother hperform =>
      rw [ask, hperform]
      exact hother

/-- An event happens: what had to hold for it, what it leaves, and what is seen of it. -/
inductive Happens (r : Run) : RunEvent → Run → List RunOutput → Prop
  | nodes (s : Snapshot StorageNode) :
      Happens r (.nodes s) (r.withConsole (r.console.applyNodes s)) []
  | discovery (s : Snapshot DiscoveryReport) :
      Happens r (.discovery s) (r.withConsole (r.console.applyDiscovery s)) []
  | disks (s : Snapshot LocalDisk) :
      Happens r (.disks s) (r.withConsole (r.console.applyDisks s)) []
  | tick (now : Instant) : Happens r (.tick now) (r.withConsole { r.console with clock := now }) []
  | ask {id : Nat} {action : Action} {r' : Run} {outputs : List RunOutput}
      (hnew : r.requests.contains id = false) (hasked : Asked r id action r' outputs) :
      Happens r (.ask id action) r' outputs
  | look {id : Nat} {node : String} {enabled : Bool}
      (hclaimed : r.requests[id]? = some (.claimed node enabled)) :
      Happens r (.look id) (r.look id node enabled) []
  | send {id : Nat} {call : Call} (hready : r.requests[id]? = some (.ready call)) :
      Happens r (.send id) (r.withRequest id (.waiting call)) [.called call]
  | settle {id : Nat} {t : SentToggle} {failure : Option ConsoleError}
      (hwaiting : r.requests[id]? = some (.waiting (.patchNode t))) :
      Happens r (.settle id failure) (r.settle id t failure) []
  | release {id : Nat} {node : String} {answer : Answer}
      (hsettled : r.requests[id]? = some (.settled node answer)) :
      Happens r (.release id) ((r.withConsole (r.console.releaseSlot node)).without id)
        [.answered answer]
  | abandon {id : Nat} {t : SentToggle}
      (hwaiting : r.requests[id]? = some (.waiting (.patchNode t))) :
      Happens r (.abandon id) (r.without id) []
  | filesystemReply {id : Nat} {name : String} {claim : FilesystemClaim}
      {reply : Except ConsoleError FilesystemClaim} {c : Console} {answer : Answer}
      (hwaiting : r.requests[id]? = some (.waiting (.createFilesystem name claim)))
      (hfinish : r.console.finish (.createFilesystem name claim) reply = (c, answer)) :
      Happens r (.filesystemReply id reply) ((r.withConsole c).without id) [.answered answer]
  | clusterReply {id : Nat} {cluster : Cluster} {reply : Except ConsoleError Cluster}
      {c : Console} {answer : Answer}
      (hwaiting : r.requests[id]? = some (.waiting (.createCluster cluster)))
      (hfinish : r.console.finish (.createCluster cluster) reply = (c, answer)) :
      Happens r (.clusterReply id reply) ((r.withConsole c).without id) [.answered answer]

/-- **Every event happens** in one of these ways: whatever is not looked up leaves no next state. -/
theorem happens_of_next? {r r' : Run} {e : RunEvent} {outputs : List RunOutput}
    (h : r.next? e = some (r', outputs)) : Happens r e r' outputs := by
  cases e with
  | nodes s =>
      cases h
      exact .nodes s
  | discovery s =>
      cases h
      exact .discovery s
  | disks s =>
      cases h
      exact .disks s
  | tick now =>
      cases h
      exact .tick now
  | ask id action =>
      simp only [next?] at h
      split_ifs at h with hnew
      have hasked := asked_ask r id action
      rw [Option.some.inj h] at hasked
      exact .ask (eq_false_of_ne_true hnew) hasked
  | look id =>
      simp only [next?] at h
      split at h
      · rename_i node enabled hclaimed
        cases h
        exact .look hclaimed
      · cases h
  | send id =>
      simp only [next?] at h
      split at h
      · rename_i call hready
        cases h
        exact .send hready
      · cases h
  | settle id failure =>
      simp only [next?] at h
      split at h
      · rename_i t hwaiting
        cases h
        exact .settle hwaiting
      · cases h
  | release id =>
      simp only [next?] at h
      split at h
      · rename_i node answer hsettled
        cases h
        exact .release hsettled
      · cases h
  | abandon id =>
      simp only [next?] at h
      split at h
      · rename_i t hwaiting
        cases h
        exact .abandon hwaiting
      · cases h
  | filesystemReply id reply =>
      simp only [next?] at h
      split at h
      · rename_i name claim hwaiting
        cases h
        exact .filesystemReply hwaiting rfl
      · cases h
  | clusterReply id reply =>
      simp only [next?] at h
      split at h
      · rename_i cluster hwaiting
        cases h
        exact .clusterReply hwaiting rfl
      · cases h

/-- The other way round: where all holds that has to, the event has a next state. -/
theorem Happens.next?_eq {r r' : Run} {e : RunEvent} {outputs : List RunOutput}
    (h : Happens r e r' outputs) : r.next? e = some (r', outputs) := by
  cases h with
  | nodes s => rfl
  | discovery s => rfl
  | disks s => rfl
  | tick now => rfl
  | ask hnew hasked => simp only [next?, hnew, Bool.false_eq_true, if_false, hasked.ask_eq]
  | look hclaimed => simp only [next?, hclaimed]
  | send hready => simp only [next?, hready]
  | settle hwaiting => simp only [next?, hwaiting]
  | release hsettled => simp only [next?, hsettled]
  | abandon hwaiting => simp only [next?, hwaiting]
  | filesystemReply hwaiting hfinish => simp only [next?, hwaiting, finish, hfinish]
  | clusterReply hwaiting hfinish => simp only [next?, hwaiting, finish, hfinish]

theorem new_of_next?_ask {r r' : Run} {id : Nat} {action : Action} {outputs : List RunOutput}
    (h : r.next? (.ask id action) = some (r', outputs)) : r.requests.contains id = false := by
  cases happens_of_next? h with
  | ask hnew hasked => exact hnew

theorem waiting_of_next?_settle {r r' : Run} {id : Nat} {failure : Option ConsoleError}
    {outputs : List RunOutput} (h : r.next? (.settle id failure) = some (r', outputs)) :
    ∃ t, r.requests[id]? = some (.waiting (.patchNode t)) := by
  cases happens_of_next? h with
  | settle hwaiting => exact ⟨_, hwaiting⟩

/-- A change that has been settled knows its answer. -/
theorem request_settle (r : Run) (id : Nat) (t : SentToggle) (failure : Option ConsoleError) :
    (r.settle id t failure).requests[id]?
      = some (.settled t.node (.toggled (r.console.settleToggle t failure).2)) := by
  rw [settle, requests_withRequest, if_pos rfl]

theorem next?_settle {r : Run} {id : Nat} {t : SentToggle}
    (hwaiting : r.requests[id]? = some (.waiting (.patchNode t))) (failure : Option ConsoleError) :
    r.next? (.settle id failure) = some (r.settle id t failure, []) :=
  (Happens.settle hwaiting).next?_eq

theorem next?_release {r : Run} {id : Nat} {node : String} {answer : Answer}
    (hsettled : r.requests[id]? = some (.settled node answer)) :
    r.next? (.release id)
      = some ((r.withConsole (r.console.releaseSlot node)).without id, [.answered answer]) :=
  (Happens.release hsettled).next?_eq

theorem settled_of_next?_release {r r' : Run} {id : Nat} {answer : Answer}
    (h : r.next? (.release id) = some (r', [.answered answer])) :
    ∃ node, r.requests[id]? = some (.settled node answer) := by
  cases happens_of_next? h with
  | release hsettled => exact ⟨_, hsettled⟩

/-! ## 2. Steps -/

/-- The event is the reply to a creation. -/
def isReply : RunEvent → Bool
  | .filesystemReply _ _ | .clusterReply _ _ => true
  | _ => false

/-- What an event does to a run. -/
inductive Step (r : Run) : RunEvent → Run → List RunOutput → Prop
  | nodes (s : Snapshot StorageNode) : Step r (.nodes s) (r.withConsole (r.console.applyNodes s)) []
  | discovery (s : Snapshot DiscoveryReport) :
      Step r (.discovery s) (r.withConsole (r.console.applyDiscovery s)) []
  | disks (s : Snapshot LocalDisk) : Step r (.disks s) (r.withConsole (r.console.applyDisks s)) []
  | tick (now : Instant) : Step r (.tick now) (r.withConsole { r.console with clock := now }) []
  /-- The slot of the node is taken. -/
  | refused {id : Nat} {node : String} {enabled : Bool} (hnew : r.requests.contains id = false)
      (htaken : r.console.inFlight.contains node = true) :
      Step r (.ask id (.toggleRole node enabled)) r [.answered (.refused (.toggleInFlight node))]
  | claimed {id : Nat} {node : String} {enabled : Bool} (hnew : r.requests.contains id = false)
      (hfree : r.console.inFlight.contains node = false) :
      Step r (.ask id (.toggleRole node enabled))
        ((r.withConsole { r.console with inFlight := r.console.inFlight.insert node }).withRequest
          id (.claimed node enabled)) []
  | done {id : Nat} {action : Action} {c : Console} {answer : Answer}
      (hnew : r.requests.contains id = false) (hidle : Idle r.console c) :
      Step r (.ask id action) (r.withConsole c) [.answered answer]
  | planned {id : Nat} {action : Action} {call : Call} (hnew : r.requests.contains id = false)
      (hplans : Plans r.console action call) :
      Step r (.ask id action) (r.withRequest id (.ready call)) []
  | looked {id : Nat} {node : String} {enabled : Bool} {c : Console} {start : ToggleStart}
      (hclaimed : r.requests[id]? = some (.claimed node enabled))
      (hbegin : r.console.beginToggle node enabled = (c, start))
      (hbegins : Begins r.console node enabled (c, start)) :
      Step r (.look id) ((r.withConsole c).withRequest id (afterLook node start)) []
  | sent {id : Nat} {call : Call} (hready : r.requests[id]? = some (.ready call)) :
      Step r (.send id) (r.withRequest id (.waiting call)) [.called call]
  | settled {id : Nat} {t : SentToggle} {failure : Option ConsoleError}
      (hwaiting : r.requests[id]? = some (.waiting (.patchNode t))) :
      Step r (.settle id failure) (r.settle id t failure) []
  | released {id : Nat} {node : String} {answer : Answer}
      (hsettled : r.requests[id]? = some (.settled node answer)) :
      Step r (.release id) ((r.withConsole (r.console.releaseSlot node)).without id)
        [.answered answer]
  | abandoned {id : Nat} {t : SentToggle}
      (hwaiting : r.requests[id]? = some (.waiting (.patchNode t))) :
      Step r (.abandon id) (r.without id) []
  /-- A creation ends. -/
  | finished {e : RunEvent} {id : Nat} {call : Call} {c : Console} {answer : Answer}
      (hreply : isReply e = true) (hcall : ∀ t, call ≠ .patchNode t)
      (hwaiting : r.requests[id]? = some (.waiting call)) (hidle : Idle r.console c) :
      Step r e ((r.withConsole c).without id) [.answered answer]

theorem Asked.step {r r' : Run} {id : Nat} {action : Action} {outputs : List RunOutput}
    (h : Asked r id action r' outputs) (hnew : r.requests.contains id = false) :
    Step r (.ask id action) r' outputs := by
  cases h with
  | taken htaken => exact .refused hnew htaken
  | claimed hfree => exact .claimed hnew hfree
  | ended hother hperform =>
      rcases r.console.perform_cases action hother with
        ⟨c', answer', hends, hidle⟩ | ⟨call, hwaits, hplans⟩
      · cases hperform.symm.trans hends
        exact .done hnew hidle
      · cases hperform.symm.trans hwaits
  | planned hother hperform =>
      rcases r.console.perform_cases action hother with
        ⟨c', answer, hends, hidle⟩ | ⟨call', hwaits, hplans⟩
      · cases hperform.symm.trans hends
      · cases hperform.symm.trans hwaits
        exact .planned hnew hplans

/-- **What happens is one of the steps.** -/
theorem step_of_next? {r r' : Run} {e : RunEvent} {outputs : List RunOutput}
    (h : r.next? e = some (r', outputs)) : Step r e r' outputs := by
  cases happens_of_next? h with
  | nodes s => exact .nodes s
  | discovery s => exact .discovery s
  | disks s => exact .disks s
  | tick now => exact .tick now
  | ask hnew hasked => exact hasked.step hnew
  | look hclaimed => exact .looked hclaimed rfl (begins_beginToggle _ _ _)
  | send hready => exact .sent hready
  | settle hwaiting => exact .settled hwaiting
  | release hsettled => exact .released hsettled
  | abandon hwaiting => exact .abandoned hwaiting
  | @filesystemReply id name claim reply c answer hwaiting hfinish =>
      have hidle := idle_finish_createFilesystem r.console name claim reply
      rw [hfinish] at hidle
      exact .finished rfl (by simp) hwaiting hidle
  | @clusterReply id cluster reply c answer hwaiting hfinish =>
      have hidle := idle_finish_createCluster r.console cluster reply
      rw [hfinish] at hidle
      exact .finished rfl (by simp) hwaiting hidle

/-- **An event moves the console** or leaves it as it is. -/
theorem Step.move {r r' : Run} {e : RunEvent} {outputs : List RunOutput}
    (h : Step r e r' outputs) : r'.console = r.console ∨ Move r.console r'.console := by
  cases h with
  | nodes s => exact .inr (.nodes _ _)
  | discovery s => exact .inr (.discovery _ _)
  | disks s => exact .inr (.disks _ _)
  | tick now => exact .inr (.tick _ _)
  | refused hnew htaken => exact .inl rfl
  | claimed hnew hfree => exact .inr (.slots _ _)
  | done hnew hidle => exact hidle.move
  | planned hnew hplans => exact .inl rfl
  | @looked id node enabled c start hclaimed hbegin hbegins =>
      have hmove := Move.beginToggle r.console node enabled
      rw [hbegin] at hmove
      exact .inr hmove
  | sent hready => exact .inl rfl
  | settled hwaiting => exact .inr (.settleToggle _ _ _)
  | released hsettled => exact .inr (.slots _ _)
  | abandoned hwaiting => exact .inl rfl
  | finished hreply hcall hwaiting hidle => exact hidle.move

/-! ## 3. Runs -/

section Runs

variable {config : Config} {clock : Instant} {history : List (RunEvent × List RunOutput)} {r : Run}

/-- **What a run keeps of its console**: what a new one has and every move keeps. -/
theorem Leads.console_induction {P : Console → Prop} (hnew : P (.new config clock))
    (hmove : ∀ c c', Move c c' → P c → P c') (h : Leads config clock history r) :
    P r.console := by
  induction h with
  | start => exact hnew
  | step _ hnext ih =>
      rcases (step_of_next? hnext).move with hsame | hmoved
      · rw [hsame]
        exact ih
      · exact hmove _ _ hmoved ih

/-- The last step of a run. -/
theorem Leads.last_step {e : RunEvent} {outputs : List RunOutput} {r' : Run}
    (h : Leads config clock (history ++ [(e, outputs)]) r') :
    ∃ r, Leads config clock history r ∧ r.next? e = some (r', outputs) := by
  -- a history grows at its end, so it is named before the cases are taken
  generalize hwhole : history ++ [(e, outputs)] = whole at h
  cases h with
  | start => simp at hwhole
  | step hleads hnext =>
      obtain ⟨rfl, hlast⟩ := List.append_inj' hwhole rfl
      cases hlast
      exact ⟨_, hleads, hnext⟩

/-- **What holds since an event**: what the event brings about and every further one keeps. -/
theorem Leads.since_induction {first : RunEvent × List RunOutput}
    {P : List (RunEvent × List RunOutput) → Run → Prop}
    (hfirst : ∀ r s, Leads config clock history r → r.next? first.1 = some (s, first.2) → P [] s)
    (hstep : ∀ later s e outputs s', Leads config clock (history ++ first :: later) s →
      s.next? e = some (s', outputs) → P later s → P (later ++ [(e, outputs)]) s')
    {later : List (RunEvent × List RunOutput)} {s : Run}
    (h : Leads config clock (history ++ first :: later) s) : P later s := by
  induction later using List.reverseRecOn generalizing s with
  | nil =>
      obtain ⟨r, hleads, hnext⟩ := h.last_step
      exact hfirst r s hleads hnext
  | append_singleton later x ih =>
      rw [← List.cons_append, ← List.append_assoc] at h
      obtain ⟨s₀, hleads, hnext⟩ := h.last_step
      exact hstep later s₀ x.1 x.2 s hleads hnext (ih hleads)

/-- The history of a run determines its state. -/
theorem Leads.unique {s : Run} (hr : Leads config clock history r)
    (hs : Leads config clock history s) : r = s := by
  induction hr generalizing s with
  | start =>
      generalize hnil : [] = whole at hs
      cases hs with
      | start => rfl
      | step _ _ => simp at hnil
  | step _ hnext ih =>
      obtain ⟨r₀, hleads, hnext'⟩ := hs.last_step
      rw [ih hleads, hnext'] at hnext
      cases hnext
      rfl

theorem Leads.config_eq (h : Leads config clock history r) : r.console.config = config := by
  refine Leads.console_induction (P := fun c => c.config = config) ?_ ?_ h
  · rw [Console.new, recompute_config]
  · intro c c' hmove hc
    rw [hmove.config_eq, hc]

/-- Of the events that count the last one was `e`, and it found the run in this state. -/
def LastAt (config : Config) (clock : Instant) (history : List (RunEvent × List RunOutput))
    (counts : RunEvent → Prop) (e : RunEvent) (r : Run) : Prop :=
  ∃ earlier outputs later, history = earlier ++ (e, outputs) :: later ∧
    Leads config clock earlier r ∧ counts e ∧ ∀ x ∈ later, ¬ counts x.1

section LastAt

variable {counts : RunEvent → Prop} {e e' : RunEvent} {outputs : List RunOutput}

theorem lastAt_self (h : Leads config clock history r) (he : counts e) :
    LastAt config clock (history ++ [(e, outputs)]) counts e r :=
  ⟨history, outputs, [], rfl, h, he, fun _ hx => absurd hx List.not_mem_nil⟩

theorem LastAt.later (h : LastAt config clock history counts e r) (he' : ¬ counts e') :
    LastAt config clock (history ++ [(e', outputs)]) counts e r := by
  obtain ⟨earlier, seen, later, rfl, hleads, he, hlater⟩ := h
  refine ⟨earlier, seen, later ++ [(e', outputs)], ?_, hleads, he, ?_⟩
  · rw [List.append_assoc, List.cons_append]
  · exact forall_mem_append_singleton.mpr ⟨hlater, he'⟩

/-- There is one last event only. -/
theorem LastAt.unique {s : Run} (hr : LastAt config clock history counts e r)
    (hs : LastAt config clock history counts e' s) : e = e' ∧ r = s := by
  obtain ⟨before, outs, after, rfl, hleads, he, hafter⟩ := hr
  obtain ⟨before', outs', after', hsplit, hleads', he', hafter'⟩ := hs
  -- if one came before the other, it would not be the last one
  rcases List.append_eq_append_iff.mp hsplit with ⟨mid, rfl, hmid⟩ | ⟨mid, rfl, hmid⟩
  · cases mid with
    | nil =>
        rw [List.append_nil] at hleads'
        cases hmid
        exact ⟨rfl, hleads.unique hleads'⟩
    | cons x mid =>
        obtain ⟨-, rfl⟩ := List.cons.inj hmid
        exact absurd he' (hafter _ (List.mem_append_right _ List.mem_cons_self))
  · cases mid with
    | nil =>
        rw [List.append_nil] at hleads
        cases hmid
        exact ⟨rfl, hleads.unique hleads'⟩
    | cons x mid =>
        obtain ⟨-, rfl⟩ := List.cons.inj hmid
        exact absurd he (hafter' _ (List.mem_append_right _ List.mem_cons_self))

theorem LastAt.reachable (h : LastAt config clock history counts e r) :
    Reachable config clock r := by
  obtain ⟨earlier, _, _, _, hleads, _⟩ := h
  exact ⟨earlier, hleads⟩

end LastAt

theorem play_of_next? {r r' : Run} {e : RunEvent} {outputs : List RunOutput}
    (h : r.next? e = some (r', outputs)) (es : List RunEvent) :
    (r.play (e :: es)).2 = (r'.play es).2 := by
  rw [Run.play, h]

theorem play_of_next?_none {r : Run} {e : RunEvent} (h : r.next? e = none)
    (es : List RunEvent) : (r.play (e :: es)).2 = (r.play es).2 := by
  rw [Run.play, h]

/-- What is played from a state that a run leads to continues that run. -/
theorem Leads.play (h : Leads config clock history r) (events : List RunEvent) :
    Leads config clock (history ++ (r.play events).1) (r.play events).2 := by
  induction events generalizing history r with
  | nil => rwa [Run.play, List.append_nil]
  | cons e es ih =>
      rw [Run.play]
      cases hnext : r.next? e with
      | none => exact ih h
      | some next =>
          obtain ⟨r', outputs⟩ := next
          have hrest := ih (.step h hnext)
          rwa [List.append_assoc, List.singleton_append] at hrest

/-- Nothing happens but what is played. -/
theorem mem_play {r : Run} {events : List RunEvent} {x : RunEvent × List RunOutput}
    (h : x ∈ (r.play events).1) : x.1 ∈ events := by
  induction events generalizing r with
  | nil => exact absurd h List.not_mem_nil
  | cons e es ih =>
      rw [Run.play] at h
      split at h
      · exact List.mem_cons_of_mem e (ih h)
      · rcases List.mem_cons.mp h with rfl | h
        · exact List.mem_cons_self
        · exact List.mem_cons_of_mem e (ih h)

theorem leads_play (config : Config) (clock : Instant) (events : List RunEvent) :
    Leads config clock ((start config clock).play events).1 ((start config clock).play events).2 :=
  Leads.start.play events

theorem reachable_play (config : Config) (clock : Instant) (events : List RunEvent) :
    Reachable config clock ((start config clock).play events).2 :=
  ⟨_, leads_play config clock events⟩

end Runs

/-! ## 4. Requests that nothing comes in between

Let alone, the steps of a request that ends without a call add up to what `perform` does at once. -/

section Alone

variable {r : Run} {id : Nat} {answer : Answer}

/-- A request that is answered when it comes in has nothing more to do. -/
theorem play_of_answered {r' : Run} {action : Action} (hnew : r.requests.contains id = false)
    (hasked : Asked r id action r' [.answered answer]) (hsame : r'.requests = r.requests) :
    r.play [.ask id action, .look id, .release id]
      = ([(.ask id action, [.answered answer])], r') := by
  have hnone : r'.requests[id]? = none := by
    rw [hsame]
    exact Std.ExtTreeMap.getElem?_eq_none_of_contains_eq_false hnew
  have hask := (Happens.ask hnew hasked).next?_eq
  have hlook : r'.next? (.look id) = none := by simp only [next?, hnone]
  have hrelease : r'.next? (.release id) = none := by simp only [next?, hnone]
  simp only [Run.play, hask, hlook, hrelease]

/-- A change that comes to its answer when it looks gives back the slot, and no trace of the request
is left. -/
theorem play_of_settled {node : String} {enabled : Bool} {d : Console} {start : ToggleStart}
    (hnew : r.requests.contains id = false) (hfree : r.console.inFlight.contains node = false)
    (hbegin : beginToggle { r.console with inFlight := r.console.inFlight.insert node } node enabled
      = (d, start))
    (hsettled : afterLook node start = .settled node answer) :
    r.play [.ask id (.toggleRole node enabled), .look id, .release id]
      = ([(.ask id (.toggleRole node enabled), []), (.look id, []),
          (.release id, [.answered answer])], r.withConsole (d.releaseSlot node)) := by
  let c : Console := { r.console with inFlight := r.console.inFlight.insert node }
  let claimed := (r.withConsole c).withRequest id (.claimed node enabled)
  let looked := (claimed.withConsole d).withRequest id (.settled node answer)
  have hlook : claimed.look id node enabled = looked := by
    have hfound : claimed.console.beginToggle node enabled = (d, start) := hbegin
    simp only [look, hfound, hsettled, looked]
  have hclaimed : claimed.requests[id]? = some (.claimed node enabled) :=
    (requests_withRequest _ _ _ _).trans (if_pos rfl)
  have hanswers : looked.requests[id]? = some (.settled node answer) :=
    (requests_withRequest _ _ _ _).trans (if_pos rfl)
  have hgone : (looked.withConsole (looked.console.releaseSlot node)).without id
      = r.withConsole (d.releaseSlot node) := by
    have hrequests : looked.requests.erase id = r.requests := by
      refine Std.ExtTreeMap.ext_getElem? fun k => ?_
      by_cases hk : id = k
      · subst hk
        rw [Std.ExtTreeMap.getElem?_eq_none_of_contains_eq_false hnew]
        simp
      · simp [looked, claimed, withRequest, withConsole, Std.ExtTreeMap.getElem?_erase,
          Std.ExtTreeMap.getElem?_insert, hk]
    rw [without, withConsole, hrequests]
    rfl
  have hasked : r.next? (.ask id (.toggleRole node enabled)) = some (claimed, []) :=
    (Happens.ask hnew (.claimed hfree)).next?_eq
  have hlooked := (Happens.look hclaimed).next?_eq
  have hreleased := next?_release hanswers
  rw [hlook] at hlooked
  rw [hgone] at hreleased
  simp only [Run.play, hasked, hlooked, hreleased]

/-- **What ends at once** does so in a run as well: it is answered alike, and comes to the same
console. -/
theorem play_of_ended {action : Action} {c : Console} (hnew : r.requests.contains id = false)
    (h : r.console.perform action = (c, .ended answer)) :
    (r.play [.ask id action, .look id, .release id]).2 = r.withConsole c ∧
      (r.play [.ask id action, .look id, .release id]).1.flatMap Prod.snd
        = [.answered answer] := by
  rcases toggleRole_or_other action with ⟨node, enabled, rfl⟩ | hother
  · cases hslot : r.console.inFlight.contains node with
    | true =>
        rw [perform_toggleRole_of_taken hslot] at h
        cases h
        rw [play_of_answered hnew (.taken hslot) rfl]
        exact ⟨rfl, rfl⟩
    | false =>
        obtain ⟨d, start, hbegin⟩ : ∃ d start, beginToggle
            { r.console with inFlight := r.console.inFlight.insert node } node enabled
              = (d, start) := ⟨_, _, rfl⟩
        rw [perform_toggleRole_of_free hslot hbegin] at h
        cases start with
        | refused e =>
            cases h
            rw [play_of_settled hnew hslot hbegin rfl]
            exact ⟨rfl, rfl⟩
        | unchanged role =>
            cases h
            rw [play_of_settled hnew hslot hbegin rfl]
            exact ⟨rfl, rfl⟩
        | sent t => cases h
  · rw [play_of_answered hnew (.ended hother h) rfl]
    exact ⟨rfl, rfl⟩

end Alone

end Run

end LunConsole
