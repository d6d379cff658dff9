import LunConsole.Proofs.Console.RolledBack
import LunConsole.Rest
/-!
# What is refused

An action is refused where there is nothing for it to do or something forbids it, and which refusal
an action gets can be read off the state (`Console.Refuses`). Most of them are given before anything
is done. Three are not: dismissing goes through the board whether or not there is an alert to
remove, a change of a role takes the slot of its node before it looks and gives it back, and a known
node without a copy would be dropped and everything derived brought up to date. The first two come
out as they began (`perform_of_refuses`). The third does not occur in a run, nor is a node pending
there whose slot is free (`refuses_of_perform`).

A refused change of a role takes three steps in a run, and others may come in between. Then it has
left things as they would be without it (`Leads.without_refused`). Creations touch the console only
if the server refuses them, and then by an alert.
-/

set_option autoImplicit false

namespace LunConsole

namespace Console

/-! ## 1. Refusals -/

/-- The refusal that an action gets in a state. -/
inductive Refuses (c : Console) : Action → Answer → Prop
  | lun {wwn : String} {selected : Bool} (h : wwn ∉ c.candidates.luns.map Lun.wwn) :
      Refuses c (.selectLun wwn selected) (.refused (.notFound "Lun" wwn))
  | alert {id : String} (h : ∀ a ∈ c.board.alerts, a.id = id → a.dismissible = false) :
      Refuses c (.dismissAlert id) (.dismissed false)
  | inFlight {n : String} {enabled : Bool} (h : c.inFlight.contains n = true) :
      Refuses c (.toggleRole n enabled) (.refused (.toggleInFlight n))
  | unknown {n : String} {enabled : Bool} (hfree : c.inFlight.contains n = false)
      (h : c.roles.role? n = none) :
      Refuses c (.toggleRole n enabled) (.refused (.nodeNotFound n))
  | unchanged {n : String} {enabled : Bool} {role : NodeRole}
      (hfree : c.inFlight.contains n = false) (h : c.roles.role? n = some role)
      (hsettled : role.isPending = false) (hsame : role.isSelected = enabled) :
      Refuses c (.toggleRole n enabled) (.toggled (.unchanged role))
  | name {name : String} {e : ConsoleError} (h : FilesystemClaim.validateName name = .error e) :
      Refuses c (.createFilesystem name) (.refused e)
  | noLuns {name : String} (hname : FilesystemClaim.validateName name = .ok ())
      (h : c.candidates.luns.selectedWwns = []) :
      Refuses c (.createFilesystem name) (.refused .noLunsSelected)
  | requirements (h : c.check.passes = false) :
      Refuses c .createCluster (.refused (.requirementsNotMet c.check.message))

variable {c c' : Console} {action : Action} {answer : Answer}

theorem Refuses.isRefusal (h : c.Refuses action answer) : answer.isRefusal = true := by
  cases h with
  | _ => rfl

/-- A board from which nothing can be dismissed under that id stays as it is. -/
theorem dismissAlert_eq {id : String}
    (h : ∀ a ∈ c.board.alerts, a.id = id → a.dismissible = false) : c.dismissAlert id = c := by
  have hkept : c.board.alerts.filter (fun a => a.id != id || !a.dismissible)
      = c.board.alerts := by
    refine List.filter_eq_self.mpr fun a ha => ?_
    by_cases hid : a.id = id
    · rw [h a ha hid, Bool.not_false, Bool.or_true]
    · rw [bne_iff_ne.mpr hid, Bool.true_or]
  rw [dismissAlert, tell, Board.after, hkept]

theorem canDismiss_eq_false {id : String} :
    c.canDismiss id = false ↔ ∀ a ∈ c.board.alerts, a.id = id → a.dismissible = false := by
  rw [Bool.eq_false_iff, ne_eq, canDismiss_iff]
  simp

/-- The slot of a node that was free is so again. -/
theorem releaseSlot_of_claimed {n : String} (hfree : c.inFlight.contains n = false) :
    releaseSlot { c with inFlight := c.inFlight.insert n } n = c := by
  simp only [releaseSlot, erase_insert_of_free hfree]

/-- A change of a role that is refused after it has taken the slot has looked and done nothing, and
gives the slot back. -/
theorem perform_toggleRole_of_refuses {n : String} {enabled : Bool}
    (h : c.Refuses (.toggleRole n enabled) answer) :
    c.perform (.toggleRole n enabled) = (c, .ended answer) := by
  cases h with
  | inFlight htaken => exact perform_toggleRole_of_taken htaken enabled
  | unknown hfree hrole =>
      have hbegin : beginToggle { c with inFlight := c.inFlight.insert n } n enabled
          = ({ c with inFlight := c.inFlight.insert n }, .refused (.nodeNotFound n)) := by
        simp only [beginToggle, hrole]
      rw [perform_toggleRole_of_free hfree hbegin]
      simp only [releaseSlot_of_claimed hfree]
  | @unchanged _ _ role hfree hrole hsettled hsame =>
      have hbegin : beginToggle { c with inFlight := c.inFlight.insert n } n enabled
          = ({ c with inFlight := c.inFlight.insert n }, .unchanged role) := by
        simp [beginToggle, hrole, hsettled, hsame]
      rw [perform_toggleRole_of_free hfree hbegin]
      simp only [releaseSlot_of_claimed hfree]

/-- **What is refused** has changed nothing. -/
theorem perform_of_refuses (h : c.Refuses action answer) :
    c.perform action = (c, .ended answer) := by
  cases action with
  | toggleRole n enabled => exact perform_toggleRole_of_refuses h
  | selectLun wwn selected =>
      cases h with
      | lun habsent => rw [perform, selectLun, if_neg (mt LunList.offers_iff.mp habsent)]
  | selectAllLuns selected => cases h
  | dismissAlert id =>
      cases h with
      | alert hsticky => rw [perform, dismissAlert_eq hsticky, canDismiss_eq_false.mpr hsticky]
  | createFilesystem name =>
      cases h with
      | name hname => rw [perform, planFilesystem_eq_error_iff.mpr (.inl hname)]
      | noLuns hname hnone =>
          rw [perform, planFilesystem_eq_error_iff.mpr (.inr ⟨hname, hnone, rfl⟩)]
  | createCluster =>
      cases h with
      | requirements hfails =>
          simp only [perform, planCluster, hfails, Bool.false_eq_true, if_false]

/-- A change of a role that is refused was to be refused, as long as settled nodes have a copy and
pending ones have their slot taken. -/
theorem refuses_of_perform_toggleRole {n : String} {enabled : Bool} (henrolled : c.Enrolled)
    (htaken : c.roles.IsPending n → c.inFlight.contains n = true)
    (h : c.perform (.toggleRole n enabled) = (c', .ended answer)) :
    c.Refuses (.toggleRole n enabled) answer := by
  cases hslot : c.inFlight.contains n with
  | true =>
      rw [perform_toggleRole_of_taken hslot] at h
      cases h
      exact .inFlight hslot
  | false =>
      have hbegins := begins_beginToggle { c with inFlight := c.inFlight.insert n } n enabled
      rcases hbegin : beginToggle { c with inFlight := c.inFlight.insert n } n enabled
        with ⟨c₁, start⟩
      rw [hbegin] at hbegins
      rw [perform_toggleRole_of_free hslot hbegin] at h
      have hsettled {role : NodeRole} (hrole : c.roles.role? n = some role) :
          role.isPending = false := by
        rw [Bool.eq_false_iff]
        intro hpending
        rw [htaken ⟨role, hrole, hpending⟩] at hslot
        cases hslot
      cases hbegins with
      | unknown hrole =>
          cases h
          exact .unknown hslot hrole
      | unchanged hrole hsettled' hsame =>
          cases h
          exact .unchanged hslot hrole hsettled' hsame
      | gone hrole hgone =>
          -- here the node would have been dropped
          obtain ⟨copy, hcopy⟩ := henrolled.cached_of_settled hrole (hsettled hrole)
          cases hgone.symm.trans hcopy
      | underway hrole hpending =>
          rw [hsettled hrole] at hpending
          cases hpending
      | begun hrole hsettled' hdiffers hcached => cases h

/-- **Whatever is refused** was to be refused. -/
theorem refuses_of_perform (henrolled : c.Enrolled)
    (htaken : ∀ n, c.roles.IsPending n → c.inFlight.contains n = true)
    (h : c.perform action = (c', .ended answer)) (hrefusal : answer.isRefusal = true) :
    c.Refuses action answer := by
  cases action with
  | toggleRole n enabled => exact refuses_of_perform_toggleRole henrolled (htaken n) h
  | selectLun wwn selected =>
      rw [perform, selectLun] at h
      by_cases hoffers : c.candidates.luns.offers wwn = true
      · rw [if_pos hoffers] at h
        cases h
        cases hrefusal
      · rw [if_neg hoffers] at h
        cases h
        exact .lun (mt LunList.offers_iff.mpr hoffers)
  | selectAllLuns selected =>
      cases h
      cases hrefusal
  | dismissAlert id =>
      cases hremoves : c.canDismiss id with
      | true =>
          rw [perform, hremoves] at h
          cases h
          cases hrefusal
      | false =>
          rw [perform, hremoves] at h
          cases h
          exact .alert (canDismiss_eq_false.mp hremoves)
  | createFilesystem name =>
      rw [perform] at h
      cases hplan : c.planFilesystem name with
      | ok claim =>
          rw [hplan] at h
          cases h
      | error e =>
          rw [hplan] at h
          cases h
          rcases planFilesystem_eq_error_iff.mp hplan with hname | ⟨hname, hnone, rfl⟩
          · exact .name hname
          · exact .noLuns hname hnone
  | createCluster =>
      rw [perform, planCluster] at h
      cases hpasses : c.check.passes with
      | true =>
          simp only [hpasses, if_true] at h
          cases h
      | false =>
          simp only [hpasses, Bool.false_eq_true, if_false] at h
          cases h
          exact .requirements hpasses

/-! ## 2. Creations -/

/-- What the user is told of a call that fails. -/
def failureTitle : Call → String
  | .patchNode t => s!"Failed to update storage role of node {t.node}"
  | .createFilesystem name _ => s!"Failed to create filesystem {name}"
  | .createCluster _ => "Failed to create storage cluster"

/-- A creation that is planned leaves the console alone. -/
theorem perform_of_plans {call : Call} (hcall : ∀ t, call ≠ .patchNode t)
    (h : c.perform action = (c', .waits call)) : c' = c := by
  rcases toggleRole_or_other action with ⟨n, enabled, rfl⟩ | hother
  · obtain ⟨t, ht⟩ := call_of_perform_toggleRole h
    exact absurd ht (hcall t)
  · rcases c.perform_cases action hother with ⟨_, _, hdone, -⟩ | ⟨_, hplanned, -⟩
    · cases hdone.symm.trans h
    · cases hplanned.symm.trans h
      rfl

/-- One that succeeds leaves it alone as well. -/
theorem finish_of_ok {call : Call} (hcall : ∀ t, call ≠ .patchNode t) (result : call.Result) :
    (c.finish call (.ok result)).1 = c := by
  cases call with
  | patchNode t => exact absurd rfl (hcall t)
  | createFilesystem name claim => rfl
  | createCluster cluster => rfl

/-- And one that the server refuses is told. -/
theorem finish_of_error (hnew : ∀ a ∈ c.board.alerts, a.id ≠ mutationAlertId c.failures)
    {call : Call} (hcall : ∀ t, call ≠ .patchNode t) (e : ConsoleError) :
    c.finish call (.error e) = (c.told ⟨failureTitle call, e⟩, .refused e) := by
  rw [← tellFailure_eq_told hnew]
  cases call with
  | patchNode t => exact absurd rfl (hcall t)
  | createFilesystem name claim => rfl
  | createCluster cluster => rfl

/-- A patch that has been sent is not refused any more. -/
theorem isRefusal_settleToggle (t : SentToggle) (failure : Option ConsoleError) :
    (Answer.toggled (c.settleToggle t failure).2).isRefusal = false := by
  cases failure with
  | none => rfl
  | some e => rfl

end Console

/-! ## 3. Runs -/

/-- Whether the event neither ends the request `id` nor asks for another change of the role of
`n`. -/
def RunEvent.keeps (id : Nat) (n : String) : RunEvent → Bool
  | ask _ (.toggleRole node _) => node != n
  | release i | abandon i => i != id
  | _ => true

/-- The answer that a request to change a role will give. -/
def Request.answer? : Request → Option Answer
  | settled _ answer => some answer
  | _ => none

namespace Run

open Console

variable {config : Config} {clock : Instant} {history between : List (RunEvent × List RunOutput)}
  {r r' s s' : Run} {e : RunEvent} {outputs : List RunOutput} {id : Nat} {n : String}
  {enabled : Bool} {action : Action} {answer : Answer}

/-- The answer that the request under this number will give. -/
def answer? (r : Run) (id : Nat) : Option Answer := r.requests[id]?.bind Request.answer?

theorem answer?_eq_some_iff :
    s.answer? id = some answer ↔ ∃ m, s.requests[id]? = some (.settled m answer) := by
  rw [answer?, Option.bind_eq_some_iff]
  constructor
  · rintro ⟨q, hq, hanswer⟩
    cases q with
    | settled m answer' =>
        cases hanswer
        exact ⟨m, hq⟩
    | claimed m target => cases hanswer
    | ready call => cases hanswer
    | waiting call => cases hanswer
  · rintro ⟨m, hsettled⟩
    exact ⟨_, hsettled, rfl⟩

/-- The events that are about a request to change a role which is there. -/
theorem own_of_stage {stage : Stage} (hstage : s.stage? id = some stage) (hown : e.id? = some id)
    (hnext : s.next? e = some (s', outputs)) :
    e = .look id ∨ e = .send id ∨ (∃ failure, e = .settle id failure) ∨ e = .release id ∨
      e = .abandon id := by
  cases happens_of_next? hnext with
  | nodes list => cases hown
  | discovery snapshot => cases hown
  | disks snapshot => cases hown
  | tick now => cases hown
  | ask hnew hasked =>
      cases hown
      rw [stage?_of_new s hnew] at hstage
      cases hstage
  | look hclaimed =>
      cases hown
      exact .inl rfl
  | send hready =>
      cases hown
      exact .inr (.inl rfl)
  | settle hwaiting =>
      cases hown
      exact .inr (.inr (.inl ⟨_, rfl⟩))
  | release hsettled =>
      cases hown
      exact .inr (.inr (.inr (.inl rfl)))
  | abandon hwaiting =>
      cases hown
      exact .inr (.inr (.inr (.inr rfl)))
  | filesystemReply hwaiting hfinish =>
      cases hown
      rw [stage?_of_request s hwaiting] at hstage
      cases hstage
  | clusterReply hwaiting hfinish =>
      cases hown
      rw [stage?_of_request s hwaiting] at hstage
      cases hstage

/-- A request that knows its answer keeps it until it ends. -/
theorem answer?_of_keeps (hanswer : s.answer? id = some answer) (hkeeps : e.keeps id n = true)
    (hnext : s.next? e = some (s', outputs)) : s'.answer? id = some answer := by
  obtain ⟨m, hsettled⟩ := answer?_eq_some_iff.mp hanswer
  by_cases hown : e.id? = some id
  · rcases own_of_stage (stage?_of_request s hsettled) hown hnext with
      rfl | rfl | ⟨failure, rfl⟩ | rfl | rfl
    · cases happens_of_next? hnext with
      | look hclaimed => simp [hsettled] at hclaimed
    · cases happens_of_next? hnext with
      | send hready => simp [hsettled] at hready
    · cases happens_of_next? hnext with
      | settle hwaiting => simp [hsettled] at hwaiting
    · simp [RunEvent.keeps] at hkeeps
    · simp [RunEvent.keeps] at hkeeps
  · rw [answer?, requests_of_next? hnext hown]
    exact hanswer

/-- A request that is kept is spared, unless the outcome of its patch comes in. -/
theorem spares_of_keeps {stage : Stage} (hstage : s.stage? id = some stage)
    (hkeeps : e.keeps id n = true) (hnext : s.next? e = some (s', outputs)) :
    e.spares id n = true ∨ ∃ answer, s'.answer? id = some answer ∧ answer.isRefusal = false := by
  by_cases hown : e.id? = some id
  · rcases own_of_stage hstage hown hnext with rfl | rfl | ⟨failure, rfl⟩ | rfl | rfl
    · exact .inl rfl
    · exact .inl rfl
    · cases happens_of_next? hnext with
      | @settle _ t _ hwaiting =>
          exact .inr ⟨_, answer?_eq_some_iff.mpr ⟨_, request_settle s id t failure⟩,
            isRefusal_settleToggle t failure⟩
    · simp [RunEvent.keeps] at hkeeps
    · simp [RunEvent.keeps] at hkeeps
  · left
    cases e with
    | ask i action =>
        have hi : i ≠ id := fun heq => hown (congrArg some heq)
        cases action with
        | toggleRole node target => simpa [RunEvent.spares, RunEvent.keeps, hi] using hkeeps
        | _ => simpa [RunEvent.spares] using hi
    | nodes list => rfl
    | discovery snapshot => rfl
    | disks snapshot => rfl
    | tick now => rfl
    | look i => rfl
    | send i => rfl
    | _ i =>
        have hi : i ≠ id := fun heq => hown (congrArg some heq)
        simpa [RunEvent.spares] using hi

/-- So a request that is kept has been spared, or its answer is no refusal. -/
theorem Leads.spares_of_keeps
    (h : Leads config clock (history ++ (.ask id (.toggleRole n enabled), []) :: between) s)
    (hkeeps : ∀ e ∈ between, e.1.keeps id n = true) :
    (∀ e ∈ between, e.1.spares id n = true) ∨
      ∃ answer, s.answer? id = some answer ∧ answer.isRefusal = false := by
  refine Leads.since_induction (P := fun between s => (∀ e ∈ between, e.1.keeps id n = true) →
    (∀ e ∈ between, e.1.spares id n = true) ∨
      ∃ answer, s.answer? id = some answer ∧ answer.isRefusal = false) ?_ ?_ h hkeeps
  · exact fun r s _ _ _ => .inl fun e he => absurd he List.not_mem_nil
  · intro between s e outputs s' hleads hnext ih hkeeps
    obtain ⟨hbefore, hlast⟩ := List.forall_mem_append.mp hkeeps
    have hlast : e.keeps id n = true := hlast _ (List.mem_singleton_self _)
    rcases ih hbefore with hspares | ⟨answer, hanswer, hdone⟩
    · obtain ⟨⟨stage, hstage⟩, -⟩ := hleads.patching_of_sent hspares
      refine (Run.spares_of_keeps hstage hlast hnext).imp_left fun hspared => ?_
      refine List.forall_mem_append.mpr ⟨hspares, fun x hx => ?_⟩
      rw [List.mem_singleton.mp hx]
      exact hspared
    · exact .inr ⟨answer, answer?_of_keeps hanswer hlast hnext, hdone⟩

/-- **A change of a role that was refused** made no call, and the run is what it would be without
it. -/
theorem Leads.without_refused
    (h : Leads config clock
      (history ++ (.ask id (.toggleRole n enabled), []) ::
        (between ++ [(.release id, [.answered answer])])) s)
    (hkeeps : ∀ e ∈ between, e.1.keeps id n = true) (hrefusal : answer.isRefusal = true) :
    (∀ e ∈ between, e.1 ≠ .send id) ∧ Leads config clock (history ++ othersIn id between) s := by
  rw [← List.cons_append, ← List.append_assoc] at h
  obtain ⟨s₀, hleads₀, hrelease⟩ := h.last_step
  obtain ⟨m, hsettled⟩ := settled_of_next?_release hrelease
  -- had the outcome of a patch come in, the answer would tell of that
  have hspares : ∀ e ∈ between, e.1.spares id n = true := by
    refine (hleads₀.spares_of_keeps hkeeps).resolve_right ?_
    rintro ⟨answer', hanswer, hdone⟩
    cases hanswer.symm.trans (answer?_eq_some_iff.mpr ⟨m, hsettled⟩)
    rw [hrefusal] at hdone
    cases hdone
  have hunpatched : ¬ ∃ t, s₀.stage? id = some (.patching t) := by
    rintro ⟨t, hpatching⟩
    rw [stage?_of_request s₀ hsettled] at hpatching
    cases hpatching
  refine ⟨fun e he hsend => ?_, ?_⟩
  · exact hunpatched ((hleads₀.patching_of_sent hspares).2 ⟨e, he, hsend⟩)
  · obtain ⟨r, x, y, q, hleads, hmore, hphase⟩ :=
      hleads₀.without_request hspares fun hpatching => absurd hpatching hunpatched
    have hq := hmore.request_self.symm.trans hsettled
    obtain rfl := Option.some.inj hq
    cases hphase with
    | patching hnode henabled hready => simp at hready
    | refused =>
        rw [next?_release hsettled] at hrelease
        cases hrelease
        rw [hmore.release_self]
        exact hleads

/-- In every state of every run:

* an action that is refused leaves the console as it was, and makes no call; which actions are
  refused and how is determined by the state;
* so it is if the action comes in over HTTP, and if it is asked for in a run and let alone, then the
  whole run is what it was;
* if others come in between the steps of a change of a role that is refused in the end, the run is
  what it would be without it;
* once a patch has been sent, the answer is no refusal any more;
* a creation that is planned or succeeds leaves the console as it was, and one that the server
  refuses leaves it so but for one alert at the end of the board and the number of the next one. -/
theorem refusals_change_nothing (h : Leads config clock history r) :
    (∀ action c answer, r.console.perform action = (c, .ended answer) → answer.isRefusal = true →
      c = r.console ∧ r.console.Refuses action answer) ∧
    (∀ action answer, r.console.Refuses action answer → answer.isRefusal = true ∧
      r.console.perform action = (r.console, .ended answer) ∧
      (∀ request, Rest.understand request = .ok (.action action) →
        Rest.handle r.console request
          = (r.console, .ended (Rest.respond r.console action answer))) ∧
      ∀ id, r.requests.contains id = false →
        (r.play [.ask id action, .look id, .release id]).2 = r ∧
        (r.play [.ask id action, .look id, .release id]).1.flatMap Prod.snd
          = [.answered answer]) ∧
    (∀ id n enabled between answer s,
      Leads config clock (history ++ (.ask id (.toggleRole n enabled), []) ::
        (between ++ [(.release id, [.answered answer])])) s →
      (∀ e ∈ between, e.1.keeps id n = true) → answer.isRefusal = true →
        (∀ e ∈ between, e.1 ≠ .send id) ∧
        Leads config clock (history ++ othersIn id between) s) ∧
    (∀ t reply, (r.console.finish (.patchNode t) reply).2.isRefusal = false) ∧
    (∀ action c call, r.console.perform action = (c, .waits call) →
      (∀ t, call ≠ .patchNode t) → c = r.console ∧
        ∀ request, Rest.understand request = .ok (.action action) →
          Rest.handle r.console request = (r.console, .waits action call)) ∧
    ∀ call, (∀ t, call ≠ .patchNode t) →
      (∀ result, (r.console.finish call (.ok result)).1 = r.console) ∧
      ∀ e, r.console.finish call (.error e)
        = (r.console.told ⟨failureTitle call, e⟩, .refused e) := by
  obtain ⟨past, hpast, -⟩ := h.chronicle
  refine ⟨fun action c answer hperform hrefusal => ?_, fun action answer hrefuses => ?_,
    fun id n enabled between answer s hleads hkeeps hrefusal =>
      hleads.without_refused hkeeps hrefusal,
    fun t reply => isRefusal_settleToggle t _, fun action c call hperform hcall => ?_,
    fun call hcall => ?_⟩
  · have hrefuses := refuses_of_perform h.enrolled (fun n => hpast.locked.taken_of_pending)
      hperform hrefusal
    refine ⟨?_, hrefuses⟩
    cases hperform.symm.trans (perform_of_refuses hrefuses)
    rfl
  · refine ⟨hrefuses.isRefusal, perform_of_refuses hrefuses, fun request hunderstood => ?_,
      fun id hnew => play_of_ended hnew (perform_of_refuses hrefuses)⟩
    simp only [Rest.handle, hunderstood, perform_of_refuses hrefuses]
  · obtain rfl := perform_of_plans hcall hperform
    refine ⟨rfl, fun request hunderstood => ?_⟩
    simp only [Rest.handle, hunderstood, hperform]
  · exact ⟨finish_of_ok hcall, finish_of_error h.new_id hcall⟩

/-- That `a` become a storage node is asked for. -/
def refusalAsked : Run := sampleRun.2.claim 0 "a" true

/-- Before the request looks, a change of `c` is asked for, and afterwards that one goes on. -/
def besidesRefusal : List RunEvent :=
  [.ask 1 (.toggleRole "c" true), .look 0, .look 1, .send 1]

/-- It is one already. Nor can a node be changed that is not there. -/
theorem refusals_change_nothing_beside_another :
    ∃ answer s,
      Leads .standard .epoch
        (sampleRun.1 ++ (.ask 0 (.toggleRole "a" true), []) ::
          ((refusalAsked.play besidesRefusal).1 ++ [(.release 0, [.answered answer])])) s ∧
      answer.isRefusal = true ∧
      Leads .standard .epoch (sampleRun.1 ++ othersIn 0 (refusalAsked.play besidesRefusal).1) s ∧
      sampleRun.2.console.perform (.toggleRole "d" true)
        = (sampleRun.2.console, .ended (.refused (.nodeNotFound "d"))) := by
  have hbefore : Leads .standard .epoch sampleRun.1 sampleRun.2 := leads_play _ _ _
  obtain ⟨hnew, hfree, hfree', hunknown⟩ : sampleRun.2.requests.contains 0 = false ∧
      sampleRun.2.console.inFlight.contains "a" = false ∧
      sampleRun.2.console.inFlight.contains "d" = false ∧
      sampleRun.2.console.roles.role? "d" = none := by decide +kernel
  have hask : sampleRun.2.next? (.ask 0 (.toggleRole "a" true)) = some (refusalAsked, []) :=
    next?_claim hnew hfree true
  obtain ⟨hrefused, hkeeps⟩ :
      ((refusalAsked.play besidesRefusal).2.answer? 0).any Answer.isRefusal = true ∧
        ∀ e ∈ (refusalAsked.play besidesRefusal).1, e.1.keeps 0 "a" = true := by decide +kernel
  obtain ⟨-, hanswered, hwithout, -⟩ := refusals_change_nothing hbefore
  obtain ⟨-, hperform, -⟩ := hanswered (.toggleRole "d" true) _ (.unknown hfree' hunknown)
  have hbetween := (Leads.step hbefore hask).play besidesRefusal
  generalize refusalAsked.play besidesRefusal = played at *
  obtain ⟨answer, hanswer, hrefusal⟩ := (Option.any_eq_true _ _).mp hrefused
  obtain ⟨m, hsettled⟩ := answer?_eq_some_iff.mp hanswer
  have hreleased := Leads.step hbetween (next?_release hsettled)
  rw [List.append_assoc, List.append_assoc, List.singleton_append] at hreleased
  obtain ⟨-, hother⟩ := hwithout 0 "a" true _ answer _ hreleased hkeeps hrefusal
  exact ⟨answer, _, hreleased, hrefusal, hother, hperform⟩

end Run

end LunConsole
