import LunConsole.Proofs.Board
import LunConsole.Proofs.Console.Chronicle
import LunConsole.Proofs.Console.Derived
import Std.Data.String.ToNat
/-!
# What events tell the user

Alerts come from three sources, and the board keeps them in one list by their ids. A list that could
not be loaded is told of as long as its last snapshot carries an error. Missing requirements are
told of as long as the check fails. A failed change is told of in an alert of its own, numbered in
the order of the failures, until the user dismisses it.

An event tells of at most one thing (`Tells`, `told_of_next?`), and what it makes of the alert of
one id depends on the source of that id (`Tells.alert?_load` and its siblings), since the ids of the
three sources are apart. Bringing the derived parts up to date comes after it and concerns the id of
the requirements only (`alert?_review`).
-/

set_option autoImplicit false

namespace LunConsole

/-! ## 1. Ids -/

namespace Console

/-- The id of the alert about the failure of that number. -/
def mutationAlertId (i : Nat) : String := s!"mutation-{i}"

theorem mutationAlertId_injective {i j : Nat} (h : mutationAlertId i = mutationAlertId j) :
    i = j := by
  simpa [mutationAlertId, toString, Nat.repr_inj] using h

theorem loadAlertId_injective {l l' : WatchedList} (h : loadAlertId l = loadAlertId l') :
    l = l' := by
  cases l <;> cases l' <;> first | rfl | exact absurd h (by decide)

theorem loadAlertId_ne_requirementsAlertId (l : WatchedList) :
    loadAlertId l ≠ requirementsAlertId := by
  cases l <;> decide

/-- The ids of failed changes begin with another letter than those of lists. -/
theorem mutationAlertId_ne_loadAlertId (i : Nat) (l : WatchedList) :
    mutationAlertId i ≠ loadAlertId l := by
  intro h
  have hfirst := congrArg (fun s : String => s.toList.head?) h
  cases l <;> simp [mutationAlertId, loadAlertId, WatchedList.text, toString] at hfirst

/-- And they differ from that of the requirements in the second one. -/
theorem mutationAlertId_ne_requirementsAlertId (i : Nat) :
    mutationAlertId i ≠ requirementsAlertId := by
  intro h
  have hsecond := congrArg (fun s : String => s.toList.tail.head?) h
  simp [mutationAlertId, requirementsAlertId, toString] at hsecond

/-! ## 2. Alerts -/

/-- The alert about a list that could not be loaded. -/
def loadAlert (list : WatchedList) (error : String) (t : Instant) : Alert where
  id := loadAlertId list
  severity := .danger
  title := s!"Failed to load {list.text}"
  description := error
  dismissible := false
  raisedAt := t

/-- The alert about a check that failed. -/
def requirementsAlert (check : RequirementCheck) (t : Instant) : Alert where
  id := requirementsAlertId
  severity := .warning
  title := "Minimum requirements not met"
  description := check.message
  dismissible := false
  raisedAt := t

/-- What a snapshot tells of the list. -/
def loadEvent (c : Console) (list : WatchedList) : Option String → BoardEvent
  | some error => .raise (loadAlert list error c.clock)
  | none => .retract (loadAlertId list)

/-- It concerns the alert about that list only. -/
theorem effect_loadEvent (c : Console) (list : WatchedList) (error : Option String) (id : String)
    (known : Option Alert) :
    Board.effect id known (c.loadEvent list error)
      = if loadAlertId list = id then error.map (loadAlert list · c.clock) else known := by
  cases error with
  | none => rfl
  | some error => rfl

theorem trackLoad_board (c : Console) (list : WatchedList) (error : Option String) :
    (c.trackLoad list error).board = c.board.after (c.loadEvent list error) := by
  cases error with
  | none => rfl
  | some error => rfl

/-- What a check that is news tells of the requirements. -/
def requirementsEvent (c : Console) (check : RequirementCheck) : BoardEvent :=
  if check.passes then .retract requirementsAlertId else .raise (requirementsAlert check c.clock)

theorem effect_requirementsEvent (c : Console) (check : RequirementCheck) (id : String)
    (known : Option Alert) :
    Board.effect id known (c.requirementsEvent check)
      = if requirementsAlertId = id then
          if check.passes then none else some (requirementsAlert check c.clock)
        else known := by
  rw [requirementsEvent]
  by_cases hpasses : check.passes = true
  · rw [if_pos hpasses, if_pos hpasses]
    rfl
  · rw [if_neg hpasses, if_neg hpasses]
    rfl

theorem review_board (c : Console) (check : RequirementCheck) :
    (c.review check).board
      = if c.requirements = some check then c.board
        else (c.board.after (.setCta check.cta)).after (c.requirementsEvent check) := by
  rw [review, requirementsEvent, RequirementCheck.cta]
  by_cases hknown : c.requirements = some check
  · rw [if_pos hknown, if_pos hknown]
  · rw [if_neg hknown, if_neg hknown]
    by_cases hpasses : check.passes = true
    · simp only [hpasses, if_true]
      rfl
    · simp only [hpasses, Bool.false_eq_true, if_false]
      rfl

theorem distinct_review {c : Console} (hdistinct : c.board.Distinct) (check : RequirementCheck) :
    (c.review check).board.Distinct := by
  rw [review_board]
  split_ifs with hknown
  · exact hdistinct
  · exact (hdistinct.after _).after _

/-- A check that is news settles the alert about the requirements and touches no other one. -/
theorem alert?_review {c : Console} (hdistinct : c.board.Distinct) (check : RequirementCheck)
    (id : String) :
    (c.review check).board.alert? id
      = if requirementsAlertId = id ∧ c.requirements ≠ some check then
          if check.passes then none else some (requirementsAlert check c.clock)
        else c.board.alert? id := by
  rw [review_board]
  by_cases hknown : c.requirements = some check
  · rw [if_pos hknown, if_neg fun h => h.2 hknown]
  · rw [if_neg hknown, (hdistinct.after _).alert?_after, hdistinct.alert?_after,
      effect_requirementsEvent]
    simp only [hknown, ne_eq, not_false_eq_true, and_true]
    rfl

/-- The alerts, and what they depend on, are as they were. -/
structure SameAlerts (c c' : Console) : Prop where
  board : c'.board = c.board
  failures : c'.failures = c.failures
  requirements : c'.requirements = c.requirements

theorem SameAlerts.refl (c : Console) : SameAlerts c c := ⟨rfl, rfl, rfl⟩

end Console

/-- A change that failed: what was to be done, and why it was not. -/
structure Failure where
  title : String
  error : ConsoleError

/-- The alert about the failure of that number. -/
def Failure.alert (f : Failure) (i : Nat) (t : Instant) : Alert where
  id := Console.mutationAlertId i
  severity := .danger
  title := f.title
  description := f.error.message
  dismissible := true
  raisedAt := t

/-- Raising it concerns no other alert. -/
theorem Failure.effect_raise (f : Failure) (i : Nat) (t : Instant) (id : String)
    (known : Option Alert) :
    Board.effect id known (.raise (f.alert i t))
      = if Console.mutationAlertId i = id then some (f.alert i t) else known := rfl

namespace Console

/-- The console with a failure told at the end of its board, and numbered. -/
def told (c : Console) (f : Failure) : Console :=
  { c with
    board := { c.board with alerts := c.board.alerts ++ [f.alert c.failures c.clock] }
    failures := c.failures + 1 }

/-- A failure is told at the end, for its number is new. -/
theorem tellFailure_eq_told {c : Console}
    (hnew : ∀ a ∈ c.board.alerts, a.id ≠ mutationAlertId c.failures) (title : String)
    (e : ConsoleError) : c.tellFailure title e = c.told ⟨title, e⟩ := by
  have hraised : Board.raise (c.alert s!"mutation-{c.failures}" .danger title e.message)
      c.board.alerts = c.board.alerts ++ [Failure.alert ⟨title, e⟩ c.failures c.clock] :=
    Board.raise_of_new hnew
  rw [tellFailure, tell, Board.after, hraised, told]

/-- Dismissing is answered by whether there is an alert of that id that may go. -/
theorem canDismiss_iff {c : Console} {id : String} :
    c.canDismiss id = true ↔ ∃ a ∈ c.board.alerts, a.id = id ∧ a.dismissible = true := by
  rw [canDismiss, bne_iff_ne, ne_eq]
  refine (not_congr List.length_filter_eq_length_iff).trans ?_
  simp

end Console

/-! ## 3. What events tell -/

/-- For a snapshot of the list, the error that it carries. -/
def RunEvent.load? (list : WatchedList) : RunEvent → Option (Option String)
  | nodes s => if list = .nodes then some s.error else none
  | discovery s => if list = .discovery then some s.error else none
  | disks s => if list = .disks then some s.error else none
  | _ => none

/-- The id of the alert that the user dismisses. -/
def RunEvent.dismissed? : RunEvent → Option String
  | ask _ (.dismissAlert id) => some id
  | _ => none

namespace Run

open Console

/-- The failure that a request learns of with this event. -/
def failure? (r : Run) : RunEvent → Option Failure
  | .settle id (some e) =>
      match r.requests[id]? with
      | some (.waiting (.patchNode t)) =>
          some ⟨s!"Failed to update storage role of node {t.node}", e⟩
      | _ => none
  | .filesystemReply id (.error e) =>
      match r.requests[id]? with
      | some (.waiting (.createFilesystem name _)) =>
          some ⟨s!"Failed to create filesystem {name}", e⟩
      | _ => none
  | .clusterReply id (.error e) =>
      match r.requests[id]? with
      | some (.waiting (.createCluster _)) => some ⟨"Failed to create storage cluster", e⟩
      | _ => none
  | _ => none

/-- What an event tells of, before the derived parts are brought up to date. -/
inductive Tells (r : Run) (e : RunEvent) (c : Console) : Prop
  | load {list : WatchedList} {error : Option String}
      (hload : ∀ l, e.load? l = if l = list then some error else none)
      (hdismissed : e.dismissed? = none) (hfailure : r.failure? e = none)
      (hboard : c.board = r.console.board.after (r.console.loadEvent list error))
      (hfailures : c.failures = r.console.failures)
  | dismissal {id : String} (hload : ∀ l, e.load? l = none) (hdismissed : e.dismissed? = some id)
      (hfailure : r.failure? e = none) (hboard : c.board = r.console.board.after (.dismiss id))
      (hfailures : c.failures = r.console.failures)
  | failure {f : Failure} (hload : ∀ l, e.load? l = none) (hdismissed : e.dismissed? = none)
      (hfailure : r.failure? e = some f)
      (hboard : c.board
        = r.console.board.after (.raise (f.alert r.console.failures r.console.clock)))
      (hfailures : c.failures = r.console.failures + 1)
  | nothing (hload : ∀ l, e.load? l = none) (hdismissed : e.dismissed? = none)
      (hfailure : r.failure? e = none) (hboard : c.board = r.console.board)
      (hfailures : c.failures = r.console.failures)

/-- The console `c'` comes of what the event tells, brought up to date or not. -/
def Told (r : Run) (e : RunEvent) (c' : Console) : Prop :=
  ∃ c, (c' = c ∨ c' = c.recompute) ∧ c.requirements = r.console.requirements ∧ Tells r e c

variable {r r' : Run} {e : RunEvent}

/-- The event is none of those that the user is told of. -/
structure Silent (r : Run) (e : RunEvent) : Prop where
  load : ∀ l, e.load? l = none
  dismissed : e.dismissed? = none
  failure : r.failure? e = none

/-- Most events tell of nothing. -/
theorem told_of_silent {c c' : Console} (hsilent : Silent r e) (hc' : c' = c ∨ c' = c.recompute)
    (hsame : SameAlerts r.console c) : Told r e c' :=
  ⟨c, hc', hsame.requirements,
    .nothing hsilent.load hsilent.dismissed hsilent.failure hsame.board hsame.failures⟩

/-- A snapshot tells whether its list could be loaded. -/
theorem told_of_load (list : WatchedList) {error : Option String} {c : Console}
    (hload : ∀ l, e.load? l = if l = list then some error else none)
    (hdismissed : e.dismissed? = none) (hfailure : r.failure? e = none)
    (hsame : SameAlerts (r.console.trackLoad list error) c) : Told r e c.recompute := by
  refine ⟨c, .inr rfl, hsame.requirements.trans (trackLoad_requirements _ _ _), ?_⟩
  refine .load hload hdismissed hfailure ?_ (hsame.failures.trans (trackLoad_failures _ _ _))
  rw [hsame.board, trackLoad_board]

/-- A change that fails tells of its failure. -/
theorem told_of_failure {f : Failure} {c c' : Console} (hload : ∀ l, e.load? l = none)
    (hdismissed : e.dismissed? = none) (hfailure : r.failure? e = some f)
    (hc' : c' = c ∨ c' = c.recompute)
    (hsame : SameAlerts (r.console.tellFailure f.title f.error) c) : Told r e c' :=
  ⟨c, hc', hsame.requirements,
    .failure hload hdismissed hfailure hsame.board hsame.failures⟩

/-- Of what is asked for only a dismissal is told at once. -/
theorem Asked.told {id : Nat} {action : Action} {outputs : List RunOutput}
    (h : Asked r id action r' outputs) : Told r (.ask id action) r'.console := by
  have hsilent (hother : ∀ alert, action ≠ .dismissAlert alert) : Silent r (.ask id action) := by
    refine ⟨fun _ => rfl, ?_, rfl⟩
    cases action with
    | dismissAlert alert => exact absurd rfl (hother alert)
    | _ => rfl
  cases h with
  | taken htaken => exact told_of_silent (hsilent (by simp)) (.inl rfl) (.refl _)
  | claimed hfree => exact told_of_silent (hsilent (by simp)) (.inl rfl) ⟨rfl, rfl, rfl⟩
  | ended hother hperform =>
      cases action with
      | toggleRole node enabled => exact absurd rfl (hother node enabled)
      | dismissAlert alert =>
          cases hperform
          exact ⟨r.console.dismissAlert alert, .inl rfl, rfl,
            .dismissal (fun _ => rfl) rfl rfl rfl rfl⟩
      | selectLun wwn selected =>
          rw [perform] at hperform
          cases hselect : r.console.selectLun wwn selected with
          | error e =>
              rw [hselect] at hperform
              cases hperform
              exact told_of_silent (hsilent (by simp)) (.inl rfl) (.refl _)
          | ok c =>
              rw [hselect] at hperform
              cases hperform
              obtain ⟨-, rfl⟩ := selectLun_eq_ok hselect
              exact told_of_silent (hsilent (by simp)) (.inr rfl) ⟨rfl, rfl, rfl⟩
      | selectAllLuns selected =>
          cases hperform
          exact told_of_silent (hsilent (by simp)) (.inr rfl) ⟨rfl, rfl, rfl⟩
      | createFilesystem name =>
          rw [perform] at hperform
          cases hplan : r.console.planFilesystem name with
          | ok claim =>
              rw [hplan] at hperform
              cases hperform
          | error e =>
              rw [hplan] at hperform
              cases hperform
              exact told_of_silent (hsilent (by simp)) (.inl rfl) (.refl _)
      | createCluster =>
          rw [perform] at hperform
          cases hplan : r.console.planCluster with
          | ok cluster =>
              rw [hplan] at hperform
              cases hperform
          | error e =>
              rw [hplan] at hperform
              cases hperform
              exact told_of_silent (hsilent (by simp)) (.inl rfl) (.refl _)
  | planned hother hperform =>
      rcases r.console.perform_cases action hother with
        ⟨c', answer, hends, -⟩ | ⟨call, hwaits, hplans⟩
      · cases hperform.symm.trans hends
      · cases hperform.symm.trans hwaits
        refine told_of_silent (hsilent ?_) (.inl rfl) (.refl _)
        rintro alert rfl
        cases hplans

theorem told_look {id : Nat} {node : String} {enabled : Bool} {c' : Console} {start : ToggleStart}
    (h : Begins r.console node enabled (c', start)) : Told r (.look id) c' := by
  have hsilent : Silent r (.look id) := ⟨fun _ => rfl, rfl, rfl⟩
  cases h with
  | gone hrole hcached => exact told_of_silent hsilent (.inr rfl) ⟨rfl, rfl, rfl⟩
  | unknown hrole => exact told_of_silent hsilent (.inl rfl) (.refl _)
  | unchanged hrole hsettled hsame => exact told_of_silent hsilent (.inl rfl) (.refl _)
  | underway hrole hpending => exact told_of_silent hsilent (.inl rfl) (.refl _)
  | begun hrole hsettled hdiffers hcached =>
      exact told_of_silent hsilent (.inl rfl) ⟨rfl, rfl, rfl⟩

theorem told_settle {id : Nat} {t : SentToggle} {failure : Option ConsoleError}
    (hwaiting : r.requests[id]? = some (.waiting (.patchNode t))) :
    Told r (.settle id failure) (r.console.settleToggle t failure).1 := by
  cases failure with
  | none =>
      rw [settleToggle_applied]
      exact told_of_silent ⟨fun _ => rfl, rfl, rfl⟩ (.inr rfl) ⟨rfl, rfl, rfl⟩
  | some e =>
      have hfailure : r.failure? (.settle id (some e))
          = some ⟨s!"Failed to update storage role of node {t.node}", e⟩ := by
        simp only [failure?, hwaiting]
      rw [settleToggle_failed]
      exact told_of_failure (fun _ => rfl) rfl hfailure (.inr rfl) ⟨rfl, rfl, rfl⟩

/-- **Every event** tells of at most one thing. -/
theorem told_of_next? {outputs : List RunOutput} (h : r.next? e = some (r', outputs)) :
    Told r e r'.console := by
  cases happens_of_next? h with
  | nodes s => exact told_of_load .nodes (fun _ => rfl) rfl rfl ⟨rfl, rfl, rfl⟩
  | discovery s => exact told_of_load .discovery (fun _ => rfl) rfl rfl ⟨rfl, rfl, rfl⟩
  | disks s => exact told_of_load .disks (fun _ => rfl) rfl rfl ⟨rfl, rfl, rfl⟩
  | tick now => exact told_of_silent ⟨fun _ => rfl, rfl, rfl⟩ (.inl rfl) ⟨rfl, rfl, rfl⟩
  | ask hnew hasked => exact hasked.told
  | look hclaimed => exact told_look (begins_beginToggle _ _ _)
  | send hready => exact told_of_silent ⟨fun _ => rfl, rfl, rfl⟩ (.inl rfl) (.refl _)
  | settle hwaiting => exact told_settle hwaiting
  | release hsettled => exact told_of_silent ⟨fun _ => rfl, rfl, rfl⟩ (.inl rfl) ⟨rfl, rfl, rfl⟩
  | abandon hwaiting => exact told_of_silent ⟨fun _ => rfl, rfl, rfl⟩ (.inl rfl) (.refl _)
  | @filesystemReply id name claim reply c answer hwaiting hfinish =>
      cases reply with
      | ok claim =>
          cases hfinish
          exact told_of_silent ⟨fun _ => rfl, rfl, rfl⟩ (.inl rfl) (.refl _)
      | error e =>
          cases hfinish
          have hfailure : r.failure? (.filesystemReply id (.error e))
              = some ⟨s!"Failed to create filesystem {name}", e⟩ := by
            simp only [failure?, hwaiting]
          exact told_of_failure (fun _ => rfl) rfl hfailure (.inl rfl) (.refl _)
  | @clusterReply id cluster reply c answer hwaiting hfinish =>
      cases reply with
      | ok cluster =>
          cases hfinish
          exact told_of_silent ⟨fun _ => rfl, rfl, rfl⟩ (.inl rfl) (.refl _)
      | error e =>
          cases hfinish
          have hfailure : r.failure? (.clusterReply id (.error e))
              = some ⟨"Failed to create storage cluster", e⟩ := by
            simp only [failure?, hwaiting]
          exact told_of_failure (fun _ => rfl) rfl hfailure (.inl rfl) (.refl _)

/-! ## 4. What events make of the alert of one id -/

section Effects

variable {c : Console}

theorem Tells.distinct (h : Tells r e c) (hdistinct : r.console.board.Distinct) :
    c.board.Distinct := by
  cases h with
  | load hload hdismissed hfailure hboard hfailures => exact hboard ▸ hdistinct.after _
  | dismissal hload hdismissed hfailure hboard hfailures => exact hboard ▸ hdistinct.after _
  | failure hload hdismissed hfailure hboard hfailures => exact hboard ▸ hdistinct.after _
  | nothing hload hdismissed hfailure hboard hfailures => exact hboard ▸ hdistinct

/-- The user cannot dismiss that a list could not be loaded; only its next snapshot counts. -/
theorem Tells.alert?_load (h : Tells r e c) (hdistinct : r.console.board.Distinct)
    {l : WatchedList}
    (hsticky : ∀ a, r.console.board.alert? (loadAlertId l) = some a → a.dismissible = false) :
    c.board.alert? (loadAlertId l)
      = match e.load? l with
        | some error => error.map (loadAlert l · r.console.clock)
        | none => r.console.board.alert? (loadAlertId l) := by
  cases h with
  | @load list error hload hdismissed hfailure hboard hfailures =>
      rw [hboard, hdistinct.alert?_after, effect_loadEvent, hload]
      by_cases hl : l = list
      · subst hl
        rw [if_pos rfl, if_pos rfl]
      · rw [if_neg hl, if_neg fun hid => hl (loadAlertId_injective hid).symm]
  | @dismissal id hload hdismissed hfailure hboard hfailures =>
      rw [hboard, hdistinct.alert?_after, hload, Board.effect]
      split_ifs with hid
      · exact Board.filter_dismissible_eq_self hsticky
      · rfl
  | failure hload hdismissed hfailure hboard hfailures =>
      rw [hboard, hdistinct.alert?_after, hload, Failure.effect_raise,
        if_neg (mutationAlertId_ne_loadAlertId _ l)]
  | nothing hload hdismissed hfailure hboard hfailures => rw [hboard, hload]

/-- No event tells of the requirements; their alert waits for the next check. -/
theorem Tells.alert?_requirements (h : Tells r e c) (hdistinct : r.console.board.Distinct)
    (hsticky : ∀ a, r.console.board.alert? requirementsAlertId = some a →
      a.dismissible = false) :
    c.board.alert? requirementsAlertId = r.console.board.alert? requirementsAlertId := by
  cases h with
  | @load list error hload hdismissed hfailure hboard hfailures =>
      rw [hboard, hdistinct.alert?_after, effect_loadEvent,
        if_neg (loadAlertId_ne_requirementsAlertId list)]
  | @dismissal id hload hdismissed hfailure hboard hfailures =>
      rw [hboard, hdistinct.alert?_after, Board.effect]
      split_ifs with hid
      · exact Board.filter_dismissible_eq_self hsticky
      · rfl
  | failure hload hdismissed hfailure hboard hfailures =>
      rw [hboard, hdistinct.alert?_after, Failure.effect_raise,
        if_neg (mutationAlertId_ne_requirementsAlertId _)]
  | nothing hload hdismissed hfailure hboard hfailures => rw [hboard]

/-- Of a failed change the user is told once, in the alert of its number, which stays until it is
dismissed. -/
theorem Tells.alert?_mutation (h : Tells r e c) (hdistinct : r.console.board.Distinct) {i : Nat}
    (hmay : ∀ a, r.console.board.alert? (mutationAlertId i) = some a → a.dismissible = true) :
    c.board.alert? (mutationAlertId i)
      = if e.dismissed? = some (mutationAlertId i) then none
        else if i = r.console.failures then
          ((r.failure? e).map (Failure.alert · i r.console.clock)).or
            (r.console.board.alert? (mutationAlertId i))
        else r.console.board.alert? (mutationAlertId i) := by
  have hkept : none ≠ some (mutationAlertId i) := nofun
  cases h with
  | @load list error hload hdismissed hfailure hboard hfailures =>
      rw [hboard, hdistinct.alert?_after, effect_loadEvent, hdismissed, hfailure,
        if_neg (mutationAlertId_ne_loadAlertId i list).symm, if_neg hkept]
      simp only [Option.map_none, Option.none_or, ite_self]
  | @dismissal id hload hdismissed hfailure hboard hfailures =>
      rw [hboard, hdistinct.alert?_after, hdismissed, hfailure, Board.effect]
      simp only [Option.map_none, Option.none_or, ite_self, Option.some.injEq]
      split_ifs with hid
      · exact Option.filter_eq_none_iff.mpr fun a ha => by rw [hmay a ha]; simp
      · rfl
  | @failure f hload hdismissed hfailure hboard hfailures =>
      rw [hboard, hdistinct.alert?_after, Failure.effect_raise, hdismissed, hfailure,
        if_neg hkept]
      by_cases hi : i = r.console.failures
      · subst hi
        rw [if_pos rfl, if_pos rfl]
        rfl
      · rw [if_neg hi, if_neg fun hid => hi (mutationAlertId_injective hid).symm]
  | nothing hload hdismissed hfailure hboard hfailures =>
      rw [hboard, hdismissed, hfailure, if_neg hkept]
      simp only [Option.map_none, Option.none_or, ite_self]

/-- There are no other ids. -/
theorem Tells.alert?_other (h : Tells r e c) (hdistinct : r.console.board.Distinct) {id : String}
    (hload : ∀ l, loadAlertId l ≠ id) (hmutation : ∀ i, mutationAlertId i ≠ id)
    (hnone : r.console.board.alert? id = none) : c.board.alert? id = none := by
  cases h with
  | @load list error _ hdismissed hfailure hboard hfailures =>
      rw [hboard, hdistinct.alert?_after, effect_loadEvent, if_neg (hload list), hnone]
  | dismissal _ hdismissed hfailure hboard hfailures =>
      rw [hboard, hdistinct.alert?_after, hnone, Board.effect]
      exact ite_self _
  | failure _ hdismissed hfailure hboard hfailures =>
      rw [hboard, hdistinct.alert?_after, Failure.effect_raise, if_neg (hmutation _), hnone]
  | nothing _ hdismissed hfailure hboard hfailures => rw [hboard, hnone]

theorem Tells.failures_eq (h : Tells r e c) :
    c.failures = r.console.failures + (r.failure? e).toList.length := by
  cases h with
  | load hload hdismissed hfailure hboard hfailures => rw [hfailures, hfailure]; rfl
  | dismissal hload hdismissed hfailure hboard hfailures => rw [hfailures, hfailure]; rfl
  | failure hload hdismissed hfailure hboard hfailures => rw [hfailures, hfailure]; rfl
  | nothing hload hdismissed hfailure hboard hfailures => rw [hfailures, hfailure]; rfl

/-- Dismissing an alert is not a failure. -/
theorem Tells.failure?_of_dismissed (h : Tells r e c) {id : String}
    (hid : e.dismissed? = some id) : r.failure? e = none := by
  cases h with
  | load hload hdismissed hfailure hboard hfailures => exact hfailure
  | dismissal hload hdismissed hfailure hboard hfailures => exact hfailure
  | failure hload hdismissed hfailure hboard hfailures =>
      rw [hdismissed] at hid
      cases hid
  | nothing hload hdismissed hfailure hboard hfailures => exact hfailure

end Effects

end Run

end LunConsole
