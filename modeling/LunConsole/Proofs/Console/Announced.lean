import LunConsole.Proofs.Console.Alerts
/-!
# What the board says

The past of a run determines its board: of each list the last error (`loadError`), and of each
failure whether it has been dismissed since (`StandsFor`). The third source, the check of the
requirements, is part of the present state. The alert about it is raised or retracted only when the
check changes; it is right in between because it is sticky and its id is nobody else's.

The board is described id by id (`Announced`). What an event tells agrees with the past that the
event becomes part of (`Tells.announced`), bringing the derived parts up to date keeps it so, and in
the end the ids are put together again (`alerts_determined_by_past`).
-/

set_option autoImplicit false

namespace LunConsole

namespace Run

open Console

variable {r r' : Run} {e : RunEvent}

/-! ## 1. The past -/

/-- The failures of a run in their order. -/
def failures (past : List (Run × RunEvent)) : List Failure :=
  past.filterMap fun x => x.1.failure? x.2

/-- The error that the last snapshot of the list carried. -/
def loadError (past : List (Run × RunEvent)) (list : WatchedList) : Option String :=
  ((past.filterMap fun x => x.2.load? list).getLast?).join

/-- The alert is that of failure number `i`, and it has not been dismissed since. -/
def StandsFor (past : List (Run × RunEvent)) (i : Nat) (a : Alert) : Prop :=
  ∃ before r e f after, past = before ++ (r, e) :: after ∧ r.failure? e = some f ∧
    i = (failures before).length ∧ a = f.alert i r.console.clock ∧
    ∀ x ∈ after, x.2.dismissed? ≠ some (mutationAlertId i)

/-! ## 2. The past grows -/

section Past

variable {past : List (Run × RunEvent)}

theorem failures_append_singleton (past : List (Run × RunEvent)) (r : Run) (e : RunEvent) :
    failures (past ++ [(r, e)]) = failures past ++ (r.failure? e).toList := by
  rw [failures, List.filterMap_append]
  cases h : r.failure? e with
  | none => simp [failures, h]
  | some f => simp [failures, h]

theorem loadError_append_singleton (past : List (Run × RunEvent)) (r : Run) (e : RunEvent)
    (l : WatchedList) :
    loadError (past ++ [(r, e)]) l = (e.load? l).getD (loadError past l) := by
  rw [loadError, getLast?_filterMap_append_singleton]
  cases e.load? l with
  | none => rfl
  | some error => rfl

/-- A failure is told of by its own event and stands until it is dismissed. -/
theorem standsFor_append_singleton {i : Nat} {a : Alert} :
    StandsFor (past ++ [(r, e)]) i a ↔
      StandsFor past i a ∧ e.dismissed? ≠ some (mutationAlertId i) ∨
        ∃ f, r.failure? e = some f ∧ i = (failures past).length ∧
          a = f.alert i r.console.clock := by
  constructor
  · rintro ⟨before, r₁, e₁, f, after, hsplit, hf, hi, ha, hstands⟩
    rcases split_append_singleton hsplit with ⟨rfl, rfl, hlast⟩ | ⟨after', rfl, rfl⟩
    · cases hlast
      exact .inr ⟨f, hf, hi, ha⟩
    · obtain ⟨hbefore, hnow⟩ := forall_mem_append_singleton.mp hstands
      exact .inl ⟨⟨before, r₁, e₁, f, after', rfl, hf, hi, ha, hbefore⟩, hnow⟩
  · rintro (⟨⟨before, r₁, e₁, f, after, rfl, hf, hi, ha, hstands⟩, hdismissed⟩ | ⟨f, hf, hi, ha⟩)
    · refine ⟨before, r₁, e₁, f, after ++ [(r, e)], ?_, hf, hi, ha, ?_⟩
      · rw [List.append_assoc, List.cons_append]
      · exact forall_mem_append_singleton.mpr ⟨hstands, hdismissed⟩
    · exact ⟨past, r, e, f, [], rfl, hf, hi, ha, fun x hx => absurd hx List.not_mem_nil⟩

/-- Numbers are given in order, so what has one failed before now. -/
theorem StandsFor.lt {i : Nat} {a : Alert} (h : StandsFor past i a) :
    i < (failures past).length := by
  obtain ⟨before, r, e, f, after, rfl, hf, rfl, -, -⟩ := h
  rw [failures, failures, List.filterMap_append, List.filterMap_cons, hf, List.length_append,
    List.length_cons]
  omega

theorem StandsFor.dismissible {i : Nat} {a : Alert} (h : StandsFor past i a) :
    a.dismissible = true ∧ a.id = mutationAlertId i := by
  obtain ⟨before, r, e, f, after, -, -, -, rfl, -⟩ := h
  exact ⟨rfl, rfl⟩

end Past

/-! ## 3. What the board says -/

section Announced

variable {config : Config} {clock : Instant} {past : List (Run × RunEvent)} {c : Console}

/-- The board says of each id what the past has determined, and the failures are counted. -/
structure Announced (past : List (Run × RunEvent)) (c : Console) : Prop where
  distinct : c.board.Distinct
  count : c.failures = (failures past).length
  loads : ∀ l, ∃ t, c.board.alert? (loadAlertId l) = (loadError past l).map (loadAlert l · t)
  requirements : ∃ t, c.board.alert? requirementsAlertId
    = (c.requirements.filter fun check => !check.passes).map (requirementsAlert · t)
  mutations : ∀ i a, c.board.alert? (mutationAlertId i) = some a ↔ StandsFor past i a
  others : ∀ id, (∀ l, loadAlertId l ≠ id) → (∀ i, mutationAlertId i ≠ id) →
    requirementsAlertId ≠ id → c.board.alert? id = none

/-- Before anything has happened the board is empty. -/
theorem announced_nil (hboard : c.board = .empty) (hfailures : c.failures = 0)
    (hrequirements : c.requirements = none) : Announced [] c := by
  have hempty (id : String) : c.board.alert? id = none := by rw [hboard]; rfl
  constructor
  · rw [hboard]
    exact List.nodup_nil
  · exact hfailures
  · exact fun l => ⟨.epoch, hempty _⟩
  · refine ⟨.epoch, (hempty _).trans ?_⟩
    rw [hrequirements]
    rfl
  · intro i a
    rw [hempty]
    constructor
    · intro h
      cases h
    · rintro ⟨before, r, e, f, after, hsplit, -⟩
      exact absurd hsplit (by simp)
  · exact fun id _ _ _ => hempty id

/-- Bringing the derived parts up to date announces the check if it is news. -/
theorem Announced.recompute (h : Announced past c) : Announced past c.recompute := by
  have hboard : c.recompute.board
      = (c.refreshCandidates.review c.refreshCandidates.currentCheck).board := by rw [recompute_eq]
  have halert (id : String) := alert?_review (c := c.refreshCandidates) h.distinct
    c.refreshCandidates.currentCheck id
  have hother {id : String} (hid : requirementsAlertId ≠ id) :
      c.recompute.board.alert? id = c.board.alert? id := by
    rw [hboard, halert, if_neg fun hnews => hid hnews.1]
    rfl
  constructor
  · rw [hboard]
    exact distinct_review (c := c.refreshCandidates) h.distinct _
  · rw [← h.count, recompute_eq]
  · intro l
    rw [hother (loadAlertId_ne_requirementsAlertId l).symm]
    exact h.loads l
  · rw [hboard, halert, recompute_eq]
    by_cases hknown : c.requirements = some c.refreshCandidates.currentCheck
    · rw [if_neg fun hnews => hnews.2 hknown, ← hknown]
      exact h.requirements
    · refine ⟨c.clock, ?_⟩
      rw [if_pos ⟨rfl, hknown⟩]
      by_cases hpasses : c.refreshCandidates.currentCheck.passes = true
      · rw [if_pos hpasses, Option.filter_some, hpasses]
        rfl
      · rw [if_neg hpasses, Option.filter_some, eq_false_of_ne_true hpasses]
        rfl
  · intro i a
    rw [hother (mutationAlertId_ne_requirementsAlertId i).symm]
    exact h.mutations i a
  · intro id hload hmutation hrequirements
    rw [hother hrequirements]
    exact h.others id hload hmutation hrequirements

theorem Announced.sticky_load (h : Announced past c) (l : WatchedList) :
    ∀ a, c.board.alert? (loadAlertId l) = some a → a.dismissible = false := by
  intro a ha
  obtain ⟨t, hl⟩ := h.loads l
  rw [hl, Option.map_eq_some_iff] at ha
  obtain ⟨error, -, rfl⟩ := ha
  rfl

theorem Announced.sticky_requirements (h : Announced past c) :
    ∀ a, c.board.alert? requirementsAlertId = some a → a.dismissible = false := by
  intro a ha
  obtain ⟨t, hr⟩ := h.requirements
  rw [hr, Option.map_eq_some_iff] at ha
  obtain ⟨check, -, rfl⟩ := ha
  rfl

/-- **What an event tells** agrees with the past that it becomes part of. -/
theorem Tells.announced (htells : Tells r e c)
    (hrequirements : c.requirements = r.console.requirements) (h : Announced past r.console) :
    Announced (past ++ [(r, e)]) c := by
  constructor
  · exact htells.distinct h.distinct
  · rw [htells.failures_eq, h.count, failures_append_singleton, List.length_append]
  · intro l
    rw [htells.alert?_load h.distinct (h.sticky_load l), loadError_append_singleton]
    cases e.load? l with
    | none => exact h.loads l
    | some error => exact ⟨r.console.clock, rfl⟩
  · rw [htells.alert?_requirements h.distinct h.sticky_requirements, hrequirements]
    exact h.requirements
  · intro i a
    have hmay : ∀ a, r.console.board.alert? (mutationAlertId i) = some a → a.dismissible = true :=
      fun a ha => ((h.mutations i a).mp ha).dismissible.1
    rw [htells.alert?_mutation h.distinct hmay, standsFor_append_singleton, h.count]
    by_cases hdismissed : e.dismissed? = some (mutationAlertId i)
    · rw [if_pos hdismissed]
      simp [hdismissed, htells.failure?_of_dismissed hdismissed]
    · rw [if_neg hdismissed]
      by_cases hi : i = (failures past).length
      · -- the number is new, so nothing stands under it yet
        have hnew : r.console.board.alert? (mutationAlertId i) = none := by
          refine Option.eq_none_iff_forall_ne_some.mpr fun b hb => ?_
          have hlt := ((h.mutations i b).mp hb).lt
          omega
        have hnot : ¬ StandsFor past i a := fun hstands => absurd hstands.lt (by omega)
        rw [if_pos hi, hnew, Option.or_none, Option.map_eq_some_iff]
        constructor
        · rintro ⟨f, hf, rfl⟩
          exact .inr ⟨f, hf, hi, rfl⟩
        · rintro (⟨hstands, -⟩ | ⟨f, hf, -, rfl⟩)
          · exact absurd hstands hnot
          · exact ⟨f, hf, rfl⟩
      · rw [if_neg hi, h.mutations i a]
        constructor
        · exact fun hstands => .inl ⟨hstands, hdismissed⟩
        · rintro (⟨hstands, -⟩ | ⟨f, -, hi', -⟩)
          · exact hstands
          · exact absurd hi' hi
  · intro id hload hmutation hother
    exact htells.alert?_other h.distinct hload hmutation (h.others id hload hmutation hother)

theorem Chronicle.announced (h : Chronicle config clock past r) : Announced past r.console := by
  induction h with
  | start => exact (announced_nil rfl rfl rfl).recompute
  | step _ hnext ih =>
      obtain ⟨c, hc, hrequirements, htells⟩ := told_of_next? hnext
      have hannounced := htells.announced hrequirements ih
      rcases hc with hc | hc
      · exact hc ▸ hannounced
      · exact hc ▸ hannounced.recompute

theorem Announced.loadAlert_mem_iff (h : Announced past c) (l : WatchedList) (error : String) :
    (∃ t, loadAlert l error t ∈ c.board.alerts) ↔ loadError past l = some error := by
  obtain ⟨t, hl⟩ := h.loads l
  constructor
  · rintro ⟨t', hmem⟩
    rw [h.distinct.mem_iff] at hmem
    obtain ⟨error', herror, hsame⟩ := Option.map_eq_some_iff.mp (hl.symm.trans hmem)
    -- the description is the error itself
    have hdescription : error' = error := congrArg Alert.description hsame
    rw [herror, hdescription]
  · intro herror
    refine ⟨t, h.distinct.mem_iff.mpr (hl.trans ?_)⟩
    rw [herror, Option.map_some]

theorem Announced.requirementsAlert_mem_iff (h : Announced past c) {check : RequirementCheck}
    (hcheck : c.requirements = some check) :
    (∃ t, requirementsAlert check t ∈ c.board.alerts) ↔ check.passes = false := by
  obtain ⟨t, hr⟩ := h.requirements
  rw [hcheck, Option.filter_some] at hr
  cases hpasses : check.passes with
  | true =>
      rw [hpasses] at hr
      refine iff_of_false ?_ (by simp)
      rintro ⟨t', hmem⟩
      rw [h.distinct.mem_iff] at hmem
      cases hr.symm.trans hmem
  | false =>
      rw [hpasses] at hr
      exact iff_of_true ⟨t, h.distinct.mem_iff.mpr hr⟩ rfl

/-- An alert belongs to one of the three sources. -/
theorem Announced.source (h : Announced past c) {a : Alert} (ha : a ∈ c.board.alerts) :
    (∃ l, a.id = loadAlertId l) ∨ a.id = requirementsAlertId ∨ ∃ i, a.id = mutationAlertId i := by
  by_contra hnone
  push Not at hnone
  obtain ⟨hload, hrequirements, hmutation⟩ := hnone
  have habsent := h.others a.id (fun l => (hload l).symm) (fun i => (hmutation i).symm)
    hrequirements.symm
  rw [h.distinct.mem_iff.mp ha] at habsent
  cases habsent

/-- What the user cannot dismiss is about a list or about the requirements. -/
theorem Announced.sticky (h : Announced past c) {check : RequirementCheck}
    (hcheck : c.requirements = some check) {a : Alert} (ha : a ∈ c.board.alerts)
    (hsticky : a.dismissible = false) :
    (∃ l error t, a = loadAlert l error t) ∨ ∃ t, a = requirementsAlert check t := by
  have hfound := h.distinct.mem_iff.mp ha
  rcases h.source ha with ⟨l, hid⟩ | hid | ⟨i, hid⟩
  · obtain ⟨t, hl⟩ := h.loads l
    rw [hid, hl, Option.map_eq_some_iff] at hfound
    obtain ⟨error, -, rfl⟩ := hfound
    exact .inl ⟨l, error, t, rfl⟩
  · obtain ⟨t, hr⟩ := h.requirements
    rw [hid, hr, hcheck, Option.map_eq_some_iff] at hfound
    obtain ⟨known, hknown, rfl⟩ := hfound
    obtain rfl := Option.some.inj (Option.filter_eq_some_iff.mp hknown).1
    exact .inr ⟨t, rfl⟩
  · rw [hid, h.mutations] at hfound
    rw [hfound.dismissible.1] at hsticky
    cases hsticky

/-- What the user can dismiss is about a failure that has not been dismissed. -/
theorem Announced.dismissible_iff (h : Announced past c) (a : Alert) :
    a ∈ c.board.alerts ∧ a.dismissible = true ↔ ∃ i, StandsFor past i a := by
  constructor
  · rintro ⟨hmem, hdismissible⟩
    have hfound := h.distinct.mem_iff.mp hmem
    rcases h.source hmem with ⟨l, hid⟩ | hid | ⟨i, hid⟩
    · rw [h.sticky_load l a (hid ▸ hfound)] at hdismissible
      cases hdismissible
    · rw [h.sticky_requirements a (hid ▸ hfound)] at hdismissible
      cases hdismissible
    · exact ⟨i, (h.mutations i a).mp (hid ▸ hfound)⟩
  · rintro ⟨i, hstands⟩
    obtain ⟨hdismissible, hid⟩ := hstands.dismissible
    exact ⟨h.distinct.mem_iff.mpr (hid ▸ (h.mutations i a).mpr hstands), hdismissible⟩

/-- Only failures that have been counted have an alert. -/
theorem Announced.number_lt (h : Announced past c) {a : Alert} (ha : a ∈ c.board.alerts) {i : Nat}
    (hid : a.id = mutationAlertId i) : i < c.failures := by
  have hstands := (h.mutations i a).mp (hid ▸ h.distinct.mem_iff.mp ha)
  rw [h.count]
  exact hstands.lt

/-- The number of the next failure is on no alert. -/
theorem Announced.new_id (h : Announced past c) {a : Alert} (ha : a ∈ c.board.alerts) :
    a.id ≠ mutationAlertId c.failures :=
  fun hid => absurd (h.number_lt ha hid) (Nat.lt_irrefl _)

theorem Leads.new_id {config : Config} {clock : Instant}
    {history : List (RunEvent × List RunOutput)} (h : Leads config clock history r) :
    ∀ a ∈ r.console.board.alerts, a.id ≠ mutationAlertId r.console.failures := by
  obtain ⟨past, hpast, -⟩ := h.chronicle
  exact fun a ha => hpast.announced.new_id ha

/-- Of a new failure the user is told in an alert of its own, and no other one goes. -/
theorem Chronicle.failure_told (h : Chronicle config clock past r) {outputs : List RunOutput}
    (hnext : r.next? e = some (r', outputs)) {f : Failure} (hf : r.failure? e = some f) :
    (∀ a ∈ r.console.board.alerts, a.id ≠ mutationAlertId (failures past).length) ∧
      ∀ a, a.dismissible = true → (a ∈ r'.console.board.alerts ↔
        a ∈ r.console.board.alerts ∨ a = f.alert (failures past).length r.console.clock) := by
  have hnow := h.announced
  have hthen := (Chronicle.step h hnext).announced
  constructor
  · intro a ha
    rw [← hnow.count]
    exact hnow.new_id ha
  · intro a hdismissible
    have hnot : e.dismissed? = none := by
      obtain ⟨c, -, -, htells⟩ := told_of_next? hnext
      cases hdismissed : e.dismissed? with
      | none => rfl
      | some id =>
          rw [htells.failure?_of_dismissed hdismissed] at hf
          cases hf
    have hmem (c : Console) : a ∈ c.board.alerts ↔ a ∈ c.board.alerts ∧ a.dismissible = true := by
      rw [and_iff_left hdismissible]
    rw [hmem r'.console, hmem r.console, hthen.dismissible_iff, hnow.dismissible_iff]
    simp only [standsFor_append_singleton, hnot, hf, ne_eq, reduceCtorEq, not_false_eq_true,
      and_true, Option.some.injEq, exists_eq_left', exists_or, exists_eq_left]

end Announced

/-- Dismissing removes an alert that may go, and the answer tells whether there was one. -/
theorem dismissed_of_next? {q : Nat} {id : String} {outputs : List RunOutput}
    (hnext : r.next? (.ask q (.dismissAlert id)) = some (r', outputs)) :
    ∃ removed, outputs = [.answered (.dismissed removed)] ∧
      (∀ a, a ∈ r'.console.board.alerts ↔
        a ∈ r.console.board.alerts ∧ ¬ (a.id = id ∧ a.dismissible = true)) ∧
      (removed = true ↔ ∃ a ∈ r.console.board.alerts, a.id = id ∧ a.dismissible = true) := by
  cases happens_of_next? hnext with
  | ask hnew hasked =>
      cases hasked.ask_eq
      refine ⟨r.console.canDismiss id, rfl, fun a => ?_, canDismiss_iff⟩
      rw [not_and, Bool.not_eq_true]
      exact Board.mem_after_dismiss

/-- In every state of every run, whatever has happened:

* no two alerts have the same id;
* the alerts that the user cannot dismiss are one for each list whose last snapshot carried an
  error, with that error, and one about the requirements if the present check fails;
* those that the user can dismiss are one for each failure that has not been dismissed since,
  numbered in the order of the failures;
* a new failure gets an id that is not on the board, and no alert about an older one goes;
* the user dismisses the alert of an id if it may go and nothing else, and is told whether there
  was one. -/
theorem alerts_determined_by_past {config : Config} {clock : Instant}
    {past : List (Run × RunEvent)} (h : Chronicle config clock past r) :
    let alerts := r.console.board.alerts
    let check := config.requirements.check r.console.roles.selectedNodes.length
      r.console.candidates.luns.length
    (alerts.map Alert.id).Nodup ∧
    (∀ list error, (∃ t, loadAlert list error t ∈ alerts) ↔ loadError past list = some error) ∧
    ((∃ t, requirementsAlert check t ∈ alerts) ↔ check.passes = false) ∧
    (∀ a ∈ alerts, a.dismissible = false →
      (∃ list error t, a = loadAlert list error t) ∨ ∃ t, a = requirementsAlert check t) ∧
    (∀ a, a ∈ alerts ∧ a.dismissible = true ↔ ∃ i, StandsFor past i a) ∧
    (∀ e r' outputs f, r.next? e = some (r', outputs) → r.failure? e = some f →
      (∀ a ∈ alerts, a.id ≠ mutationAlertId (failures past).length) ∧
      ∀ a, a.dismissible = true → (a ∈ r'.console.board.alerts ↔
        a ∈ alerts ∨ a = f.alert (failures past).length r.console.clock)) ∧
    ∀ q id r' outputs, r.next? (.ask q (.dismissAlert id)) = some (r', outputs) →
      ∃ removed, outputs = [.answered (.dismissed removed)] ∧
        (∀ a, a ∈ r'.console.board.alerts ↔
          a ∈ alerts ∧ ¬ (a.id = id ∧ a.dismissible = true)) ∧
        (removed = true ↔ ∃ a ∈ alerts, a.id = id ∧ a.dismissible = true) := by
  intro alerts check
  have hannounced := h.announced
  have hcheck : r.console.requirements = some check := by
    rw [h.reachable.upToDate.requirements, Console.currentCheck, h.reachable.config_eq]
  refine ⟨hannounced.distinct, hannounced.loadAlert_mem_iff,
    hannounced.requirementsAlert_mem_iff hcheck, fun a => hannounced.sticky hcheck,
    hannounced.dismissible_iff, ?_, ?_⟩
  · exact fun e r' outputs f hnext hf => h.failure_told hnext hf
  · exact fun q id r' outputs hnext => dismissed_of_next? hnext

/-- Two changes of `a` fail, the first failure is dismissed, and the watch of the nodes breaks. -/
def twoFailures : List RunEvent :=
  let nodes := Snapshot.ofData [StorageNode.bearing Config.standard.storageRoleLabel "a" false]
  let failedChange (id : Nat) : List RunEvent :=
    [.ask id (.toggleRole "a" true), .look id, .send id, .settle id (some .noLunsSelected),
      .release id]
  .nodes nodes :: (failedChange 0 ++ failedChange 1 ++
    [.ask 2 (.dismissAlert "mutation-0"), .nodes (nodes.withError "gone")])

theorem alerts_determined_by_past_two_failures :
    ∃ past, Chronicle .standard .epoch past ((start .standard .epoch).play twoFailures).2 ∧
      loadError past .nodes = some "gone" ∧ ∃ i a, StandsFor past i a ∧ a.id = "mutation-1" := by
  have hpast := chronicle_play .standard .epoch twoFailures
  obtain ⟨-, hload, -, -, hdismissible, -⟩ := alerts_determined_by_past hpast
  refine ⟨_, hpast, (hload .nodes "gone").mp ⟨.epoch, by decide +kernel⟩, ?_⟩
  have hboard : ∃ a ∈ ((start .standard .epoch).play twoFailures).2.console.board.alerts,
      a.dismissible = true ∧ a.id = "mutation-1" := by decide +kernel
  obtain ⟨a, hmem, hmay, hid⟩ := hboard
  obtain ⟨i, hstands⟩ := (hdismissible a).mp ⟨hmem, hmay⟩
  exact ⟨i, a, hstands, hid⟩

end Run

end LunConsole
