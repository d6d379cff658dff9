import LunConsole.Proofs.Board
import LunConsole.Proofs.GrowingLists
/-!
# What events make of a board

A board is the result of the events so far, and every question about it can be answered from them.
Which alerts stand on it is a matter of what was raised last under each id and what has come since
(`Board.Stands`). Whether a dismissal counts depends on the alert that it meets, and so on a board in
between: a sticky alert that is raised in the place of another cannot be dismissed any more, and the
other way round. The order of the alerts is that in which they came to stay
(`Board.BegunBefore`), for an alert that is raised again takes the place of the one before it, and
only one that was gone in between goes to the end.

Both are shown by going through the events from the first to the last. What one event does is said
twice, as far as each needs it: which alerts it leaves and brings (`Board.Distinct.mem_after_iff`),
and that it takes ids out of their row or adds one at the end, and never moves one
(`Board.ids_after`).
-/

set_option autoImplicit false

namespace LunConsole

/-- The event raises an alert of that id. -/
def BoardEvent.Raises (e : BoardEvent) (id : String) : Prop := ∃ a, e = .raise a ∧ a.id = id

/-- The action as an event sets it. -/
def BoardEvent.cta? : BoardEvent → Option CallToAction
  | .setCta cta => some cta
  | _ => none

namespace Board

variable {b : Board} {a : Alert} {e : BoardEvent} {es : List BoardEvent} {id : String}

/-! ## 1. One event -/

/-- There is an alert of that id. -/
def Shows (b : Board) (id : String) : Prop := id ∈ b.alerts.map Alert.id

/-- The event takes the alert of that id off the board: the condition behind it has cleared, or the
user dismisses it and may. -/
def TakesOff (b : Board) (id : String) (e : BoardEvent) : Prop :=
  e = .retract id ∨ e = .dismiss id ∧ ∃ a ∈ b.alerts, a.id = id ∧ a.dismissible = true

theorem takesOff_dismiss_iff : b.TakesOff id (.dismiss id) ↔
    ∃ a ∈ b.alerts, a.id = id ∧ a.dismissible = true := by
  simp [TakesOff]

/-- As long as ids are distinct, a dismissal meets the alert in question and no other. -/
theorem Distinct.takesOff_dismiss_iff (h : b.Distinct) (hfound : b.alert? id = some a) :
    b.TakesOff id (.dismiss id) ↔ a.dismissible = true := by
  rw [Board.takesOff_dismiss_iff]
  constructor
  · rintro ⟨c, hc, hid, hmay⟩
    have hsame : b.alert? id = some c := h.alert?_eq_some_iff.mpr ⟨hc, hid⟩
    rw [hfound] at hsame
    obtain rfl := Option.some.inj hsame
    exact hmay
  · intro hmay
    exact ⟨a, mem_of_alert? hfound, id_of_alert? hfound, hmay⟩

/-- **An event** brings the alert that it raises, and leaves those that it neither replaces nor
takes off. -/
theorem Distinct.mem_after_iff (h : b.Distinct) :
    a ∈ (b.after e).alerts ↔
      e = .raise a ∨ a ∈ b.alerts ∧ ¬ e.Raises a.id ∧ ¬ b.TakesOff a.id e := by
  rw [(h.after e).mem_iff, h.alert?_after, h.mem_iff]
  cases e with
  | raise c =>
      by_cases hid : c.id = a.id
      · simp [effect, hid, BoardEvent.Raises, TakesOff]
      · have hne : c ≠ a := fun hsame => hid (congrArg Alert.id hsame)
        simp [effect, hid, hne, BoardEvent.Raises, TakesOff]
  | setCta cta => simp [effect, BoardEvent.Raises, TakesOff]
  | retract id =>
      by_cases hid : id = a.id
      · simp [effect, hid, BoardEvent.Raises, TakesOff]
      · simp [effect, hid, BoardEvent.Raises, TakesOff]
  | dismiss id =>
      by_cases hid : id = a.id
      · subst hid
        have hraises : ¬ (BoardEvent.dismiss a.id).Raises a.id := by
          rintro ⟨c, hc, -⟩
          cases hc
        rw [effect, if_pos rfl, Option.filter_eq_some_iff]
        constructor
        · rintro ⟨hfound, hstays⟩
          refine .inr ⟨hfound, hraises, ?_⟩
          rw [h.takesOff_dismiss_iff hfound]
          simpa using hstays
        · rintro (hraise | ⟨hfound, -, hstays⟩)
          · cases hraise
          · rw [h.takesOff_dismiss_iff hfound] at hstays
            exact ⟨hfound, by simpa using hstays⟩
      · simp [effect, hid, BoardEvent.Raises, TakesOff]

/-- Raising an alert in the place of another leaves the row of ids as it is. -/
theorem ids_raise_of_mem {l : List Alert} (h : a.id ∈ l.map Alert.id) :
    (raise a l).map Alert.id = l.map Alert.id := by
  induction l with
  | nil => exact absurd h List.not_mem_nil
  | cons c cs ih =>
      rw [raise]
      split_ifs with hid
      · rw [List.map_cons, List.map_cons, hid]
      · rw [List.map_cons, List.mem_cons] at h
        have hrest : a.id ∈ cs.map Alert.id := h.resolve_left (Ne.symm hid)
        rw [List.map_cons, List.map_cons, ih hrest]

/-- **The row of ids** loses some, or gains one at its end that was not in it. -/
theorem ids_after (b : Board) (e : BoardEvent) :
    ((b.after e).alerts.map Alert.id).Sublist (b.alerts.map Alert.id) ∨
      ∃ id, ¬ b.Shows id ∧
        (b.after e).alerts.map Alert.id = b.alerts.map Alert.id ++ [id] := by
  cases e with
  | raise a =>
      by_cases hshown : b.Shows a.id
      · refine .inl ?_
        rw [Board.after, ids_raise_of_mem hshown]
      · refine .inr ⟨a.id, hshown, ?_⟩
        have hnew : ∀ c ∈ b.alerts, c.id ≠ a.id := by
          intro c hc hid
          rw [Shows, ← hid] at hshown
          exact hshown (List.mem_map_of_mem hc)
        rw [Board.after, raise_of_new hnew, List.map_append, List.map_singleton]
  | dismiss id => exact .inl (List.filter_sublist.map Alert.id)
  | retract id => exact .inl (List.filter_sublist.map Alert.id)
  | setCta cta => exact .inl (List.Sublist.refl _)

/-! ## 2. One event after the other -/

/-- The board after events one after the other. -/
def afterAll (b : Board) (es : List BoardEvent) : Board := es.foldl after b

theorem afterAll_append_singleton (b : Board) (es : List BoardEvent) (e : BoardEvent) :
    b.afterAll (es ++ [e]) = (b.afterAll es).after e := by
  rw [afterAll, List.foldl_append, List.foldl_cons, List.foldl_nil, afterAll]

theorem Distinct.afterAll (h : b.Distinct) (es : List BoardEvent) : (b.afterAll es).Distinct := by
  induction es using List.reverseRecOn with
  | nil => exact h
  | append_singleton es e ih =>
      rw [afterAll_append_singleton]
      exact ih.after e

/-- The last action that was set, or the one at the start. -/
theorem cta_afterAll (b : Board) (es : List BoardEvent) :
    (b.afterAll es).cta = (es.filterMap BoardEvent.cta?).getLast?.getD b.cta := by
  induction es using List.reverseRecOn with
  | nil => rfl
  | append_singleton es e ih =>
      rw [afterAll_append_singleton, getLast?_filterMap_append_singleton]
      cases e with
      | setCta cta => rfl
      | raise a => exact ih
      | dismiss id => exact ih
      | retract id => exact ih

/-! ## 3. Which alerts there are -/

/-- The id was given this alert: it stood there at the start, or the last of the events raised it. -/
def Given (b : Board) (before : List BoardEvent) (a : Alert) : Prop :=
  before = [] ∧ a ∈ b.alerts ∨ ∃ earlier, before = earlier ++ [.raise a]

/-- The alert was given to its id, and no event since has replaced it or taken it off the board. -/
def Stands (b : Board) (es : List BoardEvent) (a : Alert) : Prop :=
  ∃ before since, es = before ++ since ∧ Given b before a ∧
    ∀ earlier e later, since = earlier ++ e :: later →
      ¬ e.Raises a.id ∧ ¬ (b.afterAll (before ++ earlier)).TakesOff a.id e

theorem stands_nil : Stands b [] a ↔ a ∈ b.alerts := by
  constructor
  · rintro ⟨before, since, hsplit, ⟨-, hknown⟩ | ⟨earlier, rfl⟩, -⟩
    · exact hknown
    · exact absurd hsplit (by simp)
  · intro hknown
    refine ⟨[], [], rfl, .inl ⟨rfl, hknown⟩, ?_⟩
    intro earlier e later hsplit
    exact absurd hsplit (by simp)

/-- One event more gives the alert itself, or lets it stand. -/
theorem stands_append_singleton :
    Stands b (es ++ [e]) a ↔
      e = .raise a ∨ Stands b es a ∧ ¬ e.Raises a.id ∧ ¬ (b.afterAll es).TakesOff a.id e := by
  constructor
  · rintro ⟨before, since, hsplit, hgiven, hkept⟩
    rcases List.eq_nil_or_concat' since with rfl | ⟨since, x, rfl⟩
    · -- it was given by the last event, for something has happened
      rw [List.append_nil] at hsplit
      rcases hgiven with ⟨rfl, -⟩ | ⟨earlier, rfl⟩
      · exact absurd hsplit (by simp)
      · exact .inl (List.singleton_inj.mp (List.append_inj' hsplit rfl).2)
    · rw [← List.append_assoc] at hsplit
      obtain ⟨rfl, hlast⟩ := List.append_inj' hsplit rfl
      obtain rfl := List.singleton_inj.mp hlast
      refine .inr ⟨⟨before, since, rfl, hgiven, ?_⟩, hkept since e [] rfl⟩
      rintro earlier x later rfl
      exact hkept earlier x (later ++ [e]) (by simp)
  · rintro (rfl | ⟨⟨before, since, rfl, hgiven, hkept⟩, hlast⟩)
    · refine ⟨es ++ [.raise a], [], (List.append_nil _).symm, .inr ⟨es, rfl⟩, ?_⟩
      intro earlier e later hsplit
      exact absurd hsplit (by simp)
    · refine ⟨before, since ++ [e], List.append_assoc _ _ _, hgiven, ?_⟩
      intro earlier x later hsplit
      rcases split_append_singleton hsplit with ⟨-, rfl, rfl⟩ | ⟨later, rfl, hsince⟩
      · exact hlast
      · exact hkept earlier x later hsince

/-- **The alerts on the board** are those that stand. -/
theorem Distinct.mem_afterAll_iff (h : b.Distinct) :
    a ∈ (b.afterAll es).alerts ↔ Stands b es a := by
  induction es using List.reverseRecOn generalizing a with
  | nil => exact stands_nil.symm
  | append_singleton es e ih =>
      rw [afterAll_append_singleton, (h.afterAll es).mem_after_iff, ih, stands_append_singleton]

/-! ## 4. In which order they stand -/

/-- Since the first `k` events there has been an alert of that id without a break, and before the
last of those there was none. -/
structure ShownSince (b : Board) (es : List BoardEvent) (id : String) (k : Nat) : Prop where
  le : k ≤ es.length
  shown : ∀ j, k ≤ j → j ≤ es.length → (b.afterAll (es.take j)).Shows id
  begun : ∀ j, j + 1 = k → ¬ (b.afterAll (es.take j)).Shows id

/-- Both ids have alerts, and the presence of the first began before that of the second: with an
earlier event, or at the start, where the first stood before the second. -/
def BegunBefore (b : Board) (es : List BoardEvent) (id id' : String) : Prop :=
  ∃ k l, ShownSince b es id k ∧ ShownSince b es id' l ∧
    (k < l ∨ k = 0 ∧ l = 0 ∧ [id, id'].Sublist (b.alerts.map Alert.id))

/-- There is one moment only since when an alert has been there without a break. -/
theorem ShownSince.unique {k l : Nat} (h : ShownSince b es id k) (h' : ShownSince b es id l) :
    k = l := by
  by_contra hne
  rcases Nat.lt_or_gt_of_ne hne with hlt | hlt
  · have hbefore := h'.begun (l - 1) (by omega)
    exact hbefore (h.shown (l - 1) (by omega) (by have := h'.le; omega))
  · have hbefore := h.begun (k - 1) (by omega)
    exact hbefore (h'.shown (k - 1) (by omega) (by have := h.le; omega))

theorem shownSince_nil (h : b.Shows id) : ShownSince b [] id 0 := by
  refine ⟨Nat.le_refl _, fun j _ _ => ?_, fun j hj => absurd hj (Nat.succ_ne_zero j)⟩
  rw [List.take_nil]
  exact h

/-- What is still there has been there since the same moment. -/
theorem ShownSince.append {k : Nat} (h : ShownSince b es id k)
    (hstill : (b.afterAll (es ++ [e])).Shows id) : ShownSince b (es ++ [e]) id k := by
  have hle := h.le
  constructor
  · rw [List.length_append]
    omega
  · intro j hkj hj
    rw [List.length_append, List.length_singleton] at hj
    rcases Nat.lt_or_eq_of_le hj with hlt | rfl
    · rw [List.take_append_of_le_length (by omega)]
      exact h.shown j hkj (by omega)
    · rw [List.take_of_length_le (by simp)]
      exact hstill
  · intro j hj
    rw [List.take_append_of_le_length (by omega)]
    exact h.begun j hj

/-- What was not there before the last event has been there since that event. -/
theorem shownSince_append_singleton (hnew : ¬ (b.afterAll es).Shows id)
    (hshown : (b.afterAll (es ++ [e])).Shows id) :
    ShownSince b (es ++ [e]) id (es.length + 1) := by
  constructor
  · simp
  · intro j hj hle
    rw [List.take_of_length_le (by simp; omega)]
    exact hshown
  · intro j hj
    obtain rfl : j = es.length := by omega
    rw [List.take_left]
    exact hnew

theorem exists_shownSince (h : (b.afterAll es).Shows id) : ∃ k, ShownSince b es id k := by
  induction es using List.reverseRecOn with
  | nil => exact ⟨0, shownSince_nil h⟩
  | append_singleton es e ih =>
      by_cases hbefore : (b.afterAll es).Shows id
      · obtain ⟨k, hk⟩ := ih hbefore
        exact ⟨k, hk.append h⟩
      · exact ⟨_, shownSince_append_singleton hbefore h⟩

theorem BegunBefore.append {id' : String} (h : BegunBefore b es id id')
    (hid : (b.afterAll (es ++ [e])).Shows id) (hid' : (b.afterAll (es ++ [e])).Shows id') :
    BegunBefore b (es ++ [e]) id id' := by
  obtain ⟨k, l, hk, hl, horder⟩ := h
  exact ⟨k, l, hk.append hid, hl.append hid', horder⟩

/-- **The row of ids** is in the order in which their alerts came to stay. Those that an event leaves
keep their order, and one that it adds stands behind all that were there before it. -/
theorem pairwise_begunBefore (b : Board) (es : List BoardEvent) :
    ((b.afterAll es).alerts.map Alert.id).Pairwise (BegunBefore b es) := by
  induction es using List.reverseRecOn with
  | nil =>
      rw [List.pairwise_iff_forall_sublist]
      intro id id' hsub
      have hid : b.Shows id := hsub.subset (by simp)
      have hid' : b.Shows id' := hsub.subset (by simp)
      exact ⟨0, 0, shownSince_nil hid, shownSince_nil hid', .inr ⟨rfl, rfl, hsub⟩⟩
  | append_singleton es e ih =>
      have hafter := afterAll_append_singleton b es e
      rcases ids_after (b.afterAll es) e with hsub | ⟨new, hnew, hids⟩
      · rw [← hafter] at hsub
        refine (ih.sublist hsub).imp_of_mem fun hid hid' hbefore => ?_
        exact hbefore.append hid hid'
      · rw [← hafter] at hids
        have hshown : ∀ id ∈ (b.afterAll es).alerts.map Alert.id,
            (b.afterAll (es ++ [e])).Shows id := by
          intro id hid
          rw [Shows, hids]
          exact List.mem_append_left _ hid
        have hshownNew : (b.afterAll (es ++ [e])).Shows new := by
          rw [Shows, hids]
          exact List.mem_append_right _ (List.mem_singleton_self new)
        rw [hids, List.pairwise_append]
        refine ⟨?_, List.pairwise_singleton _ _, ?_⟩
        · exact ih.imp_of_mem fun hid hid' hbefore => hbefore.append (hshown _ hid) (hshown _ hid')
        · intro id hid id' hid'
          obtain rfl := List.mem_singleton.mp hid'
          obtain ⟨k, hk⟩ := exists_shownSince hid
          have hle := hk.le
          exact ⟨k, es.length + 1, hk.append (hshown id hid),
            shownSince_append_singleton hnew hshownNew, .inl (by omega)⟩

/-! ## 5. What a board says of its past -/

/-- A board on which no id occurs twice is known by the events since, whatever they are. No id occurs
twice. The alerts are those that stood there at the start or were raised, each with the content that
its id was given last, and have since neither been retracted nor been dismissed when they could be.
They are in the order in which their presence began, which for each of them is a certain moment. The
action is the one that was set last. -/
theorem board_known_by_events (h : b.Distinct) (es : List BoardEvent) :
    (b.afterAll es).Distinct ∧
      (∀ a, a ∈ (b.afterAll es).alerts ↔ Stands b es a) ∧
      (∀ id, (b.afterAll es).Shows id → ∃! k, ShownSince b es id k) ∧
      ((b.afterAll es).alerts.map Alert.id).Pairwise (BegunBefore b es) ∧
      (b.afterAll es).cta = (es.filterMap BoardEvent.cta?).getLast?.getD b.cta := by
  refine ⟨h.afterAll es, fun a => h.mem_afterAll_iff, fun id hid => ?_,
    pairwise_begunBefore b es, cta_afterAll b es⟩
  obtain ⟨k, hk⟩ := exists_shownSince hid
  exact ⟨k, hk, fun l hl => hl.unique hk⟩

/-- An alert that may be dismissed. -/
def sampleAlert (id : String) : Alert := ⟨id, .danger, "Failed", "no answer", true, .epoch⟩

/-- Two alerts that may be dismissed. -/
def sampleBoard : Board := ⟨[sampleAlert "a", sampleAlert "b"], ⟨false, none⟩⟩

/-- The first alert becomes a sticky one, is dismissed in vain, and then the second is dismissed and
comes back behind a third. -/
def sampleEvents : List BoardEvent :=
  [.raise (sampleAlert "a").sticky, .dismiss "a", .dismiss "b", .raise (sampleAlert "c"),
    .setCta ⟨true, none⟩, .raise (sampleAlert "b")]

theorem board_known_by_events_raised_again :
    sampleBoard.Distinct ∧
      (sampleBoard.afterAll sampleEvents).alerts
        = [(sampleAlert "a").sticky, sampleAlert "c", sampleAlert "b"] ∧
      Stands sampleBoard sampleEvents (sampleAlert "a").sticky ∧
      BegunBefore sampleBoard sampleEvents "c" "b" ∧
      (sampleBoard.afterAll sampleEvents).cta = ⟨true, none⟩ := by
  have hdistinct : sampleBoard.Distinct := by
    rw [Distinct]
    decide
  have halerts : (sampleBoard.afterAll sampleEvents).alerts
      = [(sampleAlert "a").sticky, sampleAlert "c", sampleAlert "b"] := by decide
  obtain ⟨-, hstands, -, horder, hcta⟩ := board_known_by_events hdistinct sampleEvents
  refine ⟨hdistinct, halerts, ?_, ?_, hcta⟩
  · rw [← hstands, halerts]
    exact List.mem_cons_self
  · rw [halerts] at horder
    exact (List.pairwise_iff_forall_sublist.mp horder) (by decide)

end Board

end LunConsole
