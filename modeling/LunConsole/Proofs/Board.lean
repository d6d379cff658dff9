import LunConsole.Alert
import Mathlib.Data.List.Nodup
/-!
# One alert for each id

A board lists its alerts, and what is said of it is said of the alert of one id: whether there is
one, and which (`Board.alert?`). As long as no two alerts have the same id this determines the board
up to order (`Distinct.alert?_eq_some_iff`), every event keeps it so (`Distinct.after`), and what an
event makes of an id depends on the alert of that id before it only (`Distinct.alert?_after`).
-/

set_option autoImplicit false

namespace LunConsole

namespace Board

/-- The alert of that id. -/
def alert? (b : Board) (id : String) : Option Alert := b.alerts.find? fun a => a.id = id

/-- No two alerts have the same id. -/
def Distinct (b : Board) : Prop := (b.alerts.map Alert.id).Nodup

theorem id_of_alert? {b : Board} {id : String} {a : Alert} (h : b.alert? id = some a) :
    a.id = id := by
  simpa using List.find?_some h

theorem mem_of_alert? {b : Board} {id : String} {a : Alert} (h : b.alert? id = some a) :
    a ∈ b.alerts := List.mem_of_find?_eq_some h

/-- **A board is known by the alert of each id.** -/
theorem Distinct.alert?_eq_some_iff {b : Board} (h : b.Distinct) {id : String} {a : Alert} :
    b.alert? id = some a ↔ a ∈ b.alerts ∧ a.id = id := by
  constructor
  · exact fun hfound => ⟨mem_of_alert? hfound, id_of_alert? hfound⟩
  · rintro ⟨hmem, rfl⟩
    cases hfound : b.alert? a.id with
    | none =>
        have habsent := List.find?_eq_none.mp hfound a hmem
        simp at habsent
    | some found =>
        rw [List.inj_on_of_nodup_map h hmem (mem_of_alert? hfound) (id_of_alert? hfound).symm]

theorem Distinct.mem_iff {b : Board} (h : b.Distinct) {a : Alert} :
    a ∈ b.alerts ↔ b.alert? a.id = some a := by
  rw [h.alert?_eq_some_iff, and_iff_left rfl]

/-- There is at most one alert of an id. -/
theorem Distinct.filter_id_eq {b : Board} (h : b.Distinct) (id : String) :
    (b.alerts.filter fun a => a.id = id) = (b.alert? id).toList := by
  rw [Distinct] at h
  rw [alert?]
  generalize b.alerts = alerts at h ⊢
  induction alerts with
  | nil => rfl
  | cons a as ih =>
      rw [List.map_cons, List.nodup_cons] at h
      obtain ⟨ha, has⟩ := h
      rw [List.filter_cons, List.find?_cons]
      by_cases hid : a.id = id
      · have hrest : (as.filter fun b => b.id = id) = [] := by
          refine List.filter_eq_nil_iff.mpr fun b hb hsame => ha ?_
          rw [hid, ← of_decide_eq_true hsame]
          exact List.mem_map_of_mem hb
        simp [hid, hrest]
      · simp [hid, ih has]

/-! ## Events -/

/-- An alert whose id is new is put at the end. -/
theorem raise_of_new {a : Alert} {l : List Alert} (h : ∀ b ∈ l, b.id ≠ a.id) :
    raise a l = l ++ [a] := by
  induction l with
  | nil => rfl
  | cons b bs ih =>
      obtain ⟨hb, hbs⟩ := List.forall_mem_cons.mp h
      rw [raise, if_neg hb, ih hbs, List.cons_append]

theorem mem_raise_id {a : Alert} {l : List Alert} {id : String}
    (h : id ∈ (raise a l).map Alert.id) : id = a.id ∨ id ∈ l.map Alert.id := by
  induction l with
  | nil =>
      rw [raise, List.map_singleton, List.mem_singleton] at h
      exact .inl h
  | cons b bs ih =>
      rw [raise] at h
      split_ifs at h with hb
      · rw [List.map_cons, List.mem_cons] at h ⊢
        rcases h with h | h
        · exact .inl h
        · exact .inr (.inr h)
      · rw [List.map_cons, List.mem_cons] at h ⊢
        rcases h with h | h
        · exact .inr (.inl h)
        · rcases ih h with h | h
          · exact .inl h
          · exact .inr (.inr h)

theorem nodup_raise {a : Alert} {l : List Alert} (h : (l.map Alert.id).Nodup) :
    ((raise a l).map Alert.id).Nodup := by
  induction l with
  | nil => exact List.nodup_singleton _
  | cons b bs ih =>
      rw [List.map_cons, List.nodup_cons] at h
      obtain ⟨hb, hbs⟩ := h
      rw [raise]
      split_ifs with hid
      · rw [List.map_cons, List.nodup_cons, ← hid]
        exact ⟨hb, hbs⟩
      · rw [List.map_cons, List.nodup_cons]
        refine ⟨fun hmem => ?_, ih hbs⟩
        rcases mem_raise_id hmem with h | h
        · exact hid h
        · exact hb h

theorem Distinct.after {b : Board} (h : b.Distinct) (e : BoardEvent) : (b.after e).Distinct := by
  cases e with
  | raise a => exact nodup_raise h
  | dismiss id => exact h.sublist (List.filter_sublist.map Alert.id)
  | retract id => exact h.sublist (List.filter_sublist.map Alert.id)
  | setCta cta => exact h

theorem find?_raise (a : Alert) (l : List Alert) (id : String) :
    (raise a l).find? (fun x => x.id = id)
      = if a.id = id then some a else l.find? fun x => x.id = id := by
  induction l with
  | nil =>
      rw [raise, List.find?_singleton]
      simp
  | cons b bs ih =>
      rw [raise]
      split_ifs with hb hid hid
      · simp [hid]
      · simp [hid, hb ▸ hid]
      · rw [List.find?_cons_of_neg, ih, if_pos hid]
        simpa [← hid] using hb
      · rw [List.find?_cons, List.find?_cons, ih, if_neg hid]

/-- Raising an alert leaves those of other ids in their places. -/
theorem filter_raise (a : Alert) (l : List Alert) :
    ((raise a l).filter fun b => b.id != a.id) = l.filter fun b => b.id != a.id := by
  induction l with
  | nil => simp [raise]
  | cons b bs ih =>
      rw [raise]
      split_ifs with hb
      · simp [hb]
      · rw [List.filter_cons, ih, List.filter_cons]

/-- What an event makes of the alert of an id. -/
def effect (id : String) (known : Option Alert) : BoardEvent → Option Alert
  | .raise a => if a.id = id then some a else known
  | .dismiss id' => if id' = id then known.filter fun a => !a.dismissible else known
  | .retract id' => if id' = id then none else known
  | .setCta _ => known

/-- **Events act on one id at a time.** -/
theorem Distinct.alert?_after {b : Board} (h : b.Distinct) (e : BoardEvent) (id : String) :
    (b.after e).alert? id = effect id (b.alert? id) e := by
  cases e with
  | raise a => exact find?_raise a b.alerts id
  | setCta cta => rfl
  | retract id' =>
      refine Option.ext fun a => ?_
      rw [(h.after _).alert?_eq_some_iff, effect]
      split_ifs with hid
      · simp [Board.after, hid]
      · rw [h.alert?_eq_some_iff]
        simp only [Board.after, List.mem_filter, bne_iff_ne]
        constructor
        · rintro ⟨⟨hmem, -⟩, rfl⟩
          exact ⟨hmem, rfl⟩
        · rintro ⟨hmem, rfl⟩
          exact ⟨⟨hmem, Ne.symm hid⟩, rfl⟩
  | dismiss id' =>
      refine Option.ext fun a => ?_
      rw [(h.after _).alert?_eq_some_iff, effect]
      simp only [Board.after, List.mem_filter, Bool.or_eq_true, bne_iff_ne]
      split_ifs with hid
      · rw [Option.filter_eq_some_iff, h.alert?_eq_some_iff, hid]
        tauto
      · rw [h.alert?_eq_some_iff]
        constructor
        · rintro ⟨⟨hmem, -⟩, rfl⟩
          exact ⟨hmem, rfl⟩
        · rintro ⟨hmem, rfl⟩
          exact ⟨⟨hmem, .inl (Ne.symm hid)⟩, rfl⟩

/-- Where the alert must stay, dismissing does nothing. -/
theorem filter_dismissible_eq_self {known : Option Alert}
    (h : ∀ a, known = some a → a.dismissible = false) :
    known.filter (fun a => !a.dismissible) = known := by
  cases known with
  | none => rfl
  | some a => rw [Option.filter_some, h a rfl]; rfl

/-- Of the alerts only those that may go are dismissed. -/
theorem mem_after_dismiss {b : Board} {id : String} {a : Alert} :
    a ∈ (b.after (.dismiss id)).alerts ↔
      a ∈ b.alerts ∧ (a.id = id → a.dismissible = false) := by
  simp only [Board.after, List.mem_filter, Bool.or_eq_true, bne_iff_ne, Bool.not_eq_true']
  tauto

end Board

end LunConsole
