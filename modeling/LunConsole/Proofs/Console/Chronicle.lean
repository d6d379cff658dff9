import LunConsole.Proofs.Console.Steps
/-!
# The past of a run

What is to be said of a run often looks back: at the last snapshot that came in, at the patches that
have been applied, at the changes that have failed. Whether an event was one of these depends on the
state that it found. The past of a run is therefore kept as the list of its events, each with the
state before it, the last event at the end.
-/

set_option autoImplicit false

namespace LunConsole

/-- Whether a list comes in with the event. -/
def RunEvent.bringsList : RunEvent → Bool
  | nodes _ | discovery _ | disks _ => true
  | _ => false

namespace Run

open Console

/-- The run came to `r`, and `past` tells how. -/
inductive Chronicle (config : Config) (clock : Instant) : List (Run × RunEvent) → Run → Prop
  | start : Chronicle config clock [] (start config clock)
  | step {past : List (Run × RunEvent)} {r r' : Run} {e : RunEvent} {outputs : List RunOutput} :
      Chronicle config clock past r → r.next? e = some (r', outputs) →
        Chronicle config clock (past ++ [(r, e)]) r'

variable {config : Config} {clock : Instant} {r r' : Run} {past : List (Run × RunEvent)}

/-- Whatever has a past is a run. -/
theorem Chronicle.leads (h : Chronicle config clock past r) :
    ∃ history, Leads config clock history r ∧ history.map Prod.fst = past.map Prod.snd := by
  induction h with
  | start => exact ⟨[], .start, rfl⟩
  | @step past r r' e outputs _ hnext ih =>
      obtain ⟨history, hleads, hevents⟩ := ih
      refine ⟨history ++ [(e, outputs)], .step hleads hnext, ?_⟩
      rw [List.map_append, List.map_append, hevents]
      rfl

/-- And every run has a past. -/
theorem Leads.chronicle {history : List (RunEvent × List RunOutput)}
    (h : Leads config clock history r) :
    ∃ past, Chronicle config clock past r ∧ past.map Prod.snd = history.map Prod.fst := by
  induction h with
  | start => exact ⟨[], .start, rfl⟩
  | @step history r r' e outputs _ hnext ih =>
      obtain ⟨past, hpast, hevents⟩ := ih
      refine ⟨past ++ [(r, e)], .step hpast hnext, ?_⟩
      rw [List.map_append, List.map_append, hevents]
      rfl

theorem Chronicle.reachable (h : Chronicle config clock past r) : Reachable config clock r := by
  obtain ⟨history, hleads, -⟩ := h.leads
  exact ⟨history, hleads⟩

theorem Chronicle.config_eq (h : Chronicle config clock past r) : r.console.config = config := by
  obtain ⟨history, hleads, -⟩ := h.leads
  exact hleads.config_eq

/-- What of the events happens when they are played, each with the state that it finds. -/
def pastOf (r : Run) : List RunEvent → List (Run × RunEvent)
  | [] => []
  | e :: es =>
      match r.next? e with
      | none => pastOf r es
      | some (r', _) => (r, e) :: pastOf r' es

theorem mem_pastOf {es : List RunEvent} {x : Run × RunEvent} (h : x ∈ r.pastOf es) : x.2 ∈ es := by
  induction es generalizing r with
  | nil => exact absurd h List.not_mem_nil
  | cons e es ih =>
      rw [pastOf] at h
      split at h
      · exact List.mem_cons_of_mem e (ih h)
      · rcases List.mem_cons.mp h with rfl | h
        · exact List.mem_cons_self
        · exact List.mem_cons_of_mem e (ih h)

/-- What is played from a state goes on with its past. -/
theorem Chronicle.play (h : Chronicle config clock past r) (events : List RunEvent) :
    Chronicle config clock (past ++ r.pastOf events) (r.play events).2 := by
  induction events generalizing past r with
  | nil => rwa [pastOf, List.append_nil]
  | cons e es ih =>
      rw [pastOf]
      cases hnext : r.next? e with
      | none =>
          rw [play_of_next?_none hnext]
          exact ih h
      | some next =>
          obtain ⟨r', outputs⟩ := next
          rw [play_of_next? hnext, List.append_cons]
          exact ih (.step h hnext)

theorem chronicle_play (config : Config) (clock : Instant) (events : List RunEvent) :
    Chronicle config clock ((Run.start config clock).pastOf events)
      ((Run.start config clock).play events).2 :=
  Chronicle.start.play events

theorem Asked.sameLists {id : Nat} {action : Action} {outputs : List RunOutput}
    (h : Asked r id action r' outputs) : SameLists r.console r'.console := by
  cases h with
  | taken htaken => exact .refl _
  | claimed hfree => exact ⟨rfl, rfl, rfl⟩
  | ended hother hperform =>
      have hlists := r.console.sameLists_perform action hother
      rwa [hperform] at hlists
  | planned hother hperform =>
      have hlists := r.console.sameLists_perform action hother
      rwa [hperform] at hlists

/-- **The lists that a console holds** are those of the last snapshots: nothing else replaces
them. -/
theorem sameLists_of_next? {e : RunEvent} {outputs : List RunOutput}
    (h : r.next? e = some (r', outputs)) (hevent : e.bringsList = false) :
    SameLists r.console r'.console := by
  cases happens_of_next? h with
  | nodes s => cases hevent
  | discovery s => cases hevent
  | disks s => cases hevent
  | tick now => exact ⟨rfl, rfl, rfl⟩
  | ask hnew hasked => exact hasked.sameLists
  | look hclaimed => exact (begins_beginToggle _ _ _).sameLists
  | send hready => exact .refl _
  | settle hwaiting => exact sameLists_settleToggle _ _ _
  | release hsettled => exact ⟨rfl, rfl, rfl⟩
  | abandon hwaiting => exact .refl _
  | @filesystemReply id name claim reply c answer hwaiting hfinish =>
      have hlists := r.console.sameLists_finish (.createFilesystem name claim) reply
      rwa [hfinish] at hlists
  | @clusterReply id cluster reply c answer hwaiting hfinish =>
      have hlists := r.console.sameLists_finish (.createCluster cluster) reply
      rwa [hfinish] at hlists

/-- The nodes stay even when another list comes in. -/
theorem nodes_of_next? {e : RunEvent} {outputs : List RunOutput}
    (h : r.next? e = some (r', outputs)) (hevent : ∀ s, e ≠ .nodes s) :
    r'.console.nodes = r.console.nodes := by
  by_cases hlist : e.bringsList = true
  · cases e with
    | nodes s => exact absurd rfl (hevent s)
    | discovery s =>
        cases h
        exact (sameLists_applyDiscovery _ _).nodes
    | disks s =>
        cases h
        exact (sameLists_applyDisks _ _).nodes
    | _ => cases hlist
  · exact (sameLists_of_next? h (eq_false_of_ne_true hlist)).nodes

end Run

end LunConsole
