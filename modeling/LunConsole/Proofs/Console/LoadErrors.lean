import LunConsole.Proofs.Console.Announced
import LunConsole.Proofs.Console.Known
/-!
# Errors of a watch

A watch that fails sends the content it knows once more, together with the error. The console takes
that in like any other snapshot: it tells of the error, reads the roles from the nodes again, brings
the candidates, the check, the call to action and the gauges up to date. Of all this only the
telling is to be seen. What is derived is up to date before, and the same content leaves it so.

The work is with the nodes. A list that is read a second time changes nothing, whatever it shows
(`NodeRoles.sync_sync`), so it is enough that the roles are as the last list has left them
(`Console.Abreast`).

In between other things may have happened to the roles. A change that has begun or ended is one,
for then a copy may be read that was passed over, or the other way round; nothing else is
(`RoleTurn.roles_eq`). Changes may be under way all the time.
-/

set_option autoImplicit false

namespace LunConsole

/-! ## 1. Errors -/

namespace Console

/-- The console with an error of a watch told and counted. -/
def toldError (c : Console) (list : WatchedList) (error : String) : Console :=
  { c with
    board := { c.board with
      alerts := Board.raise (loadAlert list error c.clock) c.board.alerts }
    metrics := { c.metrics with counters := c.metrics.counters.addWatchError list } }

/-- The errors of that list are one more, and no other counter moves. -/
theorem counters_toldError (c : Console) (list : WatchedList) (error : String) :
    (c.toldError list error).metrics.counters
      = { c.metrics.counters with
          watchErrors := fun l =>
            if l = list then c.metrics.counters.watchErrors l + 1
            else c.metrics.counters.watchErrors l } :=
  Counters.ext (Counters.applied_addWatchError _ _) (Counters.rolledBack_addWatchError _ _)
    (funext fun l => Counters.watchErrors_addWatchError _ _ l)

variable {c : Console}

/-- **An error of the discovery reports** that leaves their content leaves all but its telling. -/
theorem UpToDate.applyDiscovery_withError (h : c.UpToDate) (error : String) :
    c.applyDiscovery (c.discovery.withError error)
      = { c.toldError .discovery error with discovery := c.discovery.withError error } := by
  have htold : UpToDate
      { c.toldError .discovery error with discovery := c.discovery.withError error } :=
    h.congr_inputs rfl rfl rfl rfl rfl rfl rfl
  exact htold.recompute_eq

/-- **An error of the local disks.** -/
theorem UpToDate.applyDisks_withError (h : c.UpToDate) (error : String) :
    c.applyDisks (c.disks.withError error)
      = { c.toldError .disks error with disks := c.disks.withError error } := by
  have htold : UpToDate { c.toldError .disks error with disks := c.disks.withError error } :=
    h.congr_inputs rfl rfl rfl rfl rfl rfl rfl
  exact htold.recompute_eq

/-- To read the last list of nodes again would change nothing. -/
def Abreast (c : Console) : Prop :=
  c.roles.sync c.config.storageRoleLabel.key c.config.storageRoleLabel.value c.nodes.data = c.roles

/-- **An error of the nodes**, if their content has been taken in. -/
theorem UpToDate.applyNodes_withError (h : c.UpToDate) (habreast : c.Abreast) (error : String) :
    c.applyNodes (c.nodes.withError error)
      = { c.toldError .nodes error with nodes := c.nodes.withError error } := by
  have htold : UpToDate { c.toldError .nodes error with nodes := c.nodes.withError error } :=
    h.congr_inputs rfl rfl rfl rfl rfl rfl rfl
  have hread : c.applyNodes (c.nodes.withError error)
      = recompute { c.toldError .nodes error with
          roles := c.roles.sync c.config.storageRoleLabel.key c.config.storageRoleLabel.value
            c.nodes.data
          nodes := c.nodes.withError error } := rfl
  rw [hread, habreast]
  exact htold.recompute_eq

theorem Abreast.congr {c' : Console} (h : c.Abreast) (hconfig : c'.config = c.config)
    (hroles : c'.roles = c.roles) (hnodes : c'.nodes = c.nodes) : c'.Abreast := by
  rw [Abreast, hconfig, hroles, hnodes]
  exact h

theorem abreast_new (config : Config) (clock : Instant) : (new config clock).Abreast := by
  have hroles : (new config clock).roles = .empty := recompute_roles _
  have hnodes : (new config clock).nodes = .empty := recompute_nodes _
  rw [Abreast, hroles, hnodes]
  refine NodeRoles.eq_of_role?_of_guard? (fun n => ?_) fun n => ?_
  · have habsent : ∀ x ∈ (Snapshot.empty : Snapshot StorageNode).data, x.name ≠ n :=
      fun _ hx => absurd hx List.not_mem_nil
    rw [NodeRoles.role?_sync_of_not_mem _ _ _ habsent, NodeRoles.role?_empty, Option.filter_none]
  · rw [NodeRoles.guard?_empty, Option.eq_none_iff_forall_ne_some]
    intro version hguard
    have hbefore := NodeRoles.guard?_of_guard?_sync _ _ _ hguard
    rw [NodeRoles.guard?_empty] at hbefore
    cases hbefore

theorem abreast_applyNodes (c : Console) (s : Snapshot StorageNode) :
    (c.applyNodes s).Abreast := by
  have hconfig : (c.applyNodes s).config = c.config := by
    rw [applyNodes, recompute_config, trackLoad_config]
  rw [Abreast, hconfig, applyNodes_roles, applyNodes_nodes]
  exact c.roles.sync_sync _ _ _

end Console

namespace ToggleStart

/-- Whether a change has begun. -/
def isSent : ToggleStart → Bool
  | sent _ => true
  | _ => false

end ToggleStart

/-! ## 2. Runs -/

namespace Run

open Console

variable {config : Config} {clock : Instant} {r r' : Run} {e : RunEvent}
  {past : List (Run × RunEvent)}

/-- Whether a change of a role begins or ends with the event. -/
def movesRole (r : Run) : RunEvent → Bool
  | .look id =>
      match r.requests[id]? with
      | some (.claimed node enabled) => (r.console.beginToggle node enabled).2.isSent
      | _ => false
  | .settle .. => true
  | _ => false

/-- Whether the event brings a list of nodes. -/
def bringsNodes : RunEvent → Bool
  | .nodes _ => true
  | _ => false

/-- What has happened since the last list of nodes, the latest first. -/
def sinceLastList (past : List (Run × RunEvent)) : List (Run × RunEvent) :=
  past.reverse.takeWhile fun x => !bringsNodes x.2

theorem sinceLastList_append_singleton (past : List (Run × RunEvent)) (x : Run × RunEvent) :
    sinceLastList (past ++ [x]) = if bringsNodes x.2 then [] else x :: sinceLastList past := by
  rw [sinceLastList, List.reverse_append, List.reverse_singleton, List.singleton_append,
    List.takeWhile_cons]
  cases bringsNodes x.2 with
  | true => rfl
  | false => rfl

/-- **The roles stay** unless a list of nodes comes in, or a change begins or ends. -/
theorem RoleTurn.roles_eq (hturn : RoleTurn r e r') (henrolled : r.console.Enrolled)
    (hunread : bringsNodes e = false) (hstill : r.movesRole e = false) :
    r'.console.roles = r.console.roles := by
  cases hturn with
  | read s => cases hunread
  | settled hwaiting => cases hstill
  | still _ hunsettled hroles hstages => exact hroles
  | @looked id node enabled c start hclaimed hbegins =>
      cases hbegins with
      | unknown hrole => rfl
      | unchanged hrole hsettled hsame => rfl
      | underway hrole hpending => rfl
      | gone hrole hgone =>
          -- a node without a copy is known for its change only, so it is not dropped
          rw [withRequest, withConsole, recompute_roles]
          exact henrolled.forget_eq hgone
      | begun hrole hsettled hdiffers hcached =>
          have hbegun : (r.console.beginToggle node enabled).2.isSent = true := by
            simp [beginToggle, hrole, hsettled, hdiffers, hcached,
              NodeRoles.begin_of_settled hrole hsettled, ToggleStart.isSent]
          simp only [movesRole, hclaimed, hbegun] at hstill
          cases hstill

/-- **In every run** the last list of nodes has been taken in as long as no change has begun or
ended since. The induction is on the past, from which the last event is taken off. -/
theorem Chronicle.abreast (h : Chronicle config clock past r)
    (hstill : ∀ x ∈ sinceLastList past, x.1.movesRole x.2 = false) : r.console.Abreast := by
  induction h with
  | start => exact abreast_new config clock
  | @step past r r' e outputs hpast hnext ih =>
      rw [sinceLastList_append_singleton] at hstill
      cases hbrings : bringsNodes e with
      | true =>
          cases e with
          | nodes s =>
              cases hnext
              exact abreast_applyNodes _ s
          | _ => cases hbrings
      | false =>
          simp only [hbrings, Bool.false_eq_true, if_false, List.forall_mem_cons] at hstill
          obtain ⟨history, hleads, -⟩ := hpast.leads
          have hsame := (hpast.step hnext).config_eq.trans hpast.config_eq.symm
          refine (ih hstill.2).congr hsame ?_ ?_
          · exact (roleTurn_of_next? hnext).roles_eq hleads.enrolled hbrings hstill.1
          · refine nodes_of_next? hnext fun s hread => ?_
            rw [hread] at hbrings
            cases hbrings

/-- In every state of every run, a snapshot that carries an error and the content that is held
already raises the alert about its list, is kept with its error, and is counted as one more error of
that list; and that is all, so the roles with their guards, the candidates with their flags, the
check, the call to action, the gauges, the other counters and all other alerts are as they were. For
the discovery reports and the local disks it is so in every state, and for the nodes unless a change
of a role has begun or ended since the last list of nodes; changes may be under way. -/
theorem load_error_leaves_all_but_its_alert (h : Chronicle config clock past r) (error : String) :
    let c := r.console
    let told (list : WatchedList) : Console := { c with
      board := { c.board with
        alerts := Board.raise (loadAlert list error c.clock) c.board.alerts }
      metrics := { c.metrics with
        counters := { c.metrics.counters with
          watchErrors := fun l =>
            if l = list then c.metrics.counters.watchErrors l + 1
            else c.metrics.counters.watchErrors l } } }
    c.applyDiscovery (c.discovery.withError error)
        = { told .discovery with discovery := c.discovery.withError error } ∧
      c.applyDisks (c.disks.withError error)
        = { told .disks with disks := c.disks.withError error } ∧
      ((∀ x ∈ sinceLastList past, x.1.movesRole x.2 = false) →
        c.applyNodes (c.nodes.withError error)
          = { told .nodes with nodes := c.nodes.withError error }) ∧
      ∀ list, (told list).board.alert? (loadAlertId list) = some (loadAlert list error c.clock) ∧
        ((told list).board.alerts.filter fun a => a.id != loadAlertId list)
          = c.board.alerts.filter fun a => a.id != loadAlertId list := by
  intro c told
  have hup : c.UpToDate := h.reachable.upToDate
  have htold (list : WatchedList) : c.toldError list error = told list :=
    congrArg (fun counters => { told list with metrics := { c.metrics with counters } })
      (c.counters_toldError list error)
  refine ⟨?_, ?_, fun hstill => ?_, fun list => ⟨?_, ?_⟩⟩
  · rw [← htold]
    exact hup.applyDiscovery_withError error
  · rw [← htold]
    exact hup.applyDisks_withError error
  · rw [← htold]
    exact hup.applyNodes_withError (h.abreast hstill) error
  · exact (Board.find?_raise _ _ _).trans (if_pos rfl)
  · exact Board.filter_raise (loadAlert list error c.clock) c.board.alerts

/-- While the change of `c` is under way its node is listed again, and then `X` is selected. -/
def relistedDuringChange : List RunEvent :=
  let label := Config.standard.storageRoleLabel
  let node := StorageNode.bearing label
  sampleSnapshots label ++
    [.ask 0 (.toggleRole "c" true), .look 0, .send 0,
      .nodes (.ofData [node "c" true, node "a" true, node "b" true]),
      .ask 1 (.selectLun "X" true)]

/-- The past then, and the state. -/
def relistedPast : List (Run × RunEvent) := (start .standard .epoch).pastOf relistedDuringChange

def relisted : Run := ((start .standard .epoch).play relistedDuringChange).2

/-- The watch of the nodes fails now. -/
theorem load_error_leaves_all_but_its_alert_during_change :
    Chronicle .standard .epoch relistedPast relisted ∧
      (∀ x ∈ sinceLastList relistedPast, x.1.movesRole x.2 = false) ∧
      relisted.console.roles.role? "c" = some (.pending false true) ∧
      relisted.console.candidates.luns.selectedWwns = ["X"] ∧
      let c' := relisted.console.applyNodes (relisted.console.nodes.withError "closed")
      c'.roles = relisted.console.roles ∧ c'.candidates = relisted.console.candidates ∧
        c'.metrics.counters.watchErrors .nodes
          = relisted.console.metrics.counters.watchErrors .nodes + 1 := by
  have hchronicle : Chronicle .standard .epoch relistedPast relisted := chronicle_play _ _ _
  have hstill : ∀ x ∈ sinceLastList relistedPast, x.1.movesRole x.2 = false := by decide +kernel
  have hpending : relisted.console.roles.role? "c" = some (.pending false true) := by
    decide +kernel
  have hselected : relisted.console.candidates.luns.selectedWwns = ["X"] := by decide +kernel
  refine ⟨hchronicle, hstill, hpending, hselected, ?_⟩
  -- what has been played is a long computation, and from here on it does not matter what it gives
  generalize relisted = r at hchronicle
  obtain ⟨-, -, hnodes, -⟩ := load_error_leaves_all_but_its_alert hchronicle "closed"
  rw [hnodes hstill]
  exact ⟨rfl, rfl, rfl⟩

end Run

end LunConsole
