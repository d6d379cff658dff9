import LunConsole.Proofs.Console.Derived
/-!
# What is sent for creation

A filesystem is made of the candidates that are flagged, and a cluster if the check that is kept
says so; neither is looked at again when the call goes out. What makes these calls safe is on the
one hand that what the console keeps is up to date in every state of a run, so a plan made in a
state is right for that state (`planFilesystem_safe`, `planCluster_safe`). On the other hand a call
is sent some time after it was planned, and the console has changed since: what is said of it holds
of the state in which its request came in, and the request takes it from there unchanged
(`Leads.call_planned`).
-/

set_option autoImplicit false

namespace LunConsole

theorem Requirements.check_passes_iff (r : Requirements) (nodes disks : Nat) :
    (r.check nodes disks).passes = true ↔
      r.minNodes.toNat ≤ nodes ∧ r.minSharedDisks.toNat ≤ disks := by
  rw [RequirementCheck.passes, List.isEmpty_iff, check, List.append_eq_nil_iff]
  simp

namespace Console

/-! ## 1. Plans -/

/-- Flags aside, a console that is up to date offers the devices that every storage node reports and
no local disk names. -/
theorem UpToDate.mem_luns_iff {c : Console} (h : c.UpToDate) {wwn : String} :
    wwn ∈ c.candidates.luns.map Lun.wwn ↔
      SeenByAll c.discovery.data c.roles.selectedNodes wwn ∧ ¬ IsClaimed c.disks.data wwn := by
  rw [← LunList.map_wwn_selectAll _ false, h.luns, Console.inputs,
    Inputs.mem_candidates_iff c.roles.nodup_selectedNodes]

theorem UpToDate.nodup_luns {c : Console} (h : c.UpToDate) :
    (c.candidates.luns.map Lun.wwn).Nodup := by
  rw [← LunList.map_wwn_selectAll _ false, h.luns]
  exact Inputs.nodup_candidates _

/-- A bad name is the first thing to be wrong, then that nothing is selected. -/
theorem planFilesystem_eq (c : Console) (name : String) :
    c.planFilesystem name = match FilesystemClaim.validateName name with
      | .error e => .error e
      | .ok () =>
          if c.candidates.luns.selectedWwns = [] then .error .noLunsSelected
          else .ok (.forDevices name c.config.watchedNamespace c.candidates.luns.selectedWwns) := by
  rw [planFilesystem]
  cases FilesystemClaim.validateName name with
  | error e => rfl
  | ok u =>
      by_cases hnone : c.candidates.luns.selectedWwns = []
      · rw [hnone]
        rfl
      · simp [bind, Except.bind, pure, Except.pure, hnone]

/-- **A claim is planned** for a good name if anything is selected, and asks for what is. -/
theorem planFilesystem_eq_ok_iff {c : Console} {name : String} {claim : FilesystemClaim} :
    c.planFilesystem name = .ok claim ↔
      FilesystemClaim.validateName name = .ok () ∧ c.candidates.luns.selectedWwns ≠ [] ∧
        claim = .forDevices name c.config.watchedNamespace c.candidates.luns.selectedWwns := by
  rw [planFilesystem_eq]
  cases FilesystemClaim.validateName name with
  | error fault => simp
  | ok u =>
      by_cases hnone : c.candidates.luns.selectedWwns = []
      · simp [hnone]
      · simp only [hnone, if_false, Except.ok.injEq, ne_eq, not_false_eq_true, true_and]
        exact eq_comm

/-- **None is planned** otherwise. -/
theorem planFilesystem_eq_error_iff {c : Console} {name : String} {e : ConsoleError} :
    c.planFilesystem name = .error e ↔ FilesystemClaim.validateName name = .error e ∨
      FilesystemClaim.validateName name = .ok () ∧ c.candidates.luns.selectedWwns = [] ∧
        e = .noLunsSelected := by
  rw [planFilesystem_eq]
  cases FilesystemClaim.validateName name with
  | error fault => simp
  | ok u =>
      by_cases hnone : c.candidates.luns.selectedWwns = []
      · simp [hnone, eq_comm]
      · simp [hnone]

/-- What may be said of the claim for a filesystem, in the state in which it was planned. -/
structure SafeClaim (c : Console) (ns name : String) (claim : FilesystemClaim) : Prop where
  name_valid : FilesystemClaim.validateName name = .ok ()
  name_eq : claim.metadata.name = some name
  namespace_eq : claim.metadata.inNamespace = some ns
  devices_eq : claim.spec.devices = (c.candidates.luns.filter Lun.isSelected).map Lun.wwn
  devices_ne_nil : claim.spec.devices ≠ []
  devices_nodup : claim.spec.devices.Nodup
  devices_shared : ∀ wwn ∈ claim.spec.devices,
    SeenByAll c.discovery.data c.roles.selectedNodes wwn
  devices_unclaimed : ∀ wwn ∈ claim.spec.devices, ¬ IsClaimed c.disks.data wwn

/-- **A claim planned by a console that is up to date** is safe. -/
theorem planFilesystem_safe {c : Console} (hup : c.UpToDate) {name : String}
    {claim : FilesystemClaim} (h : c.planFilesystem name = .ok claim) :
    c.SafeClaim c.config.watchedNamespace name claim := by
  obtain ⟨hname, hdevices, rfl⟩ := planFilesystem_eq_ok_iff.mp h
  have hsub : c.candidates.luns.selectedWwns.Sublist (c.candidates.luns.map Lun.wwn) :=
    List.filter_sublist.map Lun.wwn
  have hmem {wwn : String} (hwwn : wwn ∈ c.candidates.luns.selectedWwns) :=
    hup.mem_luns_iff.mp (hsub.subset hwwn)
  exact {
    name_valid := hname
    name_eq := FilesystemClaim.name_forDevices _ _ _
    namespace_eq := FilesystemClaim.namespace_forDevices _ _ _
    devices_eq := FilesystemClaim.devices_forDevices _ _ _
    devices_ne_nil := hdevices
    devices_nodup := hup.nodup_luns.sublist hsub
    devices_shared := fun wwn hwwn => (hmem hwwn).1
    devices_unclaimed := fun wwn hwwn => (hmem hwwn).2 }

/-- **A cluster planned by a console that is up to date** meets the requirements. -/
theorem planCluster_safe {c : Console} (hup : c.UpToDate) {cluster : Cluster}
    (h : c.planCluster = .ok cluster) :
    c.config.requirements.minNodes.toNat ≤ c.roles.selectedNodes.length ∧
      c.config.requirements.minSharedDisks.toNat ≤ c.candidates.luns.length := by
  rw [planCluster] at h
  split_ifs at h with hpasses
  -- the check that is kept is that of the present state
  rw [check, hup.requirements, Option.getD_some] at hpasses
  exact (c.config.requirements.check_passes_iff _ _).mp hpasses

end Console

/-- The call that a request is about to make or has made. -/
def Request.call? : Request → Option Call
  | ready call | waiting call => some call
  | _ => none

namespace Run

/-! ## 2. Calls under way -/

/-- The call of the request under this number. -/
def call? (r : Run) (id : Nat) : Option Call := r.requests[id]?.bind Request.call?

theorem call?_of_request {r : Run} {id : Nat} {q : Request} (h : r.requests[id]? = some q) :
    r.call? id = q.call? := by
  rw [call?, h, Option.bind_some]

theorem call?_of_new {r : Run} {id : Nat} (h : r.requests.contains id = false) :
    r.call? id = none := by
  rw [call?, Std.ExtTreeMap.getElem?_eq_none_of_contains_eq_false h, Option.bind_none]

theorem call?_withRequest (r : Run) (id : Nat) (q : Request) (i : Nat) :
    (r.withRequest id q).call? i = if id = i then q.call? else r.call? i := by
  rw [call?, requests_withRequest]
  split_ifs with hi
  · rfl
  · rfl

theorem call?_of_without {r : Run} {id i : Nat} {call : Call}
    (h : (r.without id).call? i = some call) : r.call? i = some call := by
  rw [call?, requests_without] at h
  split_ifs at h with hi
  · cases h
  · exact h

/-- No request to change a role has a creation under way. -/
theorem afterLook_call? {node : String} {start : ToggleStart} {call : Call}
    (h : (afterLook node start).call? = some call) : ∃ t, call = .patchNode t := by
  cases start with
  | refused e => cases h
  | unchanged role => cases h
  | sent t =>
      cases h
      exact ⟨t, rfl⟩

/-- **A creation that is under way** was so before, or has just been planned. -/
theorem Step.creation_origin {r r' : Run} {e : RunEvent} {outputs : List RunOutput}
    (hstep : Step r e r' outputs) {i : Nat} {call : Call} (hcall : r'.call? i = some call)
    (hcreation : ∀ t, call ≠ .patchNode t) :
    r.call? i = some call ∨ ∃ action, e = .ask i action ∧ Console.Plans r.console action call := by
  cases hstep with
  | nodes s => exact .inl hcall
  | discovery s => exact .inl hcall
  | disks s => exact .inl hcall
  | tick now => exact .inl hcall
  | refused hnew htaken => exact .inl hcall
  | done hnew hidle => exact .inl hcall
  | claimed hnew hfree =>
      rw [call?_withRequest] at hcall
      split_ifs at hcall with hi
      · cases hcall
      · exact .inl hcall
  | @planned id action planned hnew hplans =>
      rw [call?_withRequest] at hcall
      split_ifs at hcall with hi
      · subst hi
        cases hcall
        exact .inr ⟨action, rfl, hplans⟩
      · exact .inl hcall
  | looked hclaimed hbegin hbegins =>
      rw [call?_withRequest] at hcall
      split_ifs at hcall with hi
      · obtain ⟨t, rfl⟩ := afterLook_call? hcall
        exact absurd rfl (hcreation t)
      · exact .inl hcall
  | sent hready =>
      rw [call?_withRequest] at hcall
      split_ifs at hcall with hi
      · subst hi
        rw [call?_of_request hready]
        exact .inl hcall
      · exact .inl hcall
  | settled hwaiting =>
      rw [settle, call?_withRequest] at hcall
      split_ifs at hcall with hi
      · cases hcall
      · exact .inl hcall
  | released hsettled => exact .inl (call?_of_without hcall)
  | abandoned hwaiting => exact .inl (call?_of_without hcall)
  | finished hreply hother hwaiting hidle => exact .inl (call?_of_without hcall)

/-- Only what a request is about to call is called. -/
theorem Step.called {r r' : Run} {e : RunEvent} {outputs : List RunOutput}
    (hstep : Step r e r' outputs) {call : Call} (hcalled : .called call ∈ outputs) :
    ∃ id, e = .send id ∧ r.call? id = some call := by
  cases hstep with
  | @sent id sent hready =>
      rw [List.mem_singleton] at hcalled
      cases hcalled
      exact ⟨id, rfl, call?_of_request hready⟩
  | refused hnew htaken => simp at hcalled
  | done hnew hidle => simp at hcalled
  | released hsettled => simp at hcalled
  | finished hreply hother hwaiting hidle => simp at hcalled
  | _ => exact absurd hcalled List.not_mem_nil

/-! ## 3. Runs -/

variable {config : Config} {clock : Instant} {history : List (RunEvent × List RunOutput)} {r : Run}

/-- The request came in with this action when the run was in that state, and no later one has taken
its number. -/
def AskedIn (config : Config) (clock : Instant) (history : List (RunEvent × List RunOutput))
    (id : Nat) (action : Action) (r : Run) : Prop :=
  LastAt config clock history (fun e => ∃ a, e = .ask id a) (.ask id action) r

/-- **A creation that is under way** was planned when its request came in. -/
theorem Leads.call_planned (h : Leads config clock history r) {id : Nat} {call : Call}
    (hcall : r.call? id = some call) (hcreation : ∀ t, call ≠ .patchNode t) :
    ∃ action r₀, AskedIn config clock history id action r₀ ∧
      Console.Plans r₀.console action call := by
  induction h with
  | start =>
      rw [call?, Run.start, Std.ExtTreeMap.getElem?_empty] at hcall
      cases hcall
  | @step history r r' e outputs hleads hnext ih =>
      rcases (step_of_next? hnext).creation_origin hcall hcreation with
        hbefore | ⟨action, rfl, hplans⟩
      · -- nothing is added to a plan later on, and its number is taken
        obtain ⟨action, r₀, hasked, hplans⟩ := ih hbefore
        refine ⟨action, r₀, hasked.later ?_, hplans⟩
        rintro ⟨other, rfl⟩
        rw [call?_of_new (new_of_next?_ask hnext)] at hbefore
        cases hbefore
      · exact ⟨action, r, lastAt_self hleads ⟨action, rfl⟩, hplans⟩

/-- Whatever the order of events, a claim for a filesystem that is sent is safe for the state in
which its request came in: the name may be given, the namespace is the configured one, and the
devices are the flagged candidates in their order, at least one and none twice, each of them
reported by every storage node and named by no local disk. And a cluster is sent only if in the
state in which its request came in there were enough storage nodes and enough devices that all of
them report and no local disk names. -/
theorem creation_calls_safe (h : Leads config clock history r) {r' : Run} {e : RunEvent}
    {outputs : List RunOutput} (hnext : r.next? e = some (r', outputs)) :
    (∀ name claim, .called (.createFilesystem name claim) ∈ outputs →
      ∃ id r₀, e = .send id ∧
        AskedIn config clock history id (.createFilesystem name) r₀ ∧
        r₀.console.SafeClaim config.watchedNamespace name claim) ∧
    ∀ cluster, .called (.createCluster cluster) ∈ outputs →
      ∃ id r₀, e = .send id ∧ AskedIn config clock history id .createCluster r₀ ∧
        config.requirements.minNodes.toNat ≤ r₀.console.roles.selectedNodes.length ∧
        ∃ wwns : List String, wwns.Nodup ∧
          (∀ wwn, wwn ∈ wwns ↔
            SeenByAll r₀.console.discovery.data r₀.console.roles.selectedNodes wwn ∧
              ¬ IsClaimed r₀.console.disks.data wwn) ∧
          config.requirements.minSharedDisks.toNat ≤ wwns.length := by
  have hstep := step_of_next? hnext
  constructor
  · intro name claim hcalled
    obtain ⟨id, he, hcall⟩ := hstep.called hcalled
    obtain ⟨action, r₀, hasked, hplans⟩ := h.call_planned hcall (by simp)
    cases hplans with
    | filesystem hplan =>
        have hsafe := Console.planFilesystem_safe hasked.reachable.upToDate hplan
        rw [hasked.reachable.config_eq] at hsafe
        exact ⟨id, r₀, he, hasked, hsafe⟩
  · intro cluster hcalled
    obtain ⟨id, he, hcall⟩ := hstep.called hcalled
    obtain ⟨action, r₀, hasked, hplans⟩ := h.call_planned hcall (by simp)
    cases hplans with
    | cluster hplan =>
        have hup := hasked.reachable.upToDate
        obtain ⟨hnodes, hdisks⟩ := Console.planCluster_safe hup hplan
        rw [hasked.reachable.config_eq] at hnodes hdisks
        -- the devices in question are the candidates themselves
        refine ⟨id, r₀, he, hasked, hnodes, _, hup.nodup_luns, fun _ => hup.mem_luns_iff, ?_⟩
        rw [List.length_map]
        exact hdisks

/-- Settings under which two storage nodes will do. -/
def twoNodes : Config := { Config.standard with requirements := ⟨2, 1⟩ }

/-- A filesystem on `X` and a cluster are planned, and `X` is claimed before either is sent. -/
def plannedCreations : List (RunEvent × List RunOutput) × Run :=
  (start twoNodes .epoch).play (sampleSnapshots twoNodes.storageRoleLabel ++
    [.ask 0 (.selectLun "X" true), .ask 1 (.createFilesystem "fs-1"), .ask 2 .createCluster,
      .disks (.ofData [.claiming "X", .claiming "Y"])])

theorem creation_calls_safe_planned :
    Leads twoNodes .epoch plannedCreations.1 plannedCreations.2 ∧
      (∃ r', plannedCreations.2.next? (.send 1)
          = some (r', [.called (.createFilesystem "fs-1"
              (.forDevices "fs-1" twoNodes.watchedNamespace ["X"]))]) ∧
        ∃ id r₀, RunEvent.send 1 = .send id ∧
          AskedIn twoNodes .epoch plannedCreations.1 id (.createFilesystem "fs-1") r₀ ∧
          r₀.console.SafeClaim twoNodes.watchedNamespace "fs-1"
            (.forDevices "fs-1" twoNodes.watchedNamespace ["X"])) ∧
      ∃ r' cluster,
        plannedCreations.2.next? (.send 2) = some (r', [.called (.createCluster cluster)]) ∧
        ∃ id r₀, RunEvent.send 2 = .send id ∧
          AskedIn twoNodes .epoch plannedCreations.1 id .createCluster r₀ ∧
          2 ≤ r₀.console.roles.selectedNodes.length := by
  have hleads : Leads twoNodes .epoch plannedCreations.1 plannedCreations.2 := leads_play _ _ _
  have hfilesystem : ∃ r', plannedCreations.2.next? (.send 1)
      = some (r', [.called (.createFilesystem "fs-1"
          (.forDevices "fs-1" twoNodes.watchedNamespace ["X"]))]) := ⟨_, rfl⟩
  have hcluster : ∃ r' cluster,
      plannedCreations.2.next? (.send 2) = some (r', [.called (.createCluster cluster)]) :=
    ⟨_, _, rfl⟩
  obtain ⟨r₁, hfirst⟩ := hfilesystem
  obtain ⟨r₂, cluster, hsecond⟩ := hcluster
  obtain ⟨hclaims, -⟩ := creation_calls_safe hleads hfirst
  obtain ⟨-, hclusters⟩ := creation_calls_safe hleads hsecond
  obtain ⟨id, r₀, hid, hasked, hnodes, -⟩ := hclusters cluster List.mem_cons_self
  exact ⟨hleads, ⟨r₁, hfirst, hclaims _ _ List.mem_cons_self⟩, r₂, cluster, hsecond, id, r₀, hid,
    hasked, hnodes⟩

end Run

end LunConsole
