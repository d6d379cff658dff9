import LunConsole.Config.Basic
import LunConsole.Console.Toggle
import LunConsole.Proofs.Server.Patch
import LunConsole.Proofs.Wire.Layout
/-!
# Reading undoes writing

A type whose values are exchanged as JSON is *lawful* (`LawfulWire`) if a value that was written is
read back as it was, and if its reader does not see edits of a layout of the type. Both halves are
made of the same halves for the parts: a record is written under its names in their order and read
from whatever its fields are (`Written`), and a choice is a record with a tag.

What reads back a value then reads it back from everything that has come from it by edits of the
layout (`decode?_of_edited`).
-/

set_option autoImplicit false

namespace LunConsole

open Layout

/-! ## 1. Plain values, lists and maps -/

instance : LawfulWire String where
  layout := .fixed
  fault?_encode x := by simp [encode, Json.fault?]
  decode?_encode x := rfl
  unseeing := unseeing_fixed _

instance : LawfulWire Bool where
  layout := .fixed
  fault?_encode x := by simp [encode, Json.fault?]
  decode?_encode x := rfl
  unseeing := unseeing_fixed _

instance : LawfulWire UInt64 where
  layout := .fixed
  fault?_encode x := by simp [encode, Json.ofNat, Json.fault?]
  decode?_encode x := by
    have hrange : 0 ≤ (x.toNat : Int) ∧ (x.toNat : Int) < UInt64.size :=
      ⟨Int.natCast_nonneg _, by exact_mod_cast x.toNat_lt_size⟩
    simp only [decode?, encode, Json.ofNat, Json.uint64?, if_pos hrange, Int.toNat_natCast,
      UInt64.ofNat_toNat]
  unseeing := unseeing_fixed _

instance : LawfulWire TextMap where
  layout := .free
  fault?_encode m := by
    refine fault?_object_eq_none.mpr fun x hx => ?_
    obtain ⟨⟨k, v⟩, -, rfl⟩ := List.mem_map.mp hx
    simp [Json.fault?]
  decode?_encode := TextMap.decode?_encode
  unseeing := unseeing_textMap

instance {α : Type} [Wire α] [LawfulWire α] : LawfulWire (List α) where
  layout := .list (LawfulWire.layout α)
  fault?_encode xs := by
    refine fault?_array_eq_none.mpr fun y hy => ?_
    obtain ⟨x, -, rfl⟩ := List.mem_map.mp hy
    exact fault?_encode x
  decode?_encode xs := by
    have hitems : (xs.map encode).mapM (decode? : Json → Option α) = some xs := by
      induction xs with
      | nil => rfl
      | cons x xs ih => simp [List.mapM_cons, ih]
    exact hitems
  unseeing := unseeing_list LawfulWire.unseeing

/-! ## 2. Records as they are written -/

/-- Members under some of the names, in their order and each at most once. -/
structure Written (names : List String) (ms : Json.Fields) : Prop where
  sublist : (ms.map Prod.fst).Sublist names
  fault?_eq_none : ∀ m ∈ ms, m.2.fault? = none

namespace Written

variable {names names' : List String} {ms ms' : Json.Fields} {α : Type} [Wire α] [LawfulWire α]

theorem nil : Written [] [] := ⟨.slnil, nofun⟩

theorem member_of_fault? (name : String) {x : Json} (h : x.fault? = none) :
    Written [name] (Json.member name x) :=
  ⟨.refl _, by simpa [Json.member, encode] using h⟩

theorem member (name : String) (x : α) : Written [name] (Json.member name x) :=
  ⟨.refl _, by simp [Json.member]⟩

theorem memberIf (name : String) (x : Option α) : Written [name] (Json.memberIf name x) := by
  cases x with
  | none => exact ⟨List.nil_sublist _, nofun⟩
  | some x => exact member name x

theorem append (h : Written names ms) (h' : Written names' ms') :
    Written (names ++ names') (ms ++ ms') :=
  ⟨by rw [List.map_append]; exact h.sublist.append h'.sublist,
    fun m hm => (List.mem_append.mp hm).elim (h.fault?_eq_none m) (h'.fault?_eq_none m)⟩

theorem fault?_object (h : Written names ms) : (Json.object ms).fault? = none :=
  fault?_object_eq_none.mpr h.fault?_eq_none

/-- What is written as a record is read as one, whichever fields may be missing. -/
theorem record?_object (h : Written names ms) (hnodup : names.Nodup) (least : Nat) :
    (Json.object ms).record? names least = some ms := by
  have hknown : known names ms = ms := by
    refine List.filter_eq_self.mpr fun m hm => ?_
    simpa using h.sublist.subset (List.mem_map_of_mem hm)
  have hreadable : Readable names ms :=
    ⟨fun m hm => isBroken_of_fault? (h.fault?_eq_none m hm), by
      rw [hknown]; exact hnodup.sublist h.sublist⟩
  rw [record?_of_readable hreadable, hknown]

end Written

namespace Json

variable {α : Type} [Wire α]

@[simp] theorem lookup_member (name other : String) (x : α) :
    (member name x).lookup other = if other = name then some (encode x) else none := by
  by_cases h : other = name
  · subst h
    simp [member]
  · simp [member, List.lookup_cons, beq_eq_false_iff_ne.mpr h, h]

@[simp] theorem lookup_memberIf (name other : String) (x : Option α) :
    (memberIf name x).lookup other = if other = name then x.map encode else none := by
  cases x with
  | none => simp [memberIf]
  | some x => exact lookup_member name other x

end Json

/-- **Records are lawful** if what is written under their names reads back, and their fields are
read one by one. -/
@[reducible]
def LawfulWire.ofRecord {α : Type} [Wire α] (layout : Layout) {fields : List (String × Layout)}
    {optional names : List String} {least : Nat} {ms : α → Json.Fields}
    {read : Json.Fields → Option α} (hlayout : layout = .record fields optional)
    (hencode : ∀ x, encode x = .object (ms x))
    (hdecode : ∀ j, decode? j = (j.record? names least).bind read)
    (hnames : fields.map Prod.fst = names) (hnodup : names.Nodup)
    (hoptional : ∀ name ∈ optional, name ∈ names) (hwritten : ∀ x, Written names (ms x))
    (hread : ∀ x, read (ms x) = some x)
    (halike : ∀ fs fs', Alike fields optional fs fs' → read fs' = read fs) : LawfulWire α where
  layout
  fault?_encode x := by rw [hencode, (hwritten x).fault?_object]
  decode?_encode x := by
    rw [hencode, hdecode, (hwritten x).record?_object hnodup, Option.bind_some, hread]
  unseeing x x' h := by
    rw [hdecode, hdecode]
    exact unseeing_record hnames hoptional halike (hlayout ▸ h)

/-! ## 3. Records -/

/-- A device; what may be missing may be null. -/
def DiscoveredDevice.layout : Layout :=
  .record [("path", .fixed), ("WWN", .fixed), ("size", .fixed), ("deviceID", .fixed),
    ("model", .fixed), ("vendor", .fixed), ("fstype", .fixed)]
    ["deviceID", "model", "vendor", "fstype"]

instance : LawfulWire DiscoveredDevice :=
  .ofRecord DiscoveredDevice.layout rfl (fun _ => rfl) (fun _ => rfl) rfl (by decide) (by decide)
    (fun d => ((((((Written.member "path" d.path).append (.member "WWN" d.wwn)).append
      (.member "size" d.size)).append (.memberIf "deviceID" d.deviceId)).append
      (.memberIf "model" d.model)).append (.memberIf "vendor" d.vendor)).append
      (.memberIf "fstype" d.fstype))
    (fun d => by simp [Json.Fields.required?_eq, Json.Fields.withDefault?_eq,
      Json.Fields.optional?_eq, List.lookup_append])
    (fun fs fs' h => by
      rw [h.required?_eq "path" rfl (by decide), h.required?_eq "WWN" rfl (by decide),
        h.withDefault?_eq "size" rfl (by decide), h.optional?_eq "deviceID" rfl,
        h.optional?_eq "model" rfl, h.optional?_eq "vendor" rfl, h.optional?_eq "fstype" rfl])

/-- A report; each device in it may be written differently. -/
def NodeReport.layout : Layout :=
  .record [("nodeName", .fixed), ("discoveredDevices", .list DiscoveredDevice.layout)] []

instance : LawfulWire NodeReport :=
  .ofRecord NodeReport.layout rfl (fun _ => rfl) (fun _ => rfl) rfl (by decide) (by decide)
    (fun r => (Written.member "nodeName" r.nodeName).append (.member "discoveredDevices" r.devices))
    (fun r => by simp [Json.Fields.required?_eq, List.lookup_append])
    (fun fs fs' h => by
      rw [h.required?_eq "nodeName" rfl (by decide),
        h.required?_eq "discoveredDevices" rfl (by decide)])

/-- A sighting. -/
def DeviceEntry.layout : Layout :=
  .record [("nodeName", .fixed), ("path", .fixed), ("wwn", .fixed), ("size", .fixed)] []

instance : LawfulWire DeviceEntry :=
  .ofRecord DeviceEntry.layout rfl (fun _ => rfl) (fun _ => rfl) rfl (by decide) (by decide)
    (fun e => (((Written.member "nodeName" e.nodeName).append (.member "path" e.path)).append
      (.member "wwn" e.wwn)).append (.member "size" e.size))
    (fun e => by simp [Json.Fields.required?_eq, List.lookup_append])
    (fun fs fs' h => by
      rw [h.required?_eq "nodeName" rfl (by decide), h.required?_eq "path" rfl (by decide),
        h.required?_eq "wwn" rfl (by decide), h.required?_eq "size" rfl (by decide)])

/-- A LUN. -/
def Lun.layout : Layout :=
  .record [("wwn", .fixed), ("path", .fixed), ("nodeName", .fixed), ("capacity", .fixed),
    ("sizeBytes", .fixed), ("isSelected", .fixed)] []

instance : LawfulWire Lun :=
  .ofRecord Lun.layout rfl (fun _ => rfl) (fun _ => rfl) rfl (by decide) (by decide)
    (fun l => (((((Written.member "wwn" l.wwn).append (.member "path" l.path)).append
      (.member "nodeName" l.nodeName)).append (.member "capacity" l.capacity)).append
      (.member "sizeBytes" l.sizeBytes)).append (.member "isSelected" l.isSelected))
    (fun l => by simp [Json.Fields.required?_eq, List.lookup_append])
    (fun fs fs' h => by
      rw [h.required?_eq "wwn" rfl (by decide), h.required?_eq "path" rfl (by decide),
        h.required?_eq "nodeName" rfl (by decide), h.required?_eq "capacity" rfl (by decide),
        h.required?_eq "sizeBytes" rfl (by decide), h.required?_eq "isSelected" rfl (by decide)])

/-- A node; its labels are a map, and its version may be null where it is missing. -/
def StorageNode.layout : Layout :=
  .record [("name", .fixed), ("labels", .free), ("resourceVersion", .fixed)] ["resourceVersion"]

instance : LawfulWire StorageNode :=
  .ofRecord StorageNode.layout rfl (fun _ => rfl) (fun _ => rfl) rfl (by decide) (by decide)
    (fun n => ((Written.member "name" n.name).append (.member "labels" n.labels)).append
      (.memberIf "resourceVersion" n.resourceVersion))
    (fun n => by simp [Json.Fields.required?_eq,
      Json.Fields.optional?_eq, List.lookup_append])
    (fun fs fs' h => by
      rw [h.required?_eq "name" rfl (by decide), h.required?_eq "labels" rfl (by decide),
        h.optional?_eq "resourceVersion" rfl])

/-- Requirements. -/
def Requirements.layout : Layout :=
  .record [("minNodes", .fixed), ("minSharedDisks", .fixed)] []

instance : LawfulWire Requirements :=
  .ofRecord Requirements.layout rfl (fun _ => rfl) (fun _ => rfl) rfl (by decide) (by decide)
    (fun r => (Written.member "minNodes" r.minNodes).append
      (.member "minSharedDisks" r.minSharedDisks))
    (fun r => by simp [Json.Fields.withDefault?_eq, List.lookup_append])
    (fun fs fs' h => by
      rw [h.withDefault?_eq "minNodes" rfl (by decide),
        h.withDefault?_eq "minSharedDisks" rfl (by decide)])

/-- A label. -/
def Label.layout : Layout := .record [("key", .fixed), ("value", .fixed)] []

instance : LawfulWire Label :=
  .ofRecord Label.layout rfl (fun _ => rfl) (fun _ => rfl) rfl (by decide) (by decide)
    (fun l => (Written.member "key" l.key).append (.member "value" l.value))
    (fun l => by simp [Json.Fields.required?_eq, List.lookup_append])
    (fun fs fs' h => by
      rw [h.required?_eq "key" rfl (by decide), h.required?_eq "value" rfl (by decide)])

/-- A configuration; its label and its requirements may be written differently. -/
def Config.layout : Layout :=
  .record [("namespace", .fixed), ("storageRoleLabel", Label.layout),
    ("workerNodeSelector", .fixed), ("requirements", Requirements.layout)] []

instance : LawfulWire Config :=
  .ofRecord Config.layout rfl (fun _ => rfl) (fun _ => rfl) rfl (by decide) (by decide)
    (fun c => (((Written.member "namespace" c.watchedNamespace).append
      (.member "storageRoleLabel" c.storageRoleLabel)).append
      (.member "workerNodeSelector" c.workerNodeSelector)).append
      (.member "requirements" c.requirements))
    (fun c => by simp [Json.Fields.withDefault?_eq, List.lookup_append])
    (fun fs fs' h => by
      rw [h.withDefault?_eq "namespace" rfl (by decide),
        h.withDefault?_eq "storageRoleLabel" rfl (by decide),
        h.withDefault?_eq "workerNodeSelector" rfl (by decide),
        h.withDefault?_eq "requirements" rfl (by decide)])

/-! ## 4. Choices -/

namespace Written

variable {names : List String} {ms : Json.Fields} {tag : String}

private theorem filter_tag (h : Written names ms) (htag : tag ∉ names) (kind : String) :
    ((Json.member tag kind ++ ms).filter fun m => m.1 = tag) = [(tag, .string kind)]
    ∧ ((Json.member tag kind ++ ms).filter fun m => m.1 ≠ tag) = ms := by
  have hother : ∀ m ∈ ms, m.1 ≠ tag := fun m hm hmt =>
    htag (hmt ▸ h.sublist.subset (List.mem_map_of_mem hm))
  constructor
  · have hnone : ms.filter (fun m => m.1 = tag) = [] :=
      List.filter_eq_nil_iff.mpr fun m hm => by simpa using hother m hm
    simp [Json.member, hnone, encode]
  · have hall : ms.filter (fun m => m.1 ≠ tag) = ms :=
      List.filter_eq_self.mpr fun m hm => by simpa using hother m hm
    rw [List.filter_append, hall]
    simp [Json.member]

/-- A tag that is written before other members is read as the tag. -/
theorem tagged?_object (h : Written names ms) (htag : tag ∉ names) (kind : String) :
    (Json.object (Json.member tag kind ++ ms)).tagged? tag = some (kind, .object ms) := by
  obtain ⟨hkind, hrest⟩ := h.filter_tag htag kind
  have hfault := ((member tag kind).append h).fault?_object
  simp only [Json.tagged?, hfault, Option.isSome_none, hkind, hrest]
  rfl

theorem innerTagged?_object (h : Written names ms) (htag : tag ∉ names) (kind : String)
    (kinds : List String) :
    (Json.object (Json.member tag kind ++ ms)).innerTagged? tag kinds
      = some (kind, .object ms) := by
  obtain ⟨hkind, hrest⟩ := h.filter_tag htag kind
  simp only [Json.innerTagged?, hkind, hrest]
  rfl

end Written

/-- A value of a choice is written as a tag and the fields of a case, and is read from the fields
once the tag is known. -/
inductive WrittenCase {α : Type} (tag : String) (read : String → Json → Option α) (j : Json)
    (x : α) : Prop
  | intro (kind : String) {names : List String} {ms : Json.Fields}
      (hobject : j = .object (Json.member tag kind ++ ms)) (hwritten : Written names ms)
      (htag : tag ∉ names) (hread : read kind (.object ms) = some x)

/-- A case with fields is read as a record. -/
theorem WrittenCase.ofRecord {α : Type} {tag : String} {read : String → Json → Option α} {j : Json}
    {x : α} (kind : String) {names : List String} {ms : Json.Fields} {least : Nat}
    {readFields : Json.Fields → Option α} (hwritten : Written names ms)
    (hobject : j = .object (Json.member tag kind ++ ms)) (htag : tag ∉ names) (hnodup : names.Nodup)
    (hcase : ∀ rest, read kind rest = (rest.record? names least).bind readFields)
    (hread : readFields ms = some x) : WrittenCase tag read j x :=
  .intro kind hobject hwritten htag (by
    rw [hcase, hwritten.record?_object hnodup, Option.bind_some, hread])

/-- **Choices are lawful** if each case is, once its tag has been read. -/
@[reducible]
def LawfulWire.ofChoice {α : Type} [Wire α] (layout : Layout) {tag : String}
    {cases : List (String × List (String × Layout))} (read : String → Json → Option α)
    (hlayout : layout = .choice tag cases)
    (hdecode : ∀ j, decode? j = (j.tagged? tag).bind fun p => read p.1 p.2)
    (hwritten : ∀ x, WrittenCase tag read (encode x) x)
    (hread : ∀ c ∈ cases, (Layout.record c.2 []).Unseeing (read c.1)) : LawfulWire α where
  layout
  fault?_encode x := by
    obtain ⟨kind, hobject, hms, -, -⟩ := hwritten x
    rw [hobject, ((Written.member tag kind).append hms).fault?_object]
  decode?_encode x := by
    obtain ⟨kind, hobject, hms, htag, hx⟩ := hwritten x
    rw [hdecode, hobject, hms.tagged?_object htag, Option.bind_some, hx]
  unseeing x x' h := by
    rw [hdecode, hdecode]
    exact unseeing_choice hread (hlayout ▸ h)

/-- A violation: the number needed, and the number found under the name of its case. -/
def Violation.layout : Layout :=
  .choice "kind" [("tooFewNodes", [("required", .fixed), ("selected", .fixed)]),
    ("tooFewSharedDisks", [("required", .fixed), ("found", .fixed)])]

/-- The violation of a case with its fields. -/
def Violation.ofCase? (kind : String) (rest : Json) : Option Violation :=
  if kind = "tooFewNodes" then do
    let fs ← rest.record? ["required", "selected"] 2
    return .tooFewNodes (← fs.required? "required") (← fs.required? "selected")
  else if kind = "tooFewSharedDisks" then do
    let fs ← rest.record? ["required", "found"] 2
    return .tooFewSharedDisks (← fs.required? "required") (← fs.required? "found")
  else none

theorem Violation.written (v : Violation) : WrittenCase "kind" Violation.ofCase? (encode v) v := by
  cases v with
  | tooFewNodes required selected =>
      exact .ofRecord "tooFewNodes"
        ((Written.member "required" required).append (.member "selected" selected)) rfl (by decide)
        (by decide) (fun _ => rfl)
        (by simp [Json.Fields.required?_eq, List.lookup_append])
  | tooFewSharedDisks required found =>
      exact .ofRecord "tooFewSharedDisks"
        ((Written.member "required" required).append (.member "found" found)) rfl (by decide)
        (by decide) (fun _ => rfl)
        (by simp [Json.Fields.required?_eq, List.lookup_append])

instance : LawfulWire Violation :=
  .ofChoice Violation.layout Violation.ofCase? rfl (fun _ => rfl) Violation.written (by
    intro c hc
    simp only [List.mem_cons, List.not_mem_nil, or_false] at hc
    obtain rfl | rfl := hc
    · exact unseeing_record rfl (by decide) fun fs fs' h => by
        rw [h.required?_eq "required" rfl (by decide), h.required?_eq "selected" rfl (by decide)]
    · exact unseeing_record rfl (by decide) fun fs fs' h => by
        rw [h.required?_eq "required" rfl (by decide), h.required?_eq "found" rfl (by decide)])

/-- The outcome of a check; each violation in it may be written differently. -/
def RequirementCheck.layout : Layout := .record [("violations", .list Violation.layout)] []

instance : LawfulWire RequirementCheck :=
  .ofRecord RequirementCheck.layout rfl (fun _ => rfl) (fun _ => rfl) rfl (by decide) (by decide)
    (fun c => Written.member "violations" c.violations)
    (fun c => by simp [Json.Fields.required?_eq])
    (fun fs fs' h => by rw [h.required?_eq "violations" rfl (by decide)])

/-- The fields of the cases of a role. -/
def NodeRole.caseFields : List (String × List (String × Layout)) :=
  [("unselected", []), ("selected", []), ("pending", [("previous", .fixed), ("target", .fixed)])]

/-- A role. -/
def NodeRole.layout : Layout := .choice "state" NodeRole.caseFields

theorem NodeRole.written (r : NodeRole) : WrittenCase "state" NodeRole.ofCase? (encode r) r := by
  cases r with
  | unselected => exact .intro "unselected" rfl .nil (by decide) rfl
  | selected => exact .intro "selected" rfl .nil (by decide) rfl
  | pending previous target =>
      exact .ofRecord "pending"
        ((Written.member "previous" previous).append (.member "target" target)) rfl (by decide)
        (by decide) (fun _ => rfl)
        (by simp [Json.Fields.required?_eq, List.lookup_append])

theorem NodeRole.unseeing_ofCase? :
    ∀ c ∈ NodeRole.caseFields, (Layout.record c.2 []).Unseeing (NodeRole.ofCase? c.1) := by
  intro c hc
  simp only [NodeRole.caseFields, List.mem_cons, List.not_mem_nil, or_false] at hc
  obtain rfl | rfl | rfl := hc
  · intro x x' h
    obtain ⟨ms, ms', rfl, rfl⟩ := h.of_record
    rfl
  · intro x x' h
    obtain ⟨ms, ms', rfl, rfl⟩ := h.of_record
    rfl
  · exact unseeing_record rfl (by decide) fun fs fs' h => by
      rw [h.required?_eq "previous" rfl (by decide), h.required?_eq "target" rfl (by decide)]

instance : LawfulWire NodeRole :=
  .ofChoice NodeRole.layout NodeRole.ofCase? rfl (fun _ => rfl) NodeRole.written
    NodeRole.unseeing_ofCase?

/-- A role within another choice is read back as well. -/
@[simp] theorem NodeRole.ofInner?_encode (r : NodeRole) :
    NodeRole.ofInner? (encode r) = some r := by
  obtain ⟨kind, hobject, hms, htag, hr⟩ := r.written
  have htagged := hms.innerTagged?_object htag kind NodeRole.cases
  rw [NodeRole.ofInner?, hobject, htagged]
  exact hr

theorem NodeRole.unseeing_ofInner? : NodeRole.layout.Unseeing NodeRole.ofInner? :=
  unseeing_innerChoice NodeRole.unseeing_ofCase?

/-- An outcome; the role in it may be written differently. -/
def ToggleOutcome.layout : Layout :=
  .choice "outcome" [("applied", [("state", NodeRole.layout)]),
    ("unchanged", [("state", NodeRole.layout)]),
    ("rolledBack", [("state", NodeRole.layout), ("error", .fixed)])]

/-- The outcome of a case with its fields. -/
def ToggleOutcome.ofCase? (outcome : String) (rest : Json) : Option ToggleOutcome := do
  let role (fs : Json.Fields) : Option NodeRole := do NodeRole.ofInner? (← fs.lookup "state")
  if outcome = "applied" then return .applied (← role (← rest.record? ["state"] 1))
  else if outcome = "unchanged" then return .unchanged (← role (← rest.record? ["state"] 1))
  else if outcome = "rolledBack" then
    let fs ← rest.record? ["state", "error"] 2
    return .rolledBack (← role fs) (← fs.required? "error")
  else none

theorem ToggleOutcome.written (t : ToggleOutcome) :
    WrittenCase "outcome" ToggleOutcome.ofCase? (encode t) t := by
  cases t with
  | applied role =>
      exact .ofRecord "applied" (Written.member "state" role) rfl (by decide) (by decide)
        (fun _ => rfl) (by simp)
  | unchanged role =>
      exact .ofRecord "unchanged" (Written.member "state" role) rfl (by decide) (by decide)
        (fun _ => rfl) (by simp)
  | rolledBack role error =>
      exact .ofRecord "rolledBack" ((Written.member "state" role).append (.member "error" error))
        rfl (by decide) (by decide) (fun _ => rfl)
        (by simp [Json.Fields.required?_eq, List.lookup_append])

instance : LawfulWire ToggleOutcome :=
  .ofChoice ToggleOutcome.layout ToggleOutcome.ofCase? rfl (fun _ => rfl) ToggleOutcome.written (by
    intro c hc
    simp only [List.mem_cons, List.not_mem_nil, or_false] at hc
    obtain rfl | rfl | rfl := hc
    · exact unseeing_record rfl (by decide) fun fs fs' h =>
        congrArg (Option.bind · _) (h.bind_eq "state" rfl (by decide) NodeRole.unseeing_ofInner?)
    · exact unseeing_record rfl (by decide) fun fs fs' h =>
        congrArg (Option.bind · _) (h.bind_eq "state" rfl (by decide) NodeRole.unseeing_ofInner?)
    · refine unseeing_record rfl (by decide) fun fs fs' h => ?_
      have hstate := h.bind_eq "state" rfl (by decide) NodeRole.unseeing_ofInner?
      rw [h.required?_eq "error" rfl (by decide)]
      exact congrArg (Option.bind · _) hstate)

/-! ## 5. Operations of a patch -/

instance : LawfulWire PatchVerb where
  layout := .fixed
  fault?_encode v := by simp [encode, Json.fault?]
  decode?_encode v := by cases v <;> rfl
  unseeing := unseeing_fixed _

/-- An operation, with a layout for its value. -/
def PatchOp.layout (value : Layout) : Layout :=
  .record [("op", .fixed), ("path", .fixed), ("value", value)] []

namespace PatchOp

/-- The operation with these fields. -/
def ofFields? (fs : Json.Fields) : Option PatchOp := do
  return {
    verb := ← fs.required? "op"
    path := ← fs.required? "path"
    value := ← fs.required? "value" }

theorem ofFields?_eq_some_iff {fs : Json.Fields} {o : PatchOp} :
    ofFields? fs = some o ↔ (fs.required? "op" : Option PatchVerb) = some o.verb
      ∧ (fs.required? "path" : Option String) = some o.path ∧ fs.lookup "value" = some o.value := by
  have hvalue : (fs.required? "value" : Option Json) = fs.lookup "value" := Option.bind_fun_some _
  obtain ⟨verb, path, value⟩ := o
  rw [← hvalue]
  simp [ofFields?, Option.bind_eq_some_iff]

/-- Fields that are alike are those of the same operation, but for an edit of the value. -/
theorem ofFields?_of_alike {value : Layout} {fs fs' : Json.Fields} {o : PatchOp}
    (h : Alike [("op", .fixed), ("path", .fixed), ("value", value)] [] fs fs')
    (ho : ofFields? fs = some o) :
    ∃ x, (x = o.value ∨ value.Edit o.value x) ∧ ofFields? fs' = some { o with value := x } := by
  obtain ⟨hverb, hpath, hvalue⟩ := ofFields?_eq_some_iff.mp ho
  have hverb' := (h.required?_eq "op" rfl (by decide)).trans hverb
  have hpath' := (h.required?_eq "path" rfl (by decide)).trans hpath
  obtain heq | ⟨l, x, x', hl, hx, hx', hedit⟩ | ⟨hoptional, -⟩ := h "value"
  · exact ⟨o.value, .inl rfl, ofFields?_eq_some_iff.mpr ⟨hverb', hpath', heq.trans hvalue⟩⟩
  · obtain rfl : value = l := Option.some.inj hl
    obtain rfl : x = o.value := Option.some.inj (hx.symm.trans hvalue)
    exact ⟨x', .inr hedit, ofFields?_eq_some_iff.mpr ⟨hverb', hpath', hx'⟩⟩
  · cases hoptional

/-- One edit of an operation is at most one of its value. -/
theorem decode?_of_edit {value : Layout} {j j' : Json} {o : PatchOp}
    (h : (layout value).Edit j j') (ho : decode? j = some o) :
    ∃ x, (x = o.value ∨ value.Edit o.value x) ∧ decode? j' = some { o with value := x } := by
  have hdecode : ∀ j : Json, (decode? j : Option PatchOp)
      = (j.record? ["op", "path", "value"] 3).bind ofFields? := fun _ => rfl
  obtain ⟨ms, ms', rfl, rfl⟩ := h.of_record
  have hnames : [("op", Layout.fixed), ("path", .fixed), ("value", value)].map Prod.fst
      = ["op", "path", "value"] := rfl
  obtain ⟨hiff, halike⟩ := h.sameRecord hnames (by decide)
  rw [hdecode] at ho
  by_cases hreadable : Readable ["op", "path", "value"] ms
  · rw [record?_of_readable hreadable, Option.bind_some] at ho
    obtain ⟨x, hx, hread⟩ := ofFields?_of_alike (halike hreadable) ho
    refine ⟨x, hx, ?_⟩
    rw [hdecode, record?_of_readable (hiff.mpr hreadable), Option.bind_some, hread]
  · rw [record?_of_not_readable hreadable] at ho
    cases ho

/-- An operation that was edited is read back with its value edited. -/
theorem decode?_of_edited {value : Layout} {j j' : Json} {o : PatchOp}
    (h : (layout value).Edited j j') (ho : decode? j = some o) :
    ∃ x, value.Edited o.value x ∧ decode? j' = some { o with value := x } := by
  induction h with
  | refl => exact ⟨o.value, .refl, ho⟩
  | tail _ hstep ih =>
      obtain ⟨x, hx, hread⟩ := ih
      obtain ⟨y, rfl | hy, hread'⟩ := decode?_of_edit hstep hread
      · exact ⟨_, hx, hread'⟩
      · exact ⟨y, hx.tail hy, hread'⟩

/-- An operation is read back, whatever its value. -/
theorem decode?_encode {o : PatchOp} (h : o.value.fault? = none) : decode? (encode o) = some o := by
  have hwritten : Written ["op", "path", "value"] _ :=
    ((Written.member "op" o.verb).append (.member "path" o.path)).append
      (.member_of_fault? "value" h)
  have hdecode : (decode? (encode o) : Option PatchOp)
      = ((encode o).record? ["op", "path", "value"] 3).bind ofFields? := rfl
  rw [hdecode, show encode o = .object _ from rfl, hwritten.record?_object (by decide),
    Option.bind_some]
  refine ofFields?_eq_some_iff.mpr ⟨?_, ?_, ?_⟩
  · simp [Json.Fields.required?_eq, List.lookup_append]
  · simp [Json.Fields.required?_eq, List.lookup_append]
  · simp [List.lookup_append, encode]

end PatchOp

/-! ## 6. Every type that is exchanged -/

/-- Whatever is written is read back as it was, also after edits of its layout: members in another
order, members that the type does not know, null for an optional field that is missing. Of an
operation of a patch the value may be any JSON; it is read as it stands, so that it is the same
unless the edits have changed the order of members in it. -/
theorem written_values_read_back_after_edits :
    (∀ (d : DiscoveredDevice) (j : Json),
      DiscoveredDevice.layout.Edited (encode d) j → decode? j = some d)
    ∧ (∀ (r : NodeReport) (j : Json), NodeReport.layout.Edited (encode r) j → decode? j = some r)
    ∧ (∀ (e : DeviceEntry) (j : Json), DeviceEntry.layout.Edited (encode e) j → decode? j = some e)
    ∧ (∀ (l : Lun) (j : Json), Lun.layout.Edited (encode l) j → decode? j = some l)
    ∧ (∀ (n : StorageNode) (j : Json), StorageNode.layout.Edited (encode n) j → decode? j = some n)
    ∧ (∀ (c : RequirementCheck) (j : Json),
      RequirementCheck.layout.Edited (encode c) j → decode? j = some c)
    ∧ (∀ (r : NodeRole) (j : Json), NodeRole.layout.Edited (encode r) j → decode? j = some r)
    ∧ (∀ (t : ToggleOutcome) (j : Json),
      ToggleOutcome.layout.Edited (encode t) j → decode? j = some t)
    ∧ (∀ (r : Requirements) (j : Json),
      Requirements.layout.Edited (encode r) j → decode? j = some r)
    ∧ (∀ (c : Config) (j : Json), Config.layout.Edited (encode c) j → decode? j = some c)
    ∧ ∀ o : PatchOp, o.value.fault? = none →
      (∀ j, (PatchOp.layout .fixed).Edited (encode o) j → decode? j = some o)
      ∧ ∀ j, (PatchOp.layout .free).Edited (encode o) j →
        ∃ x, Layout.free.Edited o.value x ∧ decode? j = some { o with value := x } := by
  refine ⟨fun _ _ h => decode?_of_edited h, fun _ _ h => decode?_of_edited h,
    fun _ _ h => decode?_of_edited h, fun _ _ h => decode?_of_edited h,
    fun _ _ h => decode?_of_edited h, fun _ _ h => decode?_of_edited h,
    fun _ _ h => decode?_of_edited h, fun _ _ h => decode?_of_edited h,
    fun _ _ h => decode?_of_edited h, fun _ _ h => decode?_of_edited h,
    fun o ho => ⟨fun j h => ?_, fun j h => ?_⟩⟩
  · obtain ⟨x, hx, hread⟩ := PatchOp.decode?_of_edited h (PatchOp.decode?_encode ho)
    -- a fixed value has no edits
    obtain rfl | ⟨_, -, hedit⟩ := Relation.ReflTransGen.cases_tail hx
    · exact hread
    · cases hedit
  · exact PatchOp.decode?_of_edited h (PatchOp.decode?_encode ho)

/-- A version that is missing and written as null, and an operation with null for its value and a
member before it that it does not know. -/
theorem written_values_read_back_after_edits_null :
    decode? (.object [("name", .string "a"), ("labels", .object []), ("resourceVersion", .null)])
        = some (⟨"a", ∅, none⟩ : StorageNode)
    ∧ Json.null.fault? = none
    ∧ decode? (.object [("note", .bool true), ("op", .string "test"), ("path", .string "/kind"),
        ("value", .null)]) = some (⟨.test, "/kind", .null⟩ : PatchOp) := by
  obtain ⟨-, -, -, -, hnode, -, -, -, -, -, hop⟩ := written_values_read_back_after_edits
  have hversion : StorageNode.layout.Edit (encode (⟨"a", ∅, none⟩ : StorageNode))
      (.object [("name", .string "a"), ("labels", .object []), ("resourceVersion", .null)]) :=
    .addNull (List.mem_singleton_self _) rfl
  have hnote : (PatchOp.layout .fixed).Edit (encode (⟨.test, "/kind", .null⟩ : PatchOp))
      (.object [("op", .string "test"), ("path", .string "/kind"), ("value", .null),
        ("note", .bool true)]) :=
    .addUnknown rfl (by simp [Json.fault?])
  refine ⟨hnode _ _ (.single hversion), Layout.fault?_null,
    (hop _ Layout.fault?_null).1 _ (.tail (.single hnote) (.reorder ?_))⟩
  exact (List.perm_append_singleton ("note", Json.bool true)
    [("op", .string "test"), ("path", .string "/kind"), ("value", .null)]).symm

end LunConsole
