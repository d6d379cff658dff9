import LunConsole.Node
import Mathlib.Data.List.Basic
/-!
# What a patch does at the server

A patch replaces the whole label map of a node, so it is harmless only if the map it was built from
is the one that it replaces. The test of the version sees to that: the patch of a label is applied
exactly at the version from which it was built (`applyPatch?_labelPatch`), and what it writes is
that copy's labels with the one label set or removed.

The labels travel as JSON and are read back by the server; nothing is lost on the way
(`decode?_encode`).
-/

set_option autoImplicit false

namespace LunConsole

/-! ## 1. Labels as JSON -/

namespace TextMap

/-- Reading members one after the other puts them in one after the other. -/
theorem ofMembers?_string (l : List (String × String)) (acc : TextMap) :
    (l.map fun (k, v) => (k, Json.string v)).foldlM
        (fun (m : TextMap) (k, x) => return m.insert k (← x.text?)) acc
      = some (acc.insertMany l) := by
  induction l generalizing acc with
  | nil => rfl
  | cons p l ih =>
      rw [List.map_cons, List.foldlM_cons, Std.ExtTreeMap.insertMany_cons]
      exact ih (acc.insert p.1 p.2)

theorem ofList_toList (m : TextMap) : Std.ExtTreeMap.ofList m.toList = m := by
  refine Std.ExtTreeMap.ext_getElem? fun k => ?_
  cases h : m[k]? with
  | none =>
      refine Std.ExtTreeMap.getElem?_ofList_of_contains_eq_false ?_
      rw [Bool.eq_false_iff]
      intro hlisted
      rw [List.contains_iff_mem, List.mem_map] at hlisted
      obtain ⟨⟨k', v⟩, hmem, rfl⟩ := hlisted
      rw [Std.ExtTreeMap.mem_toList_iff_getElem?_eq_some.mp hmem] at h
      cases h
  | some v =>
      refine Std.ExtTreeMap.getElem?_ofList_of_mem Std.compare_self
        Std.ExtTreeMap.distinct_keys_toList ?_
      exact Std.ExtTreeMap.mem_toList_iff_getElem?_eq_some.mpr h

/-- **What is written of a map reads back as that map.** -/
theorem decode?_encode (m : TextMap) : (decode? (encode m) : Option TextMap) = some m := by
  have hmembers : (encode m).members? = some (m.toList.map fun (k, v) => (k, Json.string v)) := by
    simp [encode, Json.members?, Json.isBroken]
  calc (decode? (encode m) : Option TextMap)
      = (encode m).members?.bind ofMembers? := rfl
    _ = some ((∅ : TextMap).insertMany m.toList) := by
        rw [hmembers, Option.bind_some]
        exact ofMembers?_string m.toList ∅
    _ = some m := by rw [← Std.ExtTreeMap.ofList_eq_insertMany_empty, ofList_toList]

end TextMap

/-! ## 2. Patches -/

/-- What an operation makes of the labels of a node at that version; `none` if it is refused. -/
def PatchOp.labels? (version : String) (labels : TextMap) (o : PatchOp) : Option TextMap :=
  match o.verb with
  | .test =>
      if o.path = "/metadata/resourceVersion" ∧ o.value.text? = some version then some labels
      else none
  | .replace => if o.path = "/metadata/labels" then decode? o.value else none

/-- A patch is applied as a whole or not at all. -/
def applyPatch? (version : String) (labels : TextMap) (ops : List PatchOp) : Option TextMap :=
  ops.foldlM (PatchOp.labels? version) labels

/-- **The patch of a label** is applied at the version from which it was built and refused at every
other one. -/
theorem applyPatch?_labelPatch (copy : StorageNode) {built : String}
    (hbuilt : copy.resourceVersion = some built) (version : String) (labels : TextMap)
    (key value : String) (present : Bool) :
    applyPatch? version labels (copy.labelPatch key value present)
      = if built = version then some (copy.labelsWith key value present) else none := by
  have htest : PatchOp.labels? version labels
      ⟨.test, "/metadata/resourceVersion", .string built⟩
        = if built = version then some labels else none := by
    simp [PatchOp.labels?, Json.text?]
  have hreplace : PatchOp.labels? version labels
      ⟨.replace, "/metadata/labels", encode (copy.labelsWith key value present)⟩
        = some (copy.labelsWith key value present) :=
    TextMap.decode?_encode _
  rw [applyPatch?, StorageNode.labelPatch, hbuilt, List.singleton_append, List.foldlM_cons, htest]
  split_ifs with hversion
  · rw [Option.bind_eq_bind, Option.bind_some, List.foldlM_cons, hreplace]
    rfl
  · rfl

/-- Setting or removing a label touches no other one. -/
theorem StorageNode.getElem?_labelsWith (copy : StorageNode) (key value : String) (present : Bool)
    (k : String) :
    (copy.labelsWith key value present)[k]?
      = if key = k then (if present then some value else none) else copy.labels[k]? := by
  rw [labelsWith]
  cases present with
  | true => simp [Std.ExtTreeMap.getElem?_insert]
  | false => simp [Std.ExtTreeMap.getElem?_erase]

end LunConsole
