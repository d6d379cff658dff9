import LunConsole.Wire
import Mathlib.Data.List.Nodup
import Mathlib.Logic.Relation
/-!
# Other ways to write a value

What is read from JSON does not depend on all of it. The members of a record may come in any order,
there may be others that the record does not know, and an optional field without a value may be
null instead of missing. In a value that is kept as it stands, or read as a map, the members of an
object may change places and nothing else.

A `Layout` says which of this holds where in a value, and `Edit` is one such change. A reader to
which no edit makes a difference is `Unseeing`. Readers are made of readers, and so is this
property: a record reads its fields one by one (`unseeing_record`), a list its items
(`unseeing_list`), and a choice the fields of its case (`unseeing_choice`).
-/

set_option autoImplicit false

namespace LunConsole

/-! ## 1. Layouts and edits -/

/-- Which parts of a written value may be written differently. -/
inductive Layout where
  /-- None. -/
  | fixed
  /-- The order of members with different keys, in any object. -/
  | free
  /-- Each item on its own. -/
  | list (item : Layout)
  /-- The order and the number of members; `optional` are the fields that may be null. -/
  | record (fields : List (String × Layout)) (optional : List String)
  /-- The same, with the fields of the case that the tag names. -/
  | choice (tag : String) (cases : List (String × List (String × Layout)))

namespace Layout

/-- One change in the way a value is written. -/
inductive Edit : Layout → Json → Json → Prop
  /-- The members of a record change places. -/
  | reorder {fields : List (String × Layout)} {optional : List String}
      {ms ms' : List (String × Json)} (hperm : ms'.Perm ms) :
      Edit (record fields optional) (.object ms) (.object ms')
  /-- A record gets a member that it does not know. -/
  | addUnknown {fields : List (String × Layout)} {optional : List String}
      {ms : List (String × Json)} {name : String} {x : Json}
      (hname : fields.lookup name = none) (hx : x.fault? = none) :
      Edit (record fields optional) (.object ms) (.object (ms ++ [(name, x)]))
  /-- An optional field that is missing is null. -/
  | addNull {fields : List (String × Layout)} {optional : List String}
      {ms : List (String × Json)} {name : String}
      (hname : name ∈ optional) (habsent : ms.lookup name = none) :
      Edit (record fields optional) (.object ms) (.object (ms ++ [(name, .null)]))
  /-- A field is written differently. -/
  | inField {fields : List (String × Layout)} {optional : List String}
      {ms ms' : List (String × Json)} {name : String} {l : Layout} {x x' : Json}
      (hname : fields.lookup name = some l) (h : Edit l x x') :
      Edit (record fields optional) (.object (ms ++ (name, x) :: ms'))
        (.object (ms ++ (name, x') :: ms'))
  /-- An item of a list is written differently. -/
  | inItem {l : Layout} {xs ys : List Json} {x x' : Json} (h : Edit l x x') :
      Edit (list l) (.array (xs ++ x :: ys)) (.array (xs ++ x' :: ys))
  /-- The record of a case is written differently; the tag is one of its fields. -/
  | inCase {tag kind : String} {cases : List (String × List (String × Layout))}
      {fields : List (String × Layout)} {ms ms' : List (String × Json)}
      (hkind : ms.lookup tag = some (.string kind)) (hfields : cases.lookup kind = some fields)
      (h : Edit (record ((tag, fixed) :: fields) []) (.object ms) (.object ms')) :
      Edit (choice tag cases) (.object ms) (.object ms')
  /-- Members with different keys change places. -/
  | reorderFree {ms ms' : List (String × Json)} (hperm : ms'.Perm ms)
      (hnodup : (ms.map Prod.fst).Nodup) : Edit free (.object ms) (.object ms')
  /-- The same within a member. -/
  | inMember {ms ms' : List (String × Json)} {name : String} {x x' : Json} (h : Edit free x x') :
      Edit free (.object (ms ++ (name, x) :: ms')) (.object (ms ++ (name, x') :: ms'))
  /-- The same within an item. -/
  | inFreeItem {xs ys : List Json} {x x' : Json} (h : Edit free x x') :
      Edit free (.array (xs ++ x :: ys)) (.array (xs ++ x' :: ys))

/-- Any number of changes. -/
def Edited (l : Layout) : Json → Json → Prop := Relation.ReflTransGen l.Edit

namespace Edit

variable {l : Layout} {x x' : Json}

/-- Only objects and arrays can be written differently. -/
theorem composite (h : l.Edit x x') :
    (∃ ms ms', x = .object ms ∧ x' = .object ms') ∨ ∃ xs xs', x = .array xs ∧ x' = .array xs' := by
  cases h with
  | reorder | addUnknown | addNull | inField | inCase | reorderFree | inMember =>
      exact .inl ⟨_, _, rfl, rfl⟩
  | inItem | inFreeItem => exact .inr ⟨_, _, rfl, rfl⟩

theorem isBroken_eq (h : l.Edit x x') : x'.isBroken = x.isBroken := by
  obtain ⟨ms, ms', rfl, rfl⟩ | ⟨xs, xs', rfl, rfl⟩ := h.composite <;> rfl

theorem text?_eq (h : l.Edit x x') : x'.text? = x.text? := by
  obtain ⟨ms, ms', rfl, rfl⟩ | ⟨xs, xs', rfl, rfl⟩ := h.composite <;> rfl

theorem ne_null (h : l.Edit x x') : x ≠ .null ∧ x' ≠ .null := by
  obtain ⟨ms, ms', rfl, rfl⟩ | ⟨xs, xs', rfl, rfl⟩ := h.composite <;> exact ⟨nofun, nofun⟩

end Edit

@[simp] theorem fault?_null : Json.null.fault? = none := by simp [Json.fault?]

/-- A value without a fault is not the place where a text breaks off. -/
theorem isBroken_of_fault? {x : Json} (h : x.fault? = none) : x.isBroken = false := by
  cases x with
  | broken f => simp [Json.fault?] at h
  | _ => rfl

theorem fault?_object_eq_none {ms : List (String × Json)} :
    (Json.object ms).fault? = none ↔ ∀ m ∈ ms, m.2.fault? = none := by
  rw [Json.fault?]
  induction ms with
  | nil => simp [Json.faultOfMembers?]
  | cons m ms ih =>
      obtain ⟨k, x⟩ := m
      rw [Json.faultOfMembers?, Option.or_eq_none_iff, ih, List.forall_mem_cons]

theorem fault?_array_eq_none {xs : List Json} :
    (Json.array xs).fault? = none ↔ ∀ x ∈ xs, x.fault? = none := by
  rw [Json.fault?]
  induction xs with
  | nil => simp [Json.faultOfItems?]
  | cons x xs ih => rw [Json.faultOfItems?, Option.or_eq_none_iff, ih, List.forall_mem_cons]

/-- Edits neither make faults nor mend them. -/
theorem Edit.fault?_eq_none_iff {l : Layout} {x x' : Json} (h : l.Edit x x') :
    x'.fault? = none ↔ x.fault? = none := by
  induction h with
  | reorder hperm | reorderFree hperm _ =>
      rw [fault?_object_eq_none, fault?_object_eq_none]
      exact forall_congr' fun m => imp_congr_left hperm.mem_iff
  | addUnknown _ hx => simp [fault?_object_eq_none, or_imp, forall_and, hx]
  | addNull _ _ => simp [fault?_object_eq_none, or_imp, forall_and]
  | inField _ _ ih | inMember _ ih => simp [fault?_object_eq_none, or_imp, forall_and, ih]
  | inItem _ ih | inFreeItem _ ih => simp [fault?_array_eq_none, or_imp, forall_and, ih]
  | inCase _ _ _ ih => exact ih

/-- No edit of the layout makes a difference to the reader. -/
def Unseeing {α : Type} (l : Layout) (read : Json → Option α) : Prop :=
  ∀ ⦃x x' : Json⦄, l.Edit x x' → read x' = read x

theorem unseeing_fixed {α : Type} (read : Json → Option α) : fixed.Unseeing read :=
  fun _ _ h => nomatch h

/-- What no edit changes, any number of them does not. -/
theorem Unseeing.read_eq {α : Type} {l : Layout} {read : Json → Option α} (hread : l.Unseeing read)
    {x x' : Json} (h : l.Edited x x') : read x' = read x := by
  induction h with
  | refl => rfl
  | tail _ hstep ih => rw [hread hstep, ih]

end Layout

/-- A type of which reading undoes writing, and whose reader does not see edits of a layout. -/
class LawfulWire (α : Type) [Wire α] where
  /-- What may be written differently. -/
  layout : Layout
  fault?_encode (x : α) : (encode x).fault? = none
  decode?_encode (x : α) : decode? (encode x) = some x
  unseeing : layout.Unseeing (decode? : Json → Option α)

export LawfulWire (fault?_encode)

attribute [simp] LawfulWire.fault?_encode LawfulWire.decode?_encode

/-- A value is read back from whatever has come from it by edits. -/
theorem decode?_of_edited {α : Type} [Wire α] [LawfulWire α] {x : α} {j : Json}
    (h : (LawfulWire.layout α).Edited (encode x) j) : decode? j = some x := by
  rw [LawfulWire.unseeing.read_eq h, LawfulWire.decode?_encode]

/-! ## 2. Fields -/

namespace Json.Fields

variable {α : Type} [Wire α]

/-! Each accessor looks a field up and reads what it finds. The reading is named here: what was
written is recognised in it as it stands, and one lemma says when it does not see an edit of the
field (`Alike.read_eq`). -/

/-- What a field that has to be there is read from. -/
def readRequired (x : Option Json) : Option α := x.bind decode?

/-- What a field with a value of its own is read from. -/
def readDefault (fallback : α) : Option Json → Option α
  | none => some fallback
  | some x => decode? x

/-- What a field that may be missing or null is read from. -/
def readOptional : Option Json → Option (Option α)
  | none | some .null => some none
  | some x => (decode? x).map some

theorem required?_eq (fs : Json.Fields) (name : String) :
    (fs.required? name : Option α) = readRequired (fs.lookup name) := rfl

theorem withDefault?_eq (fs : Json.Fields) (name : String) (fallback : α) :
    fs.withDefault? name fallback = readDefault fallback (fs.lookup name) := by
  unfold withDefault? readDefault
  cases fs.lookup name <;> rfl

theorem optional?_eq (fs : Json.Fields) (name : String) :
    (fs.optional? name : Option (Option α)) = readOptional (fs.lookup name) := by
  unfold optional? readOptional
  cases fs.lookup name with
  | none => rfl
  | some x => cases x <;> rfl

/-- Null is the same as nothing there, and all else is a value. -/
theorem readOptional_of_ne_null {x : Json} (h : x ≠ .null) :
    (readOptional (some x) : Option (Option α)) = (decode? x).map some := by
  cases x with
  | null => exact absurd rfl h
  | _ => rfl

@[simp] theorem readRequired_encode [LawfulWire α] (x : α) :
    readRequired (some (encode x)) = some x := LawfulWire.decode?_encode x

@[simp] theorem readDefault_encode [LawfulWire α] (fallback x : α) :
    readDefault fallback (some (encode x)) = some x := LawfulWire.decode?_encode x

/-- An optional text is read back, whether or not there is one. -/
@[simp] theorem readOptional_encode (x : Option String) :
    readOptional (x.map encode) = some x := by
  cases x <;> rfl

end Json.Fields

namespace Layout

/-! ## 3. Records -/

section Records

variable {fields : List (String × Layout)} {optional names : List String}

private theorem lookup_eq_some_iff_mem {ms : List (String × Json)}
    (hnodup : (ms.map Prod.fst).Nodup) {name : String} {x : Json} : ms.lookup name = some x ↔ (name, x) ∈ ms := by
  induction ms with
  | nil => simp
  | cons m ms ih =>
      obtain ⟨key, y⟩ := m
      rw [List.map_cons, List.nodup_cons] at hnodup
      by_cases h : name = key
      · subst h
        have hnone : (name, x) ∉ ms := fun hx => hnodup.1 (List.mem_map.mpr ⟨_, hx, rfl⟩)
        simp [hnone, eq_comm]
      · simp [List.lookup_cons, beq_eq_false_iff_ne.mpr h, ih hnodup.2, h]

private theorem lookup_eq_of_perm {ms ms' : List (String × Json)} (hperm : ms'.Perm ms)
    (hnodup : (ms.map Prod.fst).Nodup) (name : String) : ms'.lookup name = ms.lookup name := by
  have hnodup' : (ms'.map Prod.fst).Nodup := (hperm.map Prod.fst).nodup_iff.mpr hnodup
  refine Option.ext fun x => ?_
  rw [lookup_eq_some_iff_mem hnodup', lookup_eq_some_iff_mem hnodup, hperm.mem_iff]

/-- The members that a record knows. -/
def known (names : List String) (ms : List (String × Json)) : Json.Fields :=
  ms.filter fun m => names.contains m.1

/-- An object that can be read as a record: no member breaks off, and none that is known comes
twice. -/
def Readable (names : List String) (ms : List (String × Json)) : Prop :=
  (∀ m ∈ ms, m.2.isBroken = false) ∧ ((known names ms).map Prod.fst).Nodup

theorem record?_of_readable {ms : List (String × Json)} {least : Nat} (h : Readable names ms) :
    (Json.object ms).record? names least = some (known names ms) := by
  have hbroken : (ms.any fun m => m.2.isBroken) = false := by simpa using h.1
  simp only [Json.record?, Json.members?, hbroken]
  exact if_pos h.2

theorem record?_of_not_readable {ms : List (String × Json)} {least : Nat}
    (h : ¬ Readable names ms) : (Json.object ms).record? names least = none := by
  simp only [Json.record?, Json.members?]
  by_cases hbroken : (ms.any fun m => m.2.isBroken) = true
  · simp [hbroken]
  · have hnone : ∀ m ∈ ms, m.2.isBroken = false := by simpa using hbroken
    simp only [Bool.not_eq_true] at hbroken
    simp only [hbroken]
    exact if_neg fun hnodup => h ⟨hnone, hnodup⟩

/-- Fields that differ by edits at most, and by null for what is missing. -/
def Alike (fields : List (String × Layout)) (optional : List String) (fs fs' : Json.Fields) :
    Prop :=
  ∀ name, fs'.lookup name = fs.lookup name
    ∨ (∃ l x x', fields.lookup name = some l ∧ fs.lookup name = some x
        ∧ fs'.lookup name = some x' ∧ l.Edit x x')
    ∨ (name ∈ optional ∧ fs.lookup name = none ∧ fs'.lookup name = some .null)

private theorem lookup_eq_none_iff {α : Type} {ms : List (String × α)} {name : String} :
    ms.lookup name = none ↔ name ∉ ms.map Prod.fst := by
  rw [List.lookup_eq_none_iff, List.mem_map]
  constructor
  · rintro h ⟨m, hm, rfl⟩
    simpa using h m hm
  · intro h m hm
    simpa using fun hname => h ⟨m, hm, hname.symm⟩

private theorem known_append (names : List String) (ms ns : List (String × Json)) :
    known names (ms ++ ns) = known names ms ++ known names ns := List.filter_append ..

private theorem known_cons (names : List String) (m : String × Json) (ms : List (String × Json)) :
    known names (m :: ms) = if m.1 ∈ names then m :: known names ms else known names ms := by
  by_cases h : m.1 ∈ names <;> simp [known, h]

theorem lookup_known {name : String} (h : name ∈ names) (ms : List (String × Json)) :
    (known names ms).lookup name = ms.lookup name := by
  induction ms with
  | nil => rfl
  | cons m ms ih =>
      obtain ⟨key, x⟩ := m
      rw [known_cons]
      by_cases hkey : name = key
      · subst hkey
        simp [h]
      · split_ifs <;> simp [List.lookup_cons, beq_eq_false_iff_ne.mpr hkey, ih]

/-- Two objects are the same to a reader of a record: either both can be read or none, and then
their fields are alike. -/
structure SameRecord (names : List String) (fields : List (String × Layout))
    (optional : List String) (ms ms' : List (String × Json)) : Prop where
  readable_iff : Readable names ms' ↔ Readable names ms
  alike : Readable names ms → Alike fields optional (known names ms) (known names ms')

namespace SameRecord

variable {ms ms' : List (String × Json)} {name : String}

theorem reorder (hperm : ms'.Perm ms) : SameRecord names fields optional ms ms' where
  readable_iff :=
    and_congr (forall_congr' fun _ => imp_congr_left hperm.mem_iff)
      ((hperm.filter _).map Prod.fst).nodup_iff
  alike hread other := .inl (lookup_eq_of_perm (hperm.filter _) hread.2 other)

theorem addUnknown {x : Json} (hout : name ∉ names) (hx : x.fault? = none) :
    SameRecord names fields optional ms (ms ++ [(name, x)]) := by
  have hsame : known names (ms ++ [(name, x)]) = known names ms := by
    rw [known_append, known_cons, if_neg hout]
    exact List.append_nil _
  refine ⟨?_, fun _ other => .inl (by rw [hsame])⟩
  simp only [Readable, hsame, List.forall_mem_append, List.forall_mem_singleton,
    isBroken_of_fault? hx, and_true]

theorem addNull (hin : name ∈ names) (hname : name ∈ optional) (habsent : ms.lookup name = none) :
    SameRecord names fields optional ms (ms ++ [(name, .null)]) := by
  have hadd : known names (ms ++ [(name, .null)]) = known names ms ++ [(name, .null)] := by
    rw [known_append, known_cons, if_pos hin]
    rfl
  have hnew : (known names ms).lookup name = none := by rw [lookup_known hin, habsent]
  constructor
  · have hkeys : ((known names (ms ++ [(name, .null)])).map Prod.fst).Perm
        (name :: (known names ms).map Prod.fst) := by
      rw [hadd, List.map_append]
      exact List.perm_append_singleton name _
    rw [Readable, Readable, hkeys.nodup_iff, List.nodup_cons, List.forall_mem_append,
      List.forall_mem_singleton]
    exact and_congr (and_iff_left rfl) (and_iff_right (lookup_eq_none_iff.mp hnew))
  · intro _ other
    rw [hadd, List.lookup_append]
    by_cases hother : other = name
    · subst hother
      exact .inr (.inr ⟨hname, hnew, by simp [hnew]⟩)
    · exact .inl (by simp [List.lookup_cons, beq_eq_false_iff_ne.mpr hother])

theorem inField {ns : List (String × Json)} {l : Layout} {x x' : Json} (hin : name ∈ names)
    (hname : fields.lookup name = some l) (h : l.Edit x x') :
    SameRecord names fields optional (ms ++ (name, x) :: ns) (ms ++ (name, x') :: ns) := by
  have hsplit : ∀ y, known names (ms ++ (name, y) :: ns)
      = known names ms ++ (name, y) :: known names ns := fun y => by
    rw [known_append, known_cons, if_pos hin]
  constructor
  · simp only [Readable, hsplit, List.forall_mem_append, List.forall_mem_cons, List.map_append,
      List.map_cons, h.isBroken_eq]
  · intro _ other
    rw [hsplit, hsplit, List.lookup_append, List.lookup_append]
    cases hms : (known names ms).lookup other with
    | some y => exact .inl rfl
    | none =>
        by_cases hother : other = name
        · subst hother
          exact .inr (.inl ⟨l, x, x', hname, by simp, by simp, h⟩)
        · exact .inl (by simp [List.lookup_cons, beq_eq_false_iff_ne.mpr hother])

end SameRecord

/-- An edit of a record leaves it the same to its reader. -/
theorem Edit.sameRecord {ms ms' : List (String × Json)}
    (h : (record fields optional).Edit (.object ms) (.object ms'))
    (hnames : fields.map Prod.fst = names) (hoptional : ∀ name ∈ optional, name ∈ names) :
    SameRecord names fields optional ms ms' := by
  cases h with
  | reorder hperm => exact .reorder hperm
  | addUnknown hname hx => exact .addUnknown (hnames ▸ lookup_eq_none_iff.mp hname) hx
  | @addNull _ _ _ name hname habsent => exact .addNull (hoptional name hname) hname habsent
  | @inField _ _ ms ns name l x x' hname h =>
      refine .inField ?_ hname h
      rw [← hnames]
      by_contra hout
      rw [lookup_eq_none_iff.mpr hout] at hname
      cases hname

/-- **Alike fields** are read alike by what does not see edits of the field, if it takes null for
nothing where the field may be null. -/
theorem Alike.read_eq {β : Type} {fs fs' : Json.Fields} (h : Alike fields optional fs fs')
    (name : String) {l : Layout} (hname : fields.lookup name = some l) (read : Option Json → β)
    (hread : ∀ ⦃x x' : Json⦄, l.Edit x x' → read (some x') = read (some x))
    (hnull : name ∈ optional → read (some .null) = read none) :
    read (fs'.lookup name) = read (fs.lookup name) := by
  obtain heq | ⟨l', x, x', hname', hx, hx', hedit⟩ | ⟨hoptional, hx, hx'⟩ := h name
  · rw [heq]
  · obtain rfl : l' = l := Option.some.inj (hname'.symm.trans hname)
    rw [hx, hx', hread hedit]
  · rw [hx, hx', hnull hoptional]

/-- A field that has to be there. -/
theorem Alike.bind_eq {α : Type} {fs fs' : Json.Fields} (h : Alike fields optional fs fs')
    (name : String) {l : Layout} (hname : fields.lookup name = some l) (hrequired : name ∉ optional)
    {read : Json → Option α} (hread : l.Unseeing read) :
    (fs'.lookup name).bind read = (fs.lookup name).bind read :=
  h.read_eq name hname (fun x => x.bind read) (fun _ _ hedit => hread hedit)
    fun hoptional => absurd hoptional hrequired

variable {α : Type} [Wire α] [LawfulWire α]

theorem Alike.required?_eq {fs fs' : Json.Fields} (h : Alike fields optional fs fs')
    (name : String) (hname : fields.lookup name = some (LawfulWire.layout α))
    (hrequired : name ∉ optional) : (fs'.required? name : Option α) = fs.required? name :=
  h.bind_eq name hname hrequired LawfulWire.unseeing

theorem Alike.withDefault?_eq {fs fs' : Json.Fields} (h : Alike fields optional fs fs')
    (name : String) (hname : fields.lookup name = some (LawfulWire.layout α))
    (hrequired : name ∉ optional) (fallback : α) :
    fs'.withDefault? name fallback = fs.withDefault? name fallback := by
  rw [Json.Fields.withDefault?_eq, Json.Fields.withDefault?_eq]
  exact h.read_eq name hname (Json.Fields.readDefault fallback)
    (fun _ _ hedit => LawfulWire.unseeing hedit) fun hoptional => absurd hoptional hrequired

/-- A field that may be null reads the same whether it is missing or null. -/
theorem Alike.optional?_eq {fs fs' : Json.Fields} (h : Alike fields optional fs fs')
    (name : String) (hname : fields.lookup name = some (LawfulWire.layout α)) :
    (fs'.optional? name : Option (Option α)) = fs.optional? name := by
  rw [Json.Fields.optional?_eq, Json.Fields.optional?_eq]
  refine h.read_eq name hname Json.Fields.readOptional (fun x x' hedit => ?_) fun _ => rfl
  obtain ⟨hnull, hnull'⟩ := hedit.ne_null
  rw [Json.Fields.readOptional_of_ne_null hnull, Json.Fields.readOptional_of_ne_null hnull',
    LawfulWire.unseeing hedit]

theorem Edit.of_record {x x' : Json} (h : (record fields optional).Edit x x') :
    ∃ ms ms', x = .object ms ∧ x' = .object ms' := by
  cases h <;> exact ⟨_, _, rfl, rfl⟩

/-- **Records.** What reads the fields of a record one by one does not see edits of the record. -/
theorem unseeing_record {α : Type} {least : Nat} {read : Json.Fields → Option α}
    (hnames : fields.map Prod.fst = names) (hoptional : ∀ name ∈ optional, name ∈ names)
    (hread : ∀ fs fs', Alike fields optional fs fs' → read fs' = read fs) :
    (record fields optional).Unseeing fun x => (x.record? names least).bind read := by
  intro x x' h
  obtain ⟨ms, ms', rfl, rfl⟩ := h.of_record
  obtain ⟨hiff, halike⟩ := h.sameRecord hnames hoptional
  by_cases hreadable : Readable names ms
  · simp only [record?_of_readable hreadable, record?_of_readable (hiff.mpr hreadable),
      Option.bind_some]
    exact hread _ _ (halike hreadable)
  · simp only [record?_of_not_readable hreadable, record?_of_not_readable (mt hiff.mp hreadable),
      Option.bind_none]

end Records

/-! ## 4. Choices -/

section Choices

variable {tag : String} {cases : List (String × List (String × Layout))}

/-- An edit of a record with a tag leaves the tag as it is and is one of the rest. -/
theorem Edit.split_tag {fields : List (String × Layout)} {ms ms' : List (String × Json)}
    (h : (record ((tag, fixed) :: fields) []).Edit (.object ms) (.object ms')) :
    (ms'.filter fun m => m.1 = tag).Perm (ms.filter fun m => m.1 = tag)
    ∧ (record fields []).Edit (.object (ms.filter fun m => m.1 ≠ tag))
        (.object (ms'.filter fun m => m.1 ≠ tag)) := by
  cases h with
  | reorder hperm => exact ⟨hperm.filter _, .reorder (hperm.filter _)⟩
  | @addUnknown _ _ _ name x hname hx =>
      have hother : name ≠ tag := by
        rintro rfl
        simp at hname
      rw [List.lookup_cons, beq_eq_false_iff_ne.mpr hother] at hname
      rw [List.filter_append, List.filter_append, List.filter_cons_of_neg (by simpa using hother),
        List.filter_cons_of_pos (by simpa using hother), List.filter_nil, List.append_nil]
      exact ⟨.refl _, .addUnknown hname hx⟩
  | addNull hname _ => cases hname
  | @inField _ _ ms ns name l x x' hname h =>
      by_cases hother : name = tag
      · -- nothing about the tag can be written differently
        subst hother
        obtain rfl : fixed = l := by simpa using hname
        cases h
      · rw [List.lookup_cons, beq_eq_false_iff_ne.mpr hother] at hname
        have hdrop : ∀ y, (ms ++ (name, y) :: ns).filter (fun m => m.1 = tag)
            = (ms ++ ns).filter fun m => m.1 = tag := fun y => by
          rw [List.filter_append, List.filter_append,
            List.filter_cons_of_neg (by simpa using hother)]
        have hkeep : ∀ y, (ms ++ (name, y) :: ns).filter (fun m => m.1 ≠ tag)
            = ms.filter (fun m => m.1 ≠ tag) ++ (name, y) :: ns.filter fun m => m.1 ≠ tag :=
          fun y => by
            rw [List.filter_append, List.filter_cons_of_pos (by simpa using hother)]
        rw [hdrop, hdrop, hkeep, hkeep]
        exact ⟨.refl _, .inField hname h⟩

/-- An edit of a choice is one of the record of its case, which is the same after it; or the tag is
given more than once, before it and after it. -/
theorem Edit.of_choice {x x' : Json} (h : (choice tag cases).Edit x x') :
    ∃ ms ms' kind fields, x = .object ms ∧ x' = .object ms' ∧ (kind, fields) ∈ cases
      ∧ (record fields []).Edit (.object (ms.filter fun m => m.1 ≠ tag))
          (.object (ms'.filter fun m => m.1 ≠ tag))
      ∧ ((ms.filter fun m => m.1 = tag) = [(tag, .string kind)]
          ∧ (ms'.filter fun m => m.1 = tag) = [(tag, .string kind)]
        ∨ (∃ m n rest, (ms.filter fun m => m.1 = tag) = m :: n :: rest)
          ∧ ∃ m n rest, (ms'.filter fun m => m.1 = tag) = m :: n :: rest) := by
  cases h with
  | @inCase _ kind _ fields ms ms' hkind hfields h =>
      obtain ⟨hperm, hrest⟩ := h.split_tag
      obtain ⟨before, after, hcases, -⟩ := List.lookup_eq_some_iff.mp hfields
      have hmem : (kind, fields) ∈ cases := by simp [hcases]
      refine ⟨ms, ms', kind, fields, rfl, rfl, hmem, hrest, ?_⟩
      obtain ⟨before, after, rfl, hbefore⟩ := List.lookup_eq_some_iff.mp hkind
      have hnone : before.filter (fun m => m.1 = tag) = [] := by
        refine List.filter_eq_nil_iff.mpr fun m hm heq => ?_
        have hne : tag ≠ m.1 := by simpa using hbefore m hm
        exact hne (of_decide_eq_true heq).symm
      have htags : (before ++ (tag, .string kind) :: after).filter (fun m => m.1 = tag)
          = (tag, .string kind) :: after.filter fun m => m.1 = tag := by
        rw [List.filter_append, hnone, List.nil_append, List.filter_cons_of_pos (by simp)]
      rw [htags] at hperm ⊢
      cases hafter : after.filter fun m => m.1 = tag with
      | nil =>
          rw [hafter] at hperm
          exact .inl ⟨rfl, List.perm_singleton.mp hperm⟩
      | cons m rest =>
          rw [hafter] at hperm
          refine .inr ⟨⟨_, _, _, rfl⟩, ?_⟩
          match hms' : ms'.filter fun m => m.1 = tag with
          | m :: n :: rest => exact ⟨m, n, rest, hms'⟩
          | [] | [m] => simp [hms'] at hperm

variable {α : Type} {read : String → Json → Option α}

/-- **Choices.** What reads the fields of each case without seeing edits of them does not see edits
of the choice. -/
theorem unseeing_choice
    (hread : ∀ c ∈ cases, (record c.2 []).Unseeing (read c.1)) :
    (choice tag cases).Unseeing fun x => (x.tagged? tag).bind fun p => read p.1 p.2 := by
  intro x x' h
  have hfault : x'.fault?.isSome = x.fault?.isSome := by
    rw [Bool.eq_iff_iff, Option.isSome_iff_ne_none, Option.isSome_iff_ne_none]
    exact not_congr h.fault?_eq_none_iff
  obtain ⟨ms, ms', kind, fields, rfl, rfl, hmem, hrest, htag⟩ := h.of_choice
  simp only [Json.tagged?, hfault]
  split_ifs with hsome
  · rfl
  · rcases htag with ⟨hms, hms'⟩ | ⟨⟨m, n, ns, hms⟩, m', n', ns', hms'⟩
    · simp only [hms, hms', Option.bind_some]
      exact hread (kind, fields) hmem hrest
    · simp only [hms, hms', Option.bind_none]

/-- The same of a choice within a choice. -/
theorem unseeing_innerChoice {kinds : List String}
    (hread : ∀ c ∈ cases, (record c.2 []).Unseeing (read c.1)) :
    (choice tag cases).Unseeing fun x =>
      (x.innerTagged? tag kinds).bind fun p => read p.1 p.2 := by
  intro x x' h
  obtain ⟨ms, ms', kind, fields, rfl, rfl, hmem, hrest, htag⟩ := h.of_choice
  simp only [Json.innerTagged?]
  rcases htag with ⟨hms, hms'⟩ | ⟨⟨m, n, ns, hms⟩, m', n', ns', hms'⟩
  · simp only [hms, hms', bind, pure, Option.bind_some]
    exact hread (kind, fields) hmem hrest
  · simp only [hms, hms', Option.bind_none]

end Choices

/-! ## 5. Lists and maps -/

/-- **Lists.** What reads items without seeing edits of them does not see edits of a list. -/
theorem unseeing_list {α : Type} [Wire α] {l : Layout}
    (hread : l.Unseeing (decode? : Json → Option α)) :
    (list l).Unseeing (decode? : Json → Option (List α)) := by
  intro x x' h
  cases h with
  | @inItem _ xs ys y y' h =>
      have hmapM : (xs ++ y' :: ys).mapM (decode? : Json → Option α)
          = (xs ++ y :: ys).mapM decode? := by
        simp only [List.mapM_append, List.mapM_cons, hread h]
      exact hmapM

private theorem insert_comm (m : TextMap) {j k : String} (h : j ≠ k) (v w : String) :
    (m.insert j v).insert k w = (m.insert k w).insert j v := by
  refine Std.ExtTreeMap.ext_getElem? fun i => ?_
  simp only [Std.ExtTreeMap.getElem?_insert, Std.compare_eq_iff_eq]
  by_cases hk : k = i
  · subst hk
    simp [h]
  · simp [hk]

/-- Members with different keys are read into the same map in any order. -/
theorem ofMembers?_eq_of_perm {ms ms' : List (String × Json)} (hperm : ms'.Perm ms)
    (hnodup : (ms.map Prod.fst).Nodup) : TextMap.ofMembers? ms' = TextMap.ofMembers? ms := by
  unfold TextMap.ofMembers?
  rw [List.foldlM_eq_foldl, List.foldlM_eq_foldl]
  refine (hperm.symm.foldl_eq' (fun m hm n hn acc => ?_) _).symm
  by_cases hkey : m.1 = n.1
  · rw [List.inj_on_of_nodup_map hnodup hm hn hkey]
  · obtain ⟨j, x⟩ := m
    obtain ⟨k, y⟩ := n
    cases acc with
    | none => rfl
    | some acc =>
        cases hx : x.text? <;> cases hy : y.text? <;>
          simp [bind, pure, hx, hy, insert_comm acc hkey]

/-- **Maps.** What reads a map does not see in which order its members come. -/
theorem unseeing_textMap : free.Unseeing (decode? : Json → Option TextMap) := by
  intro x x' h
  have hmembers : ∀ ms, (decode? (Json.object ms) : Option TextMap)
      = if ms.any (fun m => m.2.isBroken) then none else TextMap.ofMembers? ms := by
    intro ms
    simp only [decode?, Json.members?]
    split_ifs <;> rfl
  cases h with
  | reorderFree hperm hnodup =>
      rw [hmembers, hmembers, ofMembers?_eq_of_perm hperm hnodup, hperm.any_eq]
  | @inMember ms ns name y y' h =>
      simp only [hmembers, TextMap.ofMembers?, List.any_append, List.any_cons, h.isBroken_eq,
        List.foldlM_append, List.foldlM_cons, h.text?_eq]
  | inFreeItem h => rfl

end Layout

end LunConsole
