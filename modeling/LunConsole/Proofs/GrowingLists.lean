import Mathlib.Data.List.Induction
/-!
# Lists that grow at their end

What has happened is kept as a list to which the latest is added at the end. These are the questions
that are asked of such a list, and what one more element does to the answers.
-/

set_option autoImplicit false

namespace LunConsole

variable {α β : Type}

/-- Of what the members of a list tell, the last that is told: that of a new member if it tells
something. -/
theorem getLast?_filterMap_append_singleton (f : α → Option β) (xs : List α) (x : α) :
    ((xs ++ [x]).filterMap f).getLast? = (f x).or (xs.filterMap f).getLast? := by
  have hlast : ([x].filterMap f).getLast? = f x := by
    cases h : f x with
    | none => rw [List.filterMap_cons_none h]; rfl
    | some y => rw [List.filterMap_cons_some h]; rfl
  rw [List.filterMap_append, List.getLast?_append, hlast]

/-- A member of a list that has grown by one is the new one, or stood there before. -/
theorem split_append_singleton {past before after : List α} {x y : α}
    (h : past ++ [y] = before ++ x :: after) :
    (after = [] ∧ past = before ∧ y = x) ∨
      ∃ after', after = after' ++ [y] ∧ past = before ++ x :: after' := by
  rcases List.eq_nil_or_concat after with rfl | ⟨after', z, rfl⟩
  · obtain ⟨rfl, hlast⟩ := List.append_inj' h rfl
    exact .inl ⟨rfl, rfl, List.singleton_inj.mp hlast⟩
  · rw [List.concat_eq_append, ← List.cons_append, ← List.append_assoc] at h
    obtain ⟨rfl, hlast⟩ := List.append_inj' h rfl
    obtain rfl := List.singleton_inj.mp hlast
    exact .inr ⟨after', List.concat_eq_append, rfl⟩

theorem exists_mem_append_singleton {xs : List α} {x : α} {P : α → Prop} :
    (∃ y ∈ xs ++ [x], P y) ↔ (∃ y ∈ xs, P y) ∨ P x := by
  constructor
  · rintro ⟨y, hy, hP⟩
    rcases List.mem_append.mp hy with hy | hy
    · exact .inl ⟨y, hy, hP⟩
    · obtain rfl := List.mem_singleton.mp hy
      exact .inr hP
  · rintro (⟨y, hy, hP⟩ | hP)
    · exact ⟨y, List.mem_append_left _ hy, hP⟩
    · exact ⟨x, List.mem_append_right _ (List.mem_singleton_self x), hP⟩

theorem forall_mem_append_singleton {xs : List α} {x : α} {P : α → Prop} :
    (∀ y ∈ xs ++ [x], P y) ↔ (∀ y ∈ xs, P y) ∧ P x := by
  simp [or_imp, forall_and]

end LunConsole
