import LunConsole.Proofs.GrowingLists
import LunConsole.Watch.Follower
import Mathlib.Data.List.Nodup
/-!
# Snapshots from news

A tracker folds the news of a list into snapshots. What it publishes is described here without it,
by the news alone: the objects are those that the list held at its last news that was no failure,
provided the list had been read by then (`LastContent`), and the error is that of the latest news.

The objects themselves are a fold over the news as well. Of each identity it says what has been told
of it last (`find?_contents`): that there is an object, which one, or that there is none. No identity
occurs twice (`distinct_contents`), so with that all objects are known (`mem_contents_iff`).
-/

set_option autoImplicit false

namespace LunConsole

variable {α β : Type}

namespace News

/-- The list has been read anew. -/
def isRestart : News α → Bool
  | restarted _ => true
  | _ => false

def isFailure : News α → Bool
  | failed _ => true
  | _ => false

/-- The error of which the news tells. -/
def error? (list : String) : News α → Option String
  | failed f => some s!"Watch failed for {list}: {f.text}"
  | _ => none

theorem error?_of_isFailure {n : News α} (h : n.isFailure = false) (list : String) :
    n.error? list = none := by
  cases n with
  | failed f => cases h
  | restarted xs => rfl
  | put x => rfl
  | deleted x => rfl

theorem isFailure_of_isRestart {n : News α} (h : n.isRestart = true) : n.isFailure = false := by
  cases n with
  | restarted xs => rfl
  | put x => cases h
  | deleted x => cases h
  | failed f => cases h

/-! ## 1. The last content -/

/-- Of the news, `seen` goes as far as the last that is no failure, and by then the list had been
read. -/
structure LastContent (news seen : List (News α)) : Prop where
  since : ∃ later, news = seen ++ later ∧ ∀ n ∈ later, n.isFailure = true
  last : ∃ before n, seen = before ++ [n] ∧ n.isFailure = false
  read : ∃ n ∈ seen, n.isRestart = true

/-- There is such news from the first reading on. -/
theorem exists_lastContent_iff {news : List (News α)} :
    (∃ seen, LastContent news seen) ↔ ∃ n ∈ news, n.isRestart = true := by
  constructor
  · rintro ⟨seen, ⟨later, rfl, -⟩, -, n, hn, hrestart⟩
    exact ⟨n, List.mem_append_left _ hn, hrestart⟩
  · intro hread
    induction news using List.reverseRecOn with
    | nil =>
        obtain ⟨n, hn, -⟩ := hread
        exact absurd hn List.not_mem_nil
    | append_singleton news n ih =>
        by_cases hfailure : n.isFailure = true
        · -- a failure is no reading, so there was one before it
          have hbefore : ∃ m ∈ news, m.isRestart = true := by
            rcases exists_mem_append_singleton.mp hread with hbefore | hrestart
            · exact hbefore
            · rw [isFailure_of_isRestart hrestart] at hfailure
              cases hfailure
          obtain ⟨seen, ⟨later, rfl, hlater⟩, hlast, hseen⟩ := ih hbefore
          refine ⟨seen, ⟨later ++ [n], List.append_assoc .., ?_⟩, hlast, hseen⟩
          exact forall_mem_append_singleton.mpr ⟨hlater, hfailure⟩
        · refine ⟨news ++ [n], ⟨[], (List.append_nil _).symm, ?_⟩, ?_, hread⟩
          · exact fun m hm => absurd hm List.not_mem_nil
          · exact ⟨news, n, rfl, eq_false_of_ne_true hfailure⟩

end News

/-! ## 2. The objects of a list -/

namespace Objects

variable [ApiObject α]

/-- The objects that are known after the news. -/
def contents (news : List (News α)) : List α := news.foldl Tracker.objectsAfter []

theorem contents_append_singleton (news : List (News α)) (n : News α) :
    contents (news ++ [n]) = Tracker.objectsAfter (contents news) n := by
  rw [contents, List.foldl_append, List.foldl_cons, List.foldl_nil, contents]

/-- Failures say nothing of the objects. -/
theorem contents_append_failures (news : List (News α)) {later : List (News α)}
    (h : ∀ n ∈ later, n.isFailure = true) : contents (news ++ later) = contents news := by
  induction later using List.reverseRecOn with
  | nil => rw [List.append_nil]
  | append_singleton later n ih =>
      obtain ⟨hlater, hn⟩ := forall_mem_append_singleton.mp h
      rw [← List.append_assoc, contents_append_singleton, ih hlater]
      cases n with
      | failed f => rfl
      | restarted xs => cases hn
      | put x => cases hn
      | deleted x => cases hn

theorem contents_of_lastContent {news seen : List (News α)} (h : News.LastContent news seen) :
    contents news = contents seen := by
  obtain ⟨later, rfl, hlater⟩ := h.since
  exact contents_append_failures seen hlater

/-- The object of that identity. -/
def find? (key : ObjectKey) (xs : List α) : Option α := xs.find? fun x => objectKey x = key

theorem find?_cons (key : ObjectKey) (x : α) (xs : List α) :
    find? key (x :: xs) = if objectKey x = key then some x else find? key xs := by
  rw [find?, List.find?_cons]
  by_cases hx : objectKey x = key
  · simp [hx]
  · simp [hx, find?]

theorem find?_put (key : ObjectKey) (x : α) (xs : List α) :
    find? key (put x xs) = if objectKey x = key then some x else find? key xs := by
  induction xs with
  | nil => rw [put, find?_cons]
  | cons y ys ih =>
      rw [put]
      by_cases hsame : objectKey y = objectKey x
      · rw [if_pos hsame, find?_cons, find?_cons, hsame]
        split_ifs
        · rfl
        · rfl
      · rw [if_neg hsame, find?_cons, ih, find?_cons]
        split_ifs with hy hx
        · exact absurd (hy.trans hx.symm) hsame
        · rfl
        · rfl
        · rfl

theorem find?_remove (key : ObjectKey) (x : α) (xs : List α) :
    find? key (remove x xs) = if objectKey x = key then none else find? key xs := by
  induction xs with
  | nil => simp [remove, find?]
  | cons y ys ih =>
      rw [remove] at ih ⊢
      by_cases hsame : objectKey y = objectKey x
      · have hdropped : ¬ (objectKey y != objectKey x) = true := by simp [hsame]
        rw [List.filter_cons, if_neg hdropped, ih, find?_cons, hsame]
        split_ifs
        · rfl
        · rfl
      · have hkept : (objectKey y != objectKey x) = true := by simp [hsame]
        rw [List.filter_cons, if_pos hkept, find?_cons, ih, find?_cons]
        split_ifs with hy hx
        · exact absurd (hy.trans hx.symm) hsame
        · rfl
        · rfl
        · rfl

/-- The object if it has that identity. -/
def named? (key : ObjectKey) (x : α) : Option α := if objectKey x = key then some x else none

/-- Of the objects of a list with the same identity the last one counts. -/
theorem find?_ofList (key : ObjectKey) (xs : List α) :
    find? key (ofList xs) = (xs.filterMap (named? key)).getLast? := by
  induction xs using List.reverseRecOn with
  | nil => rfl
  | append_singleton xs x ih =>
      rw [getLast?_filterMap_append_singleton, ← ih, ofList, List.foldl_append, List.foldl_cons,
        List.foldl_nil, find?_put, named?]
      split_ifs
      · rfl
      · rfl

/-- What the news tells of that identity: nothing, that there is no object, or which one there
is. -/
def told? (key : ObjectKey) : News α → Option (Option α)
  | .restarted xs => some (xs.filterMap (named? key)).getLast?
  | .put x => if objectKey x = key then some (some x) else none
  | .deleted x => if objectKey x = key then some none else none
  | .failed _ => none

theorem find?_objectsAfter (key : ObjectKey) (xs : List α) (n : News α) :
    find? key (Tracker.objectsAfter xs n) = (told? key n).getD (find? key xs) := by
  cases n with
  | restarted ys => exact find?_ofList key ys
  | put x =>
      rw [Tracker.objectsAfter, find?_put, told?]
      split_ifs
      · rfl
      · rfl
  | deleted x =>
      rw [Tracker.objectsAfter, find?_remove, told?]
      split_ifs
      · rfl
      · rfl
  | failed f => rfl

/-- **The object of an identity** is what the news has told of it last. -/
theorem find?_contents (key : ObjectKey) (news : List (News α)) :
    find? key (contents news) = ((news.filterMap (told? key)).getLast?).join := by
  induction news using List.reverseRecOn with
  | nil => rfl
  | append_singleton news n ih =>
      rw [contents_append_singleton, find?_objectsAfter, getLast?_filterMap_append_singleton, ih]
      cases told? key n with
      | none => rfl
      | some known => rfl

/-- No two objects have the same identity, so to know the object of each is to know them all. -/
def Distinct (xs : List α) : Prop := (xs.map objectKey).Nodup

theorem map_objectKey_put (x : α) (xs : List α) :
    (put x xs).map objectKey = xs.map objectKey ∨
      (put x xs).map objectKey = xs.map objectKey ++ [objectKey x] ∧
        objectKey x ∉ xs.map objectKey := by
  induction xs with
  | nil => exact .inr ⟨rfl, List.not_mem_nil⟩
  | cons y ys ih =>
      rw [put]
      by_cases hsame : objectKey y = objectKey x
      · rw [if_pos hsame, List.map_cons, List.map_cons, hsame]
        exact .inl rfl
      · rw [if_neg hsame, List.map_cons, List.map_cons]
        rcases ih with hkept | ⟨hadded, hnew⟩
        · exact .inl (by rw [hkept])
        · refine .inr ⟨by rw [hadded, List.cons_append], ?_⟩
          rw [List.mem_cons, not_or]
          exact ⟨Ne.symm hsame, hnew⟩

theorem Distinct.put {xs : List α} (h : Distinct xs) (x : α) : Distinct (put x xs) := by
  rw [Distinct]
  rcases map_objectKey_put x xs with hkept | ⟨hadded, hnew⟩
  · rw [hkept]
    exact h
  · rw [hadded]
    refine List.nodup_append.mpr ⟨h, List.pairwise_singleton _ _, ?_⟩
    rintro key hkey key' hkey' rfl
    rw [List.mem_singleton.mp hkey'] at hkey
    exact hnew hkey

theorem distinct_ofList (xs : List α) : Distinct (ofList xs) := by
  induction xs using List.reverseRecOn with
  | nil => exact List.nodup_nil
  | append_singleton xs x ih =>
      rw [ofList, List.foldl_append]
      exact ih.put x

/-- **No object is kept twice**, whatever the news. -/
theorem distinct_contents (news : List (News α)) : Distinct (contents news) := by
  induction news using List.reverseRecOn with
  | nil => exact List.nodup_nil
  | append_singleton news n ih =>
      rw [contents_append_singleton]
      cases n with
      | restarted xs => exact distinct_ofList xs
      | put x => exact ih.put x
      | deleted x => exact ih.sublist (List.filter_sublist.map objectKey)
      | failed f => exact ih

theorem Distinct.mem_iff {xs : List α} (h : Distinct xs) {x : α} :
    x ∈ xs ↔ find? (objectKey x) xs = some x := by
  constructor
  · intro hx
    -- something of that identity is found, and there is nothing else than `x`
    have hfound : (find? (objectKey x) xs).isSome = true := by
      rw [find?, List.find?_isSome]
      exact ⟨x, hx, decide_eq_true rfl⟩
    obtain ⟨y, hy⟩ := Option.isSome_iff_exists.mp hfound
    rw [find?] at hy
    have hkey : objectKey y = objectKey x := by simpa using List.find?_some hy
    have hsame : y = x := List.inj_on_of_nodup_map h (List.mem_of_find?_eq_some hy) hx hkey
    rw [find?, hy, hsame]
  · exact List.mem_of_find?_eq_some

/-- **The objects are those told of last**, each under its identity. -/
theorem mem_contents_iff {news : List (News α)} {x : α} :
    x ∈ contents news ↔
      (news.filterMap (told? (objectKey x))).getLast? = some (some x) := by
  rw [(distinct_contents news).mem_iff, find?_contents, Option.join_eq_some_iff]

end Objects

/-! ## 3. Trackers -/

namespace Tracker

variable [ApiObject α] {list : String} {view : α → β} {t : Tracker α β} {n : News α}

/-- What becomes of news: a failure is added to the snapshot before it, all else is shown once the
list has been read, and before that it is only remembered. -/
inductive Taken (list : String) (view : α → β) (t : Tracker α β) :
    News α → Tracker α β × Option (Snapshot β) → Prop
  | failed (f : RequestFailure) :
      Taken list view t (.failed f)
        ({ t with current := t.current.withError (errorText list f) },
          some (t.current.withError (errorText list f)))
  | shown {n : News α} (hn : n.isFailure = false) (hread : t.ready = true ∨ n.isRestart = true) :
      Taken list view t n
        (⟨objectsAfter t.objects n, true, .ofData ((objectsAfter t.objects n).map view)⟩,
          some (.ofData ((objectsAfter t.objects n).map view)))
  | unread {n : News α} (hn : n.isFailure = false) (hready : t.ready = false)
      (hrestart : n.isRestart = false) :
      Taken list view t n (⟨objectsAfter t.objects n, false, t.current⟩, none)

theorem taken_take (list : String) (view : α → β) (t : Tracker α β) (n : News α) :
    Taken list view t n (t.take list view n) := by
  cases n with
  | failed f => exact .failed f
  | restarted xs =>
      have hready : (t.ready || true) = true := Bool.or_true _
      simp only [take, hready]
      exact .shown rfl (.inr rfl)
  | put x =>
      cases hready : t.ready with
      | true =>
          simp only [take, hready]
          exact .shown rfl (.inl hready)
      | false =>
          simp only [take, hready]
          exact .unread rfl hready rfl
  | deleted x =>
      cases hready : t.ready with
      | true =>
          simp only [take, hready]
          exact .shown rfl (.inl hready)
      | false =>
          simp only [take, hready]
          exact .unread rfl hready rfl

/-- The tracker knows what the news has told, and the snapshot that it has made of it is the one to
show, error aside. -/
structure Knows (view : α → β) (news : List (News α)) (t : Tracker α β) : Prop where
  objects : t.objects = Objects.contents news
  ready : t.ready = true ↔ ∃ n ∈ news, n.isRestart = true
  loaded : t.current.loaded = t.ready
  data : t.current.data = if t.ready then t.objects.map view else []

theorem knows_empty (view : α → β) : Knows view [] (empty : Tracker α β) := by
  constructor
  · rfl
  · simp [empty]
  · rfl
  · rfl

/-- **What a tracker knows** is kept with all further news. -/
theorem Knows.take {news : List (News α)} (h : Knows view news t) (list : String) (n : News α) :
    Knows view (news ++ [n]) (t.take list view n).1 := by
  have hobjects : objectsAfter t.objects n = Objects.contents (news ++ [n]) := by
    rw [h.objects, Objects.contents_append_singleton]
  have hread : (∃ m ∈ news ++ [n], m.isRestart = true) ↔
      t.ready = true ∨ n.isRestart = true := by
    rw [exists_mem_append_singleton, h.ready]
  have htaken := taken_take list view t n
  generalize t.take list view n = result at htaken ⊢
  cases htaken with
  | failed f =>
      refine ⟨hobjects, ?_, h.loaded, h.data⟩
      rw [hread]
      exact (or_iff_left Bool.false_ne_true).symm
  | shown hn hready =>
      refine ⟨hobjects, ?_, rfl, rfl⟩
      rw [hread]
      exact iff_of_true rfl hready
  | unread hn hready hrestart =>
      refine ⟨hobjects, ?_, h.loaded.trans hready, ?_⟩
      · rw [hread, hready, hrestart]
        simp
      · rw [h.data, hready]
        rfl

/-- A tracker after news, from when nothing was known. -/
def afterNews (list : String) (view : α → β) (news : List (News α)) : Tracker α β :=
  news.foldl (fun t n => (t.take list view n).1) empty

theorem afterNews_append_singleton (list : String) (view : α → β) (news : List (News α))
    (n : News α) :
    afterNews list view (news ++ [n]) = ((afterNews list view news).take list view n).1 := by
  rw [afterNews, List.foldl_append, List.foldl_cons, List.foldl_nil, afterNews]

theorem knows_afterNews (list : String) (view : α → β) (news : List (News α)) :
    Knows view news (afterNews list view news) := by
  induction news using List.reverseRecOn with
  | nil => exact knows_empty view
  | append_singleton news n ih =>
      rw [afterNews_append_singleton]
      exact ih.take list n

/-! ## 4. What is published -/

/-- A tracker has the snapshot that was published last. -/
theorem current_take (list : String) (view : α → β) (t : Tracker α β) (n : News α) :
    (t.take list view n).1.current = (t.take list view n).2.getD t.current := by
  have htaken := taken_take list view t n
  generalize t.take list view n = result at htaken ⊢
  cases htaken with
  | failed f => rfl
  | shown hn hread => rfl
  | unread hn hready hrestart => rfl

/-- What is published of the last piece of news. -/
def published (list : String) (view : α → β) (past : List (News α)) (n : News α) :
    Option (Snapshot β) :=
  ((afterNews list view past).take list view n).2

variable {past : List (News α)} {s : Snapshot β}

/-- **When something is published**: of every failure, and of everything once the list has been
read. -/
theorem isSome_published_iff :
    (published list view past n).isSome = true ↔
      n.isFailure = true ∨ ∃ m ∈ past ++ [n], m.isRestart = true := by
  have hready : (afterNews list view past).ready = true ↔ ∃ m ∈ past, m.isRestart = true :=
    (knows_afterNews list view past).ready
  have htaken := taken_take list view (afterNews list view past) n
  rw [published, exists_mem_append_singleton, ← hready]
  generalize (afterNews list view past).take list view n = result at htaken ⊢
  cases htaken with
  | failed f => exact iff_of_true rfl (.inl rfl)
  | shown hn hread => exact iff_of_true rfl (.inr hread)
  | unread hn hready hrestart =>
      rw [hn, hready, hrestart]
      simp

/-- **The error** is that of the news, if it is a failure. -/
theorem error_of_published (h : published list view past n = some s) :
    s.error = n.error? list := by
  have htaken := taken_take list view (afterNews list view past) n
  rw [published] at h
  generalize (afterNews list view past).take list view n = result at h htaken
  cases htaken with
  | failed f =>
      cases h
      rfl
  | shown hn hread =>
      cases h
      exact (News.error?_of_isFailure hn list).symm
  | unread hn hready hrestart => cases h

/-- **The content** is that of the list at its last news that was no failure. -/
theorem content_of_published (h : published list view past n = some s) :
    (s.loaded = true ↔ ∃ seen, News.LastContent (past ++ [n]) seen) ∧
      (∀ seen, News.LastContent (past ++ [n]) seen →
        s.data = (Objects.contents seen).map view) ∧
      ((¬ ∃ seen, News.LastContent (past ++ [n]) seen) → s.data = []) := by
  -- the snapshot is the one that the tracker has after the news
  have hcurrent : (afterNews list view (past ++ [n])).current = s := by
    rw [published] at h
    rw [afterNews_append_singleton, current_take, h, Option.getD_some]
  have hknows : Knows view (past ++ [n]) (afterNews list view (past ++ [n])) :=
    knows_afterNews list view (past ++ [n])
  have hready : (afterNews list view (past ++ [n])).ready = true ↔
      ∃ seen, News.LastContent (past ++ [n]) seen := by
    rw [hknows.ready, News.exists_lastContent_iff]
  refine ⟨?_, ?_, ?_⟩
  · rw [← hcurrent, hknows.loaded, hready]
  · intro seen hseen
    rw [← hcurrent, hknows.data, if_pos (hready.mpr ⟨seen, hseen⟩), hknows.objects,
      Objects.contents_of_lastContent hseen]
  · intro hnone
    rw [← hcurrent, hknows.data, if_neg fun h => hnone (hready.mp h)]

end Tracker

end LunConsole
