import LunConsole.Proofs.Candidates
import LunConsole.Proofs.Console.Chronicle
import LunConsole.Proofs.Watch.News
import LunConsole.Watch.Session
import Mathlib.Logic.Relation
/-!
# When a console is loaded

Three watches feed one console, each with the news of its own list, and between their news anything
else may happen to the console. Whether the console is loaded is a matter of the news alone: each
list must have been read. A list that has been read stays so, whatever its watch meets with later,
so a console that is loaded stays loaded.

What carries this is that nothing but its own watch replaces a list of the console. So the console
has of each list the very snapshot that the tracker of its watch has (`Watched.Shows`), and of the
tracker it is known what it makes of the news (`Tracker.knows_afterNews`).
-/

set_option autoImplicit false

namespace LunConsole

open Console

/-! ## 1. One watch -/

/-- The watch of a list: its session, and the news so far. -/
structure Watched (α β : Type) where
  session : Session α β
  news : List (News α)

namespace Watched

variable {α β : Type} [ApiObject α]

/-- A watch that has not learnt anything. -/
def Begins (w : Watched α β) : Prop := w.session.tracker = .empty ∧ w.news = []

/-- The watch when a step of it has been taken in. -/
def hear (w : Watched α β) (src : Source α β) (c : Console) (step : Follower.Step α) :
    Watched α β :=
  ⟨(w.session.learn src c step).1, w.news ++ step.news.toList⟩

/-- The console is shown a snapshot, or nothing. -/
theorem console_learn (src : Source α β) (s : Session α β) (c : Console) (step : Follower.Step α) :
    (s.learn src c step).2 = c ∨ ∃ snapshot, (s.learn src c step).2 = src.apply c snapshot := by
  rw [Session.learn]
  simp only
  split
  · rename_i snapshot _
    exact .inr ⟨snapshot, rfl⟩
  · exact .inl rfl

/-- The tracker is the one that the news leads to, and the snapshot the last that was published. -/
structure Shows (src : Source α β) (w : Watched α β) (s : Snapshot β) : Prop where
  tracker : w.session.tracker = .afterNews src.list.text src.view w.news
  current : s = w.session.tracker.current

theorem Begins.shows {w : Watched α β} (h : Begins w) (src : Source α β) : Shows src w .empty := by
  obtain ⟨htracker, hnews⟩ := h
  constructor
  · rw [htracker, hnews]
    rfl
  · rw [htracker]
    rfl

theorem Shows.loaded_iff {src : Source α β} {w : Watched α β} {s : Snapshot β}
    (h : Shows src w s) : s.loaded = true ↔ ∃ n ∈ w.news, n.isRestart = true := by
  have hknows := Tracker.knows_afterNews src.list.text src.view w.news
  rw [h.current, h.tracker, hknows.loaded, hknows.ready]

/-- **A step of a watch** is shown in its own list. `held` is what a console has of the list. -/
theorem Shows.hear {src : Source α β} {w : Watched α β} {c : Console}
    (held : Console → Snapshot β) (happly : ∀ c s, held (src.apply c s) = s)
    (h : Shows src w (held c)) (step : Follower.Step α) :
    Shows src (w.hear src c step) (held (w.session.learn src c step).2) := by
  cases hnews : step.news with
  | none =>
      rw [Watched.hear, Session.learn, hnews]
      constructor
      · simp only [Option.toList_none, List.append_nil]
        exact h.tracker
      · exact h.current
  | some n =>
      have hcurrent := Tracker.current_take src.list.text src.view w.session.tracker n
      rw [Watched.hear, Session.learn, hnews]
      constructor
      · simp only [Option.toList_some]
        rw [Tracker.afterNews_append_singleton, ← h.tracker]
      · simp only [hcurrent]
        cases (w.session.tracker.take src.list.text src.view n).2 with
        | none => exact h.current
        | some s => exact happly c s

end Watched

/-! ## 2. Three watches of one console -/

/-- The watches of a console, and its run. -/
structure Watching where
  nodes : Watched CoreNode StorageNode
  discovery : Watched DiscoveryReport DiscoveryReport
  disks : Watched LocalDisk LocalDisk
  run : Run

namespace Watching

/-- What may happen: a step of a watch, which is shown to the console at once, or anything that
brings no list. -/
inductive Step : Watching → Watching → Prop
  | nodes (w : Watching) (step : Follower.Step CoreNode) :
      Step w { w with
        nodes := w.nodes.hear .nodes w.run.console step
        run := w.run.withConsole (w.nodes.session.learn .nodes w.run.console step).2 }
  | discovery (w : Watching) (step : Follower.Step DiscoveryReport) :
      Step w { w with
        discovery := w.discovery.hear .discovery w.run.console step
        run := w.run.withConsole (w.discovery.session.learn .discovery w.run.console step).2 }
  | disks (w : Watching) (step : Follower.Step LocalDisk) :
      Step w { w with
        disks := w.disks.hear .disks w.run.console step
        run := w.run.withConsole (w.disks.session.learn .disks w.run.console step).2 }
  | other {w : Watching} {e : RunEvent} {run : Run} {outputs : List RunOutput}
      (hevent : e.bringsList = false) (hnext : w.run.next? e = some (run, outputs)) :
      Step w { w with run }

/-- Any number of steps. -/
def Steps : Watching → Watching → Prop := Relation.ReflTransGen Step

/-- A console that is new, with watches that have not learnt anything. -/
structure Begins (config : Config) (clock : Instant) (w : Watching) : Prop where
  run : w.run = .start config clock
  nodes : w.nodes.Begins
  discovery : w.discovery.Begins
  disks : w.disks.Begins

/-- The states that such a console may come to. -/
def Reaches (config : Config) (clock : Instant) (w : Watching) : Prop :=
  ∃ w₀, Begins config clock w₀ ∧ Steps w₀ w

/-- The console has of each list the snapshot of its watch. -/
structure Shows (w : Watching) : Prop where
  nodes : w.nodes.Shows .nodes w.run.console.nodes
  discovery : w.discovery.Shows .discovery w.run.console.discovery
  disks : w.disks.Shows .disks w.run.console.disks

variable {config : Config} {clock : Instant} {w w' : Watching}

theorem Begins.shows (h : Begins config clock w) : w.Shows := by
  constructor
  · rw [h.run, Run.start, Console.new, recompute_nodes]
    exact h.nodes.shows _
  · rw [h.run, Run.start, Console.new, recompute_discovery]
    exact h.discovery.shows _
  · rw [h.run, Run.start, Console.new, recompute_disks]
    exact h.disks.shows _

/-- **One step** leaves the console with what its watches show: a step of a watch replaces its own
list, and everything else none. -/
theorem Step.shows (hstep : Step w w') (h : w.Shows) : w'.Shows := by
  cases hstep with
  | nodes step =>
      have hheard := Watched.Shows.hear Console.nodes applyNodes_nodes h.nodes step
      rcases Watched.console_learn .nodes w.nodes.session w.run.console step with hsame | ⟨s, hs⟩
      · rw [hsame] at hheard ⊢
        exact ⟨hheard, h.discovery, h.disks⟩
      · obtain ⟨-, hdiscovery, hdisks⟩ := w.run.console.sameLists_applyNodes s
        rw [hs] at hheard ⊢
        exact ⟨hheard, hdiscovery ▸ h.discovery, hdisks ▸ h.disks⟩
  | discovery step =>
      have hheard := Watched.Shows.hear Console.discovery
        (fun c s => (c.sameLists_applyDiscovery s).discovery) h.discovery step
      rcases Watched.console_learn .discovery w.discovery.session w.run.console step with
        hsame | ⟨s, hs⟩
      · rw [hsame] at hheard ⊢
        exact ⟨h.nodes, hheard, h.disks⟩
      · obtain ⟨hnodes, -, hdisks⟩ := w.run.console.sameLists_applyDiscovery s
        rw [hs] at hheard ⊢
        exact ⟨hnodes ▸ h.nodes, hheard, hdisks ▸ h.disks⟩
  | disks step =>
      have hheard := Watched.Shows.hear Console.disks
        (fun c s => (c.sameLists_applyDisks s).disks) h.disks step
      rcases Watched.console_learn .disks w.disks.session w.run.console step with hsame | ⟨s, hs⟩
      · rw [hsame] at hheard ⊢
        exact ⟨h.nodes, h.discovery, hheard⟩
      · obtain ⟨hnodes, hdiscovery, -⟩ := w.run.console.sameLists_applyDisks s
        rw [hs] at hheard ⊢
        exact ⟨hnodes ▸ h.nodes, hdiscovery ▸ h.discovery, hheard⟩
  | other hevent hnext =>
      have hlists : SameLists w.run.console _ := Run.sameLists_of_next? hnext hevent
      constructor
      · rw [hlists.nodes]
        exact h.nodes
      · rw [hlists.discovery]
        exact h.discovery
      · rw [hlists.disks]
        exact h.disks

theorem Steps.shows (hsteps : Steps w w') (h : w.Shows) : w'.Shows := by
  induction hsteps with
  | refl => exact h
  | tail _ hstep ih => exact hstep.shows ih

theorem Reaches.shows (h : Reaches config clock w) : w.Shows := by
  obtain ⟨w₀, hbegins, hsteps⟩ := h
  exact hsteps.shows hbegins.shows

/-! ## 3. Loaded -/

/-- Each list has been read. -/
structure Read (w : Watching) : Prop where
  nodes : ∃ n ∈ w.nodes.news, n.isRestart = true
  discovery : ∃ n ∈ w.discovery.news, n.isRestart = true
  disks : ∃ n ∈ w.disks.news, n.isRestart = true

/-- **A console is loaded** exactly if each list has been read. -/
theorem Shows.isLoaded_iff (h : w.Shows) : w.run.console.isLoaded = true ↔ w.Read := by
  rw [isLoaded, Bool.and_eq_true, Bool.and_eq_true, h.nodes.loaded_iff, h.discovery.loaded_iff,
    h.disks.loaded_iff]
  constructor
  · rintro ⟨⟨hnodes, hdiscovery⟩, hdisks⟩
    exact ⟨hnodes, hdiscovery, hdisks⟩
  · rintro ⟨hnodes, hdiscovery, hdisks⟩
    exact ⟨⟨hnodes, hdiscovery⟩, hdisks⟩

/-- What has been read is not unread by more news. -/
theorem exists_isRestart_append {α : Type} {news : List (News α)}
    (h : ∃ n ∈ news, n.isRestart = true) (later : List (News α)) :
    ∃ n ∈ news ++ later, n.isRestart = true := by
  obtain ⟨n, hn, hrestart⟩ := h
  exact ⟨n, List.mem_append_left _ hn, hrestart⟩

theorem Step.read (hstep : Step w w') (h : w.Read) : w'.Read := by
  cases hstep with
  | nodes step => exact ⟨exists_isRestart_append h.nodes _, h.discovery, h.disks⟩
  | discovery step => exact ⟨h.nodes, exists_isRestart_append h.discovery _, h.disks⟩
  | disks step => exact ⟨h.nodes, h.discovery, exists_isRestart_append h.disks _⟩
  | other hevent hnext => exact ⟨h.nodes, h.discovery, h.disks⟩

theorem Steps.read (hsteps : Steps w w') (h : w.Read) : w'.Read := by
  induction hsteps with
  | refl => exact h
  | tail _ hstep ih => exact hstep.read ih

/-! ## 4. The whole -/

/-- Of every list, whatever its news and of whichever kind its objects:

* something is published of a failure and, once the list has been read, of everything;
* what is published shows the objects that there were at the last news that was no failure, from the
  first reading on, and is loaded exactly if there has been such news; before that it is empty;
* these objects are, each identity once, those of which the news up to there has told last that they
  are there;
* it carries an error exactly if the last news is a failure, and says which.

And of every console with its three watches, whatever they meet with and whatever else happens to
the console: it is loaded exactly if each of its lists has been read, and stays so. -/
theorem published_by_news_and_loaded_for_good (config : Config) (clock : Instant) :
    (∀ (α β : Type) [ApiObject α] (list : String) (view : α → β) (past : List (News α))
        (n : News α),
      ((Tracker.published list view past n).isSome = true ↔
        n.isFailure = true ∨ ∃ m ∈ past ++ [n], m.isRestart = true) ∧
      ∀ s, Tracker.published list view past n = some s →
        (s.loaded = true ↔ ∃ seen, News.LastContent (past ++ [n]) seen) ∧
        (∀ seen, News.LastContent (past ++ [n]) seen →
          s.data = (Objects.contents seen).map view ∧
          ((Objects.contents seen).map objectKey).Nodup ∧
          ∀ x, x ∈ Objects.contents seen ↔
            (seen.filterMap (Objects.told? (objectKey x))).getLast? = some (some x)) ∧
        ((¬ ∃ seen, News.LastContent (past ++ [n]) seen) → s.data = []) ∧
        (∀ f, n = .failed f → s.error = some s!"Watch failed for {list}: {f.text}") ∧
        (n.isFailure = false → s.error = none)) ∧
    ∀ w, Reaches config clock w →
      (w.run.console.isLoaded = true ↔
        (∃ n ∈ w.nodes.news, n.isRestart = true) ∧
        (∃ n ∈ w.discovery.news, n.isRestart = true) ∧
        ∃ n ∈ w.disks.news, n.isRestart = true) ∧
      (w.run.console.isLoaded = true → ∀ w', Steps w w' → w'.run.console.isLoaded = true) := by
  refine ⟨?_, ?_⟩
  · intro α β _ list view past n
    refine ⟨Tracker.isSome_published_iff, ?_⟩
    intro s hs
    obtain ⟨hloaded, hdata, hempty⟩ := Tracker.content_of_published hs
    have herror : s.error = n.error? list := Tracker.error_of_published hs
    refine ⟨hloaded, ?_, hempty, ?_, ?_⟩
    · intro seen hseen
      exact ⟨hdata seen hseen, Objects.distinct_contents seen, fun x => Objects.mem_contents_iff⟩
    · rintro f rfl
      exact herror
    · intro hn
      rw [herror, News.error?_of_isFailure hn]
  · intro w hw
    have hshows : w.Shows := hw.shows
    refine ⟨?_, ?_⟩
    · rw [hshows.isLoaded_iff]
      constructor
      · rintro ⟨hnodes, hdiscovery, hdisks⟩
        exact ⟨hnodes, hdiscovery, hdisks⟩
      · rintro ⟨hnodes, hdiscovery, hdisks⟩
        exact ⟨hnodes, hdiscovery, hdisks⟩
    · intro hloaded w' hsteps
      have hread : w.Read := hshows.isLoaded_iff.mp hloaded
      exact (hsteps.shows hshows).isLoaded_iff.mpr (hsteps.read hread)

/-- A new console with its watches. -/
def new (config : Config) (clock : Instant) : Watching where
  nodes := ⟨⟨true, .start, false, .empty⟩, []⟩
  discovery := ⟨⟨true, .start, false, .empty⟩, []⟩
  disks := ⟨⟨true, .start, false, .empty⟩, []⟩
  run := .start config clock

theorem begins_new (config : Config) (clock : Instant) : Begins config clock (new config clock) :=
  ⟨rfl, ⟨rfl, rfl⟩, ⟨rfl, rfl⟩, ⟨rfl, rfl⟩⟩

/-- The disk `X`, found at another place. -/
def movedDisk : LocalDisk := { LocalDisk.claiming "X" with spec := ⟨"/dev/sdb", "", false⟩ }

/-- The first attempt to read the disks fails, then there are two of them and one changes. -/
def diskNews : List (News LocalDisk) :=
  [.failed Follower.noVersion, .restarted [.claiming "X", .claiming "Y"], .put movedDisk]

/-- Once the other lists have been read as well, the watch of the disks fails again. -/
theorem published_by_news_and_loaded_for_good_after_failure :
    (∃ s, Tracker.published "local-disks" id diskNews (.failed Follower.noVersion) = some s ∧
      s.loaded = true ∧ s.data = [movedDisk, .claiming "Y"] ∧
      s.error = some "Watch failed for local-disks: there is no resource version") ∧
    ∃ w, Reaches .standard .epoch w ∧
      w.disks.news = diskNews ++ [.failed Follower.noVersion] ∧
      w.run.console.isLoaded = true ∧
      ∀ w', Steps w w' → w'.run.console.isLoaded = true := by
  obtain ⟨hpublished, hwatching⟩ := published_by_news_and_loaded_for_good .standard .epoch
  refine ⟨?_, ?_⟩
  · obtain ⟨hwhen, hwhat⟩ :=
      hpublished LocalDisk LocalDisk "local-disks" id diskNews (.failed Follower.noVersion)
    obtain ⟨s, hs⟩ := Option.isSome_iff_exists.mp (hwhen.mpr (.inl rfl))
    obtain ⟨hloaded, hdata, -, herror, -⟩ := hwhat s hs
    -- the last news that is no failure is the change
    have hlast : News.LastContent (diskNews ++ [.failed Follower.noVersion]) diskNews := by
      refine ⟨⟨_, rfl, ?_⟩, ⟨diskNews.dropLast, .put movedDisk, rfl, rfl⟩, ?_⟩
      · intro n hn
        rw [List.mem_singleton.mp hn]
        rfl
      · exact ⟨_, List.mem_cons_of_mem _ List.mem_cons_self, rfl⟩
    refine ⟨s, hs, hloaded.mpr ⟨_, hlast⟩, (hdata _ hlast).1, herror _ rfl⟩
  · have hlost := Relation.ReflTransGen.single <|
      Step.disks (new .standard .epoch) (Follower.lost Follower.noVersion)
    have hnodes := hlost.tail (.nodes _ ⟨some (.restarted []), .following⟩)
    have hdiscovery := hnodes.tail (.discovery _ ⟨some (.restarted []), .following⟩)
    have hread := hdiscovery.tail
      (.disks _ ⟨some (.restarted [.claiming "X", .claiming "Y"]), .following⟩)
    have hmoved := hread.tail (.disks _ ⟨some (.put movedDisk), .following⟩)
    have hagain := hmoved.tail (.disks _ (Follower.lost Follower.noVersion))
    have hreaches : Reaches .standard .epoch _ := ⟨_, begins_new .standard .epoch, hagain⟩
    obtain ⟨hloaded, hstays⟩ := hwatching _ hreaches
    have hnow := hloaded.mpr
      ⟨⟨_, List.mem_singleton_self _, rfl⟩, ⟨_, List.mem_singleton_self _, rfl⟩,
        ⟨_, List.mem_cons_of_mem _ List.mem_cons_self, rfl⟩⟩
    exact ⟨_, hreaches, rfl, hnow, hstays hnow⟩

end Watching

end LunConsole
