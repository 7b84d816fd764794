import Gatehouse.Dispatch.Gateway
import Gatehouse.Proofs.Dispatch.Submission
import Gatehouse.Proofs.Pattern.Grammar
import Gatehouse.Proofs.Startup.Building
import Gatehouse.Settings.Validation

/-!
# What accepted settings are good for

Settings are checked once, when they are read.  What is made of them later reads the patterns of
routes again and looks at the names of roles again, in code of its own.  Here the check is shown
to have left nothing to find: with accepted settings there is a gateway, every task has a queue
with a name, and no role is refused for its name.

The queue of a task is described by the settings alone (`DispatchSettings.Sends`): a route fits a
name if its text is a pattern that admits the name.

### What is load-bearing

A router keeps patterns and not their texts.  Since a pattern is spelled like the text it was read
from, the routes of a router written out again are the routes of the settings
(`Router.make_eq_ok_iff`), and so what is the first route that fits is the same question on both
sides.
-/

namespace Gatehouse

/-! ## The routes of the settings -/

/-- **A route fits a name** if its text is a pattern that admits the name. -/
def Route.Fits (route : Route) (name : String) : Prop :=
  ∃ pattern, ActionPattern.parse route.pattern = .ok pattern ∧ pattern.admits name = true

/-- **Where settings send a task**: to the queue of the first route that fits its name, or to the
default queue if no route does. -/
def DispatchSettings.Sends (settings : DispatchSettings) (name queue : String) : Prop :=
  (∃ before route after, settings.routes = before ++ route :: after ∧
      (∀ earlier ∈ before, ¬ earlier.Fits name) ∧ route.Fits name ∧ queue = route.queue) ∨
    (∀ route ∈ settings.routes, ¬ route.Fits name) ∧ queue = settings.defaultQueue

/-- The route as it is written in settings. -/
def QueueRoute.written (route : QueueRoute) : Route := ⟨route.pattern.text, route.queue⟩

theorem QueueRoute.fits_written_iff {route : QueueRoute} {name : String} :
    route.written.Fits name ↔ route.pattern.admits name = true := by
  have read : ActionPattern.parse route.written.pattern = .ok route.pattern :=
    route.pattern.parse_text
  unfold Route.Fits
  simp only [read, Except.ok.injEq, exists_eq_left']

namespace Router

theorem readRoute_eq_ok_iff {route : Route} {made : QueueRoute} :
    readRoute route = .ok made ↔ route = made.written := by
  constructor
  · intro reads
    unfold readRoute at reads
    cases parsed : ActionPattern.parse route.pattern with
    | error e =>
      rw [parsed] at reads
      cases reads
    | ok pattern =>
      rw [parsed] at reads
      cases reads
      rw [QueueRoute.written, ActionPattern.text_of_parse parsed]
  · rintro rfl
    unfold readRoute QueueRoute.written
    dsimp only
    rw [ActionPattern.parse_text]
    rfl

/-- **A router is made of the routes that it writes.** -/
theorem make_eq_ok_iff {defaultQueue : String} {routes : List Route} {r : Router} :
    make defaultQueue routes = .ok r ↔
      r.defaultQueue = defaultQueue ∧ routes = r.routes.map QueueRoute.written := by
  have reads : ∀ made : List QueueRoute,
      routes.mapM readRoute = .ok made ↔ routes = made.map QueueRoute.written := by
    intro made
    rw [mapM_eq_ok_iff, ← List.forall₂_eq_eq_eq, List.forall₂_map_right_iff]
    simp only [readRoute_eq_ok_iff]
  obtain ⟨fallback, made⟩ := r
  dsimp only
  rw [← reads, make]
  cases routes.mapM readRoute <;> simp [Except.map, eq_comm]

/-- The queue that a router finds is where the settings send the task. -/
theorem sends_queueFor {settings : DispatchSettings} {r : Router}
    (made : make settings.defaultQueue settings.routes = .ok r) (name : String) :
    settings.Sends name (r.queueFor name) := by
  obtain ⟨sameDefault, written⟩ := make_eq_ok_iff.mp made
  have refuses : ∀ {routes : List QueueRoute},
      (∀ route ∈ routes, route.pattern.admits name = false) →
      ∀ route ∈ routes.map QueueRoute.written, ¬ route.Fits name := by
    intro routes none route mem fits
    obtain ⟨made, stands, rfl⟩ := List.mem_map.mp mem
    rw [QueueRoute.fits_written_iff, none made stands] at fits
    cases fits
  rcases r.routesTo_queueFor name with ⟨before, route, after, split, none, admits, queue⟩ | none
  · refine Or.inl ⟨before.map QueueRoute.written, route.written, after.map QueueRoute.written,
      ?_, refuses none, QueueRoute.fits_written_iff.mpr admits, queue⟩
    rw [written, split, List.map_append, List.map_cons]
  · refine Or.inr ⟨?_, none.2.trans sameDefault⟩
    rw [written]
    exact refuses none.1

end Router

/-! ## What the check has seen -/

theorem Route.fault?_eq_none_iff {route : Route} :
    route.fault? = none ↔
      (∃ pattern, ActionPattern.parse route.pattern = .ok pattern) ∧ route.queue ≠ "" := by
  unfold Route.fault?
  cases ActionPattern.parse route.pattern <;> simp

theorem DispatchSettings.fault?_eq_none_iff {settings : DispatchSettings} :
    settings.fault? = none ↔ settings.breaker.fault? = none ∧ settings.defaultQueue ≠ "" ∧
      ∀ route ∈ settings.routes,
        (∃ pattern, ActionPattern.parse route.pattern = .ok pattern) ∧ route.queue ≠ "" := by
  unfold DispatchSettings.fault?
  rw [Option.or_eq_none_iff]
  refine and_congr_right fun _ => ?_
  by_cases unnamed : settings.defaultQueue = ""
  · simp [unnamed]
  · simp only [unnamed, if_false, List.findSome?_eq_none_iff, Route.fault?_eq_none_iff, ne_eq,
      not_false_eq_true, true_and]

theorem AuthorizationSettings.fault?_eq_none_iff {settings : AuthorizationSettings} :
    settings.fault? = none ↔ (∀ role ∈ settings.roles, Text.isBlank role.name = false) ∧
      ∀ entry ∈ settings.assignments, Text.isBlank entry.subject = false := by
  have roles : (settings.roles.any fun role => Text.isBlank role.name) = false ↔
      ∀ role ∈ settings.roles, Text.isBlank role.name = false := by simp
  have entries : (settings.assignments.any fun entry => Text.isBlank entry.subject) = false ↔
      ∀ entry ∈ settings.assignments, Text.isBlank entry.subject = false := by simp
  rw [← roles, ← entries]
  unfold AuthorizationSettings.fault?
  cases settings.roles.any fun role => Text.isBlank role.name with
  | true => simp
  | false => cases settings.assignments.any fun entry => Text.isBlank entry.subject <;> simp

/-- **What is accepted**: every section on its own. -/
theorem Settings.fault?_eq_none_iff {settings : Settings} :
    settings.fault? = none ↔ settings.authorization.fault? = none ∧
      settings.dispatch.fault? = none ∧ settings.observability.fault? = none := by
  unfold Settings.fault?
  rw [Option.or_eq_none_iff, Option.or_eq_none_iff]

/-! ## What is made of accepted settings -/

/-- Tasks are sent to queues with names if all queues of the settings have names. -/
theorem DispatchSettings.Sends.queue_ne_empty {settings : DispatchSettings} {name queue : String}
    (sends : settings.Sends name queue) (fallback : settings.defaultQueue ≠ "")
    (named : ∀ route ∈ settings.routes, route.queue ≠ "") : queue ≠ "" := by
  rcases sends with ⟨before, route, after, split, -, -, rfl⟩ | ⟨-, rfl⟩
  · exact named route (by rw [split]; simp)
  · exact fallback

/-- **Accepted settings have a gateway.** -/
theorem Gateway.exists_ofSettings {settings : DispatchSettings}
    (patterns : ∀ route ∈ settings.routes,
      ∃ pattern, ActionPattern.parse route.pattern = .ok pattern) :
    ∃ r, Router.make settings.defaultQueue settings.routes = .ok r ∧
      ofSettings settings = .ok (make r (.make "broker" settings.breaker)) := by
  have each : ∀ route ∈ settings.routes, ∃ made, Router.readRoute route = .ok made := by
    intro route mem
    obtain ⟨pattern, parsed⟩ := patterns route mem
    exact ⟨⟨pattern, route.queue⟩, by rw [Router.readRoute, parsed]; rfl⟩
  obtain ⟨made, read⟩ := exists_mapM_eq_ok_iff.mpr each
  have router : Router.make settings.defaultQueue settings.routes =
      .ok ⟨settings.defaultQueue, made⟩ := by
    rw [Router.make, read]
    rfl
  exact ⟨_, router, by rw [ofSettings, router]; rfl⟩

namespace Startup

variable {files : Files} {s : AuthorizationSettings} {paths : List String}

/-- No name of a policy or a role that is missing is a role without a name. -/
theorem emptyRoleName_notMem_unknown {fault : String → RegistryFault}
    (other : ∀ name, fault name ≠ .emptyRoleName) (known names : List String) :
    .registry .emptyRoleName ∉ unknown fault known names := by
  intro mem
  obtain ⟨name, -, same⟩ := List.mem_map.mp mem
  exact other name (StartupError.registry.inj same)

/-- **Only a role without a name is refused for its name.** -/
theorem exists_of_emptyRoleName_mem (mem : .registry .emptyRoleName ∈ problems files s paths) :
    ∃ role ∈ s.roles, Text.isBlank role.name = true := by
  unfold problems at mem
  simp only [List.mem_append, List.mem_flatMap] at mem
  rcases mem with folder | ⟨path, -, file⟩ | ⟨role, stands, problem⟩ | ⟨a, -, problem⟩
  · unfold folderProblems at folder
    split at folder
    · cases folder
    · split at folder <;> simp at folder
  · unfold fileProblems at file
    split at file <;> simp at file
  · rw [roleProblems, List.mem_append] at problem
    rcases problem with unnamed | unknown
    · exact ⟨role, stands, by_contra fun named => by simp [named] at unnamed⟩
    · exact absurd unknown (emptyRoleName_notMem_unknown (fun _ => by simp) _ _)
  · rw [assignmentProblems, List.mem_append] at problem
    rcases problem with unknown | unknown
    · exact absurd unknown (emptyRoleName_notMem_unknown (fun _ => by simp) _ _)
    · exact absurd unknown (emptyRoleName_notMem_unknown (fun _ => by simp) _ _)

theorem directory_ne_emptyRoleName
    (named : ∀ role ∈ s.roles, Text.isBlank role.name = false) (files : Files) :
    directory files s ≠ .error (.registry .emptyRoleName) := by
  intro refused
  obtain ⟨paths, -, found⟩ := exists_loadOrder files s
  have outcome := firstProblem_directory found
  rw [refused] at outcome
  obtain ⟨role, stands, blank⟩ := exists_of_emptyRoleName_mem (List.mem_of_head? outcome)
  rw [named role stands] at blank
  cases blank

end Startup

/-- **Accepted settings can be relied on.**  The gateway that they describe is made.  Every task
has a queue there, whose name is not empty: the one of the first route of the settings that fits
the name of the task, or the default queue if none does.  And whatever there is in the files, the
directory is not refused for a role without a name. -/
theorem accepted_settings_can_be_relied_on (settings : Settings)
    (accepted : settings.fault? = none) :
    (∃ gateway, Gateway.ofSettings settings.dispatch = .ok gateway ∧
      ∀ name, gateway.router.queueFor name ≠ "" ∧
        settings.dispatch.Sends name (gateway.router.queueFor name)) ∧
    ∀ files, Startup.directory files settings.authorization ≠
      .error (.registry .emptyRoleName) := by
  obtain ⟨authorization, dispatch, -⟩ := Settings.fault?_eq_none_iff.mp accepted
  obtain ⟨-, fallback, routes⟩ := DispatchSettings.fault?_eq_none_iff.mp dispatch
  obtain ⟨roles, -⟩ := AuthorizationSettings.fault?_eq_none_iff.mp authorization
  refine ⟨?_, Startup.directory_ne_emptyRoleName roles⟩
  obtain ⟨router, made, ofSettings⟩ :=
    Gateway.exists_ofSettings fun route mem => (routes route mem).1
  refine ⟨_, ofSettings, fun name => ?_⟩
  have sends := Router.sends_queueFor made name
  exact ⟨sends.queue_ne_empty fallback fun route mem => (routes route mem).2, sends⟩

/-- Two routes fit a task: both the queue and its name come from the settings. -/
theorem task_that_two_routes_fit_has_queue :
    let settings : Settings :=
      { Settings.standard with
        authorization := { AuthorizationSettings.standard with roles := [⟨"editor", ["none"]⟩] }
        dispatch := { DispatchSettings.standard with
          routes := [⟨"export.*", "export"⟩, ⟨"*.reindex", "search"⟩] } }
    settings.fault? = none ∧
    (∃ gateway, Gateway.ofSettings settings.dispatch = .ok gateway ∧
      gateway.router.queueFor "export.reindex" ≠ "" ∧
      settings.dispatch.Sends "export.reindex" (gateway.router.queueFor "export.reindex")) ∧
    Startup.directory .none settings.authorization ≠ .error (.registry .emptyRoleName) := by
  intro settings
  have accepted : settings.fault? = none := by decide
  obtain ⟨⟨gateway, made, queues⟩, named⟩ :=
    accepted_settings_can_be_relied_on settings accepted
  exact ⟨accepted, ⟨gateway, made, queues "export.reindex"⟩, named .none⟩

end Gatehouse
