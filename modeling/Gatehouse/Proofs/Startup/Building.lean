import Gatehouse.Proofs.Policy.Acceptance
import Gatehouse.Proofs.Registry.Distinct
import Gatehouse.Startup

/-!
# What startup builds

Startup is a row of loops that change a directory as they go and stop at the first problem.
Here it is described without a directory and without steps.

* The files are loaded in a `LoadOrder`, of which there is just one for given settings.
* `problems` is everything that is wrong with settings and files, in order: nothing of it
  depends on how far startup has come.  What is `Sound` has no problems.
* What a file gives is its policy (`Policy.StandsIn`) or the first of its faults, which is known
  for single files (`Policy.load_eq_ok_iff`, `Policy.firstProblem_load`).
* `MadeFrom` says what is in the registry: for each name the policy of the last file that has it
  and the last role that has it, and for each subject its grants in the order of the settings.

The theorem is that startup fails with the first of these problems or builds just that.

### What is load-bearing

A role is checked against the policies that are installed when it is defined, and a grant against
the policies and roles that are there when it is made.  For `problems` to compare them with all
files and all roles instead, loading has to be over before the first role is defined, and all
roles have to be defined before the first grant: later files and later roles never help.  This is
the only place where the order of the loops matters for what is a problem; otherwise it decides
which one is the first.
-/

namespace Gatehouse

/-! ## The last one of a name -/

section LastNamed

variable {α : Type u} (nameOf : α → String)

/-- The last one of this name. -/
def lastNamed (name : String) (xs : List α) : Option α :=
  (xs.filter fun x => nameOf x = name).getLast?

theorem lastNamed_concat (name : String) (xs : List α) (x : α) :
    lastNamed nameOf name (xs ++ [x]) =
      if nameOf x = name then some x else lastNamed nameOf name xs := by
  unfold lastNamed
  rw [List.filter_append]
  by_cases same : nameOf x = name
  · rw [if_pos same, List.filter_cons_of_pos (by simpa using same)]
    exact List.getLast?_concat
  · rw [if_neg same, List.filter_cons_of_neg (by simpa using same), List.filter_nil,
      List.append_nil]

theorem isSome_lastNamed_iff (name : String) (xs : List α) :
    (lastNamed nameOf name xs).isSome = true ↔ name ∈ xs.map nameOf := by
  unfold lastNamed
  rw [List.getLast?_isSome, Ne, List.filter_eq_nil_iff, List.mem_map]
  simp

end LastNamed

namespace Startup

variable {files : Files} {s : AuthorizationSettings} {paths : List String}

/-! ## The order of loading -/

/-- **The order of loading**: the files that are listed, and after them the policy files in the
folder, ordered by name. -/
inductive LoadOrder (files : Files) (s : AuthorizationSettings) : List String → Prop where
  | noFolder (unset : s.policyDir = none) : LoadOrder files s s.policyFiles
  | unreadable {folder : String} {fault : FileFault} (set : s.policyDir = some folder)
      (failed : files.names folder = .error fault) : LoadOrder files s s.policyFiles
  | folder {folder : String} {names ordered : List String} (set : s.policyDir = some folder)
      (read : files.names folder = .ok names)
      (same : ordered.Perm (names.filter fun name => FilePath.extension? name == some "json"))
      (ascending : ordered.Pairwise (· ≤ ·)) :
      LoadOrder files s (s.policyFiles ++ ordered.map (FilePath.inFolder folder))

theorem LoadOrder.unique {other : List String} (order : LoadOrder files s paths)
    (order' : LoadOrder files s other) : other = paths := by
  cases order with
  | noFolder unset =>
    cases order' with
    | noFolder _ => rfl
    | unreadable set' _ => cases unset.symm.trans set'
    | folder set' _ _ _ => cases unset.symm.trans set'
  | unreadable set failed =>
    cases order' with
    | noFolder unset' => cases unset'.symm.trans set
    | unreadable _ _ => rfl
    | folder set' read' _ _ =>
      cases set.symm.trans set'
      cases failed.symm.trans read'
  | folder set read same ascending =>
    cases order' with
    | noFolder unset' => cases unset'.symm.trans set
    | unreadable set' failed' =>
      cases set.symm.trans set'
      cases read.symm.trans failed'
    | folder set' read' same' ascending' =>
      cases set.symm.trans set'
      cases read.symm.trans read'
      have equal := List.Perm.eq_of_pairwise (fun a b _ _ => String.le_antisymm)
        ascending ascending' (same.trans same'.symm)
      rw [equal]

/-! ## Problems -/

/-- The policies of the files that have one. -/
def loaded (files : Files) (paths : List String) : List Policy :=
  paths.filterMap fun path => (Policy.load files path).toOption

/-- The names that are not known, each as a problem. -/
def unknown (fault : String → RegistryFault) (known names : List String) : List StartupError :=
  (names.filter (· ∉ known)).map fun name => .registry (fault name)

/-- What is wrong with the folder. -/
def folderProblems (files : Files) (s : AuthorizationSettings) : List StartupError :=
  match s.policyDir with
  | none => []
  | some folder =>
    match files.names folder with
    | .error fault => [.folder folder fault]
    | .ok _ => []

/-- What is wrong with a file. -/
def fileProblems (files : Files) (path : String) : List StartupError :=
  match Policy.load files path with
  | .error error => [.policy error]
  | .ok _ => []

/-- What is wrong with a role. -/
def roleProblems (policies : List Policy) (role : Role) : List StartupError :=
  (if Text.isBlank role.name then [.registry .emptyRoleName] else []) ++
    unknown (.unknownPolicyInRole role.name) (policies.map (·.name)) role.policies

/-- What is wrong with a grant. -/
def grantProblems (policies : List Policy) (roles : List Role) (grant : Grant) :
    List StartupError :=
  match grant.kind with
  | .policy => unknown .unknownPolicy (policies.map (·.name)) [grant.name]
  | .role => unknown .unknownRole (roles.map (·.name)) [grant.name]

/-- What is wrong with an assignment. -/
def assignmentProblems (policies : List Policy) (roles : List Role) (a : Assignment) :
    List StartupError :=
  unknown .unknownPolicy (policies.map (·.name)) a.policies ++
    unknown .unknownRole (roles.map (·.name)) a.roles

/-- **All that is wrong**, in order. -/
def problems (files : Files) (s : AuthorizationSettings) (paths : List String) :
    List StartupError :=
  folderProblems files s ++ (paths.flatMap (fileProblems files) ++
    (s.roles.flatMap (roleProblems (loaded files paths)) ++
      s.assignments.flatMap (assignmentProblems (loaded files paths) s.roles)))

/-- **Nothing is wrong**: the folder can be read, every file has a policy, every role has a name
and names loaded policies only, and every assignment names loaded policies and defined roles
only. -/
structure Sound (files : Files) (s : AuthorizationSettings) (paths : List String) : Prop where
  folder : ∀ folder, s.policyDir = some folder → ∃ names, files.names folder = .ok names
  each : ∀ path ∈ paths, ∃ policy, Policy.load files path = .ok policy
  roles : ∀ role ∈ s.roles, Text.isBlank role.name = false ∧
    ∀ name ∈ role.policies, name ∈ (loaded files paths).map (·.name)
  assignments : ∀ a ∈ s.assignments,
    (∀ name ∈ a.policies, name ∈ (loaded files paths).map (·.name)) ∧
      ∀ name ∈ a.roles, name ∈ s.roles.map (·.name)

theorem unknown_eq_nil_iff {fault : String → RegistryFault} {known names : List String} :
    unknown fault known names = [] ↔ ∀ name ∈ names, name ∈ known := by
  simp [unknown, List.filter_eq_nil_iff]

theorem unknown_singleton (fault : String → RegistryFault) (known : List String)
    (name : String) :
    unknown fault known [name] = if name ∈ known then [] else [.registry (fault name)] := by
  unfold unknown
  by_cases mem : name ∈ known
  · rw [if_pos mem, List.filter_cons_of_neg (by simpa using mem)]
    rfl
  · rw [if_neg mem, List.filter_cons_of_pos (by simpa using mem)]
    rfl

theorem unknown_eq_flatMap (fault : String → RegistryFault) (known names : List String) :
    unknown fault known names = names.flatMap fun name => unknown fault known [name] := by
  induction names with
  | nil => rfl
  | cons name names ih =>
    rw [List.flatMap_cons, ← ih]
    unfold unknown
    rw [← List.map_append, ← List.filter_append, List.singleton_append]

/-- The problems of an assignment are those of its grants. -/
theorem assignmentProblems_eq (policies : List Policy) (roles : List Role) (a : Assignment) :
    assignmentProblems policies roles a = a.grants.flatMap (grantProblems policies roles) := by
  unfold assignmentProblems Assignment.grants
  rw [List.flatMap_append, List.flatMap_map, List.flatMap_map, unknown_eq_flatMap,
    unknown_eq_flatMap .unknownRole]
  rfl

theorem folderProblems_eq_nil_iff : folderProblems files s = [] ↔
    ∀ folder, s.policyDir = some folder → ∃ names, files.names folder = .ok names := by
  unfold folderProblems
  cases s.policyDir with
  | none => simp
  | some folder => cases read : files.names folder <;> simp [read]

theorem fileProblems_eq_nil_iff {path : String} :
    fileProblems files path = [] ↔ ∃ policy, Policy.load files path = .ok policy := by
  unfold fileProblems
  cases Policy.load files path <;> simp

/-- The problem of a file is the first of its faults. -/
theorem fileProblems_eq (files : Files) (path : String) :
    fileProblems files path =
      ((Policy.fileFaults files path).take 1).map StartupError.policy := by
  have outcome := Policy.firstProblem_load files path
  unfold fileProblems
  cases result : Policy.load files path with
  | error error =>
    rw [result] at outcome
    have first : (Policy.fileFaults files path).head? = some error := outcome
    obtain ⟨rest, faults⟩ := List.head?_eq_some_iff.mp first
    rw [faults]
    rfl
  | ok policy =>
    rw [result] at outcome
    rw [outcome.1]
    rfl

/-- **What is loaded stands in the files**, in their order, if every file has a policy. -/
theorem forall₂_loaded (each : ∀ path ∈ paths, ∃ policy, Policy.load files path = .ok policy) :
    List.Forall₂ (fun path policy => policy.StandsIn files path) paths (loaded files paths) := by
  induction paths with
  | nil => exact .nil
  | cons path paths ih =>
    rw [List.forall_mem_cons] at each
    obtain ⟨⟨policy, load⟩, others⟩ := each
    have first : loaded files (path :: paths) = policy :: loaded files paths := by
      unfold loaded
      rw [List.filterMap_cons, load]
      rfl
    rw [first]
    exact .cons (Policy.load_eq_ok_iff.mp load) (ih others)

theorem roleProblems_eq_nil_iff {policies : List Policy} {role : Role} :
    roleProblems policies role = [] ↔ Text.isBlank role.name = false ∧
      ∀ name ∈ role.policies, name ∈ policies.map (·.name) := by
  unfold roleProblems
  rw [List.append_eq_nil_iff, unknown_eq_nil_iff]
  cases Text.isBlank role.name <;> simp

theorem assignmentProblems_eq_nil_iff {policies : List Policy} {roles : List Role}
    {a : Assignment} :
    assignmentProblems policies roles a = [] ↔
      (∀ name ∈ a.policies, name ∈ policies.map (·.name)) ∧
        ∀ name ∈ a.roles, name ∈ roles.map (·.name) := by
  unfold assignmentProblems
  rw [List.append_eq_nil_iff, unknown_eq_nil_iff, unknown_eq_nil_iff]

/-- What is sound is what has no problems. -/
theorem problems_eq_nil_iff : problems files s paths = [] ↔ Sound files s paths := by
  unfold problems
  simp only [List.append_eq_nil_iff, List.flatMap_eq_nil_iff, folderProblems_eq_nil_iff,
    fileProblems_eq_nil_iff, roleProblems_eq_nil_iff, assignmentProblems_eq_nil_iff]
  exact ⟨fun ⟨folder, each, roles, assignments⟩ => ⟨folder, each, roles, assignments⟩,
    fun sound => ⟨sound.folder, sound.each, sound.roles, sound.assignments⟩⟩

/-! ## The registry on the way -/

/-- The grants that assignments make to a subject, in order: those of policies and then those
of roles, for each assignment that names the subject. -/
def grantsTo (subject : Subject) (assignments : List Assignment) : List Grant :=
  (assignments.filter fun a => Subject.ofText a.subject = subject).flatMap fun a =>
    a.policies.map (⟨.policy, ·, a.prebound⟩) ++ a.roles.map (⟨.role, ·, a.prebound⟩)

/-- Grants to one subject, after all that there are already. -/
def withGrants (granted : Subject → List Grant) (subject : Subject) (grants : List Grant)
    (other : Subject) : List Grant :=
  granted other ++ if subject = other then grants else []

theorem withGrants_nil (granted : Subject → List Grant) (subject : Subject) :
    withGrants granted subject [] = granted := by
  funext other
  unfold withGrants
  rw [ite_self, List.append_nil]

theorem withGrants_concat (granted : Subject → List Grant) (subject : Subject)
    (grants : List Grant) (grant : Grant) :
    withGrants (withGrants granted subject grants) subject [grant] =
      withGrants granted subject (grants ++ [grant]) := by
  funext other
  unfold withGrants
  split
  · rw [List.append_assoc]
  · rw [List.append_nil]

theorem grantsTo_concat (assignments : List Assignment) (a : Assignment) :
    (grantsTo · (assignments ++ [a])) =
      withGrants (grantsTo · assignments) (.ofText a.subject) a.grants := by
  funext subject
  unfold grantsTo withGrants
  rw [List.filter_append, List.flatMap_append]
  by_cases same : Subject.ofText a.subject = subject
  · rw [if_pos same, List.filter_cons_of_pos (by simpa using same)]
    exact congrArg _ (List.flatMap_singleton _ a)
  · rw [if_neg same, List.filter_cons_of_neg (by simpa using same)]
    rfl

/-- **What a registry is made from**: it has these policies and these roles, the last one of
each name, and each subject has these grants, none of them twice. -/
structure MadeFrom (policies : List Policy) (roles : List Role) (granted : Subject → List Grant)
    (r : Registry) : Prop where
  policies : ∀ name, r.policy? name = lastNamed Policy.name name policies
  roles : ∀ name, r.role? name = lastNamed Role.name name roles
  grants : ∀ subject, r.grantsOf subject = (granted subject).eraseDups

namespace MadeFrom

variable {policies : List Policy} {roles : List Role} {granted : Subject → List Grant}
  {r : Registry}

theorem empty : MadeFrom [] [] (fun _ => []) .empty where
  policies _ := rfl
  roles _ := rfl
  grants _ := rfl

theorem install (made : MadeFrom policies roles granted r) (policy : Policy) :
    MadeFrom (policies ++ [policy]) roles granted (r.install policy) where
  policies name := by
    rw [lastNamed_concat, ← made.policies name]
    exact r.policies.get?_insert policy.name policy name
  roles := made.roles
  grants := made.grants

theorem define (made : MadeFrom policies roles granted r) (role : Role) :
    MadeFrom policies (roles ++ [role]) granted
      { r with roles := r.roles.insert role.name role } where
  policies := made.policies
  roles name := by
    rw [lastNamed_concat, ← made.roles name]
    exact r.roles.get?_insert role.name role name
  grants := made.grants

/-- A grant comes last, unless the subject has it already. -/
theorem grant (made : MadeFrom policies roles granted r) {subject : Subject} {grant : Grant}
    {result : Bool × Registry} (h : r.grant subject grant = .ok result) :
    MadeFrom policies roles (withGrants granted subject [grant]) result.2 where
  policies := by
    rcases Registry.grant_cases h with ⟨-, rfl⟩ | ⟨-, rfl⟩ <;> exact made.policies
  roles := by
    rcases Registry.grant_cases h with ⟨-, rfl⟩ | ⟨-, rfl⟩ <;> exact made.roles
  grants := Registry.grantsOf_of_grant made.grants h

/-! ### What is checked -/

theorem contains_policy (made : MadeFrom policies roles granted r) (name : String) :
    r.policies.contains name = decide (name ∈ policies.map (·.name)) := by
  have found : r.policies.contains name = (lastNamed Policy.name name policies).isSome :=
    congrArg Option.isSome (made.policies name)
  rw [found, Bool.eq_iff_iff, isSome_lastNamed_iff, decide_eq_true_iff]

theorem contains_role (made : MadeFrom policies roles granted r) (name : String) :
    r.roles.contains name = decide (name ∈ roles.map (·.name)) := by
  have found : r.roles.contains name = (lastNamed Role.name name roles).isSome :=
    congrArg Option.isSome (made.roles name)
  rw [found, Bool.eq_iff_iff, isSome_lastNamed_iff, decide_eq_true_iff]

/-- The fault of a role is the first of its problems. -/
theorem head?_roleProblems (made : MadeFrom policies roles granted r) (role : Role) :
    (roleProblems policies role).head? = (r.roleFault? role).map .registry := by
  unfold roleProblems Registry.roleFault?
  cases Text.isBlank role.name with
  | true => rfl
  | false =>
    simp only [Bool.false_eq_true, if_false, List.nil_append, unknown, List.head?_map,
      List.head?_filter, Option.map_map, made.contains_policy, decide_not]
    rfl

/-- The fault of a grant is its problem. -/
theorem grantProblems_eq (made : MadeFrom policies roles granted r) (grant : Grant) :
    grantProblems policies roles grant = ((r.grantFault? grant).map .registry).toList := by
  unfold grantProblems Registry.grantFault?
  cases grant.kind with
  | policy =>
    simp only [unknown_singleton, made.contains_policy, decide_eq_true_iff]
    split <;> rfl
  | role =>
    simp only [unknown_singleton, made.contains_role, decide_eq_true_iff]
    split <;> rfl

end MadeFrom

/-! ## The loops -/

variable {policies : List Policy} {roles : List Role} {granted : Subject → List Grant}
  {d : Directory}

/-- Each file has its problem, or its policy is installed. -/
theorem firstProblem_loadPolicy (made : MadeFrom (loaded files paths) [] granted d.registry)
    (path : String) :
    FirstProblem (fileProblems files path)
      (fun next => MadeFrom (loaded files (paths ++ [path])) [] granted next.registry)
      (loadPolicy files d path) := by
  unfold loadPolicy fileProblems
  cases load : Policy.load files path with
  | error error => exact rfl
  | ok policy =>
    have more : loaded files (paths ++ [path]) = loaded files paths ++ [policy] := by
      unfold loaded
      rw [List.filterMap_append, List.filterMap_cons, load]
      rfl
    rw [more]
    exact ⟨rfl, made.install policy⟩

theorem firstProblem_defineRole (made : MadeFrom policies roles granted d.registry) (role : Role) :
    FirstProblem (roleProblems policies role)
      (fun next => MadeFrom policies (roles ++ [role]) granted next.registry)
      (defineRole d role) := by
  have first := made.head?_roleProblems role
  unfold defineRole Directory.defineRole Registry.defineRole
  cases fault : d.registry.roleFault? role with
  | some found =>
    rw [fault] at first
    exact first
  | none =>
    rw [fault] at first
    exact ⟨List.head?_eq_none_iff.mp first, made.define role⟩

theorem firstProblem_makeGrant (made : MadeFrom policies roles granted d.registry)
    (subject : Subject) (grant : Grant) :
    FirstProblem (grantProblems policies roles grant)
      (fun next => MadeFrom policies roles (withGrants granted subject [grant]) next.registry)
      (makeGrant subject d grant) := by
  have problem := made.grantProblems_eq grant
  unfold makeGrant Directory.grant
  cases fault : d.registry.grantFault? grant with
  | some found =>
    have failed : d.registry.grant subject grant = .error found := by
      unfold Registry.grant
      rw [fault]
    rw [problem, fault, failed]
    rfl
  | none =>
    obtain ⟨result, granted⟩ := Registry.exists_grant fault subject
    rw [problem, fault, granted]
    exact ⟨rfl, made.grant granted⟩

theorem firstProblem_assign {done : List Assignment}
    (made : MadeFrom policies roles (grantsTo · done) d.registry) (a : Assignment) :
    FirstProblem (assignmentProblems policies roles a)
      (fun next => MadeFrom policies roles (grantsTo · (done ++ [a])) next.registry)
      (assign d a) := by
  rw [assignmentProblems_eq, grantsTo_concat]
  refine FirstProblem.foldlM
    (fun grants (next : Directory) => MadeFrom policies roles
      (withGrants (grantsTo · done) (.ofText a.subject) grants) next.registry)
    (fun grants grant next made' => ?_) a.grants ?_
  · have granting := firstProblem_makeGrant made' (.ofText a.subject) grant
    rwa [withGrants_concat] at granting
  · rwa [withGrants_nil]

/-! ## The theorem -/

theorem ascending_mergeSort (names : List String) :
    (names.mergeSort fun a b => decide (a ≤ b)).Pairwise (· ≤ ·) := by
  have sorted : (names.mergeSort fun a b => decide (a ≤ b)).Pairwise
      (fun a b => decide (a ≤ b) = true) :=
    List.pairwise_mergeSort (fun a b c => by simpa using String.le_trans)
      (fun a b => by simpa using a.le_total b) names
  exact sorted.imp of_decide_eq_true

/-- There is one order of loading, and it is what startup goes by unless the folder cannot be
read. -/
theorem exists_loadOrder (files : Files) (s : AuthorizationSettings) :
    ∃ paths, LoadOrder files s paths ∧
      FirstProblem (folderProblems files s) (· = paths) (policyPaths files s) := by
  unfold folderProblems policyPaths
  cases set : s.policyDir with
  | none => exact ⟨s.policyFiles, .noFolder set, rfl, rfl⟩
  | some folder =>
    unfold pathsInFolder
    dsimp only
    cases read : files.names folder with
    | error fault => exact ⟨s.policyFiles, .unreadable set read, rfl⟩
    | ok names =>
      exact ⟨_, .folder set read (List.mergeSort_perm _ _) (ascending_mergeSort _), rfl, rfl⟩

/-- With the paths of all files in order, startup has these problems or builds this. -/
theorem firstProblem_directory
    (order : FirstProblem (folderProblems files s) (· = paths) (policyPaths files s)) :
    FirstProblem (problems files s paths)
      (fun d => MadeFrom (loaded files paths) s.roles (grantsTo · s.assignments) d.registry)
      (directory files s) := by
  unfold problems directory
  refine order.bind fun found same => ?_
  subst same
  have loading := FirstProblem.foldlM
    (fun done (d : Directory) => MadeFrom (loaded files done) [] (fun _ => []) d.registry)
    (fun _ path _ made => firstProblem_loadPolicy made path) found
    (s := .empty (memo s)) MadeFrom.empty
  refine loading.bind fun d made => ?_
  have defining := FirstProblem.foldlM
    (fun done (d : Directory) => MadeFrom (loaded files found) done (fun _ => []) d.registry)
    (fun _ role _ made => firstProblem_defineRole made role) s.roles made
  refine defining.bind fun d made => ?_
  exact FirstProblem.foldlM
    (fun done (d : Directory) => MadeFrom (loaded files found) s.roles (grantsTo · done) d.registry)
    (fun _ a _ made => firstProblem_assign made a) s.assignments made

/-- **Startup builds what the settings and the files say, or fails with the first problem.**
There is just one order of loading.  Startup succeeds exactly if nothing is wrong: the folder
can be read, every file has a policy, every role has a name and names loaded policies only, and
every assignment names loaded policies and defined roles only.  The registry is then made of the
policies of the files, the roles, and the grants of the assignments, in their order.  Otherwise
startup fails with the first of the problems.

The policies of the files are those that stand in them, file by file, and the problem of a file
is the first of its faults. -/
theorem directory_is_built_or_first_problem (files : Files) (s : AuthorizationSettings) :
    ∃ paths, (∀ other, LoadOrder files s other ↔ other = paths) ∧
      ((∃ d, directory files s = .ok d) ↔ Sound files s paths) ∧
      (match directory files s with
      | .error error => (problems files s paths).head? = some error
      | .ok d => MadeFrom (loaded files paths) s.roles (grantsTo · s.assignments) d.registry) ∧
      (Sound files s paths →
        List.Forall₂ (fun path policy => policy.StandsIn files path) paths (loaded files paths)) ∧
      ∀ path, fileProblems files path =
        ((Policy.fileFaults files path).take 1).map StartupError.policy := by
  obtain ⟨paths, order, found⟩ := exists_loadOrder files s
  have outcome := firstProblem_directory found
  refine ⟨paths, fun other => ⟨order.unique, fun same => same ▸ order⟩, ?_, ?_,
    fun sound => forall₂_loaded sound.each, fileProblems_eq files⟩
  · rw [outcome.exists_ok_iff, problems_eq_nil_iff]
  · cases result : directory files s with
    | error error =>
      rw [result] at outcome
      exact outcome
    | ok d =>
      rw [result] at outcome
      exact outcome.2

end Startup

end Gatehouse
