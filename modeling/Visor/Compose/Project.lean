import Visor.Docker.Translate
import Visor.Library.TopologicalSort

/-! The services of a project as configurations of machines, and the order in which they boot. The
maps of a project are lists in the order in which they are iterated. -/

namespace Visor.Compose
open Library Backend TopologicalSort List
open Docker (parsePort)

inductive ComposeEnvironment where
  | empty
  | list (items : List Text)
  | map (entries : List (Text × Text))
deriving DecidableEq

inductive ComposePort where
  | short (text : Text)
  | long (target : U16) (published : Option U16)
deriving DecidableEq

inductive ComposeDependsOn where
  | empty
  | simple (names : List Text)
  | extended (conditions : List (Text × Option Text))
deriving DecidableEq

structure ComposeService where
  image : Text
  command : Option (List Text)
  environment : ComposeEnvironment
  ports : List ComposePort
  dependsOn : ComposeDependsOn
  networks : List Text
  memLimit : Option Text
  workingDir : Option Text
deriving DecidableEq

structure ComposeProject where
  name : Option Text
  services : List (Text × ComposeService)
  distinct : (services.map (·.1)).Nodup
  networks : List Text

variable (serviceName : Text) (project : ComposeProject)

def ComposeProject.service (name : Text) : Option ComposeService :=
  (project.services.find? (·.1 = name)).map (·.2)

def parsePortMapping (text : Text) : Option PortMapping :=
  match splitAll ':' text with
  | [host, guest] => do
    let hostPort ← parsePort host
    let guestPort ← parsePort guest
    return ⟨hostPort, guestPort, "tcp".toList⟩
  | _ => none

def composePortToPortMapping : ComposePort → Option PortMapping
  | .short text => parsePortMapping (text.takeWhile (· ≠ '/'))
  | .long target published => published.map fun hostPort => ⟨hostPort, target, "tcp".toList⟩

def stripSuffixChar (mark : Char) (text : Text) : Option Text :=
  if text.getLast? = some mark then some text.dropLast else none

def parseMemLimit (lowercase : Text → Text) (limit : Text) : U32 :=
  let trimmed := lowercase (trim limit)
  match stripSuffixChar 'g' trimmed with
  | some value =>
    match parseUnsigned (2 ^ 32) value with
    | some count => BitVec.ofNat 32 (min (count * 1024) (2 ^ 32 - 1))
    | none => 512
  | none =>
    match stripSuffixChar 'm' trimmed with
    | some value => BitVec.ofNat 32 ((parseUnsigned (2 ^ 32) value).getD 512)
    | none =>
      match parseUnsigned (2 ^ 64) trimmed with
      | some bytes =>
        let mebibytes := bytes / (1024 * 1024)
        if mebibytes < 2 ^ 32 then BitVec.ofNat 32 mebibytes else 512
      | none => 512

def environmentOf : ComposeEnvironment → List Text
  | .empty => []
  | .list items => items
  | .map entries => entries.map fun (name, value) => name ++ '=' :: value

def buildVmConfig (lowercase : Text → Text) (name : Text) (service : ComposeService) : VmConfig :=
  { VmConfig.new service.image with
    cmd := service.command.getD []
    env := environmentOf service.environment
    workingDir := service.workingDir
    memoryMib := (service.memLimit.map (parseMemLimit lowercase)).getD 512
    name := some name
    detach := true
    networks := service.networks
    ports := service.ports.filterMap composePortToPortMapping }

def extractDependencyNames : ComposeDependsOn → List Text
  | .empty => []
  | .simple names => names
  | .extended conditions => conditions.map (·.1)

def needsHealthWait : Bool :=
  project.services.any fun (_, service) =>
    match service.dependsOn with
    | .extended conditions =>
      (conditions.find? (·.1 = serviceName)).any fun (_, condition) => condition =
        some "service_healthy".toList
    | _ => false

def ComposeProject.dependencies (name : Text) : List Text :=
  ((project.service name).map fun service => extractDependencyNames service.dependsOn).getD []

def sortTexts (texts : List Text) : List Text :=
  texts.insertionSort fun one other => textLe one other = true

inductive ComposeError where
  | networkExists (name : Text)
  | undefinedDependency (name dependency : Text)
  | dependencyCycle
  | create (service : Text)
  | networkNotFound (id : Text)
  | noCid (service : Text)
  | unhealthy (service : Text)
  | backend

def dependencySort : Except ComposeError (List Text) :=
  let names := project.services.map (·.1)
  let missing := names.findSome? fun name => ((project.dependencies name).find? (· ∉ names)).map (name, ·)
  match missing with
  | some (name, dependency) => .error (.undefinedDependency name dependency)
  | none =>
    let order := sort sortTexts names project.dependencies
    if order.length = names.length then .ok order else .error .dependencyCycle

theorem sortTexts_perm (texts : List Text) : (sortTexts texts).Perm texts := perm_insertionSort _ texts

theorem dependencySort_perm {project : ComposeProject} {order : List Text}
    (sorted : dependencySort project = .ok order) : order.Perm (project.services.map (·.1)) ∧
    Grounded project.dependencies order.reverse := by
  obtain ⟨_, progress⟩ := sort_progress sortTexts_perm project.distinct project.dependencies
  unfold dependencySort at sorted
  dsimp only at sorted
  split at sorted
  · cases sorted
  · split at sorted
    · next full =>
      cases sorted
      exact ⟨sort_perm sortTexts_perm project.distinct full, progress.grounded⟩
    · cases sorted

/-- A service of the project names another in its `depends_on`, in either form. -/
inductive ComposeProject.DependsOn (project : ComposeProject) (name dependency : Text) : Prop
  | simple {service : ComposeService} {names : List Text}
    (isService : (name, service) ∈ project.services)
    (form : service.dependsOn = .simple names) (listed : dependency ∈ names)
  | extended {service : ComposeService} {conditions : List (Text × Option Text)}
    {condition : Option Text} (isService : (name, service) ∈ project.services)
    (form : service.dependsOn = .extended conditions)
    (listed : (dependency, condition) ∈ conditions)

private theorem ComposeProject.service_eq_some_iff {project : ComposeProject} {name : Text}
    {service : ComposeService} :
    project.service name = some service ↔ (name, service) ∈ project.services := by
  unfold ComposeProject.service
  rw [Option.map_eq_some_iff]
  constructor
  · rintro ⟨⟨other, _⟩, found, rfl⟩
    obtain rfl : other = name := by simpa using find?_some found
    exact mem_of_find?_eq_some found
  · intro isService
    cases found : project.services.find? (·.1 = name) with
    | none => exact absurd (decide_eq_true rfl) (find?_eq_none.mp found _ isService)
    | some entry =>
      have sameName : entry.1 = name := by simpa using find?_some found
      have same : entry = (name, service) :=
        inj_on_of_nodup_map project.distinct (mem_of_find?_eq_some found) isService sameName
      exact ⟨entry, rfl, congrArg Prod.snd same⟩

theorem ComposeProject.dependsOn_iff {project : ComposeProject} {name dependency : Text} :
    project.DependsOn name dependency ↔ dependency ∈ project.dependencies name := by
  unfold dependencies
  constructor
  · rintro (⟨isService, form, listed⟩ | ⟨isService, form, listed⟩)
    · rw [service_eq_some_iff.mpr isService]
      simpa [form, extractDependencyNames] using listed
    · rw [service_eq_some_iff.mpr isService]
      simpa [form, extractDependencyNames] using ⟨_, listed⟩
  · intro depends
    cases found : project.service name with
    | none => simp [found] at depends
    | some service =>
      have isService := service_eq_some_iff.mp found
      rw [found, Option.map_some, Option.getD_some] at depends
      cases form : service.dependsOn with
      | empty => simp [form, extractDependencyNames] at depends
      | simple names =>
        rw [form] at depends
        exact .simple isService form depends
      | extended conditions =>
        rw [form] at depends
        obtain ⟨⟨_, condition⟩, listed, rfl⟩ := mem_map.mp depends
        exact .extended isService form listed

/-- Some service depends on one that the project does not have. -/
def ComposeProject.Dangling (project : ComposeProject) : Prop :=
  ∃ name dependency, project.DependsOn name dependency ∧
    dependency ∉ project.services.map (·.1)

theorem ComposeProject.dependencies_eq_nil {project : ComposeProject} {name : Text}
    (unknown : name ∉ project.services.map (·.1)) : project.dependencies name = [] := by
  refine eq_nil_iff_forall_not_mem.mpr fun dependency depends => unknown ?_
  rcases dependsOn_iff.mpr depends with ⟨isService, _, _⟩ | ⟨isService, _, _⟩
  · exact mem_map_of_mem isService
  · exact mem_map_of_mem isService

private theorem ComposeProject.circular_iff (project : ComposeProject) :
    Circular project.dependencies ↔ ∃ name, Relation.TransGen project.DependsOn name name := by
  have same : (fun name dependency => dependency ∈ project.dependencies name) =
      project.DependsOn := by
    funext name dependency
    exact propext dependsOn_iff.symm
  unfold Circular
  rw [same]

private theorem dependencySort_error_iff (project : ComposeProject) :
    (∃ error, dependencySort project = .error error) ↔
      project.Dangling ∨ ∃ name, Relation.TransGen project.DependsOn name name := by
  rw [← project.circular_iff]
  unfold dependencySort
  dsimp only
  split
  · next name dependency missing =>
    obtain ⟨found, isName, isFound⟩ := exists_of_findSome?_eq_some missing
    obtain ⟨other, isOther, isPair⟩ := Option.map_eq_some_iff.mp isFound
    have depends := ComposeProject.dependsOn_iff.mpr (mem_of_find?_eq_some isOther)
    have unknown := find?_some isOther
    exact iff_of_true ⟨_, rfl⟩ (.inl ⟨found, other, depends, of_decide_eq_true unknown⟩)
  · next all =>
    have defined : ∀ name ∈ project.services.map (·.1),
        project.dependencies name ⊆ project.services.map (·.1) := by
      intro name isName dependency depends
      have found := findSome?_eq_none_iff.mp all name isName
      rw [Option.map_eq_none_iff, find?_eq_none] at found
      simpa using found dependency depends
    have sound : ¬ project.Dangling := by
      rintro ⟨name, dependency, dependsOn, unknown⟩
      have depends := ComposeProject.dependsOn_iff.mp dependsOn
      by_cases isName : name ∈ project.services.map (·.1)
      · exact unknown (defined name isName depends)
      · rw [ComposeProject.dependencies_eq_nil isName] at depends
        cases depends
    have complete := length_sort_iff sortTexts_perm project.distinct defined fun _ =>
      ComposeProject.dependencies_eq_nil
    rw [or_iff_right sound]
    split
    · next full => simp [complete.mp full]
    · next short => simp [not_not.mp (mt complete.mpr short)]

/-- The services boot in the order of their dependencies, unless a dependency is not defined or
circular; then there is no order. -/
theorem dependencySort_sound (project : ComposeProject) :
    ((∃ error, dependencySort project = .error error) ↔
      project.Dangling ∨ ∃ name, Relation.TransGen project.DependsOn name name) ∧
    ∀ order, dependencySort project = .ok order →
      order.Perm (project.services.map (·.1)) ∧
        ∀ before name after, order = before ++ name :: after →
          ∀ dependency, project.DependsOn name dependency → dependency ∈ before := by
  refine ⟨dependencySort_error_iff project, fun order sorted => ?_⟩
  obtain ⟨isPerm, grounded⟩ := dependencySort_perm sorted
  refine ⟨isPerm, ?_⟩
  rintro before name after rfl dependency depends
  rw [reverse_append, reverse_cons, append_assoc] at grounded
  exact mem_reverse.mp (grounded.split.1 (ComposeProject.dependsOn_iff.mp depends))

end Visor.Compose
