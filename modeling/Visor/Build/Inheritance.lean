import Visor.Build.Engine

/-! The engine returns the last stage only, and the base image only where that stage has none of the
other stages below it. So an image that is built on another stage lacks everything below. -/

namespace Visor.Build
open Library List Prod StageState Command
open Option (bind_eq_some_iff)
open Backend (Text)

structure ProcessedLayer where
  compressedData : List U8
  digest : Text
  diffId : Text
  compressedSize : U64
  mediaType : Text
deriving DecidableEq

structure ResolvedBaseImage where
  layers : List ProcessedLayer
  metadata : ImageMetadata
deriving DecidableEq

structure BuildStore where
  decode : Text → Option (List U8)
  image : Text → Option ResolvedBaseImage

def gzipMediaType : Text := "application/vnd.oci.image.layer.v1.tar+gzip".toList

def builtLayerToProcessed (store : BuildStore) (layer : BuiltLayer) : Option ProcessedLayer :=
  (store.decode layer.data).map fun data =>
    ⟨data, layer.compressedDigest, layer.uncompressedDigest, layer.compressedSize, gzipMediaType⟩

def resolveBaseImage (store : BuildStore) (reference : Text) : Option ResolvedBaseImage :=
  if reference = "scratch".toList then some ⟨[], .empty⟩ else store.image reference

def mergeKeyValuePairs (base overlay : List (Text × Text)) : List (Text × Text) :=
  base.filter (fun entry => entry.1 ∉ overlay.map fst) ++ overlay

instance : LT ExposedPort where
  lt one other := one.port.toNat < other.port.toNat ∨
    one.port = other.port ∧ one.protocol < other.protocol

instance : DecidableLT ExposedPort := fun _ _ => inferInstanceAs (Decidable (_ ∨ _ ∧ _))

def mergeUniqueItems {α : Type} [DecidableEq α] [LT α] [DecidableLT α] (base overlay : List α) :
    List α :=
  sortedOfList (base ++ overlay)

def mergeImageMetadata (base overlay : ImageMetadata) : ImageMetadata where
  cmd := overlay.cmd <|> base.cmd
  entrypoint := overlay.entrypoint <|> base.entrypoint
  env := mergeKeyValuePairs base.env overlay.env
  workingDir := overlay.workingDir <|> base.workingDir
  user := overlay.user <|> base.user
  exposedPorts := mergeUniqueItems base.exposedPorts overlay.exposedPorts
  labels := mergeKeyValuePairs base.labels overlay.labels
  shell := overlay.shell <|> base.shell
  stopSignal := overlay.stopSignal <|> base.stopSignal
  volumes := mergeUniqueItems base.volumes overlay.volumes

def resolveAssemblyInputs (store : BuildStore) (result : BuildResult) :
    Option (List ProcessedLayer × ImageMetadata) := do
  let built ← (result.layers.filter (!·.empty)).mapM (builtLayerToProcessed store)
  match result.baseImage with
  | none => return (built, result.config)
  | some baseImage =>
    let base ← resolveBaseImage store baseImage
    return (base.layers ++ built, mergeImageMetadata base.metadata result.config)

/-- The stages below a stage, the lowest first, down to an image from outside. -/
inductive Chain (completed : List BuiltStage) : BuiltStage → List BuiltStage → Text → Prop
  | outside {stage : BuiltStage} : stage.lower = none → Chain completed stage [] stage.fromImage
  | inside {stage parent : BuiltStage} {below : List BuiltStage} {image : Text} :
    parent ∈ completed → stage.lower = some parent.index → Chain completed parent below image →
      Chain completed stage (below ++ [parent]) image

def layersOf (store : BuildStore) (stages : List BuiltStage) : Option (List ProcessedLayer) :=
  (stages.flatMap fun stage => stage.state.layers.filter (!·.empty)).mapM
    (builtLayerToProcessed store)

def instructionsOf (config : BuildConfig) (built : BuiltStage) : List BuildInstruction :=
  (config.dockerfile.stages[built.index]?.map (·.instructions)).getD []

/-- A stage that starts from a configuration and has the variables of its environment. -/
def StageState.onTop (metadata : ImageMetadata) : StageState :=
  let vars := metadata.env.foldl (fun (vars : Vars) binding => vars.insert binding.1 binding.2) []
  { initial with
    vars := vars
    envVars := vars
    workingDir := metadata.workingDir.getD initial.workingDir
    shell := metadata.shell.getD initial.shell
    metadata := metadata }

/-- The fold of the instructions of a stage over the configuration that it is built on. -/
def foldInstructions (config : BuildConfig) (metadata : ImageMetadata)
    (instrs : List BuildInstruction) : Except BuildError ImageMetadata := do
  let state ← instrs.foldlM (applyMetadata config) (.onTop metadata)
  return state.metadata

/-- The fold of the instructions of all the stages over the configuration of the base image. -/
def inheritedMetadata (config : BuildConfig) (base : ImageMetadata) (stages : List BuiltStage) :
    Except BuildError ImageMetadata :=
  stages.foldlM (fun metadata built => foldInstructions config metadata (instructionsOf config built))
    base

/-- The base image's layers, then those of the stages, and the fold of all metadata. -/
def inheritedImage (store : BuildStore) (config : BuildConfig) (image : Text)
    (stages : List BuiltStage) : Option (List ProcessedLayer × ImageMetadata) := do
  let base ← resolveBaseImage store image
  let layers ← layersOf store stages
  let metadata ← (inheritedMetadata config base.metadata stages).toOption
  return (base.layers ++ layers, metadata)

/-- What an image has once: a later instruction replaces it. -/
inductive Setting where
  | cmd
  | entrypoint
  | workingDir
  | user
  | shell
  | stopSignal

def ImageMetadata.sets (metadata : ImageMetadata) : Setting → Bool
  | .cmd => metadata.cmd.isSome
  | .entrypoint => metadata.entrypoint.isSome
  | .workingDir => metadata.workingDir.isSome
  | .user => metadata.user.isSome
  | .shell => metadata.shell.isSome
  | .stopSignal => metadata.stopSignal.isSome

def BuildInstruction.sets : BuildInstruction → Option Setting
  | .cmd _ => some .cmd
  | .entrypoint _ => some .entrypoint
  | .workdir _ => some .workingDir
  | .user _ => some .user
  | .shell _ => some .shell
  | .stopsignal _ => some .stopSignal
  | _ => none

def expandedWorkdir (state : StageState) : BuildInstruction → Option Text
  | .workdir path => (substituteVars path state.vars).toOption
  | _ => none

/-- The paths of the `WORKDIR` instructions with their variables expanded. -/
def workdirs (config : BuildConfig) : StageState → List BuildInstruction → List Text
  | _, [] => []
  | state, instr :: instrs =>
    (expandedWorkdir state instr).toList ++
      match applyMetadata config state instr with
      | .ok next => workdirs config next instrs
      | .error _ => []

/-- Nothing that is inherited shows once these instructions are folded over it: there is no variable,
label, port or volume, whatever is set is set again, and a working directory other than the root is
left for an absolute path. -/
structure Shadowed (config : BuildConfig) (inherited : ImageMetadata)
    (instrs : List BuildInstruction) : Prop where
  env : inherited.env = []
  labels : inherited.labels = []
  exposedPorts : inherited.exposedPorts = []
  volumes : inherited.volumes = []
  settings : ∀ setting, inherited.sets setting = true → ∃ instr ∈ instrs, instr.sets = some setting
  workingDir : (∀ dir, inherited.workingDir = some dir → dir = [] ∨ dir = ['/']) ∨
    ∃ path ∈ workdirs config (.onTop inherited) instrs, path.head? = some '/'

/-! What the instructions of a stage do to its state. -/

def StageState.withLayers (state : StageState) (layers : List BuiltLayer) : StageState :=
  { state with layers := layers }

theorem applyMetadata_withLayers (config : BuildConfig) (layers : List BuiltLayer)
    {state next : StageState} {instr : BuildInstruction}
    (applied : applyMetadata config state instr = .ok next) :
    applyMetadata config (state.withLayers layers) instr = .ok (next.withLayers layers) := by
  cases instr with
  | env vars =>
    obtain ⟨_, ran, rfl⟩ := foldlM_follows (fun state twin => twin = state.withLayers layers)
      (fun {state _ next binding} same applied => by
        subst same
        obtain ⟨value, expanded, rfl⟩ := map_eq_ok.mp applied
        exact ⟨_, bind_eq_ok.mpr ⟨value, expanded, rfl⟩, rfl⟩) rfl applied
    exact ran
  | workdir path =>
    obtain ⟨value, expanded, rfl⟩ := map_eq_ok.mp applied
    exact bind_eq_ok.mpr ⟨value, expanded, rfl⟩
  | _ =>
    cases applied
    rfl

/-- An `ENV` changes the environment and the variables only. -/
theorem foldlM_applyEnv {state next : StageState} {bindings : List (Text × Text)}
    (ran : bindings.foldlM applyEnv state = .ok next) :
    ∃ vars envVars env, next = { state with
      vars := vars, envVars := envVars, metadata := { state.metadata with env := env } } := by
  induction bindings generalizing state with
  | nil =>
    obtain rfl := pure_eq_ok.mp ran
    exact ⟨_, _, _, rfl⟩
  | cons binding bindings ih =>
    obtain ⟨middle, first, rest⟩ := foldlM_cons_eq_ok.mp ran
    obtain ⟨value, _, rfl⟩ := map_eq_ok.mp first
    obtain ⟨vars, envVars, env, rfl⟩ := ih rest
    exact ⟨vars, envVars, env, rfl⟩

/-- The metadata instructions alone lead to the same state but for the layers, of which every other
instruction makes one. -/
def Advances (config : BuildConfig) (state : StageState) (instrs : List BuildInstruction)
    (next : StageState) : Prop :=
  ∃ after made, instrs.foldlM (applyMetadata config) state = .ok after ∧
    next = after.withLayers (state.layers ++ made) ∧ (∀ layer ∈ made, layer.empty = false) ∧
    (made = [] ↔ ∀ instr ∈ instrs, instr.makesLayer = false)

theorem Advances.cons {config : BuildConfig} {state middle next : StageState}
    {instr : BuildInstruction} {instrs : List BuildInstruction}
    (first : Advances config state [instr] middle) (rest : Advances config middle instrs next) :
    Advances config state (instr :: instrs) next := by
  obtain ⟨after, made, applied, rfl, full, none⟩ := first
  obtain ⟨last, more, ran, rfl, alsoFull, alsoNone⟩ := rest
  obtain ⟨one, stepped, same⟩ := foldlM_cons_eq_ok.mp applied
  obtain rfl : one = after := pure_eq_ok.mp same
  -- The rest of the run does not depend on the layers made so far.
  obtain ⟨_, bare, rfl⟩ := foldlM_follows (fun state twin => twin = state.withLayers one.layers)
    (fun same applied => ⟨_, same ▸ applyMetadata_withLayers config _ applied, rfl⟩)
    (rfl : one = (one.withLayers (state.layers ++ made)).withLayers one.layers) ran
  refine ⟨_, made ++ more, foldlM_cons_eq_ok.mpr ⟨one, stepped, bare⟩, ?_, ?_, ?_⟩
  · exact congrArg last.withLayers (append_assoc ..)
  · intro layer mem
    exact (mem_append.mp mem).elim (full layer) (alsoFull layer)
  · rw [append_eq_nil_iff, none, alsoNone, forall_mem_singleton, forall_mem_cons]

private theorem advances_layer {config : BuildConfig} {state next : StageState} {instr : BuildInstruction}
    (skipped : applyMetadata config state instr = .ok state) (makes : instr.makesLayer = true)
    {layer : BuiltLayer} (full : layer.empty = false)
    (isNext : next = state.withLayers (state.layers ++ [layer])) :
    Advances config state [instr] next :=
  ⟨state, [layer], foldlM_cons_eq_ok.mpr ⟨state, skipped, rfl⟩, isNext, by simpa using full,
    by simp [makes]⟩

private theorem yields_snapshotAndFlatten {Guest : Type} (executor : BuildExecutor Guest)
    {config : BuildConfig} {state : StageState} {instr : BuildInstruction}
    (skipped : applyMetadata config state instr = .ok state) (makes : instr.makesLayer = true) :
    Yields (snapshotAndFlatten executor state) (Advances config state [instr]) :=
  yields_then _ fun _ => yields_then _ fun _ => yields_pure (advances_layer skipped makes rfl rfl)

private theorem yields_processInstruction {Guest : Type} (executor : BuildExecutor Guest)
    (config : BuildConfig) (state : StageState) (instr : BuildInstruction) :
    Yields (processInstruction executor config state instr) (Advances config state [instr]) := by
  cases instr with
  | run command mounts =>
    exact yields_then _ fun _ => yields_then _ fun _ => yields_then _ fun _ => yields_then _ fun _ =>
      yields_then _ fun _ => yields_then _ fun _ => yields_then _ fun _ =>
        yields_snapshotAndFlatten executor rfl rfl
  | copy | add =>
    exact yields_then _ fun _ => yields_then _ fun _ => yields_then _ fun _ =>
      yields_snapshotAndFlatten executor rfl rfl
  | _ =>
    refine yields_inspect fun next applied =>
      ⟨next, [], ?_, ?_, nofun, by simp [BuildInstruction.makesLayer]⟩
    · exact foldlM_cons_eq_ok.mpr ⟨next, applied, rfl⟩
    · have kept := applyMetadata_withLayers config state.layers applied
      exact Except.ok.inj (applied.symm.trans (kept.trans (by rw [append_nil])))

private theorem yields_instructions {Guest : Type} (executor : BuildExecutor Guest) (config : BuildConfig)
    (instrs : List BuildInstruction) (state : StageState) :
    Yields (instrs.foldlM (processInstruction executor config) state)
      (Advances config state instrs) := by
  induction instrs generalizing state with
  | nil => exact yields_pure ⟨state, [], rfl, by simp [withLayers], nofun, by simp⟩
  | cons instr instrs ih =>
    refine (yields_processInstruction executor config state instr).bind fun middle first => ?_
    exact fun guest _ next returned => first.cons (ih middle guest trivial next returned)

theorem yields_buildStages {Guest : Type} (executor : BuildExecutor Guest) (config : BuildConfig)
    (indices : List Nat) :
    Yields (buildStages executor config indices) fun completed =>
      ∀ built ∈ completed, Advances config .initial (instructionsOf config built) built.state := by
  induction indices with
  | nil => exact yields_pure nofun
  | cons index indices ih =>
    rw [buildStages]
    split
    next => exact ih
    next stage found =>
      have one : Yields (buildStage executor config index stage) fun built =>
          Advances config .initial (instructionsOf config built) built.state := by
        refine yields_then _ fun fromImage => yields_then _ fun _ => ?_
        refine (yields_instructions executor config stage.instructions .initial).bind
          fun state advances => yields_pure ?_
        simpa [instructionsOf, found] using advances
      refine one.bind fun built here => ih.bind fun others there => yields_pure ?_
      exact forall_mem_cons.mpr ⟨here, there⟩

theorem layers_filter_eq_nil_iff {config : BuildConfig} {built : BuiltStage}
    (advances : Advances config .initial (instructionsOf config built) built.state) :
    built.state.layers.filter (!·.empty) = [] ↔
      ∀ instr ∈ instructionsOf config built, instr.makesLayer = false := by
  obtain ⟨after, made, _, isNext, full, none⟩ := advances
  have all : built.state.layers = made := congrArg StageState.layers isNext
  have kept : made.filter (!·.empty) = made :=
    filter_eq_self.mpr fun layer mem => by simp [full layer mem]
  rw [all, kept, none]

/-! The same instructions folded over nothing and over a configuration. -/

/-- What the instructions add is the same in both folds, but for what depends on variables and on
the directory. -/
structure Adds (inherited : ImageMetadata) (own all : StageState) : Prop where
  cmd : all.metadata.cmd = (own.metadata.cmd <|> inherited.cmd)
  entrypoint : all.metadata.entrypoint = (own.metadata.entrypoint <|> inherited.entrypoint)
  env : all.metadata.env.length = inherited.env.length + own.metadata.env.length
  workingDir : all.metadata.workingDir.isSome =
    (own.metadata.workingDir.isSome || inherited.workingDir.isSome)
  user : all.metadata.user = (own.metadata.user <|> inherited.user)
  exposedPorts : all.metadata.exposedPorts = inherited.exposedPorts ++ own.metadata.exposedPorts
  labels : all.metadata.labels = inherited.labels ++ own.metadata.labels
  shell : all.metadata.shell = (own.metadata.shell <|> inherited.shell)
  stopSignal : all.metadata.stopSignal = (own.metadata.stopSignal <|> inherited.stopSignal)
  volumes : all.metadata.volumes = inherited.volumes ++ own.metadata.volumes

theorem adds_initial (inherited : ImageMetadata) : Adds inherited .initial (.onTop inherited) := by
  constructor <;> simp [StageState.onTop, initial, ImageMetadata.empty]

private theorem Adds.applyEnv {inherited : ImageMetadata} {own all ownNext allNext : StageState}
    {binding : Text × Text} (adds : Adds inherited own all)
    (ownRan : applyEnv own binding = .ok ownNext) (allRan : applyEnv all binding = .ok allNext) :
    Adds inherited ownNext allNext := by
  obtain ⟨value, _, rfl⟩ := map_eq_ok.mp ownRan
  obtain ⟨other, _, rfl⟩ := map_eq_ok.mp allRan
  exact { adds with env := by simp [adds.env, Nat.add_assoc] }

theorem Adds.step {config : BuildConfig} {inherited : ImageMetadata}
    {own all ownNext allNext : StageState} {instr : BuildInstruction}
    (adds : Adds inherited own all) (ownRan : applyMetadata config own instr = .ok ownNext)
    (allRan : applyMetadata config all instr = .ok allNext) : Adds inherited ownNext allNext := by
  cases instr
  case env vars =>
    refine foldlM_both (Adds inherited) ?_ adds (ownRan : vars.foldlM Build.applyEnv own = _) allRan
    exact Adds.applyEnv
  case workdir path =>
    obtain ⟨value, _, rfl⟩ := map_eq_ok.mp ownRan
    obtain ⟨other, _, rfl⟩ := map_eq_ok.mp allRan
    exact { adds with workingDir := rfl }
  -- the others do not fail
  all_goals
    cases ownRan
    cases allRan
  case cmd => exact { adds with cmd := rfl }
  case entrypoint => exact { adds with entrypoint := rfl }
  case user => exact { adds with user := rfl }
  case shell => exact { adds with shell := rfl }
  case stopsignal => exact { adds with stopSignal := rfl }
  case expose => exact { adds with exposedPorts := by simp [adds.exposedPorts] }
  case label => exact { adds with labels := by simp [adds.labels] }
  case volume => exact { adds with volumes := by simp [adds.volumes] }
  case arg => exact { adds with }
  all_goals exact adds

theorem Adds.foldlM {config : BuildConfig} {inherited : ImageMetadata}
    {own all ownLast allLast : StageState} {instrs : List BuildInstruction}
    (adds : Adds inherited own all) (ownRan : instrs.foldlM (applyMetadata config) own = .ok ownLast)
    (allRan : instrs.foldlM (applyMetadata config) all = .ok allLast) :
    Adds inherited ownLast allLast := by
  refine foldlM_both (Adds inherited) ?_ adds ownRan allRan
  exact Adds.step

private theorem sets_applyMetadata {config : BuildConfig} {state next : StageState}
    {instr : BuildInstruction} (applied : applyMetadata config state instr = .ok next)
    (setting : Setting) :
    next.metadata.sets setting = true ↔
      state.metadata.sets setting = true ∨ instr.sets = some setting := by
  cases instr with
  | env vars =>
    obtain ⟨bound, exported, env, rfl⟩ := foldlM_applyEnv applied
    cases setting <;> simp [ImageMetadata.sets, BuildInstruction.sets]
  | workdir path =>
    obtain ⟨value, _, rfl⟩ := map_eq_ok.mp applied
    cases setting <;> simp [ImageMetadata.sets, BuildInstruction.sets]
  | _ =>
    cases applied
    cases setting <;> simp [ImageMetadata.sets, BuildInstruction.sets, applyArg]

theorem sets_foldlM {config : BuildConfig} {instrs : List BuildInstruction} {state last : StageState}
    (ran : instrs.foldlM (applyMetadata config) state = .ok last) (setting : Setting) :
    last.metadata.sets setting = true ↔
      state.metadata.sets setting = true ∨ ∃ instr ∈ instrs, instr.sets = some setting := by
  induction instrs generalizing state with
  | nil =>
    obtain rfl := pure_eq_ok.mp ran
    simp
  | cons instr instrs ih =>
    obtain ⟨next, applied, rest⟩ := foldlM_cons_eq_ok.mp ran
    rw [ih rest, sets_applyMetadata applied setting, or_assoc, exists_mem_cons_iff]

/-- An instruction sees of the state before it only the variables, but for what it adds to. -/
theorem applyMetadata_vars {config : BuildConfig} {state twin next : StageState}
    {instr : BuildInstruction} (same : twin.vars = state.vars ∧ twin.metadata.env = state.metadata.env)
    (applied : applyMetadata config state instr = .ok next) :
    ∃ after, applyMetadata config twin instr = .ok after ∧
      after.vars = next.vars ∧ after.metadata.env = next.metadata.env := by
  cases instr with
  | env bindings =>
    refine foldlM_follows
      (fun state twin => twin.vars = state.vars ∧ twin.metadata.env = state.metadata.env)
      (fun {state twin next binding} same applied => ?_) same applied
    obtain ⟨value, expanded, rfl⟩ := map_eq_ok.mp applied
    rw [← same.1] at expanded
    exact ⟨_, bind_eq_ok.mpr ⟨value, expanded, rfl⟩, by simp [same.1], by simp [same.2]⟩
  | workdir path =>
    obtain ⟨value, expanded, rfl⟩ := map_eq_ok.mp applied
    rw [← same.1] at expanded
    exact ⟨_, bind_eq_ok.mpr ⟨value, expanded, rfl⟩, same⟩
  | arg name standard =>
    cases applied
    exact ⟨_, rfl, by simp [applyArg, same.1], same.2⟩
  | _ =>
    cases applied
    exact ⟨_, rfl, same⟩

theorem workdirs_cons {config : BuildConfig} {state next : StageState} {instr : BuildInstruction}
    (applied : applyMetadata config state instr = .ok next) (instrs : List BuildInstruction) :
    workdirs config state (instr :: instrs) =
      (expandedWorkdir state instr).toList ++ workdirs config next instrs := by
  rw [workdirs, applied]

theorem workdirs_vars {config : BuildConfig} {instrs : List BuildInstruction}
    {state twin last : StageState}
    (same : twin.vars = state.vars ∧ twin.metadata.env = state.metadata.env)
    (ran : instrs.foldlM (applyMetadata config) state = .ok last) :
    workdirs config twin instrs = workdirs config state instrs := by
  induction instrs generalizing state twin with
  | nil => rfl
  | cons instr instrs ih =>
    obtain ⟨next, applied, rest⟩ := foldlM_cons_eq_ok.mp ran
    obtain ⟨after, beside, still⟩ := applyMetadata_vars same applied
    rw [workdirs_cons applied, workdirs_cons beside, ih still rest]
    cases instr with
    | workdir path => rw [expandedWorkdir, expandedWorkdir, same.1]
    | _ => rfl

/-! Where a list of `WORKDIR` paths leads. -/

def withSlash (dir : Text) : Text := if dir.getLast? = some '/' then dir else dir ++ ['/']

def enter (dir path : Text) : Text := if path.head? = some '/' then path else withSlash dir ++ path

theorem getLast?_withSlash (dir : Text) : (withSlash dir).getLast? = some '/' := by
  rw [withSlash]
  split
  next ends => exact ends
  next => simp

theorem withSlash_append {dir : Text} (ends : dir.getLast? = some '/') (path : Text) :
    withSlash (dir ++ path) = dir ++ if path = [] then [] else withSlash path := by
  cases path using List.reverseRecOn with
  | nil => simp [withSlash, ends]
  | append_singleton path char =>
    by_cases slash : char = '/' <;> simp [withSlash, slash]

theorem withSlash_eq_root_iff (dir : Text) : withSlash dir = ['/'] ↔ dir = [] ∨ dir = ['/'] := by
  rw [withSlash]
  split
  next ends =>
    constructor
    · exact .inr
    · rintro (rfl | same)
      · cases ends
      · exact same
  next ends =>
    constructor
    · intro same
      exact .inl (append_left_eq_self.mp same)
    · rintro (rfl | rfl)
      · rfl
      · exact absurd rfl ends

/-- Relative paths are appended, whatever the directory is. -/
theorem foldl_enter_relative {path : Text} {paths : List Text}
    (relative : ∀ other ∈ path :: paths, other.head? ≠ some '/') :
    ∃ rest, ∀ dir, (path :: paths).foldl enter dir = withSlash dir ++ rest := by
  induction paths generalizing path with
  | nil => exact ⟨path, fun dir => by simp [enter, relative path (.head _)]⟩
  | cons second paths ih =>
    obtain ⟨rest, leads⟩ := ih (fun other mem => relative other (.tail _ mem))
    refine ⟨(if path = [] then [] else withSlash path) ++ rest, fun dir => ?_⟩
    rw [foldl_cons, leads, enter, if_neg (relative path (.head _)),
      withSlash_append (getLast?_withSlash dir), append_assoc]

theorem foldl_enter_eq_iff {paths : List Text} (some : paths ≠ []) (dir : Text) :
    paths.foldl enter dir = paths.foldl enter ['/'] ↔
      (dir = [] ∨ dir = ['/']) ∨ ∃ path ∈ paths, path.head? = Option.some '/' := by
  by_cases absolute : ∃ path ∈ paths, path.head? = Option.some '/'
  · obtain ⟨path, mem, isAbsolute⟩ := absolute
    obtain ⟨before, after, rfl⟩ := append_of_mem mem
    have same : (before ++ path :: after).foldl enter dir =
        (before ++ path :: after).foldl enter ['/'] := by
      simp [enter, isAbsolute]
    exact iff_of_true same (.inr ⟨path, mem, isAbsolute⟩)
  · obtain ⟨path, others, rfl⟩ := exists_cons_of_ne_nil some
    obtain ⟨rest, leads⟩ := foldl_enter_relative fun other mem isAbsolute =>
      absolute ⟨other, mem, isAbsolute⟩
    rw [leads, leads, append_left_inj, or_iff_left absolute]
    exact withSlash_eq_root_iff dir

/-- The directory of the configuration is that of the stage as soon as there is a `WORKDIR`. -/
theorem workingDir_applyMetadata {config : BuildConfig} {state next : StageState}
    {instr : BuildInstruction} (applied : applyMetadata config state instr = .ok next) :
    next.workingDir = (expandedWorkdir state instr).toList.foldl enter state.workingDir ∧
      next.metadata.workingDir =
        (expandedWorkdir state instr).elim state.metadata.workingDir fun _ => next.workingDir := by
  cases instr with
  | env bindings =>
    obtain ⟨vars, envVars, env, rfl⟩ := foldlM_applyEnv applied
    exact ⟨rfl, rfl⟩
  | workdir path =>
    obtain ⟨value, expanded, rfl⟩ := map_eq_ok.mp applied
    have isPath : expandedWorkdir state (.workdir path) = some value := by
      rw [expandedWorkdir, expanded]
      rfl
    rw [isPath]
    refine ⟨?_, rfl⟩
    simp only [Option.toList_some, foldl_cons, foldl_nil, enter, withSlash]
    split
    next => rfl
    next => split <;> simp
  | _ =>
    cases applied
    exact ⟨rfl, rfl⟩

theorem workingDir_foldlM {config : BuildConfig} {instrs : List BuildInstruction}
    {state last : StageState} (ran : instrs.foldlM (applyMetadata config) state = .ok last) :
    last.workingDir = (workdirs config state instrs).foldl enter state.workingDir ∧
      (workdirs config state instrs = [] ∧ last.metadata.workingDir = state.metadata.workingDir ∨
        workdirs config state instrs ≠ [] ∧ last.metadata.workingDir = last.workingDir) := by
  induction instrs generalizing state with
  | nil =>
    obtain rfl := pure_eq_ok.mp ran
    exact ⟨rfl, .inl ⟨rfl, rfl⟩⟩
  | cons instr instrs ih =>
    obtain ⟨next, applied, rest⟩ := foldlM_cons_eq_ok.mp ran
    obtain ⟨dir, later⟩ := ih rest
    obtain ⟨first, firstMetadata⟩ := workingDir_applyMetadata applied
    rw [workdirs_cons applied, foldl_append, ← first]
    refine ⟨dir, ?_⟩
    rcases later with ⟨none, kept⟩ | ⟨some, last⟩
    · rw [none] at dir ⊢
      cases here : expandedWorkdir state instr with
      | none =>
        rw [here] at firstMetadata
        exact .inl ⟨rfl, kept.trans firstMetadata⟩
      | some path =>
        rw [here] at firstMetadata
        exact .inr ⟨by simp, kept.trans (firstMetadata.trans (congrArg Option.some dir.symm))⟩
    · exact .inr ⟨by simp [some], last⟩

theorem Adds.sets {inherited : ImageMetadata} {own all : StageState} (adds : Adds inherited own all)
    (setting : Setting) :
    all.metadata.sets setting = (own.metadata.sets setting || inherited.sets setting) := by
  cases setting <;>
    simp [ImageMetadata.sets, adds.cmd, adds.entrypoint, adds.workingDir, adds.user, adds.shell,
      adds.stopSignal]

theorem orElse_eq_left {α : Type} {own inherited : Option α}
    (set : inherited.isSome = true → own.isSome = true) : (own <|> inherited) = own := by
  cases own with
  | none =>
    cases inherited with
    | none => rfl
    | some => exact absurd (set rfl) (by simp)
  | some => rfl

/-- Without inherited variables the same `WORKDIR` paths are entered, from the root or from the
inherited directory. -/
theorem workingDir_eq_iff {config : BuildConfig} {instrs : List BuildInstruction}
    {own all : StageState} {inherited : ImageMetadata} (noEnv : inherited.env = [])
    (ownRan : instrs.foldlM (applyMetadata config) .initial = .ok own)
    (allRan : instrs.foldlM (applyMetadata config) (.onTop inherited) = .ok all)
    (settings : inherited.workingDir.isSome = true → own.metadata.workingDir.isSome = true) :
    all.metadata.workingDir = own.metadata.workingDir ↔
      (∀ dir, inherited.workingDir = some dir → dir = [] ∨ dir = ['/']) ∨
        ∃ path ∈ workdirs config (.onTop inherited) instrs, path.head? = some '/' := by
  have paths : workdirs config (.onTop inherited) instrs = workdirs config .initial instrs :=
    workdirs_vars ⟨by simp [StageState.onTop, noEnv, initial], noEnv⟩ ownRan
  obtain ⟨ownDir, ownMetadata⟩ := workingDir_foldlM ownRan
  obtain ⟨allDir, allMetadata⟩ := workingDir_foldlM allRan
  rw [paths] at allDir allMetadata ⊢
  by_cases none : workdirs config .initial instrs = []
  · have ownNone : own.metadata.workingDir = Option.none := by
      rcases ownMetadata with ⟨_, kept⟩ | ⟨some, _⟩
      · exact kept
      · exact absurd none some
    have nothing : inherited.workingDir = Option.none := by
      simpa [ownNone] using settings
    have allNone : all.metadata.workingDir = Option.none := by
      simpa [none, StageState.onTop, nothing] using allMetadata
    exact iff_of_true (allNone.trans ownNone.symm) (.inl (by simp [nothing]))
  · have ownSome : own.metadata.workingDir = own.workingDir := by simpa [none] using ownMetadata
    have allSome : all.metadata.workingDir = all.workingDir := by simpa [none] using allMetadata
    rw [ownSome, allSome, Option.some.injEq, ownDir, allDir]
    refine (foldl_enter_eq_iff none _).trans (or_congr_left ?_)
    cases isDir : inherited.workingDir with
    | none => simp [StageState.onTop, isDir, initial]
    | some dir => simp [StageState.onTop, isDir]

/-- Folded over a configuration the instructions give what they give alone exactly if nothing of it
shows. -/
theorem foldInstructions_eq_iff {config : BuildConfig} {instrs : List BuildInstruction}
    {own : StageState} (ran : instrs.foldlM (applyMetadata config) .initial = .ok own)
    (inherited : ImageMetadata) :
    foldInstructions config inherited instrs = .ok own.metadata ↔
      Shadowed config inherited instrs := by
  have isSet (setting : Setting) : own.metadata.sets setting = true ↔
      ∃ instr ∈ instrs, instr.sets = some setting := by
    rw [sets_foldlM ran setting, or_iff_right]
    cases setting <;> simp [ImageMetadata.sets, initial, ImageMetadata.empty]
  constructor
  · intro folded
    obtain ⟨all, allRan, built⟩ := bind_eq_ok.mp folded
    have same : all.metadata = own.metadata := pure_eq_ok.mp built
    have adds := (adds_initial inherited).foldlM ran allRan
    have noEnv : inherited.env = [] := by
      have lengths := adds.env
      rw [same] at lengths
      exact eq_nil_of_length_eq_zero (by omega)
    have settings (setting : Setting) (set : inherited.sets setting = true) :
        own.metadata.sets setting = true := by
      rw [← same, adds.sets, set, Bool.or_true]
    exact {
      env := noEnv
      labels := self_eq_append_left.mp (same ▸ adds.labels)
      exposedPorts := self_eq_append_left.mp (same ▸ adds.exposedPorts)
      volumes := self_eq_append_left.mp (same ▸ adds.volumes)
      settings := fun setting set => (isSet setting).mp (settings setting set)
      workingDir := (workingDir_eq_iff noEnv ran allRan (settings .workingDir)).mp
        (congrArg ImageMetadata.workingDir same) }
  · intro shadowed
    have start : (StageState.onTop inherited).vars = initial.vars ∧
        (StageState.onTop inherited).metadata.env = initial.metadata.env :=
      ⟨by simp [StageState.onTop, shadowed.env, initial], shadowed.env⟩
    obtain ⟨all, allRan, -, env⟩ := foldlM_follows
      (fun state twin => twin.vars = state.vars ∧ twin.metadata.env = state.metadata.env)
      applyMetadata_vars start ran
    have adds := (adds_initial inherited).foldlM ran allRan
    have settings (setting : Setting) (set : inherited.sets setting = true) :
        own.metadata.sets setting = true := (isSet setting).mpr (shadowed.settings setting set)
    refine bind_eq_ok.mpr ⟨all, allRan, pure_eq_ok.mpr ?_⟩
    refine ImageMetadata.ext ?_ ?_ env ?_ ?_ ?_ ?_ ?_ ?_ ?_
    · exact adds.cmd.trans (orElse_eq_left (settings .cmd))
    · exact adds.entrypoint.trans (orElse_eq_left (settings .entrypoint))
    · exact (workingDir_eq_iff shadowed.env ran allRan (settings .workingDir)).mpr shadowed.workingDir
    · exact adds.user.trans (orElse_eq_left (settings .user))
    · rw [adds.exposedPorts, shadowed.exposedPorts, nil_append]
    · rw [adds.labels, shadowed.labels, nil_append]
    · exact adds.shell.trans (orElse_eq_left (settings .shell))
    · exact adds.stopSignal.trans (orElse_eq_left (settings .stopSignal))
    · rw [adds.volumes, shadowed.volumes, nil_append]

theorem inheritedMetadata_append {config : BuildConfig} {base : ImageMetadata}
    {below : List BuiltStage} {last : BuiltStage} {metadata : ImageMetadata} :
    inheritedMetadata config base (below ++ [last]) = .ok metadata ↔
      ∃ inherited, inheritedMetadata config base below = .ok inherited ∧
        foldInstructions config inherited (instructionsOf config last) = .ok metadata := by
  rw [inheritedMetadata, foldlM_append]
  refine bind_eq_ok.trans (exists_congr fun inherited => and_congr_right fun _ => ?_)
  rw [foldlM_cons_eq_ok]
  constructor
  · rintro ⟨_, folded, same⟩
    obtain rfl := pure_eq_ok.mp same
    exact folded
  · exact fun folded => ⟨metadata, folded, rfl⟩

/-- The build returned this result, after these stages. -/
def Completes {Guest : Type} (executor : BuildExecutor Guest) (config : BuildConfig) (guest : Guest)
    (completed : List BuiltStage) (result : BuildResult) : Prop :=
  ∃ needed last, resolveNeededStages config = .ok needed ∧
    buildStages executor config needed guest = (.ok completed, last) ∧
    buildResult completed = some result

theorem Chain.below_subset {completed : List BuiltStage} {stage : BuiltStage}
    {below : List BuiltStage} {image : Text} (chain : Chain completed stage below image) :
    ∀ built ∈ below, built ∈ completed := by
  induction chain with
  | outside => exact nofun
  | inside present _ _ ih =>
    intro built mem
    rcases mem_append.mp mem with deeper | same
    · exact ih built deeper
    · rw [mem_singleton.mp same]
      exact present

theorem toOption_eq_some {Error Value : Type} {outcome : Except Error Value} {value : Value} :
    outcome.toOption = some value ↔ outcome = .ok value := by
  cases outcome <;> simp [Except.toOption]

private theorem mapM_length {α β : Type} {convert : α → Option β} {items : List α}
    {converted : List β} (ran : items.mapM convert = some converted) : converted.length = items.length := by
  induction items generalizing converted with
  | nil =>
    cases ran
    rfl
  | cons item items ih =>
    rw [mapM_cons] at ran
    obtain ⟨first, _, rest⟩ := bind_eq_some_iff.mp ran
    obtain ⟨others, more, same⟩ := bind_eq_some_iff.mp rest
    cases same
    simp [ih more]

/-- An image whose last stage is built on another stage has what it inherits exactly if there is
nothing to inherit: a base image without layers, stages below without an instruction that makes a
layer, and no metadata of theirs that shows behind the instructions of the last stage. -/
theorem inheritedImage_iff {Guest : Type} (executor : BuildExecutor Guest) (config : BuildConfig)
    (guest : Guest) (store : BuildStore) (completed below : List BuiltStage) (result : BuildResult)
    (last : BuiltStage) (image : Text) (base : ResolvedBaseImage)
    (assembled : List ProcessedLayer × ImageMetadata)
    (completes : Completes executor config guest completed result)
    (isLast : completed.getLast? = some last)
    (onStage : last.lower ≠ none)
    (chain : Chain completed last below image)
    (resolved : resolveBaseImage store image = some base)
    (assembles : resolveAssemblyInputs store result = some assembled) :
    inheritedImage store config image (below ++ [last]) = some assembled ↔
      base.layers = [] ∧
      (∀ built ∈ below, ∀ instr ∈ instructionsOf config built, instr.makesLayer = false) ∧
      ∃ inherited, inheritedMetadata config base.metadata below = .ok inherited ∧
        Shadowed config inherited (instructionsOf config last) := by
  obtain ⟨needed, guestAfter, _, ran, returned⟩ := completes
  have advances : ∀ built ∈ completed,
      Advances config .initial (instructionsOf config built) built.state :=
    yields_buildStages executor config needed guest trivial completed (by rw [ran])
  simp only [buildResult, isLast, Option.map_some, Option.some.injEq] at returned
  subst returned
  have noBase : last.lower.isNone = false := by
    cases lower : last.lower with
    | none => exact absurd lower onStage
    | some => rfl
  simp only [resolveAssemblyInputs, noBase, Bool.false_eq_true, ↓reduceIte] at assembles
  obtain ⟨own, converted, same⟩ := Option.bind_eq_some_iff.mp assembles
  obtain rfl := Option.some.inj same
  have nothing : (below.flatMap fun stage => stage.state.layers.filter (!·.empty)) = [] ↔
      ∀ built ∈ below, ∀ instr ∈ instructionsOf config built, instr.makesLayer = false := by
    rw [flatMap_eq_nil_iff]
    exact forall₂_congr fun built mem =>
      layers_filter_eq_nil_iff (advances built (chain.below_subset built mem))
  have metadata : inheritedMetadata config base.metadata (below ++ [last]) =
      .ok last.state.metadata ↔ ∃ inherited,
        inheritedMetadata config base.metadata below = .ok inherited ∧
          Shadowed config inherited (instructionsOf config last) := by
    obtain ⟨after, made, folded, isState, _⟩ := advances last (mem_of_getLast? isLast)
    have sameMetadata : last.state.metadata = after.metadata := by rw [isState, withLayers]
    rw [inheritedMetadata_append, sameMetadata]
    exact exists_congr fun inherited => and_congr_right fun _ =>
      foldInstructions_eq_iff folded inherited
  rw [← nothing, ← metadata, inheritedImage, resolved, layersOf, flatMap_append, flatMap_singleton,
    Option.bind_eq_bind, Option.bind_some]
  constructor
  · intro inherited
    obtain ⟨layers, all, rest⟩ := Option.bind_eq_some_iff.mp inherited
    obtain ⟨folded, isFold, parts⟩ := Option.bind_eq_some_iff.mp rest
    obtain ⟨sameLayers, rfl⟩ := Prod.mk.inj (Option.some.inj parts)
    have whole := mapM_length all
    have ownLength := mapM_length converted
    have lengths := congrArg length sameLayers
    rw [length_append] at whole lengths
    exact ⟨eq_nil_of_length_eq_zero (by omega), eq_nil_of_length_eq_zero (by omega),
      toOption_eq_some.mp isFold⟩
  · rintro ⟨noLayers, noneBelow, isFold⟩
    rw [noneBelow, nil_append]
    refine Option.bind_eq_some_iff.mpr ⟨own, converted, ?_⟩
    refine Option.bind_eq_some_iff.mpr ⟨_, toOption_eq_some.mpr isFold, ?_⟩
    rw [noLayers]
    rfl

/-- Every command of this guest succeeds; a snapshot is the given one. -/
def obedient (snapshot : LayerSnapshot) : BuildExecutor Unit where
  overlayInit := fun _ => pure ()
  exec := fun _ _ _ => pure 0
  snapshotLayer := pure snapshot
  flattenOverlay := pure ()
  copyToGuest := fun _ _ => pure ()
  setupMount := fun _ => pure ()
  teardownMount := fun _ => pure ()

def sampleSnapshot : LayerSnapshot := ⟨"AAAA".toList, "sha256:1".toList, "sha256:2".toList, 3⟩

def plainStore : BuildStore where
  decode := fun _ => some [0, 0, 0]
  image := fun _ => some ⟨[], .empty⟩

/-- `FROM image AS base` with the given instructions, then `FROM base` with a `CMD`. -/
def onBase (image : Text) (instructions : List BuildInstruction) : BuildConfig where
  dockerfile := ⟨[], [⟨⟨image, some "base".toList⟩, instructions⟩,
    ⟨⟨"base".toList, none⟩, [.cmd (.exec ["run".toList])]⟩]⟩
  buildArgs := []
  target := none
  contextDir := []

def baseStage (image : Text) (state : StageState) : BuiltStage := ⟨0, image, none, state⟩

def withCommand (command : Text) : ImageMetadata :=
  { ImageMetadata.empty with cmd := some [command] }

def commandStage : BuiltStage :=
  ⟨1, "base".toList, some 0, { initial with metadata := withCommand "run".toList }⟩

def commandResult : BuildResult := ⟨none, [], commandStage.state.metadata⟩

/-- On `scratch` and a stage with another `CMD` nothing is inherited. -/
theorem inheritedImage_scratch_iff :
    let config := onBase "scratch".toList [.cmd (.exec ["make".toList])]
    let below := baseStage "scratch".toList { initial with metadata := withCommand "make".toList }
    Completes (obedient sampleSnapshot) config () [below, commandStage] commandResult ∧
      inheritedImage plainStore config "scratch".toList ([below] ++ [commandStage]) =
        some ([], commandStage.state.metadata) := by
  intro config below
  have completes : Completes (obedient sampleSnapshot) config () [below, commandStage]
      commandResult := ⟨[0, 1], (), by decide +kernel, rfl, rfl⟩
  refine ⟨completes, (inheritedImage_iff (obedient sampleSnapshot) config () plainStore _ _
    commandResult commandStage "scratch".toList ⟨[], .empty⟩ ([], commandStage.state.metadata)
    completes rfl (by decide) (.inside (.head _) rfl (.outside rfl)) (by decide) rfl).mpr ?_⟩
  refine ⟨rfl, ?_, withCommand "make".toList, rfl, rfl, rfl, rfl, rfl, ?_, .inl nofun⟩
  · simp [instructionsOf, config, below, onBase, baseStage, BuildInstruction.makesLayer]
  · intro setting set
    cases setting with
    | cmd => exact ⟨_, .head _, rfl⟩
    | _ => cases set

/-- The layer of a `RUN` in the stage below is not in the image. -/
theorem lower_layer_lost :
    let config := onBase "alpine".toList [.run (.shell "make".toList) []]
    ∃ completed result, Completes (obedient sampleSnapshot) config () completed result ∧
      ∃ below last assembled, completed.getLast? = some last ∧
        Chain completed last below "alpine".toList ∧
        resolveAssemblyInputs plainStore result = some assembled ∧ assembled.1 = [] ∧
        inheritedImage plainStore config "alpine".toList (below ++ [last]) ≠ some assembled := by
  intro config
  let below := baseStage "alpine".toList { initial with
    layers := [⟨"AAAA".toList, "sha256:1".toList, "sha256:2".toList, 3, false⟩] }
  refine ⟨[below, commandStage], commandResult, ⟨[0, 1], (), by decide +kernel, rfl, rfl⟩,
    [below], commandStage, _, rfl, .inside (.head _) rfl (.outside rfl), rfl, rfl, ?_⟩
  intro same
  have layers := congrArg (Option.map fun image => image.1.length) same
  exact absurd layers (by decide +kernel)

end Visor.Build
