import Visor.Build.Dockerfile
import Visor.Fs.Path
import Visor.Library.Command
import Visor.Library.GraphWalk
import Visor.Library.KeyedMap

/-! The guest that executes the instructions is any executor; its calls may fail. -/

namespace Visor.Build
open Library Command
open Backend (Text)
open Fs (Path)

structure LayerSnapshot where
  data : Text
  compressedDigest : Text
  uncompressedDigest : Text
  compressedSize : U64

structure BuiltLayer where
  data : Text
  compressedDigest : Text
  uncompressedDigest : Text
  compressedSize : U64
  empty : Bool

structure ResolvedMount where
  mountType : MountType
  target : Text
  source : Option Text
  readOnly : Bool
  id : Option Text

@[ext]
structure ImageMetadata where
  cmd : Option (List Text)
  entrypoint : Option (List Text)
  env : List (Text × Text)
  workingDir : Option Text
  user : Option Text
  exposedPorts : List ExposedPort
  labels : List (Text × Text)
  shell : Option (List Text)
  stopSignal : Option Text
  volumes : List Text
deriving DecidableEq

def ImageMetadata.empty : ImageMetadata := ⟨none, none, [], none, none, [], [], none, none, []⟩

structure BuildConfig where
  dockerfile : ParsedDockerfile
  buildArgs : Vars
  target : Option Text
  contextDir : Path

structure BuildResult where
  baseImage : Option Text
  layers : List BuiltLayer
  config : ImageMetadata

structure StageState where
  layers : List BuiltLayer
  vars : Vars
  envVars : Vars
  workingDir : Text
  shell : List Text
  metadata : ImageMetadata

def StageState.initial : StageState where
  layers := []
  vars := []
  envVars := []
  workingDir := "/".toList
  shell := ["/bin/sh".toList, "-c".toList]
  metadata := .empty

structure BuildExecutor (Guest : Type) where
  overlayInit : Option Text → Command Guest BuildError Unit
  exec : List Text → List Text → Text → Command Guest BuildError Int
  snapshotLayer : Command Guest BuildError LayerSnapshot
  flattenOverlay : Command Guest BuildError Unit
  copyToGuest : List Path → Text → Command Guest BuildError Unit
  setupMount : ResolvedMount → Command Guest BuildError Unit
  teardownMount : ResolvedMount → Command Guest BuildError Unit

variable (reference : Text) (stages : List Stage)

def resolveStageRef : Option Nat :=
  match (parseUnsigned (2 ^ 64) reference).filter (· < stages.length) with
  | some index => some index
  | none => stages.findIdx? (·.base.as = some reference)

/-- The stages a stage refers to as it is written: in its `FROM`, then in its `COPY --from`. -/
def writtenRefs (stage : Stage) : List Nat :=
  (resolveStageRef stage.base.image stages).toList ++ stage.instructions.filterMap fun instr =>
    instr.copyFrom.bind (resolveStageRef · stages)

def refsAt (index : Nat) : List Nat := (stages[index]?.map (writtenRefs stages)).getD []

/-- Every stage is taken once and adds its references, so that many turns are enough. -/
def neededTurns : Nat := 1 + ∑ index ∈ Finset.range stages.length, (refsAt stages index).length

/-- `resolve_needed_stages`; its queue is popped at the end. -/
def resolveNeededStages (config : BuildConfig) : Except BuildError (List Nat) :=
  let stages := config.dockerfile.stages
  match config.target with
  | none => .ok (List.range stages.length)
  | some target =>
    match stages.findIdx? (·.base.as = some target) with
    | none => .error (.targetNotFound target)
    | some index =>
      match walk (refsAt stages) (neededTurns stages) [index] [] with
      | none => .error .noStages
      | some needed => .ok (sortedOfList needed)

section Process
variable {Guest : Type} (executor : BuildExecutor Guest) (config : BuildConfig)
  (command : CommandForm) (mounts : List MountFlag) (state : StageState)

def substitute (text : Text) (vars : Vars) : Command Guest BuildError Text :=
  inspect fun _ => substituteVars text vars

def resolveGlobalArgs : Vars :=
  config.dockerfile.globalArgs.foldl
    (fun vars arg =>
      match config.buildArgs.lookup arg.name <|> arg.default with
      | some value => vars.insert arg.name value
      | none => vars) []

def snapshotAndFlatten : Command Guest BuildError StageState := do
  let snap ← executor.snapshotLayer
  executor.flattenOverlay
  return { state with
    layers := state.layers ++
      [⟨snap.data, snap.compressedDigest, snap.uncompressedDigest, snap.compressedSize, false⟩] }

def commandToVec : CommandForm → List Text
  | .shell text => [text]
  | .exec args => args

def buildRunCommand : Command Guest BuildError (List Text) :=
  match command with
  | .shell text => do
    let expanded ← substitute text state.vars
    return state.shell ++ [expanded]
  | .exec args => args.mapM (substitute · state.vars)

def resolveMount (vars : Vars) (mount : MountFlag) : Command Guest BuildError ResolvedMount := do
  let target ← substitute mount.target vars
  let source ← mount.source.mapM (substitute · vars)
  return ⟨mount.mountType, target, source, mount.readOnly, mount.id⟩

def processRun : Command Guest BuildError StageState := do
  let cmd ← buildRunCommand command state
  let env := sortedOfList (state.envVars.map fun (name, value) => name ++ '=' :: value)
  let resolved ← mounts.mapM (resolveMount state.vars)
  resolved.forM executor.setupMount
  let outcome ← (executor.exec cmd env state.workingDir).attempt
  resolved.reverse.forM executor.teardownMount
  let exitCode ← inspect fun _ => outcome
  require (exitCode = 0) (.runFailed exitCode)
  snapshotAndFlatten executor state

def pathOf (text : Text) : Path := (text.flatMap String.utf8EncodeChar).map UInt8.toBitVec

def processCopy (instr : CopyInstr) (state : StageState) : Command Guest BuildError StageState := do
  let dest ← substitute instr.dest state.vars
  let sources ← instr.sources.mapM fun source => do
    let expanded ← substitute source state.vars
    return if instr.fromStage.isSome then pathOf expanded
      else Path.join config.contextDir (pathOf expanded)
  executor.copyToGuest sources dest
  snapshotAndFlatten executor state

def processAdd (sources : List Text) (dest : Text) (state : StageState) :
    Command Guest BuildError StageState := processCopy executor config ⟨sources, dest, none⟩ state

def applyEnv (binding : Text × Text) : Except BuildError StageState := do
  let expanded ← substituteVars binding.2 state.vars
  return { state with
    vars := state.vars.insert binding.1 expanded
    envVars := state.envVars.insert binding.1 expanded
    metadata := { state.metadata with env := state.metadata.env ++ [(binding.1, expanded)] } }

def applyArg (name : Text) (standard : Option Text) (state : StageState) : StageState :=
  let inherited := (config.dockerfile.globalArgs.find? (·.name = name)).bind (·.default)
  let value := (config.buildArgs.lookup name <|> standard <|> inherited).getD []
  { state with vars := state.vars.insert name value }

def applyWorkdir (path : Text) (state : StageState) : Except BuildError StageState := do
  let path ← substituteVars path state.vars
  let workingDir :=
    if path.head? = some '/' then path
    else if state.workingDir.getLast? = some '/' then state.workingDir ++ path
    else state.workingDir ++ '/' :: path
  return { state with
    workingDir := workingDir
    metadata := { state.metadata with workingDir := some workingDir } }

def applyMetadata (state : StageState) : BuildInstruction → Except BuildError StageState
  | .env vars => vars.foldlM applyEnv state
  | .arg name standard => .ok (applyArg config name standard state)
  | .workdir path => applyWorkdir path state
  | .user user => .ok { state with metadata := { state.metadata with user := some user } }
  | .cmd command =>
    .ok { state with metadata := { state.metadata with cmd := some (commandToVec command) } }
  | .entrypoint command =>
    .ok { state with metadata := { state.metadata with entrypoint := some (commandToVec command) } }
  | .expose ports =>
    .ok { state with
      metadata := { state.metadata with exposedPorts := state.metadata.exposedPorts ++ ports } }
  | .label labels =>
    .ok { state with metadata := { state.metadata with labels := state.metadata.labels ++ labels } }
  | .shell shell =>
    .ok { state with shell := shell, metadata := { state.metadata with shell := some shell } }
  | .stopsignal signal => .ok { state with metadata := { state.metadata with stopSignal := some signal } }
  | .volume paths =>
    .ok { state with metadata := { state.metadata with volumes := state.metadata.volumes ++ paths } }
  | .healthcheck | .run _ _ | .copy _ | .add _ _ => .ok state

def processInstruction (state : StageState) : BuildInstruction → Command Guest BuildError StageState
  | .run command mounts => processRun executor command mounts state
  | .copy instr => processCopy executor config instr state
  | .add sources dest => processAdd executor config sources dest state
  | instr => inspect fun _ => applyMetadata config state instr

structure BuiltStage where
  index : Nat
  fromImage : Text
  lower : Option Nat
  state : StageState

/-- One turn of the loop of `build`: the overlay over another stage or over nothing, then the
instructions. -/
def buildStage (index : Nat) (stage : Stage) : Command Guest BuildError BuiltStage := do
  let fromImage ← substitute stage.base.image (resolveGlobalArgs config)
  let lower := resolveStageRef fromImage config.dockerfile.stages
  executor.overlayInit (lower.map fun _ => fromImage)
  let state ← stage.instructions.foldlM (processInstruction executor config) .initial
  return ⟨index, fromImage, lower, state⟩

def buildStages : List Nat → Command Guest BuildError (List BuiltStage)
  | [] => pure []
  | index :: indices =>
    match config.dockerfile.stages[index]? with
    | none => buildStages indices
    | some stage => do
      let built ← buildStage executor config index stage
      let others ← buildStages indices
      return built :: others

def buildResult (completed : List BuiltStage) : Option BuildResult :=
  completed.getLast?.map fun last => {
    baseImage := if last.lower.isNone then some last.fromImage else none
    layers := last.state.layers
    config := last.state.metadata }

def build : Command Guest BuildError BuildResult := do
  let needed ← inspect fun _ => resolveNeededStages config
  let completed ← buildStages executor config needed
  inspect fun _ => (buildResult completed).elim (.error .noStages) .ok

end Process
end Visor.Build
