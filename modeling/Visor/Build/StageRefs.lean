import Visor.Build.Engine

/-! The stages for a target are chosen by the references as they are written; what a stage uses is
what its references name after substitution. -/

namespace Visor.Build
open Library List Option
open Backend (Text)

/-- The text is the number of the stage, or it is the number of none and the alias of this stage
and of none before it. -/
inductive Names (stages : List Stage) (reference : Text) (index : Nat) : Prop
  | number (parsed : parseUnsigned (2 ^ 64) reference = some index)
    (inside : index < stages.length)
  | alias {stage : Stage}
    (noNumber : ∀ number, parseUnsigned (2 ^ 64) reference = some number →
      stages.length ≤ number)
    (there : stages[index]? = some stage) (named : stage.base.as = some reference)
    (first : ∀ earlier other, earlier < index → stages[earlier]? = some other →
      other.base.as ≠ some reference)

/-- The `FROM` or a `COPY --from` of the stage names the other one as it is written. -/
inductive Refers (stages : List Stage) (index other : Nat) : Prop
  | base {stage : Stage} (there : stages[index]? = some stage)
    (names : Names stages stage.base.image other)
  | copy {stage : Stage} {instr : CopyInstr} {reference : Text}
    (there : stages[index]? = some stage) (listed : .copy instr ∈ stage.instructions)
    (given : instr.fromStage = some reference) (names : Names stages reference other)

/-- The `FROM` or a `COPY --from` of the stage names the other one after substitution, the latter
with the variables that the instructions before it have set. -/
inductive Uses (config : BuildConfig) (index other : Nat) : Prop
  | base {stage : Stage} {text : Text} (there : config.dockerfile.stages[index]? = some stage)
    (expands : substituteVars stage.base.image (resolveGlobalArgs config) = .ok text)
    (names : Names config.dockerfile.stages text other)
  | copy {stage : Stage} {before after : List BuildInstruction} {instr : CopyInstr}
    {reference text : Text} {state : StageState}
    (there : config.dockerfile.stages[index]? = some stage)
    (listed : stage.instructions = before ++ .copy instr :: after)
    (given : instr.fromStage = some reference)
    (reached : before.foldlM (applyMetadata config) .initial = .ok state)
    (expands : substituteVars reference state.vars = .ok text)
    (names : Names config.dockerfile.stages text other)

/-- Following the references as they are written leads from the target to the stage; without a
target every stage is selected. -/
def Selected (config : BuildConfig) (index : Nat) : Prop :=
  match config.target with
  | none => index < config.dockerfile.stages.length
  | some target => ∃ start,
    config.dockerfile.stages.findIdx? (·.base.as = some target) = some start ∧
      Relation.ReflTransGen (Refers config.dockerfile.stages) start index

/-- References lead back, the chosen stages are closed under them, and each is executed after those
it uses. -/
structure StageLaw (config : BuildConfig) (needed : List Nat) : Prop where
  earlier : ∀ index other, Uses config index other → other < index
  closed : ∀ index ∈ needed, ∀ other, Uses config index other → other ∈ needed
  ordered : ∀ before index after, needed = before ++ index :: after →
    ∀ other, Uses config index other → other ∈ before

theorem names_iff {stages : List Stage} {reference : Text} {index : Nat} :
    Names stages reference index ↔ resolveStageRef reference stages = some index := by
  have byAlias : stages.findIdx? (·.base.as = some reference) = some index ↔
      ∃ stage, stages[index]? = some stage ∧ stage.base.as = some reference ∧
        ∀ earlier other, earlier < index → stages[earlier]? = some other →
          other.base.as ≠ some reference := by
    rw [findIdx?_eq_some_iff_getElem]
    constructor
    · rintro ⟨inside, named, first⟩
      refine ⟨stages[index], getElem?_eq_getElem inside, by simpa using named, ?_⟩
      intro earlier other isEarlier there
      obtain ⟨bound, rfl⟩ := List.getElem?_eq_some_iff.mp there
      simpa using first earlier isEarlier
    · rintro ⟨stage, there, named, first⟩
      obtain ⟨inside, rfl⟩ := List.getElem?_eq_some_iff.mp there
      refine ⟨inside, by simpa using named, fun earlier isEarlier => ?_⟩
      simpa using first earlier _ isEarlier (getElem?_eq_getElem _)
  unfold resolveStageRef
  cases parsed : (parseUnsigned (2 ^ 64) reference).filter (· < stages.length) with
  | some number =>
    obtain ⟨isNumber, inside⟩ := filter_eq_some_iff.mp parsed
    have bound : number < stages.length := by simpa using inside
    constructor
    · rintro (⟨same, _⟩ | ⟨noNumber, _, _, _⟩)
      · exact isNumber.symm.trans same
      · exact absurd bound (Nat.not_lt.mpr (noNumber number isNumber))
    · rintro ⟨⟩
      exact .number isNumber bound
  | none =>
    have noNumber : ∀ number, parseUnsigned (2 ^ 64) reference = some number →
        stages.length ≤ number := by
      intro number isNumber
      have outside := filter_eq_none_iff.mp parsed number isNumber
      simpa using outside
    dsimp only
    rw [byAlias]
    constructor
    · rintro (⟨same, inside⟩ | ⟨_, there, named, first⟩)
      · exact absurd inside (Nat.not_lt.mpr (noNumber index same))
      · exact ⟨_, there, named, first⟩
    · rintro ⟨stage, there, named, first⟩
      exact .alias noNumber there named first

theorem refers_iff {stages : List Stage} {index other : Nat} :
    Refers stages index other ↔ other ∈ refsAt stages index := by
  unfold refsAt
  cases there : stages[index]? with
  | none =>
    constructor
    · rintro (⟨found, _⟩ | ⟨found, _, _, _⟩)
      all_goals
        rw [there] at found
        cases found
    · intro mem
      cases mem
  | some stage =>
    simp only [map_some, getD_some, writtenRefs, mem_append, mem_toList, mem_filterMap]
    constructor
    · rintro (⟨found, names⟩ | ⟨found, listed, given, names⟩)
      all_goals obtain rfl := Option.some.inj (there.symm.trans found)
      · exact .inl (names_iff.mp names)
      · refine .inr ⟨_, listed, ?_⟩
        simpa [BuildInstruction.copyFrom, given] using names_iff.mp names
    · rintro (resolved | ⟨instr, listed, copied⟩)
      · exact .base there (names_iff.mpr resolved)
      · obtain ⟨reference, given, resolved⟩ := bind_eq_some_iff.mp copied
        cases instr with
        | copy instr => exact .copy there listed given (names_iff.mpr resolved)
        | _ => cases given

theorem Names.lt {stages : List Stage} {reference : Text} {index : Nat}
    (names : Names stages reference index) : index < stages.length := by
  rcases names with ⟨_, inside⟩ | ⟨_, there, _, _⟩
  · exact inside
  · exact (List.getElem?_eq_some_iff.mp there).1

theorem Refers.lt {stages : List Stage} {index other : Nat} (refers : Refers stages index other) :
    other < stages.length := by
  rcases refers with ⟨_, names⟩ | ⟨_, _, _, names⟩
  · exact names.lt
  · exact names.lt

theorem Uses.lt {config : BuildConfig} {index other : Nat} (uses : Uses config index other) :
    other < config.dockerfile.stages.length := by
  rcases uses with ⟨_, _, names⟩ | ⟨_, _, _, _, _, names⟩
  · exact names.lt
  · exact names.lt

theorem resolveNeededStages_ends {config : BuildConfig} {error : BuildError}
    (failed : resolveNeededStages config = .error error) :
    ∃ target, config.target = some target ∧ error = .targetNotFound target ∧
      config.dockerfile.stages.findIdx? (·.base.as = some target) = none := by
  unfold resolveNeededStages at failed
  cases aim : config.target with
  | none => simp [aim] at failed
  | some target =>
    simp only [aim] at failed
    cases found : config.dockerfile.stages.findIdx? (·.base.as = some target) with
    | none =>
      simp only [found, Except.error.injEq] at failed
      exact ⟨target, rfl, failed.symm, found⟩
    | some start =>
      have inside : start < config.dockerfile.stages.length :=
        (findIdx?_eq_some_iff_findIdx_eq.mp found).1
      have ends : (walk (refsAt config.dockerfile.stages)
          (neededTurns config.dockerfile.stages) [start] []).isSome := by
        refine walk_isSome (Finset.range config.dockerfile.stages.length) ?_ ?_ ?_
        · intro node _ successor edge
          exact Finset.mem_range.mpr (refers_iff.mpr edge).lt
        · simpa using inside
        · simp [neededTurns]
      obtain ⟨needed, ended⟩ := isSome_iff_exists.mp ends
      simp [found, ended] at failed

theorem resolveNeededStages_spec {config : BuildConfig} {needed : List Nat}
    (chosen : resolveNeededStages config = .ok needed) :
    needed.Pairwise (· < ·) ∧ ∀ index, index ∈ needed ↔ Selected config index := by
  unfold resolveNeededStages at chosen
  unfold Selected
  cases aim : config.target with
  | none =>
    simp only [aim, Except.ok.injEq] at chosen
    subst chosen
    exact ⟨pairwise_lt_range, fun index => mem_range⟩
  | some target =>
    simp only [aim] at chosen
    cases found : config.dockerfile.stages.findIdx? (·.base.as = some target) with
    | none => simp [found] at chosen
    | some start =>
      simp only [found] at chosen
      cases ended : walk (refsAt config.dockerfile.stages)
          (neededTurns config.dockerfile.stages) [start] [] with
      | none => simp [ended] at chosen
      | some seen =>
        simp only [ended, Except.ok.injEq] at chosen
        subst chosen
        refine ⟨sortedOfList_pairwise seen, fun index => ?_⟩
        have edges : Refers config.dockerfile.stages =
            fun index other => other ∈ refsAt config.dockerfile.stages index := by
          funext index other
          exact propext refers_iff
        rw [mem_sortedOfList, mem_walk_iff ended, Reaches, ← edges]
        simp [found]

/-- The search for stages always ends, with those that lead to the target. -/
theorem needed_stages_exact (config : BuildConfig) :
    match resolveNeededStages config with
    | .ok needed => needed.Pairwise (· < ·) ∧ ∀ index, index ∈ needed ↔ Selected config index
    | .error error => ∃ target, config.target = some target ∧ error = .targetNotFound target ∧
      config.dockerfile.stages.findIdx? (·.base.as = some target) = none := by
  cases chosen : resolveNeededStages config with
  | ok => exact resolveNeededStages_spec chosen
  | error => exact resolveNeededStages_ends chosen

private theorem mem_before {before after : List Nat} {index other : Nat}
    (sorted : (before ++ index :: after).Pairwise (· < ·)) (smaller : other < index)
    (mem : other ∈ before ++ index :: after) : other ∈ before := by
  rcases mem_append.mp mem with inFront | behind
  · exact inFront
  · have later : index ≤ other := by
      rcases mem_cons.mp behind with rfl | inBack
      · exact Nat.le_refl _
      · have tailSorted := (pairwise_append.mp sorted).2.1
        exact Nat.le_of_lt ((pairwise_cons.mp tailSorted).1 other inBack)
    omega

/-- A reference without a variable names what it is written as. -/
theorem Uses.refers {config : BuildConfig} {index other : Nat} (uses : Uses config index other)
    (plain : ∀ stage ∈ config.dockerfile.stages, '$' ∉ stage.base.image ∧
      ∀ instr reference, .copy instr ∈ stage.instructions → instr.fromStage = some reference →
        '$' ∉ reference) : Refers config.dockerfile.stages index other := by
  rcases uses with ⟨there, expands, names⟩ | ⟨there, listed, given, _, expands, names⟩
  · have written := (plain _ (mem_of_getElem? there)).1
    rw [substituteVars_plain written] at expands
    cases expands
    exact .base there names
  · have isCopy := listed ▸ mem_append_right _ (.head _)
    have written := (plain _ (mem_of_getElem? there)).2 _ _ isCopy given
    rw [substituteVars_plain written] at expands
    cases expands
    exact .copy there isCopy given names

theorem Selected.refers {config : BuildConfig} {index other : Nat}
    (selected : Selected config index) (refers : Refers config.dockerfile.stages index other) :
    Selected config other := by
  unfold Selected at selected ⊢
  split at selected
  · exact refers.lt
  · obtain ⟨start, found, reached⟩ := selected
    exact ⟨start, found, reached.tail refers⟩

/-- `FROM alpine AS base`, `FROM base AS final` with `COPY --from=0`, built for `final`. -/
def twoStages : BuildConfig where
  dockerfile := {
    globalArgs := []
    stages := [⟨⟨"alpine".toList, some "base".toList⟩, []⟩,
      ⟨⟨"base".toList, some "final".toList⟩,
        [.copy ⟨["app".toList], "/".toList, some "0".toList⟩]⟩] }
  buildArgs := []
  target := some "final".toList
  contextDir := []

def selfStage : BuildConfig where
  dockerfile := ⟨[], [⟨⟨"alpine".toList, some "alpine".toList⟩, []⟩]⟩
  buildArgs := []
  target := none
  contextDir := []

/-- `ARG BASE=builder`, `FROM scratch AS builder`, `FROM $BASE AS final`, built for `final`. -/
def variableStage : BuildConfig where
  dockerfile := {
    globalArgs := [⟨"BASE".toList, some "builder".toList⟩]
    stages := [⟨⟨"scratch".toList, some "builder".toList⟩, []⟩,
      ⟨⟨"$BASE".toList, some "final".toList⟩, []⟩] }
  buildArgs := []
  target := some "final".toList
  contextDir := []

end Visor.Build
