import Visor.Docker.Agreement

/-! Names of containers. Nothing that puts a record into the map looks at the names of the others,
and while two records share a name, the order of the map decides which of them is meant. -/

namespace Visor.Docker
open Library Backend KeyedMap List AList
namespace DockerState
def nameOf (state : DockerState) (id : Text) : Option Text :=
  (state.containers.lookup id).bind (·.config.name)

def Distinct (state : DockerState) : Prop :=
  ∀ id other name, state.nameOf id = some name → state.nameOf other = some name → id = other

/-- What a name or the beginning of an id leads to. -/
structure Resolves (state : DockerState) (text : Text) (result : Option Text) : Prop where
  own : (state.containers.lookup text).isSome = true → result = some text
  named : ∀ id, state.containers.lookup text = none → state.nameOf id = some text → result = some id
  begun : state.containers.lookup text = none → (∀ id, state.nameOf id ≠ some text) →
    ∀ id, result = some id ↔
    ∀ other, (state.containers.lookup other).isSome = true ∧ text <+: other ↔ other = id

/-- No record but that of the id has the name. -/
def Free (state : DockerState) (id : Text) (name : Option Text) : Prop :=
  ∀ other, name ≠ none → state.nameOf other = name → other = id

/-- A new container and one that has been started get a name that no other record has. -/
def Spares (state : DockerState) : Event → Prop
  | .create id request name =>
    (dockerCreateToVmConfig request name true).isOk = true → id ∉ state.known → state.Free id name
  | .turn task _ =>
    ∀ id record config vm, state.tasks.lookup task = some (.startCopy id record config vm []) →
      state.Free id config.name
  | _ => True

/-- No two records share a name, and each text resolves as it should. -/
def Unambiguous (state : DockerState) : Prop :=
  state.Distinct ∧ ∀ text order, text ≠ [] →
    state.Resolves text (state.resolveManagedContainerId order text)

/-- At most one record gets another name, and a free one. -/
def Renames (state after : DockerState) : Prop := ∃ id name, state.Free id name ∧ ∀ other,
  after.nameOf other = state.nameOf other ∨ after.nameOf other = none ∨ other = id ∧
    after.nameOf other = name

variable {rules : ArchiveRules} {state after : DockerState} {task : Nat} {choice : Choice} {text : Text}

private theorem mem_iterate_iff {id : Text} (order : List Text) :
    id ∈ state.containers.iterate order ↔ (state.containers.lookup id).isSome = true := by
  rw [← mem_keys_iff]
  by_cases early : id ∈ order <;> simp [KeyedMap.iterate, early]

theorem Distinct.resolves (distinct : state.Distinct) (order : List Text) (filled : text ≠ []) :
    state.Resolves text (state.resolveManagedContainerId order text) := by
  have isNamed (id : Text) :
    ((state.containers.lookup id).any fun record => record.config.name = some text) = true ↔
    state.nameOf id = some text := by
    unfold nameOf
    cases state.containers.lookup id <;> simp
  unfold resolveManagedContainerId
  constructor
  · intro present
    rw [if_pos present]
  · intro id absent named
    rw [if_neg (by simp [absent])]
    cases found : (state.containers.iterate order).find? _ with
    | none =>
      refine absurd ((isNamed id).mpr named) (find?_eq_none.mp found id ((mem_iterate_iff order).mpr ?_))
      cases missing : state.containers.lookup id with
      | none => simp [nameOf, missing] at named
      | some => rfl
    | some first =>
      have isFirst := (isNamed first).mp (by simpa using find?_some found)
      exact congrArg some (distinct first id text isFirst named)
  · intro absent unnamed id
    have none : (state.containers.iterate order).find? _ = none :=
      find?_eq_none.mpr fun other _ named => unnamed other ((isNamed other).mp named)
    have only : (state.containers.keys.filter fun other => text.isPrefixOf other) = [id] ↔
      ∀ other, (state.containers.lookup other).isSome = true ∧ text <+: other ↔ other = id := by
      rw [← perm_singleton, perm_ext_iff_of_nodup (state.containers.keys_nodup.filter _)
        (nodup_singleton id)]
      simp [mem_keys_iff]
    rw [if_neg (by simp [absent]), none, ← only]
    simp only [List.isEmpty_iff, filled, if_false]
    split
    next single =>
      simp [single]
    next several =>
      exact iff_of_false nofun (several id)

theorem Distinct.renames (distinct : state.Distinct) (renames : state.Renames after) : after.Distinct := by
  obtain ⟨id, name, free, others⟩ := renames
  intro first second shared isFirst isSecond
  rcases others first with same | gone | ⟨rfl, put⟩
  · rcases others second with sameToo | gone | ⟨rfl, put⟩
    · exact distinct first second shared (same ▸ isFirst) (sameToo ▸ isSecond)
    · cases gone.symm.trans isSecond
    · rw [isSecond] at put
      exact free first (put ▸ nofun) (same ▸ put ▸ isFirst)
  · cases gone.symm.trans isFirst
  · rw [isFirst] at put
    rcases others second with same | gone | ⟨rfl, _⟩
    · exact (free second (put ▸ nofun) (same ▸ put ▸ isSecond)).symm
    · cases gone.symm.trans isSecond
    · rfl

theorem renames_of_keeps (keeps : ∀ other, after.nameOf other = state.nameOf other ∨
      after.nameOf other = none) : state.Renames after :=
  ⟨[], none, fun _ absent => absurd rfl absent, fun other => (keeps other).imp_right .inl⟩

theorem renames_of_eq (same : after.containers = state.containers) : state.Renames after :=
  renames_of_keeps fun _ => .inl (by rw [nameOf, nameOf, same])

theorem renames_put {id : Text} {record : DockerContainerRecord} (free : state.Free id record.config.name)
    (same : after.containers = state.containers.insert id record) : state.Renames after := by
  refine ⟨id, _, free, fun other => ?_⟩
  rw [nameOf, nameOf, same, lookup_insert_eq]
  split
  · exact .inr (.inr ⟨‹_›, rfl⟩)
  · exact .inl rfl

private theorem renames_turn (spares : state.Spares (.turn task choice)) :
    state.Renames (state.turn rules task choice) := by
  unfold turn
  split
  · exact renames_of_eq rfl
  next stage found =>
    cases stage with
    | startCopy logicalId record config vm archives =>
      cases archives with
      | nil => exact renames_put (spares logicalId record config vm found) rfl
      | cons =>
        simp only [startTurn]
        split <;> exact renames_of_eq rfl
    | removeTake =>
      simp only [removeTurn]
      repeat' split
      · exact renames_of_eq rfl
      all_goals
        refine renames_of_keeps fun other => ?_
        simp only [nameOf, dropRecord, goto, finish, lookup_erase_eq]
        split <;> simp
    | uploadPend =>
      simp only [uploadTurn]
      repeat' split
      · exact renames_of_eq rfl
      · exact renames_of_eq rfl
      all_goals
        refine renames_of_keeps fun other => .inl ?_
        simp only [nameOf, accept, setRecord, finish, lookup_insert_eq]
        split
        next same =>
          subst same
          simp [*, pendArchive_spec]
        · rfl
    | _ =>
      simp only [startTurn, openTurn, stopTurn, removeTurn, uploadTurn]
      repeat' split
      all_goals exact renames_of_eq rfl

theorem renames_step (event : Event) (spares : state.Spares event) :
    state.Renames (state.step rules event) := by
  cases event with
  | create id request name =>
    rw [step, containerCreate]
    split
    · exact renames_of_eq rfl
    next config made =>
      split
      · exact renames_of_eq rfl
      next isNew =>
        refine renames_put ?_ rfl
        rw [(dockerCreateToVmConfig_cases made).1]
        exact spares (by rw [made]; rfl) isNew
  | turn => exact renames_turn spares
  | _ =>
    simp only [step]
    repeat' split
    all_goals exact renames_of_eq rfl

theorem Distinct.spares {event : Event} (distinct : (state.step rules event).Distinct) :
    state.Spares event := by
  have put (id : Text) (record : DockerContainerRecord)
    (same : (state.step rules event).containers = state.containers.insert id record) :
      state.Free id record.config.name := by
    intro other named isOther
    by_contra apart
    obtain ⟨name, isName⟩ := Option.ne_none_iff_exists'.mp named
    refine apart (distinct other id name ?_ ?_)
    · rw [nameOf, same, lookup_insert_eq, if_neg apart]
      exact isOther.trans isName
    · rw [nameOf, same, lookup_insert_eq, if_pos rfl]
      exact isName
  cases event with
  | create id request name =>
    intro isOk isNew
    cases made : dockerCreateToVmConfig request name true with
    | error =>
      rw [made] at isOk
      cases isOk
    | ok config =>
      rw [← (dockerCreateToVmConfig_cases made).1]
      refine put id ⟨none, config, []⟩ ?_
      simp [step, containerCreate, made, isNew, setRecord]
  | turn task =>
    intro id record config vm found
    refine put id ⟨some vm, config, []⟩ ?_
    rw [step, turn, found]
    rfl
  | _ => trivial

theorem names_resolve_iff (rules : ArchiveRules) (events : List Event) :
    Throughout (step rules) Unambiguous new events ↔ Along (step rules) Spares new events :=
  throughout_iff_along Distinct
    (fun _ event distinct (_ : True) spares => distinct.renames (renames_step event spares))
    (fun _ distinct => ⟨distinct, fun _ order filled => distinct.resolves order filled⟩)
      (fun _ _ _ unambiguous => unambiguous.1.spares)
    (fun _ _ _ named => nomatch (named : none = some _)) (along_of_always _ _ fun _ _ => trivial)

def createNamed (id : Char) : Event := .create [id] (isolatedRequest [] []) (some web)

/-- Two containers of one name: the order of the map decides. -/
theorem names_shared :
    ¬ Throughout (step plainRules) Unambiguous new [createNamed 'a', createNamed 'b'] := by
  rintro ⟨_, _, distinct, _⟩
  exact absurd (distinct ['a'] ['b'] web (by decide +kernel) (by decide +kernel)) (by decide)

end DockerState
end Visor.Docker
