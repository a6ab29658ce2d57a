import Visor.Backend.Store
import Visor.Library.Run

/-! Events come from two polls at a time. Their table has no restart, takes a container that is
first seen after its end for one that dies, and is not asked about containers that are gone. -/

namespace Visor.Docker
open Library Backend KeyedMap List AList

inductive Action where
  | start
  | die
deriving DecidableEq

def nextContainerEvent : Option VmState → VmState → Option Action
  | none, .running | some .creating, .running => some .start
  | none, .stopped | none, .failed | some .running, .stopped | some .running, .failed
  | some .creating, .stopped | some .creating, .failed | some .stopped, .failed => some .die
  | _, _ => none

def Action.text : Action → Text
  | .start => "start".toList
  | .die => "die".toList

/-- The states of the containers that a poll finds and the other filters of the request let through. -/
abbrev Views := KeyedMap Text VmState

/-- The filter of the request that names actions. -/
def wanted (events : List Text) (action : Action) : Bool := events.isEmpty || events.contains action.text

def emitted (events : List Text) (previousStates views : Views) : KeyedMap Text Action :=
  views.filterMap fun id state => (nextContainerEvent (previousStates.lookup id) state).filter
    (wanted events)

def actionsOf (events : List Text) (id : Text) (previousStates : Views) : List Views → List Action
  | [] => []
  | views :: polls =>
    ((emitted events previousStates views).lookup id).toList ++ actionsOf events id views polls

/-- The action that has led to the state. -/
def phase (state : Option VmState) : Action := if state = some .running then .start else .die

/-- Every change between running and not running is told once, and nothing else is. -/
def Told (events : List Text) (previousStates views : Views) : Prop :=
  ∀ id, (emitted events previousStates views).lookup id =
    if phase (views.lookup id) = phase (previousStates.lookup id) then none else some
      (phase (views.lookup id))

/-- No container vanishes or begins anew while it runs or runs again without being created, the filter takes
the actions of the other changes, and it leaves out the end of containers that were not seen running. -/
def Tabled (events : List Text) : Option VmState → Option VmState → Prop
  | some .running, none | some .running, some .creating | some .stopped,
    some .running | some .failed, some .running => False
  | none, some .running | some .creating, some .running => wanted events .start = true
  | some .running, some .stopped | some .running, some .failed => wanted events .die = true
  | none, some .stopped | none, some .failed | some .creating, some .stopped | some .creating, some .failed
  | some .stopped, some .failed => wanted events .die = false
  | _, _ => True

/-- The table tells the change of every container. -/
def Regular (events : List Text) (previousStates views : Views) : Prop :=
  ∀ id, Tabled events (previousStates.lookup id) (views.lookup id)

variable (events : List Text)

theorem told_iff (previousStates views : Views) :
    Told events previousStates views ↔ Regular events previousStates views := by
  refine forall_congr' fun id => ?_
  rw [emitted, KeyedMap.lookup_filterMap]
  generalize previousStates.lookup id = before
  generalize views.lookup id = after
  rcases before with _ | (_ | _ | _ | _) <;> rcases after with _ | (_ | _ | _ | _) <;>
    simp [Tabled, nextContainerEvent, phase]

private theorem alternates_of_told (id : Text) {previousStates : Views} {polls : List Views}
    (told : Along (fun _ views => views) (Told events) previousStates polls) :
    (phase (previousStates.lookup id) :: actionsOf events id previousStates polls).IsChain (· ≠ ·) := by
  induction polls generalizing previousStates with
  | nil => exact .singleton _
  | cons views polls ih =>
    have later := ih told.2
    rw [actionsOf, told.1 id]
    split
    next same =>
      rw [same] at later
      exact later
    next changed =>
      exact .cons_cons (Ne.symm changed) later

theorem events_told_iff (polls : List Views) :
    (∀ id, (actionsOf events id ∅ polls).IsChain (· ≠ ·)) ∧
    Along (fun _ views => views) (Told events) ∅ polls ↔
    Along (fun _ views => views) (Regular events) ∅ polls := by
  have same : Told events = Regular events :=
    funext₂ fun before views => propext (told_iff events before views)
  rw [← same]
  exact ⟨And.right, fun told => ⟨fun id => (alternates_of_told events id told).of_cons, told⟩⟩

/-- The second start of a container is not told. -/
theorem restart_untold : ¬ Along (fun _ views => views) (Told []) ∅
    [singleton ['c'] .running, singleton ['c'] .stopped, singleton ['c'] .running] := by
  rintro ⟨_, _, told, _⟩
  exact absurd (told ['c']) (by decide +kernel)

end Visor.Docker
