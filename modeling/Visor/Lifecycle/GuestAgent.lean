import Mathlib.Logic.Function.Basic
import Visor.Library.Run

/-! All streaming execs share one slot for the pid of their child. An exec without a stream touches
neither the slot nor a child of another one, and so is not an event. -/

namespace Visor.Lifecycle
open Library Function

/-- Where a streaming exec stands: its child is started, stored in the slot, or reaped. -/
inductive ExecStage where
  | spawned (pid : Int)
  | tracked (pid : Int)
  | reaped (pid : Int)

inductive ExecAction where
  | spawn (pid : Int)
  | track
  | wait
  | clear
  /-- An error behind the start of the child: the handler returns at once. -/
  | fail

structure AgentState where
  childPid : Option Int := none
  /-- The streaming exec that a connection runs. -/
  execs : Nat → Option ExecStage := fun _ => none

namespace AgentState

def put (state : AgentState) (conn : Nat) (stage : Option ExecStage) : AgentState :=
  { state with execs := update state.execs conn stage }

/-- `handle_exec_stream_connection`, with and without a tty. -/
def step (state : AgentState) (event : Nat × ExecAction) : AgentState :=
  match event.2, state.execs event.1 with
  | .spawn pid, none => state.put event.1 (some (.spawned pid))
  | .track, some (.spawned pid) =>
    { state.put event.1 (some (.tracked pid)) with childPid := some pid }
  | .wait, some (.tracked pid) => state.put event.1 (some (.reaped pid))
  | .clear, some (.reaped _) => { state.put event.1 none with childPid := none }
  | .fail, some _ => state.put event.1 none
  | _, _ => state

/-- The process that `kill_process` signals. The signal is `none` if its number is invalid. -/
def killProcess (state : AgentState) (signal : Option Nat) : Except String (Int × Nat) :=
  match state.childPid, signal with
  | none, _ => .error "no child process to kill"
  | some _, none => .error "invalid signal number"
  | some pid, some signal => .ok (pid, signal)

/-- A running exec has started the child and has not reaped it. -/
def Live (state : AgentState) (pid : Int) : Prop :=
  ∃ conn, state.execs conn = some (.spawned pid) ∨ state.execs conn = some (.tracked pid)

/-- The slot and every kill name a live child, and the slot is filled while an exec runs. -/
def Exact (state : AgentState) : Prop :=
  (∀ pid, state.childPid = some pid → state.Live pid) ∧
    (∀ signal target, state.killProcess signal = .ok target → state.Live target.1) ∧
    ∀ conn, state.execs conn ≠ none → state.childPid ≠ none

/-- No exec stands between the start and the storing of its child or between reaping and clearing. -/
def Settled (state : AgentState) : Prop :=
  ∀ conn stage, state.execs conn = some stage → ∃ pid, stage = .tracked pid

/-- An exec starts when no other one runs, and none fails once its child is stored. -/
def Alone (state : AgentState) (event : Nat × ExecAction) : Prop :=
  (∀ stage, event.2 = .fail → state.execs event.1 = some stage → ∃ pid, stage = .spawned pid) ∧
    ∀ pid, event.2 = .spawn pid → state.execs event.1 = none → ∀ conn, state.execs conn = none

/-- The pid that an exec has left in the slot. -/
def slot : Option ExecStage → Option Int
  | some (.tracked pid) | some (.reaped pid) => some pid
  | _ => none

/-- At most one exec runs, and the slot is as it left it. -/
def One (state : AgentState) : Prop :=
  ∃ conn stage, state.execs = update (fun _ => none) conn stage ∧ state.childPid = slot stage

theorem One.found {state : AgentState} {conn : Nat} {stage : ExecStage} (one : state.One)
    (runs : state.execs conn = some stage) :
    state.execs = update (fun _ => none) conn (some stage) ∧
      state.childPid = slot (some stage) := by
  obtain ⟨owner, kept, execs, childPid⟩ := one
  rw [execs, update_apply] at runs
  split at runs
  · subst owner kept
    exact ⟨execs, childPid⟩
  · exact nomatch runs

theorem One.put {state : AgentState} {conn : Nat} {stage : ExecStage} (one : state.One)
    (runs : state.execs conn = some stage) (next : Option ExecStage) {childPid : Option Int}
    (left : childPid = slot next) : One { state.put conn next with childPid := childPid } := by
  refine ⟨conn, next, ?_, left⟩
  exact (congrArg (update · conn next) (one.found runs).1).trans (update_idem ..)

theorem One.idle {state : AgentState} (one : state.One) (idle : ∀ conn, state.execs conn = none) :
    state = {} := by
  obtain ⟨owner, kept, execs, childPid⟩ := one
  have stopped : kept = none := by simpa [execs] using idle owner
  cases state
  simp_all [slot]

theorem One.step {state : AgentState} {event : Nat × ExecAction} (one : state.One)
    (alone : state.Alone event) : (state.step event).One := by
  fun_cases AgentState.step state event with
  | case1 pid idle action =>
    rw [one.idle (alone.2 pid action idle)]
    exact ⟨event.1, _, rfl, rfl⟩
  | case2 pid runs | case4 pid runs => exact one.put runs _ rfl
  | case3 pid runs => exact one.put runs _ (one.found runs).2
  | case5 stage runs action =>
    obtain ⟨pid, rfl⟩ := alone.1 stage action runs
    exact one.put runs none (one.found runs).2
  | case6 => exact one

private theorem exact_iff_settled {state : AgentState} (one : state.One) :
    state.Exact ↔ state.Settled := by
  constructor
  · rintro ⟨live, -, filled⟩ conn stage runs
    obtain ⟨execs, childPid⟩ := one.found runs
    cases stage with
    | spawned pid => exact absurd childPid (filled conn (by simp [runs]))
    | tracked pid => exact ⟨pid, rfl⟩
    | reaped pid =>
      obtain ⟨other, spawned | tracked⟩ := live pid childPid
      all_goals simp_all [update_apply]
  · intro settled
    have live : ∀ pid, state.childPid = some pid → state.Live pid := by
      intro pid stored
      obtain ⟨owner, stage, execs, childPid⟩ := one
      cases stage with
      | none => simp_all [slot]
      | some stage =>
        have runs : state.execs owner = some stage := by simp [execs]
        obtain ⟨_, rfl⟩ := settled owner stage runs
        have same := childPid.symm.trans stored
        cases same
        exact ⟨owner, .inr runs⟩
    refine ⟨live, fun signal target killed => ?_, fun conn runs => ?_⟩
    · unfold killProcess at killed
      split at killed
      · cases killed
      · cases killed
      · cases killed
        exact live _ (by assumption)
    · obtain ⟨stage, runs⟩ := Option.ne_none_iff_exists'.mp runs
      obtain ⟨pid, rfl⟩ := settled conn stage runs
      simp [(one.found runs).2, slot]

/-- If the streaming execs run one at a time and none fails once its child is stored, the slot names
a live child, and is filled while an exec runs, exactly when no exec stands between two of its own
steps. -/
theorem child_pid_exact_iff (events : List (Nat × ExecAction))
    (alone : Along AgentState.step Alone {} events) :
    (run AgentState.step {} events).Exact ↔ (run AgentState.step {} events).Settled :=
  exact_iff_settled
    (invariant_run One (fun _ _ one alone => one.step alone) ⟨0, none, by simp, rfl⟩ alone)

/-- A child that is stored is the kill target. -/
theorem tracked_child_exact : (run AgentState.step {} [(0, .spawn 7), (0, .track)]).Exact := by
  refine (child_pid_exact_iff _ ?_).mpr ?_
  · simp [Alone, AgentState.step, put]
  · intro conn stage runs
    simp [AgentState.step, put, update_apply] at runs
    exact ⟨7, runs.2.symm⟩

/-- A reaped child is the kill target, and the exec that ends first empties the slot of another. -/
theorem child_pid_stale :
    let reaped := run AgentState.step {} [(0, .spawn 7), (0, .track), (0, .wait)]
    let shared := run AgentState.step {}
      [(0, .spawn 7), (0, .track), (1, .spawn 8), (1, .track), (0, .wait), (0, .clear)]
    (reaped.killProcess (some 9) = .ok (7, 9) ∧ ¬ reaped.Live 7) ∧
      shared.execs 1 = some (.tracked 8) ∧ shared.childPid = none := by
  refine ⟨⟨rfl, ?_⟩, rfl, rfl⟩
  rintro ⟨conn, spawned | tracked⟩
  all_goals simp_all [AgentState.step, put, update_apply]

end AgentState
end Visor.Lifecycle
