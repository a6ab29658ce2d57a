import Visor.Library.Run

/-! Each round waits for a line of the parent and for the end of the VM. The second wait takes the
receiver out of its slot, and a line that comes first drops it with that wait. What a line asks for
is awaited before the next round begins, the end of the VM's thread without a limit. -/

namespace Visor.Lifecycle
open Library

structure VmExitInfo where
  exitCode : Int
  reason : List Char
deriving DecidableEq

inductive WorkerMessage where
  | vmExit (exitCode : Int) (reason : List Char)
  | execResult (exitCode : Int)
  | error (message : List Char)

def WorkerMessage.isVmExit : WorkerMessage → Bool
  | .vmExit _ _ => true
  | _ => false

/-- A line of the parent. One that assigns a VM is a kill. -/
inductive Line where
  | malformed
  | exec
  | stop
  | kill

/-- Why the loop is left. A parent that has closed the control socket is told nothing. -/
inductive Ending where
  | natural (exitInfo : Option VmExitInfo)
  | stopped
  | killed
  | closed
deriving DecidableEq

inductive Event where
  /-- The VM ends. There is no information if its thread has dropped the channel. -/
  | completed (exitInfo : Option VmExitInfo)
  /-- The second branch of the round is polled. -/
  | poll
  | line (line : Line)
  /-- What comes from the parent is not UTF-8, or cannot be read. -/
  | unreadable
  /-- The parent has closed the control socket. -/
  | closed
  /-- The guest answers an exec request. -/
  | answered (result : Except (List Char) Int)
  /-- The request to shut down has been sent to the guest, or that has failed or timed out. -/
  | shutdown (sent : Bool)
  /-- The VM's thread has ended; the serial log tells the exit code. -/
  | joined (exitCode : Int)

/-- What the loop waits for. -/
inductive Phase where
  | listening
  | executing
  | stopping
  | joining (ending : Ending)
  | returned
deriving DecidableEq

structure Worker where
  phase : Phase := .listening
  /-- The receiver is in its slot. -/
  completionRx : Bool := true
  /-- The second branch of the round holds it. -/
  awaiting : Bool := false
  completion : Option (Option VmExitInfo) := none
  killFlag : Bool := false
  sent : List WorkerMessage := []

namespace Worker

def send (worker : Worker) (message : WorkerMessage) : Worker :=
  { worker with sent := worker.sent ++ [message] }

def naturalExit : Option VmExitInfo → WorkerMessage
  | some info => .vmExit info.exitCode info.reason
  | none => .vmExit 1 "completion channel dropped".toList

def exitMessage (exitCode : Int) : Ending → Option WorkerMessage
  | .natural exitInfo => some (naturalExit exitInfo)
  | .stopped => some (.vmExit exitCode "stopped".toList)
  | .killed => some (.vmExit exitCode "killed".toList)
  | .closed => none

def pollCompletion (worker : Worker) : Worker :=
  match worker.completionRx || worker.awaiting, worker.completion with
  | true, some exitInfo => { worker with phase := .joining (.natural exitInfo) }
  | held, _ => { worker with completionRx := false, awaiting := held }

def handleLine (worker : Worker) : Line → Worker
  | .malformed => worker
  | .exec => { worker with phase := .executing }
  | .stop => { worker with phase := .stopping }
  | .kill => { worker with killFlag := true, phase := .joining .killed }

/-- An event that the loop does not wait for waits for the loop. -/
def step (worker : Worker) (event : Event) : Worker :=
  match worker.phase, event with
  | _, .completed exitInfo => { worker with completion := worker.completion.or (some exitInfo) }
  | .listening, .poll => worker.pollCompletion
  | .listening, .line line => { worker with awaiting := false }.handleLine line
  | .listening, .unreadable => { worker with phase := .returned }
  | .listening, .closed => { worker with killFlag := true, phase := .joining .closed }
  | .executing, .answered (.ok exitCode) =>
    { worker.send (.execResult exitCode) with phase := .listening }
  | .executing, .answered (.error error) =>
    { worker.send (.error ("exec failed: ".toList ++ error)) with phase := .listening }
  | .stopping, .shutdown sent =>
    { worker with killFlag := worker.killFlag || !sent, phase := .joining .stopped }
  | .joining ending, .joined exitCode =>
    { worker with
      sent := worker.sent ++ (exitMessage exitCode ending).toList
      phase := .returned }
  | _, _ => worker

/-- A line finds the wait for the VM not begun in its round. -/
def unpolled (worker : Worker) : Event → Bool
  | .line _ => !worker.awaiting
  | _ => true

/-- One exit message has been sent if the loop has returned, and none before. The loop is not left
without one. -/
structure Once (worker : Worker) : Prop where
  count : worker.sent.countP (·.isVmExit) = if worker.phase = .returned then 1 else 0
  told : worker.phase ≠ .joining .closed

private theorem isVmExit_exitMessage (exitCode : Int) {ending : Ending} (told : ending ≠ .closed) :
    ∃ message, exitMessage exitCode ending = some message ∧ message.isVmExit = true := by
  cases ending with
  | natural exitInfo =>
    refine ⟨_, rfl, ?_⟩
    cases exitInfo <;> rfl
  | stopped | killed => exact ⟨_, rfl, rfl⟩
  | closed => exact absurd rfl told

theorem Once.step {worker : Worker} {event : Event} (once : worker.Once)
    (isOpen : event ≠ .closed) (readable : event ≠ .unreadable) : (worker.step event).Once := by
  obtain ⟨count, told⟩ := once
  fun_cases Worker.step worker event with
  | case1 => exact ⟨count, told⟩
  | case2 listening =>
    rw [listening] at count
    fun_cases pollCompletion worker with
    | case1 => exact ⟨count, nofun⟩
    | case2 => exact ⟨by simpa [listening] using count, by simp [listening]⟩
  | case3 line listening =>
    rw [listening] at count
    fun_cases handleLine _ line with
    | case1 => exact ⟨by simpa [listening] using count, by simp [listening]⟩
    | case2 | case3 => exact ⟨count, nofun⟩
    | case4 => exact ⟨count, by simp⟩
  | case4 => exact absurd rfl readable
  | case5 => exact absurd rfl isOpen
  | case6 exitCode executing | case7 error executing =>
    rw [executing] at count
    exact ⟨List.countP_append.trans count, nofun⟩
  | case8 sent stopping =>
    rw [stopping] at count
    exact ⟨count, by simp⟩
  | case9 ending exitCode joining =>
    rw [joining] at count told
    obtain ⟨message, isMessage, isExit⟩ := isVmExit_exitMessage exitCode
      (fun closed => told (congrArg Phase.joining closed))
    refine ⟨?_, nofun⟩
    rw [isMessage, List.countP_append, count]
    simp [isExit]
  | case10 => exact ⟨count, told⟩

/-- The receiver is not lost while the loop runs. -/
def Listens (worker : Worker) : Prop :=
  worker.phase = .returned ∨ (∃ ending, worker.phase = .joining ending) ∨
    (worker.completionRx || worker.awaiting) = true

theorem Listens.step {worker : Worker} {event : Event} (listens : worker.Listens)
    (unpolled : worker.unpolled event = true) : (worker.step event).Listens := by
  have held (phase : Phase) (isPhase : worker.phase = phase) (running : phase ≠ .returned)
      (waiting : ∀ ending, phase ≠ .joining ending) :
      (worker.completionRx || worker.awaiting) = true := by
    rcases listens with returned | ⟨ending, joining⟩ | held
    · exact absurd (isPhase.symm.trans returned) running
    · exact absurd (isPhase.symm.trans joining) (waiting ending)
    · exact held
  fun_cases Worker.step worker event with
  | case1 => exact listens
  | case2 listening =>
    fun_cases pollCompletion worker with
    | case1 => exact .inr (.inl ⟨_, rfl⟩)
    | case2 => exact .inr (.inr (held _ listening nofun nofun))
  | case3 line listening =>
    have inSlot := held _ listening nofun nofun
    rw [show worker.awaiting = false from Bool.not_eq_true' _ ▸ unpolled] at inSlot
    fun_cases handleLine _ line with
    | case1 | case2 | case3 => exact .inr (.inr inSlot)
    | case4 => exact .inr (.inl ⟨_, rfl⟩)
  | case4 => exact .inl rfl
  | case5 => exact .inr (.inl ⟨_, rfl⟩)
  | case6 exitCode executing | case7 error executing =>
    exact .inr (.inr (held _ executing nofun nofun))
  | case8 => exact .inr (.inl ⟨_, rfl⟩)
  | case9 => exact .inl rfl
  | case10 => exact listens

private theorem stop_sent {worker : Worker} (listening : worker.phase = .listening)
    (sent : Bool) (exitCode : Int) :
    (run Worker.step worker [.line .stop, .shutdown sent, .joined exitCode]).sent =
      worker.sent ++ [.vmExit exitCode "stopped".toList] := by
  obtain ⟨phase, _, _, _, _, _⟩ := worker
  cases listening
  rfl

private theorem kill_sent {worker : Worker} (listening : worker.phase = .listening)
    (exitCode : Int) :
    (run Worker.step worker [.line .kill, .joined exitCode]).sent =
      worker.sent ++ [.vmExit exitCode "killed".toList] := by
  obtain ⟨phase, _, _, _, _, _⟩ := worker
  cases listening
  rfl

private theorem natural_sent {worker : Worker} (listening : worker.phase = .listening)
    (listens : worker.Listens) {exitInfo : Option VmExitInfo}
    (completion : worker.completion = some exitInfo) (exitCode : Int) :
    (run Worker.step worker [.poll, .joined exitCode]).sent =
      worker.sent ++ [naturalExit exitInfo] := by
  rcases listens with returned | ⟨ending, joining⟩ | held
  · rw [listening] at returned
    cases returned
  · rw [listening] at joining
    cases joining
  · have polled : worker.step .poll = { worker with phase := .joining (.natural exitInfo) } := by
      simp [Worker.step, listening, pollCompletion, held, completion]
    rw [run_cons, polled]
    rfl

end Worker
end Visor.Lifecycle
