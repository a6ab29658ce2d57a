/-! Computations that change a state and may fail. A failure keeps the changes made before it, so
what a command ensures it ensures of the state it leaves, whether it fails or not. -/

namespace Visor.Library
/-- A computation with a state that survives its failure. -/
abbrev Command (State Error Value : Type) := ExceptT Error (StateM State) Value

namespace Command
variable {State Error Other Value Result Item : Type} (look : State → Except Error Value)
  {before middle after : State → Prop} {second : Value → Command State Error Result}
  {first : Command State Error Value} {good : Value → Prop} {fine : Result → Prop}

def attempt (command : Command State Error Value) : Command State Other (Except Error Value) :=
  fun state => (.ok (command state).1, (command state).2)

def withContext (context : Error → Other) (command : Command State Error Value) :
    Command State Other Value :=
  fun state => ((command state).1.mapError context, (command state).2)

def inspect : Command State Error Value := fun state => (look state, state)

def update (change : State → State) : Command State Error Unit := fun state => (.ok (), change state)

def require (condition : Prop) [Decidable condition] (error : Error) : Command State Error Unit :=
  fun state => (if condition then .ok () else .error error, state)

/-- Started in a state with the first property, the command leaves one with the second. -/
def Ensures (before : State → Prop) (command : Command State Error Value)
    (after : State → Prop) : Prop := ∀ state, before state → after (command state).2

variable {command : Command State Error Value}

theorem Ensures.weaken {stronger weaker : State → Prop} (ensures : Ensures before command after)
    (strengthen : ∀ state, stronger state → before state)
    (weaken : ∀ state, after state → weaker state) : Ensures stronger command weaker :=
  fun state holds => weaken _ (ensures state (strengthen state holds))

theorem ensures_pure (value : Value) : Ensures before (pure value : Command State Error Value) before :=
  fun _ holds => holds

theorem ensures_throw (error : Error) : Ensures before (throw error : Command State Error Value) before :=
  fun _ holds => holds

theorem ensures_inspect : Ensures before (inspect look) before := fun _ holds => holds

theorem ensures_update {change : State → State} (changed : ∀ state, before state → after (change state)) :
    Ensures before (update change : Command State Error Unit) after := changed

/-- The sequence rule. The first command may be the last one, if it fails. -/
theorem Ensures.bind (ensuresFirst : Ensures before first middle)
    (ensuresSecond : ∀ value, Ensures middle (second value) after)
    (stops : ∀ state, middle state → after state) : Ensures before (first >>= second) after := by
  intro state holds
  have reached := ensuresFirst state holds
  have result : (first >>= second) state = ExceptT.bindCont second (first state).1 (first state).2 := rfl
  rw [result]
  generalize first state = outcome at reached ⊢
  obtain ⟨_ | value, next⟩ := outcome
  · exact stops _ reached
  · exact ensuresSecond value next reached

theorem ensures_inspect_bind {look : State → Except Error Value}
    (ensures : ∀ value, Ensures (fun state => before state ∧ look state = .ok value)
      (second value) after) (stops : ∀ state, before state → after state) : Ensures before
    (inspect look >>= second) after := by
  intro state holds
  have result : (inspect look >>= second) state = ExceptT.bindCont second (look state) state := rfl
  rw [result]
  cases seen : look state with
  | error => exact stops state holds
  | ok value => exact ensures value state ⟨holds, seen⟩

section
variable (look : State → Except Error Value) {second : Value → Command State Error Result}
  {state : State}

theorem inspect_bind_error {error : Error} (seen : look state = .error error) :
    (inspect look >>= second) state = (.error error, state) := by
  have result : (inspect look >>= second) state = ExceptT.bindCont second (look state) state := rfl
  rw [result, seen]
  rfl

theorem inspect_bind_ok {value : Value} (seen : look state = .ok value) :
    (inspect look >>= second) state = second value state := by
  have result : (inspect look >>= second) state = ExceptT.bindCont second (look state) state := rfl
  rw [result, seen]
  rfl

end

theorem require_bind_apply (condition : Prop) [Decidable condition] (error : Error)
    (second : Unit → Command State Error Result) (state : State) :
    (require condition error >>= second) state =
    if condition then second () state else (.error error, state) := by
  have result : (require condition error >>= second) state =
    ExceptT.bindCont second (if condition then .ok () else .error error) state := rfl
  rw [result]
  split <;> rfl

theorem ensures_require_bind {condition : Prop} [Decidable condition]
    {error : Error} {second : Unit → Command State Error Result}
    (ensures : condition → Ensures before (second ()) after)
    (stops : ∀ state, before state → after state) :
    Ensures before (require condition error >>= second) after := by
  intro state holds
  rw [require_bind_apply]
  split
  · exact ensures ‹_› state holds
  · exact stops state holds

theorem Ensures.then (ensuresFirst : Ensures before first before)
    (ensuresSecond : ∀ value, Ensures before (second value) before) :
    Ensures before (first >>= second) before := ensuresFirst.bind ensuresSecond fun _ holds => holds

theorem Ensures.attempt (ensures : Ensures before command after) :
    Ensures before (command.attempt : Command State Other _) after := ensures

theorem ensures_attempt_bind {second : Except Error Value → Command State Other Result}
    (ensures : ∀ outcome,
      Ensures (fun next => ∃ state, before state ∧ command state = (outcome, next))
      (second outcome) after) : Ensures before (command.attempt >>= second) after :=
  fun state holds => ensures (command state).1 (command state).2 ⟨state, holds, rfl⟩

theorem Ensures.withContext {context : Error → Other} (ensures : Ensures before command after) :
    Ensures before (command.withContext context) after := ensures

/-- The rule for loops: what every round keeps, the loop keeps. -/
theorem ensures_forM {items : List Item} {body : Item → Command State Error PUnit}
    (keeps : ∀ item ∈ items, Ensures before (body item) before) :
    Ensures before (items.forM body) before := by
  induction items with
  | nil => exact ensures_pure _
  | cons item rest ih =>
    exact (keeps item (.head _)).then fun _ => ih fun later member => keeps later (.tail _ member)

/-- Started in a state with the property, the command returns good values only. -/
def Returns (before : State → Prop) (command : Command State Error Value) (good : Value → Prop) :
    Prop := ∀ state, before state → ∀ value, (command state).1 = .ok value → good value

theorem returns_pure {value : Value} (isGood : ∀ state, before state → good value) :
    Returns before (pure value : Command State Error Value) good := by
  rintro state holds _ ⟨⟩
  exact isGood state holds

theorem bind_apply (first : Command State Error Value) (second : Value → Command State Error Result)
    (state : State) : (first >>= second) state = ExceptT.bindCont second (first state).1 (first state).2 :=
  rfl

section
variable {first : Command State Error Value} {second : Value → Command State Error Result}

theorem bind_eq_ok {state last : State} {result : Result} : (first >>= second) state = (.ok result, last) ↔
    ∃ value next, first state = (.ok value, next) ∧ second value next = (.ok result, last) := by
  rw [bind_apply]
  obtain ⟨_ | value, next⟩ := first state
  · constructor
    · intro done
      cases done
    · rintro ⟨_, _, ⟨⟩, _⟩
  · constructor
    · intro done
      exact ⟨value, next, rfl, done⟩
    · rintro ⟨_, _, ⟨⟩, done⟩
      exact done

end

variable (command : Command State Error Value)

/-- From every state the command returns good values only. -/
def Yields (good : Value → Prop) : Prop := Returns (fun _ => True) command good

theorem yields_pure {value : Value} (isGood : good value) :
    Yields (pure value : Command State Error Value) good := returns_pure fun _ _ => isGood

theorem yields_any : Yields command fun _ => True := fun _ _ _ _ => trivial

theorem yields_inspect {look : Except Error Value} (isGood : ∀ value, look = .ok value → good value)
    : Yields (inspect fun _ => look : Command State Error Value) good :=
  fun _ _ value returned => isGood value returned

theorem Yields.bind (yields : Yields first good)
    (after : ∀ value, good value → Yields (second value) fine) : Yields (first >>= second) fine := by
  intro state _ value returned
  have isGood := yields state trivial
  rw [bind_apply] at returned
  generalize first state = outcome at isGood returned
  obtain ⟨_ | between, next⟩ := outcome
  · cases returned
  · exact after between (isGood between rfl) next trivial value returned

theorem yields_then (first : Command State Error Value)
    (after : ∀ value, Yields (second value) fine) : Yields (first >>= second) fine :=
  (yields_any first).bind fun value _ => after value

end Command
end Visor.Library
