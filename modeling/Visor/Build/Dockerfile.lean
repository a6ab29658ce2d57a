import Visor.Backend.Config
import Visor.Library.Text

/-!
# Dockerfiles and their variables
-/

namespace Visor.Build
open List
open Backend (Text)

inductive CommandForm where
  | shell (text : Text)
  | exec (args : List Text)

inductive MountType where
  | bind
  | cache
  | tmpfs
  | secret
  | ssh

structure MountFlag where
  mountType : MountType
  target : Text
  source : Option Text
  id : Option Text
  readOnly : Bool

structure ExposedPort where
  port : U16
  protocol : Text
deriving DecidableEq

structure CopyInstr where
  sources : List Text
  dest : Text
  fromStage : Option Text

inductive BuildInstruction where
  | run (command : CommandForm) (mounts : List MountFlag)
  | copy (instr : CopyInstr)
  | add (sources : List Text) (dest : Text)
  | cmd (command : CommandForm)
  | entrypoint (command : CommandForm)
  | env (vars : List (Text × Text))
  | arg (name : Text) (default : Option Text)
  | workdir (path : Text)
  | user (user : Text)
  | expose (ports : List ExposedPort)
  | label (labels : List (Text × Text))
  | shell (shell : List Text)
  | stopsignal (signal : Text)
  | healthcheck
  | volume (paths : List Text)

def BuildInstruction.copyFrom : BuildInstruction → Option Text
  | .copy instr => instr.fromStage
  | _ => none

def BuildInstruction.makesLayer : BuildInstruction → Bool
  | .run _ _ | .copy _ | .add _ _ => true
  | _ => false

structure FromInstr where
  image : Text
  as : Option Text

structure Stage where
  base : FromInstr
  instructions : List BuildInstruction

structure ArgInstr where
  name : Text
  default : Option Text

structure ParsedDockerfile where
  globalArgs : List ArgInstr
  stages : List Stage

abbrev Vars := List (Text × Text)

variable (text : Text) (vars : Vars)

def Vars.insert (name value : Text) : Vars := (name, value) :: vars.filter (·.1 ≠ name)

inductive BuildError where
  | unclosedBrace
  | targetNotFound (target : Text)
  | noStages
  | runFailed (exitCode : Int)
  | executor
deriving DecidableEq

def isVarStart (char : Char) : Bool := char.isAlpha || char == '_'
def isVarChar (char : Char) : Bool := char.isAlphanum || char == '_'

def findClosingBrace (depth : Nat) : Text → Option (Text × Text)
  | [] => none
  | char :: rest =>
    if char = '\x7d' then
      if depth ≤ 1 then some ([], rest)
      else (findClosingBrace (depth - 1) rest).map fun (inner, after) => (char :: inner, after)
    else
      let depth := if char = '\x7b' then depth + 1 else depth
      (findClosingBrace depth rest).map fun (inner, after) => (char :: inner, after)

def splitAtPair (first second : Char) : Text → Option (Text × Text)
  | one :: two :: rest =>
    if one = first ∧ two = second then some ([], rest)
    else (splitAtPair first second (two :: rest)).map fun (before, after) => (one :: before, after)
  | _ => none

def expandBraced (inner : Text) : Text :=
  match splitAtPair ':' '-' inner with
  | some (name, standard) => ((vars.lookup name).filter (· ≠ [])).getD standard
  | none =>
    match splitAtPair ':' '+' inner with
    | some (name, alternative) => if ((vars.lookup name).filter (· ≠ [])).isSome then alternative else []
    | none => (vars.lookup inner).getD []

/-- `substitute_vars`; every turn takes at least one character, so a turn per character is enough. -/
def substituteLoop (vars : Vars) : Nat → Text → Except BuildError Text
  | _, [] => .ok []
  | 0, _ :: _ => .ok []
  | turns + 1, char :: rest =>
    if char ≠ '$' then (substituteLoop vars turns rest).map (char :: ·)
    else match rest with
      | [] => .ok ['$']
      | next :: after =>
        if next = '$' then (substituteLoop vars turns after).map ('$' :: ·)
        else if next = '\x7b' then
          match findClosingBrace 1 after with
          | none => .error .unclosedBrace
          | some (inner, beyond) => (substituteLoop vars turns beyond).map (expandBraced vars inner ++ ·)
        else if isVarStart next then
          let name := (next :: after).takeWhile isVarChar
          let beyond := (next :: after).dropWhile isVarChar
          (substituteLoop vars turns beyond).map ((vars.lookup name).getD [] ++ ·)
        else (substituteLoop vars turns (next :: after)).map ('$' :: ·)

def substituteVars : Except BuildError Text := substituteLoop vars text.length text

abbrev Expander := Text → Except BuildError Text

/-- The operator of braces is the one right after the name, and the word is expanded as well. -/
def bracedValue (vars : Vars) (expand : Expander) : Expander := fun inner =>
  let set := (vars.lookup (inner.takeWhile isVarChar)).filter (· ≠ [])
  match inner.dropWhile isVarChar with
  | ':' :: '-' :: word => set.elim (expand word) .ok
  | ':' :: '+' :: word => if set.isSome then expand word else .ok []
  | _ => .ok ((vars.lookup inner).getD [])

/-- The tokens from left to right, for some meaning of braces that may expand their words in turn. -/
def expandLoop (vars : Vars) (braced : Expander → Expander) : Nat → Expander
  | _, [] => .ok []
  | 0, _ :: _ => .ok []
  | turns + 1, char :: rest =>
    let expand := expandLoop vars braced turns
    if char ≠ '$' then (expand rest).map (char :: ·)
    else match rest with
      | [] => .ok ['$']
      | next :: after =>
        if next = '$' then (expand after).map ('$' :: ·)
        else if next = '\x7b' then
          match findClosingBrace 1 after with
          | none => .error .unclosedBrace
          | some (inner, beyond) =>
            (braced expand inner).bind fun value => (expand beyond).map (value ++ ·)
        else if isVarStart next then
          let value := (vars.lookup ((next :: after).takeWhile isVarChar)).getD []
          (expand ((next :: after).dropWhile isVarChar)).map (value ++ ·)
        else (expand (next :: after)).map ('$' :: ·)

def expandVars (text : Text) (vars : Vars) : Except BuildError Text :=
  expandLoop vars (bracedValue vars) text.length text

/-- The contents of the braces that are met from left to right. There are none to speak of if some
braces are not closed. -/
def scanBraces : Nat → Text → Option (List Text)
  | _, [] => some []
  | 0, _ :: _ => some []
  | turns + 1, char :: rest =>
    if char ≠ '$' then scanBraces turns rest
    else match rest with
      | [] => some []
      | next :: after =>
        if next = '$' then scanBraces turns after
        else if next = '\x7b' then
          match findClosingBrace 1 after with
          | none => none
          | some (inner, beyond) => (scanBraces turns beyond).map (inner :: ·)
        else if isVarStart next then scanBraces turns ((next :: after).dropWhile isVarChar)
        else scanBraces turns (next :: after)

/-- The word of the braces is not taken or is its own expansion, and nothing else in them is taken
for the operator. -/
def Faithful (vars : Vars) (inner : Text) : Prop :=
  let set := (vars.lookup (inner.takeWhile isVarChar)).filter (· ≠ [])
  match inner.dropWhile isVarChar with
  | ':' :: '-' :: word => set.isSome ∨ expandVars word vars = .ok word
  | ':' :: '+' :: word =>
    (set = none ∨ expandVars word vars = .ok word) ∧ splitAtPair ':' '-' inner = none
  | _ => splitAtPair ':' '-' inner = none ∧ splitAtPair ':' '+' inner = none

theorem length_findClosingBrace {depth : Nat} {text inner beyond : Text}
    (found : findClosingBrace depth text = some (inner, beyond)) :
    inner.length + beyond.length < text.length := by
  induction text generalizing depth inner with
  | nil => exact nomatch found
  | cons char rest ih =>
    rw [findClosingBrace] at found
    split at found
    · split at found
      · cases found
        simp
      · obtain ⟨⟨_, _⟩, further, same⟩ := Option.map_eq_some_iff.mp found
        cases same
        simpa [Nat.succ_add] using ih further
    · obtain ⟨⟨_, _⟩, further, same⟩ := Option.map_eq_some_iff.mp found
      cases same
      simpa [Nat.succ_add] using ih further

theorem substituteLoop_eq (vars : Vars) (turns : Nat) (text : Text) :
    substituteLoop vars turns text =
      expandLoop vars (fun _ inner => .ok (expandBraced vars inner)) turns text := by
  induction turns generalizing text with
  | zero => cases text <;> rfl
  | succ turns ih =>
    cases text with
    | nil => rfl
    | cons char rest =>
      rw [substituteLoop.eq_def, expandLoop.eq_def]
      simp only [ih]
      rfl

/-- A meaning of braces that only expands parts of what is in them. -/
def Inward (braced : Expander → Expander) : Prop :=
  ∀ one other inner, (∀ word : Text, word.length ≤ inner.length → one word = other word) →
    braced one inner = braced other inner

theorem inward_bracedValue (vars : Vars) : Inward (bracedValue vars) := by
  intro one other inner same
  have shorter := (dropWhile_suffix isVarChar (l := inner)).length_le
  unfold bracedValue
  dsimp only
  split
  · next word rest =>
    rw [rest] at shorter
    rw [same word (by simp at shorter; omega)]
  · next word rest =>
    rw [rest] at shorter
    rw [same word (by simp at shorter; omega)]
  · rfl

/-- A turn for each character is enough. -/
theorem expandLoop_enough {vars : Vars} {braced : Expander → Expander} (inward : Inward braced)
    {one other : Nat} {text : Text} (enough : text.length ≤ one) (also : text.length ≤ other) :
    expandLoop vars braced one text = expandLoop vars braced other text := by
  induction one generalizing other text with
  | zero =>
    obtain rfl := eq_nil_of_length_eq_zero (Nat.le_zero.mp enough)
    cases other <;> rfl
  | succ one ih =>
    cases text with
    | nil => cases other <;> rfl
    | cons char rest =>
      cases other with
      | zero => exact absurd also (by simp)
      | succ other =>
        simp only [length_cons, Nat.add_le_add_iff_right] at enough also
        have smaller {shorter : Text} (less : shorter.length ≤ rest.length) :
            expandLoop vars braced one shorter = expandLoop vars braced other shorter :=
          ih (less.trans enough) (less.trans also)
        rw [expandLoop.eq_def, expandLoop.eq_def vars braced (other + 1)]
        dsimp only
        split
        · rw [smaller (Nat.le_refl _)]
        · cases rest with
          | nil => rfl
          | cons next after =>
            dsimp only
            have rest : expandLoop vars braced one (next :: after) =
                expandLoop vars braced other (next :: after) := smaller (Nat.le_refl _)
            rw [smaller (Nat.le_succ _), smaller (dropWhile_suffix _).length_le, rest]
            split
            · rfl
            · split
              · cases found : findClosingBrace 1 after with
                | none => rfl
                | some parts =>
                  have total := length_findClosingBrace found
                  dsimp only
                  rw [smaller (by simp only [length_cons]; omega)]
                  congr 1
                  exact inward _ _ _ fun word short => smaller (by simp only [length_cons]; omega)
              · rfl

theorem substituteLoop_enough (vars : Vars) {turns more : Nat} {text : Text}
    (enough : text.length ≤ turns) (also : text.length ≤ more) :
    substituteLoop vars turns text = substituteLoop vars more text := by
  rw [substituteLoop_eq, substituteLoop_eq]
  exact expandLoop_enough (fun _ _ _ _ => rfl) enough also

theorem substituteVars_plain {text : Text} {vars : Vars} (plain : '$' ∉ text) :
    substituteVars text vars = .ok text := by
  unfold substituteVars
  induction text with
  | nil => rfl
  | cons char rest ih =>
    rw [mem_cons, not_or] at plain
    simp [substituteLoop, Ne.symm plain.1, ih plain.2, Except.map]

private theorem splitAtPair_append {name : Text} (op : Char) (word : Text) (isName : ':' ∉ name) :
    splitAtPair ':' op (name ++ ':' :: op :: word) = some (name, word) := by
  induction name with
  | nil => simp [splitAtPair]
  | cons char name ih =>
    rw [mem_cons, not_or] at isName
    cases name <;> simp_all [splitAtPair, Ne.symm isName.1]

theorem bracedValue_faithful {vars : Vars} {inner : Text} (faithful : Faithful vars inner)
    {turns : Nat} (enough : inner.length ≤ turns) :
    bracedValue vars (expandLoop vars (bracedValue vars) turns) inner =
      .ok (expandBraced vars inner) := by
  have first {op : Char} {word : Text} (rest : inner.dropWhile isVarChar = ':' :: op :: word) :
      splitAtPair ':' op inner = some (inner.takeWhile isVarChar, word) := by
    have noColon : ':' ∉ inner.takeWhile isVarChar := fun mem =>
      absurd (all_eq_true.mp all_takeWhile _ mem) (by decide)
    have found := splitAtPair_append op word noColon
    rwa [← rest, takeWhile_append_dropWhile] at found
  have expands {op : Char} {word : Text} (rest : inner.dropWhile isVarChar = ':' :: op :: word) :
      expandLoop vars (bracedValue vars) turns word = expandVars word vars := by
    have shorter := (dropWhile_suffix isVarChar (l := inner)).length_le
    rw [rest, length_cons, length_cons] at shorter
    exact expandLoop_enough (inward_bracedValue vars) (by omega) (Nat.le_refl _)
  generalize expandLoop vars (bracedValue vars) turns = expand at expands ⊢
  unfold Faithful at faithful
  unfold bracedValue
  dsimp only at faithful ⊢
  split at faithful
  · next word rest =>
    rw [expandBraced, first rest, expands rest]
    dsimp only
    cases set : (vars.lookup (inner.takeWhile isVarChar)).filter (· ≠ []) with
    | none =>
      rw [set] at faithful
      exact faithful.resolve_left (by simp)
    | some => rfl
  · next word rest =>
    rw [expandBraced, faithful.2, first rest, expands rest]
    dsimp only
    split
    · next isSet =>
      exact faithful.1.resolve_left (Option.ne_none_iff_isSome.mpr isSet)
    · rfl
  · rw [expandBraced, faithful.1, faithful.2]

private theorem map_eq_error {result : Except BuildError Text} {change : Text → Text}
    {error : BuildError} : result.map change = .error error ↔ result = .error error := by
  cases result with
  | error | ok => simp [Except.map]

private theorem bracedValue_error {vars : Vars} {expand : Expander} {inner : Text}
    {error : BuildError}
    (errors : ∀ word error, expand word = .error error → error = .unclosedBrace)
    (failed : bracedValue vars expand inner = .error error) : error = .unclosedBrace := by
  unfold bracedValue at failed
  dsimp only at failed
  split at failed
  · cases set : (vars.lookup (inner.takeWhile isVarChar)).filter (· ≠ []) with
    | none =>
      rw [set] at failed
      exact errors _ _ failed
    | some =>
      rw [set] at failed
      cases failed
  · split at failed
    · exact errors _ _ failed
    · cases failed
  · cases failed

theorem expandLoop_error {vars : Vars} (turns : Nat) (text : Text) (error : BuildError)
    (failed : expandLoop vars (bracedValue vars) turns text = .error error) :
    error = .unclosedBrace := by
  induction turns generalizing text error with
  | zero => cases text <;> cases failed
  | succ turns ih =>
    cases text with
    | nil => cases failed
    | cons char rest =>
      rw [expandLoop.eq_def] at failed
      dsimp only at failed
      split at failed
      · exact ih _ _ (map_eq_error.mp failed)
      · cases rest with
        | nil => cases failed
        | cons next after =>
          dsimp only at failed
          split at failed
          · exact ih _ _ (map_eq_error.mp failed)
          · split at failed
            · cases found : findClosingBrace 1 after with
              | none =>
                rw [found] at failed
                cases failed
                rfl
              | some parts =>
                rw [found] at failed
                cases value : bracedValue vars (expandLoop vars (bracedValue vars) turns)
                    parts.1 with
                | error =>
                  simp only [value, Except.bind] at failed
                  cases failed
                  exact bracedValue_error ih value
                | ok =>
                  simp only [value, Except.bind] at failed
                  exact ih _ _ (map_eq_error.mp failed)
            · split at failed
              · exact ih _ _ (map_eq_error.mp failed)
              · exact ih _ _ (map_eq_error.mp failed)

/-- Braces that are not closed are an error, whatever stands before them. -/
theorem expandLoop_unclosed {vars : Vars} {braced : Expander → Expander}
    (errors : ∀ turns inner error,
      braced (expandLoop vars braced turns) inner = .error error → error = .unclosedBrace)
    {turns : Nat} {text : Text} (unclosed : scanBraces turns text = none) :
    expandLoop vars braced turns text = .error .unclosedBrace := by
  fun_induction scanBraces turns text with
  | case1 | case2 | case4 => cases unclosed
  | case3 turns char rest plain ih => simp [expandLoop, plain, ih unclosed, Except.map]
  | case5 turns char dollar after ih =>
    simp [expandLoop, not_not.mp dollar, ih unclosed, Except.map]
  | case6 turns char dollar after notClosed _ => simp [expandLoop, not_not.mp dollar, notClosed]
  | case7 turns char dollar after inner beyond found _ ih =>
    have further := ih (Option.map_eq_none_iff.mp unclosed)
    cases value : braced (expandLoop vars braced turns) inner with
    | error error =>
      simp [expandLoop, not_not.mp dollar, found, value, Except.bind, errors _ _ _ value]
    | ok => simp [expandLoop, not_not.mp dollar, found, value, further, Except.bind, Except.map]
  | case8 turns char dollar next after notDollar notBrace isStart ih =>
    simp [expandLoop, not_not.mp dollar, notDollar, notBrace, isStart, ih unclosed, Except.map]
  | case9 turns char dollar next after notDollar notBrace notStart ih =>
    simp [expandLoop, not_not.mp dollar, notDollar, notBrace, notStart, ih unclosed, Except.map]

private theorem expandLoop_faithful {vars : Vars} {turns : Nat} {text : Text}
    (enough : text.length ≤ turns)
    (faithful : ∀ inner ∈ (scanBraces turns text).getD [], Faithful vars inner) :
    expandLoop vars (fun _ inner => .ok (expandBraced vars inner)) turns text =
      expandLoop vars (bracedValue vars) turns text := by
  fun_induction scanBraces turns text with
  | case1 turns => cases turns <;> rfl
  | case2 => rfl
  | case3 turns char rest plain ih => simp [expandLoop, plain, ih (by simpa using enough) faithful]
  | case4 turns char dollar => simp [expandLoop, not_not.mp dollar]
  | case5 turns char dollar after ih =>
    simp [expandLoop, not_not.mp dollar, ih (by simp at enough; omega) faithful]
  | case6 turns char dollar after notClosed _ => simp [expandLoop, not_not.mp dollar, notClosed]
  | case7 turns char dollar after inner beyond found _ ih =>
    have shorter := length_findClosingBrace found
    simp only [length_cons] at enough
    cases scanned : scanBraces turns beyond with
    | none =>
      have bad : scanBraces (turns + 1) (char :: '\x7b' :: after) = none := by
        simp [scanBraces, not_not.mp dollar, found, scanned]
      rw [expandLoop_unclosed (by simp) bad, expandLoop_unclosed
        (fun turns _ _ => bracedValue_error (expandLoop_error turns)) bad]
    | some braces =>
      rw [scanned, Option.map_some, Option.getD_some] at faithful
      have here : bracedValue vars (expandLoop vars (bracedValue vars) turns) inner =
          .ok (expandBraced vars inner) :=
        bracedValue_faithful (faithful inner (.head _)) (by omega)
      have later := ih (by omega) fun word member =>
        faithful word (mem_cons_of_mem _ (by simpa [scanned] using member))
      simp [expandLoop, not_not.mp dollar, found, here, later, Except.bind]
  | case8 turns char dollar next after notDollar notBrace isStart ih =>
    have shorter := (dropWhile_suffix isVarChar (l := next :: after)).length_le
    simp only [length_cons] at enough shorter
    simp [expandLoop, not_not.mp dollar, notDollar, notBrace, isStart, ih (by omega) faithful]
  | case9 turns char dollar next after notDollar notBrace notStart ih =>
    simp [expandLoop, not_not.mp dollar, notDollar, notBrace, notStart,
      ih (by simpa using enough) faithful]

end Visor.Build
