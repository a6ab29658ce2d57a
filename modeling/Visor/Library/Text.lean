import Mathlib.Data.List.DropRight

/-! Texts as lists of characters: numbers, the order of texts, splitting and trimming. -/

namespace Visor.Library
open List Option

/-- The characters of Unicode's `White_Space`, which trimming removes. -/
def isWhitespace (char : Char) : Bool :=
  let code := char.toNat
  (9 ≤ code && code ≤ 13) || code == 0x20 || code == 0x85 || code == 0xA0 || code == 0x1680 ||
    (0x2000 ≤ code && code ≤ 0x200A) || code == 0x2028 || code == 0x2029 || code == 0x202F ||
    code == 0x205F || code == 0x3000

def trim (text : List Char) : List Char :=
  (text.dropWhile isWhitespace).rdropWhile isWhitespace

/-- Parsing of an unsigned integer below `bound`: decimal digits, after an optional plus sign. -/
def parseUnsigned (bound : Nat) (text : List Char) : Option Nat :=
  let digits := match text with
    | '+' :: rest => rest
    | _ => text
  if digits.isEmpty || !digits.all Char.isDigit then none
  else
    let value := digits.foldl (fun value digit => 10 * value + (digit.toNat - '0'.toNat)) 0
    if value < bound then some value else none

/-- The order of texts by code points. -/
def textLe : List Char → List Char → Bool
  | [], _ => true
  | _ :: _, [] => false
  | first :: rest, other :: others =>
    if first = other then textLe rest others else first.toNat < other.toNat

def splitOnce (mark : Char) : List Char → Option (List Char × List Char)
  | [] => none
  | first :: rest =>
    if first = mark then some ([], rest)
    else (splitOnce mark rest).map fun (before, after) => (first :: before, after)

def splitLast (mark : Char) : List Char → Option (List Char × List Char)
  | [] => none
  | first :: rest =>
    match splitLast mark rest with
    | some (before, after) => some (first :: before, after)
    | none => if first = mark then some ([], rest) else none

def afterStart (start text : List Char) : Option (List Char) :=
  if start.isPrefixOf text then some (text.drop start.length) else none

def splitAll (mark : Char) : List Char → List (List Char)
  | [] => [[]]
  | first :: rest =>
    if first = mark then [] :: splitAll mark rest
    else match splitAll mark rest with
      | [] => [[first]]
      | part :: parts => (first :: part) :: parts

theorem head_splitAll (mark : Char) (text : List Char) :
    (splitAll mark text).head? = some (text.takeWhile (· ≠ mark)) := by
  induction text with
  | nil => rfl
  | cons first rest ih =>
    rw [splitAll]
    split
    next same =>
      simp [same]
    next differ =>
      cases parts : splitAll mark rest with
      | nil => simp [parts] at ih
      | cons =>
        rw [parts, head?_cons, some.injEq] at ih
        simp [differ, ih]

variable {mark : Char} {text before after : List Char}

theorem fst_splitOnce (split : splitOnce mark text = some (before, after)) :
    before = text.takeWhile (· ≠ mark) := by
  induction text generalizing before with
  | nil => exact nomatch split
  | cons first rest ih =>
    rw [splitOnce] at split
    split at split
    next same =>
      cases split
      simp [same]
    next differ =>
      cases found : splitOnce mark rest with
      | none => simp [found] at split
      | some parts =>
        obtain ⟨head, tail⟩ := parts
        simp only [found, map_some, some.injEq, Prod.mk.injEq] at split
        obtain ⟨rfl, rfl⟩ := split
        simp [differ, ih found]

theorem splitOnce_append (absent : mark ∉ before) (after : List Char) :
    splitOnce mark (before ++ mark :: after) = some (before, after) := by
  induction before with
  | nil => simp [splitOnce]
  | cons first rest ih =>
    rw [mem_cons, not_or] at absent
    rw [cons_append, splitOnce, if_neg (Ne.symm absent.1), ih absent.2]
    rfl

theorem splitOnce_eq_none (unsplit : splitOnce mark text = none) : text.takeWhile (· ≠ mark) = text := by
  induction text with
  | nil => rfl
  | cons first rest ih =>
    rw [splitOnce] at unsplit
    split at unsplit
    · exact nomatch unsplit
    next differ =>
      rw [takeWhile_cons_of_pos (by simpa using differ), ih (map_eq_none_iff.mp unsplit)]

@[simp] theorem afterStart_append (start text : List Char) :
    afterStart start (start ++ text) = some text := by simp [afterStart]

theorem splitLast_eq_none (unsplit : splitLast mark text = none) : mark ∉ text := by
  induction text with
  | nil => exact not_mem_nil
  | cons first rest ih =>
    rw [splitLast] at unsplit
    cases found : splitLast mark rest with
    | some => simp [found] at unsplit
    | none =>
      have differ : first ≠ mark := by simpa [found] using unsplit
      exact fun mem => (mem_cons.mp mem).elim (differ ·.symm) (ih found)

/-- The last part is what follows the last mark. -/
theorem snd_splitLast (split : splitLast mark text = some (before, after)) :
    mark ∉ after ∧ after ⊆ text := by
  induction text generalizing before with
  | nil => exact nomatch split
  | cons first rest ih =>
    rw [splitLast] at split
    cases found : splitLast mark rest with
    | some =>
      simp only [found, some.injEq, Prod.mk.injEq] at split
      obtain ⟨_, rfl⟩ := split
      exact (ih found).imp_right (subset_cons_of_subset _)
    | none =>
      simp only [found, ite_none_right_eq_some, some.injEq, Prod.mk.injEq] at split
      obtain ⟨_, _, rfl⟩ := split
      exact ⟨splitLast_eq_none found, subset_cons_self _ _⟩

theorem splitAll_ne_nil (mark : Char) (text : List Char) : splitAll mark text ≠ [] := by
  intro empty
  have head := head_splitAll mark text
  simp [empty] at head

theorem splitAll_append (mark : Char) (one other : List Char) :
    splitAll mark (one ++ mark :: other) = splitAll mark one ++ splitAll mark other := by
  induction one with
  | nil => simp [splitAll]
  | cons first rest ih =>
    rw [cons_append, splitAll, splitAll, ih]
    split
    · rfl
    · obtain ⟨part, parts, written⟩ := exists_cons_of_ne_nil (splitAll_ne_nil mark rest)
      simp [written]

theorem splitAll_of_not_mem (absent : mark ∉ text) : splitAll mark text = [text] := by
  induction text with
  | nil => rfl
  | cons first rest ih =>
    simp only [mem_cons, not_or] at absent
    rw [splitAll, if_neg (Ne.symm absent.1), ih absent.2]

theorem splitAll_injective (mark : Char) : Function.Injective (splitAll mark) := by
  intro one other same
  have joined (text : List Char) : [mark].intercalate (splitAll mark text) = text := by
    induction text with
    | nil => rfl
    | cons first rest ih =>
      obtain ⟨part, parts, written⟩ := exists_cons_of_ne_nil (splitAll_ne_nil mark rest)
      rw [written] at ih
      rw [splitAll]
      split
      next begins =>
        simp [written, begins, ih]
      · cases parts with
        | nil | cons => simpa [written] using ih
  rw [← joined one, ← joined other, same]

/-! Computations that may fail, and folds of them. -/

universe u v

theorem bind_eq_ok {Error : Type u} {Value Result : Type v} {first : Except Error Value}
    {next : Value → Except Error Result} {result : Result} :
    first >>= next = .ok result ↔ ∃ value, first = .ok value ∧ next value = .ok result := by
  cases first with
  | error | ok => simp [bind, Except.bind]

theorem pure_eq_ok {Error : Type u} {Value : Type v} {value result : Value} :
    (pure value : Except Error Value) = .ok result ↔ value = result :=
  Except.ok.injEq value result ▸ Iff.rfl

theorem map_eq_ok {Error : Type u} {Value Result : Type v} {first : Except Error Value}
    {make : Value → Result} {result : Result} :
    (first >>= fun value => pure (make value)) = .ok result ↔
      ∃ value, first = .ok value ∧ make value = result := by
  simp only [bind_eq_ok, pure_eq_ok]

theorem foldlM_cons_eq_ok {Error State Item : Type u} {step : State → Item → Except Error State}
    {item : Item} {items : List Item} {state last : State} :
    (item :: items).foldlM step state = .ok last ↔
      ∃ next, step state item = .ok next ∧ items.foldlM step next = .ok last := by
  rw [List.foldlM_cons]
  exact bind_eq_ok

/-- A fold that can follow another one step by step follows it to its end. -/
theorem foldlM_follows {Error State Item : Type u} {step : State → Item → Except Error State}
    (related : State → State → Prop)
    (follows : ∀ {state twin next item}, related state twin → step state item = .ok next →
      ∃ after, step twin item = .ok after ∧ related next after)
    {items : List Item} {state twin last : State} (start : related state twin)
    (ran : items.foldlM step state = .ok last) :
    ∃ after, items.foldlM step twin = .ok after ∧ related last after := by
  induction items generalizing state twin with
  | nil =>
    obtain rfl := pure_eq_ok.mp ran
    exact ⟨twin, rfl, start⟩
  | cons item items ih =>
    obtain ⟨next, stepped, rest⟩ := foldlM_cons_eq_ok.mp ran
    obtain ⟨between, beside, still⟩ := follows start stepped
    obtain ⟨after, ranBeside, related⟩ := ih still rest
    exact ⟨after, foldlM_cons_eq_ok.mpr ⟨between, beside, ranBeside⟩, related⟩

/-- What every step keeps between two folds holds where both end. -/
theorem foldlM_both {Error State Item : Type u} {step : State → Item → Except Error State}
    (related : State → State → Prop)
    (keeps : ∀ {state twin next after item}, related state twin → step state item = .ok next →
      step twin item = .ok after → related next after)
    {items : List Item} {state twin last after : State} (start : related state twin)
    (ran : items.foldlM step state = .ok last) (ranBeside : items.foldlM step twin = .ok after) :
    related last after := by
  induction items generalizing state twin with
  | nil =>
    obtain rfl := pure_eq_ok.mp ran
    obtain rfl := pure_eq_ok.mp ranBeside
    exact start
  | cons item items ih =>
    obtain ⟨_, stepped, rest⟩ := foldlM_cons_eq_ok.mp ran
    obtain ⟨_, beside, restBeside⟩ := foldlM_cons_eq_ok.mp ranBeside
    exact ih (keeps start stepped beside) rest restBeside

end Visor.Library
