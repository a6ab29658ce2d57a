import Mathlib.Data.List.Count
import Visor.Library.Text

/-! The plan of the repair is read from what iptables prints of FORWARD. A rule without conditions
and target is not seen there, so a hook that only such rules precede is taken for the first rule. -/

namespace Visor.Net
open Library List

/-- A rule of FORWARD as it is printed behind the name of the chain, in one line. -/
structure ForwardRule where
  options : List Char
  oneLine : '\n' ∉ options
  spaced : ∀ first ∈ options.head?, first = ' '
  trimmed : ∀ last ∈ options.getLast?, isWhitespace last = false
deriving DecidableEq

namespace ForwardRule
/-- `-A FORWARD` -/
def start : List Char := ['-', 'A', ' ', 'F', 'O', 'R', 'W', 'A', 'R', 'D']
def line (rule : ForwardRule) : List Char := start ++ rule.options

/-- `-j DOCKER-USER` -/
def hook : ForwardRule where
  options := [' ', '-', 'j', ' ', 'D', 'O', 'C', 'K', 'E', 'R', '-', 'U', 'S', 'E', 'R']
  oneLine := by decide
  spaced := by rintro _ ⟨⟩; rfl
  trimmed := by rintro _ ⟨⟩; rfl

/-- A rule that only counts packets. -/
def bare : ForwardRule := ⟨[], nofun, nofun, nofun⟩

end ForwardRule

open ForwardRule

/-- What happens to a packet that no rule decides on. -/
inductive Policy where
  | accept
  | drop

def policyLine : Policy → List Char
  | .accept => "-P FORWARD ACCEPT".toList
  | .drop => "-P FORWARD DROP".toList

/-- `iptables -S FORWARD` -/
def listing (policy : Policy) (chain : List ForwardRule) : List Char :=
  policyLine policy ++ '\n' :: chain.flatMap fun rule => rule.line ++ ['\n']

structure RepairPlan where
  removeCount : Nat
  insertAtHead : Bool

/-- `lines` leaves an empty end out, which is no rule. -/
def dockerUserHookRepairPlan (forwardRules : List Char) : RepairPlan :=
  let rules := ((splitAll '\n' forwardRules).map trim).filter ((start ++ [' ']).isPrefixOf ·)
  let hookCount := rules.count hook.line
  let alreadyNormalized := hookCount = 1 && rules.head? = some hook.line
  ⟨if alreadyNormalized then 0 else hookCount, !alreadyNormalized⟩

/-- `iptables -D` removes the first rule that is equal, and fails if there is none. -/
def removeHooks : Nat → List ForwardRule → Option (List ForwardRule)
  | 0, chain => some chain
  | count + 1, chain => if hook ∈ chain then removeHooks count (chain.erase hook) else none

def RepairPlan.execute (plan : RepairPlan) (chain : List ForwardRule) : Option (List ForwardRule) :=
  (removeHooks plan.removeCount chain).map fun chain => if plan.insertAtHead then hook :: chain else chain

/-- The hook is the first rule and stands once, the other rules are as they were, and a second repair
has nothing to do. -/
structure Repaired (policy : Policy) (chain result : List ForwardRule) : Prop where
  first : result.head? = some hook
  once : result.count hook = 1
  others : result.filter (· ≠ hook) = chain.filter (· ≠ hook)
  stable : dockerUserHookRepairPlan (listing policy result) = ⟨0, false⟩

/-- The hook stands once, and only rules that are not seen stand before it. -/
def Hidden (chain : List ForwardRule) : Prop :=
  ∃ count rest, chain = .replicate (count + 1) bare ++ hook :: rest ∧ hook ∉ rest

private theorem not_mem_line (rule : ForwardRule) : '\n' ∉ rule.line := by
  have header : '\n' ∉ start := by decide
  exact fun member => (mem_append.mp member).elim header rule.oneLine

private theorem splitAll_rules (chain : List ForwardRule) :
    splitAll '\n' (chain.flatMap fun rule => rule.line ++ ['\n']) = chain.map line ++ [[]] := by
  induction chain with
  | nil => rfl
  | cons rule rest ih =>
    rw [flatMap_cons, append_assoc, singleton_append, splitAll_append, ih,
      splitAll_of_not_mem (not_mem_line rule)]
    rfl

private theorem trim_line (rule : ForwardRule) : trim rule.line = rule.line := by
  have front : rule.line.dropWhile isWhitespace = rule.line := rfl
  rw [trim, front, rdropWhile_eq_self_iff]
  intro nonempty
  have last := getLast?_eq_some_getLast nonempty
  generalize rule.line.getLast nonempty = char at last ⊢
  rw [line, getLast?_append] at last
  cases options : rule.options.getLast? with
  | none =>
    rw [options] at last
    cases last
    decide
  | some =>
    rw [options] at last
    cases last
    simpa using rule.trimmed char options

private theorem seen_line (rule : ForwardRule) :
    (start ++ [' ']).isPrefixOf rule.line = decide (rule ≠ bare) := by
  obtain ⟨options, _, spaced, _⟩ := rule
  cases options with
  | nil => rfl
  | cons first rest =>
    obtain rfl := spaced first rfl
    simp [line, bare]

private theorem line_injective : Function.Injective line := by
  intro one other same
  obtain ⟨options, _⟩ := one
  cases append_cancel_left same
  rfl

/-- The plan sees the rules with conditions or a target. -/
theorem plan_listing (policy : Policy) (chain : List ForwardRule) :
    dockerUserHookRepairPlan (listing policy chain) =
      if chain.count hook = 1 ∧ chain.find? (· ≠ bare) = some hook then ⟨0, false⟩
      else ⟨chain.count hook, true⟩ := by
  have oneLine : '\n' ∉ policyLine policy := by
    cases policy with
    | accept | drop => decide +kernel
  have unseen : (start ++ [' ']).isPrefixOf (trim (policyLine policy)) = false := by
    cases policy with
    | accept | drop => decide +kernel
  have trimmed : trim ∘ line = line := funext trim_line
  have seen : (fun line => (start ++ [' ']).isPrefixOf line) ∘ line =
      fun rule => decide (rule ≠ bare) := funext seen_line
  have rules : ((splitAll '\n' (listing policy chain)).map trim).filter
      ((start ++ [' ']).isPrefixOf ·) = (chain.filter (· ≠ bare)).map line := by
    rw [listing, splitAll_append, splitAll_of_not_mem oneLine, splitAll_rules, singleton_append,
      map_cons, filter_cons_of_neg (by simp [unseen]), map_append, map_map, trimmed,
      filter_append, filter_map, seen]
    exact append_nil _
  have count : ((chain.filter (· ≠ bare)).map line).count hook.line = chain.count hook := by
    rw [count_map_of_injective _ _ line_injective, count_filter (by decide +kernel)]
  have head : ((chain.filter (· ≠ bare)).map line).head? = some hook.line ↔
      chain.find? (· ≠ bare) = some hook := by
    rw [head?_map, ← Option.map_some, (Option.map_injective line_injective).eq_iff, head?_filter]
  simp only [dockerUserHookRepairPlan, rules, count, head, ← Bool.decide_and, decide_eq_true_eq]
  split
  · next normalized => simp only [decide_eq_true normalized, Bool.not_true]
  · next broken => simp only [decide_eq_false broken, Bool.not_false]

private theorem removeHooks_count (chain : List ForwardRule) :
    removeHooks (chain.count hook) chain = some (chain.filter (· ≠ hook)) := by
  generalize counted : chain.count hook = count
  induction count generalizing chain with
  | zero =>
    have absent := count_eq_zero.mp counted
    rw [removeHooks, filter_eq_self.mpr]
    intro rule member
    simpa using ne_of_mem_of_not_mem member absent
  | succ count ih =>
    have present : hook ∈ chain := count_pos_iff.mp (by omega)
    have fewer : (chain.erase hook).count hook = count := by
      rw [count_erase_self, counted, Nat.add_sub_cancel]
    obtain ⟨before, rest, _, isChain, erased⟩ := exists_erase_eq present
    rw [removeHooks, if_pos present, ih _ fewer, erased, isChain]
    simp

/-- What the plan takes for a chain that needs no repair. -/
theorem normalized_iff (chain : List ForwardRule) :
    (chain.count hook = 1 ∧ chain.find? (· ≠ bare) = some hook) ↔
      Hidden chain ∨ ∃ rest, chain = hook :: rest ∧ hook ∉ rest := by
  have differ : hook ≠ bare := by decide +kernel
  constructor
  · rintro ⟨once, found⟩
    obtain ⟨_, before, rest, rfl, unseen⟩ := find?_eq_some_iff_append.mp found
    have bares : before = .replicate before.length bare :=
      eq_replicate_of_mem fun rule member => by simpa using unseen rule member
    have last : hook ∉ rest := by
      rw [count_append, count_cons_self] at once
      exact count_eq_zero.mp (by omega)
    cases length : before.length with
    | zero =>
      rw [eq_nil_of_length_eq_zero length]
      exact .inr ⟨rest, rfl, last⟩
    | succ count =>
      rw [length] at bares
      exact .inl ⟨count, rest, by rw [← bares], last⟩
  · rintro (⟨count, rest, rfl, last⟩ | ⟨rest, rfl, last⟩)
    · simp [count_replicate, count_eq_zero.mpr last, differ, differ.symm]
    · simp [count_eq_zero.mpr last, differ]

private theorem not_hidden_cons (rest : List ForwardRule) : ¬ Hidden (hook :: rest) := by
  rintro ⟨count, others, same, _⟩
  rw [replicate_succ] at same
  exact absurd (cons.inj same).1 (by decide +kernel)

/-- The repair does what it is for unless the hook stands once, behind rules that are not seen. -/
theorem hook_repaired_iff (policy : Policy) (chain : List ForwardRule) :
    (∃ result, (dockerUserHookRepairPlan (listing policy chain)).execute chain = some result ∧
      Repaired policy chain result) ↔ ¬ Hidden chain := by
  rw [plan_listing]
  split
  · next normalized =>
    show (∃ result, some chain = some result ∧ _) ↔ _
    rcases (normalized_iff chain).mp normalized with hidden | ⟨rest, rfl, _⟩
    · refine ⟨?_, fun shown => absurd hidden shown⟩
      obtain ⟨count, rest, rfl, _⟩ := hidden
      rintro ⟨_, ⟨⟩, repaired⟩
      exact absurd (Option.some.inj repaired.first) (by decide +kernel)
    · refine ⟨fun _ => not_hidden_cons rest, fun _ => ⟨_, rfl, rfl, normalized.1, rfl, ?_⟩⟩
      rw [plan_listing, if_pos normalized]
  · next broken =>
    refine ⟨fun _ hidden => broken ((normalized_iff chain).mpr (.inl hidden)), fun _ => ?_⟩
    have last : hook ∉ chain.filter (· ≠ hook) := by simp
    have normalized := (normalized_iff _).mpr (.inr ⟨_, rfl, last⟩)
    refine ⟨_, by rw [RepairPlan.execute, removeHooks_count]; rfl, rfl, normalized.1, ?_, ?_⟩
    · simp
    · rw [plan_listing, if_pos normalized]

theorem hook_hidden :
    (dockerUserHookRepairPlan (listing .accept [bare, hook])).execute [bare, hook] =
      some [bare, hook] ∧ ¬ Repaired .accept [bare, hook] [bare, hook] := by
  refine ⟨by decide +kernel, fun repaired => ?_⟩
  exact absurd repaired.first (by decide)

end Visor.Net
