import Mathlib.Algebra.BigOperators.Group.Finset.Basic
import Mathlib.Data.Set.Finite.List

/-! Kahn's algorithm: a node is ready when its count of unmet dependencies reaches zero. No node is
ready twice, so the result has each node at most once, and each of them if and only if all
dependencies are nodes and none is circular. -/

namespace Visor.Library
open List Function Relation
variable {Node : Type}
namespace TopologicalSort
variable {dependencies : Node → List Node} {node : Node} {done : List Node}

/-- Some node depends on itself, through any number of others. -/
def Circular (dependencies : Node → List Node) : Prop :=
  ∃ node, TransGen (fun one two => two ∈ dependencies one) node node

/-- Each node stands before its dependencies, all of which are there. -/
def Grounded (dependencies : Node → List Node) : List Node → Prop
  | [] => True
  | node :: done => dependencies node ⊆ done ∧ Grounded dependencies done

theorem Grounded.closed (grounded : Grounded dependencies done) (mem : node ∈ done) :
    dependencies node ⊆ done := by
  induction done with
  | nil => cases mem
  | cons head tail ih =>
    rcases mem_cons.mp mem with rfl | later
    · exact subset_cons_of_subset _ grounded.1
    · exact subset_cons_of_subset _ (ih grounded.2 later)

theorem Grounded.reached {node other : Node} (grounded : Grounded dependencies (node :: done))
    (reaches : TransGen (fun one two => two ∈ dependencies one) node other) : other ∈ done := by
  induction reaches with
  | single depends => exact grounded.1 depends
  | tail _ depends ih => exact grounded.2.closed ih depends

theorem Grounded.split {before done : List Node}
    (grounded : Grounded dependencies (before ++ node :: done)) : Grounded dependencies (node :: done) := by
  induction before with
  | nil => exact grounded
  | cons _ _ ih => exact ih grounded.2

theorem circular_of_stuck {nodes : List Node} {stuck : Node → Prop}
    (inside : ∀ node, stuck node → node ∈ nodes)
    (depends : ∀ node, stuck node → ∃ other ∈ dependencies node, stuck other)
    {first : Node} (isStuck : stuck first) : Circular dependencies := by
  by_contra acyclic
  let reached (one two : { node // node ∈ nodes }) : Prop :=
    TransGen (fun one two => two ∈ dependencies one) two.1 one.1
  have : Std.Irrefl reached := ⟨fun node circle => acyclic ⟨node.1, circle⟩⟩
  have : Finite { node // node ∈ nodes } := (finite_toSet nodes).to_subtype
  have wellFounded : WellFounded reached := Finite.wellFounded_of_trans_of_irrefl reached
  obtain ⟨last, isLast, minimal⟩ :=
    wellFounded.has_min { node | stuck node.1 } ⟨⟨first, inside first isStuck⟩, isStuck⟩
  obtain ⟨other, isDependency, otherStuck⟩ := depends last.1 isLast
  exact minimal ⟨other, inside other otherStuck⟩ otherStuck (.single isDependency)

variable [DecidableEq Node]

/-- The counts after one dependency of each of the nodes is met, and the nodes that became
ready. -/
def release (counts : Node → Nat) : List Node → (Node → Nat) × List Node
  | [] => (counts, [])
  | node :: nodes =>
    let counts := update counts node (counts node - 1)
    let rest := release counts nodes
    (rest.1, if counts node = 0 then node :: rest.2 else rest.2)

/-- The nodes in the order in which they leave the queue, at most as many as the fuel. -/
def drain (arrange : List Node → List Node) (dependents : Node → List Node) : Nat → (Node → Nat) →
    List Node → List Node
  | 0, _, _ => []
  | _ + 1, _, [] => []
  | fuel + 1, counts, node :: queue =>
    let released := release counts (dependents node)
    node :: drain arrange dependents fuel released.1 (queue ++ arrange released.2)

def dependents (nodes : List Node) (dependencies : Node → List Node) (node : Node) : List Node :=
  nodes.flatMap fun other => replicate ((dependencies other).count node) other

/-- One more node than there are would come out only if a node came out twice. -/
def sort (arrange : List Node → List Node) (nodes : List Node) (dependencies : Node → List Node) :
    List Node :=
  drain arrange (dependents nodes dependencies) (nodes.length + 1)
    (fun node => (dependencies node).length)
    (arrange (nodes.filter fun node => (dependencies node).length = 0))

variable {counts : Node → Nat}

theorem release_spec {nodes : List Node} (enough : ∀ node, nodes.count node ≤ counts node) :
    (∀ node, (release counts nodes).1 node = counts node - nodes.count node) ∧
    (release counts nodes).2.Nodup ∧ ∀ node, node ∈ (release counts nodes).2 ↔ node ∈ nodes ∧
    counts node = nodes.count node := by
  induction nodes generalizing counts with
  | nil => simp [release]
  | cons head tail ih =>
    have positive : 1 + tail.count head ≤ counts head := by
      have bound := enough head
      rw [count_cons_self] at bound
      omega
    have later (node : Node) : tail.count node ≤ update counts head (counts head - 1) node := by
      by_cases same : node = head
      · subst same
        rw [update_self]
        omega
      · rw [update_of_ne same]
        have bound := enough node
        rwa [count_cons_of_ne (Ne.symm same)] at bound
    obtain ⟨values, distinct, members⟩ := ih later
    have headReady : head ∈ (release (update counts head (counts head - 1)) tail).2 ↔
      head ∈ tail ∧ counts head - 1 = tail.count head := by rw [members head, update_self]
    refine ⟨fun node => ?_, ?_, fun node => ?_⟩
    · simp only [release]
      rw [values node]
      by_cases same : node = head
      · subst same
        rw [update_self, count_cons_self]
        omega
      · rw [update_of_ne same, count_cons_of_ne (Ne.symm same)]
    · simp only [release, update_self]
      split
      · refine nodup_cons.mpr ⟨fun again => ?_, distinct⟩
        have occurs := count_pos_iff.mpr (headReady.mp again).1
        omega
      · exact distinct
    · simp only [release, update_self]
      by_cases same : node = head
      · subst same
        rw [count_cons_self]
        split
        · exact iff_of_true mem_cons_self ⟨mem_cons_self, by omega⟩
        · rw [headReady, mem_cons, ← count_pos_iff]
          constructor
          · rintro ⟨_, last⟩
            exact ⟨.inl rfl, by omega⟩
          · rintro ⟨_, last⟩
            exact ⟨by omega, by omega⟩
      · have other : node ∈ (release (update counts head (counts head - 1)) tail).2 ↔
          node ∈ head :: tail ∧ counts node = (head :: tail).count node := by
          rw [members node, update_of_ne same, count_cons_of_ne (Ne.symm same), mem_cons, or_iff_right same]
        split
        · rw [mem_cons, or_iff_right same, other]
        · exact other

/-- The state of the algorithm: what is in the queue or has left it, the last one first, is what
has no unmet dependency, and the counts say how many are unmet. -/
structure Progress (nodes : List Node) (dependencies : Node → List Node) (counts : Node → Nat)
    (queue done : List Node) : Prop where
  once : (queue ++ done).Nodup
  ready : ∀ node, node ∈ queue ++ done ↔ node ∈ nodes ∧ counts node = 0
  unmet : ∀ node ∈ nodes, counts node = (dependencies node).countP (· ∉ done)
  grounded : Grounded dependencies done

variable {arrange : List Node → List Node} {nodes : List Node}

theorem count_dependents (distinct : nodes.Nodup) (node other : Node) :
    (dependents nodes dependencies node).count other =
    if other ∈ nodes then (dependencies other).count node else 0 := by
  induction nodes with
  | nil => rfl
  | cons head tail ih =>
    obtain ⟨fresh, distinctTail⟩ := nodup_cons.mp distinct
    have later : (dependents (head :: tail) dependencies node).count other =
      (replicate ((dependencies head).count node) head).count other +
        (dependents tail dependencies node).count other := count_append
    rw [later, ih distinctTail, count_replicate]
    by_cases same : head = other
    · subst same
      simp [fresh]
    · simp [same, Ne.symm same]

theorem countP_cons_done (waits : node ∉ done) (list : List Node) :
    list.countP (· ∉ done) = list.countP (· ∉ node :: done) + list.count node := by
  induction list with
  | nil => rfl
  | cons head tail ih =>
    by_cases same : head = node
    · subst same
      simp [waits] at ih ⊢
      omega
    · simp [same, countP_cons] at ih ⊢
      omega

variable (arranged : ∀ list, (arrange list).Perm list) (distinct : nodes.Nodup)
include arranged distinct

theorem Progress.step {queue done : List Node}
    (progress : Progress nodes dependencies counts (node :: queue) done) :
    Progress nodes dependencies (release counts (dependents nodes dependencies node)).1
    (queue ++ arrange (release counts (dependents nodes dependencies node)).2) (node :: done) := by
  obtain ⟨fresh, _⟩ := nodup_cons.mp progress.once
  have waits : node ∉ done := fun mem => fresh (mem_append_right _ mem)
  obtain ⟨isNode, noneLeft⟩ := (progress.ready node).mp mem_cons_self
  have count (other : Node) := @count_dependents _ dependencies _ _ distinct node other
  have enough (other : Node) : (dependents nodes dependencies node).count other ≤ counts other := by
    rw [count other]
    split
    next isOther =>
      rw [progress.unmet other isOther, countP_cons_done waits]
      exact Nat.le_add_left _ _
    · exact Nat.zero_le _
  obtain ⟨values, distinctReady, members⟩ := release_spec enough
  have isReady (other : Node) :
    other ∈ arrange (release counts (dependents nodes dependencies node)).2 ↔
      0 < (dependents nodes dependencies node).count other ∧
        counts other = (dependents nodes dependencies node).count other := by
    rw [(arranged _).mem_iff, members other, count_pos_iff]
  have order : (queue ++ arrange (release counts (dependents nodes dependencies node)).2 ++
    node :: done).Perm
      (arrange (release counts (dependents nodes dependencies node)).2 ++ (node :: queue ++ done)) := by
    rw [perm_iff_count]
    intro other
    simp only [count_append, count_cons]
    omega
  refine ⟨?_, fun other => ?_, fun other isOther => ?_, ?_, progress.grounded⟩
  · rw [order.nodup_iff, nodup_append']
    refine ⟨(arranged _).nodup_iff.mpr distinctReady, progress.once, fun other isNew mem => ?_⟩
    have new := (isReady other).mp isNew
    have zero := ((progress.ready other).mp mem).2
    omega
  · rw [order.mem_iff, mem_append, isReady other, progress.ready other, values other]
    have bound := enough other
    rw [count other] at bound ⊢
    by_cases isOther : other ∈ nodes
    · simp only [isOther, if_true, true_and] at bound ⊢
      omega
    · simp [isOther]
  · rw [values other, count other, if_pos isOther, progress.unmet other isOther,
      countP_cons_done waits, Nat.add_sub_cancel]
  · intro dependency isDependency
    have met := progress.unmet node isNode
    rw [noneLeft, eq_comm, countP_eq_zero] at met
    simpa using met dependency isDependency

theorem Progress.drain {queue done : List Node}
    (progress : Progress nodes dependencies counts queue done)
    {fuel : Nat} (enough : nodes.length < fuel + done.length) :
    ∃ left, Progress nodes dependencies left []
    ((TopologicalSort.drain arrange (dependents nodes dependencies) fuel counts queue).reverse ++
      done) := by
  induction fuel generalizing counts queue done with
  | zero =>
    have inside : done ⊆ nodes := fun node mem => ((progress.ready node).mp (mem_append_right _ mem)).1
    have fits := ((nodup_append.mp progress.once).2.1.subperm inside).length_le
    omega
  | succ fuel ih =>
    cases queue with
    | nil => exact ⟨counts, progress⟩
    | cons =>
      have later := ih (progress.step arranged distinct) (by rw [length_cons]; omega)
      simpa [TopologicalSort.drain] using later

theorem sort_progress (dependencies : Node → List Node) :
    ∃ left, Progress nodes dependencies left [] (sort arrange nodes dependencies).reverse := by
  have initial : Progress nodes dependencies (fun node => (dependencies node).length)
    (arrange (nodes.filter fun node => (dependencies node).length = 0)) [] := by
    refine ⟨?_, fun node => ?_, fun node _ => by simp, trivial⟩
    · rw [append_nil, (arranged _).nodup_iff]
      exact distinct.filter _
    · rw [append_nil, (arranged _).mem_iff, mem_filter, decide_eq_true_eq]
  obtain ⟨left, progress⟩ := initial.drain arranged distinct (Nat.lt_succ_self nodes.length)
  rw [append_nil] at progress
  exact ⟨left, progress⟩

theorem sort_perm (full : (sort arrange nodes dependencies).length = nodes.length) :
    (sort arrange nodes dependencies).Perm nodes := by
  obtain ⟨left, progress⟩ := sort_progress arranged distinct dependencies
  refine (reverse_perm _).symm.trans
    ((progress.once.subperm fun node mem => ((progress.ready node).mp mem).1).perm_of_length_le ?_)
  rw [nil_append, length_reverse, full]

/-- With all dependencies among the nodes, all nodes come out if and only if none is circular. -/
theorem length_sort_iff (defined : ∀ node ∈ nodes, dependencies node ⊆ nodes)
    (outside : ∀ node, node ∉ nodes → dependencies node = []) :
    (sort arrange nodes dependencies).length = nodes.length ↔ ¬ Circular dependencies := by
  obtain ⟨left, progress⟩ := sort_progress arranged distinct dependencies
  constructor
  · rintro full ⟨node, circle⟩
    have isNode : node ∈ nodes := by
      by_contra notNode
      obtain ⟨next, depends, _⟩ := TransGen.head'_iff.mp circle
      rw [outside node notNode] at depends
      cases depends
    have sorted := (sort_perm arranged distinct full).mem_iff.mpr isNode
    obtain ⟨before, done, parts⟩ := append_of_mem (mem_reverse.mpr sorted)
    have once := progress.once
    have grounded := progress.grounded
    rw [nil_append, parts] at once
    rw [parts] at grounded
    have again := grounded.split.reached circle
    exact (nodup_cons.mp (nodup_append.mp once).2.1).1 again
  · intro acyclic
    by_contra short
    have missed : ∃ node ∈ nodes, node ∉ sort arrange nodes dependencies := by
      by_contra none
      have all : nodes ⊆ sort arrange nodes dependencies := fun node isNode => by
        by_contra isMissed
        exact none ⟨node, isNode, isMissed⟩
      have once := nodup_reverse.mp progress.once
      have inside : sort arrange nodes dependencies ⊆ nodes :=
        fun node mem => ((progress.ready node).mp (mem_reverse.mpr mem)).1
      exact short (Nat.le_antisymm (once.subperm inside).length_le (distinct.subperm all).length_le)
    obtain ⟨first, isNode, isMissed⟩ := missed
    refine acyclic (@circular_of_stuck _ _ nodes (fun node =>
      node ∈ nodes ∧ node ∉ sort arrange nodes dependencies)  (fun node stuck => stuck.1) ?_ first
      ⟨isNode, isMissed⟩)
    rintro node ⟨isNode, isMissed⟩
    have unmet : left node ≠ 0 :=
      fun zero => isMissed (mem_reverse.mp ((progress.ready node).mpr ⟨isNode, zero⟩))
    rw [progress.unmet node isNode, ← Nat.pos_iff_ne_zero, countP_pos_iff] at unmet
    obtain ⟨other, depends, isLeft⟩ := unmet
    exact ⟨other, depends, defined node isNode depends, by simpa using isLeft⟩

end TopologicalSort
end Visor.Library
