import Mathlib.Algebra.BigOperators.Group.Finset.Basic
import Mathlib.Logic.Relation

/-! The depth-first walk with a queue and a set of seen nodes. It ends within a turn for the start and
for each edge, and then has seen exactly the nodes that are reached from the start. -/

namespace Visor.Library
open List Relation

variable {α : Type} [DecidableEq α] (next : α → List α) {turns : Nat} {queue seen result : List α}

def walk : Nat → List α → List α → Option (List α)
  | _, [], seen => some seen
  | 0, _ :: _, _ => none
  | turns + 1, node :: queue, seen =>
    if node ∈ seen then walk turns queue seen
    else walk turns ((next node).reverse ++ queue) (node :: seen)

def Reaches : α → α → Prop := ReflTransGen fun node successor => successor ∈ next node

variable {next}

omit [DecidableEq α] in
theorem Reaches.trans_next {start node successor : α} (reached : Reaches next start node)
    (edge : successor ∈ next node) : Reaches next start successor :=
  ReflTransGen.tail reached edge

/-- What holds of the start nodes and is handed along the edges holds of all that is seen. -/
theorem walk_sound (holds : α → Prop)
    (handed : ∀ node, holds node → ∀ successor ∈ next node, holds successor)
    (ended : walk next turns queue seen = some result) (queued : ∀ node ∈ queue, holds node)
    (known : ∀ node ∈ seen, holds node) : ∀ node ∈ result, holds node := by
  fun_induction walk next turns queue seen with
  | case1 =>
    cases ended
    exact known
  | case2 => exact nomatch ended
  | case3 turns node queue seen old ih => exact ih ended (fun other mem => queued other (.tail _ mem)) known
  | case4 turns node queue seen fresh ih =>
    have here := queued node (.head _)
    refine ih ended ?_ ?_
    · intro other mem
      rcases mem_append.mp mem with successor | later
      · exact handed node here other (mem_reverse.mp successor)
      · exact queued other (.tail _ later)
    · rintro other (_ | ⟨_, mem⟩)
      · exact here
      · exact known other mem

/-- The walk loses nothing, and in the end no edge leads out of what is seen. -/
theorem walk_closed (ended : walk next turns queue seen = some result)
    (pending : ∀ node ∈ seen, ∀ successor ∈ next node, successor ∈ seen ∨ successor ∈ queue) :
    (∀ node ∈ queue, node ∈ result) ∧ (∀ node ∈ seen, node ∈ result) ∧
    ∀ node ∈ result, ∀ successor ∈ next node, successor ∈ result := by
  fun_induction walk next turns queue seen with
  | case1 =>
    cases ended
    refine ⟨nofun, fun _ mem => mem, fun node mem successor edge => ?_⟩
    exact (pending node mem successor edge).resolve_right (by simp)
  | case2 => exact nomatch ended
  | case3 turns node queue seen old ih =>
    obtain ⟨queued, known, closed⟩ := ih ended fun other mem successor edge => by
      rcases pending other mem successor edge with seenNow | waiting
      · exact .inl seenNow
      · rcases mem_cons.mp waiting with rfl | later
        · exact .inl old
        · exact .inr later
    refine ⟨?_, known, closed⟩
    rintro other (_ | ⟨_, mem⟩)
    · exact known node old
    · exact queued other mem
  | case4 turns node queue seen fresh ih =>
    obtain ⟨queued, known, closed⟩ := ih ended fun other mem successor edge => by
      rcases mem_cons.mp mem with rfl | before
      · exact .inr (mem_append_left _ (mem_reverse.mpr edge))
      · rcases pending other before successor edge with seenNow | waiting
        · exact .inl (.tail _ seenNow)
        · rcases mem_cons.mp waiting with rfl | later
          · exact .inl (.head _)
          · exact .inr (mem_append_right _ later)
    refine ⟨?_, fun other mem => known other (.tail _ mem), closed⟩
    rintro other (_ | ⟨_, mem⟩)
    · exact known node (.head _)
    · exact queued other (mem_append_right _ mem)

/-- The walk from one node sees what the node reaches. -/
theorem mem_walk_iff {start : α} (ended : walk next turns [start] [] = some result) (node : α) :
    node ∈ result ↔ Reaches next start node := by
  constructor
  · refine walk_sound (Reaches next start) (fun _ reached _ => reached.trans_next) ended ?_ nofun node
    rintro other (_ | ⟨_, mem⟩)
    · exact .refl
    · exact nomatch mem
  · obtain ⟨queued, -, closed⟩ := walk_closed ended nofun
    intro reached
    induction reached with
    | refl => exact queued start (.head _)
    | tail _ edge ih => exact closed _ ih _ edge

/-- Over a finite set of nodes that no edge leaves, that many turns are enough. -/
theorem walk_isSome (nodes : Finset α) (closed : ∀ node ∈ nodes, ∀ successor ∈ next node, successor ∈ nodes)
    (queued : ∀ node ∈ queue, node ∈ nodes)
    (enough : queue.length + ∑ node ∈ nodes with node ∉ seen, (next node).length ≤ turns) :
    (walk next turns queue seen).isSome := by
  fun_induction walk next turns queue seen with
  | case1 => rfl
  | case2 => exact absurd enough (by simp)
  | case3 turns node queue seen old ih =>
    refine ih (fun other mem => queued other (.tail _ mem)) ?_
    simp only [length_cons] at enough
    omega
  | case4 turns node queue seen fresh ih =>
    have here := queued node (.head _)
    refine ih ?_ ?_
    · intro other mem
      rcases mem_append.mp mem with successor | later
      · exact closed node here other (mem_reverse.mp successor)
      · exact queued other (.tail _ later)
    · have unseen : node ∈ nodes.filter (· ∉ seen) := by simp [here, fresh]
      have rest : nodes.filter (· ∉ node :: seen) = (nodes.filter (· ∉ seen)).erase node := by
        ext other
        simp only [Finset.mem_filter, Finset.mem_erase, mem_cons]
        tauto
      have split := Finset.add_sum_erase _ (fun node => (next node).length) unseen
      rw [rest]
      simp only [length_append, length_reverse, length_cons] at enough ⊢
      omega

end Visor.Library
