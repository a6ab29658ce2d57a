import Visor.Backend.GuestNetwork
import Visor.Library.Run

/-! The search for a free address goes round the subnet once, from the next candidate on, so it fails
only if all addresses for hosts are given away. -/

namespace Visor.Compose
open Backend Library

structure SubnetAllocator where
  base : U32
  prefixLen : Nat
  /-- The offsets from the base that are in use. -/
  allocated : List Nat
  nextCandidate : Nat

namespace SubnetAllocator
/-- `SubnetAllocator::default_network`: `172.20.0.0/24` -/
def defaultNetwork : SubnetAllocator where
  base := 0xac140000
  prefixLen := 24
  allocated := []
  nextCandidate := 2

variable (allocator : SubnetAllocator)

def hostCount : Nat := 2 ^ (32 - allocator.prefixLen)

def following (offset : Nat) : Nat :=
  if offset + 1 ≥ allocator.hostCount then 2 else offset + 1

def search (allocator : SubnetAllocator) : Nat → Nat → Option Nat
  | 0, _ => none
  | fuel + 1, offset =>
    let next := allocator.following offset
    let onward := if next = allocator.nextCandidate then none else allocator.search fuel next
    if offset = 0 ∨ offset = 1 ∨ offset = allocator.hostCount - 1 then onward
    else if offset ∉ allocator.allocated then some offset
    else onward

def allocate : Option (Ipv4Addr × SubnetAllocator) :=
  (allocator.search (allocator.hostCount + 1) allocator.nextCandidate).map fun offset =>
    (.ofBits (allocator.base + BitVec.ofNat 32 offset), { allocator with
      allocated := offset :: allocator.allocated
      nextCandidate := allocator.following offset })

def new (base : U32) (prefixLen : Nat) : Option SubnetAllocator :=
  if prefixLen = 0 ∨ prefixLen > 30 then none else some ⟨base, prefixLen, [], 2⟩

variable (gateway : U32) (pool : SubnetAllocator)

def contains (ip : U32) : Bool :=
  let mask := BitVec.allOnes 32 <<< (32 - pool.prefixLen)
  ip &&& mask = pool.base &&& mask

def release (ip : U32) : Option SubnetAllocator :=
  let offset := (ip - pool.base).toNat
  if !pool.contains ip ∨ offset = 0 ∨ ip = gateway ∨ offset = 1 ∨ offset = pool.hostCount - 1 then none
  else if offset ∉ pool.allocated then none
  else
    some { pool with
      allocated := pool.allocated.erase offset
      nextCandidate := min offset pool.nextCandidate }

/-- A call of `allocate`, or of `release` for an address. -/
def step : Option U32 → SubnetAllocator
  | none => pool.allocate.elim pool (·.2)
  | some ip => (release gateway pool ip).getD pool

def usable : List Nat := List.range' 2 (pool.hostCount - 3)

/-- The pool gives out host addresses of its subnet only, each of them once. -/
structure Sound : Prop where
  large : 4 ≤ pool.hostCount
  next : 2 ≤ pool.nextCandidate ∧ pool.nextCandidate < pool.hostCount
  usable : pool.allocated ⊆ pool.usable
  once : pool.allocated.Nodup

/-- A free address is given, unless there is none. -/
def Allocates : Prop :=
  match pool.allocate with
  | none => pool.usable ⊆ pool.allocated
  | some (ip, after) => ∃ offset ∈ pool.usable, offset ∉ pool.allocated ∧
    ip = .ofBits (pool.base + BitVec.ofNat 32 offset) ∧ after.allocated = offset :: pool.allocated

/-- How far the search goes to get to an offset. -/
def distance (offset : Nat) : Nat :=
  if pool.nextCandidate ≤ offset then offset - pool.nextCandidate else offset +
    (pool.hostCount - 2) - pool.nextCandidate

variable {pool}

theorem mem_usable {offset : Nat} : offset ∈ pool.usable ↔ 2 ≤ offset ∧ offset + 1 < pool.hostCount := by
  simp [usable]
  omega

section
variable (sound : pool.Sound) {fuel offset free : Nat} (inside : 2 ≤ offset ∧ offset < pool.hostCount)
include sound inside

theorem search_some (found : pool.search fuel offset = some free) :
    free ∈ pool.usable ∧ free ∉ pool.allocated := by
  have large := sound.large
  induction fuel generalizing offset with
  | zero => cases found
  | succ fuel ih =>
    rw [search] at found
    grind [following, mem_usable]

theorem search_none (ended : pool.search fuel offset = none)
    (enough : pool.hostCount ≤ fuel + pool.distance offset + 2) (isUsable : free ∈ pool.usable)
    (ahead : pool.distance offset ≤ pool.distance free) : free ∈ pool.allocated := by
  have large := sound.large
  have next := sound.next
  have between := mem_usable.mp isUsable
  induction fuel generalizing offset with
  | zero => grind [distance]
  | succ fuel ih =>
    have further : if pool.following offset = pool.nextCandidate then pool.distance offset + 3 =
      pool.hostCount
      else pool.distance (pool.following offset) = pool.distance offset + 1 := by
        grind [following, distance]
    have only : free = offset ∨ pool.distance offset < pool.distance free ∧ pool.distance free + 3 ≤
      pool.hostCount := by grind [distance]
    rw [search] at ended
    grind [following]

end

theorem Sound.allocate (sound : pool.Sound) : pool.Allocates ∧ (step gateway pool none).Sound := by
  unfold Allocates step SubnetAllocator.allocate
  have large := sound.large
  cases found : pool.search (pool.hostCount + 1) pool.nextCandidate with
  | none =>
    refine ⟨fun free isUsable => ?_, sound⟩
    exact search_none sound sound.next found (by omega) isUsable (by grind [distance])
  | some offset =>
    obtain ⟨isUsable, unused⟩ := search_some sound sound.next found
    have between := mem_usable.mp isUsable
    refine ⟨⟨offset, isUsable, unused, rfl, rfl⟩, large, ?_,
      List.cons_subset.mpr ⟨isUsable, sound.usable⟩, List.nodup_cons.mpr ⟨unused, sound.once⟩⟩
    grind [following, hostCount]

theorem Sound.step (sound : pool.Sound) (call : Option U32) : (step gateway pool call).Sound := by
  cases call with
  | none => exact (sound.allocate gateway).2
  | some ip =>
    simp only [SubnetAllocator.step, release]
    split_ifs with reserved given
    · exact sound
    · have between := mem_usable.mp (sound.usable given)
      exact ⟨sound.large, ⟨le_min between.1 sound.next.1, (Nat.min_le_right ..).trans_lt sound.next.2⟩,
        fun _ mem => sound.usable (List.mem_of_mem_erase mem), sound.once.erase _⟩
    · exact sound

end SubnetAllocator
end Visor.Compose
