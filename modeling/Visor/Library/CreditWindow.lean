import Mathlib.Algebra.GroupWithZero.Nat

/-! Credit flow control between a sender and a receiver with a buffer of fixed capacity. The
receiver tells the sender how much it has forwarded, in messages that stay in order; all counters
wrap. `reported` is what the receiver remembers of its last report, and may lag behind the messages
once the sender has closed. -/

namespace Visor.Library
open List BitVec

/-! Wrapping counters of a fixed width, compared by how far one is behind another. -/

section
variable {width : Nat}

def behind (counter reading : BitVec width) : Nat := (counter - reading).toNat

@[simp] theorem behind_self (counter : BitVec width) : behind counter counter = 0 := by simp [behind]

theorem behind_add (counter reading : BitVec width) (count : Nat)
    (inRange : behind counter reading + count < 2 ^ width) :
    behind (counter + BitVec.ofNat width count) reading = behind counter reading + count := by
  unfold behind at inRange ⊢
  have small : count < 2 ^ width := by omega
  rw [← sub_add_comm, toNat_add, toNat_ofNat, Nat.mod_eq_of_lt small, Nat.mod_eq_of_lt inRange]

end

structure CreditWindow (width : Nat) where
  sent : BitVec width
  stored : Nat
  forwarded : BitVec width
  reported : BitVec width
  seen : BitVec width
  inFlight : List (BitVec width)
  closed : Bool

namespace CreditWindow
variable {width : Nat} (window : CreditWindow width)

/-- Readings of `forwarded` on the sender's side or on their way to it. -/
def views (window : CreditWindow width) : List (BitVec width) := window.seen :: window.inFlight
def newest (window : CreditWindow width) : BitVec width := window.inFlight.getLastD window.seen
def unacknowledged (window : CreditWindow width) : Nat := behind window.sent window.seen

def accept (window : CreditWindow width) (count : Nat) : CreditWindow width :=
  { window with
    sent := window.sent + BitVec.ofNat width count
    stored := window.stored + count }

def forward (window : CreditWindow width) (count : Nat) : CreditWindow width :=
  { window with
    forwarded := window.forwarded + BitVec.ofNat width count
    stored := window.stored - count }

/-- A message to the sender that the receiver does not remember as a report. -/
def announce (window : CreditWindow width) : CreditWindow width :=
  { window with inFlight := window.inFlight ++ [window.forwarded] }

def report (window : CreditWindow width) : CreditWindow width :=
  { window.announce with reported := window.forwarded }

def receive (window : CreditWindow width) : CreditWindow width :=
  match window.inFlight with
  | [] => window
  | view :: rest => { window with seen := view, inFlight := rest }

def close (window : CreditWindow width) : CreditWindow width := { window with closed := true }

/-- The two sides agree: what was sent is stored or forwarded, and no reading of the
receiver's counter lets the sender exceed the capacity. -/
structure Sound (capacity : Nat) (window : CreditWindow width) : Prop where
  inRange : capacity < 2 ^ width
  balanced : window.sent = window.forwarded + BitVec.ofNat width window.stored
  within : ∀ view ∈ window.views, behind window.forwarded view + window.stored ≤ capacity
  ordered : window.views.Pairwise fun older newer => behind window.forwarded newer ≤
    behind window.forwarded older
  reportedWithin : behind window.forwarded window.reported + window.stored ≤ capacity
  reportedOlder : behind window.forwarded window.newest ≤ behind window.forwarded window.reported
  reportedNewest : window.closed = false → window.reported = window.newest

theorem newest_mem_views : window.newest ∈ window.views := by
  unfold newest views
  rw [getLastD_eq_getLast?]
  cases last : window.inFlight.getLast? with
  | none => exact .head _
  | some => exact .tail _ (mem_of_getLast? last)

@[simp] theorem newest_announce : window.announce.newest = window.forwarded := by simp [newest, announce]

@[simp] theorem newest_receive : window.receive.newest = window.newest := by
  unfold receive
  split
  · rfl
  · next view rest arriving => rw [newest, newest, arriving, getLastD_cons]

theorem views_announce : window.announce.views = window.views ++ [window.forwarded] := rfl

namespace Sound
variable {capacity : Nat} {window : CreditWindow width}
section
variable (sound : window.Sound capacity) {count : Nat}
include sound

theorem unacknowledged_eq :
    window.unacknowledged = behind window.forwarded window.seen + window.stored := by
  have bound := sound.within window.seen (.head _)
  have range := sound.inRange
  rw [unacknowledged, sound.balanced, behind_add _ _ _ (by omega)]

/-- No message is further behind than what the sender has seen. -/
theorem view_le_seen {view : BitVec width} (member : view ∈ window.views) :
    behind window.forwarded view ≤ behind window.forwarded window.seen := by
  rcases mem_cons.mp member with same | later
  · exact Nat.le_of_eq (congrArg (behind window.forwarded) same)
  · exact rel_of_pairwise_cons sound.ordered later

theorem newest_le_seen : behind window.forwarded window.newest ≤ behind window.forwarded window.seen :=
  sound.view_le_seen window.newest_mem_views

/-- A sender within its credit never overruns the buffer. -/
theorem room (credit : window.unacknowledged + count ≤ capacity) : window.stored + count ≤ capacity := by
  rw [sound.unacknowledged_eq] at credit
  omega

theorem accept (isOpen : window.closed = false)
    (credit : window.unacknowledged + count ≤ capacity) : (window.accept count).Sound capacity := by
  have newestBound := sound.newest_le_seen
  rw [sound.unacknowledged_eq] at credit
  refine ⟨sound.inRange, ?_, ?_, sound.ordered, ?_, sound.reportedOlder, sound.reportedNewest⟩
  · simp only [CreditWindow.accept]
    rw [sound.balanced, BitVec.add_assoc, ofNat_add]
  · intro view member
    have bound := sound.view_le_seen member
    simp only [CreditWindow.accept]
    omega
  · simp only [CreditWindow.accept]
    rw [sound.reportedNewest isOpen]
    omega

theorem forward (available : count ≤ window.stored) : (window.forward count).Sound capacity := by
  have range := sound.inRange
  have advance : ∀ view, behind window.forwarded view + window.stored ≤ capacity →
    behind (window.forwarded + BitVec.ofNat width count) view = behind window.forwarded view + count := by
    intro view bound
    exact behind_add _ _ _ (by omega)
  refine ⟨range, ?_, ?_, ?_, ?_, ?_, sound.reportedNewest⟩
  · simp only [CreditWindow.forward]
    rw [sound.balanced, BitVec.add_assoc, ← ofNat_add, Nat.add_sub_cancel' available]
  · intro view member
    have bound := sound.within view member
    simp only [CreditWindow.forward, advance view bound]
    omega
  · refine sound.ordered.imp_of_mem fun {older newer} olderMember newerMember order => ?_
    simp only [CreditWindow.forward]
    rw [advance older (sound.within older olderMember), advance newer (sound.within newer newerMember)]
    omega
  · simp only [CreditWindow.forward, advance _ sound.reportedWithin]
    have bound := sound.reportedWithin
    omega
  · have newestBound := sound.within _ window.newest_mem_views
    have older := sound.reportedOlder
    change behind (window.forwarded + BitVec.ofNat width count) window.newest ≤
      behind (window.forwarded + BitVec.ofNat width count) window.reported
    rw [advance _ newestBound, advance _ sound.reportedWithin]
    omega

theorem announce_views :
    (∀ view ∈ window.announce.views, behind window.forwarded view + window.stored ≤ capacity) ∧
    window.announce.views.Pairwise fun older newer => behind window.forwarded newer ≤
    behind window.forwarded older := by
  rw [views_announce]
  refine ⟨fun view member => ?_, ?_⟩
  · rcases mem_append.mp member with earlier | last
    · exact sound.within view earlier
    · rw [mem_singleton.mp last, behind_self]
      have bound := sound.reportedWithin
      omega
  · refine pairwise_append.mpr ⟨sound.ordered, pairwise_singleton _ _, ?_⟩
    intro older _ newer last
    rw [mem_singleton.mp last, behind_self]
    exact Nat.zero_le _

theorem announce (remembered : window.closed = true ∨ window.reported = window.forwarded) :
    window.announce.Sound capacity := by
  obtain ⟨within, ordered⟩ := sound.announce_views
  refine ⟨sound.inRange, sound.balanced, within, ordered, sound.reportedWithin, ?_, ?_⟩
  · rw [newest_announce]
    simp [CreditWindow.announce]
  · intro isOpen
    rw [newest_announce]
    rcases remembered with closed | same
    · exact absurd (closed.symm.trans isOpen) (by decide)
    · exact same

theorem report : window.report.Sound capacity := by
  obtain ⟨within, ordered⟩ := sound.announce_views
  have latest : window.report.newest = window.forwarded := window.newest_announce
  refine ⟨sound.inRange, sound.balanced, within, ordered, ?_, ?_, fun _ => ?_⟩
  · have bound := sound.reportedWithin
    simp only [CreditWindow.report, CreditWindow.announce, behind_self]
    omega
  · rw [latest]
    simp [CreditWindow.report, CreditWindow.announce]
  · rw [latest]
    rfl

theorem receive : window.receive.Sound capacity := by
  unfold CreditWindow.receive
  split
  · exact sound
  · next view rest arriving =>
      have views : window.views = window.seen :: view :: rest := by rw [CreditWindow.views, arriving]
      have latest : window.newest = rest.getLastD view := by
        rw [CreditWindow.newest, arriving, getLastD_cons]
      refine ⟨sound.inRange, sound.balanced, ?_, ?_, sound.reportedWithin, ?_, ?_⟩
      · intro later member
        exact sound.within later (views ▸ mem_cons_of_mem _ member)
      · have ordered := sound.ordered
        rw [views] at ordered
        exact ordered.of_cons
      · have older := sound.reportedOlder
        rwa [latest] at older
      · intro isOpen
        exact (sound.reportedNewest isOpen).trans latest

theorem close : window.close.Sound capacity :=
  ⟨sound.inRange, sound.balanced, sound.within, sound.ordered, sound.reportedWithin,
    sound.reportedOlder, fun impossible => by cases impossible⟩

/-- A sender out of credit with nothing stored waits for a message: one on its way, or
one as far behind as the capacity, which the receiver has to send. -/
theorem exhausted (drained : window.stored = 0) (spent : window.unacknowledged = capacity) :
    (∃ view ∈ window.inFlight, behind window.forwarded view < behind window.forwarded window.seen) ∨
    behind window.forwarded window.newest = capacity := by
  rw [sound.unacknowledged_eq, drained] at spent
  by_cases newer : behind window.forwarded window.newest < behind window.forwarded window.seen
  · rcases mem_cons.mp window.newest_mem_views with same | inFlight
    · rw [same] at newer
      omega
    · exact .inl ⟨_, inFlight, newer⟩
  · have bound := sound.newest_le_seen
    exact .inr (by omega)

end
end Sound
end CreditWindow
end Visor.Library
