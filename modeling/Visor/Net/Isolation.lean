import Visor.Net.SharedNat

/-! While no two runs at once take rules of one bridge for theirs, the rules of every bridge in
FORWARD are a beginning of the list that Visor appends: runs append them in that order and delete
them from its end. So the rule that accepts all packets of a bridge never stands without the rule
before it that drops those for other networks. -/

namespace Visor.Net
open NamedNetwork HostRules List IptablesRule
open Backend (Text NamedNetworkSupernet)
open Library

/-- Named networks of a supernet, with bridges and subnets of their own. -/
structure Networks (supernet : NamedNetworkSupernet) where
  members : List NamedNetwork
  distinct : ∀ one ∈ members, ∀ other ∈ members, one.bridge = other.bridge → one = other
  slash24 : ∀ network ∈ members, network.subnet.prefixLen = 24
  inside : ∀ network ∈ members, ∀ address, network.subnet.Contains address →
    (supernetCidr supernet).Contains address
  disjoint : ∀ one ∈ members, ∀ other ∈ members, one ≠ other →
    ∀ address, one.subnet.Contains address → ¬ other.subnet.Contains address

section
variable {supernet : NamedNetworkSupernet} (networks : Networks supernet) (taps : List Text)

/-- A rule of FORWARD that no run for a shared bridge has appended. -/
inductive Preexisting : IptablesRule → Prop where
  | foreign (rule : IptablesRule) (untagged : rule.isVisor = false) : Preexisting rule
  | tap (interface : Text) (subnet : Cidr) (rule : IptablesRule) (known : interface ∈ taps)
    (member : rule ∈ generateNatRules interface subnet) : Preexisting rule
  | portForward (protocol : Text) (guestIp : U32) (guestPort : U16) (comment : Text) :
    Preexisting (buildPortForwardFilterRule protocol guestIp guestPort comment)

/-- A new packet from the bridge of one network to the subnet of another one. It is not routed to
the own interface of a guest, as no such interface has an address in the supernet. -/
structure Crossing (packet : Packet) where
  one : NamedNetwork
  other : NamedNetwork
  oneMember : one ∈ networks.members
  otherMember : other ∈ networks.members
  differ : one ≠ other
  enters : packet.inInterface = one.bridge
  addressed : other.subnet.Contains packet.destination
  routed : packet.outInterface ∉ taps
  opens : packet.isNew = true

/-- No rule of Visor but one for a published port accepts a packet to another network. -/
def Isolated (forward : List IptablesRule) : Prop :=
  ∀ packet, Nonempty (Crossing networks taps packet) → ∀ rule,
    firstMatch forward packet = some rule → rule.target = .accept → rule.isVisor = true →
    ∃ protocol port comment, rule = buildPortForwardFilterRule protocol packet.destination port comment

/-- Runs of the one network take the rules of the other one for theirs. -/
def NamedNetwork.Touches (one other : NamedNetwork) : Prop := one.comment <:+: other.comment
deriving Decidable

/-- No network is touched by both. -/
def Apart (one other : NamedNetwork) : Prop :=
  ∀ network ∈ networks.members, ¬ (one.Touches network ∧ other.Touches network)
deriving Decidable

/-- A run is begun for one of the networks only. -/
def Concerns : HostRules.Event → Prop
  | .ensure _ network | .cleanup _ network => network ∈ networks.members
  | .turn _ _ | .killed _ => True

instance : DecidablePred (Concerns networks) :=
  fun event => by cases event <;> (unfold Concerns; infer_instance)

/-- The next command of the run is a deletion whose failure it does not notice. -/
def NatRun.unchecked (run : NatRun) : Bool :=
  match run.purpose, run.stage with
  | .cleanup, .delete _ => true
  | _, _ => false

/-- A run begins only while no run is under way that touches a bridge it touches, and no deletion
fails whose failure the run does not notice. -/
def Serial (host : HostRules) : HostRules.Event → Prop
  | .ensure _ network | .cleanup _ network =>
    ∀ entry ∈ host.runs.entries, Apart networks network entry.2.network
  | .turn task outcome => outcome.fails = true → ∀ run ∈ host.runs.lookup task, run.unchecked = false
  | .killed _ => True

instance (host : HostRules) : DecidablePred (Serial networks host) :=
  fun event => by cases event <;> (unfold Serial; infer_instance)

end

section
variable {supernet : Cidr} {rule : IptablesRule} (network : NamedNetwork)
section
variable {network : NamedNetwork} {rule : IptablesRule}
  (member : rule ∈ network.forwardRules supernet)
include member

theorem comment_of_mem : rule.comment = some network.comment := by
  simp only [forwardRules, mem_cons, not_mem_nil, or_false] at member
  rcases member with rfl | rfl | rfl | rfl <;> rfl

theorem table_of_mem : rule.table = .filter := by
  simp only [forwardRules, mem_cons, not_mem_nil, or_false] at member
  rcases member with rfl | rfl | rfl | rfl <;> rfl

theorem isVisor_of_mem : rule.isVisor = true := by
  have start : "visor-".toList <:+: "visor-sharednat-".toList := by decide +kernel
  have tagged : "visor-".toList <:+: network.comment := start.trans (prefix_append _ _).isInfix
  rw [isVisor, comment_of_mem member, Option.any_some]
  exact decide_eq_true tagged

end

theorem listed_of_mem {network : NamedNetwork} (one : NamedNetwork)
    (member : rule ∈ network.forwardRules supernet) : listed one rule = true ↔ one.Touches network := by
  simp [listed, isVisor_of_mem member, comment_of_mem member, Touches]

theorem touches_self : network.Touches network := infix_refl _

theorem forwardRules_nodup : (network.forwardRules supernet).Nodup := by
  simp [forwardRules, acceptInside, dropOthers, acceptAny, acceptReplies]

theorem hook_not_mem : dockerUserHook ∉ network.forwardRules supernet := by
  intro member
  cases comment_of_mem member

def own (supernet : Cidr) (network : NamedNetwork) (rules : List IptablesRule) :
    List IptablesRule := rules.filter (· ∈ network.forwardRules supernet)

theorem own_append (front rest : List IptablesRule) : own supernet network (front ++ rest) =
    own supernet network front ++ own supernet network rest := filter_append ..

theorem own_eq_nil {network : NamedNetwork} {rules : List IptablesRule}
    (none : ∀ rule ∈ rules, rule ∉ network.forwardRules supernet) : own supernet network rules = [] := by
  simpa [own] using none

theorem own_singleton {network : NamedNetwork} (member : rule ∈ network.forwardRules supernet) :
    own supernet network [rule] = [rule] := by
  simp [own, member]

theorem own_erase (rule : IptablesRule) (rules : List IptablesRule) :
    own supernet network (rules.erase rule) = (own supernet network rules).erase rule :=
  (erase_filter ..).symm

theorem own_erase_of_not_mem {network : NamedNetwork} (other : rule ∉ network.forwardRules supernet)
    (rules : List IptablesRule) : own supernet network (rules.erase rule) = own supernet network rules := by
  rw [own_erase, erase_of_not_mem]
  simp [own, other]

theorem own_filter_listed {one network : NamedNetwork} (touches : one.Touches network)
    (rules : List IptablesRule) :
    own supernet network (rules.filter (listed one)) = own supernet network rules := by
  rw [own, own, filter_filter]
  apply filter_congr
  intro rule _
  by_cases member : rule ∈ network.forwardRules supernet
  · simp [member, (listed_of_mem one member).mpr touches]
  · simp [member]

theorem own_generateSharedNatRules :
    own supernet network (network.generateSharedNatRules supernet) = network.forwardRules supernet := by
  have natRule : network.masquerade ∉ network.forwardRules supernet := by
    intro member
    cases table_of_mem member
  rw [own, generateSharedNatRules, filter_cons_of_neg (by simpa using natRule)]
  exact filter_eq_self.mpr (by simp)

end

section
variable {supernet : NamedNetworkSupernet} (networks : Networks supernet) (taps : List Text)
  {rule : IptablesRule} {forward nat : List IptablesRule}

theorem network_of_mem {one other : NamedNetwork} {cidr : Cidr} (oneMember : one ∈ networks.members)
    (otherMember : other ∈ networks.members) (first : rule ∈ one.forwardRules cidr)
    (second : rule ∈ other.forwardRules cidr) : one = other := by
  have same : "visor-sharednat-".toList ++ one.bridge = "visor-sharednat-".toList ++ other.bridge :=
    Option.some.inj ((comment_of_mem first).symm.trans (comment_of_mem second))
  exact networks.distinct one oneMember other otherMember (append_cancel_left same)

def Progress (forward : List IptablesRule) (run : NatRun) : Prop :=
  match run.stage with
  | .hooks | .removeHooks _ | .insertHook | .listNat => True
  | .listFilter found => ∀ rule ∈ found, listed run.network rule = true ∧ rule.table = .nat
  | .delete existing =>
    (∀ rule ∈ existing, listed run.network rule = true) ∧
      ∀ network ∈ networks.members, run.network.Touches network →
        own (supernetCidr supernet) network existing = own (supernetCidr supernet) network forward
  | .append desired =>
    ∃ done, done ++ desired = run.network.generateSharedNatRules (supernetCidr supernet) ∧
      own (supernetCidr supernet) run.network forward = own (supernetCidr supernet) run.network done

/-- What is known of the rules themselves. -/
structure Tidy (nat forward : List IptablesRule) : Prop where
  tables : ∀ rule ∈ nat, rule.table = .nat
  known : ∀ rule ∈ forward, rule = dockerUserHook ∨ Preexisting taps rule ∨
    ∃ network ∈ networks.members, rule ∈ network.forwardRules (supernetCidr supernet)
  ordered : ∀ network ∈ networks.members, own (supernetCidr supernet) network forward <+:
    network.forwardRules (supernetCidr supernet)

structure Sound (host : HostRules) : Prop where
  tidy : Tidy networks taps host.nat host.forward
  members : ∀ task run, host.runs.lookup task = some run → run.network ∈ networks.members
  progress : ∀ task run, host.runs.lookup task = some run → Progress networks host.forward run
  apart : ∀ task other run otherRun, host.runs.lookup task = some run →
    host.runs.lookup other = some otherRun → task ≠ other →
    Apart networks run.network otherRun.network

variable {networks taps}

theorem Apart.symm {one other : NamedNetwork} (apart : Apart networks one other) :
    Apart networks other one := fun network member both => apart network member both.symm

theorem Progress.frame {after : List IptablesRule} {run : NatRun} (member : run.network ∈ networks.members)
    (same : ∀ network ∈ networks.members, run.network.Touches network →
    own (supernetCidr supernet) network after = own (supernetCidr supernet) network forward)
    (progress : Progress networks forward run) : Progress networks after run := by
  unfold Progress at progress ⊢
  split at progress
  · trivial
  · trivial
  · trivial
  · trivial
  · exact progress
  · refine ⟨progress.1, fun network known touches => ?_⟩
    rw [same network known touches]
    exact progress.2 network known touches
  · obtain ⟨done, whole, reached⟩ := progress
    exact ⟨done, whole, (same _ member (touches_self _)).trans reached⟩

namespace Sound
variable {host : HostRules}

theorem finish (sound : Sound networks taps host) (task : Nat) :
    Sound networks taps (host.finish task) where
  tidy := sound.tidy
  members other run found := by
    simp only [HostRules.finish, KeyedMap.lookup_erase_eq, Option.ite_none_left_eq_some] at found
    exact sound.members other run found.2
  progress other run found := by
    simp only [HostRules.finish, KeyedMap.lookup_erase_eq, Option.ite_none_left_eq_some] at found
    exact sound.progress other run found.2
  apart one other run otherRun found present := by
    simp only [HostRules.finish, KeyedMap.lookup_erase_eq, Option.ite_none_left_eq_some] at found present
    exact sound.apart one other run otherRun found.2 present.2

section
variable (sound : Sound networks taps host) {task : Nat} {run : NatRun} {stage : Stage}
include sound

theorem place {nat forward : List IptablesRule} (tidy : Tidy networks taps nat forward)
    (member : run.network ∈ networks.members) (progress : Progress networks forward run)
    (frame : ∀ network ∈ networks.members, ¬ run.network.Touches network →
      own (supernetCidr supernet) network forward =
      own (supernetCidr supernet) network host.forward)
    (apart : ∀ other later, host.runs.lookup other = some later → other ≠ task →
      Apart networks run.network later.network) : Sound networks taps
    ⟨nat, forward, host.runs.insert task run⟩ where
  tidy := tidy
  members other later present := by
    simp only [KeyedMap.lookup_insert_eq] at present
    split at present
    · cases present
      exact member
    · exact sound.members other later present
  progress other later present := by
    simp only [KeyedMap.lookup_insert_eq] at present
    split at present
    case isTrue =>
      cases present
      exact progress
    case isFalse differ =>
      refine (sound.progress other later present).frame (sound.members other later present) ?_
      exact fun network known touches => frame network known fun both =>
        apart other later present differ network known ⟨both, touches⟩
  apart one other oneRun otherRun oneFound otherFound differ := by
    simp only [KeyedMap.lookup_insert_eq] at oneFound otherFound
    split at oneFound
    case isTrue same =>
      cases oneFound
      have later : other ≠ task := fun both => differ (same.trans both.symm)
      rw [if_neg later] at otherFound
      exact apart other otherRun otherFound later
    case isFalse earlier =>
      split at otherFound
      case isTrue =>
        cases otherFound
        exact (apart one oneRun oneFound earlier).symm
      case isFalse => exact sound.apart one other oneRun otherRun oneFound otherFound differ

theorem advance (found : host.runs.lookup task = some run) {nat forward : List IptablesRule}
    (tidy : Tidy networks taps nat forward)
    (frame : ∀ network ∈ networks.members, ¬ run.network.Touches network →
    own (supernetCidr supernet) network forward = own (supernetCidr supernet) network host.forward)
    (progress : Progress networks forward { run with stage := stage }) :
    Sound networks taps (setStage { host with nat := nat, forward := forward } task run stage) :=
  sound.place tidy (sound.members task run found) progress frame fun other later present differ =>
    sound.apart task other run later found present differ.symm

theorem start (member : run.network ∈ networks.members) (progress : Progress networks host.forward run)
    (apart : ∀ entry ∈ host.runs.entries, Apart networks run.network entry.2.network) :
    Sound networks taps { host with runs := host.runs.insert task run } :=
  sound.place sound.tidy member progress (fun _ _ _ => rfl) fun other later present _ =>
    apart ⟨other, later⟩ ((KeyedMap.mem_entries_iff _ _ _).mpr present)

section
variable (found : host.runs.lookup task = some run)
include found

theorem aside {nat forward : List IptablesRule}
    (tables : ∀ rule ∈ nat, rule.table = .nat)
    (known : ∀ rule ∈ forward, rule = dockerUserHook ∨ rule ∈ host.forward)
    (same : ∀ network ∈ networks.members, own (supernetCidr supernet) network forward =
    own (supernetCidr supernet) network host.forward)
    (progress : Progress networks host.forward { run with stage := stage }) :
    Sound networks taps (setStage { host with nat := nat, forward := forward } task run stage) := by
  have member := sound.members task run found
  refine sound.advance found ⟨tables, ?_, ?_⟩ (fun network known _ => same network known)
    (progress.frame member fun network known _ => same network known)
  · intro rule present
    rcases known rule present with hook | old
    · exact .inl hook
    · exact sound.tidy.known rule old
  · intro network known
    rw [same network known]
    exact sound.tidy.ordered network known

theorem passes (progress : Progress networks host.forward { run with stage := stage }) :
    Sound networks taps (host.setStage task run stage) :=
  sound.aside found sound.tidy.tables (fun _ => .inr) (fun _ _ => rfl) progress

theorem removeHook (count : Nat) :
    Sound networks taps ((host.remove dockerUserHook).setStage task run (.removeHooks count)) :=
  sound.aside found sound.tidy.tables (fun _ present => .inr (mem_of_mem_erase present))
    (fun network _ => own_erase_of_not_mem (hook_not_mem network) _) trivial

theorem insertHook :
    Sound networks taps
    ((host.withChain (dockerUserHook :: host.forward) .filter).setStage task run .listNat) :=
  sound.aside found sound.tidy.tables (fun _ => mem_cons.mp)
    (fun network _ => filter_cons_of_neg (by simpa using hook_not_mem network)) trivial

end
end

theorem own_dropLast (sound : Sound networks taps host) {existing : List IptablesRule}
    {rule : IptablesRule} {network : NamedNetwork} (last : existing.getLast? = some rule)
    (known : network ∈ networks.members)
    (same : own (supernetCidr supernet) network existing =
      own (supernetCidr supernet) network host.forward) : own (supernetCidr supernet) network
    existing.dropLast = own (supernetCidr supernet) network (host.forward.erase rule) := by
  have split : existing = existing.dropLast ++ [rule] := (dropLast_append_getLast? rule last).symm
  rw [split, own_append] at same
  by_cases mine : rule ∈ network.forwardRules (supernetCidr supernet)
  · rw [own_singleton mine] at same
    have nodup : (own (supernetCidr supernet) network host.forward).Nodup :=
      (forwardRules_nodup network).sublist (sound.tidy.ordered network known).sublist
    rw [own_erase, ← same, erase_append_right, erase_cons_head, append_nil]
    rw [← same] at nodup
    exact fun earlier => (nodup_append.mp nodup).2.2 rule earlier rule (.head _) rfl
  · have nothing : own (supernetCidr supernet) network [rule] = [] := own_eq_nil (by simpa using mine)
    rw [nothing, append_nil] at same
    rw [own_erase_of_not_mem mine, same]

section
variable (sound : Sound networks taps host) {task : Nat} {run : NatRun}
  (found : host.runs.lookup task = some run) {existing : List IptablesRule}
include sound found
variable {rule : IptablesRule}
section
variable (stage : run.stage = .delete existing) (last : existing.getLast? = some rule)
include stage last

theorem deletes :
    Sound networks taps ((host.remove rule).setStage task run (.delete existing.dropLast)) := by
  have progress := sound.progress task run found
  simp only [Progress, stage] at progress
  obtain ⟨ours, same⟩ := progress
  have dropped (member : IptablesRule) (left : member ∈ existing.dropLast) :
    listed run.network member = true := ours member (mem_of_mem_dropLast left)
  have shrinks (network : NamedNetwork) (known : network ∈ networks.members)
    (touches : run.network.Touches network) :=
    sound.own_dropLast last known (same network known touches)
  cases table : rule.table with
  | nat =>
    -- the rule is of no named network, so FORWARD has nothing to lose
    have other (network : NamedNetwork) : rule ∉ network.forwardRules (supernetCidr supernet) :=
      fun mine => nomatch table.symm.trans (table_of_mem mine)
    simp only [remove, table, withChain]
    refine sound.aside found (fun left member => ?_) (fun _ => .inr) (fun _ _ => rfl)
      ⟨dropped, fun network known touches => ?_⟩
    · exact sound.tidy.tables left (mem_of_mem_erase member)
    · rw [shrinks network known touches, own_erase_of_not_mem (other network)]
  | filter =>
    simp only [remove, table, withChain]
    have untouched (network : NamedNetwork) (apart : ¬ run.network.Touches network) :
      own (supernetCidr supernet) network (host.forward.erase rule) =
        own (supernetCidr supernet) network host.forward := by
      refine own_erase_of_not_mem (fun mine => apart ?_) _
      exact (listed_of_mem run.network mine).mp (ours rule (mem_of_getLast? last))
    refine sound.advance found ⟨sound.tidy.tables, fun left member => ?_, fun network known => ?_⟩
      (fun network _ => untouched network) ⟨dropped, shrinks⟩
    · exact sound.tidy.known left (mem_of_mem_erase member)
    · by_cases touches : run.network.Touches network
      · have shorter : existing.dropLast <+: existing := dropLast_prefix existing
        have before := sound.tidy.ordered network known
        rw [← same network known touches] at before
        change own _ network (host.forward.erase rule) <+: _
        rw [← shrinks network known touches]
        exact (shorter.filter _).trans before
      · change own _ network (host.forward.erase rule) <+: _
        rw [untouched network touches]
        exact sound.tidy.ordered network known

theorem skips (missing : rule ∉ host.chain rule.table) :
    Sound networks taps (host.setStage task run (.delete existing.dropLast)) := by
  have progress := sound.progress task run found
  simp only [Progress, stage] at progress
  obtain ⟨ours, same⟩ := progress
  refine sound.passes found
    ⟨fun left member => ours left (mem_of_mem_dropLast member), fun network known touches => ?_⟩
  have other : rule ∉ network.forwardRules (supernetCidr supernet) := by
    intro mine
    have present : rule ∈ own (supernetCidr supernet) network existing := by
      simpa [own, mine] using mem_of_getLast? last
    rw [same network known touches] at present
    rw [table_of_mem mine] at missing
    exact missing (mem_of_mem_filter present)
  rw [sound.own_dropLast last known (same network known touches), own_erase_of_not_mem other]

end

theorem appends {rest : List IptablesRule} (stage : run.stage = .append (rule :: rest)) :
    Sound networks taps ((host.apply rule).setStage task run (.append rest)) := by
  have member := sound.members task run found
  have progress := sound.progress task run found
  simp only [Progress, stage] at progress
  obtain ⟨done, whole, reached⟩ := progress
  have further : (done ++ [rule]) ++ rest = run.network.generateSharedNatRules (supernetCidr supernet) := by
    rw [append_assoc]
    exact whole
  have mine : rule = run.network.masquerade ∨ rule ∈ run.network.forwardRules (supernetCidr supernet) := by
    have among : rule ∈ run.network.generateSharedNatRules (supernetCidr supernet) := by simp [← whole]
    exact mem_cons.mp among
  rcases mine with rfl | mine
  · have nothing : own (supernetCidr supernet) run.network [run.network.masquerade] = [] := by
      refine own_eq_nil fun rule same mine => ?_
      rw [mem_singleton.mp same] at mine
      cases table_of_mem mine
    refine sound.aside found (fun rule present => ?_) (fun _ => .inr) (fun _ _ => rfl)
      ⟨done ++ [run.network.masquerade], further, ?_⟩
    · rcases mem_append.mp present with old | new
      · exact sound.tidy.tables rule old
      · rw [mem_singleton.mp new]
        rfl
    · rw [own_append, nothing, append_nil, reached]
  · have others (network : NamedNetwork) (known : network ∈ networks.members)
      (differ : network ≠ run.network) :
      own (supernetCidr supernet) network (host.forward ++ [rule]) =
        own (supernetCidr supernet) network host.forward := by
      have nothing : own (supernetCidr supernet) network [rule] = [] := by
        refine own_eq_nil fun new same theirs => ?_
        rw [mem_singleton.mp same] at theirs
        exact differ (network_of_mem networks known member theirs mine)
      rw [own_append, nothing, append_nil]
    have mineNow : own (supernetCidr supernet) run.network (host.forward ++ [rule]) =
      own (supernetCidr supernet) run.network (done ++ [rule]) := by rw [own_append, own_append, reached]
    simp only [HostRules.apply, table_of_mem mine, withChain]
    refine sound.advance found ⟨sound.tidy.tables, fun new present => ?_, fun network known => ?_⟩
      (fun network known apart => others network known ?_) ⟨done ++ [rule], further, mineNow⟩
    · rcases mem_append.mp present with old | new
      · exact sound.tidy.known _ old
      · rw [mem_singleton.mp new]
        exact .inr (.inr ⟨run.network, member, mine⟩)
    · by_cases same : network = run.network
      · subst same
        change own _ run.network (host.forward ++ [rule]) <+: _
        rw [mineNow, ← own_generateSharedNatRules]
        exact IsPrefix.filter _ ⟨rest, further⟩
      · change own _ network (host.forward ++ [rule]) <+: _
        rw [others network known same]
        exact sound.tidy.ordered network known
    · rintro rfl
      exact apart (touches_self _)

theorem lists {natRules : List IptablesRule} (stage : run.stage = .listFilter natRules) :
    Sound networks taps
    (host.setStage task run (.delete (natRules ++ host.forward.filter (listed run.network)))) := by
  have progress := sound.progress task run found
  simp only [Progress, stage] at progress
  refine sound.passes found ⟨fun rule present => ?_, fun network known touches => ?_⟩
  · rcases mem_append.mp present with natRule | forwardRule
    · exact (progress rule natRule).1
    · exact of_mem_filter forwardRule
  · have nothing : own (supernetCidr supernet) network natRules = [] :=
      own_eq_nil fun rule natRule mine => nomatch (progress rule natRule).2.symm.trans (table_of_mem mine)
    rw [own_append, nothing, nil_append, own_filter_listed touches]

theorem deleteNext (stage : run.stage = .delete existing) (last : existing.getLast? = some rule)
    {fails : Bool} (noticed : fails = true → run.unchecked = false) :
    Sound networks taps (host.deleteNext task run existing rule fails) := by
  unfold HostRules.deleteNext
  split
  case isTrue => exact sound.deletes found stage last
  case isFalse failed =>
    cases purpose : run.purpose with
    | ensure => exact sound.finish task
    | cleanup =>
      have works : fails = false := by
        by_contra trouble
        have silent := noticed (by simpa using trouble)
        simp [NatRun.unchecked, purpose, stage] at silent
      exact sound.skips found stage last fun present => failed ⟨works, present⟩

theorem command {outcome : HostRules.Outcome} (noticed : outcome.fails = true → run.unchecked = false) :
    Sound networks taps (host.command (supernetCidr supernet) task run outcome) := by
  have progress := sound.progress task run found
  fun_cases HostRules.command (supernetCidr supernet) host task run outcome with
  | case2 | case3 | case4 => exact sound.passes found trivial
  | case5 => exact sound.removeHook found _
  | case8 => exact sound.insertHook found
  | case10 =>
    refine sound.passes found fun rule present => ?_
    exact ⟨of_mem_filter present, sound.tidy.tables rule (mem_of_mem_filter present)⟩
  | case13 _ stage => exact sound.lists found stage
  | case14 _ stage _ last => exact sound.deleteNext found stage last noticed
  | case15 _ stage _ last =>
    simp only [Progress, stage, getLast?_eq_none_iff.mp last] at progress
    have empty := progress.2 _ (sound.members task run found) (touches_self _)
    exact sound.passes found ⟨[], rfl, empty.symm⟩
  | case19 _ _ stage => exact sound.appends found stage
  | _ => exact sound.finish task

end

theorem step (sound : Sound networks taps host) (event : HostRules.Event)
    (concerns : Concerns networks event) (serial : Serial networks host event) :
    Sound networks taps (host.step (supernetCidr supernet) event) := by
  cases event with
  | ensure =>
    simp only [HostRules.step, ensureSharedBridgeNat]
    split
    · exact sound
    · exact sound.start concerns trivial serial
  | cleanup =>
    simp only [HostRules.step, cleanupSharedBridgeNat]
    split
    · exact sound
    · exact sound.start concerns trivial serial
  | turn =>
    simp only [HostRules.step, HostRules.turn]
    split
    case h_1 => exact sound
    case h_2 run found => exact sound.command found fun fails => serial fails run found
  | killed task => exact sound.finish task

end Sound

omit supernet networks taps in
private theorem natComment_ne (interface : Text) (network : NamedNetwork) :
    "visor-nat-".toList ++ interface ≠ network.comment := by
  intro same
  have nat : "visor-nat-".toList <+: network.comment := ⟨interface, same⟩
  have shared : "visor-sharednat-".toList <+: network.comment := ⟨network.bridge, rfl⟩
  have differ :
    ¬ ("visor-nat-".toList <+: "visor-sharednat-".toList ∨ "visor-sharednat-".toList <+:
    "visor-nat-".toList) := by
    decide +kernel
  exact differ ( prefix_or_prefix_of_prefix nat shared)

private theorem Preexisting.not_mem (preexisting : Preexisting taps rule) (network : NamedNetwork)
    (cidr : Cidr) : rule ∉ network.forwardRules cidr := by
  intro member
  cases preexisting with
  | foreign _ untagged => exact Bool.false_ne_true (untagged.symm.trans (isVisor_of_mem member))
  | tap interface subnet _ _ generated =>
    have comment := comment_of_mem member
    simp only [generateNatRules, mem_cons, not_mem_nil, or_false] at generated
    rcases generated with rfl | rfl | rfl | rfl <;> exact natComment_ne interface network
      (Option.some.inj comment)
  | portForward =>
    simp [forwardRules, buildPortForwardFilterRule, acceptInside, dropOthers, acceptAny,
      acceptReplies] at member

theorem Sound.new (tables : ∀ rule ∈ nat, rule.table = .nat)
    (preexisting : ∀ rule ∈ forward, Preexisting taps rule) :
    Sound networks taps (HostRules.new nat forward) where
  tidy :=
    { tables := tables
      known := fun rule present => .inr (.inl (preexisting rule present))
      ordered := by
        intro network _
        have nothing : own (supernetCidr supernet) network forward = [] :=
          own_eq_nil fun rule present => (preexisting rule present).not_mem network _
        rw [HostRules.new, nothing]
        exact nil_prefix }
  members _ _ found := nomatch found
  progress _ _ found := nomatch found
  apart _ _ _ _ found := nomatch found

/-- Before the rule that accepts all packets of a bridge stands the one that drops those for the
other networks. -/
theorem Tidy.dropOthers_mem {front rest : List IptablesRule} {network : NamedNetwork}
    (tidy : Tidy networks taps nat (front ++ network.acceptAny :: rest))
    (member : network ∈ networks.members) : network.dropOthers (supernetCidr supernet) ∈ front := by
  have mine : network.acceptAny ∈ network.forwardRules (supernetCidr supernet) := by simp [forwardRules]
  obtain ⟨missing, whole⟩ := tidy.ordered network member
  rw [append_cons, own_append, own_append, own_singleton mine, append_assoc, append_assoc] at whole
  -- `acceptAny` is the third of the network's rules, so two of them stand before it
  have present : network.dropOthers (supernetCidr supernet) ∈
    own (supernetCidr supernet) network front := by
    generalize own (supernetCidr supernet) network front = before at whole
    rcases before with _ | ⟨first, _ | ⟨second, others⟩⟩
    · cases (cons.inj whole).1
    · cases (cons.inj (cons.inj whole).2).1
    · rw [(cons.inj (cons.inj whole).2).1]
      simp
  exact mem_of_mem_filter present

theorem Preexisting.published {packet : Packet} (preexisting : Preexisting taps rule)
    (entered : packet.inInterface ∉ taps) (routed : packet.outInterface ∉ taps)
    (matched : rule.Matches packet) (accepts : rule.target = .accept)
    (visor : rule.isVisor = true) :
    ∃ protocol port comment, rule = buildPortForwardFilterRule protocol packet.destination port
    comment := by
  cases preexisting with
  | foreign _ untagged => exact absurd visor (Bool.not_eq_true _ ▸ untagged)
  | tap interface subnet _ known generated =>
    exfalso
    simp only [generateNatRules, mem_cons, not_mem_nil, or_false] at generated
    rcases generated with rfl | rfl | rfl | rfl
    · cases accepts
    · exact entered (by rw [matched.1 interface rfl]; exact known)
    · exact routed (by rw [matched.2.1 interface rfl]; exact known)
    · exact routed (by rw [matched.2.1 interface rfl]; exact known)
  | portForward protocol guestIp guestPort comment =>
    have address : packet.destination >>> 0 = guestIp >>> 0 := matched.2.2.2.2.1 ⟨guestIp, 32⟩ rfl
    simp only [BitVec.ushiftRight_zero] at address
    exact ⟨protocol, guestPort, comment, by rw [address]⟩

theorem Tidy.isolated (tidy : Tidy networks taps nat forward)
    (bridges : ∀ network ∈ networks.members, network.bridge ∉ taps) : Isolated networks taps forward := by
  rintro packet ⟨crossing⟩ rule first accepts visor
  obtain ⟨decides, front, rest, rfl, earlier⟩ := find?_eq_some_iff_append.mp first
  have matched : rule.Matches packet := (of_decide_eq_true decides).2
  rcases tidy.known rule (by simp) with rfl | preexisting | ⟨network, member, mine⟩
  · cases accepts
  · refine preexisting.published ?_ crossing.routed matched accepts visor
    rw [crossing.enters]
    exact bridges _ crossing.oneMember
  · exfalso
    have sameBridge (entered : packet.inInterface = network.bridge) : crossing.one = network :=
      networks.distinct _ crossing.oneMember _ member (crossing.enters.symm.trans entered)
    simp only [forwardRules, mem_cons, not_mem_nil, or_false] at mine
    rcases mine with rfl | rfl | rfl | rfl
    · have same := sameBridge (matched.1 network.bridge rfl)
      have here : network.subnet.Contains packet.destination := matched.2.2.2.2.1 network.subnet rfl
      exact networks.disjoint _ crossing.oneMember _ crossing.otherMember crossing.differ _
        (same ▸ here) crossing.addressed
    · cases accepts
    · have entered := matched.1 network.bridge rfl
      have dropped := earlier _ (tidy.dropOthers_mem member)
      have decided : (network.dropOthers (supernetCidr supernet)).Decides packet := by
        have covered := networks.inside _ crossing.otherMember _ crossing.addressed
        simp [Decides, Matches, dropOthers, Accords, entered, covered]
      simp [decided] at dropped
    · have replies := matched.2.2.2.2.2.2 rfl
      exact nomatch replies.symm.trans crossing.opens

end

/-- While no two runs at once touch one bridge, no rule of Visor accepts a new packet from one
named network to another one, whatever the order of the commands. -/
theorem networks_isolated {supernet : NamedNetworkSupernet} (networks : Networks supernet)
    (taps : List Text) (bridges : ∀ network ∈ networks.members, network.bridge ∉ taps)
    (nat forward : List IptablesRule) (tables : ∀ rule ∈ nat, rule.table = .nat)
    (preexisting : ∀ rule ∈ forward, Preexisting taps rule) (events : List HostRules.Event)
    (concerns : ∀ event ∈ events, Concerns networks event)
    (serial : Along (HostRules.step (supernetCidr supernet)) (Serial networks)
      (HostRules.new nat forward) events) : Throughout (HostRules.step (supernetCidr supernet))
    (fun host => Isolated networks taps host.forward) (HostRules.new nat forward) events := by
  have admitted := (along_of_forall concerns).and serial
  refine throughout_of_invariant (Sound networks taps) ?_ ?_ (Sound.new tables preexisting) admitted
  · rintro host event sound ⟨concern, apart⟩
    exact sound.step event concern apart
  · intro host sound
    exact sound.tidy.isolated bridges

/-- `100.64.1.0/24` and `100.64.2.0/24` -/
def frontNetwork : NamedNetwork := ⟨"vsrbr00000001".toList, ⟨0x64400100, 24⟩⟩
def backNetwork : NamedNetwork := ⟨"vsrbr00000002".toList, ⟨0x64400200, 24⟩⟩

theorem contains_of_narrower {address : U32} {narrow wide : Cidr}
    (wider : wide.prefixLen ≤ narrow.prefixLen ∧ narrow.prefixLen ≤ 32)
    (inside : wide.Contains narrow.base) (held : narrow.Contains address) : wide.Contains address := by
  obtain ⟨extra, bits⟩ : ∃ extra, 32 - wide.prefixLen = (32 - narrow.prefixLen) + extra :=
    ⟨narrow.prefixLen - wide.prefixLen, by omega⟩
  unfold Cidr.Contains at *
  rw [← inside, bits, BitVec.shiftRight_add, BitVec.shiftRight_add, held]

def twoNetworks : Networks .standard where
  members := [frontNetwork, backNetwork]
  distinct := by decide +kernel
  slash24 := by decide
  inside network member _ held := by
    have covered : ∀ network ∈ [frontNetwork, backNetwork],
      ((supernetCidr .standard).prefixLen ≤ network.subnet.prefixLen ∧
      network.subnet.prefixLen ≤ 32) ∧ (supernetCidr .standard).Contains network.subnet.base := by decide
    exact contains_of_narrower (covered network member).1 (covered network member).2 held
  disjoint one oneMember other otherMember differ address first second := by
    have bases : ∀ one ∈ [frontNetwork, backNetwork], ∀ other ∈ [frontNetwork, backNetwork],
      one ≠ other → ¬ one.subnet.Contains other.subnet.base := by decide +kernel
    have lengths : ∀ network ∈ [frontNetwork, backNetwork], network.subnet.prefixLen = 24 := by decide
    refine bases one oneMember other otherMember differ ?_
    unfold Cidr.Contains at *
    rw [lengths one oneMember] at first ⊢
    rw [lengths other otherMember] at second
    exact second.symm.trans first

/-- Both networks are set up at once, by commands in turn; then one is removed and set up again,
while a run for the other one is killed. -/
def orderlyRuns : List HostRules.Event :=
  .ensure 0 frontNetwork :: .ensure 1 backNetwork ::
    (replicate 14 [HostRules.Event.turn 0 ⟨false, false⟩, .turn 1 ⟨false, false⟩]).flatten ++
    .cleanup 2 frontNetwork :: .ensure 3 backNetwork ::
    (replicate 10 [HostRules.Event.turn 2 ⟨false, false⟩, .turn 3 ⟨false, false⟩]).flatten ++
    [.killed 3, .ensure 4 frontNetwork]

theorem orderlyRuns_isolated :
    Along (HostRules.step (supernetCidr .standard)) (Serial twoNetworks)
    (HostRules.new [] []) orderlyRuns ∧
    Throughout (HostRules.step (supernetCidr .standard))
    (fun host => Isolated twoNetworks [] host.forward) (HostRules.new [] []) orderlyRuns := by
  have serial : Along (HostRules.step (supernetCidr .standard)) (Serial twoNetworks)
    (HostRules.new [] []) orderlyRuns := by decide +kernel
  have concerns : ∀ event ∈ orderlyRuns, Concerns twoNetworks event := by decide +kernel
  exact ⟨serial, networks_isolated twoNetworks [] (fun _ _ => not_mem_nil) [] []
    (fun _ => not_mem_nil.elim) (fun _ => not_mem_nil.elim) orderlyRuns concerns serial⟩

/-- A cleanup has listed the rules of the bridge and deleted two of them when a guest starts on the
network. The run for the guest appends the rules anew, and the cleanup then deletes its third
rule, which is the new one that drops packets for other networks. -/
def overlappingRuns : List HostRules.Event :=
  .ensure 0 frontNetwork :: replicate 11 (.turn 0 ⟨false, false⟩) ++
    .cleanup 1 frontNetwork :: replicate 4 (.turn 1 ⟨false, false⟩) ++
    .ensure 2 frontNetwork :: replicate 11 (.turn 2 ⟨false, false⟩) ++
    [.turn 1 ⟨false, false⟩]

def crossingPacket : Packet where
  inInterface := frontNetwork.bridge
  outInterface := backNetwork.bridge
  source := 0x64400102
  destination := 0x64400202
  protocol := "tcp".toList
  port := 5432
  isNew := true

theorem cleanup_opens_network : ¬ Isolated twoNetworks []
    (run (HostRules.step (supernetCidr .standard)) (HostRules.new [] []) overlappingRuns).forward := by
  intro isolated
  have crossing : Crossing twoNetworks [] crossingPacket :=
    { one := frontNetwork
      other := backNetwork
      oneMember := by decide +kernel
      otherMember := by decide +kernel
      differ := by decide +kernel
      enters := rfl
      addressed := by decide
      routed := nofun
      opens := rfl }
  have decided : firstMatch (run (HostRules.step (supernetCidr .standard)) (HostRules.new [] [])
    overlappingRuns).forward crossingPacket = some frontNetwork.acceptAny := by decide +kernel
  obtain ⟨_, _, _, same⟩ := isolated crossingPacket ⟨crossing⟩ _ decided rfl (by decide +kernel)
  cases congrArg service same

end Visor.Net
