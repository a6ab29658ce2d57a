import Mathlib.Data.List.Infix
import Visor.Backend.GuestNetwork
import Visor.Library.KeyedMap
import Visor.Library.Run

/-! `ensure_shared_bridge_nat` and `cleanup_shared_bridge_nat`, one iptables command at a time. The
runs belong to any threads and processes, and no lock is held from one command to the next. -/

namespace Visor.Net
open Backend (Text Ipv4Addr NamedNetworkSupernet)
open Library

/-! A rule by what it matches, its target and its comment. Visor's rules carry a comment, and they are
found again by it. The first rule of FORWARD that matches a packet decides it. -/

structure Cidr where
  base : U32
  prefixLen : Nat
deriving DecidableEq

def Cidr.Contains (cidr : Cidr) (address : U32) : Prop :=
  address >>> (32 - cidr.prefixLen) = cidr.base >>> (32 - cidr.prefixLen)
deriving Decidable

def supernetCidr (supernet : NamedNetworkSupernet) : Cidr := ⟨supernet.base, supernet.prefixLen⟩

structure Packet where
  inInterface : Text
  outInterface : Text
  source : U32
  destination : U32
  protocol : Text
  port : U16
  /-- The packet opens a connection: its state is neither RELATED nor ESTABLISHED. -/
  isNew : Bool

inductive Table where
  | nat
  | filter
deriving DecidableEq

inductive Target where
  | accept
  | drop
  | masquerade
  /-- `-j DOCKER-USER`, the chain of the host's administrator, which ends with RETURN. -/
  | dockerUser
deriving DecidableEq

/-- A rule of POSTROUTING in the table `nat`, or of FORWARD in the table `filter`. -/
structure IptablesRule where
  table : Table
  inInterface : Option Text := none
  outInterface : Option Text := none
  /-- `! -o` -/
  notOutInterface : Option Text := none
  source : Option Cidr := none
  destination : Option Cidr := none
  /-- `-p` and `--dport` -/
  service : Option (Text × U16) := none
  /-- `-m state --state RELATED,ESTABLISHED` -/
  established : Bool := false
  target : Target
  comment : Option Text := none
deriving DecidableEq

/-- The condition of an option that the rule may not have. -/
def Accords {Value : Type} (option : Option Value) (holds : Value → Prop) : Prop :=
  ∀ value ∈ option, holds value

instance Accords.decidable {Value : Type} (option : Option Value) (holds : Value → Prop)
    [DecidablePred holds] : Decidable (Accords option holds) :=
  match option with
  | none => .isTrue nofun
  | some value => decidable_of_iff (holds value) (by simp [Accords])

namespace IptablesRule
variable (rule : IptablesRule) (packet : Packet)

def Matches : Prop :=
  Accords rule.inInterface (packet.inInterface = ·) ∧
    Accords rule.outInterface (packet.outInterface = ·) ∧
    Accords rule.notOutInterface (packet.outInterface ≠ ·) ∧
    Accords rule.source (·.Contains packet.source) ∧
    Accords rule.destination (·.Contains packet.destination) ∧
    Accords rule.service (· = (packet.protocol, packet.port)) ∧
    (rule.established = true → packet.isNew = false)
deriving Decidable

def Decides : Prop := rule.target ≠ .dockerUser ∧ rule.Matches packet
deriving Decidable

def isVisor : Bool := rule.comment.any ("visor-".toList <:+: ·)

end IptablesRule

def firstMatch (chain : List IptablesRule) (packet : Packet) : Option IptablesRule :=
  chain.find? fun rule => rule.Decides packet

def dockerUserHook : IptablesRule where
  table := .filter
  target := .dockerUser

/-- `VISOR_GUEST_SUPERNET`: `172.20.0.0/16` -/
def visorGuestSupernet : Cidr := ⟨0xac140000, 16⟩

def generateNatRules (interface : Text) (subnet : Cidr) : List IptablesRule :=
  let comment := some ("visor-nat-".toList ++ interface)
  [{ table := .nat, source := some subnet, notOutInterface := some interface,
     target := .masquerade, comment },
       { table := .filter, inInterface := some interface, target := .accept, comment },
    { table := .filter, outInterface := some interface, source := some visorGuestSupernet,
      target := .accept, comment },
        { table := .filter, outInterface := some interface, established := true, target :=
        .accept, comment }]

def buildPortForwardFilterRule (protocol : Text) (guestIp : U32) (guestPort : U16)
    (comment : Text) : IptablesRule where
  table := .filter
  service := some (protocol, guestPort)
  destination := some ⟨guestIp, 32⟩
  target := .accept
  comment := some comment

structure NamedNetwork where
  bridge : Text
  subnet : Cidr
deriving DecidableEq

namespace NamedNetwork
variable (supernet : Cidr) (network : NamedNetwork)

def comment : Text := "visor-sharednat-".toList ++ network.bridge

def masquerade (network : NamedNetwork) : IptablesRule where
  table := .nat
  source := some network.subnet
  notOutInterface := some network.bridge
  target := .masquerade
  comment := some network.comment

def acceptInside : IptablesRule where
  table := .filter
  inInterface := some network.bridge
  destination := some network.subnet
  target := .accept
  comment := some network.comment

def dropOthers : IptablesRule where
  table := .filter
  inInterface := some network.bridge
  destination := some supernet
  target := .drop
  comment := some network.comment

def acceptAny : IptablesRule where
  table := .filter
  inInterface := some network.bridge
  target := .accept
  comment := some network.comment

def acceptReplies : IptablesRule where
  table := .filter
  outInterface := some network.bridge
  established := true
  target := .accept
  comment := some network.comment

def forwardRules : List IptablesRule :=
  [network.acceptInside, network.dropOthers supernet, network.acceptAny, network.acceptReplies]

def generateSharedNatRules : List IptablesRule := network.masquerade :: network.forwardRules supernet

end NamedNetwork

inductive Stage where
  /-- List FORWARD, for the hook of DOCKER-USER. -/
  | hooks
  | removeHooks (count : Nat)
  | insertHook
  | listNat
  | listFilter (found : List IptablesRule)
  | delete (existing : List IptablesRule)
  | append (desired : List IptablesRule)

inductive Purpose where
  | ensure
  | cleanup
deriving DecidableEq

structure NatRun where
  network : NamedNetwork
  purpose : Purpose
  stage : Stage

structure HostRules where
  nat : List IptablesRule
  forward : List IptablesRule
  runs : KeyedMap Nat NatRun

/-- The comment of the network is in the rule's comment, so its runs take the rule for one of
theirs. An interface name is too short to hold the comment. -/
def listed (network : NamedNetwork) (rule : IptablesRule) : Bool :=
  rule.isVisor && rule.comment.any (network.comment <:+: ·)

namespace HostRules
def new (nat forward : List IptablesRule) : HostRules where
  nat := nat
  forward := forward
  runs := ∅

variable (supernet : Cidr) (host : HostRules) (task : Nat) (run : NatRun)

def chain : Table → List IptablesRule
  | .nat => host.nat
  | .filter => host.forward

def withChain (rules : List IptablesRule) : Table → HostRules
  | .nat => { host with nat := rules }
  | .filter => { host with forward := rules }

def apply (rule : IptablesRule) : HostRules := host.withChain (host.chain rule.table ++ [rule]) rule.table
def remove (rule : IptablesRule) : HostRules :=
  host.withChain ((host.chain rule.table).erase rule) rule.table

def setStage (stage : Stage) : HostRules :=
  { host with runs := host.runs.insert task { run with stage := stage } }

def finish : HostRules := { host with runs := host.runs.erase task }

/-- `docker_user_hook_repair_plan`: the hook stands once, and at the head. -/
def hookNormalized : Bool :=
  host.forward.count dockerUserHook = 1 && host.forward.head? = some dockerUserHook

def ensureSharedBridgeNat (network : NamedNetwork) : HostRules :=
  match host.runs.lookup task with
  | some _ => host
  | none => { host with runs := host.runs.insert task ⟨network, .ensure, .hooks⟩ }

def cleanupSharedBridgeNat (network : NamedNetwork) : HostRules :=
  match host.runs.lookup task with
  | some _ => host
  | none => { host with runs := host.runs.insert task ⟨network, .cleanup, .listNat⟩ }

/-- The next deletion. A run of `ensure` ends where it fails, one of `cleanup` goes on. -/
def deleteNext (existing : List IptablesRule) (rule : IptablesRule) (fails : Bool) : HostRules :=
  if fails = false ∧ rule ∈ host.chain rule.table then
    (host.remove rule).setStage task run (.delete existing.dropLast)
  else
    match run.purpose with
    | .ensure => host.finish task
    | .cleanup => host.setStage task run (.delete existing.dropLast)

structure Outcome where
  /-- The command fails, say for the lock of another iptables. -/
  fails : Bool
  /-- The rules are printed with their arguments in the order in which Visor gives them, so that a
  comparison of the texts can find them equal. -/
  verbatim : Bool

def command (outcome : Outcome) : HostRules :=
  match run.stage with
  | .hooks =>
    if outcome.fails then host.finish task
    else if host.hookNormalized then host.setStage task run .listNat
    else host.setStage task run (.removeHooks (host.forward.count dockerUserHook))
  | .removeHooks 0 => host.setStage task run .insertHook
  | .removeHooks (count + 1) =>
    if outcome.fails = false ∧ dockerUserHook ∈ host.forward then
      (host.remove dockerUserHook).setStage task run (.removeHooks count)
    else host.finish task
  | .insertHook =>
    if outcome.fails then host.finish task
    else (host.withChain (dockerUserHook :: host.forward) .filter).setStage task run .listNat
  | .listNat =>
    if outcome.fails then host.finish task
    else host.setStage task run (.listFilter (host.nat.filter (listed run.network)))
  | .listFilter found =>
    let existing := found ++ host.forward.filter (listed run.network)
    if outcome.fails then host.finish task
    else if run.purpose = .ensure ∧ outcome.verbatim = true ∧
      existing = run.network.generateSharedNatRules supernet then
      host.finish task
    else host.setStage task run (.delete existing)
  | .delete existing =>
    match existing.getLast?, run.purpose with
    | some rule, _ => host.deleteNext task run existing rule outcome.fails
    | none, .ensure => host.setStage task run (.append (run.network.generateSharedNatRules supernet))
    | none, .cleanup => host.finish task
  | .append [] => host.finish task
  | .append (rule :: rest) =>
    if outcome.fails then host.finish task
    else (host.apply rule).setStage task run (.append rest)

def turn (outcome : Outcome) : HostRules :=
  match host.runs.lookup task with
  | none => host
  | some run => host.command supernet task run outcome

inductive Event where
  | ensure (task : Nat) (network : NamedNetwork)
  | cleanup (task : Nat) (network : NamedNetwork)
  | turn (task : Nat) (outcome : Outcome)
  | killed (task : Nat)

def step (supernet : Cidr) (host : HostRules) : Event → HostRules
  | .ensure task network => host.ensureSharedBridgeNat task network
  | .cleanup task network => host.cleanupSharedBridgeNat task network
  | .turn task outcome => host.turn supernet task outcome
  | .killed task => host.finish task

end HostRules
end Visor.Net
