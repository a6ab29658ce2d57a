import Visor.Backend.GuestNetwork
import Visor.Library.KeyedMap
import Visor.Library.Run

/-! Forward and reverse names. The reverse map has one name for an address, so taking a name away
also takes the reverse entry of every other name that shares the address. -/

namespace Visor.Compose
open Backend Library

abbrev DnsRegistry := KeyedMap Text Ipv4Addr

namespace DnsRegistry
variable (lowercase : Text → Text) (registry : DnsRegistry) (name : Text)

def register (address : Ipv4Addr) : DnsRegistry := registry.insert (lowercase name) address
def unregister : DnsRegistry := registry.erase (lowercase name)
def resolve : Option Ipv4Addr := registry.lookup (lowercase name)

end DnsRegistry

end Visor.Compose

namespace Visor.Net
open Backend (Text Ipv4Addr)
open Library

structure DnsRegistry where
  forward : Compose.DnsRegistry := ∅
  reverse : KeyedMap Ipv4Addr Text := ∅

inductive DnsCall where
  | register (name : Text) (ip : Ipv4Addr)
  | unregister (name : Text)

namespace DnsCall
def name : DnsCall → Text
  | register name _ | unregister name => name

/-- Where the name leads after the call. -/
def target : DnsCall → Option Ipv4Addr
  | register _ ip => some ip
  | unregister _ => none

end DnsCall

namespace DnsRegistry
variable (lowercase : Text → Text) (registry : DnsRegistry)

def withoutReverse : Option Ipv4Addr → KeyedMap Ipv4Addr Text
  | some ip => registry.reverse.erase ip
  | none => registry.reverse

def register (name : Text) (ip : Ipv4Addr) : DnsRegistry where
  forward := registry.forward.register lowercase name ip
  reverse := (registry.withoutReverse (registry.forward.lookup (lowercase name))).insert ip (lowercase name)

def unregister (name : Text) : DnsRegistry where
  forward := registry.forward.unregister lowercase name
  reverse := registry.withoutReverse (registry.forward.lookup (lowercase name))

def resolve (name : Text) : Option Ipv4Addr := registry.forward.resolve lowercase name
def reverseLookup (ip : Ipv4Addr) : Option Text := registry.reverse.lookup ip

def step : DnsCall → DnsRegistry
  | .register name ip => registry.register lowercase name ip
  | .unregister name => registry.unregister lowercase name

/-- The reverse map names exactly the addresses that names resolve to. -/
structure Consistent : Prop where
  named : ∀ ip name, registry.reverseLookup ip = some name → registry.resolve lowercase name = some ip
  unnamed : ∀ ip, registry.reverseLookup ip = none → ∀ name, registry.resolve lowercase name ≠ some ip

/-- No other name has the address that the call takes from its name. -/
def Spares (call : DnsCall) : Prop :=
  ∀ ip other, registry.resolve lowercase call.name = some ip → lowercase other ≠ lowercase call.name →
    registry.resolve lowercase other = some ip → call.target = some ip

theorem resolve_step (call : DnsCall) (other : Text) :
    (registry.step lowercase call).resolve lowercase other =
    if lowercase other = lowercase call.name then call.target else registry.resolve lowercase other := by
  cases call with
  | register name ip => exact KeyedMap.lookup_insert_eq ..
  | unregister name => exact KeyedMap.lookup_erase_eq ..

private theorem lookup_withoutReverse (old : Option Ipv4Addr) (ip : Ipv4Addr) :
    (registry.withoutReverse old).lookup ip = if old = some ip then none else
    registry.reverseLookup ip := by
  cases old with
  | none => rfl
  | some old => simp [withoutReverse, reverseLookup, eq_comm]

theorem reverseLookup_step (call : DnsCall) (ip : Ipv4Addr) :
    (registry.step lowercase call).reverseLookup ip =
    if call.target = some ip then some (lowercase call.name)
    else if registry.resolve lowercase call.name = some ip then none else registry.reverseLookup ip := by
  have erased := lookup_withoutReverse registry (registry.resolve lowercase call.name) ip
  cases call with
  | register name target =>
    refine (KeyedMap.lookup_insert_eq ..).trans ?_
    rw [← erased]
    simp [DnsCall.target, DnsCall.name, eq_comm, resolve, Compose.DnsRegistry.resolve]
  | unregister name => exact erased

variable {lowercase registry} {call : DnsCall}
  (idempotent : ∀ name, lowercase (lowercase name) = lowercase name)
include idempotent in
theorem Consistent.step (consistent : registry.Consistent lowercase)
    (spares : registry.Spares lowercase call) : (registry.step lowercase call).Consistent lowercase where
  named ip name found := by
    have before := consistent.named ip name
    have same : lowercase name = lowercase call.name →
      registry.resolve lowercase name = registry.resolve lowercase call.name :=
        congrArg registry.forward.lookup
    rw [reverseLookup_step] at found
    rw [resolve_step]
    grind
  unnamed ip absent name := by
    have before := consistent.unnamed ip
    have shared := spares ip name
    rw [reverseLookup_step] at absent
    rw [resolve_step]
    grind

theorem Consistent.spares (after : (registry.step lowercase call).Consistent lowercase) :
    registry.Spares lowercase call := by
  intro ip other held apart shares
  by_contra moved
  refine after.unnamed ip ?_ other ?_
  · rw [reverseLookup_step, if_neg moved, if_pos held]
  · rw [resolve_step, if_neg apart, shares]

include idempotent in
theorem dns_consistent_iff (calls : List DnsCall) :
    Throughout (step lowercase) (Consistent lowercase) {} calls ↔
    Along (step lowercase) (Spares lowercase) {} calls :=
  throughout_iff_along (Consistent lowercase)
    (fun _ _ consistent (_ : True) => consistent.step idempotent) (fun _ => id)
      (fun _ _ _ => Consistent.spares)
    ⟨fun _ _ found => by simp [reverseLookup] at found,
      fun _ _ _ => by simp [resolve, Compose.DnsRegistry.resolve]⟩
    (along_of_always _ _ fun _ _ => trivial)

theorem two_names_consistent :
    Throughout (step id) (Consistent id)
    {} [.register ['a'] ⟨172, 20, 0, 2⟩, .register ['b'] ⟨172, 20, 0, 2⟩,
      .register ['a'] ⟨172, 20, 0, 2⟩] := by
  refine (dns_consistent_iff (fun _ => rfl) _).mpr ⟨?_, ?_, ?_, trivial⟩
  · rintro ip other ⟨⟩
  · rintro ip other ⟨⟩
  · exact fun ip other held _ _ => held

theorem shared_address_forgotten :
    ¬ Throughout (step (List.map Char.toLower)) (Consistent (List.map Char.toLower))
    {} [.register ['A'] ⟨172, 20, 0, 2⟩, .register ['b'] ⟨172, 20, 0, 2⟩, .unregister ['a']] := by
  rintro ⟨_, _, _, after⟩
  exact after.unnamed ⟨172, 20, 0, 2⟩ (by decide +kernel) ['b'] (by decide +kernel)

end DnsRegistry
end Visor.Net
