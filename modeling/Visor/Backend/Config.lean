import Visor.Machine.Words

/-!
# Configurations of virtual machines
-/

namespace Visor.Backend
abbrev Text := List Char

instance : LawfulBEq Text := inferInstance

def firstGuestCid : U32 := 3

inductive GuestVirtualizationMode where
  | standard
  | nested
deriving DecidableEq

structure PortMapping where
  hostPort : U16
  guestPort : U16
  protocol : Text
deriving DecidableEq

structure VolumeMount where
  hostPath : Text
  guestPath : Text
  readOnly : Bool
deriving DecidableEq

structure HostEntry where
  hostname : Text
  address : Text
deriving DecidableEq

structure ServicePort where
  port : U16
  protocol : Text
deriving DecidableEq

structure VmConfig where
  image : Text
  entrypoint : List Text
  cmd : List Text
  env : List Text
  workingDir : Option Text
  memoryMib : U32
  vcpus : U32
  processLimit : Option U64
  rootfsExtraSizeMib : Option U64
  name : Option Text
  ports : List PortMapping
  volumes : List VolumeMount
  extraHosts : List HostEntry
  networks : List Text
  serviceNames : List Text
  servicePorts : List ServicePort
  networkEnabled : Bool
  guestVirtualization : GuestVirtualizationMode
  detach : Bool
  mode : Option Text
deriving DecidableEq

def VmConfig.new (image : Text) : VmConfig where
  image := image
  entrypoint := []
  cmd := []
  env := []
  workingDir := none
  memoryMib := 512
  vcpus := 1
  processLimit := none
  rootfsExtraSizeMib := none
  name := none
  ports := []
  volumes := []
  extraHosts := []
  networks := []
  serviceNames := []
  servicePorts := []
  networkEnabled := true
  guestVirtualization := .standard
  detach := false
  mode := none

def VmConfig.needsForwards (config : VmConfig) : Bool :=
  !(config.ports.isEmpty && config.servicePorts.isEmpty)

end Visor.Backend
