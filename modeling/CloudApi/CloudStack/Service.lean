import CloudApi.Capability.Basic

/-! # The query service

Its descriptor, its capabilities, and the envelopes of the calls that belong to no capability.
The service has no public endpoint. -/

namespace CloudApi.CloudStack

/-- The name of the service. -/
def service : String := "cloudstack"

/-- The version in use. -/
def currentVersion : Version := ⟨"4.5"⟩

/-- The versions that the service supports. -/
def versions : List Version := [⟨"4.2"⟩, currentVersion]

/-- The capabilities: machines are looked up by a list of identifiers, everything else by one. -/
def definitions : List Definition :=
  { name := "virtualMachine", command := "listVirtualMachines", idParam := some "ids" } ::
    [("volume", "listVolumes"), ("snapshot", "listSnapshots"),
     ("securityGroup", "listSecurityGroups"), ("zone", "listZones"), ("network", "listNetworks"),
     ("template", "listTemplates"), ("publicIpAddress", "listPublicIpAddresses"),
     ("sshKeyPair", "listSSHKeyPairs")].map fun (name, command) =>
      { name, command, idParam := some "id", singleId := true }

/-- The description of the service. -/
def descriptor : Descriptor where
  name := service
  capabilities := definitions.map (·.name)
  versions := versions
  current := currentVersion
  pins := []
  current_mem := by simp [versions]
  pins_mem := nofun
  pins_nodup := List.nodup_nil

/-- The service. -/
def binding : Binding := ⟨descriptor, .cloudStackQuery⟩

/-- The envelope that asks for the zones available to the caller. -/
def listZones : Envelope := Envelope.setScalar { command := "listZones" } "available" "true"

/-- The envelope that asks for the accounts, of one domain if it is given. -/
def listAccounts (domain : Option String) : Envelope :=
  (Envelope.setScalar { command := "listAccounts" } "listall" "true").setOptional "domainid" domain

end CloudApi.CloudStack
