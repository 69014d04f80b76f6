import CloudApi.Capability.Basic
import CloudApi.Ec2.Names
import CloudApi.Ec2.Region

/-! # The compute service

Its descriptor, its capabilities, and the envelopes of the calls that belong to no capability.

* `mem_all_of_mem_definitions` each capability's filter names are those of a resource
* `build_firstHandler` what the first handler of a region of the public cloud is -/

namespace CloudApi.Ec2

/-- The name of the service. -/
def service : String := "ec2"

/-- The version in use unless a provider is pinned to another. -/
def currentVersion : Version := ⟨"20140615"⟩

/-- The newest version that the private cloud understands. -/
def pinnedVersion : Version := ⟨"20130201"⟩

/-- The versions that the service supports. -/
def versions : List Version :=
  [⟨"20121201"⟩, pinnedVersion, ⟨"20140201"⟩, currentVersion]

/-- A capability that takes identifiers and filters. -/
def define (name command idParam : String) (filters : FilterNames) : Definition :=
  { name, command, idParam := some idParam, filters := some filters }

/-- How volumes are described. -/
def volumeDefinition : Definition := define "volume" "DescribeVolumes" "VolumeId" Names.volumes

/-- The capabilities: how they are called, and how each resource is described. -/
def definitions : List Definition :=
  [define "availabilityZone" "DescribeAvailabilityZones" "ZoneName" Names.availabilityZones,
   define "securityGroup" "DescribeSecurityGroups" "GroupId" Names.securityGroups,
   define "instance" "DescribeInstances" "InstanceId" Names.instances,
   define "reservedInstance" "DescribeReservedInstances" "ReservedInstancesId"
    Names.reservedInstances,
   volumeDefinition,
   { name := "tag", command := "DescribeTags", filters := some Names.tags },
   define "image" "DescribeImages" "ImageId" Names.images,
   define "keyPair" "DescribeKeyPairs" "KeyName" Names.keyPairs,
   define "address" "DescribeAddresses" "PublicIp" Names.addresses,
   define "snapshot" "DescribeSnapshots" "SnapshotId" Names.snapshots,
   define "subnet" "DescribeSubnets" "SubnetId" Names.subnets,
   define "placementGroup" "DescribePlacementGroups" "GroupName" Names.placementGroups,
   define "vpc" "DescribeVpcs" "VpcId" Names.vpcs,
   define "networkInterface" "DescribeNetworkInterfaces" "NetworkInterfaceId"
    Names.networkInterfaces,
   define "internetGateway" "DescribeInternetGateways" "InternetGatewayId"
    Names.internetGateways,
   define "routeTable" "DescribeRouteTables" "RouteTableId" Names.routeTables]

/-- The capabilities have the filter names of every resource, in order. -/
theorem filterMap_filters_definitions : definitions.filterMap (·.filters) = Names.all := rfl

theorem mem_all_of_mem_definitions {d : Definition} (hd : d ∈ definitions) {names : FilterNames}
    (h : d.filters = some names) : names ∈ Names.all := by
  rw [← filterMap_filters_definitions]
  exact List.mem_filterMap.mpr ⟨d, hd, h⟩

/-- How the public host names of the service are made. -/
def dns : DnsPattern :=
  { host := service, suffix := defaultSuffix
    regionSuffixes := chinaRegions.map fun region => (region, chinaSuffix) }

/-- The description of the service. -/
def descriptor : Descriptor where
  name := service
  capabilities := definitions.map (·.name)
  versions := versions
  current := currentVersion
  pins := [(.eucalyptus, pinnedVersion)]
  dns := some dns
  current_mem := by simp [versions]
  pins_mem := by simp [versions]
  pins_nodup := by simp

/-- The service, as a provider speaks it. -/
def binding (provider : Provider) : Binding := ⟨descriptor, .ec2Query provider⟩

/-- The handler that is built first in a region of the public cloud. -/
def firstHandler (region : String) : Handler where
  serial := 0
  service := service
  version := currentVersion
  endpoint := ⟨dns.hostFor (some region)⟩
  protocol := .ec2Query .aws

theorem build_firstHandler (region : String) :
    Resolver.build { context := .ofRegion region } (binding .aws) currentVersion =
      .ok (firstHandler region) := rfl

/-- The capability of volumes with this handler. -/
def volumesIn (region : String) : Capability :=
  { definition := volumeDefinition, target := { handler := firstHandler region } }

/-- The envelope that asks for attributes of the account. -/
def accountAttributes (names : Loose) : Except ShapeError Envelope :=
  (names.toList String).map fun names =>
    Envelope.setList { command := "DescribeAccountAttributes" } "AttributeName" names

/-- The envelope that asks for the regions of the account. -/
def describeRegions : Envelope := { command := "DescribeRegions" }

end CloudApi.Ec2
