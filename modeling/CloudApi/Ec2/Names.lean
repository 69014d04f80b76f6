import CloudApi.Ec2.Symbol
import CloudApi.Filter.Name

/-! # Filter names of the compute service

Each resource lists the wire texts of its filter names; their symbols follow from them.  A
resource with tags also takes the names made from tag keys. -/

namespace CloudApi.Ec2.Names

/-- The names of a resource that takes none but the listed ones. -/
def closed (resource : String) (texts : List String) : FilterNames :=
  { resource, listed := texts.map fun text => (toSymbol text, text), pattern := none }

/-- What is listed for every resource with tags. -/
def tagTexts : List String := ["tag:Name", "tag-key", "tag-value"]

/-- The names of a resource with tags. -/
def tagged (resource : String) (texts : List String) : FilterNames :=
  { closed resource (texts ++ tagTexts) with
    pattern := some (FilterNames.inScope FilterNames.tagScope) }

/-- The names for availability zones. -/
def availabilityZones : FilterNames :=
  closed "availabilityZone"
    ["message", "region-name", "state", "zone-name"]

/-- The names for security groups. -/
def securityGroups : FilterNames :=
  tagged "securityGroup"
    ["description", "group-id", "group-name", "ip-permission.cidr", "ip-permission.from-port",
     "ip-permission.group-id", "ip-permission.group-name", "ip-permission.protocol",
     "ip-permission.to-port", "ip-permission.user-id", "owner-id", "vpc-id"]

/-- The names for instances. -/
def instances : FilterNames :=
  tagged "instance"
    ["architecture", "availability-zone", "block-device-mapping.attach-time",
     "block-device-mapping.delete-on-termination", "block-device-mapping.device-name",
     "block-device-mapping.status", "block-device-mapping.volume-id", "client-token", "dns-name",
     "group-id", "group-name", "hypervisor", "image-id", "instance-id", "instance-lifecycle",
     "instance-state-code", "instance-state-name", "instance-type", "ip-address", "kernel-id",
     "key-name", "launch-index", "launch-time", "monitoring-state", "owner-id",
     "placement-group-name", "platform", "private-dns-name", "private-ip-address", "product-code",
     "ramdisk-id", "reason", "requester-id", "reservation-id", "root-device-name",
     "root-device-type", "source-dest-check", "spot-instance-request-id", "state-reason-code",
     "state-reason-message", "subnet-id", "tenancy", "virtualization-type", "vpc-id"]

/-- The names for reserved instances. -/
def reservedInstances : FilterNames :=
  tagged "reservedInstance"
    ["availability-zone", "duration", "end", "fixed-price", "instance-type",
     "product-description", "reserved-instances-id", "start", "state", "usage-price"]

/-- The names for volumes. -/
def volumes : FilterNames :=
  tagged "volume"
    ["attachment.attach-time", "attachment.delete-on-termination", "attachment.device",
     "attachment.instance-id", "attachment.status", "availability-zone", "create-time", "size",
     "snapshot-id", "status", "volume-id", "volume-type"]

/-- The names for tags. -/
def tags : FilterNames :=
  closed "tag"
    ["key", "resource-id", "resource-type", "value"]

/-- The names for images. -/
def images : FilterNames :=
  tagged "image"
    ["architecture", "block-device-mapping.delete-on-termination",
     "block-device-mapping.device-name", "block-device-mapping.snapshot-id",
     "block-device-mapping.volume-size", "block-device-mapping.volume-type", "description",
     "hypervisor", "image-id", "image-type", "is-public", "kernel-id", "manifest-location",
     "name", "owner-alias", "owner-id", "platform", "product-code", "product-code.type",
     "ramdisk-id", "root-device-name", "root-device-type", "state", "state-reason-code",
     "state-reason-message", "virtualization-type"]

/-- The names for key pairs. -/
def keyPairs : FilterNames :=
  closed "keyPair"
    ["fingerprint", "key-name"]

/-- The names for addresses. -/
def addresses : FilterNames :=
  closed "address"
    ["allocation-id", "association-id", "domain", "instance-id", "network-interface-id",
     "network-interface-owner-id", "private-ip-address", "public-ip"]

/-- The names for snapshots. -/
def snapshots : FilterNames :=
  tagged "snapshot"
    ["description", "owner-alias", "owner-id", "progress", "snapshot-id", "start-time", "status",
     "volume-id", "volume-size"]

/-- The names for subnets. -/
def subnets : FilterNames :=
  tagged "subnet"
    ["availability-zone", "available-ip-address-count", "cidr", "default-for-az", "state",
     "subnet-id", "vpc-id"]

/-- The names for placement groups. -/
def placementGroups : FilterNames :=
  closed "placementGroup"
    ["group-name", "state", "strategy"]

/-- The names for private networks. -/
def vpcs : FilterNames :=
  tagged "vpc"
    ["cidr", "dhcp-options-id", "is-default", "state", "vpc-id"]

/-- The names for network interfaces. -/
def networkInterfaces : FilterNames :=
  tagged "networkInterface"
    ["addresses.private-ip-address", "addresses.primary", "addresses.association.public-ip",
     "addresses.association.owner-id", "association.association-id", "association.allocation-id",
     "association.ip-owner-id", "association.public-ip", "association.public-dns-name",
     "attachment.attachment-id", "attachment.instance-id", "attachment.instance-owner-id",
     "attachment.device-index", "attachment.status", "attachment.attach.time",
     "attachment.delete-on-termination", "availability-zone", "description", "group-id",
     "group-name", "mac-address", "network-interface-id", "owner-id", "private-ip-address",
     "private-dns-name", "requester-id", "requester-managed", "source-dest-check", "status",
     "subnet-id", "vpc-id"]

/-- The names for internet gateways. -/
def internetGateways : FilterNames :=
  tagged "internetGateway"
    ["attachment.state", "attachment.vpc-id", "internet-gateway-id"]

/-- The names for route tables. -/
def routeTables : FilterNames :=
  tagged "routeTable"
    ["association.route-table-association-id", "association.route-table-id",
     "association.subnet-id", "association.main", "route-table-id",
     "route.destination-cidr-block", "route.gateway-id", "route.instance-id", "route.origin",
     "route.state", "route.vpc-peering-connection-id", "vpc-id"]

/-- The names of every resource. -/
def all : List FilterNames :=
  [availabilityZones, securityGroups, instances, reservedInstances, volumes, tags, images,
   keyPairs, addresses, snapshots, subnets, placementGroups, vpcs,
   networkInterfaces, internetGateways, routeTables]

/-- The names of the resource that is called so. -/
def ofResource? (resource : String) : Option FilterNames := all.find? (·.resource == resource)

end CloudApi.Ec2.Names
