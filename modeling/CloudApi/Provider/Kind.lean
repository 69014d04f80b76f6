import CloudApi.Text.Case

/-! # Providers

The kinds of provider that a session can talk to, and how each of them locates a service. -/

namespace CloudApi

/-- A kind of provider. -/
inductive Provider where
  | aws
  /-- A private cloud that speaks the protocol of the first. -/
  | eucalyptus
  | cloudStack
deriving DecidableEq, Repr

/-- How a provider's services are located. -/
inductive EndpointStyle where
  /-- By a public host name made from the service and the region. -/
  | publicDns
  /-- By a configured address. -/
  | baseUrl
deriving DecidableEq, Repr

namespace Provider

/-- Every kind of provider. -/
def all : List Provider := [.aws, .eucalyptus, .cloudStack]

/-- The name of a provider. -/
def name : Provider → String
  | .aws => "aws"
  | .eucalyptus => "eucalyptus"
  | .cloudStack => "cloudstack"

/-- How a provider's services are located. -/
def endpointStyle : Provider → EndpointStyle
  | .aws => .publicDns
  | .eucalyptus | .cloudStack => .baseUrl

/-- The provider of this name, the case of ASCII letters aside. -/
def parse? (s : String) : Option Provider :=
  all.find? fun p => Text.sameIgnoringAsciiCase p.name s

/-- The provider of exactly this name. -/
def ofName? (s : String) : Option Provider := all.find? (·.name == s)

end Provider

end CloudApi
