import CloudApi.Keyed
import CloudApi.Provider.Kind
import CloudApi.Text.Quoted

/-! # Settings of a session

Which provider a session talks to, the region, the configured addresses of services and the
credentials.  A context is made from values or from named variables. -/

namespace CloudApi

/-- A pair of keys. -/
structure Credentials where
  accessKey : String
  secretKey : String
deriving DecidableEq, Repr

/-- The description of credentials in diagnostics, which keeps the secret key out. -/
def Credentials.describe (c : Credentials) : String :=
  "Credentials \x7b access_key: " ++ Text.quoted c.accessKey ++
    ", secret_key: \"<redacted>\" \x7d"

/-- The settings of a session. -/
structure Context where
  provider : Provider
  region : Option String := none
  urls : Keyed String := []
  credentials : Option Credentials := none
deriving Repr

namespace Context

/-- Set the region. -/
def withRegion (c : Context) (region : String) : Context := { c with region := some region }

/-- Set the address of a service. -/
def withUrl (c : Context) (service url : String) : Context :=
  { c with urls := c.urls.set service url }

/-- Set the credentials. -/
def withCredentials (c : Context) (credentials : Credentials) : Context :=
  { c with credentials := some credentials }

/-- The configured address of a service. -/
def url? (c : Context) (service : String) : Option String := c.urls.get? service

/-- The settings for a region of the public cloud. -/
def ofRegion (region : String) : Context := withRegion { provider := .aws } region

/-- The settings for a private cloud's compute service at an address. -/
def ofComputeUrl (url : String) : Context := withUrl { provider := .eucalyptus } "ec2" url

/-- The settings for a query service at an address. -/
def ofQueryUrl (url : String) : Context := withUrl { provider := .cloudStack } "cloudstack" url

/-- The names of the variables that hold a provider's keys. -/
def keyVariables : Provider → String × String
  | .aws | .eucalyptus => ("AWS_ACCESS_KEY_ID", "AWS_SECRET_ACCESS_KEY")
  | .cloudStack => ("CLOUDSTACK_API_KEY", "CLOUDSTACK_SECRET_KEY")

/-- The settings that variables give: the region, or else the default region; the addresses; and
the credentials, if both keys are set. -/
def ofVariables (provider : Provider) (lookup : String → Option String) : Context :=
  let c : Context := { provider }
  let c := ((lookup "AWS_REGION").or (lookup "AWS_DEFAULT_REGION")).elim c c.withRegion
  let c := (lookup "EC2_URL").elim c (c.withUrl "ec2")
  let c := (lookup "CLOUDSTACK_API_URL").elim c (c.withUrl "cloudstack")
  -- one key alone is no pair, and is left out
  let (accessName, secretName) := keyVariables provider
  match lookup accessName, lookup secretName with
  | some accessKey, some secretKey => c.withCredentials ⟨accessKey, secretKey⟩
  | _, _ => c

end Context

end CloudApi
