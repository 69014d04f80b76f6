import CloudApi.Text.Blank
import CloudApi.Text.Split

/-! # Endpoints

Where requests go: a bare host, or a full address. -/

namespace CloudApi

/-- A host name or an address. -/
structure Endpoint where
  text : String
deriving DecidableEq, Repr

namespace Endpoint

/-- The endpoint of a configured address: slashes and spaces at its end are dropped. -/
def ofBaseUrl (url : String) : Endpoint :=
  ⟨String.ofList (Text.dropEnd (fun c => c = '/' || c = ' ') url.toList)⟩

/-- The endpoint names its scheme. -/
def hasScheme (e : Endpoint) : Bool := Text.occursIn "://".toList e.text.toList

/-- The address that requests are sent to; a bare host is reached over `https`. -/
def url (e : Endpoint) : String :=
  if e.hasScheme then e.text else "https://" ++ e.text ++ "/"

end Endpoint

end CloudApi
