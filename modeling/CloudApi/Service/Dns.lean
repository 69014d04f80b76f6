import CloudApi.Keyed

/-! # Public host names

The host name of a service is its own label, the region and a domain suffix; a few regions have a
suffix of their own. -/

namespace CloudApi

/-- How the public host names of a service are made. -/
structure DnsPattern where
  host : String
  suffix : String
  /-- The regions with a suffix of their own. -/
  regionSuffixes : Keyed String := []
deriving DecidableEq, Repr

namespace DnsPattern

/-- The domain suffix of a region. -/
def suffixFor (p : DnsPattern) (region : String) : String :=
  (p.regionSuffixes.get? region).getD p.suffix

/-- The host name for a region.  Without a region, or for the empty one, the region's label is
left out. -/
def hostFor (p : DnsPattern) : Option String → String
  | none => p.host ++ "." ++ p.suffix
  | some region =>
    if region = "" then p.host ++ "." ++ p.suffix
    else p.host ++ "." ++ region ++ "." ++ p.suffixFor region

end DnsPattern

end CloudApi
