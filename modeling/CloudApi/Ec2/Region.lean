import CloudApi.Text.Blank
import CloudApi.Text.Split

/-! # Regions of the public cloud

A region may be written with underscores, with blanks around it, and after a qualifier that ends
in a point. -/

namespace CloudApi.Ec2

/-- The regions that have a public endpoint. -/
def regions : List String :=
  ["ap-northeast-1", "ap-northeast-2", "ap-northeast-3", "ap-southeast-1", "ap-southeast-2",
   "ap-south-1", "us-east-1", "us-east-2", "us-west-1", "us-west-2", "eu-west-1", "eu-west-2",
   "eu-west-3", "eu-central-1", "eu-north-1", "ca-central-1", "sa-east-1", "cn-north-1"]

/-- The regions with a domain suffix of their own. -/
def chinaRegions : List String := ["cn-north-1"]

/-- The domain suffix of public host names. -/
def defaultSuffix : String := "amazonaws.com"

/-- The domain suffix of the regions with one of their own. -/
def chinaSuffix : String := "amazonaws.com.cn"

/-- A text that names no region. -/
structure InvalidRegion where
  region : String
deriving DecidableEq, Repr

/-- The wording of the error. -/
def InvalidRegion.message (e : InvalidRegion) : String :=
  "Invalid region '" ++ e.region ++ "', expected one of: " ++ Text.join ", " regions

/-- What stands after the last point. -/
def afterLastPoint (cs : List Char) : List Char :=
  (cs.reverse.takeWhile (· ≠ '.')).reverse

/-- The usual spelling of a region. -/
def normalizeRegion (s : String) : String :=
  String.ofList
    ((Text.trimList (afterLastPoint s.toList)).map fun c => if c = '_' then '-' else c)

/-- The region that a text names. -/
def validateRegion (s : String) : Except InvalidRegion String :=
  if normalizeRegion s ∈ regions then .ok (normalizeRegion s) else .error ⟨s⟩

end CloudApi.Ec2
