import CloudApi.Text.Numeral

/-! # API versions

A revision of a service's interface, in compact form. -/

namespace CloudApi

/-- A version, such as `20140615`. -/
structure Version where
  text : String
deriving DecidableEq, Repr

namespace Version

/-- A version of eight digits as a date; any other version as it is. -/
def date (v : Version) : String :=
  let cs := v.text.toList
  if cs.length = 8 ∧ cs.all (Text.digitValue? · |>.isSome) then
    String.ofList (cs.take 4 ++ '-' :: (cs.drop 4).take 2 ++ '-' :: cs.drop 6)
  else v.text

end Version

end CloudApi
