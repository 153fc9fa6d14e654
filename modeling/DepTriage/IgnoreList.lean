import DepTriage.Text.Wildcard

/-! # Ignored packages -/

namespace DepTriage

/-- The patterns of the packages that are never scanned. -/
structure IgnoreList where
  patterns : List String := []
deriving DecidableEq, Repr, Inhabited

/-- Whether a pattern of the list stands for a package's name. -/
def IgnoreList.covers (ignore : IgnoreList) (name : String) : Bool :=
  ignore.patterns.any fun pattern => Text.matchesWildcard pattern.toList name.toList

end DepTriage
