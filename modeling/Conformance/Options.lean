/-!
# Options

Three positive limits govern a check: how deep it descends, how long a rendered value may be, and
how many containers deep a rendering goes.
-/

namespace Conformance

/-- The limits in effect. -/
structure Options where
  maxDepth : Nat := 100
  maxRenderLength : Nat := 200
  maxRenderDepth : Nat := 20
deriving DecidableEq, Repr

end Conformance
