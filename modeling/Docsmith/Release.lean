-- SUMMARY: The release of the documentation generator.

/-!
# Release

The release that generated sites and the command line name.
-/

namespace Docsmith

/-- The release. -/
def release : String := "0.4.0"

/-- The name under which sites register. -/
def siteName : String := "cacaodocs"

end Docsmith
