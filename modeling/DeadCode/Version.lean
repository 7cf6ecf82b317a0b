/-!
# Version

The version that reports tell and that a cache has to agree with.
-/

namespace DeadCode
set_option autoImplicit false

/-- The version. -/
def version : String := "1.1.0"

/-- The name of the program in its reports. -/
def programName : String := "php-janitor"

end DeadCode
