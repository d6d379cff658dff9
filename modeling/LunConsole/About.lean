/-!
# About the program

The names under which the program appears.
-/

set_option autoImplicit false

namespace LunConsole.About

/-- The name of the program. -/
def name : String := "fusion-access-reconciler"

/-- Its version. -/
def version : String := "0.1.0"

/-- The name under which it changes objects of the API server. -/
def fieldManager : String := name

/-- Where it serves the console unless told otherwise. -/
def restAddress : String := "0.0.0.0:8090"

end LunConsole.About
