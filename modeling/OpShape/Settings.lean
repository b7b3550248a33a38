/-
# `OpShape.Settings` — settings from the environment.

A setting is a word in a variable.  A few words mean that it is on; every other word means that it
is off, also a word that nobody has heard of.
-/

namespace OpShape.Settings

/-- Does a word mean that a setting is on? -/
def isOn (word : String) : Bool :=
  ["1", "true", "t", "yes", "y"].contains word

/-- Is a setting on?  A variable that is not set leaves it at its default. -/
def flag (value : Option String) (default : Bool) : Bool :=
  match value with
  | some word => isOn word
  | none => default

/-- The variable that asks for all that can be told about a run. -/
def verboseVariable : String := "RTEN_SHAPE_LIB_VERBOSE"

/-- Is everything told about a run? -/
def isVerbose (value : Option String) : Bool :=
  flag value false

end OpShape.Settings
