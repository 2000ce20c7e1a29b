/-
Settings of a run, and where they come from.

Three things can be set: the language named on declaration blocks, the name shown
for a symbol without one, and the prefix that is taken off file paths. A prefix that
is not set is the working directory.
-/

set_option autoImplicit false

namespace SymbolDocs

/-- The settings. -/
structure Settings where
  /-- The language on fenced declarations. -/
  language : String := "swift"
  /-- What stands in for a missing name. -/
  placeholderName : String := "[NO NAME]"
  /-- What is taken off file paths. -/
  pathPrefix : Option String := none
  deriving DecidableEq, Repr

namespace Settings

/-- The settings that environment variables ask for. -/
def ofEnvironment (lookup : String → Option String) : Settings :=
  let usual : Settings := {}
  { language := (lookup "SOURCEDOCS_LANGUAGE").getD usual.language
    placeholderName := (lookup "SOURCEDOCS_NO_NAME").getD usual.placeholderName
    pathPrefix := lookup "SOURCEDOCS_PATH_PREFIX" }

/-- What is taken off file paths, given the working directory. -/
def resolvedPathPrefix (s : Settings) (workingDirectory : String) : String :=
  s.pathPrefix.getD workingDirectory

end Settings

end SymbolDocs
