import RenamePlan.Log.Tree
import RenamePlan.Profile.Basic

/-!
The logger of the package, set up as a profile asks.
-/

namespace RenamePlan

/-- Sets up the logger of the package at the level of the profile, which need not have been
checked. -/
def Profile.setupLogging (profile : Profile) (tree : LoggerTree) (files : FileSystem)
    (here : Surroundings) (logFile : Option Path) : LoggerTree.Change :=
  tree.setup files here (.text packageLogger) (profile.get .logLevel) logFile

end RenamePlan
