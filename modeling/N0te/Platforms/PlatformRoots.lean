import N0te.Library.PurePath

/-!
# Application roots

The roots of an application on the systems that have any, and the class of the paths there.
-/

set_option autoImplicit false
set_option relaxedAutoImplicit false

namespace N0te.Platforms

open Library

/-- The families that have application roots. -/
inductive OsFamily where
  | macos
  | windows
  | linux
  deriving DecidableEq

def OsFamily.flavour : OsFamily → PathFlavour
  | windows => .windows
  | _ => .posix

/-- `PlatformRoots`. -/
structure PlatformRoots where
  osFamily : OsFamily
  dataRoot : PurePath
  configRoot : PurePath
  stateRoot : PurePath
  cacheRoot : PurePath
  logRoot : PurePath
  /-- The roots are absolute paths of the family. -/
  typed : ∀ path ∈ [dataRoot, configRoot, stateRoot, cacheRoot, logRoot],
    path.flavour = osFamily.flavour ∧ path.absolute = true

/-- `profile_data_root`. -/
def PlatformRoots.profileDataRoot (roots : PlatformRoots) (profileId : String) : PurePath :=
  roots.dataRoot.join ["profiles", profileId]

end N0te.Platforms
