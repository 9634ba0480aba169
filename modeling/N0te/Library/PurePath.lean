import Mathlib.Data.List.Basic

/-!
# Pure paths

A pure path is its parts, and nothing that is on a disk. The paths of Windows and the others are of two
classes.
-/

set_option autoImplicit false
set_option relaxedAutoImplicit false

namespace N0te.Library

/-- `PurePosixPath` and `PureWindowsPath`. -/
inductive PathFlavour where
  | posix
  | windows
  deriving DecidableEq

def PathFlavour.className : PathFlavour → String
  | posix => "PurePosixPath"
  | windows => "PureWindowsPath"

/-- What stands between two names. -/
def PathFlavour.separator : PathFlavour → String
  | posix => "/"
  | windows => "\\"

/-- A pure path. The first part of an absolute path is its anchor. -/
structure PurePath where
  flavour : PathFlavour
  /-- `is_absolute()`. -/
  absolute : Bool
  parts : List String
  deriving DecidableEq

/-- `path / name / …` for plain names. -/
def PurePath.join (path : PurePath) (names : List String) : PurePath :=
  { path with parts := path.parts ++ names }

/-- `str(path)` of an absolute path. -/
def PurePath.text (path : PurePath) : String :=
  path.parts.head?.getD "" ++ path.flavour.separator.intercalate path.parts.tail

end N0te.Library
