import Mathlib.Algebra.GroupWithZero.Nat
import N0te.Library.Checking
import N0te.Library.PurePath
import N0te.Library.Ranking
import N0te.Library.Text
import N0te.Library.WorkList
import N0te.Platforms.PlatformRoots

/-!
# Looking for plugins

`scanRoot` looks through the directories under a root. What it recognizes as a plugin package is
observed and not looked into, links are not followed, and two bounds end the search: how many entries
are looked at and how deep directories lie.

A directory is the list of its entries in the order in which they are read, which ends or fails
(`Listing`). What the system says of an entry is asked for up to twice, and either time that may fail.
-/

set_option autoImplicit false
set_option relaxedAutoImplicit false

namespace N0te.Discovery

open Library Platforms

/-! ### Directories -/

/-- What an entry is that is no directory. -/
inductive LeafKind where
  | symlink
  | file
  | other
  deriving DecidableEq

/-- An entry of a directory. -/
structure EntryInfo where
  name : String
  /-- Whether asking what the entry is raises, the first time. -/
  kindFails : Bool
  /-- Whether it raises the second time. -/
  statFails : Bool
  deriving DecidableEq

/-- What `os.scandir` yields of a directory. -/
inductive Listing where
  /-- There are no more entries, or reading on raises. -/
  | done (readFails : Bool)
  | leaf (info : EntryInfo) (kind : LeafKind) (rest : Listing)
  | directory (info : EntryInfo) (children rest : Listing)
  deriving DecidableEq

/-- What `os.lstat` says of a root. -/
inductive RootNode where
  | missing
  | unreadable
  | symlink
  | other
  | directory (listing : Listing)

/-! ### Formats -/

/-- `DISCOVERY_FORMATS`. -/
inductive FormatKind where
  | vst3
  | au
  | aax
  | clap
  | lv2
  | ladspa
  deriving DecidableEq

def FormatKind.name : FormatKind → String
  | vst3 => "VST3"
  | au => "AU"
  | aax => "AAX"
  | clap => "CLAP"
  | lv2 => "LV2"
  | ladspa => "LADSPA"

/-- `_PACKAGE_SUFFIXES`. -/
def FormatKind.suffixes : FormatKind → List String
  | vst3 => [".vst3"]
  | au => [".component"]
  | aax => [".aaxplugin"]
  | clap => [".clap"]
  | lv2 => [".lv2"]
  | ladspa => [".so"]

/-- `_DIRECTORY_PACKAGE_FORMATS`. -/
def FormatKind.directoryOnly : FormatKind → Bool
  | au | aax | lv2 => true
  | _ => false

/-- `_FILE_PACKAGE_FORMATS`. -/
def FormatKind.fileOnly : FormatKind → Bool
  | ladspa => true
  | _ => false

/-- `_PLATFORM_FORMATS`. -/
def platformFormats : OsFamily → List FormatKind
  | .macos => [.vst3, .au, .aax, .clap]
  | .windows => [.vst3, .aax, .clap]
  | .linux => [.vst3, .clap, .lv2, .ladspa]

def familyName : OsFamily → String
  | .macos => "MACOS"
  | .windows => "WINDOWS"
  | .linux => "LINUX"

/-- `ROOT_SOURCES`. -/
inductive RootSource where
  | standard
  | environment
  | explicit
  deriving DecidableEq

/-- `ROOT_STATES`. -/
inductive RootState where
  | scanned
  | missing
  | unreadable
  | notDirectory
  | symlinkSkipped
  | boundedOut
  deriving DecidableEq

/-- `ARTIFACT_KINDS`. -/
inductive ArtifactKind where
  | bundle
  | file
  | symlink
  deriving DecidableEq

/-- `PluginSearchRoot`. -/
structure PluginSearchRoot where
  osFamily : OsFamily
  formatKind : FormatKind
  path : PurePath
  source : RootSource
  supported : formatKind ∈ platformFormats osFamily
  typed : path.flavour = osFamily.flavour ∧ path.absolute = true

/-- `PluginPackageObservation`: nothing but that a package is there. -/
structure PluginPackageObservation where
  osFamily : OsFamily
  formatKind : FormatKind
  packagePath : PurePath
  packageName : String
  rootPath : PurePath
  rootSource : RootSource
  artifactKind : ArtifactKind
  deriving DecidableEq

/-- `PluginRootObservation`. -/
structure PluginRootObservation where
  root : PluginSearchRoot
  state : RootState
  scannedEntries : ℕ
  packageCount : ℕ

/-! ### One root -/

/-- `PluginDiscoveryScanner`. -/
structure PluginDiscoveryScanner where
  maxEntriesPerRoot : ℕ
  maxDepth : ℕ
  /-- At least one entry may be looked at. -/
  positive : 1 ≤ maxEntriesPerRoot

/-- A directory that is still to be looked through, at some depth under the root. -/
structure Pending where
  /-- The names that lead to it from the root. -/
  directory : List String
  depth : ℕ
  listing : Listing

/-- The variables of `_scan_root`. -/
structure ScanState where
  /-- The end of the queue comes first. -/
  queue : List Pending
  found : List PluginPackageObservation
  scannedEntries : ℕ
  state : RootState
  bounded : Bool

section

variable (casefold : String → String)

/-- `_name_has_format_suffix`. -/
def nameHasFormatSuffix (name : String) (format : FormatKind) : Bool :=
  format.suffixes.any fun suffix ↦ suffix.toList.isSuffixOf (casefold name).toList

/-- The artifact that an entry is, if it is a package. -/
def leafArtifact (format : FormatKind) (name : String) (kind : LeafKind) : Option ArtifactKind :=
  if nameHasFormatSuffix casefold name format then
    match kind with
    | .symlink => some .symlink
    | .file => if format.directoryOnly then none else some .file
    | .other => none
  else none

/-- The artifact that a directory is, if it is a package. -/
def directoryArtifact (format : FormatKind) (name : String) : Option ArtifactKind :=
  if nameHasFormatSuffix casefold name format ∧ format.fileOnly = false then some .bundle else none

/-- `_entry_artifact_kind`, of what an entry is: nothing when that cannot be asked. -/
def entryArtifactKind (info : EntryInfo) (artifact : Option ArtifactKind) : Option ArtifactKind :=
  if info.kindFails then none else artifact

variable (scanner : PluginDiscoveryScanner) (root : PluginSearchRoot)

/-- The observation of a package. Its name has a suffix, so the constructor does not find it blank. -/
def packageOf (directory : List String) (name : String) (artifact : ArtifactKind) :
    PluginPackageObservation where
  osFamily := root.osFamily
  formatKind := root.formatKind
  packagePath := root.path.join (directory ++ [name])
  packageName := strip name
  rootPath := root.path
  rootSource := root.source
  artifactKind := artifact

/-- What is made of an entry that was counted. A directory comes with its listing. -/
def examine (directory : List String) (depth : ℕ) (info : EntryInfo)
    (artifact : Option ArtifactKind) (children : Option Listing) (s : ScanState) : ScanState :=
  match entryArtifactKind info artifact with
  | some kind => { s with found := s.found ++ [packageOf root directory info.name kind] }
  | none =>
    if info.statFails then
      { s with state := if s.state = .scanned then .unreadable else s.state }
    else
      match children with
      | none => s
      | some listing =>
        if depth < scanner.maxDepth then
          { s with queue := ⟨directory ++ [info.name], depth + 1, listing⟩ :: s.queue }
        else s

/-- The loop over the entries of a directory. -/
def scanListing (directory : List String) (depth : ℕ) : Listing → ScanState → ScanState
  | .done readFails, s =>
    if readFails = true ∧ s.state ≠ .boundedOut then { s with state := .unreadable } else s
  | .leaf info kind rest, s =>
    if scanner.maxEntriesPerRoot ≤ s.scannedEntries then
      { s with state := .boundedOut, bounded := true }
    else
      scanListing directory depth rest
        (examine scanner root directory depth info (leafArtifact casefold root.formatKind info.name kind)
          none { s with scannedEntries := s.scannedEntries + 1 })
  | .directory info children rest, s =>
    if scanner.maxEntriesPerRoot ≤ s.scannedEntries then
      { s with state := .boundedOut, bounded := true }
    else
      scanListing directory depth rest
        (examine scanner root directory depth info
          (directoryArtifact casefold root.formatKind info.name) (some children)
          { s with scannedEntries := s.scannedEntries + 1 })

/-- The loop over the queue, for so many directories. -/
def scanLoop : ℕ → ScanState → ScanState
  | 0, s => s
  | n + 1, s =>
    match s.queue with
    | [] => s
    | pending :: rest =>
      if s.bounded then s
      else
        scanLoop n (scanListing casefold scanner root pending.directory pending.depth pending.listing
          { s with queue := rest })

/-- How many directories there are in a listing. -/
def Listing.directories : Listing → ℕ
  | .done _ => 0
  | .leaf _ _ rest => rest.directories
  | .directory _ children rest => 1 + children.directories + rest.directories

/-- The variables before the loop. -/
def startScan (listing : Listing) : ScanState where
  queue := [⟨[], 0, listing⟩]
  found := []
  scannedEntries := 0
  state := .scanned
  bounded := false

/-- The variables after the loop. -/
def endScan (listing : Listing) : ScanState :=
  scanLoop casefold scanner root (listing.directories + 1) (startScan listing)

/-- `_root_result`. -/
def rootResult (state : RootState) (scannedEntries : ℕ) (packages : List PluginPackageObservation) :
    PluginRootObservation × List PluginPackageObservation :=
  (⟨root, state, scannedEntries, packages.length⟩, packages)

/-- `_scan_root`. -/
def scanRoot (node : RootNode) : PluginRootObservation × List PluginPackageObservation :=
  match node with
  | .missing => rootResult root .missing 0 []
  | .unreadable => rootResult root .unreadable 0 []
  | .symlink => rootResult root .symlinkSkipped 0 []
  | .other => rootResult root .notDirectory 0 []
  | .directory listing =>
    let s := endScan casefold scanner root listing
    rootResult root s.state s.scannedEntries s.found

end

/-! ### All roots -/

/-- A `PluginDiscoveryError`. -/
structure DiscoveryError where
  message : String
  deriving DecidableEq

/-- `PluginDiscoveryReport`. -/
structure PluginDiscoveryReport where
  roots : List PluginRootObservation
  packages : List PluginPackageObservation

section

variable (casefold : String → String)

/-- The text of a path as keys have it. -/
def pathText (family : OsFamily) (path : PurePath) : String :=
  match family with
  | .windows => casefold path.text
  | _ => path.text

/-- `_root_key`. -/
def rootKey (root : PluginSearchRoot) : OsFamily × FormatKind × String :=
  (root.osFamily, root.formatKind, pathText casefold root.osFamily root.path)

/-- `_package_key`. -/
def packageKey (package : PluginPackageObservation) : OsFamily × FormatKind × String :=
  (package.osFamily, package.formatKind, pathText casefold package.osFamily package.packagePath)

variable (scanner : PluginDiscoveryScanner) (currentOs : OsFamily) (disk : PurePath → RootNode)

/-- The roots in turn. -/
def scanRoots : List PluginSearchRoot →
    Except DiscoveryError (List (PluginRootObservation × List PluginPackageObservation))
  | [] => .ok []
  | root :: rest => do
    require (root.osFamily = currentOs) ⟨"cannot inspect a " ++ familyName root.osFamily ++
      " plug-in root from a " ++ familyName currentOs ++ " runtime"⟩
    let results ← scanRoots rest
    .ok (scanRoot casefold scanner root (disk root.path) :: results)

/-- `scan`. -/
def scan (roots : List PluginSearchRoot) : Except DiscoveryError PluginDiscoveryReport := do
  let results ← scanRoots casefold scanner currentOs disk (firstByKey (rootKey casefold) [] roots)
  let packages := firstByKey (packageKey casefold) [] (results.flatMap Prod.snd)
  .ok ⟨results.map Prod.fst, rankBy (fun package ↦ toLex (package.formatKind.name,
    pathText casefold package.osFamily package.packagePath)) packages⟩

end

end N0te.Discovery
