import N0te.Discovery.PluginScan

/-!
# What a scan reports

A scan takes directories off a stack until none is left or the bound of entries is reached
(`scanLoop_spec`). When neither the bound nor a failure is in the way, it takes off exactly the
directories that it leads itself to, and then it reports them as scanned.

`ScanComplete` says that what was scanned are all directories that are not in a package nor behind a
link, and that the packages in these are what was found. A directory that lies too deep is left out
without a word, and so is a package when the first question about it fails: `scan_complete_iff` says
that nothing else goes wrong.
-/

set_option autoImplicit false
set_option relaxedAutoImplicit false

namespace N0te.Discovery

open Library Platforms

/-! ### One directory -/

/-- How many entries a directory has, as far as it can be read. -/
def Listing.entries : Listing → ℕ
  | .done _ => 0
  | .leaf _ _ rest => rest.entries + 1
  | .directory _ _ rest => rest.entries + 1

section

variable (casefold : String → String) (scanner : PluginDiscoveryScanner) (root : PluginSearchRoot)

def observationOf (directory : List String) (info : EntryInfo) (artifact : Option ArtifactKind) :
    List PluginPackageObservation :=
  ((entryArtifactKind info artifact).map (packageOf root directory info.name)).toList

/-- An entry that cannot be told to be no directory. -/
def failsOf (info : EntryInfo) (artifact : Option ArtifactKind) : Bool :=
  (entryArtifactKind info artifact).isNone && info.statFails

/-- A directory that is to be looked through. -/
def pendingOf (directory : List String) (depth : ℕ) (info : EntryInfo)
    (artifact : Option ArtifactKind) (children : Listing) : List Pending :=
  if entryArtifactKind info artifact = none ∧ info.statFails = false ∧ depth < scanner.maxDepth then
    [⟨directory ++ [info.name], depth + 1, children⟩]
  else []

def packagesHere (directory : List String) : Listing → List PluginPackageObservation
  | .done _ => []
  | .leaf info kind rest =>
    observationOf root directory info (leafArtifact casefold root.formatKind info.name kind) ++
      packagesHere directory rest
  | .directory info _ rest =>
    observationOf root directory info (directoryArtifact casefold root.formatKind info.name) ++
      packagesHere directory rest

/-- Whether a failure is noticed in a directory. -/
def failsHere : Listing → Bool
  | .done readFails => readFails
  | .leaf info kind rest =>
    failsOf info (leafArtifact casefold root.formatKind info.name kind) || failsHere rest
  | .directory info _ rest =>
    failsOf info (directoryArtifact casefold root.formatKind info.name) || failsHere rest

def subdirectories (directory : List String) (depth : ℕ) : Listing → List Pending
  | .done _ => []
  | .leaf _ _ rest => subdirectories directory depth rest
  | .directory info children rest =>
    pendingOf scanner directory depth info (directoryArtifact casefold root.formatKind info.name)
      children ++ subdirectories directory depth rest

/-- The directories that a directory leads to, and those that they lead to. -/
def below (directory : List String) (depth : ℕ) : Listing → List Pending
  | .done _ => []
  | .leaf _ _ rest => below directory depth rest
  | .directory info children rest =>
    (pendingOf scanner directory depth info (directoryArtifact casefold root.formatKind info.name)
      children).flatMap (fun pending ↦
        pending :: below (directory ++ [info.name]) (depth + 1) children) ++
      below directory depth rest

/-- What a directory leads to. -/
def Pending.next (pending : Pending) : List Pending :=
  subdirectories casefold scanner root pending.directory pending.depth pending.listing

/-- A directory and all that it leads to. -/
def Pending.whole (pending : Pending) : List Pending :=
  pending :: below casefold scanner root pending.directory pending.depth pending.listing

def Pending.packages (pending : Pending) : List PluginPackageObservation :=
  packagesHere casefold root pending.directory pending.listing

/-- Whether a failure is noticed in it. -/
def Pending.fails (pending : Pending) : Bool := failsHere casefold root pending.listing

variable {casefold scanner root} {directory : List String} {depth : ℕ} {listing : Listing}
  {info : EntryInfo} {artifact : Option ArtifactKind} {s : ScanState}

theorem below_eq (directory : List String) (depth : ℕ) (listing : Listing) :
    below casefold scanner root directory depth listing =
      (subdirectories casefold scanner root directory depth listing).flatMap
        (Pending.whole casefold scanner root) := by
  induction listing generalizing directory depth with
  | done => rfl
  | leaf _ _ _ ih => exact ih directory depth
  | directory info children rest ihChildren ih =>
    rw [below, subdirectories, List.flatMap_append, ih]
    unfold pendingOf
    split_ifs
    · rfl
    · rfl

variable (casefold scanner root) in
theorem isWhole : IsWhole (Pending.next casefold scanner root)
    (Pending.whole casefold scanner root) := fun pending ↦ by
  rw [Pending.whole, below_eq, Pending.next]

variable (casefold scanner root) in
theorem length_below_le (directory : List String) (depth : ℕ) (listing : Listing) :
    (below casefold scanner root directory depth listing).length ≤ listing.directories := by
  induction listing generalizing directory depth with
  | done => exact Nat.le_refl _
  | leaf _ _ _ ih => exact ih directory depth
  | directory info children rest ihChildren ih =>
    have hchildren := ihChildren (directory ++ [info.name]) (depth + 1)
    have hrest := ih directory depth
    rw [below, Listing.directories, pendingOf]
    split_ifs
    · simp only [List.flatMap_cons, List.flatMap_nil, List.append_nil, List.length_append,
        List.length_cons]
      omega
    · simp only [List.flatMap_nil, List.nil_append]
      omega

/-! ### The loop over a directory -/

/-- A scan that no bound has ended. -/
def ScanState.Going (s : ScanState) : Prop :=
  s.bounded = false ∧ (s.state = .scanned ∨ s.state = .unreadable)

/-- What was made of an entry. -/
structure Examined (s t : ScanState) (pushed : List Pending)
    (observed : List PluginPackageObservation) (counted : ℕ) (fails : Bool) : Prop where
  queue : t.queue = pushed ++ s.queue
  found : t.found = s.found ++ observed
  scannedEntries : t.scannedEntries = s.scannedEntries + counted
  going : t.Going
  state : t.state = .scanned ↔ s.state = .scanned ∧ fails = false

variable (scanner root directory depth info artifact s) in
theorem examine_leaf (hgoing : s.Going) :
    Examined s (examine scanner root directory depth info artifact none s) []
      (observationOf root directory info artifact) 0 (failsOf info artifact) := by
  obtain ⟨hbounded, hstate⟩ := hgoing
  unfold examine observationOf failsOf
  cases hkind : entryArtifactKind info artifact with
  | some kind => exact ⟨rfl, rfl, rfl, ⟨hbounded, hstate⟩, by simp⟩
  | none =>
    cases hfails : info.statFails with
    | true =>
      refine ⟨rfl, (List.append_nil _).symm, rfl, ⟨hbounded, ?_⟩, ?_⟩
      · rcases hstate with h | h <;> simp [h]
      · rcases hstate with h | h <;> simp [h]
    | false => exact ⟨rfl, (List.append_nil _).symm, rfl, ⟨hbounded, hstate⟩, by simp⟩

variable (scanner root directory depth info artifact s) in
theorem examine_directory (children : Listing) (hgoing : s.Going) :
    Examined s (examine scanner root directory depth info artifact (some children) s)
      (pendingOf scanner directory depth info artifact children)
      (observationOf root directory info artifact) 0 (failsOf info artifact) := by
  have hleaf := examine_leaf scanner root directory depth info artifact s hgoing
  unfold examine pendingOf at *
  cases hkind : entryArtifactKind info artifact with
  | some kind => simpa [hkind] using hleaf
  | none =>
    cases hfails : info.statFails with
    | true => simpa [hkind, hfails] using hleaf
    | false =>
      by_cases hdepth : depth < scanner.maxDepth
      · simp only [hkind, hfails, hdepth] at hleaf ⊢
        exact ⟨rfl, hleaf.found, hleaf.scannedEntries, hleaf.going, hleaf.state⟩
      · simpa [hkind, hfails, hdepth] using hleaf

variable (casefold scanner root directory depth) in
/-- A directory whose entries are within the bound is looked through. -/
theorem scanListing_within (hgoing : s.Going)
    (hbound : s.scannedEntries + listing.entries ≤ scanner.maxEntriesPerRoot) :
    Examined s (scanListing casefold scanner root directory depth listing s)
      (subdirectories casefold scanner root directory depth listing).reverse
      (packagesHere casefold root directory listing) listing.entries
      (failsHere casefold root listing) := by
  induction listing generalizing s with
  | done readFails =>
    obtain ⟨hbounded, hstate⟩ := hgoing
    have hnot : s.state ≠ .boundedOut := by rcases hstate with h | h <;> simp [h]
    cases readFails with
    | false => exact ⟨rfl, (List.append_nil _).symm, rfl, ⟨hbounded, hstate⟩, by simp [scanListing, failsHere]⟩
    | true =>
      simp only [scanListing, hnot, ne_eq, not_false_eq_true, and_self, if_true]
      exact ⟨rfl, (List.append_nil _).symm, rfl, ⟨hbounded, .inr rfl⟩, by simp [failsHere]⟩
  | leaf info kind rest ih =>
    rw [Listing.entries] at hbound
    rw [scanListing, if_neg (by omega)]
    have hentry := examine_leaf scanner root directory depth info
      (leafArtifact casefold root.formatKind info.name kind)
      { s with scannedEntries := s.scannedEntries + 1 } hgoing
    have hrest := ih hentry.going (by rw [hentry.scannedEntries]; simp only; omega)
    constructor
    · rw [hrest.queue, hentry.queue]
      rfl
    · rw [hrest.found, hentry.found, packagesHere, List.append_assoc]
    · rw [hrest.scannedEntries, hentry.scannedEntries, Listing.entries]
      simp only
      omega
    · exact hrest.going
    · rw [hrest.state, hentry.state, failsHere, Bool.or_eq_false_iff, and_assoc]
  | directory info children rest _ ih =>
    rw [Listing.entries] at hbound
    rw [scanListing, if_neg (by omega)]
    have hentry := examine_directory scanner root directory depth info
      (directoryArtifact casefold root.formatKind info.name)
      { s with scannedEntries := s.scannedEntries + 1 } children hgoing
    have hrest := ih hentry.going (by rw [hentry.scannedEntries]; simp only; omega)
    constructor
    · rw [hrest.queue, hentry.queue, subdirectories, List.reverse_append, List.append_assoc]
      unfold pendingOf
      split_ifs <;> rfl
    · rw [hrest.found, hentry.found, packagesHere, List.append_assoc]
    · rw [hrest.scannedEntries, hentry.scannedEntries, Listing.entries]
      simp only
      omega
    · exact hrest.going
    · rw [hrest.state, hentry.state, failsHere, Bool.or_eq_false_iff, and_assoc]

/-- A scan that the bound has ended. -/
structure ScanState.Ended (scanner : PluginDiscoveryScanner) (s : ScanState) : Prop where
  bounded : s.bounded = true
  state : s.state = .boundedOut
  scannedEntries : s.scannedEntries ≤ scanner.maxEntriesPerRoot

variable (casefold scanner root directory depth) in
/-- A directory with more entries than the bound allows ends the scan. -/
theorem scanListing_beyond (hgoing : s.Going) (hmax : s.scannedEntries ≤ scanner.maxEntriesPerRoot)
    (hbound : scanner.maxEntriesPerRoot < s.scannedEntries + listing.entries) :
    (scanListing casefold scanner root directory depth listing s).Ended scanner := by
  induction listing generalizing s with
  | done =>
    rw [Listing.entries] at hbound
    omega
  | leaf info kind rest ih =>
    rw [Listing.entries] at hbound
    rw [scanListing]
    by_cases hfull : scanner.maxEntriesPerRoot ≤ s.scannedEntries
    · rw [if_pos hfull]
      exact ⟨rfl, rfl, hmax⟩
    · rw [if_neg hfull]
      have hentry := examine_leaf scanner root directory depth info
        (leafArtifact casefold root.formatKind info.name kind)
        { s with scannedEntries := s.scannedEntries + 1 } hgoing
      have hcounted := hentry.scannedEntries
      simp only at hcounted
      exact ih hentry.going (by omega) (by omega)
  | directory info children rest _ ih =>
    rw [Listing.entries] at hbound
    rw [scanListing]
    by_cases hfull : scanner.maxEntriesPerRoot ≤ s.scannedEntries
    · rw [if_pos hfull]
      exact ⟨rfl, rfl, hmax⟩
    · rw [if_neg hfull]
      have hentry := examine_directory scanner root directory depth info
        (directoryArtifact casefold root.formatKind info.name)
        { s with scannedEntries := s.scannedEntries + 1 } children hgoing
      have hcounted := hentry.scannedEntries
      simp only at hcounted
      exact ih hentry.going (by omega) (by omega)

end

/-! ### The loop over the queue -/

section

variable (casefold : String → String) (scanner : PluginDiscoveryScanner) (root : PluginSearchRoot)

/-- The directories that the loop takes off the queue. -/
def visits : ℕ → ScanState → List Pending
  | 0, _ => []
  | n + 1, s =>
    match s.queue with
    | [] => []
    | pending :: rest =>
      if s.bounded then []
      else
        pending :: visits n (scanListing casefold scanner root pending.directory pending.depth
          pending.listing { s with queue := rest })

def entriesOf (directories : List Pending) : ℕ :=
  (directories.map fun pending ↦ pending.listing.entries).sum

variable {casefold scanner root} {s : ScanState}

theorem scanLoop_nil {n : ℕ} (hqueue : s.queue = []) :
    scanLoop casefold scanner root n s = s ∧ visits casefold scanner root n s = [] := by
  cases n with
  | zero => exact ⟨rfl, rfl⟩
  | succ n => rw [scanLoop, visits, hqueue]; exact ⟨rfl, rfl⟩

theorem scanLoop_cons {n : ℕ} {pending : Pending} {rest : List Pending} (hgoing : s.Going)
    (hqueue : s.queue = pending :: rest) :
    let t := scanListing casefold scanner root pending.directory pending.depth pending.listing
      { s with queue := rest }
    scanLoop casefold scanner root (n + 1) s = scanLoop casefold scanner root n t ∧
      visits casefold scanner root (n + 1) s = pending :: visits casefold scanner root n t := by
  have hnot : ¬ s.bounded = true := by
    rw [hgoing.1]
    decide
  rw [scanLoop, visits, hqueue]
  exact ⟨if_neg hnot, if_neg hnot⟩

theorem scanLoop_ended (h : s.Ended scanner) (n : ℕ) : scanLoop casefold scanner root n s = s := by
  cases n with
  | zero => rfl
  | succ n =>
    rw [scanLoop]
    split
    · rfl
    · rw [if_pos h.bounded]

variable (casefold root) in
/-- What was made of some directories. -/
structure Worked (s t : ScanState) (directories : List Pending) : Prop where
  found : t.found = s.found ++ directories.flatMap (Pending.packages casefold root)
  scannedEntries : t.scannedEntries = s.scannedEntries + entriesOf directories
  going : t.Going
  state : t.state = .scanned ↔ s.state = .scanned ∧
    ∀ pending ∈ directories, pending.fails casefold root = false

theorem worked_nil (hgoing : s.Going) : Worked casefold root s s [] :=
  ⟨(List.append_nil _).symm, rfl, hgoing, by simp⟩

theorem entriesOf_cons (pending : Pending) (rest : List Pending) :
    entriesOf (pending :: rest) = pending.listing.entries + entriesOf rest := by
  rw [entriesOf, List.map_cons, List.sum_cons, entriesOf]

variable (casefold scanner root) in
/-- One step of the loop within the bound. -/
theorem scanListing_step (pending : Pending) (rest : List Pending) (hgoing : s.Going)
    (hbound : s.scannedEntries + pending.listing.entries ≤ scanner.maxEntriesPerRoot) :
    let t := scanListing casefold scanner root pending.directory pending.depth pending.listing
      { s with queue := rest }
    t.queue = (pending.next casefold scanner root).reverse ++ rest ∧
      Worked casefold root s t [pending] := by
  have hstart : ({ s with queue := rest } : ScanState).Going := hgoing
  have hstep := scanListing_within casefold scanner root pending.directory pending.depth hstart hbound
  refine ⟨hstep.queue, ?_, ?_, hstep.going, ?_⟩
  · rw [hstep.found, List.flatMap_cons, List.flatMap_nil, List.append_nil]
    rfl
  · rw [hstep.scannedEntries, entriesOf_cons]
    rfl
  · rw [hstep.state, List.forall_mem_singleton]
    rfl

theorem Worked.cons {t u : ScanState} {pending : Pending} {rest : List Pending}
    (h : Worked casefold root s t [pending]) (hrest : Worked casefold root t u rest) :
    Worked casefold root s u (pending :: rest) := by
  constructor
  · rw [hrest.found, h.found, List.flatMap_cons, List.flatMap_cons, List.flatMap_nil,
      List.append_nil, List.append_assoc]
  · rw [hrest.scannedEntries, h.scannedEntries, entriesOf_cons, entriesOf_cons, Nat.add_assoc]
    rfl
  · exact hrest.going
  · rw [hrest.state, h.state, List.forall_mem_singleton, List.forall_mem_cons, and_assoc]

/-- Within the bound the loop looks through what it takes off the queue. -/
theorem scanLoop_within {n : ℕ} (hgoing : s.Going)
    (hbound : s.scannedEntries + entriesOf (popped (Pending.next casefold scanner root) n s.queue) ≤
      scanner.maxEntriesPerRoot) :
    visits casefold scanner root n s = popped (Pending.next casefold scanner root) n s.queue ∧
      Worked casefold root s (scanLoop casefold scanner root n s)
        (popped (Pending.next casefold scanner root) n s.queue) := by
  induction n generalizing s with
  | zero => exact ⟨rfl, worked_nil hgoing⟩
  | succ n ih =>
    rcases hqueue : s.queue with _ | ⟨pending, rest⟩
    · rw [(scanLoop_nil hqueue).1, (scanLoop_nil hqueue).2]
      exact ⟨rfl, worked_nil hgoing⟩
    · rw [(scanLoop_cons hgoing hqueue).1, (scanLoop_cons hgoing hqueue).2]
      rw [hqueue, popped, entriesOf_cons] at hbound
      obtain ⟨hpushed, hworked⟩ :=
        scanListing_step casefold scanner root pending rest hgoing (by omega)
      have hcounted := hworked.scannedEntries
      rw [entriesOf_cons, entriesOf, List.map_nil, List.sum_nil, Nat.add_zero] at hcounted
      obtain ⟨hvisits, hrest⟩ := ih hworked.going (by rwa [hpushed, hcounted, Nat.add_assoc])
      rw [hpushed] at hvisits hrest
      rw [popped, hvisits]
      exact ⟨rfl, hworked.cons hrest⟩

/-- Beyond the bound the loop ends. -/
theorem scanLoop_beyond {n : ℕ} (hgoing : s.Going)
    (hmax : s.scannedEntries ≤ scanner.maxEntriesPerRoot)
    (hbound : scanner.maxEntriesPerRoot <
      s.scannedEntries + entriesOf (popped (Pending.next casefold scanner root) n s.queue)) :
    (scanLoop casefold scanner root n s).Ended scanner := by
  induction n generalizing s with
  | zero =>
    simp only [popped, entriesOf, List.map_nil, List.sum_nil] at hbound
    omega
  | succ n ih =>
    rcases hqueue : s.queue with _ | ⟨pending, rest⟩
    · simp only [hqueue, popped, entriesOf, List.map_nil, List.sum_nil] at hbound
      omega
    · rw [(scanLoop_cons hgoing hqueue).1]
      rw [hqueue, popped, entriesOf_cons] at hbound
      by_cases hhere : s.scannedEntries + pending.listing.entries ≤ scanner.maxEntriesPerRoot
      · obtain ⟨hpushed, hworked⟩ :=
          scanListing_step casefold scanner root pending rest hgoing hhere
        have hcounted := hworked.scannedEntries
        rw [entriesOf_cons, entriesOf, List.map_nil, List.sum_nil, Nat.add_zero] at hcounted
        refine ih hworked.going (hcounted ▸ hhere) ?_
        rw [hpushed, hcounted, Nat.add_assoc]
        exact hbound
      · have hstart : ({ s with queue := rest } : ScanState).Going := hgoing
        have hended := scanListing_beyond casefold scanner root pending.directory pending.depth
          hstart hmax (not_le.mp hhere)
        rwa [scanLoop_ended hended]

/-- With as many steps as there are directories, the loop comes to an end. -/
theorem scanLoop_terminates {n : ℕ} (hgoing : s.Going)
    (hmax : s.scannedEntries ≤ scanner.maxEntriesPerRoot)
    (hn : (s.queue.flatMap (Pending.whole casefold scanner root)).length ≤ n) :
    (scanLoop casefold scanner root n s).queue = [] ∨
      (scanLoop casefold scanner root n s).bounded = true := by
  induction n generalizing s with
  | zero =>
    refine .inl ?_
    rcases hqueue : s.queue with _ | ⟨pending, rest⟩
    · exact hqueue
    · rw [hqueue, List.flatMap_cons, Pending.whole, List.cons_append, List.length_cons] at hn
      omega
  | succ n ih =>
    rcases hqueue : s.queue with _ | ⟨pending, rest⟩
    · exact .inl (by rw [(scanLoop_nil hqueue).1, hqueue])
    · rw [(scanLoop_cons hgoing hqueue).1]
      by_cases hhere : s.scannedEntries + pending.listing.entries ≤ scanner.maxEntriesPerRoot
      · obtain ⟨hpushed, hworked⟩ :=
          scanListing_step casefold scanner root pending rest hgoing hhere
        have hcounted := hworked.scannedEntries
        rw [entriesOf_cons, entriesOf, List.map_nil, List.sum_nil, Nat.add_zero] at hcounted
        refine ih hworked.going (hcounted ▸ hhere) ?_
        have hpush := flatMap_push (isWhole casefold scanner root) pending rest
        rw [hqueue] at hn
        rw [hpushed]
        omega
      · have hstart : ({ s with queue := rest } : ScanState).Going := hgoing
        have hended := scanListing_beyond casefold scanner root pending.directory pending.depth
          hstart hmax (not_le.mp hhere)
        rw [scanLoop_ended hended]
        exact .inr hended.bounded

end

/-! ### What there is -/

/-- The names of the entries of a directory. -/
def Listing.names : Listing → List String
  | .done _ => []
  | .leaf info _ rest => info.name :: rest.names
  | .directory info _ rest => info.name :: rest.names

/-- No two entries of a directory have one name. -/
def Listing.Distinct : Listing → Prop
  | .done _ => True
  | .leaf info _ rest => info.name ∉ rest.names ∧ rest.Distinct
  | .directory info children rest => info.name ∉ rest.names ∧ children.Distinct ∧ rest.Distinct

section

variable (casefold : String → String) (scanner : PluginDiscoveryScanner) (root : PluginSearchRoot)

/-- The directories under a directory that are not in a package nor behind a link. -/
def openBelow (directory : List String) : Listing → List (List String)
  | .done _ => []
  | .leaf _ _ rest => openBelow directory rest
  | .directory info children rest =>
    (if directoryArtifact casefold root.formatKind info.name = none then
      (directory ++ [info.name]) :: openBelow (directory ++ [info.name]) children else []) ++
      openBelow directory rest

/-- The packages under a directory that are not in a package nor behind a link. -/
def packagesUnder (directory : List String) : Listing → List PluginPackageObservation
  | .done _ => []
  | .leaf info kind rest =>
    ((leafArtifact casefold root.formatKind info.name kind).map
      (packageOf root directory info.name)).toList ++ packagesUnder directory rest
  | .directory info children rest =>
    (match directoryArtifact casefold root.formatKind info.name with
      | some artifact => [packageOf root directory info.name artifact]
      | none => packagesUnder (directory ++ [info.name]) children) ++ packagesUnder directory rest

/-- Whether the first question about some package among these fails. -/
def misread : Listing → Bool
  | .done _ => false
  | .leaf info kind rest =>
    (leafArtifact casefold root.formatKind info.name kind).isSome && info.kindFails || misread rest
  | .directory info children rest =>
    (match directoryArtifact casefold root.formatKind info.name with
      | some _ => info.kindFails
      | none => misread children) || misread rest

/-- What a scan observes in a directory and in all that it leads itself to. -/
def observed (directory : List String) (depth : ℕ) (listing : Listing) :
    List PluginPackageObservation :=
  (Pending.whole casefold scanner root ⟨directory, depth, listing⟩).flatMap
    (Pending.packages casefold root)

variable {casefold scanner root} {directory : List String} {depth : ℕ}

theorem observed_eq (listing : Listing) : observed casefold scanner root directory depth listing =
    packagesHere casefold root directory listing ++
      (below casefold scanner root directory depth listing).flatMap
        (Pending.packages casefold root) := rfl

theorem observed_leaf (info : EntryInfo) (kind : LeafKind) (rest : Listing) :
    observed casefold scanner root directory depth (.leaf info kind rest) =
      observationOf root directory info (leafArtifact casefold root.formatKind info.name kind) ++
        observed casefold scanner root directory depth rest := by
  rw [observed_eq, observed_eq, packagesHere, below, List.append_assoc]

theorem observed_directory (info : EntryInfo) (children rest : Listing) :
    (observed casefold scanner root directory depth (.directory info children rest)).Perm
      (observationOf root directory info (directoryArtifact casefold root.formatKind info.name) ++
        ((pendingOf scanner directory depth info
            (directoryArtifact casefold root.formatKind info.name) children).flatMap
          (fun _ ↦ observed casefold scanner root (directory ++ [info.name]) (depth + 1) children) ++
        observed casefold scanner root directory depth rest)) := by
  rw [observed_eq, observed_eq rest, packagesHere, below, List.append_assoc]
  refine .append_left _ ?_
  have hchildren : ((pendingOf scanner directory depth info
      (directoryArtifact casefold root.formatKind info.name) children).flatMap (fun pending ↦
        pending :: below casefold scanner root (directory ++ [info.name]) (depth + 1)
          children)).flatMap (Pending.packages casefold root) =
      (pendingOf scanner directory depth info
        (directoryArtifact casefold root.formatKind info.name) children).flatMap (fun _ ↦
          observed casefold scanner root (directory ++ [info.name]) (depth + 1) children) := by
    unfold pendingOf
    split_ifs
    · simp only [List.flatMap_cons, List.flatMap_nil, List.append_nil]
      rfl
    · rfl
  rw [List.flatMap_append, hchildren, ← List.append_assoc, ← List.append_assoc]
  exact List.perm_append_comm.append_right _

/-! ### Where packages are -/

variable (root directory) in
/-- A package is under a directory, within an entry with one of some names. -/
def Within (names : List String) (package : PluginPackageObservation) : Prop :=
  ∃ name ∈ names, ∃ more, package.packagePath = root.path.join (directory ++ name :: more)

theorem join_injective {a b : List String} (h : root.path.join a = root.path.join b) : a = b :=
  List.append_cancel_left (congrArg PurePath.parts h)

theorem Within.ne {names others : List String} {package other : PluginPackageObservation}
    (h : Within root directory names package) (hother : Within root directory others other)
    (hapart : ∀ name ∈ names, name ∉ others) : other.packagePath ≠ package.packagePath := by
  obtain ⟨name, hname, more, hpath⟩ := h
  obtain ⟨name', hname', more', hpath'⟩ := hother
  intro hsame
  have hparts := List.append_cancel_left (join_injective (hpath'.symm.trans (hsame.trans hpath)))
  rw [List.cons.injEq] at hparts
  exact hapart name hname (hparts.1 ▸ hname')

theorem within_packageOf (name : String) (artifact : ArtifactKind) :
    Within root directory [name] (packageOf root directory name artifact) :=
  ⟨name, List.mem_singleton_self _, [], rfl⟩

theorem within_of_child {name : String} {names : List String} {package : PluginPackageObservation}
    (h : Within root (directory ++ [name]) names package) :
    Within root directory [name] package := by
  obtain ⟨child, -, more, hpath⟩ := h
  exact ⟨name, List.mem_singleton_self _, child :: more, by rw [hpath, List.append_assoc]; rfl⟩

theorem Within.mono {names others : List String} {package : PluginPackageObservation}
    (h : Within root directory names package) (hsubset : names ⊆ others) :
    Within root directory others package := by
  obtain ⟨name, hname, more, hpath⟩ := h
  exact ⟨name, hsubset hname, more, hpath⟩

theorem within_observationOf {info : EntryInfo} {artifact : Option ArtifactKind}
    {package : PluginPackageObservation} (h : package ∈ observationOf root directory info artifact) :
    Within root directory [info.name] package := by
  rw [observationOf, Option.mem_toList, Option.map_eq_some_iff] at h
  obtain ⟨kind, -, rfl⟩ := h
  exact within_packageOf info.name kind

theorem within_observed {listing : Listing} {package : PluginPackageObservation}
    (h : package ∈ observed casefold scanner root directory depth listing) :
    Within root directory listing.names package := by
  induction listing generalizing directory depth with
  | done => cases h
  | leaf info kind rest ih =>
    rw [observed_leaf, List.mem_append] at h
    rcases h with h | h
    · exact (within_observationOf h).mono (List.cons_subset_cons _ (List.nil_subset _))
    · exact (ih h).mono (List.subset_cons_self _ _)
  | directory info children rest ihChildren ih =>
    rw [(observed_directory info children rest).mem_iff, List.mem_append, List.mem_append,
      List.mem_flatMap] at h
    obtain h | ⟨_, -, h⟩ | h := h
    · exact (within_observationOf h).mono (List.cons_subset_cons _ (List.nil_subset _))
    · exact (within_of_child (ihChildren h)).mono (List.cons_subset_cons _ (List.nil_subset _))
    · exact (ih h).mono (List.subset_cons_self _ _)

theorem within_packagesUnder {listing : Listing} {package : PluginPackageObservation}
    (h : package ∈ packagesUnder casefold root directory listing) :
    Within root directory listing.names package := by
  induction listing generalizing directory with
  | done => cases h
  | leaf info kind rest ih =>
    rw [packagesUnder, List.mem_append, Option.mem_toList, Option.map_eq_some_iff] at h
    obtain ⟨artifact, -, rfl⟩ | h := h
    · exact (within_packageOf info.name artifact).mono
        (List.cons_subset_cons _ (List.nil_subset _))
    · exact (ih h).mono (List.subset_cons_self _ _)
  | directory info children rest ihChildren ih =>
    rw [packagesUnder, List.mem_append] at h
    rcases h with h | h
    · refine Within.mono ?_ (List.cons_subset_cons _ (List.nil_subset _))
      split at h
      · rw [List.mem_singleton.mp h]
        exact within_packageOf info.name _
      · exact within_of_child (ihChildren h)
    · exact (ih h).mono (List.subset_cons_self _ _)

/-- The packages within one entry are not among those within others. -/
theorem nodup_of_within {name : String} {heads rest : List PluginPackageObservation}
    {names : List String} (hheads : (heads.map PluginPackageObservation.packagePath).Nodup)
    (hrest : (rest.map PluginPackageObservation.packagePath).Nodup) (hname : name ∉ names)
    (hwithin : ∀ package ∈ heads, Within root directory [name] package)
    (hothers : ∀ package ∈ rest, Within root directory names package) :
    ((heads ++ rest).map PluginPackageObservation.packagePath).Nodup := by
  rw [List.map_append, List.nodup_append]
  refine ⟨hheads, hrest, ?_⟩
  simp only [List.forall_mem_map]
  intro head hhead other hother
  refine ((hwithin head hhead).ne (hothers other hother) ?_).symm
  exact List.forall_mem_singleton.mpr hname

/-- No package is among those under a directory twice. -/
theorem nodup_packagesUnder {listing : Listing} (hdistinct : listing.Distinct) :
    ((packagesUnder casefold root directory listing).map
      PluginPackageObservation.packagePath).Nodup := by
  induction listing generalizing directory with
  | done => exact List.nodup_nil
  | leaf info kind rest ih =>
    obtain ⟨hname, hrest⟩ := hdistinct
    refine nodup_of_within ?_ (ih hrest) hname (fun package hpackage ↦ ?_) fun _ ↦ within_packagesUnder
    · cases leafArtifact casefold root.formatKind info.name kind <;> simp
    · rw [Option.mem_toList, Option.map_eq_some_iff] at hpackage
      obtain ⟨artifact, -, rfl⟩ := hpackage
      exact within_packageOf info.name artifact
  | directory info children rest ihChildren ih =>
    obtain ⟨hname, hchildren, hrest⟩ := hdistinct
    refine nodup_of_within ?_ (ih hrest) hname (fun package hpackage ↦ ?_) fun _ ↦ within_packagesUnder
    · split
      · exact List.nodup_singleton _
      · exact ihChildren hchildren
    · split at hpackage
      · rw [List.mem_singleton.mp hpackage]
        exact within_packageOf info.name _
      · exact within_of_child (within_packagesUnder hpackage)

/-! ### What is left out -/

variable (scanner directory depth) in
/-- A package about which the first question fails is not observed. -/
theorem exists_not_observed {listing : Listing} (hdistinct : listing.Distinct)
    (h : misread casefold root listing = true) :
    ∃ package ∈ packagesUnder casefold root directory listing,
      ∀ other ∈ observed casefold scanner root directory depth listing,
        other.packagePath ≠ package.packagePath := by
  induction listing generalizing directory depth with
  | done => cases h
  | leaf info kind rest ih =>
    obtain ⟨hname, hrest⟩ := hdistinct
    rw [misread, Bool.or_eq_true, Bool.and_eq_true] at h
    rw [observed_leaf, packagesUnder]
    rcases h with ⟨hpackage, hfails⟩ | h
    · obtain ⟨artifact, hartifact⟩ := Option.isSome_iff_exists.mp hpackage
      refine ⟨packageOf root directory info.name artifact, by simp [hartifact], ?_⟩
      have hnone : observationOf root directory info
          (leafArtifact casefold root.formatKind info.name kind) = [] := by
        simp [observationOf, entryArtifactKind, hfails]
      rw [hnone, List.nil_append]
      exact fun other hother ↦ (within_packageOf info.name artifact).ne (within_observed hother)
        (List.forall_mem_singleton.mpr hname)
    · obtain ⟨package, hpackage, hall⟩ := ih directory depth hrest h
      refine ⟨package, List.mem_append_right _ hpackage, fun other hother ↦ ?_⟩
      rcases List.mem_append.mp hother with hother | hother
      · exact ((within_observationOf hother).ne (within_packagesUnder hpackage)
          (List.forall_mem_singleton.mpr hname)).symm
      · exact hall other hother
  | directory info children rest ihChildren ih =>
    obtain ⟨hname, hchildren, hrest⟩ := hdistinct
    rw [misread, Bool.or_eq_true] at h
    simp only [(observed_directory info children rest).mem_iff, List.mem_append, List.mem_flatMap]
    have happart {package other : PluginPackageObservation}
        (hpackage : Within root directory [info.name] package)
        (hother : other ∈ observed casefold scanner root directory depth rest) :
        other.packagePath ≠ package.packagePath :=
      hpackage.ne (within_observed hother) (List.forall_mem_singleton.mpr hname)
    rcases h with h | h
    · rw [packagesUnder]
      cases hartifact : directoryArtifact casefold root.formatKind info.name with
      | some artifact =>
        simp only [hartifact] at h
        refine ⟨packageOf root directory info.name artifact,
          List.mem_append_left _ (List.mem_singleton_self _), ?_⟩
        rintro other (hother | ⟨_, -, hother⟩ | hother)
        · simp [observationOf, entryArtifactKind, h] at hother
        · -- what is in a package lies deeper than the package
          obtain ⟨child, -, more, hpath⟩ := within_observed hother
          intro hsame
          have hparts := join_injective (hpath.symm.trans hsame)
          simpa using congrArg List.length hparts
        · exact happart (within_packageOf info.name artifact) hother
      | none =>
        simp only [hartifact] at h
        obtain ⟨package, hpackage, hall⟩ := ihChildren (directory ++ [info.name])
          (depth + 1) hchildren h
        refine ⟨package, List.mem_append_left _ hpackage, ?_⟩
        rintro other (hother | ⟨_, -, hother⟩ | hother)
        · simp [observationOf, entryArtifactKind] at hother
        · exact hall other hother
        · exact happart (within_of_child (within_packagesUnder hpackage)) hother
    · obtain ⟨package, hpackage, hall⟩ := ih directory depth hrest h
      refine ⟨package, List.mem_append_right _ hpackage, ?_⟩
      have hleft {other : PluginPackageObservation} (hother : Within root directory [info.name] other) :
          other.packagePath ≠ package.packagePath :=
        (hother.ne (within_packagesUnder hpackage) (List.forall_mem_singleton.mpr hname)).symm
      rintro other (hother | ⟨_, -, hother⟩ | hother)
      · exact hleft (within_observationOf hother)
      · exact hleft (within_of_child (within_observed hother))
      · exact hall other hother

/-- A scan leads itself to no directory deeper than its bound. -/
theorem length_le_of_mem_below {listing : Listing} (hdepth : directory.length = depth)
    {pending : Pending} (h : pending ∈ below casefold scanner root directory depth listing) :
    pending.directory.length ≤ scanner.maxDepth := by
  induction listing generalizing directory depth with
  | done => cases h
  | leaf _ _ _ ih => exact ih hdepth h
  | directory info children rest ihChildren ih =>
    rw [below, List.mem_append, List.mem_flatMap] at h
    obtain ⟨child, hchild, h⟩ | h := h
    · unfold pendingOf at hchild
      split_ifs at hchild with hpending
      · have hlength : (directory ++ [info.name]).length = depth + 1 := by simp [hdepth]
        rcases List.mem_cons.mp h with rfl | h
        · rw [List.mem_singleton.mp hchild, hlength]
          exact hpending.2.2
        · exact ihChildren hlength h
      · cases hchild
    · exact ih hdepth h

/-! ### What is not -/

/-- Without failures, a scan leads itself to the directories that are neither in a package nor behind a
link nor too deep, and observes the packages in them. -/
theorem observed_perm {listing : Listing} (hdepth : directory.length = depth)
    (hhere : failsHere casefold root listing = false)
    (hbelow : ∀ pending ∈ below casefold scanner root directory depth listing,
      pending.fails casefold root = false)
    (hshallow : ∀ open' ∈ openBelow casefold root directory listing, open'.length ≤ scanner.maxDepth)
    (hread : misread casefold root listing = false) :
    (below casefold scanner root directory depth listing).map Pending.directory =
        openBelow casefold root directory listing ∧
      (observed casefold scanner root directory depth listing).Perm
        (packagesUnder casefold root directory listing) := by
  induction listing generalizing directory depth with
  | done => exact ⟨rfl, .nil⟩
  | leaf info kind rest ih =>
    rw [failsHere, Bool.or_eq_false_iff] at hhere
    rw [misread, Bool.or_eq_false_iff, Bool.and_eq_false_iff] at hread
    obtain ⟨hopen, hperm⟩ := ih hdepth hhere.2 hbelow hshallow hread.2
    refine ⟨hopen, ?_⟩
    rw [observed_leaf, packagesUnder]
    have hobserved : observationOf root directory info
        (leafArtifact casefold root.formatKind info.name kind) =
        ((leafArtifact casefold root.formatKind info.name kind).map
          (packageOf root directory info.name)).toList := by
      rcases hread.1 with hnone | hkind
      · rw [Option.isSome_eq_false_iff, Option.isNone_iff_eq_none] at hnone
        simp [observationOf, entryArtifactKind, hnone]
      · simp [observationOf, entryArtifactKind, hkind]
    rw [hobserved]
    exact hperm.append_left _
  | directory info children rest ihChildren ih =>
    rw [failsHere, Bool.or_eq_false_iff] at hhere
    rw [misread, Bool.or_eq_false_iff] at hread
    rw [below, List.forall_mem_append] at hbelow
    rw [openBelow, List.forall_mem_append] at hshallow
    obtain ⟨hopen, hperm⟩ := ih hdepth hhere.2 hbelow.2 hshallow.2 hread.2
    rw [below, openBelow, packagesUnder, List.map_append, hopen]
    obtain ⟨hreadHere, -⟩ := hread
    cases hartifact : directoryArtifact casefold root.formatKind info.name with
    | some artifact =>
      simp only [hartifact] at hreadHere
      have hkind : entryArtifactKind info (some artifact) = some artifact := by
        simp [entryArtifactKind, hreadHere]
      have hpending : pendingOf scanner directory depth info (some artifact) children = [] := by
        simp [pendingOf, hkind]
      refine ⟨by simp [hpending], (observed_directory info children rest).trans ?_⟩
      rw [hartifact, hpending, observationOf, hkind]
      exact hperm.append_left _
    | none =>
      simp only [hartifact] at hreadHere hshallow
      rw [hartifact] at hhere hbelow
      have hstat : info.statFails = false := by
        simpa [failsOf, entryArtifactKind] using hhere.1
      have hlength : (directory ++ [info.name]).length = depth + 1 := by simp [hdepth]
      have hdeep : depth < scanner.maxDepth := by
        have hopened := hshallow.1 (directory ++ [info.name]) (by simp)
        omega
      have hpending : pendingOf scanner directory depth info none children =
          [⟨directory ++ [info.name], depth + 1, children⟩] := by
        simp [pendingOf, entryArtifactKind, hstat, hdeep]
      rw [hpending] at hbelow ⊢
      simp only [List.flatMap_cons, List.flatMap_nil, List.append_nil, List.forall_mem_cons]
        at hbelow
      simp only [if_true, List.forall_mem_cons] at hshallow
      obtain ⟨hopenChildren, hpermChildren⟩ := ihChildren hlength hbelow.1.1 hbelow.1.2
        hshallow.1.2 hreadHere
      constructor
      · simp [hopenChildren]
      · refine (observed_directory info children rest).trans ?_
        rw [hartifact, hpending]
        simp only [observationOf, entryArtifactKind, ite_self, Option.map_none, Option.toList_none,
          List.nil_append, List.flatMap_cons, List.flatMap_nil, List.append_nil]
        exact hpermChildren.append hperm

end

/-! ### A whole scan -/

section

variable (casefold : String → String) (scanner : PluginDiscoveryScanner) (root : PluginSearchRoot)
  (listing : Listing)

/-- The directories that a scan of a root leads itself to. -/
def reached : List Pending := Pending.whole casefold scanner root ⟨[], 0, listing⟩

/-- Nothing that a scan notices is in its way: the directories that it leads itself to have no more
entries than its bound, and nothing that it asks of them fails. -/
structure Unhindered : Prop where
  entries : entriesOf (reached casefold scanner root listing) ≤ scanner.maxEntriesPerRoot
  readable : ∀ pending ∈ reached casefold scanner root listing, pending.fails casefold root = false

/-- Nothing is left out without a word. -/
structure NothingLeftOut : Prop where
  /-- No directory that is not in a package nor behind a link lies deeper than the bound. -/
  shallow : ∀ directory ∈ openBelow casefold root [] listing, directory.length ≤ scanner.maxDepth
  /-- The first question about a package does not fail. -/
  readAtOnce : misread casefold root listing = false

/-- All of a root was scanned. -/
structure ScanComplete : Prop where
  /-- What was found are the packages that are not in a package nor behind a link. -/
  packages : (scanRoot casefold scanner root (.directory listing)).2.Perm
    (packagesUnder casefold root [] listing)
  /-- None was found twice. -/
  once : ((scanRoot casefold scanner root (.directory listing)).2.map
    PluginPackageObservation.packagePath).Nodup
  /-- All directories were visited that are not in a package nor behind a link. -/
  visited : ∀ directory ∈ [] :: openBelow casefold root [] listing, directory ∈
    (visits casefold scanner root (listing.directories + 1) (startScan listing)).map
      Pending.directory

variable {casefold scanner root listing}

variable (casefold scanner root listing) in
theorem popped_perm_reached :
    (popped (Pending.next casefold scanner root) (listing.directories + 1)
      (startScan listing).queue).Perm (reached casefold scanner root listing) := by
  have hwhole : ((startScan listing).queue.flatMap (Pending.whole casefold scanner root)) =
      reached casefold scanner root listing := by
    rw [startScan, List.flatMap_cons, List.flatMap_nil, List.append_nil, reached]
  have hlength := length_below_le casefold scanner root [] 0 listing
  rw [← hwhole]
  refine popped_perm (isWhole casefold scanner root) ?_
  rw [hwhole, reached, Pending.whole, List.length_cons]
  exact Nat.succ_le_succ hlength

theorem going_startScan : (startScan listing).Going := ⟨rfl, .inl rfl⟩

theorem entriesOf_perm {l m : List Pending} (h : l.Perm m) : entriesOf l = entriesOf m := by
  rw [entriesOf, entriesOf]
  exact (h.map _).sum_nat

theorem endScan_terminates : (endScan casefold scanner root listing).queue = [] ∨
    (endScan casefold scanner root listing).bounded = true := by
  refine scanLoop_terminates going_startScan (Nat.zero_le _) ?_
  have hlength := length_below_le casefold scanner root [] 0 listing
  rw [startScan, List.flatMap_cons, List.flatMap_nil, List.append_nil, Pending.whole,
    List.length_cons]
  exact Nat.succ_le_succ hlength

/-- A scan whose directories have no more entries than its bound. -/
theorem endScan_within
    (h : entriesOf (reached casefold scanner root listing) ≤ scanner.maxEntriesPerRoot) :
    (visits casefold scanner root (listing.directories + 1) (startScan listing)).Perm
        (reached casefold scanner root listing) ∧
      (endScan casefold scanner root listing).found.Perm
        (observed casefold scanner root [] 0 listing) ∧
      (endScan casefold scanner root listing).scannedEntries =
        entriesOf (reached casefold scanner root listing) ∧
      (endScan casefold scanner root listing).Going ∧
      ((endScan casefold scanner root listing).state = .scanned ↔
        ∀ pending ∈ reached casefold scanner root listing, pending.fails casefold root = false) := by
  have hperm := popped_perm_reached casefold scanner root listing
  have hgoing : (startScan listing).Going := going_startScan
  have hbound : (startScan listing).scannedEntries +
      entriesOf (popped (Pending.next casefold scanner root) (listing.directories + 1)
        (startScan listing).queue) ≤ scanner.maxEntriesPerRoot := by
    rw [entriesOf_perm hperm]
    simpa [startScan] using h
  obtain ⟨hvisits, hworked⟩ := scanLoop_within hgoing hbound
  refine ⟨hvisits ▸ hperm, ?_, ?_, hworked.going, ?_⟩
  · rw [endScan, hworked.found]
    exact hperm.flatMap_right _
  · rw [endScan, hworked.scannedEntries, entriesOf_perm hperm]
    exact Nat.zero_add _
  · rw [endScan, hworked.state]
    simp only [hperm.mem_iff]
    exact ⟨fun h ↦ h.2, fun h ↦ ⟨rfl, h⟩⟩

theorem endScan_beyond
    (h : scanner.maxEntriesPerRoot < entriesOf (reached casefold scanner root listing)) :
    (endScan casefold scanner root listing).Ended scanner := by
  refine scanLoop_beyond going_startScan (Nat.zero_le _) ?_
  rw [entriesOf_perm (popped_perm_reached casefold scanner root listing)]
  exact lt_of_lt_of_eq h (Nat.zero_add _).symm

/-- A root is reported as scanned when nothing that the scan notices is in its way. -/
theorem state_scanned_iff : (endScan casefold scanner root listing).state = .scanned ↔
    Unhindered casefold scanner root listing := by
  by_cases hentries :
      entriesOf (reached casefold scanner root listing) ≤ scanner.maxEntriesPerRoot
  · obtain ⟨-, -, -, -, hstate⟩ := endScan_within hentries
    rw [hstate]
    exact ⟨fun h ↦ ⟨hentries, h⟩, Unhindered.readable⟩
  · refine ⟨fun h ↦ ?_, fun h ↦ absurd h.entries hentries⟩
    have hended := (endScan_beyond (not_le.mp hentries)).state
    rw [h] at hended
    cases hended

variable (casefold scanner root listing) in
/-- The state of a directory that was scanned, and the entries that were looked at. -/
theorem endScan_bounds :
    (endScan casefold scanner root listing).scannedEntries ≤ scanner.maxEntriesPerRoot ∧
      ((endScan casefold scanner root listing).state = .scanned ∨
        (endScan casefold scanner root listing).state = .unreadable ∨
          (endScan casefold scanner root listing).state = .boundedOut) := by
  by_cases hentries :
      entriesOf (reached casefold scanner root listing) ≤ scanner.maxEntriesPerRoot
  · obtain ⟨-, -, hcount, hgoing, -⟩ := endScan_within hentries
    exact ⟨hcount ▸ hentries, hgoing.2.imp_right .inl⟩
  · have hended := endScan_beyond (not_le.mp hentries)
    exact ⟨hended.scannedEntries, .inr (.inr hended.state)⟩

/-- An unhindered scan is complete exactly when nothing is left out without a word. -/
theorem complete_iff (hdistinct : listing.Distinct)
    (hunhindered : Unhindered casefold scanner root listing) :
    ScanComplete casefold scanner root listing ↔ NothingLeftOut casefold scanner root listing := by
  obtain ⟨hvisits, hfound, -, -, -⟩ := endScan_within hunhindered.entries
  have hmem (directory : List String) : directory ∈
      (visits casefold scanner root (listing.directories + 1) (startScan listing)).map
        Pending.directory ↔ directory ∈ (reached casefold scanner root listing).map
          Pending.directory := (hvisits.map Pending.directory).mem_iff
  constructor
  · intro hcomplete
    constructor
    · intro directory hopen
      have hvisited := hcomplete.visited directory (List.mem_cons_of_mem _ hopen)
      rw [hmem, List.mem_map] at hvisited
      obtain ⟨pending, hpending, rfl⟩ := hvisited
      rcases List.mem_cons.mp hpending with rfl | hpending
      · exact Nat.zero_le _
      · exact length_le_of_mem_below rfl hpending
    · by_contra hread
      rw [Bool.not_eq_false] at hread
      obtain ⟨package, hpackage, hmissing⟩ :=
        exists_not_observed scanner [] 0 hdistinct hread
      have hobserved := hfound.mem_iff.mp (hcomplete.packages.mem_iff.mpr hpackage)
      exact hmissing package hobserved rfl
  · intro hnothing
    obtain ⟨hhere, hbelow⟩ := List.forall_mem_cons.mp hunhindered.readable
    have hlength : ([] : List String).length = 0 := rfl
    obtain ⟨hopen, hperm⟩ :=
      observed_perm hlength hhere hbelow hnothing.shallow hnothing.readAtOnce
    have hpackages := hfound.trans hperm
    refine ⟨hpackages, ?_, fun directory hdirectory ↦ ?_⟩
    · exact (hpackages.map PluginPackageObservation.packagePath).nodup_iff.mpr
        (nodup_packagesUnder hdistinct)
    · rw [hmem, reached, Pending.whole, List.map_cons, hopen]
      exact hdirectory

/-- Only a directory is reported as scanned. -/
theorem directory_of_scanned {node : RootNode}
    (h : (scanRoot casefold scanner root node).1.state = .scanned) :
    ∃ listing, node = .directory listing := by
  cases node with
  | directory listing => exact ⟨listing, rfl⟩
  | missing => cases h
  | unreadable => cases h
  | symlink => cases h
  | other => cases h

/-! ### Reports -/

variable {currentOs : OsFamily} {disk : PurePath → RootNode}

theorem scanRoots_eq_ok {roots : List PluginSearchRoot}
    {results : List (PluginRootObservation × List PluginPackageObservation)}
    (h : scanRoots casefold scanner currentOs disk roots = .ok results) :
    results = roots.map fun root ↦ scanRoot casefold scanner root (disk root.path) := by
  induction roots generalizing results with
  | nil =>
    cases h
    rfl
  | cons root rest ih =>
    simp only [scanRoots, bind_eq_ok, Except.ok.injEq] at h
    obtain ⟨_, -, others, hothers, rfl⟩ := h
    rw [ih hothers, List.map_cons]

/-- A report has an observation of each root, and the packages that were found under some root, each
once. -/
theorem scan_spec {roots : List PluginSearchRoot} {report : PluginDiscoveryReport}
    (h : scan casefold scanner currentOs disk roots = .ok report) :
    report.roots = (firstByKey (rootKey casefold) [] roots).map
        (fun root ↦ (scanRoot casefold scanner root (disk root.path)).1) ∧
      (report.packages.map (packageKey casefold)).Nodup ∧
      ∀ key, key ∈ report.packages.map (packageKey casefold) ↔
        ∃ root ∈ firstByKey (rootKey casefold) [] roots,
          key ∈ (scanRoot casefold scanner root (disk root.path)).2.map (packageKey casefold) := by
  simp only [scan, bind_eq_ok, Except.ok.injEq] at h
  obtain ⟨results, hresults, rfl⟩ := h
  obtain rfl := scanRoots_eq_ok hresults
  refine ⟨List.map_map, ?_, fun key ↦ ?_⟩
  · rw [((rankBy_perm _ _).map (packageKey casefold)).nodup_iff]
    exact nodup_map_firstByKey
  · rw [((rankBy_perm _ _).map (packageKey casefold)).mem_iff, mem_map_firstByKey, List.flatMap_map,
      List.map_flatMap, List.mem_flatMap]
    exact ⟨fun h ↦ h.2, fun h ↦ ⟨List.not_mem_nil, h⟩⟩

end

/-- A scan of a root comes to an end, looks at no more entries than its bound, and reports a directory as
scanned, unreadable or out of bounds. What it reports as scanned is complete if and only if, when
nothing that it notices is in its way, nothing is left out without a word. And a report has each package
once that was found under some root.

Assumes: the entries of a directory have names of their own. -/
theorem plugin_scan_iff (casefold : String → String) (scanner : PluginDiscoveryScanner) :
    (∀ root listing, listing.Distinct →
      ((endScan casefold scanner root listing).queue = [] ∨
        (endScan casefold scanner root listing).bounded = true) ∧
      (scanRoot casefold scanner root (.directory listing)).1.scannedEntries ≤
        scanner.maxEntriesPerRoot ∧
      (scanRoot casefold scanner root (.directory listing)).1.state ∈
        [.scanned, .unreadable, .boundedOut] ∧
      (((scanRoot casefold scanner root (.directory listing)).1.state = .scanned →
          ScanComplete casefold scanner root listing) ↔
        (Unhindered casefold scanner root listing →
          NothingLeftOut casefold scanner root listing))) ∧
    (∀ root node, (scanRoot casefold scanner root node).1.state = .scanned →
      ∃ listing, node = .directory listing) ∧
    ∀ currentOs disk roots report, scan casefold scanner currentOs disk roots = .ok report →
      report.roots = (firstByKey (rootKey casefold) [] roots).map
          (fun root ↦ (scanRoot casefold scanner root (disk root.path)).1) ∧
        (report.packages.map (packageKey casefold)).Nodup ∧
        ∀ key, key ∈ report.packages.map (packageKey casefold) ↔
          ∃ root ∈ firstByKey (rootKey casefold) [] roots,
            key ∈ (scanRoot casefold scanner root (disk root.path)).2.map (packageKey casefold) := by
  refine ⟨fun root listing hdistinct ↦ ?_, fun _ _ ↦ directory_of_scanned, fun _ _ _ _ ↦ scan_spec⟩
  obtain ⟨hentries, hstate⟩ := endScan_bounds casefold scanner root listing
  refine ⟨endScan_terminates, hentries, by simpa [scanRoot, rootResult] using hstate, ?_⟩
  have hscanned : (scanRoot casefold scanner root (.directory listing)).1.state = .scanned ↔
      Unhindered casefold scanner root listing := state_scanned_iff
  rw [hscanned]
  exact forall_congr' fun hunhindered ↦ complete_iff hdistinct hunhindered

/-! ### A package too deep -/

/-- A scanner that looks into no directory under a root. -/
def shallowScanner : PluginDiscoveryScanner := ⟨20000, 0, by decide⟩

def pluginRoot : PluginSearchRoot where
  osFamily := .linux
  formatKind := .vst3
  path := ⟨.posix, true, ["/", "home", "ana", ".vst3"]⟩
  source := .standard
  supported := by decide
  typed := by decide

/-- A vendor's directory with one package. -/
def vendorListing : Listing :=
  .directory ⟨"Vendor", false, false⟩
    (.directory ⟨"Deep.vst3", false, false⟩ (.done false) (.done false)) (.done false)

theorem vendorListing_distinct : vendorListing.Distinct :=
  ⟨List.not_mem_nil, ⟨List.not_mem_nil, trivial, trivial⟩, trivial⟩

theorem vendor_scan_iff :
    ((scanRoot id shallowScanner pluginRoot (.directory vendorListing)).1.state = .scanned →
      ScanComplete id shallowScanner pluginRoot vendorListing) ↔
    (Unhindered id shallowScanner pluginRoot vendorListing →
      NothingLeftOut id shallowScanner pluginRoot vendorListing) :=
  ((plugin_scan_iff id shallowScanner).1 pluginRoot vendorListing vendorListing_distinct).2.2.2

/-- The root is reported as scanned, and its package is not. -/
theorem vendor_scan_incomplete :
    (scanRoot id shallowScanner pluginRoot (.directory vendorListing)).1.state = .scanned ∧
      ¬ ScanComplete id shallowScanner pluginRoot vendorListing := by
  have hscanned : (scanRoot id shallowScanner pluginRoot (.directory vendorListing)).1.state =
      .scanned := by decide +kernel
  have hfound : (scanRoot id shallowScanner pluginRoot (.directory vendorListing)).2 = [] := by
    decide +kernel
  have hpackages : (packagesUnder id pluginRoot [] vendorListing).length = 1 := by decide +kernel
  refine ⟨hscanned, fun hcomplete ↦ ?_⟩
  have hlength := hcomplete.packages.length_eq
  rw [hfound, hpackages] at hlength
  cases hlength

end N0te.Discovery
