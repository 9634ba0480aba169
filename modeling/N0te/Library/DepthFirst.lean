import Mathlib.Data.List.Infix
import Mathlib.Logic.Relation
import N0te.Library.Checking

/-!
# Depth-first search for cycles

A graph is given by the names that a node leads to; a name stands for a node, its key. `visit` follows the
names from one and keeps the keys that it has finished, and those that it has entered and not finished
make the path from the start. Entering a key of the path is a cycle. The search goes only so deep.

The keys that a search has finished lead to finished ones only, and none of them to itself
(`Settled.acyclic`). A search that is allowed to go deeper than there are nodes fails at a cycle and
nowhere else (`visit_error`).
-/

set_option autoImplicit false
set_option relaxedAutoImplicit false

namespace N0te.Library

variable {κ α ε : Type}

/-- A graph whose nodes are known by names. -/
structure NamedGraph (κ α ε : Type) where
  /-- The node of a name. -/
  key : α → Except ε κ
  /-- The names that a node leads to. -/
  next : κ → Except ε (List α)
  /-- What is raised when a name closes a cycle. -/
  cycle : α → ε
  /-- What is raised when the search goes too deep. -/
  tooDeep : ε

namespace NamedGraph

/-- Visit names one after another. -/
def visitAll (step : α → List κ → Except ε (List κ)) : List α → List κ → Except ε (List κ)
  | [], visited => .ok visited
  | a :: rest, visited => do
    let visited ← step a visited
    visitAll step rest visited

variable (graph : NamedGraph κ α ε)

/-- Visit what a name leads to, below the nodes of the path. -/
def visit [DecidableEq κ] : ℕ → List κ → α → List κ → Except ε (List κ)
  | 0, _, _, _ => .error graph.tooDeep
  | depth + 1, visiting, a, visited => do
    let k ← graph.key a
    if k ∈ visited then .ok visited else do
      require (k ∉ visiting) (graph.cycle a)
      let names ← graph.next k
      let visited ← visitAll (visit depth (k :: visiting)) names visited
      .ok (k :: visited)

/-- A node leads to another. -/
def Leads (k d : κ) : Prop := ∃ names a, graph.next k = .ok names ∧ a ∈ names ∧ graph.key a = .ok d

/-- Every name that a node leads to stands for a node of a list. -/
def LeadsInto (k : κ) (l : List κ) : Prop :=
  ∃ names, graph.next k = .ok names ∧ ∀ a ∈ names, ∃ d ∈ l, graph.key a = .ok d

/-- Every node of a list leads to nodes that come after it. -/
def Settled : List κ → Prop
  | [] => True
  | k :: rest => graph.LeadsInto k rest ∧ Settled rest

variable {graph}

/-! ### Settled nodes -/

theorem LeadsInto.mem {k d : κ} {l : List κ} (h : graph.LeadsInto k l) (hleads : graph.Leads k d) :
    d ∈ l := by
  obtain ⟨names, hnames, hall⟩ := h
  obtain ⟨others, a, hothers, ha, hd⟩ := hleads
  cases hnames.symm.trans hothers
  obtain ⟨e, he, hkey⟩ := hall a ha
  cases hd.symm.trans hkey
  exact he

/-- A settled node leads to settled nodes. -/
theorem Settled.leadsInto {k : κ} {l : List κ} (h : graph.Settled l) (hk : k ∈ l) :
    graph.LeadsInto k l := by
  induction l with
  | nil => cases hk
  | cons head rest ih =>
    have hweaken : ∀ {k : κ}, graph.LeadsInto k rest → graph.LeadsInto k (head :: rest) := by
      rintro k ⟨names, hnames, hall⟩
      refine ⟨names, hnames, fun a ha ↦ ?_⟩
      obtain ⟨d, hd, hkey⟩ := hall a ha
      exact ⟨d, List.mem_cons_of_mem _ hd, hkey⟩
    rcases List.mem_cons.mp hk with rfl | hrest
    · exact hweaken h.1
    · exact hweaken (ih h.2 hrest)

/-- Below a settled node the search comes to an end. -/
theorem Settled.acc {k : κ} {l : List κ} (h : graph.Settled l) (hk : k ∈ l) :
    Acc (fun d k ↦ graph.Leads k d) k := by
  induction l generalizing k with
  | nil => cases hk
  | cons head rest ih =>
    rcases List.mem_cons.mp hk with rfl | hrest
    · exact ⟨_, fun d hd ↦ ih h.2 (h.1.mem hd)⟩
    · exact ih h.2 hrest

/-- A settled node does not lead to itself, over however many steps. -/
theorem Settled.acyclic {k : κ} {l : List κ} (h : graph.Settled l) (hk : k ∈ l) :
    ¬ Relation.TransGen graph.Leads k k := by
  intro hcycle
  have hacc : Acc (Relation.TransGen fun d k ↦ graph.Leads k d) k := (h.acc hk).transGen
  have hback : Relation.TransGen (fun d k ↦ graph.Leads k d) k k := Relation.transGen_swap.mp hcycle
  induction hacc with
  | intro k _ ih => exact ih k hback hk hcycle hback

/-! ### The search -/

variable [DecidableEq κ]

omit [DecidableEq κ] in
/-- What visiting names does when visiting each of them settles it. -/
theorem settled_visitAll {step : α → List κ → Except ε (List κ)}
    (hstep : ∀ a visited after, step a visited = .ok after → graph.Settled visited →
      graph.Settled after ∧ visited <:+ after ∧ ∃ k ∈ after, graph.key a = .ok k)
    {names : List α} {visited after : List κ} (h : visitAll step names visited = .ok after)
    (hsettled : graph.Settled visited) : graph.Settled after ∧ visited <:+ after ∧
      ∀ a ∈ names, ∃ k ∈ after, graph.key a = .ok k := by
  induction names generalizing visited with
  | nil =>
    cases h
    exact ⟨hsettled, List.suffix_rfl, List.forall_mem_nil _⟩
  | cons a rest ih =>
    obtain ⟨between, hfirst, hrest⟩ := bind_eq_ok.mp h
    obtain ⟨hbetween, hgrown, k, hk, hkey⟩ := hstep a visited between hfirst hsettled
    obtain ⟨hafter, hmore, hall⟩ := ih hrest hbetween
    exact ⟨hafter, hgrown.trans hmore, List.forall_mem_cons.mpr ⟨⟨k, hmore.subset hk, hkey⟩, hall⟩⟩

/-- A search settles what it has finished, and the name that it started with. -/
theorem settled_visit {depth : ℕ} {visiting visited after : List κ} {a : α}
    (h : graph.visit depth visiting a visited = .ok after) (hsettled : graph.Settled visited) :
    graph.Settled after ∧ visited <:+ after ∧ ∃ k ∈ after, graph.key a = .ok k := by
  induction depth generalizing visiting visited after a with
  | zero => cases h
  | succ depth ih =>
    rw [visit, bind_eq_ok] at h
    obtain ⟨k, hkey, h⟩ := h
    split_ifs at h with hvisited
    · cases h
      exact ⟨hsettled, List.suffix_rfl, k, hvisited, hkey⟩
    · simp only [bind_eq_ok, require_eq_ok, Except.ok.injEq] at h
      obtain ⟨-, -, names, hnames, between, hall, rfl⟩ := h
      obtain ⟨hbetween, hgrown, hfound⟩ := settled_visitAll (fun _ _ _ ↦ ih) hall hsettled
      exact ⟨⟨⟨names, hnames, hfound⟩, hbetween⟩, hgrown.trans (List.suffix_cons _ _), k,
        List.mem_cons_self, hkey⟩

/-! ### Failures -/

omit [DecidableEq κ] in
theorem visitAll_error {step : α → List κ → Except ε (List κ)} {names : List α} {visited : List κ}
    {e : ε} (h : visitAll step names visited = .error e) :
    ∃ a ∈ names, ∃ between, step a between = .error e := by
  induction names generalizing visited with
  | nil => cases h
  | cons a rest ih =>
    rw [visitAll] at h
    rcases hfirst : step a visited with e' | between
    · rw [hfirst] at h
      cases h
      exact ⟨a, List.mem_cons_self, visited, hfirst⟩
    · rw [hfirst] at h
      obtain ⟨b, hb, hfail⟩ := ih h
      exact ⟨b, List.mem_cons_of_mem _ hb, hfail⟩

/-- Where every name stands for a declared node, a search fails at a cycle, or because it may not go
deeper than there are nodes outside of the path. -/
theorem visit_error {nodes : List κ} {named : α → Prop}
    (hnamed : ∀ a, named a → ∃ k names, graph.key a = .ok k ∧ graph.next k = .ok names ∧ k ∈ nodes ∧
      ∀ b ∈ names, named b) {depth : ℕ} {visiting visited : List κ} {a : α} {e : ε} (ha : named a)
    (h : graph.visit depth visiting a visited = .error e) :
    (∃ b, e = graph.cycle b) ∨
      e = graph.tooDeep ∧ depth ≤ (nodes.filter fun k ↦ k ∉ visiting).length := by
  induction depth generalizing visiting visited a with
  | zero =>
    cases h
    exact .inr ⟨rfl, Nat.zero_le _⟩
  | succ depth ih =>
    obtain ⟨k, names, hkey, hnames, hk, hall⟩ := hnamed a ha
    rw [visit, hkey] at h
    simp only [bind, Except.bind] at h
    split_ifs at h with hvisited
    by_cases hpath : k ∈ visiting
    · rw [require, if_neg (not_not.mpr hpath)] at h
      cases h
      exact .inl ⟨a, rfl⟩
    · rw [require, if_pos hpath, hnames] at h
      rcases hbelow : visitAll (graph.visit depth (k :: visiting)) names visited with e' | after
      · simp only [hbelow] at h
        cases h
        obtain ⟨b, hb, between, hfail⟩ := visitAll_error hbelow
        refine (ih (hall b hb) hfail).imp_right fun hdeep ↦ ⟨hdeep.1, ?_⟩
        have hfewer : (nodes.filter fun d ↦ d ∉ k :: visiting).length <
            (nodes.filter fun d ↦ d ∉ visiting).length := by
          have hsplit : (nodes.filter fun d ↦ d ∉ k :: visiting) =
              (nodes.filter fun d ↦ d ∉ visiting).filter fun d ↦ d ≠ k := by
            rw [List.filter_filter]
            refine List.filter_congr fun d _ ↦ ?_
            rw [← Bool.decide_and, decide_eq_decide, List.mem_cons, not_or]
          rw [hsplit, List.length_filter_lt_length_iff_exists]
          exact ⟨k, List.mem_filter.mpr ⟨hk, decide_eq_true hpath⟩, by simp⟩
        omega
      · simp only [hbelow] at h
        cases h

end NamedGraph

end N0te.Library
