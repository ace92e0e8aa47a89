import Mathlib.Data.Finmap
import RunpodShim.Gpu.FdTracker
import RunpodShim.Library.CallMachine

/-!
# The descriptor list as a finite map

The linked list of `gpu/fd_tracker.c` under any sequence of calls, as a finite
map from descriptors to records.
-/

namespace RunpodShim

open CallMachine FirstMatch

/-- A call of the list.  `malloc` says whether a node can be allocated, and a
record is passed through a pointer that may be NULL. -/
inductive TrackerCall
  | set (malloc : Bool) (fd : Int) (record : Option RpsGpuFdRecord)
  | get (fd : Int) (record : Bool)
  | remove (fd : Int)
  | copy (malloc : Bool) (oldfd newfd : Int)
  | clear

/-- The record that a call returns, and the list after it. -/
def trackerMachine (nodes : List RpsGpuFdNode) :
    TrackerCall → Option RpsGpuFdRecord × List RpsGpuFdNode
  | .set malloc fd record =>
      -- Without a record the call returns before it takes the lock.
      (none,
        (record.map fun bytes =>
          rpsGpuFdMapSet malloc fd bytes nodes).getD nodes)
  | .get fd record =>
      (if record then rpsGpuFdMapGet fd nodes else none, nodes)
  | .remove fd => (none, rpsGpuFdMapRemove fd nodes)
  | .copy malloc oldfd newfd =>
      (none, rpsGpuFdMapCopy malloc oldfd newfd nodes)
  | .clear => (none, rpsGpuFdMapClear nodes)

/-- The list after a sequence of calls, from the empty list. -/
def trackerAfter (calls : List TrackerCall) : List RpsGpuFdNode :=
  afterCalls trackerMachine [] calls

/-! ## The map -/

/-- The records bound to descriptors. -/
abbrev RecordMap := Finmap fun _ : Int => RpsGpuFdRecord

namespace TrackerCall

/-- Only `get` returns a record. -/
def answer (map : RecordMap) : TrackerCall → Option RpsGpuFdRecord
  | get fd record => if record then map.lookup fd else none
  | _ => none

/-- What a call does to the map when every allocation succeeds. -/
def bind (map : RecordMap) : TrackerCall → RecordMap
  | set _ fd record =>
      if fd < 0 then map
      else (record.map fun bytes => map.insert fd bytes).getD map
  | get _ _ => map
  | remove fd => map.erase fd
  | copy _ oldfd newfd =>
      if oldfd < 0 ∨ newfd < 0 ∨ oldfd = newfd then map
      else
        ((map.lookup oldfd).map fun bytes => map.insert newfd bytes).getD
          (map.erase newfd)
  | clear => ∅

/-- The call needs a node for a descriptor that has none. -/
def NeedsNode (map : RecordMap) : TrackerCall → Prop
  | set _ fd record => 0 ≤ fd ∧ record.isSome ∧ fd ∉ map
  | copy _ oldfd newfd =>
      0 ≤ oldfd ∧ 0 ≤ newfd ∧ oldfd ∈ map ∧ newfd ∉ map
  | _ => False

instance (map : RecordMap) :
    (call : TrackerCall) → Decidable (call.NeedsNode map)
  | set _ fd record =>
      inferInstanceAs (Decidable (0 ≤ fd ∧ record.isSome ∧ fd ∉ map))
  | get _ _ => isFalse id
  | remove _ => isFalse id
  | copy _ oldfd newfd =>
      inferInstanceAs
        (Decidable (0 ≤ oldfd ∧ 0 ≤ newfd ∧ oldfd ∈ map ∧ newfd ∉ map))
  | clear => isFalse id

/-- Whether memory is to be had in the call. -/
def allocates : TrackerCall → Bool
  | set malloc _ _ => malloc
  | copy malloc _ _ => malloc
  | _ => true

end TrackerCall

/-- The map as a machine: a call that needs a node and cannot have one changes
nothing. -/
def recordMachine (map : RecordMap) (call : TrackerCall) :
    Option RpsGpuFdRecord × RecordMap :=
  (call.answer map,
    if call.NeedsNode map ∧ call.allocates = false then map
    else call.bind map)

/-- The map that a list stands for: the first node of a number binds it. -/
def recordMap : List RpsGpuFdNode → RecordMap
  | [] => ∅
  | node :: rest => (recordMap rest).insert node.fd node.record

/-! ## One call -/

section Call

variable {nodes : List RpsGpuFdNode}

theorem lookup_recordMap (kept : WellKept nodes) (fd : Int) :
    (recordMap nodes).lookup fd = rpsGpuFdMapGet fd nodes := by
  have first :
      (recordMap nodes).lookup fd =
        (nodes.find? fun node => node.fd == fd).map RpsGpuFdNode.record := by
    clear kept
    induction nodes with
    | nil =>
        exact Finmap.lookup_empty fd
    | cons node rest inductionHypothesis =>
        by_cases same : node.fd = fd
        · rw [recordMap, same, Finmap.lookup_insert]
          simp [same]
        · have differs : fd ≠ node.fd := fun equal => same equal.symm
          rw [recordMap, Finmap.lookup_insert_of_ne _ differs,
            inductionHypothesis]
          simp [same]
  rw [first]
  by_cases invalid : fd < 0
  · rw [rpsGpuFdMapGet_of_neg invalid, Option.map_eq_none_iff,
      List.find?_eq_none]
    intro node member
    have valid := kept.nonneg node member
    simp only [beq_iff_eq]
    omega
  · rw [rpsGpuFdMapGet_of_nonneg (Int.not_lt.mp invalid)]

theorem mem_recordMap (kept : WellKept nodes) {fd : Int} :
    fd ∈ recordMap nodes ↔ (rpsGpuFdMapGet fd nodes).isSome = true := by
  rw [← Finmap.lookup_isSome, lookup_recordMap kept]

theorem rpsGpuFdMapClear_eq_nil (nodes : List RpsGpuFdNode) :
    rpsGpuFdMapClear nodes = [] := by
  induction nodes with
  | nil =>
      rfl
  | cons node rest inductionHypothesis =>
      exact inductionHypothesis

/-- A `set` without a node of its own, and without memory for one, changes
nothing. -/
theorem rpsGpuFdMapSet_of_unallocated {fd : Int}
    (absent : rpsGpuFdMapGet fd nodes = none)
    (record : RpsGpuFdRecord) :
    rpsGpuFdMapSet false fd record nodes = nodes := by
  rw [rpsGpuFdMapSet]
  split
  · rfl
  · rename_i valid
    rw [any_eq_isSome_rpsGpuFdMapGet (Int.not_lt.mp valid), absent]
    rfl

/-- Nor does such a `copy`. -/
theorem rpsGpuFdMapCopy_of_unallocated (kept : WellKept nodes)
    {newfd : Int} (absent : rpsGpuFdMapGet newfd nodes = none)
    (oldfd : Int) :
    rpsGpuFdMapCopy false oldfd newfd nodes = nodes := by
  rw [rpsGpuFdMapCopy]
  split
  · rfl
  · rename_i valid
    have nonneg : 0 ≤ newfd := by omega
    have noNode :
        (nodes.any fun node => node.fd == newfd) = false := by
      rw [any_eq_isSome_rpsGpuFdMapGet nonneg, absent]
      rfl
    split
    · rw [noNode]
      rfl
    · rw [eraseLast_of_unique (kept.unique newfd)]
      apply List.eraseP_of_forall_not
      intro node member
      exact List.any_eq_false.mp noNode node member

/-- A `copy` from a descriptor to itself, or with an invalid one, changes
nothing. -/
theorem rpsGpuFdMapCopy_of_trivial (kept : WellKept nodes)
    {oldfd newfd : Int}
    (trivially : oldfd < 0 ∨ newfd < 0 ∨ oldfd = newfd) (malloc : Bool) :
    rpsGpuFdMapCopy malloc oldfd newfd nodes = nodes := by
  rw [rpsGpuFdMapCopy]
  split
  · rfl
  · rename_i valid
    have same : oldfd = newfd := by omega
    subst same
    have nonneg : 0 ≤ oldfd := by omega
    rw [getLast?_filter_of_unique (kept.unique oldfd)]
    cases found : nodes.find? fun node => node.fd == oldfd with
    | none =>
        rw [eraseLast_of_unique (kept.unique oldfd)]
        apply List.eraseP_of_forall_not
        exact List.find?_eq_none.mp found
    | some node =>
        have present : (nodes.any fun node => node.fd == oldfd) = true := by
          rw [any_eq_isSome_rpsGpuFdMapGet nonneg,
            rpsGpuFdMapGet_of_nonneg nonneg, found]
          rfl
        simp only [present, if_true]
        rw [updateLast_of_unique (kept.unique oldfd)]
        apply updateFirst_of_fixed
        intro other first
        rw [found] at first
        cases first
        rfl

/-- With a node at hand a `set` binds its descriptor. -/
theorem recordMap_set (kept : WellKept nodes) {malloc : Bool} {fd : Int}
    (valid : 0 ≤ fd)
    (allowed : malloc = true ∨ (rpsGpuFdMapGet fd nodes).isSome = true)
    (record : RpsGpuFdRecord) :
    recordMap (rpsGpuFdMapSet malloc fd record nodes) =
      (recordMap nodes).insert fd record := by
  apply Finmap.ext_lookup
  intro asked
  rw [lookup_recordMap (kept.set malloc fd record),
    rpsGpuFdMapGet_set malloc valid]
  by_cases same : asked = fd
  · rw [if_pos ⟨same, allowed⟩, same, Finmap.lookup_insert]
  · rw [if_neg fun both => same both.1,
      Finmap.lookup_insert_of_ne _ same, lookup_recordMap kept]

theorem recordMap_remove (kept : WellKept nodes) (fd : Int) :
    recordMap (rpsGpuFdMapRemove fd nodes) =
      (recordMap nodes).erase fd := by
  apply Finmap.ext_lookup
  intro asked
  rw [lookup_recordMap (kept.remove fd), rpsGpuFdMapGet_remove kept]
  by_cases same : asked = fd
  · rw [if_pos same, same, Finmap.lookup_erase]
  · rw [if_neg same, Finmap.lookup_erase_ne same, lookup_recordMap kept]

/-- With a node at hand, or no need for one, a `copy` binds the new descriptor
as the old one is bound. -/
theorem recordMap_copy (kept : WellKept nodes) {malloc : Bool}
    {oldfd newfd : Int} (oldValid : 0 ≤ oldfd) (newValid : 0 ≤ newfd)
    (allowed :
      rpsGpuFdMapGet oldfd nodes = none ∨ malloc = true ∨
        (rpsGpuFdMapGet newfd nodes).isSome = true) :
    recordMap (rpsGpuFdMapCopy malloc oldfd newfd nodes) =
      (((recordMap nodes).lookup oldfd).map fun record =>
        (recordMap nodes).insert newfd record).getD
          ((recordMap nodes).erase newfd) := by
  apply Finmap.ext_lookup
  intro asked
  rw [lookup_recordMap (kept.copy malloc oldfd newfd),
    rpsGpuFdMapGet_copy malloc oldValid newValid kept,
    lookup_recordMap kept]
  cases found : rpsGpuFdMapGet oldfd nodes with
  | none =>
      rw [ite_self, Option.map_none, Option.getD_none]
      by_cases same : asked = newfd
      · rw [if_pos same, same, Finmap.lookup_erase]
      · rw [if_neg same, Finmap.lookup_erase_ne same,
          lookup_recordMap kept]
  | some record =>
      have given :
          malloc = true ∨
            (rpsGpuFdMapGet newfd nodes).isSome = true := by
        simpa [found] using allowed
      rw [if_pos given, Option.map_some, Option.getD_some]
      by_cases same : asked = newfd
      · rw [if_pos same, same, Finmap.lookup_insert]
      · rw [if_neg same, Finmap.lookup_insert_of_ne _ same,
          lookup_recordMap kept]

theorem recordMap_clear (nodes : List RpsGpuFdNode) :
    recordMap (rpsGpuFdMapClear nodes) = ∅ := by
  rw [rpsGpuFdMapClear_eq_nil]
  rfl

/-! ## Each call is a step of the map -/

theorem WellKept.trackerMachine (kept : WellKept nodes)
    (call : TrackerCall) :
    WellKept (trackerMachine nodes call).2 := by
  cases call with
  | set malloc fd record =>
      cases record with
      | none =>
          exact kept
      | some bytes =>
          exact kept.set malloc fd bytes
  | get fd record =>
      exact kept
  | remove fd =>
      exact kept.remove fd
  | copy malloc oldfd newfd =>
      exact kept.copy malloc oldfd newfd
  | clear =>
      rw [RunpodShim.trackerMachine, rpsGpuFdMapClear_eq_nil]
      exact wellKept_nil

theorem trackerMachine_of_refused (kept : WellKept nodes)
    {call : TrackerCall} (needs : call.NeedsNode (recordMap nodes))
    (refused : call.allocates = false) :
    (trackerMachine nodes call).2 = nodes := by
  cases call with
  | set malloc fd record =>
      obtain ⟨_, given, unbound⟩ := needs
      obtain ⟨bytes, rfl⟩ := Option.isSome_iff_exists.mp given
      have absent : rpsGpuFdMapGet fd nodes = none := by
        rw [mem_recordMap kept] at unbound
        simpa using unbound
      have failed : malloc = false := refused
      rw [failed]
      exact rpsGpuFdMapSet_of_unallocated absent bytes
  | get fd record =>
      rfl
  | remove fd =>
      cases needs
  | copy malloc oldfd newfd =>
      obtain ⟨_, _, _, unbound⟩ := needs
      have absent : rpsGpuFdMapGet newfd nodes = none := by
        rw [mem_recordMap kept] at unbound
        simpa using unbound
      have failed : malloc = false := refused
      rw [failed]
      exact rpsGpuFdMapCopy_of_unallocated kept absent oldfd
  | clear =>
      cases needs

theorem recordMap_trackerMachine (kept : WellKept nodes)
    {call : TrackerCall}
    (goesOn :
      ¬ (call.NeedsNode (recordMap nodes) ∧ call.allocates = false)) :
    recordMap (trackerMachine nodes call).2 =
      call.bind (recordMap nodes) := by
  cases call with
  | set malloc fd record =>
      cases record with
      | none =>
          simp [trackerMachine, TrackerCall.bind]
      | some bytes =>
          rw [TrackerCall.bind]
          split
          · rename_i invalid
            rw [trackerMachine, Option.map_some, Option.getD_some,
              rpsGpuFdMapSet, if_pos invalid]
          · rename_i notInvalid
            have valid : 0 ≤ fd := Int.not_lt.mp notInvalid
            apply recordMap_set kept valid
            by_contra neither
            rw [not_or, Bool.not_eq_true] at neither
            refine goesOn ⟨⟨valid, rfl, ?_⟩, neither.1⟩
            rw [mem_recordMap kept]
            exact neither.2
  | get fd record =>
      rfl
  | remove fd =>
      exact recordMap_remove kept fd
  | copy malloc oldfd newfd =>
      rw [TrackerCall.bind]
      split
      · rename_i trivially
        rw [trackerMachine, rpsGpuFdMapCopy_of_trivial kept trivially]
      · rename_i proper
        have oldValid : 0 ≤ oldfd := by omega
        have newValid : 0 ≤ newfd := by omega
        apply recordMap_copy kept oldValid newValid
        by_contra neither
        rw [not_or, not_or, Bool.not_eq_true] at neither
        refine
          goesOn ⟨⟨oldValid, newValid, ?_, ?_⟩, neither.2.1⟩
        · rw [mem_recordMap kept, Option.isSome_iff_ne_none]
          exact neither.1
        · rw [mem_recordMap kept]
          exact neither.2.2
  | clear =>
      exact recordMap_clear nodes

/-- The list refines the map. -/
theorem trackerMachine_refines :
    Refines trackerMachine recordMachine WellKept recordMap where
  keeps nodes call kept := kept.trackerMachine call
  answer nodes call kept := by
    cases call with
    | get fd record =>
        simp only [trackerMachine, recordMachine, TrackerCall.answer,
          lookup_recordMap kept]
    | _ =>
        rfl
  step nodes call kept := by
    rw [recordMachine]
    split
    · rename_i refused
      rw [trackerMachine_of_refused kept refused.1 refused.2]
    · rename_i goesOn
      exact recordMap_trackerMachine kept goesOn

/-- What each operation does to the bindings of a list. -/
structure MapLaws (nodes : List RpsGpuFdNode) : Prop where
  set_self : ∀ malloc fd record, 0 ≤ fd →
    malloc = true ∨ (rpsGpuFdMapGet fd nodes).isSome = true →
      rpsGpuFdMapGet fd (rpsGpuFdMapSet malloc fd record nodes) =
        some record
  set_other : ∀ malloc fd record asked, asked ≠ fd →
    rpsGpuFdMapGet asked (rpsGpuFdMapSet malloc fd record nodes) =
      rpsGpuFdMapGet asked nodes
  set_invalid : ∀ malloc fd record, fd < 0 →
    rpsGpuFdMapSet malloc fd record nodes = nodes
  set_refused : ∀ fd record, rpsGpuFdMapGet fd nodes = none →
    rpsGpuFdMapSet false fd record nodes = nodes
  remove_self : ∀ fd, rpsGpuFdMapGet fd (rpsGpuFdMapRemove fd nodes) = none
  remove_other : ∀ fd asked, asked ≠ fd →
    rpsGpuFdMapGet asked (rpsGpuFdMapRemove fd nodes) =
      rpsGpuFdMapGet asked nodes
  copy_new : ∀ malloc oldfd newfd, 0 ≤ oldfd → 0 ≤ newfd →
    malloc = true ∨ (rpsGpuFdMapGet newfd nodes).isSome = true →
      rpsGpuFdMapGet newfd (rpsGpuFdMapCopy malloc oldfd newfd nodes) =
        rpsGpuFdMapGet oldfd nodes
  copy_other : ∀ malloc oldfd newfd asked, asked ≠ newfd →
    rpsGpuFdMapGet asked (rpsGpuFdMapCopy malloc oldfd newfd nodes) =
      rpsGpuFdMapGet asked nodes
  copy_trivial : ∀ malloc oldfd newfd,
    oldfd < 0 ∨ newfd < 0 ∨ oldfd = newfd →
      rpsGpuFdMapCopy malloc oldfd newfd nodes = nodes
  copy_refused : ∀ oldfd newfd, rpsGpuFdMapGet newfd nodes = none →
    rpsGpuFdMapCopy false oldfd newfd nodes = nodes
  clear_all : ∀ fd, rpsGpuFdMapGet fd (rpsGpuFdMapClear nodes) = none

theorem WellKept.mapLaws (kept : WellKept nodes) : MapLaws nodes where
  set_self := by
    intro malloc fd record valid allowed
    rw [rpsGpuFdMapGet_set malloc valid, if_pos ⟨rfl, allowed⟩]
  set_other := by
    intro malloc fd record asked differs
    by_cases invalid : fd < 0
    · rw [rpsGpuFdMapSet, if_pos invalid]
    · rw [rpsGpuFdMapGet_set malloc (Int.not_lt.mp invalid),
        if_neg fun both => differs both.1]
  set_invalid := by
    intro malloc fd record invalid
    rw [rpsGpuFdMapSet, if_pos invalid]
  set_refused := by
    intro fd record absent
    exact rpsGpuFdMapSet_of_unallocated absent record
  remove_self := by
    intro fd
    rw [rpsGpuFdMapGet_remove kept, if_pos rfl]
  remove_other := by
    intro fd asked differs
    rw [rpsGpuFdMapGet_remove kept, if_neg differs]
  copy_new := by
    intro malloc oldfd newfd oldValid newValid allowed
    rw [rpsGpuFdMapGet_copy malloc oldValid newValid kept, if_pos rfl,
      if_pos allowed]
  copy_other := by
    intro malloc oldfd newfd asked differs
    by_cases trivially : oldfd < 0 ∨ newfd < 0 ∨ oldfd = newfd
    · rw [rpsGpuFdMapCopy_of_trivial kept trivially]
    · have oldValid : 0 ≤ oldfd := by omega
      have newValid : 0 ≤ newfd := by omega
      rw [rpsGpuFdMapGet_copy malloc oldValid newValid kept,
        if_neg differs]
  copy_trivial := by
    intro malloc oldfd newfd trivially
    exact rpsGpuFdMapCopy_of_trivial kept trivially malloc
  copy_refused := by
    intro oldfd newfd absent
    exact rpsGpuFdMapCopy_of_unallocated kept absent oldfd
  clear_all := by
    intro fd
    rw [rpsGpuFdMapClear_eq_nil, rpsGpuFdMapGet_nil]

end Call

/-- The descriptor list refines a finite map: after any calls no descriptor
is negative or has two nodes, every `get` along the way and of the list
reached returns the record of the map, and each operation does to the list
what it is to do to the map, or nothing when a node cannot be allocated. -/
theorem gpuFdMap_refines (calls : List TrackerCall) :
    (∀ node, node ∈ trackerAfter calls → 0 ≤ node.fd) ∧
      (∀ fd,
        ((trackerAfter calls).countP fun node => node.fd == fd) ≤ 1) ∧
      answersTo trackerMachine [] calls =
        answersTo recordMachine ∅ calls ∧
      (∀ fd,
        rpsGpuFdMapGet fd (trackerAfter calls) =
          (afterCalls recordMachine ∅ calls).lookup fd) ∧
      MapLaws (trackerAfter calls) := by
  have kept : WellKept (trackerAfter calls) :=
    trackerMachine_refines.kept_afterCalls wellKept_nil calls
  refine ⟨kept.nonneg, kept.unique, ?_, ?_, kept.mapLaws⟩
  · exact trackerMachine_refines.answersTo_eq wellKept_nil calls
  · intro fd
    have seen :
        recordMap (trackerAfter calls) =
          afterCalls recordMachine ∅ calls :=
      trackerMachine_refines.view_afterCalls wellKept_nil calls
    rw [← seen, lookup_recordMap kept]

end RunpodShim
