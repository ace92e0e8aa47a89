import Mathlib.Data.List.Nodup
import RunpodShim.Behaviour.DirectoryScan
import RunpodShim.Library.StepRuns
import RunpodShim.Preload.TrackerRuns

/-!
# The three views of the driver

Queries of `/dev/nvidiactl` in any order: card info, attached ids and active
devices.  The id filters learn from card info alone, and what they do before
they have learned anything is their fail-open guard.
-/

namespace RunpodShim

open StepRuns

/-- A GPU as the driver knows it. -/
structure DriverGpu where
  gpuId : UInt32
  minor : UInt32
deriving DecidableEq, Repr

/-- The GPUs of a driver. -/
structure Inventory where
  gpus : List DriverGpu
  distinctIds : (gpus.map DriverGpu.gpuId).Nodup
  distinctMinors : (gpus.map DriverGpu.minor).Nodup
  validIds : ∀ gpu, gpu ∈ gpus → gpu.gpuId ≠ rpsNv0000CtrlGpuInvalidId

/-- One of the three queries, with what the driver answers. -/
inductive DriverQuery where
  | cardInfo (ret : Ret Int) (cards : List RpsNvIoctlCardInfo)
  | attachedIds (ret : Ret Int) (hClient hObject : UInt32) (status : Int)
      (gpuIds : List UInt32)
  | activeDevices (ret : Ret Int) (hClient hObject : UInt32) (status : Int)
      (params : RpsNv0000CtrlGpuGetActiveDeviceIdsParams)
deriving DecidableEq, Repr

namespace DriverQuery

def request : DriverQuery → UInt64
  | cardInfo .. => rpsIoctlCardInfoRequest
  | attachedIds .. | activeDevices .. => rpsIoctlRmControlRequest

/-- What the driver leaves in the caller's memory, in blocks of full size. -/
def reply : DriverQuery → IoctlReply
  | cardInfo ret cards => ⟨ret, some (.cardInfo cards)⟩
  | attachedIds ret hClient hObject status gpuIds =>
      ⟨ret,
        some (.rmControl
          { hClient := hClient
            hObject := hObject
            cmd := rpsNv0000CtrlCmdGpuGetAttachedIds
            params := some (.attachedIds gpuIds)
            paramsSize := 128
            status := status })⟩
  | activeDevices ret hClient hObject status params =>
      ⟨ret,
        some (.rmControl
          { hClient := hClient
            hObject := hObject
            cmd := rpsNv0000CtrlCmdGpuGetActiveDeviceIds
            params := some (.activeDevices params)
            paramsSize := 3076
            status := status })⟩

/-- The driver carried the query out. -/
def Succeeds : DriverQuery → Prop
  | cardInfo ret _ => ret.value = 0
  | attachedIds ret _ _ status _ | activeDevices ret _ _ status _ =>
      ret.value = 0 ∧ status = 0

/-- The answer lists GPUs of the inventory only. -/
def Lists (inventory : Inventory) : DriverQuery → Prop
  | cardInfo _ cards =>
      cards.length = rpsNvMaxDevices ∧
        ∀ card, card ∈ cards → card.valid ≠ 0 →
          ⟨card.gpuId, card.minorNumber⟩ ∈ inventory.gpus
  | attachedIds _ _ _ _ gpuIds =>
      gpuIds.length = rpsNv0000CtrlGpuMaxAttachedGpus ∧
        ∀ gpuId,
          gpuId ∈ gpuIds.takeWhile (· != rpsNv0000CtrlGpuInvalidId) →
            gpuId ∈ inventory.gpus.map DriverGpu.gpuId
  | activeDevices _ _ _ _ params =>
      params.devices.length = rpsNv0000CtrlGpuMaxActiveDevices ∧
        params.numDevices.toNat ≤ rpsNv0000CtrlGpuMaxActiveDevices ∧
        ∀ device,
          device ∈ params.devices.take params.numDevices.toNat →
            device.gpuId ∈ inventory.gpus.map DriverGpu.gpuId

/-- Card info that lists a GPU of the allowed set. -/
def ListsAllowed (allowed : RpsGpuAllowedGpus) : DriverQuery → Prop
  | cardInfo ret cards =>
      ret.value = 0 ∧ ∃ card, card ∈ cards ∧ Teaches (some allowed) card
  | attachedIds .. | activeDevices .. => False

end DriverQuery

/-- The caller finds the GPU in an answer. -/
def IoctlArg.Exposes (gpu : DriverGpu) : IoctlArg → Prop
  | .cardInfo cards =>
      ∃ card, card ∈ cards ∧ card.valid ≠ 0 ∧
        (card.gpuId = gpu.gpuId ∨ card.minorNumber = gpu.minor)
  | .rmControl rm =>
      match rm.params with
      | some (.attachedIds gpuIds) =>
          gpu.gpuId ∈ gpuIds.takeWhile (· != rpsNv0000CtrlGpuInvalidId)
      | some (.activeDevices params) =>
          ∃ device,
            device ∈ params.devices.take params.numDevices.toNat ∧
              device.gpuId = gpu.gpuId
      | _ => False
  | .other _ => False

/-- A driver whose world is the answer that it is about to give. -/
def driverReal : Real IoctlReply :=
  { constantReal IoctlReply 0 with
    ioctl := fun _ _ _ reply => (reply, reply) }

/-- A query through the wrapper. -/
def queryDriver (shim : Shim) (fd : Int) (state : ShimState)
    (query : DriverQuery) : IoctlReply × Process IoctlReply :=
  Preload.ioctl shim driverReal fd query.request query.reply.arg
    ⟨state, query.reply⟩

def queryStep (shim : Shim) (fd : Int) (state : ShimState)
    (query : DriverQuery) : Option ShimState :=
  some (queryDriver shim fd state query).2.state

/-- The reply exposes no GPU whose minor is not allowed. -/
def HidesUnallowed (shim : Shim) (inventory : Inventory)
    (reply : IoctlReply) : Prop :=
  ∀ arg gpu,
    reply.arg = some arg → gpu ∈ inventory.gpus →
      rpsGpuAllowedContainsMinor (some shim.allowed) gpu.minor = false →
        ¬ arg.Exposes gpu

/-- A descriptor of `/dev/nvidiactl` in a shim that filters. -/
structure FiltersCtl (shim : Shim) (fd : Int) (state : ShimState) :
    Prop where
  video : shim.config.gpuVideo = true
  ioctls : shim.config.gpuIoctl = true
  ready : shim.ready = true
  tracked :
    ∃ record,
      rpsGpuFdMapGet fd state.nodes = some record ∧
        record.kind = .nvidiaCtl

/-- Every learned id belongs to a GPU that is allowed. -/
def LearnedAllowed (shim : Shim) (inventory : Inventory)
    (learned : List UInt32) : Prop :=
  ∀ gpuId, gpuId ∈ learned →
    ∃ gpu, gpu ∈ inventory.gpus ∧ gpu.gpuId = gpuId ∧
      rpsGpuAllowedContainsMinor (some shim.allowed) gpu.minor = true

section Queries

variable {shim : Shim} {fd : Int} {state : ShimState}
variable {inventory : Inventory} {query : DriverQuery}

/-- A query on the descriptor is the filter applied to the driver's answer. -/
theorem queryDriver_eq (filters : FiltersCtl shim fd state) :
    queryDriver shim fd state query =
      (⟨query.reply.ret,
          (rpsGpuIoctlFilterAfter shim.config (some shim.allowed)
            query.request query.reply.arg query.reply.ret.value
            state.allowedGpuIds).2⟩,
        ⟨{ state with
            allowedGpuIds :=
              (rpsGpuIoctlFilterAfter shim.config (some shim.allowed)
                query.request query.reply.arg query.reply.ret.value
                state.allowedGpuIds).1 },
          query.reply⟩) := by
  obtain ⟨record, found, kind⟩ := filters.tracked
  have enabled : rpsGpuIoctlEnabled shim.config = true := by
    simp [rpsGpuIoctlEnabled, filters.video, filters.ioctls]
  simp [queryDriver, Preload.ioctl, driverReal, found, kind, enabled,
    filters.ready]

theorem FiltersCtl.queryDriver (filters : FiltersCtl shim fd state)
    (query : DriverQuery) :
    FiltersCtl shim fd (queryDriver shim fd state query).2.state where
  video := filters.video
  ioctls := filters.ioctls
  ready := filters.ready
  tracked := by
    rw [queryDriver_eq filters]
    exact filters.tracked

/-- What a query teaches. -/
theorem allowedGpuIds_queryDriver (filters : FiltersCtl shim fd state) :
    (queryDriver shim fd state query).2.state.allowedGpuIds =
      match query with
      | .cardInfo ret cards =>
          if ret.value = 0 then
            (cards.take rpsNvMaxDevices).foldl
              (recordCard (some shim.allowed)) state.allowedGpuIds
          else state.allowedGpuIds
      | _ => state.allowedGpuIds := by
  have valid := shim.ready_valid filters.ready
  rw [queryDriver_eq filters]
  cases query with
  | cardInfo ret cards =>
      by_cases succeeds : ret.value = 0
      · simp [rpsGpuIoctlFilterAfter, DriverQuery.reply,
          DriverQuery.request, succeeds, rpsGpuRecordCardInfoGpuIds,
          unusableAllowed, valid]
      · simp [rpsGpuIoctlFilterAfter, DriverQuery.reply, succeeds]
  | attachedIds ret hClient hObject status gpuIds =>
      by_cases succeeds : ret.value = 0
      · simp [rpsGpuIoctlFilterAfter, DriverQuery.reply,
          DriverQuery.request, succeeds, requests_differ]
      · simp [rpsGpuIoctlFilterAfter, DriverQuery.reply, succeeds]
  | activeDevices ret hClient hObject status params =>
      by_cases succeeds : ret.value = 0
      · simp [rpsGpuIoctlFilterAfter, DriverQuery.reply,
          DriverQuery.request, succeeds, requests_differ]
      · simp [rpsGpuIoctlFilterAfter, DriverQuery.reply, succeeds]

/-- One query keeps what is learned to allowed GPUs. -/
theorem LearnedAllowed.queryDriver (filters : FiltersCtl shim fd state)
    (learned : LearnedAllowed shim inventory state.allowedGpuIds)
    (lists : query.Succeeds → query.Lists inventory) :
    LearnedAllowed shim inventory
      (queryDriver shim fd state query).2.state.allowedGpuIds := by
  rw [allowedGpuIds_queryDriver filters]
  cases query with
  | cardInfo ret cards =>
      simp only
      split
      · rename_i succeeds
        intro gpuId member
        rcases mem_foldl_recordCard member with before | taught
        · exact learned gpuId before
        · obtain ⟨card, inCards, teaches, same⟩ := taught
          have listed :=
            (lists succeeds).2 card (List.mem_of_mem_take inCards)
              teaches.1
          exact ⟨_, listed, same, teaches.2⟩
      · exact learned
  | attachedIds ret hClient hObject status gpuIds =>
      exact learned
  | activeDevices ret hClient hObject status params =>
      exact learned

/-- One query leaves nothing learned when nothing was and it is not card info
that lists an allowed GPU. -/
theorem allowedGpuIds_queryDriver_eq_nil_iff
    (filters : FiltersCtl shim fd state)
    (lists : query.Succeeds → query.Lists inventory) :
    (queryDriver shim fd state query).2.state.allowedGpuIds = [] ↔
      state.allowedGpuIds = [] ∧ ¬ query.ListsAllowed shim.allowed := by
  rw [allowedGpuIds_queryDriver filters]
  cases query with
  | cardInfo ret cards =>
      by_cases succeeds : ret.value = 0
      · obtain ⟨sized, cardsListed⟩ := lists succeeds
        have whole : cards.take rpsNvMaxDevices = cards :=
          List.take_of_length_le (Nat.le_of_eq sized)
        simp only [succeeds, if_true, whole, foldl_recordCard_eq_nil_iff,
          DriverQuery.ListsAllowed, true_and, not_exists, not_and]
        apply and_congr_right
        intro _
        constructor
        · intro invalid card inCards teaches
          have listed := cardsListed card inCards teaches.1
          exact
            inventory.validIds _ listed (invalid card inCards teaches)
        · intro silent card inCards teaches
          exact absurd teaches (silent card inCards)
      · simp [DriverQuery.ListsAllowed, succeeds]
  | attachedIds ret hClient hObject status gpuIds =>
      simp [DriverQuery.ListsAllowed]
  | activeDevices ret hClient hObject status params =>
      simp [DriverQuery.ListsAllowed]

/-- Of two GPUs with one id there is only one. -/
theorem Inventory.eq_of_gpuId {first second : DriverGpu}
    (firstListed : first ∈ inventory.gpus)
    (secondListed : second ∈ inventory.gpus)
    (same : first.gpuId = second.gpuId) :
    first = second :=
  List.inj_on_of_nodup_map inventory.distinctIds firstListed secondListed
    same

theorem not_unallowed_of_learned {learned : List UInt32}
    (allAllowed : LearnedAllowed shim inventory learned)
    {gpu : DriverGpu} (listed : gpu ∈ inventory.gpus)
    (isLearned : gpu.gpuId ∈ learned) :
    ¬ rpsGpuAllowedContainsMinor (some shim.allowed) gpu.minor = false := by
  obtain ⟨other, otherListed, same, isAllowed⟩ :=
    allAllowed gpu.gpuId isLearned
  rw [← inventory.eq_of_gpuId otherListed listed same, isAllowed]
  simp

/-- Card info shows allowed GPUs only, whatever is learned. -/
theorem hidesUnallowed_cardInfo (filters : FiltersCtl shim fd state)
    {ret : Ret Int} {cards : List RpsNvIoctlCardInfo}
    (lists : (DriverQuery.cardInfo ret cards).Lists inventory)
    (succeeds : ret.value = 0) :
    HidesUnallowed shim inventory
      (queryDriver shim fd state (.cardInfo ret cards)).1 := by
  have valid := shim.ready_valid filters.ready
  have whole : cards.take rpsNvMaxDevices = cards :=
    List.take_of_length_le (Nat.le_of_eq lists.1)
  have nothingLeft : cards.drop rpsNvMaxDevices = [] :=
    List.drop_eq_nil_of_le (Nat.le_of_eq lists.1)
  intro arg gpu given listed unallowed exposes
  rw [queryDriver_eq filters] at given
  simp only [rpsGpuIoctlFilterAfter, DriverQuery.reply,
    DriverQuery.request, succeeds, ne_eq, not_true_eq_false, reduceCtorEq,
    or_self, if_false, if_true, filters.video, filters.ioctls,
    Bool.and_self, rpsGpuFilterCardInfo, unusableAllowed, valid,
    Bool.not_true, Bool.false_eq_true, whole, nothingLeft,
    List.append_nil, Option.some.injEq] at given
  subst given
  obtain ⟨shown, inShown, stillValid, names⟩ := exposes
  obtain ⟨card, inCards, rfl⟩ := List.mem_map.mp inShown
  obtain ⟨same, teaches⟩ := valid_hideCard stillValid
  rw [same] at names
  have cardListed := lists.2 card inCards teaches.1
  rcases names with sameId | sameMinor
  · have sameGpu := inventory.eq_of_gpuId cardListed listed sameId
    rw [← sameGpu, teaches.2] at unallowed
    cases unallowed
  · rw [← sameMinor, teaches.2] at unallowed
    cases unallowed

/-- The responses of the resource manager, filtered once something is
learned. -/
theorem hidesUnallowed_of_learned (filters : FiltersCtl shim fd state)
    (allAllowed : LearnedAllowed shim inventory state.allowedGpuIds)
    (teaching : state.allowedGpuIds ≠ [])
    (lists : query.Lists inventory) (succeeds : query.Succeeds) :
    HidesUnallowed shim inventory (queryDriver shim fd state query).1 := by
  have valid := shim.ready_valid filters.ready
  cases query with
  | cardInfo ret cards =>
      exact hidesUnallowed_cardInfo filters lists succeeds
  | attachedIds ret hClient hObject status gpuIds =>
      intro arg gpu given listed unallowed exposes
      rw [queryDriver_eq filters] at given
      simp [rpsGpuIoctlFilterAfter, DriverQuery.reply,
        DriverQuery.request, succeeds.1, succeeds.2, requests_differ,
        rpsGpuFilterRmControl, rpsGpuIoctlFilterEnabled, filters.video,
        filters.ioctls, unusableAllowed, valid,
        rpsNv0000CtrlGpuMaxAttachedGpus] at given
      subst given
      have isLearned := learned_of_mem_filtered teaching lists.1 exposes
      exact
        not_unallowed_of_learned allAllowed listed isLearned unallowed
  | activeDevices ret hClient hObject status params =>
      have otherCommand :
          rpsNv0000CtrlCmdGpuGetActiveDeviceIds ≠
            rpsNv0000CtrlCmdGpuGetAttachedIds := by
        decide
      intro arg gpu given listed unallowed exposes
      rw [queryDriver_eq filters] at given
      simp [rpsGpuIoctlFilterAfter, DriverQuery.reply,
        DriverQuery.request, succeeds.1, succeeds.2, requests_differ,
        rpsGpuFilterRmControl, rpsGpuIoctlFilterEnabled, filters.video,
        filters.ioctls, unusableAllowed, valid, otherCommand,
        rpsNv0000CtrlGpuMaxActiveDevices] at given
      subst given
      obtain ⟨device, inDevices, same⟩ := exposes
      have isLearned := learned_of_mem_filteredDevices teaching inDevices
      rw [same] at isLearned
      exact
        not_unallowed_of_learned allAllowed listed isLearned unallowed

/-- Before anything is learned the resource manager's answers are the
driver's. -/
theorem queryDriver_of_nothing_learned (filters : FiltersCtl shim fd state)
    (nothing : state.allowedGpuIds = [])
    (rmControl : query.request = rpsIoctlRmControlRequest) :
    (queryDriver shim fd state query).1 = query.reply := by
  rw [queryDriver_eq filters, rmControl, nothing]
  cases query with
  | cardInfo ret cards =>
      exact absurd rmControl.symm requests_differ
  | attachedIds ret hClient hObject status gpuIds =>
      simp [rpsGpuIoctlFilterAfter, DriverQuery.reply, requests_differ,
        rpsGpuFilterRmControl, rpsGpuFilterGpuIdArray]
  | activeDevices ret hClient hObject status params =>
      simp [rpsGpuIoctlFilterAfter, DriverQuery.reply, requests_differ,
        rpsGpuFilterRmControl, rpsGpuFilterActiveDevices]

end Queries

/-! ## Runs of queries -/

section Runs

variable {shim : Shim} {fd : Int} {inventory : Inventory}

/-- A run keeps what is learned to allowed GPUs, and something is learned
exactly when some card info listed one. -/
theorem learned_of_run {queries : List DriverQuery}
    {start finish : ShimState} (filters : FiltersCtl shim fd start)
    (learned : LearnedAllowed shim inventory start.allowedGpuIds)
    (lists :
      ∀ query, query ∈ queries → query.Succeeds → query.Lists inventory)
    (run : runFrom (queryStep shim fd) start queries = some finish) :
    FiltersCtl shim fd finish ∧
      LearnedAllowed shim inventory finish.allowedGpuIds ∧
      (finish.allowedGpuIds = [] ↔
        start.allowedGpuIds = [] ∧
          ∀ query, query ∈ queries →
            ¬ query.ListsAllowed shim.allowed) := by
  induction queries generalizing start with
  | nil =>
      cases run
      exact ⟨filters, learned, by simp⟩
  | cons query rest inductionHypothesis =>
      have later :
          runFrom (queryStep shim fd)
            (queryDriver shim fd start query).2.state rest =
              some finish :=
        run
      have queryLists := lists query List.mem_cons_self
      obtain ⟨filtersLater, learnedLater, nothingLater⟩ :=
        inductionHypothesis (filters.queryDriver query)
          (learned.queryDriver filters queryLists)
          (fun other inRest => lists other (List.mem_cons_of_mem _ inRest))
          later
      refine ⟨filtersLater, learnedLater, ?_⟩
      rw [nothingLater,
        allowedGpuIds_queryDriver_eq_nil_iff filters queryLists, and_assoc,
        List.forall_mem_cons]

/-- After any run, card info shows no GPU that is not allowed; the other two
views show none once some card info of the run has listed an allowed GPU, and
before that they are handed back as the driver wrote them. -/
theorem driverViews {queries : List DriverQuery}
    {start finish : ShimState} (filters : FiltersCtl shim fd start)
    (nothing : start.allowedGpuIds = [])
    (lists :
      ∀ query, query ∈ queries → query.Succeeds → query.Lists inventory)
    (run : runFrom (queryStep shim fd) start queries = some finish)
    {query : DriverQuery} (queryLists : query.Lists inventory)
    (succeeds : query.Succeeds) :
    (query.request = rpsIoctlCardInfoRequest ∨
        (∃ earlier, earlier ∈ queries ∧
          earlier.ListsAllowed shim.allowed) →
      HidesUnallowed shim inventory
        (queryDriver shim fd finish query).1) ∧
    (query.request = rpsIoctlRmControlRequest →
      (∀ earlier, earlier ∈ queries →
        ¬ earlier.ListsAllowed shim.allowed) →
        (queryDriver shim fd finish query).1 = query.reply) := by
  have nobody :
      LearnedAllowed shim inventory start.allowedGpuIds := by
    intro gpuId member
    rw [nothing] at member
    cases member
  obtain ⟨filtersNow, allAllowed, nothingIff⟩ :=
    learned_of_run filters nobody lists run
  constructor
  · intro either
    rcases either with isCardInfo | ⟨earlier, inRun, listsAllowed⟩
    · cases query with
      | cardInfo ret cards =>
          exact hidesUnallowed_cardInfo filtersNow queryLists succeeds
      | attachedIds ret hClient hObject status gpuIds =>
          exact absurd isCardInfo requests_differ
      | activeDevices ret hClient hObject status params =>
          exact absurd isCardInfo requests_differ
    · apply hidesUnallowed_of_learned filtersNow allAllowed _ queryLists
        succeeds
      intro stillNothing
      exact (nothingIff.mp stillNothing).2 earlier inRun listsAllowed
  · intro rmControl silent
    apply queryDriver_of_nothing_learned filtersNow _ rmControl
    exact nothingIff.mpr ⟨nothing, silent⟩

end Runs

/-! ## Two GPUs -/

/-- A driver with the mounted GPU and another one. -/
def twoGpus : Inventory where
  gpus := [⟨0xa, 4⟩, ⟨0xb, 5⟩]
  distinctIds := by decide
  distinctMinors := by decide
  validIds := by decide

/-- A card of the driver's table. -/
def cardOf (valid : UInt8) (gpu : DriverGpu) : RpsNvIoctlCardInfo where
  valid := valid
  pciInfo := ⟨0, 0, 0, 0, 0, 0⟩
  gpuId := gpu.gpuId
  interruptLine := 0
  regAddress := 0
  regSize := 0
  fbAddress := 0
  fbSize := 0
  minorNumber := gpu.minor
  devName := []

/-- Card info of both. -/
def bothCards : DriverQuery :=
  .cardInfo ⟨0, 0⟩
    (twoGpus.gpus.map (cardOf 1) ++ List.replicate 30 (cardOf 0 ⟨0, 0⟩))

/-- The attached ids of both. -/
def bothIds : DriverQuery :=
  .attachedIds ⟨0, 0⟩ 0 0 0
    ([0xa, 0xb] ++ List.replicate 30 rpsNv0000CtrlGpuInvalidId)

theorem lists_bothIds : bothIds.Lists twoGpus := by
  have shown :
      ([0xa, 0xb] ++ List.replicate 30 rpsNv0000CtrlGpuInvalidId).takeWhile
          (· != rpsNv0000CtrlGpuInvalidId) = twoGpus.gpus.map DriverGpu.gpuId := by
    decide
  constructor
  · decide
  · rw [shown]
    exact fun _ member => member

/-- A process that has `/dev/nvidiactl` open as descriptor 3. -/
def ctlState : ShimState :=
  { ShimState.initial with
    nodes := [⟨3, (rpsGpuClassifyPath (some (cstr "/dev/nvidiactl"))).2⟩] }

theorem filtersCtl_ctlState : FiltersCtl containerShim 3 ctlState where
  video := rfl
  ioctls := rfl
  ready := rfl
  tracked := ⟨_, rfl, rfl⟩

/-- After card info the attached ids show the mounted GPU only. -/
theorem driverViews_bothIds :
    HidesUnallowed containerShim twoGpus
      (queryDriver containerShim 3
        (queryDriver containerShim 3 ctlState bothCards).2.state
        bothIds).1 := by
  have cardsList : bothCards.Lists twoGpus :=
    ⟨by decide, by decide⟩
  have run :
      runFrom (queryStep containerShim 3) ctlState [bothCards] =
        some (queryDriver containerShim 3 ctlState bothCards).2.state :=
    rfl
  apply
    (driverViews filtersCtl_ctlState rfl _ run lists_bothIds ⟨rfl, rfl⟩).1
  · right
    exact
      ⟨bothCards, List.mem_cons_self, rfl, cardOf 1 ⟨0xa, 4⟩, by decide,
        by decide, by decide⟩
  · intro query member _
    rw [List.mem_singleton.mp member]
    exact cardsList

/-- Asked first, they show the other one as well. -/
theorem not_hidesUnallowed_bothIds :
    ∃ finish,
      runFrom (queryStep containerShim 3) ctlState [] = some finish ∧
        FiltersCtl containerShim 3 finish ∧
        bothIds.Lists twoGpus ∧ bothIds.Succeeds ∧
        ¬ HidesUnallowed containerShim twoGpus
          (queryDriver containerShim 3 finish bothIds).1 := by
  refine
    ⟨ctlState, rfl, filtersCtl_ctlState, lists_bothIds, ⟨rfl, rfl⟩, ?_⟩
  intro hides
  have same :
      (queryDriver containerShim 3 ctlState bothIds).1.arg =
        bothIds.reply.arg := by
    decide
  have hidden :=
    hides _ ⟨0xb, 5⟩ same (by decide) (by decide)
  apply hidden
  show (0xb : UInt32) ∈ _
  decide

end RunpodShim
