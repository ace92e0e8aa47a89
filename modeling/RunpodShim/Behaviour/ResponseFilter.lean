import RunpodShim.Behaviour.LearnedIds

/-!
# Filtered responses

What the ioctl filter leaves of a response: the entries of the two RM answers
that were learned, the cards with their `valid` bytes, and everything else as
it was.
-/

namespace RunpodShim

open FirstSeen

/-- The learned ids of an id array before its terminator, in order. -/
def listedGpuIds (learned gpuIds : List UInt32) : List UInt32 :=
  (gpuIds.takeWhile (· != rpsNv0000CtrlGpuInvalidId)).filter
    fun gpuId => decide (gpuId ∈ learned)

/-- The learned devices among those that an active-device block counts, in
order. -/
def listedDevices (learned : List UInt32)
    (params : RpsNv0000CtrlGpuGetActiveDeviceIdsParams) :
    List RpsNv0000CtrlGpuActiveDevice :=
  (params.devices.take (min params.numDevices.toNat 256)).filter
    fun device => decide (device.gpuId ∈ learned)

/-- A successful RM control call whose response may be filtered. -/
structure RmOpen (cfg : RpsConfig) (allowed : Option RpsGpuAllowedGpus)
    (request : UInt64) (result : Int) (learned : List UInt32)
    (rm : RpsNvos54Parameters) : Prop where
  video : cfg.gpuVideo = true
  ioctl : cfg.gpuIoctl = true
  usable : unusableAllowed allowed = false
  asked : request = rpsIoctlRmControlRequest
  succeeded : result = 0
  status : rm.status = 0
  teaching : learned ≠ []

/-- The call asked for the attached ids, and the array is all there. -/
structure AsksAttached (rm : RpsNvos54Parameters)
    (gpuIds : List UInt32) : Prop where
  cmd : rm.cmd = rpsNv0000CtrlCmdGpuGetAttachedIds
  sized : 4 * 32 ≤ rm.paramsSize.toNat
  params : rm.params = some (.attachedIds gpuIds)

/-- The call asked for the active devices, and the block is all there. -/
structure AsksActive (rm : RpsNvos54Parameters)
    (params : RpsNv0000CtrlGpuGetActiveDeviceIdsParams) : Prop where
  cmd : rm.cmd = rpsNv0000CtrlCmdGpuGetActiveDeviceIds
  sized : 4 + 12 * 256 ≤ rm.paramsSize.toNat
  params : rm.params = some (.activeDevices params)

/-- A successful card information call whose response may be filtered. -/
structure CardsOpen (cfg : RpsConfig) (allowed : Option RpsGpuAllowedGpus)
    (request : UInt64) (result : Int) : Prop where
  video : cfg.gpuVideo = true
  ioctl : cfg.gpuIoctl = true
  usable : unusableAllowed allowed = false
  asked : request = rpsIoctlCardInfoRequest
  succeeded : result = 0

/-! ## The id array -/

section IdArray

variable {learned gpuIds : List UInt32}

/-- Under the bound of the temporary the first loop is a filter up to the
terminator. -/
theorem keepGpuIds_eq (kept : List UInt32)
    (room : kept.length + gpuIds.length ≤ rpsGpuMaxGpus) :
    keepGpuIds learned kept gpuIds = kept ++ listedGpuIds learned gpuIds := by
  induction gpuIds generalizing kept with
  | nil =>
      simp [keepGpuIds, listedGpuIds]
  | cons gpuId rest inductionHypothesis =>
      rw [List.length_cons] at room
      by_cases invalid : gpuId = rpsNv0000CtrlGpuInvalidId
      · rw [keepGpuIds, if_pos invalid]
        simp [listedGpuIds, invalid]
      · rw [keepGpuIds, if_neg invalid]
        by_cases isLearned : gpuId ∈ learned
        · have keeps :
              rpsGpuIdIsAllowedLocked learned gpuId = true ∧
                kept.length < rpsGpuMaxGpus := by
            refine ⟨?_, by omega⟩
            simpa [rpsGpuIdIsAllowedLocked] using isLearned
          have more :
              (kept ++ [gpuId]).length + rest.length ≤ rpsGpuMaxGpus := by
            rw [List.length_append, List.length_singleton]
            omega
          rw [if_pos keeps, inductionHypothesis _ more]
          simp [listedGpuIds, invalid, isLearned]
        · have drops :
              ¬ (rpsGpuIdIsAllowedLocked learned gpuId = true ∧
                kept.length < rpsGpuMaxGpus) := by
            intro keeps
            exact
              isLearned
                (by simpa [rpsGpuIdIsAllowedLocked] using keeps.1)
          rw [if_neg drops, inductionHypothesis _ (by omega)]
          simp [listedGpuIds, invalid, isLearned]

theorem length_listedGpuIds_le :
    (listedGpuIds learned gpuIds).length ≤ gpuIds.length :=
  Nat.le_trans (List.length_filter_le _ _)
    (List.takeWhile_sublist _).length_le

/-- Listing the ids again, before any padding, lists the same ids. -/
theorem listedGpuIds_append_invalid (count : Nat) :
    listedGpuIds learned
        (listedGpuIds learned gpuIds ++
          List.replicate count rpsNv0000CtrlGpuInvalidId) =
      listedGpuIds learned gpuIds := by
  have valid :
      ∀ gpuId, gpuId ∈ listedGpuIds learned gpuIds →
        (gpuId != rpsNv0000CtrlGpuInvalidId) = true := by
    intro gpuId member
    have isValid :=
      List.mem_takeWhile_imp (List.mem_filter.mp member).1
    exact isValid
  have padding :
      (List.replicate count rpsNv0000CtrlGpuInvalidId).takeWhile
        (· != rpsNv0000CtrlGpuInvalidId) = [] := by
    cases count with
    | zero =>
        rfl
    | succ count =>
        simp [List.replicate_succ]
  rw [listedGpuIds, List.takeWhile_append_of_pos valid, padding,
    List.append_nil]
  rw [listedGpuIds, List.filter_filter]
  simp

theorem rpsGpuFilterGpuIdArray_eq (teaching : learned ≠ []) :
    rpsGpuFilterGpuIdArray learned gpuIds
        rpsNv0000CtrlGpuMaxAttachedGpus =
      listedGpuIds learned (gpuIds.take 32) ++
        List.replicate
          (32 - (listedGpuIds learned (gpuIds.take 32)).length)
          rpsNv0000CtrlGpuInvalidId ++
        gpuIds.drop 32 := by
  have some : rpsNv0000CtrlGpuMaxAttachedGpus ≠ 0 := by
    decide
  have room :
      ([] : List UInt32).length + (gpuIds.take 32).length ≤
        rpsGpuMaxGpus := by
    rw [List.length_nil, Nat.zero_add]
    exact List.length_take_le 32 gpuIds
  have kept :
      keepGpuIds learned []
          (gpuIds.take rpsNv0000CtrlGpuMaxAttachedGpus) =
        listedGpuIds learned (gpuIds.take 32) :=
    keepGpuIds_eq [] room
  rw [rpsGpuFilterGpuIdArray, if_neg some, if_neg teaching]
  simp only [kept]
  rfl

/-- The first 32 entries after the filter are the listed ids and their
padding. -/
theorem take_rpsGpuFilterGpuIdArray (teaching : learned ≠ []) :
    (rpsGpuFilterGpuIdArray learned gpuIds
        rpsNv0000CtrlGpuMaxAttachedGpus).take 32 =
      listedGpuIds learned (gpuIds.take 32) ++
        List.replicate
          (32 - (listedGpuIds learned (gpuIds.take 32)).length)
          rpsNv0000CtrlGpuInvalidId := by
  have few :
      (listedGpuIds learned (gpuIds.take 32)).length ≤ 32 :=
    Nat.le_trans length_listedGpuIds_le (List.length_take_le 32 gpuIds)
  rw [rpsGpuFilterGpuIdArray_eq teaching]
  apply List.take_left'
  rw [List.length_append, List.length_replicate]
  omega

theorem rpsGpuFilterGpuIdArray_idempotent :
    rpsGpuFilterGpuIdArray learned
        (rpsGpuFilterGpuIdArray learned gpuIds
          rpsNv0000CtrlGpuMaxAttachedGpus)
        rpsNv0000CtrlGpuMaxAttachedGpus =
      rpsGpuFilterGpuIdArray learned gpuIds
        rpsNv0000CtrlGpuMaxAttachedGpus := by
  by_cases teaching : learned = []
  · simp [rpsGpuFilterGpuIdArray, teaching]
  · have again :
        listedGpuIds learned
            ((rpsGpuFilterGpuIdArray learned gpuIds
              rpsNv0000CtrlGpuMaxAttachedGpus).take 32) =
          listedGpuIds learned (gpuIds.take 32) := by
      rw [take_rpsGpuFilterGpuIdArray teaching]
      exact listedGpuIds_append_invalid _
    rw [rpsGpuFilterGpuIdArray_eq teaching, again,
      ← take_rpsGpuFilterGpuIdArray teaching]
    exact List.take_append_drop 32 _

end IdArray

/-! ## The active-device block -/

section ActiveBlock

variable {learned : List UInt32}
variable {params : RpsNv0000CtrlGpuGetActiveDeviceIdsParams}

theorem length_listedDevices_le :
    (listedDevices learned params).length ≤ 256 := by
  have filtered :
      (listedDevices learned params).length ≤
        (params.devices.take (min params.numDevices.toNat 256)).length :=
    List.length_filter_le _ _
  have taken :=
    List.length_take_le (min params.numDevices.toNat 256) params.devices
  omega

theorem rpsGpuFilterActiveDevices_eq (teaching : learned ≠ [])
    (params : RpsNv0000CtrlGpuGetActiveDeviceIdsParams) :
    rpsGpuFilterActiveDevices learned params =
      { numDevices := UInt32.ofNat (listedDevices learned params).length
        devices :=
          listedDevices learned params ++
            List.replicate (256 - (listedDevices learned params).length)
              zeroActiveDevice } := by
  have clamped :
      (if params.numDevices.toNat > rpsNv0000CtrlGpuMaxActiveDevices then
        rpsNv0000CtrlGpuMaxActiveDevices
      else params.numDevices.toNat) = min params.numDevices.toNat 256 := by
    have most : rpsNv0000CtrlGpuMaxActiveDevices = 256 := rfl
    split <;> omega
  have kept :
      ((params.devices.take (min params.numDevices.toNat 256)).filter
        fun device => rpsGpuIdIsAllowedLocked learned device.gpuId) =
        listedDevices learned params := by
    apply List.filter_congr
    intro device _
    simp [rpsGpuIdIsAllowedLocked]
  rw [rpsGpuFilterActiveDevices, if_neg teaching]
  simp only [clamped, kept]
  rfl

theorem numDevices_rpsGpuFilterActiveDevices (teaching : learned ≠ []) :
    (rpsGpuFilterActiveDevices learned params).numDevices.toNat =
      (listedDevices learned params).length := by
  have few : (listedDevices learned params).length ≤ 256 :=
    length_listedDevices_le
  rw [rpsGpuFilterActiveDevices_eq teaching]
  apply UInt32.toNat_ofNat_of_lt'
  simp only [UInt32.size]
  omega

/-- The devices that a filtered block counts are all learned. -/
theorem listedDevices_rpsGpuFilterActiveDevices (teaching : learned ≠ []) :
    listedDevices learned (rpsGpuFilterActiveDevices learned params) =
      listedDevices learned params := by
  have few : (listedDevices learned params).length ≤ 256 :=
    length_listedDevices_le
  have counted :
      min (rpsGpuFilterActiveDevices learned params).numDevices.toNat 256 =
        (listedDevices learned params).length := by
    rw [numDevices_rpsGpuFilterActiveDevices teaching]
    omega
  have devices :
      (rpsGpuFilterActiveDevices learned params).devices =
        listedDevices learned params ++
          List.replicate (256 - (listedDevices learned params).length)
            zeroActiveDevice := by
    rw [rpsGpuFilterActiveDevices_eq teaching]
  rw [listedDevices, counted, devices, List.take_left]
  simp [listedDevices, List.filter_filter]

theorem rpsGpuFilterActiveDevices_idempotent :
    rpsGpuFilterActiveDevices learned
        (rpsGpuFilterActiveDevices learned params) =
      rpsGpuFilterActiveDevices learned params := by
  by_cases teaching : learned = []
  · simp [rpsGpuFilterActiveDevices, teaching]
  · have again :=
      rpsGpuFilterActiveDevices_eq teaching
        (rpsGpuFilterActiveDevices learned params)
    rw [again, listedDevices_rpsGpuFilterActiveDevices teaching,
      ← rpsGpuFilterActiveDevices_eq teaching]

end ActiveBlock

/-! ## The cards -/

section Cards

variable {allowed : Option RpsGpuAllowedGpus}
variable {cards : List RpsNvIoctlCardInfo}

/-- A card with the `valid` byte that its minor is to have. -/
def cardShown (allowed : Option RpsGpuAllowedGpus)
    (card : RpsNvIoctlCardInfo) : RpsNvIoctlCardInfo :=
  if rpsGpuAllowedContainsMinor allowed card.minorNumber = true then card
  else { card with valid := 0 }

theorem hideCard_eq_cardShown (card : RpsNvIoctlCardInfo) :
    hideCard allowed card = cardShown allowed card := by
  rw [hideCard, cardShown]
  by_cases shown :
      rpsGpuAllowedContainsMinor allowed card.minorNumber = true
  · simp [shown]
  · by_cases invalid : card.valid = 0
    · obtain ⟨valid, pciInfo, gpuId, interruptLine, regAddress, regSize,
        fbAddress, fbSize, minorNumber, devName⟩ := card
      simp only at invalid shown
      simp [shown, invalid]
    · simp [shown, invalid]

theorem cardShown_idempotent (card : RpsNvIoctlCardInfo) :
    cardShown allowed (cardShown allowed card) = cardShown allowed card := by
  by_cases shown :
      rpsGpuAllowedContainsMinor allowed card.minorNumber = true
  · simp [cardShown, shown]
  · simp [cardShown, shown]

theorem rpsGpuFilterCardInfo_eq (usable : unusableAllowed allowed = false)
    (count : Nat) :
    rpsGpuFilterCardInfo allowed cards count =
      (cards.take count).map (cardShown allowed) ++ cards.drop count := by
  have same : hideCard allowed = cardShown allowed :=
    funext hideCard_eq_cardShown
  rw [rpsGpuFilterCardInfo, usable, same]
  rfl

theorem rpsGpuFilterCardInfo_idempotent (count : Nat) :
    rpsGpuFilterCardInfo allowed
        (rpsGpuFilterCardInfo allowed cards count) count =
      rpsGpuFilterCardInfo allowed cards count := by
  cases usable : unusableAllowed allowed with
  | true =>
      simp [rpsGpuFilterCardInfo, usable]
  | false =>
      rw [rpsGpuFilterCardInfo_eq usable, rpsGpuFilterCardInfo_eq usable]
      rcases Nat.le_total count cards.length with enough | short
      · have first :
            ((cards.take count).map (cardShown allowed)).length = count := by
          rw [List.length_map, List.length_take]
          omega
        rw [List.take_left' first, List.drop_left' first, List.map_map]
        congr 1
        apply List.map_congr_left
        intro card _
        exact cardShown_idempotent card
      · rw [List.take_of_length_le short, List.drop_eq_nil_of_le short,
          List.append_nil, List.take_of_length_le (by simpa using short),
          List.drop_eq_nil_of_le (by simpa using short), List.append_nil,
          List.map_map]
        apply List.map_congr_left
        intro card _
        exact cardShown_idempotent card

/-- Every card keeps its place and all but its `valid` byte. -/
theorem getElem?_rpsGpuFilterCardInfo
    (usable : unusableAllowed allowed = false) {count place : Nat}
    {card : RpsNvIoctlCardInfo} (here : cards[place]? = some card) :
    (rpsGpuFilterCardInfo allowed cards count)[place]? =
      some (if place < count then cardShown allowed card else card) := by
  have inCards : place < cards.length := by
    apply Nat.lt_of_not_le
    intro outside
    rw [List.getElem?_eq_none outside] at here
    cases here
  rw [rpsGpuFilterCardInfo_eq usable]
  by_cases early : place < count
  · have inMapped :
        place < ((cards.take count).map (cardShown allowed)).length := by
      rw [List.length_map, List.length_take]
      omega
    rw [if_pos early, List.getElem?_append_left inMapped, List.getElem?_map,
      List.getElem?_take_of_lt early, here]
    rfl
  · have taken :
        ((cards.take count).map (cardShown allowed)).length = count := by
      rw [List.length_map, List.length_take]
      omega
    rw [if_neg early, List.getElem?_append_right (by omega), taken,
      List.getElem?_drop, Nat.add_sub_cancel' (Nat.le_of_not_lt early), here]

theorem length_rpsGpuFilterCardInfo (count : Nat) :
    (rpsGpuFilterCardInfo allowed cards count).length = cards.length := by
  rw [rpsGpuFilterCardInfo]
  split
  · rfl
  · rw [List.length_append, List.length_map, List.length_take,
      List.length_drop]
    omega

/-- Recording the cards of a filtered response adds nothing. -/
theorem rpsGpuRecordCardInfoGpuIds_again {learned : List UInt32}
    {again : List RpsNvIoctlCardInfo} {count : Nat}
    (same :
      again = cards ∨ again = rpsGpuFilterCardInfo allowed cards count) :
    rpsGpuRecordCardInfoGpuIds allowed again count
        (rpsGpuRecordCardInfoGpuIds allowed cards count learned) =
      rpsGpuRecordCardInfoGpuIds allowed cards count learned := by
  have offered :
      taughtIds allowed (again.take count) ⊆
        taughtIds allowed (cards.take count) := by
    intro gpuId member
    obtain ⟨⟨card, inAgain, teaches, isId⟩, valid⟩ :=
      mem_taughtIds.mp member
    refine mem_taughtIds.mpr ⟨⟨card, ?_, teaches, isId⟩, valid⟩
    rcases same with asBefore | filtered
    · rw [← asBefore]
      exact inAgain
    · rw [filtered] at inAgain
      exact mem_of_mem_filterCardInfo inAgain teaches
  simp only [rpsGpuRecordCardInfoGpuIds_eq, foldl_recordCard_eq]
  exact foldl_remember_again offered

end Cards

/-! ## The RM response -/

section RmControl

variable {cfg : RpsConfig} {allowed : Option RpsGpuAllowedGpus}
variable {result : Int} {learned : List UInt32} {rm : RpsNvos54Parameters}

theorem rpsGpuIoctlFilterEnabled_iff :
    rpsGpuIoctlFilterEnabled cfg allowed result rm = true ↔
      cfg.gpuVideo = true ∧ cfg.gpuIoctl = true ∧
        unusableAllowed allowed = false ∧ result = 0 ∧ rm.status = 0 ∧
          rm.params.isSome = true := by
  simp [rpsGpuIoctlFilterEnabled, and_assoc]

/-- Rewriting the parameters leaves the filter enabled. -/
theorem rpsGpuIoctlFilterEnabled_rewritten (params : RmParams)
    (enabled : rpsGpuIoctlFilterEnabled cfg allowed result rm = true) :
    rpsGpuIoctlFilterEnabled cfg allowed result
      { rm with params := some params } = true := by
  obtain ⟨video, ioctl, usable, succeeded, status, _⟩ :=
    rpsGpuIoctlFilterEnabled_iff.mp enabled
  exact
    rpsGpuIoctlFilterEnabled_iff.mpr
      ⟨video, ioctl, usable, succeeded, status, rfl⟩

theorem rpsGpuFilterRmControl_of_attached (learned : List UInt32)
    {gpuIds : List UInt32}
    (enabled : rpsGpuIoctlFilterEnabled cfg allowed result rm = true)
    (asks : AsksAttached rm gpuIds) :
    rpsGpuFilterRmControl cfg allowed learned rm result =
      { rm with
        params :=
          some (.attachedIds
            (rpsGpuFilterGpuIdArray learned gpuIds
              rpsNv0000CtrlGpuMaxAttachedGpus)) } := by
  have asked :
      rm.cmd = rpsNv0000CtrlCmdGpuGetAttachedIds ∧
        rm.paramsSize.toNat ≥ 4 * rpsNv0000CtrlGpuMaxAttachedGpus :=
    ⟨asks.cmd, asks.sized⟩
  rw [rpsGpuFilterRmControl, enabled, if_neg (by simp), if_pos asked]
  simp only [asks.params]

theorem rpsGpuFilterRmControl_of_active (learned : List UInt32)
    {params : RpsNv0000CtrlGpuGetActiveDeviceIdsParams}
    (enabled : rpsGpuIoctlFilterEnabled cfg allowed result rm = true)
    (asks : AsksActive rm params) :
    rpsGpuFilterRmControl cfg allowed learned rm result =
      { rm with
        params :=
          some (.activeDevices
            (rpsGpuFilterActiveDevices learned params)) } := by
  have notAttached :
      ¬ (rm.cmd = rpsNv0000CtrlCmdGpuGetAttachedIds ∧
        rm.paramsSize.toNat ≥ 4 * rpsNv0000CtrlGpuMaxAttachedGpus) := by
    intro attached
    have same := attached.1.symm.trans asks.cmd
    exact absurd same (by decide)
  have asked :
      rm.cmd = rpsNv0000CtrlCmdGpuGetActiveDeviceIds ∧
        rm.paramsSize.toNat ≥
          4 + 12 * rpsNv0000CtrlGpuMaxActiveDevices :=
    ⟨asks.cmd, asks.sized⟩
  rw [rpsGpuFilterRmControl, enabled, if_neg (by simp), if_neg notAttached,
    if_pos asked]
  simp only [asks.params]

/-- An RM response is rewritten only when the filter is enabled and one of
the two answers is there. -/
theorem rpsGpuFilterRmControl_eq_self
    (attached :
      ∀ gpuIds, rpsGpuIoctlFilterEnabled cfg allowed result rm = true →
        ¬ AsksAttached rm gpuIds)
    (active :
      ∀ params, rpsGpuIoctlFilterEnabled cfg allowed result rm = true →
        ¬ AsksActive rm params) :
    rpsGpuFilterRmControl cfg allowed learned rm result = rm := by
  cases enabled : rpsGpuIoctlFilterEnabled cfg allowed result rm with
  | false =>
      rw [rpsGpuFilterRmControl, enabled]
      rfl
  | true =>
      rw [rpsGpuFilterRmControl, enabled, if_neg (by simp)]
      split
      · rename_i asked
        split
        · rename_i gpuIds isArray
          exact
            absurd ⟨asked.1, asked.2, isArray⟩ (attached gpuIds enabled)
        · rfl
      · split
        · rename_i asked
          split
          · rename_i params isBlock
            exact
              absurd ⟨asked.1, asked.2, isBlock⟩ (active params enabled)
          · rfl
        · rfl

theorem rpsGpuFilterRmControl_of_nil
    (nothing : learned = []) :
    rpsGpuFilterRmControl cfg allowed learned rm result = rm := by
  by_cases attached :
      ∃ gpuIds, rpsGpuIoctlFilterEnabled cfg allowed result rm = true ∧
        AsksAttached rm gpuIds
  · obtain ⟨gpuIds, enabled, asks⟩ := attached
    rw [rpsGpuFilterRmControl_of_attached learned enabled asks]
    simp [rpsGpuFilterGpuIdArray, nothing, ← asks.params]
  · by_cases active :
        ∃ params, rpsGpuIoctlFilterEnabled cfg allowed result rm = true ∧
          AsksActive rm params
    · obtain ⟨params, enabled, asks⟩ := active
      rw [rpsGpuFilterRmControl_of_active learned enabled asks]
      simp [rpsGpuFilterActiveDevices, nothing, ← asks.params]
    · apply rpsGpuFilterRmControl_eq_self
      · intro gpuIds enabled asks
        exact attached ⟨gpuIds, enabled, asks⟩
      · intro params enabled asks
        exact active ⟨params, enabled, asks⟩

theorem rpsGpuFilterRmControl_idempotent :
    rpsGpuFilterRmControl cfg allowed learned
        (rpsGpuFilterRmControl cfg allowed learned rm result) result =
      rpsGpuFilterRmControl cfg allowed learned rm result := by
  by_cases attached :
      ∃ gpuIds, rpsGpuIoctlFilterEnabled cfg allowed result rm = true ∧
        AsksAttached rm gpuIds
  · obtain ⟨gpuIds, enabled, asks⟩ := attached
    have rewritten :=
      rpsGpuFilterRmControl_of_attached learned
        (rpsGpuIoctlFilterEnabled_rewritten
          (.attachedIds
            (rpsGpuFilterGpuIdArray learned gpuIds
              rpsNv0000CtrlGpuMaxAttachedGpus)) enabled)
        ⟨asks.cmd, asks.sized, rfl⟩
    rw [rpsGpuFilterRmControl_of_attached learned enabled asks, rewritten,
      rpsGpuFilterGpuIdArray_idempotent]
  · by_cases active :
        ∃ params, rpsGpuIoctlFilterEnabled cfg allowed result rm = true ∧
          AsksActive rm params
    · obtain ⟨params, enabled, asks⟩ := active
      have rewritten :=
        rpsGpuFilterRmControl_of_active learned
          (rpsGpuIoctlFilterEnabled_rewritten
            (.activeDevices (rpsGpuFilterActiveDevices learned params))
            enabled)
          ⟨asks.cmd, asks.sized, rfl⟩
      rw [rpsGpuFilterRmControl_of_active learned enabled asks, rewritten,
        rpsGpuFilterActiveDevices_idempotent]
    · have unchanged :
          rpsGpuFilterRmControl cfg allowed learned rm result = rm := by
        apply rpsGpuFilterRmControl_eq_self
        · intro gpuIds enabled asks
          exact attached ⟨gpuIds, enabled, asks⟩
        · intro params enabled asks
          exact active ⟨params, enabled, asks⟩
      rw [unchanged, unchanged]

end RmControl

/-! ## The whole filter -/

section Whole

variable {cfg : RpsConfig} {allowed : Option RpsGpuAllowedGpus}
variable {request : UInt64} {result : Int} {learned : List UInt32}

theorem rpsGpuIoctlFilterAfter_of_failed {arg : Option IoctlArg}
    (failed : result ≠ 0 ∨ arg = none) :
    rpsGpuIoctlFilterAfter cfg allowed request arg result learned =
      (learned, arg) :=
  if_pos failed

theorem rpsGpuIoctlFilterAfter_cardInfo
    (asked : request = rpsIoctlCardInfoRequest) (succeeded : result = 0)
    (cards : List RpsNvIoctlCardInfo) :
    rpsGpuIoctlFilterAfter cfg allowed request (some (.cardInfo cards))
        result learned =
      (rpsGpuRecordCardInfoGpuIds allowed cards rpsNvMaxDevices learned,
        some (.cardInfo
          (if cfg.gpuVideo && cfg.gpuIoctl then
            rpsGpuFilterCardInfo allowed cards rpsNvMaxDevices
          else cards))) := by
  simp [rpsGpuIoctlFilterAfter, succeeded, asked]

theorem rpsGpuIoctlFilterAfter_rmControl
    (asked : request = rpsIoctlRmControlRequest) (succeeded : result = 0)
    (rm : RpsNvos54Parameters) :
    rpsGpuIoctlFilterAfter cfg allowed request (some (.rmControl rm))
        result learned =
      (learned,
        some (.rmControl
          (rpsGpuFilterRmControl cfg allowed learned rm result))) := by
  simp [rpsGpuIoctlFilterAfter, succeeded, asked, requests_differ]

/-- Any other call passes. -/
theorem rpsGpuIoctlFilterAfter_of_other {arg : Option IoctlArg}
    (noCards :
      request = rpsIoctlCardInfoRequest →
        ∀ cards, arg ≠ some (.cardInfo cards))
    (noRm :
      request = rpsIoctlRmControlRequest →
        ∀ rm, arg ≠ some (.rmControl rm)) :
    rpsGpuIoctlFilterAfter cfg allowed request arg result learned =
      (learned, arg) := by
  unfold rpsGpuIoctlFilterAfter
  split
  · rfl
  · split
    · rename_i asked
      split
      · exact absurd rfl (noCards asked _)
      · rfl
    · split
      · rename_i asked
        split
        · exact absurd rfl (noRm asked _)
        · rfl
      · rfl

/-- Filtering a filtered response changes neither it nor what is learned. -/
theorem rpsGpuIoctlFilterAfter_idempotent (arg : Option IoctlArg) :
    rpsGpuIoctlFilterAfter cfg allowed request
        (rpsGpuIoctlFilterAfter cfg allowed request arg result learned).2
        result
        (rpsGpuIoctlFilterAfter cfg allowed request arg result learned).1 =
      rpsGpuIoctlFilterAfter cfg allowed request arg result learned := by
  by_cases succeeded : result = 0
  · by_cases cardInfo :
        request = rpsIoctlCardInfoRequest ∧
          ∃ cards, arg = some (.cardInfo cards)
    · obtain ⟨asked, cards, rfl⟩ := cardInfo
      rw [rpsGpuIoctlFilterAfter_cardInfo asked succeeded,
        rpsGpuIoctlFilterAfter_cardInfo asked succeeded]
      split
      · rw [rpsGpuRecordCardInfoGpuIds_again (Or.inr rfl),
          rpsGpuFilterCardInfo_idempotent]
      · rw [rpsGpuRecordCardInfoGpuIds_again (Or.inl rfl)]
    · by_cases control :
          request = rpsIoctlRmControlRequest ∧
            ∃ rm, arg = some (.rmControl rm)
      · obtain ⟨asked, rm, rfl⟩ := control
        rw [rpsGpuIoctlFilterAfter_rmControl asked succeeded,
          rpsGpuIoctlFilterAfter_rmControl asked succeeded,
          rpsGpuFilterRmControl_idempotent]
      · have passes :
            rpsGpuIoctlFilterAfter cfg allowed request arg result learned =
              (learned, arg) := by
          apply rpsGpuIoctlFilterAfter_of_other
          · intro asked cards isCards
            exact cardInfo ⟨asked, cards, isCards⟩
          · intro asked rm isRm
            exact control ⟨asked, rm, isRm⟩
        rw [passes, passes]
  · rw [rpsGpuIoctlFilterAfter_of_failed (Or.inl succeeded),
      rpsGpuIoctlFilterAfter_of_failed (Or.inl succeeded)]

theorem RmOpen.enabled {rm : RpsNvos54Parameters} {params : RmParams}
    (isOpen : RmOpen cfg allowed request result learned rm)
    (given : rm.params = some params) :
    rpsGpuIoctlFilterEnabled cfg allowed result rm = true := by
  apply rpsGpuIoctlFilterEnabled_iff.mpr
  rw [given]
  exact
    ⟨isOpen.video, isOpen.ioctl, isOpen.usable, isOpen.succeeded,
      isOpen.status, rfl⟩

theorem rmOpen_of_enabled {rm : RpsNvos54Parameters}
    (asked : request = rpsIoctlRmControlRequest) (teaching : learned ≠ [])
    (enabled : rpsGpuIoctlFilterEnabled cfg allowed result rm = true) :
    RmOpen cfg allowed request result learned rm := by
  obtain ⟨video, ioctl, usable, succeeded, status, _⟩ :=
    rpsGpuIoctlFilterEnabled_iff.mp enabled
  exact ⟨video, ioctl, usable, asked, succeeded, status, teaching⟩

/-- Outside the three filtered responses the argument stays as it was. -/
theorem rpsGpuIoctlFilterAfter_frame {arg : Option IoctlArg}
    (noAttached :
      ∀ rm gpuIds, arg = some (.rmControl rm) →
        RmOpen cfg allowed request result learned rm →
          ¬ AsksAttached rm gpuIds)
    (noActive :
      ∀ rm params, arg = some (.rmControl rm) →
        RmOpen cfg allowed request result learned rm →
          ¬ AsksActive rm params)
    (noCards :
      ∀ cards, arg = some (.cardInfo cards) →
        ¬ CardsOpen cfg allowed request result) :
    (rpsGpuIoctlFilterAfter cfg allowed request arg result learned).2 =
      arg := by
  by_cases succeeded : result = 0
  · by_cases cardInfo :
        request = rpsIoctlCardInfoRequest ∧
          ∃ cards, arg = some (.cardInfo cards)
    · obtain ⟨asked, cards, rfl⟩ := cardInfo
      rw [rpsGpuIoctlFilterAfter_cardInfo asked succeeded]
      split
      · rename_i switched
        have switches : cfg.gpuVideo = true ∧ cfg.gpuIoctl = true := by
          simpa using switched
        cases usable : unusableAllowed allowed with
        | true =>
            simp [rpsGpuFilterCardInfo, usable]
        | false =>
            exact
              absurd ⟨switches.1, switches.2, usable, asked, succeeded⟩
                (noCards cards rfl)
      · rfl
    · by_cases control :
          request = rpsIoctlRmControlRequest ∧
            ∃ rm, arg = some (.rmControl rm)
      · obtain ⟨asked, rm, rfl⟩ := control
        rw [rpsGpuIoctlFilterAfter_rmControl asked succeeded]
        by_cases teaching : learned = []
        · rw [rpsGpuFilterRmControl_of_nil teaching]
        · rw [rpsGpuFilterRmControl_eq_self]
          · intro gpuIds enabled
            exact
              noAttached rm gpuIds rfl
                (rmOpen_of_enabled asked teaching enabled)
          · intro params enabled
            exact
              noActive rm params rfl
                (rmOpen_of_enabled asked teaching enabled)
      · rw [rpsGpuIoctlFilterAfter_of_other]
        · intro asked cards isCards
          exact cardInfo ⟨asked, cards, isCards⟩
        · intro asked rm isRm
          exact control ⟨asked, rm, isRm⟩
  · rw [rpsGpuIoctlFilterAfter_of_failed (Or.inl succeeded)]

/-- The learned ids stay in order, and padding takes the place of the
others. -/
theorem RmOpen.filterAfter_of_attached {rm : RpsNvos54Parameters}
    {gpuIds : List UInt32}
    (isOpen : RmOpen cfg allowed request result learned rm)
    (asks : AsksAttached rm gpuIds) (sized : gpuIds.length = 32) :
    (rpsGpuIoctlFilterAfter cfg allowed request (some (.rmControl rm))
        result learned).2 =
      some (.rmControl
        { rm with
          params :=
            some (.attachedIds
              (listedGpuIds learned gpuIds ++
                List.replicate
                  (32 - (listedGpuIds learned gpuIds).length)
                  0xffffffff)) }) := by
  have whole : gpuIds.take 32 = gpuIds :=
    List.take_of_length_le (Nat.le_of_eq sized)
  rw [rpsGpuIoctlFilterAfter_rmControl isOpen.asked isOpen.succeeded,
    rpsGpuFilterRmControl_of_attached learned
      (isOpen.enabled asks.params) asks,
    rpsGpuFilterGpuIdArray_eq isOpen.teaching, whole,
    List.drop_eq_nil_of_le (Nat.le_of_eq sized), List.append_nil]
  rfl

/-- So do the learned devices, and they are counted. -/
theorem RmOpen.filterAfter_of_active {rm : RpsNvos54Parameters}
    {params : RpsNv0000CtrlGpuGetActiveDeviceIdsParams}
    (isOpen : RmOpen cfg allowed request result learned rm)
    (asks : AsksActive rm params) :
    ∃ after : RpsNv0000CtrlGpuGetActiveDeviceIdsParams,
      (rpsGpuIoctlFilterAfter cfg allowed request (some (.rmControl rm))
          result learned).2 =
        some (.rmControl
          { rm with params := some (.activeDevices after) }) ∧
      after.numDevices.toNat = (listedDevices learned params).length ∧
      after.devices =
        listedDevices learned params ++
          List.replicate (256 - (listedDevices learned params).length)
            ⟨0, 0, 0⟩ := by
  refine ⟨rpsGpuFilterActiveDevices learned params, ?_, ?_, ?_⟩
  · rw [rpsGpuIoctlFilterAfter_rmControl isOpen.asked isOpen.succeeded,
      rpsGpuFilterRmControl_of_active learned
        (isOpen.enabled asks.params) asks]
  · exact numDevices_rpsGpuFilterActiveDevices isOpen.teaching
  · rw [rpsGpuFilterActiveDevices_eq isOpen.teaching]
    rfl

/-- Of a card that is not allowed only the `valid` byte changes. -/
theorem CardsOpen.filterAfter
    (isOpen : CardsOpen cfg allowed request result)
    (cards : List RpsNvIoctlCardInfo) :
    ∃ after : List RpsNvIoctlCardInfo,
      (rpsGpuIoctlFilterAfter cfg allowed request (some (.cardInfo cards))
          result learned).2 =
        some (.cardInfo after) ∧
      after.length = cards.length ∧
      ∀ (place : Nat) (card : RpsNvIoctlCardInfo),
        cards[place]? = some card →
          after[place]? =
            some
              (if place < 32 ∧
                  rpsGpuAllowedContainsMinor allowed card.minorNumber =
                    false then
                { card with valid := 0 }
              else card) := by
  have switched : (cfg.gpuVideo && cfg.gpuIoctl) = true := by
    rw [isOpen.video, isOpen.ioctl]
    rfl
  refine
    ⟨rpsGpuFilterCardInfo allowed cards rpsNvMaxDevices, ?_,
      length_rpsGpuFilterCardInfo rpsNvMaxDevices, ?_⟩
  · rw [rpsGpuIoctlFilterAfter_cardInfo isOpen.asked isOpen.succeeded,
      if_pos switched]
  · intro place card here
    rw [getElem?_rpsGpuFilterCardInfo isOpen.usable here]
    by_cases early : place < 32
    · cases shown :
          rpsGpuAllowedContainsMinor allowed card.minorNumber with
      | true =>
          simp [cardShown, shown]
      | false =>
          simp [cardShown, shown, early, rpsNvMaxDevices]
    · simp [early, rpsNvMaxDevices]

end Whole

/-- What the filter does to a response, for every switch setting, allowed
set, request, result and list of learned ids: the two RM answers keep their
learned entries in order and are padded, the cards keep all but their `valid`
bytes, filtering again changes nothing, and every other response stays as it
was. -/
theorem rpsGpuIoctlFilterAfter_exact (cfg : RpsConfig)
    (allowed : Option RpsGpuAllowedGpus) (request : UInt64) (result : Int)
    (learned : List UInt32) :
    (∀ (rm : RpsNvos54Parameters) (gpuIds : List UInt32),
      RmOpen cfg allowed request result learned rm →
        AsksAttached rm gpuIds → gpuIds.length = 32 →
          (rpsGpuIoctlFilterAfter cfg allowed request
            (some (.rmControl rm)) result learned).2 =
            some (.rmControl
              { rm with
                params :=
                  some (.attachedIds
                    (listedGpuIds learned gpuIds ++
                      List.replicate
                        (32 - (listedGpuIds learned gpuIds).length)
                        0xffffffff)) })) ∧
      (∀ (rm : RpsNvos54Parameters)
        (params : RpsNv0000CtrlGpuGetActiveDeviceIdsParams),
        RmOpen cfg allowed request result learned rm →
          AsksActive rm params →
            ∃ after : RpsNv0000CtrlGpuGetActiveDeviceIdsParams,
              (rpsGpuIoctlFilterAfter cfg allowed request
                (some (.rmControl rm)) result learned).2 =
                some (.rmControl
                  { rm with params := some (.activeDevices after) }) ∧
              after.numDevices.toNat =
                (listedDevices learned params).length ∧
              after.devices =
                listedDevices learned params ++
                  List.replicate
                    (256 - (listedDevices learned params).length)
                    ⟨0, 0, 0⟩) ∧
      (∀ cards : List RpsNvIoctlCardInfo,
        CardsOpen cfg allowed request result →
          ∃ after : List RpsNvIoctlCardInfo,
            (rpsGpuIoctlFilterAfter cfg allowed request
              (some (.cardInfo cards)) result learned).2 =
              some (.cardInfo after) ∧
            after.length = cards.length ∧
            ∀ (place : Nat) (card : RpsNvIoctlCardInfo),
              cards[place]? = some card →
                after[place]? =
                  some
                    (if place < 32 ∧
                        rpsGpuAllowedContainsMinor allowed
                          card.minorNumber = false then
                      { card with valid := 0 }
                    else card)) ∧
      (∀ arg : Option IoctlArg,
        rpsGpuIoctlFilterAfter cfg allowed request
            (rpsGpuIoctlFilterAfter cfg allowed request arg result
              learned).2 result
            (rpsGpuIoctlFilterAfter cfg allowed request arg result
              learned).1 =
          rpsGpuIoctlFilterAfter cfg allowed request arg result learned) ∧
      ∀ arg : Option IoctlArg,
        (∀ rm gpuIds, arg = some (.rmControl rm) →
          RmOpen cfg allowed request result learned rm →
            ¬ AsksAttached rm gpuIds) →
        (∀ rm params, arg = some (.rmControl rm) →
          RmOpen cfg allowed request result learned rm →
            ¬ AsksActive rm params) →
        (∀ cards, arg = some (.cardInfo cards) →
          ¬ CardsOpen cfg allowed request result) →
          (rpsGpuIoctlFilterAfter cfg allowed request arg result
            learned).2 = arg := by
  refine ⟨?_, ?_, ?_, rpsGpuIoctlFilterAfter_idempotent, ?_⟩
  · intro rm gpuIds isOpen asks sized
    exact isOpen.filterAfter_of_attached asks sized
  · intro rm params isOpen asks
    exact isOpen.filterAfter_of_active asks
  · intro cards isOpen
    exact isOpen.filterAfter cards
  · intro arg noAttached noActive noCards
    exact rpsGpuIoctlFilterAfter_frame noAttached noActive noCards

/-- An RM call of the container, with these parameters. -/
def rmCall (cmd : UInt32) (paramsSize : UInt32) (params : Option RmParams) :
    RpsNvos54Parameters where
  hClient := 1
  hObject := 2
  cmd := cmd
  params := params
  paramsSize := paramsSize
  status := 0

/-- Two attached GPUs, of which one was learned. -/
def twoAttached : List UInt32 :=
  [0xb, 0xa] ++ List.replicate 30 0xffffffff

/-- A block that counts more devices than it has room for. -/
def overlongActive : RpsNv0000CtrlGpuGetActiveDeviceIdsParams where
  numDevices := 1000
  devices := ⟨0xb, 7, 8⟩ :: ⟨0xa, 9, 10⟩ :: List.replicate 254 ⟨0, 0, 0⟩

theorem rmOpen_container (rm : RpsNvos54Parameters)
    (status : rm.status = 0) :
    RmOpen containerShim.config (some containerShim.allowed)
      rpsIoctlRmControlRequest 0 [0xa] rm :=
  ⟨rfl, rfl, rfl, rfl, rfl, status, by decide⟩

/-- The exact filter at work: a response of each kind, and a failed call. -/
theorem rpsGpuIoctlFilterAfter_exact_container :
    (rpsGpuIoctlFilterAfter containerShim.config
        (some containerShim.allowed) rpsIoctlRmControlRequest
        (some (.rmControl
          (rmCall 0x201 128 (some (.attachedIds twoAttached))))) 0
        [0xa]).2 =
      some (.rmControl
        (rmCall 0x201 128
          (some (.attachedIds
            (0xa :: List.replicate 31 0xffffffff))))) ∧
      (∃ after : RpsNv0000CtrlGpuGetActiveDeviceIdsParams,
        (rpsGpuIoctlFilterAfter containerShim.config
            (some containerShim.allowed) rpsIoctlRmControlRequest
            (some (.rmControl
              (rmCall 0x288 3076 (some (.activeDevices overlongActive)))))
            0 [0xa]).2 =
          some (.rmControl
            (rmCall 0x288 3076 (some (.activeDevices after)))) ∧
        after.numDevices.toNat = 1) ∧
      (∃ after : List RpsNvIoctlCardInfo,
        (rpsGpuIoctlFilterAfter containerShim.config
            (some containerShim.allowed) rpsIoctlCardInfoRequest
            (some (.cardInfo [cardWith 1 3 0xb, cardWith 1 4 0xa])) 0
            []).2 = some (.cardInfo after) ∧
        after[0]? = some (cardWith 0 3 0xb) ∧
        after[1]? = some (cardWith 1 4 0xa)) ∧
      (rpsGpuIoctlFilterAfter containerShim.config
          (some containerShim.allowed) rpsIoctlRmControlRequest
          (some (.rmControl
            (rmCall 0x201 127 (some (.attachedIds twoAttached))))) 0
          [0xa]).2 =
        some (.rmControl
          (rmCall 0x201 127 (some (.attachedIds twoAttached)))) := by
  refine ⟨?_, ?_, ?_, ?_⟩
  · exact
      (rpsGpuIoctlFilterAfter_exact containerShim.config
        (some containerShim.allowed) rpsIoctlRmControlRequest 0
        [0xa]).1 _ twoAttached (rmOpen_container _ rfl)
        ⟨rfl, by decide, rfl⟩ rfl
  · obtain ⟨after, isAfter, counted, _⟩ :=
      (rpsGpuIoctlFilterAfter_exact containerShim.config
        (some containerShim.allowed) rpsIoctlRmControlRequest 0
        [0xa]).2.1 (rmCall 0x288 3076 _) overlongActive
        (rmOpen_container _ rfl) ⟨rfl, by decide, rfl⟩
    exact ⟨after, isAfter, counted⟩
  · obtain ⟨after, isAfter, _, places⟩ :=
      (rpsGpuIoctlFilterAfter_exact containerShim.config
        (some containerShim.allowed) rpsIoctlCardInfoRequest 0
        []).2.2.1 [cardWith 1 3 0xb, cardWith 1 4 0xa]
        ⟨rfl, rfl, rfl, rfl, rfl⟩
    exact ⟨after, isAfter, places 0 _ rfl, places 1 _ rfl⟩
  · apply
      (rpsGpuIoctlFilterAfter_exact containerShim.config
        (some containerShim.allowed) rpsIoctlRmControlRequest 0
        [0xa]).2.2.2.2
    · intro rm gpuIds isRm _ asks
      cases isRm
      exact absurd asks.sized (by decide)
    · intro rm params isRm _ asks
      cases isRm
      exact absurd asks.cmd (by decide)
    · intro cards isCards
      cases isCards

end RunpodShim
