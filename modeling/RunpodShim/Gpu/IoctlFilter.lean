import Mathlib.Data.List.TakeWhile
import RunpodShim.Core.Config
import RunpodShim.Gpu.ProcFilter
import RunpodShim.Library.FirstSeen

/-!
# The ioctl response filter

`gpu/ioctl_filter.c` and the structures of `gpu/nvidia_rm.h`.  A pointer into
a response is modelled by the structure that its request or command says is
there.
-/

namespace RunpodShim

open FirstSeen

/-- `RPS_NV_MAX_DEVICES`. -/
def rpsNvMaxDevices : Nat := 32

/-- `RPS_NV0000_CTRL_CMD_GPU_GET_ATTACHED_IDS`. -/
def rpsNv0000CtrlCmdGpuGetAttachedIds : UInt32 := 0x201

/-- `RPS_NV0000_CTRL_CMD_GPU_GET_ACTIVE_DEVICE_IDS`. -/
def rpsNv0000CtrlCmdGpuGetActiveDeviceIds : UInt32 := 0x288

/-- `RPS_NV0000_CTRL_GPU_MAX_ATTACHED_GPUS`. -/
def rpsNv0000CtrlGpuMaxAttachedGpus : Nat := 32

/-- `RPS_NV0000_CTRL_GPU_MAX_ACTIVE_DEVICES`. -/
def rpsNv0000CtrlGpuMaxActiveDevices : Nat := 256

/-- `RPS_NV0000_CTRL_GPU_INVALID_ID`. -/
def rpsNv0000CtrlGpuInvalidId : UInt32 := 0xffffffff

structure RpsNvPciInfo where
  domain : UInt32
  bus : UInt8
  slot : UInt8
  function : UInt8
  vendorId : UInt16
  deviceId : UInt16
deriving DecidableEq, Repr

structure RpsNvIoctlCardInfo where
  valid : UInt8
  pciInfo : RpsNvPciInfo
  gpuId : UInt32
  interruptLine : UInt16
  regAddress : UInt64
  regSize : UInt64
  fbAddress : UInt64
  fbSize : UInt64
  minorNumber : UInt32
  devName : List UInt8
deriving DecidableEq, Repr

structure RpsNv0000CtrlGpuActiveDevice where
  gpuId : UInt32
  gpuInstanceId : UInt32
  computeInstanceId : UInt32
deriving DecidableEq, Repr

structure RpsNv0000CtrlGpuGetActiveDeviceIdsParams where
  numDevices : UInt32
  devices : List RpsNv0000CtrlGpuActiveDevice
deriving DecidableEq, Repr

/-- What the `params` pointer of an RM control call leads to. -/
inductive RmParams where
  | attachedIds (gpuIds : List UInt32)
  | activeDevices (params : RpsNv0000CtrlGpuGetActiveDeviceIdsParams)
  | other (bytes : List UInt8)
deriving DecidableEq, Repr

structure RpsNvos54Parameters where
  hClient : UInt32
  hObject : UInt32
  cmd : UInt32
  params : Option RmParams
  paramsSize : UInt32
  status : Int
deriving DecidableEq, Repr

/-- What the argument of an `ioctl` leads to. -/
inductive IoctlArg where
  | cardInfo (cards : List RpsNvIoctlCardInfo)
  | rmControl (rm : RpsNvos54Parameters)
  | other (bytes : List UInt8)
deriving DecidableEq, Repr

/-- `_IOWR`. -/
def iowr (kind number size : Nat) : UInt64 :=
  UInt64.ofNat (3 * 1073741824 + size * 65536 + kind * 256 + number)

/-- `RPS_IOCTL_RM_CONTROL_REQUEST`. -/
def rpsIoctlRmControlRequest : UInt64 := iowr 70 0x2A 32

/-- `RPS_IOCTL_CARD_INFO_REQUEST`. -/
def rpsIoctlCardInfoRequest : UInt64 := iowr 70 200 (72 * rpsNvMaxDevices)

/-! ## The learned ids -/

/-- `rps_gpu_allowed_contains_minor`. -/
def rpsGpuAllowedContainsMinor
    (allowed : Option RpsGpuAllowedGpus) (minor : UInt32) : Bool :=
  match allowed with
  | none => false
  | some gpus =>
      if !gpus.valid then false
      else
        gpus.gpus.any fun gpu =>
          gpu.present && decide (0 ≤ gpu.deviceMinor) &&
            UInt32.ofNat gpu.deviceMinor.toNat == minor

/-- `rps_gpu_id_is_allowed_locked`. -/
def rpsGpuIdIsAllowedLocked (learned : List UInt32) (gpuId : UInt32) :
    Bool :=
  learned.contains gpuId

/-- `rps_gpu_remember_allowed_gpu_id_locked`. -/
def rpsGpuRememberAllowedGpuIdLocked
    (learned : List UInt32) (gpuId : UInt32) : List UInt32 :=
  if gpuId = rpsNv0000CtrlGpuInvalidId ∨
      rpsGpuIdIsAllowedLocked learned gpuId = true ∨
      learned.length ≥ rpsGpuMaxGpus then
    learned
  else learned ++ [gpuId]

/-- The body of the loop of `rps_gpu_record_card_info_gpu_ids`. -/
def recordCard (allowed : Option RpsGpuAllowedGpus)
    (learned : List UInt32) (card : RpsNvIoctlCardInfo) : List UInt32 :=
  if card.valid ≠ 0 ∧
      rpsGpuAllowedContainsMinor allowed card.minorNumber = true then
    rpsGpuRememberAllowedGpuIdLocked learned card.gpuId
  else learned

/-- `allowed == NULL || !allowed->valid`. -/
def unusableAllowed (allowed : Option RpsGpuAllowedGpus) : Bool :=
  match allowed with
  | none => true
  | some gpus => !gpus.valid

/-- `rps_gpu_record_card_info_gpu_ids`. -/
def rpsGpuRecordCardInfoGpuIds (allowed : Option RpsGpuAllowedGpus)
    (cards : List RpsNvIoctlCardInfo) (count : Nat)
    (learned : List UInt32) : List UInt32 :=
  if unusableAllowed allowed then learned
  else (cards.take count).foldl (recordCard allowed) learned

/-! ## The filters -/

/-- The body of the loop of `rps_gpu_filter_card_info`. -/
def hideCard (allowed : Option RpsGpuAllowedGpus)
    (card : RpsNvIoctlCardInfo) : RpsNvIoctlCardInfo :=
  if card.valid ≠ 0 ∧
      rpsGpuAllowedContainsMinor allowed card.minorNumber = false then
    { card with valid := 0 }
  else card

/-- `rps_gpu_filter_card_info`. -/
def rpsGpuFilterCardInfo (allowed : Option RpsGpuAllowedGpus)
    (cards : List RpsNvIoctlCardInfo) (count : Nat) :
    List RpsNvIoctlCardInfo :=
  if unusableAllowed allowed then cards
  else (cards.take count).map (hideCard allowed) ++ cards.drop count

/-- `rps_gpu_ioctl_filter_enabled`. -/
def rpsGpuIoctlFilterEnabled (cfg : RpsConfig)
    (allowed : Option RpsGpuAllowedGpus) (result : Int)
    (rm : RpsNvos54Parameters) : Bool :=
  cfg.gpuVideo && cfg.gpuIoctl && !unusableAllowed allowed &&
    result == 0 && rm.status == 0 && rm.params.isSome

/-- The first loop of `rps_gpu_filter_gpu_id_array`. -/
def keepGpuIds (learned : List UInt32) :
    List UInt32 → List UInt32 → List UInt32
  | kept, [] => kept
  | kept, gpuId :: rest =>
      if gpuId = rpsNv0000CtrlGpuInvalidId then kept
      else if rpsGpuIdIsAllowedLocked learned gpuId = true ∧
          kept.length < rpsGpuMaxGpus then
        keepGpuIds learned (kept ++ [gpuId]) rest
      else keepGpuIds learned kept rest

/-- `rps_gpu_filter_gpu_id_array`: the array after it. -/
def rpsGpuFilterGpuIdArray (learned gpuIds : List UInt32) (count : Nat) :
    List UInt32 :=
  if count = 0 then gpuIds
  else if learned = [] then gpuIds
  else
    let kept := keepGpuIds learned [] (gpuIds.take count)
    kept ++
      List.replicate (count - kept.length) rpsNv0000CtrlGpuInvalidId ++
      gpuIds.drop count

/-- An element cleared by `memset`. -/
def zeroActiveDevice : RpsNv0000CtrlGpuActiveDevice :=
  ⟨0, 0, 0⟩

/-- `rps_gpu_filter_active_devices`: the block after it. -/
def rpsGpuFilterActiveDevices (learned : List UInt32)
    (params : RpsNv0000CtrlGpuGetActiveDeviceIdsParams) :
    RpsNv0000CtrlGpuGetActiveDeviceIdsParams :=
  if learned = [] then params
  else
    let count :=
      if params.numDevices.toNat > rpsNv0000CtrlGpuMaxActiveDevices then
        rpsNv0000CtrlGpuMaxActiveDevices
      else params.numDevices.toNat
    let kept :=
      (params.devices.take count).filter fun device =>
        rpsGpuIdIsAllowedLocked learned device.gpuId
    { numDevices := UInt32.ofNat kept.length
      devices :=
        kept ++
          List.replicate
            (rpsNv0000CtrlGpuMaxActiveDevices - kept.length)
            zeroActiveDevice }

/-- `rps_gpu_filter_rm_control`: the wrapper and its parameters after it. -/
def rpsGpuFilterRmControl (cfg : RpsConfig)
    (allowed : Option RpsGpuAllowedGpus) (learned : List UInt32)
    (rm : RpsNvos54Parameters) (result : Int) : RpsNvos54Parameters :=
  if !rpsGpuIoctlFilterEnabled cfg allowed result rm then rm
  else if rm.cmd = rpsNv0000CtrlCmdGpuGetAttachedIds ∧
      rm.paramsSize.toNat ≥ 4 * rpsNv0000CtrlGpuMaxAttachedGpus then
    match rm.params with
    | some (.attachedIds gpuIds) =>
        { rm with
          params :=
            some (.attachedIds
              (rpsGpuFilterGpuIdArray learned gpuIds
                rpsNv0000CtrlGpuMaxAttachedGpus)) }
    | _ => rm
  else if rm.cmd = rpsNv0000CtrlCmdGpuGetActiveDeviceIds ∧
      rm.paramsSize.toNat ≥ 4 + 12 * rpsNv0000CtrlGpuMaxActiveDevices then
    match rm.params with
    | some (.activeDevices params) =>
        { rm with
          params :=
            some (.activeDevices
              (rpsGpuFilterActiveDevices learned params)) }
    | _ => rm
  else rm

/-- `rps_gpu_ioctl_filter_after`: the learned ids and the argument after
it. -/
def rpsGpuIoctlFilterAfter (cfg : RpsConfig)
    (allowed : Option RpsGpuAllowedGpus) (request : UInt64)
    (arg : Option IoctlArg) (result : Int) (learned : List UInt32) :
    List UInt32 × Option IoctlArg :=
  if result ≠ 0 ∨ arg = none then (learned, arg)
  else if request = rpsIoctlCardInfoRequest then
    match arg with
    | some (.cardInfo cards) =>
        (rpsGpuRecordCardInfoGpuIds allowed cards rpsNvMaxDevices learned,
          some (.cardInfo
            (if cfg.gpuVideo && cfg.gpuIoctl then
              rpsGpuFilterCardInfo allowed cards rpsNvMaxDevices
            else cards)))
    | _ => (learned, arg)
  else if request = rpsIoctlRmControlRequest then
    match arg with
    | some (.rmControl rm) =>
        (learned,
          some (.rmControl
            (rpsGpuFilterRmControl cfg allowed learned rm result)))
    | _ => (learned, arg)
  else (learned, arg)

example :
    rpsIoctlCardInfoRequest = 0xC90046C8 ∧
      rpsIoctlRmControlRequest = 0xC020462A := by
  decide

theorem requests_differ :
    rpsIoctlRmControlRequest ≠ rpsIoctlCardInfoRequest := by
  decide

/-! ## What is learned -/

section Learned

variable {allowed : Option RpsGpuAllowedGpus} {learned : List UInt32}

/-- A card that teaches its id: a valid one with an allowed minor. -/
def Teaches (allowed : Option RpsGpuAllowedGpus)
    (card : RpsNvIoctlCardInfo) : Prop :=
  card.valid ≠ 0 ∧
    rpsGpuAllowedContainsMinor allowed card.minorNumber = true

instance (allowed : Option RpsGpuAllowedGpus) :
    DecidablePred (Teaches allowed) := fun card =>
  inferInstanceAs
    (Decidable
      (card.valid ≠ 0 ∧
        rpsGpuAllowedContainsMinor allowed card.minorNumber = true))

/-- The ids that the cards teach, the invalid id left out. -/
def taughtIds (allowed : Option RpsGpuAllowedGpus)
    (cards : List RpsNvIoctlCardInfo) : List UInt32 :=
  ((cards.filter fun card => decide (Teaches allowed card)).map
    RpsNvIoctlCardInfo.gpuId).filter (· != rpsNv0000CtrlGpuInvalidId)

theorem mem_taughtIds {cards : List RpsNvIoctlCardInfo} {gpuId : UInt32} :
    gpuId ∈ taughtIds allowed cards ↔
      (∃ card, card ∈ cards ∧ Teaches allowed card ∧
        card.gpuId = gpuId) ∧ gpuId ≠ rpsNv0000CtrlGpuInvalidId := by
  simp [taughtIds, and_assoc]

theorem taughtIds_eq_nil_iff {cards : List RpsNvIoctlCardInfo} :
    taughtIds allowed cards = [] ↔
      ∀ card, card ∈ cards → Teaches allowed card →
        card.gpuId = rpsNv0000CtrlGpuInvalidId := by
  rw [List.eq_nil_iff_forall_not_mem]
  constructor
  · intro nothing card member teaches
    apply Decidable.byContradiction
    intro valid
    exact
      nothing card.gpuId
        (mem_taughtIds.mpr ⟨⟨card, member, teaches, rfl⟩, valid⟩)
  · intro all gpuId taught
    obtain ⟨⟨card, member, teaches, rfl⟩, valid⟩ := mem_taughtIds.mp taught
    exact valid (all card member teaches)

theorem rpsGpuRememberAllowedGpuIdLocked_eq
    (learned : List UInt32) (gpuId : UInt32) :
    rpsGpuRememberAllowedGpuIdLocked learned gpuId =
      if gpuId = rpsNv0000CtrlGpuInvalidId then learned
      else remember rpsGpuMaxGpus learned gpuId := by
  rw [rpsGpuRememberAllowedGpuIdLocked, remember]
  by_cases invalid : gpuId = rpsNv0000CtrlGpuInvalidId
  · rw [if_pos invalid, if_pos (Or.inl invalid)]
  · simp [invalid, rpsGpuIdIsAllowedLocked]

/-- Recording cards is taking the ids in that they teach. -/
theorem foldl_recordCard_eq (cards : List RpsNvIoctlCardInfo) :
    cards.foldl (recordCard allowed) learned =
      (taughtIds allowed cards).foldl (remember rpsGpuMaxGpus) learned := by
  induction cards generalizing learned with
  | nil =>
      rfl
  | cons card rest inductionHypothesis =>
      rw [List.foldl_cons, inductionHypothesis]
      by_cases teaches : Teaches allowed card
      · have recorded :
            recordCard allowed learned card =
              rpsGpuRememberAllowedGpuIdLocked learned card.gpuId :=
          if_pos teaches
        rw [recorded, rpsGpuRememberAllowedGpuIdLocked_eq]
        by_cases invalid : card.gpuId = rpsNv0000CtrlGpuInvalidId
        · simp [taughtIds, teaches, invalid]
        · simp [taughtIds, teaches, invalid]
      · have skipped : recordCard allowed learned card = learned :=
          if_neg teaches
        rw [skipped]
        simp [taughtIds, teaches]

theorem mem_foldl_recordCard {cards : List RpsNvIoctlCardInfo}
    {gpuId : UInt32}
    (member : gpuId ∈ cards.foldl (recordCard allowed) learned) :
    gpuId ∈ learned ∨
      ∃ card, card ∈ cards ∧ Teaches allowed card ∧ card.gpuId = gpuId := by
  rw [foldl_recordCard_eq] at member
  rcases mem_of_mem_foldl_remember member with before | taught
  · exact Or.inl before
  · exact Or.inr (mem_taughtIds.mp taught).1

theorem foldl_recordCard_eq_nil_iff {cards : List RpsNvIoctlCardInfo} :
    cards.foldl (recordCard allowed) learned = [] ↔
      learned = [] ∧
        ∀ card, card ∈ cards → Teaches allowed card →
          card.gpuId = rpsNv0000CtrlGpuInvalidId := by
  rw [foldl_recordCard_eq, foldl_remember_eq_nil_iff (by decide),
    taughtIds_eq_nil_iff]

end Learned

/-! ## What the filters leave -/

section Filters

variable {allowed : Option RpsGpuAllowedGpus} {learned : List UInt32}

/-- A card that is still valid was so before, and its minor is allowed. -/
theorem valid_hideCard {card : RpsNvIoctlCardInfo}
    (valid : (hideCard allowed card).valid ≠ 0) :
    hideCard allowed card = card ∧ Teaches allowed card := by
  unfold hideCard at valid ⊢
  split at valid
  · exact absurd rfl valid
  · rename_i stays
    rw [if_neg stays]
    refine ⟨rfl, valid, ?_⟩
    simpa [valid] using stays

theorem mem_keepGpuIds {kept gpuIds : List UInt32} {gpuId : UInt32}
    (member : gpuId ∈ keepGpuIds learned kept gpuIds) :
    gpuId ∈ kept ∨ gpuId ∈ learned := by
  induction gpuIds generalizing kept with
  | nil =>
      exact Or.inl member
  | cons first rest inductionHypothesis =>
      unfold keepGpuIds at member
      split at member
      · exact Or.inl member
      · split at member
        · rename_i keeps
          rcases inductionHypothesis member with inKept | isLearned
          · rcases List.mem_append.mp inKept with before | isFirst
            · exact Or.inl before
            · right
              rw [List.mem_singleton.mp isFirst]
              simpa [rpsGpuIdIsAllowedLocked] using keeps.1
          · exact Or.inr isLearned
        · exact inductionHypothesis member

/-- Before the terminator a filtered array has learned ids only. -/
theorem learned_of_mem_filtered {gpuIds : List UInt32} {gpuId : UInt32}
    (teaching : learned ≠ [])
    (sized : gpuIds.length = rpsNv0000CtrlGpuMaxAttachedGpus)
    (member :
      gpuId ∈
        (rpsGpuFilterGpuIdArray learned gpuIds
          rpsNv0000CtrlGpuMaxAttachedGpus).takeWhile
            (· != rpsNv0000CtrlGpuInvalidId)) :
    gpuId ∈ learned := by
  have valid := List.mem_takeWhile_imp member
  have inArray := (List.takeWhile_sublist _).mem member
  have some : rpsNv0000CtrlGpuMaxAttachedGpus ≠ 0 := by
    decide
  have nothingLeft :
      gpuIds.drop rpsNv0000CtrlGpuMaxAttachedGpus = [] :=
    List.drop_eq_nil_of_le (Nat.le_of_eq sized)
  rw [rpsGpuFilterGpuIdArray, if_neg some, if_neg teaching] at inArray
  simp only [nothingLeft, List.append_nil, List.mem_append,
    List.mem_replicate] at inArray
  rcases inArray with inKept | isInvalid
  · rcases mem_keepGpuIds inKept with inNil | isLearned
    · cases inNil
    · exact isLearned
  · rw [isInvalid.2] at valid
    simp at valid

/-- Among the first `numDevices` a filtered block has learned ids only. -/
theorem learned_of_mem_filteredDevices
    {params : RpsNv0000CtrlGpuGetActiveDeviceIdsParams}
    {device : RpsNv0000CtrlGpuActiveDevice} (teaching : learned ≠ [])
    (member :
      device ∈
        (rpsGpuFilterActiveDevices learned params).devices.take
          (rpsGpuFilterActiveDevices learned params).numDevices.toNat) :
    device.gpuId ∈ learned := by
  simp only [rpsGpuFilterActiveDevices, if_neg teaching] at member
  generalize counted :
    (if params.numDevices.toNat > rpsNv0000CtrlGpuMaxActiveDevices then
      rpsNv0000CtrlGpuMaxActiveDevices
    else params.numDevices.toNat) = count at member
  have few : count ≤ rpsNv0000CtrlGpuMaxActiveDevices := by
    rw [← counted]
    split <;> omega
  have fewKept :
      ((params.devices.take count).filter fun other =>
        rpsGpuIdIsAllowedLocked learned other.gpuId).length ≤ 256 := by
    have filtered :=
      List.length_filter_le
        (fun other : RpsNv0000CtrlGpuActiveDevice =>
          rpsGpuIdIsAllowedLocked learned other.gpuId)
        (params.devices.take count)
    have taken := List.length_take_le count params.devices
    have most : rpsNv0000CtrlGpuMaxActiveDevices = 256 := rfl
    omega
  rw [UInt32.toNat_ofNat_of_lt' (by
      simp only [UInt32.size]
      omega), List.take_left] at member
  have isLearned := (List.mem_filter.mp member).2
  simpa [rpsGpuIdIsAllowedLocked] using isLearned

end Filters

end RunpodShim
