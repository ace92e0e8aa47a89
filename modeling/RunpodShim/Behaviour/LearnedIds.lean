import RunpodShim.Gpu.IoctlFilter
import RunpodShim.Library.FirstSeen
import RunpodShim.Preload.Real

/-!
# The learned GPU ids

What the ioctl filter remembers over any history of calls, for one allowed
set, against the cards as the driver wrote them.
-/

namespace RunpodShim

open FirstSeen

/-- One call of the filter after the real `ioctl` returned. -/
structure FilterCall where
  cfg : RpsConfig
  request : UInt64
  arg : Option IoctlArg
  result : Int

/-- The learned ids and the argument after one call. -/
def FilterCall.after (allowed : Option RpsGpuAllowedGpus)
    (learned : List UInt32) (call : FilterCall) :
    List UInt32 × Option IoctlArg :=
  rpsGpuIoctlFilterAfter call.cfg allowed call.request call.arg call.result
    learned

/-- The learned ids after the calls, from the empty state. -/
def learnedBy (allowed : Option RpsGpuAllowedGpus)
    (calls : List FilterCall) : List UInt32 :=
  calls.foldl (fun learned call => (call.after allowed learned).1) []

/-- The cards that an argument leads to. -/
def IoctlArg.cards : IoctlArg → List RpsNvIoctlCardInfo
  | cardInfo cards => cards
  | rmControl _ => []
  | other _ => []

/-- The cards of a successful card information response, as the driver wrote
them. -/
def FilterCall.cards (call : FilterCall) : List RpsNvIoctlCardInfo :=
  if call.result = 0 ∧ call.request = rpsIoctlCardInfoRequest then
    ((call.arg.map IoctlArg.cards).getD []).take rpsNvMaxDevices
  else []

/-- The ids of the valid cards with an allowed minor. -/
def FilterCall.allowedIds (allowed : Option RpsGpuAllowedGpus)
    (call : FilterCall) : List UInt32 :=
  (call.cards.filter fun card => decide (Teaches allowed card)).map
    RpsNvIoctlCardInfo.gpuId

/-- The ids of the valid cards with an allowed minor in a whole history, the
invalid id left out. -/
def allowedIdsSeen (allowed : Option RpsGpuAllowedGpus)
    (calls : List FilterCall) : List UInt32 :=
  (calls.flatMap fun call => call.allowedIds allowed).filter
    (· != rpsNv0000CtrlGpuInvalidId)

/-! ## One call -/

section OneCall

variable {allowed : Option RpsGpuAllowedGpus} {learned : List UInt32}

theorem not_teaches_of_unusable (unusable : unusableAllowed allowed = true)
    (card : RpsNvIoctlCardInfo) : ¬ Teaches allowed card := by
  intro given
  rcases given with ⟨_, contained⟩
  cases allowed with
  | none =>
      exact Bool.false_ne_true contained
  | some gpus =>
      have invalid : gpus.valid = false := by
        simpa [unusableAllowed] using unusable
      simp [rpsGpuAllowedContainsMinor, invalid] at contained

theorem rpsGpuRecordCardInfoGpuIds_eq
    (cards : List RpsNvIoctlCardInfo) (count : Nat) :
    rpsGpuRecordCardInfoGpuIds allowed cards count learned =
      (cards.take count).foldl (recordCard allowed) learned := by
  rw [rpsGpuRecordCardInfoGpuIds]
  split
  · rename_i unusable
    have nothing : taughtIds allowed (cards.take count) = [] := by
      apply taughtIds_eq_nil_iff.mpr
      intro card _ teaches
      exact absurd teaches (not_teaches_of_unusable unusable card)
    rw [foldl_recordCard_eq, nothing]
    rfl
  · rfl

theorem learned_after_eq_foldl (call : FilterCall) :
    (call.after allowed learned).1 =
      call.cards.foldl (recordCard allowed) learned := by
  obtain ⟨cfg, request, arg, result⟩ := call
  simp only [FilterCall.after, FilterCall.cards]
  cases arg with
  | none =>
      simp [rpsGpuIoctlFilterAfter]
  | some arg =>
      by_cases succeeds : result = 0
      · by_cases asks : request = rpsIoctlCardInfoRequest
        · cases arg with
          | cardInfo cards =>
              simp [rpsGpuIoctlFilterAfter, succeeds, asks, IoctlArg.cards,
                rpsGpuRecordCardInfoGpuIds_eq]
          | rmControl rm =>
              simp [rpsGpuIoctlFilterAfter, succeeds, asks, IoctlArg.cards]
          | other bytes =>
              simp [rpsGpuIoctlFilterAfter, succeeds, asks, IoctlArg.cards]
        · cases arg with
          | cardInfo cards =>
              simp [rpsGpuIoctlFilterAfter, succeeds, asks]
          | rmControl rm =>
              by_cases controls : request = rpsIoctlRmControlRequest
              · simp [rpsGpuIoctlFilterAfter, succeeds, controls,
                  requests_differ]
              · simp [rpsGpuIoctlFilterAfter, succeeds, asks, controls]
          | other bytes =>
              simp [rpsGpuIoctlFilterAfter, succeeds, asks]
      · simp [rpsGpuIoctlFilterAfter, succeeds]

/-- What one call does to the learned ids. -/
theorem learned_after (call : FilterCall) :
    (call.after allowed learned).1 =
      (((call.allowedIds allowed).filter
        (· != rpsNv0000CtrlGpuInvalidId))).foldl
          (remember rpsGpuMaxGpus) learned := by
  rw [learned_after_eq_foldl, foldl_recordCard_eq]
  rfl

end OneCall
/-! ## A response that was filtered before -/

section Refiltering

variable {allowed : Option RpsGpuAllowedGpus} {learned : List UInt32}

/-- Hiding cards makes no card teach that did not teach before. -/
theorem mem_of_mem_filterCardInfo {cards : List RpsNvIoctlCardInfo}
    {count : Nat} {card : RpsNvIoctlCardInfo}
    (member : card ∈ (rpsGpuFilterCardInfo allowed cards count).take count)
    (teaches : Teaches allowed card) : card ∈ cards.take count := by
  rw [rpsGpuFilterCardInfo] at member
  split at member
  · exact member
  · have inHidden : card ∈ (cards.take count).map (hideCard allowed) := by
      rcases Nat.le_total count cards.length with enough | short
      · rw [List.take_append_of_le_length (by simp [enough])] at member
        exact List.mem_of_mem_take member
      · rw [List.drop_eq_nil_of_le short, List.append_nil] at member
        exact List.mem_of_mem_take member
    obtain ⟨original, inCards, rfl⟩ := List.mem_map.mp inHidden
    rw [(valid_hideCard teaches.1).1]
    exact inCards

theorem FilterCall.mem_allowedIds {call : FilterCall} {gpuId : UInt32} :
    gpuId ∈ call.allowedIds allowed ↔
      ∃ card, card ∈ call.cards ∧ Teaches allowed card ∧
        card.gpuId = gpuId := by
  simp [FilterCall.allowedIds, and_assoc]

theorem FilterCall.cards_of_success {call : FilterCall} {arg : IoctlArg}
    (succeeds : call.result = 0)
    (asks : call.request = rpsIoctlCardInfoRequest)
    (given : call.arg = some arg) :
    call.cards = arg.cards.take rpsNvMaxDevices := by
  rw [FilterCall.cards, if_pos ⟨succeeds, asks⟩, given]
  rfl

/-- The argument after a call for the card information. -/
theorem FilterCall.after_of_cardInfo {call : FilterCall}
    {cards : List RpsNvIoctlCardInfo}
    (succeeds : call.result = 0)
    (asks : call.request = rpsIoctlCardInfoRequest)
    (given : call.arg = some (.cardInfo cards)) :
    (call.after allowed learned).2 =
      some (.cardInfo
        (if call.cfg.gpuVideo && call.cfg.gpuIoctl then
          rpsGpuFilterCardInfo allowed cards rpsNvMaxDevices
        else cards)) := by
  simp [FilterCall.after, rpsGpuIoctlFilterAfter, succeeds, asks, given]

theorem mem_cards_of_mem_refiltered {call again : FilterCall}
    {cards : List RpsNvIoctlCardInfo} {card : RpsNvIoctlCardInfo}
    (succeeds : call.result = 0)
    (asks : call.request = rpsIoctlCardInfoRequest)
    (given : call.arg = some (.cardInfo cards))
    (same : again.arg = (call.after allowed learned).2)
    (member : card ∈ again.cards) (teaches : Teaches allowed card) :
    card ∈ call.cards := by
  rw [FilterCall.after_of_cardInfo succeeds asks given] at same
  rw [FilterCall.cards_of_success succeeds asks given]
  by_cases successful :
      again.result = 0 ∧ again.request = rpsIoctlCardInfoRequest
  · rw [FilterCall.cards_of_success successful.1 successful.2 same]
      at member
    simp only [IoctlArg.cards] at member ⊢
    split at member
    · exact mem_of_mem_filterCardInfo member teaches
    · exact member
  · rw [FilterCall.cards, if_neg successful] at member
    cases member

/-- A filtered response has no allowed id that it did not have before. -/
theorem mem_allowedIds_of_refiltered {call again : FilterCall}
    {cards : List RpsNvIoctlCardInfo} {gpuId : UInt32}
    (succeeds : call.result = 0)
    (asks : call.request = rpsIoctlCardInfoRequest)
    (given : call.arg = some (.cardInfo cards))
    (same : again.arg = (call.after allowed learned).2)
    (member : gpuId ∈ again.allowedIds allowed) :
    gpuId ∈ call.allowedIds allowed := by
  obtain ⟨card, inAgain, teaches, isId⟩ :=
    FilterCall.mem_allowedIds.mp member
  have inCall :=
    mem_cards_of_mem_refiltered succeeds asks given same inAgain teaches
  exact FilterCall.mem_allowedIds.mpr ⟨card, inCall, teaches, isId⟩

end Refiltering

/-! ## Whole histories -/

section Histories

variable {allowed : Option RpsGpuAllowedGpus}

theorem learnedBy_append (calls : List FilterCall) (call : FilterCall) :
    learnedBy allowed (calls ++ [call]) =
      (call.after allowed (learnedBy allowed calls)).1 := by
  rw [learnedBy, List.foldl_append]
  rfl

theorem allowedIdsSeen_append (calls more : List FilterCall) :
    allowedIdsSeen allowed (calls ++ more) =
      allowedIdsSeen allowed calls ++ allowedIdsSeen allowed more := by
  rw [allowedIdsSeen, List.flatMap_append, List.filter_append]
  rfl

theorem allowedIdsSeen_singleton (call : FilterCall) :
    allowedIdsSeen allowed [call] =
      (call.allowedIds allowed).filter (· != rpsNv0000CtrlGpuInvalidId) := by
  simp [allowedIdsSeen]

/-- The learned ids are the first distinct allowed ids seen. -/
theorem learnedBy_eq_firstSeen (calls : List FilterCall) :
    learnedBy allowed calls =
      firstSeen rpsGpuMaxGpus (allowedIdsSeen allowed calls) := by
  induction calls using List.reverseRecOn with
  | nil =>
      rfl
  | append_singleton calls call inductionHypothesis =>
      rw [learnedBy_append, learned_after, inductionHypothesis,
        foldl_remember, allowedIdsSeen_append, allowedIdsSeen_singleton]

theorem allowedIdsSeen_subset_of_mem {calls : List FilterCall}
    {call : FilterCall} {gpuId : UInt32} (member : call ∈ calls)
    (isAllowed : gpuId ∈ call.allowedIds allowed)
    (isValid : gpuId ≠ rpsNv0000CtrlGpuInvalidId) :
    gpuId ∈ allowedIdsSeen allowed calls := by
  rw [allowedIdsSeen, List.mem_filter]
  exact
    ⟨List.mem_flatMap.mpr ⟨call, member, isAllowed⟩, by simpa using isValid⟩

/-- A call without new allowed ids changes nothing. -/
theorem learnedBy_append_of_old {calls : List FilterCall}
    {call : FilterCall}
    (old :
      ∀ gpuId, gpuId ∈ call.allowedIds allowed →
        gpuId ≠ rpsNv0000CtrlGpuInvalidId →
          gpuId ∈ allowedIdsSeen allowed calls) :
    learnedBy allowed (calls ++ [call]) = learnedBy allowed calls := by
  rw [learnedBy_eq_firstSeen, learnedBy_eq_firstSeen,
    allowedIdsSeen_append, allowedIdsSeen_singleton]
  apply firstSeen_append_of_subset
  intro gpuId member
  obtain ⟨isAllowed, isValid⟩ := List.mem_filter.mp member
  exact old gpuId isAllowed (by simpa using isValid)

/-- Failed calls and calls with any other request teach nothing. -/
theorem learnedBy_append_of_silent {calls : List FilterCall}
    {call : FilterCall}
    (silent :
      call.result ≠ 0 ∨ call.request ≠ rpsIoctlCardInfoRequest) :
    learnedBy allowed (calls ++ [call]) = learnedBy allowed calls := by
  have unsuccessful :
      ¬ (call.result = 0 ∧ call.request = rpsIoctlCardInfoRequest) := by
    tauto
  apply learnedBy_append_of_old
  intro gpuId member
  rw [FilterCall.allowedIds, FilterCall.cards, if_neg unsuccessful]
    at member
  cases member

theorem learnedBy_append_of_refiltered {calls before later : List FilterCall}
    {call again : FilterCall} {cards : List RpsNvIoctlCardInfo}
    (history : calls = before ++ call :: later)
    (succeeds : call.result = 0)
    (asks : call.request = rpsIoctlCardInfoRequest)
    (given : call.arg = some (.cardInfo cards))
    (same :
      again.arg = (call.after allowed (learnedBy allowed before)).2) :
    learnedBy allowed (calls ++ [again]) = learnedBy allowed calls := by
  apply learnedBy_append_of_old
  intro gpuId member isValid
  have inCall :=
    mem_allowedIds_of_refiltered succeeds asks given same member
  have inCalls : call ∈ calls := by
    rw [history]
    exact List.mem_append_right before List.mem_cons_self
  exact allowedIdsSeen_subset_of_mem inCalls inCall isValid

end Histories

/-- What is learned, over every history of calls and for every allowed set:
the first 32 distinct ids, other than the invalid one, of the valid cards
with an allowed minor. -/
theorem learnedBy_exact (allowed : Option RpsGpuAllowedGpus)
    (calls : List FilterCall) :
    (learnedBy allowed calls).Nodup ∧
      (learnedBy allowed calls).length ≤ 32 ∧
      (0xffffffff : UInt32) ∉ learnedBy allowed calls ∧
      learnedBy allowed calls =
        firstSeen 32 (allowedIdsSeen allowed calls) ∧
      (∀ call : FilterCall,
        call.result ≠ 0 ∨ call.request ≠ rpsIoctlCardInfoRequest →
          learnedBy allowed (calls ++ [call]) = learnedBy allowed calls) ∧
      ∀ (before later : List FilterCall) (call again : FilterCall)
        (cards : List RpsNvIoctlCardInfo),
        calls = before ++ call :: later → call.result = 0 →
          call.request = rpsIoctlCardInfoRequest →
            call.arg = some (.cardInfo cards) →
              again.arg =
                (call.after allowed (learnedBy allowed before)).2 →
              learnedBy allowed (calls ++ [again]) =
                learnedBy allowed calls := by
  have exactly :
      learnedBy allowed calls =
        firstSeen rpsGpuMaxGpus (allowedIdsSeen allowed calls) :=
    learnedBy_eq_firstSeen calls
  refine ⟨?_, ?_, ?_, exactly, ?_, ?_⟩
  · rw [exactly]
    exact nodup_firstSeen _ _
  · rw [exactly]
    exact length_firstSeen_le _ _
  · intro member
    rw [exactly] at member
    have kept := (List.mem_filter.mp (mem_of_mem_firstSeen member)).2
    simp [rpsNv0000CtrlGpuInvalidId] at kept
  · intro call silent
    exact learnedBy_append_of_silent silent
  · intro before later call again cards history succeeds asks given same
    exact learnedBy_append_of_refiltered history succeeds asks given same

/-- A card of the driver's table. -/
def cardWith (valid : UInt8) (minor gpuId : UInt32) :
    RpsNvIoctlCardInfo where
  valid := valid
  pciInfo := ⟨0, 0, 0, 0, 0, 0⟩
  gpuId := gpuId
  interruptLine := 0
  regAddress := 0
  regSize := 0
  fbAddress := 0
  fbSize := 0
  minorNumber := minor
  devName := []

/-- A response whose one valid card has the mounted minor and the invalid
id. -/
def invalidIdCall : FilterCall where
  cfg := containerShim.config
  request := rpsIoctlCardInfoRequest
  arg :=
    some (.cardInfo
      (cardWith 1 4 rpsNv0000CtrlGpuInvalidId ::
        List.replicate 31 (cardWith 0 0 0)))
  result := 0

/-- The invalid id is not learned, whatever card carries it. -/
theorem not_learnedBy_invalidId :
    containerShim.allowed.valid = true ∧
      learnedBy (some containerShim.allowed) [invalidIdCall] ≠
        firstSeen 32
          ([invalidIdCall].flatMap fun call =>
            call.allowedIds (some containerShim.allowed)) := by
  decide

end RunpodShim
