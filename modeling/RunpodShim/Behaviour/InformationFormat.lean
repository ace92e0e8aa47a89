import RunpodShim.Gpu.Topology

/-!
# The format of an information file

Which texts `rps_gpu_parse_gpu_information` accepts, what it makes of them, and
which edits of a text make no difference to it.
-/

namespace RunpodShim

open LexicalPath
open TextLines

/-- The keys of the lines that are read. -/
def infoKeys : List CString :=
  [uuidKey, busLocationKey, deviceMinorKey]

/-- The values that the lines give to a key, in their order. -/
def valuesIn (key : CString) (lines : List CString) : List CString :=
  lines.filterMap fun line => rpsGpuValueAfterKey line key

/-- The values that the text gives to a key. -/
def infoValues (key text : CString) : List CString :=
  valuesIn key (infoLines text)

/-- The path is, in its normal form, that of the information file of the
bus. -/
def IsPathBus (path : Option CString) (bus : CString) : Prop :=
  rpsGpuProcNormalizePath path rpsGpuProcPathMax =
      some (informationPath bus) ∧
    slash ∉ bus ∧ bus ≠ []

/-- The format, with what its values may be. -/
structure InFormat (path : Option CString) (text : CString) : Prop where
  uuids : ∀ value, value ∈ infoValues uuidKey text → value.length < 96
  busIds :
    ∀ value, value ∈ infoValues busLocationKey text →
      1 ≤ value.length ∧ value.length ≤ 31
  minors :
    ∀ value, value ∈ infoValues deviceMinorKey text →
      IsDecimal value ∧ decimalFrom 0 value ≤ 2147483647
  numbered : infoValues deviceMinorKey text ≠ []
  located :
    infoValues busLocationKey text ≠ [] ∨
      ∃ bus, IsPathBus path bus ∧ bus.length ≤ 31

/-- The bus id of a text: that of its last line for it, or the one of the
path when it has none. -/
def IsBusOf (path : Option CString) (text bus : CString) : Prop :=
  (infoValues busLocationKey text).getLast? = some bus ∨
    infoValues busLocationKey text = [] ∧ IsPathBus path bus ∧
      bus.length ≤ 31

/-- The record of the last lines for each key. -/
def lastInfo (text bus : CString) : RpsGpuInfo where
  present := true
  deviceMinor :=
    decimalFrom 0 ((infoValues deviceMinorKey text).getLastD [])
  busId := bus
  uuid := (infoValues uuidKey text).getLastD []

/-- `info->present` after `rps_gpu_parse_gpu_information`. -/
def presentAfter (path text : Option CString) : Bool :=
  match text with
  | none => rpsGpuZeroInfo.present
  | some text =>
      let parse := parseInfoLines text.length text ⟨rpsGpuZeroInfo, true⟩
      let extracted := rpsGpuExtractProcBus path rpsGpuProcBusIdMax
      let missing := parse.ok && parse.info.busId.isEmpty
      let ok := if missing then extracted.isSome else parse.ok
      let busId := if missing then extracted.getD [] else parse.info.busId
      ok && decide (parse.info.deviceMinor ≥ 0) && !busId.isEmpty

/-! ## Values -/

section Values

variable {key line value : CString}

theorem rpsGpuValueAfterKey_eq_some_iff :
    rpsGpuValueAfterKey line key = some value ↔
      ∃ rest, line = key ++ rest ∧ rpsGpuTrimSlice rest = value := by
  rw [rpsGpuValueAfterKey]
  constructor
  · intro found
    split at found
    · rename_i starts
      obtain ⟨rest, rfl⟩ := starts
      rw [List.drop_left] at found
      exact ⟨rest, rfl, Option.some.inj found⟩
    · cases found
  · intro given
    obtain ⟨rest, rfl, trimmed⟩ := given
    rw [if_pos (List.prefix_append key rest), List.drop_left, trimmed]

theorem rpsGpuValueAfterKey_eq_none (other : ¬ key <+: line) :
    rpsGpuValueAfterKey line key = none := by
  rw [rpsGpuValueAfterKey, if_neg other]

theorem prefix_of_rpsGpuValueAfterKey
    (found : rpsGpuValueAfterKey line key = some value) :
    key <+: line := by
  obtain ⟨rest, rfl, _⟩ := rpsGpuValueAfterKey_eq_some_iff.mp found
  exact List.prefix_append key rest

theorem infoKeys_apart :
    ∀ key, key ∈ infoKeys → ∀ other, other ∈ infoKeys →
      key <+: other → key = other := by
  decide

/-- A line is for one key at most. -/
theorem infoKey_unique {other : CString}
    (isKey : key ∈ infoKeys) (isKeyToo : other ∈ infoKeys)
    (starts : key <+: line) (startsToo : other <+: line) :
    key = other := by
  rcases List.prefix_or_prefix_of_prefix starts startsToo with
    shorter | longer
  · exact infoKeys_apart key isKey other isKeyToo shorter
  · exact (infoKeys_apart other isKeyToo key isKey longer).symm

theorem rpsGpuValueAfterKey_eq_none_of_ne {other : CString}
    (isKey : key ∈ infoKeys) (isKeyToo : other ∈ infoKeys)
    (differs : key ≠ other)
    (found : rpsGpuValueAfterKey line key = some value) :
    rpsGpuValueAfterKey line other = none := by
  apply rpsGpuValueAfterKey_eq_none
  intro startsToo
  exact
    differs
      (infoKey_unique isKey isKeyToo
        (prefix_of_rpsGpuValueAfterKey found) startsToo)

theorem valuesIn_cons (key line : CString) (rest : List CString) :
    valuesIn key (line :: rest) =
      (rpsGpuValueAfterKey line key).toList ++ valuesIn key rest := by
  rw [valuesIn, List.filterMap_cons]
  cases rpsGpuValueAfterKey line key with
  | none =>
      rfl
  | some value =>
      rfl

theorem valuesIn_append (key : CString) (front back : List CString) :
    valuesIn key (front ++ back) =
      valuesIn key front ++ valuesIn key back :=
  List.filterMap_append

theorem mem_valuesIn {lines : List CString} :
    value ∈ valuesIn key lines ↔
      ∃ line, line ∈ lines ∧ rpsGpuValueAfterKey line key = some value :=
  List.mem_filterMap

end Values

/-! ## One line -/

/-- A line whose value is one that its key can have. -/
structure GoodLine (line : CString) : Prop where
  uuid :
    ∀ value, rpsGpuValueAfterKey line uuidKey = some value →
      value.length < 96
  busId :
    ∀ value, rpsGpuValueAfterKey line busLocationKey = some value →
      1 ≤ value.length ∧ value.length ≤ 31
  minor :
    ∀ value, rpsGpuValueAfterKey line deviceMinorKey = some value →
      IsDecimal value ∧ decimalFrom 0 value ≤ 2147483647

/-- The number of a Device Minor line. -/
def minorOf (value : CString) : Int :=
  decimalFrom 0 value

section Lines

variable {line value : CString}

theorem rpsGpuCopySliceExact_eq_some_iff {size : Nat} {copy : CString} :
    rpsGpuCopySliceExact size value = some copy ↔
      value.length < size ∧ copy = value := by
  rw [rpsGpuCopySliceExact]
  split
  · constructor
    · intro impossible
      cases impossible
    · intro given
      omega
  · constructor
    · intro same
      exact ⟨by omega, (Option.some.inj same).symm⟩
    · intro given
      rw [given.2]

theorem rpsGpuParseNonnegativeInt_eq_some_iff {number : Nat} :
    rpsGpuParseNonnegativeInt value = some number ↔
      (IsDecimal value ∧ decimalFrom 0 value ≤ 2147483647) ∧
        decimalFrom 0 value = number := by
  rw [rpsGpuParseNonnegativeInt]
  split
  · rename_i empty
    constructor
    · intro impossible
      cases impossible
    · intro given
      exact
        absurd (List.eq_nil_of_length_eq_zero empty) given.1.1.nonempty
  · rename_i some
    rw [digitLoop_eq_some_iff (by decide) (Nat.zero_le _)]
    constructor
    · intro given
      rcases given with ⟨digits, same, short⟩
      refine ⟨⟨⟨?_, digits⟩, ?_⟩, same⟩
      · intro empty
        exact some (by rw [empty, List.length_nil])
      · rw [same]
        exact short
    · intro given
      rcases given with ⟨⟨decimal, short⟩, same⟩
      refine ⟨decimal.digits, same, ?_⟩
      rw [← same]
      exact short

theorem goodLine_iff :
    GoodLine line ↔
      (∀ value, rpsGpuValueAfterKey line uuidKey = some value →
        value.length < 96) ∧
        (∀ value, rpsGpuValueAfterKey line busLocationKey = some value →
          1 ≤ value.length ∧ value.length ≤ 31) ∧
        ∀ value, rpsGpuValueAfterKey line deviceMinorKey = some value →
          IsDecimal value ∧ decimalFrom 0 value ≤ 2147483647 :=
  ⟨fun good => ⟨good.uuid, good.busId, good.minor⟩,
    fun given => ⟨given.1, given.2.1, given.2.2⟩⟩

/-- What one line makes of the state before it. -/
structure LineEffect (line : CString) (before after : InfoParse) : Prop where
  ok : after.ok = true ↔ before.ok = true ∧ GoodLine line
  info :
    GoodLine line →
      after.info =
        { present := before.info.present
          deviceMinor :=
            ((rpsGpuValueAfterKey line deviceMinorKey).map minorOf).getD
              before.info.deviceMinor
          busId :=
            (rpsGpuValueAfterKey line busLocationKey).getD
              before.info.busId
          uuid :=
            (rpsGpuValueAfterKey line uuidKey).getD before.info.uuid }

theorem lineEffect_of_bad (parse : InfoParse) (bad : ¬ GoodLine line) :
    LineEffect line parse { parse with ok := false } :=
  ⟨by simp [bad], fun good => absurd good bad⟩

theorem parseInfoLine_uuid (parse : InfoParse)
    (isUuid : rpsGpuValueAfterKey line uuidKey = some value) :
    LineEffect line parse (parseInfoLine line parse) := by
  have noBus : rpsGpuValueAfterKey line busLocationKey = none :=
    rpsGpuValueAfterKey_eq_none_of_ne (by decide) (by decide) (by decide)
      isUuid
  have noMinor : rpsGpuValueAfterKey line deviceMinorKey = none :=
    rpsGpuValueAfterKey_eq_none_of_ne (by decide) (by decide) (by decide)
      isUuid
  have good : GoodLine line ↔ value.length < 96 := by
    rw [goodLine_iff, isUuid, noBus, noMinor]
    simp
  by_cases short : value.length < 96
  · have copied : rpsGpuCopySliceExact rpsGpuProcUuidMax value = some value :=
      rpsGpuCopySliceExact_eq_some_iff.mpr ⟨short, rfl⟩
    rw [parseInfoLine]
    simp only [isUuid, copied]
    constructor
    · exact (and_iff_left (good.mpr short)).symm
    · intro _
      rw [noBus, noMinor, isUuid]
      rfl
  · have refused : rpsGpuCopySliceExact rpsGpuProcUuidMax value = none := by
      rw [Option.eq_none_iff_forall_ne_some]
      intro copy copied
      exact short (rpsGpuCopySliceExact_eq_some_iff.mp copied).1
    rw [parseInfoLine]
    simp only [isUuid, refused]
    exact lineEffect_of_bad parse fun isGood => short (good.mp isGood)

theorem parseInfoLine_busLocation (parse : InfoParse)
    (isBus : rpsGpuValueAfterKey line busLocationKey = some value) :
    LineEffect line parse (parseInfoLine line parse) := by
  have noUuid : rpsGpuValueAfterKey line uuidKey = none :=
    rpsGpuValueAfterKey_eq_none_of_ne (by decide) (by decide) (by decide)
      isBus
  have noMinor : rpsGpuValueAfterKey line deviceMinorKey = none :=
    rpsGpuValueAfterKey_eq_none_of_ne (by decide) (by decide) (by decide)
      isBus
  have good :
      GoodLine line ↔ 1 ≤ value.length ∧ value.length ≤ 31 := by
    rw [goodLine_iff, noUuid, isBus, noMinor]
    simp
  rw [parseInfoLine]
  simp only [noUuid, isBus]
  by_cases empty : value.length = 0
  · rw [if_pos empty]
    apply lineEffect_of_bad
    rw [good]
    omega
  · rw [if_neg empty]
    by_cases short : value.length ≤ 31
    · have copied :
          rpsGpuCopySliceExact rpsGpuProcBusIdMax value = some value :=
        rpsGpuCopySliceExact_eq_some_iff.mpr
          ⟨Nat.lt_succ_of_le short, rfl⟩
      simp only [copied]
      constructor
      · exact
          (and_iff_left
            (good.mpr ⟨Nat.pos_of_ne_zero empty, short⟩)).symm
      · intro _
        rw [noUuid, noMinor, isBus]
        rfl
    · have refused :
          rpsGpuCopySliceExact rpsGpuProcBusIdMax value = none := by
        rw [Option.eq_none_iff_forall_ne_some]
        intro copy copied
        exact
          short
            (Nat.le_of_lt_succ
              (rpsGpuCopySliceExact_eq_some_iff.mp copied).1)
      simp only [refused]
      exact lineEffect_of_bad parse fun isGood => short (good.mp isGood).2

theorem parseInfoLine_deviceMinor (parse : InfoParse)
    (isMinor : rpsGpuValueAfterKey line deviceMinorKey = some value) :
    LineEffect line parse (parseInfoLine line parse) := by
  have noUuid : rpsGpuValueAfterKey line uuidKey = none :=
    rpsGpuValueAfterKey_eq_none_of_ne (by decide) (by decide) (by decide)
      isMinor
  have noBus : rpsGpuValueAfterKey line busLocationKey = none :=
    rpsGpuValueAfterKey_eq_none_of_ne (by decide) (by decide) (by decide)
      isMinor
  have good :
      GoodLine line ↔
        IsDecimal value ∧ decimalFrom 0 value ≤ 2147483647 := by
    rw [goodLine_iff, noUuid, noBus, isMinor]
    simp
  rw [parseInfoLine]
  simp only [noUuid, noBus, isMinor]
  cases read : rpsGpuParseNonnegativeInt value with
  | none =>
      apply lineEffect_of_bad
      intro isGood
      have number :=
        rpsGpuParseNonnegativeInt_eq_some_iff.mpr
          (And.intro (good.mp isGood) rfl)
      rw [read] at number
      cases number
  | some minor =>
      obtain ⟨fine, rfl⟩ := rpsGpuParseNonnegativeInt_eq_some_iff.mp read
      constructor
      · exact (and_iff_left (good.mpr fine)).symm
      · intro _
        rw [noUuid, noBus, isMinor]
        rfl

/-- A good line sets the field of its key, and any other one is remembered as
a failure. -/
theorem parseInfoLine_effect (line : CString) (parse : InfoParse) :
    LineEffect line parse (parseInfoLine line parse) := by
  cases isUuid : rpsGpuValueAfterKey line uuidKey with
  | some value =>
      exact parseInfoLine_uuid parse isUuid
  | none =>
      cases isBus : rpsGpuValueAfterKey line busLocationKey with
      | some value =>
          exact parseInfoLine_busLocation parse isBus
      | none =>
          cases isMinor : rpsGpuValueAfterKey line deviceMinorKey with
          | some value =>
              exact parseInfoLine_deviceMinor parse isMinor
          | none =>
              have good : GoodLine line := by
                rw [goodLine_iff, isUuid, isBus, isMinor]
                simp
              have same : parseInfoLine line parse = parse := by
                rw [parseInfoLine, isUuid, isBus, isMinor]
              rw [same]
              constructor
              · exact (and_iff_left good).symm
              · intro _
                rw [isUuid, isBus, isMinor]
                rfl

theorem getLastD_toList_append {α : Type} (found : Option α)
    (rest : List α) (default : α) :
    (found.toList ++ rest).getLastD default =
      rest.getLastD (found.getD default) := by
  cases found with
  | none =>
      rfl
  | some first =>
      exact List.getLastD_cons

/-- The lines together: the last one for each key counts. -/
theorem foldl_parseInfoLine (lines : List CString) (parse : InfoParse) :
    ((lines.foldl (fun parse line => parseInfoLine line parse) parse).ok =
        true ↔
      parse.ok = true ∧ ∀ line, line ∈ lines → GoodLine line) ∧
      ((∀ line, line ∈ lines → GoodLine line) →
        (lines.foldl (fun parse line => parseInfoLine line parse)
            parse).info =
          { present := parse.info.present
            deviceMinor :=
              ((valuesIn deviceMinorKey lines).map minorOf).getLastD
                parse.info.deviceMinor
            busId :=
              (valuesIn busLocationKey lines).getLastD parse.info.busId
            uuid :=
              (valuesIn uuidKey lines).getLastD parse.info.uuid }) := by
  induction lines generalizing parse with
  | nil =>
      simp [valuesIn]
  | cons line rest inductionHypothesis =>
      have step := parseInfoLine_effect line parse
      obtain ⟨laterOk, laterInfo⟩ :=
        inductionHypothesis (parseInfoLine line parse)
      rw [List.foldl_cons]
      constructor
      · rw [laterOk, step.ok, List.forall_mem_cons, and_assoc]
      · intro good
        obtain ⟨goodFirst, goodRest⟩ := List.forall_mem_cons.mp good
        rw [laterInfo goodRest, step.info goodFirst, valuesIn_cons,
          valuesIn_cons, valuesIn_cons, List.map_append,
          ← Option.toList_map, getLastD_toList_append,
          getLastD_toList_append, getLastD_toList_append]

end Lines

/-! ## The whole text -/

/-- Every line has a value that its key can have. -/
def GoodText (text : CString) : Prop :=
  ∀ line, line ∈ infoLines text → GoodLine line

/-- What the loop leaves of a text. -/
def parseText (text : CString) : InfoParse :=
  parseInfoLines text.length text ⟨rpsGpuZeroInfo, true⟩

section Texts

variable {path : Option CString} {text bus : CString}

theorem goodText_iff :
    GoodText text ↔
      (∀ value, value ∈ infoValues uuidKey text → value.length < 96) ∧
        (∀ value, value ∈ infoValues busLocationKey text →
          1 ≤ value.length ∧ value.length ≤ 31) ∧
        ∀ value, value ∈ infoValues deviceMinorKey text →
          IsDecimal value ∧ decimalFrom 0 value ≤ 2147483647 := by
  constructor
  · intro good
    refine ⟨?_, ?_, ?_⟩
    · intro value member
      obtain ⟨line, isLine, found⟩ := mem_valuesIn.mp member
      exact (good line isLine).uuid value found
    · intro value member
      obtain ⟨line, isLine, found⟩ := mem_valuesIn.mp member
      exact (good line isLine).busId value found
    · intro value member
      obtain ⟨line, isLine, found⟩ := mem_valuesIn.mp member
      exact (good line isLine).minor value found
  · intro given line isLine
    rcases given with ⟨uuids, busIds, minors⟩
    exact
      ⟨fun value found => uuids value (mem_valuesIn.mpr ⟨line, isLine, found⟩),
        fun value found =>
          busIds value (mem_valuesIn.mpr ⟨line, isLine, found⟩),
        fun value found =>
          minors value (mem_valuesIn.mpr ⟨line, isLine, found⟩)⟩

theorem parseText_spec (text : CString) :
    ((parseText text).ok = true ↔ GoodText text) ∧
      (GoodText text →
        (parseText text).info =
          { present := false
            deviceMinor :=
              ((infoValues deviceMinorKey text).map minorOf).getLastD (-1)
            busId := (infoValues busLocationKey text).getLastD []
            uuid := (infoValues uuidKey text).getLastD [] }) := by
  obtain ⟨ok, info⟩ :=
    foldl_parseInfoLine (infoLines text) ⟨rpsGpuZeroInfo, true⟩
  rw [parseText, parseInfoLines_eq (Nat.le_refl text.length)]
  exact ⟨ok.trans (and_iff_right rfl), info⟩

/-- A minor is read when there is a line for it. -/
theorem deviceMinor_nonneg_iff (good : GoodText text) :
    (parseText text).info.deviceMinor ≥ 0 ↔
      infoValues deviceMinorKey text ≠ [] := by
  rw [(parseText_spec text).2 good]
  cases infoValues deviceMinorKey text using List.reverseRecOn with
  | nil =>
      simp
  | append_singleton front last =>
      simp [minorOf]

theorem deviceMinor_eq (good : GoodText text)
    (numbered : infoValues deviceMinorKey text ≠ []) :
    (parseText text).info.deviceMinor =
      decimalFrom 0 ((infoValues deviceMinorKey text).getLastD []) := by
  rw [(parseText_spec text).2 good]
  cases values : infoValues deviceMinorKey text using
    List.reverseRecOn with
  | nil =>
      exact absurd values numbered
  | append_singleton front last =>
      simp [minorOf]

theorem uuid_eq (good : GoodText text) :
    (parseText text).info.uuid = (infoValues uuidKey text).getLastD [] := by
  rw [(parseText_spec text).2 good]

/-- The record that is returned is that of the last lines. -/
theorem record_eq_lastInfo (good : GoodText text)
    (numbered : infoValues deviceMinorKey text ≠ []) (bus : CString) :
    { (parseText text).info with present := true, busId := bus } =
      lastInfo text bus := by
  rw [lastInfo, ← deviceMinor_eq good numbered, ← uuid_eq good]

/-- The bus id that is read, if a line has one. -/
theorem busId_eq (good : GoodText text) :
    (parseText text).info.busId =
      (infoValues busLocationKey text).getLastD [] := by
  rw [(parseText_spec text).2 good]

theorem informationPath_eq_canonical (bus : CString) :
    informationPath bus = canonical (gpusNames ++ [bus, informationName]) := by
  rw [canonical_of_ne_nil (by simp), render_append, render_gpusNames]
  simp [informationPath]

/-- The names of the path of an information file. -/
theorem segments_informationPath (bus : CString)
    (proper : IsSegment slash bus) :
    segments slash (informationPath bus) =
      gpusNames ++ [bus, informationName] := by
  rw [informationPath_eq_canonical, canonical_of_ne_nil (by simp)]
  apply segments_render
  intro name member
  rcases List.mem_append.mp member with above | below
  · exact (isName_of_mem_gpusNames name above).toIsSegment
  · rcases List.mem_cons.mp below with isBus | isLast
    · rw [isBus]
      exact proper
    · rw [List.mem_singleton.mp isLast]
      exact ⟨by decide, by decide⟩

/-- The bus id of a place, when it is that of an information file. -/
def informationBus (place : GpuPath) : Option CString :=
  (busKindOf place).bind fun kind =>
    if kind.isInformation then some kind.busId else none

theorem informationBus_eq_some_iff {place : GpuPath} :
    informationBus place = some bus ↔ place = GpuPath.information bus := by
  cases place with
  | outside =>
      simp [informationBus, busKindOf]
  | gpusDir =>
      simp [informationBus, busKindOf]
  | busDir other =>
      simp [informationBus, busKindOf]
  | information other =>
      simp [informationBus, busKindOf]

theorem rpsGpuExtractProcBus_eq (asked : CString) :
    rpsGpuExtractProcBus (some asked) rpsGpuProcBusIdMax =
      (namesWithin rpsGpuProcPathMax asked).bind fun names =>
        informationBus (gpuPathOf names) := by
  rw [rpsGpuExtractProcBus, rpsGpuExtractProcBusKind_eq]
  cases namesWithin rpsGpuProcPathMax asked with
  | none =>
      rfl
  | some names =>
      rw [Option.bind_some, Option.bind_some, informationBus]
      cases busKindOf (gpuPathOf names) with
      | none =>
          rfl
      | some kind =>
          rfl

/-- Names of a normal form are those of an information file when they are
written like its path. -/
theorem gpuPathOf_eq_information_iff_written {names : List CString}
    (proper : ∀ name, name ∈ names → IsName unixPath name) :
    gpuPathOf names = GpuPath.information bus ↔
      (canonical names = informationPath bus ∧ slash ∉ bus ∧ bus ≠ []) ∧
        bus.length ≤ 31 := by
  rw [gpuPathOf_eq_information_iff]
  constructor
  · intro given
    obtain ⟨rfl, short⟩ := given
    have segment : IsSegment slash bus :=
      (proper bus (by simp)).toIsSegment
    exact
      ⟨⟨(informationPath_eq_canonical bus).symm, segment.separatorFree,
          segment.nonempty⟩,
        Nat.le_of_lt_succ short⟩
  · intro given
    obtain ⟨⟨written, free, long⟩, short⟩ := given
    refine ⟨?_, Nat.lt_succ_of_le short⟩
    rw [← segments_canonical proper, written,
      segments_informationPath bus ⟨long, free⟩]

/-- The bus id that the parser takes from the path. -/
theorem rpsGpuExtractProcBus_eq_some_iff :
    rpsGpuExtractProcBus path rpsGpuProcBusIdMax = some bus ↔
      IsPathBus path bus ∧ bus.length ≤ 31 := by
  cases path with
  | none =>
      constructor
      · intro impossible
        cases impossible
      · intro given
        cases given.1.1
  | some asked =>
      rw [IsPathBus, rpsGpuExtractProcBus_eq,
        rpsGpuProcNormalizePath_eq asked (by decide)]
      cases normal : namesWithin rpsGpuProcPathMax asked with
      | none =>
          constructor
          · intro impossible
            cases impossible
          · intro given
            cases given.1.1
      | some names =>
          have proper := isName_of_mem_namesWithin normal
          rw [Option.bind_some, Option.map_some, Option.some.injEq,
            informationBus_eq_some_iff,
            gpuPathOf_eq_information_iff_written proper]

/-- The bus id after the fallback to the path. -/
def chosenBus (path : Option CString) (parse : InfoParse) :
    Option CString :=
  if parse.info.busId = [] then
    rpsGpuExtractProcBus path rpsGpuProcBusIdMax
  else some parse.info.busId

theorem chosenBus_eq_some_iff (good : GoodText text) :
    chosenBus path (parseText text) = some bus ↔
      IsBusOf path text bus := by
  have long := (goodText_iff.mp good).2.1
  rw [chosenBus, busId_eq good, IsBusOf]
  cases values : infoValues busLocationKey text using
    List.reverseRecOn with
  | nil =>
      rw [List.getLastD_nil, if_pos rfl, rpsGpuExtractProcBus_eq_some_iff]
      simp
  | append_singleton front last =>
      have some : last ≠ [] := by
        have atLeast := (long last (by rw [values]; simp)).1
        exact List.length_pos_iff.mp atLeast
      rw [List.getLastD_concat, if_neg some]
      simp

theorem bus_ne_nil (good : GoodText text)
    (isBus : IsBusOf path text bus) : bus ≠ [] := by
  rcases isBus with isLast | fromPath
  · have bounds :=
      (goodText_iff.mp good).2.1 bus (List.mem_of_getLast? isLast)
    exact List.length_pos_iff.mp bounds.1
  · exact fromPath.2.1.2.2

/-- The parser in terms of the state after the loop. -/
theorem rpsGpuParseGpuInformation_eq (path : Option CString)
    (text : CString) :
    rpsGpuParseGpuInformation path (some text) =
      if (parseText text).ok = true then
        (chosenBus path (parseText text)).bind fun bus =>
          if (parseText text).info.deviceMinor ≥ 0 ∧ bus ≠ [] then
            some { (parseText text).info with present := true, busId := bus }
          else none
      else none := by
  rw [rpsGpuParseGpuInformation]
  simp only
  rw [← parseText, ← chosenBus]
  cases (parseText text).ok with
  | false =>
      rfl
  | true =>
      cases chosenBus path (parseText text) with
      | none =>
          rfl
      | some bus =>
          rfl

theorem inFormat_iff :
    InFormat path text ↔
      GoodText text ∧ infoValues deviceMinorKey text ≠ [] ∧
        ∃ bus, IsBusOf path text bus := by
  constructor
  · intro format
    refine
      ⟨goodText_iff.mpr ⟨format.uuids, format.busIds, format.minors⟩,
        format.numbered, ?_⟩
    by_cases absent : infoValues busLocationKey text = []
    · rcases format.located with present | fromPath
      · exact absurd absent present
      · obtain ⟨bus, isBus⟩ := fromPath
        exact ⟨bus, Or.inr ⟨absent, isBus⟩⟩
    · exact
        ⟨(infoValues busLocationKey text).getLast absent,
          Or.inl (List.getLast?_eq_some_getLast absent)⟩
  · intro given
    rcases given with ⟨good, numbered, bus, isBus⟩
    obtain ⟨uuids, busIds, minors⟩ := goodText_iff.mp good
    refine ⟨uuids, busIds, minors, numbered, ?_⟩
    rcases isBus with isLast | fromPath
    · exact Or.inl (List.ne_nil_of_mem (List.mem_of_getLast? isLast))
    · exact Or.inr ⟨bus, fromPath.2⟩

theorem rpsGpuParseGpuInformation_eq_some_iff {info : RpsGpuInfo} :
    rpsGpuParseGpuInformation path (some text) = some info ↔
      InFormat path text ∧
        ∃ bus, IsBusOf path text bus ∧ info = lastInfo text bus := by
  rw [rpsGpuParseGpuInformation_eq, inFormat_iff]
  by_cases good : GoodText text
  · rw [if_pos ((parseText_spec text).1.mpr good), Option.bind_eq_some_iff]
    constructor
    · intro parsed
      obtain ⟨bus, chosen, made⟩ := parsed
      have isBus : IsBusOf path text bus :=
        (chosenBus_eq_some_iff good).mp chosen
      split at made
      · rename_i fine
        have numbered := (deviceMinor_nonneg_iff good).mp fine.1
        refine ⟨⟨good, numbered, bus, isBus⟩, bus, isBus, ?_⟩
        rw [← record_eq_lastInfo good numbered bus]
        exact (Option.some.inj made).symm
      · cases made
    · intro given
      rcases given with ⟨⟨_, numbered, _⟩, bus, isBus, made⟩
      refine ⟨bus, (chosenBus_eq_some_iff good).mpr isBus, ?_⟩
      rw [if_pos
        ⟨(deviceMinor_nonneg_iff good).mpr numbered,
          bus_ne_nil good isBus⟩,
        made, ← record_eq_lastInfo good numbered bus]
  · have failed : ¬ (parseText text).ok = true := by
      intro ok
      exact good ((parseText_spec text).1.mp ok)
    rw [if_neg failed]
    constructor
    · intro impossible
      cases impossible
    · intro given
      exact absurd given.1.1 good

theorem presentAfter_eq (path : Option CString) (text : CString) :
    presentAfter path (some text) =
      (rpsGpuParseGpuInformation path (some text)).isSome := by
  rw [rpsGpuParseGpuInformation_eq, chosenBus, presentAfter]
  simp only
  rw [← parseText]
  cases (parseText text).ok with
  | false =>
      rfl
  | true =>
      rw [if_pos rfl, Bool.true_and]
      by_cases missing : (parseText text).info.busId = []
      · rw [missing, if_pos rfl]
        cases rpsGpuExtractProcBus path rpsGpuProcBusIdMax with
        | none =>
            rfl
        | some bus =>
            by_cases fine :
                (parseText text).info.deviceMinor ≥ 0 ∧ bus ≠ []
            · simp [fine]
            · rw [Option.bind_some, if_neg fine]
              simpa using fine
      · by_cases fine : (parseText text).info.deviceMinor ≥ 0
        · simp [missing, fine]
        · simp [missing, fine]

theorem presentAfter_eq_true_iff :
    presentAfter path (some text) = true ↔ InFormat path text := by
  rw [presentAfter_eq, Option.isSome_iff_exists]
  constructor
  · intro parsed
    obtain ⟨info, parsed⟩ := parsed
    exact (rpsGpuParseGpuInformation_eq_some_iff.mp parsed).1
  · intro format
    obtain ⟨_, _, bus, isBus⟩ := inFormat_iff.mp format
    exact
      ⟨lastInfo text bus,
        rpsGpuParseGpuInformation_eq_some_iff.mpr
          ⟨format, bus, isBus, rfl⟩⟩

end Texts

/-! ## Edits that make no difference -/

/-- One edit of the lines: a line that is for no key put in, two lines for
different keys exchanged, or blanks put around a value. -/
inductive LineEdit : List CString → List CString → Prop
  | unknown {line : CString} (front back : List CString) :
      (∀ key, key ∈ infoKeys → ¬ key <+: line) →
        LineEdit (front ++ back) (front ++ line :: back)
  | swap {first second : CString} (front back : List CString) :
      (∀ key, key ∈ infoKeys → key <+: first → ¬ key <+: second) →
        LineEdit (front ++ first :: second :: back)
          (front ++ second :: first :: back)
  | blanks {key before value after : CString}
      (front back : List CString) :
      key ∈ infoKeys → (∀ byte, byte ∈ before → isBlank byte = true) →
        (∀ byte, byte ∈ after → isBlank byte = true) →
          LineEdit (front ++ (key ++ value) :: back)
            (front ++ (key ++ (before ++ (value ++ after))) :: back)

/-- The text with CRLF for each LF. -/
def withCarriageReturns (text : CString) : CString :=
  text.flatMap fun byte =>
    if byte = newline then [carriageReturn, newline] else [byte]

section Edits

variable {path : Option CString} {text other : CString}

/-- The parser sees the values of the keys only. -/
theorem rpsGpuParseGpuInformation_congr
    (same :
      ∀ key, key ∈ infoKeys → infoValues key other = infoValues key text) :
    rpsGpuParseGpuInformation path (some other) =
      rpsGpuParseGpuInformation path (some text) := by
  have uuids : infoValues uuidKey other = infoValues uuidKey text :=
    same uuidKey (by decide)
  have busIds :
      infoValues busLocationKey other = infoValues busLocationKey text :=
    same busLocationKey (by decide)
  have minors :
      infoValues deviceMinorKey other = infoValues deviceMinorKey text :=
    same deviceMinorKey (by decide)
  apply Option.ext
  intro info
  rw [rpsGpuParseGpuInformation_eq_some_iff,
    rpsGpuParseGpuInformation_eq_some_iff, inFormat_iff, inFormat_iff,
    goodText_iff, goodText_iff]
  simp only [IsBusOf, lastInfo, uuids, busIds, minors]

theorem rpsGpuTrimSlice_blanks {before value after : CString}
    (blankBefore : ∀ byte, byte ∈ before → isBlank byte = true)
    (blankAfter : ∀ byte, byte ∈ after → isBlank byte = true) :
    rpsGpuTrimSlice (before ++ (value ++ after)) =
      rpsGpuTrimSlice value := by
  rw [rpsGpuTrimSlice, rpsGpuTrimSlice,
    List.dropWhile_append_of_pos blankBefore, List.dropWhile_append]
  split
  · rename_i allBlank
    have nothing : after.dropWhile isBlank = [] :=
      List.dropWhile_eq_nil_iff.mpr blankAfter
    rw [nothing, List.isEmpty_iff.mp allBlank]
  · rw [List.rdropWhile, List.rdropWhile, List.reverse_append,
      List.dropWhile_append_of_pos]
    intro byte member
    exact blankAfter byte (List.mem_reverse.mp member)

/-- An edit leaves the values of every key as they are. -/
theorem LineEdit.valuesIn_eq {lines others : List CString}
    (edit : LineEdit lines others) {key : CString}
    (isKey : key ∈ infoKeys) :
    valuesIn key others = valuesIn key lines := by
  cases edit with
  | @unknown line front back notKey =>
      rw [valuesIn_append, valuesIn_append, valuesIn_cons,
        rpsGpuValueAfterKey_eq_none (notKey key isKey)]
      rfl
  | @swap first second front back apart =>
      rw [valuesIn_append, valuesIn_append, valuesIn_cons, valuesIn_cons,
        valuesIn_cons, valuesIn_cons]
      by_cases starts : key <+: first
      · rw [rpsGpuValueAfterKey_eq_none (apart key isKey starts)]
        rfl
      · rw [rpsGpuValueAfterKey_eq_none starts]
        rfl
  | @blanks lineKey before value after front back isKeyToo blankBefore
      blankAfter =>
      rw [valuesIn_append, valuesIn_append, valuesIn_cons, valuesIn_cons]
      congr 2
      by_cases same : key = lineKey
      · subst same
        rw [rpsGpuValueAfterKey_eq_some_iff.mpr ⟨value, rfl, rfl⟩,
          rpsGpuValueAfterKey_eq_some_iff.mpr ⟨_, rfl, rfl⟩,
          rpsGpuTrimSlice_blanks blankBefore blankAfter]
      · have notStart : ∀ rest, ¬ key <+: lineKey ++ rest := by
          intro rest starts
          exact
            same
              (infoKey_unique isKey isKeyToo starts
                (List.prefix_append lineKey rest))
        rw [rpsGpuValueAfterKey_eq_none (notStart _),
          rpsGpuValueAfterKey_eq_none (notStart _)]

theorem LineEdit.parse_eq (edit : LineEdit (infoLines text) (infoLines other)) :
    rpsGpuParseGpuInformation path (some other) =
      rpsGpuParseGpuInformation path (some text) :=
  rpsGpuParseGpuInformation_congr fun _ isKey => edit.valuesIn_eq isKey

/-! ## Line ends -/

/-- A carriage return at the end of a line is a blank like any other. -/
theorem rpsGpuValueAfterKey_append_carriageReturn {key : CString}
    (isKey : key ∈ infoKeys) (line : CString) :
    rpsGpuValueAfterKey (line ++ [carriageReturn]) key =
      rpsGpuValueAfterKey line key := by
  have free : carriageReturn ∉ key := by
    have none : ∀ other, other ∈ infoKeys → carriageReturn ∉ other := by
      decide
    exact none key isKey
  by_cases starts : key <+: line
  · obtain ⟨rest, rfl⟩ := starts
    have isBlankReturn :
        ∀ byte, byte ∈ [carriageReturn] → isBlank byte = true := by
      intro byte member
      rw [List.mem_singleton.mp member]
      rfl
    have trimmed :
        rpsGpuTrimSlice ([] ++ (rest ++ [carriageReturn])) =
          rpsGpuTrimSlice rest :=
      rpsGpuTrimSlice_blanks (by simp) isBlankReturn
    rw [List.append_assoc,
      rpsGpuValueAfterKey_eq_some_iff.mpr
        (Exists.intro (rest ++ [carriageReturn]) ⟨rfl, trimmed⟩),
      rpsGpuValueAfterKey_eq_some_iff.mpr ⟨rest, rfl, rfl⟩]
  · have notStart : ¬ key <+: line ++ [carriageReturn] := by
      intro longer
      rcases List.prefix_concat_iff.mp longer with whole | shorter
      · exact free (by rw [whole]; simp)
      · exact starts shorter
    rw [rpsGpuValueAfterKey_eq_none starts,
      rpsGpuValueAfterKey_eq_none notStart]

theorem rpsGpuValueAfterKey_dropCarriageReturn {key : CString}
    (isKey : key ∈ infoKeys) (line : CString) :
    rpsGpuValueAfterKey (dropCarriageReturn line) key =
      rpsGpuValueAfterKey line key := by
  rw [dropCarriageReturn]
  split
  · rename_i ends
    obtain ⟨front, rfl⟩ := List.getLast?_eq_some_iff.mp ends
    rw [List.dropLast_concat,
      rpsGpuValueAfterKey_append_carriageReturn isKey]
  · rfl

theorem withCarriageReturns_of_newline_notMem {line : CString}
    (free : newline ∉ line) : withCarriageReturns line = line := by
  induction line with
  | nil =>
      rfl
  | cons byte rest inductionHypothesis =>
      obtain ⟨other, later⟩ := not_or.mp (mt List.mem_cons.mpr free)
      rw [withCarriageReturns, List.flatMap_cons, if_neg (Ne.symm other),
        ← withCarriageReturns, inductionHypothesis later]
      rfl

theorem withCarriageReturns_append (front back : CString) :
    withCarriageReturns (front ++ back) =
      withCarriageReturns front ++ withCarriageReturns back :=
  List.flatMap_append

/-- The lines of the text with CRLF are the lines with CRLF. -/
theorem rawLines_withCarriageReturns (text : CString) :
    rawLines newline (withCarriageReturns text) =
      (rawLines newline text).map withCarriageReturns := by
  induction text with
  | nil =>
      rfl
  | cons byte rest inductionHypothesis =>
      rw [withCarriageReturns, List.flatMap_cons, ← withCarriageReturns,
        rawLines]
      by_cases ends : byte = newline
      · rw [if_pos ends, if_pos ends, ends, List.map_cons,
          ← inductionHypothesis]
        rfl
      · rw [if_neg ends, if_neg ends, List.singleton_append, rawLines,
          if_neg ends, inductionHypothesis]
        cases rawLines newline rest with
        | nil =>
            have alone : newline ∉ [byte] := by
              simpa using Ne.symm ends
            exact
              congrArg (fun line => [line])
                (withCarriageReturns_of_newline_notMem alone).symm
        | cons line lines =>
            have first :
                withCarriageReturns (byte :: line) =
                  byte :: withCarriageReturns line := by
              rw [withCarriageReturns, List.flatMap_cons, if_neg ends]
              rfl
            exact
              congrArg (· :: lines.map withCarriageReturns) first.symm

theorem infoValues_withCarriageReturns {key : CString}
    (isKey : key ∈ infoKeys) (text : CString) :
    infoValues key (withCarriageReturns text) = infoValues key text := by
  rw [infoValues, infoValues, infoLines, infoLines,
    rawLines_withCarriageReturns, valuesIn, valuesIn, List.map_map,
    List.filterMap_map, List.filterMap_map]
  apply List.filterMap_congr
  intro raw member
  rw [Function.comp_apply, Function.comp_apply, Function.comp_apply,
    rpsGpuValueAfterKey_dropCarriageReturn isKey,
    rpsGpuValueAfterKey_dropCarriageReturn isKey]
  rcases (areLines_rawLines newline text).mem_cases member with
    unended | ended
  · rw [withCarriageReturns_of_newline_notMem unended]
  · obtain ⟨front, free, rfl⟩ := ended
    have both :
        withCarriageReturns (front ++ [newline]) =
          (front ++ [carriageReturn]) ++ newline :: [] := by
      rw [withCarriageReturns_append,
        withCarriageReturns_of_newline_notMem free, List.append_assoc]
      rfl
    have freeToo : newline ∉ front ++ [carriageReturn] := by
      rw [List.mem_append, not_or]
      exact ⟨free, by decide⟩
    rw [both, takeWhile_append_separator freeToo,
      takeWhile_append_separator free,
      rpsGpuValueAfterKey_append_carriageReturn isKey]

end Edits

/-- The parser accepts exactly the format, with a bus id of at most 31 bytes
in the path too, and returns the values of the last lines; other texts leave
`present` at 0.  Only the values matter: not the lines for no key, the order
of lines for different keys, the blanks around a value or the line ends. -/
theorem rpsGpuParseGpuInformation_exact (path : Option CString)
    (text : CString) :
    (∀ info,
      rpsGpuParseGpuInformation path (some text) = some info ↔
        InFormat path text ∧
          ∃ bus, IsBusOf path text bus ∧ info = lastInfo text bus) ∧
      (presentAfter path (some text) = true ↔ InFormat path text) ∧
      (∀ other, LineEdit (infoLines text) (infoLines other) →
        rpsGpuParseGpuInformation path (some other) =
          rpsGpuParseGpuInformation path (some text)) ∧
      rpsGpuParseGpuInformation path (some (withCarriageReturns text)) =
        rpsGpuParseGpuInformation path (some text) := by
  refine ⟨?_, presentAfter_eq_true_iff, ?_, ?_⟩
  · intro info
    exact rpsGpuParseGpuInformation_eq_some_iff
  · intro other edit
    exact edit.parse_eq
  · exact
      rpsGpuParseGpuInformation_congr fun _ isKey =>
        infoValues_withCarriageReturns isKey text

/-- The path of an information file below a directory with a name of 32
bytes. -/
def longBusPath : CString :=
  informationPath (List.replicate 32 48)

/-- The text names no bus and is in order otherwise, and the path names one
that does not fit: it is rejected. -/
theorem not_parsed_longBus :
    ¬ ((rpsGpuParseGpuInformation (some longBusPath)
          (some (cstr "Device Minor: 0"))).isSome = true ↔
        (∀ value, value ∈ infoValues uuidKey (cstr "Device Minor: 0") →
          value.length < 96) ∧
          (∀ value,
            value ∈ infoValues busLocationKey (cstr "Device Minor: 0") →
              1 ≤ value.length ∧ value.length ≤ 31) ∧
          (∀ value,
            value ∈ infoValues deviceMinorKey (cstr "Device Minor: 0") →
              IsDecimal value ∧ decimalFrom 0 value ≤ 2147483647) ∧
          infoValues deviceMinorKey (cstr "Device Minor: 0") ≠ [] ∧
          (infoValues busLocationKey (cstr "Device Minor: 0") ≠ [] ∨
            ∃ bus, IsPathBus (some longBusPath) bus)) := by
  have rejected :
      rpsGpuParseGpuInformation (some longBusPath)
        (some (cstr "Device Minor: 0")) = none := by
    decide
  have noUuid : infoValues uuidKey (cstr "Device Minor: 0") = [] := by
    decide
  have noBus : infoValues busLocationKey (cstr "Device Minor: 0") = [] := by
    decide
  have minor :
      infoValues deviceMinorKey (cstr "Device Minor: 0") = [cstr "0"] := by
    decide
  have zero : IsDecimal (cstr "0") := by
    refine ⟨by decide, ?_⟩
    intro byte member
    have only : byte = 48 := List.mem_singleton.mp member
    rw [only]
    decide
  have named :
      IsPathBus (some longBusPath) (List.replicate 32 48) :=
    ⟨by decide, by decide, by decide⟩
  intro asStated
  have accepted :=
    asStated.mpr
      (by
        rw [noUuid, noBus, minor]
        refine
          ⟨by simp, by simp, ?_, by simp, Or.inr ⟨_, named⟩⟩
        intro value member
        rw [List.mem_singleton.mp member]
        exact ⟨zero, by decide⟩)
  rw [rejected] at accepted
  cases accepted

end RunpodShim
