import Mathlib.Algebra.Group.Nat.Defs
import RunpodShim.Behaviour.CgroupDetection
import RunpodShim.Memory.Memory

/-!
# The rewritten meminfo text

`rps_proc_meminfo_build` as a map of lines: three keys get the snapshot's
values, and every other line stays.
-/

namespace RunpodShim

open TextLines

/-! ## Decimal texts -/

section Decimals

theorem cstr_toString_eq (value : Nat) :
    cstr (toString value) =
      (Nat.toDigits 10 value).map fun digit => UInt8.ofNat digit.toNat := by
  rw [cstr, Nat.toString_eq_ofList_toDigits, String.toList_ofList]

/-- A digit as a byte. -/
theorem toNat_digit {digit : Char} (isDigit : digit.isDigit = true) :
    (UInt8.ofNat digit.toNat).toNat = digit.toNat ∧
      48 ≤ digit.toNat ∧ digit.toNat ≤ 57 := by
  simp only [Char.isDigit, Bool.and_eq_true, decide_eq_true_eq] at isDigit
  have least : 48 ≤ digit.toNat := isDigit.1
  have most : digit.toNat ≤ 57 := isDigit.2
  refine ⟨?_, least, most⟩
  rw [UInt8.toNat_ofNat']
  omega

theorem isDecimal_cstr_toString (value : Nat) :
    IsDecimal (cstr (toString value)) := by
  rw [cstr_toString_eq]
  constructor
  · simp
  · intro byte member
    obtain ⟨digit, inDigits, rfl⟩ := List.mem_map.mp member
    obtain ⟨same, least, most⟩ :=
      toNat_digit
        (Nat.isDigit_of_mem_toDigits (by decide) (by decide) inDigits)
    rw [UInt8.lt_iff_toNat_lt, UInt8.lt_iff_toNat_lt, same]
    simp only [UInt8.reduceToNat]
    omega

theorem decimalFrom_map_digits (start : Nat) {digits : List Char}
    (areDigits : ∀ digit, digit ∈ digits → digit.isDigit = true) :
    decimalFrom start (digits.map fun digit => UInt8.ofNat digit.toNat) =
      Nat.ofDigitChars 10 digits start := by
  induction digits generalizing start with
  | nil =>
      rfl
  | cons digit rest inductionHypothesis =>
      obtain ⟨same, _, _⟩ :=
        toNat_digit (areDigits digit List.mem_cons_self)
      rw [List.map_cons, decimalFrom, List.foldl_cons, ← decimalFrom, same,
        inductionHypothesis _ fun other member =>
          areDigits other (List.mem_cons_of_mem digit member),
        Nat.ofDigitChars_cons, Nat.mul_comm]
      rfl

/-- Printing and reading a number. -/
theorem decimalFrom_cstr_toString (value : Nat) :
    decimalFrom 0 (cstr (toString value)) = value := by
  rw [cstr_toString_eq, decimalFrom_map_digits 0 fun digit member =>
    Nat.isDigit_of_mem_toDigits (by decide) (by decide) member,
    Nat.ofDigitChars_ten_toDigits]

theorem length_cstr_toString_le {value count : Nat} (some : 0 < count)
    (small : value < 10 ^ count) :
    (cstr (toString value)).length ≤ count := by
  rw [cstr_toString_eq, List.length_map]
  exact (Nat.length_toDigits_le_iff (by decide) some).mpr small

end Decimals

/-! ## The rewritten lines -/

/-- A number right-aligned in at least 16 columns. -/
def column (value : Nat) : CString :=
  List.replicate (16 - (cstr (toString value)).length) 32 ++
    cstr (toString value)

/-- A line of the memory keys, without its newline. -/
def memoryLine (key : CString) (valueKb : Nat) : CString :=
  key ++ column valueKb ++ cstr " kB"

/-- A line after the rewrite, without its newline. -/
def rewrittenLine (snapshot : RpsMemorySnapshot) (line : CString) :
    CString :=
  if cstr "MemTotal:" <+: line then
    memoryLine (cstr "MemTotal:") (snapshot.total / 1024)
  else if cstr "MemAvailable:" <+: line then
    memoryLine (cstr "MemAvailable:") (snapshot.available / 1024)
  else if cstr "MemFree:" <+: line then
    memoryLine (cstr "MemFree:") (snapshot.available / 1024)
  else line

/-- The text after the rewrite. -/
def rewrittenText (snapshot : RpsMemorySnapshot) (text : List UInt8) :
    List UInt8 :=
  mapLines newline (rewrittenLine snapshot) text

/-- The number that a line gives for its key. -/
def reportedKb (key raw : CString) : Nat :=
  decimalFrom 0
    (((raw.drop key.length).dropWhile (· == 32)).takeWhile fun byte =>
      decide (48 ≤ byte ∧ byte ≤ 57))

/-- One of the three keys. -/
def IsMemoryKey (key : CString) : Prop :=
  key = cstr "MemTotal:" ∨ key = cstr "MemAvailable:" ∨
    key = cstr "MemFree:"

/-- A file as procfs gives it: no NUL, and every line short. -/
structure IsShortLined (content : List UInt8) : Prop where
  noNul : 0 ∉ content
  short :
    ∀ raw, raw ∈ rawLines newline content →
      (raw.takeWhile (· != newline)).length < 1023

section Lines

variable {snapshot : RpsMemorySnapshot} {key line raw : CString}

/-- A rewritten line has one of the keys in front, and a line that stays has
none of them. -/
theorem rewrittenLine_cases (snapshot : RpsMemorySnapshot)
    (line : CString) :
    (∃ key valueKb, IsMemoryKey key ∧ valueKb ≤ max snapshot.total
        snapshot.available ∧
        rewrittenLine snapshot line = memoryLine key valueKb) ∨
      rewrittenLine snapshot line = line := by
  rw [rewrittenLine]
  split
  · left
    refine ⟨_, _, Or.inl rfl, ?_, rfl⟩
    omega
  · split
    · left
      refine ⟨_, _, Or.inr (Or.inl rfl), ?_, rfl⟩
      omega
    · split
      · left
        refine ⟨_, _, Or.inr (Or.inr rfl), ?_, rfl⟩
        omega
      · exact Or.inr rfl

theorem notMem_column {byte : UInt8} (notSpace : byte ≠ 32)
    (notDigit : byte < 48 ∨ 57 < byte) (value : Nat) :
    byte ∉ column value := by
  intro member
  rcases List.mem_append.mp member with isSpace | inDigits
  · exact notSpace (List.eq_of_mem_replicate isSpace)
  · exact (isDecimal_cstr_toString value).digits byte inDigits notDigit

theorem newline_notMem_memoryLine (isKey : IsMemoryKey key)
    (valueKb : Nat) : newline ∉ memoryLine key valueKb := by
  have keyFree : newline ∉ key := by
    rcases isKey with rfl | rfl | rfl
    all_goals decide
  intro member
  rw [memoryLine, List.mem_append, List.mem_append] at member
  rcases member with (inKey | inColumn) | inUnit
  · exact keyFree inKey
  · exact notMem_column (by decide) (by decide) valueKb inColumn
  · exact absurd inUnit (by decide)

theorem nul_notMem_memoryLine (isKey : IsMemoryKey key)
    (valueKb : Nat) : 0 ∉ memoryLine key valueKb := by
  have keyFree : 0 ∉ key := by
    rcases isKey with rfl | rfl | rfl
    all_goals decide
  intro member
  rw [memoryLine, List.mem_append, List.mem_append] at member
  rcases member with (inKey | inColumn) | inUnit
  · exact keyFree inKey
  · exact notMem_column (by decide) (by decide) valueKb inColumn
  · exact absurd inUnit (by decide)

theorem length_memoryLine_le (isKey : IsMemoryKey key) {valueKb : Nat}
    (range : valueKb < 2 ^ 64) : (memoryLine key valueKb).length ≤ 36 := by
  have keyShort : key.length ≤ 13 := by
    rcases isKey with rfl | rfl | rfl
    all_goals decide
  have digits : (cstr (toString valueKb)).length ≤ 20 :=
    length_cstr_toString_le (by decide) (by omega)
  have unit : (cstr " kB").length = 3 := by
    decide
  rw [memoryLine, column, List.length_append, List.length_append,
    List.length_append, List.length_replicate, unit]
  omega

theorem newline_notMem_rewrittenLine (line : CString)
    (free : newline ∉ line) : newline ∉ rewrittenLine snapshot line := by
  rcases rewrittenLine_cases snapshot line with rewritten | same
  · obtain ⟨key, valueKb, isKey, _, written⟩ := rewritten
    rw [written]
    exact newline_notMem_memoryLine isKey valueKb
  · rw [same]
    exact free

theorem rewrittenLine_ne_nil (line : CString) (more : line ≠ []) :
    rewrittenLine snapshot line ≠ [] := by
  rcases rewrittenLine_cases snapshot line with rewritten | same
  · obtain ⟨key, valueKb, _, _, written⟩ := rewritten
    have unit : cstr " kB" ≠ [] := by
      decide
    rw [written, memoryLine]
    exact List.append_ne_nil_of_right_ne_nil _ unit
  · rw [same]
    exact more

theorem prefix_memoryLine (key : CString) (valueKb : Nat) :
    key <+: memoryLine key valueKb := by
  rw [memoryLine, List.append_assoc]
  exact List.prefix_append key _

/-- A key does not start the line of another. -/
theorem not_prefix_memoryLine {other : CString} (valueKb : Nat)
    (notBefore : ¬ other <+: key) (notAfter : ¬ key <+: other) :
    ¬ other <+: memoryLine key valueKb := by
  intro starts
  rcases
      List.prefix_or_prefix_of_prefix starts (prefix_memoryLine key valueKb)
    with before | after
  · exact notBefore before
  · exact notAfter after

/-- Rewriting a rewritten line changes nothing. -/
theorem rewrittenLine_idempotent (line : CString) :
    rewrittenLine snapshot (rewrittenLine snapshot line) =
      rewrittenLine snapshot line := by
  by_cases total : cstr "MemTotal:" <+: line
  · have written :
        rewrittenLine snapshot line =
          memoryLine (cstr "MemTotal:") (snapshot.total / 1024) :=
      if_pos total
    rw [written, rewrittenLine,
      if_pos (prefix_memoryLine _ _)]
  · by_cases available : cstr "MemAvailable:" <+: line
    · have written :
          rewrittenLine snapshot line =
            memoryLine (cstr "MemAvailable:")
              (snapshot.available / 1024) := by
        rw [rewrittenLine, if_neg total, if_pos available]
      have notTotal :
          ¬ cstr "MemTotal:" <+:
            memoryLine (cstr "MemAvailable:")
              (snapshot.available / 1024) :=
        not_prefix_memoryLine _ (by decide) (by decide)
      rw [written, rewrittenLine, if_neg notTotal,
        if_pos (prefix_memoryLine _ _)]
    · by_cases free : cstr "MemFree:" <+: line
      · have written :
            rewrittenLine snapshot line =
              memoryLine (cstr "MemFree:") (snapshot.available / 1024) := by
          rw [rewrittenLine, if_neg total, if_neg available, if_pos free]
        have notTotal :
            ¬ cstr "MemTotal:" <+:
              memoryLine (cstr "MemFree:") (snapshot.available / 1024) :=
          not_prefix_memoryLine _ (by decide) (by decide)
        have notAvailable :
            ¬ cstr "MemAvailable:" <+:
              memoryLine (cstr "MemFree:") (snapshot.available / 1024) :=
          not_prefix_memoryLine _ (by decide) (by decide)
        rw [written, rewrittenLine, if_neg notTotal, if_neg notAvailable,
          if_pos (prefix_memoryLine _ _)]
      · have stays : rewrittenLine snapshot line = line := by
          rw [rewrittenLine, if_neg total, if_neg available, if_neg free]
        rw [stays, stays]

end Lines

/-! ## The loop -/

section Loop

variable {snapshot : RpsMemorySnapshot} {buflen : Nat}

theorem appendBytes_eq (buf data : CString) :
    appendBytes buflen buf data =
      if (buf ++ data).length ≤ buflen then some (buf ++ data) else none := by
  rw [appendBytes, List.length_append]
  by_cases fits : buf.length + data.length ≤ buflen
  · rw [if_pos fits, if_neg (by omega)]
  · rw [if_neg fits, if_pos (by omega)]

theorem kbLine_eq (key : CString) (valueKb : Nat) (ends : Bool) :
    kbLine key valueKb ends =
      memoryLine key valueKb ++ if ends then [newline] else [] := by
  rw [kbLine, memoryLine, column, List.append_assoc key]

theorem appendRewrittenLine_eq {key : CString} (isKey : IsMemoryKey key)
    {valueKb : Nat} (range : valueKb < 2 ^ 64) (buf : CString)
    (ends : Bool) :
    appendRewrittenLine buflen buf key valueKb ends =
      appendBytes buflen buf
        (memoryLine key valueKb ++ if ends then [newline] else []) := by
  have short :
      ¬ (kbLine key valueKb ends).length ≥ 128 := by
    have body := length_memoryLine_le isKey range
    rw [kbLine_eq, List.length_append]
    cases ends with
    | false =>
        simp only [Bool.false_eq_true, if_false, List.length_nil]
        omega
    | true =>
        simp only [if_true, List.length_singleton]
        omega
  rw [appendRewrittenLine, if_neg short, kbLine_eq]

/-- What is left of a line from its newline on. -/
theorem ending_of_line {raw : CString}
    (isLine :
      newline ∉ raw ∨
        ∃ front, newline ∉ front ∧ raw = front ++ [newline]) :
    (if raw.contains newline = true then [newline] else []) =
      raw.dropWhile (· != newline) := by
  rcases isLine with free | ended
  · rw [dropWhile_of_separator_notMem free, if_neg (by simpa using free)]
  · obtain ⟨front, free, rfl⟩ := ended
    rw [dropWhile_append_separator free, if_pos (by simp)]

/-- The body of the loop appends the rewritten line. -/
theorem rewriteLine_eq (total : snapshot.total < 2 ^ 64)
    (available : snapshot.available < 2 ^ 64) (buf : CString)
    {raw : CString}
    (isLine :
      newline ∉ raw ∨
        ∃ front, newline ∉ front ∧ raw = front ++ [newline]) :
    rewriteLine snapshot buflen buf raw =
      appendBytes buflen buf
        (onLine newline (rewrittenLine snapshot) raw) := by
  have starts {key : CString} (isKey : IsMemoryKey key) :
      key <+: raw.takeWhile (· != newline) ↔ key <+: raw := by
    apply prefix_takeWhile_iff
    rcases isKey with rfl | rfl | rfl
    all_goals decide
  simp only [rewriteLine, onLine, rewrittenLine, starts (Or.inl rfl),
    starts (Or.inr (Or.inl rfl)), starts (Or.inr (Or.inr rfl)),
    ← ending_of_line isLine]
  split
  · exact appendRewrittenLine_eq (Or.inl rfl) (by omega) buf _
  · split
    · exact appendRewrittenLine_eq (Or.inr (Or.inl rfl)) (by omega) buf _
    · split
      · exact appendRewrittenLine_eq (Or.inr (Or.inr rfl)) (by omega) buf _
      · rw [ending_of_line isLine, List.takeWhile_append_dropWhile]

/-- The loop appends the rewritten lines, while they fit. -/
theorem rewriteLines_eq (total : snapshot.total < 2 ^ 64)
    (available : snapshot.available < 2 ^ 64) {lines : List CString}
    (areLines : AreLines newline lines) {buf : CString}
    (within : buf.length ≤ buflen) :
    rewriteLines snapshot buflen buf lines =
      if (buf ++
          (lines.map (onLine newline (rewrittenLine snapshot))).flatten
            ).length ≤ buflen then
        some
          (buf ++
            (lines.map (onLine newline (rewrittenLine snapshot))).flatten)
      else none := by
  have eachLine :
      ∀ raw, raw ∈ lines →
        newline ∉ raw ∨
          ∃ front, newline ∉ front ∧ raw = front ++ [newline] :=
    fun raw member => areLines.mem_cases member
  clear areLines
  induction lines generalizing buf with
  | nil =>
      rw [rewriteLines, List.map_nil, List.flatten_nil, List.append_nil,
        if_pos within]
  | cons raw rest inductionHypothesis =>
      rw [rewriteLines,
        rewriteLine_eq total available buf (eachLine raw List.mem_cons_self),
        appendBytes_eq, List.map_cons, List.flatten_cons,
        ← List.append_assoc]
      by_cases fits :
          (buf ++ onLine newline (rewrittenLine snapshot) raw).length ≤
            buflen
      · rw [if_pos fits, Option.bind_some,
          inductionHypothesis fits fun other member =>
            eachLine other (List.mem_cons_of_mem raw member)]
      · have tooLong :
            ¬ (buf ++ onLine newline (rewrittenLine snapshot) raw ++
              (rest.map
                (onLine newline (rewrittenLine snapshot))).flatten
              ).length ≤ buflen := by
          rw [List.length_append]
          omega
        rw [if_neg fits, Option.bind_none, if_neg tooLong]

end Loop

/-! ## The whole text -/

section Text

variable {world : FileWorld} {state : MemoryState}
variable {snapshot : RpsMemorySnapshot} {path : CString}
variable {content : List UInt8}

/-- The available memory of a snapshot is part of the total. -/
theorem available_le_total_of_taken
    (taken : (rpsMemorySnapshot world state (some ⟨0, 0⟩)).ok = true)
    (written :
      (rpsMemorySnapshot world state (some ⟨0, 0⟩)).out = some snapshot) :
    snapshot.available ≤ snapshot.total := by
  rw [rpsMemorySnapshot, if_neg (Option.some_ne_none _)] at taken written
  simp only at taken written
  split at taken
  · cases taken
  · rename_i detected
    rw [if_neg detected] at written
    split at taken
    · cases taken
    · rename_i mem refreshed
      rw [refreshed] at written
      rw [← Option.some.inj written, snapshotOf]
      simp only
      split
      · exact Nat.sub_le _ _
      · exact Nat.zero_le _

/-- The reader takes such a file line by line. -/
theorem linesRead_of_shortLined (shortLined : IsShortLined content) :
    (readChunks newline (lineBufferSize - 1) content.length content).map
        (fun line => line.takeWhile (· != 0)) =
      rawLines newline content := by
  have fits :
      ∀ raw, raw ∈ rawLines newline content →
        raw.length ≤ lineBufferSize - 1 := by
    intro raw member
    have short := shortLined.short raw member
    have room : lineBufferSize - 1 = 1023 := rfl
    rcases (areLines_rawLines newline content).mem_cases member with
      free | ended
    · rw [takeWhile_of_separator_notMem free] at short
      omega
    · obtain ⟨front, free, rfl⟩ := ended
      rw [takeWhile_append_separator free] at short
      rw [List.length_append, List.length_singleton]
      omega
  have kept :
      ∀ raw, raw ∈ rawLines newline content →
        raw.takeWhile (· != 0) = id raw := by
    intro raw member
    have noNul : 0 ∉ raw := fun inRaw =>
      shortLined.noNul (mem_of_mem_rawLines member inRaw)
    exact takeWhile_of_separator_notMem noNul
  rw [readChunks_eq_rawLines fits (Nat.le_refl _), List.map_congr_left kept,
    List.map_id]

/-- The text is built exactly when it fits. -/
theorem rpsProcMeminfoBuild_eq
    (taken : (rpsMemorySnapshot world state (some ⟨0, 0⟩)).ok = true)
    (written :
      (rpsMemorySnapshot world state (some ⟨0, 0⟩)).out = some snapshot)
    (range : snapshot.total < 2 ^ 64)
    (opened : openMeminfo world = some path)
    (readable : world.readError path = false)
    (isFile : world.file path = some content)
    (shortLined : IsShortLined content) (buflen : Nat) :
    (rpsProcMeminfoBuild world state buflen).1 =
      if (rewrittenText snapshot content).length ≤ buflen then
        some (rewrittenText snapshot content)
      else none := by
  have within := available_le_total_of_taken taken written
  have looped :
      rewriteLines snapshot buflen [] (rawLines newline content) =
        if (rewrittenText snapshot content).length ≤ buflen then
          some (rewrittenText snapshot content)
        else none :=
    rewriteLines_eq range (by omega) (areLines_rawLines newline content)
      (Nat.zero_le buflen)
  simp only [rpsProcMeminfoBuild, taken, written, opened, isFile,
    Option.getD_some, Option.bind_some, linesRead_of_shortLined shortLined,
    looped, readable, Bool.not_true, Bool.false_eq_true, if_false]
  split
  · rfl
  · rfl

theorem rawLines_rewrittenText (content : List UInt8) :
    rawLines newline (rewrittenText snapshot content) =
      (rawLines newline content).map
        (onLine newline (rewrittenLine snapshot)) :=
  rawLines_mapLines newline_notMem_rewrittenLine rewrittenLine_ne_nil
    content

theorem rewrittenText_rewrittenText (content : List UInt8) :
    rewrittenText snapshot (rewrittenText snapshot content) =
      rewrittenText snapshot content :=
  mapLines_mapLines newline_notMem_rewrittenLine rewrittenLine_ne_nil
    (fun line _ => rewrittenLine_idempotent line) content

/-- The rewritten text is one that could be read in its turn. -/
theorem isShortLined_rewrittenText (range : snapshot.total < 2 ^ 64)
    (within : snapshot.available ≤ snapshot.total)
    (shortLined : IsShortLined content) :
    IsShortLined (rewrittenText snapshot content) := by
  have each :
      ∀ raw, raw ∈ rawLines newline content →
        0 ∉ rewrittenLine snapshot (raw.takeWhile (· != newline)) ∧
          (rewrittenLine snapshot (raw.takeWhile (· != newline))).length <
            1023 := by
    intro raw member
    rcases rewrittenLine_cases snapshot (raw.takeWhile (· != newline)) with
      rewritten | same
    · obtain ⟨key, valueKb, isKey, small, written⟩ := rewritten
      have short : (memoryLine key valueKb).length ≤ 36 :=
        length_memoryLine_le isKey (by omega)
      rw [written]
      exact ⟨nul_notMem_memoryLine isKey valueKb, by omega⟩
    · rw [same]
      refine ⟨?_, shortLined.short raw member⟩
      intro inLine
      exact
        shortLined.noNul
          (mem_of_mem_rawLines member
            ((List.takeWhile_sublist _).mem inLine))
  constructor
  · intro member
    obtain ⟨raw', inLines, inRaw⟩ := List.mem_flatten.mp member
    obtain ⟨raw, inContent, rfl⟩ := List.mem_map.mp inLines
    rcases List.mem_append.mp inRaw with inFront | inEnding
    · exact (each raw inContent).1 inFront
    · exact
        shortLined.noNul
          (mem_of_mem_rawLines inContent
            ((List.dropWhile_sublist _).mem inEnding))
  · intro raw' member
    rw [rawLines_rewrittenText] at member
    obtain ⟨raw, inContent, rfl⟩ := List.mem_map.mp member
    have free :
        newline ∉
          rewrittenLine snapshot (raw.takeWhile (· != newline)) :=
      newline_notMem_rewrittenLine _ (separator_notMem_takeWhile raw)
    rw [takeWhile_onLine free]
    exact (each raw inContent).2

/-- The number of a memory line can be read back. -/
theorem reportedKb_memoryLine (key : CString) (valueKb : Nat)
    (ending : CString) :
    reportedKb key (memoryLine key valueKb ++ ending) = valueKb := by
  have decimal := isDecimal_cstr_toString valueKb
  have notSpace :
      ∀ rest : CString,
        (cstr (toString valueKb) ++ rest).dropWhile (· == 32) =
          cstr (toString valueKb) ++ rest := by
    intro rest
    cases digits : cstr (toString valueKb) with
    | nil =>
        exact absurd digits decimal.nonempty
    | cons first more =>
        have isDigit :=
          decimal.digits first (digits ▸ List.mem_cons_self)
        have other : (first == 32) = false := by
          rw [beq_eq_false_iff_ne]
          intro same
          exact isDigit (same ▸ Or.inl (by decide))
        rw [List.cons_append, List.dropWhile_cons_of_neg (by simp [other])]
  have allDigits :
      ∀ byte, byte ∈ cstr (toString valueKb) →
        decide (48 ≤ byte ∧ byte ≤ 57) = true := by
    intro byte member
    have isDigit := decimal.digits byte member
    rw [not_or, UInt8.not_lt, UInt8.not_lt] at isDigit
    simpa using isDigit
  have spaces :
      ∀ rest : CString,
        (List.replicate (16 - (cstr (toString valueKb)).length) 32 ++
          rest).dropWhile (· == 32) = rest.dropWhile (· == 32) := by
    intro rest
    apply List.dropWhile_append_of_pos
    intro byte member
    rw [List.eq_of_mem_replicate member]
    rfl
  have unit :
      (cstr " kB" ++ ending).takeWhile
        (fun byte => decide (48 ≤ byte ∧ byte ≤ 57)) = [] := by
    rfl
  rw [reportedKb, memoryLine, List.append_assoc, List.append_assoc,
    List.drop_left, column, List.append_assoc, spaces, notSpace,
    List.takeWhile_append_of_pos allDigits, unit, List.append_nil,
    decimalFrom_cstr_toString]

/-- What the lines of the rewritten text say for the three keys. -/
theorem reportedKb_of_rewritten {raw : CString}
    (member : raw ∈ rawLines newline (rewrittenText snapshot content)) :
    (cstr "MemTotal:" <+: raw →
      reportedKb (cstr "MemTotal:") raw = snapshot.total / 1024) ∧
      (cstr "MemAvailable:" <+: raw →
        reportedKb (cstr "MemAvailable:") raw =
          snapshot.available / 1024) ∧
      (cstr "MemFree:" <+: raw →
        reportedKb (cstr "MemFree:") raw = snapshot.available / 1024) := by
  rw [rawLines_rewrittenText] at member
  obtain ⟨original, _, same⟩ := List.mem_map.mp member
  have settled :
      onLine newline (rewrittenLine snapshot) raw = raw := by
    rw [← same]
    exact
      onLine_onLine newline_notMem_rewrittenLine
        (fun line _ => rewrittenLine_idempotent line) original
  have starts {key : CString} (free : newline ∉ key) :
      key <+: raw ↔ key <+: raw.takeWhile (· != newline) :=
    (prefix_takeWhile_iff free raw).symm
  have written {key : CString} {valueKb : Nat}
      (isLine :
        rewrittenLine snapshot (raw.takeWhile (· != newline)) =
          memoryLine key valueKb) :
      reportedKb key raw = valueKb := by
    rw [← settled, onLine, isLine]
    exact reportedKb_memoryLine key valueKb _
  have exclusive {first second : CString}
      (firstStarts : first <+: raw.takeWhile (· != newline))
      (notBefore : ¬ second <+: first) (notAfter : ¬ first <+: second) :
      ¬ second <+: raw.takeWhile (· != newline) := by
    intro secondStarts
    rcases List.prefix_or_prefix_of_prefix secondStarts firstStarts with
      before | after
    · exact notBefore before
    · exact notAfter after
  refine ⟨?_, ?_, ?_⟩
  · intro isTotal
    rw [starts (by decide)] at isTotal
    apply written
    rw [rewrittenLine, if_pos isTotal]
  · intro isAvailable
    rw [starts (by decide)] at isAvailable
    apply written
    rw [rewrittenLine,
      if_neg (exclusive isAvailable (by decide) (by decide)),
      if_pos isAvailable]
  · intro isFree
    rw [starts (by decide)] at isFree
    apply written
    rw [rewrittenLine, if_neg (exclusive isFree (by decide) (by decide)),
      if_neg (exclusive isFree (by decide) (by decide)), if_pos isFree]

end Text

/-- The rewrite of a readable meminfo file under a successful snapshot: it is
built exactly when it fits, it is the same lines with the three keys given the
snapshot's values, the values read back agree, and rewriting it again under
the same snapshot gives it back. -/
theorem rpsProcMeminfoBuild_exact {world : FileWorld} {state : MemoryState}
    {snapshot : RpsMemorySnapshot} {path : CString} {content : List UInt8}
    (taken : (rpsMemorySnapshot world state (some ⟨0, 0⟩)).ok = true)
    (written :
      (rpsMemorySnapshot world state (some ⟨0, 0⟩)).out = some snapshot)
    (range : snapshot.total < 2 ^ 64)
    (opened : openMeminfo world = some path)
    (readable : world.readError path = false)
    (isFile : world.file path = some content)
    (shortLined : IsShortLined content) :
    (∀ buflen,
      (rpsProcMeminfoBuild world state buflen).1 =
        if (rewrittenText snapshot content).length ≤ buflen then
          some (rewrittenText snapshot content)
        else none) ∧
      rawLines newline (rewrittenText snapshot content) =
        (rawLines newline content).map
          (onLine newline (rewrittenLine snapshot)) ∧
      (∀ raw, raw ∈ rawLines newline (rewrittenText snapshot content) →
        (cstr "MemTotal:" <+: raw →
          reportedKb (cstr "MemTotal:") raw = snapshot.total / 1024) ∧
          (cstr "MemAvailable:" <+: raw →
            reportedKb (cstr "MemAvailable:") raw =
              snapshot.available / 1024) ∧
          (cstr "MemFree:" <+: raw →
            reportedKb (cstr "MemFree:") raw =
              snapshot.available / 1024)) ∧
      snapshot.available / 1024 ≤ snapshot.total / 1024 ∧
      ∀ (again : FileWorld) (later : MemoryState) (copy : CString),
        (rpsMemorySnapshot again later (some ⟨0, 0⟩)).ok = true →
          (rpsMemorySnapshot again later (some ⟨0, 0⟩)).out =
              some snapshot →
            openMeminfo again = some copy →
              again.readError copy = false →
                again.file copy = some (rewrittenText snapshot content) →
                  ∀ buflen,
                    (rewrittenText snapshot content).length ≤ buflen →
                      (rpsProcMeminfoBuild again later buflen).1 =
                        some (rewrittenText snapshot content) := by
  have within := available_le_total_of_taken taken written
  refine
    ⟨rpsProcMeminfoBuild_eq taken written range opened readable isFile
        shortLined,
      rawLines_rewrittenText content, fun raw => reportedKb_of_rewritten,
      Nat.div_le_div_right within, ?_⟩
  intro again later copy takenAgain writtenAgain openedAgain readableAgain
    isCopy buflen fits
  rw [rpsProcMeminfoBuild_eq takenAgain writtenAgain range openedAgain
    readableAgain isCopy
    (isShortLined_rewrittenText range within shortLined),
    rewrittenText_rewrittenText, if_pos fits]

/-- The meminfo file of a host. -/
def hostMeminfo : List UInt8 :=
  cstr "MemTotal:       65842 kB\nBuffers: 1 kB\nMemFree:    12 kB"

/-- A process with a limit of four megabytes on that host. -/
def meminfoWorld : FileWorld :=
  worldOf
    [(cstr "/proc/self/mountinfo",
        cstr "31 23 0:27 / /cg rw - cgroup2 cgroup2 rw\n"),
      (cstr "/proc/self/cgroup", cstr "0::/pod\n"),
      (cstr "/cg/pod/memory.max", cstr "4194304\n"),
      (cstr "/cg/pod/memory.current", cstr "1048576\n"),
      (cstr "/proc/meminfo", hostMeminfo)]

/-- What that process reads, with the last line still open. -/
theorem rpsProcMeminfoBuild_exact_host :
    (rpsProcMeminfoBuild meminfoWorld MemoryState.initial 4096).1 =
      some
        (cstr
          "MemTotal:            4096 kB\nBuffers: 1 kB\nMemFree:            3072 kB") := by
  have exact :=
    rpsProcMeminfoBuild_exact
      (by decide :
        (rpsMemorySnapshot meminfoWorld MemoryState.initial
          (some ⟨0, 0⟩)).ok = true)
      (by decide :
        (rpsMemorySnapshot meminfoWorld MemoryState.initial
          (some ⟨0, 0⟩)).out = some ⟨4194304, 3145728⟩)
      (by decide)
      (by decide : openMeminfo meminfoWorld = some (cstr "/proc/meminfo"))
      (rfl : meminfoWorld.readError (cstr "/proc/meminfo") = false)
      (by decide :
        meminfoWorld.file (cstr "/proc/meminfo") = some hostMeminfo)
      ⟨by decide, by decide⟩
  rw [exact.1 4096]
  decide

end RunpodShim
