import RunpodShim.Behaviour.CgroupDetection
import RunpodShim.Behaviour.InformationFormat
import RunpodShim.Gpu.FdTracker
import RunpodShim.Library.CheckedIntegers

/-!
# The decimal readers

The four copies of the digit loop, in mathematical integers and in the
arithmetic of C, where a result outside its type is not to be had.
-/

namespace RunpodShim

open CheckedIntegers CheckedIntegers.IntegerType

/-! ## The readers in the arithmetic of C -/

/-- `int`. -/
def cInt : IntegerType where
  least := -2147483648
  greatest := 2147483647
  least_le_zero := by decide
  zero_le_greatest := by decide

/-- `uint64_t`. -/
def cUint64 : IntegerType where
  least := 0
  greatest := 18446744073709551615
  least_le_zero := by decide
  zero_le_greatest := by decide

/-- A `char` as an `int`; whether it has a sign is up to the compiler. -/
def charValue (signed : Bool) (byte : UInt8) : Int :=
  if signed = true ∧ 128 ≤ byte.toNat then byte.toNat - 256
  else byte.toNat

/-- The digit loop with `value` in the type.  The outer `none` is a result
outside its type, the inner one a string that is rejected. -/
def checkedDigitLoop (type : IntegerType) (signed : Bool) :
    CString → Int → Option (Option Int)
  | [], value => some (some value)
  | byte :: rest, value =>
      if charValue signed byte < 48 ∨ 57 < charValue signed byte then
        some none
      else
        -- The difference is an `int` before it is converted.
        (cInt.result (charValue signed byte - 48)).bind fun difference =>
        (type.result difference).bind fun digit =>
        (type.result (type.greatest - digit)).bind fun room =>
        (type.result (room.tdiv 10)).bind fun bound =>
          if bound < value then some none
          else
            (type.result (value * 10)).bind fun scaled =>
            (type.result (scaled + digit)).bind fun next =>
              checkedDigitLoop type signed rest next

/-- `rps_gpu_name_is_nvidia_minor`. -/
def checkedNameIsNvidiaMinor (signed : Bool) (name : CString) :
    Option (Option Int) :=
  if cstr "nvidia" <+: name then
    if name.drop (cstr "nvidia").length = [] then some none
    else checkedDigitLoop cInt signed (name.drop (cstr "nvidia").length) 0
  else some none

/-- `rps_gpu_parse_nvidia_minor`. -/
def checkedParseNvidiaMinor (signed : Bool) (path : CString) :
    Option (Option Int) :=
  if cstr "/dev/nvidia" <+: path then
    if path.drop (cstr "/dev/nvidia").length = [] then some none
    else
      checkedDigitLoop cInt signed
        (path.drop (cstr "/dev/nvidia").length) 0
  else some none

/-- `rps_gpu_parse_nonnegative_int`. -/
def checkedParseNonnegativeInt (signed : Bool) (src : CString) :
    Option (Option Int) :=
  if src.length = 0 then some none
  else checkedDigitLoop cInt signed src 0

/-- `parse_u64_token`, which reads `unsigned char`. -/
def checkedParseU64Token (token : CString) : Option (Option Int) :=
  if token = [] then some none else checkedDigitLoop cUint64 false token 0

/-! ## No result leaves its type -/

section Loop

variable {byte : UInt8}

theorem exists_digit (isDigit : ¬ (byte < 48 ∨ 57 < byte)) :
    ∃ digit, digit ≤ 9 ∧ byte.toNat = 48 + digit := by
  rw [not_or, UInt8.not_lt, UInt8.not_lt] at isDigit
  have least := UInt8.le_iff_toNat_le.mp isDigit.1
  have most := UInt8.le_iff_toNat_le.mp isDigit.2
  simp only [UInt8.reduceToNat] at least most
  obtain ⟨digit, same⟩ := Nat.exists_eq_add_of_le least
  exact ⟨digit, by omega, same⟩

/-- With or without a sign the digits are the same bytes. -/
theorem charValue_notDigit_iff (signed : Bool) :
    charValue signed byte < 48 ∨ 57 < charValue signed byte ↔
      byte < 48 ∨ 57 < byte := by
  have below : byte.toNat < 256 := byte.toNat_lt
  rw [UInt8.lt_iff_toNat_lt, UInt8.lt_iff_toNat_lt, charValue]
  simp only [UInt8.reduceToNat]
  split
  · omega
  · omega

theorem charValue_sub (signed : Bool) {digit : Nat} (small : digit ≤ 9)
    (same : byte.toNat = 48 + digit) :
    cInt.result (charValue signed byte - 48) = some (digit : Int) := by
  have value : charValue signed byte - 48 = (digit : Int) := by
    rw [charValue, if_neg (by omega), same]
    omega
  have intGreatest : cInt.greatest = 2147483647 := rfl
  rw [value, result_natCast (by omega)]

/-- In a type with room for the digits the loop meets no result outside it,
and reads what the loop of integers reads. -/
theorem checkedDigitLoop_eq {type : IntegerType} {limit : Nat}
    (greatest : type.greatest = limit) (large : 9 ≤ limit)
    (signed : Bool) {bytes : CString} {value : Nat}
    (fits : value ≤ limit) :
    checkedDigitLoop type signed bytes value =
      some ((digitLoop limit bytes value).map Nat.cast) := by
  induction bytes generalizing value with
  | nil =>
      rfl
  | cons byte rest inductionHypothesis =>
      rw [checkedDigitLoop, digitLoop]
      by_cases notDigit : byte < 48 ∨ 57 < byte
      · rw [if_pos ((charValue_notDigit_iff signed).mpr notDigit),
          if_pos notDigit]
        rfl
      · obtain ⟨digit, small, same⟩ := exists_digit notDigit
        have modelDigit : byte.toNat - 48 = digit := by omega
        have converted : type.result (digit : Int) = some (digit : Int) :=
          result_natCast (by omega)
        have room :
            type.result (type.greatest - digit) =
              some ((limit - digit : Nat) : Int) := by
          have difference :
              type.greatest - digit = ((limit - digit : Nat) : Int) := by
            omega
          rw [difference, result_natCast (by omega)]
        have bound :
            type.result (((limit - digit : Nat) : Int).tdiv 10) =
              some (((limit - digit) / 10 : Nat) : Int) := by
          have quotient :
              ((limit - digit : Nat) : Int).tdiv 10 =
                (((limit - digit) / 10 : Nat) : Int) :=
            (Int.ofNat_tdiv _ 10).symm
          rw [quotient, result_natCast (by omega)]
        rw [if_neg fun outside =>
            notDigit ((charValue_notDigit_iff signed).mp outside),
          if_neg notDigit, charValue_sub signed small same,
          Option.bind_some, converted, Option.bind_some, room,
          Option.bind_some, bound, Option.bind_some, modelDigit]
        by_cases exceeds : (limit - digit) / 10 < value
        · rw [if_pos exceeds, if_pos (Int.ofNat_lt.mpr exceeds)]
          rfl
        · -- The test by division has left room for both results.
          have scaled :
              type.result ((value : Int) * 10) =
                some ((value * 10 : Nat) : Int) := by
            have product :
                (value : Int) * 10 = ((value * 10 : Nat) : Int) := by
              omega
            rw [product, result_natCast (by omega)]
          have next :
              type.result (((value * 10 : Nat) : Int) + digit) =
                some ((value * 10 + digit : Nat) : Int) :=
            result_natCast (by omega)
          rw [if_neg exceeds, if_neg fun less =>
              exceeds (Int.ofNat_lt.mp less),
            scaled, Option.bind_some, next, Option.bind_some]
          exact inductionHypothesis (by omega)

theorem checkedDigitLoop_cInt (signed : Bool) (bytes : CString) :
    checkedDigitLoop cInt signed bytes 0 =
      some ((digitLoop intMax bytes 0).map Nat.cast) := by
  have noValue : 0 ≤ intMax := Nat.zero_le _
  exact checkedDigitLoop_eq rfl (by decide) signed noValue

end Loop

/-! ## The readers agree -/

section Readers

theorem devNvidia_eq :
    cstr "/dev/nvidia" = cstr "/dev/" ++ cstr "nvidia" := by
  decide

theorem checkedNameIsNvidiaMinor_eq (signed : Bool) (name : CString) :
    checkedNameIsNvidiaMinor signed name =
      some ((rpsGpuNameIsNvidiaMinor name).map Nat.cast) := by
  rw [checkedNameIsNvidiaMinor, rpsGpuNameIsNvidiaMinor]
  split
  · cases name.drop (cstr "nvidia").length with
    | nil =>
        rfl
    | cons first rest =>
        rw [if_neg (List.cons_ne_nil first rest), checkedDigitLoop_cInt]
  · rfl

theorem checkedParseNvidiaMinor_eq (signed : Bool) (path : CString) :
    checkedParseNvidiaMinor signed path =
      some ((rpsGpuParseNvidiaMinor path).map Nat.cast) := by
  rw [checkedParseNvidiaMinor, rpsGpuParseNvidiaMinor]
  split
  · cases path.drop (cstr "/dev/nvidia").length with
    | nil =>
        rfl
    | cons first rest =>
        rw [if_neg (List.cons_ne_nil first rest), checkedDigitLoop_cInt]
  · rfl

theorem checkedParseNonnegativeInt_eq (signed : Bool) (src : CString) :
    checkedParseNonnegativeInt signed src =
      some ((rpsGpuParseNonnegativeInt src).map Nat.cast) := by
  rw [checkedParseNonnegativeInt, rpsGpuParseNonnegativeInt]
  split
  · rfl
  · exact checkedDigitLoop_cInt signed src

theorem checkedParseU64Token_eq (token : CString) :
    checkedParseU64Token token =
      some ((parseU64Token token).map Nat.cast) := by
  rw [checkedParseU64Token, parseU64Token]
  split
  · rfl
  · have noValue : 0 ≤ uint64Max := Nat.zero_le _
    exact checkedDigitLoop_eq rfl (by decide) false noValue

/-- A device node has the same minor by its path as by its name. -/
theorem rpsGpuParseNvidiaMinor_dev (name : CString) :
    rpsGpuParseNvidiaMinor (cstr "/dev/" ++ name) =
      rpsGpuNameIsNvidiaMinor name := by
  have tail :
      (cstr "/dev/" ++ name).drop (cstr "/dev/" ++ cstr "nvidia").length =
        name.drop (cstr "nvidia").length := by
    rw [List.length_append, ← List.drop_drop, List.drop_left]
  have starts :
      cstr "/dev/" ++ cstr "nvidia" <+: cstr "/dev/" ++ name ↔
        cstr "nvidia" <+: name :=
    List.prefix_append_right_inj _
  rw [rpsGpuParseNvidiaMinor, rpsGpuNameIsNvidiaMinor, devNvidia_eq, tail]
  by_cases begins : cstr "nvidia" <+: name
  · rewrite [if_pos (starts.mpr begins), if_pos begins]
    cases name.drop (cstr "nvidia").length with
    | nil =>
        rfl
    | cons first rest =>
        rfl
  · rw [if_neg fun whole => begins (starts.mp whole), if_neg begins]

/-- Behind the prefix the name is read as a number is. -/
theorem rpsGpuNameIsNvidiaMinor_append (digits : CString) :
    rpsGpuNameIsNvidiaMinor (cstr "nvidia" ++ digits) =
      rpsGpuParseNonnegativeInt digits := by
  rw [rpsGpuNameIsNvidiaMinor, if_pos (List.prefix_append _ digits),
    List.drop_left, rpsGpuParseNonnegativeInt]
  cases digits with
  | nil =>
      rfl
  | cons first rest =>
      rfl

theorem rpsGpuNameIsNvidiaMinor_eq_some_iff {name : CString}
    {minor : Nat} :
    rpsGpuNameIsNvidiaMinor name = some minor ↔
      ∃ digits, name = cstr "nvidia" ++ digits ∧ IsDecimal digits ∧
        decimalFrom 0 digits = minor ∧ minor ≤ 2147483647 := by
  rw [← rpsGpuParseNvidiaMinor_dev, rpsGpuParseNvidiaMinor_eq_some_iff,
    devNvidia_eq]
  constructor
  · intro given
    obtain ⟨digits, decimal, same, short, whole⟩ := given
    rw [List.append_assoc] at whole
    exact
      ⟨digits, List.append_cancel_left whole, decimal, same, short⟩
  · intro given
    obtain ⟨digits, whole, decimal, same, short⟩ := given
    exact
      ⟨digits, decimal, same, short, by rw [whole, List.append_assoc]⟩

end Readers

/-- The readers accept the decimals up to their limits and return their
values, the two of device nodes agree with each other and with the one of
numbers, and in the arithmetic of C no result leaves its type. -/
theorem decimalReaders_exact (text : CString) :
    (∀ value, rpsGpuNameIsNvidiaMinor text = some value ↔
      ∃ digits, text = cstr "nvidia" ++ digits ∧ IsDecimal digits ∧
        decimalFrom 0 digits = value ∧ value ≤ 2147483647) ∧
      rpsGpuParseNvidiaMinor (cstr "/dev/" ++ text) =
        rpsGpuNameIsNvidiaMinor text ∧
      (∀ digits, text = cstr "nvidia" ++ digits →
        rpsGpuParseNonnegativeInt digits =
          rpsGpuNameIsNvidiaMinor text) ∧
      (∀ value, rpsGpuParseNonnegativeInt text = some value ↔
        IsDecimal text ∧ decimalFrom 0 text = value ∧
          value ≤ 2147483647) ∧
      (∀ value, parseU64Token text = some value ↔
        IsDecimal text ∧ decimalFrom 0 text = value ∧
          value ≤ 18446744073709551615) ∧
      (∀ signed,
        checkedNameIsNvidiaMinor signed text =
            some ((rpsGpuNameIsNvidiaMinor text).map Nat.cast) ∧
          checkedParseNvidiaMinor signed text =
            some ((rpsGpuParseNvidiaMinor text).map Nat.cast) ∧
          checkedParseNonnegativeInt signed text =
            some ((rpsGpuParseNonnegativeInt text).map Nat.cast)) ∧
      checkedParseU64Token text =
        some ((parseU64Token text).map Nat.cast) := by
  refine ⟨?_, rpsGpuParseNvidiaMinor_dev text, ?_, ?_, ?_, ?_, ?_⟩
  · intro value
    exact rpsGpuNameIsNvidiaMinor_eq_some_iff
  · intro digits whole
    rw [whole, rpsGpuNameIsNvidiaMinor_append]
  · intro value
    rw [rpsGpuParseNonnegativeInt_eq_some_iff]
    constructor
    · intro given
      obtain ⟨⟨decimal, short⟩, same⟩ := given
      exact ⟨decimal, same, same ▸ short⟩
    · intro given
      obtain ⟨decimal, same, short⟩ := given
      exact ⟨⟨decimal, same ▸ short⟩, same⟩
  · intro value
    exact parseU64Token_eq_some_iff
  · intro signed
    exact
      ⟨checkedNameIsNvidiaMinor_eq signed text,
        checkedParseNvidiaMinor_eq signed text,
        checkedParseNonnegativeInt_eq signed text⟩
  · exact checkedParseU64Token_eq text

end RunpodShim
