import RunpodShim.Library.LexicalPath

/-!
# C strings and Unix paths

A `const char *` is modelled by the bytes before its terminating NUL, and a
pointer that may be NULL by an `Option`.
-/

namespace RunpodShim

open LexicalPath

/-- The bytes of a C string before its NUL. -/
abbrev CString := List UInt8

/-- A string literal of the source. -/
def cstr (literal : String) : CString :=
  literal.toList.map fun character => UInt8.ofNat character.toNat

/-- The byte `'/'`. -/
def slash : UInt8 := 47

/-- The byte `'\n'`. -/
def newline : UInt8 := 10

/-- The byte `'\r'`. -/
def carriageReturn : UInt8 := 13

/-- Paths as the kernel reads them: `/` separates, `.` and `..` move. -/
def unixPath : PathSyntax UInt8 where
  separator := slash
  here := cstr "."
  parent := cstr ".."

/-- The names as one absolute path; the root has a slash of its own. -/
def canonical (names : List CString) : CString :=
  if names = [] then [slash] else render slash names

@[simp]
theorem canonical_nil : canonical [] = [slash] :=
  rfl

theorem canonical_of_ne_nil {names : List CString} (more : names ≠ []) :
    canonical names = render slash names := by
  simp [canonical, more]

theorem head?_canonical (names : List CString) :
    (canonical names).head? = some slash := by
  cases names with
  | nil =>
      rfl
  | cons name rest =>
      simp [canonical]

/-- A canonical path is cut into the names it was made of. -/
theorem segments_canonical {names : List CString}
    (proper : ∀ name, name ∈ names → IsName unixPath name) :
    segments slash (canonical names) = names := by
  cases names with
  | nil =>
      rw [canonical_nil, segments_separator_cons, segments_nil]
  | cons name rest =>
      rw [canonical_of_ne_nil (List.cons_ne_nil name rest)]
      exact
        segments_render fun other member =>
          (proper other member).toIsSegment

theorem canonical_injective {first second : List CString}
    (firstProper : ∀ name, name ∈ first → IsName unixPath name)
    (secondProper : ∀ name, name ∈ second → IsName unixPath name)
    (same : canonical first = canonical second) :
    first = second := by
  rw [← segments_canonical firstProper, same,
    segments_canonical secondProper]

/-- `path[0] == '/'`, false for NULL. -/
def pathIsAbsolute : Option CString → Bool
  | none => false
  | some path => path.head? == some slash

/-- `path[0] != '/'`, false for NULL. -/
def pathIsRelative : Option CString → Bool
  | none => false
  | some path => path.head? != some slash

theorem pathIsRelative_of_pathIsAbsolute {path : Option CString}
    (absolute : pathIsAbsolute path = true) :
    pathIsRelative path = false := by
  cases path with
  | none =>
      rfl
  | some bytes =>
      simp only [pathIsAbsolute, beq_iff_eq] at absolute
      simp [pathIsRelative, absolute]

/-! ## Decimal digits -/

/-- The digit loop of the decimal readers: every byte must be a digit, and
the next value is tested against `limit` by division before it is formed. -/
def digitLoop (limit : Nat) : CString → Nat → Option Nat
  | [], value => some value
  | byte :: rest, value =>
      if byte < 48 ∨ 57 < byte then none
      else if (limit - (byte.toNat - 48)) / 10 < value then none
      else digitLoop limit rest (value * 10 + (byte.toNat - 48))

/-- The number that a string of digits stands for, behind `value`. -/
def decimalFrom (value : Nat) (digits : CString) : Nat :=
  digits.foldl (fun value byte => value * 10 + (byte.toNat - 48)) value

/-- A decimal: at least one byte, and digits only. -/
structure IsDecimal (token : CString) : Prop where
  nonempty : token ≠ []
  digits : ∀ byte, byte ∈ token → ¬ (byte < 48 ∨ 57 < byte)

theorem le_decimalFrom (value : Nat) (digits : CString) :
    value ≤ decimalFrom value digits := by
  induction digits generalizing value with
  | nil =>
      exact Nat.le_refl value
  | cons byte rest inductionHypothesis =>
      have later := inductionHypothesis (value * 10 + (byte.toNat - 48))
      rw [decimalFrom, List.foldl_cons, ← decimalFrom]
      omega

/-- The digit loop reads the decimals up to the limit. -/
theorem digitLoop_eq_some_iff {limit : Nat} (large : 9 ≤ limit)
    {bytes : CString} {value result : Nat} (fits : value ≤ limit) :
    digitLoop limit bytes value = some result ↔
      (∀ byte, byte ∈ bytes → ¬ (byte < 48 ∨ 57 < byte)) ∧
        decimalFrom value bytes = result ∧ result ≤ limit := by
  induction bytes generalizing value with
  | nil =>
      simp only [digitLoop, Option.some.injEq, List.not_mem_nil,
        false_implies, implies_true, true_and, decimalFrom, List.foldl_nil]
      constructor
      · intro same
        subst same
        exact ⟨rfl, fits⟩
      · exact fun both => both.1
  | cons byte rest inductionHypothesis =>
      rw [digitLoop, decimalFrom, List.foldl_cons, ← decimalFrom,
        List.forall_mem_cons]
      by_cases notDigit : byte < 48 ∨ 57 < byte
      · simp [notDigit]
      · have small : byte.toNat - 48 ≤ 9 := by
          rw [not_or, UInt8.not_lt, UInt8.not_lt] at notDigit
          have least := UInt8.le_iff_toNat_le.mp notDigit.1
          have most := UInt8.le_iff_toNat_le.mp notDigit.2
          simp only [UInt8.reduceToNat] at least most
          omega
        rw [if_neg notDigit]
        by_cases exceeds : (limit - (byte.toNat - 48)) / 10 < value
        · have later :=
            le_decimalFrom (value * 10 + (byte.toNat - 48)) rest
          rw [if_pos exceeds]
          constructor
          · intro impossible
            cases impossible
          · intro given
            rcases given with ⟨_, same, short⟩
            omega
        · rw [if_neg exceeds, inductionHypothesis (by omega)]
          simp [notDigit]

/-- `INT_MAX`. -/
def intMax : Nat := 2147483647

/-- `UINT64_MAX`. -/
def uint64Max : Nat := 18446744073709551615

end RunpodShim
