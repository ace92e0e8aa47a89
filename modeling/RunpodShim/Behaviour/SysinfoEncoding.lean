import Mathlib.Algebra.Group.Nat.Defs
import Mathlib.Data.Nat.Find
import RunpodShim.Behaviour.MemoryReporting
import RunpodShim.Preload.MemoryCalls

/-!
# The encoding of `sysinfo`

The unit that the scaling loop settles on, and what the correction does to the
fields that share it.
-/

namespace RunpodShim

/-- Both amounts of a snapshot fit in an `unsigned long` of such units. -/
def FitsIn (ulongMax : Nat) (snapshot : RpsMemorySnapshot) (unit : Nat) :
    Prop :=
  snapshot.total / unit ≤ ulongMax ∧ snapshot.available / unit ≤ ulongMax

instance (ulongMax : Nat) (snapshot : RpsMemorySnapshot) (unit : Nat) :
    Decidable (FitsIn ulongMax snapshot unit) :=
  inferInstanceAs
    (Decidable
      (snapshot.total / unit ≤ ulongMax ∧
        snapshot.available / unit ≤ ulongMax))

/-! ## The scaling loop -/

section Loop

variable {ulongMax : Nat} {snapshot : RpsMemorySnapshot}
variable {rounds scale : Nat}

theorem encodeScale_of_fitsIn (fits : FitsIn ulongMax snapshot scale) :
    encodeScale ulongMax snapshot (rounds + 1) scale = some scale := by
  have inRange :
      ¬ (snapshot.total / scale > ulongMax ∨
        snapshot.available / scale > ulongMax) := by
    rw [not_or]
    exact ⟨Nat.not_lt.mpr fits.1, Nat.not_lt.mpr fits.2⟩
  rw [encodeScale, if_neg inRange]

theorem encodeScale_of_not_fitsIn
    (exceeds : ¬ FitsIn ulongMax snapshot scale) :
    encodeScale ulongMax snapshot (rounds + 1) scale =
      if scale > uintMax / 2 then none
      else encodeScale ulongMax snapshot rounds (scale * 2) := by
  have outOfRange :
      snapshot.total / scale > ulongMax ∨
        snapshot.available / scale > ulongMax := by
    rw [FitsIn, not_and_or] at exceeds
    exact exceeds.imp Nat.lt_of_not_le Nat.lt_of_not_le
  rw [encodeScale, if_pos outOfRange]

/-- Larger units fit when smaller ones do. -/
theorem FitsIn.mono {first second : Nat}
    (fits : FitsIn ulongMax snapshot (2 ^ first)) (le : first ≤ second) :
    FitsIn ulongMax snapshot (2 ^ second) := by
  have larger : 2 ^ first ≤ 2 ^ second :=
    Nat.pow_le_pow_right (by decide) le
  have positive : 0 < 2 ^ first := Nat.two_pow_pos first
  exact
    ⟨Nat.le_trans (Nat.div_le_div_left larger positive) fits.1,
      Nat.le_trans (Nat.div_le_div_left larger positive) fits.2⟩

/-- The last doubling starts at 2^30. -/
theorem le_half_uintMax_iff {exponent : Nat} :
    2 ^ exponent ≤ uintMax / 2 ↔ exponent ≤ 30 := by
  have half : uintMax / 2 = 2 ^ 31 - 1 := by
    decide
  rw [half]
  constructor
  · intro small
    apply Nat.le_of_not_lt
    intro large
    have most : 2 ^ 31 ≤ 2 ^ exponent :=
      Nat.pow_le_pow_right (by decide) large
    omega
  · intro small
    have most : 2 ^ exponent ≤ 2 ^ 30 :=
      Nat.pow_le_pow_right (by decide) small
    omega

/-- From a power of two on, the loop finds the next power of two that fits,
if there is one up to 2^31. -/
theorem encodeScale_eq_some_iff {exponent result : Nat}
    (few : exponent ≤ 31) (enough : 32 ≤ rounds + exponent) :
    encodeScale ulongMax snapshot rounds (2 ^ exponent) = some result ↔
      ∃ found, exponent ≤ found ∧ found ≤ 31 ∧ result = 2 ^ found ∧
        FitsIn ulongMax snapshot (2 ^ found) ∧
          ∀ other, exponent ≤ other →
            FitsIn ulongMax snapshot (2 ^ other) → found ≤ other := by
  induction rounds generalizing exponent with
  | zero =>
      omega
  | succ rounds inductionHypothesis =>
      by_cases fits : FitsIn ulongMax snapshot (2 ^ exponent)
      · rw [encodeScale_of_fitsIn fits]
        constructor
        · intro same
          refine ⟨exponent, Nat.le_refl _, few, ?_, fits, ?_⟩
          · exact (Option.some.inj same).symm
          · intro other later _
            exact later
        · intro given
          rcases given with ⟨found, later, _, same, _, least⟩
          have exact : found = exponent :=
            Nat.le_antisymm (least exponent (Nat.le_refl _) fits) later
          rw [same, exact]
      · rw [encodeScale_of_not_fitsIn fits]
        have later {found : Nat} (onward : exponent ≤ found)
            (fitsThere : FitsIn ulongMax snapshot (2 ^ found)) :
            exponent + 1 ≤ found := by
          apply Nat.lt_of_le_of_ne onward
          intro same
          rw [same] at fits
          exact fits fitsThere
        by_cases last : exponent ≤ 30
        · rw [if_neg (Nat.not_lt.mpr (le_half_uintMax_iff.mpr last)),
            ← Nat.pow_succ,
            inductionHypothesis (by omega) (by omega)]
          constructor
          · intro given
            rcases given with ⟨found, after, small, same, there, least⟩
            refine
              ⟨found, by omega, small, same, there, ?_⟩
            intro other notBefore fitsThere
            exact least other (later notBefore fitsThere) fitsThere
          · intro given
            rcases given with ⟨found, after, small, same, there, least⟩
            refine ⟨found, later after there, small, same, there, ?_⟩
            intro other notBefore fitsThere
            exact least other (by omega) fitsThere
        · have large : 2 ^ exponent > uintMax / 2 :=
            Nat.lt_of_not_le fun small =>
              last (le_half_uintMax_iff.mp small)
          rw [if_pos large]
          constructor
          · intro impossible
            cases impossible
          · intro given
            rcases given with ⟨found, after, small, _, there, _⟩
            have beyond := later after there
            omega

/-- The unit that the whole loop finds. -/
theorem encodeScale_one_eq_some_iff (enough : 32 ≤ rounds) {result : Nat} :
    encodeScale ulongMax snapshot rounds 1 = some result ↔
      ∃ exponent, exponent ≤ 31 ∧ result = 2 ^ exponent ∧
        FitsIn ulongMax snapshot (2 ^ exponent) ∧
          ∀ other, FitsIn ulongMax snapshot (2 ^ other) →
            exponent ≤ other := by
  have started :
      encodeScale ulongMax snapshot rounds (2 ^ 0) = some result ↔
        ∃ found, 0 ≤ found ∧ found ≤ 31 ∧ result = 2 ^ found ∧
          FitsIn ulongMax snapshot (2 ^ found) ∧
            ∀ other, 0 ≤ other →
              FitsIn ulongMax snapshot (2 ^ other) → found ≤ other :=
    encodeScale_eq_some_iff (Nat.zero_le 31) enough
  rw [Nat.pow_zero] at started
  rw [started]
  simp

/-- More rounds find the same: the loop has ended by then. -/
theorem encodeScale_rounds (enough : 33 ≤ rounds) :
    encodeScale ulongMax snapshot rounds 1 =
      encodeScale ulongMax snapshot 33 1 := by
  apply Option.ext
  intro result
  rw [encodeScale_one_eq_some_iff (by omega),
    encodeScale_one_eq_some_iff (by decide)]

end Loop

/-! ## The encoding -/

/-- The exponent of the least power of two in whose units both amounts
fit. -/
structure IsLeastExponent (ulongMax : Nat) (snapshot : RpsMemorySnapshot)
    (exponent : Nat) : Prop where
  fits : FitsIn ulongMax snapshot (2 ^ exponent)
  least :
    ∀ other, FitsIn ulongMax snapshot (2 ^ other) → exponent ≤ other

section Encoding

variable {ulongMax : Nat} {snapshot : RpsMemorySnapshot}

/-- An amount below the largest detectable limit fits in units of 2^31. -/
theorem fitsIn_of_detectable (wide : 2 ^ 32 - 1 ≤ ulongMax)
    (below : snapshot.total < rpsCgroupUnlimitedSentinel)
    (within : snapshot.available ≤ snapshot.total) :
    FitsIn ulongMax snapshot (2 ^ 31) := by
  have sentinel : rpsCgroupUnlimitedSentinel ≤ 2 ^ 63 := by
    decide
  constructor
  · omega
  · omega

/-- When some power of two up to 2^31 does, the encoding uses the least. -/
theorem encodeSysinfoMemory_of_fitsIn
    (fits : FitsIn ulongMax snapshot (2 ^ 31)) :
    ∃ exponent, exponent ≤ 31 ∧
      IsLeastExponent ulongMax snapshot exponent ∧
        encodeSysinfoMemory ulongMax snapshot =
          some
            ⟨snapshot.total / 2 ^ exponent,
              snapshot.available / 2 ^ exponent, 2 ^ exponent⟩ := by
  have somewhere : ∃ exponent, FitsIn ulongMax snapshot (2 ^ exponent) :=
    ⟨31, fits⟩
  have least :
      ∀ other, FitsIn ulongMax snapshot (2 ^ other) →
        Nat.find somewhere ≤ other :=
    fun _ fitsThere => Nat.find_min' somewhere fitsThere
  have small : Nat.find somewhere ≤ 31 := least 31 fits
  have scaled :
      encodeScale ulongMax snapshot 33 1 = some (2 ^ Nat.find somewhere) :=
    (encodeScale_one_eq_some_iff (by decide)).mpr
      ⟨Nat.find somewhere, small, rfl, Nat.find_spec somewhere, least⟩
  have unit : ¬ 2 ^ Nat.find somewhere > uintMax := by
    have most : 2 ^ Nat.find somewhere ≤ 2 ^ 31 :=
      Nat.pow_le_pow_right (by decide) small
    have range : 2 ^ 31 ≤ uintMax := by
      decide
    omega
  refine
    ⟨Nat.find somewhere, small, ⟨Nat.find_spec somewhere, least⟩, ?_⟩
  rw [encodeSysinfoMemory, scaled, Option.bind_some, if_neg unit]

theorem encodeSysinfoMemory_eq_none_iff :
    encodeSysinfoMemory ulongMax snapshot = none ↔
      ∀ exponent, exponent ≤ 31 →
        ¬ FitsIn ulongMax snapshot (2 ^ exponent) := by
  constructor
  · intro refused exponent small fits
    obtain ⟨_, _, _, encoded⟩ :=
      encodeSysinfoMemory_of_fitsIn (fits.mono small)
    rw [encoded] at refused
    cases refused
  · intro nowhere
    have unscaled : encodeScale ulongMax snapshot 33 1 = none := by
      rw [Option.eq_none_iff_forall_ne_some]
      intro result scaled
      obtain ⟨exponent, small, _, fits, _⟩ :=
        (encodeScale_one_eq_some_iff (by decide)).mp scaled
      exact nowhere exponent small fits
    rw [encodeSysinfoMemory, unscaled, Option.bind_none]

end Encoding

/-- What the encoding of a snapshot is to be. -/
structure Encodes (ulongMax : Nat) (snapshot : RpsMemorySnapshot)
    (encoded : EncodedMemory) : Prop where
  unit :
    ∃ exponent, encoded.memUnit = 2 ^ exponent ∧
      IsLeastExponent ulongMax snapshot exponent
  unit_le : encoded.memUnit ≤ 2 ^ 31
  unit_fits : encoded.memUnit ≤ uintMax
  totalram_fits : encoded.totalram ≤ ulongMax
  freeram_fits : encoded.freeram ≤ ulongMax
  totalram_le : encoded.totalram * encoded.memUnit ≤ snapshot.total
  lt_totalram : snapshot.total < (encoded.totalram + 1) * encoded.memUnit
  freeram_le : encoded.freeram * encoded.memUnit ≤ snapshot.available
  lt_freeram :
    snapshot.available < (encoded.freeram + 1) * encoded.memUnit
  freeram_le_totalram : encoded.freeram ≤ encoded.totalram

theorem encodes_of_isLeastExponent {ulongMax exponent : Nat}
    {snapshot : RpsMemorySnapshot} (small : exponent ≤ 31)
    (least : IsLeastExponent ulongMax snapshot exponent)
    (within : snapshot.available ≤ snapshot.total) :
    Encodes ulongMax snapshot
      ⟨snapshot.total / 2 ^ exponent, snapshot.available / 2 ^ exponent,
        2 ^ exponent⟩ := by
  have positive : 0 < 2 ^ exponent := Nat.two_pow_pos exponent
  have most : 2 ^ exponent ≤ 2 ^ 31 :=
    Nat.pow_le_pow_right (by decide) small
  have range : 2 ^ 31 ≤ uintMax := by
    decide
  exact
    { unit := ⟨exponent, rfl, least⟩
      unit_le := most
      unit_fits := Nat.le_trans most range
      totalram_fits := least.fits.1
      freeram_fits := least.fits.2
      totalram_le := Nat.div_mul_le_self _ _
      lt_totalram := Nat.lt_mul_of_div_lt (Nat.lt_succ_self _) positive
      freeram_le := Nat.div_mul_le_self _ _
      lt_freeram := Nat.lt_mul_of_div_lt (Nat.lt_succ_self _) positive
      freeram_le_totalram := Nat.div_le_div_right within }

/-- The encoding, for both widths of `unsigned long`: every detectable limit
has one, in the least unit; the loop gives up only when no unit up to 2^31
would do; and it has ended when the rounds are over. -/
theorem encodeSysinfoMemory_exact {ulongMax : Nat}
    (width : ulongMax = 2 ^ 32 - 1 ∨ ulongMax = 2 ^ 64 - 1) :
    (∀ snapshot : RpsMemorySnapshot,
      0 < snapshot.total → snapshot.total < 0x7ffffffffffff000 →
        snapshot.available ≤ snapshot.total →
          ∃ encoded, encodeSysinfoMemory ulongMax snapshot = some encoded ∧
            Encodes ulongMax snapshot encoded) ∧
      (∀ snapshot : RpsMemorySnapshot,
        snapshot.total < 2 ^ 64 → snapshot.available < 2 ^ 64 →
          (encodeSysinfoMemory ulongMax snapshot = none ↔
            ∀ exponent, exponent ≤ 31 →
              ¬ FitsIn ulongMax snapshot (2 ^ exponent))) ∧
      ∀ (snapshot : RpsMemorySnapshot) (rounds : Nat), 33 ≤ rounds →
        encodeScale ulongMax snapshot rounds 1 =
          encodeScale ulongMax snapshot 33 1 := by
  have wide : 2 ^ 32 - 1 ≤ ulongMax := by
    omega
  refine ⟨?_, ?_, ?_⟩
  · intro snapshot _ below within
    obtain ⟨exponent, small, least, encoded⟩ :=
      encodeSysinfoMemory_of_fitsIn (fitsIn_of_detectable wide below within)
    exact ⟨_, encoded, encodes_of_isLeastExponent small least within⟩
  · intro snapshot _ _
    exact encodeSysinfoMemory_eq_none_iff
  · intro snapshot rounds enough
    exact encodeScale_rounds enough

/-- The largest detectable limit, with 32 bits. -/
theorem encodeSysinfoMemory_exact_largest :
    ∃ encoded,
      encodeSysinfoMemory (2 ^ 32 - 1)
          ⟨0x7fffffffffffefff, 0x7fffffffffffefff⟩ = some encoded ∧
        Encodes (2 ^ 32 - 1) ⟨0x7fffffffffffefff, 0x7fffffffffffefff⟩
          encoded := by
  have exact := encodeSysinfoMemory_exact (Or.inl (rfl : 2 ^ 32 - 1 = _))
  exact exact.1 _ (by decide) (by decide) (Nat.le_refl _)

/-! ## The correction -/

/-- What the correction is to leave: the bytes of every other amount, and the
snapshot rounded down to the unit. -/
structure Corrects (snapshot : RpsMemorySnapshot) (real after : SysInfo) :
    Prop where
  sharedram :
    after.sharedram * after.memUnit = real.sharedram * real.memUnit
  bufferram :
    after.bufferram * after.memUnit = real.bufferram * real.memUnit
  totalswap :
    after.totalswap * after.memUnit = real.totalswap * real.memUnit
  freeswap :
    after.freeswap * after.memUnit = real.freeswap * real.memUnit
  totalhigh :
    after.totalhigh * after.memUnit = real.totalhigh * real.memUnit
  freehigh :
    after.freehigh * after.memUnit = real.freehigh * real.memUnit
  totalram :
    after.totalram * after.memUnit =
      snapshot.total / after.memUnit * after.memUnit
  freeram :
    after.freeram * after.memUnit =
      snapshot.available / after.memUnit * after.memUnit

/-- No amount but the two that are corrected. -/
structure NothingElse (info : SysInfo) : Prop where
  sharedram : info.sharedram = 0
  bufferram : info.bufferram = 0
  totalswap : info.totalswap = 0
  freeswap : info.freeswap = 0
  totalhigh : info.totalhigh = 0
  freehigh : info.freehigh = 0

/-- The unit is the least power of two in which the snapshot fits. -/
def HasLeastUnit (ulongMax : Nat) (snapshot : RpsMemorySnapshot)
    (info : SysInfo) : Prop :=
  ∃ exponent, info.memUnit = 2 ^ exponent ∧
    IsLeastExponent ulongMax snapshot exponent

section Correction

variable {ulongMax exponent : Nat} {snapshot : RpsMemorySnapshot}
variable {real : SysInfo}

theorem IsLeastExponent.unique {other : Nat}
    (first : IsLeastExponent ulongMax snapshot exponent)
    (second : IsLeastExponent ulongMax snapshot other) :
    exponent = other :=
  Nat.le_antisymm (first.least other second.fits)
    (second.least exponent first.fits)

/-- The record after the correction, in units of 2^exponent. -/
def correctedIn (exponent : Nat) (snapshot : RpsMemorySnapshot)
    (real : SysInfo) : SysInfo :=
  { real with
    memUnit := 2 ^ exponent
    totalram := snapshot.total / 2 ^ exponent
    freeram := snapshot.available / 2 ^ exponent }

/-- Fields that the correction does not write keep their bytes only under the
unit that they were written in. -/
theorem corrects_correctedIn_iff :
    Corrects snapshot real (correctedIn exponent snapshot real) ↔
      real.memUnit = 2 ^ exponent ∨ NothingElse real := by
  constructor
  · intro corrects
    by_cases same : real.memUnit = 2 ^ exponent
    · exact Or.inl same
    · have zero {amount : Nat}
          (kept : amount * 2 ^ exponent = amount * real.memUnit) :
          amount = 0 := by
        rcases Nat.eq_zero_or_pos amount with isZero | positive
        · exact isZero
        · exact absurd (Nat.eq_of_mul_eq_mul_left positive kept).symm same
      exact
        Or.inr
          { sharedram := zero corrects.sharedram
            bufferram := zero corrects.bufferram
            totalswap := zero corrects.totalswap
            freeswap := zero corrects.freeswap
            totalhigh := zero corrects.totalhigh
            freehigh := zero corrects.freehigh }
  · intro either
    have kept (amount : Nat)
        (spared : real.memUnit = 2 ^ exponent ∨ amount = 0) :
        amount * 2 ^ exponent = amount * real.memUnit := by
      rcases spared with same | isZero
      · rw [same]
      · rw [isZero, Nat.zero_mul, Nat.zero_mul]
    exact
      { sharedram := kept real.sharedram (either.imp_right fun none => none.sharedram)
        bufferram := kept real.bufferram (either.imp_right fun none => none.bufferram)
        totalswap := kept real.totalswap (either.imp_right fun none => none.totalswap)
        freeswap := kept real.freeswap (either.imp_right fun none => none.freeswap)
        totalhigh := kept real.totalhigh (either.imp_right fun none => none.totalhigh)
        freehigh := kept real.freehigh (either.imp_right fun none => none.freehigh)
        totalram := rfl
        freeram := rfl }

/-- A corrected call gives the record in the least unit. -/
theorem sysinfo_eq_correctedIn (real : SysInfo) {cfg : RpsConfig} {world : FileWorld}
    {state : MemoryState} (switched : cfg.cgroupMemory = true)
    (taken : (rpsMemorySnapshot world state (some ⟨0, 0⟩)).ok = true)
    (written :
      (rpsMemorySnapshot world state (some ⟨0, 0⟩)).out = some snapshot)
    (fits : FitsIn ulongMax snapshot (2 ^ 31)) :
    ∃ exponent, IsLeastExponent ulongMax snapshot exponent ∧
      (sysinfo ulongMax cfg true world state 0 (some real)).1 =
        some (correctedIn exponent snapshot real) := by
  obtain ⟨exponent, _, least, encoded⟩ := encodeSysinfoMemory_of_fitsIn fits
  refine ⟨exponent, least, ?_⟩
  simp [sysinfo, switched, taken, written, encoded, correctedIn]

end Correction

/-- A corrected call leaves the other amounts alone exactly when the kernel
reports in the unit that the encoding chooses, or reports no other amount. -/
theorem sysinfo_corrects_iff {ulongMax : Nat}
    (width : ulongMax = 2 ^ 32 - 1 ∨ ulongMax = 2 ^ 64 - 1)
    {cfg : RpsConfig} (switched : cfg.cgroupMemory = true)
    {world : FileWorld} {state : MemoryState}
    {snapshot : RpsMemorySnapshot}
    (taken : (rpsMemorySnapshot world state (some ⟨0, 0⟩)).ok = true)
    (written :
      (rpsMemorySnapshot world state (some ⟨0, 0⟩)).out = some snapshot)
    (below : snapshot.total < 0x7ffffffffffff000)
    (within : snapshot.available ≤ snapshot.total) (real : SysInfo) :
    ∃ after,
      (sysinfo ulongMax cfg true world state 0 (some real)).1 = some after ∧
        (Corrects snapshot real after ↔
          HasLeastUnit ulongMax snapshot real ∨ NothingElse real) := by
  have wide : 2 ^ 32 - 1 ≤ ulongMax := by
    omega
  obtain ⟨exponent, least, corrected⟩ :=
    sysinfo_eq_correctedIn real switched taken written
      (fitsIn_of_detectable wide below within)
  refine ⟨correctedIn exponent snapshot real, corrected, ?_⟩
  rw [corrects_correctedIn_iff]
  have leastUnit :
      real.memUnit = 2 ^ exponent ↔
        HasLeastUnit ulongMax snapshot real := by
    constructor
    · intro same
      exact ⟨exponent, same, least⟩
    · intro given
      rcases given with ⟨other, same, leastToo⟩
      rw [same, least.unique leastToo]
  rw [leastUnit]

/-- What the kernel reports of a large host, in units of `memUnit`. -/
def hostInfo (memUnit : Nat) : SysInfo where
  uptime := 100
  loads := [0, 0, 0]
  totalram := 33554432
  freeram := 8388608
  sharedram := 10
  bufferram := 2048
  totalswap := 262144
  freeswap := 262144
  procs := 7
  totalhigh := 0
  freehigh := 0
  memUnit := memUnit

/-- A kernel that reports in bytes, as it does for 64 bits. -/
theorem sysinfo_corrects_inBytes :
    ∃ after,
      (sysinfo (2 ^ 64 - 1) containerShim.config true
          (groupWorld (cstr "4096\n")) MemoryState.initial 0
          (some (hostInfo 1))).1 = some after ∧
        Corrects ⟨4096, 3584⟩ (hostInfo 1) after := by
  obtain ⟨after, isAfter, corrects⟩ :=
    sysinfo_corrects_iff (Or.inr (rfl : 2 ^ 64 - 1 = _))
      (rfl : containerShim.config.cgroupMemory = true)
      (by decide :
        (rpsMemorySnapshot (groupWorld (cstr "4096\n")) MemoryState.initial
          (some ⟨0, 0⟩)).ok = true)
      (by decide :
        (rpsMemorySnapshot (groupWorld (cstr "4096\n")) MemoryState.initial
          (some ⟨0, 0⟩)).out = some ⟨4096, 3584⟩)
      (by decide) (by decide) (hostInfo 1)
  have least : IsLeastExponent (2 ^ 64 - 1) ⟨4096, 3584⟩ 0 :=
    ⟨by decide, fun other _ => Nat.zero_le other⟩
  exact ⟨after, isAfter, corrects.mpr (Or.inl ⟨0, rfl, least⟩)⟩

/-- A kernel that reports a large host to a 32-bit process in pages: the
shared memory is corrected down to ten bytes. -/
theorem not_corrects_inPages :
    (rpsMemorySnapshot (groupWorld (cstr "4096\n")) MemoryState.initial
        (some ⟨0, 0⟩)).out = some ⟨4096, 3584⟩ ∧
      (sysinfo (2 ^ 32 - 1) containerShim.config true
          (groupWorld (cstr "4096\n")) MemoryState.initial 0
          (some (hostInfo 4096))).1 =
        some (correctedIn 0 ⟨4096, 3584⟩ (hostInfo 4096)) ∧
      ¬ Corrects ⟨4096, 3584⟩ (hostInfo 4096)
        (correctedIn 0 ⟨4096, 3584⟩ (hostInfo 4096)) := by
  refine ⟨by decide, by decide, ?_⟩
  intro corrects
  exact absurd corrects.sharedram (by decide)

end RunpodShim
