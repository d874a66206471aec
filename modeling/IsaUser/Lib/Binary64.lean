import Mathlib.Algebra.Order.Field.Power
import Mathlib.Data.Int.Log
import Mathlib.Data.Rat.Floor
import Mathlib.Tactic.Positivity

/-!
# Numbers that Pass Through a Double

A decimal number that is sent as a double and read back from the shortest text of the double
is not always the number that was sent. `float` rounds a rational to the nearest double,
ties to even, and `shortest` is the number that the shortest text of a double denotes: of the
decimal numbers with the fewest digits that round to the double, the nearest to it.

`Survives` says that a number is read back as it was sent. `Double` is the type of the doubles;
`toDouble_mono` says that rounding keeps the order, and `toDouble_shortest` that a double that
is read and sent again is the same double.
-/

namespace IsaUser

def roundHalfEven (x : ℚ) : ℤ :=
  let f := ⌊x⌋
  if x - f < 1 / 2 then f
  else if 1 / 2 < x - f then f + 1
  else if f % 2 = 0 then f
  else f + 1

/-- The distance of the doubles around a number: 53 significant bits, and no exponent below
the one of the subnormal numbers. -/
def ulp (q : ℚ) : ℚ := (2 : ℚ) ^ (max (Int.log 2 |q|) (-1022) - 52)

def float (q : ℚ) : Option ℚ :=
  let x := roundHalfEven (q / ulp q) * ulp q
  if |x| < 2 ^ 1024 then some x else none

/-- The two decimal numbers with `n` significant digits around `x`, the nearer one first. -/
def decimalsNear (x : ℚ) (n : ℕ) : List ℚ :=
  let p : ℚ := (10 : ℚ) ^ (Int.log 10 |x| + 1 - n)
  let near := roundHalfEven (x / p) * p
  [near, if near ≤ x then near + p else near - p]

/-- The number that the shortest text of a double denotes; 17 digits are enough. -/
def shortest (x : ℚ) : ℚ :=
  (((List.range 17).flatMap fun n => decimalsNear x (n + 1)).find? fun q =>
    float q = some x).getD x

/-- What a number is read back as, after it was sent as a double. -/
def throughDouble (q : ℚ) : Option ℚ := (float q).map shortest

/-- The number is read back as it was sent. -/
def Survives (q : ℚ) : Prop := throughDouble q = some q
  deriving Decidable

/-! ### Rounding to integers -/

theorem floor_le_roundHalfEven (x : ℚ) : ⌊x⌋ ≤ roundHalfEven x := by
  simp only [roundHalfEven]
  split_ifs <;> omega

theorem roundHalfEven_le (x : ℚ) : roundHalfEven x ≤ ⌊x⌋ + 1 := by
  simp only [roundHalfEven]
  split_ifs <;> omega

theorem abs_roundHalfEven_sub_le (x : ℚ) : |(roundHalfEven x : ℚ) - x| ≤ 1 / 2 := by
  have hlow := Int.floor_le x
  have hhigh := Int.lt_floor_add_one x
  simp only [roundHalfEven]
  split_ifs <;> push_cast <;> rw [abs_le] <;> constructor <;> linarith

theorem roundHalfEven_intCast (n : ℤ) : roundHalfEven n = n := by
  simp [roundHalfEven]

theorem roundHalfEven_mono {x y : ℚ} (h : x ≤ y) : roundHalfEven x ≤ roundHalfEven y := by
  rcases (Int.floor_le_floor h).lt_or_eq with hlt | heq
  · have hx := roundHalfEven_le x
    have hy := floor_le_roundHalfEven y
    omega
  · simp only [roundHalfEven, ← heq]
    split_ifs <;> first | omega | (exfalso; linarith)

/-! ### Doubles -/

variable {q a b x y : ℚ}

/-- The exponent of `ulp`. -/
def ulpExponent (q : ℚ) : ℤ := max (Int.log 2 |q|) (-1022) - 52

theorem ulp_eq (q : ℚ) : ulp q = (2 : ℚ) ^ ulpExponent q := rfl

theorem ulp_pos (q : ℚ) : 0 < ulp q := by
  rw [ulp_eq]
  positivity

theorem abs_lt_ulp (q : ℚ) : |q| < 2 ^ 53 * ulp q := by
  have hlog : |q| < (2 : ℚ) ^ (Int.log 2 |q| + 1) := by
    exact_mod_cast Int.lt_zpow_succ_log_self one_lt_two |q|
  have hpow : (2 : ℚ) ^ (Int.log 2 |q| + 1) ≤ (2 : ℚ) ^ (53 + ulpExponent q) := by
    refine zpow_le_zpow_right₀ one_le_two ?_
    rw [ulpExponent]
    omega
  rw [ulp_eq, ← zpow_natCast, ← zpow_add₀ two_ne_zero]
  exact hlog.trans_le hpow

theorem abs_roundHalfEven_ulp_le (q : ℚ) : |roundHalfEven (q / ulp q)| ≤ 2 ^ 53 := by
  have habs : |q / ulp q| ≤ 2 ^ 53 := by
    rw [abs_div, abs_of_pos (ulp_pos q), div_le_iff₀ (ulp_pos q)]
    exact (abs_lt_ulp q).le
  obtain ⟨hlow, hhigh⟩ := abs_le.mp habs
  have hlow' := roundHalfEven_mono (x := ((-2 ^ 53 : ℤ) : ℚ)) (y := q / ulp q)
    (by exact_mod_cast hlow)
  have hhigh' := roundHalfEven_mono (x := q / ulp q) (y := ((2 ^ 53 : ℤ) : ℚ))
    (by exact_mod_cast hhigh)
  rw [roundHalfEven_intCast] at hlow' hhigh'
  exact abs_le.mpr ⟨hlow', hhigh'⟩

/-- A multiple of a power of two with a significand of 53 bits is one of its own `ulp`, where
the exponent is none below that of the subnormal numbers. -/
theorem exists_eq_mul_ulp {n e : ℤ} (hn : |n| ≤ 2 ^ 53) (he : -1074 ≤ e)
    (hx : x = n * (2 : ℚ) ^ e) : ∃ m : ℤ, x = m * ulp x := by
  rcases eq_or_ne n 0 with rfl | hn0
  · exact ⟨0, by simp [hx]⟩
  have habs : |x| = (|n| : ℤ) * (2 : ℚ) ^ e := by
    rw [hx, abs_mul, abs_of_pos (show (0 : ℚ) < 2 ^ e by positivity), Int.cast_abs]
  have hxpos : 0 < |x| := by
    rw [habs]
    positivity
  rcases hn.lt_or_eq with hlt | heq
  · -- the exponent of `x` is not above `e`
    have hle : ulpExponent x ≤ e := by
      have hlog : Int.log 2 |x| < e + 53 := by
        refine (Int.lt_zpow_iff_log_lt one_lt_two hxpos).mp ?_
        rw [habs, Nat.cast_ofNat, zpow_add₀ two_ne_zero, mul_comm]
        have : ((|n| : ℤ) : ℚ) < (2 : ℚ) ^ (53 : ℤ) := by exact_mod_cast hlt
        exact mul_lt_mul_of_pos_left this (by positivity)
      rw [ulpExponent]
      omega
    obtain ⟨k, hk⟩ := Int.eq_ofNat_of_zero_le (sub_nonneg.mpr hle)
    refine ⟨n * 2 ^ k, ?_⟩
    have he : e = k + ulpExponent x := by omega
    calc x = n * (2 : ℚ) ^ (k + ulpExponent x) := by rw [← he, hx]
      _ = ↑(n * 2 ^ k) * ulp x := by
        rw [zpow_add₀ two_ne_zero, zpow_natCast, ulp_eq]
        push_cast
        ring
  · -- a power of two, in the binade above
    have hpow : |x| = (2 : ℚ) ^ (e + 53) := by
      rw [habs, heq, zpow_add₀ two_ne_zero, mul_comm]
      norm_num
    have hexp : ulpExponent x = e + 1 := by
      have hlog : Int.log 2 |x| = e + 53 := by
        rw [hpow]
        exact Int.log_zpow (b := 2) one_lt_two (e + 53)
      rw [ulpExponent]
      omega
    have hsplit : (2 : ℚ) ^ (e + 1) * 2 ^ (52 : ℕ) = (2 : ℚ) ^ e * 2 ^ 53 := by
      rw [zpow_add_one₀ two_ne_zero]
      ring
    rcases abs_choice n with hsign | hsign
    · refine ⟨2 ^ 52, ?_⟩
      rw [ulp_eq, hexp, hx, show n = 2 ^ 53 by omega]
      push_cast
      linarith
    · refine ⟨-2 ^ 52, ?_⟩
      rw [ulp_eq, hexp, hx, show n = -2 ^ 53 by omega]
      push_cast
      linarith

theorem float_eq_some :
    float q = some x ↔ roundHalfEven (q / ulp q) * ulp q = x ∧ |x| < 2 ^ 1024 := by
  simp only [float]
  split_ifs with h
  · exact ⟨fun hx => by cases hx; exact ⟨rfl, h⟩, fun hx => congrArg some hx.1⟩
  · exact ⟨nofun, fun hx => absurd (hx.1 ▸ hx.2) h⟩

theorem float_eq_self {n e : ℤ} (hn : |n| ≤ 2 ^ 53) (he : -1074 ≤ e)
    (hx : x = n * (2 : ℚ) ^ e) (hfinite : |x| < 2 ^ 1024) : float x = some x := by
  obtain ⟨m, hm⟩ := exists_eq_mul_ulp hn he hx
  refine float_eq_some.mpr ⟨?_, hfinite⟩
  have hdiv : x / ulp x = m := by
    rw [div_eq_iff (ulp_pos x).ne']
    exact hm
  rw [hdiv, roundHalfEven_intCast]
  exact hm.symm

theorem float_of_float (h : float q = some x) : float x = some x := by
  obtain ⟨hx, hfinite⟩ := float_eq_some.mp h
  have he : -1074 ≤ ulpExponent q := by
    rw [ulpExponent]
    omega
  exact float_eq_self (abs_roundHalfEven_ulp_le q) he hx.symm hfinite

theorem ulpExponent_mono (ha : 0 < a) (h : a ≤ b) : ulpExponent a ≤ ulpExponent b := by
  have hlog : Int.log 2 |a| ≤ Int.log 2 |b| := by
    rw [abs_of_pos ha, abs_of_pos (ha.trans_le h)]
    exact Int.log_mono_right ha h
  rw [ulpExponent, ulpExponent]
  omega

theorem roundHalfEven_mul_ulp_mono (ha : 0 ≤ a) (h : a ≤ b) :
    roundHalfEven (a / ulp a) * ulp a ≤ roundHalfEven (b / ulp b) * ulp b := by
  rcases ha.eq_or_lt with rfl | ha
  · have hb : (0 : ℤ) ≤ roundHalfEven (b / ulp b) := by
      have hmono := roundHalfEven_mono (div_nonneg h (ulp_pos b).le)
      rwa [show (0 : ℚ) = ((0 : ℤ) : ℚ) from rfl, roundHalfEven_intCast] at hmono
    have hzero : roundHalfEven 0 = 0 := roundHalfEven_intCast 0
    have hb' : (0 : ℚ) ≤ roundHalfEven (b / ulp b) := by exact_mod_cast hb
    rw [zero_div, hzero, Int.cast_zero, zero_mul]
    exact mul_nonneg hb' (ulp_pos b).le
  rcases (ulpExponent_mono ha h).lt_or_eq with hlt | heq
  · -- the power of two between them is a double
    have hbpos := ha.trans_le h
    have hexp : Int.log 2 |b| = ulpExponent b + 52 := by
      simp only [ulpExponent] at hlt ⊢
      omega
    have hlow : ((2 ^ 52 : ℤ) : ℚ) ≤ b / ulp b := by
      rw [le_div_iff₀ (ulp_pos b)]
      have hself := Int.zpow_log_le_self (b := 2) one_lt_two (abs_pos.mpr hbpos.ne')
      rw [hexp, abs_of_pos hbpos, Nat.cast_ofNat, zpow_add₀ two_ne_zero] at hself
      rw [mul_comm]
      exact_mod_cast hself
    have hb := roundHalfEven_mono hlow
    rw [roundHalfEven_intCast] at hb
    have ha' : roundHalfEven (a / ulp a) ≤ 2 ^ 53 :=
      (le_abs_self _).trans (abs_roundHalfEven_ulp_le a)
    have hulp : 2 * ulp a ≤ ulp b := by
      rw [ulp_eq, mul_comm, ← zpow_add_one₀ two_ne_zero]
      exact zpow_le_zpow_right₀ one_le_two hlt
    calc (roundHalfEven (a / ulp a) : ℚ) * ulp a
        ≤ 2 ^ 53 * ulp a :=
          mul_le_mul_of_nonneg_right (by exact_mod_cast ha') (ulp_pos a).le
      _ ≤ 2 ^ 52 * ulp b := by linarith
      _ ≤ roundHalfEven (b / ulp b) * ulp b :=
          mul_le_mul_of_nonneg_right (by exact_mod_cast hb) (ulp_pos b).le
  · have hulp : ulp a = ulp b := by rw [ulp_eq, ulp_eq, heq]
    rw [hulp]
    have hmono := roundHalfEven_mono (div_le_div_of_nonneg_right h (ulp_pos b).le)
    exact mul_le_mul_of_nonneg_right (by exact_mod_cast hmono) (ulp_pos b).le

theorem float_mono (ha : 0 ≤ a) (h : a ≤ b) (hx : float a = some x) (hy : float b = some y) :
    x ≤ y := by
  rw [← (float_eq_some.mp hx).1, ← (float_eq_some.mp hy).1]
  exact roundHalfEven_mul_ulp_mono ha h

theorem exists_float_of_le (ha : 0 ≤ a) (h : a ≤ b) (hy : float b = some y) :
    ∃ x, float a = some x := by
  obtain ⟨hb, hfinite⟩ := float_eq_some.mp hy
  refine ⟨_, float_eq_some.mpr ⟨rfl, ?_⟩⟩
  have hnonneg := roundHalfEven_mul_ulp_mono (le_refl (0 : ℚ)) ha
  rw [zero_div, show roundHalfEven 0 = 0 from roundHalfEven_intCast 0, Int.cast_zero,
    zero_mul] at hnonneg
  rw [abs_of_nonneg hnonneg]
  refine (roundHalfEven_mul_ulp_mono ha h).trans_lt ?_
  rw [hb]
  exact (le_abs_self y).trans_lt hfinite

theorem exists_float_near {j : ℕ} (hq : 0 ≤ q) (hj : j ≤ 1074) (hsmall : q * 2 ^ j < 2 ^ 52) :
    ∃ x, float q = some x ∧ |x - q| ≤ 1 / 2 ^ j := by
  have hpow : (0 : ℚ) < 2 ^ j := by positivity
  have hgrid : ∀ n : ℤ, 0 ≤ n → n ≤ 2 ^ 52 → float (n / 2 ^ j) = some (n / 2 ^ j : ℚ) := by
    intro n hn hle
    have hcast : (n : ℚ) ≤ 2 ^ 52 := by exact_mod_cast hle
    have hone : (1 : ℚ) ≤ 2 ^ j := one_le_pow₀ one_le_two
    refine float_eq_self (n := n) (e := -j) ?_ (by omega) ?_ ?_
    · rw [abs_of_nonneg hn]
      omega
    · rw [zpow_neg, zpow_natCast, div_eq_mul_inv]
    · rw [abs_of_nonneg (div_nonneg (by exact_mod_cast hn) hpow.le)]
      calc (n : ℚ) / 2 ^ j ≤ n := div_le_self (by exact_mod_cast hn) hone
        _ ≤ 2 ^ 52 := hcast
        _ < 2 ^ 1024 := pow_lt_pow_right₀ one_lt_two (by omega)
  have hfloor : (⌊q * 2 ^ j⌋ : ℚ) ≤ q * 2 ^ j := Int.floor_le _
  have hceil : q * 2 ^ j < ⌊q * 2 ^ j⌋ + 1 := Int.lt_floor_add_one _
  have hnonneg : 0 ≤ ⌊q * 2 ^ j⌋ := Int.floor_nonneg.mpr (mul_nonneg hq hpow.le)
  have hlt : ⌊q * 2 ^ j⌋ < 2 ^ 52 := by
    have : (⌊q * 2 ^ j⌋ : ℚ) < 2 ^ 52 := hfloor.trans_lt hsmall
    exact_mod_cast this
  have hlow := hgrid ⌊q * 2 ^ j⌋ hnonneg hlt.le
  have hhigh := hgrid (⌊q * 2 ^ j⌋ + 1) (by omega) (by omega)
  push_cast at hhigh
  have hbelow : (⌊q * 2 ^ j⌋ : ℚ) / 2 ^ j ≤ q := (div_le_iff₀ hpow).mpr hfloor
  have habove : q ≤ (⌊q * 2 ^ j⌋ + 1 : ℚ) / 2 ^ j := (le_div_iff₀ hpow).mpr hceil.le
  obtain ⟨x, hx⟩ := exists_float_of_le hq habove hhigh
  have hx₁ := float_mono (div_nonneg (by exact_mod_cast hnonneg) hpow.le) hbelow hlow hx
  have hx₂ := float_mono hq habove hx hhigh
  rw [add_div] at habove hx₂
  exact ⟨x, hx, abs_le.mpr ⟨by linarith, by linarith⟩⟩

theorem float_shortest {x : ℚ} (h : float x = some x) : float (shortest x) = some x := by
  rw [shortest]
  cases hfind : ((List.range 17).flatMap fun n => decimalsNear x (n + 1)).find? fun q =>
      float q = some x with
  | none => exact h
  | some q => simpa using List.find?_some hfind

theorem float_nonpos (hq : q ≤ 0) (h : float q = some x) : x ≤ 0 := by
  rw [← (float_eq_some.mp h).1]
  have hmono := roundHalfEven_mono (div_nonpos_of_nonpos_of_nonneg hq (ulp_pos q).le)
  rw [show roundHalfEven 0 = 0 from roundHalfEven_intCast 0] at hmono
  exact mul_nonpos_of_nonpos_of_nonneg (by exact_mod_cast hmono) (ulp_pos q).le

theorem float_nonneg (hq : 0 ≤ q) (h : float q = some x) : 0 ≤ x :=
  float_mono le_rfl hq (show float 0 = some 0 by decide +kernel) h

theorem shortest_nonneg (hx : 0 ≤ x) (h : float x = some x) : 0 ≤ shortest x := by
  rcases hx.eq_or_lt with rfl | hx
  · exact (show shortest 0 = 0 by decide +kernel).ge
  · by_contra hneg
    exact absurd (float_nonpos (not_le.mp hneg).le (float_shortest h)) (not_le.mpr hx)

abbrev Double := {x : ℚ // float x = some x}

/-- `float(...)`, if it is finite. -/
def toDouble (q : ℚ) : Option Double :=
  match h : float q with
  | some x => some ⟨x, float_of_float h⟩
  | none => none

theorem toDouble_eq_some {d : Double} : toDouble q = some d ↔ float q = some d.1 := by
  rw [toDouble]
  split
  · next x h =>
      refine Iff.trans ?_ (iff_of_eq (congrArg (· = some d.1) h.symm))
      rw [Option.some.injEq, Option.some.injEq, Subtype.ext_iff]
  · next h =>
      rw [h]
      exact ⟨nofun, nofun⟩

theorem toDouble_shortest (d : Double) : toDouble (shortest d.1) = some d :=
  toDouble_eq_some.mpr (float_shortest d.2)

theorem toDouble_mono {d e : Double} (ha : 0 ≤ a) (h : a ≤ b) (hd : toDouble a = some d)
    (he : toDouble b = some e) : d ≤ e :=
  float_mono ha h (toDouble_eq_some.mp hd) (toDouble_eq_some.mp he)

theorem exists_toDouble_of_le {e : Double} (ha : 0 ≤ a) (h : a ≤ b) (he : toDouble b = some e) :
    ∃ d, toDouble a = some d := by
  obtain ⟨x, hx⟩ := exists_float_of_le ha h (toDouble_eq_some.mp he)
  exact ⟨⟨x, float_of_float hx⟩, toDouble_eq_some.mpr hx⟩

end IsaUser
