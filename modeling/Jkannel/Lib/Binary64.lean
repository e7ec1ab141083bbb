import Mathlib.Algebra.Order.Field.Power
import Mathlib.Data.Int.Log
import Mathlib.Data.Rat.Floor
import Mathlib.Tactic.Positivity

/-!
# Numbers of double precision

A number of double precision is a rational with 53 significant bits, and arithmetic on such numbers
is the exact arithmetic followed by `round`.  Exponents are unbounded here: overflow and underflow
are not of interest to sums of amounts and counts.

* `round` takes a rational to the nearest number, a tie to the even one.  `round_error` bounds what
  is lost, relative to the argument, and `round_dyadic` says that a number is its own rounding.
* `Number` is a rational that is a number.
* `shortest` is the decimal a number is printed as: the one of the fewest digits that rounds to it.
  It rounds to the number again (`round_shortest`), which is all that is used of it.
-/

namespace Binary64

/-- The nearest integer, a tie going to the even one. -/
def roundHalfEven (q : ℚ) : ℤ :=
  if q - ⌊q⌋ < 1 / 2 then ⌊q⌋
  else if 1 / 2 < q - ⌊q⌋ then ⌊q⌋ + 1
  else if ⌊q⌋ % 2 = 0 then ⌊q⌋ else ⌊q⌋ + 1

theorem roundHalfEven_error (q : ℚ) : |(roundHalfEven q : ℚ) - q| ≤ 1 / 2 := by
  have hle := Int.floor_le q
  have hlt := Int.lt_floor_add_one q
  rw [roundHalfEven, abs_le]
  split_ifs <;> push_cast <;> constructor <;> linarith

theorem roundHalfEven_intCast (n : ℤ) : roundHalfEven n = n := by
  rw [roundHalfEven, Int.floor_intCast, if_pos (by norm_num)]

/-- The place of the last of the 53 bits of `q`. -/
def lastPlace (q : ℚ) : ℤ := Int.log 2 |q| - 52

/-- The nearest number of double precision. -/
def round (q : ℚ) : ℚ :=
  if q = 0 then 0 else roundHalfEven (q / 2 ^ lastPlace q) * 2 ^ lastPlace q

@[simp] theorem round_zero : round 0 = 0 := if_pos rfl

variable {q x : ℚ} {n : ℕ}

theorem round_of_ne (h : q ≠ 0) :
    round q = roundHalfEven (q / 2 ^ lastPlace q) * 2 ^ lastPlace q := if_neg h

/-- The last place is the one that leaves 53 bits before it. -/
theorem lastPlace_spec (h : q ≠ 0) :
    (2 : ℚ) ^ 52 * 2 ^ lastPlace q ≤ |q| ∧ |q| < 2 ^ 53 * 2 ^ lastPlace q := by
  have hlow := Int.zpow_log_le_self (b := 2) one_lt_two (abs_pos.mpr h)
  have hhigh := Int.lt_zpow_succ_log_self (b := 2) one_lt_two |q|
  have hsplit : ∀ k : ℕ, (2 : ℚ) ^ k * 2 ^ lastPlace q = 2 ^ (Int.log 2 |q| + (k - 52)) := by
    intro k
    rw [← zpow_natCast, ← zpow_add₀ two_ne_zero, lastPlace]
    congr 1
    ring
  rw [hsplit 52, hsplit 53]
  exact ⟨by simpa using hlow, by norm_num at hhigh ⊢; exact hhigh⟩

/-- **Rounding loses at most half of the last bit.** -/
theorem round_error (q : ℚ) : |round q - q| ≤ |q| / 2 ^ 53 := by
  by_cases h : q = 0
  · simp [h]
  set place : ℚ := 2 ^ lastPlace q with hplace
  have hpos : 0 < place := by positivity
  have herror := roundHalfEven_error (q / place)
  have hscaled : round q - q = (roundHalfEven (q / place) - q / place) * place := by
    rw [round_of_ne h, sub_mul, div_mul_cancel₀ q hpos.ne']
  have hplaceLe : place ≤ |q| / 2 ^ 52 := by
    rw [le_div_iff₀ (by positivity), mul_comm]
    exact (lastPlace_spec h).1
  calc |round q - q| = |roundHalfEven (q / place) - q / place| * place := by
        rw [hscaled, abs_mul, abs_of_pos hpos]
    _ ≤ 1 / 2 * (|q| / 2 ^ 52) := mul_le_mul herror hplaceLe hpos.le (by norm_num)
    _ = |q| / 2 ^ 53 := by ring

/-- A rational with a power of two for a denominator that divides evenly is rounded evenly. -/
theorem round_of_place {n : ℤ} (h : q = n * 2 ^ lastPlace q) : round q = q := by
  by_cases hq : q = 0
  · simp [hq]
  have hdiv : q / 2 ^ lastPlace q = n := by
    rw [div_eq_iff (by positivity)]
    exact h
  rw [round_of_ne hq, hdiv, roundHalfEven_intCast]
  exact h.symm

/-- **A number is its own rounding**: whatever has 53 significant bits is kept. -/
theorem round_dyadic {m e : ℤ} (hm : |m| ≤ 2 ^ 53) : round (m * 2 ^ e) = m * 2 ^ e := by
  by_cases hzero : m = 0
  · simp [hzero]
  have hne : (m * 2 ^ e : ℚ) ≠ 0 := mul_ne_zero (by exact_mod_cast hzero) (by positivity)
  have hlow := (lastPlace_spec hne).1
  have habs : |(m * 2 ^ e : ℚ)| = |m| * 2 ^ e := by
    rw [abs_mul, abs_of_pos (by positivity : (0 : ℚ) < 2 ^ e), Int.cast_abs]
  have hm' : ((|m| : ℤ) : ℚ) ≤ 2 ^ 53 := by exact_mod_cast hm
  -- the last place is at most one above `e`
  have hplace : lastPlace (m * 2 ^ e) ≤ e + 1 := by
    have hle : (2 : ℚ) ^ lastPlace (m * 2 ^ e) ≤ 2 ^ (e + 1) := by
      rw [habs] at hlow
      rw [zpow_add_one₀ two_ne_zero]
      have := mul_le_mul_of_nonneg_right hm' (by positivity : (0 : ℚ) ≤ 2 ^ e)
      linarith
    exact (zpow_le_zpow_iff_right₀ (by norm_num : (1 : ℚ) < 2)).mp hle
  rcases lt_or_eq_of_le hplace with hlt | heq
  · refine round_of_place (n := m * 2 ^ (e - lastPlace (m * 2 ^ e)).toNat) ?_
    have hnonneg : 0 ≤ e - lastPlace (m * 2 ^ e) := by omega
    push_cast
    rw [mul_assoc, ← zpow_natCast, ← zpow_add₀ two_ne_zero, Int.toNat_of_nonneg hnonneg,
      sub_add_cancel]
  · -- one above it, the 54th bit is that of a power of two
    have hfull : (2 : ℚ) ^ 53 ≤ (|m| : ℤ) := by
      rw [habs, heq, zpow_add_one₀ two_ne_zero] at hlow
      have hpos : (0 : ℚ) < 2 ^ e := by positivity
      refine le_of_mul_le_mul_right ?_ hpos
      linarith
    have hm53 : |m| = 2 ^ 53 := le_antisymm hm (by exact_mod_cast hfull)
    refine round_of_place (n := m / 2) ?_
    have heven : m / 2 * 2 = m := by
      rcases abs_choice m with habs' | habs' <;> omega
    rw [heq, zpow_add_one₀ two_ne_zero]
    have : ((m / 2 : ℤ) : ℚ) * 2 = m := by exact_mod_cast heven
    rw [← this]
    ring

theorem round_intCast {n : ℤ} (h : |n| ≤ 2 ^ 53) : round n = n := by
  simpa using round_dyadic (e := 0) h

theorem abs_roundHalfEven_le (h : |q| < n) : |roundHalfEven q| ≤ n := by
  have herror := roundHalfEven_error q
  have hq := abs_le.mp (le_of_lt h)
  have hstrict := abs_lt.mp h
  have hbounds := abs_le.mp herror
  rw [abs_le]
  constructor
  · have : (-(n : ℤ) - 1 : ℚ) < roundHalfEven q := by push_cast; linarith
    have : -(n : ℤ) - 1 < roundHalfEven q := by exact_mod_cast this
    omega
  · have : (roundHalfEven q : ℚ) < n + 1 := by linarith
    have : roundHalfEven q < n + 1 := by exact_mod_cast this
    omega

/-- A rounding is a number. -/
theorem round_round (q : ℚ) : round (round q) = round q := by
  by_cases h : q = 0
  · simp [h]
  rw [round_of_ne h]
  refine round_dyadic ?_
  have hlt : |q / 2 ^ lastPlace q| < (2 ^ 53 : ℕ) := by
    rw [abs_div, abs_of_pos (by positivity : (0 : ℚ) < 2 ^ lastPlace q),
      div_lt_iff₀ (by positivity)]
    exact_mod_cast (lastPlace_spec h).2
  exact_mod_cast abs_roundHalfEven_le hlt

theorem round_natCast (h : n ≤ 2 ^ 53) : round n = n := by
  have hn : |(n : ℤ)| ≤ 2 ^ 53 := by rw [Nat.abs_cast]; exact_mod_cast h
  simpa using round_intCast hn

/-- Past the integers that are all numbers, rounding does not lead back among them. -/
theorem lt_round_natCast (h : 2 ^ 53 ≤ n) : (2 ^ 53 : ℚ) - 1 < round n := by
  rcases h.eq_or_lt with rfl | hlt
  · rw [round_natCast le_rfl]
    norm_num
  · have herror := (abs_le.mp (round_error n)).1
    have hn : (2 ^ 53 + 1 : ℚ) ≤ n := by exact_mod_cast hlt
    rw [Nat.abs_cast] at herror
    linarith

/-! ## Decimals -/

/-- The decimal of `digits` digits that is nearest to a positive number among those that round to
it. -/
def decimalOf (x : ℚ) (digits : ℕ) : Option ℚ :=
  let unit : ℚ := 10 ^ (Int.log 10 x + 1 - digits)
  let below := ⌊x / unit⌋ * unit
  let near := if x - below ≤ unit / 2 then [below, below + unit] else [below + unit, below]
  near.find? fun c => round c = x

/-- The decimal a number that is not negative is printed as: of the fewest digits that do.
Seventeen always do. -/
def shortest (x : ℚ) : ℚ := ((List.range 17).findSome? fun k => decimalOf x (k + 1)).getD x

/-- **What is printed is read back.** -/
theorem round_shortest (h : round x = x) : round (shortest x) = x := by
  rw [shortest]
  cases hfound : (List.range 17).findSome? fun k => decimalOf x (k + 1) with
  | none => exact h
  | some c =>
    obtain ⟨k, -, hk⟩ := List.exists_of_findSome?_eq_some hfound
    rw [decimalOf] at hk
    simpa using List.find?_some hk

/-- The decimal of a number is off by at most half of its last bit. -/
theorem shortest_error (h : round x = x) : |x - shortest x| ≤ |shortest x| / 2 ^ 53 := by
  have herror := round_error (shortest x)
  rwa [round_shortest h] at herror

/-- A positive number has a positive decimal. -/
theorem shortest_nonneg (h : round x = x) (hx : 0 ≤ x) : 0 ≤ shortest x := by
  by_contra hneg
  rw [not_le] at hneg
  have herror := (abs_le.mp (shortest_error h)).2
  rw [abs_of_neg hneg] at herror
  linarith

/-- A number of double precision. -/
structure Number where
  value : ℚ
  isNumber : round value = value
  deriving DecidableEq

def Number.ofRat (q : ℚ) : Number := ⟨round q, round_round q⟩

end Binary64
