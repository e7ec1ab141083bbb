import Jkannel.Lib.Binary64

/-!
# The numbers of JavaScript, and how they are printed

A `number` is one of double precision, an infinity, or not a number at all.  The two zeros are one
here, since nothing that is compared or printed tells them apart.

* `JsNumber.text` is `Number.prototype.toString`: the shortest decimal that rounds to the number,
  laid out with a point, with zeros, or with an exponent.
* `JsNumber.numeral_of_mem_text` says which characters a printed number can have.
-/

/-- A value of the type `number`. -/
inductive JsNumber
  | nan
  | infinity (negative : Bool)
  | finite (x : Binary64.Number)
  deriving DecidableEq

namespace JsNumber

open List

/-! ## Comparing -/

/-- The number an integer literal stands for. -/
def ofInt (n : ℤ) : JsNumber := .finite (Binary64.Number.ofRat n)

/-- `a === b`, which not a number never is. -/
def strictEq : JsNumber → JsNumber → Bool
  | .nan, _ => false
  | a, b => a == b

/-- Whether the number is the integer `n`. -/
def isInt (n : ℤ) : JsNumber → Bool
  | .finite x => x.value == n
  | _ => false

/-- Whether the number is above the integer `n`. -/
def above (n : ℤ) : JsNumber → Bool
  | .nan => false
  | .infinity negative => !negative
  | .finite x => decide ((n : ℚ) < x.value)

/-- `Number.isInteger`, between two bounds. -/
def integerBetween (low high : ℤ) : JsNumber → Bool
  | .finite x => x.value.den == 1 && decide ((low : ℚ) ≤ x.value) && decide (x.value ≤ high)
  | _ => false

/-- Zero and not a number are falsy. -/
def truthy : JsNumber → Bool
  | .nan => false
  | .infinity _ => true
  | .finite x => x.value != 0

/-! ## Printing -/

/-- The significant digits of a positive decimal of at most seventeen of them. -/
def significand (d : ℚ) : List Char :=
  ((Nat.toDigits 10 ⌊d * 10 ^ (16 - Int.log 10 d)⌋.toNat).reverse.dropWhile (· == '0')).reverse

/-- The exponent behind a significand. -/
def exponent (n : ℤ) : List Char :=
  'e' :: (if 0 < n then '+' else '-') :: Nat.toDigits 10 (n - 1).natAbs

/-- Digits with the point behind the first. -/
def pointed : List Char → List Char
  | d :: e :: ds => d :: '.' :: e :: ds
  | ds => ds

/-- Digits with the point behind the `n`-th of them, or an exponent where that is far off. -/
def layOut (digits : List Char) (n : ℤ) : List Char :=
  if digits.length ≤ n ∧ n ≤ 21 then digits ++ List.replicate (n.toNat - digits.length) '0'
  else if 0 < n ∧ n ≤ 21 then digits.take n.toNat ++ '.' :: digits.drop n.toNat
  else if -6 < n ∧ n ≤ 0 then '0' :: '.' :: (List.replicate (-n).toNat '0' ++ digits)
  else pointed digits ++ exponent n

/-- The text of a number that is not negative. -/
def printPositive (x : ℚ) : List Char :=
  if x = 0 then ['0']
  else
    let d := Binary64.shortest x
    layOut (significand d) (Int.log 10 d + 1)

/-- `Number.prototype.toString`. -/
def text : JsNumber → String
  | .nan => "NaN"
  | .infinity negative => if negative then "-Infinity" else "Infinity"
  | .finite x =>
    String.ofList (if x.value < 0 then '-' :: printPositive (-x.value) else printPositive x.value)

/-- A character a printed number can have. -/
def numeral (c : Char) : Bool := c.isDigit || "+-.eNaInfity".toList.contains c

/-- The letter of no printed number. -/
theorem toLower_ne_of_numeral {d : Char} (h : numeral d = true) : d.toLower ≠ 'c' := by
  rw [numeral, Bool.or_eq_true] at h
  rcases h with hdigit | hletter
  · rw [Char.isDigit, Bool.and_eq_true, decide_eq_true_eq, decide_eq_true_eq] at hdigit
    have hlower : d.toLower = d := by
      refine dif_neg fun hupper => ?_
      exact absurd (UInt32.le_trans hupper.1 hdigit.2) (by decide)
    rw [hlower]
    rintro rfl
    exact absurd hdigit.2 (by decide)
  · have hall : "+-.eNaInfity".toList.all (fun d => d.toLower ≠ 'c') = true := by decide
    exact of_decide_eq_true (all_eq_true.mp hall d (by simpa using hletter))

variable {c : Char} {digits : List Char}

theorem numeral_of_mem_toDigits {n : ℕ} (h : c ∈ Nat.toDigits 10 n) : numeral c = true := by
  rw [numeral, Nat.isDigit_of_mem_toDigits (by decide) le_rfl h, Bool.true_or]

theorem numeral_of_mem_significand {d : ℚ} (h : c ∈ significand d) : numeral c = true := by
  rw [significand, mem_reverse] at h
  exact numeral_of_mem_toDigits (mem_reverse.mp (dropWhile_subset _ h))

theorem numeral_of_mem_exponent (n : ℤ) : ∀ c ∈ exponent n, numeral c = true := by
  refine forall_mem_cons.mpr ⟨by decide, forall_mem_cons.mpr ⟨?_, ?_⟩⟩
  · split <;> decide
  · exact fun c => numeral_of_mem_toDigits

theorem mem_pointed (h : c ∈ pointed digits) : c = '.' ∨ c ∈ digits := by
  rw [pointed.eq_def] at h
  split at h
  · simp only [mem_cons] at h ⊢
    tauto
  · exact .inr h

theorem numeral_of_mem_layOut (hdigits : ∀ c ∈ digits, numeral c = true)
    (n : ℤ) : ∀ c ∈ layOut digits n, numeral c = true := by
  have hzeros : ∀ k : ℕ, ∀ c ∈ List.replicate k '0', numeral c = true := by
    intro k c hc
    rw [eq_of_mem_replicate hc]
    decide
  have hpoint : numeral '.' = true := by decide
  rw [layOut]
  split
  · exact forall_mem_append.mpr ⟨hdigits, hzeros _⟩
  · split
    · exact forall_mem_append.mpr ⟨fun c hc => hdigits c (mem_of_mem_take hc),
        forall_mem_cons.mpr ⟨hpoint, fun c hc => hdigits c (mem_of_mem_drop hc)⟩⟩
    · split
      · exact forall_mem_cons.mpr ⟨by decide, forall_mem_cons.mpr ⟨hpoint,
          forall_mem_append.mpr ⟨hzeros _, hdigits⟩⟩⟩
      · refine forall_mem_append.mpr ⟨fun c hc => ?_, numeral_of_mem_exponent n⟩
        rcases mem_pointed hc with rfl | hc
        · exact hpoint
        · exact hdigits c hc

theorem numeral_of_mem_printPositive (x : ℚ) : ∀ c ∈ printPositive x, numeral c = true := by
  rw [printPositive]
  split
  · exact all_eq_true.mp (by decide)
  · exact numeral_of_mem_layOut (fun c => numeral_of_mem_significand) _

/-- **The characters of a printed number.** -/
theorem numeral_of_mem_text (n : JsNumber) : ∀ c ∈ n.text.toList, numeral c = true := by
  cases n with
  | nan => exact all_eq_true.mp (by decide)
  | infinity negative => cases negative <;> exact all_eq_true.mp (by decide)
  | finite x =>
    rw [text, String.toList_ofList]
    split
    · exact forall_mem_cons.mpr ⟨by decide, numeral_of_mem_printPositive _⟩
    · exact numeral_of_mem_printPositive _

end JsNumber
