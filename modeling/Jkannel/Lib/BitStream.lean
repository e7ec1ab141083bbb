import Mathlib.Data.List.Basic
import Mathlib.Data.Nat.Bitwise

/-!
# Numbers as streams of bits

A number of `n` bits is a list of them, the highest first.  Numbers of one width one after the other
are a stream, and a stream can be cut into numbers of another width.

* `bits` are the lowest bits of a number; `bits_add` cuts them, and `bits_congr` says that nothing
  above them matters.
* `stream_inj` says that a stream is of one list of numbers only.
-/

namespace BitStream

open List

/-- The `n` lowest bits of a number, the highest first. -/
def bits : ℕ → ℕ → List Bool
  | 0, _ => []
  | n + 1, x => x.testBit n :: bits n x

/-- The bits of numbers of `n` bits. -/
def stream (n : ℕ) (xs : List ℕ) : List Bool := xs.flatMap (bits n)

variable {n m x y : ℕ} {xs ys : List ℕ}

@[simp] theorem length_bits : (bits n x).length = n := by
  induction n with
  | zero => rfl
  | succ n ih => rw [bits, length_cons, ih]

theorem bits_congr (h : ∀ i < n, x.testBit i = y.testBit i) : bits n x = bits n y := by
  induction n with
  | zero => rfl
  | succ n ih =>
    rw [bits, bits, h n (Nat.lt_succ_self n), ih fun i hi => h i (Nat.lt_succ_of_lt hi)]

theorem bits_add : bits (n + m) x = bits n (x >>> m) ++ bits m x := by
  induction n with
  | zero => simp [bits]
  | succ n ih =>
    rw [Nat.succ_add, bits, bits, ih, Nat.testBit_shiftRight, Nat.add_comm m n, cons_append]

/-- A number with lower bits put behind it. -/
theorem bits_or (hy : y < 2 ^ m) : bits (n + m) (x <<< m ||| y) = bits n x ++ bits m y := by
  rw [bits_add]
  congr 1
  · refine bits_congr fun i _ => ?_
    rw [Nat.testBit_shiftRight, Nat.testBit_or, Nat.testBit_shiftLeft, Nat.add_sub_cancel_left,
      Nat.testBit_lt_two_pow (hy.trans_le (Nat.pow_le_pow_right (by decide) (Nat.le_add_right m i)))]
    simp
  · refine bits_congr fun i hi => ?_
    rw [Nat.testBit_or, Nat.testBit_shiftLeft]
    simp [Nat.not_le_of_lt hi]

theorem bits_mod : bits n (x % 2 ^ n) = bits n x :=
  bits_congr fun i hi => by rw [Nat.testBit_mod_two_pow, decide_eq_true hi, Bool.true_and]

theorem bits_zero : bits n 0 = List.replicate n false := by
  induction n with
  | zero => rfl
  | succ n ih => rw [bits, ih, Nat.zero_testBit, replicate_succ]

theorem bits_inj (hx : x < 2 ^ n) (hy : y < 2 ^ n) (h : bits n x = bits n y) : x = y := by
  have hlow : ∀ n, bits n x = bits n y → ∀ i < n, x.testBit i = y.testBit i := by
    intro n
    induction n with
    | zero => exact fun _ i hi => absurd hi (Nat.not_lt_zero i)
    | succ n ih =>
      intro h i hi
      obtain ⟨hhead, htail⟩ := List.cons.inj h
      rcases Nat.lt_succ_iff_lt_or_eq.mp hi with hi | rfl
      · exact ih htail i hi
      · exact hhead
  refine Nat.eq_of_testBit_eq fun i => ?_
  by_cases hi : i < n
  · exact hlow n h i hi
  · have hle : 2 ^ n ≤ 2 ^ i := Nat.pow_le_pow_right (by decide) (Nat.le_of_not_lt hi)
    rw [Nat.testBit_lt_two_pow (hx.trans_le hle), Nat.testBit_lt_two_pow (hy.trans_le hle)]

@[simp] theorem stream_cons : stream n (x :: xs) = bits n x ++ stream n xs := flatMap_cons

theorem length_stream : (stream n xs).length = n * xs.length := by
  induction xs with
  | nil => rfl
  | cons x xs ih =>
    rw [stream_cons, length_append, length_bits, ih, length_cons, Nat.mul_succ, Nat.add_comm]

/-- **A stream is of one list of numbers**, even with less than a number's bits behind it. -/
theorem stream_inj {s t : List Bool} (hxs : ∀ x ∈ xs, x < 2 ^ n) (hys : ∀ y ∈ ys, y < 2 ^ n)
    (hs : s.length < n) (ht : t.length < n) (h : stream n xs ++ s = stream n ys ++ t) :
    xs = ys := by
  induction xs generalizing ys with
  | nil =>
    cases ys with
    | nil => rfl
    | cons y ys =>
      have hlength := congrArg List.length h
      simp only [length_append, length_stream, length_nil, length_cons,
        Nat.mul_zero, Nat.zero_add, Nat.mul_succ] at hlength
      omega
  | cons x xs ih =>
    cases ys with
    | nil =>
      have hlength := congrArg List.length h
      simp only [length_append, length_stream, length_nil, length_cons,
        Nat.mul_zero, Nat.zero_add, Nat.mul_succ] at hlength
      omega
    | cons y ys =>
      rw [stream_cons, stream_cons, append_assoc, append_assoc] at h
      obtain ⟨hhead, htail⟩ := append_inj h (by simp)
      rw [forall_mem_cons] at hxs hys
      rw [bits_inj hxs.1 hys.1 hhead, ih hxs.2 hys.2 htail]

end BitStream
