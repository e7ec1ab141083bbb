import Mathlib.Data.List.Basic

/-!
# Files that are replaced by renaming

A disk maps paths to files and files to what they hold.  A path is not its file: whoever has a file
open goes on reading or writing that file when the path is given to another one, and this is what
makes replacing a file by a rename safe, and sharing a temporary name unsafe.

* `Disk.create` is `open` with truncation, `Disk.write` writes at a position, `Disk.rename` gives
  the file of one path to another.
* A disk carries the proof that its files are known and that no two paths share one, so a file that
  is written under one path is not what another path holds (`file_write_of_ne`,
  `file_create_of_ne`).
-/

namespace Files

open Option
open Function (update update_self update_of_ne)

abbrev Bytes := List UInt8

/-- Files, and the paths that name them. -/
structure Disk (P : Type) where
  content : Nat → Bytes
  entry : P → Option Nat
  /-- The next file that is created. -/
  next : Nat
  known : ∀ p k, entry p = some k → k < next
  /-- No hard links. -/
  single : ∀ p q k, entry p = some k → entry q = some k → p = q

/-- What is left when a chunk is written at a position; a gap is filled with zeros. -/
def overwrite (file : Bytes) (offset : Nat) (chunk : Bytes) : Bytes :=
  (file ++ List.replicate (offset - file.length) 0).take offset ++ chunk ++
    file.drop (offset + chunk.length)

/-- Writing at the end appends. -/
theorem overwrite_end (file chunk : Bytes) : overwrite file file.length chunk = file ++ chunk := by
  rw [overwrite, Nat.sub_self, List.replicate_zero, List.append_nil, List.take_length,
    List.drop_eq_nil_of_le (by omega), List.append_nil]

/-- Writing the next piece of a text behind what has been written of it. -/
theorem overwrite_take {text : Bytes} {offset : Nat} (h : offset ≤ text.length) (n : Nat) :
    overwrite (text.take offset) offset ((text.drop offset).take n) = text.take (offset + n) := by
  have hlength : (text.take offset).length = offset := List.length_take_of_le h
  calc overwrite (text.take offset) offset ((text.drop offset).take n)
      = overwrite (text.take offset) (text.take offset).length ((text.drop offset).take n) := by
        rw [hlength]
    _ = text.take offset ++ (text.drop offset).take n := overwrite_end _ _
    _ = text.take (offset + n) := List.take_add.symm

namespace Disk

variable {P : Type}

/-- What a path holds. -/
def file (d : Disk P) (p : P) : Option Bytes := (d.entry p).map d.content

/-- A chunk written into an open file. -/
def write (d : Disk P) (k offset : Nat) (chunk : Bytes) : Disk P :=
  { d with content := update d.content k (overwrite (d.content k) offset chunk) }

/-- Empty a file. -/
def truncate (d : Disk P) (k : Nat) : Disk P :=
  { d with content := update d.content k [] }

variable {d d' : Disk P} {p q : P} {k : Nat} {j : Nat}

theorem write_content_of_ne (h : j ≠ k) (offset : Nat) (chunk : Bytes) :
    (d.write k offset chunk).content j = d.content j :=
  update_of_ne h ..

@[simp] theorem write_content_self (offset : Nat) (chunk : Bytes) :
    (d.write k offset chunk).content k = overwrite (d.content k) offset chunk :=
  update_self ..

theorem file_eq_of_content (hentry : d'.entry q = d.entry q)
    (hcontent : ∀ j, d.entry q = some j → d'.content j = d.content j) : d'.file q = d.file q := by
  rw [file, file, hentry]
  cases hq : d.entry q with
  | none => rfl
  | some j => rw [map_some, map_some, hcontent j hq]

/-- A path holds what it held when a file of another path is written. -/
theorem file_write_of_ne (h : d.entry q ≠ some k) (offset : Nat) (chunk : Bytes) :
    (d.write k offset chunk).file q = d.file q :=
  file_eq_of_content rfl fun j hj => write_content_of_ne (by rintro rfl; exact h hj) offset chunk

variable [DecidableEq P]

/-- A new, empty file under a path that has none. -/
def add (d : Disk P) (p : P) : Disk P where
  content := update d.content d.next []
  entry := update d.entry p (some d.next)
  next := d.next + 1
  known q k h := by
    by_cases hq : q = p
    · rw [hq, update_self] at h
      obtain rfl := some.inj h
      exact Nat.lt_succ_self _
    · rw [update_of_ne hq] at h
      exact Nat.lt_succ_of_lt (d.known q k h)
  single q r k hq hr := by
    have hold : ∀ q, q ≠ p → update d.entry p (some d.next) q = some k → k < d.next :=
      fun q hq h => d.known q k (by rwa [update_of_ne hq] at h)
    have hnew : ∀ q, q = p → update d.entry p (some d.next) q = some k → k = d.next :=
      fun q hq h => by rw [hq, update_self] at h; exact (some.inj h).symm
    by_cases hqp : q = p <;> by_cases hrp : r = p
    · exact hqp.trans hrp.symm
    · exact absurd (hold r hrp hr) (by rw [hnew q hqp hq]; exact Nat.lt_irrefl _)
    · exact absurd (hold q hqp hq) (by rw [hnew r hrp hr]; exact Nat.lt_irrefl _)
    · rw [update_of_ne hqp] at hq
      rw [update_of_ne hrp] at hr
      exact d.single q r k hq hr

/-- `open` with truncation: the disk and the file that is open. -/
def create (d : Disk P) (p : P) : Disk P × Nat :=
  match d.entry p with
  | some k => (d.truncate k, k)
  | none => (d.add p, d.next)

/-- The file of `p` becomes that of `q`, which loses its own. -/
def move (d : Disk P) (p q : P) (k : Nat) (h : d.entry p = some k) : Disk P where
  content := d.content
  entry := update (update d.entry p none) q (some k)
  next := d.next
  known r j hr := by
    by_cases hrq : r = q
    · rw [hrq, update_self] at hr
      obtain rfl := some.inj hr
      exact d.known p k h
    · rw [update_of_ne hrq] at hr
      by_cases hrp : r = p
      · rw [hrp, update_self] at hr
        cases hr
      · rw [update_of_ne hrp] at hr
        exact d.known r j hr
  single r t j hr ht := by
    have hold : ∀ r, r ≠ q → update (update d.entry p none) q (some k) r =
        some j → r ≠ p ∧ d.entry r = some j := by
      intro r hrq hr
      rw [update_of_ne hrq] at hr
      by_cases hrp : r = p
      · rw [hrp, update_self] at hr
        cases hr
      · rw [update_of_ne hrp] at hr
        exact ⟨hrp, hr⟩
    have hnew : ∀ r, r = q → update (update d.entry p none) q (some k) r =
        some j → j = k := by
      intro r hrq hr
      rw [hrq, update_self] at hr
      exact (some.inj hr).symm
    by_cases hrq : r = q <;> by_cases htq : t = q
    · exact hrq.trans htq.symm
    · obtain ⟨htp, ht⟩ := hold t htq ht
      rw [hnew r hrq hr] at ht
      exact absurd (d.single t p k ht h) htp
    · obtain ⟨hrp, hr⟩ := hold r hrq hr
      rw [hnew t htq ht] at hr
      exact absurd (d.single r p k hr h) hrp
    · exact d.single r t j (hold r hrq hr).2 (hold t htq ht).2

/-- `rename`, or `none` when there is no such file. -/
def rename (d : Disk P) (p q : P) : Option (Disk P) :=
  match h : d.entry p with
  | some k => some (d.move p q k h)
  | none => none

/-! ## What an operation keeps -/

theorem create_entry_self : (d.create p).1.entry p = some (d.create p).2 := by
  rw [create]
  cases h : d.entry p with
  | some k => exact h
  | none => exact update_self ..

theorem create_content_self : (d.create p).1.content (d.create p).2 = [] := by
  rw [create]
  cases d.entry p <;> exact update_self ..

theorem create_entry_of_ne (h : q ≠ p) : (d.create p).1.entry q = d.entry q := by
  rw [create]
  cases d.entry p with
  | some k => rfl
  | none => exact update_of_ne h ..

theorem create_content_of_ne (hj : j < d.next) (h : d.entry p ≠ some j) :
    (d.create p).1.content j = d.content j := by
  rw [create]
  cases hp : d.entry p with
  | some k => exact update_of_ne (by rintro rfl; exact h hp) ..
  | none => exact update_of_ne (by omega) ..

theorem next_le_create : d.next ≤ (d.create p).1.next := by
  rw [create]
  cases d.entry p with
  | some k => exact Nat.le_refl _
  | none => exact Nat.le_succ _

/-- The file that is open is not one that another reader has. -/
theorem create_ne (hj : j < d.next) (h : d.entry p ≠ some j) : (d.create p).2 ≠ j := by
  rw [create]
  cases hp : d.entry p with
  | some k => rintro rfl; exact h hp
  | none => exact fun heq => by simp only at heq; omega

/-- A path holds what it held when another one is opened. -/
theorem file_create_of_ne (h : q ≠ p) : (d.create p).1.file q = d.file q :=
  file_eq_of_content (create_entry_of_ne h) fun j hj =>
    create_content_of_ne (d.known q j hj) fun hp => h (d.single q p j hj hp)

theorem rename_spec (h : d.rename p q = some d') : ∃ k, d.entry p = some k ∧
    d'.content = d.content ∧ d'.next = d.next ∧
      d'.entry = update (update d.entry p none) q (some k) := by
  rw [rename] at h
  split at h
  · next k hk =>
    cases h
    exact ⟨k, hk, rfl, rfl, rfl⟩
  · cases h

theorem rename_ne_none (h : d.entry p = some k) : d.rename p q ≠ none := by
  rw [rename]
  split
  · exact nofun
  · next hnone => rw [h] at hnone; cases hnone

/-- What was under the one path is under the other. -/
theorem rename_file (h : d.rename p q = some d') : d'.file q = d.file p := by
  obtain ⟨k, hk, hcontent, -, hentry⟩ := rename_spec h
  rw [file, file, hentry, update_self, hk, hcontent]

/-- The path that was renamed is free. -/
theorem rename_entry (h : d.rename p q = some d') (hpq : p ≠ q) : d'.entry p = none := by
  obtain ⟨k, -, -, -, hentry⟩ := rename_spec h
  rw [hentry, update_of_ne hpq, update_self]

end Disk

end Files
