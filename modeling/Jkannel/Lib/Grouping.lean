import Mathlib.Algebra.BigOperators.Group.List.Basic
import Mathlib.Algebra.GroupWithZero.Nat
import Mathlib.Data.List.Induction
import Mathlib.Data.List.Nodup

/-!
# Gathering under keys

Items are gathered in a map that keeps the order in which its keys came: the first item of a key
makes an entry, and each later one is added to it.

* `group` is the map, as a list of entries.
* `mem_group_iff` says what its entries are: one for each key that an item has (`nodup_keys`), made
  of the items with that key in their order.
* `countP_eq_sum` counts items key by key.
* `sum_balanced_iff` compares such counts with the number of keys.
-/

namespace Grouping

open List

variable {A K V : Type} [DecidableEq K] (key : A → K) (start : A → V) (add : V → A → V)

/-- Put an item into the map. -/
def put (a : A) : List (K × V) → List (K × V)
  | [] => [(key a, start a)]
  | (k, v) :: rest => if k = key a then (k, add v a) :: rest else (k, v) :: put a rest

/-- The map of the items. -/
def group (as : List A) : List (K × V) := as.foldl (fun entries a => put key start add a entries) []

/-- The entry that the items of one key make. -/
def gathered : List A → Option V
  | [] => none
  | a :: as => some (as.foldl add (start a))

/-- The items of a key. -/
def ofKey (k : K) (as : List A) : List A := as.filter fun a => decide (key a = k)

variable {key start add}

@[simp] theorem group_nil : group key start add [] = [] := rfl

theorem group_concat (as : List A) (a : A) :
    group key start add (as ++ [a]) = put key start add a (group key start add as) := by
  rw [group, foldl_append, ← group, foldl_cons, foldl_nil]

theorem gathered_concat (as : List A) (a : A) :
    gathered start add (as ++ [a]) =
      some (((gathered start add as).map fun v => add v a).getD (start a)) := by
  cases as with
  | nil => rfl
  | cons b as =>
    rw [cons_append, gathered, gathered, foldl_append]
    rfl

theorem ofKey_concat (k : K) (as : List A) (a : A) :
    ofKey key k (as ++ [a]) = ofKey key k as ++ if key a = k then [a] else [] := by
  rw [ofKey, ofKey, filter_append]
  congr 1
  rw [filter_singleton]
  split
  · next h => rw [decide_eq_true h, cond_true]
  · next h => rw [decide_eq_false h, cond_false]

/-! ## One item -/

theorem lookup_put (a : A) (entries : List (K × V)) (k : K) :
    (put key start add a entries).lookup k =
      if key a = k then some (((entries.lookup k).map fun v => add v a).getD (start a))
      else entries.lookup k := by
  induction entries with
  | nil =>
    rw [put, lookup_nil]
    split
    · next h => simp [h]
    · next h => simpa using Ne.symm h
  | cons entry rest ih =>
    obtain ⟨l, v⟩ := entry
    rw [put]
    by_cases hl : l = key a
    · rw [if_pos hl]
      by_cases hk : key a = k
      · subst hl hk
        simp
      · have hkl : ¬ k = l := fun h => hk (hl ▸ h.symm)
        simp [hk, lookup_cons, beq_eq_false_iff_ne.mpr hkl]
    · rw [if_neg hl]
      by_cases hk : k = l
      · subst hk
        simp [Ne.symm hl]
      · rw [lookup_cons, beq_eq_false_iff_ne.mpr hk, lookup_cons, beq_eq_false_iff_ne.mpr hk]
        exact ih

theorem map_fst_put (a : A) (entries : List (K × V)) :
    (put key start add a entries).map Prod.fst =
      if key a ∈ entries.map Prod.fst then entries.map Prod.fst
      else entries.map Prod.fst ++ [key a] := by
  induction entries with
  | nil => rfl
  | cons entry rest ih =>
    obtain ⟨l, v⟩ := entry
    rw [put]
    by_cases hl : l = key a
    · rw [if_pos hl, map_cons, map_cons, if_pos (by simp [hl])]
    · rw [if_neg hl, map_cons, ih, map_cons]
      have hmem : key a ∈ l :: rest.map Prod.fst ↔ key a ∈ rest.map Prod.fst := by
        rw [mem_cons, or_iff_right (Ne.symm hl)]
      by_cases hr : key a ∈ rest.map Prod.fst
      · rw [if_pos hr, if_pos (hmem.mpr hr)]
      · rw [if_neg hr, if_neg (fun h => hr (hmem.mp h)), cons_append]

/-! ## All items -/

/-- Each key has one entry. -/
theorem nodup_keys (as : List A) : ((group key start add as).map Prod.fst).Nodup := by
  induction as using List.reverseRecOn with
  | nil => exact nodup_nil
  | append_singleton as a ih =>
    rw [group_concat, map_fst_put]
    split
    · exact ih
    · next h =>
      refine nodup_append.mpr ⟨ih, nodup_singleton _, fun k hk l hl hkl => h ?_⟩
      rw [← mem_singleton.mp hl, ← hkl]
      exact hk

variable {as : List A} {k : K} {cs : List ℕ}

/-- The keys are those of the items. -/
theorem mem_keys : k ∈ (group key start add as).map Prod.fst ↔ ∃ a ∈ as, key a = k := by
  induction as using List.reverseRecOn with
  | nil => simp
  | append_singleton as a ih =>
    have hlast : (∃ b ∈ as ++ [a], key b = k) ↔ (∃ b ∈ as, key b = k) ∨ key a = k := by
      simp only [mem_append, mem_singleton, or_and_right, exists_or, exists_eq_left]
    rw [group_concat, map_fst_put, hlast]
    split
    · next h =>
      rw [ih]
      refine ⟨.inl, fun hor => hor.elim id fun hk => ?_⟩
      exact ih.mp (hk ▸ h)
    · rw [mem_append, ih, mem_singleton]
      exact or_congr_right eq_comm

/-- The entry of a key is what its items make. -/
theorem lookup_group (as : List A) (k : K) :
    (group key start add as).lookup k = gathered start add (ofKey key k as) := by
  induction as using List.reverseRecOn with
  | nil => rfl
  | append_singleton as a ih =>
    rw [group_concat, lookup_put, ih, ofKey_concat]
    split
    · rw [gathered_concat]
    · rw [append_nil]

theorem lookup_eq_some_iff_mem {entries : List (K × V)} (h : (entries.map Prod.fst).Nodup) {v : V} :
    entries.lookup k = some v ↔ (k, v) ∈ entries := by
  rw [lookup_eq_some_iff]
  constructor
  · rintro ⟨before, after, rfl, -⟩
    exact mem_append_right _ (mem_cons_self ..)
  · intro hmem
    obtain ⟨before, after, rfl⟩ := append_of_mem hmem
    refine ⟨before, after, rfl, fun p hp => ?_⟩
    rw [map_append, nodup_append] at h
    simpa using Ne.symm (h.2.2 p.1 (mem_map_of_mem hp) k (by simp))

/-- **The entries**: for each key, what its items make. -/
theorem mem_group_iff {v : V} :
    (k, v) ∈ group key start add as ↔ gathered start add (ofKey key k as) = some v := by
  rw [← lookup_group, lookup_eq_some_iff_mem (nodup_keys as)]

/-! ## Counting -/

theorem sum_indicator {ks : List K} (h : ks.Nodup) (hk : k ∈ ks) :
    (ks.map fun l => if k = l then 1 else 0).sum = 1 := by
  induction ks with
  | nil => cases hk
  | cons l ks ih =>
    obtain ⟨hl, hks⟩ := nodup_cons.mp h
    rw [map_cons, sum_cons]
    rcases mem_cons.mp hk with rfl | hk
    · have hrest : ks.map (fun l => if k = l then 1 else 0) = ks.map fun _ => 0 :=
        map_congr_left fun l' hl' => if_neg fun heq : k = l' => hl (heq ▸ hl')
      rw [if_pos rfl, hrest]
      simp
    · rw [if_neg (fun heq : k = l => hl (heq ▸ hk)), ih hks hk]

/-- **The items that `p` holds of** are those of one key, and those of another, and so on. -/
theorem countP_eq_sum (p : A → Bool) {ks : List K} (h : ks.Nodup) (hkeys : ∀ a ∈ as, key a ∈ ks) :
    as.countP p = (ks.map fun k => (ofKey key k as).countP p).sum := by
  induction as with
  | nil => simp [ofKey]
  | cons a as ih =>
    obtain ⟨ha, has⟩ := forall_mem_cons.mp hkeys
    have hone : ∀ k, (ofKey key k (a :: as)).countP p =
        (ofKey key k as).countP p + if key a = k then (if p a then 1 else 0) else 0 := by
      intro k
      rw [ofKey, ofKey, filter_cons]
      by_cases hk : key a = k
      · rw [if_pos (decide_eq_true hk), countP_cons, if_pos hk]
      · rw [if_neg (by simpa using hk), if_neg hk, Nat.add_zero]
    simp only [hone]
    rw [countP_cons, ih has, sum_map_add]
    congr 1
    split
    · exact (sum_indicator h ha).symm
    · simp

theorem length_le_sum (h : ∀ c ∈ cs, 1 ≤ c) : cs.length ≤ cs.sum := by
  induction cs with
  | nil => exact Nat.le_refl 0
  | cons c cs ih =>
    obtain ⟨hc, hcs⟩ := forall_mem_cons.mp h
    have := ih hcs
    rw [length_cons, sum_cons]
    omega

theorem length_lt_sum (h : ∀ c ∈ cs, 1 ≤ c) (hmore : ∃ c ∈ cs, 1 < c) : cs.length < cs.sum := by
  induction cs with
  | nil =>
    obtain ⟨c, hc, -⟩ := hmore
    cases hc
  | cons c cs ih =>
    obtain ⟨hc, hcs⟩ := forall_mem_cons.mp h
    have hle := length_le_sum hcs
    rw [length_cons, sum_cons]
    obtain ⟨d, hd, hlt⟩ := hmore
    rcases mem_cons.mp hd with rfl | hd
    · omega
    · have := ih hcs ⟨d, hd, hlt⟩
      omega

theorem sum_le_length (h : ∀ c ∈ cs, c ≤ 1) :
    cs.sum ≤ cs.length ∧ (cs.sum = cs.length → ∀ c ∈ cs, 1 ≤ c) := by
  induction cs with
  | nil => simp
  | cons c cs ih =>
    obtain ⟨hc, hcs⟩ := forall_mem_cons.mp h
    obtain ⟨hle, hall⟩ := ih hcs
    rw [length_cons, sum_cons, forall_mem_cons]
    refine ⟨by omega, fun heq => ⟨by omega, hall (by omega)⟩⟩

/-- **How many items there are says whether every key has one** exactly when no key has two, or
there are fewer items than keys. -/
theorem sum_balanced_iff :
    (cs.sum ≤ cs.length ∧ (cs.sum = cs.length ↔ ∀ c ∈ cs, 1 ≤ c)) ↔
      (∀ c ∈ cs, c ≤ 1) ∨ cs.sum < cs.length := by
  constructor
  · rintro ⟨hle, hiff⟩
    by_contra h
    simp only [not_or, not_forall, Nat.not_le, Nat.not_lt] at h
    obtain ⟨⟨c, hc, hmore⟩, hge⟩ := h
    have hlt := length_lt_sum (hiff.mp (Nat.le_antisymm hle hge)) ⟨c, hc, hmore⟩
    exact absurd hlt (Nat.not_lt_of_le hle)
  · rintro (hone | hlt)
    · obtain ⟨hle, hall⟩ := sum_le_length hone
      exact ⟨hle, hall, fun h => Nat.le_antisymm hle (length_le_sum h)⟩
    · exact ⟨Nat.le_of_lt hlt, fun h => absurd h (Nat.ne_of_lt hlt),
        fun h => absurd (length_le_sum h) (Nat.not_le_of_lt hlt)⟩

end Grouping
