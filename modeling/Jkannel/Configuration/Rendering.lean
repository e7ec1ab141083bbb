import Jkannel.Configuration.Generator

/-!
# What the rendered file says

The file of a configuration is read back as what its calls of the emitters say exactly when each
call is one that is: its value breaks no line, is not taken for a quoted one, and, in a list, holds
no separator.

* `Emit.Reads` is that condition on a call, and `readsBack_iff` says that it is exact.
* `faithful_iff` adds the word that the engine looks for.
-/

namespace Jkannel.Configuration

open Option (bind_eq_some_iff bind_some toList_some)
open List
open Directives
open Item (entry)

/-! ## One call -/

/-- A string that is read back when it is written bare. -/
structure Bare (s : String) : Prop where
  newline : '\n' ∉ s.toList
  quoted : ¬ Quoted s.toList

/-- A list that is read back when it is written with separators. -/
structure Listed (entries : List String) : Prop where
  nonempty : entries ≠ []
  single : entries ≠ [""]
  newline : ∀ e ∈ entries, '\n' ∉ e.toList
  separator : ∀ e ∈ entries, ';' ∉ e.toList

/-- A call whose line is read as what the call says. -/
def Emit.Reads : Emit → Prop
  | .push _ value _ => ∀ s, value = some (.text s) → Bare s
  | .pushList _ entries _ => Listed entries ∧ ¬ Quoted (join entries).toList
  | .quoted _ value _ => ∀ s, value = some s → '\n' ∉ s.toList
  | .quotedList _ entries _ => Listed entries

/-- What the call's line is read as. -/
def Emit.readAs (c : Emit) : List Entry := c.item.toList.filterMap (entry isListKey)

/-- What the call says. -/
def Emit.stated (c : Emit) : List Entry := c.own.map .directive

theorem join_toList (entries : List String) :
    (join entries).toList = [';'].intercalate (entries.map String.toList) := by
  rw [join, String.toList_intercalate]
  rfl

variable {entries : List String} {cs : List Char} {c : Emit} {key : String}

theorem join_eq_empty (h : join entries = "") : entries = [] ∨ entries = [""] := by
  have hchars := congrArg String.toList h
  rw [join_toList] at hchars
  cases entries with
  | nil => exact .inl rfl
  | cons e es =>
    cases es with
    | nil =>
      rw [map_singleton, intercalate_singleton] at hchars
      exact .inr (by rw [String.toList_inj.mp hchars])
    | cons e' es =>
      simp at hchars

theorem splitOn_join (h : Listed entries) :
    ((join entries).toList.splitOn ';').map String.ofList = entries := by
  rw [join_toList, splitOn_intercalate ';' ?_ (by simpa using h.nonempty)]
  · rw [map_map]
    exact (map_congr_left fun s _ => String.ofList_toList).trans (map_id _)
  · intro l hl
    obtain ⟨e, he, rfl⟩ := mem_map.mp hl
    exact h.separator e he

/-- A text that is read as a list is the list with its separators. -/
theorem eq_join_of_splitOn (h : (cs.splitOn ';').map String.ofList = entries) :
    cs = (join entries).toList := by
  have hchars : cs.splitOn ';' = entries.map String.toList := by
    rw [← h, map_map]
    exact ((map_congr_left fun s _ => String.toList_ofList).trans (map_id _)).symm
  rw [join_toList, ← hchars, intercalate_splitOn]

theorem separator_of_splitOn (h : (cs.splitOn ';').map String.ofList = entries) :
    ∀ e ∈ entries, ';' ∉ e.toList := by
  intro e he
  rw [← h] at he
  obtain ⟨piece, hp, rfl⟩ := mem_map.mp he
  rw [String.toList_ofList]
  exact not_mem_of_mem_splitOn hp

theorem newline_not_mem_join (h : ∀ e ∈ entries, '\n' ∉ e.toList) :
    '\n' ∉ (join entries).toList := by
  rw [join_toList]
  intro hmem
  rcases mem_intercalate_cases hmem with heq | ⟨piece, hp, hc⟩
  · cases heq
  · obtain ⟨e, he, rfl⟩ := mem_map.mp hp
    exact h e he hc

theorem ownKey_of_single (h : isSingleKey key = true) :
    isOwnKey key = true ∧ isListKey key = false := by
  simpa [isSingleKey] using h

theorem ownKey_of_many (h : isManyKey key = true) :
    isOwnKey key = true ∧ isListKey key = true := by
  simpa [isManyKey] using h

theorem isKey_of_own (h : isOwnKey key = true) :
    isKey key = true ∧ key ≠ "group" ∧ ¬ Mentions includeWord key.toList := by
  simpa [isOwnKey, and_assoc] using h

/-- A value that is neither a string nor a list is written as nothing else. -/
theorem bare_number (n : JsNumber) : Bare n.text := by
  have hnot : ∀ c, JsNumber.numeral c = false → c ∉ n.text.toList := fun c hc hmem => by
    rw [n.numeral_of_mem_text c hmem] at hc
    cases hc
  exact ⟨hnot _ (by decide), not_quoted_of_not_mem (hnot _ (by decide))⟩

theorem valuesOf_single (hkey : isListKey key = false) (cs : List Char) :
    valuesOf isListKey key cs = [String.ofList cs] := by
  rw [valuesOf, hkey, if_neg Bool.false_ne_true]

theorem valuesOf_many (hkey : isListKey key = true) (cs : List Char) :
    valuesOf isListKey key cs = (cs.splitOn ';').map String.ofList := by
  rw [valuesOf, hkey, if_pos rfl]

/-- The value of a call that is no string of the model's. -/
theorem Value.read_own {v : Value} (h : ∀ s, v ≠ .text s) :
    String.ofList (unquote v.written.toList) = v.own ∧ '\n' ∉ v.written.toList := by
  have hbare : ∀ s : String, Bare s → String.ofList (unquote s.toList) = s ∧ '\n' ∉ s.toList :=
    fun s hs => ⟨by rw [unquote_eq_self_iff.mpr hs.quoted, String.ofList_toList], hs.newline⟩
  cases v with
  | text s => exact absurd rfl (h s)
  | number n => exact hbare _ (bare_number n)
  | flag b => cases b <;> exact hbare _ ⟨by decide, by decide⟩
  | emptyLiteral => exact ⟨by decide, by decide⟩

/-- **A call that reads** is read as what it says, in one line. -/
theorem Emit.Reads.readAs (h : c.Reads) : c.readAs = c.stated := by
  cases c with
  | push key value ok =>
    obtain ⟨-, hlist⟩ := ownKey_of_single ok
    cases value with
    | none => rfl
    | some v =>
      simp only [Emit.readAs, Emit.stated, Emit.item, Emit.own, bind_some,
        toList_some, flatMap_cons, flatMap_nil, append_nil]
      split
      · rfl
      · rename_i hempty
        have hread : String.ofList (unquote v.written.toList) = v.own := by
          cases v with
          | text s =>
            show String.ofList (unquote s.toList) = s
            rw [unquote_eq_self_iff.mpr (h s rfl).quoted, String.ofList_toList]
          | _ => exact (Value.read_own (by simp)).1
        simp only [toList_some, filterMap_cons, entry, filterMap_nil,
          valuesOf_single hlist, hread, map_cons, map_nil]
  | pushList key entries ok =>
    obtain ⟨-, hlist⟩ := ownKey_of_many ok
    have hne : join entries ≠ "" := fun heq =>
      (join_eq_empty heq).elim h.1.nonempty h.1.single
    simp only [Emit.readAs, Emit.stated, Emit.item, Emit.own, if_neg hne, toList_some,
      filterMap_cons, entry, filterMap_nil, valuesOf_many hlist,
      unquote_eq_self_iff.mpr h.2, splitOn_join h.1, map_cons, map_nil]
  | quoted key value ok =>
    obtain ⟨-, hlist⟩ := ownKey_of_single ok
    cases value with
    | none => rfl
    | some s =>
      simp only [Emit.readAs, Emit.stated, Emit.item, Emit.own, bind_some,
        toList_some, flatMap_cons, flatMap_nil, append_nil]
      split
      · rfl
      · simp only [toList_some, filterMap_cons, entry, filterMap_nil,
          valuesOf_single hlist, String.ofList_toList, map_cons, map_nil]
  | quotedList key entries ok =>
    obtain ⟨-, hlist⟩ := ownKey_of_many ok
    have hne : join entries ≠ "" := fun heq => (join_eq_empty heq).elim h.nonempty h.single
    simp only [Emit.readAs, Emit.stated, Emit.item, Emit.own, if_neg hne, toList_some,
      filterMap_cons, entry, filterMap_nil, valuesOf_many hlist, splitOn_join h,
      map_cons, map_nil]

/-- A call writes no more lines than it has things to say. -/
theorem Emit.length_readAs_le (c : Emit) : c.readAs.length ≤ c.stated.length := by
  cases c with
  | push key value ok =>
    cases value with
    | none => exact le_rfl
    | some v => by_cases hv : v.isEmpty <;> simp [Emit.readAs, Emit.stated, Emit.item, Emit.own, hv,
        entry]
  | pushList _ entries _ | quotedList _ entries _ =>
    by_cases hj : join entries = "" <;>
      simp [Emit.readAs, Emit.stated, Emit.item, Emit.own, hj, entry]
  | quoted key value ok =>
    cases value with
    | none => exact le_rfl
    | some s => by_cases hs : s = "" <;> simp [Emit.readAs, Emit.stated, Emit.item, Emit.own, hs,
        entry]

theorem newline_not_mem_quoted {cs : List Char} (hkey : isOwnKey key = true)
    (h : '\n' ∉ cs) : '\n' ∉ (assign key (String.ofList (quote cs))).toList := by
  refine not_mem_assign (isKey_of_own hkey).1 (by decide) (by decide) fun hmem => ?_
  rw [String.toList_ofList] at hmem
  rcases mem_quote hmem with hq | hq | hq
  · cases hq
  · cases hq
  · exact h hq

/-- A call that says nothing over a line's end writes one line. -/
theorem Emit.newline_not_mem_line (hstated : ∀ e ∈ c.stated, ∀ t ∈ e.texts, '\n' ∉ t.toList)
    {i : Item} (hi : c.item = some i) : '\n' ∉ i.line.toList := by
  have hown : ∀ d ∈ c.own, ∀ t ∈ d.values, '\n' ∉ t.toList := fun d hd =>
    hstated (.directive d) (mem_map_of_mem hd)
  cases c with
  | push key value ok =>
    obtain ⟨hkey, -⟩ := ownKey_of_single ok
    simp only [Emit.item, bind_eq_some_iff] at hi
    obtain ⟨v, rfl, hi⟩ := hi
    split at hi
    · cases hi
    · rename_i hempty
      cases hi
      refine not_mem_assign (isKey_of_own hkey).1 (by decide) (by decide) ?_
      cases v with
      | text s =>
        refine hown ⟨key, [s]⟩ ?_ s mem_cons_self
        simp [Emit.own, hempty, Value.own, Value.written]
      | _ => exact (Value.read_own (by simp)).2
  | pushList key entries ok =>
    obtain ⟨hkey, -⟩ := ownKey_of_many ok
    simp only [Emit.item] at hi
    split at hi
    · cases hi
    · cases hi
      exact not_mem_assign (isKey_of_own hkey).1 (by decide) (by decide)
        (newline_not_mem_join (hown ⟨key, entries⟩ mem_cons_self))
  | quoted key value ok =>
    obtain ⟨hkey, -⟩ := ownKey_of_single ok
    simp only [Emit.item, bind_eq_some_iff] at hi
    obtain ⟨s, rfl, hi⟩ := hi
    split at hi
    · cases hi
    · rename_i hempty
      cases hi
      refine newline_not_mem_quoted hkey (hown ⟨key, [s]⟩ ?_ s mem_cons_self)
      simp [Emit.own, hempty]
  | quotedList key entries ok =>
    obtain ⟨hkey, -⟩ := ownKey_of_many ok
    simp only [Emit.item] at hi
    split at hi
    · cases hi
    · cases hi
      exact newline_not_mem_quoted hkey
        (newline_not_mem_join (hown ⟨key, entries⟩ mem_cons_self))

/-- A list that is read as it is. -/
theorem listed_of_read (hjoin : join entries ≠ "")
    (hread : (cs.splitOn ';').map String.ofList = entries)
    (hnewline : ∀ e ∈ entries, '\n' ∉ e.toList) : Listed entries :=
  ⟨fun h => hjoin (h ▸ rfl), fun h => hjoin (h ▸ rfl), hnewline, separator_of_splitOn hread⟩

/-- **A call that is read as what it says** is one that reads. -/
theorem Emit.reads_of_readAs (hstated : ∀ e ∈ c.stated, ∀ t ∈ e.texts, '\n' ∉ t.toList)
    (h : c.readAs = c.stated) : c.Reads := by
  have hown : ∀ d ∈ c.own, ∀ t ∈ d.values, '\n' ∉ t.toList := fun d hd =>
    hstated (.directive d) (mem_map_of_mem hd)
  cases c with
  | push key value ok =>
    obtain ⟨-, hlist⟩ := ownKey_of_single ok
    rintro s rfl
    by_cases hempty : s = ""
    · exact hempty ▸ ⟨by decide, by decide⟩
    · have hvalue : Emit.own (.push key (some (.text s)) ok) = [⟨key, [s]⟩] := by
        simp [Emit.own, Value.isEmpty, hempty, Value.own, Value.written]
      refine ⟨hown ⟨key, [s]⟩ (hvalue ▸ mem_cons_self) s mem_cons_self, ?_⟩
      simp only [Emit.readAs, Emit.stated, hvalue, Emit.item, Value.isEmpty, beq_iff_eq,
        bind_some, if_neg hempty, toList_some, filterMap_cons, entry,
        valuesOf_single hlist, Value.written, filterMap_nil, map_cons, map_nil,
        List.cons.injEq, Entry.directive.injEq, Directive.mk.injEq, and_true, true_and] at h
      refine unquote_eq_self_iff.mp ?_
      rw [← String.toList_inj, String.toList_ofList] at h
      exact h
  | pushList key entries ok =>
    obtain ⟨-, hlist⟩ := ownKey_of_many ok
    by_cases hjoin : join entries = ""
    · simp [Emit.readAs, Emit.stated, Emit.item, Emit.own, hjoin] at h
    · simp only [Emit.readAs, Emit.stated, Emit.own, Emit.item, if_neg hjoin, toList_some,
        filterMap_cons, entry, valuesOf_many hlist, filterMap_nil, map_cons, map_nil,
        List.cons.injEq, Entry.directive.injEq, Directive.mk.injEq, and_true, true_and] at h
      exact ⟨listed_of_read hjoin h (hown ⟨key, entries⟩ mem_cons_self),
        unquote_eq_self_iff.mp (eq_join_of_splitOn h)⟩
  | quoted key value ok =>
    rintro s rfl
    by_cases hempty : s = ""
    · exact hempty ▸ (by decide)
    · refine hown ⟨key, [s]⟩ ?_ s mem_cons_self
      simp [Emit.own, hempty]
  | quotedList key entries ok =>
    obtain ⟨-, hlist⟩ := ownKey_of_many ok
    by_cases hjoin : join entries = ""
    · simp [Emit.readAs, Emit.stated, Emit.item, Emit.own, hjoin] at h
    · simp only [Emit.readAs, Emit.stated, Emit.own, Emit.item, if_neg hjoin, toList_some,
        filterMap_cons, entry, valuesOf_many hlist, filterMap_nil, map_cons, map_nil,
        List.cons.injEq, Entry.directive.injEq, Directive.mk.injEq, and_true, true_and] at h
      exact listed_of_read hjoin h (hown ⟨key, entries⟩ mem_cons_self)

theorem Emit.Reads.says_whole (h : c.Reads) : ∀ e ∈ c.stated, ∀ t ∈ e.texts, '\n' ∉ t.toList := by
  simp only [Emit.stated, forall_mem_map]
  show ∀ d ∈ c.own, ∀ t ∈ d.values, '\n' ∉ t.toList
  cases c with
  | push key value ok =>
    cases value with
    | none => exact fun d hd => (by cases hd)
    | some v =>
      intro d hd t ht
      simp only [Emit.own, toList_some, flatMap_cons, flatMap_nil, append_nil] at hd
      split at hd
      · cases hd
      · obtain rfl := mem_singleton.mp hd
        obtain rfl := mem_singleton.mp ht
        cases v with
        | text s => exact (h s rfl).newline
        | number n => exact (bare_number n).newline
        | flag b => cases b <;> decide
        | emptyLiteral => decide
  | pushList key entries ok =>
    intro d hd
    obtain rfl := mem_singleton.mp hd
    exact h.1.newline
  | quoted key value ok =>
    cases value with
    | none => exact fun d hd => (by cases hd)
    | some s =>
      intro d hd t ht
      simp only [Emit.own, toList_some, flatMap_cons, flatMap_nil, append_nil] at hd
      split at hd
      · cases hd
      · obtain rfl := mem_singleton.mp hd
        obtain rfl := mem_singleton.mp ht
        exact h _ rfl
  | quotedList key entries ok =>
    intro d hd
    obtain rfl := mem_singleton.mp hd
    exact h.newline

theorem Emit.item_proper {i : Item} (h : c.item = some i) : i.Proper := by
  cases c with
  | push _ _ ok | quoted _ _ ok =>
    obtain ⟨hkey, hgroup, -⟩ := isKey_of_own (ownKey_of_single ok).1
    simp only [Emit.item, bind_eq_some_iff] at h
    obtain ⟨v, -, h⟩ := h
    split at h
    · cases h
    · cases h
      exact ⟨hkey, hgroup⟩
  | pushList _ _ ok | quotedList _ _ ok =>
    obtain ⟨hkey, hgroup, -⟩ := isKey_of_own (ownKey_of_many ok).1
    simp only [Emit.item] at h
    split at h
    · cases h
    · cases h
      exact ⟨hkey, hgroup⟩

/-! ## The file -/

section File

variable {sections : List Section}

theorem Section.items_entries (s : Section) :
    s.items.filterMap (entry isListKey) = .header s.kind :: s.calls.flatMap Emit.readAs := by
  have hremarks : (s.remarks.map Item.remark).filterMap (entry isListKey) = [] := by
    simp [filterMap_map, Function.comp_def, entry]
  have hcalls : ∀ calls : List Emit, (calls.filterMap Emit.item).filterMap (entry isListKey) =
      calls.flatMap Emit.readAs := by
    intro calls
    induction calls with
    | nil => rfl
    | cons c calls ih =>
      rw [flatMap_cons, ← ih, Emit.readAs]
      cases hitem : c.item with
      | none => rw [filterMap_cons_none hitem]; rfl
      | some i =>
        rw [filterMap_cons_some hitem, filterMap_cons]
        cases hentry : i.entry isListKey <;> simp [hentry]
  have hheader : (Item.header s.kind).entry isListKey = some (.header s.kind) := rfl
  rw [Section.items, filterMap_append, hremarks, nil_append, filterMap_cons_some hheader, hcalls]

theorem Section.group_entries (s : Section) :
    s.group.entries = .header s.kind :: s.calls.flatMap Emit.stated := by
  rw [Group.entries, Section.group, map_flatMap]
  rfl

variable {s : Section} {i : Item}

theorem Section.mem_items (h : i ∈ s.items) :
    (∃ line ∈ s.remarks, i = .remark line) ∨ i = .header s.kind ∨
      ∃ c ∈ s.calls, c.item = some i := by
  rcases mem_append.mp h with h | h
  · obtain ⟨line, hline, rfl⟩ := mem_map.mp h
    exact .inl ⟨line, hline, rfl⟩
  · rcases mem_cons.mp h with h | h
    · exact .inr (.inl h)
    · exact .inr (.inr (mem_filterMap.mp h))

theorem Section.remark_ok {line : String} (h : line ∈ s.remarks) :
    skipped line.toList = true ∧ '\n' ∉ line.toList ∧ ¬ Mentions includeWord line.toList := by
  have hall := all_eq_true.mp s.remarks_skipped line h
  simpa [and_assoc] using hall

theorem Section.kind_ok (s : Section) :
    isKey s.kind = true ∧ ¬ Mentions includeWord s.kind.toList := by
  simpa using s.kind_isKey

theorem Section.items_proper (h : i ∈ s.items) : i.Proper := by
  rcases Section.mem_items h with ⟨line, hline, rfl⟩ | rfl | ⟨c, -, hc⟩
  · exact (Section.remark_ok hline).1
  · exact s.kind_ok.1
  · exact Emit.item_proper hc

/-- The lines of a section are whole when its calls say nothing over a line's end. -/
theorem Section.items_whole
    (hstated : ∀ c ∈ s.calls, ∀ e ∈ c.stated, ∀ t ∈ e.texts, '\n' ∉ t.toList) (h : i ∈ s.items) :
    '\n' ∉ i.line.toList := by
  rcases Section.mem_items h with ⟨line, hline, rfl⟩ | rfl | ⟨c, hc, hitem⟩
  · exact (Section.remark_ok hline).2.1
  · exact not_mem_assign (by decide) (by decide) (by decide)
      (not_mem_key s.kind_ok.1 (by decide))
  · exact Emit.newline_not_mem_line (hstated c hc) hitem

/-- The file whose lines are whole. -/
theorem contentOf_whole (hne : sections ≠ [])
    (hstated : ∀ s ∈ sections, ∀ c ∈ s.calls, ∀ e ∈ c.stated, ∀ t ∈ e.texts, '\n' ∉ t.toList) :
    readEntries isListKey (contentOf sections) =
        some (sections.flatMap fun s => .header s.kind :: s.calls.flatMap Emit.readAs) ∧
      linesOf (contentOf sections) =
        (sections.flatMap Section.items).map (fun i => i.line.toList) ++ [[]] := by
  have hitems : sections.flatMap Section.items ≠ [] := by
    cases sections with
    | nil => exact absurd rfl hne
    | cons s rest => simp [Section.items]
  have hwhole : ∀ i ∈ sections.flatMap Section.items, '\n' ∉ i.line.toList := by
    intro i hi
    obtain ⟨s, hs, hi⟩ := mem_flatMap.mp hi
    exact Section.items_whole (hstated s hs) hi
  constructor
  · rw [contentOf, readEntries_unlines hitems (fun i hi => ?_) hwhole]
    · congr 1
      rw [filterMap_flatMap]
      exact flatMap_congr fun s _ => s.items_entries
    · obtain ⟨s, -, hi⟩ := mem_flatMap.mp hi
      exact Section.items_proper hi
  · rw [contentOf, linesOf_unlines (by simpa using hitems), map_map]
    · rfl
    · intro line hline
      obtain ⟨i, hi, rfl⟩ := mem_map.mp hline
      exact hwhole i hi

/-- **A file is read back as it is meant exactly when each of its calls reads.** -/
theorem readsBack_iff (hne : sections ≠ []) :
    readGroups isListKey (contentOf sections) = some (sections.map Section.group) ↔
      ∀ s ∈ sections, ∀ c ∈ s.calls, c.Reads := by
  have hmeant : (sections.map Section.group).flatMap Group.entries =
      sections.flatMap fun s => .header s.kind :: s.calls.flatMap Emit.stated := by
    rw [flatMap_map]
    exact flatMap_congr fun s _ => s.group_entries
  rw [readGroups_eq_some, hmeant]
  constructor
  · intro h
    have hstated : ∀ s ∈ sections, ∀ c ∈ s.calls, ∀ e ∈ c.stated, ∀ t ∈ e.texts,
        '\n' ∉ t.toList := by
      intro s hs c hc e he
      exact fun t => newline_not_mem_read h (mem_flatMap.mpr ⟨s, hs,
        mem_cons_of_mem _ (mem_flatMap.mpr ⟨c, hc, he⟩)⟩)
    rw [(contentOf_whole hne hstated).1] at h
    have hle : ∀ (l : List Emit), (l.flatMap Emit.readAs).length ≤ (l.flatMap Emit.stated).length := by
      intro l
      induction l with
      | nil => exact le_rfl
      | cons c l ih =>
        simp only [flatMap_cons, length_append]
        exact Nat.add_le_add c.length_readAs_le ih
    have hsections := flatMap_inj_of_length_le (fun s _ => by
      simpa only [length_cons] using Nat.succ_le_succ (hle s.calls)) (Option.some.inj h)
    intro s hs c hc
    exact Emit.reads_of_readAs (hstated s hs c hc) (flatMap_inj_of_length_le
      (fun c _ => c.length_readAs_le) (List.cons.inj (hsections s hs)).2 c hc)
  · intro h
    rw [(contentOf_whole hne fun s hs c hc => (h s hs c hc).says_whole).1]
    congr 1
    exact flatMap_congr fun s hs => congrArg _
      (flatMap_congr fun c hc => (h s hs c hc).readAs)

/-- A call that writes the word nowhere. -/
def Emit.Quiet (c : Emit) : Prop :=
  ∀ i, c.item = some i → ¬ Mentions includeWord i.line.toList

/-- **A file is faithful exactly when each of its calls reads and is quiet.** -/
theorem faithful_iff (hne : sections ≠ []) :
    Faithful sections (contentOf sections) ↔ ∀ s ∈ sections, ∀ c ∈ s.calls, c.Reads ∧ c.Quiet := by
  rw [Faithful, readsBack_iff hne]
  constructor
  · rintro ⟨hreads, hword⟩ s hs c hc
    refine ⟨hreads s hs c hc, fun i hi => hword _ ?_⟩
    rw [(contentOf_whole hne fun s hs c hc => (hreads s hs c hc).says_whole).2]
    refine mem_append_left _ (mem_map_of_mem (mem_flatMap.mpr ⟨s, hs, ?_⟩))
    exact mem_append_right _ (mem_cons_of_mem _ (mem_filterMap.mpr ⟨c, hc, hi⟩))
  · intro h
    refine ⟨fun s hs c hc => (h s hs c hc).1, ?_⟩
    rw [(contentOf_whole hne fun s hs c hc => (h s hs c hc).1.says_whole).2]
    intro line hline
    rcases mem_append.mp hline with hline | hline
    · obtain ⟨i, hi, rfl⟩ := mem_map.mp hline
      obtain ⟨s, hs, hi⟩ := mem_flatMap.mp hi
      rcases Section.mem_items hi with ⟨remark, hremark, rfl⟩ | rfl | ⟨c, hc, hitem⟩
      · exact (Section.remark_ok hremark).2.2
      · show ¬ Mentions includeWord (assign "group" s.kind).toList
        rw [mentions_assign (by decide) (by decide) (by decide)]
        exact not_or.mpr ⟨by decide, s.kind_ok.2⟩
      · exact (h s hs c hc).2 i hitem
    · obtain rfl := mem_singleton.mp hline
      decide

end File

end Jkannel.Configuration
