import Mathlib.Data.List.Infix

/-!
# Files of directives

A configuration file is a text of lines.  A line is blank, a comment that starts with `#`, or a
directive `key = value`; a directive whose key is `group` opens a group, and the directives after
it belong to that group.  A value is written bare or between double quotes, and some keys have a
list of values, with a semicolon between two.

* `quote` and `unquote` are the quotes.  `unquote_quote` is their round trip, and a bare value is
  read as it is written exactly when it is not `Quoted` itself (`unquote_eq_self_iff`).
* `readGroups` reads a file.  It is the reading of the lines one by one, `readEntries`, put
  together (`readGroups_eq_some`).
* `Item` is a line as it is written, and `readEntries_unlines` is what a file of such lines is read
  as when none of them is broken in two.
* `Mentions` looks for a word in a line, in any letter case.  A character that is not in the word
  keeps what is on its two sides apart (`mentions_append_cons`).
-/

namespace Directives

open List

/-! ## Quotes -/

/-- A character between quotes. -/
def escapeChar (c : Char) : List Char := if c = '\\' ∨ c = '"' then ['\\', c] else [c]

/-- A text between double quotes. -/
def quote (cs : List Char) : List Char := '"' :: (cs.flatMap escapeChar ++ ['"'])

/-- The text without its backslashes, but for those that stand for themselves. -/
def unescape : List Char → List Char
  | [] => []
  | [c] => [c]
  | c :: d :: cs => if c = '\\' ∧ (d = '\\' ∨ d = '"') then d :: unescape cs else c :: unescape (d :: cs)

/-- Whether a text starts and ends with a double quote, and these are two. -/
def Quoted (cs : List Char) : Prop := 2 ≤ cs.length ∧ cs.head? = some '"' ∧ cs.getLast? = some '"'

instance (cs : List Char) : Decidable (Quoted cs) := inferInstanceAs (Decidable (_ ∧ _ ∧ _))

/-- What a value is read as. -/
def unquote (cs : List Char) : List Char := if Quoted cs then unescape cs.tail.dropLast else cs

attribute [local grind =] unescape

variable {c : Char} {cs word : List Char} {isList : String → Bool} {key value : String}

theorem unescape_cons_of_ne (hc : c ≠ '\\') (cs : List Char) :
    unescape (c :: cs) = c :: unescape cs := by
  cases cs with
  | nil => rfl
  | cons d cs => rw [unescape, if_neg fun h => hc h.1]

theorem unescape_escapeChar (c : Char) (cs : List Char) :
    unescape (escapeChar c ++ cs) = c :: unescape cs := by
  rw [escapeChar]
  split
  · rename_i hc
    exact if_pos ⟨rfl, hc⟩
  · rename_i hc
    rw [not_or] at hc
    exact unescape_cons_of_ne hc.1 cs

theorem unescape_flatMap (cs : List Char) : unescape (cs.flatMap escapeChar) = cs := by
  induction cs with
  | nil => rfl
  | cons c cs ih => rw [flatMap_cons, unescape_escapeChar, ih]

theorem quoted_quote (cs : List Char) : Quoted (quote cs) := by
  refine ⟨?_, rfl, ?_⟩
  · simp [quote]
  · rw [quote, getLast?_cons, getLast?_append]
    rfl

/-- **What is quoted is read back.** -/
theorem unquote_quote (cs : List Char) : unquote (quote cs) = cs := by
  rw [unquote, if_pos (quoted_quote cs), quote, tail_cons, dropLast_concat]
  exact unescape_flatMap cs

theorem unescape_length_le (cs : List Char) : (unescape cs).length ≤ cs.length := by
  fun_induction unescape cs with
  | case1 | case2 => exact le_rfl
  | case3 c d cs _ ih => simp only [length_cons]; omega
  | case4 c d cs _ ih => simpa using ih

theorem unquote_length_lt (h : Quoted cs) : (unquote cs).length < cs.length := by
  have hlen := unescape_length_le cs.tail.dropLast
  have htwo := h.1
  rw [unquote, if_pos h]
  simp only [length_dropLast, length_tail] at hlen
  omega

/-- A bare value is read as it is written unless it is between quotes itself. -/
theorem unquote_eq_self_iff : unquote cs = cs ↔ ¬ Quoted cs := by
  constructor
  · intro h hq
    have hlt := unquote_length_lt hq
    rw [h] at hlt
    exact lt_irrefl _ hlt
  · exact fun h => if_neg h

theorem not_quoted_of_not_mem (h : '"' ∉ cs) : ¬ Quoted cs :=
  fun hq => h (mem_of_mem_head? hq.2.1)

theorem mem_unescape (h : c ∈ unescape cs) : c ∈ cs := by
  fun_induction unescape cs with
  | case1 | case2 => exact h
  | case3 a d cs _ ih =>
    rcases mem_cons.mp h with rfl | h
    · simp
    · simp [ih h]
  | case4 a d cs _ ih =>
    rcases mem_cons.mp h with rfl | h
    · simp
    · exact mem_cons_of_mem _ (ih h)

theorem mem_unquote (h : c ∈ unquote cs) : c ∈ cs := by
  rw [unquote] at h
  split at h
  · exact mem_of_mem_tail (mem_of_mem_dropLast (mem_unescape h))
  · exact h

theorem mem_quote (hc : c ∈ quote cs) : c = '"' ∨ c = '\\' ∨ c ∈ cs := by
  rw [quote] at hc
  simp only [mem_cons, mem_append, mem_flatMap, not_mem_nil, or_false] at hc
  rcases hc with rfl | ⟨d, hd, hc⟩ | rfl
  · exact .inl rfl
  · rw [escapeChar] at hc
    split at hc
    · simp only [mem_cons, not_mem_nil, or_false] at hc
      rcases hc with rfl | rfl
      · exact .inr (.inl rfl)
      · exact .inr (.inr hd)
    · obtain rfl := mem_singleton.mp hc
      exact .inr (.inr hd)
  · exact .inl rfl

theorem flatMap_escapeChar (hquote : '"' ∉ cs) (hbackslash : '\\' ∉ cs) :
    cs.flatMap escapeChar = cs := by
  induction cs with
  | nil => rfl
  | cons c cs ih =>
    simp only [mem_cons, not_or] at hquote hbackslash
    rw [flatMap_cons, ih hquote.2 hbackslash.2, escapeChar,
      if_neg fun h => h.elim (Ne.symm hbackslash.1) (Ne.symm hquote.1)]
    rfl

/-! ## Pieces of a list -/

section Pieces

variable {α : Type}

variable {a c : α} {piece : List α} {pieces : List (List α)}

theorem mem_intercalate (hp : piece ∈ pieces) (hc : c ∈ piece) : c ∈ [a].intercalate pieces := by
  induction pieces with
  | nil => cases hp
  | cons p ps ih =>
    cases ps with
    | nil =>
      obtain rfl := mem_singleton.mp hp
      simpa using hc
    | cons q qs =>
      rw [intercalate_cons_cons]
      rcases mem_cons.mp hp with rfl | hp
      · simp [hc]
      · simp [ih hp]

theorem mem_of_mem_splitOn [DecidableEq α] {cs : List α} (hp : piece ∈ cs.splitOn a)
    (hc : c ∈ piece) : c ∈ cs := by
  have hmem := mem_intercalate (a := a) hp hc
  rwa [intercalate_splitOn] at hmem

/-- The separator is in no piece. -/
theorem not_mem_of_mem_splitOn [DecidableEq α] {cs : List α} (hp : piece ∈ cs.splitOn a) :
    a ∉ piece := by
  induction cs generalizing piece with
  | nil =>
    obtain rfl := mem_singleton.mp hp
    exact not_mem_nil
  | cons c cs ih =>
    rw [splitOn_cons_eq_if_modifyHead] at hp
    split at hp
    · rcases mem_cons.mp hp with rfl | hp
      · exact not_mem_nil
      · exact ih hp
    · rename_i hne
      cases hsplit : cs.splitOn a with
      | nil => exact absurd hsplit (splitOn_ne_nil a cs)
      | cons p ps =>
        rw [hsplit, modifyHead_cons] at hp
        rcases mem_cons.mp hp with rfl | hp
        · simp only [mem_cons, not_or]
          refine ⟨fun h => hne (by simp [h]), ih ?_⟩
          rw [hsplit]
          exact mem_cons_self
        · refine ih ?_
          rw [hsplit]
          exact mem_cons_of_mem _ hp

theorem mem_intercalate_cases (hc : c ∈ [a].intercalate pieces) :
    c = a ∨ ∃ piece ∈ pieces, c ∈ piece := by
  induction pieces with
  | nil => cases hc
  | cons p ps ih =>
    cases ps with
    | nil => exact .inr ⟨p, mem_cons_self, by simpa using hc⟩
    | cons q qs =>
      rcases mem_append.mp hc with hc | hc
      · exact .inr ⟨p, mem_cons_self, hc⟩
      · rcases mem_append.mp hc with hc | hc
        · exact .inl (mem_singleton.mp hc)
        · rcases ih hc with h | ⟨piece, hp, hc⟩
          · exact .inl h
          · exact .inr ⟨piece, mem_cons_of_mem _ hp, hc⟩

/-- An empty piece at the end is a separator at the end. -/
theorem intercalate_concat_nil (hne : pieces ≠ []) :
    [a].intercalate (pieces ++ [[]]) = [a].intercalate pieces ++ [a] := by
  induction pieces with
  | nil => exact absurd rfl hne
  | cons p ps ih =>
    cases ps with
    | nil => simp
    | cons q qs =>
      rw [cons_append, cons_append, intercalate_cons_cons, ← cons_append,
        ih (cons_ne_nil q qs), intercalate_cons_cons]
      simp

/-- What is made of a list element by element comes from an element. -/
theorem exists_of_mem_mapM {β : Type} {f : α → Option β} {l : List α} {l' : List β}
    (h : l.mapM f = some l') {b : β} (hb : b ∈ l') : ∃ a ∈ l, f a = some b := by
  induction l generalizing l' with
  | nil =>
    cases h
    cases hb
  | cons a l ih =>
    simp only [mapM_cons, Option.bind_eq_bind, Option.bind_eq_some_iff] at h
    obtain ⟨b', hb', bs, hbs, heq⟩ := h
    cases heq
    rcases mem_cons.mp hb with rfl | hb
    · exact ⟨a, mem_cons_self, hb'⟩
    · obtain ⟨a', ha', hf⟩ := ih hbs hb
      exact ⟨a', mem_cons_of_mem _ ha', hf⟩

/-- Two lists made piece by piece, the pieces of one no longer than those of the other, are equal
piece by piece. -/
theorem flatMap_inj_of_length_le {β : Type} {l : List β} {f g : β → List α}
    (hle : ∀ b ∈ l, (f b).length ≤ (g b).length) (h : l.flatMap f = l.flatMap g) :
    ∀ b ∈ l, f b = g b := by
  have hrest : ∀ l : List β, (∀ b ∈ l, (f b).length ≤ (g b).length) →
      (l.flatMap f).length ≤ (l.flatMap g).length := by
    intro l hle
    induction l with
    | nil => exact le_rfl
    | cons b l ih =>
      simp only [flatMap_cons, length_append]
      exact Nat.add_le_add (hle b mem_cons_self)
        (ih fun b hb => hle b (mem_cons_of_mem _ hb))
  induction l with
  | nil => exact fun b hb => (by cases hb)
  | cons b l ih =>
    have htail := hrest l fun b hb => hle b (mem_cons_of_mem _ hb)
    have hhead := hle b mem_cons_self
    have hlen := congrArg List.length h
    simp only [flatMap_cons, length_append] at hlen
    obtain ⟨hb, hl⟩ := append_inj h (by omega)
    intro d hd
    rcases mem_cons.mp hd with rfl | hd
    · exact hb
    · exact ih (fun b hb => hle b (mem_cons_of_mem _ hb)) hl d hd

end Pieces

/-! ## Reading a file -/

/-- What a line says: a group is opened, or a directive of the group opened last. -/
structure Directive where
  key : String
  values : List String
  deriving DecidableEq

/-- What one line says. -/
inductive Entry
  | header (kind : String)
  | directive (d : Directive)

/-- A header with the directives under it. -/
structure Group where
  kind : String
  directives : List Directive
  deriving DecidableEq

/-- The texts of an entry. -/
def Entry.texts : Entry → List String
  | .header kind => [kind]
  | .directive d => d.values

/-- The entries a group is made of. -/
def Group.entries (g : Group) : List Entry := .header g.kind :: g.directives.map .directive

/-- The one space of `key = value` on the side of the value. -/
def dropSpace : List Char → List Char
  | ' ' :: cs => cs
  | cs => cs

/-- The one space on the side of the key. -/
def dropSpaceEnd (cs : List Char) : List Char := (dropSpace cs.reverse).reverse

/-- The values of a key: one, or several with semicolons between them. -/
def valuesOf (isList : String → Bool) (key : String) (text : List Char) : List String :=
  if isList key then (text.splitOn ';').map String.ofList else [String.ofList text]

/-- A line that is blank or a comment. -/
def skipped (line : List Char) : Bool :=
  match line.dropWhile Char.isWhitespace with
  | [] => true
  | c :: _ => c == '#'

/-- A line `key = value`, split at the first `=`. -/
def parseLine (isList : String → Bool) (line : List Char) : Option Entry :=
  match line.dropWhile (· ≠ '=') with
  | [] => none
  | _ :: rest =>
    let key := String.ofList (dropSpaceEnd (line.takeWhile (· ≠ '=')))
    let value := unquote (dropSpace rest)
    some (if key = "group" then .header (String.ofList value)
      else .directive ⟨key, valuesOf isList key value⟩)

/-- The lines of a text. -/
def linesOf (content : String) : List (List Char) := content.toList.splitOn '\n'

/-- The entries of a file, when each of its lines can be read. -/
def readEntries (isList : String → Bool) (content : String) : Option (List Entry) :=
  ((linesOf content).filter fun line => !skipped line).mapM (parseLine isList)

/-- The directives before the first group, and the groups. -/
def assemble : List Entry → List Directive × List Group
  | [] => ([], [])
  | .header kind :: es =>
    match assemble es with
    | (loose, groups) => ([], ⟨kind, loose⟩ :: groups)
  | .directive d :: es =>
    match assemble es with
    | (loose, groups) => (d :: loose, groups)

/-- The groups of a file, when each of its lines can be read and is in a group. -/
def readGroups (isList : String → Bool) (content : String) : Option (List Group) :=
  match (readEntries isList content).map assemble with
  | some ([], groups) => some groups
  | _ => none

attribute [local grind =] assemble

theorem assemble_entries (es : List Entry) :
    (assemble es).1.map .directive ++ (assemble es).2.flatMap Group.entries = es := by
  induction es with
  | nil => rfl
  | cons e es ih =>
    cases e with
    | header kind =>
      simp only [assemble, map_nil, nil_append, flatMap_cons, Group.entries, cons_append]
      rw [ih]
    | directive d =>
      simp only [assemble, map_cons, cons_append]
      rw [ih]

theorem assemble_directives (ds : List Directive) (es : List Entry) :
    assemble (ds.map .directive ++ es) = (ds ++ (assemble es).1, (assemble es).2) := by
  induction ds with
  | nil => rfl
  | cons d ds ih => rw [map_cons, cons_append, assemble, ih, cons_append]

theorem assemble_groups (groups : List Group) :
    assemble (groups.flatMap Group.entries) = ([], groups) := by
  induction groups with
  | nil => rfl
  | cons g groups ih =>
    rw [flatMap_cons, Group.entries, cons_append, assemble, assemble_directives, ih, append_nil]

/-- **The groups of a file are its entries put together.** -/
theorem readGroups_eq_some {content : String} {groups : List Group} :
    readGroups isList content = some groups ↔
      readEntries isList content = some (groups.flatMap Group.entries) := by
  rw [readGroups]
  cases readEntries isList content with
  | none => simp
  | some es =>
    rw [Option.map_some]
    constructor
    · intro h
      have hes := assemble_entries es
      split at h
      · rename_i read heq
        cases h
        rw [Option.some.inj heq] at hes
        exact congrArg some hes.symm
      · cases h
    · intro h
      rw [Option.some.inj h, assemble_groups]

theorem mem_dropSpace (h : c ∈ dropSpace cs) : c ∈ cs := by
  rw [dropSpace.eq_def] at h
  split at h
  · exact mem_cons_of_mem _ h
  · exact h

theorem mem_valuesOf {text : List Char} (hv : value ∈ valuesOf isList key text)
    (hc : c ∈ value.toList) : c ∈ text := by
  rw [valuesOf] at hv
  split at hv
  · obtain ⟨piece, hp, rfl⟩ := mem_map.mp hv
    rw [String.toList_ofList] at hc
    exact mem_of_mem_splitOn hp hc
  · obtain rfl := mem_singleton.mp hv
    rwa [String.toList_ofList] at hc

/-- What is read of a line is in the line. -/
theorem mem_parseLine {line : List Char} {e : Entry} (h : parseLine isList line = some e)
    {t : String} (ht : t ∈ e.texts) (hc : c ∈ t.toList) : c ∈ line := by
  rw [parseLine] at h
  split at h
  · cases h
  · rename_i sep rest hrest
    have hline : c ∈ rest → c ∈ line := fun hmem =>
      dropWhile_subset _ (hrest ▸ mem_cons_of_mem _ hmem)
    cases h
    refine hline (mem_dropSpace (mem_unquote ?_))
    split at ht
    · obtain rfl := mem_singleton.mp ht
      rwa [String.toList_ofList] at hc
    · exact mem_valuesOf ht hc

/-- Nothing that is read goes over a line's end. -/
theorem newline_not_mem_read {content : String} {es : List Entry}
    (h : readEntries isList content = some es) {e : Entry} (he : e ∈ es) {t : String}
    (ht : t ∈ e.texts) : '\n' ∉ t.toList := by
  obtain ⟨line, hline, hparse⟩ := exists_of_mem_mapM h he
  intro hc
  exact not_mem_of_mem_splitOn (mem_of_mem_filter hline) (mem_parseLine hparse ht hc)

/-! ## Writing a file -/

/-- A character a key may have. -/
def isKeyChar (c : Char) : Bool := c.isAlphanum || c == '-'

def isKey (key : String) : Bool := !key.toList.isEmpty && key.toList.all isKeyChar

/-- The lines of a file, as it is written. -/
inductive Item
  /-- A blank line or a comment. -/
  | remark (text : String)
  | header (kind : String)
  | bare (key text : String)
  | quoted (key text : String)

/-- `key = value`. -/
def assign (key value : String) : String := key ++ " = " ++ value

def Item.line : Item → String
  | .remark text => text
  | .header kind => assign "group" kind
  | .bare key text => assign key text
  | .quoted key text => assign key (String.ofList (quote text.toList))

/-- The items that are read as what they are. -/
def Item.Proper : Item → Prop
  | .remark text => skipped text.toList = true
  | .header kind => isKey kind = true
  | .bare key _ | .quoted key _ => isKey key = true ∧ key ≠ "group"

/-- What an item is read as. -/
def Item.entry (isList : String → Bool) : Item → Option Entry
  | .remark _ => none
  | .header kind => some (.header kind)
  | .bare key text => some (.directive ⟨key, valuesOf isList key (unquote text.toList)⟩)
  | .quoted key text => some (.directive ⟨key, valuesOf isList key text.toList⟩)

/-- Each line with an end of its own. -/
def unlines (lines : List String) : String := "\n".intercalate lines ++ "\n"

theorem linesOf_unlines {lines : List String} (hne : lines ≠ [])
    (hwhole : ∀ line ∈ lines, '\n' ∉ line.toList) :
    linesOf (unlines lines) = lines.map String.toList ++ [[]] := by
  have htoList : (unlines lines).toList = ['\n'].intercalate (lines.map String.toList ++ [[]]) := by
    rw [intercalate_concat_nil (by simpa using hne), unlines, String.toList_append,
      String.toList_intercalate]
    rfl
  rw [linesOf, htoList]
  refine splitOn_intercalate '\n' (fun l hl => ?_) (by simp)
  rcases mem_append.mp hl with hl | hl
  · obtain ⟨line, hline, rfl⟩ := mem_map.mp hl
    exact hwhole line hline
  · obtain rfl := mem_singleton.mp hl
    exact not_mem_nil

section Reading

theorem isKeyChar_of_mem (hkey : isKey key = true) (hc : c ∈ key.toList) :
    isKeyChar c = true := by
  rw [isKey, Bool.and_eq_true, all_eq_true] at hkey
  exact hkey.2 c hc

theorem not_mem_key (hkey : isKey key = true) (hc : isKeyChar c = false) :
    c ∉ key.toList := fun hmem => by
  rw [isKeyChar_of_mem hkey hmem] at hc
  cases hc

theorem assign_toList (key value : String) :
    (assign key value).toList = (key.toList ++ [' ']) ++ '=' :: ' ' :: value.toList := by
  simp [assign]

theorem not_mem_assign {value : String} (hkey : isKey key = true)
    (hc : isKeyChar c = false) (hsep : c ≠ ' ' ∧ c ≠ '=') (hvalue : c ∉ value.toList) :
    c ∉ (assign key value).toList := by
  rw [assign_toList]
  simp only [mem_append, mem_cons, not_mem_nil, or_false, not_or]
  exact ⟨⟨not_mem_key hkey hc, hsep.1⟩, hsep.2, hsep.1, hvalue⟩

theorem dropSpaceEnd_concat (cs : List Char) : dropSpaceEnd (cs ++ [' ']) = cs := by
  rw [dropSpaceEnd, reverse_append]
  exact reverse_reverse cs

/-- A directive's line is no comment. -/
theorem skipped_assign (hkey : isKey key = true) (value : String) :
    skipped (assign key value).toList = false := by
  rw [assign_toList, skipped]
  cases hchars : key.toList with
  | nil => simp [isKey, hchars] at hkey
  | cons c cs =>
    have hc := isKeyChar_of_mem hkey (hchars ▸ mem_cons_self (a := c))
    have hwhite : c.isWhitespace = false := by
      by_contra h
      simp only [Char.isWhitespace, Bool.not_eq_false, Bool.or_eq_true, decide_eq_true_eq] at h
      rcases h with ((rfl | rfl) | rfl) | rfl <;> exact absurd hc (by decide)
    rw [cons_append, cons_append, dropWhile_cons_of_neg (by simp [hwhite])]
    exact beq_eq_false_iff_ne.mpr fun h => by
      rw [h] at hc
      exact absurd hc (by decide)

/-- **A directive's line is read as its key and its value.** -/
theorem parseLine_assign (hkey : isKey key = true) (value : String) :
    parseLine isList (assign key value).toList =
      some (if key = "group" then .header (String.ofList (unquote value.toList))
        else .directive ⟨key, valuesOf isList key (unquote value.toList)⟩) := by
  have hbefore : ∀ c ∈ key.toList ++ [' '], decide (c ≠ '=') = true := by
    intro c hc
    rw [decide_eq_true_eq]
    rcases mem_append.mp hc with hc | hc
    · exact fun h => not_mem_key hkey (by decide) (h ▸ hc)
    · rw [mem_singleton.mp hc]
      decide
  rw [parseLine, assign_toList, dropWhile_append_of_pos hbefore, takeWhile_append_of_pos hbefore,
    dropWhile_cons_of_neg (by decide), takeWhile_cons_of_neg (by decide), append_nil,
    dropSpaceEnd_concat, String.ofList_toList]
  rfl

theorem unquote_key (hkey : isKey key = true) : unquote key.toList = key.toList :=
  unquote_eq_self_iff.mpr (not_quoted_of_not_mem (not_mem_key hkey (by decide)))

/-- A line as it is written is skipped, or read. -/
theorem read_line (i : Item) (hproper : i.Proper) :
    (skipped i.line.toList = true ∧ i.entry isList = none) ∨
      skipped i.line.toList = false ∧ ∃ e, parseLine isList i.line.toList = some e ∧
        i.entry isList = some e := by
  cases i with
  | remark text => exact .inl ⟨hproper, rfl⟩
  | header kind =>
    refine .inr ⟨skipped_assign (by decide) kind, _, parseLine_assign (by decide) kind, ?_⟩
    rw [if_pos rfl, unquote_key hproper, String.ofList_toList]
    rfl
  | bare key text =>
    refine .inr ⟨skipped_assign hproper.1 text, _, parseLine_assign hproper.1 text, ?_⟩
    rw [if_neg hproper.2]
    rfl
  | quoted key text =>
    refine .inr ⟨skipped_assign hproper.1 _, _, parseLine_assign hproper.1 _, ?_⟩
    rw [if_neg hproper.2, String.toList_ofList, unquote_quote]
    rfl

theorem readLines (items : List Item) (hproper : ∀ i ∈ items, i.Proper) :
    ((items.map fun i => i.line.toList).filter fun line => !skipped line).mapM
      (parseLine isList) = some (items.filterMap (Item.entry isList)) := by
  induction items with
  | nil => rfl
  | cons i items ih =>
    have hrest := ih fun j hj => hproper j (mem_cons_of_mem _ hj)
    rcases read_line i (hproper i mem_cons_self) with
      ⟨hskip, hnone⟩ | ⟨hread, e, hparse, hsome⟩
    · rw [map_cons, filter_cons_of_neg (by simp [hskip]), hrest,
        filterMap_cons_none hnone]
    · rw [map_cons, filter_cons_of_pos (by simp [hread]), mapM_cons, hparse, hrest,
        filterMap_cons_some hsome]
      rfl

/-- **A file whose lines are whole is read as it is written.** -/
theorem readEntries_unlines {items : List Item} (hne : items ≠ [])
    (hproper : ∀ i ∈ items, i.Proper) (hwhole : ∀ i ∈ items, '\n' ∉ i.line.toList) :
    readEntries isList (unlines (items.map Item.line)) =
      some (items.filterMap (Item.entry isList)) := by
  have hlines : linesOf (unlines (items.map Item.line)) =
      (items.map fun i => i.line.toList) ++ [[]] := by
    rw [linesOf_unlines (by simpa using hne)]
    · rw [map_map]
      rfl
    · intro line hline
      obtain ⟨i, hi, rfl⟩ := mem_map.mp hline
      exact hwhole i hi
  rw [readEntries, hlines, filter_append, ← readLines items hproper]
  congr 1
  exact append_nil _

end Reading

/-! ## Words in a line -/

/-- Whether a line has a word in it, in any letter case. -/
def Mentions (word line : List Char) : Prop := word <:+: line.map Char.toLower

instance (word line : List Char) : Decidable (Mentions word line) :=
  inferInstanceAs (Decidable (word <:+: _))

section

variable (hword : word ≠ [])
include hword

/-- **A character that is not in the word separates.** -/
theorem mentions_append_cons {a b : List Char} (hc : c.toLower ∉ word) :
    Mentions word (a ++ c :: b) ↔ Mentions word a ∨ Mentions word b := by
  rw [Mentions, Mentions, Mentions, map_append, map_cons]
  constructor
  · intro h
    rcases infix_append_iff.mp h with h | h | ⟨l₁, l₂, rfl, h₁, h₂⟩
    · exact .inl h
    · rcases infix_cons_iff.mp h with h | h
      · cases word with
        | nil => exact absurd rfl hword
        | cons d word =>
          obtain ⟨rfl, -⟩ := cons_prefix_cons.mp h
          exact absurd mem_cons_self hc
      · exact .inr h
    · cases l₂ with
      | nil =>
        rw [append_nil]
        exact .inl h₁.isInfix
      | cons d l₂ =>
        obtain ⟨rfl, -⟩ := cons_prefix_cons.mp h₂
        exact absurd (mem_append_right l₁ mem_cons_self) hc
  · rintro (h | h)
    · exact h.trans (prefix_append _ _).isInfix
    · exact h.trans ((suffix_cons _ _).trans (suffix_append _ _)).isInfix

theorem mentions_cons {b : List Char} (hc : c.toLower ∉ word) :
    Mentions word (c :: b) ↔ Mentions word b := by
  have h := mentions_append_cons (a := []) (b := b) hword hc
  rw [nil_append] at h
  rw [h, or_iff_right]
  exact fun hnil => hword (infix_nil.mp hnil)

theorem mentions_intercalate (hc : c.toLower ∉ word) {pieces : List (List Char)} :
    Mentions word ([c].intercalate pieces) ↔ ∃ piece ∈ pieces, Mentions word piece := by
  induction pieces with
  | nil => simpa [Mentions] using hword
  | cons p ps ih =>
    cases ps with
    | nil => simp
    | cons q qs =>
      rw [intercalate_cons_cons, append_assoc, singleton_append,
        mentions_append_cons hword hc, ih, exists_mem_cons_iff (a := p)]

theorem mentions_assign (hspace : ' ' ∉ word) (heq : '=' ∉ word) :
    Mentions word (assign key value).toList ↔
      Mentions word key.toList ∨ Mentions word value.toList := by
  have hnil : ¬ Mentions word [] := fun h => hword (infix_nil.mp h)
  have hspace' : Char.toLower ' ' ∉ word := hspace
  have heq' : Char.toLower '=' ∉ word := heq
  rw [assign_toList, mentions_append_cons hword heq', mentions_append_cons hword hspace',
    mentions_cons hword hspace']
  exact or_congr_left (or_iff_left hnil)

end

/-- A line without one of the word's letters. -/
theorem not_mentions_of_not_mem {line : List Char} (hc : c ∈ word)
    (hline : ∀ d ∈ line, d.toLower ≠ c) : ¬ Mentions word line := fun h => by
  obtain ⟨d, hd, rfl⟩ := mem_map.mp (h.subset hc)
  exact hline d hd rfl

end Directives
