import Jkannel.DataModel.AuditChain
import Jkannel.Lib.Joined
import Mathlib.Data.Bool.AllAny
import Mathlib.Data.List.Induction

/-!
# An exported audit chain

An exported chain is verified without the database: each row carries the hash of the row before it
and its own, which is taken over both that hash and the row's fields, joined with the record
separator.

* `buildChain` signs rows and `verifyChain` walks signed rows, both over `rowHash`;
  `rowHash_exported` is that this is the hash the database signs with, and `verifyChain_exported`
  that the two verifiers agree.
* `TamperEvident` is the promise: whoever keeps the last hash of a chain and changes anything else
  is found out, as long as no two of the texts hashed have one digest.
* `tampering_detected_iff`: that is so exactly when no field of a row holds the separator.  Where one
  does, its boundary can be moved (`tampering_undetected`).
-/

namespace Jkannel.DataModel.ExportedChain

open List
open AuditChain (Setting)

/-! ## Signing and verifying -/

def RS : String := String.singleton '\x1e'

/-- The canonical field set of one audit row, as strings (nulls are empty). -/
structure AuditChainRow where
  tenantId : String
  actorId : String
  action : String
  entityType : String
  entityId : String
  oldValue : String
  newValue : String
  reason : String
  createdAt : String

def AuditChainRow.fields (row : AuditChainRow) : List String :=
  [row.tenantId, row.actorId, row.action, row.entityType, row.entityId, row.oldValue, row.newValue,
    row.reason, row.createdAt]

/-- Canonical, delimiter-joined serialization of a row (excludes the previous hash). -/
def canonicalize (row : AuditChainRow) : String := RS.intercalate row.fields

/-- What is hashed for a row. -/
def hashed (prevHash : Option String) (row : AuditChainRow) : String :=
  prevHash.getD "" ++ RS ++ canonicalize row

/-- The digest of a row after the one before. -/
def rowHash (env : Setting) (prevHash : Option String) (row : AuditChainRow) : String :=
  env.sha256 (hashed prevHash row)

/-- One link of a materialized chain: the row plus its stored hashes. -/
structure SignedRow extends AuditChainRow where
  prevHash : Option String
  rowHash : String

/-- What `verifyChain` answers. -/
structure ChainVerification where
  ok : Bool
  checkedRows : Nat
  /-- The index of the first broken link, or -1 when intact. -/
  firstBrokenIndex : Int
  reason : Option String

/-- The loop of `verifyChain` from row `i` on. -/
def verifyFrom (env : Setting) : List SignedRow → Option String → Nat → ChainVerification
  | [], _, i => ⟨true, i, -1, none⟩
  | r :: rest, expectedPrev, i =>
    if expectedPrev ≠ r.prevHash then ⟨false, i + 1, i, some "prev_hash mismatch"⟩
    else if rowHash env r.prevHash r.toAuditChainRow ≠ r.rowHash then
      ⟨false, i + 1, i, some "row_hash mismatch"⟩
    else verifyFrom env rest (some r.rowHash) (i + 1)

/-- Walks a materialized chain in order and reports the first broken link. -/
def verifyChain (env : Setting) (rows : List SignedRow) : ChainVerification :=
  verifyFrom env rows none 0

/-- The loop of `buildChain` after a row with the hash `prev`. -/
def buildFrom (env : Setting) : Option String → List AuditChainRow → List SignedRow
  | _, [] => []
  | prev, row :: rest =>
    ⟨row, prev, rowHash env prev row⟩ :: buildFrom env (some (rowHash env prev row)) rest

/-- Builds a signed chain from ordered rows. -/
def buildChain (env : Setting) (rows : List AuditChainRow) : List SignedRow :=
  buildFrom env none rows

/-! ## The hash of the database -/

/-- The canonical fields of a row of the database. -/
def exported (row : AuditChain.AuditRow) : AuditChainRow where
  tenantId := toString row.tenantId
  actorId := row.actorId
  action := row.action
  entityType := row.entityType
  entityId := row.entityId.getD ""
  oldValue := row.oldValue.getD ""
  newValue := row.newValue.getD ""
  reason := row.reason.getD ""
  createdAt := AuditChain.toChar row.createdAt

theorem hashed_eq_intercalate (prevHash : Option String) (row : AuditChainRow) :
    hashed prevHash row = RS.intercalate (prevHash.getD "" :: row.fields) := by
  rw [AuditChainRow.fields, String.intercalate_cons_cons]
  rfl

/-- **The hash of an exported row is the one the database signs it with.** -/
theorem rowHash_exported (env : Setting) (prev : Option String) (row : AuditChain.AuditRow) :
    rowHash env prev (exported row) = AuditChain.data_model_audit_row_hash env prev row := by
  rw [rowHash, hashed_eq_intercalate]
  rfl

/-- A signed row of the database with the hashes it stores. -/
def exportedSigned (row : AuditChain.AuditRow) : SignedRow where
  toAuditChainRow := exported row
  prevHash := row.prevHash
  rowHash := row.rowHash.getD ""

/-- The two loops agree, up to how they name a row. -/
theorem verifyFrom_exported {env : Setting} {rows : List AuditChain.AuditRow}
    (hsigned : ∀ r ∈ rows, r.rowHash.isSome = true) (expected : Option String) (n : Nat) :
    let offline := verifyFrom env (rows.map exportedSigned) expected n
    let stored := AuditChain.verifyLoop env rows expected n
    offline.ok = stored.ok ∧ offline.checkedRows = stored.checkedRows ∧
      offline.reason = stored.reason := by
  induction rows generalizing expected n with
  | nil => exact ⟨rfl, rfl, rfl⟩
  | cons r rest ih =>
    obtain ⟨hash, hhash⟩ := Option.isSome_iff_exists.mp (hsigned r mem_cons_self)
    have hrest := ih (fun q hq => hsigned q (mem_cons_of_mem _ hq)) (some hash) (n + 1)
    simp only [map_cons, verifyFrom, AuditChain.verifyLoop, exportedSigned, rowHash_exported,
      hhash, Option.getD_some, ne_eq, Option.some.injEq]
    split
    · exact ⟨rfl, rfl, rfl⟩
    · split
      · exact ⟨rfl, rfl, rfl⟩
      · exact hrest

/-- **The verifier of exports agrees with the database's**, on any table, tampered with or not. -/
theorem verifyChain_exported (env : Setting) (audit_log : List AuditChain.AuditRow) (tenant : Nat) :
    let rows := Chain.ascending AuditChain.AuditRow.place (AuditChain.signedRows tenant audit_log)
    let offline := verifyChain env (rows.map exportedSigned)
    let stored := AuditChain.data_model_verify_audit_chain env audit_log tenant
    offline.ok = stored.ok ∧ offline.checkedRows = stored.checkedRows ∧
      offline.reason = stored.reason :=
  verifyFrom_exported (fun _ hr => (of_decide_eq_true (mem_filter.mp
    ((mem_insertionSort _).mp hr)).2).2) none 0

/-! ## What is promised -/

/-- The digest of a hash is sixty-four hexadecimal digits. -/
structure HexDigest (env : Setting) : Prop where
  length_eq : ∀ text, (env.sha256 text).length = 64
  digits : ∀ text, ∀ c ∈ (env.sha256 text).toList, c ∈ "0123456789abcdef".toList

/-- Different ones of the texts have different digests. -/
def CollisionFree (env : Setting) (texts : List String) : Prop :=
  ∀ a ∈ texts, ∀ b ∈ texts, env.sha256 a = env.sha256 b → a = b

/-- What is hashed when a signed row is verified. -/
def SignedRow.text (r : SignedRow) : String := hashed r.prevHash r.toAuditChainRow

/-- Rows that end in the hash of the genuine last row and are not the chain do not verify, and no
other row has the canonical form of a row of the chain. -/
def TamperEvident (env : Setting) (rows : List AuditChainRow) : Prop :=
  (∀ forged : List SignedRow,
    CollisionFree env ((buildChain env rows ++ forged).map SignedRow.text) →
    forged.getLast?.map SignedRow.rowHash = (buildChain env rows).getLast?.map SignedRow.rowHash →
    forged ≠ buildChain env rows → (verifyChain env forged).ok = false) ∧
  ∀ row ∈ rows, ∀ other, canonicalize other = canonicalize row → other = row

/-- No field holds the separator. -/
def Delimited (row : AuditChainRow) : Prop := ∀ field ∈ row.fields, '\x1e' ∉ field.toList

/-! ## Chains that verify -/

variable {env : Setting}

/-- A row carries its own hash. -/
def Genuine (env : Setting) (r : SignedRow) : Prop :=
  rowHash env r.prevHash r.toAuditChainRow = r.rowHash

/-- The rows name each the hash of the one before it, and carry their own. -/
def Sound (env : Setting) (start : Option String) (rows : List SignedRow) : Prop :=
  Chain.Linked SignedRow.prevHash (fun r => some r.rowHash) start rows ∧ ∀ r ∈ rows, Genuine env r

theorem sound_cons {start : Option String} {r : SignedRow} {rest : List SignedRow} :
    Sound env start (r :: rest) ↔
      r.prevHash = start ∧ Genuine env r ∧ Sound env (some r.rowHash) rest := by
  rw [Sound, Sound, Chain.Linked, forall_mem_cons]
  exact ⟨fun h => ⟨h.1.1, h.2.1, h.1.2, h.2.2⟩, fun h => ⟨⟨h.1, h.2.2.1⟩, h.2.1, h.2.2.2⟩⟩

variable {rows : List SignedRow} {row : AuditChainRow} {other : AuditChainRow}

theorem verifyFrom_ok_iff {expectedPrev : Option String} {i : Nat} :
    (verifyFrom env rows expectedPrev i).ok = true ↔ Sound env expectedPrev rows := by
  induction rows generalizing expectedPrev i with
  | nil => simp [verifyFrom, Sound, Chain.Linked]
  | cons r rest ih =>
    rw [verifyFrom, sound_cons]
    split
    · rename_i hprev
      exact ⟨fun h => (by cases h), fun h => absurd h.1.symm hprev⟩
    · rename_i hprev
      split
      · rename_i hhash
        exact ⟨fun h => (by cases h), fun h => absurd h.2.1 hhash⟩
      · rename_i hhash
        rw [ih]
        exact ⟨fun h => ⟨(not_not.mp hprev).symm, not_not.mp hhash, h⟩, fun h => h.2.2⟩

theorem verifyChain_ok_iff : (verifyChain env rows).ok = true ↔ Sound env none rows :=
  verifyFrom_ok_iff

theorem buildFrom_sound (prev : Option String) (rows : List AuditChainRow) :
    Sound env prev (buildFrom env prev rows) := by
  induction rows generalizing prev with
  | nil => exact ⟨trivial, by simp [buildFrom]⟩
  | cons row rest ih => exact sound_cons.mpr ⟨rfl, rfl, ih _⟩

theorem map_buildFrom (env : Setting) (prev : Option String) (rows : List AuditChainRow) :
    (buildFrom env prev rows).map SignedRow.toAuditChainRow = rows := by
  induction rows generalizing prev with
  | nil => rfl
  | cons row rest ih => rw [buildFrom, map_cons, ih]

/-! ## A chain is the only one with its last hash -/

theorem fields_injective (h : other.fields = row.fields) : other = row := by
  cases row
  cases other
  simpa [AuditChainRow.fields] using h

theorem canonicalize_injective (hrow : Delimited row)
    (h : canonicalize other = canonicalize row) : other = row :=
  fields_injective (Joined.text_eq_of_join_eq rfl hrow h)

theorem HexDigest.delimited (hex : HexDigest env) (text : String) :
    '\x1e' ∉ (env.sha256 text).toList :=
  fun h => absurd (hex.digits text _ h) (by decide)

theorem HexDigest.ne_empty (hex : HexDigest env) (text : String) : env.sha256 text ≠ "" := by
  intro h
  have := hex.length_eq text
  rw [h] at this
  exact absurd this (by decide)

/-- The hash that the next row of a chain would name. -/
def nextPrev (rows : List SignedRow) : Option String :=
  Chain.tip (fun r : SignedRow => some r.rowHash) none rows

theorem nextPrev_concat (rows : List SignedRow) (r : SignedRow) :
    nextPrev (rows ++ [r]) = some r.rowHash := by
  rw [nextPrev, Chain.tip, getLast?_concat]

theorem nextPrev_eq (rows : List SignedRow) :
    nextPrev rows = rows.getLast?.map SignedRow.rowHash := by
  rw [nextPrev, Chain.tip]
  cases rows.getLast? <;> rfl

theorem sound_concat {r : SignedRow} :
    Sound env none (rows ++ [r]) ↔
      Sound env none rows ∧ r.prevHash = nextPrev rows ∧ Genuine env r := by
  rw [Sound, Sound, Chain.linked_append, forall_mem_append, forall_mem_singleton]
  exact ⟨fun h => ⟨⟨h.1.1, h.2.1⟩, h.1.2, h.2.2⟩, fun h => ⟨⟨h.1.1, h.2.1⟩, h.1.2, h.2.2⟩⟩

/-- What the next row names is nothing, or a digest. -/
theorem nextPrev_cases (h : Sound env none rows) :
    nextPrev rows = none ∨ ∃ text, nextPrev rows = some (env.sha256 text) := by
  rcases eq_nil_or_concat' rows with rfl | ⟨rest, r, rfl⟩
  · exact .inl rfl
  · rw [nextPrev_concat]
    exact .inr ⟨_, congrArg some (sound_concat.mp h).2.2.symm⟩

theorem nextPrev_delimited (hex : HexDigest env) (h : Sound env none rows) :
    '\x1e' ∉ ((nextPrev rows).getD "").toList := by
  rcases nextPrev_cases h with hnone | ⟨text, hsome⟩
  · rw [hnone]
    decide
  · rw [hsome]
    exact hex.delimited text

theorem nextPrev_injective (hex : HexDigest env) {rows' : List SignedRow} (h : Sound env none rows)
    (h' : Sound env none rows') (heq : (nextPrev rows').getD "" = (nextPrev rows).getD "") :
    nextPrev rows' = nextPrev rows := by
  rcases nextPrev_cases h with hnone | ⟨text, hsome⟩ <;>
    rcases nextPrev_cases h' with hnone' | ⟨text', hsome'⟩
  · rw [hnone, hnone']
  · rw [hnone, hsome'] at heq
    exact absurd heq (hex.ne_empty text')
  · rw [hsome, hnone'] at heq
    exact absurd heq.symm (hex.ne_empty text)
  · rw [hsome, hsome'] at heq ⊢
    exact congrArg some heq

/-- **Two sound chains that end in one hash are the same**, if the fields of one are delimited. -/
theorem eq_of_nextPrev_eq (hex : HexDigest env) (chain : List SignedRow) :
    ∀ forged : List SignedRow, Sound env none chain → Sound env none forged →
      (∀ r ∈ chain, Delimited r.toAuditChainRow) →
      CollisionFree env ((chain ++ forged).map SignedRow.text) →
      nextPrev forged = nextPrev chain → forged = chain := by
  induction chain using List.reverseRecOn with
  | nil =>
    intro forged _ _ _ _ hlast
    rcases eq_nil_or_concat' forged with rfl | ⟨rest, f, rfl⟩
    · rfl
    · rw [nextPrev_concat] at hlast
      cases hlast
  | append_singleton chain g ih =>
    intro forged hchain hforged hdelimited hfree hlast
    rw [nextPrev_concat] at hlast
    rcases eq_nil_or_concat' forged with rfl | ⟨rest, f, rfl⟩
    · cases hlast
    rw [nextPrev_concat] at hlast
    obtain ⟨hchain, hgprev, hg⟩ := sound_concat.mp hchain
    obtain ⟨hforged, hfprev, hf⟩ := sound_concat.mp hforged
    -- the two last rows have one hash, so what was hashed for them is one text
    have htext : f.text = g.text := by
      refine hfree _ ?_ _ ?_ ?_
      · exact mem_map_of_mem (by simp)
      · exact mem_map_of_mem (by simp)
      · exact hf.trans ((Option.some.inj hlast).trans hg.symm)
    -- and the fields are read off it
    have hparts : f.prevHash.getD "" :: f.fields = g.prevHash.getD "" :: g.fields := by
      refine Joined.text_eq_of_join_eq (x := '\x1e') rfl ?_ ?_
      · rw [forall_mem_cons, hgprev]
        exact ⟨nextPrev_delimited hex hchain, hdelimited g (by simp)⟩
      · rw [SignedRow.text, SignedRow.text, hashed_eq_intercalate, hashed_eq_intercalate] at htext
        exact htext
    obtain ⟨hprev, hfields⟩ := List.cons.inj hparts
    rw [hfprev, hgprev] at hprev
    have hnext := nextPrev_injective hex hchain hforged hprev
    have hrow : f = g := by
      have hto := fields_injective hfields
      have hp : f.prevHash = g.prevHash := by rw [hfprev, hgprev, hnext]
      have hh := Option.some.inj hlast
      cases f
      cases g
      simp only at hto hp hh
      rw [hto, hp, hh]
    have hrest : rest = chain := by
      refine ih rest hchain hforged (fun r hr => hdelimited r (mem_append_left _ hr)) ?_ hnext
      refine fun a ha b hb => hfree a ?_ b ?_
      · simp only [map_append, mem_append] at ha ⊢
        exact ha.imp .inl .inl
      · simp only [map_append, mem_append] at hb ⊢
        exact hb.imp .inl .inl
    rw [hrest, hrow]

/-! ## Moving a boundary -/

/-- A row with a separator in a field is not the only one with its canonical form. -/
theorem exists_other (h : ¬ Delimited row) :
    ∃ other, other ≠ row ∧ canonicalize other = canonicalize row := by
  simp only [Delimited, not_forall, not_not] at h
  obtain ⟨field, hfield, hsep⟩ := h
  obtain ⟨fields', hlength, hne, hjoin⟩ := Joined.text_exists_ne_of_mem
    (show 2 ≤ row.fields.length from Nat.le_add_left 2 7) hfield hsep
  have hnine : fields'.length = 9 := hlength
  obtain ⟨a, b, c, d, e, f, g, h, i, rfl⟩ : ∃ a b c d e f g h i, fields' = [a, b, c, d, e, f, g, h, i] := by
    match fields', hnine with
    | [a, b, c, d, e, f, g, h, i], _ => exact ⟨a, b, c, d, e, f, g, h, i, rfl⟩
  refine ⟨⟨a, b, c, d, e, f, g, h, i⟩, ?_, hjoin⟩
  rintro rfl
  exact hne rfl

/-- Rows with the same canonical forms are signed with the same hashes. -/
theorem buildFrom_congr (env : Setting) {rows rows' : List AuditChainRow}
    (h : rows'.map canonicalize = rows.map canonicalize) (prev : Option String) :
    (buildFrom env prev rows').map SignedRow.text = (buildFrom env prev rows).map SignedRow.text ∧
      (buildFrom env prev rows').map SignedRow.rowHash =
        (buildFrom env prev rows).map SignedRow.rowHash := by
  induction rows generalizing rows' prev with
  | nil =>
    rw [map_eq_nil_iff.mp h]
    exact ⟨rfl, rfl⟩
  | cons row rest ih =>
    obtain ⟨row', rest', rfl, hrow, hrest⟩ := map_eq_cons_iff.mp h
    have htext : hashed prev row' = hashed prev row := by rw [hashed, hrow, hashed]
    have hhash : rowHash env prev row' = rowHash env prev row := by rw [rowHash, htext, rowHash]
    obtain ⟨htexts, hhashes⟩ := ih hrest (some (rowHash env prev row))
    constructor
    · rw [buildFrom, buildFrom, map_cons, map_cons, hhash, htexts]
      exact congrArg (· :: _) htext
    · rw [buildFrom, buildFrom, map_cons, map_cons, hhash, hhashes]

/-- **Tampering is detected exactly when no field of a row holds the separator.** -/
theorem tampering_detected_iff (env : Setting) (hex : HexDigest env) (rows : List AuditChainRow) :
    TamperEvident env rows ↔ ∀ row ∈ rows, Delimited row := by
  constructor
  · intro h row hrow
    by_contra hsep
    obtain ⟨other, hne, hcanon⟩ := exists_other hsep
    exact hne (h.2 row hrow other hcanon)
  · intro hdelimited
    refine ⟨fun forged hfree hlast hne => ?_, fun row hrow other hcanon =>
      canonicalize_injective (hdelimited row hrow) hcanon⟩
    rw [Bool.eq_false_iff]
    intro hok
    refine hne (eq_of_nextPrev_eq hex _ forged (buildFrom_sound none rows)
      (verifyChain_ok_iff.mp hok) ?_ hfree ?_)
    · intro r hr
      exact hdelimited _ (map_buildFrom env none rows ▸ mem_map_of_mem hr)
    · rw [nextPrev_eq, nextPrev_eq, hlast]

/-! ## Two chains -/

def logged (actorId action : String) : AuditChainRow where
  tenantId := "1"
  actorId := actorId
  action := action
  entityType := "thing"
  entityId := "t1"
  oldValue := ""
  newValue := "\x7b\"a\": 1\x7d"
  reason := ""
  createdAt := "2026-07-10T12:00:00.000000Z"

def firstDigest : String := "dd87537bf991b9f007772f45260a6ede5b1d549c448a343393b12d04e0a83772"

def secondDigest : String := "8bd45247868cfe0a59bbfab85b8502f84faa0ab95b6748ef25cf55840c5dd279"

def shiftedDigest : String := "64f661b77efb5d80297bfbb7292f0423fa8cb4ba7b4bfde8b2bc52670c49b8c6"

/-- SHA-256 on the texts that are hashed below. -/
def recorded : Setting where
  sha256 text :=
    if text = hashed none (logged "u1" "a") then firstDigest
    else if text = hashed (some firstDigest) (logged "u1" "b") then secondDigest
    else shiftedDigest

theorem recorded_hex : HexDigest recorded where
  length_eq text := by
    simp only [recorded]
    split
    · decide
    · split <;> decide
  digits text := by
    simp only [recorded]
    split
    · exact all_iff_forall_prop.mp (by decide)
    · split
      all_goals exact all_iff_forall_prop.mp (by decide)

theorem tampering_detected_iff_logged :
    TamperEvident recorded [logged "u1" "a", logged "u1" "b"] :=
  (tampering_detected_iff recorded recorded_hex [logged "u1" "a", logged "u1" "b"]).mpr
    (forall_mem_cons.mpr ⟨all_iff_forall_prop.mp (by decide),
      forall_mem_singleton.mpr (all_iff_forall_prop.mp (by decide))⟩)

/-- An action that holds the separator: `u1` can be made out to have had a longer name, and to have
done something else. -/
theorem tampering_undetected : ¬ TamperEvident recorded [logged "u1" "a\x1eb"] := by
  intro h
  have hmap : [logged "u1\x1ea" "b"].map canonicalize = [logged "u1" "a\x1eb"].map canonicalize := by
    decide +kernel
  obtain ⟨htexts, hhashes⟩ := buildFrom_congr recorded hmap none
  have hok : (verifyChain recorded (buildChain recorded [logged "u1\x1ea" "b"])).ok = true :=
    verifyChain_ok_iff.mpr (buildFrom_sound none _)
  have hne : buildChain recorded [logged "u1\x1ea" "b"] ≠
      buildChain recorded [logged "u1" "a\x1eb"] := by
    intro heq
    have := congrArg (List.map fun r => r.actorId) heq
    exact absurd this (by decide)
  refine absurd hok (Bool.eq_false_iff.mp (h.1 _ ?_ ?_ hne))
  · -- only one text is hashed
    intro a ha b hb _
    rw [map_append, buildChain, buildChain, htexts] at ha hb
    have hone : ∀ c ∈ [hashed none (logged "u1" "a\x1eb")] ++ [hashed none (logged "u1" "a\x1eb")],
        c = hashed none (logged "u1" "a\x1eb") := by simp
    rw [hone a ha, hone b hb]
  · rw [← getLast?_map, ← getLast?_map]
    exact congrArg List.getLast? hhashes

end Jkannel.DataModel.ExportedChain
