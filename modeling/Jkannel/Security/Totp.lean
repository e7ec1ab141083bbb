import Jkannel.Lib.BitStream
import Mathlib.Data.List.Forall2

/-!
# Secrets in base 32

The secret of an authenticator is shown in letters and digits.  Both directions shift bits through
an accumulator that is never masked, so that all but its lowest bits are lost at 32.

* `base32Encode` and `base32Decode` are the two, over what a shift keeps of the accumulator.
* `stream_encode` and `stream_decode` say what goes through: the bits that come out, with those
  that are still in the accumulator, are the bits that went in.
* `base32_round_trip` is that a secret comes back, however it is spelt, and that the accumulator
  could as well keep everything.
-/

namespace Jkannel.Security.Totp

open List
open BitStream

def BASE32_ALPHABET : List Char := "ABCDEFGHIJKLMNOPQRSTUVWXYZ234567".toList

/-- `toUpperCase` by the character, of which the plain letters are known. -/
structure UpperCase where
  upper : Char → List Char
  ascii : ∀ c, c.toNat < 128 → upper c = [c.toUpper]

/-- The plain letters only. -/
def UpperCase.plainLetters : UpperCase := ⟨fun c => [c.toUpper], fun _ _ => rfl⟩

/-- What a shift keeps of the accumulator: 32 bits of it. -/
def wrap (value : ℕ) : ℕ := value % 2 ^ 32

/-- The symbols that are complete, and the number of bits that are left. -/
def drain (value bits : ℕ) : List ℕ × ℕ :=
  if 5 ≤ bits then
    (((value >>> (bits - 5)) &&& 31) :: (drain value (bits - 5)).1, (drain value (bits - 5)).2)
  else ([], bits)

def encodeLoop (keep : ℕ → ℕ) : List UInt8 → ℕ → ℕ → List ℕ
  | [], value, bits => if 0 < bits then [keep (value <<< (5 - bits)) &&& 31] else []
  | byte :: buffer, value, bits =>
    let value := keep (value <<< 8) ||| byte.toNat
    (drain value (bits + 8)).1 ++ encodeLoop keep buffer value (drain value (bits + 8)).2

/-- A secret as it is shown. -/
def base32Encode (keep : ℕ → ℕ) (buffer : List UInt8) : List Char :=
  (encodeLoop keep buffer 0 0).map fun i => BASE32_ALPHABET.getD i ' '

def decodeLoop (keep : ℕ → ℕ) : List ℕ → ℕ → ℕ → List UInt8
  | [], _, _ => []
  | symbol :: secret, value, bits =>
    let value := keep (value <<< 5) ||| symbol
    if 8 ≤ bits + 5 then
      UInt8.ofNat ((value >>> (bits + 5 - 8)) &&& 0xff) :: decodeLoop keep secret value (bits + 5 - 8)
    else decodeLoop keep secret value (bits + 5)

/-- The characters that the pattern lets stand. -/
def isPlain (c : Char) : Bool := ('A' ≤ c ∧ c ≤ 'Z') ∨ ('2' ≤ c ∧ c ≤ '7')

/-- `toUpperCase().replace(/[^A-Z2-7]/g, '')`. -/
def plain (text : UpperCase) (secret : List Char) : List Char :=
  (secret.flatMap text.upper).filter isPlain

/-- The secret read back. -/
def base32Decode (text : UpperCase) (keep : ℕ → ℕ) (secret : List Char) : List UInt8 :=
  decodeLoop keep ((plain text secret).map fun c => BASE32_ALPHABET.idxOf c) 0 0

/-- A secret without its spaces and its padding, in the letters of one case. -/
def canonical (text : UpperCase) (secret : List Char) : List Char :=
  (secret.filter fun c => c ≠ ' ' ∧ c ≠ '=').flatMap text.upper

/-! ## The accumulator -/

/-- An accumulator that keeps at least its 32 lowest bits. -/
def Keeps (keep : ℕ → ℕ) : Prop := ∀ value, ∀ i < 32, (keep value).testBit i = value.testBit i

theorem keeps_wrap : Keeps wrap := fun value i hi => by
  rw [wrap, Nat.testBit_mod_two_pow, decide_eq_true hi, Bool.true_and]

theorem keeps_id : Keeps id := fun _ _ _ => rfl

variable {keep : ℕ → ℕ} {value n : ℕ} {secret : List ℕ}

theorem bits_keep (hkeep : Keeps keep) {m d : ℕ} (hd : d < 2 ^ m) (hn : n + m ≤ 32) :
    bits (n + m) (keep (value <<< m) ||| d) = bits n value ++ bits m d := by
  rw [← bits_or hd]
  refine bits_congr fun i hi => ?_
  rw [Nat.testBit_or, Nat.testBit_or, hkeep _ i (hi.trans_le hn)]

theorem drain_spec (value n : ℕ) :
    bits n value = stream 5 (drain value n).1 ++ bits (drain value n).2 value ∧
      (drain value n).2 < 5 ∧ ∀ x ∈ (drain value n).1, x < 2 ^ 5 := by
  induction n using Nat.strongRecOn with
  | ind n ih =>
    rw [drain]
    split
    · next hn =>
      obtain ⟨hbits, hlt, hall⟩ := ih (n - 5) (by omega)
      have hsymbol : (value >>> (n - 5)) &&& 31 = (value >>> (n - 5)) % 2 ^ 5 :=
        Nat.and_two_pow_sub_one_eq_mod _ 5
      refine ⟨?_, hlt, forall_mem_cons.mpr ⟨?_, hall⟩⟩
      · rw [stream_cons, append_assoc, ← hbits, hsymbol, bits_mod, ← bits_add,
          Nat.add_sub_cancel' hn]
      · rw [hsymbol]
        exact Nat.mod_lt _ (by decide)
    · next hn => exact ⟨rfl, Nat.lt_of_not_le hn, fun x hx => by cases hx⟩

theorem and_ones (x n : ℕ) : bits n (x &&& 2 ^ n - 1) = bits n x := by
  rw [Nat.and_two_pow_sub_one_eq_mod, bits_mod]

/-- **Encoding** lets the bits of the bytes through, and zeros behind them. -/
theorem stream_encode (hkeep : Keeps keep) (buffer : List UInt8) (hn : n < 5) :
    ∃ k < 5, stream 5 (encodeLoop keep buffer value n) =
        bits n value ++ stream 8 (buffer.map UInt8.toNat) ++ List.replicate k false ∧
      ∀ x ∈ encodeLoop keep buffer value n, x < 2 ^ 5 := by
  induction buffer generalizing value n with
  | nil =>
    rw [encodeLoop]
    split
    · next hpos =>
      refine ⟨5 - n, by omega, ?_, fun x hx => ?_⟩
      · have hlow : bits (n + (5 - n)) (keep (value <<< (5 - n)) ||| 0) =
            bits n value ++ bits (5 - n) 0 := bits_keep hkeep (Nat.two_pow_pos _) (by omega)
        rw [Nat.add_sub_cancel' hn.le, Nat.or_zero, bits_zero] at hlow
        simp only [stream, flatMap_singleton, map_nil, flatMap_nil, append_nil]
        rw [← hlow]
        exact and_ones _ 5
      · rw [mem_singleton.mp hx]
        exact Nat.and_lt_two_pow _ (by decide : 31 < 2 ^ 5)
    · next hzero =>
      obtain rfl : n = 0 := Nat.eq_zero_of_not_pos hzero
      exact ⟨0, by decide, rfl, fun x hx => by cases hx⟩
  | cons byte buffer ih =>
    rw [encodeLoop]
    obtain ⟨hbits, hlt, hall⟩ := drain_spec (keep (value <<< 8) ||| byte.toNat) (n + 8)
    obtain ⟨k, hk, hstream, hrest⟩ := @ih (keep (value <<< 8) ||| byte.toNat) _ hlt
    rw [bits_keep hkeep byte.toNat_lt (by omega)] at hbits
    refine ⟨k, hk, ?_, forall_mem_append.mpr ⟨hall, hrest⟩⟩
    rw [stream, flatMap_append, ← stream, ← stream, hstream, map_cons, stream_cons,
      ← append_assoc, ← append_assoc, ← append_assoc, ← hbits]

/-- **Decoding** lets the bits of the symbols through, and keeps less than a byte of them. -/
theorem stream_decode (hkeep : Keeps keep) (hsecret : ∀ x ∈ secret, x < 2 ^ 5)
    (hn : n < 8) : ∃ rest : List Bool, rest.length < 8 ∧
      stream 8 ((decodeLoop keep secret value n).map UInt8.toNat) ++ rest =
        bits n value ++ stream 5 secret := by
  induction secret generalizing value n with
  | nil => exact ⟨bits n value, by simpa using hn, (append_nil _).symm⟩
  | cons symbol secret ih =>
    obtain ⟨hsymbol, hsecret⟩ := forall_mem_cons.mp hsecret
    have hbits : bits (n + 5) (keep (value <<< 5) ||| symbol) = bits n value ++ bits 5 symbol :=
      bits_keep hkeep hsymbol (by omega)
    rw [decodeLoop, stream_cons, ← append_assoc, ← hbits]
    generalize keep (value <<< 5) ||| symbol = value'
    split
    · next hfull =>
      obtain ⟨rest, hrest, hstream⟩ := @ih value' (n + 5 - 8) hsecret (by omega)
      refine ⟨rest, hrest, ?_⟩
      have hbyte : (UInt8.ofNat ((value' >>> (n + 5 - 8)) &&& 0xff)).toNat =
          (value' >>> (n + 5 - 8)) &&& 2 ^ 8 - 1 :=
        UInt8.toNat_ofNat_of_lt' (Nat.and_lt_two_pow _ (by decide : 255 < 2 ^ 8))
      rw [map_cons, stream_cons, append_assoc, hstream, hbyte, and_ones,
        ← append_assoc, ← bits_add, Nat.add_sub_cancel' hfull]
    · next hless =>
      exact ih hsecret (Nat.lt_of_not_le hless)

/-! ## The secret -/

theorem toNat_lt (buffer : List UInt8) : ∀ x ∈ buffer.map UInt8.toNat, x < 2 ^ 8 :=
  forall_mem_map.mpr fun byte _ => byte.toNat_lt

section

variable (hkeep : Keeps keep)
include hkeep

theorem stream_encodeLoop (buffer : List UInt8) :
    ∃ k < 5, stream 5 (encodeLoop keep buffer 0 0) =
        stream 8 (buffer.map UInt8.toNat) ++ List.replicate k false ∧
      ∀ x ∈ encodeLoop keep buffer 0 0, x < 2 ^ 5 :=
  stream_encode hkeep buffer (by decide)

theorem stream_decodeLoop
    (hsecret : ∀ x ∈ secret, x < 2 ^ 5) : ∃ rest : List Bool, rest.length < 8 ∧
      stream 8 ((decodeLoop keep secret 0 0).map UInt8.toNat) ++ rest = stream 5 secret :=
  stream_decode hkeep hsecret (by decide)

theorem decode_encode (buffer : List UInt8) :
    decodeLoop keep (encodeLoop keep buffer 0 0) 0 0 = buffer := by
  obtain ⟨k, hk, hstream, hlt⟩ := stream_encodeLoop hkeep buffer
  obtain ⟨rest, hrest, hdecoded⟩ := stream_decodeLoop hkeep hlt
  have hpadding : (List.replicate k false).length < 8 := by rw [length_replicate]; omega
  exact map_injective_iff.mpr (fun a b => UInt8.toNat_inj.mp)
    (stream_inj (toNat_lt _) (toNat_lt buffer) hrest hpadding (hdecoded.trans hstream))

/-- What an accumulator keeps above its 32 lowest bits makes no symbol. -/
theorem encode_eq (buffer : List UInt8) :
    encodeLoop keep buffer 0 0 = encodeLoop id buffer 0 0 := by
  obtain ⟨k, hk, h, hlt⟩ := stream_encodeLoop hkeep buffer
  obtain ⟨l, hl, h', hlt'⟩ := stream_encodeLoop keeps_id buffer
  have hkl : k = l := by
    have hlength := congrArg List.length h
    have hlength' := congrArg List.length h'
    simp only [length_stream, length_append, length_replicate] at hlength hlength'
    omega
  subst hkl
  exact stream_inj hlt hlt' (by decide) (by decide) (congrArg (· ++ []) (h.trans h'.symm))

/-- Nor does it make a byte. -/
theorem decode_eq (hsecret : ∀ x ∈ secret, x < 2 ^ 5) :
    decodeLoop keep secret 0 0 = decodeLoop id secret 0 0 := by
  obtain ⟨_, hrest, h⟩ := stream_decodeLoop hkeep hsecret
  obtain ⟨_, hrest', h'⟩ := stream_decodeLoop keeps_id hsecret
  exact map_injective_iff.mpr (fun a b => UInt8.toNat_inj.mp)
    (stream_inj (toNat_lt _) (toNat_lt _) hrest hrest' (h.trans h'.symm))

end

/-! ## The characters -/

theorem alphabet_spec : ∀ i < 32, isPlain (BASE32_ALPHABET.getD i ' ') = true ∧
    (BASE32_ALPHABET.getD i ' ').toNat < 128 ∧
      (BASE32_ALPHABET.getD i ' ').toUpper = BASE32_ALPHABET.getD i ' ' ∧
      BASE32_ALPHABET.idxOf (BASE32_ALPHABET.getD i ' ') = i := by
  decide

theorem symbols_encode (text : UpperCase) (hsecret : ∀ x ∈ secret, x < 2 ^ 5) :
    (plain text (secret.map fun i => BASE32_ALPHABET.getD i ' ')).map
      (fun c => BASE32_ALPHABET.idxOf c) = secret := by
  induction secret with
  | nil => rfl
  | cons i secret ih =>
    obtain ⟨hi, hsecret⟩ := forall_mem_cons.mp hsecret
    obtain ⟨hplain, hascii, hupper, hidx⟩ := alphabet_spec i hi
    rw [plain, map_cons, flatMap_cons, text.ascii _ hascii, hupper,
      singleton_append, filter_cons_of_pos hplain, map_cons, hidx]
    exact congrArg (i :: ·) (ih hsecret)

theorem mem_alphabet_of_lt : ∀ n < 91, isPlain (Char.ofNat n) = true →
    Char.ofNat n ∈ BASE32_ALPHABET := by
  decide

theorem idxOf_lt {c : Char} (hc : isPlain c = true) : BASE32_ALPHABET.idxOf c < 2 ^ 5 := by
  have hlt : c.toNat < 91 := by
    have hc := of_decide_eq_true hc
    change _ ∧ c.toNat ≤ 90 ∨ _ ∧ c.toNat ≤ 55 at hc
    omega
  have hmem := mem_alphabet_of_lt c.toNat hlt
  rw [Char.ofNat_toNat] at hmem
  exact idxOf_lt_length_iff.mpr (hmem hc)

/-- Spaces, padding and the case of the letters are gone when the bits are read. -/
theorem plain_eq_of_canonical (text : UpperCase) {s t : List Char}
    (h : canonical text s = canonical text t) : plain text s = plain text t := by
  have hplain : ∀ s, plain text s = (canonical text s).filter isPlain := by
    intro s
    induction s with
    | nil => rfl
    | cons c s ih =>
      rw [plain, flatMap_cons, filter_append, ← plain, ih, canonical, canonical, filter_cons]
      split
      · rw [flatMap_cons, filter_append]
      · next hc =>
        have hgone : (text.upper c).filter isPlain = [] := by
          obtain rfl | rfl : c = ' ' ∨ c = '=' := by
            by_contra hne
            exact hc (decide_eq_true (not_or.mp hne))
          all_goals
            rw [text.ascii _ (by decide)]
            decide
        rw [hgone, nil_append]
  rw [hplain, hplain, h]

/-- **A secret survives its spelling.**  The bytes come back from the letters they are shown in,
two spellings that differ in spaces, in padding and in the case of the letters are read alike, and
the 32 bits of the accumulator make the symbols and the bytes that an unbounded one makes. -/
theorem base32_round_trip (text : UpperCase) :
    (∀ buffer, base32Decode text wrap (base32Encode wrap buffer) = buffer) ∧
      (∀ s t, canonical text s = canonical text t →
        base32Decode text wrap s = base32Decode text wrap t) ∧
      (∀ buffer, base32Encode wrap buffer = base32Encode id buffer) ∧
      ∀ s, base32Decode text wrap s = base32Decode text id s := by
  refine ⟨fun buffer => ?_, fun s t h => ?_, fun buffer => ?_, fun s => ?_⟩
  · obtain ⟨_, _, _, hlt⟩ := stream_encodeLoop keeps_wrap buffer
    rw [base32Decode, base32Encode, symbols_encode text hlt, decode_encode keeps_wrap]
  · rw [base32Decode, base32Decode, plain_eq_of_canonical text h]
  · rw [base32Encode, base32Encode, encode_eq keeps_wrap]
  · rw [base32Decode, base32Decode, decode_eq keeps_wrap]
    exact forall_mem_map.mpr fun c hc => idxOf_lt (mem_filter.mp hc).2

/-- Two bytes come back, and so they do from small letters with spaces and padding. -/
theorem base32_round_trip_spelt :
    base32Decode .plainLetters wrap (base32Encode wrap [18, 128]) = [18, 128] ∧
      base32Decode .plainLetters wrap "ck aa====".toList =
        base32Decode .plainLetters wrap "CKAA".toList :=
  ⟨(base32_round_trip .plainLetters).1 _, (base32_round_trip .plainLetters).2.1 _ _ (by decide)⟩

end Jkannel.Security.Totp
