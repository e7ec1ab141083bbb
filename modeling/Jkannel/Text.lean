import Mathlib.Algebra.GroupWithZero.Nat
import Mathlib.Data.List.Basic

/-!
# Text as the services and the databases see it

Every identifier, number and body the messaging services handle is a JavaScript string on one side
and a PostgreSQL `text` on the other.  What the two languages do to a string and the code depends
on is defined here, character by character, so that it evaluates; what depends on Unicode tables
or on a database's locale is a field of `TextEngine`.

* `trim` strips what `String.prototype.trim` strips: the white space and line terminators of the
  language, which are not the ASCII ones only.
* `jsLength` counts UTF-16 code units, which is what `.length` counts.
* `split` is `String.prototype.split` on one character.
* `like` is `LIKE` with its three special characters.
* `toNumber` is `Number(n)` of a non-negative integer: the nearest double, ties to even.
-/

namespace Jkannel

/-- The largest integer below which every integer is a double of its own. -/
def MAX_SAFE_INTEGER : Nat := 9007199254740991

/-- `Number(n)` for a non-negative integer: the nearest IEEE double, ties to the even one. -/
def toNumber (n : Nat) : Nat :=
  let ulp := 2 ^ (n.log2 - 52)
  let q := n / ulp
  let r := n % ulp
  (if ulp < 2 * r ∨ (ulp = 2 * r ∧ q % 2 = 1) then q + 1 else q) * ulp

/-- A safe integer is its own double. -/
theorem toNumber_of_safe {n : Nat} (h : n ≤ MAX_SAFE_INTEGER) : toNumber n = n := by
  have hlog : n.log2 - 52 = 0 := by
    by_cases h0 : n = 0
    · subst h0; rfl
    · have : n.log2 < 53 := (Nat.log2_lt h0).mpr (by unfold MAX_SAFE_INTEGER at h; omega)
      omega
  simp [toNumber, hlog, Nat.mod_one]

namespace Text

/-- White space and line terminators of the language, which is what `trim` and `\s` look for. -/
def isSpace (c : Char) : Bool :=
  let n := c.toNat
  (9 ≤ n && n ≤ 13) || n = 0x20 || n = 0xA0 || n = 0x1680 || (0x2000 ≤ n && n ≤ 0x200A) ||
    n = 0x2028 || n = 0x2029 || n = 0x202F || n = 0x205F || n = 0x3000 || n = 0xFEFF

/-- `trim` on the characters. -/
def trimChars (cs : List Char) : List Char :=
  ((cs.dropWhile isSpace).reverse.dropWhile isSpace).reverse

/-- `String.prototype.trim`. -/
def trim (s : String) : String := String.ofList (trimChars s.toList)

/-- `String.prototype.length`: UTF-16 code units, two for a character outside the first plane. -/
def jsLength (s : String) : Nat :=
  (s.toList.map fun c => if c.toNat < 0x10000 then 1 else 2).sum

/-- `replace(/[^0-9]/g, '')`: the ASCII digits. -/
def digits (s : String) : String := String.ofList (s.toList.filter fun c => '0' ≤ c ∧ c ≤ '9')

/-- The longest beginning of the characters that fits in `n` UTF-16 code units. -/
def clipChars : Nat → List Char → List Char
  | _, [] => []
  | n, c :: cs =>
    let units := if c.toNat < 0x10000 then 1 else 2
    if units ≤ n then c :: clipChars (n - units) cs else []

/-- `slice(0, n)`, short of the half of a character it may cut at the end. -/
def clip (n : Nat) (s : String) : String := String.ofList (clipChars n s.toList)

/-- The pieces of `cs` between the occurrences of `sep`; always at least one. -/
def splitChars (sep : Char) : List Char → List (List Char)
  | [] => [[]]
  | c :: cs =>
    if c = sep then [] :: splitChars sep cs
    else match splitChars sep cs with
      | [] => [[c]]
      | piece :: pieces => (c :: piece) :: pieces

/-- `String.prototype.split` on a single character. -/
def split (sep : Char) (s : String) : List String :=
  (splitChars sep s.toList).map String.ofList

/-- Truthiness of an optional string: present and not empty. -/
def truthy : Option String → Option String
  | some s => if s = "" then none else some s
  | none => none

theorem truthy_eq_some_iff {value : Option String} {s : String} :
    truthy value = some s ↔ value = some s ∧ s ≠ "" := by
  cases value with
  | none => exact ⟨fun h => (by cases h), fun h => (by cases h.1)⟩
  | some t =>
    rw [truthy]
    split
    · next ht => exact ⟨fun h => (by cases h), fun h => absurd (Option.some.inj h.1 ▸ ht) h.2⟩
    · next ht => exact ⟨fun h => ⟨h, Option.some.inj h ▸ ht⟩, And.left⟩

theorem truthy_of_ne {s : String} (h : s ≠ "") : truthy (some s) = some s := if_neg h

/-- The four hexadecimal digits of a control character. -/
def hexCode (n : Nat) : List Char :=
  let digits := Nat.toDigits 16 n
  List.replicate (4 - digits.length) '0' ++ digits

/-- A character inside a JSON string. -/
def jsonChar (c : Char) : List Char :=
  match c.toNat with
  | 0x22 | 0x5C => ['\\', c]
  | 0x08 => ['\\', 'b']
  | 0x09 => ['\\', 't']
  | 0x0A => ['\\', 'n']
  | 0x0C => ['\\', 'f']
  | 0x0D => ['\\', 'r']
  | n => if n < 0x20 then ['\\', 'u'] ++ hexCode n else [c]

/-- `JSON.stringify` of a string. -/
def jsonString (s : String) : String :=
  "\"" ++ String.ofList (s.toList.flatMap jsonChar) ++ "\""

/-- `LIKE` on characters: `%` is any run of characters, `_` any one, and `\` takes the special
meaning from the character behind it. -/
def like : List Char → List Char → Bool
  | [], text => text.isEmpty
  | '%' :: pattern, text => text.tails.any (like pattern)
  | '_' :: pattern, text =>
    match text with
    | [] => false
    | _ :: text => like pattern text
  | '\\' :: c :: pattern, text =>
    match text with
    | [] => false
    | x :: text => x == c && like pattern text
  | c :: pattern, text =>
    match text with
    | [] => false
    | x :: text => x == c && like pattern text

end Text

/-- What the runtime and the database supply and the repository does not contain: case mapping by
Unicode tables, and the collation the database sorts text by. -/
structure TextEngine where
  /-- `String.prototype.toLowerCase`. -/
  toLowerCase : String → String
  /-- The case folding of `ILIKE`, which is the database locale's. -/
  sqlLower : String → String
  /-- The database's collation. -/
  collate : String → String → Ordering
  /-- `String.prototype.localeCompare`. -/
  localeCompare : String → String → Ordering
  /-- What a regular expression that ignores case compares characters by. -/
  regexFold : Char → Char

/-- Comparison character by character. -/
def Text.compareText (a b : String) : Ordering :=
  List.compareLex compare (a.toList.map Char.toNat) (b.toList.map Char.toNat)

/-- The engine on plain ASCII text in the `C` locale. -/
def TextEngine.ascii : TextEngine where
  toLowerCase s := String.ofList (s.toList.map Char.toLower)
  sqlLower s := String.ofList (s.toList.map Char.toLower)
  collate := Text.compareText
  localeCompare := Text.compareText
  regexFold := Char.toUpper

/-- `text ILIKE pattern`, which a NULL text never satisfies. -/
def TextEngine.ilike (env : TextEngine) (pattern : String) : Option String → Bool
  | none => false
  | some text => Text.like (env.sqlLower pattern).toList (env.sqlLower text).toList

end Jkannel
