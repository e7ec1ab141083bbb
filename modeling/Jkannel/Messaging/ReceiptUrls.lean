import Jkannel.Lib.WebUrl
import Jkannel.Messaging.DlrForward
import Mathlib.Data.Bool.AllAny

/-!
# What becomes of a receipt's URL

The allowlist is put to the URL that the engine has, and the URL that is called is another one:
every `%d` of it is replaced by the receipt type first.

* `newUrl` is `new URL`, by the parser of `WebUrl`.
* `substituteMask_host`: whatever is replaced, a URL that is called is called over https, and its
  host is the one that was on the list.
* `forwardedFaithfully_iff`: but an escape that begins with a `d` is replaced like a placeholder,
  so that the rest of the URL is untouched exactly when it has no such escape.
-/

namespace Jkannel.Messaging.Dlr

open List
open WebUrl (HostParser Inert Piece hexValue render)

/-- `new URL`. -/
def newUrl (host : HostParser) (rawUrl : String) : Option Url :=
  (WebUrl.parse host rawUrl).map fun location => ⟨location.protocol, location.hostname⟩

/-- The placeholders replaced and nothing else: a percent sign and two hexadecimal digits are an
octet, and none. -/
def replacePlaceholders (mask : List Char) : List Char → List Char
  | '%' :: 'd' :: rest =>
    if (rest.head?.bind hexValue).isSome then '%' :: 'd' :: replacePlaceholders mask rest
    else mask ++ replacePlaceholders mask rest
  | c :: rest => c :: replacePlaceholders mask rest
  | [] => []

/-- What is promised of a URL that is called. -/
structure ForwardedFaithfully (env : Setting) (hosts rawUrl : String) (dlrMask : Int) : Prop where
  /-- It is called over https, and its host is on the list. -/
  host : ∀ url, env.parseUrl (substituteMask rawUrl dlrMask) = some url →
    url.protocol = "https:" ∧ env.text.toLowerCase url.hostname ∈ allowedHosts env hosts
  /-- Its placeholders are replaced, and the rest is as the engine has it. -/
  text : substituteMask rawUrl dlrMask =
    String.ofList (replacePlaceholders (toString dlrMask).toList rawUrl.toList)

/-- No octet in a text begins with the digit that a placeholder ends with. -/
def NoEscape (text : List Char) : Prop :=
  ∀ before x after, text = before ++ '%' :: 'd' :: x :: after → hexValue x = none

/-! ## The receipt type -/

/-- What a number is written with. -/
def isNumeral (c : Char) : Bool := c.isDigit || c = '-'

theorem isNumeral_of_mem (dlrMask : Int) :
    ∀ c ∈ (toString dlrMask).toList, isNumeral c = true := by
  have hdigit : ∀ n c, c ∈ Nat.toDigits 10 n → isNumeral c = true := fun n c hc => by
    rw [isNumeral, Nat.isDigit_of_mem_toDigits (by decide) (Nat.le_refl _) hc, Bool.true_or]
  rw [Int.toString_eq_repr]
  intro c hc
  cases dlrMask with
  | ofNat n =>
    rw [Int.repr, Nat.toList_repr] at hc
    exact hdigit n c hc
  | negSucc n =>
    rw [Int.repr, String.toList_append, Nat.toList_repr] at hc
    rcases mem_append.mp hc with hc | hc
    · rw [mem_singleton.mp hc]
      rfl
    · exact hdigit _ c hc

theorem toList_toString_ne_nil (dlrMask : Int) : (toString dlrMask).toList ≠ [] := by
  rw [Int.toString_eq_repr]
  cases dlrMask with
  | ofNat n =>
    rw [Int.repr, Nat.toList_repr]
    exact Nat.toDigits_ne_nil
  | negSucc n =>
    rw [Int.repr, String.toList_append]
    exact append_ne_nil_of_left_ne_nil (cons_ne_nil _ _) _

theorem toNat_of_isNumeral {c : Char} (h : isNumeral c = true) :
    (48 ≤ c.toNat ∧ c.toNat ≤ 57) ∨ c.toNat = 45 := by
  simp only [isNumeral, Bool.or_eq_true, decide_eq_true_eq] at h
  rcases h with h | rfl
  · exact .inl (Char.isDigit_iff_toNat.mp h)
  · exact .inr rfl

/-- A number disturbs no address. -/
theorem inert_of_isNumeral {c : Char} (h : isNumeral c = true) : WebUrl.inert c = true := by
  have hnat := toNat_of_isNumeral h
  have hne : ∀ d : Char, d.toNat < 45 ∨ 57 < d.toNat ∨ d.toNat = 47 → c ≠ d := by
    rintro d hd rfl
    omega
  rw [WebUrl.inert_eq_true_iff]
  refine ⟨decide_eq_false (by omega), ?_, ?_, hne _ (by decide), hne _ (by decide),
    hne _ (by decide), hne _ (by decide)⟩
  · simp only [WebUrl.isTabOrNewline, Bool.or_eq_false_iff, decide_eq_false_iff_not]
    exact ⟨⟨hne _ (by decide), hne _ (by decide)⟩, hne _ (by decide)⟩
  · simp only [WebUrl.endsAuthority, WebUrl.isSlash, Bool.or_eq_false_iff, decide_eq_false_iff_not]
    exact ⟨⟨⟨hne _ (by decide), hne _ (by decide)⟩, hne _ (by decide)⟩, hne _ (by decide)⟩

theorem inert_toString (dlrMask : Int) : Inert (toString dlrMask).toList :=
  ⟨toList_toString_ne_nil dlrMask, fun c hc => inert_of_isNumeral (isNumeral_of_mem dlrMask c hc)⟩

theorem toString_ascii (dlrMask : Int) :
    ∀ c ∈ (toString dlrMask).toList, c ≠ '%' ∧ c.toNat < 0x80 := by
  intro c hc
  have hnat := toNat_of_isNumeral (isNumeral_of_mem dlrMask c hc)
  refine ⟨?_, by omega⟩
  rintro rfl
  revert hnat
  decide

/-! ## The host -/

/-- A URL in pieces, with a hole for each `%d`. -/
def pieces : List Char → List Piece
  | '%' :: 'd' :: rest => .hole :: pieces rest
  | c :: rest => .keep c :: pieces rest
  | [] => []

theorem render_pieces (s : List Char) : render ['%', 'd'] (pieces s) = s := by
  fun_induction pieces s with
  | case1 rest ih => simp only [render, ih]; rfl
  | case2 c rest h ih => simp only [render, ih]
  | case3 => rfl

theorem render_pieces_mask (mask s : List Char) : render mask (pieces s) = replaceMask mask s := by
  fun_induction pieces s with
  | case1 rest ih => simp only [render, ih, replaceMask]
  | case2 c rest h ih =>
    rw [replaceMask]
    · simp only [render, ih]
    · exact h
  | case3 => rfl

/-- An accepted URL is one of https, at a host on the list. -/
theorem exists_of_isAllowed {env : Setting} {hosts rawUrl host : String}
    (h : isAllowed env hosts rawUrl = .ok host) :
    ∃ url, env.parseUrl rawUrl = some url ∧ url.protocol = "https:" ∧
      env.text.toLowerCase url.hostname ∈ allowedHosts env hosts := by
  unfold isAllowed at h
  cases hurl : env.parseUrl rawUrl with
  | none =>
    rw [hurl] at h
    cases h
  | some url =>
    rw [hurl] at h
    dsimp only at h
    by_cases hhttps : url.protocol = "https:"
    · rw [if_neg (not_not_intro hhttps)] at h
      split at h
      · cases h
      · split at h
        · next hmem => exact ⟨url, rfl, hhttps, hmem⟩
        · cases h
    · rw [if_pos hhttps] at h
      cases h

/-- **What is called is called over https at a host on the list**, whatever was replaced. -/
theorem substituteMask_host {env : Setting} {host : HostParser} (henv : env.parseUrl = newUrl host)
    {hosts rawUrl h : String} (hok : isAllowed env hosts rawUrl = .ok h) {dlrMask : Int} {url : Url}
    (hurl : env.parseUrl (substituteMask rawUrl dlrMask) = some url) :
    url.protocol = "https:" ∧ env.text.toLowerCase url.hostname ∈ allowedHosts env hosts := by
  obtain ⟨source, hsource, hhttps, hmem⟩ := exists_of_isAllowed hok
  rw [henv, newUrl] at hsource hurl
  obtain ⟨location, hlocation, rfl⟩ := Option.map_eq_some_iff.mp hsource
  obtain ⟨location', hlocation', rfl⟩ := Option.map_eq_some_iff.mp hurl
  rw [substituteMask, ← render_pieces_mask] at hlocation'
  rw [← String.ofList_toList (s := rawUrl), ← render_pieces rawUrl.toList] at hlocation
  have heq : location' = location :=
    WebUrl.parse_render (show hexValue 'd' = some 13 from rfl) (by decide) (by decide)
      (toString_ascii dlrMask) (inert_toString dlrMask) hlocation hhttps hlocation'
  rw [heq]
  exact ⟨hhttps, hmem⟩

/-! ## The text -/

theorem noEscape_cons {c : Char} {s : List Char} (h : ∀ rest, c = '%' → s = 'd' :: rest → False) :
    NoEscape (c :: s) ↔ NoEscape s := by
  constructor
  · intro hno before x after heq
    exact hno (c :: before) x after (by rw [heq]; rfl)
  · intro hno before x after heq
    cases before with
    | nil =>
      obtain ⟨hc, hs⟩ := List.cons.inj heq
      exact (h _ hc hs).elim
    | cons d before => exact hno before x after (List.cons.inj heq).2

theorem noEscape_placeholder (s : List Char) :
    NoEscape ('%' :: 'd' :: s) ↔ s.head?.bind hexValue = none ∧ NoEscape s := by
  constructor
  · intro hno
    refine ⟨?_, fun before x after heq => hno ('%' :: 'd' :: before) x after (by rw [heq]; rfl)⟩
    cases s with
    | nil => rfl
    | cons x s => exact hno [] x s rfl
  · rintro ⟨hhead, hno⟩ before x after heq
    match before with
    | [] =>
      obtain ⟨-, heq⟩ := List.cons.inj heq
      obtain ⟨-, rfl⟩ := List.cons.inj heq
      exact hhead
    | [d] =>
      obtain ⟨-, heq⟩ := List.cons.inj heq
      exact absurd (List.cons.inj heq).1 (by decide)
    | d :: e :: before =>
      obtain ⟨-, heq⟩ := List.cons.inj heq
      exact hno before x after (List.cons.inj heq).2

/-- The two replacements agree exactly where there is no such escape. -/
theorem replaceMask_eq_iff {mask : List Char} (hne : mask ≠ []) (hmask : ∀ c ∈ mask, c ≠ '%')
    (s : List Char) : replaceMask mask s = replacePlaceholders mask s ↔ NoEscape s := by
  fun_induction replacePlaceholders mask s with
  | case1 rest hhex ih =>
    -- the one begins with the receipt type, the other with the escape
    obtain ⟨c, cs, rfl⟩ := exists_cons_of_ne_nil hne
    rw [replaceMask, noEscape_placeholder]
    refine iff_of_false (fun heq => hmask c mem_cons_self (List.cons.inj heq).1) ?_
    rintro ⟨hnone, -⟩
    rw [hnone] at hhex
    exact Bool.false_ne_true hhex
  | case2 rest hhex ih =>
    rw [replaceMask, noEscape_placeholder, append_cancel_left_eq, ih]
    exact (and_iff_right (Option.not_isSome_iff_eq_none.mp hhex)).symm
  | case3 c rest h ih =>
    rw [replaceMask, noEscape_cons h, cons_inj_right, ih]
    exact h
  | case4 =>
    refine iff_of_true rfl fun before x after heq => ?_
    exact (append_ne_nil_of_right_ne_nil before (cons_ne_nil _ _) heq.symm).elim

/-- **A URL that is called is faithful to the one that was stored exactly when no escape of it begins
with a `d`**: such an escape is taken for a placeholder. -/
theorem forwardedFaithfully_iff {env : Setting} (host : HostParser)
    (henv : env.parseUrl = newUrl host) {hosts rawUrl h : String}
    (hok : isAllowed env hosts rawUrl = .ok h) (dlrMask : Int) :
    ForwardedFaithfully env hosts rawUrl dlrMask ↔ NoEscape rawUrl.toList := by
  have htext := replaceMask_eq_iff (toList_toString_ne_nil dlrMask)
    (fun c hc => (toString_ascii dlrMask c hc).1) rawUrl.toList
  constructor
  · intro hfaithful
    refine htext.mp ?_
    have := congrArg String.toList hfaithful.text
    rwa [substituteMask, String.toList_ofList, String.toList_ofList] at this
  · intro hno
    refine ⟨fun url hurl => substituteMask_host henv hok hurl, ?_⟩
    rw [substituteMask, htext.mpr hno]

/-! ## A host in ASCII -/

/-- A domain in lower case is its own spelling in ASCII. -/
def asciiDomain (name : List Char) : Option String :=
  if name.all fun c => ('a' ≤ c && c ≤ 'z') || c = '-' || c = '.' then some (String.ofList name)
  else none

theorem asciiDomain_percent (name : List Char) (h : '%' ∈ name) : asciiDomain name = none := by
  refine if_neg fun hall => ?_
  have := all_eq_true.mp hall '%' h
  revert this
  decide

def asciiHosts : HostParser where
  domain := asciiDomain
  ipv6 := fun _ => none
  other := fun _ _ => none
  domain_percent := asciiDomain_percent
  ipv6_percent := fun _ _ => rfl

def asciiSetting : Setting where
  text := .ascii
  parseUrl := newUrl asciiHosts
  tenantOf := fun _ => none
  tuning := ⟨5000, 300000⟩

/-- A receipt type in the query is all that changes. -/
theorem forwardedFaithfully_receipt :
    ForwardedFaithfully asciiSetting "app.example.com, sms.example.com"
      "https://app.example.com/r?id=%2F7&t=ab%20c&s=%d" 1 :=
  (forwardedFaithfully_iff asciiHosts rfl
    (show isAllowed asciiSetting "app.example.com, sms.example.com"
      "https://app.example.com/r?id=%2F7&t=ab%20c&s=%d" = .ok "app.example.com" by decide +kernel)
    1).mpr ((replaceMask_eq_iff (cons_ne_nil '1' [])
    (all_iff_forall_prop.mp (by decide)) _).mp (by decide +kernel))

/-- The first letter of a Cyrillic name is an escape that begins with a `d`, and loses it. -/
theorem escape_replaced :
    isAllowed asciiSetting "app.example.com" "https://app.example.com/r?name=%d0%b0&t=x" =
      .ok "app.example.com" ∧
    substituteMask "https://app.example.com/r?name=%d0%b0&t=x" 1 =
      "https://app.example.com/r?name=10%b0&t=x" ∧
    ¬ ForwardedFaithfully asciiSetting "app.example.com"
      "https://app.example.com/r?name=%d0%b0&t=x" 1 := by
  refine ⟨by decide +kernel, by decide +kernel, fun h => ?_⟩
  have := h.text
  revert this
  decide +kernel

end Jkannel.Messaging.Dlr
