import Jkannel.Security.IpAllowlist
import Mathlib.Data.List.DropRight

/-!
# The address of the client

Every proxy appends the address that it was called from to a header that the client may have begun
itself.  What our own proxies have appended is at the end of it.

* `hopChain` is the header and the socket's peer, and `resolveClientIp` counts or skips our proxies
  from its end.
* `arrived` is a request on its way through proxies, and `hopChain_arrived` what is at the end of its
  chain.
* `Listed` is that the proxies' setting contains an address, an IPv4 address being the IPv6 address
  that it is mapped to; `ListedInKind` asks for an entry that is written in the address's own kind.
* `client_unspoofable_iff`: neither the address nor what the guard decides by it depends on what the
  client wrote into the header, exactly if every proxy is listed in its own kind.
-/

namespace Jkannel.Security.ClientIp

open List
open Text (trimChars isSpace)

/-- The header of a request: there may be none, one, or an array of them. -/
inductive Forwarded where
  | absent
  | one (value : Chars)
  | many (values : List Chars)

/-- What is read of a request. -/
structure ClientIpRequest where
  xForwardedFor : Forwarded
  ip : Option Chars
  remoteAddress : Option Chars

/-- Which proxies are trusted. -/
structure TrustedProxyConfig where
  addresses : List Chars
  count : ℕ

/-- What the two settings say; the count is given as it has been read. -/
def trustedProxyConfig (trustedProxies : Chars) (count : ℕ) : TrustedProxyConfig where
  addresses := ((trustedProxies.splitOn ',').map trimChars).filter (· ≠ [])
  count := count

/-- `/^\[(.+)\](?::\d+)?$/`, greedily. -/
def unbracket (text : Chars) : Option Chars :=
  match text with
  | '[' :: rest =>
    let port := rest.reverse.takeWhile Char.isDigit
    let inner := match port, rest.reverse.drop port.length with
      | [], ']' :: inner => inner
      | _ :: _, ':' :: ']' :: inner => inner
      | _, _ => []
    if inner ≠ [] ∧ inner.all fun c => !isLineTerminator c then some inner.reverse else none
  | _ => none

/-- `/^::ffff:(…)$/i`. -/
def unmap (text : Chars) : Option Chars :=
  if (text.take 7).map Char.toLower = "::ffff:".toList ∧ isDottedQuad (text.drop 7) then
    some (text.drop 7)
  else none

/-- `/^(…):\d+$/`. -/
def withoutPort (text : Chars) : Option Chars :=
  match text.splitOn ':' with
  | [address, port] =>
    if isDottedQuad address ∧ port ≠ [] ∧ port.all Char.isDigit then some address else none
  | _ => none

/-- An address in its short form. -/
def normalizeIp (value : Chars) : Chars :=
  let text := trimChars value
  if text = [] then []
  else
    let text := (unbracket text).getD text
    let text := (unmap text).getD text
    (withoutPort text).getD text

/-- The header as one text. -/
def Forwarded.raw : Forwarded → Chars
  | .absent => []
  | .one value => value
  | .many values => [','].intercalate values

/-- The hops of a text. -/
def hopsOf (value : Chars) : List Chars :=
  ((value.splitOn ',').map normalizeIp).filter (· ≠ [])

def Forwarded.hops (header : Forwarded) : List Chars := hopsOf header.raw

def hopChain (request : ClientIpRequest) : List Chars :=
  let peer := normalizeIp ((request.remoteAddress.or request.ip).getD [])
  request.xForwardedFor.hops ++ if peer ≠ [] then [peer] else []

/-- The right-most hop that is not one of our proxies, of a chain from its end; the first of all
whatever it is. -/
def skipProxies (addresses : List Chars) : List Chars → Option Chars
  | [] => none
  | [first] => some first
  | hop :: hops =>
    if isIpAllowed (some hop) (some addresses) then skipProxies addresses hops else some hop

/-- The address a request is taken to be from. -/
def resolveClientIp (request : ClientIpRequest) (config : TrustedProxyConfig) : Option Chars :=
  let chain := hopChain request
  if config.addresses ≠ [] then skipProxies config.addresses chain.reverse
  else chain[chain.length - 1 - config.count]?

/-- What the guard goes by: the address that was resolved, and where there is none the others. -/
def callerIp (request : ClientIpRequest) (config : TrustedProxyConfig) : Option Chars :=
  (resolveClientIp request config).or (request.ip.or request.remoteAddress)

/-! ## On the way

A proxy appends the address of its peer, whatever the header held before. -/

/-- The address of a caller, as a socket has it. -/
structure Address where
  text : Chars
  single : ',' ∉ text
  shown : normalizeIp text ≠ []

/-- `$proxy_add_x_forwarded_for`. -/
def Forwarded.append (address : Address) : Forwarded → Forwarded
  | .absent => .one address.text
  | .one value => .one (value ++ ',' :: ' ' :: address.text)
  | .many values => .many (values ++ [address.text])

/-- The request with which a client calls, through proxies, the outermost first: each is called from
what is before it. -/
def arrived (header : Forwarded) (ip : Option Chars) : Address → List Address → ClientIpRequest
  | caller, [] => ⟨header, ip, some caller.text⟩
  | caller, proxy :: proxies => arrived (header.append caller) ip proxy proxies

theorem normalizeIp_space (cs : Chars) : normalizeIp (' ' :: cs) = normalizeIp cs := by
  have htrim : trimChars (' ' :: cs) = trimChars cs := by
    rw [trimChars, dropWhile_cons_of_pos (by decide), ← trimChars]
  rw [normalizeIp, normalizeIp, htrim]

theorem hopsOf_append (value text : Chars) :
    hopsOf (value ++ ',' :: text) = hopsOf value ++ hopsOf text := by
  rw [hopsOf, splitOn_append_cons_self, map_append, filter_append]
  rfl

theorem hopsOf_address (address : Address) :
    hopsOf address.text = [normalizeIp address.text] := by
  rw [hopsOf, splitOn_eq_singleton address.single]
  exact filter_cons_of_pos (decide_eq_true address.shown)

theorem hops_many (values : List Chars) : (Forwarded.many values).hops = values.flatMap hopsOf := by
  change hopsOf ([','].intercalate values) = _
  induction values with
  | nil => rfl
  | cons value values ih =>
    cases values with
    | nil => rw [intercalate_singleton, flatMap_singleton]
    | cons value' values =>
      rw [intercalate_cons_cons, append_assoc, singleton_append, hopsOf_append, ih]
      rfl

/-- A proxy adds one hop, whatever is in the header. -/
theorem hops_append (header : Forwarded) (address : Address) :
    (header.append address).hops = header.hops ++ [normalizeIp address.text] := by
  rw [← hopsOf_address]
  cases header with
  | absent => rfl
  | one value =>
    have hspace : hopsOf (' ' :: address.text) = hopsOf address.text := by
      have hsingle : ',' ∉ ' ' :: address.text :=
        not_mem_cons_of_ne_of_not_mem (by decide) address.single
      rw [hopsOf_address, hopsOf, splitOn_eq_singleton hsingle, map_singleton, normalizeIp_space]
      exact filter_cons_of_pos (decide_eq_true address.shown)
    exact (hopsOf_append value _).trans (congrArg _ hspace)
  | many values =>
    rw [Forwarded.append, hops_many, hops_many, flatMap_append, flatMap_singleton]

/-- **The end of the chain** is what our proxies were called from, and what called us. -/
theorem hopChain_arrived (header : Forwarded) (ip : Option Chars) (caller : Address)
    (proxies : List Address) : hopChain (arrived header ip caller proxies) =
      header.hops ++ (caller :: proxies).map fun a => normalizeIp a.text := by
  induction proxies generalizing header caller with
  | nil => exact congrArg (header.hops ++ ·) (if_pos caller.shown)
  | cons proxy proxies ih => rw [arrived, ih, hops_append, append_assoc]; rfl

/-! ## What the setting contains

An entry means a block of addresses; the code compares numbers of one width. -/

/-- The number of an address among those of 128 bits, where IPv4 is mapped to `::ffff:0:0/96`. -/
def mapped (ip : ParsedIp) : ℕ := if ip.bits = 32 then 0xFFFF * 2 ^ 32 + ip.value else ip.value

/-- A block of addresses: those that begin as its network does. -/
structure Block where
  network : ParsedIp
  length : ℕ

/-- The block that an entry names; an address is one of its own. -/
def blockOf (entry : Chars) : Option Block :=
  let trimmed := trimChars entry
  if '/' ∉ trimmed then (parseIp trimmed).map fun ip => ⟨ip, ip.bits⟩
  else
    let prefixText := (trimmed.dropWhile (· ≠ '/')).tail
    (parseIp (trimmed.takeWhile (· ≠ '/'))).bind fun network =>
      if isNumeral 3 prefixText ∧ numeral 10 prefixText ≤ network.bits then
        some ⟨network, numeral 10 prefixText⟩
      else none

/-- The address is in the block, both taken for ones of 128 bits. -/
def Block.holds (block : Block) (ip : ParsedIp) : Prop :=
  mapped block.network >>> (block.network.bits - block.length) =
    mapped ip >>> (block.network.bits - block.length)

instance (block : Block) (ip : ParsedIp) : Decidable (block.holds ip) :=
  inferInstanceAs (Decidable (_ = _))

/-- **The entries contain an address**, as it is written or in a block. -/
def Listed (addresses : List Chars) (hop : Chars) : Prop :=
  hop ∈ addresses ∨ ∃ ip ∈ parseIp hop, ∃ entry ∈ addresses, ∃ block ∈ blockOf entry, block.holds ip

/-- **The condition**: they contain it in a block of its own kind, IPv4 or IPv6. -/
def ListedInKind (addresses : List Chars) (hop : Chars) : Prop :=
  ∃ ip ∈ parseIp hop, ∃ entry ∈ addresses, ∃ block ∈ blockOf entry,
    block.network.bits = ip.bits ∧ block.holds ip

instance (addresses : List Chars) (hop : Chars) : Decidable (Listed addresses hop) :=
  inferInstanceAs (Decidable (_ ∨ ∃ ip ∈ parseIp hop, ∃ entry ∈ addresses,
    ∃ block ∈ blockOf entry, Block.holds block ip))

instance (addresses : List Chars) (hop : Chars) : Decidable (ListedInKind addresses hop) :=
  inferInstanceAs (Decidable (∃ ip ∈ parseIp hop, ∃ entry ∈ addresses, ∃ block ∈ blockOf entry,
    block.network.bits = ip.bits ∧ Block.holds block ip))

variable {ip : ParsedIp}

theorem parseIp_bits {text : Chars} (h : parseIp text = some ip) :
    ip.bits = 128 ∨ ip.bits = 32 := by
  rw [parseIp] at h
  split at h
  · cases h
  · split at h <;> obtain ⟨value, -, rfl⟩ := Option.map_eq_some_iff.mp h
    · exact .inl rfl
    · exact .inr rfl

/-- Among addresses of one kind, mapping changes nothing of what a block holds. -/
theorem holds_iff {block : Block} (hbits : block.network.bits = ip.bits)
    (hip : ip.bits = 128 ∨ ip.bits = 32) : block.holds ip ↔
      block.network.value >>> (ip.bits - block.length) = ip.value >>> (ip.bits - block.length) := by
  rw [Block.holds, mapped, mapped, hbits]
  rcases hip with hip | hip
  · rw [if_neg (by omega), if_neg (by omega)]
  · have hhosts : ip.bits - block.length ≤ 32 := by omega
    rw [if_pos hip, if_pos hip]
    generalize ip.bits - block.length = hosts at hhosts ⊢
    have hmultiple (v : ℕ) : (0xFFFF * 2 ^ 32 + v) >>> hosts = 0xFFFF * 2 ^ (32 - hosts) +
        v >>> hosts := by
      have hpow : 2 ^ 32 = 2 ^ (32 - hosts) * 2 ^ hosts := by rw [← pow_add, Nat.sub_add_cancel hhosts]
      rw [Nat.shiftRight_eq_div_pow, Nat.shiftRight_eq_div_pow, hpow, ← mul_assoc, add_comm,
        Nat.add_mul_div_right _ _ (Nat.two_pow_pos hosts), add_comm]
    rw [hmultiple, hmultiple, Nat.add_left_cancel_iff]

/-- An entry matches an address of its own kind that its block holds. -/
theorem matchesEntry_iff (hip : ip.bits = 128 ∨ ip.bits = 32) (entry : Chars) :
    matchesEntry ip entry = true ↔
      ∃ block ∈ blockOf entry, block.network.bits = ip.bits ∧ block.holds ip := by
  rw [matchesEntry, blockOf]
  dsimp only
  split
  · next hblank =>
    rw [hblank]
    refine iff_of_false Bool.false_ne_true ?_
    rintro ⟨block, hblock, -⟩
    cases hblock
  split
  · rw [Option.any_eq_true]
    constructor
    · rintro ⟨exact', hexact, hsame⟩
      rw [Bool.and_eq_true, decide_eq_true_eq, decide_eq_true_eq] at hsame
      refine ⟨⟨exact', exact'.bits⟩, Option.map_eq_some_iff.mpr ⟨_, hexact, rfl⟩, hsame.1, ?_⟩
      rw [holds_iff hsame.1 hip, hsame.2]
    · rintro ⟨block, hblock, hbits, hholds⟩
      obtain ⟨network, hnetwork, rfl⟩ := Option.map_eq_some_iff.mp hblock
      have hzero : ip.bits - network.bits = 0 := by
        dsimp only at hbits
        omega
      rw [holds_iff hbits hip, hzero] at hholds
      refine ⟨network, hnetwork, ?_⟩
      rw [Bool.and_eq_true, decide_eq_true_eq, decide_eq_true_eq]
      exact ⟨hbits, hholds⟩
  · rw [Option.any_eq_true]
    constructor
    · rintro ⟨network, hnetwork, hmatches⟩
      rw [Bool.and_eq_true, Bool.and_eq_true, Bool.and_eq_true, decide_eq_true_eq,
        decide_eq_true_eq, decide_eq_true_eq] at hmatches
      obtain ⟨⟨⟨hbits, hnumeral⟩, hlength⟩, hsame⟩ := hmatches
      refine ⟨⟨network, _⟩, Option.bind_eq_some_iff.mpr ⟨network, hnetwork,
        if_pos ⟨hnumeral, hbits ▸ hlength⟩⟩, hbits, ?_⟩
      exact (holds_iff hbits hip).mpr hsame
    · rintro ⟨block, hblock, hbits, hholds⟩
      obtain ⟨network, hnetwork, hsome⟩ := Option.bind_eq_some_iff.mp hblock
      split at hsome
      · next hlength =>
        cases hsome
        rw [holds_iff hbits hip] at hholds
        refine ⟨network, hnetwork, ?_⟩
        rw [Bool.and_eq_true, Bool.and_eq_true, Bool.and_eq_true, decide_eq_true_eq,
          decide_eq_true_eq, decide_eq_true_eq]
        exact ⟨⟨⟨hbits, hlength.1⟩, hbits ▸ hlength.2⟩, hholds⟩
      · cases hsome

theorem trimChars_trimChars (cs : Chars) : trimChars (trimChars cs) = trimChars cs := by
  have htrim (cs : Chars) : trimChars cs =
      (cs.dropWhile isSpace).rdropWhile isSpace := rfl
  rw [htrim (trimChars cs), htrim cs]
  set d := cs.dropWhile isSpace with hd
  have hfirst : (d.rdropWhile isSpace).dropWhile isSpace = d.rdropWhile isSpace := by
    rw [dropWhile_eq_self_iff]
    intro hlength
    have hlead : d.rdropWhile isSpace <+: d :=
      rdropWhile_prefix isSpace d
    have hpos : 0 < d.length := hlength.trans_le hlead.length_le
    rw [hlead.getElem hlength]
    exact dropWhile_get_zero_not isSpace cs hpos
  rw [hfirst, rdropWhile_idempotent]

/-- The entries of the setting are trimmed, and none is blank. -/
theorem trustedProxyConfig_entry {trustedProxies : Chars} {count : ℕ} {entry : Chars}
    (h : entry ∈ (trustedProxyConfig trustedProxies count).addresses) :
    trimChars entry = entry ∧ entry ≠ [] := by
  obtain ⟨hmem, hne⟩ := mem_filter.mp h
  obtain ⟨piece, -, rfl⟩ := mem_map.mp hmem
  exact ⟨trimChars_trimChars piece, of_decide_eq_true hne⟩

variable {addresses : List Chars}

/-- **What is skipped** for a proxy is what the setting contains in its own kind. -/
theorem isIpAllowed_iff {hop : Chars} (hne : addresses ≠ [])
    (htrimmed : ∀ entry ∈ addresses, trimChars entry = entry ∧ entry ≠ []) (hhop : hop ≠ []) :
    isIpAllowed (some hop) (some addresses) = true ↔ ListedInKind addresses hop := by
  have hentries : ((addresses.map trimChars).filter (· ≠ [])) = addresses := by
    rw [map_congr_left fun entry hentry => (htrimmed entry hentry).1, map_id',
      filter_eq_self.mpr fun entry hentry => decide_eq_true (htrimmed entry hentry).2]
  have hfilter : (some hop).filter (fun text => decide (text ≠ [])) = some hop :=
    Option.filter_eq_some_iff.mpr ⟨rfl, decide_eq_true hhop⟩
  have hempty : addresses.isEmpty = false := by simpa using hne
  simp only [isIpAllowed, Option.getD_some, hentries, hempty, Bool.false_or, hfilter,
    Option.bind_some, Option.any_eq_true, any_eq_true, ListedInKind]
  refine exists_congr fun ip => and_congr_right fun hip => exists_congr fun entry =>
    and_congr_right fun _ => matchesEntry_iff (parseIp_bits hip) entry

theorem ListedInKind.listed {hop : Chars} (h : ListedInKind addresses hop) :
    Listed addresses hop := by
  obtain ⟨ip, hip, entry, hentry, block, hblock, -, hholds⟩ := h
  exact .inr ⟨ip, hip, entry, hentry, block, hblock, hholds⟩

/-! ## The address that is resolved -/

theorem skipProxies_arrived {hops : List Chars} {client : Chars}
    (hclient : isIpAllowed (some client) (some addresses) = false) {proxies : List Chars}
    (hproxies : ∀ hop ∈ proxies, isIpAllowed (some hop) (some addresses) = true) :
    skipProxies addresses (hops ++ client :: proxies).reverse = some client := by
  rw [reverse_append, reverse_cons, append_assoc, singleton_append]
  have hall : ∀ hop ∈ proxies.reverse, isIpAllowed (some hop) (some addresses) = true :=
    fun hop hhop => hproxies hop (mem_reverse.mp hhop)
  generalize proxies.reverse = nearest at hall ⊢
  induction nearest with
  | nil =>
    cases hops.reverse with
    | nil => rfl
    | cons hop rest =>
      rw [nil_append, skipProxies, hclient]
      · rfl
      · exact cons_ne_nil _ _
  | cons hop rest ih =>
    obtain ⟨hhop, hrest⟩ := forall_mem_cons.mp hall
    rw [cons_append, skipProxies, if_pos hhop, ih hrest]
    exact fun hnil => cons_ne_nil _ _ (append_eq_nil_iff.mp hnil).2

/-- A proxy that is not skipped is taken for the client. -/
theorem skipProxies_stops {addresses nearest rest : List Chars}
    (h : ∃ hop ∈ nearest, isIpAllowed (some hop) (some addresses) = false) :
    ∃ hop ∈ nearest, skipProxies addresses (nearest ++ rest) = some hop := by
  induction nearest with
  | nil =>
    obtain ⟨hop, hhop, -⟩ := h
    cases hhop
  | cons hop nearest ih =>
    cases hallowed : isIpAllowed (some hop) (some addresses) with
    | false =>
      refine ⟨hop, mem_cons_self, ?_⟩
      cases hrest : nearest ++ rest with
      | nil => rw [cons_append, hrest, skipProxies]
      | cons next others =>
        rw [cons_append, hrest, skipProxies, hallowed]
        · rfl
        · exact cons_ne_nil _ _
    | true =>
      obtain ⟨refused, hmem, hrefused⟩ := h
      have hlater : refused ∈ nearest := by
        rcases mem_cons.mp hmem with rfl | hlater
        · rw [hallowed] at hrefused
          cases hrefused
        · exact hlater
      obtain ⟨found, hfound, heq⟩ := ih ⟨refused, hlater, hrefused⟩
      refine ⟨found, mem_cons_of_mem _ hfound, ?_⟩
      rw [cons_append, skipProxies, if_pos hallowed, heq]
      exact fun hnil => ne_nil_of_mem hlater (append_eq_nil_iff.mp hnil).1

/-- **When the client's address cannot be spoofed.**  Of a request through our proxies, which we
either count or know by their addresses, the address that is resolved is the one that the outermost
proxy was called from, whatever header the client began with, and the guard decides the same: exactly
if we count them, or know each of them by an entry of its own kind. -/
theorem client_unspoofable_iff (client : Address) (proxies : List Address) (trustedProxies : Chars)
    (count : ℕ)
    (hconfig : if (trustedProxyConfig trustedProxies count).addresses = [] then
        count = proxies.length
      else ¬ Listed (trustedProxyConfig trustedProxies count).addresses (normalizeIp client.text) ∧
        ∀ proxy ∈ proxies,
          Listed (trustedProxyConfig trustedProxies count).addresses (normalizeIp proxy.text)) :
    (∀ header ip allowedIps,
      resolveClientIp (arrived header ip client proxies) (trustedProxyConfig trustedProxies count) =
          some (normalizeIp client.text) ∧
        isIpAllowed (callerIp (arrived header ip client proxies)
            (trustedProxyConfig trustedProxies count)) allowedIps =
          isIpAllowed (some (normalizeIp client.text)) allowedIps) ↔
      ((trustedProxyConfig trustedProxies count).addresses = [] ∨ ∀ proxy ∈ proxies,
        ListedInKind (trustedProxyConfig trustedProxies count).addresses
          (normalizeIp proxy.text)) := by
  have htrimmed (entry) (h : entry ∈ (trustedProxyConfig trustedProxies count).addresses) :=
    trustedProxyConfig_entry h
  have hcount : (trustedProxyConfig trustedProxies count).count = count := rfl
  generalize trustedProxyConfig trustedProxies count = config at *
  have hresolves (h : ∀ header ip, resolveClientIp (arrived header ip client proxies) config =
      some (normalizeIp client.text)) (header ip allowedIps) :
      resolveClientIp (arrived header ip client proxies) config = some (normalizeIp client.text) ∧
        isIpAllowed (callerIp (arrived header ip client proxies) config) allowedIps =
          isIpAllowed (some (normalizeIp client.text)) allowedIps :=
    ⟨h header ip, by rw [callerIp, h, Option.some_or]⟩
  split at hconfig
  · next haddresses =>
    refine iff_of_true (hresolves fun header ip => ?_) (.inl haddresses)
    have hindex : header.hops.length + (proxies.length + 1) - 1 - proxies.length =
        header.hops.length := by omega
    rw [resolveClientIp, hopChain_arrived, if_neg (not_not.mpr haddresses), hcount, hconfig,
      length_append, length_map, length_cons, hindex,
      getElem?_append_right (Nat.le_refl _), Nat.sub_self]
    rfl
  · next haddresses =>
    have hallowed (address : Address) : isIpAllowed (some (normalizeIp address.text))
        (some config.addresses) = true ↔ ListedInKind config.addresses (normalizeIp address.text) :=
      isIpAllowed_iff haddresses htrimmed address.shown
    have hclient : isIpAllowed (some (normalizeIp client.text)) (some config.addresses) = false :=
      Bool.eq_false_iff.mpr fun h => hconfig.1 ((hallowed client).mp h).listed
    rw [or_iff_right haddresses]
    constructor
    · intro h proxy hproxy
      by_contra hnot
      have hstops := @skipProxies_stops config.addresses
        (proxies.map fun a => normalizeIp a.text).reverse [normalizeIp client.text]
        ⟨_, mem_reverse.mpr (mem_map_of_mem hproxy),
          Bool.eq_false_iff.mpr fun h => hnot ((hallowed proxy).mp h)⟩
      obtain ⟨hop, hhop, hskip⟩ := hstops
      obtain ⟨other, hother, rfl⟩ := mem_map.mp (mem_reverse.mp hhop)
      have hresolved := (h .absent none none).1
      rw [resolveClientIp, hopChain_arrived, if_pos haddresses, map_cons, reverse_append,
        reverse_cons] at hresolved
      rw [show Forwarded.absent.hops = [] from rfl, reverse_nil, append_nil, hskip]
        at hresolved
      exact hconfig.1 (Option.some.inj hresolved ▸ hconfig.2 other hother)
    · intro hlisted
      refine hresolves fun header ip => ?_
      rw [resolveClientIp, hopChain_arrived, if_pos haddresses, map_cons]
      exact skipProxies_arrived hclient
        (forall_mem_map.mpr fun proxy hproxy => (hallowed proxy).mpr (hlisted proxy hproxy))

/-- The shipped topology, of one proxy, behind a socket for both kinds of addresses. -/
def exampleClient : Address := ⟨"203.0.113.9".toList, by decide, by decide⟩

def exampleProxy : Address := ⟨"::ffff:172.18.0.3".toList, by decide, by decide⟩

def innerProxy : Address := ⟨"172.18.0.7".toList, by decide, by decide⟩

/-- Known by their block, two proxies are skipped, and an address of the allowlist that the client
writes into the header lets no one in. -/
theorem spoof_ignored :
    resolveClientIp (arrived (.one "10.0.0.5, ,[::1]:80".toList) none exampleClient
        [exampleProxy, innerProxy]) (trustedProxyConfig "172.18.0.0/16, 10.9.0.1".toList 1) =
          some "203.0.113.9".toList ∧
      isIpAllowed (callerIp (arrived (.one "10.0.0.5, ,[::1]:80".toList) none exampleClient
        [exampleProxy, innerProxy]) (trustedProxyConfig "172.18.0.0/16, 10.9.0.1".toList 1))
          (some ["10.0.0.0/8".toList]) = false := by
  have hcondition := client_unspoofable_iff exampleClient [exampleProxy, innerProxy]
    "172.18.0.0/16, 10.9.0.1".toList 1 (by decide +kernel)
  obtain ⟨hresolve, hguard⟩ := hcondition.mpr (.inr (by decide +kernel))
    (.one "10.0.0.5, ,[::1]:80".toList) none (some ["10.0.0.0/8".toList])
  exact ⟨hresolve, hguard.trans (by decide +kernel)⟩

/-- The proxy's address, as the socket shows it, is the setting's only entry, and the proxy is taken
for the client. -/
theorem proxy_taken_for_client :
    (exampleProxy.text ∈ (trustedProxyConfig "::ffff:172.18.0.3".toList 1).addresses ∧
      Listed (trustedProxyConfig "::ffff:172.18.0.3".toList 1).addresses
        (normalizeIp exampleProxy.text) ∧
      ¬ Listed (trustedProxyConfig "::ffff:172.18.0.3".toList 1).addresses
        (normalizeIp exampleClient.text)) ∧
    resolveClientIp (arrived .absent none exampleClient [exampleProxy])
      (trustedProxyConfig "::ffff:172.18.0.3".toList 1) ≠ some (normalizeIp exampleClient.text) := by
  decide +kernel

end Jkannel.Security.ClientIp
