import Hypercolor.DeviceBinding.Ids
import Hypercolor.DeviceSettings.Store

/-!
# The client allowlist

`api/security.rs` and `api/forwarded.rs`: which clients a configuration admits, and what a loopback
proxy says about the client it relays.

* **`admitted_iff`**: a direct client is admitted exactly by an empty policy or by a rule of a
  readable one, and the summary by families says where some remote client is.
* **`relayed_client_refused`**: a client that no rule admits is refused through a proxy that records
  it in one header, whatever else the client writes.

The parser of addresses is a parameter.
-/

namespace Hypercolor.Security

open List
open Config (isWhitespace trim eqIgnoreAsciiCase)

/-! ## Addresses and rules -/

/-- `IpAddr` -/
inductive IpAddr where
  | v4 (bits : BitVec 32)
  | v6 (bits : BitVec 128)
deriving DecidableEq

namespace IpAddr

/-- `is_ipv6` -/
def isIpv6 : IpAddr → Bool
  | .v4 _ => false
  | .v6 _ => true

/-- `Ipv4Addr::octets`: the first octet of an address. -/
def octet (bits : BitVec 32) : Nat := bits.toNat / 2 ^ 24

/-- `is_loopback` -/
def isLoopback : IpAddr → Bool
  | .v4 bits => octet bits = 127
  | .v6 bits => bits = 1

end IpAddr

/-- `masked_v4`, `masked_v6` -/
def masked {w : Nat} (bits : BitVec w) (prefixLen : Nat) : BitVec w :=
  bits &&& if prefixLen = 0 then 0 else BitVec.allOnes w <<< (w - prefixLen)

/-- `cidr_prefix_valid` -/
def cidrPrefixValid : IpAddr → Nat → Bool
  | .v4 _, prefixLen => prefixLen ≤ 32
  | .v6 _, prefixLen => prefixLen ≤ 128

/-- `cidr_contains` -/
def cidrContains : IpAddr → Nat → IpAddr → Bool
  | .v4 network, prefixLen, .v4 client => masked network prefixLen = masked client prefixLen
  | .v6 network, prefixLen, .v6 client => masked network prefixLen = masked client prefixLen
  | _, _, _ => false

/-- `ClientAddressRule` -/
inductive ClientAddressRule where
  | exact (ip : IpAddr)
  | cidr (network : IpAddr) (prefixLen : Nat)

/-- `u8::from_str` -/
def parseU8 (text : List Char) : Option Nat :=
  let digits := if text.head? = some '+' then text.tail else text
  if digits = [] ∨ ¬ digits.all Char.isDigit then none
  else some (digits.foldl (fun n c => 10 * n + (c.toNat - 48)) 0) |>.filter (· < 256)

/-- `str::split_once` -/
def splitOnce (separator : Char) (text : List Char) : Option (List Char × List Char) :=
  match text.dropWhile (· ≠ separator) with
  | [] => none
  | _ :: rest => some (text.takeWhile (· ≠ separator), rest)

section Rules

variable (parseIp : List Char → Option IpAddr)

namespace ClientAddressRule

/-- `parse` -/
def parse (raw : List Char) : Option ClientAddressRule :=
  match splitOnce '/' raw with
  | some (network, prefixLen) => do
    let network ← parseIp network
    let prefixLen ← parseU8 prefixLen
    if cidrPrefixValid network prefixLen then some (.cidr network prefixLen) else none
  | none => (parseIp raw).map .exact

/-- `matches` -/
def admits : ClientAddressRule → IpAddr → Bool
  | .exact ip, client => ip = client
  | .cidr network prefixLen, client => cidrContains network prefixLen client

/-- `network` -/
def network : ClientAddressRule → IpAddr
  | .exact ip | .cidr ip _ => ip

/-- `is_loopback_only` -/
def isLoopbackOnly : ClientAddressRule → Bool
  | .exact ip => ip.isLoopback
  | .cidr (.v4 network) prefixLen => 8 ≤ prefixLen && IpAddr.octet network = 127
  | .cidr (.v6 network) prefixLen => prefixLen = 128 && (IpAddr.v6 network).isLoopback

/-- The prefix of the rule is one of its family. -/
def Valid : ClientAddressRule → Prop
  | .exact _ => True
  | .cidr network prefixLen => cidrPrefixValid network prefixLen

end ClientAddressRule

/-! ## The policy -/

/-- `NetworkAccessMode` -/
inductive NetworkAccessMode where
  | localOnly
  | lanTrusted
  | lanProtected
  | custom
deriving DecidableEq

/-- `NetworkClientScope` -/
inductive NetworkClientScope where
  | localSubnets
  | privateRanges
  | custom
deriving DecidableEq

/-- `NetworkConfig` -/
structure NetworkConfig where
  accessMode : NetworkAccessMode
  clientScope : NetworkClientScope
  remoteAccess : Bool
  allowedClients : List String

/-- `remote_access_enabled` -/
def NetworkConfig.remoteAccessEnabled (config : NetworkConfig) : Bool :=
  config.remoteAccess || config.accessMode = .lanTrusted || config.accessMode = .lanProtected

/-- `NetworkAccessPolicy` -/
structure NetworkAccessPolicy where
  allowedClients : List ClientAddressRule
  invalidRules : List String
  scopeErrors : List String

/-- `private_network_rules` -/
def privateNetworkRules : List ClientAddressRule :=
  [.cidr (.v4 0x0A000000) 8, .cidr (.v4 0xAC100000) 12, .cidr (.v4 0xC0A80000) 16,
    .cidr (.v4 0xA9FE0000) 16,
    .cidr (.v6 (0xFC00 <<< 112)) 7, .cidr (.v6 (0xFE80 <<< 112)) 10]

/-- `RemoteClientFamilies` -/
structure RemoteClientFamilies where
  ipv4 : Bool
  ipv6 : Bool

/-- `admits_family_of` -/
def RemoteClientFamilies.admitsFamilyOf (families : RemoteClientFamilies) (address : IpAddr) : Bool :=
  if address.isIpv6 then families.ipv6 else families.ipv4

namespace NetworkAccessPolicy

/-- `from_config_with_local_subnets`, its loop: one entry of the list. -/
def addRule (policy : NetworkAccessPolicy) (rawRule : String) : NetworkAccessPolicy :=
  let trimmed := trim rawRule.toList
  if trimmed = [] then policy
  else match ClientAddressRule.parse parseIp trimmed with
    | some rule => { policy with allowedClients := policy.allowedClients ++ [rule] }
    | none => { policy with invalidRules := policy.invalidRules ++ [String.ofList trimmed] }

/-- `from_config_with_local_subnets`, its first `match`: the rules of the scope. -/
def scopeRules (config : NetworkConfig) (localSubnetRules : Except String (List ClientAddressRule)) :
    NetworkAccessPolicy :=
  if config.remoteAccessEnabled && config.accessMode ≠ .custom then
    match config.clientScope with
    | .localSubnets =>
      match localSubnetRules with
      | .ok [] => ⟨[], [], ["no non-loopback local subnets found"]⟩
      | .ok rules => ⟨rules, [], []⟩
      | .error error => ⟨[], [], [error]⟩
    | .privateRanges => ⟨privateNetworkRules, [], []⟩
    | .custom => ⟨[], [], []⟩
  else ⟨[], [], []⟩

/-- `from_config_with_local_subnets` -/
def fromConfigWithLocalSubnets (config : NetworkConfig)
    (localSubnetRules : Except String (List ClientAddressRule)) : NetworkAccessPolicy :=
  let policy := config.allowedClients.foldl (addRule parseIp) (scopeRules config localSubnetRules)
  if config.remoteAccessEnabled && config.accessMode ≠ .custom && config.clientScope = .custom &&
      policy.allowedClients.isEmpty && policy.invalidRules.isEmpty then
    { policy with
      scopeErrors := policy.scopeErrors ++ ["client_scope \"custom\" lists no allowed_clients"] }
  else policy

def isEmpty (policy : NetworkAccessPolicy) : Bool :=
  policy.allowedClients.isEmpty && policy.invalidRules.isEmpty && policy.scopeErrors.isEmpty

/-- `remote_client_families` -/
def remoteClientFamilies (policy : NetworkAccessPolicy) : RemoteClientFamilies :=
  if policy.isEmpty then ⟨true, true⟩
  else if !policy.invalidRules.isEmpty || !policy.scopeErrors.isEmpty then ⟨false, false⟩
  else
    let admits ipv6 := policy.allowedClients.any fun rule =>
      !rule.isLoopbackOnly && rule.network.isIpv6 == ipv6
    ⟨admits false, admits true⟩

end NetworkAccessPolicy

/-! ## Forwarding headers -/

/-- `is_port_suffix` -/
def isPortSuffix (rest : List Char) : Bool :=
  match rest with
  | ':' :: port => !port.isEmpty && port.all Char.isDigit
  | _ => false

/-- `parse_node`, the `strip_prefix` and `strip_suffix` of the quotes -/
def unquoted (node : List Char) : List Char :=
  match node with
  | '"' :: inner => if inner.getLast? = some '"' then inner.dropLast else node
  | _ => node

/-- `parse_node` -/
def parseNode (raw : List Char) : Option IpAddr :=
  let node := unquoted (trim raw)
  match parseIp node with
  | some address => some address
  | none =>
    match node with
    | '[' :: bracketed => do
      let (inner, rest) ← splitOnce ']' bracketed
      if rest = [] ∨ isPortSuffix rest then (parseIp inner).filter (·.isIpv6) else none
    | _ => do
      let (address, port) ← splitOnce ':' node
      if isPortSuffix (':' :: port) then (parseIp address).filter (!·.isIpv6) else none

/-- `last_list_element` -/
def lastListElement (value : List Char) : List Char := trim (value.reverse.takeWhile (· ≠ ',')).reverse

/-- `split_unquoted`, its loop: the parts from a character on, when a part has begun. -/
def splitFrom (separator : Char) : Bool → Bool → List Char → List Char → Option (List (List Char))
  | quoted, _, part, [] => if quoted then none else some [part]
  | quoted, escaped, part, ch :: rest =>
    if escaped then splitFrom separator quoted false (part ++ [ch]) rest
    else if quoted ∧ ch = '\\' then splitFrom separator quoted true (part ++ [ch]) rest
    else if ch = '"' then splitFrom separator (!quoted) false (part ++ [ch]) rest
    else if ¬ quoted ∧ ch = separator then (splitFrom separator quoted false [] rest).map (part :: ·)
    else splitFrom separator quoted false (part ++ [ch]) rest

/-- `split_unquoted` -/
def splitUnquoted (value : List Char) (separator : Char) : Option (List (List Char)) :=
  splitFrom separator false false [] value

/-- `last_forwarded_for`, its loop -/
def forwardedNode : Option (List Char) → List (List Char) → Option (Option (List Char))
  | node, [] => some node
  | node, pair :: pairs =>
    if trim pair = [] then forwardedNode node pairs
    else do
      let (key, value) ← splitOnce '=' pair
      if eqIgnoreAsciiCase (trim key) "for".toList then
        if node.isSome then none else forwardedNode (some value) pairs
      else forwardedNode node pairs

/-- `last_forwarded_for` -/
def lastForwardedFor (value : List Char) : Option IpAddr := do
  let elements ← splitUnquoted value ','
  let element ← elements.getLast?
  let node ← forwardedNode none (← splitUnquoted element ';')
  parseNode parseIp (← node)

/-- `HeaderValue::to_str` -/
def toStr (value : List UInt8) : Option (List Char) :=
  if value.all fun byte => byte = 9 || (32 ≤ byte && byte < 127) then
    some (value.map fun byte => Char.ofNat byte.toNat)
  else none

/-- `HeaderMap`: the values of the headers that name a client, in order. -/
structure Headers where
  xForwardedFor : List (List UInt8) := []
  xRealIp : List (List UInt8) := []
  forwarded : List (List UInt8) := []

namespace Headers

variable (headers : Headers)

/-- `forwarding_present` -/
def forwardingPresent : Bool :=
  !headers.forwarded.isEmpty || !headers.xForwardedFor.isEmpty || !headers.xRealIp.isEmpty

/-- `last_header`: what the last value of a header claims. -/
def claim (values : List (List UInt8)) (read : List Char → Option IpAddr) : List (Option IpAddr) :=
  (values.getLast?.map fun value => (toStr value).bind read).toList

/-- `nearest_hop_claims` -/
def nearestHopClaims : List (Option IpAddr) :=
  claim headers.xForwardedFor (fun value => parseNode parseIp (lastListElement value)) ++
    claim headers.xRealIp (parseNode parseIp) ++ claim headers.forwarded (lastForwardedFor parseIp)

end Headers

/-! ## Requests -/

/-- `peer_socket_addr` and the headers -/
structure Request where
  peer : Option IpAddr
  headers : Headers

/-- `ClientOrigin` -/
inductive ClientOrigin where
  | direct (ip : IpAddr)
  | forwarded (claims : List (Option IpAddr))

/-- `client_origin` -/
def clientOrigin (request : Request) : Option ClientOrigin :=
  request.peer.map fun peer =>
    if peer.isLoopback && request.headers.forwardingPresent then
      .forwarded (request.headers.nearestHopClaims parseIp)
    else .direct peer

/-- `reject_request`, its responses -/
inductive Rejection where
  | clientIpRequired
  | invalidRules (rules : List String)
  | scopeErrors (errors : List String)
  | clientIp (ip : IpAddr)

def Rejection.message : Rejection → String
  | .clientIpRequired => "Client IP is required by network.allowed_clients"
  | .invalidRules _ => "Invalid network.allowed_clients entries; remote clients are blocked"
  | .scopeErrors _ => "Network client scope is unavailable; remote clients are blocked"
  | .clientIp _ => "Client IP is not allowed by network.allowed_clients"

/-- `Iterator::collect` into an `Option` -/
def collect : List (Option IpAddr) → Option (List IpAddr)
  | [] => some []
  | none :: _ => none
  | some address :: claims => (collect claims).map (address :: ·)

namespace NetworkAccessPolicy

variable (policy : NetworkAccessPolicy)

/-- `reject_request`, from the addresses on -/
def rejectAddresses (addresses : List IpAddr) : Option Rejection :=
  let remote := addresses.filter (!·.isLoopback)
  if remote = [] then none
  else if policy.invalidRules ≠ [] then some (.invalidRules policy.invalidRules)
  else if policy.scopeErrors ≠ [] then some (.scopeErrors policy.scopeErrors)
  else (remote.find? fun ip => !policy.allowedClients.any (·.admits ip)).map .clientIp

/-- `reject_request` -/
def rejectRequest (request : Request) : Option Rejection :=
  if policy.isEmpty then none
  else match clientOrigin parseIp request with
    | some (.direct ip) => policy.rejectAddresses [ip]
    | some (.forwarded claims) =>
      if claims = [] then some .clientIpRequired
      else match collect claims with
        | some addresses => policy.rejectAddresses addresses
        | none => some .clientIpRequired
    | none => some .clientIpRequired

end NetworkAccessPolicy

end Rules

/-! ## What a rule covers -/

/-- A bit of an address, the most significant first. -/
def IpAddr.bit : IpAddr → Nat → Bool
  | .v4 bits, i => bits.getMsbD i
  | .v6 bits, i => bits.getMsbD i

/-- The client shares the first bits of the network, or is the address of the rule. -/
def ClientAddressRule.Covers : ClientAddressRule → IpAddr → Prop
  | .exact ip, client => ip = client
  | .cidr network prefixLen, client =>
    network.isIpv6 = client.isIpv6 ∧ ∀ i < prefixLen, network.bit i = client.bit i

open NetworkAccessPolicy ClientAddressRule

section Families

variable {w len : Nat} {x y : BitVec w} {rule : ClientAddressRule} {policy : NetworkAccessPolicy}
    {ip : IpAddr}
  {parseIp : List Char → Option IpAddr}

lemma getMsbD_masked (x : BitVec w) (h : len ≤ w) (i : Nat) :
    (masked x len).getMsbD i = (x.getMsbD i && decide (i < len)) := by
  unfold masked
  rw [BitVec.getMsbD_and]
  split_ifs with hz
  · simp [hz]
  · by_cases hi : i < len
    · simp [hi, show i + (w - len) < w by omega]
    · simp [hi, show ¬ i + (w - len) < w by omega]

lemma masked_eq_iff (h : len ≤ w) : masked x len = masked y len ↔ ∀ i < len,
    x.getMsbD i = y.getMsbD i := by
  constructor
  · intro he i hi
    have hb := congrArg (·.getMsbD i) he
    simpa [getMsbD_masked _ h, hi] using hb
  · intro hb
    refine BitVec.eq_of_getMsbD_eq fun i _ => ?_
    rw [getMsbD_masked _ h, getMsbD_masked _ h]
    by_cases hi : i < len
    · rw [hb i hi]
    · simp [hi]

lemma admits_iff (hv : rule.Valid) : rule.admits ip ↔ rule.Covers ip := by
  cases rule with
  | exact o => simp [admits, Covers]
  | cidr n len =>
    cases n <;> cases ip <;>
      simp_all [ClientAddressRule.Valid, cidrPrefixValid, admits, cidrContains,
        Covers, IpAddr.isIpv6, IpAddr.bit, masked_eq_iff]

/-- The policy admits a remote client: it is empty, or it is readable and a rule covers the client. -/
def NetworkAccessPolicy.Admits (policy : NetworkAccessPolicy) (ip : IpAddr) : Prop :=
  policy.isEmpty ∨
    (policy.invalidRules = [] ∧ policy.scopeErrors = [] ∧ ∃ rule ∈ policy.allowedClients, rule.Covers ip)

/-- The last bit that every loopback address of the family has. -/
def lastLoopbackBit (ipv6 : Bool) : Nat := if ipv6 then 127 else 7

lemma bit_of_isLoopback (h : ip.isLoopback) : ip.bit (lastLoopbackBit ip.isIpv6) := by
  cases ip with
  | v4 bits =>
    have h : bits.toNat / 2 ^ 24 = 127 := of_decide_eq_true h
    change bits.getMsbD 7
    rw [BitVec.getMsbD_eq_getLsbD, BitVec.getLsbD, Nat.testBit_eq_decide_div_mod_eq, h]
    rfl
  | v6 bits =>
    have h : bits = 1 := of_decide_eq_true h
    rw [h]
    rfl

lemma octet_congr {x y : BitVec 32} (h : ∀ i < 8, x.getMsbD i = y.getMsbD i) :
    IpAddr.octet x = IpAddr.octet y := by
  refine Nat.eq_of_testBit_eq fun j => ?_
  rw [IpAddr.octet, IpAddr.octet, Nat.testBit_div_two_pow, Nat.testBit_div_two_pow]
  change x.getLsbD (j + 24) = y.getLsbD (j + 24)
  by_cases hj : j < 8
  · have hb := h (7 - j) (by omega)
    rw [BitVec.getMsbD_eq_getLsbD, BitVec.getMsbD_eq_getLsbD,
      show 32 - 1 - (7 - j) = j + 24 by omega] at hb
    simpa [show 7 - j < 32 by omega] using hb
  · rw [BitVec.getLsbD_of_ge _ _ (by omega), BitVec.getLsbD_of_ge _ _ (by omega)]

lemma isLoopback_congr {o : IpAddr} (hf : o.isIpv6 = ip.isIpv6)
    (h : ∀ i < lastLoopbackBit o.isIpv6 + 1, o.bit i = ip.bit i) : o.isLoopback = ip.isLoopback := by
  cases o with
  | v4 x =>
    cases ip with
    | v4 y => rw [IpAddr.isLoopback, IpAddr.isLoopback, octet_congr h]
    | v6 y => cases hf
  | v6 x =>
    cases ip with
    | v4 y => cases hf
    | v6 y => rw [IpAddr.isLoopback, IpAddr.isLoopback, BitVec.eq_of_getMsbD_eq h]

/-- A rule holds a remote client unless it holds only loopback addresses. -/
lemma isLoopbackOnly_iff (hv : rule.Valid) : rule.isLoopbackOnly ↔
    ∀ ip, rule.Covers ip → ip.isLoopback := by
  cases rule with
  | exact o => simp [isLoopbackOnly, Covers]
  | cidr n len =>
    have hon : (ClientAddressRule.cidr n len).isLoopbackOnly ↔
        lastLoopbackBit n.isIpv6 < len ∧ n.isLoopback := by
      cases n with
      | v4 x => simp [isLoopbackOnly, lastLoopbackBit, IpAddr.isIpv6, IpAddr.isLoopback,
          Nat.succ_le_iff]
      | v6 x =>
        have hl : len ≤ 128 := of_decide_eq_true hv
        have hi : len = 128 ↔ 127 < len := by omega
        simp [isLoopbackOnly, lastLoopbackBit, IpAddr.isIpv6, hi]
    rw [hon]
    constructor
    · rintro ⟨hl, hn⟩ ip ⟨hf, hb⟩
      exact (isLoopback_congr hf fun i hi => hb i (by omega)) ▸ hn
    · intro ha
      refine ⟨?_, ha n ⟨rfl, fun _ _ => rfl⟩⟩
      -- an address that is cut off before the last bit is no loopback address
      by_contra hl
      obtain ⟨ip, hf, hb⟩ : ∃ ip : IpAddr, ip.isIpv6 = n.isIpv6 ∧
          ∀ i, ip.bit i = (n.bit i && decide (i < len)) := by
        cases n with
        | v4 x => exact ⟨.v4 (masked x len), rfl, getMsbD_masked x (of_decide_eq_true hv)⟩
        | v6 x => exact ⟨.v6 (masked x len), rfl, getMsbD_masked x (of_decide_eq_true hv)⟩
      have hb' := bit_of_isLoopback (ha ip ⟨hf.symm, fun i hi => by simp [hb, hi]⟩)
      rw [hb, hf, decide_eq_false hl, Bool.and_false] at hb'
      cases hb'

lemma Covers.family (h : rule.Covers ip) : rule.network.isIpv6 = ip.isIpv6 := by
  cases rule with
  | exact o => exact congrArg _ h
  | cidr n len => exact h.1

/-- The rules of a policy have prefixes of their families. -/
def NetworkAccessPolicy.Valid (policy : NetworkAccessPolicy) : Prop :=
  ∀ rule ∈ policy.allowedClients, rule.Valid

lemma valid_of_parse {raw : List Char} (h : parse parseIp raw = some rule) : rule.Valid := by
  unfold parse at h
  split at h
  · obtain ⟨n, -, h⟩ := Option.bind_eq_some_iff.mp h
    obtain ⟨len, -, h⟩ := Option.bind_eq_some_iff.mp h
    split_ifs at h with hv
    cases h
    exact hv
  · obtain ⟨ip, -, rfl⟩ := Option.map_eq_some_iff.mp h
    trivial

/-- Entries only add, and leave a policy with an entry nonempty. -/
lemma addRules_spec (parseIp : List Char → Option IpAddr) (hv : policy.Valid) (raws : List String) :
    (raws.foldl (addRule parseIp) policy).Valid ∧
      (raws.foldl (addRule parseIp) policy).scopeErrors = policy.scopeErrors ∧
      ((raws.foldl (addRule parseIp) policy).allowedClients = [] → policy.allowedClients = []) := by
  induction raws generalizing policy with
  | nil => exact ⟨hv, rfl, id⟩
  | cons raw raws ih =>
    have hs : (addRule parseIp policy raw).Valid ∧
        (addRule parseIp policy raw).scopeErrors = policy.scopeErrors ∧
        ((addRule parseIp policy raw).allowedClients = [] →
          policy.allowedClients = []) := by
      unfold addRule
      dsimp only
      split_ifs
      · exact ⟨hv, rfl, id⟩
      · split
        · rename_i rule hp
          refine ⟨fun r hr => ?_, rfl, fun he => absurd he (by simp)⟩
          rcases mem_append.mp hr with hr | hr
          · exact hv r hr
          · exact mem_singleton.mp hr ▸ valid_of_parse hp
        · exact ⟨hv, rfl, id⟩
    obtain ⟨hv', he, ha⟩ := ih hs.1
    exact ⟨hv', he.trans hs.2.1, hs.2.2 ∘ ha⟩

lemma valid_privateNetworkRules : ∀ rule ∈ privateNetworkRules, rule.Valid := by
  simp [privateNetworkRules, ClientAddressRule.Valid, cidrPrefixValid]

lemma rejectRequest_direct (hv : policy.Valid) (hl : ip.isLoopback = false) (headers : Headers) :
    policy.rejectRequest parseIp ⟨some ip, headers⟩ = none ↔ policy.Admits ip := by
  have hr : policy.rejectRequest parseIp ⟨some ip, headers⟩ =
      if policy.isEmpty then none else policy.rejectAddresses [ip] := by
    simp [rejectRequest, clientOrigin, hl]
  rw [hr, Admits]
  by_cases he : policy.isEmpty
  · simp [he]
  rw [if_neg he, or_iff_right he]
  have hf : [ip].filter (!·.isLoopback) = [ip] := by simp [hl]
  unfold rejectAddresses
  dsimp only
  rw [hf, if_neg (cons_ne_nil _ _)]
  by_cases hi : policy.invalidRules = []
  · by_cases hs : policy.scopeErrors = []
    · simp only [hi, hs, not_true_eq_false, if_false, true_and, ne_eq, Option.map_eq_none_iff,
        find?_eq_none,
        mem_singleton, forall_eq, Bool.not_eq_true', Bool.not_eq_false, any_eq_true]
      exact exists_congr fun rule => and_congr_right fun hm => admits_iff (hv rule hm)
    · rw [if_neg (not_not.mpr hi), if_pos hs]
      exact iff_of_false nofun fun h => hs h.2.1
  · rw [if_pos hi]
    exact iff_of_false nofun fun h => hi h.1

lemma admitsFamilyOf_iff (hv : policy.Valid) (address : IpAddr) :
    policy.remoteClientFamilies.admitsFamilyOf address ↔ ∃ ip : IpAddr,
      ip.isIpv6 = address.isIpv6 ∧ ip.isLoopback = false ∧
        ∀ headers, policy.rejectRequest parseIp ⟨some ip, headers⟩ = none := by
  have ha : ∀ ip : IpAddr, ip.isLoopback = false →
      ((∀ headers, policy.rejectRequest parseIp ⟨some ip, headers⟩ = none) ↔ policy.Admits ip) :=
          fun ip hl =>
    ⟨fun h => (rejectRequest_direct hv hl {}).mp (h {}),
      fun h hs => (rejectRequest_direct hv hl hs).mpr h⟩
  rw [exists_congr fun ip => and_congr_right fun _ => and_congr_right (ha ip)]
  unfold remoteClientFamilies RemoteClientFamilies.admitsFamilyOf Admits
  by_cases he : policy.isEmpty
  · rw [if_pos he]
    refine iff_of_true (by split_ifs <;> rfl) ?_
    cases address with
    | v4 _ => exact ⟨.v4 0, rfl, rfl, .inl he⟩
    | v6 _ => exact ⟨.v6 0, rfl, rfl, .inl he⟩
  rw [if_neg he]
  by_cases hb : policy.invalidRules = [] ∧ policy.scopeErrors = []
  · have hn : ¬ (!policy.invalidRules.isEmpty || !policy.scopeErrors.isEmpty) := by simp [hb]
    rw [if_neg hn]
    simp only [he, hb.1, hb.2, true_and, Bool.false_eq_true, false_or]
    have hif : ∀ f : Bool → Bool, (if address.isIpv6 then f true else f false) = f address.isIpv6 :=
      fun f => by cases address.isIpv6 <;> rfl
    rw [hif fun ipv6 => policy.allowedClients.any fun rule =>
      !rule.isLoopbackOnly && rule.network.isIpv6 == ipv6, any_eq_true]
    constructor
    · rintro ⟨rule, hm, hr⟩
      obtain ⟨hlo, hf⟩ := Bool.and_eq_true_iff.mp hr
      obtain ⟨ip, hip⟩ := not_forall.mp ((isLoopbackOnly_iff (hv rule hm)).not.mp (by simpa using hlo))
      obtain ⟨hc, hl⟩ := Classical.not_imp.mp hip
      exact ⟨ip, (Covers.family hc).symm.trans (beq_iff_eq.mp hf), Bool.eq_false_iff.mpr hl, rule, hm, hc⟩
    · rintro ⟨ip, hf, hl, rule, hm, hc⟩
      refine ⟨rule, hm, Bool.and_eq_true_iff.mpr ⟨?_, beq_iff_eq.mpr ((Covers.family hc).trans hf)⟩⟩
      rw [Bool.not_eq_true', ← Bool.not_eq_true, isLoopbackOnly_iff (hv rule hm)]
      exact fun ha => absurd (ha ip hc) (by simp [hl])
  · have hn : (!policy.invalidRules.isEmpty || !policy.scopeErrors.isEmpty) := by
      rwa [Bool.or_eq_true, Bool.not_eq_true', Bool.not_eq_true', isEmpty_eq_false_iff,
        isEmpty_eq_false_iff,
        ← not_and_or]
    rw [if_pos hn]
    refine iff_of_false (by split_ifs <;> simp) ?_
    rintro ⟨ip, -, -, h | ⟨hi, hs, -⟩⟩
    · exact he h
    · exact hb ⟨hi, hs⟩

lemma clientScope_of_empty {config : NetworkConfig}
    {localSubnetRules : Except String (List ClientAddressRule)} (hr : config.remoteAccessEnabled)
    (hm : config.accessMode ≠ .custom) (ha : (scopeRules config localSubnetRules).allowedClients = [])
    (hs : (scopeRules config localSubnetRules).scopeErrors = []) : config.clientScope = .custom := by
  unfold scopeRules at ha hs
  rw [if_pos (by simp [hr, hm])] at ha hs
  cases hc : config.clientScope with
  | localSubnets =>
    rw [hc] at ha hs
    rcases localSubnetRules with _ | (_ | ⟨rule, rules⟩)
    · cases hs
    · cases hs
    · cases ha
  | privateRanges =>
    rw [hc] at ha
    cases ha
  | custom => rfl

end Families

/-- **The allowlist and its summary agree**, and no configuration for remote clients admits everyone. -/
theorem admitted_iff (parseIp : List Char → Option IpAddr) (config : NetworkConfig)
    (localSubnetRules : Except String (List ClientAddressRule))
    (hvalid : ∀ rules, localSubnetRules = .ok rules → ∀ rule ∈ rules, rule.Valid) :
    let policy := fromConfigWithLocalSubnets parseIp config localSubnetRules
    (∀ (ip : IpAddr) (headers : Headers), ip.isLoopback = false →
      (policy.rejectRequest parseIp ⟨some ip, headers⟩ = none ↔ policy.Admits ip)) ∧
      (∀ address : IpAddr, policy.remoteClientFamilies.admitsFamilyOf address = true ↔ ∃ ip : IpAddr,
        ip.isIpv6 = address.isIpv6 ∧ ip.isLoopback = false ∧
          ∀ headers, policy.rejectRequest parseIp ⟨some ip, headers⟩ = none) ∧
      (config.remoteAccessEnabled = true → config.accessMode ≠ .custom → policy.isEmpty = false) := by
  intro policy
  have hsc : (scopeRules config localSubnetRules).Valid := by
    unfold scopeRules
    split_ifs
    · split
      · split
        · exact nofun
        · exact hvalid _ rfl
        · exact nofun
      · exact valid_privateNetworkRules
      · exact nofun
    · exact nofun
  obtain ⟨hv, hs, ha⟩ := addRules_spec parseIp hsc config.allowedClients
  have hp : policy.Valid := by
    change (fromConfigWithLocalSubnets parseIp config localSubnetRules).Valid
    unfold fromConfigWithLocalSubnets
    dsimp only
    split_ifs <;> exact hv
  refine ⟨fun ip headers hl => rejectRequest_direct hp hl headers, admitsFamilyOf_iff hp, fun hr hm => ?_⟩
  change (fromConfigWithLocalSubnets parseIp config localSubnetRules).isEmpty = false
  unfold fromConfigWithLocalSubnets
  dsimp only
  split_ifs with hc
  · simp [NetworkAccessPolicy.isEmpty]
  · generalize config.allowedClients.foldl _ _ = q at hs ha hc ⊢
    by_contra hem
    simp only [NetworkAccessPolicy.isEmpty, Bool.not_eq_false, Bool.and_eq_true, List.isEmpty_iff] at hem
    obtain ⟨⟨ha', hi⟩, hs'⟩ := hem
    refine hc ?_
    rw [hr, decide_eq_true hm,
      decide_eq_true (clientScope_of_empty hr hm (ha ha') (hs.symm.trans hs')), ha', hi]
    rfl

/-- A client of the local subnet is admitted. -/
theorem admitted_iff_localSubnet :
    let policy := fromConfigWithLocalSubnets (fun _ => none)
      ⟨.lanTrusted, .localSubnets, false, []⟩ (.ok [.cidr (.v4 0xC0A80100) 24])
    policy.rejectRequest (fun _ => none) ⟨some (.v4 0xC0A8012A), {}⟩ = none ∧ policy.isEmpty = false := by
  have h := admitted_iff (fun _ => none) ⟨.lanTrusted, .localSubnets, false, []⟩
    (.ok [.cidr (.v4 0xC0A80100) 24]) fun rules hr rule hm => by
      cases hr
      rw [mem_singleton.mp hm]
      exact rfl
  exact ⟨(h.1 _ _ rfl).mpr (.inr ⟨rfl, rfl, _, mem_singleton_self _, rfl, by decide⟩), h.2.2 rfl nofun⟩

/-! ## What a proxy records -/

section Relayed

variable {parseIp : List Char → Option IpAddr} {element text e : List Char} {sep : Char}

/-- A text without escapes closes a quote that is open before it or one that is not. -/
lemma splitFrom_open (he : '\\' ∉ e) {q : Bool} {part part' : List Char}
    (h : (splitFrom sep q false part e).isSome) : splitFrom sep (!q) false part' e = none := by
  induction e generalizing q part part' with
  | nil => cases q <;> simp_all [splitFrom]
  | cons c e ih =>
    obtain ⟨hc, he⟩ := not_or.mp (mt mem_cons.mpr he)
    have hc : ∀ p : Prop, ¬ (p ∧ c = '\\') := fun p h => hc h.2.symm
    rw [splitFrom, if_neg nofun, if_neg (hc _)] at h ⊢
    by_cases hq : c = '"'
    · rw [if_pos hq] at h ⊢
      exact ih he h
    · rw [if_neg hq] at h ⊢
      have hi : ∃ p, (splitFrom sep q false p e).isSome := by
        split_ifs at h
        · exact ⟨_, Option.isSome_map.symm.trans h⟩
        · exact ⟨_, h⟩
      have hn : ∀ p, splitFrom sep (!q) false p e = none := fun _ => hi.elim fun _ => ih he
      split_ifs <;> simp [hn]

/-- The last element stays in one piece, or the quotes do not close. -/
lemma splitFrom_concat (he : '\\' ∉ e) (ho : splitUnquoted e ',' = some [e]) (before : List Char) :
    ∀ (q esc : Bool) (part : List Char), (esc → q) →
        splitFrom ',' q esc part (before ++ ',' :: e) = none ∨
        ∃ parts, splitFrom ',' q esc part (before ++ ',' :: e) = some (parts ++ [e]) := by
  have hs : (splitFrom ',' false false [] e).isSome := by
    unfold splitUnquoted at ho
    rw [ho]
    rfl
  induction before with
  | nil =>
    intro q esc part hq
    rw [nil_append, splitFrom]
    cases q with
    | true =>
      have hn : ∀ p, splitFrom ',' true false p e = none := fun _ => splitFrom_open he hs
      left
      cases esc <;> simp [hn]
    | false =>
      obtain rfl : esc = false := by simpa using hq
      refine .inr ⟨[part], ?_⟩
      unfold splitUnquoted at ho
      simp [ho]
  | cons c before ih =>
    intro q esc part hq
    rw [cons_append, splitFrom]
    split_ifs with h₁ h₂ h₃ h₄
    · exact ih _ _ _ nofun
    · exact ih _ _ _ fun _ => h₂.1
    · exact ih _ _ _ nofun
    · rcases ih q false [] nofun with hn | ⟨parts, hp⟩
      · exact .inl (by rw [hn]; rfl)
      · exact .inr ⟨part :: parts, by rw [hp]; rfl⟩
    · exact ih _ _ _ nofun

variable {pairs : List (List Char)} {v : List Char} {r : Option (List Char)}

lemma forwardedNode_some (h : forwardedNode (some v) pairs = some r) : r = some v := by
  induction pairs with
  | nil => exact (Option.some.inj h).symm
  | cons pair pairs ih =>
    rw [forwardedNode] at h
    by_cases hb : trim pair = []
    · rw [if_pos hb] at h
      exact ih h
    · rw [if_neg hb] at h
      obtain ⟨⟨k, w⟩, -, h⟩ := Option.bind_eq_some_iff.mp h
      dsimp only at h
      rw [if_pos Option.isSome_some] at h
      split_ifs at h
      exact ih h

lemma trim_ne_nil {c : Char} (h : c ∈ text) (hc : isWhitespace c = false) : trim text ≠ [] := by
  intro hn
  rw [DeviceSettings.trim_eq_rdropWhile, rdropWhile_eq_nil_iff] at hn
  have hd : c ∈ text.dropWhile isWhitespace := by
    rw [← takeWhile_append_dropWhile (p := isWhitespace) (l := text), mem_append] at h
    rcases h with h | h
    · rw [mem_takeWhile_imp h] at hc
      cases hc
    · exact h
  rw [hn c hd] at hc
  cases hc

variable {k : List Char}

lemma mem_of_splitOnce (h : splitOnce sep text = some (k, v)) : sep ∈ text := by
  by_contra hn
  have hd : text.dropWhile (· ≠ sep) = [] :=
    dropWhile_eq_nil_iff.mpr fun c hc => by simpa using fun he : c = sep => hn (he ▸ hc)
  rw [splitOnce, hd] at h
  cases h

/-- A `for=` pair is the only one that can be read. -/
lemma forwardedNode_of_mem {node : Option (List Char)} (h : forwardedNode node pairs = some r)
    {pair : List Char} (hm : pair ∈ pairs) (hp : splitOnce '=' pair = some (k, v))
    (hk : eqIgnoreAsciiCase (trim k) "for".toList) : r = some v := by
  induction pairs generalizing node with
  | nil => cases hm
  | cons u pairs ih =>
    rw [forwardedNode] at h
    rcases mem_cons.mp hm with rfl | hm
    · rw [if_neg (trim_ne_nil (mem_of_splitOnce hp) (by decide)), hp] at h
      simp only [Option.bind_eq_bind, Option.bind_some, hk, if_true] at h
      split_ifs at h
      exact forwardedNode_some h
    · by_cases hb : trim u = []
      · rw [if_pos hb] at h
        exact ih h hm
      · rw [if_neg hb] at h
        obtain ⟨⟨k', w⟩, -, h⟩ := Option.bind_eq_some_iff.mp h
        dsimp only at h
        split_ifs at h
        · exact ih h hm
        · exact ih h hm

/-- An element of `Forwarded`, with one `for=` pair that names the address, balanced quotes and no
backslash. -/
structure NamesClient (parseIp : List Char → Option IpAddr) (element : List Char) (address : IpAddr) :
    Prop where
  plain : '\\' ∉ element
  one : splitUnquoted element ',' = some [element]
  named : ∃ pairs, splitUnquoted element ';' = some pairs ∧ ∃ pair ∈ pairs, ∃ key value,
    splitOnce '=' pair = some (key, value) ∧ eqIgnoreAsciiCase (trim key) "for".toList ∧
      parseNode parseIp value = some address

/-- A value ends with an element: it is one, or a comma and the element stand at its end. -/
def Closes {α : Type} (comma : α) (value element : List α) : Prop :=
  value = element ∨ ∃ before, value = before ++ comma :: element

/-- The proxy records the address in a header; what the client wrote stands before it and in the
others. -/
def Records (parseIp : List Char → Option IpAddr) (headers : Headers) (address : IpAddr) : Prop :=
  ∃ element text, toStr element = some text ∧
    ((∃ value, headers.xForwardedFor.getLast? = some value ∧ Closes 44 value element ∧ ',' ∉ text ∧
        parseNode parseIp text = some address) ∨
      (headers.xRealIp.getLast? = some element ∧ parseNode parseIp text = some address) ∨
      ∃ value, headers.forwarded.getLast? = some value ∧ Closes 44 value element ∧
        NamesClient parseIp text address)

variable {address : IpAddr}

variable {value : List Char}

lemma lastForwardedFor_cases (h : NamesClient parseIp e address) (hv : Closes ',' value e) :
    lastForwardedFor parseIp value = none ∨ lastForwardedFor parseIp value = some address := by
  have hs : splitUnquoted value ',' = none ∨ ∃ parts, splitUnquoted value ',' = some (parts ++ [e]) := by
    rcases hv with rfl | ⟨before, rfl⟩
    · exact .inr ⟨[], h.one⟩
    · exact splitFrom_concat h.plain h.one before false false [] nofun
  obtain ⟨pairs, hps, pair, hm, k, v, hkv, hk, hn⟩ := h.named
  unfold lastForwardedFor
  rcases hs with hs | ⟨parts, hs⟩
  · exact .inl (by rw [hs]; rfl)
  · simp only [hs, Option.bind_eq_bind, Option.bind_some, getLast?_concat, hps]
    rcases hf : forwardedNode none pairs with _ | r
    · exact .inl rfl
    · rw [forwardedNode_of_mem hf hm hkv hk]
      exact .inr hn

lemma lastListElement_eq (hc : ',' ∉ e) (hv : Closes ',' value e) : lastListElement value = trim e := by
  have ht : ∀ l : List Char, (e.reverse ++ l).takeWhile (· ≠ ',') = e.reverse ++ l.takeWhile (· ≠ ',') :=
    fun l => takeWhile_append_of_pos fun c h => by
      simpa using fun he : c = ',' => hc (he ▸ mem_reverse.mp h)
  unfold lastListElement
  rcases hv with rfl | ⟨before, rfl⟩
  · have := ht []
    rw [append_nil, takeWhile_nil, append_nil] at this
    rw [this, reverse_reverse]
  · rw [reverse_append, reverse_cons, append_assoc, ht, singleton_append, takeWhile_cons_of_neg (by simp),
      append_nil, reverse_reverse]

lemma closes_toStr {value element : List UInt8} (hv : Closes 44 value element)
    (he : toStr element = some text) :
    toStr value = none ∨ ∃ full, toStr value = some full ∧ Closes ',' full text := by
  rcases hv with rfl | ⟨before, rfl⟩
  · exact .inr ⟨text, he, .inl rfl⟩
  · unfold toStr at he ⊢
    split_ifs at he ⊢ with h₁ h₂
    · cases he
      exact .inr ⟨_, rfl, .inr ⟨before.map _, by rw [map_append, map_cons]; rfl⟩⟩
    · exact .inl rfl

lemma parseNode_trim (raw : List Char) : parseNode parseIp (trim raw) = parseNode parseIp raw := by
  rw [parseNode, DeviceSettings.trim_trim]
  rfl

/-- One of the claims is the address, or names none. -/
lemma claims_of_records {headers : Headers} (h : Records parseIp headers address) :
    headers.forwardingPresent ∧ (none ∈ headers.nearestHopClaims parseIp ∨
      some address ∈ headers.nearestHopClaims parseIp) := by
  obtain ⟨element, text, he, hr⟩ := h
  have hne : ∀ {l : List (List UInt8)} {v}, l.getLast? = some v → l.isEmpty = false := fun hl => by
    rw [isEmpty_eq_false_iff]
    rintro rfl
    cases hl
  unfold Headers.nearestHopClaims Headers.forwardingPresent Headers.claim
  rcases hr with ⟨value, hl, hv, hc, hn⟩ | ⟨hl, hn⟩ | ⟨value, hl, hv, hn⟩
  · refine ⟨by simp [hne hl], ?_⟩
    rcases closes_toStr hv he with ht | ⟨full, ht, hf⟩
    · simp [hl, ht]
    · simp [hl, ht, lastListElement_eq hc hf, parseNode_trim, hn]
  · refine ⟨by simp [hne hl], ?_⟩
    simp [hl, he, hn]
  · refine ⟨by simp [hne hl], ?_⟩
    rcases closes_toStr hv he with ht | ⟨full, ht, hf⟩
    · simp [hl, ht]
    · rcases lastForwardedFor_cases hn hf with ha | ha <;> simp [hl, ht, ha]

lemma collect_eq_some {claims : List (Option IpAddr)} {addresses : List IpAddr}
    (h : collect claims = some addresses) : claims = addresses.map some := by
  induction claims generalizing addresses with
  | nil => cases h; rfl
  | cons c claims ih =>
    rcases c with _ | a
    · cases h
    · obtain ⟨rest, hr, rfl⟩ := Option.map_eq_some_iff.mp h
      rw [ih hr]
      rfl

end Relayed

/-- **A relayed client is refused** that no rule admits, if the proxy records it in one header. -/
theorem relayed_client_refused (parseIp : List Char → Option IpAddr) (policy : NetworkAccessPolicy)
    (hpolicy : policy.isEmpty = false) (client : IpAddr) (hremote : client.isLoopback = false)
    (hunmatched : ∀ rule ∈ policy.allowedClients, rule.admits client = false)
    (proxy : IpAddr) (hproxy : proxy.isLoopback) (headers : Headers)
    (hrecords : Records parseIp headers client) :
    (policy.rejectRequest parseIp ⟨some proxy, headers⟩).isSome := by
  obtain ⟨hf, hc⟩ := claims_of_records hrecords
  unfold rejectRequest clientOrigin
  simp only [hpolicy, Option.map_some, hproxy, hf, Bool.and_self, if_true, Bool.false_eq_true, if_false]
  have hn : headers.nearestHopClaims parseIp ≠ [] := by
    rcases hc with hc | hc <;> exact ne_nil_of_mem hc
  rw [if_neg hn]
  rcases ha : collect (headers.nearestHopClaims parseIp) with _ | addresses
  · rfl
  rw [collect_eq_some ha] at hc
  have hm : client ∈ addresses.filter (!·.isLoopback) := by simpa [hremote] using hc
  unfold rejectAddresses
  dsimp only
  rw [if_neg (ne_nil_of_mem hm)]
  split_ifs
  · rfl
  · rfl
  · rw [Option.isSome_map, find?_isSome]
    exact ⟨client, hm, by simpa using hunmatched⟩

/-- A client that claims to be the loopback. -/
theorem relayed_client_refused_spoofed :
    let text : String → List UInt8 := fun s => s.toList.map fun c => c.toNat.toUInt8
    let parseIp : List Char → Option IpAddr := fun t =>
      if t = "203.0.113.7".toList then some (.v4 0xCB007107)
      else if t = "127.0.0.1".toList then some (.v4 0x7F000001) else none
    (rejectRequest parseIp ⟨[.cidr (.v4 0xC0A80100) 24], [], []⟩
      ⟨some (.v4 0x7F000001),
        { xForwardedFor := [text "127.0.0.1,203.0.113.7"], xRealIp := [text "127.0.0.1"] }⟩).isSome := by
  intro text parseIp
  refine relayed_client_refused parseIp _ rfl (.v4 0xCB007107) rfl (by decide) _ rfl _
    ⟨text "203.0.113.7", "203.0.113.7".toList, by decide +kernel,
      .inl ⟨_, rfl, .inr ⟨text "127.0.0.1", ?_⟩, ?_, ?_⟩⟩
  all_goals decide +kernel

end Hypercolor.Security
