import CoreOps.Marketing.PublicUrl

/-! Which addresses the hosts of accepted URLs denote: as a resolver reads a numeric host, and
as `ipaddress` reads one of version 6. -/

namespace CoreOps.Marketing.PublicUrl

open Checked IpAddress

/-- The part of `_reject_unsafe_ip` for version 4: private addresses, and those that are loopback,
link-local, multicast, reserved or unspecified. -/
def refusedIPv4 (address : ℕ) : Option String :=
  if address = quad 169 254 169 254 then some "metadata_ip_forbidden"
  else if isPrivateIPv4 address ∨ inAny 32 [⟨quad 127 0 0 0, 8⟩, ⟨quad 169 254 0 0, 16⟩, ⟨quad 224 0 0 0, 4⟩,
      ⟨quad 240 0 0 0, 4⟩, ⟨0, 32⟩] address then some "unsafe_ip_forbidden"
  else none

/-- The part for version 6, where no address is that of the metadata host. -/
def refusedIPv6 (address : ℕ) : Option String :=
  if isPrivateIPv6 address ∨ isReservedIPv6 address ∨
      inAny 128 [⟨1, 128⟩, ⟨ipv6 0xfe80 0 0 0, 10⟩, ⟨ipv6 0xff00 0 0 0, 8⟩, ⟨0, 128⟩] address then some "unsafe_ip_forbidden"
  else none

/-- `_is_ip_literal` and what `_reject_unsafe_ip` then does. -/
def ipAddress (host : List Char) : Option (Option String) :=
  match parseIPv4 host with
  | some address => some (refusedIPv4 address)
  | none => (parseIPv6 host).map refusedIPv6

/-- The host that is checked. -/
def hostOf (t : UrlTables) (rawUrl : List Char) : Option (List Char) := do
  let parsed ← urlparse t.checks rawUrl
  let name ← t.hostname parsed.netloc
  return canonicalHost t name

/-- A host that denotes no address, or one that is global. -/
structure GlobalHost (host : List Char) : Prop where
  ipv4 : ∀ address, inetAton host = some address → isGlobalIPv4 address = true
  ipv6 : ∀ address, parseIPv6 host = some address → isGlobalIPv6 address = true

/-- A spelling that `ipaddress` does not know: less than four parts, or one that is hexadecimal. -/
def isOtherSpelling (host : List Char) : Bool := (pieces '.' host).length ≠ 4 ∨ (pieces '.' host).any isHexPart

section Spellings

variable {t : UrlTables} {host : List Char} {address : ℕ}

theorem ipAddress_chars {refused : Option String} (h : ipAddress host = some refused) :
    ':' ∈ host ∨ ∀ c ∈ host, (48 ≤ c.toNat ∧ c.toNat ≤ 57) ∨ c = '.' := by
  unfold ipAddress at h
  split at h
  · rename_i address hparse
    refine .inr fun c hc => (parseIPv4_chars hparse hc).imp_left fun hdigit => ?_
    simp only [Char.isDigit, Bool.and_eq_true, decide_eq_true_eq, ge_iff_le, UInt32.le_iff_toNat_le] at hdigit
    exact hdigit
  · obtain ⟨address, hparse, -⟩ := Option.map_eq_some_iff.1 h
    exact .inl (colon_mem_of_parseIPv6 hparse)

/-- A literal that was not refused. -/
theorem not_refused (hip : t.ipAddress = ipAddress) (h : checkHost t host = .ok ()) {refused : Option String}
    (hrefused : ipAddress host = some refused) : refused = none := by
  simp only [checkHost, bind_eq_ok, rejectOrCheckLabels, hip, hrefused] at h
  obtain ⟨-, -, -, -, -, -, -, -, -, -, -, -, h⟩ := h
  cases refused with
  | none => rfl
  | some code => cases h

theorem not_obfuscated (h : checkHost t host = .ok ()) : isObfuscatedNumericHost t host = false := by
  simp only [checkHost, bind_eq_ok, raiseIf_eq_ok] at h
  obtain ⟨-, -, -, -, -, -, -, -, -, -, -, hobfuscated, -⟩ := h
  exact Bool.eq_false_iff.2 hobfuscated

/-- In a numeric host without hexadecimal parts that was accepted, no part has zeros in front. -/
theorem zero_of_checkHost (h : checkHost t host = .ok ()) (hparse : inetAton host = some address)
    (hhex : ∀ piece ∈ pieces '.' host, isHexPart piece = false) :
    ∀ piece ∈ pieces '.' host, piece.head? = some '0' → piece = ['0'] := by
  obtain ⟨parts, hparts, -⟩ := Option.bind_eq_some_iff.1 hparse
  have hdigits : ∀ piece ∈ pieces '.' host, ∀ c ∈ piece, c.isDigit = true := by
    intro piece hpiece
    obtain ⟨n, hn⟩ := exists_of_mapM hparts piece hpiece
    exact isDigit_of_part? (hhex piece hpiece) hn
  have hall : host.all (fun c => c.isDigit ∨ c = '.') = true := by
    refine List.all_eq_true.2 fun c hc => decide_eq_true ?_
    rcases mem_pieces (c := '.') hc with hdot | ⟨piece, hpiece, hmem⟩
    · exact .inr hdot
    · exact .inl (hdigits piece hpiece c hmem)
  have hne : host ≠ [] := by
    rintro rfl
    cases hparse
  have hzero : (labels host).any hasLeadingZero = false := by
    have hobfuscated := not_obfuscated h
    simp only [isObfuscatedNumericHost, decide_eq_false_iff_not, not_or, not_and] at hobfuscated
    exact Bool.eq_false_iff.2 (hobfuscated.2.2.2 hne hall)
  intro piece hpiece hhead
  obtain ⟨rest, rfl⟩ : ∃ rest, piece = '0' :: rest := by
    cases piece with
    | nil => cases hhead
    | cons c rest => exact ⟨rest, by rw [Option.some.inj hhead]⟩
  cases rest with
  | nil => rfl
  | cons c rest =>
    have hleading : hasLeadingZero ('0' :: c :: rest) = true :=
      hdigits _ hpiece c (List.mem_cons_of_mem _ List.mem_cons_self)
    rw [show (labels host).any hasLeadingZero = true from List.any_eq_true.2 ⟨_, hpiece, hleading⟩] at hzero
    cases hzero

theorem not_private_of_checkHost (hip : t.ipAddress = ipAddress) (h : checkHost t host = .ok ())
    (hparse : inetAton host = some address) (hspelling : isOtherSpelling host = false) : isPrivateIPv4 address = false := by
  simp only [isOtherSpelling, decide_eq_false_iff_not, not_or, not_not] at hspelling
  have hhex : ∀ piece ∈ pieces '.' host, isHexPart piece = false :=
    fun piece hpiece => Bool.eq_false_iff.2 fun hpart => hspelling.2 (List.any_eq_true.2 ⟨piece, hpiece, hpart⟩)
  have hliteral := parseIPv4_of_inetAton hparse hspelling.1 hhex (zero_of_checkHost h hparse hhex)
  have hnone : refusedIPv4 address = none := not_refused hip h (by rw [ipAddress, hliteral])
  rw [refusedIPv4] at hnone
  split at hnone
  · cases hnone
  · split at hnone
    · cases hnone
    · rename_i hunsafe
      exact Bool.eq_false_iff.2 fun hprivate => hunsafe (.inl hprivate)

/-- No literal of version 6 that is not global is accepted. -/
theorem global_of_parseIPv6 (hip : t.ipAddress = ipAddress) (h : checkHost t host = .ok ())
    (hparse : parseIPv6 host = some address) : isGlobalIPv6 address = true := by
  have hfour : parseIPv4 host = none := by
    cases hfour : parseIPv4 host with
    | none => rfl
    | some other =>
      have hchar := parseIPv4_chars hfour (colon_mem_of_parseIPv6 hparse)
      exact absurd hchar (by decide)
  have hnone : refusedIPv6 address = none := not_refused hip h (by rw [ipAddress, hfour, hparse]; rfl)
  rw [refusedIPv6] at hnone
  split at hnone
  · cases hnone
  · rename_i hunsafe
    rw [not_or, not_or] at hunsafe
    obtain ⟨hprivate, hreserved, -⟩ := hunsafe
    cases hmapped : mapped address with
    | some v4 => exact absurd (isReservedIPv6_of_mapped hmapped) hreserved
    | none =>
      simp only [isGlobalIPv6, hmapped, Bool.eq_false_iff.2 hprivate]
      rfl

end Spellings

/-- The host of an accepted URL denotes no address that is not global just when it is, as a
resolver reads it, neither in the shared networks nor one of the private networks in a spelling
that `ipaddress` does not know. -/
theorem accepted_host_global_iff {t : UrlTables} {rawUrl : List Char} {maxUrlLength : Option ℤ}
    {result : PublicUrlValidationResult} (hip : t.ipAddress = ipAddress)
    (h : validatePublicUrl t rawUrl maxUrlLength = .ok result) :
    (∀ host, hostOf t rawUrl = some host → GlobalHost host) ↔
    ∀ host address, hostOf t rawUrl = some host → inetAton host = some address →
      isShared address = false ∧ (isOtherSpelling host = true → isPrivateIPv4 address = false) := by
  obtain ⟨parsed, name, haccepts, -⟩ := validatePublicUrl_eq_ok.1 h
  have hhost : hostOf t rawUrl = some (canonicalHost t name) := by
    simp only [hostOf, haccepts.parses, haccepts.hostname, Option.bind_eq_bind, Option.bind_some, Option.pure_def]
  rw [hhost]
  constructor
  · intro hglobal host address hsome hparse
    have hfour := (hglobal host hsome).ipv4 address hparse
    simp only [isGlobalIPv4, Bool.and_eq_true, Bool.not_eq_true'] at hfour
    exact ⟨hfour.1, fun _ => hfour.2⟩
  · intro hcondition host hsome
    obtain rfl := Option.some.inj hsome
    constructor
    case ipv4 =>
      intro address hparse
      obtain ⟨hshared, hprivate⟩ := hcondition _ address rfl hparse
      have hnot : isPrivateIPv4 address = false := by
        cases hspelling : isOtherSpelling (canonicalHost t name) with
        | true => exact hprivate hspelling
        | false => exact not_private_of_checkHost hip haccepts.host hparse hspelling
      simp only [isGlobalIPv4, hshared, hnot, Bool.not_false, Bool.and_self]
    case ipv6 => exact fun address => global_of_parseIPv6 hip haccepts.host

/-- The tables for a host of ASCII characters whose digest is known. -/
def addressTables (digest : String) : UrlTables :=
  { asciiTables with
    ipAddress := ipAddress
    sha256 := fun _ => digest
    ipAddress_chars := fun _ _ => ipAddress_chars }

def resolverTables : UrlTables := addressTables "838c4c2573848f58e74332341a7ca6bc5cd86a8aec7d644137d53b4d597f10f5"

def loopbackTables : UrlTables := addressTables "5edd0e0c68240322d88a64a822fd2acbea1cb808a8c0bacda99d0b8d2d6521bb"

theorem numeric_hosts_accepted :
    validatePublicUrl resolverTables "https://8.8.8.8/a.png".toList none =
      .ok (resultOf resolverTables "8.8.8.8".toList "/a.png".toList) ∧
    (validatePublicUrl loopbackTables "https://127.1/a.png".toList none).isOk = true ∧
    hostOf loopbackTables "https://127.1/a.png".toList = some "127.1".toList ∧
    inetAton "127.1".toList = some (quad 127 0 0 1) ∧ isGlobalIPv4 (quad 127 0 0 1) = false := by
  decide +kernel

theorem accepted_host_global_resolver :
    let url := "https://8.8.8.8/a.png".toList
    (∀ host, hostOf resolverTables url = some host → GlobalHost host) ↔
    ∀ host address, hostOf resolverTables url = some host → inetAton host = some address →
      isShared address = false ∧ (isOtherSpelling host = true → isPrivateIPv4 address = false) :=
  accepted_host_global_iff rfl numeric_hosts_accepted.1

/-- A loopback address in two parts is accepted. -/
theorem loopback_in_two_parts_accepted :
    let url := "https://127.1/a.png".toList
    (validatePublicUrl loopbackTables url none).isOk = true ∧ hostOf loopbackTables url = some "127.1".toList ∧
      ¬ GlobalHost "127.1".toList := by
  obtain ⟨-, hok, hhost, hparse, hprivate⟩ := numeric_hosts_accepted
  refine ⟨hok, hhost, fun hglobal => ?_⟩
  have hfour := hglobal.ipv4 _ hparse
  rw [hprivate] at hfour
  cases hfour

end CoreOps.Marketing.PublicUrl
