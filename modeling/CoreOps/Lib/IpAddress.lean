import Mathlib.Algebra.Order.Ring.Nat
import Mathlib.Data.List.TakeDrop
import Mathlib.Tactic.Ring

/-! Addresses as text: how resolvers read a numeric host, in one to four parts of which each is
decimal, octal or hexadecimal; how `ipaddress` reads one; and the networks it has tables of. -/

namespace IpAddress

/-- `text.split(c)`. -/
def pieces (c : Char) : List Char → List (List Char)
  | [] => [[]]
  | d :: ds =>
    if d = c then [] :: pieces c ds
    else
      match pieces c ds with
      | [] => [[d]]
      | piece :: rest => (d :: piece) :: rest

def digitValue? (c : Char) : Option ℕ :=
  if 48 ≤ c.toNat ∧ c.toNat ≤ 57 then some (c.toNat - 48)
  else if 97 ≤ c.toNat ∧ c.toNat ≤ 102 then some (c.toNat - 87)
  else if 65 ≤ c.toNat ∧ c.toNat ≤ 70 then some (c.toNat - 55)
  else none

def digit? (base : ℕ) (c : Char) : Option ℕ := (digitValue? c).bind fun d => if d < base then some d else none

/-- The number of the digits, behind those that made `n`. -/
def numberFrom (base : ℕ) : ℕ → List Char → Option ℕ
  | n, [] => some n
  | n, c :: cs => (digit? base c).bind fun d => numberFrom base (base * n + d) cs

def isHexPart : List Char → Bool
  | c :: d :: _ => c = '0' ∧ (d = 'x' ∨ d = 'X')
  | _ => false

/-- One part of a numeric host. -/
def part? (text : List Char) : Option ℕ :=
  if isHexPart text then if text.length = 2 then none else numberFrom 16 0 (text.drop 2)
  else if text = [] then none
  else numberFrom (if text.head? = some '0' then 8 else 10) 0 text

def quad (a b c d : ℕ) : ℕ := a * 2 ^ 24 + b * 2 ^ 16 + c * 2 ^ 8 + d

/-- The last part has all the bytes that are left. -/
def ofParts : List ℕ → Option ℕ
  | [a] => if a < 2 ^ 32 then some a else none
  | [a, b] => if a < 256 ∧ b < 2 ^ 24 then some (a * 2 ^ 24 + b) else none
  | [a, b, c] => if a < 256 ∧ b < 256 ∧ c < 2 ^ 16 then some (a * 2 ^ 24 + b * 2 ^ 16 + c) else none
  | [a, b, c, d] => if a < 256 ∧ b < 256 ∧ c < 256 ∧ d < 256 then some (quad a b c d) else none
  | _ => none

/-- `inet_aton`. -/
def inetAton (host : List Char) : Option ℕ := ((pieces '.' host).mapM part?).bind ofParts

/-- `_parse_octet`. -/
def octet? (text : List Char) : Option ℕ :=
  if text.all Char.isDigit ∧ text.length ≤ 3 ∧ text ≠ [] ∧ (text = ['0'] ∨ text.head? ≠ some '0') then
    (numberFrom 10 0 text).bind fun n => if n ≤ 255 then some n else none
  else none

/-- `IPv4Address`. -/
def parseIPv4 (host : List Char) : Option ℕ :=
  match (pieces '.' host).mapM octet? with
  | some [a, b, c, d] => some (quad a b c d)
  | _ => none

/-- `_parse_hextet`. -/
def hextet? (text : List Char) : Option ℕ := if text.length ≤ 4 ∧ text ≠ [] then numberFrom 16 0 text else none

/-- The number of hextets that stand one behind the other. -/
def hextets (texts : List (List Char)) : Option ℕ :=
  (texts.mapM hextet?).map fun values => values.foldl (fun n value => n * 2 ^ 16 + value) 0

/-- The parts between colons, with an address of version 4 at the end in hexadecimal. -/
def colonParts (address : List Char) : Option (List (List Char)) :=
  let parts := pieces ':' address
  let last := parts.getLast?.getD []
  if parts.length < 3 then none
  else if '.' ∈ last then
    (parseIPv4 last).map fun n => parts.dropLast ++ [Nat.toDigits 16 (n / 2 ^ 16), Nat.toDigits 16 (n % 2 ^ 16)]
  else some parts

/-- Where two colons stand with nothing in between. -/
def skips (parts : List (List Char)) : List ℕ :=
  (List.range parts.length).filter fun i => 1 ≤ i ∧ i + 1 < parts.length ∧ parts[i]? = some []

/-- `_ip_int_from_string`. -/
def ofColonParts (parts : List (List Char)) : Option ℕ :=
  let first := parts.head?.getD []
  let last := parts.getLast?.getD []
  if 9 < parts.length then none
  else
    match skips parts with
    | [] => if parts.length ≠ 8 ∨ first = [] ∨ last = [] then none else hextets parts
    | [skip] =>
      if (first = [] ∧ skip ≠ 1) ∨ (last = [] ∧ skip + 2 ≠ parts.length) then none
      else
        let high := if first = [] then [] else parts.take skip
        let low := if last = [] then [] else parts.drop (skip + 1)
        if 8 ≤ high.length + low.length then none
        else do
          let n ← hextets high
          let m ← hextets low
          return n * 2 ^ (16 * (8 - high.length)) + m
    | _ => none

/-- `IPv6Address`; a zone may stand behind a percent sign. -/
def parseIPv6 (host : List Char) : Option ℕ :=
  let zone := host.dropWhile (· ≠ '%')
  if '/' ∈ host ∨ zone = ['%'] ∨ '%' ∈ zone.tail then none
  else (colonParts (host.takeWhile (· ≠ '%'))).bind ofColonParts

/-! Networks. -/

structure Network where
  address : ℕ
  bits : ℕ

/-- Whether an address of `width` bits is in the network. -/
def Network.contains (width : ℕ) (n : Network) (address : ℕ) : Bool :=
  address / 2 ^ (width - n.bits) = n.address / 2 ^ (width - n.bits)

def privateIPv4 : List Network :=
  [⟨quad 0 0 0 0, 8⟩, ⟨quad 10 0 0 0, 8⟩, ⟨quad 127 0 0 0, 8⟩, ⟨quad 169 254 0 0, 16⟩, ⟨quad 172 16 0 0, 12⟩,
   ⟨quad 192 0 0 0, 24⟩, ⟨quad 192 0 0 170, 31⟩, ⟨quad 192 0 2 0, 24⟩, ⟨quad 192 168 0 0, 16⟩, ⟨quad 198 18 0 0, 15⟩,
   ⟨quad 198 51 100 0, 24⟩, ⟨quad 203 0 113 0, 24⟩, ⟨quad 240 0 0 0, 4⟩, ⟨quad 255 255 255 255, 32⟩]

def notPrivateIPv4 : List Network := [⟨quad 192 0 0 9, 32⟩, ⟨quad 192 0 0 10, 32⟩]

/-- The first hextets of an address of version 6. -/
def ipv6 (a b c d : ℕ) : ℕ := a * 2 ^ 112 + b * 2 ^ 96 + c * 2 ^ 80 + d * 2 ^ 64

def privateIPv6 : List Network :=
  [⟨1, 128⟩, ⟨0, 128⟩, ⟨0xffff * 2 ^ 32, 96⟩, ⟨ipv6 0x64 0xff9b 1 0, 48⟩, ⟨ipv6 0x100 0 0 0, 64⟩, ⟨ipv6 0x2001 0 0 0, 23⟩,
   ⟨ipv6 0x2001 0xdb8 0 0, 32⟩, ⟨ipv6 0x2002 0 0 0, 16⟩, ⟨ipv6 0x3fff 0 0 0, 20⟩, ⟨ipv6 0xfc00 0 0 0, 7⟩,
   ⟨ipv6 0xfe80 0 0 0, 10⟩]

def notPrivateIPv6 : List Network :=
  [⟨ipv6 0x2001 1 0 0 + 1, 128⟩, ⟨ipv6 0x2001 1 0 0 + 2, 128⟩, ⟨ipv6 0x2001 3 0 0, 32⟩, ⟨ipv6 0x2001 4 0x112 0, 48⟩,
   ⟨ipv6 0x2001 0x20 0 0, 28⟩, ⟨ipv6 0x2001 0x30 0 0, 28⟩]

def reservedIPv6 : List Network :=
  [⟨0, 8⟩, ⟨ipv6 0x100 0 0 0, 8⟩, ⟨ipv6 0x200 0 0 0, 7⟩, ⟨ipv6 0x400 0 0 0, 6⟩, ⟨ipv6 0x800 0 0 0, 5⟩,
   ⟨ipv6 0x1000 0 0 0, 4⟩, ⟨ipv6 0x4000 0 0 0, 3⟩, ⟨ipv6 0x6000 0 0 0, 3⟩, ⟨ipv6 0x8000 0 0 0, 3⟩,
   ⟨ipv6 0xa000 0 0 0, 3⟩, ⟨ipv6 0xc000 0 0 0, 3⟩, ⟨ipv6 0xe000 0 0 0, 4⟩, ⟨ipv6 0xf000 0 0 0, 5⟩,
   ⟨ipv6 0xf800 0 0 0, 6⟩, ⟨ipv6 0xfe00 0 0 0, 9⟩]

def inAny (width : ℕ) (networks : List Network) (address : ℕ) : Bool := networks.any fun n => n.contains width address

def isPrivateIPv4 (address : ℕ) : Bool := inAny 32 privateIPv4 address && !inAny 32 notPrivateIPv4 address

/-- The addresses that providers share, which are neither private nor global. -/
def isShared (address : ℕ) : Bool := (Network.mk (quad 100 64 0 0) 10).contains 32 address

def isGlobalIPv4 (address : ℕ) : Bool := !isShared address && !isPrivateIPv4 address

/-- `ipv4_mapped`. -/
def mapped (address : ℕ) : Option ℕ := if address / 2 ^ 32 = 0xffff then some (address % 2 ^ 32) else none

def isPrivateIPv6 (address : ℕ) : Bool :=
  match mapped address with
  | some v4 => isPrivateIPv4 v4
  | none => inAny 128 privateIPv6 address && !inAny 128 notPrivateIPv6 address

def isReservedIPv6 (address : ℕ) : Bool := inAny 128 reservedIPv6 address

def isGlobalIPv6 (address : ℕ) : Bool :=
  match mapped address with
  | some v4 => isGlobalIPv4 v4
  | none => !isPrivateIPv6 address

theorem isReservedIPv6_of_mapped {address v4 : ℕ} (h : mapped address = some v4) : isReservedIPv6 address = true := by
  unfold mapped at h
  split at h
  · refine List.any_eq_true.2 ⟨⟨0, 8⟩, List.mem_cons_self, ?_⟩
    simp only [Network.contains, decide_eq_true_eq]
    omega
  · cases h

/-! Pieces. -/

section Pieces

variable {c d : Char} {text : List Char}

theorem mem_pieces (hd : d ∈ text) : d = c ∨ ∃ piece ∈ pieces c text, d ∈ piece := by
  induction text with
  | nil => cases hd
  | cons e text ih =>
    have hkeep : (∃ piece ∈ pieces c text, d ∈ piece) → ∃ piece ∈ pieces c (e :: text), d ∈ piece := by
      rintro ⟨piece, hpiece, hmem⟩
      unfold pieces
      split
      · exact ⟨piece, List.mem_cons_of_mem _ hpiece, hmem⟩
      · split
        · rename_i hnil
          rw [hnil] at hpiece
          cases hpiece
        · rename_i first rest hcons
          rw [hcons] at hpiece
          rcases List.mem_cons.1 hpiece with rfl | hpiece
          · exact ⟨e :: piece, List.mem_cons_self, List.mem_cons_of_mem _ hmem⟩
          · exact ⟨piece, List.mem_cons_of_mem _ hpiece, hmem⟩
    rcases List.mem_cons.1 hd with rfl | hd
    · by_cases hc : d = c
      · exact .inl hc
      · refine .inr ?_
        unfold pieces
        rw [if_neg hc]
        split
        · exact ⟨[d], List.mem_cons_self, List.mem_cons_self⟩
        · exact ⟨_, List.mem_cons_self, List.mem_cons_self⟩
    · exact (ih hd).imp_right hkeep

theorem pieces_eq_self (h : c ∉ text) : pieces c text = [text] := by
  induction text with
  | nil => rfl
  | cons d text ih =>
    have hne : d ≠ c := fun he => h (he ▸ List.mem_cons_self)
    rw [pieces, if_neg hne, ih fun hmem => h (List.mem_cons_of_mem _ hmem)]

end Pieces

/-! Numbers. -/

section Numbers

variable {base n m : ℕ} {c : Char} {text : List Char}

/-- The digits of a number in a base up to ten. -/
theorem isDigit_of_digit? (hbase : base ≤ 10) (h : digit? base c = some m) : c.isDigit = true ∧ m = c.toNat - 48 := by
  obtain ⟨d, hd, hlt⟩ := Option.bind_eq_some_iff.1 h
  split at hlt
  · obtain rfl := Option.some.inj hlt
    unfold digitValue? at hd
    split at hd
    · rename_i hdigit
      refine ⟨?_, (Option.some.inj hd).symm⟩
      simp only [Char.isDigit, Bool.and_eq_true, decide_eq_true_eq, ge_iff_le, UInt32.le_iff_toNat_le]
      exact hdigit
    · split at hd
      · have hvalue := Option.some.inj hd
        omega
      · split at hd
        · have hvalue := Option.some.inj hd
          omega
        · cases hd
  · cases hlt

theorem isDigit_of_numberFrom (hbase : base ≤ 10) (h : numberFrom base n text = some m) : ∀ c ∈ text, c.isDigit = true := by
  induction text generalizing n with
  | nil => exact fun _ hc => absurd hc List.not_mem_nil
  | cons c text ih =>
    obtain ⟨d, hd, hrest⟩ := Option.bind_eq_some_iff.1 h
    exact List.forall_mem_cons.2 ⟨(isDigit_of_digit? hbase hd).1, ih hrest⟩

theorem le_of_numberFrom (h : numberFrom base n text = some m) : n * base ^ text.length ≤ m := by
  induction text generalizing n with
  | nil =>
    obtain rfl := Option.some.inj h
    rw [List.length_nil, pow_zero, mul_one]
  | cons c text ih =>
    obtain ⟨d, -, hrest⟩ := Option.bind_eq_some_iff.1 h
    calc
      n * base ^ (c :: text).length = base * n * base ^ text.length := by rw [List.length_cons, pow_succ]; ring
      _ ≤ (base * n + d) * base ^ text.length := Nat.mul_le_mul_right _ (Nat.le_add_right _ _)
      _ ≤ m := ih hrest

theorem isDigit_of_part? (hhex : isHexPart text = false) (h : part? text = some n) : ∀ c ∈ text, c.isDigit = true := by
  rw [part?, hhex, if_neg Bool.false_ne_true] at h
  split at h
  · cases h
  · refine isDigit_of_numberFrom ?_ h
    split
    · decide
    · decide

/-- A part in decimal without zeros in front, of a byte. -/
theorem octet?_of_part? (hhex : isHexPart text = false) (hzero : text.head? = some '0' → text = ['0'])
    (h : part? text = some n) (hn : n < 256) : octet? text = some n := by
  rw [part?, hhex, if_neg Bool.false_ne_true] at h
  cases text with
  | nil => cases h
  | cons c text =>
    rw [if_neg (List.cons_ne_nil _ _)] at h
    by_cases hc : c = '0'
    · subst hc
      obtain rfl : text = [] := (List.cons.inj (hzero rfl)).2
      obtain rfl := Option.some.inj h
      rfl
    · have hhead : (c :: text).head? ≠ some '0' := fun he => hc (Option.some.inj he)
      rw [if_neg hhead] at h
      obtain ⟨d, hd, hrest⟩ := Option.bind_eq_some_iff.1 h
      have hdigits := isDigit_of_numberFrom (by decide) h
      have hpos : 1 ≤ d := by
        obtain ⟨hdigit, hvalue⟩ := isDigit_of_digit? (by decide) hd
        have hnat : c.toNat ≠ 48 := fun he => hc (Char.ext (UInt32.toNat_inj.1 he))
        simp only [Char.isDigit, Bool.and_eq_true, decide_eq_true_eq, ge_iff_le, UInt32.le_iff_toNat_le] at hdigit
        have hle : 48 ≤ c.toNat := hdigit.1
        omega
      have hlength : text.length < 3 := by
        by_contra hlong
        have hpow : 10 ^ 3 ≤ 10 ^ text.length := Nat.pow_le_pow_right (by decide) (by omega)
        have hle := le_of_numberFrom hrest
        have hone : 1 * 10 ^ text.length ≤ (10 * 0 + d) * 10 ^ text.length := Nat.mul_le_mul_right _ (by omega)
        omega
      have hall : (c :: text).all Char.isDigit ∧ (c :: text).length ≤ 3 ∧ c :: text ≠ [] ∧
          (c :: text = ['0'] ∨ (c :: text).head? ≠ some '0') :=
        ⟨List.all_eq_true.2 hdigits, by rw [List.length_cons]; omega, List.cons_ne_nil _ _, .inr hhead⟩
      rw [octet?, if_pos hall, h, Option.bind_some, if_pos (by omega)]

end Numbers

/-! Hosts. -/

section Hosts

variable {host : List Char} {address : ℕ} {c : Char}

/-- A host of four parts in decimal without zeros in front is read as `ipaddress` reads it. -/
theorem parseIPv4_of_inetAton (h : inetAton host = some address) (hlength : (pieces '.' host).length = 4)
    (hhex : ∀ piece ∈ pieces '.' host, isHexPart piece = false)
    (hzero : ∀ piece ∈ pieces '.' host, piece.head? = some '0' → piece = ['0']) : parseIPv4 host = some address := by
  obtain ⟨parts, hparts, hvalue⟩ := Option.bind_eq_some_iff.1 h
  unfold parseIPv4
  match hpieces : pieces '.' host, hlength with
  | [p, q, r, s], _ =>
    rw [hpieces] at hparts hhex hzero
    simp only [List.mapM_cons, List.mapM_nil, Option.bind_eq_bind, Option.pure_def, Option.bind_eq_some_iff,
      Option.some.injEq] at hparts
    obtain ⟨a, ha, -, ⟨b, hb, -, ⟨c, hc, -, ⟨d, hd, -, rfl, rfl⟩, rfl⟩, rfl⟩, rfl⟩ := hparts
    simp only [ofParts] at hvalue
    split at hvalue
    · rename_i hbytes
      have hoctet : ∀ piece ∈ [p, q, r, s], ∀ n, part? piece = some n → n < 256 → octet? piece = some n :=
        fun piece hpiece n hn hlt => octet?_of_part? (hhex piece hpiece) (hzero piece hpiece) hn hlt
      simp only [List.mapM_cons, List.mapM_nil, hoctet p (by simp) a ha hbytes.1, hoctet q (by simp) b hb hbytes.2.1,
        hoctet r (by simp) c hc hbytes.2.2.1, hoctet s (by simp) d hd hbytes.2.2.2]
      exact hvalue
    · cases hvalue

theorem exists_of_mapM {α β : Type*} {f : α → Option β} {as : List α} {bs : List β} (h : as.mapM f = some bs) :
    ∀ a ∈ as, ∃ b, f a = some b := by
  induction as generalizing bs with
  | nil => exact fun _ ha => absurd ha List.not_mem_nil
  | cons a as ih =>
    simp only [List.mapM_cons, Option.bind_eq_bind, Option.bind_eq_some_iff] at h
    obtain ⟨b, hb, bs', hbs, -⟩ := h
    exact List.forall_mem_cons.2 ⟨⟨b, hb⟩, ih hbs⟩

theorem isDigit_of_octet? {text : List Char} {n : ℕ} (h : octet? text = some n) : ∀ c ∈ text, c.isDigit = true := by
  unfold octet? at h
  split at h
  · rename_i hall
    exact List.all_eq_true.1 hall.1
  · cases h

theorem parseIPv4_chars (h : parseIPv4 host = some address) (hc : c ∈ host) : c.isDigit = true ∨ c = '.' := by
  unfold parseIPv4 at h
  split at h
  · rename_i values hvalues
    rcases mem_pieces (c := '.') hc with hdot | ⟨piece, hpiece, hmem⟩
    · exact .inr hdot
    · obtain ⟨n, hn⟩ := exists_of_mapM hvalues piece hpiece
      exact .inl (isDigit_of_octet? hn c hmem)
  · cases h

theorem colon_mem_of_parseIPv6 (h : parseIPv6 host = some address) : ':' ∈ host := by
  unfold parseIPv6 at h
  dsimp only at h
  split at h
  · cases h
  · obtain ⟨parts, hparts, -⟩ := Option.bind_eq_some_iff.1 h
    by_contra hcolon
    have hno : ':' ∉ host.takeWhile (· ≠ '%') := fun hmem => hcolon ((List.takeWhile_sublist _).subset hmem)
    rw [colonParts, pieces_eq_self hno] at hparts
    cases hparts

end Hosts

end IpAddress
