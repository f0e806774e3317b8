import Mathlib.Data.String.Basic
import WireguardPanel.CidrBlocks
import WireguardPanel.PoolAddresses

/-!
# The order of addresses

`compareIpAddresses` on all values, next to the order by host address and prefix
length. It compares the addresses of the networks instead.

* `hostAddress`: the host address and the prefix length of a value.
* `FirstByHost`: when the two orders agree.
* `compareIpAddresses_spec`: the order is a total preorder, with the valid values
  first, and it is that of the hosts just when `FirstByHost`.
-/

namespace WireguardPanel

open Foundation

/-! ## Values -/

/-- `compareIpAddresses` on values that may be `null` or `undefined`, of which it
    takes the empty text. -/
def compareMissingIp (C : Collation) (a b : Option String) : ℤ :=
  compareIpAddresses C (a.getD "") (b.getD "")

/-- The text that `compareIpAddresses` reads an address from. -/
def comparedText (value : Option String) : String :=
  let raw := (parseComparedIp (value.getD "")).2
  if Text.includes raw "/" then raw else raw ++ "/32"

/-- The host address and the prefix length of the first address of a value, if
    it is one of version 4. -/
def hostAddress (value : Option String) : Option (ℕ × ℕ) :=
  if Text.includes (parseComparedIp (value.getD "")).2 ":" then none
  else
    match Text.split '/' (Text.trim (comparedText value)) with
    | [address, prefixRaw] =>
      match ipv4ToNumber address, parsePrefix prefixRaw with
      | .ok host, some pfx => some (host, pfx)
      | _, _ => none
    | _ => none

/-- The order by host address and prefix length. -/
def compareHosts (a b : ℕ × ℕ) : ℤ :=
  if (a.1 : ℤ) - b.1 ≠ 0 then (a.1 : ℤ) - b.1 else (a.2 : ℤ) - b.2

/-- The network of a host. -/
def hostNetwork (a : ℕ × ℕ) : Ipv4Network := networkOf a.1 a.2

/-- The networks of two hosts are apart, or the host of the larger network is not
    behind the other. In one and the same network the hosts are the same. -/
def FirstByHost (a b : ℕ × ℕ) : Prop :=
  ¬(hostNetwork a).Meets (hostNetwork b) ∨ a.2 < b.2 ∧ a.1 ≤ b.1 ∨ b.2 < a.2 ∧ b.1 ≤ a.1 ∨
    a.2 = b.2 ∧ a.1 = b.1

/-- What is relied on of `localeCompare`: it is a total preorder. -/
structure Collation.Ordered (C : Collation) : Prop where
  swap : ∀ s t, (C.localeCompareNumeric s t).sign = -(C.localeCompareNumeric t s).sign
  trans : ∀ s t u, C.localeCompareNumeric s t ≤ 0 → C.localeCompareNumeric t u ≤ 0 →
    C.localeCompareNumeric s u ≤ 0

/-! ## What is parsed -/

theorem parseComparedIp_fst (value : Option String) :
    (parseComparedIp (value.getD "")).1 =
      if Text.includes (parseComparedIp (value.getD "")).2 ":" then none
      else (parseIpv4Cidr (comparedText value)).toOption.map fun network =>
        (network.networkNumber, network.pfx) := by
  unfold comparedText parseComparedIp
  dsimp only
  split_ifs <;> rfl

/-- A value with a host address is compared by its network. -/
theorem hostAddress_eq_some {value : Option String} {a : ℕ × ℕ} (h : hostAddress value = some a) :
    a.1 ≤ 0xffffffff ∧ a.2 ≤ 32 ∧
      (parseComparedIp (value.getD "")).1 = some ((hostNetwork a).networkNumber, a.2) := by
  rw [parseComparedIp_fst]
  unfold hostAddress at h
  split_ifs at h ⊢ with hcolon
  split at h
  · rename_i address prefixRaw hsplit
    split at h
    · rename_i host pfx hhost hpfx
      cases h
      rw [parseIpv4Cidr_eq hsplit hpfx hhost]
      exact ⟨ipv4ToNumber_le hhost, (parsePrefix_ok hpfx).1, rfl⟩
    · cases h
  · cases h

/-- Other values are invalid. -/
theorem hostAddress_eq_none {value : Option String} (h : hostAddress value = none) :
    (parseComparedIp (value.getD "")).1 = none := by
  rw [parseComparedIp_fst]
  unfold hostAddress at h
  split_ifs at h ⊢ with hcolon
  · rfl
  · cases hparse : parseIpv4Cidr (comparedText value) with
    | error e => rfl
    | ok network =>
      obtain ⟨address, prefixRaw, ip, pfx, hsplit, hpfx, hip, -⟩ := parseIpv4Cidr_ok hparse
      rw [hsplit] at h
      simp only [hip, hpfx] at h
      cases h

theorem compareIpAddresses_eq (C : Collation) (s t : String) :
    compareIpAddresses C s t =
      match (parseComparedIp s).1, (parseComparedIp t).1 with
      | some left, some right => compareHosts left right
      | some _, none => -1
      | none, some _ => 1
      | none, none => C.localeCompareNumeric (parseComparedIp s).2 (parseComparedIp t).2 := by
  unfold compareIpAddresses
  generalize parseComparedIp s = left
  generalize parseComparedIp t = right
  obtain ⟨_ | left, _⟩ := left <;> obtain ⟨_ | right, _⟩ := right <;> rfl

/-- What is compared of two values. -/
theorem compareMissingIp_eq (C : Collation) (a b : Option String) :
    compareMissingIp C a b =
      match hostAddress a, hostAddress b with
      | some left, some right =>
        compareHosts ((hostNetwork left).networkNumber, left.2)
          ((hostNetwork right).networkNumber, right.2)
      | some _, none => -1
      | none, some _ => 1
      | none, none => C.localeCompareNumeric (parseComparedIp (a.getD "")).2
          (parseComparedIp (b.getD "")).2 := by
  rw [compareMissingIp, compareIpAddresses_eq]
  cases ha : hostAddress a with
  | none =>
    rw [hostAddress_eq_none ha]
    cases hb : hostAddress b with
    | none => rw [hostAddress_eq_none hb]
    | some right => rw [(hostAddress_eq_some hb).2.2]
  | some left =>
    rw [(hostAddress_eq_some ha).2.2]
    cases hb : hostAddress b with
    | none => rw [hostAddress_eq_none hb]
    | some right => rw [(hostAddress_eq_some hb).2.2]

/-! ## A total preorder -/

theorem compareHosts_swap (a b : ℕ × ℕ) : (compareHosts a b).sign = -(compareHosts b a).sign := by
  have hswap : compareHosts a b = -compareHosts b a := by
    unfold compareHosts
    split_ifs <;> omega
  rw [hswap, Int.sign_neg]

theorem compareHosts_trans {a b c : ℕ × ℕ} (hab : compareHosts a b ≤ 0)
    (hbc : compareHosts b c ≤ 0) : compareHosts a c ≤ 0 := by
  unfold compareHosts at *
  split_ifs at * <;> omega

theorem compareMissingIp_swap {C : Collation} (hC : C.Ordered) (a b : Option String) :
    (compareMissingIp C a b).sign = -(compareMissingIp C b a).sign := by
  rw [compareMissingIp_eq, compareMissingIp_eq]
  cases hostAddress a <;> cases hostAddress b
  · exact hC.swap _ _
  · rfl
  · rfl
  · exact compareHosts_swap _ _

theorem compareMissingIp_trans {C : Collation} (hC : C.Ordered) {a b c : Option String}
    (hab : compareMissingIp C a b ≤ 0) (hbc : compareMissingIp C b c ≤ 0) :
    compareMissingIp C a c ≤ 0 := by
  rw [compareMissingIp_eq] at hab hbc ⊢
  cases ha : hostAddress a <;> cases hb : hostAddress b <;> cases hc : hostAddress c <;>
    simp only [ha, hb, hc] at hab hbc ⊢
  -- What is invalid is behind what is valid, so that only two cases are left.
  case none.none.none => exact hC.trans _ _ _ hab hbc
  case some.some.some => exact compareHosts_trans hab hbc
  all_goals omega

/-! ## The order of hosts -/

variable {a b : ℕ × ℕ}

theorem hostNetwork_block (ha : a.1 ≤ 0xffffffff ∧ a.2 ≤ 32) : (hostNetwork a).Block :=
  networkOf_block ha.1 ha.2

theorem mem_hostNetwork (a : ℕ × ℕ) : (hostNetwork a).networkNumber ≤ a.1 ∧
    a.1 ≤ (hostNetwork a).broadcastNumber := by
  have hlt := Nat.lt_div_mul_add (Nat.two_pow_pos (32 - a.2)) (a := a.1)
  refine ⟨Nat.div_mul_le_self _ _, ?_⟩
  change a.1 ≤ a.1 / 2 ^ (32 - a.2) * 2 ^ (32 - a.2) + 2 ^ (32 - a.2) - 1
  omega

theorem compareHosts_neg_iff : compareHosts a b < 0 ↔ a.1 < b.1 ∨ a.1 = b.1 ∧ a.2 < b.2 := by
  unfold compareHosts
  split_ifs <;> omega

theorem compareHosts_pos_iff : 0 < compareHosts a b ↔ b.1 < a.1 ∨ a.1 = b.1 ∧ b.2 < a.2 := by
  unfold compareHosts
  split_ifs <;> omega

theorem compareHosts_eq_zero_iff : compareHosts a b = 0 ↔ a.1 = b.1 ∧ a.2 = b.2 := by
  unfold compareHosts
  split_ifs <;> omega

/-- The order of the networks is that of the hosts. -/
theorem sign_compareHosts_eq_iff (ha : a.1 ≤ 0xffffffff ∧ a.2 ≤ 32)
    (hb : b.1 ≤ 0xffffffff ∧ b.2 ≤ 32) :
    (compareHosts ((hostNetwork a).networkNumber, a.2)
      ((hostNetwork b).networkNumber, b.2)).sign = (compareHosts a b).sign ↔ FirstByHost a b := by
  have hA := hostNetwork_block ha
  have hB := hostNetwork_block hb
  obtain ⟨hale, hage⟩ := mem_hostNetwork a
  obtain ⟨hble, hbge⟩ := mem_hostNetwork b
  have hpfxA : (hostNetwork a).pfx = a.2 := rfl
  have hpfxB : (hostNetwork b).pfx = b.2 := rfl
  by_cases hmeets : (hostNetwork a).Meets (hostNetwork b)
  · -- Of two networks that meet the larger one is first, or they are the same.
    obtain ⟨n, hna, hnb⟩ := hmeets
    rw [FirstByHost]
    rcases lt_trichotomy a.2 b.2 with hlt | heq | hlt
    · have hcontains := hA.contains_of_meets hB (by omega) ⟨n, hna, hnb⟩
      have hfirst := hcontains.1
      rw [Int.sign_eq_neg_one_of_neg (compareHosts_neg_iff.2 (by dsimp only; omega)), eq_comm,
        Int.sign_eq_neg_one_iff_neg, compareHosts_neg_iff]
      refine ⟨fun h => .inr (.inl ⟨hlt, by omega⟩), fun h => ?_⟩
      rcases h with hapart | h | h | h
      · exact absurd ⟨n, hna, hnb⟩ hapart
      all_goals omega
    · have hfirst := (hA.contains_of_meets hB (by omega) ⟨n, hna, hnb⟩).1
      have hsecond := (hB.contains_of_meets hA (by omega) ⟨n, hnb, hna⟩).1
      have hsame : compareHosts ((hostNetwork a).networkNumber, a.2)
          ((hostNetwork b).networkNumber, b.2) = 0 :=
        compareHosts_eq_zero_iff.2 ⟨le_antisymm hfirst hsecond, heq⟩
      rw [hsame, Int.sign_zero, eq_comm, Int.sign_eq_zero_iff_zero, compareHosts_eq_zero_iff]
      refine ⟨fun h => .inr (.inr (.inr ⟨heq, h.1⟩)), fun h => ?_⟩
      rcases h with hapart | h | h | h
      · exact absurd ⟨n, hna, hnb⟩ hapart
      all_goals omega
    · have hcontains := hB.contains_of_meets hA (by omega) ⟨n, hnb, hna⟩
      have hfirst := hcontains.1
      rw [Int.sign_eq_one_of_pos (compareHosts_pos_iff.2 (by dsimp only; omega)), eq_comm,
        Int.sign_eq_one_iff_pos, compareHosts_pos_iff]
      refine ⟨fun h => .inr (.inr (.inl ⟨hlt, by omega⟩)), fun h => ?_⟩
      rcases h with hapart | h | h | h
      · exact absurd ⟨n, hna, hnb⟩ hapart
      all_goals omega
  · -- Networks that are apart are in the order of all of their addresses.
    refine iff_of_true ?_ (.inl hmeets)
    rw [Ipv4Network.meets_iff hA hB, not_and_or, not_le, not_le] at hmeets
    rcases hmeets with hlt | hlt
    · rw [Int.sign_eq_one_of_pos (compareHosts_pos_iff.2 (.inl (by dsimp only; omega))),
        Int.sign_eq_one_of_pos (compareHosts_pos_iff.2 (.inl (by omega)))]
    · rw [Int.sign_eq_neg_one_of_neg (compareHosts_neg_iff.2 (.inl (by dsimp only; omega))),
        Int.sign_eq_neg_one_of_neg (compareHosts_neg_iff.2 (.inl (by omega)))]

/-- `compareIpAddresses` is a total preorder and has the valid values first. It
    orders two valid values by host address and prefix length just when their
    networks are apart, or the host of the larger network is not behind. -/
theorem compareIpAddresses_spec (C : Collation) (hC : C.Ordered) :
    (∀ a b, (compareMissingIp C a b).sign = -(compareMissingIp C b a).sign) ∧
    (∀ a b c, compareMissingIp C a b ≤ 0 → compareMissingIp C b c ≤ 0 →
      compareMissingIp C a c ≤ 0) ∧
    (∀ a b, (hostAddress a).isSome → hostAddress b = none → compareMissingIp C a b < 0) ∧
    ∀ a b left right, hostAddress a = some left → hostAddress b = some right →
      ((compareMissingIp C a b).sign = (compareHosts left right).sign ↔
      FirstByHost left right) := by
  refine ⟨compareMissingIp_swap hC, fun a b c => compareMissingIp_trans hC, fun a b ha hb => ?_,
    fun a b left right ha hb => ?_⟩
  · obtain ⟨left, hleft⟩ := Option.isSome_iff_exists.1 ha
    rw [compareMissingIp_eq, hleft, hb]
    exact neg_one_lt_zero
  · obtain ⟨hleft, hleft', -⟩ := hostAddress_eq_some ha
    obtain ⟨hright, hright', -⟩ := hostAddress_eq_some hb
    rw [compareMissingIp_eq, ha, hb]
    exact sign_compareHosts_eq_iff ⟨hleft, hleft'⟩ ⟨hright, hright'⟩

/-! ## Two addresses -/

theorem plainCollation_ordered : plainCollation.Ordered where
  swap s t := by
    simp only [plainCollation]
    rcases lt_trichotomy s t with h | rfl | h
    · rw [if_pos h, if_neg h.asymm, if_pos h]
      rfl
    · rw [if_neg (lt_irrefl s), if_neg (lt_irrefl s)]
      rfl
    · rw [if_pos h, if_neg h.asymm, if_pos h]
      rfl
  trans s t u hst htu := by
    have hle : ∀ s t : String, plainCollation.localeCompareNumeric s t ≤ 0 ↔ s ≤ t := fun s t => by
      simp only [plainCollation]
      rcases lt_trichotomy s t with h | rfl | h
      · rw [if_pos h]
        exact iff_of_true (by decide) h.le
      · rw [if_neg (lt_irrefl s), if_neg (lt_irrefl s)]
        exact iff_of_true (by decide) le_rfl
      · rw [if_pos h, if_neg h.asymm]
        exact iff_of_false (by decide) (not_le.2 h)
    rw [hle] at hst htu ⊢
    exact hst.trans htu

theorem hostAddress_ten : hostAddress (some "10.0.0.10/24") = some (0x0a00000a, 24) := by
  decide +kernel

theorem hostAddress_two : hostAddress (some "10.0.0.2/32") = some (0x0a000002, 32) := by
  decide +kernel

/-- An address is before a missing value. -/
theorem compareIpAddresses_spec_two :
    compareMissingIp plainCollation (some "10.0.0.2/32") none < 0 :=
  (compareIpAddresses_spec plainCollation plainCollation_ordered).2.2.1 _ none
    (by rw [hostAddress_two]; rfl) (by decide +kernel)

/-- The address of an interface is before a host whose address is lower. -/
theorem exists_compareIpAddresses_ne :
    ¬∀ C : Collation, C.Ordered → ∀ a b left right, hostAddress a = some left →
      hostAddress b = some right →
        (compareMissingIp C a b).sign = (compareHosts left right).sign := by
  intro h
  have hsame := h plainCollation plainCollation_ordered _ _ _ _ hostAddress_ten hostAddress_two
  rw [compareMissingIp_eq, hostAddress_ten, hostAddress_two] at hsame
  exact absurd hsame (by decide)

end WireguardPanel
