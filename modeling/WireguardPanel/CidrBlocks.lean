import Mathlib.Data.Nat.Bitwise
import WireguardPanel.RouterNetworks

/-!
# Networks as blocks of addresses

The laws of `cidrsOverlap`, `ipv4InCidr` and `parseIpv4Cidr` on the texts that
the last of them accepts.

* `div_two_pow_eq_iff`: two numbers lie in one aligned block just when they have
  the same leading bits.
* `Ipv4Network.contains_or_of_meets`: of two networks that meet one contains the other.
* `cidr_laws`: the three functions.
-/

namespace WireguardPanel

open Foundation

/-! ## Aligned blocks -/

/-- The blocks of a size hold the numbers with the same leading bits. -/
theorem div_two_pow_eq_iff {m n k : ℕ} :
    m / 2 ^ k = n / 2 ^ k ↔ ∀ i, k ≤ i → m.testBit i = n.testBit i := by
  rw [← Nat.shiftRight_eq_div_pow, ← Nat.shiftRight_eq_div_pow]
  constructor
  · intro h i hi
    have hbit := congrArg (fun x : ℕ => x.testBit (i - k)) h
    simp only [Nat.testBit_shiftRight, Nat.add_sub_cancel' hi] at hbit
    exact hbit
  · intro h
    refine Nat.eq_of_testBit_eq fun i => ?_
    rw [Nat.testBit_shiftRight, Nat.testBit_shiftRight]
    exact h (k + i) (Nat.le_add_right k i)

/-- A block lies within the block of a larger size. -/
theorem div_two_pow_eq_of_le {m n j k : ℕ} (hjk : j ≤ k) (h : m / 2 ^ j = n / 2 ^ j) :
    m / 2 ^ k = n / 2 ^ k :=
  div_two_pow_eq_iff.2 fun i hi => div_two_pow_eq_iff.1 h i (hjk.trans hi)

namespace Ipv4Network

variable {a b : Ipv4Network} {n : ℕ}

/-- All addresses of the network `b` are addresses of `a`. -/
def Contains (a b : Ipv4Network) : Prop :=
  a.networkNumber ≤ b.networkNumber ∧ b.broadcastNumber ≤ a.broadcastNumber

theorem Block.mem_iff (ha : a.Block) : (a.networkNumber ≤ n ∧ n ≤ a.broadcastNumber) ↔
    n / 2 ^ (32 - a.pfx) = a.networkNumber / 2 ^ (32 - a.pfx) :=
  ha.within_iff.symm.trans ⟨fun h => h.2.2, fun h => ⟨rfl, ha.pfx_le, h⟩⟩

/-- A network with a shorter mask contains the networks that it meets. -/
theorem Block.contains_of_meets (ha : a.Block) (hb : b.Block) (hpfx : a.pfx ≤ b.pfx)
    (h : a.Meets b) : a.Contains b := by
  obtain ⟨n, hna, hnb⟩ := h
  have hmem : ∀ m, b.networkNumber ≤ m → m ≤ b.broadcastNumber →
      a.networkNumber ≤ m ∧ m ≤ a.broadcastNumber := fun m hle hge => by
    have hsame : m / 2 ^ (32 - b.pfx) = n / 2 ^ (32 - b.pfx) :=
      (hb.mem_iff.1 ⟨hle, hge⟩).trans (hb.mem_iff.1 hnb).symm
    exact ha.mem_iff.2 ((div_two_pow_eq_of_le (by omega) hsame).trans (ha.mem_iff.1 hna))
  have hle := hb.networkNumber_le
  exact ⟨(hmem _ le_rfl hle).1, (hmem _ hle le_rfl).2⟩

theorem contains_or_of_meets (ha : a.Block) (hb : b.Block) (h : a.Meets b) :
    a.Contains b ∨ b.Contains a := by
  rcases le_total a.pfx b.pfx with hle | hle
  · exact .inl (ha.contains_of_meets hb hle h)
  · obtain ⟨n, hna, hnb⟩ := h
    exact .inr (hb.contains_of_meets ha hle ⟨n, hnb, hna⟩)

/-- The addresses of a network are those with its leading bits. -/
theorem Block.mem_iff_testBit (ha : a.Block) (hn : n ≤ 0xffffffff) :
    (a.networkNumber ≤ n ∧ n ≤ a.broadcastNumber) ↔
      ∀ i, 32 - a.pfx ≤ i → i < 32 → n.testBit i = a.networkNumber.testBit i := by
  have hle := ha.networkNumber_le.trans ha.last_le
  rw [ha.mem_iff, div_two_pow_eq_iff]
  refine ⟨fun h i hi _ => h i hi, fun h i hi => ?_⟩
  by_cases hlt : i < 32
  · exact h i hi hlt
  · have hpow : 2 ^ 32 ≤ 2 ^ i := Nat.pow_le_pow_right (by decide) (not_lt.1 hlt)
    rw [Nat.testBit_lt_two_pow (by omega), Nat.testBit_lt_two_pow (by omega)]

end Ipv4Network

/-! ## The functions of the source -/

theorem ipv4InCidr_iff {ip cidr : String} {a : Ipv4Network} (ha : parseIpv4Cidr cidr = .ok a) :
    ipv4InCidr ip cidr = .ok true ↔ ∃ n, ipv4ToNumber (normalizeClientIp ip) = .ok n ∧
      a.networkNumber ≤ n ∧ n ≤ a.broadcastNumber := by
  rw [ipv4InCidr, ha]
  cases hn : ipv4ToNumber (normalizeClientIp ip) with
  | error e => exact iff_of_false nofun nofun
  | ok n =>
    change Except.ok (decide _) = _ ↔ _
    rw [Except.ok.injEq, decide_eq_true_iff]
    exact ⟨fun h => ⟨n, rfl, h⟩, fun ⟨_, hm, h⟩ => by cases hm; exact h⟩

/-- Networks overlap just when an address is in both, and then one contains the
    other. An address is in a network just when it has its leading bits. The
    text of a network that has been read is read as the same network. -/
theorem cidr_laws {left right : String} {a b : Ipv4Network} (ha : parseIpv4Cidr left = .ok a)
    (hb : parseIpv4Cidr right = .ok b) :
    (∃ overlap, cidrsOverlap left right = .ok overlap) ∧
    (cidrsOverlap left right = .ok true ↔
      ∃ ip, ipv4InCidr ip left = .ok true ∧ ipv4InCidr ip right = .ok true) ∧
    (cidrsOverlap left right = .ok true →
      (∀ ip, ipv4InCidr ip right = .ok true → ipv4InCidr ip left = .ok true) ∨
        ∀ ip, ipv4InCidr ip left = .ok true → ipv4InCidr ip right = .ok true) ∧
    (∀ ip, ipv4InCidr ip left = .ok true ↔
      ∃ n, ipv4ToNumber (normalizeClientIp ip) = .ok n ∧
        ∀ i, 32 - a.pfx ≤ i → i < 32 → n.testBit i = a.networkNumber.testBit i) ∧
    parseIpv4Cidr a.cidr = .ok a := by
  have hA := parseIpv4Cidr_block ha
  have hB := parseIpv4Cidr_block hb
  have hoverlap : cidrsOverlap left right = .ok true ↔ a.Meets b := by
    rw [cidrsOverlap_iff ha hb, Except.ok.injEq, decide_eq_true_iff, Ipv4Network.meets_iff hA hB]
  refine ⟨⟨_, cidrsOverlap_iff ha hb⟩, ?_, ?_, fun ip => ?_, parseIpv4Cidr_cidr ha⟩
  · rw [hoverlap]
    constructor
    · rintro ⟨n, hna, hnb⟩
      have hread : ipv4ToNumber (normalizeClientIp (dotted n)) = .ok n := by
        rw [normalizeClientIp_dotted, ipv4ToNumber_dotted (hna.2.trans hA.last_le)]
      exact ⟨dotted n, (ipv4InCidr_iff ha).2 ⟨n, hread, hna⟩, (ipv4InCidr_iff hb).2 ⟨n, hread, hnb⟩⟩
    · rintro ⟨ip, hleft, hright⟩
      obtain ⟨n, hn, hna⟩ := (ipv4InCidr_iff ha).1 hleft
      obtain ⟨_, hn', hnb⟩ := (ipv4InCidr_iff hb).1 hright
      obtain rfl := Except.ok.inj (hn.symm.trans hn')
      exact ⟨n, hna, hnb⟩
  · rw [hoverlap]
    intro hmeets
    refine (Ipv4Network.contains_or_of_meets hA hB hmeets).imp (fun hcontains ip hip => ?_)
      fun hcontains ip hip => ?_
    · obtain ⟨n, hn, hle, hge⟩ := (ipv4InCidr_iff hb).1 hip
      exact (ipv4InCidr_iff ha).2 ⟨n, hn, hcontains.1.trans hle, hge.trans hcontains.2⟩
    · obtain ⟨n, hn, hle, hge⟩ := (ipv4InCidr_iff ha).1 hip
      exact (ipv4InCidr_iff hb).2 ⟨n, hn, hcontains.1.trans hle, hge.trans hcontains.2⟩
  · rw [ipv4InCidr_iff ha]
    exact exists_congr fun n => and_congr_right fun hn => hA.mem_iff_testBit (ipv4ToNumber_le hn)

/-- A network and a part of it. -/
theorem cidr_laws_nested : cidrsOverlap "10.0.0.0/24" "10.0.0.77/30" = .ok true ∧
    ∀ ip, ipv4InCidr ip "10.0.0.77/30" = .ok true → ipv4InCidr ip "10.0.0.0/24" = .ok true := by
  have hpart : parseIpv4Cidr "10.0.0.77/30" = .ok (networkOf 0x0a00004d 30) :=
    parseIpv4Cidr_eq (by decide +kernel : Text.split '/' (Text.trim "10.0.0.77/30") =
      ["10.0.0.77", "30"]) (by decide +kernel) (by decide +kernel)
  have hinside : ipv4InCidr "10.0.0.77" "10.0.0.0/24" = .ok true := by decide +kernel
  have hown : ipv4InCidr "10.0.0.77" "10.0.0.77/30" = .ok true := by decide +kernel
  have houtside : ipv4InCidr "10.0.0.1" "10.0.0.77/30" ≠ .ok true := by decide +kernel
  have hother : ipv4InCidr "10.0.0.1" "10.0.0.0/24" = .ok true := by decide +kernel
  obtain ⟨-, hoverlap, hcontains, -, -⟩ := cidr_laws parse_plainNetwork hpart
  have hmeets := hoverlap.2 ⟨"10.0.0.77", hinside, hown⟩
  refine ⟨hmeets, (hcontains hmeets).resolve_right fun h => houtside (h _ hother)⟩

end WireguardPanel
