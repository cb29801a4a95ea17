-- The queue that shapes a link. The code divides four times on the way from the
-- rate and the delay to the length of the queue. Where sixty-four bits hold
-- what comes up, these divisions come to a single one: the queue is twice what
-- is under way to the other end and back, in whole packets, and never less
-- than twenty.
import Mathlib.Algebra.Order.Field.Rat
import Mathlib.Tactic.Linarith
import Mathlib.Tactic.Ring
import Testbed.Namespaces.Shaping

namespace Testbed.Namespaces.Shaping

/-! ## Numbers of sixty-four bits -/

/-- A product that fits does not wrap. -/
theorem toNat_mul_of_fits {a b : UInt64} (h : a.toNat * b.toNat < UInt64.size) :
    (a * b).toNat = a.toNat * b.toNat := by
  rw [UInt64.toNat_mul]
  exact Nat.mod_eq_of_lt h

/-! ## Rates and delays that fit -/

/-- The time to the other end and back at a delay, in microseconds. -/
def tripOf (delay : Duration) : UInt64 := UInt64.ofNat delay.micros * 2

/-- Sixty-four bits hold the rate in bit/s, the time to the other end and back, and the bytes that
are under way, before these are divided down to seconds. -/
structure Fits (rate : UInt64) (delay : Duration) : Prop where
  bits : 1000 * rate.toNat < UInt64.size
  trip : 2 * delay.micros < UInt64.size
  bytes : 250 * rate.toNat * delay.micros < UInt64.size

/-- No step from a rate and a delay to the length of the queue wraps. -/
structure NeverWraps (rate : UInt64) (delay : Duration) : Prop where
  micros : (UInt64.ofNat delay.micros).toNat = delay.micros
  trip : (tripOf delay).toNat = (UInt64.ofNat delay.micros).toNat * 2
  bits : (rate * 1000).toNat = rate.toNat * 1000
  bytes : (rate * 1000 / 8 * tripOf delay).toNat = (rate * 1000 / 8).toNat * (tripOf delay).toNat
  queue : (bytesUnderWay rate (tripOf delay) / packetBytes * 2).toNat =
    (bytesUnderWay rate (tripOf delay) / packetBytes).toNat * 2

variable {rate : UInt64} {delay : Duration}

theorem Fits.toNat_delay (h : Fits rate delay) :
    (UInt64.ofNat delay.micros).toNat = delay.micros := by
  have hlt := h.trip
  exact UInt64.toNat_ofNat_of_lt' (by omega)

theorem Fits.toNat_trip (h : Fits rate delay) : (tripOf delay).toNat = delay.micros * 2 := by
  have hlt := h.trip
  have htwo : (2 : UInt64).toNat = 2 := rfl
  rw [tripOf, toNat_mul_of_fits, h.toNat_delay, htwo]
  rw [h.toNat_delay, htwo]
  omega

theorem Fits.toNat_bits (h : Fits rate delay) : (rate * 1000).toNat = rate.toNat * 1000 := by
  have hlt := h.bits
  have hthousand : (1000 : UInt64).toNat = 1000 := rfl
  rw [toNat_mul_of_fits, hthousand]
  rw [hthousand]
  omega

/-- A byte has eight bits, and eight divides a thousand. -/
theorem Fits.toNat_byteRate (h : Fits rate delay) : (rate * 1000 / 8).toNat = 125 * rate.toNat := by
  have height : (8 : UInt64).toNat = 8 := rfl
  rw [UInt64.toNat_div, h.toNat_bits, height]
  omega

theorem Fits.byteRate_mul_trip (h : Fits rate delay) :
    (rate * 1000 / 8).toNat * (tripOf delay).toNat = 250 * (rate.toNat * delay.micros) := by
  rw [h.toNat_byteRate, h.toNat_trip]
  ring

theorem Fits.toNat_bytes (h : Fits rate delay) :
    (rate * 1000 / 8 * tripOf delay).toNat = 250 * (rate.toNat * delay.micros) := by
  have hlt := h.bytes
  rw [toNat_mul_of_fits, h.byteRate_mul_trip]
  rw [h.byteRate_mul_trip, ← Nat.mul_assoc]
  exact hlt

theorem Fits.toNat_bytesUnderWay (h : Fits rate delay) :
    (bytesUnderWay rate (tripOf delay)).toNat = 250 * (rate.toNat * delay.micros) / 1000000 := by
  have hmillion : (1000000 : UInt64).toNat = 1000000 := rfl
  rw [bytesUnderWay, UInt64.toNat_div, h.toNat_bytes, hmillion]

/-- Dividing by a million and then by the bytes of a packet is dividing once. -/
theorem Fits.toNat_packets (h : Fits rate delay) :
    (bytesUnderWay rate (tripOf delay) / packetBytes).toNat =
      rate.toNat * delay.micros / 6000000 := by
  have hpacket : packetBytes.toNat = 1500 := rfl
  rw [UInt64.toNat_div, h.toNat_bytesUnderWay, hpacket]
  omega

theorem Fits.toNat_queue (h : Fits rate delay) :
    (bytesUnderWay rate (tripOf delay) / packetBytes * 2).toNat =
      rate.toNat * delay.micros / 6000000 * 2 := by
  have htwo : (2 : UInt64).toNat = 2 := rfl
  have hlt := h.bytes
  have hassoc : 250 * rate.toNat * delay.micros = 250 * (rate.toNat * delay.micros) :=
    Nat.mul_assoc ..
  rw [toNat_mul_of_fits, h.toNat_packets, htwo]
  rw [h.toNat_packets, htwo]
  omega

theorem Fits.neverWraps (h : Fits rate delay) : NeverWraps rate delay where
  micros := h.toNat_delay
  trip := by rw [h.toNat_trip, h.toNat_delay]
  bits := h.toNat_bits
  bytes := by rw [h.toNat_bytes, h.byteRate_mul_trip]
  queue := by rw [h.toNat_queue, h.toNat_packets]

/-! ## The length of the queue -/

/-- The queue that goes with a rate and a delay, in packets. -/
def queueFor (rate : UInt64) (delay : Duration) : Nat := (queueLength rate (tripOf delay)).toNat

/-- The packets that are under way to the other end and back: so many bytes in a second, for so
many seconds. -/
def packetsUnderWay (rate : UInt64) (delay : Duration) : ℚ :=
  (rate.toNat * 1000 / 8) * (2 * delay.micros / 1000000) / 1500

theorem Fits.queueFor_eq (h : Fits rate delay) :
    queueFor rate delay = max (2 * (rate.toNat * delay.micros / 6000000)) 20 := by
  have hshortest : shortestQueue.toNat = 20 := rfl
  rw [queueFor, queueLength, UInt64.toNat_max, h.toNat_queue, hshortest, Nat.mul_comm]

theorem packetsUnderWay_eq (rate : UInt64) (delay : Duration) :
    packetsUnderWay rate delay = (rate.toNat * delay.micros : Nat) / 6000000 := by
  unfold packetsUnderWay
  push_cast
  ring

/-- A queue that is longer than the shortest one falls short of twice what is under way by less than
two packets. -/
theorem Fits.queueFor_bounds (h : Fits rate delay) (long : 20 < queueFor rate delay) :
    (queueFor rate delay : ℚ) ≤ 2 * packetsUnderWay rate delay ∧
      2 * packetsUnderWay rate delay < queueFor rate delay + 2 := by
  have hqueue : queueFor rate delay = 2 * (rate.toNat * delay.micros / 6000000) := by
    rw [h.queueFor_eq] at long ⊢
    omega
  have hlow : queueFor rate delay * 3000000 ≤ rate.toNat * delay.micros := by omega
  have hhigh : rate.toNat * delay.micros < (queueFor rate delay + 2) * 3000000 := by omega
  have hlow' : (queueFor rate delay : ℚ) * 3000000 ≤ (rate.toNat * delay.micros : Nat) := by
    exact_mod_cast hlow
  have hhigh' : ((rate.toNat * delay.micros : Nat) : ℚ) < (queueFor rate delay + 2) * 3000000 := by
    exact_mod_cast hhigh
  rw [packetsUnderWay_eq]
  constructor <;> linarith

/-- A higher rate and a longer delay never make the queue shorter. -/
theorem Fits.queueFor_mono {rate' : UInt64} {delay' : Duration} (h : Fits rate delay)
    (h' : Fits rate' delay') (hrate : rate.toNat ≤ rate'.toNat)
    (hdelay : delay.micros ≤ delay'.micros) : queueFor rate delay ≤ queueFor rate' delay' := by
  have hproduct : rate.toNat * delay.micros ≤ rate'.toNat * delay'.micros :=
    Nat.mul_le_mul hrate hdelay
  rw [h.queueFor_eq, h'.queueFor_eq]
  omega

/-- For every rate and every delay that sixty-four bits can hold all the way: no step wraps; on
every interface of a link with these the shaping is asked for with a queue of twice the packets that
are under way, rounded down to whole packets before they are doubled, and of twenty at least. The
queue has an even length, grows with the rate and with the delay, and unless it is the shortest one
falls short of twice what is under way by less than two packets. -/
theorem queue_is_twice_what_is_under_way (h : Fits rate delay) :
    NeverWraps rate delay ∧
    queueFor rate delay = max (2 * (rate.toNat * delay.micros / 6000000)) 20 ∧
    (∀ (interfaceName : String) (p : LinkParams), Shaping.rate p = rate → p.delay = delay →
      ["qdisc", "replace", "dev", interfaceName, "root", "netem", "limit",
        toString (queueFor rate delay)] <+: args interfaceName p) ∧
    2 ∣ queueFor rate delay ∧ 20 ≤ queueFor rate delay ∧
    (∀ rate' delay', Fits rate' delay' → rate.toNat ≤ rate'.toNat →
      delay.micros ≤ delay'.micros → queueFor rate delay ≤ queueFor rate' delay') ∧
    (20 < queueFor rate delay →
      (queueFor rate delay : ℚ) ≤ 2 * packetsUnderWay rate delay ∧
      2 * packetsUnderWay rate delay < queueFor rate delay + 2) := by
  have hqueue := h.queueFor_eq
  refine ⟨h.neverWraps, hqueue, ?_, by omega, by omega, ?_, h.queueFor_bounds⟩
  · rintro interfaceName p rfl rfl
    exact ⟨_, rfl⟩
  · intro rate' delay' h'
    exact h.queueFor_mono h'

/-- The highest rate that fits, with the longest delay that fits with it. -/
theorem queue_is_twice_what_is_under_way_at_the_edge :
    let rate : UInt64 := 18446744073709551
    let delay : Duration := ⟨4000⟩
    Fits rate delay ∧ NeverWraps rate delay ∧ queueFor rate delay = 24595658764 ∧
      (queueFor rate delay : ℚ) ≤ 2 * packetsUnderWay rate delay ∧
      2 * packetsUnderWay rate delay < queueFor rate delay + 2 := by
  intro rate delay
  have h : Fits rate delay := ⟨by decide, by decide, by decide⟩
  obtain ⟨hwraps, hqueue, -, -, -, -, hbounds⟩ := queue_is_twice_what_is_under_way h
  have hlength : queueFor rate delay = 24595658764 := hqueue.trans (by decide)
  exact ⟨h, hwraps, hlength, hbounds (by omega)⟩

end Testbed.Namespaces.Shaping
