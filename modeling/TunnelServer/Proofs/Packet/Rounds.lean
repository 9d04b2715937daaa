import TunnelServer.Clock
import TunnelServer.Proofs.Packet.Admission

/-!
# Stamps where the field wraps

The field of a stamp counts the seconds up to `2 ^ 31 - 1` and then starts over at `-2 ^ 31`, so that the
seconds fall into rounds of `2 ^ 32`.  The distance of two stamps is taken over the integers: within a
round it is that of the seconds, and from one round to the next it is close to `2 ^ 32`.  Two clocks
that agree well enough are therefore taken to agree just while they are in the same round, before a wrap
as well as after it, and not while the wrap lies between them.
-/

namespace TunnelServer

namespace Epoch

variable {second sent here : Int} {stamp : Epoch}

/-- The round of the field that a second falls into.  The seconds since 1970 begin in round 0, which
lasts until 2038. -/
def round (second : Int) : Int := (second + 2147483648) / 4294967296

/-- A stamp taken at a second, counted from 1970: from the time of day, or from a clock that was started
at some second and has run since.  Of the second at which it was started a clock knows only the stamp. -/
inductive TakenAt (second : Int) : Epoch → Prop where
  | wallTime (nanos : Nat) (shown : (nanos / 1000000000 : Nat) = second) :
      TakenAt second (ofWallTime nanos)
  | clock (clock : Clock) (start : Int) (started : clock.startEpoch = Int32.ofInt start)
      (shown : start + (clock.now / 1000000000 : Nat) = second) : TakenAt second clock.epoch

/-- A stamp holds its second, less what was counted in earlier rounds. -/
theorem toInt_ofInt (second : Int) :
    (Int32.ofInt second).toInt = second - 4294967296 * round second := by
  rw [Int32.toInt_ofInt, Int.bmod_def, round]
  simp only [Int32.size]
  omega

/-- Wherever it was taken from, a stamp depends on the second alone. -/
theorem TakenAt.eq_ofInt (taken : TakenAt second stamp) : stamp = Int32.ofInt second := by
  cases taken with
  | wallTime nanos shown =>
      rw [← shown, Int32.ofInt_eq_ofNat, ofWallTime, if_neg (by omega), Int.toNat_natCast]
      rfl
  | clock clock start started shown =>
      rw [← shown, Int32.ofInt_add, ← started, Int32.ofInt_eq_ofNat]
      rfl

end Epoch

namespace Packet

/-- For seconds that are close enough, their stamps are if and only if no wrap lies between them. -/
theorem acceptsSkew_iff_round_eq {sent here : Int} (close : (here - sent).natAbs ≤ 1000) :
    Limits.standard.acceptsSkew (Int32.ofInt sent) (Int32.ofInt here) = true ↔
      Epoch.round sent = Epoch.round here := by
  have standard : Limits.standard.maxClockSkew = 1000 := rfl
  rw [Limits.acceptsSkew_iff, Epoch.toInt_ofInt, Epoch.toInt_ofInt, standard]
  omega

/-- Two stamps are taken at seconds that are at most 1000 apart, each from the time of day or from a
clock.  They are close enough for the standard limits if and only if the field does not wrap between the
two seconds: then a packet with the one stamp is admitted at the other, and else it is refused for its
stamp, whatever packet it is. -/
theorem stamps_agree_within_round {sent here : Int} {stampSent stampHere : Epoch}
    (sentAt : Epoch.TakenAt sent stampSent) (hereAt : Epoch.TakenAt here stampHere)
    (close : (here - sent).natAbs ≤ 1000) :
    (Limits.standard.acceptsSkew stampSent stampHere = true ↔ Epoch.round sent = Epoch.round here) ∧
      ∀ (header : Header) (key : SharedKey) (payload : Bytes), header.epoch = stampSent →
        44 + payload.length ≤ 65535 →
          readHeader (encode header key payload) stampHere Limits.standard =
            if Epoch.round sent = Epoch.round here then .ok header
            else .error (.clockSkew stampSent stampHere) := by
  have agree : Limits.standard.acceptsSkew stampSent stampHere = true ↔
      Epoch.round sent = Epoch.round here := by
    rw [sentAt.eq_ofInt, hereAt.eq_ofInt]
    exact acceptsSkew_iff_round_eq close
  refine ⟨agree, ?_⟩
  rintro header key payload rfl fits
  have small : (encode header key payload).length ≤ Limits.standard.maxBytes := by
    rw [length_encode]
    exact fits
  rw [readHeader_encode_eq small]
  simp only [agree]

/-- Once the field has wrapped, what is sent at the time of day is admitted by a clock that was started
before the wrap and is 1000 seconds ahead. -/
theorem stamps_agree_after_wrap :
    let stamp := Epoch.ofWallTime 2147483648500000000
    let clock : Clock := { startEpoch := 2147483647, now := 1001000000000 }
    let header := Header.heartbeat Ipv6Address.unspecified stamp
    Epoch.TakenAt 2147483648 stamp ∧ Epoch.TakenAt 2147484648 clock.epoch ∧
      (2147484648 - 2147483648 : Int).natAbs ≤ 1000 ∧
      Limits.standard.acceptsSkew stamp clock.epoch = true ∧
      readHeader (encode header (.ofSecret "secret") []) clock.epoch Limits.standard =
        .ok header := by
  intro stamp clock header
  have sentAt : Epoch.TakenAt 2147483648 stamp := .wallTime 2147483648500000000 rfl
  have hereAt : Epoch.TakenAt 2147484648 clock.epoch :=
    .clock clock 2147483647 rfl (by decide)
  have close : (2147484648 - 2147483648 : Int).natAbs ≤ 1000 := by decide
  rcases stamps_agree_within_round sentAt hereAt close with ⟨agree, admitted⟩
  exact ⟨sentAt, hereAt, close, agree.mpr rfl, admitted header _ [] rfl (by decide)⟩

/-- The last second before the wrap and the first one after it have stamps that are too far apart, from
the time of day as well as from a clock. -/
theorem stamps_disagree_across_wrap :
    let clock : Clock := { startEpoch := 2147483647 }
    let later := clock.advance 1000000000
    (Epoch.TakenAt 2147483647 (Epoch.ofWallTime 2147483647000000000) ∧
        Epoch.TakenAt 2147483648 (Epoch.ofWallTime 2147483648000000000) ∧
        Limits.standard.acceptsSkew (Epoch.ofWallTime 2147483647000000000)
          (Epoch.ofWallTime 2147483648000000000) = false) ∧
      Epoch.TakenAt 2147483647 clock.epoch ∧ Epoch.TakenAt 2147483648 later.epoch ∧
      Limits.standard.acceptsSkew clock.epoch later.epoch = false := by
  intro clock later
  exact ⟨⟨.wallTime 2147483647000000000 rfl, .wallTime 2147483648000000000 rfl, by decide⟩,
    .clock clock 2147483647 rfl (by decide), .clock later 2147483647 rfl (by decide), by decide⟩

end Packet

end TunnelServer
