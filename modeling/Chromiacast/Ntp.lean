import Chromiacast.Frame

/-! NTP timestamps: seconds since 1900 in the upper and binary fractions of a
second in the lower 32 bits. System times are nanoseconds since the Unix epoch. -/
namespace Chromiacast

def ntpEpochOffsetSecs : UInt64 := 2208988800

structure NtpTimestamp where
  raw : UInt64
  deriving DecidableEq, Repr

namespace NtpTimestamp

def fromSystemTime (time : Nat) : NtpTimestamp :=
  let ntpSecs := UInt64.ofNat (time/1000000000)+ntpEpochOffsetSecs
  let fraction := (UInt64.ofNat (time%1000000000) <<< 32)/1000000000
  ⟨(ntpSecs <<< 32) ||| fraction⟩

def seconds (t : NtpTimestamp) : UInt64 := t.raw >>> 32

def fraction (t : NtpTimestamp) : UInt32 := t.raw.toUInt32

def toSystemTime (t : NtpTimestamp) : Nat :=
  let secs := t.seconds.toNat-ntpEpochOffsetSecs.toNat
  let nanos := (t.fraction.toUInt64*1000000000) >>> 32
  secs*1000000000+nanos.toNat

def upper32 (t : NtpTimestamp) : UInt32 := (t.raw >>> 32).toUInt32

def middle32 (t : NtpTimestamp) : UInt32 := (t.raw >>> 16).toUInt32

theorem secondsToNat (t : NtpTimestamp) : t.seconds.toNat = t.raw.toNat/2^32 := by
  simp [seconds,UInt64.toNat_shiftRight,Nat.shiftRight_eq_div_pow]

theorem fractionToNat (t : NtpTimestamp) : t.fraction.toNat = t.raw.toNat%2^32 := by
  simp [fraction]

theorem upper32ToNat (t : NtpTimestamp) : t.upper32.toNat = t.raw.toNat/2^32 := by
  have bound := t.raw.toNat_lt
  simp only [upper32,UInt64.toNat_toUInt32,UInt64.toNat_shiftRight,Nat.shiftRight_eq_div_pow]
  simp only [UInt64.reduceToNat,Nat.reduceMod]
  omega

theorem middle32ToNat (t : NtpTimestamp) : t.middle32.toNat = t.raw.toNat/2^16%2^32 := by
  simp [middle32,UInt64.toNat_shiftRight,Nat.shiftRight_eq_div_pow]

def InEra (time : Nat) : Prop := time/1000000000+2208988800 < 2^32
instance (time : Nat) : Decidable (InEra time) := by unfold InEra; infer_instance

theorem fromSystemTimeToNat {time : Nat} (era : InEra time) : (fromSystemTime time).raw.toNat =
    (time/1000000000+2208988800)*2^32+time%1000000000*2^32/1000000000 := by
  unfold InEra at era
  have secs : (UInt64.ofNat (time/1000000000)+ntpEpochOffsetSecs).toNat = time/1000000000+2208988800 := by
    have offset : ntpEpochOffsetSecs.toNat = 2208988800 := rfl
    rw [UInt64.toNat_add,UInt64.toNat_ofNat',offset]
    omega
  have nanos : (UInt64.ofNat (time%1000000000)).toNat = time%1000000000 := by
    rw [UInt64.toNat_ofNat']
    omega
  have divisor : (1000000000 : UInt64).toNat = 1000000000 := rfl
  have width : (32 : UInt64).toNat%64 = 32 := rfl
  have fraction : ((UInt64.ofNat (time%1000000000) <<< 32)/1000000000).toNat =
      time%1000000000*2^32/1000000000 := by
    rw [UInt64.toNat_div,UInt64.toNat_shiftLeft,nanos,divisor,width,Nat.shiftLeft_eq,Nat.mod_eq_of_lt (by omega)]
  have shifted : (time/1000000000+2208988800)*2^32 < 2^64 := by
    calc (time/1000000000+2208988800)*2^32 < 2^32*2^32 := Nat.mul_lt_mul_of_pos_right era (by norm_num)
      _ = 2^64 := by norm_num
  have small : time%1000000000*2^32/1000000000 < 2^32 := by omega
  simp only [fromSystemTime]
  rw [UInt64.toNat_or,UInt64.toNat_shiftLeft,secs,fraction,width,Nat.shiftLeft_eq,Nat.mod_eq_of_lt shifted,
    ← Nat.shiftLeft_eq,← Nat.shiftLeft_add_eq_or_of_lt small,Nat.shiftLeft_eq]

theorem toSystemTimeNat (t : NtpTimestamp) : t.toSystemTime =
    (t.raw.toNat/2^32-2208988800)*1000000000+t.raw.toNat%2^32*1000000000/2^32 := by
  have offset : ntpEpochOffsetSecs.toNat = 2208988800 := rfl
  have nanos : ((t.fraction.toUInt64*1000000000) >>> 32).toNat = t.raw.toNat%2^32*1000000000/2^32 := by
    rw [UInt64.toNat_shiftRight,UInt64.toNat_mul,UInt32.toNat_toUInt64,fractionToNat]
    have divisor : (1000000000 : UInt64).toNat = 1000000000 := rfl
    have width : (32 : UInt64).toNat%64 = 32 := rfl
    rw [divisor,width,Nat.shiftRight_eq_div_pow]
    omega
  simp only [toSystemTime,secondsToNat,offset,nanos]

/- Both conversions round down, by less than a quarter of a nanosecond in all. -/
theorem systemTimeRoundTrip {time : Nat} (era : InEra time) :
    (fromSystemTime time).toSystemTime = time ∨ (fromSystemTime time).toSystemTime+1 = time := by
  rw [toSystemTimeNat,fromSystemTimeToNat era]
  omega

theorem fromSystemTimeMono {time later : Nat} (order : time ≤ later) (era : InEra later) :
    (fromSystemTime time).raw ≤ (fromSystemTime later).raw := by
  have earlier : InEra time := by
    unfold InEra at era ⊢
    omega
  rw [UInt64.le_iff_toNat_le,fromSystemTimeToNat era,fromSystemTimeToNat earlier]
  omega

theorem middle32Halves (t : NtpTimestamp) :
    t.middle32.toNat = t.upper32.toNat%2^16*2^16+t.fraction.toNat/2^16 := by
  rw [middle32ToNat,upper32ToNat,fractionToNat]
  omega

end NtpTimestamp
end Chromiacast
