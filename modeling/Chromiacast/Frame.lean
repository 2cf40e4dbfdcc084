import Chromiacast.Basis.Serial
import Chromiacast.Basis.Bytes

/-! Frame identifiers, encoded frames and the protocol constants they share.
Times and durations are natural numbers of nanoseconds. A frame identifier is the
integer inside the source's i64 wrapper; a stream needs 2^63 frames to leave it. -/
namespace Chromiacast
open Basis

abbrev SyncSource := UInt32

def maxUnackedFrames : Nat := 120
def allPacketsLost : UInt16 := 0xFFFF
def u64Max : Nat := 2^64-1

def saturatingAdd (a b : Nat) : Nat := min (a+b) u64Max

theorem saturatingAddAssoc (a b c : Nat) :
    saturatingAdd (saturatingAdd a b) c = saturatingAdd a (b+c) := by
  simp only [saturatingAdd]
  omega

def millis (n : Nat) : Nat := n*1000000

namespace FrameId

def first : Int := 0

def next (id : Int) : Int := id+1

def truncate (id : Int) : UInt8 := UInt8.ofInt id

def expand (truncated : UInt8) (reference : Int) : Int :=
  let delta := (truncated-truncate reference).toInt8
  reference+delta.toInt

def expandLte (truncated : UInt8) (reference : Int) : Int :=
  let expanded := expand truncated reference
  if expanded > reference then expanded-256 else expanded

def lower32 (id : Int) : UInt32 := UInt32.ofInt id

theorem truncateToNat (id : Int) : ((truncate id).toNat : Int) = id % 256 := by
  have low : 0 ≤ id % 256 := Int.emod_nonneg _ (by decide)
  have high : id % 256 < 256 := Int.emod_lt_of_pos _ (by decide)
  simp only [truncate,UInt8.ofInt,UInt8.toNat_ofNat',Int.natCast_emod]
  norm_num
  omega

theorem expandNearest (truncated : UInt8) (reference : Int) :
    expand truncated reference = Serial.nearest 256 truncated.toNat reference := by
  have reading (x : UInt8) : x.toInt8.toInt = Int.bmod x.toNat 256 := BitVec.toInt_eq_toNat_bmod x.toBitVec
  have bound := truncated.toNat_lt
  have value := truncateToNat reference
  have small : (truncate reference).toNat < 256 := (truncate reference).toNat_lt
  have lifted : (((truncated-truncate reference).toNat : Nat) : Int) = (truncated.toNat-reference) % 256 := by
    rw [UInt8.toNat_sub]
    omega
  simp only [expand,Serial.nearest,reading,lifted]
  rw [show (256 : Int) = ((256 : Nat) : Int) from rfl,Int.emod_bmod]

theorem expandLteAtMost (truncated : UInt8) (reference : Int) :
    expandLte truncated reference = Serial.atMost 256 truncated.toNat reference := by
  simp only [expandLte,Serial.atMost,expandNearest]
  rfl

theorem expandTruncated {id reference : Int} (low : reference-128 ≤ id) (high : id ≤ reference+127) :
    expand (truncate id) reference = id := by
  rw [expandNearest]
  refine Serial.nearestExact (by decide) ?_ (by omega) (by omega)
  rw [truncateToNat]
  omega

theorem expandLteTruncated {id reference : Int} (low : reference-255 ≤ id) (high : id ≤ reference) :
    expandLte (truncate id) reference = id := by
  rw [expandLteAtMost]
  refine Serial.atMostExact (by decide) ?_ (by omega) high
  rw [truncateToNat]
  omega

theorem expandLteWindow (truncated : UInt8) (reference : Int) :
    reference-255 ≤ expandLte truncated reference ∧ expandLte truncated reference ≤ reference := by
  rw [expandLteAtMost]
  have positive : 0 < 256 := by decide
  have window := Serial.atMostWindow positive truncated.toNat reference
  omega

theorem expandWindow (truncated : UInt8) (reference : Int) :
    reference-128 ≤ expand truncated reference ∧ expand truncated reference ≤ reference+127 := by
  rw [expandNearest]
  have positive : 0 < 256 := by decide
  have window := Serial.nearestWindow positive truncated.toNat reference
  omega

theorem truncateCongruent {id : Int} {truncated : UInt8} (same : id % 256 = truncated.toNat % 256) :
    truncate id = truncated := by
  have value := truncateToNat id
  have bound := truncated.toNat_lt
  apply UInt8.toNat_inj.mp
  omega

theorem truncateExpand (truncated : UInt8) (reference : Int) :
    truncate (expand truncated reference) = truncated := by
  rw [expandNearest]
  exact truncateCongruent (Serial.nearestCongruent 256 truncated.toNat reference)

theorem truncateExpandLte (truncated : UInt8) (reference : Int) :
    truncate (expandLte truncated reference) = truncated := by
  rw [expandLteAtMost]
  exact truncateCongruent (Serial.atMostCongruent 256 truncated.toNat reference)

/- Each expansion inverts truncation on one window of 256 ids and on no id outside it. The
reference may be negative, as the checkpoint is before the first frame. -/
theorem expansionInverse (id reference : Int) (truncated : UInt8) :
    (expand (truncate id) reference = id ↔ reference-128 ≤ id ∧ id ≤ reference+127) ∧
      (expandLte (truncate id) reference = id ↔ reference-255 ≤ id ∧ id ≤ reference) ∧
      truncate (expand truncated reference) = truncated ∧ truncate (expandLte truncated reference) = truncated ∧
      (reference-128 ≤ expand truncated reference ∧ expand truncated reference ≤ reference+127) ∧
      reference-255 ≤ expandLte truncated reference ∧ expandLte truncated reference ≤ reference := by
  have nearest : expand (truncate id) reference = id ↔ reference-128 ≤ id ∧ id ≤ reference+127 := by
    refine ⟨fun same => ?_,fun window => expandTruncated window.1 window.2⟩
    have window := expandWindow (truncate id) reference
    rwa [same] at window
  have below : expandLte (truncate id) reference = id ↔ reference-255 ≤ id ∧ id ≤ reference := by
    refine ⟨fun same => ?_,fun window => expandLteTruncated window.1 window.2⟩
    have window := expandLteWindow (truncate id) reference
    rwa [same] at window
  exact ⟨nearest,below,truncateExpand truncated reference,truncateExpandLte truncated reference,
    expandWindow truncated reference,expandLteWindow truncated reference⟩

example : expand 0xFF (-1) = -1 ∧ expand 0 (-1) = 0 ∧ expandLte 0 (-1) = -256 := by decide

end FrameId

inductive FrameDependency where
  | keyFrame
  | delta
  deriving DecidableEq, Repr

structure EncodedFrame where
  dependency : FrameDependency
  data : Bytes
  mediaTimestamp : Nat
  referenceTime : Nat
  duration : Option Nat
  deriving DecidableEq, Repr

inductive EnqueueError where
  | reachedIdSpanLimit
  | firstFrameMustBeKeyFrame
  | nonMonotonicMediaTimestamp
  | emptyFrame
  | sessionClosed
  deriving DecidableEq, Repr

end Chromiacast
