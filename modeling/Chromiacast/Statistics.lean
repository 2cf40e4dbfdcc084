import Chromiacast.Stream

/-! Statistics of a stream. Durations are nanoseconds; the sums and products that the
source checks or saturates stop at the largest duration. -/
namespace Chromiacast

def durationMax : Nat := (2^64-1)*1000000000+999999999

def minimumInFlightMediaDuration : Nat := millis 66

structure StreamStatistics where
  inFlightFrames : Nat
  inFlightMediaDuration : Nat
  maxAcceptableInFlightDuration : Nat
  currentRtt : Option Nat
  receiverPlayoutDelay : Option Nat
  packetsSent : Nat
  packetsRetransmitted : Nat
  framesAcked : Nat
  framesDroppedOrSkipped : Nat
  nackCount : Nat
  fractionLost : Option UInt8
  cumulativePacketsLost : Option Int32
  highestSequenceNumber : Option UInt32
  jitter : Option UInt32
  lastAckFeedbackCount : Option UInt8
  lastAckBitvectorBytes : Option Nat
  receiverReferenceTime : Option Nat
  deriving DecidableEq, Repr

structure SessionStatistics where
  audio : Option StreamStatistics
  video : Option StreamStatistics
  deriving DecidableEq, Repr

structure StreamFeedbackState where
  pressureLimited : Bool
  maxAcceptableInFlightDuration : Nat
  currentRtt : Option Nat
  receiverPlayoutDelay : Option Nat
  nackCount : Nat
  framesDroppedOrSkipped : Nat
  fractionLost : Option UInt8
  deriving DecidableEq, Repr

def PendingFrame.mediaEnd (frame : PendingFrame) : Nat :=
  (frame.duration.bind fun duration =>
    if frame.mediaTimestamp+duration ≤ durationMax then some (frame.mediaTimestamp+duration) else none).getD
      frame.mediaTimestamp

namespace StreamState

def mediaSpan (frames : List PendingFrame) : Option (Nat × Nat) :=
  frames.foldl (fun span frame => some (span.elim (frame.mediaTimestamp,frame.mediaEnd) fun s =>
    (min s.1 frame.mediaTimestamp,max s.2 frame.mediaEnd))) none

def inFlightMediaDuration (s : StreamState) : Nat :=
  (mediaSpan (s.pending.toList.filterMap id)).elim 0 fun span => span.2-span.1

def maxAcceptableInFlightDuration (s : StreamState) : Nat :=
  let playoutDelay := s.receiverPlayoutDelay.getD s.targetPlayoutDelay
  let maximum := max (playoutDelay/3) minimumInFlightMediaDuration
  let networkBudget := min (s.currentRtt.getD 0*2) durationMax
  min (max networkBudget minimumInFlightMediaDuration) maximum

def statistics (s : StreamState) : StreamStatistics where
  inFlightFrames := s.inFlightCount
  inFlightMediaDuration := s.inFlightMediaDuration
  maxAcceptableInFlightDuration := s.maxAcceptableInFlightDuration
  currentRtt := s.currentRtt
  receiverPlayoutDelay := s.receiverPlayoutDelay
  packetsSent := s.rtpPacketsSent
  packetsRetransmitted := s.packetsRetransmitted
  framesAcked := s.framesAcked
  framesDroppedOrSkipped := s.framesDroppedOrSkipped
  nackCount := s.nackCount
  fractionLost := s.fractionLost
  cumulativePacketsLost := s.cumulativePacketsLost
  highestSequenceNumber := s.highestSequenceNumber
  jitter := s.jitter
  lastAckFeedbackCount := s.lastAckFeedbackCount
  lastAckBitvectorBytes := s.lastAckBitvectorBytes
  receiverReferenceTime := s.receiverReferenceTime

end StreamState

def StreamStatistics.feedbackState (statistics : StreamStatistics) : StreamFeedbackState where
  pressureLimited := statistics.maxAcceptableInFlightDuration ≠ 0 &&
    statistics.maxAcceptableInFlightDuration ≤ statistics.inFlightMediaDuration
  maxAcceptableInFlightDuration := statistics.maxAcceptableInFlightDuration
  currentRtt := statistics.currentRtt
  receiverPlayoutDelay := statistics.receiverPlayoutDelay
  nackCount := statistics.nackCount
  framesDroppedOrSkipped := statistics.framesDroppedOrSkipped
  fractionLost := statistics.fractionLost

def SessionStatistics.feedbackState (statistics : SessionStatistics) :
    Option StreamFeedbackState × Option StreamFeedbackState :=
  (statistics.audio.map StreamStatistics.feedbackState,statistics.video.map StreamStatistics.feedbackState)

end Chromiacast
