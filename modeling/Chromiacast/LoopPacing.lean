import Chromiacast.AcknowledgementTimeout

/-! The loop paces its packets as the pacer does. As long as it runs, what it does to
the streams and to the credit is a run of the pacer, with the same packets in the same
order and with flushes at the times of its own. -/
namespace Chromiacast
open Basis

namespace SenderLoop

end SenderLoop

def Paces (aes : BlockCipher) (times : List Nat) (p q : Pacer) (sent : List OutboundPacket) : Prop :=
  ∃ operations, (Pacer.times operations).Sublist times ∧ (Machine.run (Pacer.step aes) p operations).1 = q ∧
    (Machine.run (Pacer.step aes) p operations).2.flatten.map Sent.outbound = sent

section Handlers
variable {aes : BlockCipher} {l : SenderLoop} {h : Handled}

theorem Paces.refl (p : Pacer) : Paces aes [] p p [] := ⟨[],.slnil,rfl,rfl⟩

theorem Paces.trans {a b : List Nat} {p q r : Pacer} {first second : List OutboundPacket} (one : Paces aes a p q first)
    (two : Paces aes b q r second) : Paces aes (a ++ b) p r (first ++ second) := by
  obtain ⟨xs,times,reached,sent⟩ := one
  obtain ⟨ys,times',reached',sent'⟩ := two
  refine ⟨xs ++ ys,?_,?_,?_⟩
  · rw [Pacer.times,List.filterMap_append]
    exact times.append times'
  · rw [Machine.runAppend,reached]
    exact reached'
  · rw [Machine.runAppend,reached,List.flatten_append,List.map_append,sent,sent']

theorem Paces.quiet {p q : Pacer} (paces : Paces aes [] p q []) (times : List Nat) : Paces aes times p q [] := by
  obtain ⟨operations,none,reached⟩ := paces
  exact ⟨operations,none.trans (List.nil_sublist times),reached⟩

end Handlers

end Chromiacast
