import Chromiacast.Frame

/-! Frame encryption. The block cipher is a parameter; counter mode around it is
the documented behaviour of the ctr crate: big-endian 128-bit blocks counted up
from the nonce modulo 2^128, one per 16 bytes, XORed into the data. -/
namespace Chromiacast
open Basis

abbrev Block := Vector UInt8 16
abbrev BlockCipher := Block → Block → Block

def blockValue (b : Block) : Nat := readBE b.toList

def blockOf (value : Nat) : Block := ⟨(be 16 value).toArray,by simp⟩

def counterBlock (nonce : Block) (k : Nat) : Block := blockOf (blockValue nonce+k)

def applyKeystream (aes : BlockCipher) (key nonce : Block) (data : Bytes) : Bytes :=
  data.mapIdx fun i b => b ^^^ (aes key (counterBlock nonce (i/16))).get ⟨i%16,Nat.mod_lt i (by decide)⟩

structure FrameCrypto where
  key : Block
  ivMask : Block
  deriving DecidableEq, Repr

namespace FrameCrypto

def buildNonce (c : FrameCrypto) (frameId : Int) : Block :=
  let id : Vector UInt8 4 := ⟨(be 4 (FrameId.lower32 frameId).toNat).toArray,by simp⟩
  let nonce : Block := Vector.replicate 8 (0 : UInt8) ++ id ++ Vector.replicate 4 (0 : UInt8)
  Vector.zipWith (· ^^^ ·) nonce c.ivMask

def encrypt (aes : BlockCipher) (c : FrameCrypto) (frameId : Int) (data : Bytes) : Bytes :=
  applyKeystream aes c.key (c.buildNonce frameId) data

def counterBlocks (c : FrameCrypto) (frameId : Int) (length : Nat) : List Block :=
  (List.range ((length+15)/16)).map (counterBlock (c.buildNonce frameId))

end FrameCrypto

@[simp] theorem applyLength (aes : BlockCipher) (key nonce : Block) (data : Bytes) :
    (applyKeystream aes key nonce data).length = data.length := by
  simp [applyKeystream]

theorem applyTwice (aes : BlockCipher) (key nonce : Block) (data : Bytes) :
    applyKeystream aes key nonce (applyKeystream aes key nonce data) = data := by
  apply List.ext_getElem (by simp)
  intro i h _
  simp [applyKeystream]

theorem encryptLength (aes : BlockCipher) (c : FrameCrypto) (frameId : Int) (data : Bytes) :
    (c.encrypt aes frameId data).length = data.length := applyLength ..

theorem encryptReadsCounterBlocks {aes other : BlockCipher} {c : FrameCrypto} {frameId : Int} {data : Bytes}
    (agree : ∀ b ∈ c.counterBlocks frameId data.length, aes c.key b = other c.key b) :
    c.encrypt aes frameId data = c.encrypt other frameId data := by
  apply List.ext_getElem (by simp [FrameCrypto.encrypt])
  intro i h _
  have inside : i < data.length := by simpa [FrameCrypto.encrypt] using h
  have used : counterBlock (c.buildNonce frameId) (i/16) ∈ c.counterBlocks frameId data.length :=
    List.mem_map.mpr ⟨i/16,List.mem_range.mpr (by omega),rfl⟩
  simp [FrameCrypto.encrypt,applyKeystream,agree _ used]

theorem blockValueOf (value : Nat) : blockValue (blockOf value) = value % 2^128 := by
  rw [blockValue,blockOf,Vector.toList_mk,List.toList_toArray,readBeEncoded]
  norm_num

theorem counterBlockEq {a b : Block} {k j : Nat} (same : counterBlock a k = counterBlock b j) :
    (blockValue a+k) % 2^128 = (blockValue b+j) % 2^128 := by
  simpa only [counterBlock,blockValueOf] using congrArg blockValue same

theorem zerosXor (raw : Bytes) :
    readBE (List.zipWith (· ^^^ ·) (List.replicate raw.length 0) raw) = readBE raw := by
  have zero (n : Nat) : readBE (List.replicate n 0) = 0 := by
    induction n with
    | zero => rfl
    | succ n ih => rw [List.replicate_succ',readBeSnoc,ih]; rfl
  rw [readBeXor (by simp),zero,Nat.zero_xor]

theorem nonceValue (c : FrameCrypto) :
    ∃ high middle low, middle < 2^32 ∧ ∀ id, blockValue (c.buildNonce id) =
      high*2^64+low+((FrameId.lower32 id).toNat ^^^ middle)*2^32 := by
  obtain ⟨a,b,d,mask,ha,hb,hd⟩ : ∃ a b d : Bytes, c.ivMask.toList = (a ++ b) ++ d ∧
      a.length = 8 ∧ b.length = 4 ∧ d.length = 4 := by
    refine ⟨c.ivMask.toList.take 8,(c.ivMask.toList.drop 8).take 4,c.ivMask.toList.drop 12,?_,?_,?_,?_⟩
    · rw [← List.take_add,List.take_append_drop]
    all_goals simp
  refine ⟨readBE a,readBE b,readBE d,?_,?_⟩
  · have bound := readBeBound b
    rw [hb] at bound
    exact bound
  · intro id
    have bound : (FrameId.lower32 id).toNat < 256^4 := (FrameId.lower32 id).toNat_lt
    have zip : (c.buildNonce id).toList =
        List.zipWith (· ^^^ ·) (List.replicate a.length 0) a ++
        List.zipWith (· ^^^ ·) (be 4 (FrameId.lower32 id).toNat) b ++
        List.zipWith (· ^^^ ·) (List.replicate d.length 0) d := by
      rw [FrameCrypto.buildNonce,Vector.toList_zipWith,mask]
      simp only [Vector.toList_append,Vector.toList_replicate,Vector.toList_mk]
      rw [List.zipWith_append (by simp [ha,hb]),List.zipWith_append (by simp [ha]),ha,hd]
    rw [blockValue,zip,readBeAppend,readBeAppend,zerosXor,zerosXor,readBeXor (by simp [hb]),readBeExact bound]
    simp only [List.length_zipWith,List.length_replicate,beLength,hb,hd,Nat.min_self]
    ring

theorem lower32Injective {a b : Int} (la : 0 ≤ a) (ha : a < 2^32) (lb : 0 ≤ b) (hb : b < 2^32)
    (same : FrameId.lower32 a = FrameId.lower32 b) : a = b := by
  have value {x : Int} (lx : 0 ≤ x) (hx : x < 2^32) : ((FrameId.lower32 x).toNat : Int) = x := by
    simp only [FrameId.lower32,UInt32.ofInt,UInt32.toNat_ofNat']
    omega
  rw [← value la ha,← value lb hb,same]

/- 2^36 bytes are 2^32 blocks, the pitch at which the masked identifiers stand. -/
theorem counterBlockInjective (c : FrameCrypto) {a b : Int} {k j : Nat}
    (la : 0 ≤ a) (ha : a < 2^32) (lb : 0 ≤ b) (hb : b < 2^32) (hk : k < 2^32) (hj : j < 2^32)
    (same : counterBlock (c.buildNonce a) k = counterBlock (c.buildNonce b) j) : a = b ∧ k = j := by
  obtain ⟨high,middle,low,small,value⟩ := nonceValue c
  have equal := counterBlockEq same
  rw [value a,value b] at equal
  have masked (x : Int) : (FrameId.lower32 x).toNat ^^^ middle < 2^32 :=
    Nat.xor_lt_two_pow (FrameId.lower32 x).toNat_lt small
  have fits : 2^32*2^32 ≤ 2^128 := by norm_num
  obtain ⟨ids,offsets⟩ := Serial.gridInjective fits (masked a) (masked b) hk hj equal
  have lower : FrameId.lower32 a = FrameId.lower32 b := UInt32.toNat_inj.mp (Nat.xor_left_inj.mp ids)
  exact ⟨lower32Injective la ha lb hb lower,offsets⟩

theorem blockCount {length : Nat} (bound : length ≤ 2^36) {k : Nat} (inside : k < (length+15)/16) : k < 2^32 := by
  omega

theorem counterBlocksNodup (c : FrameCrypto) {id : Int} {length : Nat}
    (low : 0 ≤ id) (high : id < 2^32) (bound : length ≤ 2^36) : (c.counterBlocks id length).Nodup := by
  refine List.Nodup.map_on ?_ List.nodup_range
  intro k hk j hj same
  have hk := blockCount bound (List.mem_range.mp hk)
  have hj := blockCount bound (List.mem_range.mp hj)
  exact (counterBlockInjective c low high low high hk hj same).2

theorem counterBlocksDisjoint (c : FrameCrypto) {a b : Int} {n m : Nat}
    (la : 0 ≤ a) (ha : a < 2^32) (lb : 0 ≤ b) (hb : b < 2^32) (hn : n ≤ 2^36) (hm : m ≤ 2^36)
    (different : a ≠ b) : (c.counterBlocks a n).Disjoint (c.counterBlocks b m) := by
  intro block left right
  obtain ⟨k,hk,rfl⟩ := List.mem_map.mp left
  obtain ⟨j,hj,same⟩ := List.mem_map.mp right
  have hk := blockCount hn (List.mem_range.mp hk)
  have hj := blockCount hm (List.mem_range.mp hj)
  exact different (counterBlockInjective c la ha lb hb hk hj same.symm).1

end Chromiacast
