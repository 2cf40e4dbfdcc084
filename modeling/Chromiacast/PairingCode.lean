import Chromiacast.Basis.Numerals
import Chromiacast.CastMessage
import Chromiacast.RemoteIdentity

/-! The code a device shows for pairing: six hexadecimal digits, of which the first two repeat the
start of the digest that the rest gives with both parties' keys. SHA-256 is a parameter. -/
namespace Chromiacast.AndroidTv
open Basis

def isAsciiHexdigit (byte : UInt8) : Bool :=
  (48 ≤ byte && byte ≤ 57) || (97 ≤ byte && byte ≤ 102) || (65 ≤ byte && byte ≤ 70)

def hexValue (byte : UInt8) : Outcome AndroidTvError UInt8 :=
  if 48 ≤ byte ∧ byte ≤ 57 then .ok (byte-48)
  else if 97 ≤ byte ∧ byte ≤ 102 then .ok (byte-97+10)
  else if 65 ≤ byte ∧ byte ≤ 70 then .ok (byte-65+10)
  else .panic

def hexPairs : Bytes → Outcome AndroidTvError Bytes
  | high::low::rest => do
    let high ← hexValue high
    let low ← hexValue low
    let bytes ← hexPairs rest
    .ok (((high <<< 4) ||| low)::bytes)
  | _ => .ok []

def parsePairingCode (pairingCode : String) : Outcome AndroidTvError Bytes :=
  let bytes := asBytes pairingCode
  if bytes.length ≠ 6 ∨ ¬ bytes.all isAsciiHexdigit then .err .invalidPairingCode else hexPairs bytes

structure PairingKeys where
  clientModulus : Bytes
  clientExponent : Bytes
  serverModulus : Bytes
  serverExponent : Bytes
  deriving DecidableEq, Repr

def PairingKeys.material (keys : PairingKeys) : Bytes :=
  keys.clientModulus ++ keys.clientExponent ++ keys.serverModulus ++ keys.serverExponent

def computePairingSecret (sha256 : Bytes → Vector UInt8 32) (keys : PairingKeys) (pairingCode : String) :
    Outcome AndroidTvError Bytes := do
  let code ← parsePairingCode pairingCode
  let nonce ← slice code 1 code.length
  let check ← index code 0
  let secret := sha256 (keys.material ++ nonce)
  if secret[0] ≠ check then .err .invalidPairingCode else .ok secret.toList

abbrev checkByte (sha256 : Bytes → Vector UInt8 32) (keys : PairingKeys) (nonce : Bytes) : UInt8 :=
  (sha256 (keys.material ++ nonce))[0]

theorem asBytesEncoded (s : String) : asBytes s = s.toList.flatMap String.utf8EncodeChar := by
  conv => lhs; rw [← String.ofList_toList (s := s)]
  rw [asBytes,String.toUTF8_eq_toByteArray]
  exact congrArg Array.toList List.data_toByteArray

theorem hexDigitAgrees (c : Char) :
    (∃ byte digit, String.utf8EncodeChar c = [byte] ∧ isAsciiHexdigit byte = true ∧ digit < 16 ∧
      hexValue byte = .ok (UInt8.ofNat digit) ∧ toDigit 16 c = some digit) ∨
    (∃ first rest, String.utf8EncodeChar c = first::rest ∧ isAsciiHexdigit first = false ∧ toDigit 16 c = none) := by
  by_cases small : c.toNat < 128
  · have ascii : ∀ n < 128, isAsciiHexdigit (UInt8.ofNat n) = (toDigit 16 (Char.ofNat n)).isSome ∧
        ∀ digit < 16, toDigit 16 (Char.ofNat n) = some digit → hexValue (UInt8.ofNat n) = .ok (UInt8.ofNat digit) := by
      decide +kernel
    obtain ⟨digits,values⟩ := ascii c.toNat small
    rw [Char.ofNat_toNat] at digits values
    cases read : toDigit 16 c with
    | none => exact .inr ⟨_,[],utf8Ascii small,by rw [digits,read]; rfl,rfl⟩
    | some digit =>
      have bound := toDigitBound read
      exact .inl ⟨_,digit,utf8Ascii small,by rw [digits,read]; rfl,bound,values digit bound read,rfl⟩
  · obtain ⟨first,rest,encoded,marked⟩ := utf8Wide (not_lt.mp small)
    have outside (high : UInt8) (below : high.toNat < 128) : ¬ first ≤ high := by
      rw [UInt8.le_iff_toNat_le]
      omega
    refine .inr ⟨first,rest,encoded,?_,toDigitWide 16 (not_lt.mp small)⟩
    simp [isAsciiHexdigit,outside 57 (by decide),outside 102 (by decide),outside 70 (by decide)]

def encoded (text : List Char) : Bytes := text.flatMap String.utf8EncodeChar

theorem encodedCons (c : Char) (rest : List Char) : encoded (c::rest) = String.utf8EncodeChar c ++ encoded rest :=
  List.flatMap_cons

theorem digitFirst {c : Char} {rest : List Char} (digits : (encoded (c::rest)).all isAsciiHexdigit = true) :
    ∃ byte digit, encoded (c::rest) = byte::encoded rest ∧ digit < 16 ∧ hexValue byte = .ok (UInt8.ofNat digit) ∧
      toDigit 16 c = some digit ∧ (encoded rest).all isAsciiHexdigit = true := by
  rw [encodedCons] at digits ⊢
  rcases hexDigitAgrees c with ⟨byte,digit,single,_,bound,value,read⟩ | ⟨first,more,wide,other,_⟩
  · rw [single] at digits ⊢
    simp only [List.cons_append,List.nil_append,List.all_cons,Bool.and_eq_true] at digits
    exact ⟨byte,digit,rfl,bound,value,read,digits.2⟩
  · rw [wide] at digits
    simp [other] at digits

theorem pairValue {high low : Nat} (highBound : high < 16) (lowBound : low < 16) :
    (UInt8.ofNat high <<< 4) ||| UInt8.ofNat low = UInt8.ofNat (16*high+low) := by
  have all : ∀ high < 16, ∀ low < 16, (UInt8.ofNat high <<< 4) ||| UInt8.ofNat low = UInt8.ofNat (16*high+low) := by
    decide +kernel
  exact all high highBound low lowBound

theorem pairsDecode (text : List Char) (digits : (encoded text).all isAsciiHexdigit = true)
    (even : (encoded text).length%2 = 0) :
    ∃ bytes, hexPairs (encoded text) = .ok bytes ∧ hexDecode text = some bytes ∧
      2*bytes.length = (encoded text).length := by
  induction text using hexDecode.induct with
  | case1 => exact ⟨[],rfl,rfl,rfl⟩
  | case2 c =>
    obtain ⟨byte,_,single,_⟩ := digitFirst digits
    rw [single] at even
    simp [encoded] at even
  | case3 high low rest ih =>
    obtain ⟨first,upper,front,upperBound,firstValue,highRead,later⟩ := digitFirst digits
    obtain ⟨second,lower,back,lowerBound,secondValue,lowRead,remaining⟩ := digitFirst later
    rw [front,back] at even ⊢
    obtain ⟨bytes,paired,decoded,length⟩ := ih remaining (by simp only [List.length_cons] at even; omega)
    refine ⟨UInt8.ofNat (16*upper+lower)::bytes,?_,?_,by simp only [List.length_cons]; omega⟩
    · simp only [hexPairs,firstValue,secondValue,paired,Outcome.okBind,pairValue upperBound lowerBound]
    · simp [hexDecode,highRead,lowRead,decoded]

theorem decodedDigits {text : List Char} {bytes : Bytes} (decoded : hexDecode text = some bytes) :
    (encoded text).all isAsciiHexdigit = true ∧ (encoded text).length = 2*bytes.length := by
  have single {c : Char} {digit : Nat} (read : toDigit 16 c = some digit) :
      ∃ byte, String.utf8EncodeChar c = [byte] ∧ isAsciiHexdigit byte = true := by
    rcases hexDigitAgrees c with ⟨byte,_,one,hex,_⟩ | ⟨_,_,_,_,none⟩
    · exact ⟨byte,one,hex⟩
    · rw [read] at none
      contradiction
  induction text using hexDecode.induct generalizing bytes with
  | case1 =>
    cases Option.some.inj decoded
    exact ⟨rfl,rfl⟩
  | case2 c => simp [hexDecode] at decoded
  | case3 high low rest ih =>
    simp only [hexDecode,Option.bind_eq_bind,Option.bind_eq_some_iff] at decoded
    obtain ⟨upper,highRead,lower,lowRead,tail,rest,last⟩ := decoded
    cases Option.some.inj last
    obtain ⟨first,one,firstHex⟩ := single highRead
    obtain ⟨second,other,secondHex⟩ := single lowRead
    obtain ⟨digits,length⟩ := ih rest
    rw [encodedCons,encodedCons,one,other]
    simp only [List.cons_append,List.nil_append,List.all_cons,firstHex,secondHex,digits,List.length_cons]
    exact ⟨rfl,by omega⟩

theorem pairingCodeRead {pairingCode : String} {bytes : Bytes} :
    parsePairingCode pairingCode = .ok bytes ↔ hexDecode pairingCode.toList = some bytes ∧ bytes.length = 3 := by
  have text : asBytes pairingCode = encoded pairingCode.toList := asBytesEncoded pairingCode
  rw [parsePairingCode,text]
  constructor
  · intro read
    split at read <;> try contradiction
    rename_i admitted
    obtain ⟨six,digits⟩ := not_or.mp admitted
    have size := not_not.mp six
    obtain ⟨values,paired,decoded,length⟩ := pairsDecode _ (not_not.mp digits) (by omega)
    cases Outcome.ok.inj (paired.symm.trans read)
    exact ⟨decoded,by omega⟩
  · rintro ⟨decoded,three⟩
    obtain ⟨digits,length⟩ := decodedDigits decoded
    obtain ⟨values,paired,same,_⟩ := pairsDecode _ digits (by omega)
    cases Option.some.inj (decoded.symm.trans same)
    rw [if_neg (by simp [digits,length,three]),paired]

theorem pairingCodeRefused (pairingCode : String) :
    (∃ bytes, parsePairingCode pairingCode = .ok bytes) ∨ parsePairingCode pairingCode = .err .invalidPairingCode := by
  have text : asBytes pairingCode = encoded pairingCode.toList := asBytesEncoded pairingCode
  rw [parsePairingCode,text]
  split
  · exact .inr rfl
  · rename_i admitted
    obtain ⟨six,digits⟩ := not_or.mp admitted
    obtain ⟨values,paired,_⟩ := pairsDecode _ (not_not.mp digits) (by omega)
    exact .inl ⟨values,paired⟩

theorem secretComputed {sha256 : Bytes → Vector UInt8 32} {keys : PairingKeys} {pairingCode : String} {secret : Bytes} :
    computePairingSecret sha256 keys pairingCode = .ok secret ↔
      ∃ nonce : Bytes, nonce.length = 2 ∧
        hexDecode pairingCode.toList = some (checkByte sha256 keys nonce::nonce) ∧
        secret = (sha256 (keys.material ++ nonce)).toList := by
  unfold computePairingSecret
  constructor
  · intro computed
    obtain ⟨code,read,computed⟩ := Outcome.bindOkIff.mp computed
    obtain ⟨decoded,three⟩ := pairingCodeRead.mp read
    rcases code with _ | ⟨check,nonce⟩
    · simp at three
    · rw [sliceRest (by simp),Outcome.okBind,indexIn (by simp),Outcome.okBind] at computed
      dsimp only at computed
      split at computed <;> try contradiction
      rename_i same
      rw [not_not] at same
      refine ⟨nonce,by simpa using three,?_,(Outcome.ok.inj computed).symm⟩
      rw [decoded]
      exact congrArg (fun first => some (first::nonce)) same.symm
  · rintro ⟨nonce,two,decoded,rfl⟩
    have read := pairingCodeRead.mpr ⟨decoded,by simp [two]⟩
    rw [read,Outcome.okBind,sliceRest (by simp),Outcome.okBind,indexIn (by simp),Outcome.okBind]
    simp

theorem secretRefused (sha256 : Bytes → Vector UInt8 32) (keys : PairingKeys) (pairingCode : String) :
    (∃ secret, computePairingSecret sha256 keys pairingCode = .ok secret) ∨
      computePairingSecret sha256 keys pairingCode = .err .invalidPairingCode := by
  rcases pairingCodeRefused pairingCode with ⟨code,read⟩ | refused
  · obtain ⟨_,three⟩ := pairingCodeRead.mp read
    rcases code with _ | ⟨check,nonce⟩
    · simp at three
    · rw [computePairingSecret,read,Outcome.okBind,sliceRest (by simp),Outcome.okBind,indexIn (by simp),Outcome.okBind]
      dsimp only
      split
      · exact .inr rfl
      · exact .inl ⟨_,rfl⟩
  · exact .inr (by rw [computePairingSecret,refused,Outcome.errBind])

end Chromiacast.AndroidTv
