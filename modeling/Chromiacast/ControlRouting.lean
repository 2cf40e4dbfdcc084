import Chromiacast.ControlMessages

/-! Where replies go. An offer is settled only by its destination, a product-info
request only by the receiver and under its own operation, and whatever is settled
does not depend on the order in which the tables are iterated. -/
namespace Chromiacast
open Basis

theorem typeIs {value : Json} {kind : String} (nonempty : kind ≠ "") :
    (jsonMessageType value).getD "" = kind ↔ jsonMessageType value = some kind := by
  cases jsonMessageType value with
  | none => simp [nonempty.symm]
  | some other => simp

section Offers
variable (value : Json) (source : String) (offers : Offers)

theorem completeOfferRemoves : ∃ removed, Requests.Removes offers (completeOffer value source offers).1 removed ∧
    ∀ sequence, removed = some sequence ↔ jsonU32 value "seqNum" = some sequence ∧
      ∃ offer, offers.lookup sequence = some offer ∧ offer.subject = source := by
  unfold completeOffer
  cases jsonU32 value "seqNum" with
  | none => exact ⟨none,Requests.removesNone offers,fun sequence => by simp⟩
  | some named =>
    obtain ⟨removed,removes,which⟩ := offers.settleIfRemoves named (fun destination => destination = source)
      (fun _ => (.ok value : Response))
    refine ⟨removed,removes,fun sequence => ?_⟩
    rw [which,Option.some.injEq]
    simp only [decide_eq_true_eq]

def FailsOffer (value : Json) (source : String) (offers : Offers) (sequence : UInt32) : Prop :=
  jsonU32 value "seqNum" = some sequence ∨ jsonU32 value "seqNum" = none ∧
    ∀ key, (∃ offer, offers.lookup key = some offer ∧ offer.subject = source) ↔ key = sequence

theorem failOfferRemoves (detail : String) :
    ∃ removed, Requests.Removes offers (failOffer value source offers detail).1 removed ∧
      ∀ sequence, removed = some sequence ↔ FailsOffer value source offers sequence ∧
        ∃ offer, offers.lookup sequence = some offer ∧ offer.subject = source := by
  have only (sequence : UInt32) :
      Requests.sole (offers.matching fun destination => destination = source) = some sequence ↔
        ∀ key, (∃ offer, offers.lookup key = some offer ∧ offer.subject = source) ↔ key = sequence := by
    simp only [Requests.soleMatching,decide_eq_true_eq]
  have about (sequence : UInt32) : FailsOffer value source offers sequence ↔
      (jsonU32 value "seqNum").or (Requests.sole (offers.matching fun destination => destination = source)) =
        some sequence := by
    rw [FailsOffer,← only]
    cases jsonU32 value "seqNum" <;> simp
  simp only [about]
  unfold failOffer
  cases (jsonU32 value "seqNum").or (Requests.sole (offers.matching fun destination => destination = source)) with
  | none => exact ⟨none,Requests.removesNone offers,fun sequence => by simp⟩
  | some found =>
    obtain ⟨removed,removes,which⟩ := offers.settleIfRemoves found (fun destination => destination = source)
      (fun _ => (.error (.negotiationFailed detail) : Response))
    refine ⟨removed,removes,fun sequence => ?_⟩
    rw [which,Option.some.injEq]
    simp only [decide_eq_true_eq]

end Offers

section Dispatch
variable (fromStr : String → Except String Json)

def Carries (message : CastMessage) (value : Json) : Prop :=
  ∃ text, message.payload = .string text ∧ fromStr text = .ok value

inductive NamesOffer (value : Json) (source : String) (offers : Offers) (sequence : UInt32) : Prop
  | answer (kind : jsonMessageType value = some "ANSWER") (named : jsonU32 value "seqNum" = some sequence)
  | rejected (kind : jsonMessageType value = some "INVALID_REQUEST") (about : FailsOffer value source offers sequence)

structure OfferRouting (message : CastMessage) (t : Tables) (d : Dispatched) : Prop where
  receiver : d.tables.receiver = t.receiver
  productInfo : d.tables.productInfo = t.productInfo
  offers : ∃ removed, Requests.Removes t.offers d.tables.offers removed ∧
    ∀ sequence, removed = some sequence ↔ ∃ value offer, Carries fromStr message value ∧
      NamesOffer value message.sourceId t.offers sequence ∧ t.offers.lookup sequence = some offer ∧
      offer.subject = message.sourceId

structure ProductInfoRouting (operation : ProductInfoOperation) (message : CastMessage) (t : Tables) (d : Dispatched) :
    Prop where
  receiver : d.tables.receiver = t.receiver
  offers : d.tables.offers = t.offers
  productInfo : ∃ removed, Requests.Removes t.productInfo d.tables.productInfo removed ∧
    ∀ requestId, removed = some requestId ↔ message.sourceId = receiverId ∧ message.destinationId = senderId ∧
      ∃ value request, Carries fromStr message value ∧ jsonU32 value operation.requestIdField = some requestId ∧
        t.productInfo.lookup requestId = some request ∧ request.subject = operation

theorem dispatchWebrtcRemoves (value : Json) (source : String) (t : Tables) :
    ∃ removed, Requests.Removes t.offers (dispatchWebrtc value source t).tables.offers removed ∧
      ∀ sequence, removed = some sequence ↔ NamesOffer value source t.offers sequence ∧
        ∃ offer, t.offers.lookup sequence = some offer ∧ offer.subject = source := by
  unfold dispatchWebrtc
  simp only [typeIs (by decide : "ANSWER" ≠ ""),typeIs (by decide : "INVALID_REQUEST" ≠ "")]
  split
  · rename_i kind
    obtain ⟨removed,removes,which⟩ := completeOfferRemoves value source t.offers
    refine ⟨removed,removes,fun sequence => ?_⟩
    rw [which]
    refine and_congr_left fun _ => ⟨fun named => .answer kind named,?_⟩
    rintro (⟨_,named⟩ | ⟨other,_⟩)
    · exact named
    · simp [kind] at other
  · rename_i notAnswer
    split
    · rename_i kind
      obtain ⟨removed,removes,which⟩ := failOfferRemoves value source t.offers
        (receiverErrorDescription value ((jsonMessageType value).getD ""))
      refine ⟨removed,removes,fun sequence => ?_⟩
      rw [which]
      refine and_congr_left fun _ => ⟨fun about => .rejected kind about,?_⟩
      rintro (⟨other,_⟩ | ⟨_,about⟩)
      · exact absurd other notAnswer
      · exact about
    · rename_i notRejected
      refine ⟨none,Requests.removesNone t.offers,fun sequence => ⟨fun same => (by cases same),?_⟩⟩
      rintro ⟨⟨kind,_⟩ | ⟨kind,_⟩,_⟩
      · exact absurd kind notAnswer
      · exact absurd kind notRejected

theorem webrtcFrame (value : Json) (source : String) (t : Tables) :
    (dispatchWebrtc value source t).tables.receiver = t.receiver ∧
      (dispatchWebrtc value source t).tables.productInfo = t.productInfo := by
  simp only [dispatchWebrtc]
  split
  · exact ⟨rfl,rfl⟩
  · split <;> exact ⟨rfl,rfl⟩

theorem parsedUnique {message : CastMessage} {text : String} {value : Json} (payload : message.payload = .string text)
    (parsed : fromStr text = .ok value) (other : Json) : Carries fromStr message other ↔ other = value := by
  constructor
  · rintro ⟨text',payload',parsed'⟩
    rw [payload] at payload'
    cases payload'
    rw [parsed] at parsed'
    exact (Except.ok.inj parsed').symm
  · rintro rfl
    exact ⟨text,payload,parsed⟩

theorem webrtcRouting {message : CastMessage} {t : Tables} {d : Dispatched} (webrtc : message.nameSpace = nsWebrtc)
    (dispatched : dispatch fromStr message t = .ok d) : OfferRouting fromStr message t d := by
  simp only [dispatch,dispatchJsonMessage,webrtc] at dispatched
  rw [if_neg (by decide)] at dispatched
  cases payload : message.payload with
  | binary data =>
    rw [payload] at dispatched
    cases dispatched
    refine ⟨rfl,rfl,none,Requests.removesNone _,fun sequence => ⟨fun same => (by cases same),?_⟩⟩
    rintro ⟨value,offer,⟨text,string,_⟩,_⟩
    rw [payload] at string
    cases string
  | string text =>
    simp only [payload,parsePayload] at dispatched
    cases parsed : fromStr text with
    | error e =>
      rw [parsed] at dispatched
      cases dispatched
    | ok value =>
      simp only [parsed] at dispatched
      rw [if_neg (by decide)] at dispatched
      cases dispatched
      obtain ⟨receiver,productInfo⟩ := webrtcFrame value message.sourceId t
      obtain ⟨removed,removes,which⟩ := dispatchWebrtcRemoves value message.sourceId t
      refine ⟨receiver,productInfo,removed,removes,fun sequence => ?_⟩
      rw [which]
      simp only [parsedUnique fromStr payload parsed]
      constructor
      · rintro ⟨names,offer,found,here⟩
        exact ⟨value,offer,rfl,names,found,here⟩
      · rintro ⟨_,offer,rfl,names,found,here⟩
        exact ⟨names,offer,found,here⟩

theorem productInfoRouting {message : CastMessage} {operation : ProductInfoOperation} {t : Tables} {d : Dispatched}
    (named : ProductInfoOperation.fromNamespace message.nameSpace = some operation)
    (dispatched : dispatch fromStr message t = .ok d) : ProductInfoRouting fromStr operation message t d := by
  simp only [dispatch,named,dispatchProductInfoMessage] at dispatched
  by_cases foreign : message.sourceId ≠ receiverId ∨ message.destinationId ≠ senderId
  · rw [if_pos foreign] at dispatched
    cases dispatched
    refine ⟨rfl,rfl,none,Requests.removesNone _,fun requestId => ⟨fun same => (by cases same),?_⟩⟩
    rintro ⟨source,destination,_⟩
    exact absurd foreign (by simp [source,destination])
  · rw [if_neg foreign] at dispatched
    obtain ⟨source,destination⟩ : message.sourceId = receiverId ∧ message.destinationId = senderId := by
      simpa [not_or] using foreign
    cases payload : message.payload with
    | binary data =>
      rw [payload] at dispatched
      cases dispatched
    | string text =>
      simp only [payload,parsePayload] at dispatched
      cases parsed : fromStr text with
      | error e =>
        simp only [parsed] at dispatched
        cases dispatched
      | ok value =>
        simp only [parsed] at dispatched
        have only := parsedUnique fromStr payload parsed
        cases carried : jsonU32 value operation.requestIdField with
        | none =>
          simp only [carried] at dispatched
          cases dispatched
          refine ⟨rfl,rfl,none,Requests.removesNone _,fun requestId => ⟨fun same => (by cases same),?_⟩⟩
          rintro ⟨_,_,other,request,same,carries,_⟩
          rw [(only other).mp same,carried] at carries
          cases carries
        | some asked =>
          simp only [carried] at dispatched
          cases dispatched
          obtain ⟨removed,removes,which⟩ := t.productInfo.settleIfRemoves asked (fun kind => kind = operation)
            (fun _ => productInfoResponse operation value)
          refine ⟨rfl,rfl,removed,removes,fun requestId => ?_⟩
          rw [which]
          simp only [decide_eq_true_eq,only]
          constructor
          · rintro ⟨rfl,request,found,kind⟩
            exact ⟨source,destination,value,request,rfl,carried,found,kind⟩
          · rintro ⟨_,_,_,request,rfl,carries,found,kind⟩
            exact ⟨Option.some.inj (carried.symm.trans carries),request,found,kind⟩

end Dispatch

section Order

structure Tables.Same (t u : Tables) : Prop where
  receiver : t.receiver.entries.Perm u.receiver.entries
  productInfo : t.productInfo.entries.Perm u.productInfo.entries
  offers : t.offers.entries.Perm u.offers.entries
  knownApps : t.knownApps.entries.Perm u.knownApps.entries

inductive SameOutcome : Except ControlError Dispatched → Except ControlError Dispatched → Prop
  | error (e : ControlError) : SameOutcome (.error e) (.error e)
  | ok {d e : Dispatched} (tables : d.tables.Same e.tables) (answers : d.answers.Perm e.answers)
      (events : d.events.Perm e.events) : SameOutcome (.ok d) (.ok e)

def SameReplies {τ : Type} (a b : Requests UInt32 τ × Answers) : Prop :=
  a.1.entries.Perm b.1.entries ∧ a.2.Perm b.2

section Replies
variable {τ : Type} {m n : Requests UInt32 τ}

theorem SameReplies.unchanged (same : m.entries.Perm n.entries) : SameReplies (m,[]) (n,[]) :=
  ⟨same,List.Perm.refl _⟩

theorem SameReplies.settle (same : m.entries.Perm n.entries) (id : UInt32) (reply : τ → Response) :
    SameReplies (m.settle id reply) (n.settle id reply) :=
  (Requests.settlePerm same id reply).imp_right List.Perm.of_eq

theorem SameReplies.settleIf (same : m.entries.Perm n.entries) (id : UInt32) (suits : τ → Bool) (reply : τ → Response) :
    SameReplies (m.settleIf id suits reply) (n.settleIf id suits reply) :=
  (Requests.settleIfPerm same id suits reply).imp_right List.Perm.of_eq

end Replies

section Functions
variable {value : Json} {source : String}

theorem completeReceiverStatusOrder (value : Json) {m n : ReceiverRequests} (same : m.entries.Perm n.entries) :
    SameReplies (completeReceiverStatus value m) (completeReceiverStatus value n) := by
  have found : completeByRequestId value m = completeByRequestId value n := by
    simp only [completeByRequestId,AList.perm_lookup same]
  unfold completeReceiverStatus
  rw [found]
  split
  · exact .settle same _ _
  · exact Requests.settleAllPerm (Requests.matchingPerm same _) same _

theorem completeReceiverRequestOrder {m n : ReceiverRequests} (same : m.entries.Perm n.entries)
    (expected : ReceiverOperation → Bool) :
    SameReplies (completeReceiverRequest value m expected) (completeReceiverRequest value n expected) := by
  unfold completeReceiverRequest
  split
  · exact .unchanged same
  · exact .settleIf same _ _ _

theorem failReceiverRequestOrder {m n : ReceiverRequests} (same : m.entries.Perm n.entries) (detail : String) :
    SameReplies (failReceiverRequest value m detail) (failReceiverRequest value n detail) := by
  have only := Requests.solePerm (Requests.matchingPerm same (failingRequest value))
  unfold failReceiverRequest
  rw [only]
  split
  · exact .unchanged same
  · exact .settle same _ _

theorem completeOfferOrder {m n : Offers} (same : m.entries.Perm n.entries) :
    SameReplies (completeOffer value source m) (completeOffer value source n) := by
  unfold completeOffer
  split
  · exact .unchanged same
  · exact .settleIf same _ _ _

theorem failOfferOrder {m n : Offers} (same : m.entries.Perm n.entries) (detail : String) :
    SameReplies (failOffer value source m detail) (failOffer value source n detail) := by
  have only := Requests.solePerm (Requests.matchingPerm same fun destination => destination = source)
  unfold failOffer
  rw [only]
  split
  · exact .unchanged same
  · exact .settleIf same _ _ _

theorem publishReceiverStatusOrder {a b : KnownApps} (same : a.entries.Perm b.entries) (status : ReceiverStatus) :
    (publishReceiverStatus status a).1 = (publishReceiverStatus status b).1 ∧
      (publishReceiverStatus status a).2.Perm (publishReceiverStatus status b).2 :=
  ⟨rfl,((same.filter _).map _).append_right _⟩

end Functions

variable {t u : Tables}

theorem dispatchReceiverOrder (same : t.Same u) (value : Json) (source : String) :
    SameOutcome (dispatchReceiver value source t) (dispatchReceiver value source u) := by
  simp only [dispatchReceiver]
  split
  · exact .ok same (List.Perm.refl _) (List.Perm.refl _)
  · split
    · split
      · exact .error _
      · rename_i status _
        obtain ⟨apps,events⟩ := publishReceiverStatusOrder same.knownApps status
        obtain ⟨receiver,answers⟩ := completeReceiverStatusOrder value same.receiver
        exact .ok ⟨receiver,same.productInfo,same.offers,by rw [apps]⟩ answers events
    · split
      · obtain ⟨receiver,answers⟩ := completeReceiverRequestOrder same.receiver _
        exact .ok ⟨receiver,same.productInfo,same.offers,same.knownApps⟩ answers (List.Perm.refl _)
      · split
        · obtain ⟨receiver,answers⟩ := failReceiverRequestOrder same.receiver _
          exact .ok ⟨receiver,same.productInfo,same.offers,same.knownApps⟩ answers (List.Perm.refl _)
        · exact .ok same (List.Perm.refl _) (List.Perm.refl _)

theorem dispatchWebrtcOrder (same : t.Same u) (value : Json) (source : String) :
    SameOutcome (.ok (dispatchWebrtc value source t)) (.ok (dispatchWebrtc value source u)) := by
  simp only [dispatchWebrtc]
  split
  · obtain ⟨offers,answers⟩ := completeOfferOrder same.offers
    exact .ok ⟨same.receiver,same.productInfo,offers,same.knownApps⟩ answers (List.Perm.refl _)
  · split
    · obtain ⟨offers,answers⟩ := failOfferOrder same.offers _
      exact .ok ⟨same.receiver,same.productInfo,offers,same.knownApps⟩ answers (List.Perm.refl _)
    · exact .ok same (List.Perm.refl _) (List.Perm.refl _)

variable (fromStr : String → Except String Json)

theorem dispatchProductInfoMessageOrder {m n : ProductInfoRequests} (same : m.entries.Perm n.entries)
    (operation : ProductInfoOperation) (message : CastMessage) :
    (∃ e, dispatchProductInfoMessage fromStr operation message m = .error e ∧
      dispatchProductInfoMessage fromStr operation message n = .error e) ∨
    ∃ a b, dispatchProductInfoMessage fromStr operation message m = .ok a ∧
      dispatchProductInfoMessage fromStr operation message n = .ok b ∧ SameReplies a b := by
  unfold dispatchProductInfoMessage
  split
  · exact Or.inr ⟨_,_,rfl,rfl,.unchanged same⟩
  · split
    · exact Or.inl ⟨_,rfl,rfl⟩
    · split
      · exact Or.inl ⟨_,rfl,rfl⟩
      · split
        · exact Or.inr ⟨_,_,rfl,rfl,.unchanged same⟩
        · exact Or.inr ⟨_,_,rfl,rfl,.settleIf same _ _ _⟩

theorem dispatchOrder (same : t.Same u) (message : CastMessage) :
    SameOutcome (dispatch fromStr message t) (dispatch fromStr message u) := by
  have unchanged : SameOutcome (.ok ⟨t,[],[]⟩) (.ok ⟨u,[],[]⟩) := .ok same (List.Perm.refl _) (List.Perm.refl _)
  unfold dispatch
  split
  · rename_i operation _
    rcases dispatchProductInfoMessageOrder fromStr same.productInfo operation message with
      ⟨e,left,right⟩ | ⟨a,b,left,right,replies⟩
    · rw [left,right]
      exact .error e
    · rw [left,right]
      exact .ok ⟨same.receiver,replies.1,same.offers,same.knownApps⟩ replies.2 (List.Perm.refl _)
  · unfold dispatchJsonMessage
    split
    · exact unchanged
    · split
      · exact unchanged
      · split
        · exact .error _
        · split
          · exact dispatchReceiverOrder same _ _
          · exact dispatchWebrtcOrder same _ _

end Order

theorem repliesRoutedSafely (fromStr : String → Except String Json) (message : CastMessage) (t u : Tables)
    (same : t.Same u) :
    (∀ d, dispatch fromStr message t = .ok d →
      (message.nameSpace = nsWebrtc → OfferRouting fromStr message t d) ∧
      (∀ operation, message.nameSpace = operation.nameSpace → ProductInfoRouting fromStr operation message t d)) ∧
    SameOutcome (dispatch fromStr message t) (dispatch fromStr message u) := by
  refine ⟨fun d dispatched => ⟨fun webrtc => webrtcRouting fromStr webrtc dispatched,fun operation named => ?_⟩,
    dispatchOrder fromStr same message⟩
  refine productInfoRouting fromStr ?_ dispatched
  rw [named]
  cases operation <;> decide

def exampleTables : Tables := ⟨∅,∅,((∅ : Offers).insert 1 ⟨"app-1",0⟩).insert 2 ⟨"app-2",1⟩,∅⟩

def exampleReordered : Tables := ⟨∅,∅,((∅ : Offers).insert 2 ⟨"app-2",1⟩).insert 1 ⟨"app-1",0⟩,∅⟩

def answerText : String := "\x7b\"type\":\"ANSWER\",\"seqNum\":2\x7d"

def exampleAnswer : CastMessage := ⟨"app-2","sender-0",nsWebrtc,.string answerText⟩

def exampleAnswerText (text : String) : Except String Json :=
  if text = answerText then .ok (.object [("type",.string "ANSWER"),("seqNum",.number (.unsigned 2))])
  else .error "expected value"

theorem answerRoutedToItsOffer :
    (∀ d, dispatch exampleAnswerText exampleAnswer exampleTables = .ok d →
      (exampleAnswer.nameSpace = nsWebrtc → OfferRouting exampleAnswerText exampleAnswer exampleTables d) ∧
      (∀ operation : ProductInfoOperation, exampleAnswer.nameSpace = operation.nameSpace →
        ProductInfoRouting exampleAnswerText operation exampleAnswer exampleTables d)) ∧
    SameOutcome (dispatch exampleAnswerText exampleAnswer exampleTables)
      (dispatch exampleAnswerText exampleAnswer exampleReordered) :=
  repliesRoutedSafely exampleAnswerText exampleAnswer exampleTables exampleReordered
    ⟨List.Perm.refl _,List.Perm.refl _,AList.insert_insert_of_ne _ (by decide),List.Perm.refl _⟩

section Status
variable {value : Json} {pending : ReceiverRequests} {r : UInt32}

def StatusAnswers (value : Json) (pending : ReceiverRequests) (r : UInt32) : Prop :=
  ∃ request, pending.lookup r = some request ∧ statusCompletes value request.subject

theorem completeByRequestIdOf (carries : jsonU32 value "requestId" = some r) :
    (StatusAnswers value pending r → completeByRequestId value pending = some r) ∧
      (¬ StatusAnswers value pending r → completeByRequestId value pending = none) := by
  simp only [completeByRequestId,carries,StatusAnswers,← Option.any_eq_true]
  constructor
  · intro answers
    simp [Option.filter,answers]
  · intro none'
    simp [Option.filter,none']

theorem answeredLookup (carries : jsonU32 value "requestId" = some r) (answers : StatusAnswers value pending r)
    (id : UInt32) : (completeReceiverStatus value pending).1.lookup id = if id = r then none else pending.lookup id := by
  rw [completeReceiverStatus,(completeByRequestIdOf carries).1 answers]
  exact Requests.settleLookup pending r id _

theorem unansweredLookup (carries : jsonU32 value "requestId" = some r) (unanswered : ¬ StatusAnswers value pending r)
    (id : UInt32) : (completeReceiverStatus value pending).1.lookup id =
      if id ∈ pending.matching (launchListed value) then none else pending.lookup id := by
  rw [completeReceiverStatus,(completeByRequestIdOf carries).2 unanswered]
  exact Requests.settleAllLookup pending _ id _

/- A status with a request id leaves all other requests pending exactly if it completes
its own request or lists the application of no other launch. -/
theorem statusKeepsOthers (value : Json) (pending : ReceiverRequests) (r : UInt32)
    (carries : jsonU32 value "requestId" = some r) :
    (∀ id request, id ≠ r → pending.lookup id = some request →
      (completeReceiverStatus value pending).1.lookup id = some request) ↔
    (StatusAnswers value pending r ∨
      ∀ id request, id ≠ r → pending.lookup id = some request → launchListed value request.subject = false) := by
  by_cases answers : StatusAnswers value pending r
  · refine ⟨fun _ => Or.inl answers,fun _ id request other found => ?_⟩
    rw [answeredLookup carries answers,if_neg other,found]
  · simp only [answers,false_or,unansweredLookup carries answers]
    refine forall₄_congr fun id request other found => ?_
    simp [Requests.memMatching,found]

def exampleLaunch : ReceiverRequests := (∅ : ReceiverRequests).insert 5 ⟨.launch "A",0⟩

def exampleStatus : Json := .object [("type",.string "RECEIVER_STATUS"),("requestId",.number (.unsigned 7)),
  ("status",.object [("applications",.array [.object [("appId",.string "A")]])])]

theorem statusCompletesOtherLaunch :
    jsonU32 exampleStatus "requestId" = some 7 ∧ exampleLaunch.lookup 5 = some ⟨.launch "A",0⟩ ∧
      (completeReceiverStatus exampleStatus exampleLaunch).1.lookup 5 = none ∧
      (completeReceiverStatus exampleStatus exampleLaunch).2 = [(0,.ok exampleStatus)] :=
  ⟨rfl,rfl,rfl,rfl⟩

def exampleVolume : ReceiverRequests := exampleLaunch.insert 7 ⟨.setVolume,1⟩

theorem statusKeepsLaunch :
    (∀ id request, id ≠ 7 → exampleVolume.lookup id = some request →
      (completeReceiverStatus exampleStatus exampleVolume).1.lookup id = some request) ↔
    (StatusAnswers exampleStatus exampleVolume 7 ∨
      ∀ id request, id ≠ 7 → exampleVolume.lookup id = some request →
        launchListed exampleStatus request.subject = false) :=
  statusKeepsOthers exampleStatus exampleVolume 7 rfl

end Status

end Chromiacast
