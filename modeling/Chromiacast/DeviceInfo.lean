import Chromiacast.ControlMessages
import Chromiacast.Isolation
import Chromiacast.SetupResponse

/-! What a receiver says of itself over the control channel. Texts are trimmed, bounded and free of
control characters; what can come out of the parsers is what they give back for its own rendering. -/
namespace Chromiacast
open Basis
open Setup (isControl)

namespace DeviceInfo

def maxDeviceIdBytes : Nat := 256
def maxDeviceNameBytes : Nat := 256
def maxDeviceModelBytes : Nat := 256
def maxManufacturerBytes : Nat := 256
def maxProductNameBytes : Nat := 256
def maxSsdpUdnBytes : Nat := 256

structure AuthenticatedDeviceInfo where
  deviceId : String
  friendlyName : Option String
  deviceModel : Option String
  capabilities : Option UInt64
  controlNotifications : Option UInt64
  deriving DecidableEq, Repr

structure AuthenticatedEurekaInfo where
  manufacturer : Option String
  productName : Option String
  ssdpUdn : Option String
  deriving DecidableEq, Repr

inductive EurekaInfoOutcome where
  | available (info : AuthenticatedEurekaInfo)
  | unsupported
  deriving DecidableEq, Repr

abbrev Result (α : Type) := Except ControlError α

def protocolError {α : Type} (detail : String) : Result α := .error (.protocolError detail)

def optionalTextValue (value : Option Json) (field : String) (maximum : Nat) : Result (Option String) :=
  match value with
  | none => .ok none
  | some .null => .ok none
  | some (.string text) =>
    let text := String.ofList (trim text.toList)
    if text = "" then .ok none
    else if text.utf8ByteSize > maximum || text.toList.any isControl then
      protocolError (field ++ " is empty, too long, or contains a control character")
    else .ok (some text)
  | some _ => protocolError (field ++ " is not a string")

def optionalText (value : Json) (field : String) (maximum : Nat) : Result (Option String) :=
  optionalTextValue (value.get field) field maximum

def requiredText (value : Json) (field : String) (maximum : Nat) : Result String := do
  match ← optionalText value field maximum with
  | some text => .ok text
  | none => protocolError ("response omitted " ++ field)

def optionalU64 (value : Json) (field : String) : Result (Option UInt64) :=
  match value.get field with
  | none => .ok none
  | some value =>
    match value.asU64 with
    | some n => .ok (some n)
    | none => protocolError (field ++ " is not an unsigned integer")

def aliasedU64 (value : Json) (preferred compatibility : String) : Result (Option UInt64) := do
  let preferredValue ← optionalU64 value preferred
  let compatibilityValue ← optionalU64 value compatibility
  match preferredValue,compatibilityValue with
  | some left,some right =>
    if left ≠ right then protocolError (preferred ++ " and " ++ compatibility ++ " disagree") else .ok (some left)
  | some n,none => .ok (some n)
  | none,some n => .ok (some n)
  | none,none => .ok none

def optionalObjectValue (value : Option Json) (field : String) : Result (Option Json) :=
  match value with
  | none => .ok none
  | some .null => .ok none
  | some (.object fields) => .ok (some (.object fields))
  | some _ => protocolError (field ++ " is not an object")

def optionalObject (value : Json) (field : String) : Result (Option Json) := optionalObjectValue (value.get field) field

def requireDeviceInfoMessageType (value : Json) : Result Unit :=
  match jsonMessageType value with
  | some actual =>
    if actual = "DEVICE_INFO" ∨ actual = "GET_DEVICE_INFO" then .ok ()
    else protocolError ("expected DEVICE_INFO response, received " ++ actual)
  | none => protocolError "DEVICE_INFO response omitted its type"

def requireMessageType (value : Json) (expected : String) : Result Unit :=
  match jsonMessageType value with
  | some actual =>
    if actual = expected then .ok () else protocolError ("expected " ++ expected ++ " response, received " ++ actual)
  | none => protocolError (expected ++ " response omitted its type")

def parseDeviceInfo (value : Json) : Result AuthenticatedDeviceInfo := do
  requireDeviceInfoMessageType value
  let deviceId ← requiredText value "deviceId" maxDeviceIdBytes
  let capabilities ← aliasedU64 value "deviceCapabilities" "capabilities"
  let friendlyName ← optionalText value "friendlyName" maxDeviceNameBytes
  let deviceModel ← optionalText value "deviceModel" maxDeviceModelBytes
  let controlNotifications ← optionalU64 value "controlNotifications"
  .ok ⟨deviceId,friendlyName,deviceModel,capabilities,controlNotifications⟩

/- The object `data.device_info` of a successful reply; either level may be missing or null. -/
def eurekaDeviceInfo (value : Json) : Result (Option Json) := do
  match ← optionalObject value "data" with
  | some data => optionalObjectValue (data.get "device_info") "data.device_info"
  | none => .ok none

def eurekaFields : Option Json → Result AuthenticatedEurekaInfo
  | none => .ok ⟨none,none,none⟩
  | some deviceInfo => do
    let manufacturer ← optionalText deviceInfo "manufacturer" maxManufacturerBytes
    let productName ← optionalText deviceInfo "product_name" maxProductNameBytes
    let ssdpUdn ← optionalText deviceInfo "ssdp_udn" maxSsdpUdnBytes
    .ok ⟨manufacturer,productName,ssdpUdn⟩

def parseEurekaInfo (value : Json) : Result EurekaInfoOutcome :=
  if jsonMessageType value = some "INVALID_REQUEST" then .ok .unsupported else do
    requireMessageType value "eureka_info"
    match (value.get "response_code").bind Json.asU64 with
    | none => protocolError "eureka_info omitted a numeric response_code"
    | some responseCode =>
      if responseCode ≠ 200 then .ok .unsupported else do
        let info ← eurekaFields (← eurekaDeviceInfo value)
        .ok (.available info)

structure Proper (maximum : Nat) (text : String) : Prop where
  nonempty : text ≠ ""
  trimmed : trim text.toList = text.toList
  bounded : text.utf8ByteSize ≤ maximum
  printable : ∀ c ∈ text.toList, isControl c = false

instance (maximum : Nat) (text : String) : Decidable (Proper maximum text) :=
  decidable_of_iff (text ≠ "" ∧ trim text.toList = text.toList ∧ text.utf8ByteSize ≤ maximum ∧
    text.toList.any isControl = false)
    ⟨fun ⟨nonempty,trimmed,bounded,printable⟩ => ⟨nonempty,trimmed,bounded,by simpa using printable⟩,
      fun ⟨nonempty,trimmed,bounded,printable⟩ => ⟨nonempty,trimmed,bounded,by simpa using printable⟩⟩

theorem properRead {field text : String} {maximum : Nat} (proper : Proper maximum text) :
    optionalTextValue (some (.string text)) field maximum = .ok (some text) := by
  have clean : ¬ (text.utf8ByteSize > maximum || text.toList.any isControl) := by
    simpa using ⟨proper.bounded,proper.printable⟩
  simp only [optionalTextValue,proper.trimmed,String.ofList_toList,if_neg proper.nonempty,if_neg clean]

theorem optionalTextProper {value : Option Json} {field : String} {maximum : Nat} {text : String}
    (read : optionalTextValue value field maximum = .ok (some text)) : Proper maximum text := by
  unfold optionalTextValue at read
  split at read
  · cases read
  · cases read
  · rename_i given
    simp only at read
    split_ifs at read with empty unclean
    · cases read
    · cases read
    · cases Option.some.inj (Except.ok.inj read)
      simp only [Bool.or_eq_true,decide_eq_true_eq,not_or,List.any_eq_true,not_exists,not_and] at unclean
      refine ⟨empty,?_,by omega,fun c member => by simpa using unclean.2 c member⟩
      rw [String.toList_ofList,trimIdempotent]
  · cases read

def AuthenticatedDeviceInfo.WellFormed (info : AuthenticatedDeviceInfo) : Prop :=
  Proper maxDeviceIdBytes info.deviceId ∧ (∀ name ∈ info.friendlyName, Proper maxDeviceNameBytes name) ∧
    ∀ model ∈ info.deviceModel, Proper maxDeviceModelBytes model

def AuthenticatedEurekaInfo.WellFormed (info : AuthenticatedEurekaInfo) : Prop :=
  (∀ text ∈ info.manufacturer, Proper maxManufacturerBytes text) ∧
    (∀ text ∈ info.productName, Proper maxProductNameBytes text) ∧ ∀ text ∈ info.ssdpUdn, Proper maxSsdpUdnBytes text

instance (info : AuthenticatedDeviceInfo) : Decidable info.WellFormed := inferInstanceAs (Decidable (_ ∧ _ ∧ _))

instance (info : AuthenticatedEurekaInfo) : Decidable info.WellFormed := inferInstanceAs (Decidable (_ ∧ _ ∧ _))

def field (name : String) (value : Option Json) : List (String × Json) := value.toList.map (Prod.mk name)

def AuthenticatedDeviceInfo.render (info : AuthenticatedDeviceInfo) : Json :=
  .object (field "type" (some (.string "DEVICE_INFO")) ++ field "deviceId" (some (.string info.deviceId)) ++
    field "friendlyName" (info.friendlyName.map .string) ++ field "deviceModel" (info.deviceModel.map .string) ++
    field "deviceCapabilities" (info.capabilities.map fun n => .number (.unsigned n)) ++
    field "controlNotifications" (info.controlNotifications.map fun n => .number (.unsigned n)))

def AuthenticatedEurekaInfo.deviceInfo (info : AuthenticatedEurekaInfo) : Json :=
  .object (field "manufacturer" (info.manufacturer.map .string) ++ field "product_name" (info.productName.map .string) ++
    field "ssdp_udn" (info.ssdpUdn.map .string))

def AuthenticatedEurekaInfo.render (info : AuthenticatedEurekaInfo) : Json :=
  .object [("type",.string "eureka_info"),("response_code",.number (.unsigned 200)),
    ("data",.object [("device_info",info.deviceInfo)])]

@[simp] theorem fieldLookup (name : String) (value : Option Json) (key : String) :
    (field name value).lookup key = if key = name then value else none := by
  cases value with
  | none => simp [field]
  | some value =>
    by_cases same : key = name
    · simp [field,same]
    · have differs : (key == name) = false := beq_false_of_ne same
      simp [field,List.lookup_cons,differs,same]

theorem optionalTextRead {value : Json} {name : String} {text : Option String} {maximum : Nat}
    (found : value.get name = text.map .string) (proper : ∀ t ∈ text, Proper maximum t) :
    optionalText value name maximum = .ok text := by
  rw [optionalText,found]
  cases text with
  | none => rfl
  | some t => exact properRead (proper t rfl)

theorem optionalU64Read {value : Json} {name : String} {n : Option UInt64}
    (found : value.get name = n.map fun n => .number (.unsigned n)) : optionalU64 value name = .ok n := by
  rw [optionalU64,found]
  cases n <;> rfl

theorem AuthenticatedDeviceInfo.renderRead {info : AuthenticatedDeviceInfo} (wellFormed : info.WellFormed) :
    parseDeviceInfo info.render = .ok info := by
  obtain ⟨idProper,nameProper,modelProper⟩ := wellFormed
  have type : requireDeviceInfoMessageType info.render = .ok () := by
    have kind : jsonMessageType info.render = some "DEVICE_INFO" := rfl
    simp [requireDeviceInfoMessageType,kind]
  have id : requiredText info.render "deviceId" maxDeviceIdBytes = .ok info.deviceId := by
    have read : optionalText info.render "deviceId" maxDeviceIdBytes = .ok (some info.deviceId) := properRead idProper
    rw [requiredText,read]
    rfl
  have name : optionalText info.render "friendlyName" maxDeviceNameBytes = .ok info.friendlyName :=
    optionalTextRead (by simp [render,Json.get,List.lookup_append]) nameProper
  have model : optionalText info.render "deviceModel" maxDeviceModelBytes = .ok info.deviceModel :=
    optionalTextRead (by simp [render,Json.get,List.lookup_append]) modelProper
  have preferred : optionalU64 info.render "deviceCapabilities" = .ok info.capabilities :=
    optionalU64Read (by simp [render,Json.get,List.lookup_append])
  have compatible : optionalU64 info.render "capabilities" = .ok none :=
    optionalU64Read (by simp [render,Json.get,List.lookup_append])
  have capabilities : aliasedU64 info.render "deviceCapabilities" "capabilities" = .ok info.capabilities := by
    rw [aliasedU64,preferred,compatible]
    cases info.capabilities <;> rfl
  have notifications : optionalU64 info.render "controlNotifications" = .ok info.controlNotifications :=
    optionalU64Read (by simp [render,Json.get,List.lookup_append])
  simp only [parseDeviceInfo,type,id,capabilities,name,model,notifications]
  rfl

theorem AuthenticatedEurekaInfo.renderRead {info : AuthenticatedEurekaInfo} (wellFormed : info.WellFormed) :
    parseEurekaInfo info.render = .ok (.available info) := by
  obtain ⟨manufacturerProper,productProper,udnProper⟩ := wellFormed
  have manufacturer : optionalText info.deviceInfo "manufacturer" maxManufacturerBytes = .ok info.manufacturer :=
    optionalTextRead (by simp [deviceInfo,Json.get,List.lookup_append]) manufacturerProper
  have product : optionalText info.deviceInfo "product_name" maxProductNameBytes = .ok info.productName :=
    optionalTextRead (by simp [deviceInfo,Json.get,List.lookup_append]) productProper
  have udn : optionalText info.deviceInfo "ssdp_udn" maxSsdpUdnBytes = .ok info.ssdpUdn :=
    optionalTextRead (by simp [deviceInfo,Json.get,List.lookup_append]) udnProper
  have fields : eurekaFields (some info.deviceInfo) = .ok info := by
    simp only [eurekaFields,manufacturer,product,udn]
    rfl
  have object : eurekaDeviceInfo info.render = .ok (some info.deviceInfo) := rfl
  have type : jsonMessageType info.render = some "eureka_info" := rfl
  have accepted : requireMessageType info.render "eureka_info" = .ok () := by simp [requireMessageType,type]
  have code : (info.render.get "response_code").bind Json.asU64 = some 200 := rfl
  rw [parseEurekaInfo,type,accepted,code,object,if_neg (by decide)]
  simp only [bind,Except.bind,fields]
  rfl

theorem eurekaFieldsWellFormed {deviceInfo : Option Json} {info : AuthenticatedEurekaInfo}
    (read : eurekaFields deviceInfo = .ok info) : info.WellFormed := by
  cases deviceInfo with
  | none =>
    cases Except.ok.inj read
    exact ⟨fun _ found => (by cases found),fun _ found => (by cases found),fun _ found => (by cases found)⟩
  | some deviceInfo =>
    obtain ⟨_,manufacturer,read⟩ := bindOk.mp read
    obtain ⟨_,product,read⟩ := bindOk.mp read
    obtain ⟨_,udn,read⟩ := bindOk.mp read
    cases Except.ok.inj read
    refine ⟨fun text found => ?_,fun text found => ?_,fun text found => ?_⟩
    · cases found
      exact optionalTextProper manufacturer
    · cases found
      exact optionalTextProper product
    · cases found
      exact optionalTextProper udn

def Unsupported (value : Json) : Prop :=
  jsonMessageType value = some "INVALID_REQUEST" ∨ jsonMessageType value = some "eureka_info" ∧
    ∃ code, (value.get "response_code").bind Json.asU64 = some code ∧ code ≠ 200

theorem requireMessageTypeOk {value : Json} {expected : String} (passed : requireMessageType value expected = .ok ()) :
    jsonMessageType value = some expected := by
  unfold requireMessageType at passed
  split at passed
  · rename_i found
    split_ifs at passed with same
    · rw [found,same]
    · cases passed
  · cases passed

theorem parseEurekaInfoOk {value : Json} {outcome : EurekaInfoOutcome} (parsed : parseEurekaInfo value = .ok outcome) :
    (Unsupported value ∧ outcome = .unsupported) ∨ ∃ info, ¬ Unsupported value ∧ outcome = .available info ∧ info.WellFormed := by
  unfold parseEurekaInfo at parsed
  split_ifs at parsed with refused
  · exact .inl ⟨.inl refused,(Except.ok.inj parsed).symm⟩
  · obtain ⟨_,type,parsed⟩ := bindOk.mp parsed
    replace type := requireMessageTypeOk type
    split at parsed
    · cases parsed
    · rename_i code found
      split_ifs at parsed with other
      · exact .inl ⟨.inr ⟨type,code,found,other⟩,(Except.ok.inj parsed).symm⟩
      · obtain ⟨_,_,parsed⟩ := bindOk.mp parsed
        obtain ⟨info,fields,parsed⟩ := bindOk.mp parsed
        refine .inr ⟨info,?_,(Except.ok.inj parsed).symm,eurekaFieldsWellFormed fields⟩
        rintro (invalid | ⟨_,n,again,differs⟩)
        · exact refused invalid
        · rw [found] at again
          cases Option.some.inj again
          exact other differs

theorem parseUnsupported {value : Json} (unsupported : Unsupported value) : parseEurekaInfo value = .ok .unsupported := by
  unfold parseEurekaInfo
  rcases unsupported with invalid | ⟨type,code,found,differs⟩
  · rw [if_pos invalid]
  · have accepted : requireMessageType value "eureka_info" = .ok () := by simp [requireMessageType,type]
    have valid : jsonMessageType value ≠ some "INVALID_REQUEST" := by simp [type]
    rw [if_neg valid,accepted,found]
    simp only [bind,Except.bind,if_pos differs]

theorem optionalU64Ok {value present : Json} {field : String} {n : Option UInt64} (read : optionalU64 value field = .ok n)
    (found : value.get field = some present) : ∃ m, present.asU64 = some m ∧ n = some m := by
  simp only [optionalU64,found] at read
  cases number : present.asU64 with
  | none =>
    rw [number] at read
    cases read
  | some m =>
    rw [number] at read
    exact ⟨m,rfl,(Except.ok.inj read).symm⟩

theorem aliasedOk {value : Json} {preferred compatibility : String} {n : Option UInt64}
    (read : aliasedU64 value preferred compatibility = .ok n) :
    ∀ name ∈ [preferred,compatibility], ∀ present, value.get name = some present → present.asU64 = n := by
  obtain ⟨first,one,read⟩ := bindOk.mp read
  obtain ⟨second,two,read⟩ := bindOk.mp read
  intro name listed present found
  rcases List.mem_pair.mp listed with rfl | rfl
  · obtain ⟨m,same,rfl⟩ := optionalU64Ok one found
    cases second with
    | none => rw [same,← Except.ok.inj read]
    | some k =>
      simp only at read
      split_ifs at read
      · cases read
      · rw [same,← Except.ok.inj read]
  · obtain ⟨m,same,rfl⟩ := optionalU64Ok two found
    cases first with
    | none => rw [same,← Except.ok.inj read]
    | some k =>
      simp only at read
      split_ifs at read with differs
      · cases read
      · rw [same,← Except.ok.inj read,not_not.mp differs]

theorem parseDeviceInfoOk {value : Json} {info : AuthenticatedDeviceInfo} (parsed : parseDeviceInfo value = .ok info) :
    info.WellFormed ∧ ∀ name ∈ ["deviceCapabilities","capabilities"], ∀ present, value.get name = some present →
      present.asU64 = info.capabilities := by
  unfold parseDeviceInfo at parsed
  obtain ⟨_,_,parsed⟩ := bindOk.mp parsed
  obtain ⟨deviceId,id,parsed⟩ := bindOk.mp parsed
  obtain ⟨capabilities,aliased,parsed⟩ := bindOk.mp parsed
  obtain ⟨friendlyName,name,parsed⟩ := bindOk.mp parsed
  obtain ⟨deviceModel,model,parsed⟩ := bindOk.mp parsed
  obtain ⟨_,_,parsed⟩ := bindOk.mp parsed
  cases Except.ok.inj parsed
  refine ⟨⟨?_,fun text found => ?_,fun text found => ?_⟩,aliasedOk aliased⟩
  · obtain ⟨text,read,given⟩ := bindOk.mp id
    cases text with
    | none => cases given
    | some text =>
      cases Except.ok.inj given
      exact optionalTextProper read
  · cases found
    exact optionalTextProper name
  · cases found
    exact optionalTextProper model

theorem deviceInfoCanonical :
    (∀ value info, parseDeviceInfo value = .ok info → info.WellFormed ∧
      ∀ name ∈ ["deviceCapabilities","capabilities"], ∀ present, value.get name = some present →
        present.asU64 = info.capabilities) ∧
    (∀ info : AuthenticatedDeviceInfo, info.WellFormed → parseDeviceInfo info.render = .ok info) ∧
    (∀ value info, parseEurekaInfo value = .ok (.available info) → info.WellFormed) ∧
    (∀ info : AuthenticatedEurekaInfo, info.WellFormed → parseEurekaInfo info.render = .ok (.available info)) ∧
    ∀ value, parseEurekaInfo value = .ok .unsupported ↔ Unsupported value := by
  refine ⟨fun value info => parseDeviceInfoOk,fun info => info.renderRead,fun value info parsed => ?_,
    fun info => info.renderRead,fun value => ⟨fun parsed => ?_,parseUnsupported⟩⟩
  · rcases parseEurekaInfoOk parsed with ⟨_,other⟩ | ⟨_,_,same,wellFormed⟩
    · cases other
    · cases same
      exact wellFormed
  · rcases parseEurekaInfoOk parsed with ⟨unsupported,_⟩ | ⟨_,_,same,_⟩
    · exact unsupported
    · cases same

def exampleInformation : AuthenticatedDeviceInfo := ⟨"0123abcd",some "Living Room TV",some "Chromecast",some 5,none⟩

def exampleEureka : AuthenticatedEurekaInfo := ⟨some "Google Inc.",some "sabrina",none⟩

theorem exampleCanonical : exampleInformation.WellFormed ∧ exampleEureka.WellFormed ∧
    parseDeviceInfo exampleInformation.render = .ok exampleInformation ∧
    parseEurekaInfo exampleEureka.render = .ok (.available exampleEureka) := by
  have device : exampleInformation.WellFormed := by decide +kernel
  have eureka : exampleEureka.WellFormed := by decide +kernel
  exact ⟨device,eureka,deviceInfoCanonical.2.1 _ device,deviceInfoCanonical.2.2.2.1 _ eureka⟩

end DeviceInfo

end Chromiacast
