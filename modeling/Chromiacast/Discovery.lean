import Chromiacast.Basis.Announcements
import Chromiacast.Basis.Text

/-! Discovery of receivers by DNS-SD. Devices are kept by their stable id, while a
service is removed by its instance name; a device that is resolved again keeps the
routes it had. -/
namespace Chromiacast
open Basis

namespace Discovery

inductive IpAddr where
  | v4 (bits : BitVec 32)
  | v6 (bits : BitVec 128)
  deriving DecidableEq, Repr

/- The flow label of an IPv6 address is always zero here and left out. -/
structure SocketAddr where
  ip : IpAddr
  port : UInt16
  scopeId : UInt32
  deriving DecidableEq, Repr

structure CastEndpoint where
  address : SocketAddr
  interfaceIndex : Option UInt32
  interfaceName : Option String
  deriving DecidableEq, Repr

structure CastDevice where
  friendlyName : String
  model : String
  stableId : String
  serviceInstance : String
  endpoints : List CastEndpoint
  capabilities : Nat
  protocolVersion : Option Nat
  deriving DecidableEq, Repr

def CastDevice.preferredEndpoint (device : CastDevice) : Option CastEndpoint := device.endpoints[0]?

structure InterfaceId where
  index : UInt32
  name : String
  deriving DecidableEq, Repr

inductive ScopedIp where
  | v4 (addr : BitVec 32) (interfaceIds : List InterfaceId)
  | v6 (addr : BitVec 128) (scopeId : InterfaceId)
  | other
  deriving DecidableEq, Repr

structure ResolvedService where
  fullname : String
  hostname : String
  port : UInt16
  addresses : List ScopedIp
  getPropertyValStr : String → Option String

inductive ServiceEvent where
  | serviceResolved (service : ResolvedService)
  | serviceRemoved (serviceType serviceInstance : String)
  | other

/- `address.segments()[0] & 0xffc0 == 0xfe80` -/
def isIpv6UnicastLinkLocal (address : BitVec 128) : Bool := address >>> 112 &&& 0xffc0 == 0xfe80

def interfaceIndex (interface : InterfaceId) : Option UInt32 :=
  if interface.index ≠ 0 then some interface.index else none

def interfaceName (interface : InterfaceId) : Option String :=
  if interface.name ≠ "" then some interface.name else none

def appendEndpoints (port : UInt16) : ScopedIp → List CastEndpoint
  | .v4 address interfaceIds =>
    if address = 0 ∨ address >>> 28 = 0xE then []
    else if interfaceIds = [] then [⟨⟨.v4 address,port,0⟩,none,none⟩]
    else interfaceIds.map fun interface =>
      ⟨⟨.v4 address,port,0⟩,interfaceIndex interface,interfaceName interface⟩
  | .v6 address interface =>
    if address = 0 ∨ address >>> 120 = 0xFF then []
    else if isIpv6UnicastLinkLocal address ∧ interface.index = 0 then []
    else
      let scopeId := if isIpv6UnicastLinkLocal address then interface.index else 0
      [⟨⟨.v6 address,port,scopeId⟩,interfaceIndex interface,interfaceName interface⟩]
  | .other => []

def endpointPriority (address : SocketAddr) : Nat :=
  match address.ip with
  | .v4 _ => 0
  | .v6 address => if !isIpv6UnicastLinkLocal address then 1 else 2

/- IPv4 addresses stand before IPv6 addresses, and no interface before every interface. -/
def endpointKey (e : CastEndpoint) : Nat ×ₗ Nat ×ₗ Nat ×ₗ Nat :=
  let ip := match e.address.ip with
    | .v4 bits => (0,bits.toNat)
    | .v6 bits => (1,bits.toNat)
  let interface := match e.interfaceIndex with
    | none => 0
    | some i => i.toNat+1
  toLex (endpointPriority e.address,toLex (ip.1,toLex (ip.2,interface)))

def sortAndDeduplicateEndpoints (endpoints : List CastEndpoint) : List CastEndpoint :=
  (endpoints.insertionSort fun left right => endpointKey left ≤ endpointKey right).destutter (· ≠ ·)

def deviceFromService (service : ResolvedService) : Option CastDevice := do
  let stableId := String.ofList (trim (← service.getPropertyValStr "id").toList)
  if stableId = "" ∨ service.port = 0 then none
  else
    let endpoints := sortAndDeduplicateEndpoints (service.addresses.flatMap (appendEndpoints service.port))
    if endpoints = [] then none
    else some {
      friendlyName := ((service.getPropertyValStr "fn").filter (· ≠ "")).getD service.hostname
      model := (service.getPropertyValStr "md").getD ""
      stableId := stableId
      serviceInstance := service.fullname
      endpoints := endpoints
      capabilities := ((service.getPropertyValStr "ca").bind fun bits => fromStrRadix 64 10 bits.toList).getD 0
      protocolVersion := (service.getPropertyValStr "ve").bind fun version => fromStrRadix 8 10 version.toList }

def mergeDevice (current update : CastDevice) : CastDevice :=
  {current with
    friendlyName := update.friendlyName
    model := update.model
    serviceInstance := update.serviceInstance
    capabilities := update.capabilities
    protocolVersion := update.protocolVersion
    endpoints := sortAndDeduplicateEndpoints (current.endpoints ++ update.endpoints)}

abbrev Devices := AList fun _ : String => CastDevice

def Devices.retain (devices : Devices) (keep : CastDevice → Bool) : Devices :=
  ⟨devices.entries.filter fun e => keep e.2,devices.nodupKeys.sublist List.filter_sublist⟩

def handle (devices : Devices) : ServiceEvent → Devices
  | .serviceResolved service =>
    match deviceFromService service with
    | none => devices
    | some device =>
      match devices.lookup device.stableId with
      | some current => devices.insert device.stableId (mergeDevice current device)
      | none => devices.insert device.stableId device
  | .serviceRemoved _ serviceInstance => devices.retain fun device => device.serviceInstance ≠ serviceInstance
  | .other => devices

inductive Received where
  | event (e : ServiceEvent)
  | error (message : String)
  | elapsed

def discoverLoop (devices : Devices) : List Received → Except String Devices
  | [] => .ok devices
  | .event e::rest => discoverLoop (handle devices e) rest
  | .error message::_ => .error ("receive mDNS event: " ++ message)
  | .elapsed::_ => .ok devices

def sorted (devices : Devices) : List CastDevice :=
  (devices.entries.map Sigma.snd).insertionSort fun left right =>
    toLex (left.friendlyName,left.stableId) ≤ toLex (right.friendlyName,right.stableId)

def discover (received : List Received) : Except String (List CastDevice) :=
  (discoverLoop ∅ received).map sorted

theorem memSorted {devices : Devices} {device : CastDevice} :
    device ∈ sorted devices ↔ ∃ id, devices.lookup id = some device := by
  rw [sorted,List.mem_insertionSort,List.mem_map]
  constructor
  · rintro ⟨e,stored,rfl⟩
    exact ⟨e.1,AList.mem_lookup_iff.mpr stored⟩
  · rintro ⟨id,found⟩
    exact ⟨⟨id,device⟩,AList.mem_lookup_iff.mp found,rfl⟩

theorem retainLookup {devices : Devices} {keep : CastDevice → Bool} {id : String} {device : CastDevice} :
    (devices.retain keep).lookup id = some device ↔ devices.lookup id = some device ∧ keep device = true := by
  have stored (d : Devices) : d.lookup id = some device ↔ ⟨id,device⟩ ∈ d.entries := AList.mem_lookup_iff
  rw [stored,stored,Devices.retain,List.mem_filter]

theorem memDeduplicated {endpoints : List CastEndpoint} {route : CastEndpoint}
    (listed : route ∈ sortAndDeduplicateEndpoints endpoints) : route ∈ endpoints := by
  have sorted := (List.destutter_sublist _ _).subset listed
  exact (List.mem_insertionSort _).mp sorted

theorem loopEvents (devices : Devices) (events : List ServiceEvent) :
    discoverLoop devices (events.map .event ++ [.elapsed]) = .ok (events.foldl handle devices) := by
  induction events generalizing devices with
  | nil => rfl
  | cons e rest ih => exact ih (handle devices e)

def ServiceEvent.announced : ServiceEvent → Option CastDevice
  | serviceResolved service => deviceFromService service
  | _ => none

def ServiceEvent.withdrawn : ServiceEvent → Option String
  | serviceRemoved _ serviceInstance => some serviceInstance
  | _ => none

abbrev stand (live : List CastDevice) (e : ServiceEvent) : List CastDevice :=
  Announcements.stand ServiceEvent.announced ServiceEvent.withdrawn CastDevice.serviceInstance live e

abbrev standing (events : List ServiceEvent) : List CastDevice :=
  Announcements.standing ServiceEvent.announced ServiceEvent.withdrawn CastDevice.serviceInstance events

structure Tracks (devices : Devices) (live : List CastDevice) : Prop where
  keyed : ∀ id device, devices.lookup id = some device → device.stableId = id
  latest : ∀ id device, devices.lookup id = some device →
    ∃ a ∈ live, a.stableId = id ∧ a.serviceInstance = device.serviceInstance
  listed : ∀ a ∈ live, ∃ device, devices.lookup a.stableId = some device
  routes : ∀ id device, devices.lookup id = some device → ∀ route ∈ device.endpoints,
    ∃ a ∈ live, a.stableId = id ∧ route ∈ a.endpoints

def Alone (live : List CastDevice) (name : String) : Prop :=
  ∀ a ∈ live, ∀ b ∈ live, a.stableId = b.stableId → a.serviceInstance = name → b.serviceInstance = name

theorem tracksStored {devices : Devices} {live : List CastDevice} {update stored : CastDevice}
    (tracks : Tracks devices live) (key : stored.stableId = update.stableId)
    (owner : stored.serviceInstance = update.serviceInstance)
    (routes : ∀ route ∈ stored.endpoints, route ∈ update.endpoints ∨
      ∃ a ∈ live, a.stableId = update.stableId ∧ route ∈ a.endpoints) :
    Tracks (devices.insert update.stableId stored) (live ++ [update]) := by
  have grow {P : CastDevice → Prop} (old : ∃ a ∈ live, P a) : ∃ a ∈ live ++ [update], P a := by
    obtain ⟨a,inside,holds⟩ := old
    exact ⟨a,List.mem_append_left _ inside,holds⟩
  have new : update ∈ live ++ [update] := by simp
  refine ⟨fun id device found => ?_,fun id device found => ?_,fun a inside => ?_,fun id device found => ?_⟩
  · by_cases same : id = update.stableId
    · subst same
      rw [AList.lookup_insert] at found
      cases Option.some.inj found
      exact key
    · rw [AList.lookup_insert_ne same] at found
      exact tracks.keyed id device found
  · by_cases same : id = update.stableId
    · subst same
      rw [AList.lookup_insert] at found
      cases Option.some.inj found
      exact ⟨update,new,rfl,owner.symm⟩
    · rw [AList.lookup_insert_ne same] at found
      exact grow (tracks.latest id device found)
  · by_cases same : a.stableId = update.stableId
    · rw [same,AList.lookup_insert]
      exact ⟨stored,rfl⟩
    · rw [AList.lookup_insert_ne same]
      rcases List.mem_append.mp inside with inside | inside
      · exact tracks.listed a inside
      · exact absurd (congrArg CastDevice.stableId (List.mem_singleton.mp inside)) same
  · by_cases same : id = update.stableId
    · subst same
      rw [AList.lookup_insert] at found
      cases Option.some.inj found
      intro route there
      rcases routes route there with fresh | old
      · exact ⟨update,new,rfl,fresh⟩
      · exact grow old
    · rw [AList.lookup_insert_ne same] at found
      intro route there
      exact grow (tracks.routes id device found route there)

theorem tracksRemoved {devices : Devices} {live : List CastDevice} {name : String}
    (tracks : Tracks devices live) (alone : Alone live name) (serviceType : String) :
    Tracks (devices.retain fun device => device.serviceInstance ≠ name)
      (stand live (.serviceRemoved serviceType name)) := by
  have left {a : CastDevice} : a ∈ stand live (.serviceRemoved serviceType name) ↔
      a ∈ live ∧ name ≠ a.serviceInstance := by
    simp [Announcements.memStand,ServiceEvent.announced,ServiceEvent.withdrawn]
  refine ⟨fun id device found => ?_,fun id device found => ?_,fun a inside => ?_,fun id device found => ?_⟩
  · exact tracks.keyed id device (retainLookup.mp found).1
  · obtain ⟨found,other⟩ := retainLookup.mp found
    obtain ⟨a,inside,key,owner⟩ := tracks.latest id device found
    have other : device.serviceInstance ≠ name := by simpa using other
    exact ⟨a,left.mpr ⟨inside,by rw [owner]; exact other.symm⟩,key,owner⟩
  · have inside := left.mp inside
    obtain ⟨device,found⟩ := tracks.listed a inside.1
    refine ⟨device,retainLookup.mpr ⟨found,?_⟩⟩
    obtain ⟨b,there,key,owner⟩ := tracks.latest _ device found
    -- the stored instance stands, so it is removed only together with `a`
    have other : device.serviceInstance ≠ name := fun gone =>
      inside.2 (alone b there a inside.1 key (owner.trans gone)).symm
    simpa using other
  · obtain ⟨found,other⟩ := retainLookup.mp found
    intro route there
    obtain ⟨a,inside,key,carried⟩ := tracks.routes id device found route there
    obtain ⟨b,there',key',owner⟩ := tracks.latest id device found
    have other' : name ≠ a.serviceInstance := fun gone => by
      have same := alone a inside b there' (key.trans key'.symm) gone.symm
      rw [owner] at same
      simp [same] at other
    exact ⟨a,left.mpr ⟨inside,other'⟩,key,carried⟩

theorem handleTracks {devices : Devices} {live : List CastDevice} (e : ServiceEvent)
    (tracks : Tracks devices live) (alone : ∀ name, e.withdrawn = some name → Alone live name) :
    Tracks (handle devices e) (stand live e) := by
  cases e with
  | serviceResolved service =>
    cases read : deviceFromService service with
    | none =>
      simpa [handle,read,Announcements.stand,ServiceEvent.announced,ServiceEvent.withdrawn] using tracks
    | some update =>
      have live' : stand live (.serviceResolved service) = live ++ [update] := by
        simp [Announcements.stand,ServiceEvent.announced,ServiceEvent.withdrawn,read]
      rw [live']
      cases found : devices.lookup update.stableId with
      | none =>
        simp only [handle,read,found]
        exact tracksStored tracks rfl rfl fun route there => .inl there
      | some current =>
        simp only [handle,read,found]
        refine tracksStored tracks (tracks.keyed _ current found) rfl fun route there => ?_
        rcases List.mem_append.mp (memDeduplicated there) with old | fresh
        · exact .inr (tracks.routes _ _ found route old)
        · exact .inl fresh
  | serviceRemoved serviceType name => exact tracksRemoved tracks (alone name rfl) serviceType
  | other => simpa [handle,Announcements.stand,ServiceEvent.announced,ServiceEvent.withdrawn] using tracks

def Stands (events : List ServiceEvent) (a : CastDevice) : Prop :=
  ∃ before service after, events = before ++ .serviceResolved service::after ∧
    deviceFromService service = some a ∧ ∀ serviceType, .serviceRemoved serviceType a.serviceInstance ∉ after

theorem standsIff {events : List ServiceEvent} {a : CastDevice} : a ∈ standing events ↔ Stands events a := by
  rw [standing,Announcements.memStanding]
  constructor
  · rintro ⟨before,e,after,split,said,kept⟩
    cases e with
    | serviceResolved service =>
      exact ⟨before,service,after,split,said,fun serviceType inside => kept _ inside rfl⟩
    | serviceRemoved serviceType name => simp [ServiceEvent.announced] at said
    | other => simp [ServiceEvent.announced] at said
  · rintro ⟨before,service,after,split,read,kept⟩
    refine ⟨before,_,after,split,read,fun e inside gone => ?_⟩
    cases e with
    | serviceResolved service => simp [ServiceEvent.withdrawn] at gone
    | serviceRemoved serviceType name =>
      cases Option.some.inj gone
      exact kept serviceType inside
    | other => simp [ServiceEvent.withdrawn] at gone

theorem eventsTracked (events : List ServiceEvent)
    (alone : ∀ before serviceType name after, events = before ++ .serviceRemoved serviceType name::after →
      Alone (standing before) name) : Tracks (events.foldl handle ∅) (standing events) := by
  induction events using List.reverseRecOn with
  | nil =>
    refine ⟨fun id device found => ?_,fun id device found => ?_,fun a inside => ?_,fun id device found => ?_⟩
    · simp at found
    · simp at found
    · simp [Announcements.standing] at inside
    · simp at found
  | append_singleton events last ih =>
    rw [List.foldl_append,standing,Announcements.standingSnoc]
    refine handleTracks last (ih fun before serviceType name after split => ?_) fun name gone => ?_
    · exact alone before serviceType name (after ++ [last]) (by rw [split,List.append_assoc]; rfl)
    · cases last with
      | serviceResolved service => simp [ServiceEvent.withdrawn] at gone
      | serviceRemoved serviceType name' =>
        cases Option.some.inj gone
        exact alone events serviceType name [] rfl
      | other => simp [ServiceEvent.withdrawn] at gone

theorem discoveryLive (events : List ServiceEvent)
    (alone : ∀ before serviceType name after, events = before ++ .serviceRemoved serviceType name::after →
      ∀ a b, Stands before a → Stands before b → a.stableId = b.stableId → a.serviceInstance = name →
        b.serviceInstance = name) :
    ∃ listed, discover (events.map .event ++ [.elapsed]) = .ok listed ∧
      (∀ d, (∃ device ∈ listed, device.stableId = d) ↔ ∃ a, Stands events a ∧ a.stableId = d) ∧
      ∀ device ∈ listed, ∀ route ∈ device.endpoints,
        ∃ a, Stands events a ∧ a.stableId = device.stableId ∧ route ∈ a.endpoints := by
  have tracks : Tracks (events.foldl handle ∅) (standing events) := by
    refine eventsTracked events fun before serviceType name after split a ia b ib => ?_
    exact alone before serviceType name after split a b (standsIff.mp ia) (standsIff.mp ib)
  refine ⟨sorted (events.foldl handle ∅),by rw [discover,loopEvents]; rfl,fun d => ?_,fun device inside => ?_⟩
  · constructor
    · rintro ⟨device,inside,rfl⟩
      obtain ⟨id,found⟩ := memSorted.mp inside
      obtain ⟨a,stands,key,_⟩ := tracks.latest id device found
      exact ⟨a,standsIff.mp stands,key.trans (tracks.keyed id device found).symm⟩
    · rintro ⟨a,stands,rfl⟩
      obtain ⟨device,found⟩ := tracks.listed a (standsIff.mpr stands)
      exact ⟨device,memSorted.mpr ⟨_,found⟩,tracks.keyed _ device found⟩
  · obtain ⟨id,found⟩ := memSorted.mp inside
    intro route there
    obtain ⟨a,stands,key,carried⟩ := tracks.routes id device found route there
    exact ⟨a,standsIff.mp stands,key.trans (tracks.keyed id device found).symm,carried⟩

def speaker (name : String) (address : BitVec 32) : ServiceEvent :=
  .serviceResolved ⟨name,"host",8009,[.v4 address []],fun key => if key = "id" then some "d" else none⟩

def route (address : BitVec 32) : CastEndpoint := ⟨⟨.v4 address,8009,0⟩,none,none⟩

def announcement (name : String) (address : BitVec 32) : CastDevice :=
  ⟨"host","","d",name,[route address],0,none⟩

theorem discoveryReplaced :
    ∃ listed, discover ([speaker "a" 0xC0A80102,.serviceRemoved "" "a",speaker "b" 0xC0A80103].map .event ++
      [.elapsed]) = .ok listed ∧ ∃ device ∈ listed, device.stableId = "d" := by
  have alone : ∀ before serviceType name after,
      [speaker "a" 0xC0A80102,.serviceRemoved "" "a",speaker "b" 0xC0A80103] =
        before ++ .serviceRemoved serviceType name::after →
      ∀ a b, Stands before a → Stands before b → a.stableId = b.stableId → a.serviceInstance = name →
        b.serviceInstance = name := by
    intro before serviceType name after split a b sa sb _ owner
    have live : standing [speaker "a" 0xC0A80102] = [announcement "a" 0xC0A80102] := by decide +kernel
    match before,split with
    | [],split => simp [speaker] at split
    | [first],split =>
      rw [List.singleton_append,List.cons.injEq] at split
      rw [← split.1,← standsIff,live,List.mem_singleton] at sa sb
      rw [sb,← sa,owner]
    | [_,_],split => simp [speaker] at split
    | _::_::_::_,split => simp at split
  have live : standing [speaker "a" 0xC0A80102,.serviceRemoved "" "a",speaker "b" 0xC0A80103] =
      [announcement "b" 0xC0A80103] := by decide +kernel
  obtain ⟨listed,found,ids,_⟩ := discoveryLive _ alone
  refine ⟨listed,found,(ids "d").mpr ⟨announcement "b" 0xC0A80103,standsIff.mp ?_,rfl⟩⟩
  rw [live]
  exact List.mem_singleton_self _

/- Two instances of a device: removing the later one loses the device, removing the earlier one keeps
its route. -/
theorem oneInstanceRemoved :
    (discover ([speaker "a" 0xC0A80102,speaker "b" 0xC0A80103,.serviceRemoved "" "b"].map .event ++
        [.elapsed]) = .ok [] ∧
      Stands [speaker "a" 0xC0A80102,speaker "b" 0xC0A80103,.serviceRemoved "" "b"]
        (announcement "a" 0xC0A80102)) ∧
    ∃ device, discover ([speaker "a" 0xC0A80102,speaker "b" 0xC0A80103,.serviceRemoved "" "a"].map .event ++
        [.elapsed]) = .ok [device] ∧ route 0xC0A80102 ∈ device.endpoints ∧
      ¬ ∃ a, Stands [speaker "a" 0xC0A80102,speaker "b" 0xC0A80103,.serviceRemoved "" "a"] a ∧
        route 0xC0A80102 ∈ a.endpoints := by
  refine ⟨⟨?_,standsIff.mp ?_⟩,{announcement "b" 0xC0A80103 with endpoints := [route 0xC0A80102,route 0xC0A80103]},
    ?_,by simp,?_⟩
  · rfl
  · have live : standing [speaker "a" 0xC0A80102,speaker "b" 0xC0A80103,.serviceRemoved "" "b"] =
        [announcement "a" 0xC0A80102] := by decide +kernel
    rw [live]
    exact List.mem_singleton_self _
  · rfl
  · rintro ⟨a,stands,carried⟩
    have live : standing [speaker "a" 0xC0A80102,speaker "b" 0xC0A80103,.serviceRemoved "" "a"] =
        [announcement "b" 0xC0A80103] := by decide +kernel
    rw [← standsIff,live,List.mem_singleton] at stands
    subst stands
    exact absurd carried (by decide)

end Discovery

end Chromiacast
