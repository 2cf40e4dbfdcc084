import Chromiacast.Basis.Ordered
import Chromiacast.Discovery

/-! The routes of a discovered device. However often it is resolved again, every route
it was announced with is listed, in the order of preference. The order ignores port and
interface name, and repetitions go only where they are adjacent. -/
namespace Chromiacast.Discovery
open Basis

structure Ordered (endpoints : List CastEndpoint) : Prop where
  nonempty : endpoints ≠ []
  sorted : endpoints.Pairwise fun left right => endpointKey left ≤ endpointKey right

theorem deduplicatedOrdered {endpoints : List CastEndpoint} (nonempty : endpoints ≠ []) :
    Ordered (sortAndDeduplicateEndpoints endpoints) := ⟨sortDedupNonempty nonempty,sortDedupSorted⟩

theorem serviceRoutes {service : ResolvedService} {device : CastDevice}
    (read : deviceFromService service = some device) :
    ∃ endpoints, endpoints ≠ [] ∧ device.endpoints = sortAndDeduplicateEndpoints endpoints := by
  simp only [deviceFromService,Option.bind_eq_bind,Option.bind_eq_some_iff] at read
  obtain ⟨id,_,read⟩ := read
  split at read
  · simp at read
  · split at read
    · simp at read
    · rename_i some
      cases Option.some.inj read
      refine ⟨_,fun empty => some ?_,rfl⟩
      rw [empty]
      rfl

theorem serviceOrdered {service : ResolvedService} {device : CastDevice}
    (read : deviceFromService service = some device) : Ordered device.endpoints := by
  obtain ⟨endpoints,nonempty,routes⟩ := serviceRoutes read
  rw [routes]
  exact deduplicatedOrdered nonempty

theorem mergeOrdered {current : CastDevice} (ordered : Ordered current.endpoints) (update : CastDevice) :
    Ordered (mergeDevice current update).endpoints :=
  deduplicatedOrdered fun empty => ordered.nonempty (List.append_eq_nil_iff.mp empty).1

theorem mergedOrdered {service : ResolvedService} {first : CastDevice} (read : deviceFromService service = some first)
    (updates : List CastDevice) : Ordered (updates.foldl mergeDevice first).endpoints := by
  induction updates using List.reverseRecOn with
  | nil => exact serviceOrdered read
  | append_singleton earlier last ih =>
    rw [List.foldl_append]
    exact mergeOrdered ih last

def AllOrdered (devices : Devices) : Prop := ∀ id device, devices.lookup id = some device → Ordered device.endpoints

theorem insertOrdered {devices : Devices} (ordered : AllOrdered devices) {key : String} {new : CastDevice}
    (fresh : Ordered new.endpoints) : AllOrdered (devices.insert key new) := by
  intro id device found
  by_cases same : id = key
  · rw [same,AList.lookup_insert] at found
    cases Option.some.inj found
    exact fresh
  · rw [AList.lookup_insert_ne same] at found
    exact ordered id device found

theorem handleOrdered {devices : Devices} (e : ServiceEvent) (ordered : AllOrdered devices) :
    AllOrdered (handle devices e) := by
  cases e with
  | serviceResolved service =>
    cases read : deviceFromService service with
    | none => simpa only [handle,read] using ordered
    | some update =>
      cases found : devices.lookup update.stableId with
      | none =>
        simp only [handle,read,found]
        exact insertOrdered ordered (serviceOrdered read)
      | some current =>
        simp only [handle,read,found]
        exact insertOrdered ordered (mergeOrdered (ordered _ _ found) update)
  | serviceRemoved serviceType name => exact fun id device found => ordered id device (retainLookup.mp found).1
  | other => exact ordered

theorem devicesOrdered {devices final : Devices} (received : List Received) (ordered : AllOrdered devices)
    (ended : discoverLoop devices received = .ok final) : AllOrdered final := by
  induction received generalizing devices with
  | nil => exact Except.ok.inj ended ▸ ordered
  | cons next rest ih =>
    cases next with
    | event e => exact ih (handleOrdered e ordered) ended
    | error message => contradiction
    | elapsed => exact Except.ok.inj ended ▸ ordered

theorem preferredFirst {device : CastDevice} (ordered : Ordered device.endpoints) :
    ∃ e, device.preferredEndpoint = some e ∧ ∀ other ∈ device.endpoints, endpointKey e ≤ endpointKey other := by
  obtain ⟨nonempty,sorted⟩ := ordered
  unfold CastDevice.preferredEndpoint
  cases routes : device.endpoints with
  | nil => exact absurd routes nonempty
  | cons first rest =>
    rw [routes,List.pairwise_cons] at sorted
    refine ⟨first,rfl,fun other there => ?_⟩
    rcases List.mem_cons.mp there with rfl | there
    · exact le_rfl
    · exact sorted.1 other there

theorem discoverOrdered {received : List Received} {listed : List CastDevice} (found : discover received = .ok listed)
    {device : CastDevice} (inside : device ∈ listed) : Ordered device.endpoints := by
  unfold discover at found
  cases ended : discoverLoop ∅ received with
  | error message =>
    rw [ended] at found
    contradiction
  | ok devices =>
    rw [ended] at found
    cases Except.ok.inj found
    obtain ⟨id,stored⟩ := memSorted.mp inside
    exact devicesOrdered received (by simp [AllOrdered]) ended id device stored

def place (e : CastEndpoint) : IpAddr × Option UInt32 := (e.address.ip,e.interfaceIndex)

theorem keyFaithful {left right : CastEndpoint} (same : endpointKey left = endpointKey right) :
    left.address.ip = right.address.ip ∧ left.interfaceIndex = right.interfaceIndex := by
  simp only [endpointKey,EmbeddingLike.apply_eq_iff_eq,Prod.mk.injEq] at same
  obtain ⟨_,family,bits,interface⟩ := same
  constructor
  · revert family bits
    cases left.address.ip with
    | v4 x =>
      cases right.address.ip with
      | v4 y => exact fun _ bits => congrArg IpAddr.v4 (BitVec.eq_of_toNat_eq bits)
      | v6 y => simp
    | v6 x =>
      cases right.address.ip with
      | v4 y => simp
      | v6 y => exact fun _ bits => congrArg IpAddr.v6 (BitVec.eq_of_toNat_eq bits)
  · revert interface
    cases left.interfaceIndex with
    | none => cases right.interfaceIndex <;> simp
    | some i =>
      cases right.interfaceIndex with
      | none => simp
      | some j => exact fun same => congrArg some (UInt32.toNat_inj.mp (Nat.succ.inj same))

theorem samePlace {left right : CastEndpoint} : endpointKey left = endpointKey right ↔ place left = place right := by
  constructor
  · intro same
    obtain ⟨address,interface⟩ := keyFaithful same
    rw [place,place,address,interface]
  · intro same
    obtain ⟨address,interface⟩ := Prod.ext_iff.mp same
    simp only [place] at address interface
    simp only [endpointKey,endpointPriority,address,interface]

theorem deduplicatedAt (endpoints : List CastEndpoint) (there : IpAddr × Option UInt32) :
    ((sortAndDeduplicateEndpoints endpoints).filter fun e => place e = there) =
      (endpoints.filter fun e => place e = there).destutter (· ≠ ·) := by
  have keyed (l : List CastEndpoint) : (l.filter fun e => place e = there) =
      l.filter fun e => endpointKey e = endpointKey ⟨⟨there.1,0,0⟩,there.2,none⟩ := by
    simp only [samePlace]
    rfl
  rw [keyed,keyed]
  exact sortDedupClass _

def announcedAt (there : IpAddr × Option UInt32) (devices : List CastDevice) : List CastEndpoint :=
  (devices.flatMap CastDevice.endpoints).filter fun e => place e = there

theorem mergedAt {service : ResolvedService} {first : CastDevice} (read : deviceFromService service = some first)
    (updates : List CastDevice) (there : IpAddr × Option UInt32) :
    ((updates.foldl mergeDevice first).endpoints.filter fun e => place e = there) =
      (announcedAt there (first::updates)).destutter (· ≠ ·) := by
  induction updates using List.reverseRecOn with
  | nil =>
    obtain ⟨endpoints,_,routes⟩ := serviceRoutes read
    have once : announcedAt there [first] = (endpoints.filter fun e => place e = there).destutter (· ≠ ·) := by
      rw [announcedAt,List.flatMap_singleton,routes,deduplicatedAt]
    rw [once,List.destutter_idem,List.foldl_nil,routes,deduplicatedAt]
  | append_singleton earlier last ih =>
    have split : announcedAt there (first::(earlier ++ [last])) =
        announcedAt there (first::earlier) ++ last.endpoints.filter fun e => place e = there := by
      simp [announcedAt]
    rw [List.foldl_append,split,← destutterAppend,← ih,← List.filter_append]
    exact deduplicatedAt _ there

/- A device lists every route it was announced with, in the order of preference. It lists none twice
exactly if none came back to a place after another had been announced there. -/
theorem routesOrdered {service : ResolvedService} {first : CastDevice} (read : deviceFromService service = some first)
    (updates : List CastDevice) :
    let routes := (updates.foldl mergeDevice first).endpoints
    Ordered routes ∧ (∀ route, route ∈ routes ↔ ∃ update ∈ first::updates, route ∈ update.endpoints) ∧
      (routes.Nodup ↔ ∀ there, ((announcedAt there (first::updates)).destutter (· ≠ ·)).Nodup) ∧
      ∀ received listed, discover received = .ok listed → ∀ device ∈ listed, Ordered device.endpoints ∧
        ∃ e, device.preferredEndpoint = some e ∧ ∀ other ∈ device.endpoints, endpointKey e ≤ endpointKey other := by
  intro routes
  refine ⟨mergedOrdered read updates,fun route => ?_,?_,fun received listed found device inside => ?_⟩
  · have here := mergedAt read updates (place route)
    have member (l : List CastEndpoint) : route ∈ l ↔ route ∈ l.filter fun e => place e = place route := by simp
    rw [member,here,memDestutter,announcedAt,← member,List.mem_flatMap]
  · rw [nodupClasses place]
    simp only [routes,mergedAt read]
  · have ordered := discoverOrdered found inside
    exact ⟨ordered,preferredFirst ordered⟩

def ported (port : UInt16) : ResolvedService :=
  ⟨"a","host",port,[.v4 0xC0A80102 []],fun key => if key = "id" then some "d" else none⟩

def portedRoute (port : UInt16) : CastEndpoint := ⟨⟨.v4 0xC0A80102,port,0⟩,none,none⟩

def portedDevice (port : UInt16) : CastDevice := ⟨"host","","d","a",[portedRoute port],0,none⟩

theorem routesOrderedAgain :
    ([portedDevice 8009].foldl mergeDevice (portedDevice 8009)).endpoints.Nodup ∧
      ∃ e, (portedDevice 8009).preferredEndpoint = some e := by
  have read : deviceFromService (ported 8009) = some (portedDevice 8009) := by rfl
  have listed : discover [.event (.serviceResolved (ported 8009)),.elapsed] = .ok [portedDevice 8009] := by rfl
  obtain ⟨_,_,once,runs⟩ := routesOrdered read [portedDevice 8009]
  obtain ⟨_,e,preferred,_⟩ := runs _ _ listed _ List.mem_cons_self
  refine ⟨once.mpr fun there => ?_,e,preferred⟩
  by_cases here : place (portedRoute 8009) = there <;> simp [announcedAt,portedDevice,here]

/- Back on its first port, the receiver's route there is listed twice: the one in between has the
same place in the order. -/
theorem portReturnsTwice : deviceFromService (ported 8009) = some (portedDevice 8009) ∧
    deviceFromService (ported 8010) = some (portedDevice 8010) ∧
    ([portedDevice 8010,portedDevice 8009].foldl mergeDevice (portedDevice 8009)).endpoints =
      [portedRoute 8009,portedRoute 8010,portedRoute 8009] := ⟨by rfl,by rfl,by rfl⟩

end Chromiacast.Discovery
