import SerialLink.Wifi.Messages

/-!
# Forwarding of Wi-Fi events

The device turns events of its Wi-Fi layer into notifications, and the host
turns these into events of its own.  Scan results are collected on the device
and travel with the end of their scan.  `expectedEvents` says what a host
should see of the device's events; it is not translated from the source.

The device subscribes to neither the result of a connection nor that of a
disconnection, although the host forwards both.
-/

namespace SerialLink

namespace Wifi

section Device

/-- The events of the Wi-Fi layer, with what `cb->info` points to. -/
inductive NetEvent where
  | scanResult (entry : ScanEntry)
  | scanDone (status : Option Int)
  | connectResult (status : Int)
  | disconnectResult (status : Int)
  | apEnableResult (status : ApStatus)
  | apDisableResult (status : ApStatus)
  | apStaConnected (staInfo : Option Mac)
  | apStaDisconnected (staInfo : Option Mac)
  deriving DecidableEq, Repr

/-- An event and the index of its interface. -/
structure Raised where
  iface : Option Nat
  event : NetEvent
  deriving DecidableEq, Repr

/-- The part of `scan_results` in use; its size `capacity` is
`CONFIG_WIFI_MGMT_PROXY_MAX_SCAN_RESULTS`. -/
structure ScanResults (capacity : Nat) where
  results : List ScanResult
  bounded : results.length ≤ capacity

variable {capacity : Nat}

def ScanResults.empty (capacity : Nat) : ScanResults capacity :=
  ⟨[], Nat.zero_le _⟩

/-- The translation of an entry. -/
def ScanEntry.toResult (entry : ScanEntry) : ScanResult where
  ssid := entry.ssid.take ssidMaxLen
  bssid := entry.mac
  channel := entry.channel.toNat
  rssi := entry.rssi.toInt
  security := zephyrToProtoSecurity entry.security
  wpa3EnterpriseType := entry.wpa3EntType
  mfp := zephyrToProtoMfp entry.mfp
  band := zephyrToProtoBand entry.band

/-- `handle_wifi_scan_result` -/
def handleWifiScanResult (scanResults : ScanResults capacity)
    (entry : ScanEntry) : ScanResults capacity :=
  if full : scanResults.results.length ≥ capacity then scanResults
  else
    { results := scanResults.results ++ [entry.toResult]
      bounded := by
        rw [List.length_append]
        exact Nat.lt_of_not_le full }

/-- `iface_index`, which is 0 without an interface. -/
def ifaceIndex (iface : Option Nat) : Nat :=
  iface.getD 0

/-- `send_scan_done_notification` -/
def sendScanDoneNotification (scanResults : ScanResults capacity)
    (iface : Option Nat) (status : Int) :
    ScanResults capacity × List Notification :=
  (.empty capacity,
    [{ ifaceIndex := ifaceIndex iface
       event := .scanDone status scanResults.results }])

/-- `ap_status_to_proto` -/
def apStatusToProto (status : ApStatus) : Int :=
  if status = .success then 0 else -status.toInt

/-- `send_ap_result_notification`, for the given tag. -/
def sendApResultNotification (iface : Option Nat) (tag : Int → EventData)
    (status : Int) : List Notification :=
  [{ ifaceIndex := ifaceIndex iface, event := tag status }]

/-- `send_ap_sta_notification` -/
def sendApStaNotification (iface : Option Nat) (connected : Bool)
    (staInfo : Option Mac) : List Notification :=
  match staInfo with
  | none => []
  | some mac =>
      [{ ifaceIndex := ifaceIndex iface
         event := if connected then .apStaConnected mac
           else .apStaDisconnected mac }]

/-- `wifi_mgmt_net_event_handler` -/
def wifiMgmtNetEventHandler (scanResults : ScanResults capacity)
    (raised : Raised) : ScanResults capacity × List Notification :=
  match raised.event with
  | .scanResult entry => (handleWifiScanResult scanResults entry, [])
  | .scanDone status =>
      sendScanDoneNotification scanResults raised.iface (status.getD 0)
  | .apEnableResult status =>
      (scanResults, sendApResultNotification raised.iface .apEnableResult
        (apStatusToProto status))
  | .apDisableResult status =>
      (scanResults, sendApResultNotification raised.iface .apDisableResult
        (apStatusToProto status))
  | .apStaConnected staInfo =>
      (scanResults, sendApStaNotification raised.iface true staInfo)
  | .apStaDisconnected staInfo =>
      (scanResults, sendApStaNotification raised.iface false staInfo)
  | .connectResult _ => (scanResults, [])
  | .disconnectResult _ => (scanResults, [])

/-- The mask of `wifi_mgmt_events_init`. -/
def subscribed : NetEvent → Bool
  | .scanResult _ => true
  | .scanDone _ => true
  | .apEnableResult _ => true
  | .apDisableResult _ => true
  | .apStaConnected _ => true
  | .apStaDisconnected _ => true
  | .connectResult _ => false
  | .disconnectResult _ => false

/-- The handler is called for the events of the mask. -/
def notifyEvent (scanResults : ScanResults capacity) (raised : Raised) :
    ScanResults capacity × List Notification :=
  if subscribed raised.event then wifiMgmtNetEventHandler scanResults raised
  else (scanResults, [])

/-- The notifications for a sequence of events. -/
def notifications : ScanResults capacity → List Raised → List Notification
  | _, [] => []
  | scanResults, raised :: rest =>
      (notifyEvent scanResults raised).2 ++
        notifications (notifyEvent scanResults raised).1 rest

end Device

section Host

/-- `struct wifi_iface_status`, as far as the host fills it in. -/
structure IfaceStatus where
  state : IfaceState
  ifaceMode : IfaceMode
  security : SecurityType
  mfp : MfpOptions
  channel : Nat
  rssi : Int
  ssid : List UInt8
  bssid : Mac
  deriving DecidableEq, Repr

/-- What the host raises: calls of `scan_cb`, with and without an entry, and
events. -/
inductive HostEvent where
  | scanResult (status : Int) (entry : ScanEntry)
  | scanDone (status : Int)
  | connectResult (status : Int)
  | disconnectResult (status : Int)
  | ifaceStatus (status : IfaceStatus)
  | apEnableResult (status : ApStatus)
  | apDisableResult (status : ApStatus)
  | apStaConnected (mac : Mac)
  | apStaDisconnected (mac : Mac)
  deriving DecidableEq, Repr

/-- An SSID is copied if it fits. -/
def copySsid (ssid : List UInt8) : List UInt8 :=
  if ssid.length ≤ ssidMaxLen then ssid else []

/-- The entry `handle_scan_done` makes of a result; it leaves the other fields
0. -/
def ScanResult.toEntry (result : ScanResult) : ScanEntry where
  ssid := copySsid result.ssid
  mac := result.bssid
  channel := UInt8.ofNat result.channel
  rssi := Int8.ofInt result.rssi
  security := protoToZephyrSecurity result.security
  wpa3EntType := 0
  mfp := protoToZephyrMfp result.mfp
  band := .band2Point4GHz

/-- `handle_scan_done`; `scanCb` tells whether `scan_cb` is set. -/
def handleScanDone (scanCb : Bool) (status : Int)
    (allResults : List ScanResult) : List HostEvent :=
  if scanCb then
    allResults.map (fun result => .scanResult status result.toEntry) ++
      [.scanDone status]
  else []

/-- The status of the access point the host reports. -/
def apStatusOfProto (status : Int) : ApStatus :=
  if status = 0 then .success else .fail

def InterfaceStatus.toStatus (status : InterfaceStatus) : IfaceStatus where
  state := protoToZephyrState status.state
  ifaceMode := protoToZephyrMode status.mode
  security := protoToZephyrSecurity status.security
  mfp := protoToZephyrMfp status.mfp
  channel := status.channel
  rssi := status.rssi
  ssid := copySsid status.ssid
  bssid := status.bssid

/-- The switch of `wifi_mgmt_notify`. -/
def raiseEvent (scanCb : Bool) : EventData → List HostEvent
  | .scanDone status allResults => handleScanDone scanCb status allResults
  | .connectResult status => [.connectResult status]
  | .disconnectResult _ _ => [.disconnectResult 0]
  | .interfaceStatus status => [.ifaceStatus status.toStatus]
  | .apEnableResult status => [.apEnableResult (apStatusOfProto status)]
  | .apDisableResult status => [.apDisableResult (apStatusOfProto status)]
  | .apStaConnected mac => [.apStaConnected mac]
  | .apStaDisconnected mac => [.apStaDisconnected mac]
  | .rawFrameRx _ => []

/-- `wifi_mgmt_notify` -/
def wifiMgmtNotify (codec : Codec) (scanCb : Bool) (payload : List UInt8) :
    List HostEvent :=
  match codec.decode payload with
  | none => []
  | some notification => raiseEvent scanCb notification.event

/-- Every notification that can be encoded is delivered, while `scan_cb` is
set or not. -/
def hostEvents (codec : Codec) (scanCb : Bool)
    (notifications : List Notification) : List HostEvent :=
  notifications.flatMap fun notification =>
    match codec.encode notification with
    | none => []
    | some bytes => wifiMgmtNotify codec scanCb bytes

theorem hostEvents_of_faithful {codec : Codec}
    {notifications : List Notification}
    (faithful : codec.Faithful notifications) (scanCb : Bool) :
    hostEvents codec scanCb notifications =
      notifications.flatMap fun notification =>
        raiseEvent scanCb notification.event := by
  induction notifications with
  | nil => rfl
  | cons notification rest induction =>
      obtain ⟨bytes, encoded, decoded⟩ := faithful notification
        List.mem_cons_self
      have others := induction fun other member =>
        faithful other (List.mem_cons_of_mem _ member)
      rw [hostEvents] at others ⊢
      rw [List.flatMap_cons, List.flatMap_cons, others]
      simp only [encoded, wifiMgmtNotify, decoded]

/-- An event of the device, and whether `scan_cb` is set when the notification
for it reaches the host: `virt_wifi_scan` sets it, and clears it again if its
request fails. -/
structure Occurrence where
  raised : Raised
  scanCb : Bool
  deriving DecidableEq, Repr

/-- What the host raises for a sequence of events of the device. -/
def forwardAll {capacity : Nat} (codec : Codec) :
    ScanResults capacity → List Occurrence → List HostEvent
  | _, [] => []
  | scanResults, occurrence :: rest =>
      hostEvents codec occurrence.scanCb
          (notifyEvent scanResults occurrence.raised).2 ++
        forwardAll codec (notifyEvent scanResults occurrence.raised).1 rest

end Host

section Specification

/-- An event as an observer of either side sees it: a status is a success or
a failure. -/
inductive Observed where
  | scanResult (ssid : List UInt8) (bssid : Mac) (channel : UInt8)
      (rssi : Int8)
  | scanDone (success : Bool)
  | connectResult (success : Bool)
  | disconnectResult (success : Bool)
  | ifaceStatus (status : IfaceStatus)
  | apEnableResult (success : Bool)
  | apDisableResult (success : Bool)
  | apStaConnected (mac : Option Mac)
  | apStaDisconnected (mac : Option Mac)
  deriving DecidableEq, Repr

def ScanEntry.observe (entry : ScanEntry) : Observed :=
  .scanResult (entry.ssid.take ssidMaxLen) entry.mac entry.channel entry.rssi

def HostEvent.observe : HostEvent → Observed
  | .scanResult _ entry => entry.observe
  | .scanDone status => .scanDone (status == 0)
  | .connectResult status => .connectResult (status == 0)
  | .disconnectResult status => .disconnectResult (status == 0)
  | .ifaceStatus status => .ifaceStatus status
  | .apEnableResult status => .apEnableResult (status == .success)
  | .apDisableResult status => .apDisableResult (status == .success)
  | .apStaConnected mac => .apStaConnected (some mac)
  | .apStaDisconnected mac => .apStaDisconnected (some mac)

/-- What a host should see of an event, the entries of the current scan being
`pending`: the results of a scan with its end, up to `capacity` of them. -/
def expectedOf (capacity : Nat) (pending : List ScanEntry) :
    NetEvent → List Observed
  | .scanResult _ => []
  | .scanDone status =>
      (pending.take capacity).map ScanEntry.observe ++
        [.scanDone (status.getD 0 == 0)]
  | .connectResult status => [.connectResult (status == 0)]
  | .disconnectResult status => [.disconnectResult (status == 0)]
  | .apEnableResult status => [.apEnableResult (status == .success)]
  | .apDisableResult status => [.apDisableResult (status == .success)]
  | .apStaConnected staInfo => [.apStaConnected staInfo]
  | .apStaDisconnected staInfo => [.apStaDisconnected staInfo]

/-- The entries of the current scan behind an event. -/
def pendingAfter (pending : List ScanEntry) : NetEvent → List ScanEntry
  | .scanResult entry => pending ++ [entry]
  | .scanDone _ => []
  | _ => pending

/-- What a host should see of a sequence of events. -/
def expectedEvents (capacity : Nat) : List ScanEntry → List Raised →
    List Observed
  | _, [] => []
  | pending, raised :: rest =>
      expectedOf capacity pending raised.event ++
        expectedEvents capacity (pendingAfter pending raised.event) rest

/-- The events that reach an observer of the host. -/
def Forwarded (scanCb : Bool) : NetEvent → Prop
  | .scanDone _ => scanCb = true
  | .connectResult _ => False
  | .disconnectResult _ => False
  | .apStaConnected staInfo => staInfo ≠ none
  | .apStaDisconnected staInfo => staInfo ≠ none
  | _ => True

end Specification

section Forwarding

variable {capacity : Nat} {scanResults : ScanResults capacity}
  {pending : List ScanEntry} {scanCb : Bool}

/-- What is observed of the notifications. -/
def observed (scanCb : Bool) (notifications : List Notification) :
    List Observed :=
  notifications.flatMap fun notification =>
    (raiseEvent scanCb notification.event).map HostEvent.observe

theorem observed_of_faithful {codec : Codec}
    {notifications : List Notification}
    (faithful : codec.Faithful notifications) (scanCb : Bool) :
    (hostEvents codec scanCb notifications).map HostEvent.observe =
      observed scanCb notifications := by
  rw [hostEvents_of_faithful faithful, List.map_flatMap]
  rfl

/-- An entry that has been to the wire and back. -/
theorem observe_toResult_toEntry (entry : ScanEntry) :
    entry.toResult.toEntry.observe = entry.observe := by
  have copied : copySsid (entry.ssid.take ssidMaxLen) =
      entry.ssid.take ssidMaxLen := if_pos (List.length_take_le _ _)
  simp only [ScanEntry.observe, ScanResult.toEntry, ScanEntry.toResult,
    copied, List.take_take, Nat.min_self, UInt8.ofNat_toNat, Int8.ofInt_toInt]

/-- Success and failure of an access point. -/
theorem apStatus_preserved (status : ApStatus) :
    (apStatusOfProto (apStatusToProto status) == .success) =
      (status == .success) := by
  cases status with
  | success => rfl
  | fail => rfl
  | channelNotSupported => rfl
  | other code =>
      have failed : ¬apStatusToProto (.other code) = 0 := by
        rw [apStatusToProto, if_neg nofun, ApStatus.toInt]
        omega
      rw [apStatusOfProto, if_neg failed]
      rfl

/-- The buffer holds the first entries of the current scan. -/
def Collected (scanResults : ScanResults capacity)
    (pending : List ScanEntry) : Prop :=
  scanResults.results = (pending.take capacity).map ScanEntry.toResult

theorem Collected.handle (collected : Collected scanResults pending)
    (entry : ScanEntry) :
    Collected (handleWifiScanResult scanResults entry)
      (pending ++ [entry]) := by
  have count := congrArg List.length collected
  rw [List.length_map, List.length_take] at count
  unfold handleWifiScanResult
  split
  · next full =>
      have enough : capacity ≤ pending.length := by omega
      rw [Collected, List.take_append_of_le_length enough]
      exact collected
  · next room =>
      have few : pending.length < capacity := by omega
      have all : (pending ++ [entry]).take capacity = pending ++ [entry] := by
        apply List.take_of_length_le
        rw [List.length_append]
        exact few
      rw [Collected, List.take_of_length_le (Nat.le_of_lt few)] at collected
      rw [Collected, all, List.map_append]
      exact congrArg (· ++ [entry.toResult]) collected

theorem Collected.next (collected : Collected scanResults pending)
    (raised : Raised) :
    Collected (notifyEvent scanResults raised).1
      (pendingAfter pending raised.event) := by
  obtain ⟨iface, event⟩ := raised
  cases event with
  | scanResult entry => exact collected.handle entry
  | scanDone status =>
      rw [Collected, pendingAfter, List.take_nil]
      rfl
  | _ => exact collected

/-- An event that is forwarded is observed as it should be. -/
theorem Collected.observed_eq (collected : Collected scanResults pending)
    {raised : Raised} (forwarded : Forwarded scanCb raised.event) :
    observed scanCb (notifyEvent scanResults raised).2 =
      expectedOf capacity pending raised.event := by
  obtain ⟨iface, event⟩ := raised
  cases event with
  | scanResult entry => rfl
  | scanDone status =>
      cases forwarded
      have batch : observed true
          (notifyEvent scanResults ⟨iface, .scanDone status⟩).2 =
          scanResults.results.map (fun result => result.toEntry.observe) ++
            [.scanDone (status.getD 0 == 0)] := by
        simp [observed, notifyEvent, subscribed, wifiMgmtNetEventHandler,
          sendScanDoneNotification, raiseEvent, handleScanDone,
          HostEvent.observe]
      rw [batch, collected, List.map_map, expectedOf]
      congr 1
      apply List.map_congr_left
      intro entry _
      exact observe_toResult_toEntry entry
  | connectResult status => exact forwarded.elim
  | disconnectResult status => exact forwarded.elim
  | apEnableResult status =>
      exact congrArg (fun success => [Observed.apEnableResult success])
        (apStatus_preserved status)
  | apDisableResult status =>
      exact congrArg (fun success => [Observed.apDisableResult success])
        (apStatus_preserved status)
  | apStaConnected staInfo =>
      cases staInfo with
      | none => exact absurd rfl forwarded
      | some mac => rfl
  | apStaDisconnected staInfo =>
      cases staInfo with
      | none => exact absurd rfl forwarded
      | some mac => rfl

/-- An event that is not forwarded is not observed. -/
theorem observed_of_not_forwarded {raised : Raised}
    (missing : ¬Forwarded scanCb raised.event) :
    observed scanCb (notifyEvent scanResults raised).2 = [] ∧
      0 < (expectedOf capacity pending raised.event).length := by
  obtain ⟨iface, event⟩ := raised
  cases event with
  | scanResult entry => exact absurd trivial missing
  | scanDone status =>
      have unset : scanCb = false := Bool.eq_false_iff.mpr missing
      subst unset
      refine ⟨rfl, ?_⟩
      rw [expectedOf, List.length_append]
      exact Nat.succ_pos _
  | connectResult status => exact ⟨rfl, Nat.zero_lt_one⟩
  | disconnectResult status => exact ⟨rfl, Nat.zero_lt_one⟩
  | apEnableResult status => exact absurd trivial missing
  | apDisableResult status => exact absurd trivial missing
  | apStaConnected staInfo =>
      cases staInfo with
      | none => exact ⟨rfl, Nat.zero_lt_one⟩
      | some mac => exact absurd nofun missing
  | apStaDisconnected staInfo =>
      cases staInfo with
      | none => exact ⟨rfl, Nat.zero_lt_one⟩
      | some mac => exact absurd nofun missing

/-- What the host raises is complete if and only if every event is forwarded,
and never too much. -/
theorem forwardAll_eq_expected_iff {codec : Codec}
    (collected : Collected scanResults pending)
    (occurrences : List Occurrence)
    (faithful : codec.Faithful
      (notifications scanResults (occurrences.map Occurrence.raised))) :
    (forwardAll codec scanResults occurrences).length ≤
        (expectedEvents capacity pending
          (occurrences.map Occurrence.raised)).length ∧
      ((forwardAll codec scanResults occurrences).map HostEvent.observe =
          expectedEvents capacity pending
            (occurrences.map Occurrence.raised) ↔
        ∀ occurrence ∈ occurrences,
          Forwarded occurrence.scanCb occurrence.raised.event) := by
  induction occurrences generalizing scanResults pending with
  | nil =>
      refine ⟨Nat.le_refl _, fun _ occurrence member => ?_, fun _ => rfl⟩
      exact absurd member List.not_mem_nil
  | cons occurrence rest induction =>
      obtain ⟨faithfulNow, faithfulLater⟩ := List.forall_mem_append.mp faithful
      obtain ⟨fewer, complete⟩ :=
        induction (collected.next occurrence.raised) faithfulLater
      have now := observed_of_faithful faithfulNow occurrence.scanCb
      rw [forwardAll, List.map_append, now, List.map_cons, expectedEvents,
        List.forall_mem_cons, List.length_append, List.length_append,
        ← List.length_map HostEvent.observe, now]
      by_cases forwarded :
          Forwarded occurrence.scanCb occurrence.raised.event
      · rw [collected.observed_eq forwarded, List.append_cancel_left_eq,
          complete]
        exact ⟨Nat.add_le_add_left fewer _,
          fun all => ⟨forwarded, all⟩, fun both => both.2⟩
      · obtain ⟨none, some⟩ :=
          @observed_of_not_forwarded capacity scanResults pending _ _ forwarded
        rw [none, List.nil_append, List.length_nil]
        refine ⟨by omega, ?_, fun both => absurd both.1 forwarded⟩
        intro equal
        have lengths := congrArg List.length equal
        rw [List.length_append, List.length_map] at lengths
        omega

/-- With every notification encoded, delivered and decoded faithfully, the
host raises what it should if and only if every event is of a kind that is
forwarded: none is the result of a connection or a disconnection, `scan_cb` is
set when the end of a scan arrives, and an event about a station comes with
its address. -/
theorem forwarding_complete_iff {codec : Codec} (capacity : Nat)
    (occurrences : List Occurrence)
    (faithful : codec.Faithful (notifications (.empty capacity)
      (occurrences.map Occurrence.raised))) :
    (forwardAll codec (.empty capacity) occurrences).map HostEvent.observe =
        expectedEvents capacity [] (occurrences.map Occurrence.raised) ↔
      ∀ occurrence ∈ occurrences,
        Forwarded occurrence.scanCb occurrence.raised.event := by
  have collected : Collected (.empty capacity) [] := by
    rw [Collected, List.take_nil]
    rfl
  exact (forwardAll_eq_expected_iff collected occurrences faithful).2

end Forwarding

section Trace

def stationMac : Mac := #v[2, 0, 0, 0, 0, 1]

/-- An access point that cannot be started, and a station. -/
def apEvents : List Occurrence :=
  [⟨⟨some 1, .apEnableResult .fail⟩, false⟩,
    ⟨⟨some 1, .apStaConnected (some stationMac)⟩, true⟩]

/-- The two notifications and their encodings. -/
def apCodec : Codec where
  encode notification :=
    if notification = ⟨1, .apEnableResult (-1)⟩ then
      some [0x0A, 0x0F, 0x08, 0x01, 0x32, 0x0B, 0x08, 0xFF, 0xFF, 0xFF, 0xFF,
        0xFF, 0xFF, 0xFF, 0xFF, 0xFF, 0x01]
    else if notification = ⟨1, .apStaConnected #v[2, 0, 0, 0, 0, 1]⟩ then
      some [0x0A, 0x0C, 0x08, 0x01, 0x42, 0x08, 0x0A, 0x06, 2, 0, 0, 0, 0, 1]
    else none
  decode bytes :=
    if bytes = [0x0A, 0x0F, 0x08, 0x01, 0x32, 0x0B, 0x08, 0xFF, 0xFF, 0xFF,
        0xFF, 0xFF, 0xFF, 0xFF, 0xFF, 0xFF, 0x01] then
      some ⟨1, .apEnableResult (-1)⟩
    else if bytes = [0x0A, 0x0C, 0x08, 0x01, 0x42, 0x08, 0x0A, 0x06, 2, 0, 0,
        0, 0, 1] then
      some ⟨1, .apStaConnected #v[2, 0, 0, 0, 0, 1]⟩
    else none

theorem apCodec_faithful :
    apCodec.Faithful
      (notifications (.empty 32) (apEvents.map Occurrence.raised)) := by
  have sent :
      notifications (.empty 32) (apEvents.map Occurrence.raised) =
        [⟨1, .apEnableResult (-1)⟩,
          ⟨1, .apStaConnected #v[2, 0, 0, 0, 0, 1]⟩] := by
    decide
  rw [sent]
  intro notification member
  simp only [List.mem_cons, List.not_mem_nil, or_false] at member
  rcases member with rfl | rfl
  · exact ⟨_, rfl, rfl⟩
  · exact ⟨_, rfl, rfl⟩

theorem apEvents_forwarded :
    (forwardAll apCodec (.empty 32) apEvents).map HostEvent.observe =
      [.apEnableResult false,
        .apStaConnected (some #v[2, 0, 0, 0, 0, 1])] := by
  apply (forwarding_complete_iff 32 apEvents apCodec_faithful).mpr
  intro occurrence member
  simp only [apEvents, List.mem_cons, List.not_mem_nil, or_false] at member
  rcases member with rfl | rfl
  · trivial
  · exact nofun

/-- The result of a connection does not reach the host. -/
theorem connectResult_not_forwarded :
    apCodec.Faithful
        (notifications (.empty 32) [⟨some 1, .connectResult 0⟩]) ∧
      (forwardAll apCodec (.empty 32)
          [⟨⟨some 1, .connectResult 0⟩, true⟩]).map HostEvent.observe ≠
        expectedEvents 32 [] [⟨some 1, .connectResult 0⟩] := by
  refine ⟨?_, by decide⟩
  intro notification member
  exact absurd member List.not_mem_nil

end Trace

end Wifi

end SerialLink
