import SerialLink.Library.Region
import SerialLink.Wifi.Events

/-!
# The slots of the scan results

`scan_results` is never cleared: a scan writes over the slots of earlier ones,
field by field, and of an SSID only as many bytes as it has.  What a
notification reads of the slots in use is what `ScanResults` keeps as a list,
so the batches of a run can be told from its events alone.
-/

namespace SerialLink

namespace Wifi

/-- An element of `scan_results`. -/
structure ScanSlot where
  /-- `ssid.size` -/
  ssidSize : Nat
  /-- `ssid.bytes` -/
  ssidBytes : Nat → UInt8
  bssid : Mac
  channel : Nat
  rssi : Int
  security : ProtoSecurityType
  wpa3EnterpriseType : Nat
  mfp : ProtoMfpOptions
  band : ProtoBand

namespace ScanSlot

/-- The message in a slot. -/
def toResult (slot : ScanSlot) : ScanResult where
  ssid := Region.slice slot.ssidBytes 0 slot.ssidSize
  bssid := slot.bssid
  channel := slot.channel
  rssi := slot.rssi
  security := slot.security
  wpa3EnterpriseType := slot.wpa3EnterpriseType
  mfp := slot.mfp
  band := slot.band

/-- What `handle_wifi_scan_result` writes to a slot. -/
def write (slot : ScanSlot) (entry : ScanEntry) : ScanSlot :=
  let ssidLen :=
    if entry.ssid.length > ssidMaxLen then ssidMaxLen else entry.ssid.length
  { slot with
    ssidSize := ssidLen
    ssidBytes := Region.store slot.ssidBytes 0 (entry.ssid.take ssidLen)
    bssid := entry.mac
    channel := entry.channel.toNat
    rssi := entry.rssi.toInt
    security := zephyrToProtoSecurity entry.security
    wpa3EnterpriseType := entry.wpa3EntType
    mfp := zephyrToProtoMfp entry.mfp
    band := zephyrToProtoBand entry.band }

/-- Nothing of an earlier result is read again. -/
@[simp] theorem toResult_write (slot : ScanSlot) (entry : ScanEntry) :
    (slot.write entry).toResult = entry.toResult := by
  have ssid : (slot.write entry).toResult.ssid =
      entry.ssid.take ssidMaxLen := by
    simp only [write, toResult]
    split
    · next long =>
        have size : (entry.ssid.take ssidMaxLen).length = ssidMaxLen := by
          rw [List.length_take]
          omega
        have stored := Region.slice_store_self slot.ssidBytes 0
          (entry.ssid.take ssidMaxLen)
        rwa [size] at stored
    · next short =>
        rw [List.take_length, List.take_of_length_le (by omega)]
        exact Region.slice_store_self slot.ssidBytes 0 entry.ssid
  simpa [toResult, write, ScanEntry.toResult] using ssid

end ScanSlot

/-- `CONFIG_WIFI_MGMT_PROXY_MAX_SCAN_RESULTS`, with the range of its
`Kconfig`; `all_results` of a notification has room for 32. -/
structure ScanConfig where
  maxScanResults : Nat
  positive : 1 ≤ maxScanResults
  room : maxScanResults ≤ 32

/-- `scan_results` and `scan_result_count` -/
structure ScanMemory where
  scanResults : Nat → ScanSlot
  scanResultCount : Nat

namespace ScanMemory

variable (config : ScanConfig)

/-- The messages that `send_scan_done_notification` copies. -/
def allResults (memory : ScanMemory) : List ScanResult :=
  (Region.slice memory.scanResults 0 memory.scanResultCount).map
    ScanSlot.toResult

@[simp] theorem length_allResults (memory : ScanMemory) :
    memory.allResults.length = memory.scanResultCount := by
  simp [allResults]

/-- `handle_wifi_scan_result` -/
def handleWifiScanResult (memory : ScanMemory) (entry : ScanEntry) :
    ScanMemory :=
  let count := memory.scanResultCount
  if count ≥ config.maxScanResults then memory
  else
    { scanResults := Region.store memory.scanResults count
        [(memory.scanResults count).write entry]
      scanResultCount := count + 1 }

/-- `send_scan_done_notification` -/
def sendScanDoneNotification (memory : ScanMemory) (iface : Option Nat)
    (status : Int) : ScanMemory × List Notification :=
  ({ memory with scanResultCount := 0 },
    [{ ifaceIndex := ifaceIndex iface
       event := .scanDone status memory.allResults }])

/-- `wifi_mgmt_net_event_handler` -/
def wifiMgmtNetEventHandler (memory : ScanMemory) (raised : Raised) :
    ScanMemory × List Notification :=
  match raised.event with
  | .scanResult entry => (memory.handleWifiScanResult config entry, [])
  | .scanDone status =>
      memory.sendScanDoneNotification raised.iface (status.getD 0)
  | .apEnableResult status =>
      (memory, sendApResultNotification raised.iface .apEnableResult
        (apStatusToProto status))
  | .apDisableResult status =>
      (memory, sendApResultNotification raised.iface .apDisableResult
        (apStatusToProto status))
  | .apStaConnected staInfo =>
      (memory, sendApStaNotification raised.iface true staInfo)
  | .apStaDisconnected staInfo =>
      (memory, sendApStaNotification raised.iface false staInfo)
  | .connectResult _ => (memory, [])
  | .disconnectResult _ => (memory, [])

/-- The handler is called for the events of the mask. -/
def notifyEvent (memory : ScanMemory) (raised : Raised) :
    ScanMemory × List Notification :=
  if subscribed raised.event then
    memory.wifiMgmtNetEventHandler config raised
  else (memory, [])

/-- The memory after a sequence of events. -/
def after (memory : ScanMemory) (events : List Raised) : ScanMemory :=
  events.foldl (fun memory raised => (memory.notifyEvent config raised).1)
    memory

/-- The notifications for a sequence of events, as they are given to
`pb_encode`. -/
def notifications : ScanMemory → List Raised → List Notification
  | _, [] => []
  | memory, raised :: rest =>
      (memory.notifyEvent config raised).2 ++
        notifications (memory.notifyEvent config raised).1 rest

end ScanMemory

section Refinement

variable {config : ScanConfig} {memory : ScanMemory}
  {scanResults : ScanResults config.maxScanResults}

/-- The slots in use hold the results of the list. -/
def Stored (memory : ScanMemory)
    (scanResults : ScanResults config.maxScanResults) : Prop :=
  memory.allResults = scanResults.results

theorem Stored.count (stored : Stored memory scanResults) :
    memory.scanResultCount = scanResults.results.length := by
  rw [← memory.length_allResults]
  exact congrArg List.length stored

theorem Stored.handle (stored : Stored memory scanResults)
    (entry : ScanEntry) :
    Stored (memory.handleWifiScanResult config entry)
      (handleWifiScanResult scanResults entry) := by
  have count := stored.count
  unfold ScanMemory.handleWifiScanResult handleWifiScanResult
  by_cases full : scanResults.results.length ≥ config.maxScanResults
  · have memoryFull : memory.scanResultCount ≥ config.maxScanResults := by
      omega
    rw [if_pos memoryFull, dif_pos full]
    exact stored
  · have memoryRoom : ¬memory.scanResultCount ≥ config.maxScanResults := by
      omega
    rw [if_neg memoryRoom, dif_neg full]
    let slot := (memory.scanResults memory.scanResultCount).write entry
    have written := Region.slice_store_self memory.scanResults
      memory.scanResultCount [slot]
    have kept := Region.slice_store_before memory.scanResults [slot]
      (Nat.le_of_eq (Nat.zero_add memory.scanResultCount))
    rw [Stored, ScanMemory.allResults, Region.slice_append,
      Nat.zero_add, List.map_append]
    change List.map _ (Region.slice (Region.store _ _ [slot]) 0 _) ++
      List.map _ (Region.slice (Region.store _ _ [slot]) _
        [slot].length) = _
    rw [written, kept, List.map_singleton, ScanSlot.toResult_write]
    exact congrArg (· ++ [entry.toResult]) stored

/-- One event leaves the list and the slots with the same results, and with
the same notifications. -/
theorem Stored.next (stored : Stored memory scanResults)
    (raised : Raised) :
    Stored (memory.notifyEvent config raised).1
        (notifyEvent scanResults raised).1 ∧
      (memory.notifyEvent config raised).2 =
        (notifyEvent scanResults raised).2 := by
  obtain ⟨iface, event⟩ := raised
  cases event with
  | scanResult entry => exact ⟨stored.handle entry, rfl⟩
  | scanDone status =>
      have results : memory.allResults = scanResults.results := stored
      refine ⟨rfl, ?_⟩
      simp [ScanMemory.notifyEvent, ScanMemory.wifiMgmtNetEventHandler,
        ScanMemory.sendScanDoneNotification, notifyEvent, subscribed,
        wifiMgmtNetEventHandler, sendScanDoneNotification, results]
  | _ => exact ⟨stored, rfl⟩

theorem Stored.notifications_eq
    (stored : Stored memory scanResults) (events : List Raised) :
    memory.notifications config events =
      notifications scanResults events := by
  induction events generalizing memory scanResults with
  | nil => rfl
  | cons raised rest induction =>
      obtain ⟨later, same⟩ := stored.next raised
      rw [ScanMemory.notifications, notifications, same, induction later]

theorem Stored.after_count_le (stored : Stored memory scanResults)
    (events : List Raised) :
    (memory.after config events).scanResultCount ≤
      config.maxScanResults := by
  induction events generalizing memory scanResults with
  | nil =>
      rw [ScanMemory.after, List.foldl_nil, stored.count]
      exact scanResults.bounded
  | cons raised rest induction => exact induction (stored.next raised).1

end Refinement

section Batches

/-- `NET_EVENT_WIFI_SCAN_DONE` -/
def Raised.isScanDone (raised : Raised) : Bool :=
  match raised.event with
  | .scanDone _ => true
  | _ => false

/-- The scan results among some events. -/
def received (events : List Raised) : List ScanEntry :=
  events.filterMap fun raised =>
    match raised.event with
    | .scanResult entry => some entry
    | _ => none

@[simp] theorem received_append (first second : List Raised) :
    received (first ++ second) = received first ++ received second :=
  List.filterMap_append

/-- The results in a notification, where it is one about a scan. -/
def Notification.scanDone? (notification : Notification) :
    Option (List ScanResult) :=
  match notification.event with
  | .scanDone _ allResults => some allResults
  | _ => none

/-- The notifications about scans. -/
def scanDones (notifications : List Notification) : List Notification :=
  notifications.filter (·.scanDone?.isSome)

/-- The results in all of them. -/
def carried (notifications : List Notification) : List ScanResult :=
  notifications.flatMap fun notification => notification.scanDone?.getD []

/-- What is handed to `serial_mux_send` about scans. -/
def sentScans (codec : Codec) (notifications : List Notification) :
    List (List UInt8) :=
  (scanDones notifications).filterMap codec.encode

/-- No event, or a scan has just ended. -/
def BetweenScans (events : List Raised) : Prop :=
  ∀ last, events.getLast? = some last → last.isScanDone = true

variable {capacity : Nat} {scanResults : ScanResults capacity}
  {pending : List ScanEntry} {codec : Codec}

@[simp] theorem scanDones_append (first second : List Notification) :
    scanDones (first ++ second) = scanDones first ++ scanDones second :=
  List.filter_append _ _

@[simp] theorem carried_append (first second : List Notification) :
    carried (first ++ second) = carried first ++ carried second :=
  List.flatMap_append

/-- The results kept after a sequence of events. -/
def resultsAfter (scanResults : ScanResults capacity)
    (events : List Raised) : ScanResults capacity :=
  events.foldl (fun scanResults raised => (notifyEvent scanResults raised).1)
    scanResults

theorem notifications_append (scanResults : ScanResults capacity)
    (first second : List Raised) :
    notifications scanResults (first ++ second) =
      notifications scanResults first ++
        notifications (resultsAfter scanResults first) second := by
  induction first generalizing scanResults with
  | nil => rfl
  | cons raised rest induction =>
      rw [List.cons_append, notifications, notifications, induction,
        List.append_assoc]
      rfl

/-- One event makes a notification about a scan where the scan ends. -/
theorem scanDones_notifyEvent (scanResults : ScanResults capacity)
    (raised : Raised) :
    (scanDones (notifyEvent scanResults raised).2).length =
      if raised.isScanDone then 1 else 0 := by
  obtain ⟨iface, event⟩ := raised
  cases event with
  | apStaConnected staInfo => cases staInfo <;> rfl
  | apStaDisconnected staInfo => cases staInfo <;> rfl
  | _ => rfl

theorem length_scanDones (scanResults : ScanResults capacity)
    (events : List Raised) :
    (scanDones (notifications scanResults events)).length =
      events.countP Raised.isScanDone := by
  induction events generalizing scanResults with
  | nil => rfl
  | cons raised rest induction =>
      rw [notifications, scanDones_append, List.length_append, induction,
        scanDones_notifyEvent, List.countP_cons, Nat.add_comm]

/-- While no scan ends the results are collected. -/
theorem Collected.resultsAfter (collected : Collected scanResults pending)
    {events : List Raised}
    (ongoing : ∀ raised ∈ events, raised.isScanDone = false) :
    Collected (resultsAfter scanResults events)
      (pending ++ received events) := by
  induction events generalizing scanResults pending with
  | nil =>
      rw [show received [] = [] from rfl, List.append_nil]
      exact collected
  | cons raised rest induction =>
      obtain ⟨now, later⟩ := List.forall_mem_cons.mp ongoing
      have kept : pendingAfter pending raised.event =
          pending ++ received [raised] := by
        obtain ⟨iface, event⟩ := raised
        cases event with
        | scanDone status => cases now
        | scanResult entry => rfl
        | _ => exact (List.append_nil pending).symm
      have next := induction (collected.next raised) later
      rwa [kept, List.append_assoc, ← received_append] at next

/-- The end of a scan frees the slots. -/
theorem resultsAfter_betweenScans {events : List Raised}
    (between : BetweenScans events) :
    Collected (resultsAfter (.empty capacity) events) [] := by
  have none : Collected (.empty capacity) [] := by
    rw [Collected, List.take_nil]
    rfl
  rcases List.eq_nil_or_concat events with rfl | ⟨earlier, last, rfl⟩
  · exact none
  · have ends : last.isScanDone = true := between last (by simp)
    obtain ⟨iface, event⟩ := last
    cases event with
    | scanDone status =>
        rw [resultsAfter, List.concat_eq_append, List.foldl_append]
        exact none
    | _ => cases ends

/-- A batch: after a scan has ended, what is received up to the next end
travels with it, and its place among the notifications is that of the end
among the ends. -/
theorem scanDones_batch (capacity : Nat) {before since : List Raised}
    (between : BetweenScans before)
    (ongoing : ∀ raised ∈ since, raised.isScanDone = false)
    (iface : Option Nat) (status : Option Int) (rest : List Raised) :
    (scanDones (notifications (.empty capacity)
        (before ++ since ++ ⟨iface, .scanDone status⟩ :: rest)))[
          before.countP Raised.isScanDone]? =
      some
        { ifaceIndex := ifaceIndex iface
          event := .scanDone (status.getD 0)
            (((received since).take capacity).map ScanEntry.toResult) } := by
  have silent : scanDones (notifications
      (resultsAfter (.empty capacity) before) since) = [] := by
    rw [← List.length_eq_zero_iff, length_scanDones, List.countP_eq_zero]
    simpa using ongoing
  have freed : Collected (resultsAfter (.empty capacity) before) [] :=
    resultsAfter_betweenScans between
  have collected := freed.resultsAfter ongoing
  have place := length_scanDones (.empty capacity) before
  rw [List.append_assoc, notifications_append, notifications_append,
    scanDones_append, scanDones_append, silent, List.nil_append, ← place,
    List.getElem?_append_right (Nat.le_refl _), Nat.sub_self,
    notifications, scanDones_append]
  rw [Collected, List.nil_append] at collected
  simp [notifyEvent, subscribed, wifiMgmtNetEventHandler,
    sendScanDoneNotification, scanDones, Notification.scanDone?, collected]

/-- The results that travel are some of those received, each once and in
their order. -/
theorem Collected.carried_sublist (collected : Collected scanResults pending)
    (events : List Raised) :
    (carried (notifications scanResults events)).Sublist
      ((pending ++ received events).map ScanEntry.toResult) := by
  induction events generalizing scanResults pending with
  | nil => exact List.nil_sublist _
  | cons raised rest induction =>
      have later := induction (collected.next raised)
      rw [notifications, carried_append,
        show raised :: rest = [raised] ++ rest from rfl, received_append]
      obtain ⟨iface, event⟩ := raised
      cases event with
      | scanResult entry =>
          rw [← List.append_assoc]
          exact later
      | scanDone status =>
          have batch : carried
              (notifyEvent scanResults ⟨iface, .scanDone status⟩).2 =
              (pending.take capacity).map ScanEntry.toResult := by
            rw [← collected]
            exact List.append_nil _
          rw [batch, List.map_append]
          exact ((List.take_sublist _ _).map _).append later
      | apStaConnected staInfo => cases staInfo <;> exact later
      | apStaDisconnected staInfo => cases staInfo <;> exact later
      | _ => exact later

end Batches

section Runs

variable {config : ScanConfig} {memory : ScanMemory} {codec : Codec}

theorem stored_initially (initial : memory.scanResultCount = 0) :
    Stored memory (.empty config.maxScanResults) := by
  rw [Stored, ScanMemory.allResults, initial]
  rfl

/-- What is encoded is sent, and has the place of its notification. -/
theorem sentScans_eq_map {notifications : List Notification}
    (encoded : ∀ notification ∈ scanDones notifications,
      (codec.encode notification).isSome) :
    (sentScans codec notifications).map some =
      (scanDones notifications).map codec.encode := by
  unfold sentScans
  generalize scanDones notifications = scans at encoded
  induction scans with
  | nil => rfl
  | cons notification rest induction =>
      obtain ⟨now, later⟩ := List.forall_mem_cons.mp encoded
      obtain ⟨bytes, sent⟩ := Option.isSome_iff_exists.mp now
      rw [List.filterMap_cons_some sent, List.map_cons, List.map_cons, sent,
        induction later]

/-- One slot, as the loader leaves it. -/
def oneSlot : ScanConfig where
  maxScanResults := 1
  positive := by decide
  room := by decide

def clearedSlots : ScanMemory where
  scanResults := fun _ =>
    { ssidSize := 0, ssidBytes := fun _ => 0, bssid := #v[0, 0, 0, 0, 0, 0]
      channel := 0, rssi := 0, security := .unknown, wpa3EnterpriseType := 0
      mfp := .optional, band := .any }
  scanResultCount := 0

def network (ssid : List UInt8) : ScanEntry where
  ssid
  mac := stationMac
  channel := 6
  rssi := -40
  security := .psk
  wpa3EntType := 0
  mfp := .optional
  band := .band2Point4GHz

/-- A scan with one result more than there are slots, and one without any. -/
def twoScans : List Raised :=
  [⟨some 1, .scanResult (network [0x41])⟩,
    ⟨some 1, .scanResult (network [0x42])⟩,
    ⟨some 1, .scanDone (some 0)⟩,
    ⟨some 1, .scanDone (some 0)⟩]

/-- The two notifications and their encodings. -/
def scanCodec : Codec where
  encode notification :=
    if notification = ⟨1, .scanDone 0 [(network [0x41]).toResult]⟩ then
      some [0x0A, 0x22, 0x08, 0x01, 0x12, 0x1E, 0x12, 0x1C, 0x0A, 0x01, 0x41,
        0x12, 0x06, 2, 0, 0, 0, 0, 1, 0x18, 0x06, 0x20, 0xD8, 0xFF, 0xFF,
        0xFF, 0xFF, 0xFF, 0xFF, 0xFF, 0xFF, 0x01, 0x28, 0x03, 0x40, 0x01]
    else if notification = ⟨1, .scanDone 0 []⟩ then
      some [0x0A, 0x04, 0x08, 0x01, 0x12, 0x00]
    else none
  decode _ := none

end Runs

end Wifi

end SerialLink
