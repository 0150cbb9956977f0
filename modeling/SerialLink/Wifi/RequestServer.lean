import SerialLink.Device.MgmtServer
import SerialLink.Wifi.Dispatch

/-!
# Wi-Fi requests one after the other

The Wi-Fi management thread answers requests while the serial layer receives
the next one and the driver changes at any time.  A board stands for what the
driver does with the calls of one request.
-/

namespace SerialLink

namespace Wifi

open Server

namespace Board

/-- A request with the board it meets.  What the request does to the driver is
a change like any other. -/
def meet (nanopb : Nanopb) (board : Board) (bytes : List UInt8) :
    Board × (Board × Processed) :=
  (board, board, board.processWifiMgmtRequest nanopb bytes)

/-- `process_wifi_mgmt_request` as the thread calls it. -/
def process (nanopb : Nanopb) (board : Board) (bytes : List UInt8) :
    Board × List UInt8 :=
  (board, (board.processWifiMgmtRequest nanopb bytes).bytes)

end Board

/-- How a request fares with the board it meets: it gets its response, or it
asks for a version that the response cannot hold. -/
structure Fares (nanopb : Nanopb) (bytes : List UInt8)
    (met : Board × Board.Processed) : Prop where
  processed : met.2 = met.1.processWifiMgmtRequest nanopb bytes
  answered : ¬Board.AsksLongVersion nanopb met.1 bytes →
    Answered DeviceRequest.CheckedTag nanopb bytes met.2
  silent : met.2.bytes = [] ↔ Board.AsksLongVersion nanopb met.1 bytes

variable {nanopb : Nanopb}

theorem Board.answered_of_short (sound : nanopb.Sound) {board : Board}
    {bytes : List UInt8} (short : ¬AsksLongVersion nanopb board bytes) :
    Answered DeviceRequest.CheckedTag nanopb bytes
      (board.processWifiMgmtRequest nanopb bytes) := by
  cases decoded : nanopb.decodeRequest bytes with
  | none => exact answered_undecodable sound _ decoded
  | some request =>
      refine answered_decoded sound decoded ?_ fun unfit => unfit
      rw [board.dispatch_harmless_iff]
      rintro ⟨asks, long⟩
      exact short ⟨request, decoded, asks, long⟩

/-- A version that is too long is never encoded. -/
theorem Board.silent_of_long (sound : nanopb.Sound) {board : Board}
    {bytes : List UInt8} (long : AsksLongVersion nanopb board bytes) :
    (board.processWifiMgmtRequest nanopb bytes).bytes = [] := by
  obtain ⟨request, decoded, asks, firmware⟩ := long
  have spoiled : ¬(board.dispatch request).payload.Encodable := by
    rw [board.dispatch_of_asksVersion asks]
    intro encodable
    have terminated := encodable (decide_eq_true firmware.1)
    rw [terminated_firmwareVersion_iff, board.versionText_fits_iff]
      at terminated
    exact terminated firmware
  have nonempty := finish_bytes_ne_nil_iff sound request.requestId
    (board.dispatch request)
  simp only [processWifiMgmtRequest, decoded]
  exact not_not.mp (mt nonempty.mp spoiled)

theorem fares_meet (sound : nanopb.Sound) (board : Board)
    (bytes : List UInt8) :
    Fares nanopb bytes (board.meet nanopb bytes).2 where
  processed := rfl
  answered := Board.answered_of_short sound
  silent := by
    refine ⟨fun empty => ?_, Board.silent_of_long sound⟩
    by_contra short
    exact (Board.answered_of_short sound short).nonempty empty

/-- In every run in which the serial layer and the thread exclude each other,
every accepted request meets one state of the driver, in the order of the
requests, and gets the response that belongs to it, with its number.  The
responses are handed on in that order, the last one perhaps not yet, and only
those are missing that ask for a version of 32 characters or more. -/
theorem wifi_responses_of_run (nanopb : Nanopb) (sound : nanopb.Sound)
    (build : Build) (start : Board)
    (labels : List (MgmtServer.Label Board)) (final : MgmtServer Board)
    (run : Run.GuardedRun
      (MgmtServer.step (Board.process nanopb) build .wifiMgmt)
      MgmtServer.Exclusive (.initial start) labels final) :
    MgmtProxy.NoneLost final.proxy ∧
      ∃ history mets,
        Server.serve (Board.meet nanopb) start history =
          (final.world, mets) ∧
        requests history = final.proxy.processed ∧
        List.Forall₂ (Fares nanopb) final.proxy.processed mets ∧
        final.handed ++ final.outstanding =
          (mets.map (·.2.bytes)).filter (· ≠ []) := by
  obtain ⟨noneLost, history, processed, world, responses⟩ :=
    MgmtServer.exec_sequential _ build .wifiMgmt rfl start labels final run
  have rendered : Server.serve (Board.process nanopb) start history =
      ((Server.serve (Board.meet nanopb) start history).1,
        (Server.serve (Board.meet nanopb) start history).2.map
          (·.2.bytes)) :=
    serve_map (Board.meet nanopb) (·.2.bytes) start history
  rw [rendered] at world responses
  refine ⟨noneLost, history, _, Prod.ext world rfl, processed, ?_,
    responses.symm⟩
  rw [← processed]
  exact forall₂_serve _ (fares_meet sound) start history

namespace Board

/-- The labels of one request. -/
def versionAsked : List (MgmtServer.Label Board) :=
  [.beginWait, .acquireBuffer versionRequest, .store, .commitData,
    .messageComplete, .wake, .process, .respond, .resetLength].map .proxy

/-- The version is asked for twice, and in between the driver gets one of 32
characters. -/
def twoVersions : List (MgmtServer.Label Board) :=
  versionAsked ++
    [.change fun _ => reporting
      (.ofString "1.2.14-rc1+build.20240131.abcdef")] ++ versionAsked

theorem twoVersions_answered :
    ∃ final mets,
      Run.exec (MgmtServer.step (process versionNanopb) Build.full .wifiMgmt)
        (.initial (reporting (.ofString "1.2.14"))) twoVersions =
          some final ∧
      List.Forall₂ (Fares versionNanopb) [versionRequest, versionRequest]
        mets ∧
      (mets.map (·.2.bytes)).filter (· ≠ []) =
        [[0x08, 0x06, 0x1A, 0x0A, 0x0A, 0x08, 0x22, 0x06,
          0x31, 0x2E, 0x32, 0x2E, 0x31, 0x34]] := by
  have ran : (Run.execGuarded
      (MgmtServer.step (process versionNanopb) Build.full .wifiMgmt)
      MgmtServer.Exclusive (.initial (reporting (.ofString "1.2.14")))
      twoVersions).map (fun final =>
        (final.proxy.processed, final.handed ++ final.outstanding)) =
      some ([versionRequest, versionRequest],
        [[0x08, 0x06, 0x1A, 0x0A, 0x0A, 0x08, 0x22, 0x06,
          0x31, 0x2E, 0x32, 0x2E, 0x31, 0x34]]) := by
    decide +kernel
  obtain ⟨final, executed, observed⟩ := Option.map_eq_some_iff.mp ran
  obtain ⟨processed, handed⟩ := Prod.mk.inj observed
  have run := Run.guardedRun_of_execGuarded executed
  obtain ⟨-, _, mets, -, -, fares, responses⟩ :=
    wifi_responses_of_run versionNanopb versionNanopb_sound Build.full
      (reporting (.ofString "1.2.14")) twoVersions final run
  rw [processed] at fares
  exact ⟨final, mets, run.exec_eq, fares, responses.symm.trans handed⟩

end Board

end Wifi

end SerialLink
