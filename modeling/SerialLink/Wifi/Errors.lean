import SerialLink.Wifi.Operations

/-!
# Errors on their way back to the host

Every operation of the virtual driver asks the device for one request, and the
handler makes the `net_mgmt` calls for it.  `Succeeded` says when these have
succeeded, in terms of the calls alone; it is not translated from the source.
An operation should return 0 exactly then, and otherwise the error that the
handler recorded.  This fails for `get_version` only: its handler has no
status to write, and the host does not look at `has_version`.
-/

namespace SerialLink

namespace Wifi

namespace Operation

/-- The driver reports the country code that was set; it accepts a code that
the firmware rejects. -/
def Confirmed (radio : Radio) : Operation → Prop
  | .regDomain false (first, second) =>
      radio.regDomain.countryCode = (toUpper first, toUpper second)
  | _ => True

/-- The `net_mgmt` calls for the operation were made and succeeded. -/
def Succeeded (operation : Operation) (radio : Radio) : Prop :=
  (serve radio operation.request).calls ≠ [] ∧
  (∀ call ∈ (serve radio operation.request).calls, call.2 = 0) ∧
  operation.Confirmed radio

/-- The host learns what became of the operation. -/
structure Propagates (operation : Operation) (codec : MgmtCodec)
    (radio : Radio) : Prop where
  zero : operation.returned codec (deliver codec radio) = 0 ↔
    operation.Succeeded radio
  error : ¬operation.Succeeded radio → ∃ status,
    (serve radio operation.request).result = .statusResp status ∧
    status.errorCode ≠ 0 ∧
    operation.returned codec (deliver codec radio) = status.errorCode

/-- What the response says: a success, or the error of a failure. -/
inductive Tells (operation : Operation) (radio : Radio) : Prop where
  | success : operation.Succeeded radio →
      operation.result (serve radio operation.request).result = 0 →
      Tells operation radio
  | failure (status : StatusResponse) : ¬operation.Succeeded radio →
      (serve radio operation.request).result = .statusResp status →
      status.success = false → status.errorCode ≠ 0 → Tells operation radio

theorem result_status (operation : Operation) (status : StatusResponse) :
    operation.result (.statusResp status) =
      if status.success then 0 else status.errorCode := by
  cases operation <;> rfl

variable {codec : MgmtCodec} {radio : Radio} {operation : Operation}
  {ifaceIndex : Nat} {request : Nat → NetRequest}

/-- A response that tells what became of the operation is enough. -/
theorem Tells.propagates (tells : Tells operation radio)
    (faithful : codec.Faithful operation.request
      (respond radio operation.request)) :
    operation.Propagates codec radio := by
  have returned := operation.returned_eq faithful
  cases tells with
  | success succeeded zero =>
      rw [zero] at returned
      exact ⟨⟨fun _ => succeeded, fun _ => returned⟩,
        fun failed => absurd succeeded failed⟩
  | failure status failed told unsuccessful nonzero =>
      rw [told, result_status, unsuccessful] at returned
      simp only [Bool.false_eq_true, if_false] at returned
      refine ⟨⟨fun zero => absurd (returned.symm.trans zero) nonzero,
        fun succeeded => absurd succeeded failed⟩, fun _ => ?_⟩
      exact ⟨status, told, nonzero, returned⟩

theorem not_succeeded_of_refused
    (refused : (serve radio operation.request).calls = []) :
    ¬operation.Succeeded radio :=
  fun succeeded => succeeded.1 refused

theorem not_succeeded_of_failed {call : NetRequest × Int}
    (made : call ∈ (serve radio operation.request).calls)
    (failed : call.2 ≠ 0) : ¬operation.Succeeded radio :=
  fun succeeded => failed (succeeded.2.1 call made)

theorem succeeded_of_single {call : NetRequest × Int}
    (made : (serve radio operation.request).calls = [call])
    (zero : call.2 = 0) (confirmed : operation.Confirmed radio) :
    operation.Succeeded radio := by
  refine ⟨by simp [made], ?_, confirmed⟩
  intro other member
  rw [made] at member
  rw [List.mem_singleton.mp member, zero]

/-- The handlers with one call and a status. -/
theorem tells_of_ends {admissible : Prop} {served : Served StatusResponse}
    (same : serve radio operation.request = served.status)
    (ends : Ends radio ifaceIndex admissible request served)
    (confirmed : operation.Confirmed radio) : Tells operation radio := by
  have told : (serve radio operation.request).result =
      .statusResp served.result := by rw [same]; rfl
  cases ends with
  | refused errorCode errorMessage nonzero =>
      exact .failure _ (not_succeeded_of_refused (by rw [same]; rfl)) told rfl
        nonzero
  | reported iface failed done =>
      have made : (serve radio operation.request).calls =
          [(request iface, radio.netMgmt (request iface))] := by
        rw [same]
        rfl
      by_cases zero : radio.netMgmt (request iface) = 0
      · apply Tells.success (succeeded_of_single made zero confirmed)
        rw [told, result_status]
        simp [report, zero]
      · refine .failure _ (not_succeeded_of_failed
          (made ▸ List.mem_cons_self) zero) told ?_ ?_
        · simp [report, zero]
        · simp [report, zero]

theorem tells_of_retrieve {α : Type} {data : α} {missing failed : String}
    {tag : Option α → ResponsePayload}
    (same : serve radio operation.request =
      (retrieve radio ifaceIndex request data missing failed).select tag)
    (read : operation.result (tag (some data)) = 0)
    (confirmed : operation.Confirmed radio) : Tells operation radio := by
  unfold retrieve at same
  cases found : resolveWifiIface radio ifaceIndex with
  | none =>
      rw [found] at same
      have nonzero : -enodev ≠ 0 := by decide
      exact .failure _ (not_succeeded_of_refused (by rw [same]; rfl))
        (by rw [same]; rfl) rfl nonzero
  | some iface =>
      rw [found] at same
      have made : (serve radio operation.request).calls =
          [(request iface, radio.netMgmt (request iface))] := by
        rw [same]
        rfl
      by_cases zero : radio.netMgmt (request iface) = 0
      · apply Tells.success (succeeded_of_single made zero confirmed)
        simpa [same, Served.select, zero] using read
      · refine .failure
          { success := false, errorCode := radio.netMgmt (request iface)
            errorMessage := failed }
          (not_succeeded_of_failed (made ▸ List.mem_cons_self) zero) ?_ rfl
          zero
        simp [same, Served.select, zero]

theorem tells_of_status {served : Served StatusResponse}
    (same : serve radio operation.request = served.status)
    (failed : ¬operation.Succeeded radio)
    (unsuccessful : served.result.success = false)
    (nonzero : served.result.errorCode ≠ 0) : Tells operation radio :=
  .failure served.result failed (by rw [same]; rfl) unsuccessful nonzero

/-- `handle_set_reg_domain_request` with its two calls. -/
theorem tells_setRegDomain (radio : Radio) (countryCode : CountryCode) :
    Tells (.regDomain false countryCode) radio := by
  obtain ⟨first, second⟩ := countryCode
  have same : serve radio (Operation.regDomain false (first, second)).request =
      (handleSetRegDomainRequest radio 0
        (some { countryCode := (first, second)
                forceUpdate := false })).status := rfl
  have codes : -enodev ≠ 0 ∧ -einval ≠ 0 ∧ -eio ≠ 0 := by decide
  unfold handleSetRegDomainRequest at same
  cases found : resolveWifiIface radio 0 with
  | none =>
      rw [found] at same
      exact tells_of_status same
        (not_succeeded_of_refused (by rw [same]; rfl)) rfl codes.1
  | some iface =>
      rw [found] at same
      dsimp only at same
      split_ifs at same with letters set get other
      · exact tells_of_status same
          (not_succeeded_of_refused (by rw [same]; rfl)) rfl codes.2.1
      · exact tells_of_status same
          (not_succeeded_of_failed (by rw [same]; exact List.mem_cons_self)
            set) rfl set
      · have made : (NetRequest.regDomainGet iface, radio.netMgmt
            (.regDomainGet iface)) ∈ (serve radio (Operation.regDomain false
              (first, second)).request).calls := by
          rw [same]
          exact List.mem_cons_of_mem _ List.mem_cons_self
        exact tells_of_status same (not_succeeded_of_failed made get) rfl get
      · exact tells_of_status same (fun succeeded => other succeeded.2.2) rfl
          codes.2.2
      · rw [ne_eq, Decidable.not_not] at set get other
        refine .success ⟨by rw [same]; exact List.cons_ne_nil _ _, ?_, other⟩
          (by rw [same]; rfl)
        intro call member
        rw [same] at member
        rcases List.mem_cons.mp member with rfl | last
        · exact set
        · rw [List.mem_singleton.mp last]
          exact get

/-- Every response but that of `get_version` tells what became of the
operation. -/
theorem tells_of_not_version (radio : Radio)
    (other : ∀ params, operation ≠ .getVersion params) :
    Tells operation radio := by
  cases operation with
  | scan params =>
      exact tells_of_ends rfl (handleScanRequest_ends radio _ _) trivial
  | connect params =>
      exact tells_of_ends rfl (handleConnectRequest_ends radio _) trivial
  | disconnect =>
      exact tells_of_ends rfl (handleDisconnectRequest_ends radio _) trivial
  | apEnable params =>
      exact tells_of_ends rfl (handleApEnableRequest_ends radio _ _) trivial
  | apDisable =>
      exact tells_of_ends rfl (handleApDisableRequest_ends radio _) trivial
  | ifaceStatus status => exact tells_of_retrieve rfl rfl trivial
  | getVersion params => exact absurd rfl (other params)
  | getPsConfig enabled => exact tells_of_retrieve rfl rfl trivial
  | regDomain isGet countryCode =>
      cases isGet with
      | true => exact tells_of_retrieve rfl rfl trivial
      | false => exact tells_setRegDomain radio countryCode

end Operation

/-- An operation returns 0 exactly if the device's calls succeeded, and
otherwise the error the handler recorded, if and only if it is not
`get_version` or the version was retrieved. -/
theorem errors_propagate_iff (operation : Operation) (codec : MgmtCodec)
    (radio : Radio)
    (faithful : codec.Faithful operation.request
      (respond radio operation.request)) :
    operation.Propagates codec radio ↔
      ((∃ params, operation = .getVersion params) →
        radio.netMgmt (.version radio.defaultIface) = 0) := by
  constructor
  · rintro propagates ⟨params, rfl⟩
    have returned : (Operation.getVersion params).returned codec
        (deliver codec radio) = 0 :=
      Operation.returned_eq (.getVersion params) faithful
    obtain ⟨-, all, -⟩ := propagates.zero.mp returned
    exact all (.version radio.defaultIface, _) List.mem_cons_self
  · intro retrieved
    by_cases version : ∃ params, operation = .getVersion params
    · have zero := retrieved version
      obtain ⟨params, rfl⟩ := version
      apply Operation.Tells.propagates _ faithful
      apply Operation.Tells.success _ rfl
      apply Operation.succeeded_of_single rfl zero
      trivial
    · apply Operation.Tells.propagates _ faithful
      exact Operation.tells_of_not_version radio
        (fun params same => version ⟨params, same⟩)

/-- A radio without the interface asked for. -/
def emptyRadio : Radio :=
  { obligingRadio with interfaces := [] }

def notFound : MgmtResponse where
  requestId := .disconnect
  payload := some (.statusResp
    { success := false, errorCode := -19
      errorMessage := "Interface not found" })

/-- The bytes of the request and of the response. -/
def disconnectCodec : MgmtCodec :=
  .single disconnectRequest [0x08, 0x02, 0x1A, 0x02, 0x08, 0x01] notFound
    ([0x08, 0x02, 0x12, 0x20, 0x10, 0xED, 0xFF, 0xFF, 0xFF, 0xFF, 0xFF, 0xFF,
      0xFF, 0xFF, 0x01, 0x1A, 0x13] ++
        "Interface not found".toUTF8.toList)

/-- The error of a disconnection reaches the host. -/
theorem errors_propagate_disconnect :
    Operation.disconnect.Propagates disconnectCodec emptyRadio ∧
      Operation.disconnect.returned disconnectCodec
        (deliver disconnectCodec emptyRadio) = -19 := by
  have faithful : disconnectCodec.Faithful Operation.disconnect.request
      (respond emptyRadio Operation.disconnect.request) :=
    MgmtCodec.single_faithful _ _ _ _
  refine ⟨(errors_propagate_iff .disconnect disconnectCodec emptyRadio
    faithful).mpr ?_, ?_⟩
  · rintro ⟨params, same⟩
    cases same
  · exact Operation.returned_eq .disconnect faithful

/-- A radio that cannot tell its version. -/
def secretiveRadio : Radio :=
  { obligingRadio with netMgmt := fun _ => -enotsup }

/-- The bytes of a request for the version and of a response without it. -/
def versionCodec : MgmtCodec :=
  .single versionRequest [0x08, 0x06, 0x3A, 0x00]
    { requestId := .getWifiVersion, payload := some (.getVersionResp none) }
    [0x08, 0x06, 0x1A, 0x00]

/-- The version is not retrieved, and the operation returns 0. -/
theorem version_failure_returns_zero :
    secretiveRadio.netMgmt (.version secretiveRadio.defaultIface) ≠ 0 ∧
    (Operation.getVersion { drvVersion := "", fwVersion := "" }).returned
      versionCodec (deliver versionCodec secretiveRadio) = 0 ∧
    ¬(Operation.getVersion { drvVersion := "", fwVersion := "" }).Propagates
      versionCodec secretiveRadio := by
  have failed : secretiveRadio.netMgmt
      (.version secretiveRadio.defaultIface) ≠ 0 := by decide
  have faithful : versionCodec.Faithful versionRequest
      (respond secretiveRadio versionRequest) :=
    MgmtCodec.single_faithful _ _ _ _
  have returned : (Operation.getVersion
      { drvVersion := "", fwVersion := "" }).returned versionCodec
        (deliver versionCodec secretiveRadio) = 0 :=
    Operation.returned_eq (.getVersion _) faithful
  refine ⟨failed, returned, fun propagates => ?_⟩
  obtain ⟨-, all, -⟩ := propagates.zero.mp returned
  exact failed (all (.version secretiveRadio.defaultIface, _)
    List.mem_cons_self)

end Wifi

end SerialLink
