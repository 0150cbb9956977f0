import SerialLink.Session.HciCommand

/-!
# Decoding of the controller's version

`hci_command_complete` takes the byte behind the opcode for a length and what
follows it for the return parameters; in the HCI format the byte is the status
of the command, the first of the return parameters.  `HciVersionInfo` then
expects the LMP version right behind the HCI version, where the format has the
HCI revision.

Here the accesses to a slice are those of the source, and one out of bounds
ends the program.
-/

namespace SerialLink

namespace Protocol

section Slices

/-- Why the program would end. -/
inductive Panic where
  | index
  | range
  | length
  deriving DecidableEq, Repr

/-- `bytes[index]` -/
def byteAt (bytes : List UInt8) (index : Nat) : Except Panic UInt8 :=
  match bytes[index]? with
  | some byte => .ok byte
  | none => .error .index

/-- `bytes[first..last]` -/
def slice (bytes : List UInt8) (first last : Nat) :
    Except Panic (List UInt8) :=
  if first ≤ last ∧ last ≤ bytes.length then
    .ok ((bytes.take last).drop first)
  else .error .range

/-- `array[..count].copy_from_slice(source)` -/
def copyFromSlice {size : Nat} (array : Vector UInt8 size) (count : Nat)
    (source : List UInt8) : Except Panic (Vector UInt8 size) :=
  if count ≤ size then
    if source.length = count then
      .ok (Vector.ofFn fun index =>
        if index.val < count then source.getD index.val 0
        else array.get index)
    else .error .length
  else .error .range

theorem slice_of_le {bytes : List UInt8} {first last : Nat}
    (ordered : first ≤ last) (inside : last ≤ bytes.length) :
    slice bytes first last = .ok ((bytes.take last).drop first) :=
  if_pos ⟨ordered, inside⟩

end Slices

/-- `hci_command_complete`, with its accesses. -/
def hciCommandCompleteIndexed (payload : List UInt8) :
    Except Panic (Option HciCommandComplete) :=
  if payload.length < 7 then .ok none
  else do
    let h4 ← byteAt payload 0
    if h4 ≠ hciH4Evt then return none
    let evtPlen ← byteAt payload 2
    let event ← byteAt payload 1
    if event ≠ hciEvtCommandComplete ∨
        payload.length ≠ 3 + evtPlen.toNat then
      return none
    if evtPlen.toNat < 4 then return none
    let numPackets ← byteAt payload 3
    let low ← byteAt payload 4
    let high ← byteAt payload 5
    let params ← slice payload 7 payload.length
    return some { numPackets, opcode := fromLeBytes low high, params }

/-- `HciVersionInfo` -/
structure HciVersionInfo where
  hciVersion : UInt8
  lmpVersion : UInt8
  utf : UInt16
  manufacturer : UInt16
  sdp : Vector UInt8 8
  deriving DecidableEq, Repr

/-- `HciVersionInfo::try_from` -/
def HciVersionInfo.tryFrom (cc : HciCommandComplete) :
    Except Panic (Option HciVersionInfo) :=
  if cc.opcode ≠ hciOpReadLocalVersion ∨ cc.params.length < 6 then .ok none
  else do
    let p := cc.params
    let sdpLen := min (p.length - 6) 8
    let blob ← slice p 6 (6 + sdpLen)
    let sdp ← copyFromSlice (Vector.replicate 8 0) sdpLen blob
    let hciVersion ← byteAt p 0
    let lmpVersion ← byteAt p 1
    let utfLow ← byteAt p 2
    let utfHigh ← byteAt p 3
    let manufacturerLow ← byteAt p 4
    let manufacturerHigh ← byteAt p 5
    return some
      { hciVersion
        lmpVersion
        utf := fromLeBytes utfLow utfHigh
        manufacturer := fromLeBytes manufacturerLow manufacturerHigh
        sdp }

section Specification

/-- What the controller tells, and the number of commands it would take. -/
structure LocalVersion where
  numPackets : UInt8
  hciVersion : UInt8
  hciRevision : UInt16
  lmpVersion : UInt8
  companyIdentifier : UInt16
  lmpSubversion : UInt16

def leBytes (value : UInt16) : List UInt8 :=
  [lowByte value, highByte value]

/-- The Command Complete event of Read Local Version Information in the HCI
format: the return parameters are a status of 0 and the fields. -/
def LocalVersion.event (version : LocalVersion) : List UInt8 :=
  [0x04, 0x0E, 12, version.numPackets] ++ leBytes 0x1001 ++
    [0x00, version.hciVersion] ++ leBytes version.hciRevision ++
    [version.lmpVersion] ++ leBytes version.companyIdentifier ++
    leBytes version.lmpSubversion

/-- The versions and the manufacturer are read from the event. -/
def ReadsVersion (version : LocalVersion) : Prop :=
  ∃ complete info,
    hciCommandCompleteIndexed version.event = .ok (some complete) ∧
    complete.opcode = 0x1001 ∧
    HciVersionInfo.tryFrom complete = .ok (some info) ∧
    info.hciVersion = version.hciVersion ∧
    info.lmpVersion = version.lmpVersion ∧
    info.manufacturer = version.companyIdentifier

/-- Bytes of any kind are parsed without an access out of bounds, and accepted
with the length that they say only. -/
def SafelyParsed (payload : List UInt8) : Prop :=
  ∃ result, hciCommandCompleteIndexed payload = .ok result ∧
    ∀ complete, result = some complete →
      (∃ evtPlen, payload[2]? = some evtPlen ∧
        payload.length = 3 + evtPlen.toNat) ∧
      ∃ info, HciVersionInfo.tryFrom complete = .ok info

end Specification

/-- No access of the first parser is out of bounds. -/
theorem hciCommandCompleteIndexed_eq (payload : List UInt8) :
    hciCommandCompleteIndexed payload = .ok (hciCommandComplete payload) := by
  match payload with
  | [] | [_] | [_, _] | [_, _, _] | [_, _, _, _] | [_, _, _, _, _]
  | [_, _, _, _, _, _] => rfl
  | h4 :: event :: evtPlen :: numPackets :: low :: high :: skipped ::
      params =>
      have long : ¬(h4 :: event :: evtPlen :: numPackets :: low :: high ::
          skipped :: params).length < 7 := by
        simp
      have rest : slice (h4 :: event :: evtPlen :: numPackets :: low ::
          high :: skipped :: params) 7 (params.length + 7) = .ok params := by
        rw [slice_of_le (by omega) (by simp)]
        simp
      rw [hciCommandCompleteIndexed, if_neg long]
      simp only [byteAt, List.getElem?_cons_zero, List.getElem?_cons_succ,
        bind, Except.bind, List.length_cons, rest, hciCommandComplete]
      split
      · rfl
      · split
        · rfl
        · split
          · rfl
          · rfl

theorem hciCommandComplete_length {payload : List UInt8}
    {complete : HciCommandComplete}
    (accepted : hciCommandComplete payload = some complete) :
    ∃ evtPlen, payload[2]? = some evtPlen ∧
      payload.length = 3 + evtPlen.toNat := by
  unfold hciCommandComplete at accepted
  split at accepted
  · rename_i h4 event evtPlen numPackets low high skipped params
    refine ⟨evtPlen, rfl, ?_⟩
    by_cases whole : params.length + 7 = 3 + evtPlen.toNat
    · simpa using whole
    · simp [whole] at accepted
  · cases accepted

theorem HciVersionInfo.tryFrom_own {cc : HciCommandComplete}
    {hciVersion lmpVersion utfLow utfHigh low high : UInt8}
    {blob : List UInt8} (own : cc.opcode = hciOpReadLocalVersion)
    (params : cc.params =
      hciVersion :: lmpVersion :: utfLow :: utfHigh :: low :: high :: blob) :
    ∃ sdp, tryFrom cc = .ok (some
      { hciVersion, lmpVersion, utf := fromLeBytes utfLow utfHigh
        manufacturer := fromLeBytes low high, sdp }) := by
  have accepted : ¬(cc.opcode ≠ hciOpReadLocalVersion ∨
      cc.params.length < 6) := by
    simp [own, params]
  have sliced : slice cc.params 6 (6 + min (cc.params.length - 6) 8) =
      .ok (blob.take (min blob.length 8)) := by
    rw [params, slice_of_le (by omega) (by simp; omega)]
    simp [Nat.add_comm 6]
  have copied : ∃ sdp, copyFromSlice (Vector.replicate 8 (0 : UInt8))
      (min (cc.params.length - 6) 8) (blob.take (min blob.length 8)) =
        .ok sdp := by
    refine ⟨_, (if_pos ?_).trans (if_pos ?_)⟩
    · omega
    · simp [params]
  obtain ⟨sdp, copied⟩ := copied
  refine ⟨sdp, ?_⟩
  rw [tryFrom, if_neg accepted]
  simp only [sliced, copied, bind, Except.bind]
  simp only [params, byteAt, List.getElem?_cons_zero,
    List.getElem?_cons_succ, pure, Except.pure]

theorem HciVersionInfo.tryFrom_total (cc : HciCommandComplete) :
    ∃ info, tryFrom cc = .ok info := by
  by_cases other : cc.opcode ≠ hciOpReadLocalVersion ∨ cc.params.length < 6
  · exact ⟨none, if_pos other⟩
  · obtain ⟨own, long⟩ := not_or.mp other
    match params : cc.params with
    | [] | [_] | [_, _] | [_, _, _] | [_, _, _, _] | [_, _, _, _, _] =>
        simp [params] at long
    | hciVersion :: lmpVersion :: utfLow :: utfHigh :: low :: high :: blob =>
        obtain ⟨sdp, accepted⟩ := tryFrom_own (not_not.mp own) params
        exact ⟨_, accepted⟩

theorem safelyParsed (payload : List UInt8) : SafelyParsed payload := by
  refine ⟨_, hciCommandCompleteIndexed_eq payload, ?_⟩
  intro complete accepted
  exact ⟨hciCommandComplete_length accepted,
    HciVersionInfo.tryFrom_total complete⟩

/-- What is made of the event: the return parameters without the status. -/
def LocalVersion.received (version : LocalVersion) : HciCommandComplete where
  numPackets := version.numPackets
  opcode := 0x1001
  params :=
    [version.hciVersion] ++ leBytes version.hciRevision ++
      [version.lmpVersion] ++ leBytes version.companyIdentifier ++
      leBytes version.lmpSubversion

theorem hciCommandComplete_event (version : LocalVersion) :
    hciCommandComplete version.event = some version.received :=
  rfl

theorem readsVersion_iff_revision (version : LocalVersion) :
    ReadsVersion version ↔
      version.lmpVersion = lowByte version.hciRevision := by
  have parsed := hciCommandCompleteIndexed_eq version.event
  rw [hciCommandComplete_event] at parsed
  have own : version.received.opcode = hciOpReadLocalVersion := rfl
  obtain ⟨sdp, decoded⟩ := HciVersionInfo.tryFrom_own own rfl
  constructor
  · rintro ⟨complete, info, accepted, -, read, -, lmp, -⟩
    cases parsed.symm.trans accepted
    cases decoded.symm.trans read
    exact lmp.symm
  · intro same
    exact ⟨_, _, parsed, rfl, decoded, rfl, same.symm,
      fromLeBytes_bytes version.companyIdentifier⟩

/-- The version is read just when its LMP version is the lower byte of its HCI
revision; bytes of any kind are parsed safely. -/
theorem readsVersion_iff (version : LocalVersion) :
    ReadsVersion version ∧ (∀ payload, SafelyParsed payload) ↔
      version.lmpVersion = lowByte version.hciRevision := by
  rw [← readsVersion_iff_revision]
  exact ⟨And.left, fun read => ⟨read, safelyParsed⟩⟩

/-- A controller of version 5.4 without a revision. -/
def controller : LocalVersion where
  numPackets := 1
  hciVersion := 0x0D
  hciRevision := 0
  lmpVersion := 0x0D
  companyIdentifier := 0x05F1
  lmpSubversion := 0

/-- Its LMP version is read as 0. -/
theorem controller_misread :
    controller.event = [0x04, 0x0E, 12, 1, 0x01, 0x10, 0x00, 0x0D, 0, 0, 0x0D,
        0xF1, 0x05, 0, 0] ∧
      ¬(ReadsVersion controller ∧ ∀ payload, SafelyParsed payload) := by
  refine ⟨rfl, fun claim => ?_⟩
  have same := (readsVersion_iff_revision controller).mp claim.1
  revert same
  decide

end Protocol

end SerialLink
