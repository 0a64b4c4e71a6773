import Shyam.Discovery.Datagrams

/-!
# Packets from the network

Reading a packet is total as long as what it holds is an object and its node id is a text. What the
reading does not check besides is the kind of the name and of the port.
-/

namespace Shyam

open Python

namespace UdpWorld

open DiscoveryService

section

variable (rules : DiscoveryRules) (loads : String → Option JsonValue)
  (identity : Option LocalIdentity) (IsPort : PyValue → Prop)

/-- The fields of an announcement, whatever counts as a port. -/
structure AnnouncementFields (payload : Dict PyValue) : Prop where
  nodeId : ∃ text, payload.getD "node_id" .none = .str text ∧ (rules.parseUuid text).isSome
  nodeName : ∃ name, payload.getD "node_name" .none = .str name ∧ name ≠ ""
  port : IsPort (payload.getD "port" .none)

/-- The bytes are the text of an object that has these fields. -/
def Announces (data : Bytes) : Prop :=
  ∃ text fields, data = encodeUtf8 text ∧ loads text = some (.obj fields)
    ∧ AnnouncementFields rules IsPort (dictOf (PyValue.ofJsonFields fields))

/-- The call returns, and for anything but an announcement it leaves tasks and peers as they are. -/
def HandlesDatagram (now : DateTime) (data : Bytes) (remoteIp : String) (w : UdpWorld) : Prop :=
  ∃ w', datagramReceived rules loads identity now data remoteIp w = .ok w'
    ∧ (¬Announces rules loads IsPort data → w'.tasks = w.tasks ∧ w'.state.peers = w.state.peers)

/-- No field is missing. -/
def Complete (payload : Dict PyValue) : Prop :=
  (payload.getD "node_id" .none).truthy = true ∧ (payload.getD "node_name" .none).truthy = true
    ∧ payload.getD "port" .none ≠ .none

/-- Where no field is missing the node id is a text, and where it is the UUID of another node, name
and port are what they should be. -/
def Typed (payload : Dict PyValue) : Prop :=
  Complete payload →
    ∃ text, payload.getD "node_id" .none = .str text
      ∧ ∀ nodeId, rules.parseUuid text = some nodeId → (∀ self ∈ identity, self.nodeId ≠ nodeId) →
        (∃ name, payload.getD "node_name" .none = .str name) ∧ IsPort (payload.getD "port" .none)

end

variable {rules : DiscoveryRules} {loads : String → Option JsonValue}
  {identity : Option LocalIdentity} {IsPort : PyValue → Prop} {now : DateTime} {data : Bytes}
  {remoteIp : String} {w : UdpWorld} {fields : List (String × PyValue)} {payload : Dict PyValue}

/-! ### What is read -/

theorem loadPayload_encodeUtf8 {text : String} {value : JsonValue} (h : loads text = some value) :
    loadPayload loads (encodeUtf8 text) = .ok (.ofJson value) := by
  rw [loadPayload, decodeUtf8_eq_some_iff.mpr rfl]
  simp only [h]

theorem announces_iff (h : loadPayload loads data = .ok (.dict fields)) :
    Announces rules loads IsPort data ↔ AnnouncementFields rules IsPort (dictOf fields) := by
  constructor
  · rintro ⟨text, read, rfl, hread, hfields⟩
    rw [loadPayload_encodeUtf8 hread, PyValue.ofJson] at h
    cases h
    exact hfields
  · intro hfields
    rw [loadPayload] at h
    split at h
    · cases h
    · rename_i text htext
      split at h
      · cases h
      · rename_i value hvalue
        cases value with
        | obj read =>
            cases h
            exact ⟨text, read, decodeUtf8_eq_some_iff.mp htext, hvalue, hfields⟩
        | _ => cases h

theorem not_complete_iff : ¬Complete payload ↔
    (!(payload.getD "node_id" .none).truthy || !(payload.getD "node_name" .none).truthy
      || isNull (payload.getD "port" .none)) = true := by
  rw [Complete, Bool.or_eq_true, Bool.or_eq_true, isNull_iff]
  simp only [Bool.not_eq_true', Bool.not_eq_true, not_and_or, not_not, or_assoc]

theorem readAnnouncement_of_not_complete (h : ¬Complete payload) :
    readAnnouncement rules payload remoteIp = .ok none := if_pos (not_complete_iff.mp h)

/-- A node id that is no text raises what nothing catches. -/
theorem readAnnouncement_raises (rules : DiscoveryRules) (remoteIp : String) (h : Complete payload)
    (hid : ∀ text, payload.getD "node_id" .none ≠ .str text) :
    ∃ typeName name, readAnnouncement rules payload remoteIp
      = .error (.attributeError typeName name) := by
  refine ⟨typeName (payload.getD "node_id" .none), "replace", ?_⟩
  rw [readAnnouncement, if_neg (fun hnot => not_complete_iff.mpr hnot h)]
  have htruthy := h.1
  generalize payload.getD "node_id" .none = nodeId at hid htruthy ⊢
  cases nodeId with
  | none => cases htruthy
  | str text => exact absurd rfl (hid text)
  | _ => rfl

/-- The announcement as far as it is used here. -/
theorem readAnnouncement_of_str (rules : DiscoveryRules) (remoteIp : String) {text : String}
    (h : Complete payload) (hid : payload.getD "node_id" .none = .str text) :
    (rules.parseUuid text = none ∧ readAnnouncement rules payload remoteIp = .error .valueError)
      ∨ ∃ a, rules.parseUuid text = some a.nodeId
        ∧ readAnnouncement rules payload remoteIp = .ok (some a) := by
  rw [readAnnouncement, if_neg (fun hnot => not_complete_iff.mpr hnot h), hid, uuidOf]
  cases hparse : rules.parseUuid text with
  | none => exact Or.inl ⟨rfl, by simp only; rfl⟩
  | some nodeId => exact Or.inr ⟨_, rfl, by simp only; rfl⟩

/-! ### What comes of it -/

theorem datagramReceived_of_loaded (h : loadPayload loads data = .ok (.dict fields)) :
    datagramReceived rules loads identity now data remoteIp w =
      match readAnnouncement rules (dictOf fields) remoteIp with
      | .error fault => if fault.isCaught then .ok w else .error fault
      | .ok none => .ok w
      | .ok (some a) =>
          if identity.any (·.nodeId = a.nodeId) then .ok w
          else .ok { w with tasks := w.tasks ++ [(now, a)], seen := w.seen ++ [a.nodeId] } := by
  rw [datagramReceived, readDatagram, h]
  rfl

theorem handlesDatagram_of_unchanged
    (h : datagramReceived rules loads identity now data remoteIp w = .ok w) :
    HandlesDatagram rules loads identity IsPort now data remoteIp w :=
  ⟨w, h, fun _ => ⟨rfl, rfl⟩⟩

theorem not_handlesDatagram_of_raised {fault : DatagramFault}
    (h : datagramReceived rules loads identity now data remoteIp w = .error fault) :
    ¬HandlesDatagram rules loads identity IsPort now data remoteIp w := by
  rintro ⟨w', hreturned, -⟩
  rw [h] at hreturned
  cases hreturned

/-- A task is started, so there has to be an announcement. -/
theorem handlesDatagram_of_started {a : Announcement}
    (h : datagramReceived rules loads identity now data remoteIp w
      = .ok { w with tasks := w.tasks ++ [(now, a)], seen := w.seen ++ [a.nodeId] }) :
    HandlesDatagram rules loads identity IsPort now data remoteIp w
      ↔ Announces rules loads IsPort data := by
  constructor
  · rintro ⟨w', hreturned, hquiet⟩
    by_contra hnot
    rw [h] at hreturned
    cases hreturned
    simpa using (hquiet hnot).1
  · intro hannounces
    exact ⟨_, h, fun hnot => absurd hannounces hnot⟩

theorem announcementFields_iff {text : String} (h : Complete payload)
    (hid : payload.getD "node_id" .none = .str text) (hparse : (rules.parseUuid text).isSome) :
    AnnouncementFields rules IsPort payload
      ↔ (∃ name, payload.getD "node_name" .none = .str name)
        ∧ IsPort (payload.getD "port" .none) := by
  constructor
  · intro hfields
    obtain ⟨name, hname, -⟩ := hfields.nodeName
    exact ⟨⟨name, hname⟩, hfields.port⟩
  · rintro ⟨⟨name, hname⟩, hport⟩
    refine ⟨⟨text, hid, hparse⟩, ⟨name, hname, ?_⟩, hport⟩
    have htruthy := h.2.1
    rw [hname] at htruthy
    simpa [PyValue.truthy] using htruthy

/-- An announcement is ignored when it is the own one. -/
theorem handlesDatagram_of_read {a : Announcement} (h : loadPayload loads data = .ok (.dict fields))
    (hread : readAnnouncement rules (dictOf fields) remoteIp = .ok (some a)) :
    HandlesDatagram rules loads identity IsPort now data remoteIp w
      ↔ ((∀ self ∈ identity, self.nodeId ≠ a.nodeId) →
        AnnouncementFields rules IsPort (dictOf fields)) := by
  have hreceived : datagramReceived rules loads identity now data remoteIp w = _ :=
    datagramReceived_of_loaded h
  rw [hread] at hreceived
  have hown : identity.any (·.nodeId = a.nodeId) = true ↔ ¬∀ self ∈ identity,
      self.nodeId ≠ a.nodeId := by
    cases identity with
    | none => simp
    | some self => simp
  by_cases hother : ∀ self ∈ identity, self.nodeId ≠ a.nodeId
  · rw [handlesDatagram_of_started (hreceived.trans (if_neg fun hany => hown.mp hany hother)),
      announces_iff h]
    exact ⟨fun hfields _ => hfields, fun hfields => hfields hother⟩
  · refine iff_of_true
      (handlesDatagram_of_unchanged (hreceived.trans (if_pos (hown.mpr hother)))) ?_
    exact fun h => absurd h hother

theorem typed_iff_of_str {text : String} (h : Complete payload)
    (hid : payload.getD "node_id" .none = .str text) :
    Typed rules identity IsPort payload ↔ ∀ nodeId, rules.parseUuid text = some nodeId →
      (∀ self ∈ identity, self.nodeId ≠ nodeId) → AnnouncementFields rules IsPort payload := by
  constructor
  · intro htyped nodeId hparse hother
    obtain ⟨text', hid', hrest⟩ := htyped h
    cases hid.symm.trans hid'
    exact (announcementFields_iff h hid (hparse ▸ rfl)).mpr (hrest nodeId hparse hother)
  · intro hfields _
    refine ⟨text, hid, fun nodeId hparse hother => ?_⟩
    exact (announcementFields_iff h hid (hparse ▸ rfl)).mp (hfields nodeId hparse hother)

theorem handlesDatagram_of_loaded (h : loadPayload loads data = .ok (.dict fields)) :
    HandlesDatagram rules loads identity IsPort now data remoteIp w
      ↔ Typed rules identity IsPort (dictOf fields) := by
  have hreceived : datagramReceived rules loads identity now data remoteIp w = _ :=
    datagramReceived_of_loaded h
  by_cases hcomplete : Complete (dictOf fields)
  · by_cases hid : ∀ text, (dictOf fields).getD "node_id" .none ≠ .str text
    · obtain ⟨typeName, name, hraised⟩ := readAnnouncement_raises rules remoteIp hcomplete hid
      rw [hraised] at hreceived
      refine iff_of_false (not_handlesDatagram_of_raised hreceived) fun htyped => ?_
      obtain ⟨text, htext, -⟩ := htyped hcomplete
      exact hid text htext
    · obtain ⟨text, hid⟩ := not_forall_not.mp hid
      rw [typed_iff_of_str hcomplete hid]
      rcases readAnnouncement_of_str rules remoteIp hcomplete hid with ⟨hparse, hread⟩
        | ⟨a, hparse, hread⟩
      · rw [hread] at hreceived
        rw [hparse]
        exact iff_of_true (handlesDatagram_of_unchanged hreceived) nofun
      · rw [handlesDatagram_of_read h hread, hparse]
        simp only [Option.some.injEq, forall_eq']
  · rw [readAnnouncement_of_not_complete hcomplete] at hreceived
    exact iff_of_true (handlesDatagram_of_unchanged hreceived) fun h => absurd h hcomplete

/-- What is no object raises. -/
theorem not_handlesDatagram_of_bare {value : PyValue} (h : loadPayload loads data = .ok value)
    (hbare : ∀ fields, value ≠ .dict fields) :
    ¬HandlesDatagram rules loads identity IsPort now data remoteIp w := by
  have hread : readDatagram rules loads data remoteIp
      = .error (.attributeError (typeName value) "get") := by
    rw [readDatagram, h]
    cases value with
    | dict fields => exact absurd rfl (hbare fields)
    | _ => rfl
  exact not_handlesDatagram_of_raised (by rw [datagramReceived, hread]; rfl)

theorem isCaught_of_loadPayload {fault : DatagramFault}
    (h : loadPayload loads data = .error fault) :
    fault.isCaught = true := by
  rw [loadPayload] at h
  split at h
  · cases h
    rfl
  · split at h
    · cases h
      rfl
    · cases h

/-- **Packets.** A packet is dealt with exactly when it holds no JSON at all, or an object whose
fields are typed as far as they are looked at. -/
theorem handlesDatagram_iff (rules : DiscoveryRules) (loads : String → Option JsonValue)
    (identity : Option LocalIdentity) (IsPort : PyValue → Prop) (now : DateTime)
    (data : Bytes) (remoteIp : String) (w : UdpWorld) :
    HandlesDatagram rules loads identity IsPort now data remoteIp w
      ↔ ∀ value, loadPayload loads data = .ok value →
          ∃ fields, value = .dict fields ∧ Typed rules identity IsPort (dictOf fields) := by
  cases hload : loadPayload loads data with
  | error fault =>
      have hread : readDatagram rules loads data remoteIp = .error fault := by
        rw [readDatagram, hload]
        rfl
      refine iff_of_true (handlesDatagram_of_unchanged ?_) ?_
      · rw [datagramReceived, hread]
        exact if_pos (isCaught_of_loadPayload hload)
      · intro value hvalue
        cases hvalue
  | ok value =>
      simp only [Except.ok.injEq, forall_eq']
      by_cases hobject : ∃ fields, value = .dict fields
      · obtain ⟨fields, rfl⟩ := hobject
        rw [handlesDatagram_of_loaded hload]
        simp only [PyValue.dict.injEq, exists_eq_left']
      · refine iff_of_false (not_handlesDatagram_of_bare hload fun fields h =>
          hobject ⟨fields, h⟩) ?_
        rintro ⟨fields, hfields, -⟩
        exact hobject ⟨fields, hfields⟩

/-! ### Packets that are not dealt with -/

def packetRules : DiscoveryRules where
  parseUuid s := if s = "00000000-0000-0000-0000-000000000002" then some s else none
  validatePort
    | .int port => some (.int port)
    | _ => none
  differs _ _ := false
  expired _ _ := false

/-- A packet in which the name is a number. -/
def numberedPacket : String :=
  "\x7b\"node_id\":\"00000000-0000-0000-0000-000000000002\",\"node_name\":5,\"port\":54321\x7d"

/-- What `json.loads` makes of this packet and of an empty list. -/
def packetTexts (text : String) : Option JsonValue :=
  if text = "[]" then some (.arr [])
  else if text = numberedPacket then
    some (.obj [("node_id", .str "00000000-0000-0000-0000-000000000002"), ("node_name", .int 5),
      ("port", .int 54321)])
  else none

/-- A list raises, and a number is taken for a name. -/
theorem packets_not_handled :
    ¬HandlesDatagram packetRules packetTexts none (∃ n, · = .int n) .epoch
      (encodeUtf8 "[]") "10.0.0.7" {}
      ∧ ¬HandlesDatagram packetRules packetTexts none (∃ n, · = .int n) .epoch
        (encodeUtf8 numberedPacket)
        "10.0.0.7" {} := by
  constructor
  · exact not_handlesDatagram_of_bare (loadPayload_encodeUtf8 rfl) nofun
  · have hload : loadPayload packetTexts (encodeUtf8 numberedPacket) = _ :=
      loadPayload_encodeUtf8 rfl
    rw [handlesDatagram_of_loaded hload]
    intro htyped
    obtain ⟨text, htext, hrest⟩ := htyped ⟨rfl, rfl, nofun⟩
    obtain ⟨⟨name, hname⟩, -⟩ := hrest text (by cases htext; rfl) nofun
    cases hname

end UdpWorld

end Shyam
