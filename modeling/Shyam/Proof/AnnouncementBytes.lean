import Shyam.Discovery.Broadcasts
import Shyam.Proof.DatagramTotality
import Shyam.Proof.UdpLiveness

/-!
# The bytes of an announcement

What one host announces every other host reads as just that, whatever the metadata is that comes
with it.
-/

namespace Shyam

open Python

namespace DiscoveryService

variable {rules : DiscoveryRules} {floatRepr : String → String} {identity : LocalIdentity}
  {port : ℤ} {provided : Option (Except Exc PyValue)} {metadata : JsonValue}

/-! ### On the wire -/

def announcementJson (identity : LocalIdentity) (port : ℤ) (metadata : JsonValue) : JsonValue :=
  .obj
    [("node_id", .str identity.nodeId), ("node_name", .str identity.nodeName), ("port", .int port),
      ("protocol_version", .str identity.protocolVersion), ("metadata", metadata)]

theorem nodup_announcementKeys :
    ["node_id", "node_name", "port", "protocol_version", "metadata"].Nodup := by decide

theorem readable_announcementJson (identity : LocalIdentity) (port : ℤ)
    (hmetadata : metadata.Readable floatRepr) :
    (announcementJson identity port metadata).Readable floatRepr := by
  refine .obj nodup_announcementKeys fun f hf => ?_
  simp only [List.mem_cons, List.not_mem_nil, or_false] at hf
  rcases hf with rfl | rfl | rfl | rfl | rfl
  · exact .str _
  · exact .str _
  · exact .int _
  · exact .str _
  · exact hmetadata

theorem announcement_eq (hjson : (extraMeta provided).toJson = .ok metadata) :
    announcement identity port provided
      = .ok (encodeUtf8 ((announcementJson identity port metadata).dumps .default)) := by
  have hpayload : (announcementPayload identity port (extraMeta provided)).toJson
      = .ok (announcementJson identity port metadata) := by
    simp only [announcementPayload, PyValue.toJson, PyValue.fieldsToJson,
      PyValue.fieldToJson, hjson]
    rfl
  rw [announcement, hpayload]
  rfl

def announcementEntries (identity : LocalIdentity) (port : ℤ) (metadata : JsonValue) :
    List (String × PyValue) :=
  [("node_id", .str identity.nodeId), ("node_name", .str identity.nodeName), ("port", .int port),
    ("protocol_version", .str identity.protocolVersion), ("metadata", .ofJson metadata)]

theorem getD_announcementFields (identity : LocalIdentity) (port : ℤ)
    (metadata : JsonValue) (default : PyValue) {key : String} {value : PyValue}
    (h : (key, value) ∈ announcementEntries identity port metadata) :
    (dictOf (announcementEntries identity port metadata)).getD key default = value := by
  have hentries : (dictOf (announcementEntries identity port metadata)).entries
      = announcementEntries identity port metadata := entries_fieldsOf nodup_announcementKeys
  rw [Dict.getD, Dict.get?_eq_some_iff.mpr (hentries.symm ▸ h)]
  rfl

/-- What is read of an announcement. -/
def readBack (identity : LocalIdentity) (port : ℤ) (metadata : JsonValue)
    (remoteIp : String) : Announcement where
  nodeId := identity.nodeId
  nodeName := .str identity.nodeName
  address := remoteIp
  port := .int port
  protocolVersion := .str identity.protocolVersion
  metadata := .ofJson metadata

theorem readDatagram_announcement (hreadable : metadata.Readable floatRepr)
    (hid : rules.parseUuid identity.nodeId = some identity.nodeId) (hne : identity.nodeId ≠ "")
    (remoteIp : String) :
    readDatagram rules (JsonValue.loads floatRepr)
        (encodeUtf8 ((announcementJson identity port metadata).dumps .default)) remoteIp
      = .ok (if identity.nodeName = "" then none
        else some (readBack identity port metadata remoteIp)) := by
  have hload := UdpWorld.loadPayload_encodeUtf8
    (loads_dumps .default (readable_announcementJson identity port hreadable))
  have hjson : PyValue.ofJson (announcementJson identity port metadata)
      = .dict (announcementEntries identity port metadata) := rfl
  have hread : readDatagram rules (JsonValue.loads floatRepr)
      (encodeUtf8 ((announcementJson identity port metadata).dumps .default)) remoteIp
        = readAnnouncement rules (dictOf (announcementEntries identity port metadata))
          remoteIp := by
    rw [readDatagram, hload, hjson]
    generalize announcementEntries identity port metadata = entries
    rfl
  have hnodeId := getD_announcementFields identity port metadata .none List.mem_cons_self
  have hnodeName := getD_announcementFields identity port metadata .none
    (List.mem_cons_of_mem _ List.mem_cons_self)
  have hport := getD_announcementFields identity port metadata .none
    (List.mem_cons_of_mem _ (List.mem_cons_of_mem _ List.mem_cons_self))
  have hversion := getD_announcementFields identity port metadata (.str "0.2.0")
    (List.mem_cons_of_mem _ (List.mem_cons_of_mem _ (List.mem_cons_of_mem _ List.mem_cons_self)))
  have hmetadata := getD_announcementFields identity port metadata (.dict [])
    (List.mem_cons_of_mem _ (List.mem_cons_of_mem _ (List.mem_cons_of_mem _ (List.mem_cons_of_mem _
      List.mem_cons_self))))
  rw [hread, readAnnouncement, hnodeId, hnodeName, hport, hversion, hmetadata]
  by_cases hname : identity.nodeName = ""
  · simp [PyValue.truthy, hname]
  · simp [PyValue.truthy, hname, hne, isNull, uuidOf, hid, Except.map, readBack]

end DiscoveryService

/-- A task waits for the lock. -/
def UdpWorld.enqueue (now : DateTime) (a : Announcement) (w : UdpWorld) : UdpWorld :=
  { w with
    tasks := w.tasks ++ [(now, a)]
    seen := w.seen ++ [a.nodeId] }

namespace DiscoveryService

/-- How a host takes what the loop sends. -/
theorem datagramReceived_announcement (hreadable : metadata.Readable floatRepr)
    (hid : rules.parseUuid identity.nodeId = some identity.nodeId) (hne : identity.nodeId ≠ "")
    (receiver : LocalIdentity) (now : DateTime) (remoteIp : String) (w : UdpWorld) :
    UdpWorld.datagramReceived rules (JsonValue.loads floatRepr) (some receiver) now
        (encodeUtf8 ((announcementJson identity port metadata).dumps .default)) remoteIp w
      = .ok (if identity.nodeName = "" ∨ receiver.nodeId = identity.nodeId then w
        else w.enqueue now (readBack identity port metadata remoteIp)) := by
  rw [UdpWorld.datagramReceived, readDatagram_announcement hreadable hid hne]
  by_cases hname : identity.nodeName = ""
  · rw [if_pos hname, if_pos (Or.inl hname)]
  · by_cases hself : receiver.nodeId = identity.nodeId
    · rw [if_neg hname, if_pos (Or.inr hself)]
      exact if_pos (decide_eq_true hself)
    · rw [if_neg hname, if_neg (not_or.mpr ⟨hname, hself⟩)]
      exact if_neg fun h => hself (of_decide_eq_true h)

/-- **Announcements.** What the loop sends is taken by every other host for just what was announced,
and by the sender for nothing. A node without a name is not heard of. -/
theorem announcement_received (rules : DiscoveryRules) (floatRepr : String → String)
    {identity : LocalIdentity} (port : ℤ) {provided : Option (Except Exc PyValue)}
    {metadata : JsonValue} (hjson : (extraMeta provided).toJson = .ok metadata)
    (hreadable : metadata.Readable floatRepr)
    (hid : rules.parseUuid identity.nodeId = some identity.nodeId) (hne : identity.nodeId ≠ "") :
    ∃ data, announcement identity port provided = .ok data
      ∧ ∀ (receiver : LocalIdentity) (now : DateTime) (remoteIp : String) (w : UdpWorld),
        UdpWorld.datagramReceived rules (JsonValue.loads floatRepr)
          (some receiver) now data remoteIp w
          = .ok (if identity.nodeName = "" ∨ receiver.nodeId = identity.nodeId then w
            else w.enqueue now (readBack identity port metadata remoteIp)) :=
  ⟨_, announcement_eq hjson, datagramReceived_announcement hreadable hid hne⟩

def laptopMetadata : List (String × PyValue) :=
  [("zarya_url", .str "http://10.0.0.2:8765/ecosystem/v1"), ("has_zarya", .bool true),
    ("load", .float "0.5")]

def laptopMetadataJson : JsonValue :=
  .obj [("zarya_url", .str "http://10.0.0.2:8765/ecosystem/v1"), ("has_zarya", .bool true),
    ("load", .float "0.5")]

theorem readable_laptopMetadataJson : laptopMetadataJson.Readable id := by
  refine .obj (by decide) fun f hf => ?_
  simp only [List.mem_cons, List.not_mem_nil, or_false] at hf
  rcases hf with rfl | rfl | rfl
  · exact .str _
  · exact .bool _
  · exact .float (List.all_eq_true.mp rfl) (by decide) rfl

theorem announcement_received_laptop :
    ∃ data, announcement ⟨uuidText 2, "laptop", "0.2.0"⟩ 54321 (some (.ok (.dict laptopMetadata)))
      = .ok data
      ∧ ∀ (receiver : LocalIdentity) (now : DateTime) (remoteIp : String) (w : UdpWorld),
        UdpWorld.datagramReceived UdpWorld.laptopRules (JsonValue.loads id)
          (some receiver) now data remoteIp w
          = .ok (if "laptop" = "" ∨ receiver.nodeId = uuidText 2 then w
            else
              w.enqueue now
                (readBack ⟨uuidText 2, "laptop", "0.2.0"⟩ 54321 laptopMetadataJson remoteIp)) :=
  announcement_received UdpWorld.laptopRules id 54321 rfl readable_laptopMetadataJson
    rfl (by decide)

theorem extraMeta_dict (fields : List (String × PyValue)) :
    extraMeta (some (.ok (.dict fields))) = .dict fields := by
  cases fields with
  | nil => rfl
  | cons f fields => rfl

/-- A dictionary of values that have a JSON form has one itself. -/
theorem exists_json_of_values {fields : List (String × PyValue)}
    (hnodup : (fields.map Prod.fst).Nodup)
    (h : ∀ f ∈ fields, ∃ v : JsonValue, v.Plain ∧ PyValue.ofJson v = f.2) :
    ∃ v : JsonValue, v.Plain ∧ PyValue.ofJson v = .dict fields := by
  have hlist : ∃ jsons : List (String × JsonValue), PyValue.ofJsonFields jsons = fields
      ∧ jsons.map Prod.fst = fields.map Prod.fst ∧ ∀ f ∈ jsons, f.2.Plain := by
    clear hnodup
    induction fields with
    | nil => exact ⟨[], rfl, rfl, nofun⟩
    | cons f fields ih =>
        rw [List.forall_mem_cons] at h
        obtain ⟨v, hv, hf⟩ := h.1
        obtain ⟨jsons, hjsons, hkeys, hplain⟩ := ih h.2
        refine ⟨(f.1, v) :: jsons, ?_, ?_, List.forall_mem_cons.mpr ⟨hv, hplain⟩⟩
        · rw [PyValue.ofJsonFields, PyValue.ofJsonField, hjsons, hf]
        · rw [List.map_cons, List.map_cons, hkeys]
  obtain ⟨jsons, hjsons, hkeys, hplain⟩ := hlist
  refine ⟨.obj jsons, .obj (hkeys ▸ hnodup) hplain, ?_⟩
  rw [PyValue.ofJson, hjsons]

end DiscoveryService

/-! ### What a host announces -/

/-- What is a text or a flag. -/
def PyValue.IsSimple (value : PyValue) : Prop := (∃ s, value = .str s) ∨ ∃ b, value = .bool b

theorem PyValue.IsSimple.exists_json {value : PyValue} (h : PyValue.IsSimple value) :
    ∃ v : JsonValue, v.Plain ∧ PyValue.ofJson v = value := by
  obtain ⟨s, rfl⟩ | ⟨b, rfl⟩ := h
  · exact ⟨.str s, .str s, rfl⟩
  · exact ⟨.bool b, .bool b, rfl⟩

namespace DiscoveryHost

variable {host : DiscoveryHost} {around : Surroundings}

theorem isSimple_set {d : Dict PyValue} {key : String} {value : PyValue}
    (h : ∀ k v, d.get? k = some v → PyValue.IsSimple v) (hvalue : PyValue.IsSimple value) :
    ∀ k v, (d.set key value).get? k = some v → PyValue.IsSimple v := by
  intro k v hv
  rw [Dict.get?_set] at hv
  split_ifs at hv
  · exact Option.some.inj hv ▸ hvalue
  · exact h k v hv

theorem isSimple_metadata (host : DiscoveryHost) (around : Surroundings) :
    ∀ k v, (host.metadata around).get? k = some v → PyValue.IsSimple v := by
  have hempty : ∀ k v, (∅ : Dict PyValue).get? k = some v → PyValue.IsSimple v := fun k v hv => by
    rw [Dict.get?_empty] at hv
    cases hv
  have hstr (s : String) : PyValue.IsSimple (.str s) := Or.inl ⟨s, rfl⟩
  have hzarya : ∀ k v, (if host.settings.zaryaEnabled = true ∧ host.settings.zaryaUrl ≠ "" then
      ((∅ : Dict PyValue).set "zarya_url"
        (.str (resolveLanUrl around.lanIp host.settings.zaryaUrl))).set "has_zarya"
        (.bool true)
      else ∅).get? k = some v → PyValue.IsSimple v := by
    split_ifs
    · exact isSimple_set (isSimple_set hempty (hstr _)) (Or.inr ⟨true, rfl⟩)
    · exact hempty
  unfold metadata getDiscoveryMetadata
  dsimp only
  generalize (if host.settings.zaryaEnabled = true ∧ host.settings.zaryaUrl ≠ "" then _
    else (∅ : Dict PyValue)) = zarya
    at hzarya ⊢
  by_cases hflux : host.settings.fluxEnabled = true ∧ host.settings.fluxUrl ≠ ""
  · rw [if_pos hflux]
    split
    · split_ifs
      · exact isSimple_set (isSimple_set hzarya (hstr _)) (hstr _)
      · exact isSimple_set hzarya (hstr _)
    · exact isSimple_set hzarya (hstr _)
  · rw [if_neg hflux]
    exact hzarya

theorem exists_metadata (host : DiscoveryHost) (around : Surroundings) :
    ∃ v : JsonValue, v.Plain ∧ PyValue.ofJson v = .dict (host.metadata around).entries :=
  DiscoveryService.exists_json_of_values (host.metadata around).nodup fun f hf =>
    (isSimple_metadata host around f.1 f.2 (Dict.get?_eq_some_iff.mpr hf)).exists_json

/-- What the standard library makes of the ids and the ports of the hosts. -/
structure Recognized {ι : Type} (rules : DiscoveryRules) (hosts : ι → DiscoveryHost) : Prop where
  uuid : ∀ i, rules.parseUuid (hosts i).identity.nodeId = some (hosts i).identity.nodeId
  nonempty : ∀ i, (hosts i).identity.nodeId ≠ ""
  port : ∀ port, rules.validatePort (.int port) = some (.int port)

/-- The packet of a host reaches another host as what it announced. -/
theorem Recognized.received {ι : Type} {rules : DiscoveryRules} {hosts : ι → DiscoveryHost}
    (h : Recognized rules hosts) (floatRepr : String → String) (j : ι) (around : Surroundings) :
    ∃ data, (hosts j).broadcast around = .ok data
      ∧ ∀ (receiver : LocalIdentity) (now : DateTime) (w : UdpWorld),
        UdpWorld.datagramReceived rules (JsonValue.loads floatRepr)
          (some receiver) now data (hosts j).address w = .ok (if (hosts j).identity.nodeName = ""
            ∨ receiver.nodeId = (hosts j).identity.nodeId then w
            else w.enqueue now ((hosts j).announced around)) := by
  obtain ⟨metadata, hplain, hmetadata⟩ := exists_metadata (hosts j) around
  have hjson :
    (DiscoveryService.extraMeta (some (.ok (.dict ((hosts j).metadata around).entries)))).toJson
      = .ok metadata := by
    rw [DiscoveryService.extraMeta_dict, ← hmetadata, PyValue.toJson_ofJson]
  refine ⟨_, DiscoveryService.announcement_eq hjson, fun receiver now w => ?_⟩
  rw [DiscoveryService.datagramReceived_announcement (hplain.readable floatRepr) (h.uuid j)
    (h.nonempty j), DiscoveryService.readBack, hmetadata]
  rfl

end DiscoveryHost

end Shyam
