import Shyam.Lib.JsonRoundTrip
import Shyam.Proof.ZaryaWire
import Shyam.Providers.FluxRequests

/-!
# The client of Flux and the wire

What the gateway says of a transfer comes back as it was sent. A transfer that the client reports
rests on one POST that named the peer and the artifact, and on an answer to it.
-/

namespace Shyam

open Python

namespace FluxGateway

open Eip1 (HttpRequest HttpAnswer Texts loads_dumped encodeUtf8_dumps_ne_nil)

variable {texts : Texts} {lower : String → String} {client : FluxClient}
  {network : HttpRequest → HttpAnswer} {method path : String} {data : Option PyValue}
  {request : HttpRequest} {value : JsonValue} {format : JsonFormat} {α : Type}
  {read : JsonValue → Option α} {model : String} {a : α}

theorem request_of_prepared (hprepared : client.prepare method path data = .ok request) :
    client.request texts lower network method path data
      = client.receive texts lower (network request) := by
  rw [FluxClient.request, hprepared]
  rfl

theorem receive_answered (hvalue : value.Readable texts.lib.floatRepr) :
    client.receive texts lower (.answered (encodeUtf8 (value.dumps format))) = .ok value := by
  cases hbody : encodeUtf8 (value.dumps format) with
  | nil => exact absurd hbody (encodeUtf8_dumps_ne_nil hvalue)
  | cons b bs =>
      have hloads : texts.lib.loads (encodeUtf8 (value.dumps format)) = .ok value :=
        loads_dumped hvalue
      rw [hbody] at hloads
      rw [FluxClient.receive, hloads]
      · rfl
      · exact List.cons_ne_nil b bs

theorem validated_eq_ok {answer : Except Exc JsonValue} :
    validated texts model read answer = .ok a ↔ ∃ value,
      answer = .ok value ∧ read value = some a := by
  rw [validated, Checks.bind_eq_ok_iff]
  refine exists_congr fun value => and_congr_right fun _ => ?_
  cases read value with
  | none => exact iff_of_false (fun h => by cases h) (fun h => by cases h)
  | some v => simp only [Except.ok.injEq, Option.some.injEq]

/-- A model that reads its own JSON form reads it off the wire. -/
theorem validated_answered (hread : read value = some a)
    (hprepared : client.prepare method path data = .ok request)
    (hvalue : value.Readable texts.lib.floatRepr)
    (hanswer : network request = .answered (encodeUtf8 (value.dumps format))) :
    validated texts model read (client.request texts lower network method path data) = .ok a := by
  rw [request_of_prepared hprepared, hanswer, receive_answered hvalue]
  exact validated_eq_ok.mpr ⟨value, rfl, hread⟩

/-- What is validated was answered, where an empty body stands for an empty object. -/
theorem answered_of_validated
    (h : validated texts model read (client.request texts lower network method path data) = .ok a) :
    ∃ request body value, client.prepare method path data = .ok request
      ∧ network request = .answered body
      ∧ (body = [] ∧ value = .obj [] ∨ texts.lib.loads body = .ok value) ∧ read value = some a := by
  obtain ⟨value, h, hread⟩ := validated_eq_ok.mp h
  cases hprepared : client.prepare method path data with
  | error exc =>
      rw [FluxClient.request, hprepared] at h
      cases h
  | ok request =>
      rw [request_of_prepared hprepared] at h
      cases hanswer : network request with
      | httpError status reason body | urlError reason | raised exc | notAUrl exc =>
          rw [hanswer] at h
          cases h
      | answered body =>
          rw [hanswer] at h
          cases body with
          | nil =>
              cases h
              exact ⟨request, [], .obj [], rfl, hanswer, .inl ⟨rfl, rfl⟩, hread⟩
          | cons b bs =>
              change (texts.lib.loads (b :: bs)).mapError _ = _ at h
              cases hloads : texts.lib.loads (b :: bs) with
              | error exc =>
                  rw [hloads] at h
                  cases h
              | ok loaded =>
                  rw [hloads] at h
                  cases h
                  exact ⟨request, b :: bs, value, rfl, hanswer, .inr hloads, hread⟩

/-! ### What the gateway sends -/

def ofOptional : Option String → JsonValue
  | some s => .str s
  | none => .null

def transferAnswer (resp : FluxTransferResponse) : JsonValue :=
  .obj [("transfer_id", .str resp.transferId), ("status", .str resp.status.value)]

def statusAnswer (resp : FluxTransferStatusResponse) : JsonValue :=
  .obj
    [("transfer_id", .str resp.transferId), ("peer_id", .str resp.peerId),
      ("status", .str resp.status.value), ("bytes_transferred", .int resp.bytesTransferred),
      ("total_bytes", .int resp.totalBytes),
      ("files_transferred", .int resp.filesTransferred), ("total_files", .int resp.totalFiles),
      ("error_message", ofOptional resp.errorMessage)]

def cancelAnswer (resp : FluxCancelResponse) : JsonValue :=
  .obj [("transfer_id", .str resp.transferId), ("cancelled", .bool resp.cancelled)]

theorem asOptional_ofOptional (s : Option String) :
    JsonValue.asOptional JsonValue.asStr (ofOptional s) = some s := by
  cases s <;> rfl

theorem readTransfer_answer (resp : FluxTransferResponse) :
    readTransfer (transferAnswer resp) = some resp := by
  simp [readTransfer, transferAnswer, JsonValue.field, JsonValue.asDict, JsonValue.asStr, asStatus,
    List.lookup_cons, FluxTransferStatus.ofValue?_value]

theorem readTransferStatus_answer {asInt : JsonValue → Option ℤ}
    (hint : ∀ i, asInt (.int i) = some i) (resp : FluxTransferStatusResponse) :
    readTransferStatus asInt (statusAnswer resp) = some resp := by
  simp [readTransferStatus, statusAnswer, JsonValue.field, JsonValue.asDict, JsonValue.asStr,
    asStatus, List.lookup_cons, FluxTransferStatus.ofValue?_value, hint, asOptional_ofOptional]

theorem readCancel_answer (resp : FluxCancelResponse) :
    readCancel (cancelAnswer resp) = some resp := by
  simp [readCancel, cancelAnswer, JsonValue.field, JsonValue.asDict, JsonValue.asStr,
    JsonValue.asBool, List.lookup_cons]

theorem plain_ofOptional (s : Option String) : (ofOptional s).Plain := by
  cases s with
  | none => exact .null
  | some s => exact .str s

theorem plain_transferAnswer (resp : FluxTransferResponse) : (transferAnswer resp).Plain := by
  refine .obj (by simp) ?_
  simp only [List.forall_mem_cons]
  exact ⟨.str _, .str _, by simp⟩

theorem plain_statusAnswer (resp : FluxTransferStatusResponse) : (statusAnswer resp).Plain := by
  refine .obj (by simp) ?_
  simp only [List.forall_mem_cons]
  exact ⟨.str _, .str _, .str _, .int _, .int _, .int _, .int _, plain_ofOptional _, by simp⟩

theorem plain_cancelAnswer (resp : FluxCancelResponse) : (cancelAnswer resp).Plain := by
  refine .obj (by simp) ?_
  simp only [List.forall_mem_cons]
  exact ⟨.str _, .bool _, by simp⟩

/-- **Transfers come back whole.** Whatever the gateway says of a transfer, in whatever format, is
what the operation returns: for a new transfer, for its progress and for its cancellation. -/
theorem transfers_returned (client : FluxClient) (texts : Texts) (lower : String → String)
    {asInt : JsonValue → Option ℤ} (hint : ∀ i, asInt (.int i) = some i) (format : JsonFormat) :
    (∀ peerId artifactPath resp request network,
        client.prepare "POST" "/transfer" (some (FluxClient.transferBody peerId artifactPath))
          = .ok request →
        network request = .answered (encodeUtf8 ((transferAnswer resp).dumps format)) →
        client.transfer texts lower network true peerId artifactPath = .ok resp)
      ∧ (∀ transferId resp request network,
        client.prepare "GET" ("/transfer/" ++ transferId) none = .ok request →
        network request = .answered (encodeUtf8 ((statusAnswer resp).dumps format)) →
        client.getTransferStatus texts lower asInt network transferId = .ok resp)
      ∧ ∀ transferId resp request network,
        client.prepare "POST" ("/transfer/" ++ transferId ++ "/cancel") none = .ok request →
        network request = .answered (encodeUtf8 ((cancelAnswer resp).dumps format)) →
        client.cancelTransfer texts lower network transferId = .ok resp := by
  refine ⟨?_, ?_, ?_⟩
  · intro peerId artifactPath resp request network hprepared hanswer
    exact validated_answered (readTransfer_answer resp) hprepared
      ((plain_transferAnswer resp).readable _) hanswer
  · intro transferId resp request network hprepared hanswer
    exact validated_answered (readTransferStatus_answer hint resp) hprepared
      ((plain_statusAnswer resp).readable _)
      hanswer
  · intro transferId resp request network hprepared hanswer
    exact validated_answered (readCancel_answer resp) hprepared
      ((plain_cancelAnswer resp).readable _) hanswer

def localGateway : FluxClient := .new "http://127.0.0.1:9100/flux/v1"

def halfDone : FluxTransferStatusResponse := ⟨"t", "p", .running, 512, 1024, 0, 1, none⟩

/-- The progress of a transfer that is half done. -/
theorem transfers_returned_progress :
    localGateway.getTransferStatus Eip1.plainTexts id (fun | .int i => some i | _ => none)
        (fun _ => .answered (encodeUtf8 ((statusAnswer halfDone).dumps .compact))) "t"
          = .ok halfDone :=
  (transfers_returned localGateway Eip1.plainTexts id (fun _ => rfl) .compact).2.1 "t" halfDone
    ⟨"GET", "http://127.0.0.1:9100/flux/v1/transfer/t",
      [("Content-Type", "application/json"), ("Accept", "application/json")], none⟩ _ rfl rfl

/-! ### One transfer -/

/-- The response is read from what the gateway answers to one POST. -/
structure Exchange (client : FluxClient) (texts : Texts) (peerId artifactPath : String)
    (resp : FluxTransferResponse) (request : HttpRequest) (body : Bytes) : Prop where
  prepared : client.prepare "POST" "/transfer" (some (FluxClient.transferBody peerId artifactPath))
    = .ok request
  read : ∃ value, texts.lib.loads body = .ok value ∧ readTransfer value = some resp

theorem exchange_of_transfer {isConnected : Bool} {peerId artifactPath : String}
    {resp : FluxTransferResponse}
    (h : client.transfer texts lower network isConnected peerId artifactPath = .ok resp) :
    isConnected = true ∧ ∃ request body, network request = .answered body
      ∧ Exchange client texts peerId artifactPath resp request body := by
  rw [FluxClient.transfer, FluxClient.whileConnected] at h
  split_ifs at h with hconnected
  obtain ⟨request, body, value, hprepared, hanswer, hvalue, hread⟩ := answered_of_validated h
  obtain ⟨-, rfl⟩ | hloads := hvalue
  · cases hread
  · exact ⟨hconnected, request, body, hanswer, hprepared, value, hloads, hread⟩

end FluxGateway

end Shyam
