import CanisterGateway.Gateway.Outbound
import CanisterGateway.Proofs.HeaderGroups
import CanisterGateway.Proofs.Utf8

/-!
# Headers on their way to a canister and back

A canister sees header values as texts, so a value that is not UTF-8 is repaired on the way to it:
what cannot be read is replaced. What is repaired is still a header value, for replacing puts no
control character into it, and is not repaired a second time. So a canister that answers with the
headers of the request always has an answer that can be served, and the client finds in it what it
sent, but for the repairs.

## Main results

* `HeaderValue.repaired_of_text` — a value that is UTF-8 is not repaired.
* `echo_headers` — what a client gets back from a canister that answers with its headers.
-/

namespace CanisterGateway.Http.HeaderValue

open Bytes.Utf8

/-- The UTF-8 form of the text that a canister sees in place of the value. -/
def repaired (value : HeaderValue) : HeaderValue where
  bytes := Bytes.ofText (decodeLossy value.bytes)
  all_isValueByte := by
    rw [List.all_eq_true]
    intro b hb
    rcases mem_ofText_decodeLossy hb with hOld | hReplacement
    · exact List.all_eq_true.mp value.all_isValueByte b hOld
    · have hAll : (String.utf8EncodeChar replacement).all isValueByte = true := by decide
      exact List.all_eq_true.mp hAll b hReplacement

/-- A value in UTF-8 needs no repair. -/
theorem repaired_of_text {value : HeaderValue} (h : ∃ text, value.bytes = Bytes.ofText text) :
    value.repaired = value := by
  obtain ⟨bytes, hAll⟩ := value
  obtain ⟨text, rfl⟩ := h
  simp only [repaired, decodeLossy_ofText]

end CanisterGateway.Http.HeaderValue

namespace CanisterGateway.Gateway

open Http

/-! ## One header -/

/-- What a canister is told of a value, it is told of the repaired value. -/
theorem header_repaired (field : HeaderField) :
    Canister.Request.header (field.1, field.2.repaired) = Canister.Request.header field := by
  rw [Canister.Request.header, HeaderValue.repaired, Bytes.Utf8.decodeLossy_ofText]
  rfl

/-! ## All headers -/

/-- What a canister is told of headers, sent back, is the headers with their values repaired. -/
theorem map_rawField_header (headers : HeaderMap) :
    (headers.toList.map Canister.Request.header).map rawField =
      (headers.mapValues HeaderValue.repaired).written := by
  rw [HeaderMap.written, HeaderMap.toList_mapValues, List.map_map, List.map_map]
  rfl

theorem map_header_mapValues_repaired (headers : HeaderMap) :
    (headers.mapValues HeaderValue.repaired).toList.map Canister.Request.header =
      headers.toList.map Canister.Request.header := by
  rw [HeaderMap.toList_mapValues, List.map_map]
  exact List.map_congr_left fun field _ => header_repaired field

/-- An admissible status and the written fields of a map that was built make a response. -/
theorem ofCanister_eq_ok {response : Canister.Response} {status : Status} {headers : HeaderMap}
    (hStatus : Status.ofNat? response.statusCode.toNat = some status)
    (hHeaders : response.headers.map rawField = headers.written) (hBuilt : headers.Built) :
    Outbound.ofCanister response =
      .ok ⟨⟨status, headers, response.body⟩, response.streaming?⟩ := by
  rw [Outbound.ofCanister, hStatus, hHeaders, hBuilt.addFields_written]

/--
**Headers come back as they were sent.** Of any request that can be built, with any names, any
repetitions in any order and any admissible values, a canister that answers with the headers that
it is told is served, whatever the status and the rest of its answer are. Then

* status, body and the callback for the rest of the body are the canister's;
* the fields of the response, in the order of iteration, are those that the canister was told;
* they are the request's own, but for the repairs, and values that are UTF-8 are not repaired;
* the same request with the fields of the response can be built, and a canister is told the same of
  any request that has them.
-/
theorem echo_headers {method : String} {target content : Bytes} {fields : List RawField}
    {request : Http.Request} (hBuild : Http.Request.build method target fields content = .ok request)
    (version : UInt16) {code : UInt16} (hCode : 100 ≤ code.toNat ∧ code.toNat ≤ 999) (body : Bytes)
    (upgrade? : Option Bool) (streaming? : Option Canister.Streaming) :
    let told := (Canister.Request.ofHttp request version).headers
    ∃ outbound, Outbound.ofCanister ⟨code, told, body, upgrade?, streaming?⟩ = .ok outbound ∧
      outbound.response.status.code = code.toNat ∧ outbound.response.body = body ∧
      outbound.streaming? = streaming? ∧
      outbound.response.headers.written = told.map rawField ∧
      outbound.response.headers.toList =
        request.headers.toList.map (fun field => (field.1, field.2.repaired)) ∧
      (∀ field ∈ request.headers.toList, (∃ text, field.2.bytes = Bytes.ofText text) →
        field.2.repaired = field.2) ∧
      ((∀ field ∈ request.headers.toList, ∃ text, field.2.bytes = Bytes.ofText text) →
        outbound.response.headers = request.headers) ∧
      Http.Request.build method target outbound.response.headers.written content =
        .ok { request with headers := outbound.response.headers } ∧
      ∀ again version', again.headers = outbound.response.headers →
        (Canister.Request.ofHttp again version').headers = told := by
  intro told
  obtain ⟨hMethod, hTarget, hHeaders, hContent⟩ := Request.build_eq_ok_iff.mp hBuild
  have hBuilt := (HeaderMap.built_of_addFields hHeaders).mapValues HeaderValue.repaired
  have hStatus : Status.ofNat? code.toNat = some ⟨code.toNat, hCode.1, Nat.lt_succ_of_le hCode.2⟩ :=
    dif_pos ⟨hCode.1, Nat.lt_succ_of_le hCode.2⟩
  have hTold : told.map rawField = (request.headers.mapValues HeaderValue.repaired).written :=
    map_rawField_header request.headers
  refine ⟨_, ofCanister_eq_ok hStatus hTold hBuilt, rfl, rfl, rfl, hTold.symm, ?_, ?_, ?_, ?_, ?_⟩
  · exact HeaderMap.toList_mapValues HeaderValue.repaired request.headers
  · intro field _ hText
    exact HeaderValue.repaired_of_text hText
  · intro hText
    exact HeaderMap.mapValues_eq_self fun field hField =>
      HeaderValue.repaired_of_text (hText field hField)
  · exact Request.build_eq_ok_iff.mpr ⟨hMethod, hTarget, hBuilt.addFields_written, hContent⟩
  · intro again version' hAgain
    show again.headers.toList.map Canister.Request.header = told
    rw [hAgain]
    exact map_header_mapValues_repaired request.headers

/-- A name in two spellings around another name, and a value that has to be repaired. -/
theorem echo_headers_of_repeated :
    ∃ request outbound,
      Http.Request.build "GET" (Bytes.ofText "/")
        [("X-Mark", [102, 255]), ("accept", [42]), ("x-mark", [103])] [] = .ok request ∧
      Outbound.ofCanister ⟨200, (Canister.Request.ofHttp request 2).headers, [112], none, none⟩ =
        .ok outbound ∧
      outbound.response.headers.written =
        [("x-mark", [102, 239, 191, 189]), ("x-mark", [103]), ("accept", [42])] := by
  have hBuild : ∃ request, Http.Request.build "GET" (Bytes.ofText "/")
      [("X-Mark", [102, 255]), ("accept", [42]), ("x-mark", [103])] [] = .ok request ∧
      (Canister.Request.ofHttp request 2).headers.map rawField =
        [("x-mark", [102, 239, 191, 189]), ("x-mark", [103]), ("accept", [42])] := by
    refine ⟨_, rfl, ?_⟩
    decide +kernel
  obtain ⟨request, hRequest, hTold⟩ := hBuild
  have hCode : 100 ≤ (200 : UInt16).toNat ∧ (200 : UInt16).toNat ≤ 999 := by decide
  obtain ⟨outbound, hServed, -, -, -, hWritten, -⟩ :=
    echo_headers hRequest 2 hCode [112] none none
  exact ⟨request, outbound, hRequest, hServed, hWritten.trans hTold⟩

end CanisterGateway.Gateway
