import CanisterGateway.Canister.Message
import CanisterGateway.Proofs.FieldOrder
import CanisterGateway.Proofs.Utf8

/-!
# What a canister is told of the fields of a request

Between the fields that arrive and the headers that a canister is told stands a header map. It
gathers the fields of each name at the place of the first of them, and changes nothing else: so a
canister is told the arriving order if and only if no name is interrupted by another.

Method and body have no such detour.

## Main results

* `headers_ofHttp_of_build` — the headers that are told, from the fields that arrive.
* `told_fields_of_build` — what that keeps of the fields, and what else is told unchanged.
-/

namespace CanisterGateway.Canister

open Http

/-- What a canister is told of a written field: the name in lower case and the value as a text. -/
def told (field : RawField) : Header :=
  (lowerText field.1, Bytes.Utf8.decodeLossy field.2)

/-- A value that is a text is told unchanged. -/
theorem told_ofText (name text : String) :
    told (name, Bytes.ofText text) = (lowerText name, text) := by
  rw [told, Bytes.Utf8.decodeLossy_ofText]

/-- A canister is told the fields of a map as they are written. -/
theorem map_header_eq_map_written (headers : HeaderMap) :
    headers.toList.map Request.header =
      headers.written.map (Prod.map id Bytes.Utf8.decodeLossy) := by
  rw [HeaderMap.written, List.map_map]
  rfl

theorem headers_ofHttp_of_build {method : String} {target content : Bytes}
    {fields : List RawField} {request : Http.Request}
    (hBuild : Http.Request.build method target fields content = .ok request) (version : UInt16) :
    (Request.ofHttp request version).headers = grouped (fields.map told) := by
  obtain ⟨-, -, hHeaders, -⟩ := Request.build_eq_ok_iff.mp hBuild
  have hTold : fields.map told =
      (fields.map HeaderMap.lowered).map (Prod.map id Bytes.Utf8.decodeLossy) := by
    rw [List.map_map]
    rfl
  rw [hTold, grouped_map Function.injective_id, ← HeaderMap.written_of_addFields hHeaders]
  exact map_header_eq_map_written request.headers

/-- Method and body can be any others: neither depends on the rest of the request. -/
theorem exists_build_of_build {method : String} {target content : Bytes}
    {fields : List RawField} {request : Http.Request}
    (hBuild : Http.Request.build method target fields content = .ok request)
    {other : String} (hOther : isToken other.toList = true) (body : Bytes) :
    ∃ again, Http.Request.build other target fields body = .ok again ∧
      again.method.text = other ∧ again.body = body := by
  obtain ⟨-, hTarget, hHeaders, -⟩ := Request.build_eq_ok_iff.mp hBuild
  have hRead : Method.ofText? other = some ⟨other.toList, hOther⟩ := dif_pos hOther
  refine ⟨⟨⟨other.toList, hOther⟩, request.target, request.headers, body⟩, ?_, ?_, rfl⟩
  · exact Request.build_eq_ok_iff.mpr ⟨hRead, hTarget, hHeaders, rfl⟩
  · exact Method.text_of_ofText? hRead

/--
**No field is lost, doubled, or moved among the fields of its name.** Of any request that can be
built, whatever its fields are, a canister is told

* its fields name by name, the names in lower case and in the order of their first occurrence, the
  values as texts and in the order of their arrival;
* hence each field that arrived once, the fields of each name in the order in which they arrived,
  and all of them side by side;
* the fields in the order in which they arrived exactly if those of every name did so side by side;
* a value that is a text as that text, and the method and the body as they are. The same fields go
  with every token as a method and with every body.
-/
theorem told_fields_of_build {method : String} {target content : Bytes} {fields : List RawField}
    {request : Http.Request}
    (hBuild : Http.Request.build method target fields content = .ok request) (version : UInt16) :
    let asked := Request.ofHttp request version
    let arrived := fields.map told
    asked.headers =
        ((arrived.map Prod.fst).eraseDups.flatMap fun name =>
          arrived.filter fun field => field.1 = name) ∧
      asked.headers.Perm arrived ∧
      (∀ name, (asked.headers.filter fun field => field.1 = name) =
        arrived.filter fun field => field.1 = name) ∧
      Gathered asked.headers ∧ (asked.headers = arrived ↔ Gathered arrived) ∧
      (∀ name text, told (name, Bytes.ofText text) = (lowerText name, text)) ∧
      asked.method = method ∧ asked.body = content ∧
      ∀ other : String, isToken other.toList = true → ∀ body, ∃ again,
        Http.Request.build other target fields body = .ok again ∧
          (Request.ofHttp again version).method = other ∧
          (Request.ofHttp again version).body = body ∧
          (Request.ofHttp again version).headers = asked.headers := by
  intro asked arrived
  have hHeaders : asked.headers = grouped arrived := headers_ofHttp_of_build hBuild version
  obtain ⟨hMethod, -, -, hContent⟩ := Request.build_eq_ok_iff.mp hBuild
  refine ⟨hHeaders, ?_, ?_, ?_, ?_, told_ofText, ?_, hContent.symm, ?_⟩
  · rw [hHeaders]
    exact grouped_perm arrived
  · intro name
    rw [hHeaders]
    exact named_grouped name arrived
  · rw [hHeaders]
    exact gathered_grouped arrived
  · rw [hHeaders]
    exact grouped_eq_self_iff
  · exact Method.text_of_ofText? hMethod
  · intro other hOther body
    obtain ⟨again, hAgain, hText, hBody⟩ := exists_build_of_build hBuild hOther body
    refine ⟨again, hAgain, hText, hBody, ?_⟩
    rw [hHeaders]
    exact headers_ofHttp_of_build hAgain version

/-- A name in three spellings, twice interrupted, and a value that is no text. -/
theorem told_fields_of_build_of_interrupted :
    ∃ request,
      Http.Request.build "PATCH" (Bytes.ofText "/a")
        [("Cache-Control", Bytes.ofText "no-cache"), ("x-mark", [0x63, 0xE9]),
          ("CACHE-CONTROL", Bytes.ofText "no-store"), ("X-Mark", [0x32]),
          ("cache-control", [0x31])] [0, 255] = .ok request ∧
      (Request.ofHttp request 2).headers =
        [("cache-control", "no-cache"), ("cache-control", "no-store"), ("cache-control", "1"),
          ("x-mark", "c\uFFFD"), ("x-mark", "2")] ∧
      (Request.ofHttp request 2).method = "PATCH" ∧ (Request.ofHttp request 2).body = [0, 255] := by
  have hBuild : ∃ request,
      Http.Request.build "PATCH" (Bytes.ofText "/a")
        [("Cache-Control", Bytes.ofText "no-cache"), ("x-mark", [0x63, 0xE9]),
          ("CACHE-CONTROL", Bytes.ofText "no-store"), ("X-Mark", [0x32]),
          ("cache-control", [0x31])] [0, 255] = .ok request := ⟨_, rfl⟩
  obtain ⟨request, hRequest⟩ := hBuild
  obtain ⟨hHeaders, -, -, -, -, -, hMethod, hBody, -⟩ := told_fields_of_build hRequest 2
  refine ⟨request, hRequest, hHeaders.trans ?_, hMethod, hBody⟩
  decide +kernel

end CanisterGateway.Canister
