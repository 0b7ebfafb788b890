import CaseSheet.Proofs.Json.Value
import CaseSheet.Proofs.Saved
/-!
# Saved results read back as JSON

The JSON text of results is an array with one object for each of them. The columns of the case, the
outcome and the payload of the response stand in one object, which the reader gives back with its
keys in order.

* `Report.reread?_jsonOf`: what is read of one result.
* `Report.parse?_json`: what is read of the text of all results, and of the files that hold it.
-/
namespace CaseSheet

/-- Data that a JSON text gives back: the status fits 16 bits, headers and objects are in the order
of their keys, numbers are whole, and nothing nests so deep that the reader refuses it inside the
three levels around the data. -/
structure Http.Answer.IsExact (a : Http.Answer) : Prop where
  status_lt : a.status < 2 ^ 16
  headers_order : a.headers.Pairwise (·.1 < ·.1)
  data : a.data.IsExact
  nesting_le : a.data.nesting ≤ 124

namespace Report

open Json (Value)

variable {results : List CaseResult} {r : CaseResult} {format : ExportFormat} {now : DateTime}
  {saved : Saved} {dir : String} {files files' : FileStore}

/-! ## One result -/

/-- The payload of a response as it is read back. -/
def payload : Http.Response → Value
  | .answered a => .object [
      ("data", a.data),
      ("headers", .object (a.headers.map fun h => (h.1, .string h.2))),
      ("method", .string a.method),
      ("status_code", .ofNat a.status),
      ("url", .string a.url)]
  | .failed kind message => .object [("error", .string message), ("kind", .string kind.key)]

theorem ofList_payload (status data headers url method : Value) :
    Fields.ofList [("status_code", status), ("data", data), ("headers", headers), ("url", url),
      ("method", method)] = [("data", data), ("headers", headers), ("method", method),
        ("status_code", status), ("url", url)] := by
  have horder : Fields.ofList [("status_code", 0), ("data", 1), ("headers", 2), ("url", 3),
      ("method", (4 : Fin 5))] = [("data", 1), ("headers", 2), ("method", 4), ("status_code", 0),
        ("url", 3)] := by decide +kernel
  have hmap := Fields.ofList_map (fun i : Fin 5 => [status, data, headers, url, method].get i)
    [("status_code", 0), ("data", 1), ("headers", 2), ("url", 3), ("method", 4)]
  rw [horder] at hmap
  exact hmap

/-- A result as it is read back, with the number that is read for its time. -/
def resultObject (r : CaseResult) (elapsed : Json.Number) : Value :=
  let c := r.outcome.testCase
  .object [
    ("Pass/Fail", .string (if r.outcome.verdict = .pass then "PASS" else "FAIL")),
    ("TC_ID", .string c.id),
    ("기능분류", .string c.category),
    ("비고", .string c.notes),
    ("사전조건", .string c.precondition),
    ("실제결과", .string r.outcome.actual),
    ("실행시간", .number elapsed),
    ("예상결과", .string c.expected),
    ("응답데이터", payload r.outcome.response),
    ("타임스탬프", .string (r.finishedAt.textWith "Z")),
    ("테스트단계", .string c.steps),
    ("테스트명", .string c.name)]

theorem ofList_result (id category name precondition steps expected notes actual verdict elapsed
    finishedAt response : Value) :
    Fields.ofList [("TC_ID", id), ("기능분류", category), ("테스트명", name),
      ("사전조건", precondition), ("테스트단계", steps), ("예상결과", expected), ("비고", notes),
      ("실제결과", actual), ("Pass/Fail", verdict), ("실행시간", elapsed),
      ("타임스탬프", finishedAt), ("응답데이터", response)] =
    [("Pass/Fail", verdict), ("TC_ID", id), ("기능분류", category), ("비고", notes),
      ("사전조건", precondition), ("실제결과", actual), ("실행시간", elapsed), ("예상결과", expected),
      ("응답데이터", response), ("타임스탬프", finishedAt), ("테스트단계", steps),
      ("테스트명", name)] := by
  have horder : Fields.ofList [("TC_ID", 0), ("기능분류", 1), ("테스트명", 2), ("사전조건", 3),
      ("테스트단계", 4), ("예상결과", 5), ("비고", 6), ("실제결과", 7), ("Pass/Fail", 8),
      ("실행시간", 9), ("타임스탬프", 10), ("응답데이터", (11 : Fin 12))] =
      [("Pass/Fail", 8), ("TC_ID", 0), ("기능분류", 1), ("비고", 6), ("사전조건", 3),
        ("실제결과", 7), ("실행시간", 9), ("예상결과", 5), ("응답데이터", 11), ("타임스탬프", 10),
        ("테스트단계", 4), ("테스트명", 2)] := by decide +kernel
  have hmap := Fields.ofList_map (fun i : Fin 12 => [id, category, name, precondition, steps,
    expected, notes, actual, verdict, elapsed, finishedAt, response].get i)
    [("TC_ID", 0), ("기능분류", 1), ("테스트명", 2), ("사전조건", 3), ("테스트단계", 4),
      ("예상결과", 5), ("비고", 6), ("실제결과", 7), ("Pass/Fail", 8), ("실행시간", 9),
      ("타임스탬프", 10), ("응답데이터", 11)]
  rw [horder] at hmap
  exact hmap

theorem reread?_toJson {response : Http.Response}
    (h : ∀ a, response = .answered a → a.IsExact) :
    response.toJson.reread? = some (payload response) := by
  cases response with
  | failed kind message =>
    have hkeys : Fields.ofList [("error", Value.string message), ("kind", .string kind.key)] =
        [("error", .string message), ("kind", .string kind.key)] := by
      refine Fields.ofList_of_pairwise (List.pairwise_pair.2 ?_)
      change "error" < "kind"
      decide +kernel
    have hread : (Http.Response.failed kind message).toJson.reread? = some (.object
        (Fields.ofList [("error", Value.string message), ("kind", .string kind.key)])) :=
      Value.reread?_object (.cons ⟨rfl, Value.reread?_string _⟩
        (.cons ⟨rfl, Value.reread?_string _⟩ .nil))
    rw [hread, hkeys, payload]
  | answered a =>
    obtain ⟨hstatus, horder, hdata, -⟩ := h a rfl
    have hstatus' : (Value.ofNat a.status).reread? = some (.ofNat a.status) :=
      Value.reread?_of_isExact (.whole (by omega) (by omega))
    have hheaders : (Value.object (a.headers.map fun h => (h.1, .string h.2))).reread? =
        some (.object (a.headers.map fun h => (h.1, .string h.2))) := by
      refine Value.reread?_of_isExact (.object (List.pairwise_map.2 horder) fun g hg => ?_)
      obtain ⟨h, -, rfl⟩ := List.mem_map.1 hg
      exact .string h.2
    rw [Http.Response.toJson, payload, ← ofList_payload]
    exact Value.reread?_object (.cons ⟨rfl, hstatus'⟩
      (.cons ⟨rfl, Value.reread?_of_isExact hdata⟩ (.cons ⟨rfl, hheaders⟩
        (.cons ⟨rfl, Value.reread?_string _⟩ (.cons ⟨rfl, Value.reread?_string _⟩ .nil)))))

theorem reread?_jsonOf {n : Json.Number}
    (helapsed : Json.number? (Json.writeDouble (hundredths r.elapsed)) = some (.number n, []))
    (hresponse : ∀ a, r.outcome.response = .answered a → a.IsExact) :
    (jsonOf r).reread? = some (resultObject r n) := by
  have hword : r.outcome.verdict.word = if r.outcome.verdict = .pass then "PASS" else "FAIL" := by
    cases r.outcome.verdict <;> rfl
  have hstring (k s : String) : (k, Value.string s).1 = (k, Value.string s).1 ∧
      (Value.string s).reread? = some (.string s) := ⟨rfl, Value.reread?_string s⟩
  have hnumber : (Value.number (.double (hundredths r.elapsed))).reread? = some (.number n) := by
    rw [Value.reread?, Json.writeNumber, helapsed]
  rw [jsonOf, resultObject, ← hword, ← ofList_result]
  refine Value.reread?_object (.cons (hstring _ _) (.cons (hstring _ _) (.cons (hstring _ _)
    (.cons (hstring _ _) (.cons (hstring _ _) (.cons (hstring _ _) (.cons (hstring _ _)
      (.cons (hstring _ _) (.cons (hstring _ _) (.cons ⟨rfl, hnumber⟩ (.cons (hstring _ _)
        (.cons ⟨rfl, reread?_toJson hresponse⟩ .nil))))))))))))

theorem nesting_toJson {response : Http.Response}
    (h : ∀ a, response = .answered a → a.IsExact) : response.toJson.nesting ≤ 125 := by
  cases response with
  | failed kind message => exact Nat.le_of_ble_eq_true rfl
  | answered a =>
    refine Nat.succ_le_succ (Json.nestingFields_le_iff.2 ?_)
    have hheaders : (Value.object (a.headers.map fun h => (h.1, .string h.2))).nesting ≤ 124 := by
      refine Nat.succ_le_succ ((Json.nestingFields_le_iff.2 fun g hg => ?_).trans (Nat.zero_le 123))
      obtain ⟨h, -, rfl⟩ := List.mem_map.1 hg
      exact Nat.le_refl 0
    simp only [List.forall_mem_cons]
    exact ⟨Nat.zero_le _, (h a rfl).nesting_le, hheaders, Nat.zero_le _, Nat.zero_le _,
      List.forall_mem_nil _⟩

theorem nesting_jsonOf (hresponse : ∀ a, r.outcome.response = .answered a → a.IsExact) :
    (jsonOf r).nesting ≤ 126 := by
  refine Nat.succ_le_succ (Json.nestingFields_le_iff.2 (List.forall_mem_append.2 ⟨?_, ?_⟩))
  · intro g hg
    obtain ⟨c, -, rfl⟩ := List.mem_map.1 hg
    exact Nat.zero_le _
  · simp only [List.forall_mem_cons]
    exact ⟨Nat.zero_le _, Nat.zero_le _, Nat.zero_le _, Nat.zero_le _, nesting_toJson hresponse,
      List.forall_mem_nil _⟩

/-! ## All results -/

/-- Each result is read as its object, in the order of the results. -/
theorem exists_reread_results
    (helapsed : ∀ r ∈ results, ∃ n,
      Json.number? (Json.writeDouble (hundredths r.elapsed)) = some (.number n, []))
    (hresponse : ∀ r ∈ results, ∀ a, r.outcome.response = .answered a → a.IsExact) :
    ∃ objects, List.Forall₂ (fun v w => v.reread? = some w) (results.map jsonOf) objects ∧
      List.Forall₂ (fun r object => ∃ n, object = resultObject r n) results objects := by
  induction results with
  | nil => exact ⟨[], .nil, .nil⟩
  | cons r results ih =>
    obtain ⟨⟨n, hn⟩, helapsed⟩ := List.forall_mem_cons.1 helapsed
    obtain ⟨hr, hresponse⟩ := List.forall_mem_cons.1 hresponse
    obtain ⟨objects, hread, hobjects⟩ := ih helapsed hresponse
    exact ⟨resultObject r n :: objects, .cons (reread?_jsonOf hn hr) hread, .cons ⟨n, rfl⟩ hobjects⟩

/-- **The JSON text loses nothing**, provided that the times are printed as JSON numbers. -/
theorem parse?_json (results : List CaseResult)
    (helapsed : ∀ r ∈ results, ∃ n,
      Json.number? (Json.writeDouble (hundredths r.elapsed)) = some (.number n, []))
    (hresponse : ∀ r ∈ results, ∀ a, r.outcome.response = .answered a → a.IsExact) :
    (∃ objects, Json.parse? (json results).toList = some (.array objects) ∧
      List.Forall₂ (fun r object => ∃ n, object = resultObject r n) results objects) ∧
    ∀ dir format now files saved files', files.IsSound → format.hasJson = true →
      save results dir format now files = (.ok saved, files') →
      ∃ path, saved.json = some path ∧ files'.readText path = .ok (json results) ∧
        files'.readText (Path.join dir latestJsonName) = .ok (json results) := by
  refine ⟨?_, ?_⟩
  · obtain ⟨objects, hread, hobjects⟩ := exists_reread_results helapsed hresponse
    refine ⟨objects, Json.parse?_pretty ?_ ?_, hobjects⟩
    · rw [Value.reread?, Json.rereadItems?_eq_some_iff.2 hread, Option.map_some]
    · refine Nat.succ_le_succ (Json.nestingItems_le_iff.2 fun v hv => ?_)
      obtain ⟨r, hr, rfl⟩ := List.mem_map.1 hv
      exact nesting_jsonOf (hresponse r hr)
  · intro dir format now files saved files' hs hjson h
    obtain ⟨hstamped, hlatest⟩ := json_mem_named hjson
    refine ⟨Path.join dir (jsonName now), ?_, readText_of_save hs h hstamped,
      readText_of_save hs h hlatest⟩
    rw [saved_of_save h, Report.saved, hjson]
    rfl

/-- A result with an array of objects in the data of its answer. -/
def listedResult : CaseResult where
  outcome :=
    { testCase :=
        { id := "TC001", category := "trends", name := "said \"no\"", precondition := ""
          steps := "GET /trends\n{}", expected := "200 OK", notes := "" }
      actual := "200 OK, JSON object (keys: items, total)", verdict := .pass
      response := .answered
        { status := 200
          data := .object [
            ("items", .array [.object [("rank", .number (.whole (-1)))], .null]),
            ("total", .number (.whole 18446744073709551615))]
          headers := [("content-type", "application/json"), ("date", "today")]
          url := "http://localhost:3000/trends", method := "GET" } }
  elapsed := ⟨1, 500000000⟩
  finishedAt := ⟨0, 0⟩

theorem isExact_listedResult : ∀ a, listedResult.outcome.response = .answered a → a.IsExact := by
  rintro a ⟨⟩
  refine ⟨by decide, List.pairwise_pair.2 (by decide +kernel), ?_, by decide⟩
  refine .object (List.pairwise_pair.2 ?_) (List.forall_mem_cons.2
    ⟨.array (List.forall_mem_cons.2 ⟨?_, List.forall_mem_singleton.2 .null⟩),
      List.forall_mem_singleton.2 (.whole (by decide) (by decide))⟩)
  · change "items" < "total"
    decide +kernel
  · exact .object (List.pairwise_singleton _ _)
      (List.forall_mem_singleton.2 (.whole (by decide) (by decide)))

theorem number?_listedResult : ∃ n,
    Json.number? (Json.writeDouble (hundredths listedResult.elapsed)) = some (.number n, []) := by
  have hread : Json.Numeral.read? (Json.writeDouble (hundredths listedResult.elapsed)) =
      some (⟨false, ['1'], ['5'], none⟩, []) := by decide +kernel
  have hvalue : (Json.Numeral.value? ⟨false, ['1'], ['5'], none⟩).isSome = true := by
    decide +kernel
  obtain ⟨n, hn⟩ := Option.isSome_iff_exists.1 hvalue
  refine ⟨n, ?_⟩
  rw [Json.number?, hread]
  simp only [Option.bind_eq_bind, Option.bind_some, hn, Option.pure_def]

/-- It is saved on an empty disk, and what is read there is its object. -/
theorem parse?_json_listedResult : ∃ saved files' path text n,
    save [listedResult] "out" .json ⟨2025, 1, 1, 9, 0, 0⟩ ⟨.empty, []⟩ = (.ok saved, files') ∧
      saved.json = some path ∧ files'.readText path = .ok text ∧
      Json.parse? text.toList = some (.array [resultObject listedResult n]) := by
  obtain ⟨saved, files', hsave⟩ : ∃ saved files',
      save [listedResult] "out" .json ⟨2025, 1, 1, 9, 0, 0⟩ ⟨.empty, []⟩ = (.ok saved, files') :=
    exists_of_isOk_save (by decide +kernel)
  obtain ⟨⟨objects, hread, hobjects⟩, hfiles⟩ := parse?_json [listedResult]
    (List.forall_mem_singleton.2 number?_listedResult)
    (List.forall_mem_singleton.2 isExact_listedResult)
  obtain ⟨path, hpath, htext, -⟩ := hfiles _ _ _ _ _ _ ⟨.empty, ⟨[], rfl⟩⟩ rfl hsave
  obtain ⟨_, _, ⟨n, rfl⟩, hnil, rfl⟩ := List.forall₂_cons_left_iff.1 hobjects
  cases hnil
  exact ⟨saved, files', path, _, n, hsave, hpath, htext, hread⟩

end Report
end CaseSheet
