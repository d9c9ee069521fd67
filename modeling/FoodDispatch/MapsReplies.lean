import FoodDispatch.MapsClient

/-! Which replies the Maps client survives. The conditions are on the JSON tree
alone; they are compared with the decoder level by level, from the quantities of
an element up to the whole body. -/
namespace FoodDispatch.MapsReplies
open MapsClient

def reading (element : Dict) (key : String) : Option Json :=
  match element.lookup key with
  | some (.dict node) => node.lookup "value"
  | _ => none

def Convertible (value : Option Json) : Prop := ∃ json n, value = some json ∧ PyInt.ofJson json = .ok n

def Infinite (value : Option Json) : Prop :=
  value = some (.float .posInf) ∨ value = some (.float .negInf)

def HasFirst : Json → Prop
  | .list items => items ≠ []
  | .str text => text ≠ ""
  | _ => False

/-- Looking up the head of `value` ends in a lookup error, or in a head that is `inner`. -/
def HeadHandled (value : Option Json) (inner : Json → Prop) : Prop :=
  match value with
  | none | some (.dict _) | some (.list []) => True
  | some (.list (head::_)) => inner head
  | some (.str text) => text = ""
  | some _ => False

def PayloadHandled (element : Dict) : Prop :=
  ¬Infinite (reading element (durationKey element)) ∧
    (Convertible (reading element (durationKey element)) → ¬Infinite (reading element "distance"))

def ElementHandled (body element : Dict) : Prop :=
  if (element.get "status" .null).equals ElementStatus.OK then PayloadHandled element
  else HasFirst (body.get "origin_addresses" (.list [.str "?"])) ∧
    HasFirst (body.get "destination_addresses" (.list [.str "?"]))

def RowsHandled (body : Dict) : Prop :=
  HeadHandled (body.lookup "rows") (fun row => ∃ entries : Dict, row = .dict entries ∧
    HeadHandled (entries.lookup "elements") (fun head => ∃ element : Dict, head = .dict element ∧
      ElementHandled body element))

def BodyHandled (json : Json) : Prop :=
  ∃ body : Dict, json = .dict body ∧
    ((body.get "status" .null).equals DistanceMatrixStatus.OK → RowsHandled body)

def Handled (client : MapsClient) (transport : Transport) : Prop :=
  client.apiKey = "" ∨ client.started = false ∨
    match transport with
    | .response statusCode (some json) => statusCode = 200 → BodyHandled json
    | _ => True

/-- The parts of a reply the client reads are there and have the right shape;
the duration is the one it reads, with traffic when the element has it. -/
def WellShaped (json : Json) : Prop :=
  ∃ body element : Dict, json = .dict body ∧ (∃ text, body.get "status" .null = .str text) ∧
    firstElement body = .ok (.dict element) ∧ (∃ text, element.get "status" .null = .str text) ∧
    Convertible (reading element (durationKey element)) ∧ Convertible (reading element "distance")

def Malformed : Transport → Prop
  | .response _ (some json) => ¬WellShaped json
  | _ => True

theorem equals_str {json : Json} {text : String} (same : json.equals text = true) :
    ∃ value, json = .str value := by
  cases json with
  | str value => exact ⟨value,rfl⟩
  | _ => contradiction

theorem ofJson_overflow (json : Json) :
    PyInt.ofJson json = .error .overflowError ↔ Infinite (some json) := by
  unfold Infinite
  cases json with
  | float value => cases value <;> simp [PyInt.ofJson]
  | str text =>
    simp only [PyInt.ofJson,Option.some.injEq,reduceCtorEq,or_false,iff_false]
    split <;> simp
  | _ => simp [PyInt.ofJson]

theorem ofJson_error (json : Json) (error : PyException)
    (raised : PyInt.ofJson json = .error error) (finite : ¬Infinite (some json)) :
    error = .typeError ∨ ∃ text, error = .valueError text := by
  cases json with
  | float value =>
    cases value with
    | finite value => cases raised
    | nan =>
      cases raised
      exact Or.inr ⟨_,rfl⟩
    | posInf => exact absurd (Or.inl rfl) finite
    | negInf => exact absurd (Or.inr rfl) finite
  | str text =>
    simp only [PyInt.ofJson] at raised
    split at raised
    · cases raised
    · cases raised
      exact Or.inr ⟨_,rfl⟩
  | null | list items | dict entries =>
    cases raised
    exact Or.inl rfl
  | bool value | int value => cases raised

theorem quantity_reading (element : Dict) (key : String) :
    (∃ json, reading element key = some json ∧ quantity element key = PyInt.ofJson json) ∨
      (reading element key = none ∧ (quantity element key = .error .keyError ∨
        quantity element key = .error .typeError)) := by
  unfold reading quantity
  cases found : element.lookup key with
  | none => simp [Dict.item,found,bind,Except.bind]
  | some node =>
    cases node with
    | dict entries =>
      cases held : entries.lookup "value" <;> simp [Dict.item,Json.item,found,held,bind,Except.bind]
    | _ => simp [Dict.item,Json.item,found,bind,Except.bind]

theorem quantity_ok (element : Dict) (key : String) :
    (∃ n, quantity element key = .ok n) ↔ Convertible (reading element key) := by
  rcases quantity_reading element key with ⟨json,found,same⟩ | ⟨missing,failed | failed⟩
  · simp [Convertible,found,same]
  · simp [Convertible,missing,failed]
  · simp [Convertible,missing,failed]

theorem quantity_finite {element : Dict} {key : String} {n : ℤ}
    (converted : quantity element key = .ok n) : ¬Infinite (reading element key) := by
  intro infinite
  rcases quantity_reading element key with ⟨json,found,same⟩ | ⟨missing,_⟩
  · rw [found] at infinite
    rw [same,(ofJson_overflow json).mpr infinite] at converted
    contradiction
  · simp [missing,Infinite] at infinite

theorem quantity_error (element : Dict) (key : String) (error : PyException)
    (raised : quantity element key = .error error) :
    (error = .overflowError ∧ Infinite (reading element key)) ∨
      ((error = .keyError ∨ error = .typeError ∨ ∃ text, error = .valueError text) ∧
        ¬Infinite (reading element key)) := by
  rcases quantity_reading element key with ⟨json,found,same⟩ | ⟨missing,failed | failed⟩
  · rw [same] at raised
    rw [found]
    by_cases infinite : Infinite (some json)
    · have overflow := (ofJson_overflow json).mpr infinite
      rw [overflow] at raised
      cases raised
      exact Or.inl ⟨rfl,infinite⟩
    · exact Or.inr ⟨Or.inr (ofJson_error json error raised infinite),infinite⟩
  · rw [failed] at raised
    cases raised
    exact Or.inr ⟨Or.inl rfl,by simp [missing,Infinite]⟩
  · rw [failed] at raised
    cases raised
    exact Or.inr ⟨Or.inr (Or.inl rfl),by simp [missing,Infinite]⟩

theorem routePayload_cases (element : Dict) :
    (∃ duration distance, routePayload element = .ok (duration,distance) ∧
      quantity element (durationKey element) = .ok duration ∧
      quantity element "distance" = .ok distance) ∨
    (∃ error, routePayload element = .error error ∧
      (quantity element (durationKey element) = .error error ∨
        ((∃ duration, quantity element (durationKey element) = .ok duration) ∧
          quantity element "distance" = .error error))) := by
  unfold routePayload
  cases first : quantity element (durationKey element) with
  | error error => exact Or.inr ⟨error,rfl,Or.inl rfl⟩
  | ok duration =>
    cases second : quantity element "distance" with
    | error error => exact Or.inr ⟨error,rfl,Or.inr ⟨⟨duration,rfl⟩,rfl⟩⟩
    | ok distance => exact Or.inl ⟨duration,distance,rfl,rfl,rfl⟩

theorem first_ok (json : Json) : (∃ head, json.first = .ok head) ↔ HasFirst json := by
  cases json with
  | list items => cases items <;> simp [Json.first,HasFirst]
  | str text =>
    simp only [Json.first,HasFirst]
    cases chars : text.toList with
    | nil => simp [String.toList_eq_nil_iff.mp chars]
    | cons head rest =>
      have present : text ≠ "" := by
        intro same
        simp [same] at chars
      simp [present]
  | _ => simp [Json.first,HasFirst]

/-- Below the element, the decoder returns exactly when nothing it looks at is
infinite, or, for a failed route, when both addresses it logs are there. -/
theorem parseElement_ok (body element : Dict) :
    (∃ result, parseElement body element = .ok result) ↔ ElementHandled body element := by
  unfold parseElement ElementHandled
  dsimp only
  split
  next matched =>
    unfold PayloadHandled
    rcases routePayload_cases element with ⟨duration,distance,payload,left,right⟩ |
      ⟨error,payload,raised⟩
    · have first := quantity_finite left
      have second := quantity_finite right
      simp [payload,first,second]
    · rw [payload]
      rcases raised with raised | ⟨⟨duration,left⟩,raised⟩
      · have unread : ¬Convertible (reading element (durationKey element)) := by
          rw [← quantity_ok,raised]
          simp
        rcases quantity_error element _ error raised with ⟨rfl,infinite⟩ | ⟨caught,finite⟩
        · simp [infinite]
        · rcases caught with rfl | rfl | ⟨text,rfl⟩ <;> simp [finite,unread]
      · have first := quantity_finite left
        have read := (quantity_ok element _).mp ⟨duration,left⟩
        rcases quantity_error element _ error raised with ⟨rfl,infinite⟩ | ⟨caught,finite⟩
        · simp [first,read,infinite]
        · rcases caught with rfl | rfl | ⟨text,rfl⟩ <;> simp [first,finite]
  next failed =>
    rw [← first_ok,← first_ok]
    unfold loggedAddress
    cases Json.first (body.get "origin_addresses" (.list [.str "?"])) <;>
      cases Json.first (body.get "destination_addresses" (.list [.str "?"])) <;>
        simp [bind,Except.bind,pure,Except.pure]

theorem parseElement_success (body element : Dict) (result : RouteETAResult)
    (parsed : parseElement body element = .ok result) (route : result.ok = true) :
    (element.get "status" .null).equals ElementStatus.OK ∧
      Convertible (reading element (durationKey element)) ∧
      Convertible (reading element "distance") := by
  unfold parseElement at parsed
  dsimp only at parsed
  split at parsed
  next matched =>
    rcases routePayload_cases element with ⟨duration,distance,_,left,right⟩ | ⟨error,payload,_⟩
    · exact ⟨matched,(quantity_ok _ _).mp ⟨_,left⟩,(quantity_ok _ _).mp ⟨_,right⟩⟩
    · rw [payload] at parsed
      split at parsed <;> cases parsed <;> contradiction
  next failed =>
    cases first : loggedAddress body "origin_addresses" <;>
      cases second : loggedAddress body "destination_addresses" <;>
        simp only [first,second,bind,Except.bind,pure,Except.pure] at parsed <;>
          cases parsed
    contradiction

theorem head_cases (entries : Dict) (key : String) (inner : Json → Prop)
    (plain : ∀ text, ¬inner (.str text)) :
    (∃ head, (entries.item key >>= Json.first) = .ok head ∧
      (HeadHandled (entries.lookup key) inner ↔ inner head)) ∨
    (∃ error, (entries.item key >>= Json.first) = .error error ∧
      (HeadHandled (entries.lookup key) inner ↔ error = .keyError ∨ error = .indexError)) := by
  unfold Dict.item
  cases found : entries.lookup key with
  | none => exact Or.inr ⟨_,rfl,by simp [HeadHandled]⟩
  | some value =>
    cases value with
    | list items =>
      cases items with
      | nil => exact Or.inr ⟨_,rfl,by simp [HeadHandled]⟩
      | cons head rest => exact Or.inl ⟨head,rfl,by simp [HeadHandled]⟩
    | str text =>
      cases chars : text.toList with
      | nil =>
        refine Or.inr ⟨.indexError,by simp [bind,Except.bind,Json.first,chars],?_⟩
        simp [HeadHandled,String.toList_eq_nil_iff.mp chars]
      | cons head rest =>
        refine Or.inl ⟨.str (String.ofList [head]),by simp [bind,Except.bind,Json.first,chars],?_⟩
        have present : text ≠ "" := by
          intro same
          simp [same] at chars
        simp only [HeadHandled,present,false_iff]
        exact plain _
    | dict _ => exact Or.inr ⟨_,rfl,by simp [HeadHandled]⟩
    | null | bool _ | int _ | float _ => exact Or.inr ⟨_,rfl,by simp [HeadHandled]⟩

/-- Drilling into `rows[0].elements[0]` ends in a lookup error that is caught, or
in an element whose own treatment returns. -/
theorem rowsHandled_cases (body : Dict) :
    (∃ found, firstElement body = .ok found ∧
      (RowsHandled body ↔ ∃ element : Dict, found = .dict element ∧ ElementHandled body element)) ∨
    (∃ error, firstElement body = .error error ∧
      (RowsHandled body ↔ error = .keyError ∨ error = .indexError)) := by
  have drilled : firstElement body =
      ((body.item "rows" >>= Json.first) >>= fun row => row.item "elements" >>= Json.first) := by
    unfold firstElement
    cases body.item "rows" <;> rfl
  rw [drilled]
  unfold RowsHandled
  rcases head_cases body "rows" (fun row => ∃ entries : Dict, row = .dict entries ∧
      HeadHandled (entries.lookup "elements") (fun head => ∃ element : Dict, head = .dict element ∧
        ElementHandled body element)) (by simp) with
    ⟨row,located,rows⟩ | ⟨error,raised,rows⟩
  · rw [located,rows]
    change (∃ found, (row.item "elements" >>= Json.first) = .ok found ∧ _) ∨
      (∃ error, (row.item "elements" >>= Json.first) = .error error ∧ _)
    cases row with
    | dict entries =>
      rcases head_cases entries "elements" (fun head => ∃ element : Dict, head = .dict element ∧
          ElementHandled body element) (by simp) with
        ⟨head,found,elements⟩ | ⟨error,raised,elements⟩
      · exact Or.inl ⟨head,found,by simpa using elements⟩
      · exact Or.inr ⟨error,raised,by simpa using elements⟩
    | _ => exact Or.inr ⟨.typeError,rfl,by simp⟩
  · rw [raised,rows]
    exact Or.inr ⟨error,rfl,Iff.rfl⟩

theorem parseResponse_dict (body : Dict) : parseResponse (some (.dict body)) =
    if (body.get "status" .null).equals DistanceMatrixStatus.OK then
      match firstElement body with
      | .error .keyError | .error .indexError =>
        .ok (.failure (.text "Unexpected response structure"))
      | .error error => .error error
      | .ok found => found.asDict >>= parseElement body
    else .ok (.failure (.withJson "API status: " (body.get "status" .null))) := by
  unfold parseResponse
  simp only [Json.asDict,bind,Except.bind]
  split
  · split <;> simp_all [pure,Except.pure,throw,throwThe,MonadExceptOf.throw]
  · rfl

theorem parseResponse_ok (json : Json) :
    (∃ result, parseResponse (some json) = .ok result) ↔ BodyHandled json := by
  cases json with
  | dict body =>
    have bodies : BodyHandled (.dict body) ↔
        ((Dict.get body "status" .null).equals DistanceMatrixStatus.OK → RowsHandled body) := by
      simp [BodyHandled]
    rw [bodies,parseResponse_dict]
    split
    next matched =>
      rw [forall_prop_of_true matched]
      rcases rowsHandled_cases body with ⟨found,located,rows⟩ | ⟨error,raised,rows⟩
      · rw [rows,located]
        cases found with
        | dict element =>
          rw [show (∃ inner : Dict, Json.dict element = .dict inner ∧ ElementHandled body inner) ↔
            ElementHandled body element by simp,← parseElement_ok]
          rfl
        | _ => simp [Json.asDict,bind,Except.bind]
      · rw [rows,raised]
        cases error <;> simp
    next other => simp [other]
  | _ => simp [BodyHandled,parseResponse,Json.asDict,bind,Except.bind]

theorem parseResponse_success (json : Json) (result : RouteETAResult)
    (parsed : parseResponse (some json) = .ok result) (route : result.ok = true) :
    WellShaped json := by
  cases json with
  | dict body =>
    rw [parseResponse_dict] at parsed
    split at parsed
    next matched =>
      split at parsed
      next => cases parsed; contradiction
      next => cases parsed; contradiction
      next => contradiction
      next found located =>
        cases found with
        | dict element =>
          obtain ⟨status,duration,distance⟩ := parseElement_success body element result parsed route
          exact ⟨body,element,rfl,equals_str matched,located,equals_str status,duration,distance⟩
        | _ => contradiction
    next => cases parsed; contradiction
  | _ => contradiction

/-- The reply is looked at only by a started client with a key, and only when the
transport brought a 200 with a JSON body; everything else is a plain failure. -/
theorem getDrivingEta_cases (client : MapsClient) (transport : Transport) :
    (∃ reason, client.getDrivingEta transport = .ok (.failure reason) ∧ Handled client transport) ∨
    (∃ json, transport = .response 200 (some json) ∧
      client.getDrivingEta transport = parseResponse (some json) ∧
      (Handled client transport ↔ BodyHandled json)) := by
  unfold getDrivingEta Handled
  by_cases key : client.apiKey = ""
  · exact Or.inl ⟨_,by rw [if_pos key],Or.inl key⟩
  · rw [if_neg key]
    cases started : client.started with
    | false => exact Or.inl ⟨_,rfl,Or.inr (Or.inl rfl)⟩
    | true =>
      cases transport with
      | timeoutException => exact Or.inl ⟨_,rfl,by simp⟩
      | requestError text => exact Or.inl ⟨_,rfl,by simp⟩
      | response statusCode body =>
        by_cases success : statusCode = 200
        · subst statusCode
          cases body with
          | none => exact Or.inl ⟨_,rfl,by simp⟩
          | some json => exact Or.inr ⟨json,rfl,rfl,by simp [key]⟩
        · refine Or.inl ⟨.withInt "HTTP " statusCode,by simp [success],?_⟩
          cases body <;> simp [success]

/-- The client returns, and reports no route for a malformed reply, exactly when
the reply is one the decoder can handle. -/
theorem getDrivingEta_returns_iff (client : MapsClient) (transport : Transport) :
    (∃ result, client.getDrivingEta transport = .ok result ∧
      (Malformed transport → result.ok = false)) ↔ Handled client transport := by
  rcases getDrivingEta_cases client transport with ⟨reason,same,handled⟩ | ⟨json,reply,same,handled⟩
  · rw [same]
    exact ⟨fun _ => handled,fun _ => ⟨_,rfl,fun _ => rfl⟩⟩
  · rw [same,handled,← parseResponse_ok]
    constructor
    · rintro ⟨result,parsed,_⟩
      exact ⟨result,parsed⟩
    · rintro ⟨result,parsed⟩
      refine ⟨result,parsed,fun malformed => ?_⟩
      rw [reply] at malformed
      cases route : result.ok with
      | false => rfl
      | true => exact absurd (parseResponse_success json result parsed route) malformed

theorem getDrivingEta_null_body :
    ¬∀ (client : MapsClient) (transport : Transport),
      ∃ result, client.getDrivingEta transport = .ok result ∧
        (Malformed transport → result.ok = false) := by
  intro total
  obtain ⟨result,returned,_⟩ := total ⟨"key",true⟩ (.response 200 (some .null))
  have raised : MapsClient.getDrivingEta ⟨"key",true⟩ (.response 200 (some .null)) =
      .error .attributeError := rfl
  rw [raised] at returned
  contradiction

end FoodDispatch.MapsReplies
