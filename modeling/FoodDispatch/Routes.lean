import FoodDispatch.MapsReplies

/-! What a reported route says. The conditions on a reply are lookups in its JSON
tree; whenever the decoder returns, it reports a route exactly when they hold, and
with the two numbers they name. -/
namespace FoodDispatch.MapsReplies
open MapsClient

/-- `element[key]["value"]` exists, and `int()` makes `n` of it. -/
def Measures (element : Dict) (key : String) (n : ℤ) : Prop :=
  ∃ node json, element.lookup key = some (.dict node) ∧ node.lookup "value" = some json ∧
    PyInt.ofJson json = .ok n

def FirstElement (body element : Dict) : Prop :=
  ∃ row rows elements, body.lookup "rows" = some (.list (.dict row::rows)) ∧
    row.lookup "elements" = some (.list (.dict element::elements))

/-- With a key for traffic in the element, only that duration counts. -/
def Drives (element : Dict) (duration : ℤ) : Prop :=
  if (element.lookup "duration_in_traffic").isSome then
    Measures element "duration_in_traffic" duration
  else Measures element "duration" duration

def Reports (json : Json) (duration distance : ℤ) : Prop :=
  ∃ body element : Dict, json = .dict body ∧ body.lookup "status" = some (.str "OK") ∧
    FirstElement body element ∧ element.lookup "status" = some (.str "OK") ∧
    Drives element duration ∧ Measures element "distance" distance

theorem get_equals (entries : Dict) (key text : String) :
    (entries.get key .null).equals text = true ↔ entries.lookup key = some (.str text) := by
  unfold Dict.get
  cases found : entries.lookup key with
  | none => simp [Json.equals]
  | some value => cases value <;> simp [Json.equals]

theorem quantity_iff (element : Dict) (key : String) (n : ℤ) :
    quantity element key = .ok n ↔ Measures element key n := by
  unfold quantity Measures
  cases found : element.lookup key with
  | none => simp [Dict.item,found,bind,Except.bind]
  | some value =>
    cases value with
    | dict node =>
      cases held : node.lookup "value" <;> simp [Dict.item,Json.item,found,held,bind,Except.bind]
    | _ => simp [Dict.item,Json.item,found,bind,Except.bind]

theorem drives_iff (element : Dict) (duration : ℤ) :
    quantity element (durationKey element) = .ok duration ↔ Drives element duration := by
  rw [quantity_iff]
  unfold durationKey Drives
  split <;> exact Iff.rfl

theorem first_dict {json : Json} {entries : Dict} :
    json.first = .ok (.dict entries) ↔ ∃ rest, json = .list (.dict entries::rest) := by
  cases json with
  | list items => cases items <;> simp [Json.first]
  | str text =>
    simp only [Json.first]
    split <;> simp
  | _ => simp [Json.first]

theorem item_ok {json value : Json} {key : String} :
    json.item key = .ok value ↔ ∃ entries, json = .dict entries ∧ entries.lookup key = some value := by
  cases json with
  | dict entries => cases found : entries.lookup key <;> simp [Json.item,Dict.item,found]
  | _ => simp [Json.item]

theorem bind_ok {α β : Type} {first : Except PyException α} {rest : α → Except PyException β}
    {result : β} : (first >>= rest) = .ok result ↔ ∃ value, first = .ok value ∧
      rest value = .ok result := by
  cases first <;> simp [bind,Except.bind]

theorem firstElement_iff (body element : Dict) :
    firstElement body = .ok (.dict element) ↔ FirstElement body element := by
  unfold firstElement FirstElement
  simp only [bind_ok]
  constructor
  · rintro ⟨rows,located,row,head,elements,inside,found⟩
    obtain ⟨entries,rfl,listed⟩ := item_ok.mp inside
    obtain ⟨others,rfl⟩ := first_dict.mp head
    obtain ⟨rest,rfl⟩ := first_dict.mp found
    have opened : (Json.dict body).item "rows" = .ok (.list (.dict entries::others)) := located
    obtain ⟨whole,same,present⟩ := item_ok.mp opened
    cases same
    exact ⟨entries,others,rest,present,listed⟩
  · rintro ⟨row,rows,elements,present,listed⟩
    exact ⟨_,item_ok.mpr ⟨body,rfl,present⟩,.dict row,rfl,_,item_ok.mpr ⟨row,rfl,listed⟩,rfl⟩

/-- A result is a route with both of its numbers, or a failure with neither. -/
theorem parseElement_cases {body element : Dict} {result : RouteETAResult}
    (parsed : parseElement body element = .ok result) :
    (∃ duration distance, result = .success duration distance ∧
      element.lookup "status" = some (.str "OK") ∧ Drives element duration ∧
      Measures element "distance" distance) ∨ ∃ reason, result = .failure reason := by
  unfold parseElement at parsed
  dsimp only at parsed
  split at parsed
  next matched =>
    rcases routePayload_cases element with ⟨duration,distance,payload,left,right⟩ |
      ⟨error,payload,_⟩
    · rw [payload] at parsed
      cases parsed
      exact Or.inl ⟨duration,distance,rfl,(get_equals _ _ _).mp matched,
        (drives_iff _ _).mp left,(quantity_iff _ _ _).mp right⟩
    · rw [payload] at parsed
      split at parsed
      · contradiction
      · cases parsed
        exact Or.inr ⟨_,rfl⟩
      · cases parsed
        exact Or.inr ⟨_,rfl⟩
      · cases parsed
        exact Or.inr ⟨_,rfl⟩
      · contradiction
  next =>
    obtain ⟨_,_,told⟩ := bind_ok.mp parsed
    obtain ⟨_,_,told⟩ := bind_ok.mp told
    cases told
    exact Or.inr ⟨_,rfl⟩

theorem parseResponse_cases {json : Json} {result : RouteETAResult}
    (parsed : parseResponse (some json) = .ok result) :
    (∃ duration distance, result = .success duration distance ∧ Reports json duration distance) ∨
      ∃ reason, result = .failure reason := by
  cases json with
  | dict body =>
    rw [parseResponse_dict] at parsed
    split at parsed
    next matched =>
      split at parsed
      next =>
        cases parsed
        exact Or.inr ⟨_,rfl⟩
      next =>
        cases parsed
        exact Or.inr ⟨_,rfl⟩
      next => contradiction
      next found located =>
        cases found with
        | dict element =>
          rcases parseElement_cases parsed with ⟨duration,distance,same,status,drives,measures⟩ |
            failed
          · exact Or.inl ⟨duration,distance,same,body,element,rfl,(get_equals _ _ _).mp matched,
              (firstElement_iff _ _).mp located,status,drives,measures⟩
          · exact Or.inr failed
        | _ => contradiction
    next =>
      cases parsed
      exact Or.inr ⟨_,rfl⟩
  | _ => contradiction

theorem parseResponse_of_reports {json : Json} {duration distance : ℤ}
    (reports : Reports json duration distance) :
    parseResponse (some json) = .ok (.success duration distance) := by
  obtain ⟨body,element,rfl,matched,located,status,drives,measures⟩ := reports
  have payload : routePayload element = .ok (duration,distance) := by
    unfold routePayload
    rw [(drives_iff _ _).mpr drives,(quantity_iff _ _ _).mpr measures]
    rfl
  have accepted : (body.get "status" .null).equals DistanceMatrixStatus.OK = true :=
    (get_equals _ _ _).mpr matched
  have routed : (element.get "status" .null).equals ElementStatus.OK = true :=
    (get_equals _ _ _).mpr status
  rw [parseResponse_dict,if_pos accepted,(firstElement_iff _ _).mpr located]
  change parseElement body element = _
  unfold parseElement
  dsimp only
  rw [if_pos routed,payload]

/-- A route is reported only when the reply gives one, and with its own numbers. -/
theorem parseResponse_reports {json : Json} {result : RouteETAResult}
    (parsed : parseResponse (some json) = .ok result) :
    (result.ok = true ↔ ∃ duration distance, Reports json duration distance) ∧
      (∀ duration distance, Reports json duration distance →
        result.durationSeconds = some duration ∧ result.distanceMeters = some distance) ∧
      ((¬∃ duration distance, Reports json duration distance) →
        result.durationSeconds = none ∧ result.distanceMeters = none) := by
  have given (duration distance : ℤ) (reports : Reports json duration distance) :
      result = .success duration distance := by
    rw [parseResponse_of_reports reports] at parsed
    exact (Except.ok.inj parsed).symm
  rcases parseResponse_cases parsed with ⟨duration,distance,rfl,reports⟩ | ⟨reason,rfl⟩
  · refine ⟨⟨fun _ => ⟨duration,distance,reports⟩,fun _ => rfl⟩,?_,fun none => ?_⟩
    · intro other far told
      have same := given other far told
      rw [same]
      exact ⟨rfl,rfl⟩
    · exact absurd ⟨duration,distance,reports⟩ none
  · have silent : ¬∃ duration distance, Reports json duration distance := by
      rintro ⟨duration,distance,reports⟩
      exact Bool.false_ne_true (congrArg RouteETAResult.ok (given duration distance reports))
    refine ⟨⟨fun route => ?_,fun told => absurd told silent⟩,?_,fun _ => ⟨rfl,rfl⟩⟩
    · contradiction
    · exact fun duration distance told => absurd ⟨duration,distance,told⟩ silent

/-- A usable `duration` beside a traffic duration that is no number. -/
def unusableTraffic : Json :=
  .dict [("status",.str "OK"),("rows",.list [.dict [("elements",.list [.dict [("status",.str "OK"),
    ("duration_in_traffic",.dict [("value",.null)]),("duration",.dict [("value",.int 60)]),
    ("distance",.dict [("value",.int 1000)])]])]])]

theorem unusableTraffic_unreported :
    ¬∃ duration distance, Reports unusableTraffic duration distance := by
  have parsed : parseResponse (some unusableTraffic) =
      .ok (.failure (.text "Invalid route payload")) := rfl
  rw [← (parseResponse_reports parsed).1]
  decide

end FoodDispatch.MapsReplies
