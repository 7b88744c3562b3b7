import BookLookup.Store.Client
import BookLookup.Proofs.Attribute

/-!
# What the store reads in a request

The body of a request for a page is read as the object that was written, and the
key after which the page begins stands in it exactly if there is one.
-/

namespace BookLookup

/-! ## Bodies of requests -/

theorem Json.valuesNamed_append
    (names : List String)
    (front back : List (String × Json)) :
    valuesNamed names (front ++ back) =
      valuesNamed names front ++ valuesNamed names back := by
  simp [valuesNamed]

/-- A member is found under its name only. -/
theorem Json.valuesNamed_singleton
    (name label : String)
    (value : Json) :
    valuesNamed [name] [(label, value)] =
      if label = name then [value] else [] := by
  by_cases same : label = name
  · simp [valuesNamed, same]
  · simp [valuesNamed, same]

/-- A member that may be left out is found under its name only. -/
theorem Json.valuesNamed_toList
    {α : Type}
    (name label : String)
    (write : α -> Json)
    (value? : Option α) :
    valuesNamed [name] (value?.map fun value => (label, write value)).toList =
      if label = name then (value?.map write).toList else [] := by
  cases value? with
  | none => simp [valuesNamed]
  | some value => exact valuesNamed_singleton name label (write value)

/-- The body of a request says after which key the page begins, if after any,
and says nothing of it otherwise. -/
def SentRequest.StartsAfter
    (request : SentRequest)
    (key : Option Item) : Prop :=
  ∃ members, Json.read? request.body = some (.object members) ∧
    Json.valuesNamed ["ExclusiveStartKey"] members =
      (key.map Item.toJson).toList

namespace StoreClient

/-- The members that state a filter are printable. -/
theorem printable_filterMembers
    (mode : ScanMode) :
    ∀ member ∈ filterMembers mode, member.2.Printable := by
  intro member inFilter
  cases mode with
  | all => cases inFilter
  | filtered filter =>
      rcases List.mem_cons.mp inFilter with rfl | inRest
      · exact .string filter.text
      · rw [List.mem_singleton.mp inRest]
        apply Json.Printable.object
        intro binding inBindings
        obtain ⟨entry, -, rfl⟩ := List.mem_map.mp inBindings
        exact Attribute.printable_toJson (.string entry.2)

/-- The body of a request is printable. -/
theorem printable_pageBody
    (client : StoreClient)
    (mode : ScanMode)
    (startKey : Option Item) :
    (client.pageBody mode startKey).Printable := by
  apply Json.Printable.object
  intro member inBody
  rcases List.mem_append.mp inBody with front | ofKey
  · rcases List.mem_append.mp front with front | ofLimit
    · rcases List.mem_append.mp front with ofTable | ofFilter
      · rw [List.mem_singleton.mp ofTable]
        exact .string client.tableName
      · exact printable_filterMembers mode member ofFilter
    · rw [Option.mem_toList, Option.map_eq_some_iff] at ofLimit
      obtain ⟨limit, -, rfl⟩ := ofLimit
      exact .ofNat limit
  · rw [Option.mem_toList, Option.map_eq_some_iff] at ofKey
    obtain ⟨key, -, rfl⟩ := ofKey
    exact key.printable_toJson

/-- The members of the body of a request for a page. -/
def pageMembers
    (client : StoreClient)
    (mode : ScanMode)
    (startKey : Option Item) : List (String × Json) :=
  [("TableName", .string client.tableName)] ++ filterMembers mode ++
    (client.pageLimit.map fun limit => ("Limit", Json.ofNat limit)).toList ++
    (startKey.map fun key => ("ExclusiveStartKey", key.toJson)).toList

/-- What stands under a name in what states a filter. -/
theorem valuesNamed_filterMembers_filtered
    (filter : Filter)
    (name : String) :
    Json.valuesNamed [name] (filterMembers (.filtered filter)) =
      (if "FilterExpression" = name then [.string filter.text] else []) ++
        if "ExpressionAttributeValues" = name then
          [bindingsJson filter.bindings]
        else [] := by
  rw [← Json.valuesNamed_singleton, ← Json.valuesNamed_singleton,
    ← Json.valuesNamed_append]
  rfl

/-- What states the filter says nothing under another name. -/
theorem valuesNamed_filterMembers_of_not_mem
    (mode : ScanMode)
    {name : String}
    (other : name ∉ ["FilterExpression", "ExpressionAttributeValues"]) :
    Json.valuesNamed [name] (filterMembers mode) = [] := by
  rw [List.mem_pair, not_or] at other
  cases mode with
  | all => rfl
  | filtered filter =>
      rw [valuesNamed_filterMembers_filtered, if_neg (Ne.symm other.1),
        if_neg (Ne.symm other.2), List.nil_append]

/-- What stands under a name in the body of a request. -/
theorem valuesNamed_pageMembers
    (client : StoreClient)
    (mode : ScanMode)
    (startKey : Option Item)
    (name : String) :
    Json.valuesNamed [name] (client.pageMembers mode startKey) =
      (if "TableName" = name then [.string client.tableName] else []) ++
        Json.valuesNamed [name] (filterMembers mode) ++
        (if "Limit" = name then (client.pageLimit.map Json.ofNat).toList
          else []) ++
        (if "ExclusiveStartKey" = name then (startKey.map Item.toJson).toList
          else []) := by
  rw [pageMembers, Json.valuesNamed_append, Json.valuesNamed_append,
    Json.valuesNamed_append, Json.valuesNamed_singleton,
    Json.valuesNamed_toList, Json.valuesNamed_toList]

/-- The body of a request is read as the object that was written. -/
theorem read?_body_pageRequest
    (client : StoreClient)
    (mode : ScanMode)
    (startKey : Option Item)
    (time : Instant) :
    Json.read? (client.pageRequest mode startKey time).body =
      some (.object (client.pageMembers mode startKey)) :=
  (client.printable_pageBody mode startKey).read?_render

/-- The body of a request says after which key its page begins. -/
theorem startsAfter_pageRequest
    (client : StoreClient)
    (mode : ScanMode)
    (startKey : Option Item)
    (time : Instant) :
    (client.pageRequest mode startKey time).StartsAfter startKey := by
  refine ⟨_, client.read?_body_pageRequest mode startKey time, ?_⟩
  rw [valuesNamed_pageMembers,
    valuesNamed_filterMembers_of_not_mem mode (by simp)]
  simp

end StoreClient
end BookLookup
