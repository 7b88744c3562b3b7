import BookLookup.Proofs.Filter.Tokens
import BookLookup.Proofs.Lookup
import BookLookup.Proofs.Store.Demand
import BookLookup.Proofs.Store.Drain
import BookLookup.Proofs.Text.Decimal

/-!
# What requests for pages carry

The body of every request for a page is read as one object with the table, the
filter and its values, the limit and the key after which the page begins, and
with nothing else. What is absent is left out. A key that has been read is read
again from what a request carries.
-/

namespace BookLookup

/-! ## The values of a filter -/

namespace Filter

/-- The members of an object are the values of a filter. -/
structure BoundBy
    (filter : Filter)
    (values : List (String × Json)) : Prop where
  /-- There are values. -/
  nonempty : values ≠ []
  /-- No name is given twice. -/
  once : (values.map Prod.fst).Nodup
  /-- The names are the placeholders in the text of the filter. -/
  named : ∀ name,
    name ∈ values.map Prod.fst ↔ name ∈ tokens filter.text.toList
  /-- Every placeholder has its value, which is a text. -/
  texts : ∀ name value, (name, value) ∈ values ->
    ∃ text, filter.bindings.get? name = some text ∧
      value = .object [("S", .string text)]

/-- The filter of some usable parameters has keys. -/
theorem keys_bindings_compiled_ne_nil
    {parameters : List Parameter}
    (nonempty : parameters ≠ [])
    (usable : ∀ parameter ∈ parameters, Parameter.Usable parameter) :
    (compiled parameters).bindings.keys ≠ [] := by
  obtain ⟨first, others, rfl⟩ := List.exists_cons_of_ne_nil nonempty
  obtain ⟨field, multiplicity, value, -, -, conditionsEq⟩ :=
    (usable first List.mem_cons_self).exists_eq
  obtain ⟨pair, more, shape⟩ := List.exists_cons_of_ne_nil
    (conditions_ne_nil field multiplicity value)
  have member : bindingKey pair.1.placeholder ∈
      (compiled (first :: others)).bindings.keys := by
    rw [mem_keys_bindings_compiled, List.flatMap_cons, conditionsEq, shape]
    exact List.mem_cons_self
  exact List.ne_nil_of_mem member

/-- A filter that is read has values, which are written under the placeholders
in its text. -/
theorem boundBy_of_ofParameters
    {parameters : List Parameter}
    {filter : Filter}
    (accepted : ofParameters parameters = .ok filter) :
    filter.BoundBy (filter.bindings.entries.map fun (key, value) =>
      (key, (Attribute.string value).toJson)) := by
  obtain ⟨nonempty, usable, -, rfl⟩ := ofParameters_eq_ok_iff.mp accepted
  have keys : ((compiled parameters).bindings.entries.map fun (key, value) =>
      (key, (Attribute.string value).toJson)).map Prod.fst =
        (compiled parameters).bindings.keys := by
    rw [List.map_map]
    rfl
  exact {
    nonempty := by
      intro none
      rw [none] at keys
      exact keys_bindings_compiled_ne_nil nonempty usable keys.symm
    once := by
      rw [keys]
      exact (compiled parameters).bindings.increase.nodup_keys
    named := by
      intro name
      rw [keys, tokens_text_compiled usable, mem_keys_bindings_compiled]
    texts := by
      intro name value member
      obtain ⟨⟨key, text⟩, isEntry, same⟩ := List.mem_map.mp member
      obtain ⟨rfl, rfl⟩ := Prod.mk.inj same
      exact ⟨text, TextMap.mem_entries_iff.mp isEntry, rfl⟩ }

end Filter

/-! ## The body of a request -/

namespace StoreClient

/-- The members of an object state a page: the table, the filter with its
values, the limit and the key after which the page begins, each exactly if there
is one, and nothing else. -/
structure StatesPage
    (client : StoreClient)
    (mode : ScanMode)
    (startKey : Option Item)
    (members : List (String × Json)) : Prop where
  /-- The table is named. -/
  table : Json.valuesNamed ["TableName"] members = [.string client.tableName]
  /-- Without a filter, there is neither an expression nor a value. -/
  unfiltered : mode = .all ->
    Json.valuesNamed ["FilterExpression"] members = [] ∧
      Json.valuesNamed ["ExpressionAttributeValues"] members = []
  /-- A filter is stated by its text and its values. -/
  filtered : ∀ filter, mode = .filtered filter ->
    Json.valuesNamed ["FilterExpression"] members = [.string filter.text] ∧
      ∃ values, Json.valuesNamed ["ExpressionAttributeValues"] members =
          [.object values] ∧
        filter.BoundBy values
  /-- Without a limit, there is no number. -/
  unlimited : client.pageLimit = none ->
    Json.valuesNamed ["Limit"] members = []
  /-- A limit is stated by a literal that is read as the limit. -/
  limited : ∀ limit, client.pageLimit = some limit ->
    ∃ literal : String,
      Json.valuesNamed ["Limit"] members = [.number literal] ∧
        Decimal.read? literal.toList = some limit
  /-- The key is given if there is one. -/
  startsAfter : Json.valuesNamed ["ExclusiveStartKey"] members =
    (startKey.map Item.toJson).toList
  /-- There are no other members. -/
  nothingElse : ∀ member ∈ members, member.1 ∈
    ["TableName", "FilterExpression", "ExpressionAttributeValues", "Limit",
      "ExclusiveStartKey"]

/-- A request asks for the page of a scan that begins after a key: the octets of
its body are read as one object, which states the page. -/
def AsksForPage
    (client : StoreClient)
    (mode : ScanMode)
    (request : SentRequest)
    (startKey : Option Item) : Prop :=
  ∃ members, Json.readOctets? (Utf8.octets request.body) =
      some (.object members) ∧
    client.StatesPage mode startKey members

/-- A member that is written has one of five names. -/
theorem name_of_mem_pageMembers
    {client : StoreClient}
    {mode : ScanMode}
    {startKey : Option Item}
    {member : String × Json}
    (inMembers : member ∈ client.pageMembers mode startKey) :
    member.1 ∈ ["TableName", "FilterExpression", "ExpressionAttributeValues",
      "Limit", "ExclusiveStartKey"] := by
  rw [pageMembers, List.append_assoc, List.append_assoc] at inMembers
  rcases List.mem_append.mp inMembers with ofTable | inRest
  · rw [List.mem_singleton.mp ofTable]
    simp
  · rcases List.mem_append.mp inRest with ofFilter | inLast
    · cases mode with
      | all => cases ofFilter
      | filtered filter =>
          rcases List.mem_pair.mp ofFilter with rfl | rfl
          · simp
          · simp
    · rcases List.mem_append.mp inLast with ofLimit | ofKey
      · rw [Option.mem_toList, Option.map_eq_some_iff] at ofLimit
        obtain ⟨limit, -, rfl⟩ := ofLimit
        simp
      · rw [Option.mem_toList, Option.map_eq_some_iff] at ofKey
        obtain ⟨key, -, rfl⟩ := ofKey
        simp

/-- The members that are written state the page. -/
theorem statesPage_pageMembers
    {parameters : List Parameter}
    {mode : ScanMode}
    (asksFor : Lookup.AsksFor parameters mode)
    (client : StoreClient)
    (startKey : Option Item) :
    client.StatesPage mode startKey (client.pageMembers mode startKey) where
  table := by
    rw [valuesNamed_pageMembers,
      valuesNamed_filterMembers_of_not_mem mode (by simp)]
    simp
  unfiltered := by
    rintro rfl
    rw [valuesNamed_pageMembers, valuesNamed_pageMembers]
    simp [filterMembers, Json.valuesNamed]
  filtered := by
    rintro filter rfl
    cases asksFor with
    | filtered accepted =>
        refine ⟨?_, _, ?_, Filter.boundBy_of_ofParameters accepted⟩
        · rw [valuesNamed_pageMembers, valuesNamed_filterMembers_filtered]
          simp
        · rw [valuesNamed_pageMembers, valuesNamed_filterMembers_filtered]
          simp [bindingsJson]
  unlimited := by
    intro unlimited
    rw [valuesNamed_pageMembers,
      valuesNamed_filterMembers_of_not_mem mode (by simp), unlimited]
    simp
  limited := by
    intro limit limited
    refine ⟨String.ofList (Decimal.digits limit), ?_, ?_⟩
    · rw [valuesNamed_pageMembers,
        valuesNamed_filterMembers_of_not_mem mode (by simp), limited]
      simp [Json.ofNat, Decimal.digits]
    · rw [String.toList_ofList, Decimal.read?_digits]
  startsAfter := by
    rw [valuesNamed_pageMembers,
      valuesNamed_filterMembers_of_not_mem mode (by simp)]
    simp
  nothingElse := fun _ => name_of_mem_pageMembers

/-- The request for the page beyond a key asks for this page. -/
theorem asksForPage_pageRequest
    {parameters : List Parameter}
    {mode : ScanMode}
    (asksFor : Lookup.AsksFor parameters mode)
    (client : StoreClient)
    (startKey : Option Item)
    (time : Instant) :
    client.AsksForPage mode (client.pageRequest mode startKey time)
      startKey := by
  refine ⟨_, ?_, statesPage_pageMembers asksFor client startKey⟩
  rw [Json.readOctets?_octets, read?_body_pageRequest]

/-! ## The requests of a scan -/

/-- A pull leaves the requests that have been received before it. -/
theorem received_prefix_pull
    (client : StoreClient)
    (scan : Scan)
    (network : Network) :
    network.received <+: (client.pull scan network).network.received := by
  obtain ⟨exchanges, answered⟩ := client.exists_answeredBy_pull scan network
  exact ⟨_, answered.received.symm⟩

/-- So does a scan that is drained. -/
theorem received_prefix_drain
    (client : StoreClient)
    (scan : Scan)
    (network : Network) :
    network.received <+: (client.drain scan network).2.received := by
  fun_induction drain client scan network with
  | case1 scan network finished =>
      exact client.received_prefix_pull scan network
  | case2 scan network record given rest inductionHypothesis =>
      exact (client.received_prefix_pull scan network).trans inductionHypothesis
  | case3 scan network fault given rest inductionHypothesis =>
      exact (client.received_prefix_pull scan network).trans inductionHypothesis

/-- The requests of some pulls are the first of those that a drained scan
sends. -/
theorem received_pullTimes_prefix_drain
    (client : StoreClient)
    (count : Nat)
    (scan : Scan)
    (network : Network) :
    (client.pullTimes count scan network).network.received <+:
      (client.drain scan network).2.received := by
  induction count generalizing scan network with
  | zero => exact client.received_prefix_drain scan network
  | succ count inductionHypothesis =>
      have others := inductionHypothesis (client.pull scan network).scan
        (client.pull scan network).network
      rw [drain_eq_givenFrom, givenFrom]
      cases given : (client.pull scan network).result with
      | record record => exact others
      | failed fault => exact others
      | finished =>
          have noRecord (record : StoredRecord) :
              (client.pull scan network).result ≠ .record record := by
            rw [given]
            intro isRecord
            cases isRecord
          have closed := client.closed_of_pull scan network noRecord
          -- The pulls behind the end meet a closed scan and send nothing.
          simp only [pullTimes, closed, pullTimes_closed]
          exact List.prefix_refl _

/-- A scan that is drained sends the requests of its run. -/
theorem received_drain_of_paging
    {client : StoreClient}
    (reaches : client.Reaches)
    {network : Network}
    {run : PagingRun}
    (paging : Paging none network.replies run)
    (mode : ScanMode) :
    (client.drain (.open mode) network).2.received = network.received ++
      client.requests mode network.clock network.received.length
        run.startKeys := by
  obtain ⟨records, -, pages⟩ :=
    pages_of_paging reaches paging mode .beginning network rfl rfl
  rw [drain_open_eq_store, store, pages, Network.after]

/-- Some pulls on a scan send requests for the first pages of its run. -/
theorem exists_received_pullTimes
    (client : StoreClient)
    (mode : ScanMode)
    {network : Network}
    {run : PagingRun}
    (paging : Paging none network.replies run)
    (count : Nat) :
    ∃ startKeys, startKeys <+: run.startKeys ∧
      (client.pullTimes count (.open mode) network).network.received =
        network.received ++
          client.requests mode network.clock network.received.length
            startKeys := by
  by_cases reaches : client.Reaches
  · obtain ⟨exchanges, -, received⟩ :=
      client.exists_exchanges_pullTimes count (.open mode) network
    have inDrain :=
      client.received_pullTimes_prefix_drain count (.open mode) network
    rw [received, received_drain_of_paging reaches paging,
      List.prefix_append_right_inj] at inDrain
    refine ⟨run.startKeys.take (exchanges.map Prod.fst).length,
      List.take_prefix _ _, ?_⟩
    rw [received, ← take_requests, ← List.prefix_iff_eq_take.mp inDrain]
  · refine ⟨[], List.nil_prefix, ?_⟩
    rw [pullTimes_of_not_reaches reaches count (.open mode) network network]
    exact (List.append_nil _).symm

end StoreClient

/-- Only the first page of a run begins after no key. -/
theorem Paging.startKeys_shape
    {key : Option Item}
    {replies : List Reply}
    {run : PagingRun}
    (paging : Paging key replies run) :
    run.startKeys = [] ∨
      ∃ later, run.startKeys = key :: later ∧ ∀ next ∈ later, next.isSome := by
  induction paging with
  | unanswered key => exact .inl rfl
  | failed key later fails => exact .inr ⟨[], rfl, nofun⟩
  | last key later carries => exact .inr ⟨[], rfl, nofun⟩
  | more key carries others inductionHypothesis =>
      refine .inr ⟨_, rfl, ?_⟩
      rcases inductionHypothesis with noKeys | ⟨later, keys, allSome⟩
      · rw [noKeys]
        exact nofun
      · rw [keys]
        exact List.forall_mem_cons.mpr ⟨rfl, allSome⟩

namespace StoreClient

/-- Every request for a page carries the filter of its scan. However often a
scan is pulled, its requests ask for the first pages of the run for the replies
to come: all of them name the table, the filter with its values and the limit,
and all but the first name the key with which the page before has ended. -/
theorem requests_carry_filter
    {parameters : List Parameter}
    {mode : ScanMode}
    (asksFor : Lookup.AsksFor parameters mode)
    (client : StoreClient)
    (network : Network)
    (count : Nat) :
    ∃ run requests startKeys,
      Paging none network.replies run ∧
        startKeys <+: run.startKeys ∧
        (client.pullTimes count (.open mode) network).network.received =
          network.received ++ requests ∧
        List.Forall₂ (client.AsksForPage mode) requests startKeys ∧
        ∀ index key, startKeys[index]? = some key ->
          (key.isSome ↔ 0 < index) := by
  obtain ⟨run, paging⟩ := Paging.exists_run none network.replies
  obtain ⟨startKeys, first, received⟩ :=
    client.exists_received_pullTimes mode paging count
  refine ⟨run, _, startKeys, paging, first, received,
    forall₂_requests (asksForPage_pageRequest asksFor client) _ _ _, ?_⟩
  intro index key atIndex
  have inRun : run.startKeys[index]? = some key := by
    obtain ⟨rest, whole⟩ := first
    obtain ⟨inBounds, -⟩ := List.getElem?_eq_some_iff.mp atIndex
    rw [← whole, List.getElem?_append_left inBounds, atIndex]
  rcases paging.startKeys_shape with noKeys | ⟨later, keys, allSome⟩
  · rw [noKeys] at inRun
    cases inRun
  · rw [keys] at inRun
    cases index with
    | zero =>
        obtain rfl := Option.some_inj.mp inRun
        simp
    | succ index =>
        have isSome := allSome key (List.mem_of_getElem? inRun)
        simp [isSome]

/-- A network that never answers one request. -/
def silentOnce : Network where
  replies := [.silent]
  received := []
  clock := fun _ => ⟨0, 0⟩

/-- The one request is sent there if any can be. -/
theorem received_pullTimes_silentOnce
    {client : StoreClient}
    (reaches : client.Reaches)
    (mode : ScanMode) :
    (client.pullTimes 1 (.open mode) silentOnce).network.received =
      [client.scanRequest (.open mode) silentOnce] :=
  congrArg (fun pull => pull.network.received)
    (fetch_cons_of_reaches reaches (.open mode) silentOnce .silent [])

/-- One request for the books of a title is sent, and it carries the filter. -/
theorem request_carries_filter_of_title :
    ∃ filter request,
      Filter.ofParameters [("title", some "Dune")] = .ok filter ∧
        ((localClient "us-west-1").pullTimes 1 (.open (.filtered filter))
          silentOnce).network.received = [request] ∧
        (localClient "us-west-1").AsksForPage (.filtered filter) request
          none := by
  obtain ⟨filter, accepted⟩ : ∃ filter,
      Filter.ofParameters [("title", some "Dune")] = .ok filter := ⟨_, rfl⟩
  have reaches : (localClient "us-west-1").Reaches := by decide
  have sent := received_pullTimes_silentOnce reaches (.filtered filter)
  obtain ⟨run, requests, startKeys, -, -, received, asks, keys⟩ :=
    requests_carry_filter (.filtered accepted) (localClient "us-west-1")
      silentOnce 1
  rw [sent] at received
  have same : requests = [_] := received.symm
  rw [same] at asks
  cases asks with
  | @cons _ key _ _ asksFirst others =>
      cases others
      have isFirst : key = none := by
        rw [← Option.not_isSome_iff_eq_none, keys 0 key rfl]
        exact Nat.lt_irrefl 0
      rw [isFirst] at asksFirst
      exact ⟨filter, _, accepted, sent, asksFirst⟩

end StoreClient

/-! ## Keys of pages -/

/-- Attribute values and items are read back from their texts. An attribute
value is read back within a depth exactly if it nests no deeper, and what is
read within a depth is such a value. The key of a page that has been read as an
item is read as the same item from its text in the request for the next page.
What is printed for a value or an item that has been read stays as it is. -/
theorem attributes_are_read_back_from_texts :
    (∀ value depth, Attribute.Ordered value ->
      ((Attribute.format depth).ofText? ((Attribute.format depth).text value) =
        some value ↔ value.toJson.nesting ≤ depth)) ∧
    (∀ depth source value,
      (Attribute.format depth).ofText? source = some value ->
        value.Ordered ∧ value.toJson.nesting ≤ depth) ∧
    (∀ depth source key, (Item.format depth).ofText? source = some key ->
      ∀ client mode time, ∃ members sent,
        Json.readOctets? (Utf8.octets
            (StoreClient.pageRequest client mode (some key) time).body) =
          some (.object members) ∧
        Json.valuesNamed ["ExclusiveStartKey"] members = [sent] ∧
        (Item.format depth).ofText? sent.render = some key) ∧
    (∀ depth source,
      ((Attribute.format depth).rewrite? source).bind
          (Attribute.format depth).rewrite? =
        (Attribute.format depth).rewrite? source) ∧
    ∀ depth source,
      ((Item.format depth).rewrite? source).bind (Item.format depth).rewrite? =
        (Item.format depth).rewrite? source := by
  refine ⟨?_, ?_, ?_, ?_, ?_⟩
  · intro value depth ordered
    rw [Json.Format.ofText?, Json.Format.text, Attribute.format,
      value.printable_toJson.read?_render]
    exact ordered.ofJson?_toJson_iff
  · intro depth source value read
    obtain ⟨json, -, jsonRead⟩ := Option.bind_eq_some_iff.mp read
    exact Attribute.ordered_and_nesting_le_of_ofJson? jsonRead
  · intro depth source key read client mode time
    obtain ⟨members, bodyRead, sent⟩ :=
      client.startsAfter_pageRequest mode (some key) time
    refine ⟨members, key.toJson, ?_, sent, ?_⟩
    · rw [Json.readOctets?_octets, bodyRead]
    · exact (Item.stable_format depth).ofText?_text read
  · intro depth source
    exact (Attribute.stable_format depth).rewrite?_rewrite? source
  · intro depth source
    exact (Item.stable_format depth).rewrite?_rewrite? source

/-- A map with a list, a quotation mark and an empty name. -/
def nestedAttribute : Attribute :=
  .map [("", .list [.string "\"", .null true]), ("tags", .strings ["a", "a"])]

/-- It is read back within the depth of all values. -/
theorem nestedAttribute_read_back :
    nestedAttribute.Ordered ∧
      (Attribute.format Json.depthLimit).ofText?
        ((Attribute.format Json.depthLimit).text nestedAttribute) =
          some nestedAttribute := by
  have ordered : nestedAttribute.Ordered := by
    refine .map (List.pairwise_pair.mpr (by decide)) ?_
    simp only [List.forall_mem_cons, List.not_mem_nil, false_imp_iff,
      implies_true, and_true]
    refine ⟨.list ?_, .strings _⟩
    simp only [List.forall_mem_cons, List.not_mem_nil, false_imp_iff,
      implies_true, and_true]
    exact ⟨.string _, .null _⟩
  refine ⟨ordered, ?_⟩
  exact (attributes_are_read_back_from_texts.1 _ _ ordered).mpr (by decide)

end BookLookup
