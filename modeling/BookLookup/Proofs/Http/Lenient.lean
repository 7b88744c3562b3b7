import BookLookup.Proofs.Filter.Decoding
import BookLookup.Proofs.Http.Parameters
import BookLookup.Proofs.Text.WellFormed

/-!
# Queries whose octets are no text

The octets that the names and values of a query stand for need not be UTF-8. They
are read leniently, and the request is answered like one that writes what has
been read, so that no request is refused for its octets as such. Only octets
that are UTF-8 are told by the scan that is asked for.
-/

namespace BookLookup

/-! ## Octets of queries -/

namespace FormQuery

/-- The octets that a name or a value stands for. -/
def octetsOf (written : List UInt8) : List UInt8 :=
  PercentEncoding.decodeOctets (written.map plusToSpace)

/-- The octets that the name and the value of a part stand for. -/
def octetPair (part : List UInt8) : List UInt8 × List UInt8 :=
  match Split.atFirst? 0x3D part with
  | some (name, value) => (octetsOf name, octetsOf value)
  | none => (octetsOf part, [])

/-- The octets that the names and values of a query stand for, in order. -/
def octetPairs (query : String) : List (List UInt8 × List UInt8) :=
  ((Split.pieces 0x26 (Utf8.octets query)).filter (!·.isEmpty)).map octetPair

/-- The text that octets are read as. -/
def lenient (octets : List UInt8) : String :=
  String.ofList (Utf8.decodeLossy octets)

/-- The octets of a name and a value, read one by one. -/
def lenientPair (pair : List UInt8 × List UInt8) : String × String :=
  (lenient pair.1, lenient pair.2)

/-- Octets are read as their text, or as one with U+FFFD in it. -/
inductive ReadsAs : List UInt8 -> String -> Prop where
  /-- The octets are those of the text. -/
  | exactly (text : String) : ReadsAs (Utf8.octets text) text
  /-- The octets are those of no text. -/
  | replaced
      {octets : List UInt8}
      {text : String}
      (illFormed : ¬ Utf8.WellFormed octets)
      (replacement : Char.ofNat 0xFFFD ∈ text.toList) :
      ReadsAs octets text

theorem octets_lenient
    {octets : List UInt8}
    (wellFormed : Utf8.WellFormed octets) :
    Utf8.octets (lenient octets) = octets := by
  rw [Utf8.octets, lenient, String.toList_ofList,
    wellFormed.encode_decodeLossy]

/-- Octets are read as their text, or as one with U+FFFD in it. -/
theorem readsAs_lenient (octets : List UInt8) :
    ReadsAs octets (lenient octets) := by
  by_cases wellFormed : Utf8.WellFormed octets
  · have exactly := ReadsAs.exactly (lenient octets)
    rwa [octets_lenient wellFormed] at exactly
  · refine .replaced wellFormed ?_
    rw [lenient, String.toList_ofList]
    exact Utf8.replacement_mem_decodeLossy wellFormed

/-- The name and the value of a pair are octets of texts. -/
structure WellFormedPair (pair : List UInt8 × List UInt8) : Prop where
  /-- The name is a text. -/
  name : Utf8.WellFormed pair.1
  /-- The value is a text. -/
  value : Utf8.WellFormed pair.2

/-- Pairs of texts are told by what is read. -/
theorem eq_of_map_lenientPair_eq
    {pairs others : List (List UInt8 × List UInt8)}
    (wellFormed : ∀ pair ∈ pairs, WellFormedPair pair)
    (othersWellFormed : ∀ pair ∈ others, WellFormedPair pair)
    (same : pairs.map lenientPair = others.map lenientPair) :
    pairs = others := by
  have restored {all : List (List UInt8 × List UInt8)}
      (allWellFormed : ∀ pair ∈ all, WellFormedPair pair) :
      (all.map lenientPair).map
        (fun read => (Utf8.octets read.1, Utf8.octets read.2)) = all := by
    rw [List.map_map]
    refine (List.map_congr_left fun pair member => ?_).trans (List.map_id all)
    have formed := allWellFormed pair member
    exact Prod.ext (octets_lenient formed.name) (octets_lenient formed.value)
  rw [← restored wellFormed, same, restored othersWellFormed]

/-- The pairs of a query are read from their octets one by one. -/
theorem pairs_eq_map_lenientPair (query : String) :
    pairs query = (octetPairs query).map lenientPair := by
  rw [pairs, octetPairs, List.map_map]
  refine List.map_congr_left fun part _ => ?_
  rw [Function.comp_apply, pair, octetPair]
  cases Split.atFirst? 0x3D part with
  | none =>
      have nothing : lenient [] = "" := by
        rw [lenient, Utf8.decodeLossy, Utf8.units]
        rfl
      exact Prod.ext rfl nothing.symm
  | some cut => rfl

end FormQuery

/-! ## What lookups tell of their parameters -/

namespace Lookup

/-- A lookup that has opened a scan was asked for it. -/
theorem asksFor_of_scan_run_eq
    {σ : Type}
    {store : BookStore σ}
    {signer : Signer}
    {asked : List String}
    {limit : Duration}
    {parameters : List Parameter}
    {state : σ}
    {mode : ScanMode}
    (opened : (run store signer asked limit parameters state).1.scan =
      some mode) :
    AsksFor parameters mode := by
  cases asks : modeOf parameters with
  | error fault =>
      rw [run_of_refused store signer asked limit state asks] at opened
      cases opened
  | ok asksMode =>
      rw [run, asks] at opened
      have isMode : some asksMode = some mode :=
        (scan_ofStream _ _ _ _ _).symm.trans opened
      obtain rfl := Option.some.inj isMode
      exact asksFor_of_modeOf_eq asks

/-- Only the same parameters ask for the same scan. -/
theorem AsksFor.unique
    {parameters others : List Parameter}
    {mode : ScanMode}
    (asksFor : AsksFor parameters mode)
    (othersAskFor : AsksFor others mode) :
    parameters = others := by
  cases asksFor with
  | all =>
      cases othersAskFor with
      | all => rfl
  | filtered compiled =>
      cases othersAskFor with
      | filtered othersCompiled =>
          exact Filter.ofParameters_injective compiled othersCompiled

end Lookup

/-- No field that may be used to filter has U+FFFD in its name. -/
theorem bookSchema_not_filterable
    {name : String}
    (replacement : Char.ofNat 0xFFFD ∈ name.toList) :
    ¬ bookSchema.Filterable name := by
  rintro ⟨field, isField, rfl, -⟩
  have plain : ∀ field ∈ bookSchema.fields,
      Char.ofNat 0xFFFD ∉ field.name.toList := by
    decide
  exact plain field isField replacement

/-- Parameters of which one has U+FFFD in its name are refused. -/
theorem Filter.exists_fault_of_replacement
    {parameters : List Parameter}
    {parameter : Parameter}
    (member : parameter ∈ parameters)
    (replacement : Char.ofNat 0xFFFD ∈ parameter.1.toList) :
    ∃ fault, ofParameters parameters = .error fault := by
  cases outcome : ofParameters parameters with
  | error fault => exact ⟨fault, rfl⟩
  | ok filter =>
      obtain ⟨-, usable, -⟩ := ofParameters_eq_ok_iff.mp outcome
      have filterable := (Schema.isSome_filterable?_iff
        bookSchema_names_nodup).mp (usable parameter member).1
      exact absurd filterable (bookSchema_not_filterable replacement)

/-- Only the failure for want of parameters has the code for invalid ones. -/
theorem HttpResponse.code?_ofBooks_ne
    {result : Except LookupFailure (List ListedRecord)}
    (notEmpty : result ≠ .error (.filter .empty)) :
    (ofBooks result).code? ≠ some "ERR_INVALID_PARAMS" := by
  cases result with
  | ok books =>
      rw [code?_ofBooks_ok]
      exact nofun
  | error failure =>
      have notEmptyFailure : failure ≠ .filter .empty :=
        fun isEmpty => notEmpty (congrArg Except.error isEmpty)
      obtain ⟨kind, ofKind⟩ := LookupFailure.exists_ofKind notEmptyFailure
      have row : (Envelope.ofError failure).code = kind.row.code :=
        congrArg FailureKind.Row.code (Envelope.row_ofError ofKind)
      rw [code?_ofBooks_error, row]
      cases kind <;> decide

/-! ## Requests -/

namespace HttpRequest

theorem parameters_eq_present_lenient (request : HttpRequest) :
    request.parameters =
      present ((FormQuery.octetPairs request.pathAndQuery.2).map
        FormQuery.lenientPair) := by
  rw [parameters, FormQuery.pairs_eq_map_lenientPair]
  rfl

theorem present_injective : Function.Injective present := by
  refine List.map_injective_iff.mpr fun first second same => ?_
  obtain ⟨sameField, sameValue⟩ := Prod.mk.inj same
  exact Prod.ext sameField (Option.some.inj sameValue)

/-- The request that writes what is read of the query. -/
def rewritten (request : HttpRequest) : HttpRequest :=
  { request with
    target := "/books?" ++
      CanonicalQuery.written (FormQuery.pairs request.pathAndQuery.2) }

theorem asksForBooks_rewritten (request : HttpRequest) :
    AsksForBooks request.rewritten.target
      (FormQuery.pairs request.pathAndQuery.2) :=
  .query _

theorem parameters_rewritten (request : HttpRequest) :
    request.rewritten.parameters = request.parameters :=
  request.asksForBooks_rewritten.parameters_eq

end HttpRequest

namespace Service

variable {σ : Type}

/-- A request is answered like the one that writes what is read of its query. -/
theorem serve_rewritten
    (service : Service σ)
    (state : ServiceState σ)
    {request : HttpRequest}
    (get : request.method = "GET")
    (path : request.pathAndQuery.1 = "/books") :
    service.serve state request.rewritten = service.serve state request := by
  have rewrittenPath : request.rewritten.pathAndQuery.1 = "/books" := by
    rw [request.asksForBooks_rewritten.pathAndQuery_eq]
  have servedRewritten := @serve_eq_serveBooks _ service state
    request.rewritten get rewrittenPath
  rw [serve_eq_serveBooks service state get path, servedRewritten, serveBooks,
    serveBooks, request.parameters_rewritten]
  rfl

/-- A request for books is served by what is read leniently of its query. -/
structure ReadsLeniently
    (service : Service σ)
    (state : ServiceState (σ × List ScanMode))
    (request : HttpRequest)
    (served : Served (σ × List ScanMode)) : Prop where
  /-- Each pair is a parameter that has what is read of its octets. -/
  parameters : request.parameters =
    HttpRequest.present ((FormQuery.octetPairs request.pathAndQuery.2).map
      FormQuery.lenientPair)
  /-- Octets of a text are read as the text, and others with U+FFFD in it. -/
  readings : ∀ pair ∈ FormQuery.octetPairs request.pathAndQuery.2,
    FormQuery.ReadsAs pair.1 (FormQuery.lenient pair.1) ∧
      FormQuery.ReadsAs pair.2 (FormQuery.lenient pair.2)
  /-- The lookup is made with these parameters. -/
  direct : service.ServesDirectly state request.parameters served
  /-- The request that writes what is read is served alike. -/
  rewritten : service.recording.serve state request.rewritten = served
  /-- It is not answered that the parameters are invalid. -/
  notInvalid : served.response.code? ≠ some "ERR_INVALID_PARAMS"
  /-- If a name is no text, the parameters are refused, and neither the store nor
  the signer is asked. -/
  refusedName : ∀ pair ∈ FormQuery.octetPairs request.pathAndQuery.2,
    ¬ Utf8.WellFormed pair.1 ->
    served.response.status = 400 ∧ served.state.store = state.store ∧
      ∃ fault, served.lookup = some ⟨none, [], .error (.filter fault)⟩

/-- It is not answered that the parameters of a request are invalid. -/
theorem code?_serveBooks_ne_invalidParams
    (service : Service σ)
    (state : ServiceState σ)
    (request : HttpRequest) :
    (service.serveBooks state request).response.code? ≠
      some "ERR_INVALID_PARAMS" := by
  rw [response_serveBooks, HttpResponse.code?_withRequestId]
  apply HttpResponse.code?_ofBooks_ne
  rw [lookUp_fst]
  apply Lookup.books_run_ne_empty

/-- Parameters of which a name has U+FFFD in it are refused before the store and
the signer are asked. -/
theorem ServesDirectly.refused_of_replacement
    {service : Service σ}
    {state : ServiceState (σ × List ScanMode)}
    {parameters : List Parameter}
    {served : Served (σ × List ScanMode)}
    (direct : service.ServesDirectly state parameters served)
    {parameter : Parameter}
    (member : parameter ∈ parameters)
    (replacement : Char.ofNat 0xFFFD ∈ parameter.1.toList) :
    served.response.status = 400 ∧ served.state.store = state.store ∧
      ∃ fault, served.lookup = some ⟨none, [], .error (.filter fault)⟩ := by
  obtain ⟨fault, refused⟩ :=
    Filter.exists_fault_of_replacement member replacement
  obtain ⟨isLookup, unopened⟩ :=
    direct.refused fault (List.ne_nil_of_mem member) refused
  refine ⟨?_, unopened, fault, isLookup ▸ direct.lookup⟩
  exact (direct.answer _ (congrArg Lookup.books isLookup)).1

/-- Every GET request for books is served by what is read leniently. -/
theorem readsLeniently
    (service : Service σ)
    (state : ServiceState (σ × List ScanMode))
    {request : HttpRequest}
    (get : request.method = "GET")
    (path : request.pathAndQuery.1 = "/books") :
    service.ReadsLeniently state request
      (service.recording.serve state request) := by
  have direct := service.servesDirectly state get path
  constructor
  case parameters => exact request.parameters_eq_present_lenient
  case readings =>
    exact fun pair _ =>
      ⟨FormQuery.readsAs_lenient pair.1, FormQuery.readsAs_lenient pair.2⟩
  case direct => exact direct
  case rewritten => exact service.recording.serve_rewritten state get path
  case notInvalid =>
    rw [serve_eq_serveBooks _ _ get path]
    exact service.recording.code?_serveBooks_ne_invalidParams state request
  case refusedName =>
    intro pair member illFormed
    have inParameters : (FormQuery.lenient pair.1,
        some (FormQuery.lenient pair.2)) ∈ request.parameters := by
      rw [request.parameters_eq_present_lenient]
      exact List.mem_map_of_mem (List.mem_map_of_mem member)
    refine direct.refused_of_replacement inParameters ?_
    rw [FormQuery.lenient, String.toList_ofList]
    exact Utf8.replacement_mem_decodeLossy illFormed

/-- Two requests for books that ask for the same scan have the same
parameters. -/
theorem parameters_eq_of_same_scan
    (service : Service σ)
    {state otherState : ServiceState (σ × List ScanMode)}
    {parameters others : List Parameter}
    {served otherServed : Served (σ × List ScanMode)}
    (direct : service.ServesDirectly state parameters served)
    (otherDirect : service.ServesDirectly otherState others otherServed)
    {mode : ScanMode}
    (asks : served.lookup.bind Lookup.scan = some mode)
    (otherAsks : otherServed.lookup.bind Lookup.scan = some mode) :
    parameters = others := by
  rw [direct.lookup] at asks
  rw [otherDirect.lookup] at otherAsks
  exact (Lookup.asksFor_of_scan_run_eq asks).unique
    (Lookup.asksFor_of_scan_run_eq otherAsks)

/-- A GET request for books is served by what is read leniently of its query, so
that it is not refused for octets that are no text. Two such requests that ask
for the same scan have the same parameters, and if all their octets are texts,
the octets are the same. -/
theorem queries_are_read_leniently
    (service : Service σ)
    (state : ServiceState (σ × List ScanMode))
    {request : HttpRequest}
    (get : request.method = "GET")
    (path : request.pathAndQuery.1 = "/books") :
    let served := service.recording.serve state request
    service.ReadsLeniently state request served ∧
      ∀ otherState other mode, other.method = "GET" ->
        other.pathAndQuery.1 = "/books" ->
        served.lookup.bind Lookup.scan = some mode ->
        (service.recording.serve otherState other).lookup.bind Lookup.scan =
          some mode ->
        let octets := FormQuery.octetPairs request.pathAndQuery.2
        let otherOctets := FormQuery.octetPairs other.pathAndQuery.2
        request.parameters = other.parameters ∧
          ((∀ pair ∈ octets, FormQuery.WellFormedPair pair) ->
            (∀ pair ∈ otherOctets, FormQuery.WellFormedPair pair) ->
            octets = otherOctets) := by
  intro served
  have reads := service.readsLeniently state get path
  refine ⟨reads, ?_⟩
  intro otherState other mode otherGet otherPath asks otherAsks octets
    otherOctets
  have otherReads := service.readsLeniently otherState otherGet otherPath
  have same := service.parameters_eq_of_same_scan reads.direct
    otherReads.direct asks otherAsks
  refine ⟨same, fun wellFormed othersWellFormed => ?_⟩
  rw [reads.parameters, otherReads.parameters] at same
  exact FormQuery.eq_of_map_lenientPair_eq wellFormed othersWellFormed
    (HttpRequest.present_injective same)

/-- How a service without books stands at first. -/
def atFirst : ServiceState (Unit × List ScanMode) :=
  ⟨((), []), [], .empty⟩

/-- A GET request for books with the octet of two digits as the title. -/
def titled (digits : String) : HttpRequest :=
  ⟨"GET", "/books?title=%" ++ digits, [], 7, ⟨0⟩⟩

/-- The title that is U+FFFD alone. -/
def replacedTitle : List Parameter :=
  [("title", some (String.ofList [Char.ofNat 0xFFFD]))]

/-- An octet that begins no character is read as U+FFFD alone. -/
theorem parameters_of_lead?_eq_none
    {request : HttpRequest}
    {octet : UInt8}
    (noLead : Utf8.lead? octet = none)
    (pairs : FormQuery.octetPairs request.pathAndQuery.2 =
      [(Utf8.octets "title", [octet])]) :
    request.parameters = replacedTitle := by
  have name : FormQuery.lenient (Utf8.octets "title") = "title" := by
    rw [FormQuery.lenient, Utf8.octets, Utf8.decodeLossy_encode,
      String.ofList_toList]
  have value : FormQuery.lenient [octet] =
      String.ofList [Char.ofNat 0xFFFD] := by
    rw [FormQuery.lenient, Utf8.decodeLossy,
      Utf8.units_cons_of_lead?_eq_none noLead, Utf8.units]
    rfl
  rw [request.parameters_eq_present_lenient, pairs]
  change [(FormQuery.lenient _, some (FormQuery.lenient _))] = _
  rw [name, value]
  rfl

theorem titled_asks :
    ∀ title ∈ [("FF", (0xFF : UInt8)), ("FE", 0xFE)],
      (titled title.1).pathAndQuery.1 = "/books" ∧
        FormQuery.octetPairs (titled title.1).pathAndQuery.2 =
          [(Utf8.octets "title", [title.2])] ∧
        Utf8.lead? title.2 = none := by
  decide +kernel

/-- A title of one octet that is no text is not refused: the store is asked for
books with the title U+FFFD. -/
theorem ill_formed_title_is_looked_up :
    (titled "FF").parameters = replacedTitle ∧
      (withoutBooks.recording.serve atFirst (titled "FF")).response.code? ≠
        some "ERR_INVALID_PARAMS" := by
  obtain ⟨path, pairs, noLead⟩ := titled_asks ("FF", 0xFF) (.head _)
  have reads := (withoutBooks.queries_are_read_leniently atFirst
    (rfl : (titled "FF").method = "GET") path).1
  exact ⟨parameters_of_lead?_eq_none noLead pairs, reads.notInvalid⟩

/-- Two titles of one octet each that is no text are answered with a list of
books, and the store is asked for the same scan. -/
theorem ill_formed_titles_ask_for_one_scan :
    ∃ mode, ∀ title ∈ [("FF", 0xFF), ("FE", 0xFE)],
      let request := titled title.1
      let served := withoutBooks.recording.serve atFirst request
      request.method = "GET" ∧ request.pathAndQuery.1 = "/books" ∧
        FormQuery.octetPairs request.pathAndQuery.2 =
          [(Utf8.octets "title", [title.2])] ∧
        ¬ Utf8.WellFormed [title.2] ∧
        served.response.status = 200 ∧ served.state.store.2 = [mode] := by
  have compiled : Filter.ofParameters replacedTitle =
      .ok (Filter.compiled replacedTitle) := by
    rfl
  have asksFor := Lookup.AsksFor.filtered compiled
  have listed : (withoutBooks.direct atFirst replacedTitle).1.books = .ok [] := by
    rw [Service.direct, Lookup.run, asksFor.modeOf_eq]
    rfl
  refine ⟨.filtered (Filter.compiled replacedTitle), ?_⟩
  intro title member request served
  obtain ⟨path, pairs, noLead⟩ := titled_asks title member
  have direct := @servesDirectly _ withoutBooks atFirst (titled title.1) rfl path
  rw [parameters_of_lead?_eq_none noLead pairs] at direct
  refine ⟨rfl, path, pairs, Utf8.not_wellFormed_of_lead?_eq_none noLead [],
    (direct.answer (.ok []) listed).1, ?_⟩
  rw [(direct.scanned _ asksFor).2]
  rfl

end Service
end BookLookup
