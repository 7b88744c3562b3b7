import BookLookup.Proofs.Http.Serving
import BookLookup.Proofs.Listing.Calls
import BookLookup.Proofs.Lookup

/-!
# The counters balance

However lookups and requests follow one another, the counters agree with what
has been done and with one another. Every event is accounted for where it
happens: a lookup accounts for the scan that it opens, the calls of the signer
and the refusal of its parameters, and a request for books for itself. Accounts
add up along a run.
-/

namespace BookLookup

open Observation (isCounted isTimed)

/-! ## Calls of the signer -/

namespace Lookup

/-- Calls of the signer go into no counter but their own. -/
theorem countP_callObservation_of_ne
    (calls : List SigningCall)
    (counter : Counter)
    (other : counter ≠ .signedUrls)
    (selector : List (String × String)) :
    (calls.map callObservation).countP (isCounted counter selector) = 0 := by
  rw [List.countP_map]
  refine List.countP_eq_zero.mpr fun call _ => ?_
  cases counter with
  | requests => exact Bool.false_ne_true
  | scans => exact Bool.false_ne_true
  | signedUrls => exact absurd rfl other
  | rejections => exact Bool.false_ne_true

/-- In their own they are counted by their outcomes. -/
theorem countP_callObservation
    (calls : List SigningCall)
    (wanted : String) :
    (calls.map callObservation).countP
        (isCounted .signedUrls [("outcome", wanted)]) =
      calls.countP fun call =>
        (if call.succeeded then "ok" else "error") == wanted := by
  rw [List.countP_map]
  refine List.countP_congr fun call _ => ?_
  rw [Function.comp_apply, callObservation, Observation.isCounted_signedUrls]

end Lookup

/-! ## Accounts -/

/-- Some events account for so many refused lookups, so many requests for
books, the scans that were opened and the calls of the signer. -/
structure Accounts
    (refused requests : Nat)
    (opened : List ScanMode)
    (calls : List SigningCall)
    (events : List Observation) : Prop where
  /-- Each mode is counted as often as a scan of it was opened. -/
  scans : ∀ mode,
    events.countP (isCounted .scans [("mode", mode)]) =
      opened.countP fun scan => Lookup.modeName scan == mode
  /-- Refusals are counted. -/
  rejections : events.countP (isCounted .rejections []) = refused
  /-- Calls that gave a link are counted. -/
  signed : events.countP (isCounted .signedUrls [("outcome", "ok")]) =
    calls.countP (·.succeeded)
  /-- Calls that gave none are counted. -/
  unsigned : events.countP (isCounted .signedUrls [("outcome", "error")]) =
    calls.countP (!·.succeeded)
  /-- A scan is given up for each of these. -/
  aborted : events.countP (isCounted .scans [("outcome", "aborted")]) =
    calls.countP (!·.succeeded)
  /-- Requests are counted. -/
  requests : events.countP (isCounted .requests [("route", "/books")]) =
    requests

namespace Accounts

theorem nil : Accounts 0 0 [] [] [] := by
  constructor
  case scans => exact fun _ => rfl
  all_goals rfl

/-- Accounts add up. -/
theorem append
    {refused moreRefused requests moreRequests : Nat}
    {opened moreOpened : List ScanMode}
    {calls moreCalls : List SigningCall}
    {events moreEvents : List Observation}
    (front : Accounts refused requests opened calls events)
    (back : Accounts moreRefused moreRequests moreOpened moreCalls moreEvents) :
    Accounts (refused + moreRefused) (requests + moreRequests)
      (opened ++ moreOpened) (calls ++ moreCalls) (events ++ moreEvents) := by
  constructor
  case scans =>
    intro mode
    rw [List.countP_append, List.countP_append, front.scans, back.scans]
  case rejections =>
    rw [List.countP_append, front.rejections, back.rejections]
  case signed =>
    rw [List.countP_append, List.countP_append, front.signed, back.signed]
  case unsigned =>
    rw [List.countP_append, List.countP_append, front.unsigned, back.unsigned]
  case aborted =>
    rw [List.countP_append, List.countP_append, front.aborted, back.aborted]
  case requests =>
    rw [List.countP_append, front.requests, back.requests]

theorem rejection (reason : String) :
    Accounts 1 0 [] [] [.rejection reason] := by
  constructor
  case scans => exact fun _ => rfl
  all_goals rfl

theorem request (status : Nat) (elapsed : Duration) :
    Accounts 0 1 [] [] [.request "/books" "GET" status elapsed] := by
  constructor
  case scans => exact fun _ => rfl
  all_goals rfl

/-- A scan accounts for itself and for the calls of the signer, if it is given
up exactly if one of them has failed. -/
theorem scan
    (mode : ScanMode)
    {outcome : String}
    {calls : List SigningCall}
    (givenUp : calls.countP (!·.succeeded) =
      if outcome = "aborted" then 1 else 0) :
    Accounts 0 0 [mode] calls
      (calls.map Lookup.callObservation ++
        [.scan (Lookup.modeName mode) outcome]) := by
  constructor
  case scans =>
    intro wanted
    rw [List.countP_append,
      Lookup.countP_callObservation_of_ne calls .scans nofun, Nat.zero_add,
      List.countP_singleton, List.countP_singleton,
      Observation.isCounted_scans_mode]
  case rejections =>
    rw [List.countP_append,
      Lookup.countP_callObservation_of_ne calls .rejections nofun]
    rfl
  case signed =>
    rw [List.countP_append, Lookup.countP_callObservation]
    refine List.countP_congr fun call _ => ?_
    cases call.succeeded <;> decide
  case unsigned =>
    rw [List.countP_append, Lookup.countP_callObservation]
    refine List.countP_congr fun call _ => ?_
    cases call.succeeded <;> decide
  case aborted =>
    rw [List.countP_append,
      Lookup.countP_callObservation_of_ne calls .scans nofun, Nat.zero_add,
      givenUp, List.countP_singleton, Observation.isCounted_scans_outcome]
    simp only [beq_iff_eq]
  case requests =>
    rw [List.countP_append,
      Lookup.countP_callObservation_of_ne calls .requests nofun]
    rfl

end Accounts

/-! ## Lookups -/

/-- Whether parameters are refused: there are some, and they do not compile. -/
def Filter.refuses (parameters : List Parameter) : Bool :=
  !parameters.isEmpty && !(Filter.ofParameters parameters).isOk

/-- Parameters are refused if they ask for no scan. -/
theorem Filter.refuses_eq (parameters : List Parameter) :
    Filter.refuses parameters = !(Lookup.modeOf parameters).isOk := by
  cases parameters with
  | nil => rfl
  | cons first others =>
      rw [Filter.refuses, Lookup.modeOf]
      cases Filter.ofParameters (first :: others) with
      | error fault => rfl
      | ok filter => rfl

/-- Among some events no scan is counted or no refusal. -/
def ScanOrRefusal (events : List Observation) : Prop :=
  events.countP (isCounted .scans []) = 0 ∨
    events.countP (isCounted .rejections []) = 0

/-- A request is neither. -/
theorem ScanOrRefusal.concat_request
    {events : List Observation}
    (once : ScanOrRefusal events)
    (route method : String)
    (status : Nat)
    (elapsed : Duration) :
    ScanOrRefusal (events ++ [.request route method status elapsed]) := by
  unfold ScanOrRefusal at once ⊢
  rw [List.countP_append, List.countP_append]
  exact once

namespace Lookup

/-- The events of a lookup account for it, and its calls are those of the
signer. -/
structure IsAccounted
    (signer : Signer)
    (asked : List String)
    (refused : Nat)
    (opened : List ScanMode)
    (lookup : Lookup) : Prop where
  /-- The signer is called for the keys of the lookup. -/
  calls : signer.callsFor asked lookup.keys = lookup.calls
  /-- The events account for what was done. -/
  accounts : Accounts refused 0 opened lookup.calls lookup.observations
  /-- A scan is counted or a refusal, not both. -/
  once : ScanOrRefusal lookup.observations

/-- A lookup that is refused is accounted for. -/
theorem isAccounted_of_refused
    (signer : Signer)
    (asked : List String)
    (fault : FilterFault) :
    IsAccounted signer asked 1 [] ⟨none, [], .error (.filter fault)⟩ where
  calls := rfl
  accounts := Accounts.rejection fault.reason
  once := .inl rfl

/-- A lookup that opened a scan is accounted for if it is given up exactly if a
call of the signer has failed. -/
theorem isAccounted_of_scanned
    {signer : Signer}
    {asked : List String}
    (mode : ScanMode)
    {calls : List SigningCall}
    {books : Except LookupFailure (List ListedRecord)}
    (called : signer.callsFor asked (calls.map SigningCall.key) = calls)
    (givenUp : calls.countP (!·.succeeded) =
      if outcomeName books = "aborted" then 1 else 0) :
    IsAccounted signer asked 0 [mode] ⟨some mode, calls, books⟩ where
  calls := called
  accounts := Accounts.scan mode givenUp
  once := .inr (Accounts.scan mode givenUp).rejections

/-- What is listed of a stream is accounted for. -/
theorem isAccounted_ofStream
    (signer : Signer)
    (asked : List String)
    (limit : Duration)
    (mode : ScanMode)
    (stream : BookStream) :
    IsAccounted signer asked 0 [mode]
      (ofStream signer asked limit mode stream) := by
  unfold ofStream
  split
  · exact isAccounted_of_scanned mode rfl rfl
  · split
    · exact isAccounted_of_scanned mode rfl rfl
    · exact isAccounted_of_scanned mode rfl rfl
    · apply isAccounted_of_scanned
      · exact Listing.callsFor_keys_ofRecords signer asked stream.records
      · rw [Listing.countP_failed_ofRecords]
        cases (Listing.ofRecords signer asked stream.records).books with
        | error fault => rfl
        | ok books => rfl

/-- A lookup opens one scan if its parameters are not refused and none
otherwise, and is accounted for. -/
theorem exists_isAccounted_run
    {σ : Type}
    (store : BookStore σ)
    (signer : Signer)
    (asked : List String)
    (limit : Duration)
    (parameters : List Parameter)
    (before : σ × List ScanMode) :
    let ran := run store.recording signer asked limit parameters before
    ∃ opened, ran.2.2 = before.2 ++ opened ∧
      ran.1.IsAccounted signer asked
        (if Filter.refuses parameters then 1 else 0) opened := by
  intro ran
  rw [Filter.refuses_eq]
  cases asks : modeOf parameters with
  | error fault =>
      have isRan : ran = (⟨none, [], .error (.filter fault)⟩, before) :=
        run_of_refused store.recording signer asked limit before asks
      rw [isRan]
      exact ⟨[], (List.append_nil _).symm,
        isAccounted_of_refused signer asked fault⟩
  | ok mode =>
      have isRan : ran =
          (ofStream signer asked limit mode (store mode before.1).1,
            (store mode before.1).2, before.2 ++ [mode]) := by
        change run store.recording signer asked limit parameters before = _
        rw [run, asks]
        rfl
      rw [isRan]
      exact ⟨[mode], rfl, isAccounted_ofStream signer asked limit mode _⟩

end Lookup

/-! ## Runs -/

/-- A service whose store also keeps which scans have been opened. -/
def Service.recording
    {σ : Type}
    (service : Service σ) : Service (σ × List ScanMode) where
  store := service.store.recording
  signer := service.signer
  limit := service.limit

/-- One thing that is asked of a service. Each time it may be another one, with
the same store behind it. -/
inductive Visit (σ : Type) where
  /-- A lookup by itself. -/
  | direct (service : Service σ) (parameters : List Parameter)
  /-- A request on any route. -/
  | routed (service : Service σ) (request : HttpRequest)

namespace Visit

variable {σ : Type}

/-- The service that is visited. -/
def service : Visit σ -> Service σ
  | direct service _ => service
  | routed service _ => service

/-- How the service stands afterwards. -/
def after
    (state : ServiceState (σ × List ScanMode)) :
      Visit σ -> ServiceState (σ × List ScanMode)
  | direct service parameters =>
      (service.recording.lookUp state parameters).2
  | routed service request =>
      (service.recording.serve state request).state

/-- Whether it is a request for books. -/
def isForBooks : Visit σ -> Bool
  | direct _ _ => false
  | routed _ request => request.isForBooks

/-- Whether it is a lookup that is refused. -/
def isRefused : Visit σ -> Bool
  | direct _ parameters => Filter.refuses parameters
  | routed _ request =>
      request.isForBooks && Filter.refuses request.parameters

end Visit

/-- What has happened so far. -/
structure Run (σ : Type) where
  /-- How the service stands, and which scans have been opened. -/
  state : ServiceState (σ × List ScanMode)
  /-- The calls of the signer. -/
  calls : List SigningCall

namespace Run

variable {σ : Type}

/-- Nothing has been counted, opened or called yet. The signer may have been
asked for some keys elsewhere. -/
def start (store : σ) (asked : List String) : Run σ :=
  ⟨⟨(store, []), asked, .empty⟩, []⟩

/-- The scans that have been opened. -/
def opened (run : Run σ) : List ScanMode :=
  run.state.store.2

/-- What has been counted. -/
def registry (run : Run σ) : Registry :=
  run.state.registry

/-- One visit more. The signer is called for the keys that are new. -/
def visit (run : Run σ) (visit : Visit σ) : Run σ :=
  let after := visit.after run.state
  { state := after
    calls := run.calls ++ visit.service.signer.callsFor run.state.asked
      (after.asked.drop run.state.asked.length) }

theorem state_visit (run : Run σ) (visit : Visit σ) :
    (run.visit visit).state = visit.after run.state := rfl

theorem calls_visit (run : Run σ) (visit : Visit σ) :
    (run.visit visit).calls =
      run.calls ++ visit.service.signer.callsFor run.state.asked
        ((visit.after run.state).asked.drop run.state.asked.length) := rfl

/-- Several visits more. -/
def visitAll (run : Run σ) (visits : List (Visit σ)) : Run σ :=
  visits.foldl Run.visit run

/-- Some events have been counted from one point of a run to another, and
account for what has happened between. -/
structure Grows
    (before after : Run σ)
    (refused requests : Nat)
    (events : List Observation) : Prop where
  /-- The events have been counted. -/
  registry : after.registry = before.registry.observeAll events
  /-- They account for the scans and the calls. -/
  accounts : ∃ opened calls,
    after.opened = before.opened ++ opened ∧
      after.calls = before.calls ++ calls ∧
      Accounts refused requests opened calls events

theorem Grows.refl (run : Run σ) :
    Grows run run 0 0 [] :=
  ⟨rfl, [], [], (List.append_nil _).symm, (List.append_nil _).symm, .nil⟩

/-- What is added in two parts is added. -/
theorem Grows.trans
    {first second third : Run σ}
    {refused moreRefused requests moreRequests : Nat}
    {events moreEvents : List Observation}
    (front : Grows first second refused requests events)
    (back : Grows second third moreRefused moreRequests moreEvents) :
    Grows first third (refused + moreRefused) (requests + moreRequests)
      (events ++ moreEvents) := by
  obtain ⟨opened, calls, isOpened, isCalled, accounts⟩ := front.accounts
  obtain ⟨moreOpened, moreCalls, areOpened, areCalled, moreAccounts⟩ :=
    back.accounts
  refine ⟨?_, opened ++ moreOpened, calls ++ moreCalls, ?_, ?_,
    accounts.append moreAccounts⟩
  · rw [back.registry, front.registry, Registry.observeAll_append]
  · rw [areOpened, isOpened, List.append_assoc]
  · rw [areCalled, isCalled, List.append_assoc]

/-- A request that is counted is added. -/
theorem Grows.request
    {before after : Run σ}
    {status : Nat}
    {elapsed : Duration}
    (store : after.state.store = before.state.store)
    (counted : after.registry = before.registry.observe
      (.request "/books" "GET" status elapsed))
    (calls : after.calls = before.calls) :
    Grows before after 0 1 [.request "/books" "GET" status elapsed] := by
  refine ⟨counted, [], [], ?_, ?_, .request status elapsed⟩
  · rw [List.append_nil]
    exact congrArg Prod.snd store
  · rw [List.append_nil]
    exact calls

/-- A lookup adds its own events. -/
theorem grows_direct
    (run : Run σ)
    (service : Service σ)
    (parameters : List Parameter) :
    ∃ events,
      Grows run (run.visit (.direct service parameters))
          (if Filter.refuses parameters then 1 else 0) 0 events ∧
        ScanOrRefusal events := by
  obtain ⟨opened, isOpened, accounted⟩ :=
    Lookup.exists_isAccounted_run service.store service.signer
      run.state.asked service.limit parameters run.state.store
  have called := accounted.calls
  refine ⟨_, ⟨rfl, opened, _, isOpened, ?_, accounted.accounts⟩,
    accounted.once⟩
  rw [← called, visit]
  simp only [Visit.after, Service.lookUp, List.drop_left]
  rfl

/-- A request for books adds the events of its lookup and itself. -/
theorem grows_routed
    (run : Run σ)
    (service : Service σ)
    {request : HttpRequest}
    (forBooks : request.isForBooks) :
    ∃ events,
      Grows run (run.visit (.routed service request))
          (if Filter.refuses request.parameters then 1 else 0) 1 events ∧
        ScanOrRefusal events := by
  obtain ⟨events, grows, once⟩ :=
    run.grows_direct service request.parameters
  obtain ⟨looked, isLooked⟩ : ∃ looked,
      looked = service.recording.lookUp run.state request.parameters := ⟨_, rfl⟩
  have direct : (run.visit (.direct service request.parameters)).state =
      looked.2 := by
    rw [isLooked, state_visit, Visit.after]
  have routed : (run.visit (.routed service request)).state =
      Service.counting request looked := by
    rw [isLooked, state_visit, Visit.after]
    exact service.recording.state_serve_of_isForBooks run.state forBooks
  have counted : Grows (run.visit (.direct service request.parameters))
      (run.visit (.routed service request)) 0 1
      [.request "/books" "GET" (HttpResponse.ofBooks looked.1.books).status
        request.elapsed] := by
    apply Grows.request
    · rw [routed, direct]
      rfl
    · rw [registry, registry, routed, direct]
      rfl
    · rw [calls_visit, calls_visit, ← state_visit, ← state_visit, routed,
        direct]
      rfl
  have both := grows.trans counted
  rw [Nat.add_zero, Nat.zero_add] at both
  exact ⟨_, both, once.concat_request _ _ _ _⟩

/-- Any other request adds nothing. -/
theorem visit_routed_of_not_isForBooks
    (run : Run σ)
    (service : Service σ)
    {request : HttpRequest}
    (other : request.isForBooks = false) :
    run.visit (.routed service request) = run := by
  have unchanged :=
    (service.recording.servedAside_serve run.state other).unchanged
  unfold visit
  simp only [Visit.after, unchanged, List.drop_length, Signer.callsFor,
    List.append_nil]

/-- Every visit adds events that account for it. -/
theorem grows_visit
    (run : Run σ)
    (visit : Visit σ) :
    ∃ events,
      Grows run (run.visit visit)
          (if visit.isRefused then 1 else 0)
          (if visit.isForBooks then 1 else 0) events ∧
        ScanOrRefusal events := by
  cases visit with
  | direct service parameters => exact run.grows_direct service parameters
  | routed service request =>
      cases forBooks : request.isForBooks with
      | true =>
          simp only [Visit.isRefused, Visit.isForBooks, forBooks, Bool.true_and]
          exact run.grows_routed service forBooks
      | false =>
          simp only [Visit.isRefused, Visit.isForBooks, forBooks,
            Bool.false_and, run.visit_routed_of_not_isForBooks service forBooks]
          exact ⟨[], .refl run, .inl rfl⟩

/-- So do several visits. -/
theorem grows_visitAll
    (run : Run σ)
    (visits : List (Visit σ)) :
    ∃ events,
      Grows run (run.visitAll visits) (visits.countP Visit.isRefused)
        (visits.countP Visit.isForBooks) events := by
  induction visits generalizing run with
  | nil => exact ⟨[], .refl run⟩
  | cons visit later inductionHypothesis =>
      obtain ⟨events, grows, -⟩ := run.grows_visit visit
      obtain ⟨laterEvents, growsLater⟩ := inductionHypothesis (run.visit visit)
      refine ⟨events ++ laterEvents, ?_⟩
      rw [List.countP_cons, List.countP_cons, Nat.add_comm,
        Nat.add_comm (List.countP Visit.isForBooks later)]
      exact grows.trans growsLater

/-! ## The balance -/

/-- After some visits the counters agree with what has been done and with one
another. -/
structure Balanced (run : Run σ) (visits : List (Visit σ)) : Prop where
  /-- Over all outcomes, each mode is counted as often as a scan of it was
  opened. -/
  scans : ∀ mode,
    run.registry.sum .scans [("mode", mode)] =
      run.opened.countP fun scan => Lookup.modeName scan == mode
  /-- Over all reasons, the refusals are the refused lookups. -/
  rejections : run.registry.sum .rejections [] =
    visits.countP Visit.isRefused
  /-- The links are the calls of the signer that gave one. -/
  signed : run.registry.sum .signedUrls [("outcome", "ok")] =
    run.calls.countP (·.succeeded)
  /-- The failures to sign are the calls that gave none. -/
  unsigned : run.registry.sum .signedUrls [("outcome", "error")] =
    run.calls.countP (!·.succeeded)
  /-- Over both modes, one scan is given up for each of them. -/
  aborted : run.registry.sum .signedUrls [("outcome", "error")] =
    run.registry.sum .scans [("outcome", "aborted")]
  /-- Over all statuses, the requests for books are those that came. -/
  requests : run.registry.sum .requests [("route", "/books")] =
    visits.countP Visit.isForBooks
  /-- Over all outcomes, as many times are kept as requests are counted. -/
  times : run.registry.timeCount [("route", "/books")] =
    run.registry.sum .requests [("route", "/books")]
  /-- Of these, the successes have the statuses from 200 to 399. -/
  successes :
    run.registry.timeCount [("outcome", "success"), ("route", "/books")] =
      (successStatuses.map fun status =>
        run.registry.sum .requests
          [("route", "/books"), ("status", Decimal.text status)]).sum

/-- One visit more is not counted both as a scan and as a refusal. -/
def CountsOnce (run : Run σ) (visit : Visit σ) : Prop :=
  (run.visit visit).registry.sum .scans [] = run.registry.sum .scans [] ∨
    (run.visit visit).registry.sum .rejections [] =
      run.registry.sum .rejections []

/-- What has been added since the start is in balance. -/
theorem Grows.balanced
    {store : σ}
    {asked : List String}
    {run : Run σ}
    {visits : List (Visit σ)}
    {events : List Observation}
    (grows : Grows (start store asked) run (visits.countP Visit.isRefused)
      (visits.countP Visit.isForBooks) events) :
    run.Balanced visits := by
  obtain ⟨opened, calls, isOpened, isCalled, accounts⟩ := grows.accounts
  have areOpened : run.opened = opened := isOpened
  have areCalled : run.calls = calls := isCalled
  have counted : run.registry = Registry.empty.observeAll events :=
    grows.registry
  constructor
  case scans =>
    intro mode
    rw [counted, Registry.sum_observeAll_empty, areOpened, accounts.scans]
  case rejections =>
    rw [counted, Registry.sum_observeAll_empty, accounts.rejections]
  case signed =>
    rw [counted, Registry.sum_observeAll_empty, areCalled, accounts.signed]
  case unsigned =>
    rw [counted, Registry.sum_observeAll_empty, areCalled, accounts.unsigned]
  case aborted =>
    rw [counted, Registry.sum_observeAll_empty, Registry.sum_observeAll_empty,
      accounts.unsigned, accounts.aborted]
  case requests =>
    rw [counted, Registry.sum_observeAll_empty, accounts.requests]
  case times =>
    rw [counted, Registry.timeCount_observeAll_empty,
      Registry.sum_observeAll_empty, Observation.isTimed_route_eq]
  case successes =>
    simp only [counted, Registry.timeCount_observeAll_empty,
      Registry.sum_observeAll_empty]
    exact countP_eq_sum_countP
      (Observation.countP_isCounted_successStatuses "/books") events

/-- After any lookups and requests, in any order and however they end, the
counters are in balance, and the next one is not counted both as a scan and as
a refusal. -/
theorem balanced_visitAll
    (store : σ)
    (asked : List String)
    (visits : List (Visit σ)) :
    ((start store asked).visitAll visits).Balanced visits ∧
      ∀ visit, ((start store asked).visitAll visits).CountsOnce visit := by
  obtain ⟨events, grows⟩ := (start store asked).grows_visitAll visits
  refine ⟨grows.balanced, ?_⟩
  intro visit
  obtain ⟨added, growsOn, once⟩ :=
    ((start store asked).visitAll visits).grows_visit visit
  have ordered : ((start store asked).visitAll visits).registry.Ordered := by
    rw [grows.registry]
    exact Registry.ordered_empty.observeAll events
  unfold CountsOnce
  rw [growsOn.registry, Registry.sum_observeAll ordered,
    Registry.sum_observeAll ordered]
  rcases once with noScan | noRefusal
  · rw [noScan]
    exact .inl rfl
  · rw [noRefusal]
    exact .inr rfl

/-- A lookup that is refused, and one whose signer fails for the second book. -/
example :
    let service : Service Unit :=
      ⟨Lookup.storeOf
          [.gives Lookup.bookWithImage, .gives Lookup.bookWithImage, .ends],
        fun asked key => if asked = [] then .ok key else .error .emptyKey,
        ⟨0⟩⟩
    let registry := ((start () []).visitAll
      [.direct service [("title", none)], .direct service []]).registry
    registry.sum .rejections [] = 1 ∧
      registry.sum .scans [("outcome", "aborted")] = 1 ∧
      registry.sum .signedUrls [("outcome", "ok")] = 1 := by
  decide

end Run
end BookLookup
