import BookLookup.Lookup
import BookLookup.Proofs.Filter.Refusal

/-!
# A lookup is all or nothing

A lookup follows the stream of its scan event by event until the stream fails or
ends or the time limit has passed. Only a stream that ends in time is listed,
with all its books. The store is asked for one scan, unless the parameters are
refused, and the signer for nothing before the stream has ended.
-/

namespace BookLookup

/-! ## Streams as events -/

/-- What happens to the reader of a stream. -/
inductive StreamEvent where
  | gives (record : StoredRecord)
  | waits (span : Duration)
  | fails (fault : StoreFailure)
  | ends

namespace BookStream

/-- The stream of some events. Nothing is met after a failure or an end, and
without either nothing comes any more after the last event. -/
def ofEvents : List StreamEvent -> BookStream
  | [] => ⟨[], .stalled, ⟨0⟩⟩
  | .gives record :: others =>
      let stream := ofEvents others
      { stream with records := record :: stream.records }
  | .waits span :: others =>
      let stream := ofEvents others
      { stream with
        wait := ⟨span.nanoseconds + stream.wait.nanoseconds⟩ }
  | .fails fault :: _ => ⟨[], .failed fault, ⟨0⟩⟩
  | .ends :: _ => ⟨[], .finished, ⟨0⟩⟩

/-- The events of an ending. -/
def endingEvents : Ending -> List StreamEvent
  | .finished => [.ends]
  | .failed fault => [.fails fault]
  | .stalled => []

/-- Every stream is that of some events. -/
theorem exists_ofEvents (stream : BookStream) :
    ∃ events, stream = ofEvents events := by
  obtain ⟨records, ending, wait⟩ := stream
  refine ⟨.waits wait :: (records.map .gives ++ endingEvents ending), ?_⟩
  have unhurried : ofEvents (records.map .gives ++ endingEvents ending) =
      ⟨records, ending, ⟨0⟩⟩ := by
    induction records with
    | nil =>
        cases ending with
        | finished => rfl
        | failed fault => rfl
        | stalled => rfl
    | cons first others inductionHypothesis =>
        rw [List.map_cons, List.cons_append, ofEvents, inductionHypothesis]
  rw [ofEvents, unhurried, Nat.add_zero]

end BookStream

namespace StreamEvent

/-- The book that comes, if one does. -/
def record? : StreamEvent -> Option StoredRecord
  | gives record => some record
  | _ => none

/-- For how long nothing comes, in nanoseconds. -/
def span : StreamEvent -> Nat
  | gives _ => 0
  | waits span => span.nanoseconds
  | fails _ => 0
  | ends => 0

/-- The stream goes on. -/
def GoesOn : StreamEvent -> Prop
  | gives _ => True
  | waits _ => True
  | fails _ => False
  | ends => False

/-- The books of some events. -/
def records (events : List StreamEvent) : List StoredRecord :=
  events.filterMap record?

/-- How long a reader waits in all, in nanoseconds. -/
def waiting : List StreamEvent -> Nat
  | [] => 0
  | event :: later => event.span + waiting later

@[simp] theorem records_nil : records [] = [] := rfl

@[simp] theorem records_gives
    (record : StoredRecord)
    (others : List StreamEvent) :
    records (gives record :: others) = record :: records others := rfl

@[simp] theorem records_waits
    (span : Duration)
    (others : List StreamEvent) :
    records (waits span :: others) = records others := rfl

@[simp] theorem waiting_nil : waiting [] = 0 := rfl

@[simp] theorem waiting_gives
    (record : StoredRecord)
    (others : List StreamEvent) :
    waiting (gives record :: others) = waiting others := by
  rw [waiting, span, Nat.zero_add]

@[simp] theorem waiting_waits
    (span : Duration)
    (others : List StreamEvent) :
    waiting (waits span :: others) = span.nanoseconds + waiting others := rfl

end StreamEvent

/-! ## Following a stream -/

namespace Lookup

/-- Keep the books of a stream until it ends. A failure or an instant beyond the
limit is met at once, and what has been kept is given up. -/
def collect
    (limit : Duration) : Nat -> List StoredRecord -> List StreamEvent ->
      Except LookupFailure (List StoredRecord)
  | _, _, [] => .error (.timeout limit)
  | elapsed, kept, .gives record :: later =>
      collect limit elapsed (kept ++ [record]) later
  | elapsed, kept, .waits span :: later =>
      if limit.nanoseconds < elapsed + span.nanoseconds then
        .error (.timeout limit)
      else collect limit (elapsed + span.nanoseconds) kept later
  | _, _, .fails fault :: _ => .error (.store fault)
  | _, kept, .ends :: _ => .ok kept

/-- What is listed of the books that have been kept. -/
def ofCollected
    (signer : Signer)
    (asked : List String)
    (mode : ScanMode) : Except LookupFailure (List StoredRecord) -> Lookup
  | .error failure => ⟨some mode, [], .error failure⟩
  | .ok records =>
      let listing := Listing.ofRecords signer asked records
      ⟨some mode, listing.calls, listing.books.mapError .signing⟩

/-- To follow a stream from some instant on, with some books kept, is to wait so
much longer for the stream with these books in front. -/
theorem ofCollected_collect
    (signer : Signer)
    (asked : List String)
    {limit : Duration}
    (mode : ScanMode)
    {elapsed : Nat}
    (inTime : elapsed ≤ limit.nanoseconds)
    (kept : List StoredRecord)
    (events : List StreamEvent) :
    ofCollected signer asked mode (collect limit elapsed kept events) =
      ofStream signer asked limit mode
        { BookStream.ofEvents events with
          records := kept ++ (BookStream.ofEvents events).records
          wait := ⟨elapsed + (BookStream.ofEvents events).wait.nanoseconds⟩ } := by
  induction events generalizing elapsed kept with
  | nil =>
      rw [collect, ofStream]
      split
      · rfl
      · rfl
  | cons event later inductionHypothesis =>
      cases event with
      | gives record =>
          rw [collect, inductionHypothesis inTime]
          simp [BookStream.ofEvents]
      | waits span =>
          rw [collect]
          split
          · rename_i tooLate
            have never : limit.nanoseconds < elapsed + (span.nanoseconds +
                (BookStream.ofEvents later).wait.nanoseconds) := by
              omega
            simp [ofCollected, ofStream, BookStream.ofEvents, never]
          · rename_i still
            rw [inductionHypothesis (Nat.le_of_not_lt still)]
            simp [BookStream.ofEvents, Nat.add_assoc]
      | fails fault =>
          simp [collect, ofCollected, ofStream, BookStream.ofEvents,
            Nat.not_lt.mpr inTime]
      | ends =>
          simp [collect, ofCollected, ofStream, BookStream.ofEvents,
            Nat.not_lt.mpr inTime]

/-- A stream is listed by following its events from the beginning. -/
theorem ofStream_ofEvents
    (signer : Signer)
    (asked : List String)
    (limit : Duration)
    (mode : ScanMode)
    (events : List StreamEvent) :
    ofStream signer asked limit mode (.ofEvents events) =
      ofCollected signer asked mode (collect limit 0 [] events) := by
  rw [ofCollected_collect signer asked mode (Nat.zero_le _)]
  simp

/-- Events after which a stream goes on are waited for, and their books kept. -/
theorem collect_append
    {limit : Duration}
    {elapsed : Nat}
    (inTime : elapsed ≤ limit.nanoseconds)
    (kept : List StoredRecord)
    {front : List StreamEvent}
    (goesOn : ∀ event ∈ front, event.GoesOn)
    (later : List StreamEvent) :
    collect limit elapsed kept (front ++ later) =
      if limit.nanoseconds < elapsed + StreamEvent.waiting front then
        .error (.timeout limit)
      else
        collect limit (elapsed + StreamEvent.waiting front)
          (kept ++ StreamEvent.records front) later := by
  induction front generalizing elapsed kept with
  | nil => simp [Nat.not_lt.mpr inTime]
  | cons event others inductionHypothesis =>
      obtain ⟨here, onwards⟩ := List.forall_mem_cons.mp goesOn
      cases event with
      | gives record =>
          rw [List.cons_append, collect, inductionHypothesis inTime _ onwards]
          simp
      | waits span =>
          rw [List.cons_append, collect]
          split
          · rename_i tooLate
            have never : limit.nanoseconds < elapsed +
                StreamEvent.waiting (.waits span :: others) := by
              rw [StreamEvent.waiting_waits]
              omega
            rw [if_pos never]
          · rename_i still
            rw [inductionHypothesis (Nat.le_of_not_lt still) _ onwards,
              StreamEvent.waiting_waits, StreamEvent.records_waits,
              Nat.add_assoc]
      | fails fault => exact here.elim
      | ends => exact here.elim

/-! ## All or nothing -/

/-- What a lookup makes of a stream within a time limit. -/
structure AllOrNothing
    (signer : Signer)
    (asked : List String)
    (limit : Duration)
    (stream : BookStream)
    (lookup : Lookup) : Prop where
  /-- A failure that is met in time is the result, whatever books came before
  it. The signer is not asked. -/
  failed : ∀ front fault later,
    stream = .ofEvents (front ++ .fails fault :: later) ->
    (∀ event ∈ front, event.GoesOn) ->
    StreamEvent.waiting front ≤ limit.nanoseconds ->
    lookup.calls = [] ∧ lookup.books = .error (.store fault)
  /-- A stream that neither fails nor ends exceeds the limit, whatever books it
  gives. The signer is not asked. -/
  hung : ∀ events,
    stream = .ofEvents events ->
    (∀ event ∈ events, event.GoesOn) ->
    lookup.calls = [] ∧ lookup.books = .error (.timeout limit)
  /-- Neither does it matter what comes behind the limit. -/
  late : ∀ front later,
    stream = .ofEvents (front ++ later) ->
    (∀ event ∈ front, event.GoesOn) ->
    limit.nanoseconds < StreamEvent.waiting front ->
    lookup.calls = [] ∧ lookup.books = .error (.timeout limit)
  /-- A stream that ends in time is listed as a whole. -/
  listed : ∀ front later,
    stream = .ofEvents (front ++ .ends :: later) ->
    (∀ event ∈ front, event.GoesOn) ->
    StreamEvent.waiting front ≤ limit.nanoseconds ->
    lookup.calls = (Listing.ofRecords signer asked
        (StreamEvent.records front)).calls ∧
      lookup.books = (Listing.ofRecords signer asked
        (StreamEvent.records front)).books.mapError .signing

/-- The scan of a stream is that which was asked for. -/
theorem scan_ofStream
    (signer : Signer)
    (asked : List String)
    (limit : Duration)
    (mode : ScanMode)
    (stream : BookStream) :
    (ofStream signer asked limit mode stream).scan = some mode := by
  rw [ofStream]
  split
  · rfl
  · split
    · rfl
    · rfl
    · rfl

/-- A stream is listed as a whole or not at all. -/
theorem allOrNothing_ofStream
    (signer : Signer)
    (asked : List String)
    (limit : Duration)
    (mode : ScanMode)
    (stream : BookStream) :
    AllOrNothing signer asked limit stream
      (ofStream signer asked limit mode stream) := by
  have collected (front later : List StreamEvent)
      (goesOn : ∀ event ∈ front, event.GoesOn) :=
    collect_append (Nat.zero_le limit.nanoseconds) [] goesOn later
  simp only [Nat.zero_add, List.nil_append] at collected
  constructor
  case failed =>
    rintro front fault later rfl goesOn inTime
    rw [ofStream_ofEvents, collected _ _ goesOn, if_neg (Nat.not_lt.mpr inTime)]
    exact ⟨rfl, rfl⟩
  case hung =>
    rintro events rfl goesOn
    rw [ofStream_ofEvents, ← List.append_nil events, collected _ _ goesOn]
    split
    · exact ⟨rfl, rfl⟩
    · exact ⟨rfl, rfl⟩
  case late =>
    rintro front later rfl goesOn tooLate
    rw [ofStream_ofEvents, collected _ _ goesOn, if_pos tooLate]
    exact ⟨rfl, rfl⟩
  case listed =>
    rintro front later rfl goesOn inTime
    rw [ofStream_ofEvents, collected _ _ goesOn, if_neg (Nat.not_lt.mpr inTime)]
    exact ⟨rfl, rfl⟩

end Lookup

/-! ## What the store is asked for -/

/-- A store that also keeps which scans have been opened. -/
def BookStore.recording
    {σ : Type}
    (store : BookStore σ) : BookStore (σ × List ScanMode) :=
  fun mode (state, opened) =>
    let (stream, after) := store mode state
    (stream, after, opened ++ [mode])

namespace Lookup

/-- The scan for which some parameters ask: one of all books if there are no
parameters, and otherwise one with the filter that they give. -/
inductive AsksFor : List Parameter -> ScanMode -> Prop
  | all : AsksFor [] .all
  | filtered
      {parameters : List Parameter}
      {filter : Filter}
      (compiled : Filter.ofParameters parameters = .ok filter) :
      AsksFor parameters (.filtered filter)

/-- Parameters that ask for a scan have its mode. -/
theorem AsksFor.modeOf_eq
    {parameters : List Parameter}
    {mode : ScanMode}
    (asksFor : AsksFor parameters mode) :
    modeOf parameters = .ok mode := by
  cases asksFor with
  | all => rfl
  | filtered compiled =>
      cases parameters with
      | nil => cases compiled
      | cons first others =>
          rw [modeOf, compiled]
          rfl

/-- Parameters with a mode ask for a scan of it. -/
theorem asksFor_of_modeOf_eq
    {parameters : List Parameter}
    {mode : ScanMode}
    (isMode : modeOf parameters = .ok mode) :
    AsksFor parameters mode := by
  cases parameters with
  | nil =>
      obtain rfl : .all = mode := Except.ok.inj isMode
      exact .all
  | cons first others =>
      rw [modeOf] at isMode
      cases compiled : Filter.ofParameters (first :: others) with
      | error fault =>
          rw [compiled] at isMode
          cases isMode
      | ok filter =>
          rw [compiled] at isMode
          obtain rfl : .filtered filter = mode := Except.ok.inj isMode
          exact .filtered compiled

/-- Parameters ask for no scan exactly if there are some and they are
refused. -/
theorem modeOf_eq_error_iff
    {parameters : List Parameter}
    {fault : FilterFault} :
    modeOf parameters = .error fault ↔
      parameters ≠ [] ∧ Filter.ofParameters parameters = .error fault := by
  cases parameters with
  | nil => simp [modeOf]
  | cons first others =>
      rw [modeOf]
      cases Filter.ofParameters (first :: others) with
      | error reason => simp [Except.map]
      | ok filter => simp [Except.map]

/-- What a lookup does if its parameters are refused. -/
structure Refused
    {σ : Type}
    (fault : FilterFault)
    (before after : σ × List ScanMode)
    (lookup : Lookup) : Prop where
  /-- It is not for want of parameters. -/
  notEmpty : fault ≠ .empty
  /-- The fault of the parameters is the result. -/
  books : lookup.books = .error (.filter fault)
  /-- The store is asked for nothing. -/
  unopened : lookup.scan = none ∧ after = before
  /-- The signer is asked for nothing. -/
  unsigned : lookup.calls = []

/-- What a lookup does if its parameters ask for a scan. -/
structure Scanned
    {σ : Type}
    (store : BookStore σ)
    (signer : Signer)
    (asked : List String)
    (limit : Duration)
    (mode : ScanMode)
    (before after : σ × List ScanMode)
    (lookup : Lookup) : Prop where
  /-- The store is asked for this scan and no other. -/
  opened : lookup.scan = some mode ∧
    after = ((store mode before.1).2, before.2 ++ [mode])
  /-- The scan gives the stream of some events. -/
  events : ∃ events, (store mode before.1).1 = .ofEvents events
  /-- The stream is listed as a whole or not at all. -/
  allOrNothing :
    AllOrNothing signer asked limit (store mode before.1).1 lookup

/-- A lookup whose parameters do not compile reports their fault and asks for
nothing. Any other asks for the scan of its parameters, once, and lists what
this gives as a whole or not at all. -/
theorem run_refused_or_scanned
    {σ : Type}
    (store : BookStore σ)
    (signer : Signer)
    (asked : List String)
    (limit : Duration)
    (parameters : List Parameter)
    (before : σ × List ScanMode) :
    let ran := run store.recording signer asked limit parameters before
    (∀ fault, parameters ≠ [] ->
        Filter.ofParameters parameters = .error fault ->
        Refused fault before ran.2 ran.1) ∧
      ∀ mode, AsksFor parameters mode ->
        Scanned store signer asked limit mode before ran.2 ran.1 := by
  intro ran
  constructor
  · intro fault nonempty refused
    have noMode : modeOf parameters = .error fault :=
      modeOf_eq_error_iff.mpr ⟨nonempty, refused⟩
    have isRan : ran = (⟨none, [], .error (.filter fault)⟩, before) :=
      run_of_refused store.recording signer asked limit before noMode
    rw [isRan]
    refine ⟨?_, rfl, ⟨rfl, rfl⟩, rfl⟩
    rintro rfl
    exact Filter.ofParameters_ne_empty nonempty refused
  · intro mode asksFor
    have isRan : ran =
        (ofStream signer asked limit mode (store mode before.1).1,
          (store mode before.1).2, before.2 ++ [mode]) := by
      change run store.recording signer asked limit parameters before = _
      rw [run, asksFor.modeOf_eq]
      rfl
    rw [isRan]
    exact ⟨⟨scan_ofStream _ _ _ _ _, rfl⟩, BookStream.exists_ofEvents _,
      allOrNothing_ofStream _ _ _ _ _⟩

/-- A store whose scans all consist of some events. -/
def storeOf (events : List StreamEvent) : BookStore Unit :=
  fun _ state => (.ofEvents events, state)

/-- A book with an image. -/
def bookWithImage : StoredRecord :=
  ⟨"1", "", "Dune", "", [], [], some "covers/1.png"⟩

/-- A book before a failure is not listed, a book before the end is listed even
if there is no time at all, and a parameter without a value is refused. -/
theorem run_failure_end_and_missing_value :
    (run (storeOf [.gives bookWithImage, .waits ⟨1⟩,
            .fails .transport]).recording
          (fun _ key => .ok key) [] ⟨2⟩ [("title", some "Dune")]
          ((), [])).1.books =
        .error (.store .transport) ∧
      (run (storeOf [.gives bookWithImage, .ends]).recording
          (fun _ key => .ok key) [] ⟨0⟩ [] ((), [])).1.books =
        .ok [bookWithImage.listed "covers/1.png"] ∧
      (run (storeOf []).recording
          (fun _ key => .ok key) [] ⟨0⟩ [("title", none)] ((), [])).1.books =
        .error (.filter (.missingValue "title")) := by
  refine ⟨?_, ?_, ?_⟩
  · have scanned := (run_refused_or_scanned
      (storeOf [.gives bookWithImage, .waits ⟨1⟩, .fails .transport])
      (fun _ key => .ok key) [] ⟨2⟩ [("title", some "Dune")] ((), [])).2 _
      (.filtered rfl)
    exact (scanned.allOrNothing.failed [.gives bookWithImage, .waits ⟨1⟩]
      .transport [] rfl (by simp [StreamEvent.GoesOn]) (by decide)).2
  · have scanned := (run_refused_or_scanned
      (storeOf [.gives bookWithImage, .ends])
      (fun _ key => .ok key) [] ⟨0⟩ [] ((), [])).2 _ .all
    exact (scanned.allOrNothing.listed [.gives bookWithImage] [] rfl
      (by simp [StreamEvent.GoesOn]) (by decide)).2
  · have refused := (run_refused_or_scanned (storeOf [])
      (fun _ key => .ok key) [] ⟨0⟩ [("title", none)] ((), [])).1 _
      (by decide) rfl
    exact refused.books

end Lookup
end BookLookup
