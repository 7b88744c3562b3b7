import BookLookup.Store.Stream
import BookLookup.Proofs.Store.Paging
import BookLookup.Proofs.Store.Requests
import BookLookup.Proofs.Store.Sending

/-!
# A stream is the concatenation of its pages

The pages of a scan, one after the other, have the books that the replies have
to give. One request has been received for each of them, and none of the later
replies has been used.
-/

namespace BookLookup

/-- How the stream of a run ends. -/
def PagingRun.ending (run : PagingRun) : Ending :=
  match run.failure with
  | none => .finished
  | some fault => .failed fault

namespace StoreClient

/-- The requests for the pages beyond some keys, one after the other. -/
def requests
    (client : StoreClient)
    (mode : ScanMode)
    (clock : Nat -> Instant) : Nat -> List (Option Item) -> List SentRequest
  | _, [] => []
  | count, key :: others =>
      client.pageRequest mode key (clock count) ::
        client.requests mode clock (count + 1) others

/-- What holds of the request for the page beyond a key, at any time, holds of
all requests and their keys. -/
theorem forall₂_requests
    {client : StoreClient}
    {mode : ScanMode}
    {asks : SentRequest -> Option Item -> Prop}
    (each : ∀ key time, asks (client.pageRequest mode key time) key)
    (clock : Nat -> Instant)
    (count : Nat)
    (keys : List (Option Item)) :
    List.Forall₂ asks (client.requests mode clock count keys) keys := by
  induction keys generalizing count with
  | nil => exact .nil
  | cons key others inductionHypothesis =>
      exact .cons (each key (clock count)) (inductionHypothesis (count + 1))

/-- Every request says after which key its page begins. -/
theorem startsAfter_requests
    (client : StoreClient)
    (mode : ScanMode)
    (clock : Nat -> Instant)
    (count : Nat)
    (keys : List (Option Item)) :
    List.Forall₂ SentRequest.StartsAfter
      (client.requests mode clock count keys) keys :=
  forall₂_requests (client.startsAfter_pageRequest mode) clock count keys

/-- The first of some requests are those for the first keys. -/
theorem take_requests
    (client : StoreClient)
    (mode : ScanMode)
    (clock : Nat -> Instant)
    (count : Nat)
    (keys : List (Option Item))
    (number : Nat) :
    (client.requests mode clock count keys).take number =
      client.requests mode clock count (keys.take number) := by
  induction keys generalizing count number with
  | nil => simp [requests]
  | cons key others inductionHypothesis =>
      cases number with
      | zero => rfl
      | succ number =>
          exact congrArg _ (inductionHypothesis (count + 1) number)

end StoreClient

/-- The network after a client has asked for the pages of a run. -/
def Network.after
    (network : Network)
    (client : StoreClient)
    (mode : ScanMode)
    (run : PagingRun) : Network :=
  { network with
    replies := run.unused
    received := network.received ++
      client.requests mode network.clock network.received.length run.startKeys }

namespace StoreClient

/-- How long the reader of a run waits. -/
def waitOf (client : StoreClient) (run : PagingRun) : Duration :=
  match run.failure with
  | none => ⟨0⟩
  | some fault => client.waitFor fault

/-- The network after the first page of a run, and after the pages behind it. -/
theorem after_receive
    (client : StoreClient)
    (mode : ScanMode)
    (key : Option Item)
    (items : List Item)
    (network : Network)
    (later : List Reply)
    (rest : PagingRun) :
    (network.receive (client.pageRequest mode key network.now) later).after
        client mode rest =
      network.after client mode
        ⟨items ++ rest.items, rest.failure, key :: rest.startKeys,
          rest.unused⟩ := by
  simp [Network.after, Network.receive, Network.now, requests]

/-- The request for the page beyond the key of a cursor. -/
theorem scanRequest_of_startKey
    (client : StoreClient)
    (mode : ScanMode)
    {cursor : Cursor}
    {key : Option Item}
    (atKey : cursor.startKey? = key)
    (network : Network) :
    client.scanRequest ⟨mode, cursor, []⟩ network =
      client.pageRequest mode key network.now := by
  rw [scanRequest, atKey]

/-- The stream of a scan is that of the run for the replies to come. -/
theorem pages_of_paging
    {client : StoreClient}
    (reaches : client.Reaches)
    {key : Option Item}
    {replies : List Reply}
    {run : PagingRun}
    (paging : Paging key replies run)
    (mode : ScanMode)
    (cursor : Cursor)
    (network : Network)
    (atKey : cursor.startKey? = key)
    (toCome : network.replies = replies) :
    ∃ records, Stores run.items records ∧
      client.pages mode cursor network replies =
        (⟨records, run.ending, client.waitOf run⟩,
          network.after client mode run) := by
  induction paging generalizing cursor network with
  | unanswered key =>
      refine ⟨[], .nil, ?_⟩
      rw [pages]
      simp [PagingRun.ending, waitOf, waitFor, Network.after, requests,
        ← toCome]
  | failed key later fails =>
      have canSend :=
        (client.canSend_pageRequest_iff mode key network.now).mpr reaches
      refine ⟨[], .nil, ?_⟩
      simp only [pages, client.scanRequest_of_startKey mode atKey, canSend,
        if_true, Page.ofReply_eq_error_iff.mpr fails]
      simp [PagingRun.ending, waitOf, Network.after, Network.receive,
        Network.now, requests]
  | last key later carries =>
      have canSend :=
        (client.canSend_pageRequest_iff mode key network.now).mpr reaches
      obtain ⟨records, stores, read⟩ := carries.ofReply_eq_ok
      refine ⟨records, stores, ?_⟩
      simp only [pages, client.scanRequest_of_startKey mode atKey, canSend,
        if_true, read]
      simp [PagingRun.ending, waitOf, Network.after, Network.receive,
        Network.now, requests]
  | more key carries others inductionHypothesis =>
      rename_i reply items next later rest
      have canSend :=
        (client.canSend_pageRequest_iff mode key network.now).mpr reaches
      obtain ⟨records, stores, read⟩ := carries.ofReply_eq_ok
      obtain ⟨otherRecords, otherStores, otherPages⟩ :=
        inductionHypothesis (.beyond next)
          (network.receive (client.pageRequest mode key network.now) later)
          rfl rfl
      refine ⟨records ++ otherRecords, stores.append otherStores, ?_⟩
      simp only [pages, client.scanRequest_of_startKey mode atKey, canSend,
        if_true, read, otherPages,
        client.after_receive mode key items network later rest]
      rfl

/-- If the requests of a client cannot be sent, its stream fails at once and
nothing is received. -/
theorem pages_of_not_reaches
    {client : StoreClient}
    (unreachable : ¬ client.Reaches)
    (mode : ScanMode)
    (cursor : Cursor)
    (network : Network)
    (replies : List Reply) :
    client.pages mode cursor network replies =
      (⟨[], .failed .transport, ⟨0⟩⟩, network) := by
  cases replies with
  | nil => rfl
  | cons reply later =>
      have cannotSend : ¬ client.canSend
          (client.scanRequest ⟨mode, cursor, []⟩ network) := by
        rw [scanRequest, canSend_pageRequest_iff]
        exact unreachable
      simp only [pages, cannotSend]
      rfl

/-! ## What arrives -/

/-- The replies that can arrive at a client: none if its requests cannot be
sent. -/
def arriving
    (client : StoreClient)
    (network : Network) : List Reply :=
  if client.Reaches then network.replies else []

/-- What arrives is among the replies to come. -/
theorem silent_not_mem_arriving
    (client : StoreClient)
    {network : Network}
    (noneSilent : Reply.silent ∉ network.replies) :
    Reply.silent ∉ client.arriving network := by
  unfold arriving
  split
  · exact noneSilent
  · exact List.not_mem_nil

/-- Whether or not requests can be sent, the stream of a scan is that of the
replies that arrive. -/
theorem store_eq_run
    (client : StoreClient)
    (mode : ScanMode)
    (network : Network) :
    ∃ run records requests after,
      Paging none (client.arriving network) run ∧
        Stores run.items records ∧
        List.Forall₂ SentRequest.StartsAfter requests run.startKeys ∧
        after.received = network.received ++ requests ∧
        client.store mode network =
          (⟨records, run.ending, client.waitOf run⟩, after) := by
  by_cases reaches : client.Reaches
  · rw [arriving, if_pos reaches]
    obtain ⟨run, paging⟩ := Paging.exists_run none network.replies
    obtain ⟨records, stores, pages⟩ :=
      pages_of_paging reaches paging mode .beginning network rfl rfl
    exact ⟨run, records, _, network.after client mode run, paging, stores,
      client.startsAfter_requests mode network.clock _ run.startKeys, rfl,
      pages⟩
  · rw [arriving, if_neg reaches]
    refine ⟨_, [], [], network, .unanswered none, .nil, .nil, by simp, ?_⟩
    exact pages_of_not_reaches reaches mode .beginning network network.replies

/-! ## Waiting -/

/-- The pages of a run that does not time out are waited for without delay. -/
theorem waitOf_eq_zero
    (client : StoreClient)
    {run : PagingRun}
    (inTime : run.failure ≠ some .timeout) :
    client.waitOf run = ⟨0⟩ := by
  unfold waitOf
  split
  · rfl
  · rename_i fault failed
    unfold waitFor
    split
    · exact absurd failed inTime
    · rfl

end StoreClient

/-- Only a reply that does not come times out. -/
theorem Reply.Fails.eq_silent
    {reply : Reply}
    (fails : reply.Fails .timeout) :
    reply = .silent := by
  generalize same : StoreFailure.timeout = fault at fails
  cases fails with
  | silent => rfl
  | broken => cases same
  | refused refusal => cases same
  | undecodable success noPage => cases same
  | item success written books noBook => cases same

/-- A run times out only if a reply does not come. -/
theorem Paging.failure_ne_timeout
    {key : Option Item}
    {replies : List Reply}
    {run : PagingRun}
    (paging : Paging key replies run)
    (noneSilent : Reply.silent ∉ replies) :
    run.failure ≠ some .timeout := by
  induction paging with
  | unanswered key => simp
  | failed key later fails =>
      intro timedOut
      rw [Option.some.inj timedOut] at fails
      exact noneSilent (fails.eq_silent ▸ List.mem_cons_self)
  | last key later carries => simp
  | more key carries others inductionHypothesis =>
      exact inductionHypothesis fun member =>
        noneSilent (List.mem_cons_of_mem _ member)

end BookLookup
