import BookLookup.Proofs.Store.Settlement

/-!
# Pages are asked for on demand

A pull asks for pages only if no book is ready and the scan is not over, and
only until it has something to give. Once a scan has given a failure or its end,
it asks for nothing more.
-/

namespace BookLookup
namespace StoreClient

/-! ## When a request is sent -/

/-- Pages are asked for until one has a book, fails or is the last. -/
theorem fetch_stops
    (client : StoreClient)
    (scan : Scan)
    (network : Network) :
    ∃ used, network.replies = used ++
        (client.fetch scan network network.replies).network.replies ∧
      ∀ reply ∈ used.dropLast,
        ∃ key, Page.ofReply reply = .ok ⟨[], some key⟩ := by
  by_cases reaches : client.Reaches
  · generalize toCome : network.replies = replies
    induction replies generalizing scan network with
    | nil => exact ⟨[], toCome.symm, nofun⟩
    | cons reply later inductionHypothesis =>
        rw [fetch_cons_of_reaches reaches, Scan.resume_eq_meet]
        cases met : scan.meet (Page.ofReply reply) with
        | mk given? next =>
            cases given? with
            | some given => exact ⟨[reply], rfl, nofun⟩
            | none =>
                obtain ⟨key, read, -⟩ := Scan.meet_eq_none met
                obtain ⟨used, later_eq, empty⟩ := inductionHypothesis next
                  (network.receive (client.scanRequest scan network) later) rfl
                refine ⟨reply :: used, congrArg _ later_eq, ?_⟩
                intro other member
                cases used with
                | nil => cases member
                | cons second rest =>
                    -- With another reply behind it, this one is not the last.
                    rw [List.dropLast_cons_cons] at member
                    rcases List.mem_cons.mp member with rfl | inRest
                    · exact ⟨key, read⟩
                    · exact empty other inRest
  · rw [fetch_of_not_reaches reaches]
    exact ⟨[], rfl, nofun⟩

/-- A pull stops sending requests as soon as a page has a book, fails or is the
last. -/
theorem pull_stops
    (client : StoreClient)
    (scan : Scan)
    (network : Network) :
    ∃ exchanges : List Exchange,
      network.replies = exchanges.map Prod.snd ++
        (client.pull scan network).network.replies ∧
      (client.pull scan network).network.received =
        network.received ++ exchanges.map Prod.fst ∧
      ∀ exchange ∈ exchanges.dropLast,
        ∃ key, Page.ofReply exchange.2 = .ok ⟨[], some key⟩ := by
  obtain ⟨exchanges, answered⟩ := client.exists_answeredBy_pull scan network
  have stops : ∃ used,
      network.replies = used ++ (client.pull scan network).network.replies ∧
        ∀ reply ∈ used.dropLast,
          ∃ key, Page.ofReply reply = .ok ⟨[], some key⟩ := by
    cases scan using Scan.pullCases with
    | ready mode cursor first others => exact ⟨[], rfl, nofun⟩
    | closed scan => exact ⟨[], rfl, nofun⟩
    | asks scan asks =>
        rw [pull_of_asks asks]
        exact client.fetch_stops scan network
  obtain ⟨used, replies, empty⟩ := stops
  refine ⟨exchanges, answered.replies, answered.received, ?_⟩
  intro exchange member
  have used_eq : used = exchanges.map Prod.snd :=
    List.append_cancel_right (replies.symm.trans answered.replies)
  apply empty
  rw [used_eq, ← List.map_dropLast]
  exact List.mem_map_of_mem member

/-- A scan that does not ask for a page sends nothing. -/
theorem network_pull_of_not_asks
    (client : StoreClient)
    {scan : Scan}
    (idle : ¬ scan.Asks)
    (network : Network) :
    (client.pull scan network).network = network := by
  cases scan using Scan.pullCases with
  | ready mode cursor first others => rfl
  | closed scan => rfl
  | asks scan asks => exact absurd asks idle

/-! ## What has been given before -/

/-- A scan that has still to ask for pages has given all books of the pages that
it has received, apart from those that are ready. -/
structure Delivers
    (scan : Scan)
    (network : Network)
    (results : List Pulled)
    (next : Scan)
    (after : Network)
    (used : List Reply)
    (pages : List Page) : Prop where
  /-- The replies have come, and no others. -/
  replies : network.replies = used ++ after.replies
  /-- They are pages. -/
  read : used.map Page.ofReply = pages.map .ok
  /-- None of these is the last. -/
  goesOn : ∀ page ∈ pages, page.next.isSome
  /-- Their books have been given, after those that were ready before. -/
  given : results ++ next.ready.map .record =
    scan.ready.map .record ++ (pages.flatMap Page.records).map .record

namespace Delivers

variable {scan next last : Scan} {network after later : Network}
  {results others : List Pulled} {used rest : List Reply}
  {pages more : List Page}

theorem refl (scan : Scan) (network : Network) :
    Delivers scan network [] scan network [] [] where
  replies := rfl
  read := rfl
  goesOn := nofun
  given := (List.append_nil _).symm

/-- What is given in two parts is given from the pages of both. -/
theorem trans
    (front : Delivers scan network results next after used pages)
    (back : Delivers next after others last later rest more) :
    Delivers scan network (results ++ others) last later (used ++ rest)
      (pages ++ more) where
  replies := by
    rw [front.replies, back.replies, List.append_assoc]
  read := by
    rw [List.map_append, List.map_append, front.read, back.read]
  goesOn := by
    intro page member
    rcases List.mem_append.mp member with inFront | inBack
    · exact front.goesOn page inFront
    · exact back.goesOn page inBack
  given := by
    rw [List.append_assoc, back.given, ← List.append_assoc, front.given,
      List.append_assoc, List.flatMap_append, List.map_append]

end Delivers

/-- A scan that has asked for pages, and may ask on, has given the first book of
the last page. -/
theorem delivers_fetch
    (client : StoreClient)
    {scan : Scan}
    (noneReady : scan.ready = [])
    (network : Network)
    (asksOn : (client.fetch scan network network.replies).scan.cursor ≠
      .exhausted) :
    ∃ used pages, Delivers scan network
      [(client.fetch scan network network.replies).result]
      (client.fetch scan network network.replies).scan
      (client.fetch scan network network.replies).network used pages := by
  by_cases reaches : client.Reaches
  · generalize toCome : network.replies = replies at asksOn ⊢
    induction replies generalizing scan network with
    | nil => exact absurd rfl asksOn
    | cons reply later inductionHypothesis =>
        rw [fetch_cons_of_reaches reaches, Scan.resume_eq_meet] at asksOn ⊢
        cases met : scan.meet (Page.ofReply reply) with
        | mk given? next =>
            rw [met] at asksOn
            cases given? with
            | some given =>
                rcases Scan.meet_eq_some met with
                  ⟨first, others, beyond, read, rfl, rfl⟩ | ⟨-, rfl⟩
                · cases beyond with
                  | none => exact absurd rfl asksOn
                  | some key =>
                      exact ⟨[reply], [⟨first :: others, some key⟩], {
                        replies := toCome
                        read := by rw [List.map_singleton, read]; rfl
                        goesOn := List.forall_mem_singleton.mpr rfl
                        given := by simp [goOn, noneReady] }⟩
                · exact absurd rfl asksOn
            | none =>
                obtain ⟨key, read, rfl⟩ := Scan.meet_eq_none met
                have stillNone :
                    ({ scan with cursor := .beyond key } : Scan).ready = [] :=
                  noneReady
                obtain ⟨used, pages, delivers⟩ := inductionHypothesis stillNone
                  (network.receive (client.scanRequest scan network) later) rfl
                  asksOn
                refine ⟨reply :: used, ⟨[], some key⟩ :: pages, ?_, ?_, ?_,
                  delivers.given⟩
                · rw [toCome]
                  exact congrArg _ delivers.replies
                · rw [List.map_cons, List.map_cons, read, delivers.read]
                · exact List.forall_mem_cons.mpr ⟨rfl, delivers.goesOn⟩
  · rw [fetch_of_not_reaches reaches] at asksOn
    exact absurd rfl asksOn

/-- A pull after which a scan may ask on has given a book of the pages. -/
theorem delivers_pull
    (client : StoreClient)
    (scan : Scan)
    (network : Network)
    (asksOn : (client.pull scan network).scan.cursor ≠ .exhausted) :
    ∃ used pages, Delivers scan network [(client.pull scan network).result]
      (client.pull scan network).scan (client.pull scan network).network used
      pages := by
  cases scan using Scan.pullCases with
  | ready mode cursor first others =>
      exact ⟨[], [], rfl, rfl, nofun, by simp⟩
  | closed scan => exact absurd rfl asksOn
  | asks scan asks =>
      rw [pull_of_asks asks] at asksOn ⊢
      exact client.delivers_fetch asks.1 network asksOn

/-- A scan that may not ask for pages never asks again. -/
theorem cursor_pullTimes_of_exhausted
    (client : StoreClient)
    (count : Nat)
    {scan : Scan}
    (exhausted : scan.cursor = .exhausted)
    (network : Network) :
    (client.pullTimes count scan network).scan.cursor = .exhausted := by
  induction count generalizing scan network with
  | zero => exact exhausted
  | succ count inductionHypothesis =>
      have next : (client.pull scan network).scan.cursor = .exhausted := by
        cases scan using Scan.pullCases with
        | ready mode cursor first others => exact exhausted
        | closed scan => rfl
        | asks scan asks => exact absurd exhausted asks.2
      exact inductionHypothesis next _

/-- Pulls after which a scan may ask on have given the books of the pages. -/
theorem delivers_pullTimes
    (client : StoreClient)
    (count : Nat)
    (scan : Scan)
    (network : Network)
    (asksOn :
      (client.pullTimes count scan network).scan.cursor ≠ .exhausted) :
    ∃ used pages, Delivers scan network
      (client.pullTimes count scan network).results
      (client.pullTimes count scan network).scan
      (client.pullTimes count scan network).network used pages := by
  induction count generalizing scan network with
  | zero => exact ⟨[], [], .refl scan network⟩
  | succ count inductionHypothesis =>
      have asksOnBefore : (client.pull scan network).scan.cursor ≠ .exhausted :=
        fun exhausted =>
          asksOn (client.cursor_pullTimes_of_exhausted count exhausted _)
      obtain ⟨used, pages, front⟩ :=
        client.delivers_pull scan network asksOnBefore
      obtain ⟨rest, more, back⟩ := inductionHypothesis _ _ asksOn
      exact ⟨used ++ rest, pages ++ more, front.trans back⟩

/-! ## After the end -/

/-- A scan that has asked for pages and has given no book is closed. -/
theorem closed_of_fetch
    (client : StoreClient)
    (scan : Scan)
    (network : Network)
    (replies : List Reply)
    (noRecord : ∀ record,
      (client.fetch scan network replies).result ≠ .record record) :
    (client.fetch scan network replies).scan = scan.closed := by
  by_cases reaches : client.Reaches
  · induction replies generalizing scan network with
    | nil => rfl
    | cons reply later inductionHypothesis =>
        rw [fetch_cons_of_reaches reaches, Scan.resume_eq_meet] at noRecord ⊢
        cases met : scan.meet (Page.ofReply reply) with
        | mk given? next =>
            rw [met] at noRecord
            cases given? with
            | some given =>
                rcases Scan.meet_eq_some met with
                  ⟨first, others, beyond, -, rfl, -⟩ | ⟨-, rfl⟩
                · exact absurd rfl (noRecord first)
                · rfl
            | none =>
                obtain ⟨key, -, rfl⟩ := Scan.meet_eq_none met
                exact inductionHypothesis { scan with cursor := .beyond key } _
                  noRecord
  · rw [fetch_of_not_reaches reaches]

/-- A pull that gives no book leaves a closed scan. -/
theorem closed_of_pull
    (client : StoreClient)
    (scan : Scan)
    (network : Network)
    (noRecord : ∀ record,
      (client.pull scan network).result ≠ .record record) :
    (client.pull scan network).scan = scan.closed := by
  cases scan using Scan.pullCases with
  | ready mode cursor first others => exact absurd rfl (noRecord first)
  | closed scan => rfl
  | asks scan asks =>
      rw [pull_of_asks asks] at noRecord ⊢
      exact client.closed_of_fetch scan network _ noRecord

/-- Pulls on a closed scan give its end and send nothing. -/
theorem pullTimes_closed
    (client : StoreClient)
    (count : Nat)
    (scan : Scan)
    (network : Network) :
    client.pullTimes count scan.closed network =
      ⟨List.replicate count .finished, scan.closed, network⟩ := by
  induction count with
  | zero => rfl
  | succ count inductionHypothesis =>
      rw [pullTimes, pull_closed]
      simp only [inductionHypothesis]
      rfl

/-- Pulls that give anything but books leave a closed scan. -/
theorem exists_closed_of_pullTimes
    (client : StoreClient)
    (count : Nat)
    (scan : Scan)
    (network : Network)
    {result : Pulled}
    (given : result ∈ (client.pullTimes count scan network).results)
    (noRecord : ∀ record, result ≠ .record record) :
    ∃ earlier : Scan,
      (client.pullTimes count scan network).scan = earlier.closed := by
  induction count generalizing scan network with
  | zero => cases given
  | succ count inductionHypothesis =>
      rcases List.mem_cons.mp given with rfl | givenLater
      · refine ⟨scan, ?_⟩
        have closed := client.closed_of_pull scan network noRecord
        simp only [pullTimes, closed, pullTimes_closed]
      · exact inductionHypothesis _ _ givenLater

/-! ## On demand -/

/-- After some pulls, a scan has asked for pages on demand, and goes on to do
so. -/
structure OnDemand
    (client : StoreClient)
    (mode : ScanMode)
    (network : Network)
    (count : Nat) : Prop where
  /-- As few requests have been sent as can be: so many of the first replies
  determine what the pulls give, and fewer do not. If even all replies do not, a
  last request has found nobody. -/
  fewest :
    let run := client.pullTimes count (.open mode) network
    ∃ requests, run.network.received = network.received ++ requests ∧
      (IsLeast {number | client.Determines count (.open mode) network number}
          requests.length ∨
        (∀ number, ¬ client.Determines count (.open mode) network number) ∧
          requests.length = network.replies.length ∧
          .failed .transport ∈ run.results)
  /-- If the next pull sends a request, only pages have come, none of these is
  the last, and what has been given are exactly their books. -/
  delivered :
    let run := client.pullTimes count (.open mode) network
    (client.pull run.scan run.network).network.received ≠
        run.network.received ->
      ∃ (used : List Reply) (pages : List Page),
        network.replies = used ++ run.network.replies ∧
        used.map Page.ofReply = pages.map .ok ∧
        (∀ page ∈ pages, page.next.isSome) ∧
        run.results = (pages.flatMap Page.records).map .record
  /-- The next pull sends requests until a page has a book, fails or is the
  last. -/
  stops :
    let run := client.pullTimes count (.open mode) network
    let pull := client.pull run.scan run.network
    ∃ exchanges : List Exchange,
      run.network.replies = exchanges.map Prod.snd ++ pull.network.replies ∧
        pull.network.received =
          run.network.received ++ exchanges.map Prod.fst ∧
        ∀ exchange ∈ exchanges.dropLast,
          ∃ key, Page.ofReply exchange.2 = .ok ⟨[], some key⟩
  /-- If anything but books has been given, all further pulls give the end and
  change nothing. -/
  afterEnd :
    let run := client.pullTimes count (.open mode) network
    (∃ result ∈ run.results, ∀ record, result ≠ .record record) ->
      ∀ more, client.pullTimes more run.scan run.network =
        ⟨List.replicate more .finished, run.scan, run.network⟩

/-- Scans ask for pages on demand. To open a scan sends nothing: no pull has
been made then, and no reply is needed to determine what no pull gives. -/
theorem scans_ask_on_demand
    (client : StoreClient)
    (mode : ScanMode)
    (network : Network)
    (count : Nat) :
    client.OnDemand mode network count where
  fewest := client.isLeast_requests count (.open mode) network
  delivered := by
    intro run sends
    have asks : run.scan.Asks := by
      by_contra idle
      exact sends (congrArg Network.received
        (client.network_pull_of_not_asks idle run.network))
    obtain ⟨used, pages, delivers⟩ :=
      client.delivers_pullTimes count (.open mode) network asks.2
    refine ⟨used, pages, delivers.replies, delivers.read, delivers.goesOn, ?_⟩
    have given : run.results ++ run.scan.ready.map .record =
        (pages.flatMap Page.records).map .record := delivers.given
    rwa [asks.1, List.map_nil, List.append_nil] at given
  stops := client.pull_stops _ _
  afterEnd := by
    rintro run ⟨result, given, noRecord⟩ more
    obtain ⟨earlier, closed⟩ := client.exists_closed_of_pullTimes count
      (.open mode) network given noRecord
    rw [show run.scan = earlier.closed from closed]
    exact client.pullTimes_closed more earlier run.network

end StoreClient
end BookLookup
