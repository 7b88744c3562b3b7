import BookLookup.Proofs.Store.Sending
import BookLookup.Store.Scan
import Mathlib.Logic.Function.Basic

/-!
# Scans of one store do not disturb each other

Several scans of one client take their pulls in any order. A pull uses up some
of the replies to come, and does the same wherever it meets these replies. So
each scan gives what it gives alone, if its requests are answered by the replies
that they have received among the others.
-/

namespace BookLookup

/-- A request that has been received, and the reply to it. -/
abbrev Exchange := SentRequest × Reply

/-- The exchanges by which a network has come from one state to another. -/
def Network.exchanges (before after : Network) : List Exchange :=
  (after.received.drop before.received.length).zip before.replies

/-! ## One pull -/

/-- What a scan gives when a reply has come, if anything, and how it goes on. -/
def Scan.resume (scan : Scan) (reply : Reply) : Option Pulled × Scan :=
  match Page.ofReply reply with
  | .error fault => (some (.failed fault), scan.closed)
  | .ok page =>
      match page.records, page.next with
      | first :: others, next =>
          (some (.record first),
            { scan with cursor := .ofNext next, ready := others })
      | [], some key => (none, { scan with cursor := .beyond key })
      | [], none => (some .finished, scan.closed)

namespace StoreClient

/-- What a scan gives after a reply. If it has nothing to give yet, it asks
on. -/
def goOn
    (client : StoreClient)
    (resumed : Option Pulled × Scan)
    (after : Network) : Pull :=
  match resumed with
  | (some result, next) => ⟨result, next, after⟩
  | (none, next) => client.fetch next after after.replies

/-- A request that can be sent takes the next reply. -/
theorem fetch_cons_of_reaches
    {client : StoreClient}
    (reaches : client.Reaches)
    (scan : Scan)
    (network : Network)
    (reply : Reply)
    (later : List Reply) :
    client.fetch scan network (reply :: later) =
      client.goOn (scan.resume reply)
        (network.receive (client.scanRequest scan network) later) := by
  have canSend : client.canSend (client.scanRequest scan network) :=
    (client.canSend_pageRequest_iff _ _ _).mpr reaches
  rw [fetch, Scan.resume]
  simp only [canSend, if_true]
  cases Page.ofReply reply with
  | error fault => rfl
  | ok page =>
      obtain ⟨records, next⟩ := page
      cases records with
      | cons first others => rfl
      | nil =>
          cases next with
          | none => rfl
          | some key => rfl

/-- A request that cannot be sent fails and takes no reply. -/
theorem fetch_of_not_reaches
    {client : StoreClient}
    (unreachable : ¬ client.Reaches)
    (scan : Scan)
    (network : Network)
    (replies : List Reply) :
    client.fetch scan network replies =
      ⟨.failed .transport, scan.closed, network⟩ := by
  cases replies with
  | nil => rfl
  | cons reply later =>
      have cannotSend : ¬ client.canSend (client.scanRequest scan network) := by
        rw [scanRequest, canSend_pageRequest_iff]
        exact unreachable
      rw [fetch]
      simp only [cannotSend]
      rfl

end StoreClient

/-- What is asked of a network is answered by some exchanges, and in the same way
wherever the replies of these are the next to come. Where they are the last of
all replies, they have to be the last there, too. -/
structure AnsweredBy
    (ask : Network -> Pull)
    (network : Network)
    (exchanges : List Exchange) : Prop where
  /-- The replies are the first of those to come. -/
  replies : network.replies =
    exchanges.map Prod.snd ++ (ask network).network.replies
  /-- The requests have been received, and no others. -/
  received : (ask network).network.received =
    network.received ++ exchanges.map Prod.fst
  /-- Another network with these replies gives the same, for requests with the
  same bodies. -/
  elsewhere : ∀ (other : Network) (rest : List Reply),
    other.replies = exchanges.map Prod.snd ++ rest ->
    ((ask network).network.replies = [] -> rest = []) ->
    ∃ requests,
      ask other = ⟨(ask network).result, (ask network).scan,
        ⟨rest, other.received ++ requests, other.clock⟩⟩ ∧
      requests.map SentRequest.body =
        exchanges.map fun exchange => exchange.1.body

namespace AnsweredBy

/-- What leaves networks as they are is answered by no exchange. -/
theorem nil
    {ask : Network -> Pull}
    {network : Network}
    (result : Pulled)
    (next : Scan)
    (same : ∀ other : Network,
      (network.replies = [] -> other.replies = []) ->
      ask other = ⟨result, next, other⟩) :
    AnsweredBy ask network [] := by
  have here := same network id
  refine ⟨by rw [here]; rfl, by rw [here]; simp, ?_⟩
  intro other rest toCome noneLeft
  rw [here] at noneLeft ⊢
  rw [List.map_nil, List.nil_append] at toCome
  refine ⟨[], ?_, rfl⟩
  rw [same other fun noReplies => toCome.trans (noneLeft noReplies),
    List.append_nil, ← toCome]

/-- What sends a request and then asks on is answered by the reply to the
request and by what answers the rest. -/
theorem cons
    {ask again : Network -> Pull}
    {network : Network}
    {reply : Reply}
    {later : List Reply}
    {exchanges : List Exchange}
    (request : Network -> SentRequest)
    (sameBody : ∀ other, (request other).body = (request network).body)
    (asksOn : ∀ (other : Network) (rest : List Reply),
      other.replies = reply :: rest ->
      ask other = again (other.receive (request other) rest))
    (toCome : network.replies = reply :: later)
    (answered :
      AnsweredBy again (network.receive (request network) later) exchanges) :
    AnsweredBy ask network ((request network, reply) :: exchanges) := by
  have here := asksOn network later toCome
  refine ⟨?_, ?_, ?_⟩
  · rw [here, toCome, List.map_cons, List.cons_append, ← answered.replies]
    rfl
  · rw [here, answered.received]
    simp [Network.receive]
  · intro other rest otherToCome noneLeft
    rw [here] at noneLeft ⊢
    obtain ⟨requests, there, bodies⟩ := answered.elsewhere
      (other.receive (request other) (exchanges.map Prod.snd ++ rest)) rest rfl
      noneLeft
    refine ⟨request other :: requests, ?_, ?_⟩
    · refine (asksOn other _ otherToCome).trans (there.trans ?_)
      simp [Network.receive]
    · rw [List.map_cons, List.map_cons, sameBody, bodies]

/-- The exchanges are those by which the network has come to where it is. -/
theorem exchanges_eq
    {ask : Network -> Pull}
    {network : Network}
    {exchanges : List Exchange}
    (answered : AnsweredBy ask network exchanges) :
    network.exchanges (ask network).network = exchanges := by
  have sameLength : (exchanges.map Prod.fst).length =
      (exchanges.map Prod.snd).length := by
    simp
  rw [Network.exchanges, answered.received, answered.replies, List.drop_left,
    ← List.append_nil (exchanges.map Prod.fst), List.zip_append sameLength,
    List.zip_map']
  simp

end AnsweredBy

namespace StoreClient

/-- Asking for pages is answered by exchanges. -/
theorem exists_answeredBy_fetch
    (client : StoreClient)
    (scan : Scan)
    (network : Network) :
    ∃ exchanges, AnsweredBy
      (fun other => client.fetch scan other other.replies) network
        exchanges := by
  by_cases reaches : client.Reaches
  · generalize toCome : network.replies = replies
    induction replies generalizing scan network with
    | nil =>
        refine ⟨[], .nil (.failed .transport) scan.closed ?_⟩
        intro other noReplies
        simp only [noReplies toCome]
        rfl
    | cons reply later inductionHypothesis =>
        have asksOn (other : Network) (rest : List Reply)
            (otherToCome : other.replies = reply :: rest) :
            client.fetch scan other other.replies =
              client.goOn (scan.resume reply)
                (other.receive (client.scanRequest scan other) rest) := by
          rw [otherToCome, fetch_cons_of_reaches reaches]
        cases resumed : scan.resume reply with
        | mk result? next =>
            rw [resumed] at asksOn
            cases result? with
            | some result =>
                exact ⟨_, .cons (client.scanRequest scan) (fun _ => rfl) asksOn
                  toCome (.nil result next fun _ _ => rfl)⟩
            | none =>
                obtain ⟨exchanges, answered⟩ := inductionHypothesis next
                  (network.receive (client.scanRequest scan network) later) rfl
                exact ⟨_, .cons (client.scanRequest scan) (fun _ => rfl) asksOn
                  toCome answered⟩
  · refine ⟨[], .nil (.failed .transport) scan.closed fun other _ => ?_⟩
    exact fetch_of_not_reaches reaches scan other other.replies

/-- A pull is answered by exchanges. -/
theorem exists_answeredBy_pull
    (client : StoreClient)
    (scan : Scan)
    (network : Network) :
    ∃ exchanges, AnsweredBy (client.pull scan) network exchanges := by
  obtain ⟨mode, cursor, ready⟩ := scan
  cases ready with
  | cons first others =>
      exact ⟨[], .nil (.record first) ⟨mode, cursor, others⟩ fun _ _ => rfl⟩
  | nil =>
      cases cursor with
      | exhausted =>
          exact ⟨[], .nil .finished ⟨mode, .exhausted, []⟩ fun _ _ => rfl⟩
      | beginning =>
          exact client.exists_answeredBy_fetch ⟨mode, .beginning, []⟩ network
      | beyond key =>
          exact client.exists_answeredBy_fetch ⟨mode, .beyond key, []⟩ network

/-- A pull is answered by the exchanges by which the network changes. -/
theorem answeredBy_pull
    (client : StoreClient)
    (scan : Scan)
    (network : Network) :
    AnsweredBy (client.pull scan) network
      (network.exchanges (client.pull scan network).network) := by
  obtain ⟨exchanges, answered⟩ := client.exists_answeredBy_pull scan network
  rw [answered.exchanges_eq]
  exact answered

/-! ## Pulls on one scan alone -/

/-- A pull on one of several scans. -/
structure Turn (ι : Type) where
  /-- The scan that is pulled. -/
  scan : ι
  /-- What the scan gives. -/
  result : Pulled
  /-- The exchanges of the pull. -/
  exchanges : List Exchange

/-- What a scan gives in some pulls, and how it and the network go on. -/
structure Pulls where
  /-- What the scan gives, in order. -/
  results : List Pulled
  /-- The scan afterwards. -/
  scan : Scan
  /-- The network afterwards. -/
  network : Network

/-- A number of pulls on one scan, with nothing between them. -/
def pullTimes
    (client : StoreClient) : Nat -> Scan -> Network -> Pulls
  | 0, scan, network => ⟨[], scan, network⟩
  | count + 1, scan, network =>
      let pull := client.pull scan network
      let others := client.pullTimes count pull.scan pull.network
      { others with results := pull.result :: others.results }

/-- Alone, a scan gives what it gives in some turns, sends requests with the same
bodies and is left in some state, wherever the replies of these turns are the
next to come, and the last of all if these have used up all replies. -/
def GivesAlone
    {ι : Type}
    (client : StoreClient)
    (scan : Scan)
    (turns : List (Turn ι))
    (last : Scan)
    (usedUp : Prop) : Prop :=
  ∀ (other : Network) (rest : List Reply),
    other.replies = (turns.flatMap Turn.exchanges).map Prod.snd ++ rest ->
    (usedUp -> rest = []) ->
    ∃ requests,
      client.pullTimes turns.length scan other =
        ⟨turns.map Turn.result, last,
          ⟨rest, other.received ++ requests, other.clock⟩⟩ ∧
      requests.map SentRequest.body =
        (turns.flatMap Turn.exchanges).map fun exchange => exchange.1.body

namespace GivesAlone

variable {ι : Type} {client : StoreClient} {scan last : Scan} {usedUp : Prop}

theorem nil : GivesAlone client scan ([] : List (Turn ι)) scan usedUp := by
  intro other rest toCome _
  have same : other.replies = rest := toCome
  refine ⟨[], ?_, rfl⟩
  rw [← same, List.append_nil]
  rfl

/-- A pull in front of others meets the replies that answered it. -/
theorem cons
    {network : Network}
    {turns : List (Turn ι)}
    (index : ι)
    (gives :
      GivesAlone client (client.pull scan network).scan turns last usedUp)
    (noneBehind : (client.pull scan network).network.replies = [] ->
      turns.flatMap Turn.exchanges = [] ∧ usedUp) :
    GivesAlone client scan
      (⟨index, (client.pull scan network).result,
        network.exchanges (client.pull scan network).network⟩ :: turns)
      last usedUp := by
  intro other rest toCome noneLeft
  rw [List.flatMap_cons, List.map_append, List.append_assoc] at toCome
  have noReplies : (client.pull scan network).network.replies = [] ->
      (turns.flatMap Turn.exchanges).map Prod.snd ++ rest = [] := by
    intro used
    obtain ⟨noExchanges, allUsed⟩ := noneBehind used
    rw [noExchanges, noneLeft allUsed]
    rfl
  obtain ⟨requests, there, bodies⟩ :=
    (client.answeredBy_pull scan network).elsewhere other _ toCome noReplies
  obtain ⟨later, alone, laterBodies⟩ :=
    gives ⟨_, other.received ++ requests, other.clock⟩ rest rfl noneLeft
  refine ⟨requests ++ later, ?_, ?_⟩
  · rw [List.length_cons, pullTimes, there]
    simp only [alone, List.append_assoc]
    rfl
  · rw [List.flatMap_cons, List.map_append, List.map_append, bodies,
      laterBodies]

end GivesAlone

/-! ## Pulls on several scans -/

/-- Pulls on several scans, and how they and the network go on. -/
structure Interleaved (ι : Type) where
  /-- The pulls in order. -/
  turns : List (Turn ι)
  /-- The scans afterwards. -/
  scans : ι -> Scan
  /-- The network afterwards. -/
  network : Network

namespace Interleaved

variable {ι : Type}

/-- The same with a pull before all others. -/
def cons (turn : Turn ι) (others : Interleaved ι) : Interleaved ι :=
  { others with turns := turn :: others.turns }

/-- The exchanges of all pulls. -/
def exchanges (run : Interleaved ι) : List Exchange :=
  run.turns.flatMap Turn.exchanges

@[simp] theorem exchanges_cons
    (turn : Turn ι)
    (others : Interleaved ι) :
    (cons turn others).exchanges = turn.exchanges ++ others.exchanges := rfl

variable [DecidableEq ι]

/-- The pulls on one of the scans. -/
def own (run : Interleaved ι) (index : ι) : List (Turn ι) :=
  run.turns.filter fun turn => turn.scan = index

/-- The exchanges of the pulls on one of the scans. -/
def ownExchanges (run : Interleaved ι) (index : ι) : List Exchange :=
  (run.own index).flatMap Turn.exchanges

@[simp] theorem own_cons_self
    (index : ι)
    (result : Pulled)
    (exchanges : List Exchange)
    (others : Interleaved ι) :
    (cons ⟨index, result, exchanges⟩ others).own index =
      ⟨index, result, exchanges⟩ :: others.own index := by
  simp [cons, own]

theorem own_cons_of_ne
    {turn : Turn ι}
    {index : ι}
    (differs : turn.scan ≠ index)
    (others : Interleaved ι) :
    (cons turn others).own index = others.own index := by
  simp [cons, own, differs]

/-- If there is no exchange at all, a scan has none. -/
theorem ownExchanges_eq_nil
    {run : Interleaved ι}
    (none : run.exchanges = [])
    (index : ι) :
    run.ownExchanges index = [] := by
  rw [exchanges, List.flatMap_eq_nil_iff] at none
  rw [ownExchanges, List.flatMap_eq_nil_iff]
  intro turn member
  exact none turn (List.mem_filter.mp member).1

end Interleaved

section Order

variable {ι : Type} [DecidableEq ι]

/-- Pulls on several scans in some order. Every pull meets the network as the
pulls before it have left it. -/
def interleave
    (client : StoreClient)
    (scans : ι -> Scan)
    (network : Network) : List ι -> Interleaved ι
  | [] => ⟨[], scans, network⟩
  | index :: order =>
      let pull := client.pull (scans index) network
      .cons ⟨index, pull.result, network.exchanges pull.network⟩
        (client.interleave (Function.update scans index pull.scan) pull.network
          order)

/-- The pulls are those of the order. -/
theorem map_scan_turns_interleave
    (client : StoreClient)
    (scans : ι -> Scan)
    (network : Network)
    (order : List ι) :
    (client.interleave scans network order).turns.map Turn.scan = order := by
  induction order generalizing scans network with
  | nil => rfl
  | cons index order inductionHypothesis =>
      exact congrArg (index :: ·) (inductionHypothesis _ _)

/-- The replies that have been used up are those of the pulls. -/
theorem replies_interleave
    (client : StoreClient)
    (scans : ι -> Scan)
    (network : Network)
    (order : List ι) :
    network.replies =
      (client.interleave scans network order).exchanges.map Prod.snd ++
        (client.interleave scans network order).network.replies := by
  induction order generalizing scans network with
  | nil => rfl
  | cons index order inductionHypothesis =>
      have answered := client.answeredBy_pull (scans index) network
      rw [interleave, Interleaved.exchanges_cons, List.map_append,
        List.append_assoc, answered.replies]
      exact congrArg _ (inductionHypothesis _ _)

/-- The requests that have been received are those of the pulls. -/
theorem received_interleave
    (client : StoreClient)
    (scans : ι -> Scan)
    (network : Network)
    (order : List ι) :
    (client.interleave scans network order).network.received =
      network.received ++
        (client.interleave scans network order).exchanges.map Prod.fst := by
  induction order generalizing scans network with
  | nil => simp [interleave, Interleaved.exchanges]
  | cons index order inductionHypothesis =>
      have answered := client.answeredBy_pull (scans index) network
      rw [interleave, Interleaved.exchanges_cons, List.map_append,
        ← List.append_assoc, ← answered.received]
      exact inductionHypothesis _ _

/-- A scan gives alone what it gives among others. -/
theorem givesAlone_own
    (client : StoreClient)
    (scans : ι -> Scan)
    (network : Network)
    (order : List ι)
    (index : ι) :
    GivesAlone client (scans index)
      ((client.interleave scans network order).own index)
      ((client.interleave scans network order).scans index)
      ((client.interleave scans network order).network.replies = []) := by
  induction order generalizing scans network with
  | nil => exact .nil
  | cons first order inductionHypothesis =>
      have gives := inductionHypothesis
        (Function.update scans first (client.pull (scans first) network).scan)
        (client.pull (scans first) network).network
      rw [interleave]
      by_cases same : first = index
      · subst same
        rw [Interleaved.own_cons_self]
        rw [Function.update_self] at gives
        refine gives.cons first ?_
        intro noReplies
        have used := client.replies_interleave
          (Function.update scans first (client.pull (scans first) network).scan)
          (client.pull (scans first) network).network order
        rw [noReplies, eq_comm, List.append_eq_nil_iff,
          List.map_eq_nil_iff] at used
        exact ⟨Interleaved.ownExchanges_eq_nil used.1 first, used.2⟩
      · rw [Interleaved.own_cons_of_ne same]
        rw [Function.update_of_ne (Ne.symm same)] at gives
        exact gives

/-- Scans of one client do not disturb each other, in whatever order they are
pulled. Every reply that is used up answers a request of one of the pulls, and
every request that is received is one of these. Alone, with the replies that it
has received among the others, each scan gives the same, sends the same bodies
and uses up these replies. -/
theorem scans_do_not_disturb_each_other
    (client : StoreClient)
    (modes : ι -> ScanMode)
    (network : Network)
    (order : List ι) :
    let run :=
      client.interleave (fun index => .open (modes index)) network order
    run.turns.map Turn.scan = order ∧
      network.replies =
        run.exchanges.map Prod.snd ++ run.network.replies ∧
      run.network.received =
        network.received ++ run.exchanges.map Prod.fst ∧
      ∀ index clock,
        let own := run.ownExchanges index
        let alone := client.pullTimes (run.own index).length
          (.open (modes index)) ⟨own.map Prod.snd, [], clock⟩
        alone.results = (run.own index).map Turn.result ∧
          alone.network.received.map SentRequest.body =
            own.map (fun exchange => exchange.1.body) ∧
          alone.network.replies = [] ∧
          alone.scan = run.scans index := by
  refine ⟨client.map_scan_turns_interleave _ network order,
    client.replies_interleave _ network order,
    client.received_interleave _ network order, ?_⟩
  intro index clock own alone
  have gives := client.givesAlone_own
    (fun index => .open (modes index)) network order index
  obtain ⟨requests, pulled, bodies⟩ := gives
    ⟨own.map Prod.snd, [], clock⟩ [] (List.append_nil _).symm fun _ => rfl
  have isAlone : alone = _ := pulled
  rw [isAlone]
  exact ⟨rfl, bodies, rfl, rfl⟩

end Order
end StoreClient
end BookLookup
