import BookLookup.Proofs.Store.Interleaving
import Mathlib.Order.Bounds.Basic

/-!
# What the replies settle

A scan is asked until it has something to give, and each reply comes to a page
or a failure. So the first of these outcomes settle what some pulls give,
whatever comes behind them. With fewer outcomes, what the pulls give would still
be open, and so the pulls send as few requests as can be.
-/

namespace BookLookup

/-! ## What outcomes settle -/

/-- What a reply comes to: a page, or a failure of the scan. -/
abbrev Outcome := Except StoreFailure Page

/-- What some outcomes settle, whatever comes behind them. -/
structure Settled (α : Type) where
  /-- What is given. -/
  given : α
  /-- The scan afterwards. -/
  scan : Scan
  /-- The outcomes that are not used. -/
  unused : List Outcome

namespace Scan

/-- What a scan gives for an outcome, if anything, and how it goes on. -/
def meet (scan : Scan) : Outcome -> Option Pulled × Scan
  | .error fault => (some (.failed fault), scan.closed)
  | .ok ⟨first :: others, next⟩ =>
      (some (.record first),
        { scan with cursor := .ofNext next, ready := others })
  | .ok ⟨[], some key⟩ => (none, { scan with cursor := .beyond key })
  | .ok ⟨[], none⟩ => (some .finished, scan.closed)

/-- A scan meets the outcome of a reply. -/
theorem resume_eq_meet (scan : Scan) (reply : Reply) :
    scan.resume reply = scan.meet (Page.ofReply reply) := by
  rw [resume]
  cases Page.ofReply reply with
  | error fault => rfl
  | ok page =>
      obtain ⟨records, next⟩ := page
      cases records with
      | cons first others => rfl
      | nil =>
          cases next with
          | none => rfl
          | some key => rfl

/-- A scan has nothing to give only for a page without books that is not the
last. -/
theorem meet_eq_none
    {scan next : Scan}
    {outcome : Outcome}
    (met : scan.meet outcome = (none, next)) :
    ∃ key, outcome = .ok ⟨[], some key⟩ ∧
      next = { scan with cursor := .beyond key } := by
  cases outcome with
  | error fault => cases met
  | ok page =>
      obtain ⟨records, beyond⟩ := page
      cases records with
      | cons first others => cases met
      | nil =>
          cases beyond with
          | none => cases met
          | some key =>
              cases met
              exact ⟨key, rfl, rfl⟩

/-- What a scan gives is the first book of the page, or the scan is closed. -/
theorem meet_eq_some
    {scan next : Scan}
    {outcome : Outcome}
    {given : Pulled}
    (met : scan.meet outcome = (some given, next)) :
    (∃ first others beyond, outcome = .ok ⟨first :: others, beyond⟩ ∧
      given = .record first ∧
      next = { scan with cursor := .ofNext beyond, ready := others }) ∨
    (∀ record, given ≠ .record record) ∧ next = scan.closed := by
  cases outcome with
  | error fault =>
      cases met
      exact .inr ⟨nofun, rfl⟩
  | ok page =>
      obtain ⟨records, beyond⟩ := page
      cases records with
      | cons first others =>
          cases met
          exact .inl ⟨first, others, beyond, rfl, rfl, rfl⟩
      | nil =>
          cases beyond with
          | some key => cases met
          | none =>
              cases met
              exact .inr ⟨nofun, rfl⟩

/-- What outcomes settle of a scan that asks for pages: it meets them until it
has something to give. -/
def settle : Scan -> List Outcome -> Option (Settled Pulled)
  | _, [] => none
  | scan, outcome :: later =>
      match scan.meet outcome with
      | (some given, next) => some ⟨given, next, later⟩
      | (none, next) => next.settle later

/-- What outcomes settle of the next pull. -/
def advance (scan : Scan) (outcomes : List Outcome) : Option (Settled Pulled) :=
  match scan.ready, scan.cursor with
  | first :: others, _ =>
      some ⟨.record first, { scan with ready := others }, outcomes⟩
  | [], .exhausted => some ⟨.finished, scan, outcomes⟩
  | [], _ => scan.settle outcomes

/-- Whether a scan asks for a page when it is pulled. -/
def Asks (scan : Scan) : Prop :=
  scan.ready = [] ∧ scan.cursor ≠ .exhausted

/-- A scan has a book that is ready, is closed or asks for a page. -/
@[elab_as_elim] theorem pullCases
    {motive : Scan -> Prop}
    (ready : ∀ mode cursor first others, motive ⟨mode, cursor, first :: others⟩)
    (closed : ∀ scan : Scan, motive scan.closed)
    (asks : ∀ scan : Scan, scan.Asks -> motive scan)
    (scan : Scan) :
    motive scan := by
  obtain ⟨mode, cursor, books⟩ := scan
  cases books with
  | cons first others => exact ready mode cursor first others
  | nil =>
      cases cursor with
      | exhausted => exact closed ⟨mode, .exhausted, []⟩
      | beginning => exact asks _ ⟨rfl, nofun⟩
      | beyond key => exact asks _ ⟨rfl, nofun⟩

/-- For a scan that asks for a page, the next pull is settled by pages. -/
theorem advance_of_asks
    {scan : Scan}
    (asks : scan.Asks)
    (outcomes : List Outcome) :
    scan.advance outcomes = scan.settle outcomes := by
  rw [advance, asks.1]
  split
  · contradiction
  · exact absurd ‹_› asks.2
  · rfl

/-- What outcomes settle of the next pulls. -/
def advanceTimes : Nat -> Scan -> List Outcome -> Option (Settled (List Pulled))
  | 0, scan, outcomes => some ⟨[], scan, outcomes⟩
  | count + 1, scan, outcomes =>
      (scan.advance outcomes).bind fun first =>
        (first.scan.advanceTimes count first.unused).map fun others =>
          { others with given := first.given :: others.given }

end Scan

/-- What outcomes settle is settled by the first of them, whatever comes behind
these. -/
def UsesFront
    {α : Type}
    (settles : List Outcome -> Option (Settled α)) : Prop :=
  ∀ ⦃outcomes settled⦄, settles outcomes = some settled ->
    ∃ used, outcomes = used ++ settled.unused ∧
      ∀ other, settles (used ++ other) = some { settled with unused := other }

namespace UsesFront

variable {α : Type} {settles : List Outcome -> Option (Settled α)}
  {outcomes : List Outcome} {settled : Settled α}

/-- Outcomes behind those that settle something are not used. -/
theorem append
    (usesFront : UsesFront settles)
    (settlesNow : settles outcomes = some settled)
    (behind : List Outcome) :
    settles (outcomes ++ behind) =
      some { settled with unused := settled.unused ++ behind } := by
  obtain ⟨used, outcomes_eq, elsewhere⟩ := usesFront settlesNow
  rw [outcomes_eq, List.append_assoc]
  exact elsewhere _

/-- What outcomes settle is settled by the first of them exactly if all that are
used are among these. -/
theorem isSome_take_iff
    (usesFront : UsesFront settles)
    (settlesNow : settles outcomes = some settled)
    (number : Nat) :
    (settles (outcomes.take number)).isSome ↔
      outcomes.length ≤ number + settled.unused.length := by
  constructor
  · intro isSome
    obtain ⟨early, settlesEarly⟩ := Option.isSome_iff_exists.mp isSome
    have both := usesFront.append settlesEarly (outcomes.drop number)
    rw [List.take_append_drop, settlesNow, Option.some_inj] at both
    have unused := congrArg (fun settled => settled.unused.length) both
    simp only [List.length_append, List.length_drop] at unused
    omega
  · intro enough
    obtain ⟨used, outcomes_eq, elsewhere⟩ := usesFront settlesNow
    have allUsed : used.length ≤ number := by
      have lengths := congrArg List.length outcomes_eq
      rw [List.length_append] at lengths
      omega
    rw [outcomes_eq, List.take_append, List.take_of_length_le allUsed,
      elsewhere]
    rfl

/-- If outcomes settle nothing, neither do the first of them. -/
theorem take_eq_none
    (usesFront : UsesFront settles)
    (open_ : settles outcomes = none)
    (number : Nat) :
    settles (outcomes.take number) = none := by
  cases early : settles (outcomes.take number) with
  | none => rfl
  | some settled =>
      have both := usesFront.append early (outcomes.drop number)
      rw [List.take_append_drop, open_] at both
      cases both

end UsesFront

namespace Scan

/-- A scan that asks for pages uses outcomes from the front. -/
theorem usesFront_settle (scan : Scan) : UsesFront scan.settle := by
  intro outcomes settled
  induction outcomes generalizing scan with
  | nil => exact nofun
  | cons outcome later inductionHypothesis =>
      simp only [settle]
      cases met : scan.meet outcome with
      | mk given? next =>
          cases given? with
          | some given =>
              rintro ⟨⟩
              refine ⟨[outcome], rfl, fun other => ?_⟩
              simp [settle, met]
          | none =>
              intro settlesLater
              obtain ⟨used, later_eq, elsewhere⟩ :=
                inductionHypothesis next settlesLater
              refine ⟨outcome :: used, congrArg _ later_eq, fun other => ?_⟩
              simpa [settle, met] using elsewhere other

/-- If outcomes settle nothing of a scan that asks for pages, a failure behind
them is given. -/
theorem settle_append_error
    {scan : Scan}
    {outcomes : List Outcome}
    (open_ : scan.settle outcomes = none)
    (fault : StoreFailure) :
    scan.settle (outcomes ++ [.error fault]) =
      some ⟨.failed fault, scan.closed, []⟩ := by
  induction outcomes generalizing scan with
  | nil => rfl
  | cons outcome later inductionHypothesis =>
      rw [List.cons_append]
      simp only [settle] at open_ ⊢
      cases met : scan.meet outcome with
      | mk given? next =>
          rw [met] at open_
          cases given? with
          | some given => cases open_
          | none =>
              obtain ⟨key, -, rfl⟩ := meet_eq_none met
              exact inductionHypothesis open_

/-- A pull uses outcomes from the front. -/
theorem usesFront_advance (scan : Scan) : UsesFront scan.advance := by
  cases scan using pullCases with
  | ready mode cursor first others =>
      rintro outcomes _ ⟨⟩
      exact ⟨[], rfl, fun other => rfl⟩
  | closed scan =>
      rintro outcomes _ ⟨⟩
      exact ⟨[], rfl, fun other => rfl⟩
  | asks scan asks =>
      rw [funext (advance_of_asks asks)]
      exact scan.usesFront_settle

/-- If outcomes settle nothing of a pull, a failure behind them is given. -/
theorem advance_append_error
    {scan : Scan}
    {outcomes : List Outcome}
    (open_ : scan.advance outcomes = none)
    (fault : StoreFailure) :
    scan.advance (outcomes ++ [.error fault]) =
      some ⟨.failed fault, scan.closed, []⟩ := by
  cases scan using pullCases with
  | ready mode cursor first others => cases open_
  | closed scan => cases open_
  | asks scan asks =>
      rw [advance_of_asks asks] at open_ ⊢
      exact settle_append_error open_ fault

/-- Pulls use outcomes from the front. -/
theorem usesFront_advanceTimes
    (scan : Scan)
    (count : Nat) :
    UsesFront (scan.advanceTimes count) := by
  induction count generalizing scan with
  | zero =>
      rintro outcomes _ ⟨⟩
      exact ⟨[], rfl, fun other => rfl⟩
  | succ count inductionHypothesis =>
      intro outcomes settled settlesAll
      obtain ⟨first, settlesFirst, settlesOthers⟩ :=
        Option.bind_eq_some_iff.mp settlesAll
      obtain ⟨others, settlesRest, rfl⟩ :=
        Option.map_eq_some_iff.mp settlesOthers
      obtain ⟨used, outcomes_eq, elsewhere⟩ :=
        scan.usesFront_advance settlesFirst
      obtain ⟨usedLater, unused_eq, elsewhereLater⟩ :=
        inductionHypothesis first.scan settlesRest
      refine ⟨used ++ usedLater, ?_, fun other => ?_⟩
      · rw [outcomes_eq, unused_eq, List.append_assoc]
      · rw [List.append_assoc]
        simp [advanceTimes, elsewhere, elsewhereLater]

/-- A closed scan gives its end in every pull. -/
theorem advanceTimes_closed
    (scan : Scan)
    (count : Nat)
    (outcomes : List Outcome) :
    scan.closed.advanceTimes count outcomes =
      some ⟨List.replicate count .finished, scan.closed, outcomes⟩ := by
  induction count with
  | zero => rfl
  | succ count inductionHypothesis =>
      have first : scan.closed.advance outcomes =
          some ⟨.finished, scan.closed, outcomes⟩ := rfl
      simp [advanceTimes, first, inductionHypothesis, List.replicate_succ]

/-- If outcomes settle not all of some pulls, a failure behind them is given in
one of these. -/
theorem advanceTimes_append_error
    {scan : Scan}
    {count : Nat}
    {outcomes : List Outcome}
    (open_ : scan.advanceTimes count outcomes = none) :
    ∃ front rest, ∀ fault, ∃ next,
      scan.advanceTimes count (outcomes ++ [.error fault]) =
        some ⟨front ++ .failed fault :: List.replicate rest .finished, next,
          []⟩ := by
  induction count generalizing scan outcomes with
  | zero => cases open_
  | succ count inductionHypothesis =>
      cases settlesFirst : scan.advance outcomes with
      | none =>
          refine ⟨[], count, fun fault => ⟨scan.closed, ?_⟩⟩
          simp [advanceTimes, advance_append_error settlesFirst fault,
            advanceTimes_closed]
      | some first =>
          simp only [advanceTimes, settlesFirst, Option.bind_some,
            Option.map_eq_none_iff] at open_
          obtain ⟨front, rest, fails⟩ := inductionHypothesis open_
          refine ⟨first.given :: front, rest, fun fault => ?_⟩
          obtain ⟨next, failsNow⟩ := fails fault
          refine ⟨next, ?_⟩
          simp [advanceTimes, scan.usesFront_advance.append settlesFirst,
            failsNow]

end Scan

/-! ## What pulls give is what is settled -/

/-- What the replies to come come to. -/
def Network.outcomes (network : Network) : List Outcome :=
  network.replies.map Page.ofReply

namespace StoreClient

variable {client : StoreClient}

/-- A scan that asks for a page is given the replies to come. -/
theorem pull_of_asks
    {scan : Scan}
    (asks : scan.Asks)
    (network : Network) :
    client.pull scan network =
      client.fetch scan network network.replies := by
  rw [pull, asks.1]
  split
  · contradiction
  · exact absurd ‹_› asks.2
  · rfl

/-- A scan that asks for pages gives what the replies settle. -/
theorem fetch_of_settle
    (reaches : client.Reaches)
    {scan : Scan}
    {network : Network}
    {settled : Settled Pulled}
    (settles : scan.settle network.outcomes = some settled) :
    let pull := client.fetch scan network network.replies
    pull.result = settled.given ∧ pull.scan = settled.scan ∧
      pull.network.outcomes = settled.unused := by
  rw [Network.outcomes] at settles
  generalize network.replies = replies at settles
  induction replies generalizing scan network with
  | nil => cases settles
  | cons reply later inductionHypothesis =>
      rw [fetch_cons_of_reaches reaches, Scan.resume_eq_meet]
      simp only [List.map_cons, Scan.settle] at settles
      cases met : scan.meet (Page.ofReply reply) with
      | mk given? next =>
          rw [met] at settles
          cases given? with
          | some given =>
              obtain rfl := Option.some_inj.mp settles
              exact ⟨rfl, rfl, rfl⟩
          | none => exact inductionHypothesis settles

/-- If the replies settle nothing, a scan that asks for pages fails when all of
them are used up. -/
theorem fetch_of_settle_eq_none
    (reaches : client.Reaches)
    {scan : Scan}
    {network : Network}
    (open_ : scan.settle network.outcomes = none) :
    let pull := client.fetch scan network network.replies
    pull.result = .failed .transport ∧ pull.network.replies = [] := by
  rw [Network.outcomes] at open_
  generalize toCome : network.replies = replies at open_
  induction replies generalizing scan network with
  | nil => exact ⟨rfl, toCome⟩
  | cons reply later inductionHypothesis =>
      rw [fetch_cons_of_reaches reaches, Scan.resume_eq_meet]
      simp only [List.map_cons, Scan.settle] at open_
      cases met : scan.meet (Page.ofReply reply) with
      | mk given? next =>
          rw [met] at open_
          cases given? with
          | some given => cases open_
          | none => exact inductionHypothesis rfl open_

/-- A pull gives what the replies settle. -/
theorem pull_of_advance
    (reaches : client.Reaches)
    {scan : Scan}
    {network : Network}
    {settled : Settled Pulled}
    (settles : scan.advance network.outcomes = some settled) :
    let pull := client.pull scan network
    pull.result = settled.given ∧ pull.scan = settled.scan ∧
      pull.network.outcomes = settled.unused := by
  cases scan using Scan.pullCases with
  | ready mode cursor first others =>
      obtain rfl := Option.some_inj.mp settles
      exact ⟨rfl, rfl, rfl⟩
  | closed scan =>
      obtain rfl := Option.some_inj.mp settles
      exact ⟨rfl, rfl, rfl⟩
  | asks scan asks =>
      rw [Scan.advance_of_asks asks] at settles
      rw [pull_of_asks asks]
      exact fetch_of_settle reaches settles

/-- If the replies settle nothing of a pull, it fails when all of them are used
up. -/
theorem pull_of_advance_eq_none
    (reaches : client.Reaches)
    {scan : Scan}
    {network : Network}
    (open_ : scan.advance network.outcomes = none) :
    let pull := client.pull scan network
    pull.result = .failed .transport ∧ pull.network.replies = [] := by
  cases scan using Scan.pullCases with
  | ready mode cursor first others => cases open_
  | closed scan => cases open_
  | asks scan asks =>
      rw [Scan.advance_of_asks asks] at open_
      rw [pull_of_asks asks]
      exact fetch_of_settle_eq_none reaches open_

/-- Pulls give what the replies settle. -/
theorem pullTimes_of_advanceTimes
    (reaches : client.Reaches)
    {count : Nat}
    {scan : Scan}
    {network : Network}
    {settled : Settled (List Pulled)}
    (settles : scan.advanceTimes count network.outcomes = some settled) :
    let run := client.pullTimes count scan network
    run.results = settled.given ∧ run.network.outcomes = settled.unused := by
  induction count generalizing scan network settled with
  | zero =>
      obtain rfl := Option.some_inj.mp settles
      exact ⟨rfl, rfl⟩
  | succ count inductionHypothesis =>
      obtain ⟨first, settlesFirst, settlesOthers⟩ :=
        Option.bind_eq_some_iff.mp settles
      obtain ⟨others, settlesRest, rfl⟩ :=
        Option.map_eq_some_iff.mp settlesOthers
      obtain ⟨given, next, unused⟩ := pull_of_advance reaches settlesFirst
      rw [← next, ← unused] at settlesRest
      obtain ⟨results, unusedLater⟩ := inductionHypothesis settlesRest
      exact ⟨congr (congrArg _ given) results, unusedLater⟩

/-- Pulls are answered by exchanges. -/
theorem exists_exchanges_pullTimes
    (client : StoreClient)
    (count : Nat)
    (scan : Scan)
    (network : Network) :
    ∃ exchanges : List Exchange,
      network.replies = exchanges.map Prod.snd ++
        (client.pullTimes count scan network).network.replies ∧
      (client.pullTimes count scan network).network.received =
        network.received ++ exchanges.map Prod.fst := by
  induction count generalizing scan network with
  | zero => exact ⟨[], rfl, (List.append_nil _).symm⟩
  | succ count inductionHypothesis =>
      obtain ⟨first, answered⟩ := client.exists_answeredBy_pull scan network
      obtain ⟨others, replies, received⟩ := inductionHypothesis
        (client.pull scan network).scan (client.pull scan network).network
      refine ⟨first ++ others, ?_, ?_⟩
      · rw [List.map_append, List.append_assoc, answered.replies, replies]
        rfl
      · rw [List.map_append, ← List.append_assoc, ← answered.received]
        exact received

/-- If the replies settle not all of some pulls, one of these fails, and all
replies are used up. -/
theorem pullTimes_of_advanceTimes_eq_none
    (reaches : client.Reaches)
    {count : Nat}
    {scan : Scan}
    {network : Network}
    (open_ : scan.advanceTimes count network.outcomes = none) :
    let run := client.pullTimes count scan network
    .failed .transport ∈ run.results ∧ run.network.replies = [] := by
  induction count generalizing scan network with
  | zero => cases open_
  | succ count inductionHypothesis =>
      cases settlesFirst : scan.advance network.outcomes with
      | none =>
          obtain ⟨fails, usedUp⟩ := pull_of_advance_eq_none reaches settlesFirst
          obtain ⟨others, replies, -⟩ := client.exists_exchanges_pullTimes count
            (client.pull scan network).scan (client.pull scan network).network
          rw [usedUp, eq_comm, List.append_eq_nil_iff] at replies
          exact ⟨List.mem_cons.mpr (.inl fails.symm), replies.2⟩
      | some first =>
          simp only [Scan.advanceTimes, settlesFirst, Option.bind_some,
            Option.map_eq_none_iff] at open_
          obtain ⟨-, next, unused⟩ := pull_of_advance reaches settlesFirst
          rw [← next, ← unused] at open_
          obtain ⟨fails, usedUp⟩ := inductionHypothesis open_
          exact ⟨List.mem_cons_of_mem _ fails, usedUp⟩

/-! ## As few requests as can be -/

/-- The first replies to come determine what some pulls give: the pulls give the
same wherever the first replies come to the same. -/
def Determines
    (client : StoreClient)
    (count : Nat)
    (scan : Scan)
    (network : Network)
    (number : Nat) : Prop :=
  number ≤ network.replies.length ∧
    ∀ other : Network,
      other.outcomes.take number = network.outcomes.take number ->
      (client.pullTimes count scan other).results =
        (client.pullTimes count scan network).results

/-- If the requests of a client can be sent, the first replies determine what
some pulls give exactly if they settle it. -/
theorem determines_iff
    (reaches : client.Reaches)
    {count : Nat}
    {scan : Scan}
    {network : Network}
    {number : Nat}
    (enough : number ≤ network.replies.length) :
    client.Determines count scan network number ↔
      (scan.advanceTimes count (network.outcomes.take number)).isSome := by
  constructor
  · rintro ⟨-, determines⟩
    by_contra notSome
    have open_ := Option.not_isSome_iff_eq_none.mp notSome
    obtain ⟨front, rest, fails⟩ := Scan.advanceTimes_append_error open_
    -- Whichever failure comes behind these replies, the pulls give it.
    have results (last : Reply) (fault : StoreFailure)
        (failure : Page.ofReply last = .error fault) :
        (client.pullTimes count scan network).results =
          front ++ .failed fault :: List.replicate rest .finished := by
      let other : Network :=
        { network with replies := network.replies.take number ++ [last] }
      have outcomes : other.outcomes =
          network.outcomes.take number ++ [.error fault] := by
        simp [other, Network.outcomes, failure]
      have same :
          other.outcomes.take number = network.outcomes.take number := by
        rw [outcomes]
        apply List.take_left'
        simpa [Network.outcomes] using enough
      obtain ⟨next, failsNow⟩ := fails fault
      rw [← outcomes] at failsNow
      rw [← determines other same]
      exact (pullTimes_of_advanceTimes reaches failsNow).1
    have differ := (results .broken .transport rfl).symm.trans
      (results .silent .timeout rfl)
    simp at differ
  · intro isSome
    obtain ⟨settled, settles⟩ := Option.isSome_iff_exists.mp isSome
    have results (other : Network)
        (same : other.outcomes.take number = network.outcomes.take number) :
        (client.pullTimes count scan other).results = settled.given := by
      have settlesThere := (scan.usesFront_advanceTimes count).append
        (same ▸ settles) (other.outcomes.drop number)
      rw [List.take_append_drop] at settlesThere
      exact (pullTimes_of_advanceTimes reaches settlesThere).1
    exact ⟨enough, fun other same =>
      (results other same).trans (results network rfl).symm⟩

/-- If the requests of a client cannot be sent, the network has no part in what
a pull gives. -/
theorem pull_of_not_reaches
    (unreachable : ¬ client.Reaches)
    (scan : Scan)
    (network other : Network) :
    client.pull scan network =
      ⟨(client.pull scan other).result, (client.pull scan other).scan,
        network⟩ := by
  cases scan using Scan.pullCases with
  | ready mode cursor first others => rfl
  | closed scan => rfl
  | asks scan asks =>
      rw [pull_of_asks asks, pull_of_asks asks,
        fetch_of_not_reaches unreachable, fetch_of_not_reaches unreachable]

/-- If the requests of a client cannot be sent, the network has no part in what
pulls give. -/
theorem pullTimes_of_not_reaches
    (unreachable : ¬ client.Reaches)
    (count : Nat)
    (scan : Scan)
    (network other : Network) :
    client.pullTimes count scan network =
      ⟨(client.pullTimes count scan other).results,
        (client.pullTimes count scan other).scan, network⟩ := by
  induction count generalizing scan network other with
  | zero => rfl
  | succ count inductionHypothesis =>
      have first := pull_of_not_reaches unreachable scan network other
      simp only [pullTimes]
      rw [first]
      simp only
      rw [inductionHypothesis _ network (client.pull scan other).network]

/-- Some pulls have sent as few requests as can be: fewer replies do not
determine what they give. If even all replies do not, a last request has found
nobody. -/
theorem isLeast_requests
    (client : StoreClient)
    (count : Nat)
    (scan : Scan)
    (network : Network) :
    let run := client.pullTimes count scan network
    ∃ requests, run.network.received = network.received ++ requests ∧
      (IsLeast {number | client.Determines count scan network number}
          requests.length ∨
        (∀ number, ¬ client.Determines count scan network number) ∧
          requests.length = network.replies.length ∧
          .failed .transport ∈ run.results) := by
  obtain ⟨exchanges, replies, received⟩ :=
    client.exists_exchanges_pullTimes count scan network
  refine ⟨exchanges.map Prod.fst, received, ?_⟩
  have lengths := congrArg List.length replies
  rw [List.length_append, List.length_map] at lengths
  rw [List.length_map]
  have sameLength : network.outcomes.length = network.replies.length :=
    List.length_map _
  by_cases reaches : client.Reaches
  · have usesFront := scan.usesFront_advanceTimes count
    cases settles : scan.advanceTimes count network.outcomes with
    | some settled =>
        obtain ⟨-, unused⟩ := pullTimes_of_advanceTimes reaches settles
        have unusedLength := congrArg List.length unused
        rw [Network.outcomes, List.length_map] at unusedLength
        have isLeast (number : Nat) (enough : number ≤ network.replies.length) :
            client.Determines count scan network number ↔
              exchanges.length ≤ number := by
          rw [determines_iff reaches enough,
            usesFront.isSome_take_iff settles]
          omega
        refine .inl ⟨(isLeast _ (by omega)).mpr (Nat.le_refl _), ?_⟩
        intro number determines
        exact (isLeast number determines.1).mp determines
    | none =>
        obtain ⟨fails, usedUp⟩ :=
          pullTimes_of_advanceTimes_eq_none reaches settles
        refine .inr ⟨fun number determines => ?_, ?_, fails⟩
        · have isSome := (determines_iff reaches determines.1).mp determines
          rw [usesFront.take_eq_none settles] at isSome
          cases isSome
        · rw [lengths, usedUp]
          rfl
  · have same := pullTimes_of_not_reaches reaches count scan
    have unchanged : (client.pullTimes count scan network).network = network :=
      congrArg Pulls.network (same network network)
    have noExchange : exchanges.length = 0 := by
      rw [unchanged] at lengths
      omega
    rw [noExchange]
    refine .inl ⟨⟨Nat.zero_le _, fun other _ => ?_⟩, fun _ _ => Nat.zero_le _⟩
    rw [same other network]

end StoreClient
end BookLookup
