import BookLookup.Proofs.Text.Composite
import BookLookup.Proofs.Text.Split
import BookLookup.Text.Composed
import Mathlib.Data.List.Chain

/-!
# The composed form is a normal form

Putting composites together is undone by taking them apart and putting the marks
in order, because a mark goes only past marks of other classes. So the composed
form of a composed form is the same, and a text is brought into it between its
points.
-/

namespace BookLookup
namespace Composed

/-! ## Taking apart -/

/-- After enough steps nothing is left that can be taken apart. -/
theorem parts?_of_mem_partsWithin
    {steps : Nat}
    {symbol part : Char}
    (shallow : ¬Composite.IsDeep (steps + 1) symbol)
    (member : part ∈ partsWithin steps symbol) :
    Composite.parts? part = none := by
  induction steps generalizing symbol with
  | zero =>
      rw [List.mem_singleton.mp member, Option.eq_none_iff_forall_not_mem]
      rintro ⟨first, second⟩ taken
      exact shallow ⟨first, second, taken, trivial⟩
  | succ steps inductionHypothesis =>
      unfold partsWithin at member
      split at member
      · rename_i first second taken
        rcases List.mem_append.mp member with inFirst | isSecond
        · exact inductionHypothesis
            (fun deep => shallow ⟨first, second, taken, deep⟩) inFirst
        · rw [List.mem_singleton.mp isSecond]
          exact Composite.parts?_second taken
      · rename_i none
        rw [List.mem_singleton.mp member]
        exact none

/-- More steps than enough change nothing. -/
theorem partsWithin_succ
    {steps : Nat}
    {symbol : Char}
    (shallow : ¬Composite.IsDeep (steps + 1) symbol) :
    partsWithin (steps + 1) symbol = partsWithin steps symbol := by
  induction steps generalizing symbol with
  | zero =>
      have none : Composite.parts? symbol = none :=
        parts?_of_mem_partsWithin shallow (List.mem_singleton_self symbol)
      simp [partsWithin, none]
  | succ steps inductionHypothesis =>
      cases taken : Composite.parts? symbol with
      | none => simp [partsWithin, taken]
      | some both =>
          obtain ⟨first, second⟩ := both
          have again := inductionHypothesis
            (fun deep => shallow ⟨first, second, taken, deep⟩)
          rw [partsWithin, taken]
          simp only []
          rw [again]
          conv_rhs => rw [partsWithin, taken]

theorem parts_of_none
    {symbol : Char}
    (none : Composite.parts? symbol = none) :
    parts symbol = [symbol] := by
  simp [parts, partsWithin, none]

/-- A composite has the parts of its first part and then its second part. -/
theorem parts_of_some
    {first second composite : Char}
    (taken : Composite.parts? composite = some (first, second)) :
    parts composite = parts first ++ [second] := by
  have beyond : ¬composite.toNat < 0xC0 := by
    intro below
    rw [Composite.parts?_of_lt below] at taken
    cases taken
  have shallow : ¬Composite.IsDeep 3 first := fun deep =>
    Composite.not_isDeep composite ⟨first, second, taken, deep⟩
  have firstParts : partsWithin 2 first = parts first := by
    unfold parts
    split
    · rename_i below
      simp [partsWithin, Composite.parts?_of_lt below]
    · exact (partsWithin_succ shallow).symm
  rw [parts, if_neg beyond, partsWithin, taken]
  simp only []
  rw [firstParts]

/-- A part is its own part. -/
theorem parts_of_mem_parts
    {symbol part : Char}
    (member : part ∈ parts symbol) :
    parts part = [part] := by
  apply parts_of_none
  unfold parts at member
  split at member
  · rename_i below
    rw [List.mem_singleton.mp member]
    exact Composite.parts?_of_lt below
  · exact parts?_of_mem_partsWithin (Composite.not_isDeep symbol) member

/-! ## Marks in order -/

/-- A mark of a lower class goes first, whichever is placed first. -/
theorem place_place_of_lt
    {lower higher : Char}
    (positive : 0 < MarkClass.ofChar lower)
    (less : MarkClass.ofChar lower < MarkClass.ofChar higher)
    (text : List Char) :
    place lower (place higher text) = place higher (place lower text) := by
  have notPast : ¬(0 < MarkClass.ofChar higher ∧
      MarkClass.ofChar higher < MarkClass.ofChar lower) := by
    omega
  induction text with
  | nil =>
      simp [place, notPast, positive, less]
  | cons next rest inductionHypothesis =>
      by_cases past : 0 < MarkClass.ofChar next ∧
          MarkClass.ofChar next < MarkClass.ofChar lower
      · have pastHigher : 0 < MarkClass.ofChar next ∧
            MarkClass.ofChar next < MarkClass.ofChar higher := by
          omega
        rw [place, if_pos pastHigher, place, if_pos past, place, if_pos past,
          place, if_pos pastHigher, inductionHypothesis]
      · have stays : place lower (place higher (next :: rest)) =
            lower :: place higher (next :: rest) := by
          rw [place]
          split
          · rw [place, if_neg past]
          · rw [place, if_neg notPast]
        have lowerStays : place lower (next :: rest) = lower :: next :: rest := by
          rw [place, if_neg past]
        rw [stays, lowerStays]
        conv_rhs => rw [place, if_pos ⟨positive, less⟩]

/-- Two marks that may be exchanged: they are of different classes. -/
def Apart (first second : Char) : Prop :=
  0 < MarkClass.ofChar first ∧ 0 < MarkClass.ofChar second ∧
    MarkClass.ofChar first ≠ MarkClass.ofChar second

/-- The order of marks of different classes is of no account. -/
theorem place_comm
    {first second : Char}
    (apart : Apart first second)
    (text : List Char) :
    place first (place second text) = place second (place first text) := by
  obtain ⟨firstPositive, secondPositive, differ⟩ := apart
  rcases Nat.lt_or_gt_of_ne differ with less | greater
  · exact place_place_of_lt firstPositive less text
  · exact (place_place_of_lt secondPositive greater text).symm

theorem inOrder_append (front back : List Char) :
    inOrder (front ++ back) = front.foldr place (inOrder back) := by
  rw [inOrder, List.foldr_append]
  rfl

theorem inOrder_append_congr
    {front first second : List Char}
    (same : inOrder first = inOrder second) :
    inOrder (front ++ first) = inOrder (front ++ second) := by
  rw [inOrder_append, inOrder_append, same]

/-- A mark may be moved in front of marks of other classes. -/
theorem inOrder_move
    {mark : Char}
    {marks : List Char}
    (apart : ∀ other ∈ marks, Apart mark other)
    (rest : List Char) :
    inOrder (mark :: (marks ++ rest)) = inOrder (marks ++ mark :: rest) := by
  induction marks with
  | nil => rfl
  | cons other others inductionHypothesis =>
      obtain ⟨here, behind⟩ := List.forall_mem_cons.mp apart
      have moved := inductionHypothesis behind
      simp only [inOrder, List.cons_append, List.foldr_cons] at moved ⊢
      rw [place_comm here, moved]

/-- Whether a character may stand in front of another one in a text in
order. -/
def MayPrecede (first second : Char) : Prop :=
  MarkClass.ofChar second = 0 ∨
    MarkClass.ofChar first ≤ MarkClass.ofChar second

/-- A text whose marks are in order. -/
def IsOrdered (text : List Char) : Prop :=
  text.IsChain MayPrecede

/-- A text in order is not changed. -/
theorem inOrder_of_isOrdered
    {text : List Char}
    (ordered : IsOrdered text) :
    inOrder text = text := by
  induction text with
  | nil => rfl
  | cons symbol rest inductionHypothesis =>
      have restOrder := inductionHypothesis (ordered.of_cons)
      rw [inOrder, List.foldr_cons]
      rw [inOrder] at restOrder
      rw [restOrder]
      cases rest with
      | nil => rfl
      | cons next others =>
          have may := (List.isChain_cons_cons.mp ordered).1
          rw [place, if_neg]
          unfold MayPrecede at may
          omega

/-- A character is placed where it may stand, and behind whatever may stand in
front of it and of the text. -/
theorem isOrdered_place
    {symbol : Char}
    {text : List Char}
    (ordered : IsOrdered text) :
    IsOrdered (place symbol text) ∧
      ∀ front, MayPrecede front symbol ->
        (∀ next ∈ text.head?, MayPrecede front next) ->
        ∀ next ∈ (place symbol text).head?, MayPrecede front next := by
  induction text with
  | nil =>
      refine ⟨.singleton symbol, ?_⟩
      rintro front may - next ⟨⟩
      exact may
  | cons next rest inductionHypothesis =>
      obtain ⟨restOrdered, behind⟩ := inductionHypothesis ordered.of_cons
      unfold place
      split
      · rename_i past
        constructor
        · rw [IsOrdered, List.isChain_cons]
          exact ⟨behind next (.inr past.2.le)
            (List.isChain_cons.mp ordered).1, restOrdered⟩
        · rintro front - may other ⟨⟩
          exact may next rfl
      · rename_i stays
        constructor
        · rw [IsOrdered, List.isChain_cons_cons]
          refine ⟨?_, ordered⟩
          unfold MayPrecede
          omega
        · rintro front may - other ⟨⟩
          exact may

theorem isOrdered_inOrder (text : List Char) : IsOrdered (inOrder text) := by
  induction text with
  | nil => exact .nil
  | cons symbol rest inductionHypothesis =>
      exact (isOrdered_place inductionHypothesis).1

/-! ## Putting together -/

/-- What a part of a text is to fulfil before it is put together with the
character that begins it: its marks that stay apart are in order and go before
the rest. -/
structure Begun (apart rest : List Char) (last : Nat) : Prop where
  /-- Those that stay apart are marks, up to the last class. -/
  marks : ∀ mark ∈ apart, 0 < MarkClass.ofChar mark ∧
    MarkClass.ofChar mark ≤ last
  /-- They may stand in front of the rest. -/
  before : ∀ next ∈ rest.head?, ∀ mark ∈ apart, MayPrecede mark next
  /-- The rest is in order. -/
  ordered : IsOrdered rest
  /-- Nothing can be taken apart. -/
  simple : ∀ symbol ∈ apart ++ rest, parts symbol = [symbol]

variable {start next : Char} {apart rest : List Char} {last : Nat}

/-- A mark of the rest that is put together with the beginning is gone. -/
theorem Begun.joined
    (begun : Begun apart (next :: rest) last)
    (reached : apart = [] ∨ last < MarkClass.ofChar next) :
    Begun apart rest last where
  marks := begun.marks
  before := by
    rintro other isHead mark isMark
    rcases reached with rfl | higher
    · cases isMark
    · have low := (begun.marks mark isMark).2
      rcases (List.isChain_cons.mp begun.ordered).1 other isHead with
        starts | follows
      · exact .inl starts
      · exact .inr (by omega)
  ordered := begun.ordered.of_cons
  simple := by
    intro symbol member
    apply begun.simple
    rcases List.mem_append.mp member with inApart | inRest
    · exact List.mem_append_left _ inApart
    · exact List.mem_append_right _ (List.mem_cons_of_mem _ inRest)

/-- A mark of the rest that stays apart is one of those that do. -/
theorem Begun.stayed
    (begun : Begun apart (next :: rest) last)
    (isMark : MarkClass.ofChar next ≠ 0) :
    Begun (apart ++ [next]) rest (MarkClass.ofChar next) where
  marks := by
    intro mark member
    rcases List.mem_append.mp member with inApart | isNext
    · refine ⟨(begun.marks mark inApart).1, ?_⟩
      rcases begun.before next rfl mark inApart with starts | follows
      · exact absurd starts isMark
      · exact follows
    · rw [List.mem_singleton.mp isNext]
      exact ⟨Nat.pos_of_ne_zero isMark, Nat.le_refl _⟩
  before := by
    intro other isHead mark member
    rcases (List.isChain_cons.mp begun.ordered).1 other isHead with
      starts | follows
    · exact .inl starts
    · right
      rcases List.mem_append.mp member with inApart | isNext
      · rcases begun.before next rfl mark inApart with starts | before
        · exact absurd starts isMark
        · exact before.trans follows
      · rw [List.mem_singleton.mp isNext]
        exact follows
  ordered := begun.ordered.of_cons
  simple := by
    intro symbol member
    apply begun.simple
    simpa using member

/-- A character of the rest that is no mark begins what follows. -/
theorem Begun.started
    (begun : Begun apart (next :: rest) last) :
    Begun [] rest 0 where
  marks := by simp
  before := by simp
  ordered := begun.ordered.of_cons
  simple := by
    intro symbol member
    exact begun.simple symbol
      (List.mem_append_right _ (List.mem_cons_of_mem _ member))

/-- Characters that are not taken apart stay what they are. -/
theorem flatMap_parts_of_simple
    {text : List Char}
    (simple : ∀ symbol ∈ text, parts symbol = [symbol]) :
    text.flatMap parts = text := by
  induction text with
  | nil => rfl
  | cons symbol others inductionHypothesis =>
      obtain ⟨here, behind⟩ := List.forall_mem_cons.mp simple
      rw [List.flatMap_cons, here, inductionHypothesis behind,
        List.singleton_append]

/-- Taking apart what has been put together, and putting the marks in order,
undoes it. -/
theorem inOrder_flatMap_joinFrom
    (begun : Begun apart rest last) :
    inOrder ((joinFrom start apart last rest).flatMap parts) =
      inOrder (parts start ++ (apart ++ rest)) := by
  induction rest generalizing start apart last with
  | nil =>
      have simple := flatMap_parts_of_simple begun.simple
      rw [List.append_nil] at simple ⊢
      rw [joinFrom, List.flatMap_cons, simple]
  | cons next rest inductionHypothesis =>
      unfold joinFrom
      simp only []
      split
      · rename_i composite joined
        have reached : (apart.isEmpty || last < MarkClass.ofChar next) = true := by
          by_contra blocked
          rw [if_neg blocked] at joined
          cases joined
        rw [if_pos reached] at joined
        have first : apart = [] ∨ last < MarkClass.ofChar next := by
          simpa using reached
        -- `next` is put together with `start` over the marks that stay apart,
        -- which is undone by moving it behind them again.
        have marksApart : ∀ mark ∈ apart, Apart next mark := by
          intro mark member
          rcases first with rfl | higher
          · cases member
          · have range := begun.marks mark member
            unfold Apart
            omega
        rw [inductionHypothesis (begun.joined first),
          parts_of_some (Composite.parts?_of_compose? joined),
          List.append_assoc, List.singleton_append]
        exact inOrder_append_congr (inOrder_move marksApart rest)
      · split
        · have apartSimple : ∀ symbol ∈ apart, parts symbol = [symbol] :=
            fun symbol member =>
              begun.simple symbol (List.mem_append_left _ member)
          have nextSimple : parts next = [next] := begun.simple next (by simp)
          rw [List.cons_append, List.flatMap_cons, List.flatMap_append,
            flatMap_parts_of_simple apartSimple]
          apply inOrder_append_congr
          apply inOrder_append_congr
          rw [inductionHypothesis begun.started, nextSimple]
          rfl
        · rename_i isMark
          rw [inductionHypothesis (begun.stayed isMark), List.append_assoc,
            List.singleton_append]

/-- So does it in a whole text. -/
theorem inOrder_flatMap_join
    {text : List Char}
    (ordered : IsOrdered text)
    (simple : ∀ symbol ∈ text, parts symbol = [symbol]) :
    inOrder ((join text).flatMap parts) = inOrder text := by
  induction text with
  | nil => rfl
  | cons symbol rest inductionHypothesis =>
      obtain ⟨here, behind⟩ := List.forall_mem_cons.mp simple
      unfold join
      split
      · have begun : Begun [] rest 0 :=
          { marks := by simp, before := by simp, ordered := ordered.of_cons
            simple := by simpa using behind }
        rw [inOrder_flatMap_joinFrom begun, here]
        rfl
      · rw [List.flatMap_cons, here]
        exact inOrder_append_congr (inductionHypothesis ordered.of_cons behind)

theorem parts_of_mem_inOrder
    {text : List Char} :
    ∀ symbol ∈ inOrder (text.flatMap parts), parts symbol = [symbol] := by
  intro symbol member
  obtain ⟨whole, -, isPart⟩ :=
    List.mem_flatMap.mp ((inOrder_perm _).mem_iff.mp member)
  exact parts_of_mem_parts isPart

theorem ofText_ofText (text : List Char) :
    ofText (ofText text) = ofText text := by
  have ordered := isOrdered_inOrder (text.flatMap parts)
  have undone := inOrder_flatMap_join ordered parts_of_mem_inOrder
  rw [inOrder_of_isOrdered ordered] at undone
  rw [ofText, ofText, undone]

/-! ## The characters of a composed form -/

section Closed

variable {property : Char -> Prop}

/-- Parts have a property that goes over from composites to their parts. -/
theorem forall_mem_partsWithin
    (taken : ∀ {first second composite},
      Composite.parts? composite = some (first, second) ->
        property composite -> property first ∧ property second)
    {steps : Nat}
    {symbol : Char}
    (here : property symbol) :
    ∀ part ∈ partsWithin steps symbol, property part := by
  induction steps generalizing symbol with
  | zero =>
      intro part member
      exact List.mem_singleton.mp member ▸ here
  | succ steps inductionHypothesis =>
      unfold partsWithin
      split
      · rename_i first second isTaken
        obtain ⟨inFirst, inSecond⟩ := taken isTaken here
        intro part member
        rcases List.mem_append.mp member with ofFirst | isSecond
        · exact inductionHypothesis inFirst part ofFirst
        · exact List.mem_singleton.mp isSecond ▸ inSecond
      · intro part member
        exact List.mem_singleton.mp member ▸ here

/-- Putting together keeps a property that goes over to composites. -/
theorem forall_mem_joinFrom
    (composed : ∀ {first second composite},
      Composite.compose? first second = some composite ->
        property first -> property second -> property composite)
    (ofStart : property start)
    (ofApart : ∀ symbol ∈ apart, property symbol)
    (ofRest : ∀ symbol ∈ rest, property symbol) :
    ∀ symbol ∈ joinFrom start apart last rest, property symbol := by
  induction rest generalizing start apart last with
  | nil => exact List.forall_mem_cons.mpr ⟨ofStart, ofApart⟩
  | cons next rest inductionHypothesis =>
      obtain ⟨ofNext, behind⟩ := List.forall_mem_cons.mp ofRest
      unfold joinFrom
      simp only []
      split
      · rename_i composite joined
        split at joined
        · exact inductionHypothesis (composed joined ofStart ofNext) ofApart
            behind
        · cases joined
      · split
        · have started : ∀ symbol ∈ joinFrom next [] 0 rest, property symbol :=
            inductionHypothesis ofNext (by simp) behind
          rw [List.forall_mem_append]
          exact ⟨List.forall_mem_cons.mpr ⟨ofStart, ofApart⟩, started⟩
        · refine inductionHypothesis ofStart ?_ behind
          rw [List.forall_mem_append]
          exact ⟨ofApart, by simpa using ofNext⟩

/-- The characters of a composed form have a property that goes over from
composites to their parts and back. -/
theorem forall_mem_ofText
    (taken : ∀ {first second composite},
      Composite.parts? composite = some (first, second) ->
        property composite -> property first ∧ property second)
    (composed : ∀ {first second composite},
      Composite.compose? first second = some composite ->
        property first -> property second -> property composite)
    {text : List Char}
    (all : ∀ symbol ∈ text, property symbol) :
    ∀ symbol ∈ ofText text, property symbol := by
  have ofParts : ∀ symbol ∈ inOrder (text.flatMap parts), property symbol := by
    intro symbol member
    obtain ⟨whole, inText, isPart⟩ :=
      List.mem_flatMap.mp ((inOrder_perm _).mem_iff.mp member)
    unfold parts at isPart
    split at isPart
    · exact List.mem_singleton.mp isPart ▸ all whole inText
    · exact forall_mem_partsWithin taken (all whole inText) symbol isPart
  rw [ofText]
  generalize inOrder (text.flatMap parts) = ordered at ofParts
  induction ordered with
  | nil => simp [join]
  | cons symbol rest inductionHypothesis =>
      obtain ⟨here, behind⟩ := List.forall_mem_cons.mp ofParts
      unfold join
      split
      · exact forall_mem_joinFrom composed here (by simp) behind
      · exact List.forall_mem_cons.mpr ⟨here, inductionHypothesis behind⟩

end Closed

/-! ## Points -/

theorem ofChar_point : MarkClass.ofChar '.' = 0 := by decide

/-- Nothing is placed behind a point. -/
theorem place_append_point
    (symbol : Char)
    (front back : List Char) :
    place symbol (front ++ '.' :: back) =
      place symbol front ++ '.' :: back := by
  induction front with
  | nil => simp [place, ofChar_point]
  | cons first others inductionHypothesis =>
      simp only [List.cons_append, place]
      split
      · rw [inductionHypothesis, List.cons_append]
      · rfl

/-- Marks are put in order between points. -/
theorem inOrder_append_point (front back : List Char) :
    inOrder (front ++ '.' :: back) = inOrder front ++ '.' :: inOrder back := by
  have begins : inOrder ('.' :: back) = '.' :: inOrder back := by
    rw [inOrder, List.foldr_cons]
    cases rest : back.foldr place [] with
    | nil => simp [place, inOrder, rest]
    | cons first others => simp [place, inOrder, rest, ofChar_point]
  rw [inOrder_append, begins]
  induction front with
  | nil => rfl
  | cons first others inductionHypothesis =>
      rw [List.foldr_cons, inductionHypothesis, place_append_point]
      rfl

/-- A point is put together with nothing behind it. -/
theorem joinFrom_point
    (apart : List Char)
    (last : Nat)
    (text : List Char) :
    joinFrom '.' apart last text = '.' :: (apart ++ join text) := by
  induction text generalizing apart last with
  | nil => simp [joinFrom, join]
  | cons symbol rest inductionHypothesis =>
      unfold joinFrom
      simp only [(Composite.compose?_point symbol).1, ite_self]
      rw [join]
      split
      · rfl
      · rw [inductionHypothesis, List.append_assoc]
        rfl

/-- Nothing is put together with what is behind a point. -/
theorem joinFrom_append_point
    (start : Char)
    (apart : List Char)
    (last : Nat)
    (front back : List Char) :
    joinFrom start apart last (front ++ '.' :: back) =
      joinFrom start apart last front ++ '.' :: join back := by
  induction front generalizing start apart last with
  | nil =>
      rw [List.nil_append, joinFrom, joinFrom]
      simp [(Composite.compose?_point start).2, ofChar_point, joinFrom_point]
  | cons symbol rest inductionHypothesis =>
      rw [List.cons_append, joinFrom, joinFrom]
      split
      · exact inductionHypothesis _ _ _
      · split
        · rw [inductionHypothesis, List.append_assoc]
        · exact inductionHypothesis _ _ _

/-- A text is put together between its points. -/
theorem join_append_point (front back : List Char) :
    join (front ++ '.' :: back) = join front ++ '.' :: join back := by
  induction front with
  | nil => simp [join, ofChar_point, joinFrom_point]
  | cons symbol rest inductionHypothesis =>
      rw [List.cons_append, join, join]
      split
      · exact joinFrom_append_point _ _ _ _ _
      · rw [inductionHypothesis, List.cons_append]

theorem ofText_append_point (front back : List Char) :
    ofText (front ++ '.' :: back) = ofText front ++ '.' :: ofText back := by
  have point : parts '.' = ['.'] := by decide
  rw [ofText, List.flatMap_append, List.flatMap_cons, point,
    List.singleton_append, inOrder_append_point, join_append_point]
  rfl

/-- The pieces of a composed form are the composed forms of the pieces. -/
theorem pieces_ofText (text : List Char) :
    Split.pieces '.' (ofText text) = (Split.pieces '.' text).map ofText := by
  induction length : text.length using Nat.strongRecOn generalizing text with
  | ind count inductionHypothesis =>
      by_cases point : '.' ∈ text
      · obtain ⟨front, back, rfl, plain⟩ := List.eq_append_cons_of_mem point
        rw [List.length_append, List.length_cons] at length
        rw [ofText_append_point, Split.pieces_append_cons,
          Split.pieces_append_cons, List.map_append,
          inductionHypothesis front.length (by omega) front rfl,
          inductionHypothesis back.length (by omega) back rfl]
      · have noPoint : '.' ∉ ofText text := by
          intro member
          have others : ∀ symbol ∈ ofText text, symbol ≠ '.' :=
            forall_mem_ofText
              (fun taken _ => (Composite.ne_point_of_parts? taken).2)
              (fun composed _ _ => (Composite.ne_point_of_parts?
                (Composite.parts?_of_compose? composed)).1)
              (fun symbol inText same => point (same ▸ inText))
          exact others '.' member rfl
        rw [Split.pieces_of_not_mem noPoint, Split.pieces_of_not_mem point]
        rfl

theorem ofText_of_mem_pieces
    {text piece : List Char}
    (isPiece : piece ∈ Split.pieces '.' (ofText text)) :
    ofText piece = piece := by
  rw [pieces_ofText] at isPiece
  obtain ⟨before, -, rfl⟩ := List.mem_map.mp isPiece
  exact ofText_ofText before

end Composed
end BookLookup
