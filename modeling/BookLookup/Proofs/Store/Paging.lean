import BookLookup.Store.Page
import BookLookup.Proofs.Elementwise
import BookLookup.Proofs.TextMap

/-!
# Pages one after the other

What a scan has to give, said of the replies alone: they are taken in order, a
reply that is no page fails and contributes nothing, a page contributes all its
items, and the next reply is for the page beyond its key, if it has a key with
attributes. The relation is a function of the replies.
-/

namespace BookLookup

/-! ## Pages -/

/-- The items that the items field of a page lists. -/
inductive Page.Lists : Option Json -> List Item -> Prop where
  /-- A page without the field has no items. -/
  | absent : Lists none []
  | items
      {elements : List Json}
      {items : List Item}
      (read : List.Forall₂
        (fun element item =>
          Item.ofJson? (Json.depthLimit - 2) element = some item)
        elements items) :
      Lists (some (.array elements)) items

/-- Where the scan goes on, by the key field of a page. -/
inductive Page.Continues : Option Json -> Option Item -> Prop where
  /-- A page without the field is the last. -/
  | absent : Continues none none
  /-- So is a page without a key. -/
  | null : Continues (some .null) none
  /-- So is a page whose key has no attributes. -/
  | empty : Continues (some (.object [])) none
  /-- Behind any other page, the scan goes on beyond its key. -/
  | beyond
      {value : Json}
      {key : Item}
      (read : Item.ofJson? (Json.depthLimit - 1) value = some key)
      (attributes : key.entries ≠ []) :
      Continues (some value) (some key)

/-- The body of a success is a page with some items, and the scan goes on beyond
a key or ends. -/
inductive Page.Written (body : List UInt8) (items : List Item)
    (next : Option Item) : Prop where
  | fields
      {value : Json}
      {itemsField keyField : Option Json}
      (read : Json.readOctets? body = some value)
      (cut : Json.fields? Page.fieldNames value = some [itemsField, keyField])
      (lists : Page.Lists itemsField items)
      (continues : Page.Continues keyField next)

/-- A reply is a good page: it is a success, its body is a page, and every item
of the page is a book. -/
inductive Reply.Carries : Reply -> List Item -> Option Item -> Prop where
  | page
      {status : Nat}
      {body : List UInt8}
      {items : List Item}
      {next : Option Item}
      (success : HttpStatus.isSuccess status)
      (written : Page.Written body items next)
      (books : ∀ item ∈ items, ∃ record, item.record = .ok record) :
      Carries (.answer status body) items next

/-- A reply is no good page, and fails the scan. -/
inductive Reply.Fails : Reply -> StoreFailure -> Prop where
  | broken : Fails .broken .transport
  | silent : Fails .silent .timeout
  | refused
      {status : Nat}
      {body : List UInt8}
      (refusal : ¬ HttpStatus.isSuccess status) :
      Fails (.answer status body) (.ofAnswer status body)
  | undecodable
      {status : Nat}
      {body : List UInt8}
      (success : HttpStatus.isSuccess status)
      (noPage : ∀ items next, ¬ Page.Written body items next) :
      Fails (.answer status body) .undecodable
  /-- An item is no book; the first such item gives the reason. -/
  | item
      {status : Nat}
      {body : List UInt8}
      {front rest : List Item}
      {item : Item}
      {next : Option Item}
      {fault : Item.Fault}
      (success : HttpStatus.isSuccess status)
      (written : Page.Written body (front ++ item :: rest) next)
      (books : ∀ other ∈ front, ∃ record, other.record = .ok record)
      (noBook : item.record = .error fault) :
      Fails (.answer status body) (.invalidResponse fault.message)

/-- What a scan gives for some replies. -/
structure PagingRun where
  /-- The items of all good pages, in order. -/
  items : List Item
  /-- Why the scan ends before its last page, if it does. -/
  failure : Option StoreFailure
  /-- The keys beyond which the pages were asked for, in order. -/
  startKeys : List (Option Item)
  /-- The replies for which nothing was asked. -/
  unused : List Reply

/-- What a scan gives from a key on, for the replies to come. -/
inductive Paging : Option Item -> List Reply -> PagingRun -> Prop where
  /-- Nobody replies any more. -/
  | unanswered (key : Option Item) :
      Paging key [] ⟨[], some .transport, [], []⟩
  /-- A page that fails contributes nothing and ends the scan. -/
  | failed
      {reply : Reply}
      {fault : StoreFailure}
      (key : Option Item)
      (later : List Reply)
      (fails : reply.Fails fault) :
      Paging key (reply :: later) ⟨[], some fault, [key], later⟩
  /-- The last page ends the scan. -/
  | last
      {reply : Reply}
      {items : List Item}
      (key : Option Item)
      (later : List Reply)
      (carries : reply.Carries items none) :
      Paging key (reply :: later) ⟨items, none, [key], later⟩
  /-- Behind any other page, the scan goes on beyond its key. -/
  | more
      {reply : Reply}
      {items : List Item}
      {next : Item}
      {later : List Reply}
      {rest : PagingRun}
      (key : Option Item)
      (carries : reply.Carries items (some next))
      (others : Paging (some next) later rest) :
      Paging key (reply :: later)
        ⟨items ++ rest.items, rest.failure, key :: rest.startKeys, rest.unused⟩

/-! ## Reading pages -/

/-- The items field is read as the items that it lists. -/
theorem Page.lists_iff
    {field : Option Json}
    {items : List Item} :
    Page.Lists field items ↔
      Json.withDefault? (itemsWithin? (Json.depthLimit - 2)) [] field =
        some items := by
  constructor
  · intro lists
    cases lists with
    | absent => rfl
    | items read => exact Elementwise.mapM_eq_some_iff.mpr read
  · intro read
    cases field with
    | none =>
        obtain rfl := Option.some.inj read
        exact .absent
    | some value =>
        cases value with
        | array elements => exact .items (Elementwise.mapM_eq_some_iff.mp read)
        | null => cases read
        | bool truth => cases read
        | number literal => cases read
        | string text => cases read
        | object members => cases read
        | unreadable => cases read

/-- An item without attributes is written as an object without members. -/
theorem Item.eq_nil_of_entries_eq_nil
    {depth : Nat}
    {members : List (String × Json)}
    {item : Item}
    (read : Item.ofJson? depth (.object members) = some item)
    (noAttributes : item.entries = []) :
    members = [] := by
  cases depth with
  | zero => cases read
  | succ depth =>
      obtain ⟨pairs, pairsRead, rfl⟩ := Option.map_eq_some_iff.mp read
      obtain rfl := TextMap.entries_ofPairs_eq_nil_iff.mp noAttributes
      exact List.forall₂_nil_right_iff.mp
        (Elementwise.mapM_eq_some_iff.mp pairsRead)

theorem continuing_some
    {key : Item}
    (attributes : key.entries ≠ []) :
    continuing (some key) = some key := by
  simp [continuing, attributes]

theorem continuing_eq_none
    {key : Item}
    (noAttributes : key.entries = []) :
    continuing (some key) = none := by
  simp [continuing, noAttributes]

/-- The key field is read as the key beyond which the scan goes on. -/
theorem Page.continues_iff
    {field : Option Json}
    {next : Option Item} :
    Page.Continues field next ↔
      ∃ last, Json.withDefault?
          (Json.nullable? (Item.ofJson? (Json.depthLimit - 1))) none field =
          some last ∧
        continuing last = next := by
  constructor
  · intro continues
    cases continues with
    | absent => exact ⟨none, rfl, rfl⟩
    | null => exact ⟨none, rfl, rfl⟩
    | empty => exact ⟨some (.ofPairs []), rfl, rfl⟩
    | beyond read attributes =>
        rename_i value key
        refine ⟨some key, ?_, continuing_some attributes⟩
        cases value with
        | object members =>
            change (Item.ofJson? _ (.object members)).map some = _
            rw [read, Option.map_some]
        | null => cases read
        | bool truth => cases read
        | number literal => cases read
        | string text => cases read
        | array elements => cases read
        | unreadable => cases read
  · rintro ⟨last, read, rfl⟩
    cases field with
    | none =>
        obtain rfl := Option.some.inj read
        exact .absent
    | some value =>
        cases value with
        | null =>
            obtain rfl := Option.some.inj read
            exact .null
        | object members =>
            obtain ⟨key, keyRead, rfl⟩ := Option.map_eq_some_iff.mp read
            by_cases noAttributes : key.entries = []
            · obtain rfl := Item.eq_nil_of_entries_eq_nil keyRead noAttributes
              rw [continuing_eq_none noAttributes]
              exact .empty
            · rw [continuing_some noAttributes]
              exact .beyond keyRead noAttributes
        | bool truth => cases read
        | number literal => cases read
        | string text => cases read
        | array elements => cases read
        | unreadable => cases read

/-- A body is read as the page that is written. -/
theorem Page.written_iff
    {body : List UInt8}
    {items : List Item}
    {next : Option Item} :
    Page.Written body items next ↔
      ∃ last, (Json.readOctets? body).bind pageItems? = some (items, last) ∧
        continuing last = next := by
  constructor
  · rintro ⟨read, cut, lists, continues⟩
    obtain ⟨last, lastRead, rfl⟩ := Page.continues_iff.mp continues
    refine ⟨last, ?_, rfl⟩
    rw [read, Option.bind_some, pageItems?, cut]
    simp only [Page.lists_iff.mp lists, lastRead, Option.bind_eq_bind,
      Option.bind_some]
    rfl
  · rintro ⟨last, read, rfl⟩
    obtain ⟨value, valueRead, fieldsRead⟩ := Option.bind_eq_some_iff.mp read
    unfold pageItems? at fieldsRead
    split at fieldsRead
    · rename_i itemsField keyField cut
      obtain ⟨listed, itemsRead, rest⟩ := Option.bind_eq_some_iff.mp fieldsRead
      obtain ⟨found, keyRead, same⟩ := Option.bind_eq_some_iff.mp rest
      obtain ⟨rfl, rfl⟩ := Prod.mk.inj (Option.some.inj same)
      exact .fields valueRead cut (Page.lists_iff.mpr itemsRead)
        (Page.continues_iff.mpr ⟨_, keyRead, rfl⟩)
    · cases fieldsRead

/-- A body is one page at most. -/
theorem Page.Written.unique
    {body : List UInt8}
    {firstItems secondItems : List Item}
    {firstNext secondNext : Option Item}
    (first : Page.Written body firstItems firstNext)
    (second : Page.Written body secondItems secondNext) :
    firstItems = secondItems ∧ firstNext = secondNext := by
  obtain ⟨firstLast, firstRead, rfl⟩ := Page.written_iff.mp first
  obtain ⟨secondLast, secondRead, rfl⟩ := Page.written_iff.mp second
  rw [firstRead] at secondRead
  obtain ⟨rfl, rfl⟩ := Prod.mk.inj (Option.some.inj secondRead)
  exact ⟨rfl, rfl⟩

/-! ## Replies as pages -/

/-- The books of the items of a page, in order. -/
def Stores (items : List Item) (records : List StoredRecord) : Prop :=
  List.Forall₂ (fun item record => item.record = .ok record) items records

theorem Stores.append
    {items otherItems : List Item}
    {records otherRecords : List StoredRecord}
    (stores : Stores items records)
    (otherStores : Stores otherItems otherRecords) :
    Stores (items ++ otherItems) (records ++ otherRecords) :=
  List.rel_append stores otherStores

/-- Items that are all books have their books as records. -/
theorem recordsOf_eq_ok_iff
    {items : List Item}
    {records : List StoredRecord} :
    recordsOf items = .ok records ↔ Stores items records := by
  rw [Stores, ← Elementwise.mapM_eq_ok_iff, recordsOf]
  cases items.mapM Item.record with
  | ok found => simp
  | error fault => simp

/-- Items that are not all books fail for the first that is none. -/
theorem recordsOf_eq_error_iff
    {items : List Item}
    {failure : StoreFailure} :
    recordsOf items = .error failure ↔
      ∃ front item rest fault, items = front ++ item :: rest ∧
        (∀ other ∈ front, ∃ record, other.record = .ok record) ∧
        item.record = .error fault ∧
        .invalidResponse fault.message = failure := by
  constructor
  · intro failed
    unfold recordsOf at failed
    split at failed
    · cases failed
    · rename_i fault notAll
      obtain ⟨front, item, rest, shape, books, noBook⟩ :=
        Elementwise.mapM_eq_error_iff.mp notAll
      exact ⟨front, item, rest, fault, shape, books, noBook,
        Except.error.inj failed⟩
  · rintro ⟨front, item, rest, fault, shape, books, noBook, rfl⟩
    rw [recordsOf, Elementwise.mapM_eq_error_iff.mpr
      ⟨front, item, rest, shape, books, noBook⟩]

/-- The body of a page is read with the books of its items. -/
theorem Page.Written.ofBody_eq
    {body : List UInt8}
    {items : List Item}
    {next : Option Item}
    (written : Page.Written body items next) :
    Page.ofBody body =
      (recordsOf items).map fun records => ⟨records, next⟩ := by
  obtain ⟨last, bodyRead, rfl⟩ := Page.written_iff.mp written
  rw [Page.ofBody, bodyRead]

/-- A body that is no page cannot be decoded. -/
theorem Page.ofBody_eq_undecodable
    {body : List UInt8}
    (noPage : ∀ items next, ¬ Page.Written body items next) :
    Page.ofBody body = .error .undecodable := by
  have noBody : (Json.readOctets? body).bind pageItems? = none := by
    apply Option.eq_none_iff_forall_ne_some.mpr
    rintro ⟨items, last⟩ bodyRead
    exact noPage items _ (Page.written_iff.mpr ⟨last, bodyRead, rfl⟩)
  rw [Page.ofBody, noBody]

/-- A body is read as a page exactly if it is one and all its items are
books. -/
theorem Page.ofBody_eq_ok_iff
    {body : List UInt8}
    {page : Page} :
    Page.ofBody body = .ok page ↔
      ∃ items, Page.Written body items page.next ∧
        Stores items page.records := by
  constructor
  · intro read
    by_cases isPage : ∃ items next, Page.Written body items next
    · obtain ⟨items, next, written⟩ := isPage
      rw [written.ofBody_eq] at read
      cases found : recordsOf items with
      | error failure =>
          rw [found] at read
          cases read
      | ok records =>
          rw [found] at read
          obtain rfl := Except.ok.inj read
          exact ⟨items, written, recordsOf_eq_ok_iff.mp found⟩
    · rw [Page.ofBody_eq_undecodable fun items next written =>
        isPage ⟨items, next, written⟩] at read
      cases read
  · rintro ⟨items, written, stores⟩
    rw [written.ofBody_eq, recordsOf_eq_ok_iff.mpr stores]
    rfl

/-- A body fails to be read exactly if it is no page, or one with an item that
is no book. -/
theorem Page.ofBody_eq_error_iff
    {body : List UInt8}
    {failure : StoreFailure} :
    Page.ofBody body = .error failure ↔
      (∀ items next, ¬ Page.Written body items next) ∧
          failure = .undecodable ∨
        ∃ items next, Page.Written body items next ∧
          recordsOf items = .error failure := by
  constructor
  · intro failed
    by_cases isPage : ∃ items next, Page.Written body items next
    · obtain ⟨items, next, written⟩ := isPage
      rw [written.ofBody_eq] at failed
      cases found : recordsOf items with
      | ok records =>
          rw [found] at failed
          cases failed
      | error other =>
          rw [found] at failed
          obtain rfl := Except.error.inj failed
          exact .inr ⟨items, next, written, found⟩
    · have noPage (items : List Item) (next : Option Item) :
          ¬ Page.Written body items next :=
        fun written => isPage ⟨items, next, written⟩
      rw [Page.ofBody_eq_undecodable noPage] at failed
      exact .inl ⟨noPage, (Except.error.inj failed).symm⟩
  · rintro (⟨noPage, rfl⟩ | ⟨items, next, written, found⟩)
    · exact Page.ofBody_eq_undecodable noPage
    · rw [written.ofBody_eq, found]
      rfl

/-- A reply is read as a page exactly if it is a good one. -/
theorem Page.ofReply_eq_ok_iff
    {reply : Reply}
    {page : Page} :
    Page.ofReply reply = .ok page ↔
      ∃ items, reply.Carries items page.next ∧ Stores items page.records := by
  constructor
  · intro read
    cases reply with
    | broken => cases read
    | silent => cases read
    | answer status body =>
        rw [Page.ofReply, Page.ofAnswer] at read
        split at read
        · rename_i success
          obtain ⟨items, written, stores⟩ := Page.ofBody_eq_ok_iff.mp read
          have books := Elementwise.exists_forall₂_iff.mp ⟨_, stores⟩
          exact ⟨items, .page success written books, stores⟩
        · cases read
  · rintro ⟨items, ⟨success, written, -⟩, stores⟩
    rw [Page.ofReply, Page.ofAnswer, if_pos success]
    exact Page.ofBody_eq_ok_iff.mpr ⟨items, written, stores⟩

/-- A reply fails to be read as a page exactly if it is no good one. -/
theorem Page.ofReply_eq_error_iff
    {reply : Reply}
    {failure : StoreFailure} :
    Page.ofReply reply = .error failure ↔ reply.Fails failure := by
  constructor
  · intro failed
    cases reply with
    | broken =>
        obtain rfl := Except.error.inj failed
        exact .broken
    | silent =>
        obtain rfl := Except.error.inj failed
        exact .silent
    | answer status body =>
        rw [Page.ofReply, Page.ofAnswer] at failed
        split at failed
        · rename_i success
          rcases Page.ofBody_eq_error_iff.mp failed with
            ⟨noPage, rfl⟩ | ⟨items, next, written, found⟩
          · exact .undecodable success noPage
          · obtain ⟨front, item, rest, fault, rfl, books, noBook, rfl⟩ :=
              recordsOf_eq_error_iff.mp found
            exact .item success written books noBook
        · rename_i refusal
          obtain rfl := Except.error.inj failed
          exact .refused refusal
  · intro fails
    cases fails with
    | broken => rfl
    | silent => rfl
    | refused refusal => exact if_neg refusal
    | undecodable success noPage =>
        rw [Page.ofReply, Page.ofAnswer, if_pos success]
        exact Page.ofBody_eq_undecodable noPage
    | item success written books noBook =>
        rw [Page.ofReply, Page.ofAnswer, if_pos success]
        apply Page.ofBody_eq_error_iff.mpr
        refine .inr ⟨_, _, written, ?_⟩
        exact recordsOf_eq_error_iff.mpr
          ⟨_, _, _, _, rfl, books, noBook, rfl⟩

theorem Reply.carries_or_fails (reply : Reply) :
    (∃ items next, reply.Carries items next) ∨ ∃ fault, reply.Fails fault := by
  cases read : Page.ofReply reply with
  | ok page =>
      obtain ⟨items, carries, -⟩ := Page.ofReply_eq_ok_iff.mp read
      exact .inl ⟨items, page.next, carries⟩
  | error fault => exact .inr ⟨fault, Page.ofReply_eq_error_iff.mp read⟩

/-- A good page is read with the books of its items. -/
theorem Reply.Carries.ofReply_eq_ok
    {reply : Reply}
    {items : List Item}
    {next : Option Item}
    (carries : reply.Carries items next) :
    ∃ records, Stores items records ∧
      Page.ofReply reply = .ok ⟨records, next⟩ := by
  obtain ⟨records, stores⟩ : ∃ records, Stores items records := by
    cases carries with
    | page success written books =>
        exact Elementwise.exists_forall₂_iff.mpr books
  exact ⟨records, stores,
    Page.ofReply_eq_ok_iff.mpr ⟨items, carries, stores⟩⟩

/-! ## The run for some replies -/

/-- There is a run for all replies. -/
theorem Paging.exists_run (key : Option Item) (replies : List Reply) :
    ∃ run, Paging key replies run := by
  induction replies generalizing key with
  | nil => exact ⟨_, .unanswered key⟩
  | cons reply later inductionHypothesis =>
      rcases reply.carries_or_fails with ⟨items, next, carries⟩ | ⟨fault, fails⟩
      · cases next with
        | none => exact ⟨_, .last key later carries⟩
        | some beyond =>
            obtain ⟨rest, others⟩ := inductionHypothesis (some beyond)
            exact ⟨_, .more key carries others⟩
      · exact ⟨_, .failed key later fails⟩

/-- A good page carries its items only. -/
theorem Reply.Carries.unique
    {reply : Reply}
    {firstItems secondItems : List Item}
    {firstNext secondNext : Option Item}
    (first : reply.Carries firstItems firstNext)
    (second : reply.Carries secondItems secondNext) :
    firstItems = secondItems ∧ firstNext = secondNext := by
  cases first with
  | page _ firstWritten _ =>
      cases second with
      | page _ secondWritten _ => exact firstWritten.unique secondWritten

/-- A good page does not fail. -/
theorem Reply.Carries.not_fails
    {reply : Reply}
    {items : List Item}
    {next : Option Item}
    (carries : reply.Carries items next)
    (fault : StoreFailure) :
    ¬ reply.Fails fault := by
  intro fails
  obtain ⟨records, -, read⟩ := carries.ofReply_eq_ok
  rw [Page.ofReply_eq_error_iff.mpr fails] at read
  cases read

/-- A reply fails for one reason. -/
theorem Reply.Fails.unique
    {reply : Reply}
    {first second : StoreFailure}
    (firstFails : reply.Fails first)
    (secondFails : reply.Fails second) :
    first = second := by
  have read := Page.ofReply_eq_error_iff.mpr firstFails
  rw [Page.ofReply_eq_error_iff.mpr secondFails] at read
  exact (Except.error.inj read).symm

/-- There is one run for some replies. -/
theorem Paging.unique
    {key : Option Item}
    {replies : List Reply}
    {first second : PagingRun}
    (firstRun : Paging key replies first)
    (secondRun : Paging key replies second) :
    first = second := by
  induction firstRun generalizing second with
  | unanswered key =>
      cases secondRun
      rfl
  | failed key later fails =>
      cases secondRun with
      | failed _ _ otherFails => rw [fails.unique otherFails]
      | last _ _ carries => exact absurd fails (carries.not_fails _)
      | more _ carries _ => exact absurd fails (carries.not_fails _)
  | last key later carries =>
      cases secondRun with
      | failed _ _ fails => exact absurd fails (carries.not_fails _)
      | last _ _ otherCarries =>
          obtain ⟨rfl, -⟩ := carries.unique otherCarries
          rfl
      | more _ otherCarries _ => cases (carries.unique otherCarries).2
  | more key carries others inductionHypothesis =>
      cases secondRun with
      | failed _ _ fails => exact absurd fails (carries.not_fails _)
      | last _ _ otherCarries => cases (carries.unique otherCarries).2
      | more _ otherCarries otherRest =>
          obtain ⟨rfl, same⟩ := carries.unique otherCarries
          obtain rfl := Option.some.inj same
          rw [inductionHypothesis otherRest]

end BookLookup
