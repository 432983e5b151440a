import Mathlib.Data.Prod.Lex
import MarketplaceService.Lib.Keyset
import MarketplaceService.Lib.TableImage
import MarketplaceService.ListingRevisions
import MarketplaceService.OrderRevisions
import MarketplaceService.PageCursors
import MarketplaceService.Webhooks

/-!
The seller exports of `automation.rs`. A page holds the rows of the seller past
a position, by revision and then by identity, and a cursor names the position of
its last row. Rows change under a walk, but the revision of a row never falls
and no row is taken away: what is in the table at every read is on some page,
and what is on two pages was written in between.
-/

namespace MarketplaceService

/-! The pages. -/

/-- The body of an error response. -/
structure Rejected where
  status : ℕ
  code : String
  message : String
deriving DecidableEq

def sellerRequired : Rejected :=
  { status := 403, code := "seller_required", message := "Seller access is required." }

def invalidLimit : Rejected :=
  { status := 422, code := "invalid_limit", message := "The page limit is invalid." }

def invalidCursor : Rejected :=
  { status := 422, code := "invalid_cursor", message := "The cursor is invalid." }

def defaultPageSize : ℤ := 50

structure PageQuery where
  limit : Option ℤ
  cursor : Option String
deriving DecidableEq

/-- `PageQuery::limit`. -/
def PageQuery.pageLimit (query : PageQuery) : Option ℕ :=
  let limit := query.limit.getD defaultPageSize
  if 1 ≤ limit ∧ limit ≤ maxPageSize then some limit.toNat else none

def PageQuery.pagePosition (codec : CursorCodec) (query : PageQuery) : Option (ℤ × String) :=
  match query.cursor with
  | none => some (0, "")
  | some cursor => decodePageCursor codec cursor

/-- The rows of a page; each is exported as one entry, with its record or as
unavailable. -/
structure ExportPage (α : Type) where
  items : List α
  nextCursor : Option String
deriving DecidableEq

/-- A query of the exports: its rows, the two columns of a position, and the
order that it asks for. -/
structure ExportQuery (α : Type) where
  rows : GatewaySys → Pubky → List α
  revision : α → ℕ
  identity : α → String
  order : α → α → Bool

section Pages

variable {α κ : Type} [LinearOrder κ]

/-- `revision > $2 OR (revision = $2 AND identity > $3)`; texts compare by their
sort keys in the collation of the database. -/
def ExportQuery.isPast (table : ExportQuery α) (collate : String → κ) (position : ℤ × String)
    (row : α) : Bool :=
  decide (position.1 < table.revision row) ||
    (decide (position.1 = table.revision row) &&
      decide (collate position.2 < collate (table.identity row)))

def ExportQuery.fetch (table : ExportQuery α) (collate : String → κ) (rows : List α)
    (position : ℤ × String) (limit : ℕ) : List α :=
  ((rows.filter (table.isPast collate position)).insertionSort fun a b =>
    table.order a b).take limit

def ExportQuery.list (table : ExportQuery α) (codec : CursorCodec) (collate : String → κ)
    (gate : GatewaySys) (actor seller : Pubky) (query : PageQuery) :
    Except Rejected (ExportPage α) :=
  if actor ≠ seller then .error sellerRequired
  else
    match query.pageLimit with
    | none => .error invalidLimit
    | some limit =>
        match query.pagePosition codec with
        | none => .error invalidCursor
        | some position =>
            let fetched := table.fetch collate (table.rows gate seller) position (limit + 1)
            let items := fetched.take limit
            .ok {
              items := items
              nextCursor :=
                if limit < fetched.length then
                  items.getLast?.map fun row =>
                    encodePageCursor codec (table.revision row) (table.identity row)
                else none }

/-- The listings that are not deleted, by `server_revision, aggregate_id`. -/
def listingQuery (collate : String → κ) : ExportQuery (ListingId × Listing) :=
  { rows := fun gate seller => gate.sys.inventory.listings.rows.filter fun row =>
      row.2.sellerPubky = seller ∧ row.2.deletedAt = none
    revision := fun row => row.2.serverRevision
    identity := fun row => row.1
    order := fun a b => decide (toLex (a.2.serverRevision, collate a.1) ≤
      toLex (b.2.serverRevision, collate b.1)) }

/-- The orders, by `revision, id`; a position holds the text of the id. -/
def orderQuery : ExportQuery (OrderId × Cell) :=
  { rows := fun gate seller => gate.sys.cells.rows.filter fun row =>
      row.2.book.order.sellerPubky = seller
    revision := fun row => row.2.book.order.revision
    identity := fun row => uuidText row.1
    order := fun a b => decide (toLex (a.2.book.order.revision, a.1) ≤
      toLex (b.2.book.order.revision, b.1)) }

def listSellerListings (codec : CursorCodec) (collate : String → κ) (gate : GatewaySys)
    (actor seller : Pubky) (query : PageQuery) :
    Except Rejected (ExportPage (ListingId × Listing)) :=
  (listingQuery collate).list codec collate gate actor seller query

def listSellerOrders (codec : CursorCodec) (collate : String → κ) (gate : GatewaySys)
    (actor seller : Pubky) (query : PageQuery) :
    Except Rejected (ExportPage (OrderId × Cell)) :=
  orderQuery.list codec collate gate actor seller query

/-- What is asked of the sort keys of texts: different texts differ, the empty
text is the first, and the texts of uuids sort as the uuids. -/
structure Collates (collate : String → κ) : Prop where
  injective : Function.Injective collate
  empty_first : ∀ text, text ≠ "" → collate "" < collate text
  uuids : ∀ first second : OrderId, first < second → IsUuid second →
    collate (uuidText first) < collate (uuidText second)

end Pages

/-! The rows that the service writes. -/

/-- A step whose new rows have admitted ids: commands check the id of a listing
before they run, and the ids of orders are uuids. -/
def AdmittedStep (_ : GatewaySys) (action : GatewayAction) : Prop :=
  (∀ id, action.registers id → AdmittedListing id) ∧ ∀ id ∈ action.orderIds, IsUuid id

abbrev Served (references : References) (gate : GatewaySys) : Prop :=
  Runs.Reachable (gatewayMarketplace references) AdmittedStep gate

structure AdmittedRows (gate : GatewaySys) : Prop where
  listings : ∀ id listing, gate.sys.inventory.listings.find? id = some listing → AdmittedListing id
  orders : ∀ id cell, gate.sys.cells.find? id = some cell → IsUuid id

/-- The columns of the revisions are `BIGINT`. -/
structure RevisionsFit (gate : GatewaySys) : Prop where
  listings : ∀ row ∈ gate.sys.inventory.listings.rows, row.2.serverRevision < 2 ^ 63
  orders : ∀ row ∈ gate.sys.cells.rows, row.2.book.order.revision < 2 ^ 63

section Rows

variable {references : References} {gate after : GatewaySys}

theorem served_listings {action : GatewayAction} (served : Served references gate)
    (stepped : gate.step references action = some after) :
    ListingsAdvance action.registers gate.sys.inventory after.sys.inventory :=
  gateway_listings (reachable_gatewayKept served).sound stepped

theorem served_admitted (served : Served references gate) : AdmittedRows gate := by
  refine Runs.invariant_under _ _ (Served references) AdmittedRows (fun _ reached => reached)
    ?_ ?_ served
  · rintro start rfl
    constructor
    · intro id listing found
      cases found
    · intro id cell found
      cases found
  · intro before action after reached admitted meets stepped
    constructor
    · intro id listing found
      rcases (served_listings reached stepped).fresh id listing found with named | ⟨old, present⟩
      · exact meets.1 id named
      · exact admitted.listings id old present
    · intro id cell found
      rcases (gateway_orders stepped).fresh id cell found with drawn | ⟨old, present⟩
      · exact meets.2 id drawn
      · exact admitted.orders id old present

/-- What stands in the tables stays, and its revision does not fall. -/
structure RowsAdvance (before after : GatewaySys) : Prop where
  listings : ∀ id listing, before.sys.inventory.listings.find? id = some listing →
    ∃ done, after.sys.inventory.listings.find? id = some done ∧
      listing.serverRevision ≤ done.serverRevision
  orders : ∀ id cell, before.sys.cells.find? id = some cell →
    ∃ done, after.sys.cells.find? id = some done ∧
      cell.book.order.revision ≤ done.book.order.revision

theorem RowsAdvance.refl (gate : GatewaySys) : RowsAdvance gate gate :=
  ⟨fun _ listing found => ⟨listing, found, le_rfl⟩, fun _ cell found => ⟨cell, found, le_rfl⟩⟩

theorem RowsAdvance.step {start : GatewaySys} {action : GatewayAction}
    (advance : RowsAdvance start gate) (served : Served references gate)
    (stepped : gate.step references action = some after) : RowsAdvance start after := by
  constructor
  · intro id listing found
    obtain ⟨middle, present, le⟩ := advance.listings id listing found
    obtain ⟨done, ends, more⟩ := (served_listings served stepped).stays id middle present
    exact ⟨done, ends, le.trans more⟩
  · intro id cell found
    obtain ⟨middle, present, le⟩ := advance.orders id cell found
    obtain ⟨done, ends, more⟩ := (gateway_orders stepped).stays id middle present
    exact ⟨done, ends, le.trans more⟩

theorem run_advances {actions : List GatewayAction} (served : Served references gate)
    (meets : Runs.Meets (gatewayMarketplace references) AdmittedStep gate actions)
    (ran : Runs.run (gatewayMarketplace references) gate actions = some after) :
    RowsAdvance gate after := by
  refine @Runs.kept_by_run _ _ _ _ (RowsAdvance gate) ?_ _ _ _ served (.refl gate) meets ran
  intro before action after reached advance _ stepped
  exact advance.step reached stepped

end Rows

/-! Walks. -/

/-- One request of a walk and its answer. -/
structure Visit (α : Type) where
  gate : GatewaySys
  query : PageQuery
  page : ExportPage α

/-- The requests of a walk: the first without a cursor, each other one with the
cursor of the page before, until a page has none. Between two requests the
service takes any steps. -/
structure ExportWalk {α : Type} (references : References)
    (list : GatewaySys → PageQuery → Except Rejected (ExportPage α)) (visits : List (Visit α)) :
    Prop where
  starts : ∃ first, visits.head? = some first ∧ Served references first.gate ∧
    first.query.cursor = none
  fits : ∀ visit ∈ visits, RevisionsFit visit.gate
  answered : ∀ visit ∈ visits, list visit.gate visit.query = .ok visit.page
  follows : visits.IsChain fun first second =>
    (∃ cursor, first.page.nextCursor = some cursor ∧ second.query.cursor = some cursor) ∧
      ∃ actions, Runs.Meets (gatewayMarketplace references) AdmittedStep first.gate actions ∧
        Runs.run (gatewayMarketplace references) first.gate actions = some second.gate
  ends : ∃ last, visits.getLast? = some last ∧ last.page.nextCursor = none

section Walks

variable {α κ : Type} [LinearOrder κ] {references : References} {codec : CursorCodec}
  {collate : String → κ} {table : ExportQuery α} {actor seller : Pubky}

def ExportQuery.key (table : ExportQuery α) (collate : String → κ) (row : α) : ℕ ×ₗ κ :=
  toLex (table.revision row, collate (table.identity row))

/-- What the walk relies on of the rows that the service writes. -/
structure ExportQuery.Law (table : ExportQuery α) (references : References) (collate : String → κ) :
    Prop where
  carried : ∀ gate seller, Served references gate → ∀ row ∈ table.rows gate seller,
    Carried (table.identity row)
  fits : ∀ gate seller, RevisionsFit gate → ∀ row ∈ table.rows gate seller,
    table.revision row < 2 ^ 63
  sorts : ∀ gate seller, Served references gate → ∀ row ∈ table.rows gate seller,
    ∀ other ∈ table.rows gate seller,
      (table.order row other = true ↔ table.key collate row ≤ table.key collate other)
  distinct : ∀ gate seller, Served references gate → ∀ row ∈ table.rows gate seller,
    ∀ other ∈ table.rows gate seller, table.identity other = table.identity row → other = row
  advances : ∀ before after seller, Served references before → Served references after →
    RowsAdvance before after → ∀ row ∈ table.rows before seller, ∀ later ∈ table.rows after seller,
      table.identity row = table.identity later → table.revision row ≤ table.revision later

def positionKey (collate : String → κ) (position : ℤ × String) : ℕ ×ₗ κ :=
  toLex (position.1.toNat, collate position.2)

def Visit.read (visit : Visit α) (table : ExportQuery α) (codec : CursorCodec)
    (collate : String → κ)
    (seller : Pubky) : Keyset.Read α (ℕ ×ₗ κ) :=
  { rows := table.rows visit.gate seller
    after := (visit.query.pagePosition codec).map (positionKey collate)
    limit := visit.query.pageLimit.getD 0 }

theorem pagePosition_nonneg {query : PageQuery} {position : ℤ × String}
    (placed : query.pagePosition codec = some position) : 0 ≤ position.1 := by
  unfold PageQuery.pagePosition at placed
  split at placed
  · cases placed
    exact le_rfl
  · unfold decodePageCursor at placed
    obtain ⟨bytes, -, placed⟩ := Option.bind_eq_some_iff.mp placed
    obtain ⟨⟨revision, identity⟩, -, placed⟩ := Option.bind_eq_some_iff.mp placed
    obtain ⟨accepted, same⟩ := Option.ite_none_left_eq_some.mp placed
    cases same
    by_contra negative
    exact accepted (.inl (Int.not_le.mp negative))

theorem isPast_iff {position : ℤ × String} (nonneg : 0 ≤ position.1) (row : α) :
    table.isPast collate position row = true ↔
      Keyset.Past (some (positionKey collate position)) (table.key collate row) := by
  have past : Keyset.Past (some (positionKey collate position)) (table.key collate row) ↔
      positionKey collate position < table.key collate row := by
    simp [Keyset.Past]
  rw [past, positionKey, ExportQuery.key, Prod.Lex.toLex_lt_toLex]
  simp only [ExportQuery.isPast, Bool.or_eq_true, Bool.and_eq_true, decide_eq_true_eq]
  constructor
  · rintro (less | ⟨same, below⟩)
    · exact .inl (by omega)
    · exact .inr ⟨by omega, below⟩
  · rintro (less | ⟨same, below⟩)
    · exact .inl (by omega)
    · exact .inr ⟨by omega, below⟩

theorem fetch_eq_page (law : table.Law references collate) {gate : GatewaySys}
    (served : Served references gate) {position : ℤ × String} (nonneg : 0 ≤ position.1)
    (limit : ℕ) :
    table.fetch collate (table.rows gate seller) position limit =
      Keyset.page (table.key collate) (some (positionKey collate position)) limit
        (table.rows gate seller) := by
  unfold ExportQuery.fetch Keyset.page
  have filtered : (table.rows gate seller).filter (table.isPast collate position) =
      (table.rows gate seller).filter fun row =>
        decide (Keyset.Past (some (positionKey collate position)) (table.key collate row)) := by
    refine List.filter_congr fun row _ => ?_
    rw [Bool.eq_iff_iff, isPast_iff nonneg, decide_eq_true_eq]
  rw [filtered]
  congr 1
  have sorted := List.map_insertionSort (fun a b => table.order a b = true)
    (fun a b => table.key collate a ≤ table.key collate b) id
    ((table.rows gate seller).filter fun row =>
      decide (Keyset.Past (some (positionKey collate position)) (table.key collate row)))
    fun row member other present => law.sorts gate seller served row (List.mem_of_mem_filter member)
      other (List.mem_of_mem_filter present)
  rwa [List.map_id, List.map_id] at sorted

theorem list_ok (law : table.Law references collate) {visit : Visit α}
    (served : Served references visit.gate)
    (answered : table.list codec collate visit.gate actor seller visit.query = .ok visit.page) :
    0 < (visit.read table codec collate seller).limit ∧
      visit.page.items = (visit.read table codec collate seller).items (table.key collate) ∧
      visit.page.nextCursor =
        if (visit.read table codec collate seller).limit <
            ((visit.read table codec collate seller).fetched (table.key collate)).length then
          visit.page.items.getLast?.map fun row =>
            encodePageCursor codec (table.revision row) (table.identity row)
        else none := by
  unfold ExportQuery.list at answered
  obtain ⟨-, answered⟩ := Outcome.guard_ok answered
  split at answered
  · cases answered
  · rename_i limit limited
    split at answered
    · cases answered
    · rename_i position placed
      have fetched :=
        @fetch_eq_page _ _ _ _ _ _ seller law _ served _ (pagePosition_nonneg placed) (limit + 1)
      simp only [fetched] at answered
      have page := Except.ok.inj answered
      have positive : 0 < limit := by
        unfold PageQuery.pageLimit at limited
        obtain ⟨range, same⟩ := Option.ite_none_right_eq_some.mp limited
        cases same
        omega
      simp only [Visit.read, Keyset.Read.items, Keyset.Read.fetched, limited, placed,
        Option.getD_some, Option.map_some, ← page]
      exact ⟨positive, trivial, trivial⟩

theorem next_some (law : table.Law references collate) {visit : Visit α}
    (served : Served references visit.gate)
    (answered : table.list codec collate visit.gate actor seller visit.query = .ok visit.page)
    {cursor : String} (issued : visit.page.nextCursor = some cursor) :
    ∃ row, visit.page.items.getLast? = some row ∧ row ∈ table.rows visit.gate seller ∧
      cursor = encodePageCursor codec (table.revision row) (table.identity row) ∧
      (visit.read table codec collate seller).next (table.key collate) =
        some (table.key collate row) := by
  obtain ⟨-, items, next⟩ := list_ok law served answered
  rw [next] at issued
  obtain ⟨more, issued⟩ := Option.ite_none_right_eq_some.mp issued
  obtain ⟨row, last, rfl⟩ := Option.map_eq_some_iff.mp issued
  have member := List.mem_of_getLast? last
  rw [items, Keyset.Read.items_eq_page] at member
  refine ⟨row, last, (Keyset.mem_page member).1, rfl, ?_⟩
  rw [Keyset.Read.next, if_pos more, ← items, last, Option.map_some]

theorem next_none (law : table.Law references collate) {visit : Visit α}
    (served : Served references visit.gate)
    (answered : table.list codec collate visit.gate actor seller visit.query = .ok visit.page)
    (issued : visit.page.nextCursor = none) :
    (visit.read table codec collate seller).next (table.key collate) = none := by
  obtain ⟨-, items, next⟩ := list_ok law served answered
  rw [next] at issued
  unfold Keyset.Read.next
  rw [← items]
  split at issued
  · rw [Option.map_eq_none_iff] at issued
    rw [issued, Option.map_none, ite_self]
  · rename_i short
    rw [if_neg short]

theorem issued_decodes (codecs : codec.Law) (law : table.Law references collate) {visit : Visit α}
    (served : Served references visit.gate) (fits : RevisionsFit visit.gate)
    (answered : table.list codec collate visit.gate actor seller visit.query = .ok visit.page)
    {cursor : String} (issued : visit.page.nextCursor = some cursor) :
    ∃ row, visit.page.items.getLast? = some row ∧
      decodePageCursor codec cursor = some ((table.revision row : ℤ), table.identity row) ∧
      (visit.read table codec collate seller).next (table.key collate) =
        some (table.key collate row) := by
  obtain ⟨row, last, present, rfl, next⟩ := next_some law served answered issued
  exact ⟨row, last, decode_encode codecs (law.carried _ _ served row present)
    (law.fits _ _ fits row present), next⟩

namespace ExportWalk

variable {visits : List (Visit α)}

theorem served
    (walk : ExportWalk references (table.list codec collate · actor seller) visits) :
    ∀ visit ∈ visits, Served references visit.gate := by
  obtain ⟨first, head, start, -⟩ := walk.starts
  cases visits with
  | nil => cases head
  | cons visit rest =>
      cases head
      refine walk.follows.induction _ _ ?_ fun _ => start
      rintro before after ⟨-, actions, meets, ran⟩ reached
      exact Runs.reachable_of_meets reached meets ran

theorem reads_follow (codecs : codec.Law) (law : table.Law references collate)
    (walk : ExportWalk references (table.list codec collate · actor seller) visits) :
    (visits.map fun visit => visit.read table codec collate seller).IsChain
      (Keyset.Follows (table.key collate)) := by
  rw [List.isChain_map]
  refine walk.follows.imp_of_mem_imp ?_
  rintro first second member - ⟨⟨cursor, issued, taken⟩, -⟩
  obtain ⟨row, -, decoded, next⟩ :=
    issued_decodes codecs law (walk.served first member) (walk.fits first member)
      (walk.answered first member) issued
  refine ⟨table.key collate row, next, ?_⟩
  simp only [Visit.read, PageQuery.pagePosition, taken, decoded, Option.map_some, positionKey,
    Int.toNat_natCast, ExportQuery.key]

theorem rows_advance
    (walk : ExportWalk references (table.list codec collate · actor seller) visits) :
    visits.IsChain fun first second => Served references first.gate ∧
      Served references second.gate ∧ RowsAdvance first.gate second.gate := by
  refine walk.follows.imp_of_mem_imp ?_
  rintro first second member present ⟨-, actions, meets, ran⟩
  exact ⟨walk.served first member, walk.served second present,
    run_advances (walk.served first member) meets ran⟩

theorem shows (codecs : codec.Law) (collates : Collates collate)
    (law : table.Law references collate)
    (walk : ExportWalk references (table.list codec collate · actor seller) visits)
    {wanted : String}
    (stays : ∀ visit ∈ visits, ∃ row ∈ table.rows visit.gate seller, table.identity row = wanted) :
    ∃ visit ∈ visits, ∃ row ∈ visit.page.items, table.identity row = wanted := by
  have shown := @Keyset.walk_shows α (ℕ ×ₗ κ) _ (table.key collate) String table.identity wanted _
    (walk.reads_follow codecs law) ?_ ?_ ?_ ?_ ?_ ?_
  · obtain ⟨read, member, row, listed, named⟩ := shown
    obtain ⟨visit, present, rfl⟩ := List.mem_map.mp member
    rw [← (list_ok law (walk.served visit present) (walk.answered visit present)).2.1] at listed
    exact ⟨visit, present, row, listed, named⟩
  · intro read member
    obtain ⟨visit, present, rfl⟩ := List.mem_map.mp member
    exact (list_ok law (walk.served visit present) (walk.answered visit present)).1
  · intro read member row found other listed same
    obtain ⟨visit, present, rfl⟩ := List.mem_map.mp member
    refine law.distinct _ _ (walk.served visit present) row found other listed ?_
    exact collates.injective (congrArg (fun key => (ofLex key).2) same)
  · intro read member
    obtain ⟨visit, present, rfl⟩ := List.mem_map.mp member
    exact stays visit present
  · rw [List.isChain_map]
    refine walk.rows_advance.imp ?_
    rintro first second ⟨before, after, advance⟩ row found later listed named called
    have same : table.identity row = table.identity later := named.trans called.symm
    have le := law.advances _ _ _ before after advance row found later listed same
    rw [ExportQuery.key, ExportQuery.key, same, Prod.Lex.toLex_le_toLex]
    rcases Nat.lt_or_eq_of_le le with less | equal
    · exact .inl less
    · exact .inr ⟨equal, le_rfl⟩
  · intro read head row found named
    obtain ⟨first, start, reached, cursor⟩ := walk.starts
    rw [List.head?_map, start, Option.map_some, Option.mem_def, Option.some.injEq] at head
    subst head
    intro position placed
    simp only [Visit.read, PageQuery.pagePosition, cursor, Option.map_some, Option.mem_def,
      Option.some.injEq] at placed
    subst placed
    have later := collates.empty_first _ (law.carried _ _ reached row found).nonempty
    rw [positionKey, ExportQuery.key, Prod.Lex.toLex_lt_toLex]
    rcases Nat.eq_zero_or_pos (table.revision row) with zero | positive
    · exact .inr ⟨zero.symm, later⟩
    · exact .inl positive
  · obtain ⟨last, ending, issued⟩ := walk.ends
    have member := List.mem_of_getLast? ending
    refine ⟨last.read table codec collate seller, ?_,
      next_none law (walk.served last member) (walk.answered last member) issued⟩
    rw [List.getLast?_map, ending, Option.map_some]

/-- What two pages of a walk both show has a greater revision on the second. -/
theorem shown_again (codecs : codec.Law) (law : table.Law references collate)
    (walk : ExportWalk references (table.list codec collate · actor seller) visits) :
    visits.Pairwise fun first second => ∀ row ∈ first.page.items, ∀ later ∈ second.page.items,
      table.identity row = table.identity later → table.revision row < table.revision later := by
  have again := Keyset.shown_again (walk.reads_follow codecs law)
  rw [List.pairwise_map] at again
  refine again.imp_of_mem ?_
  intro first second member present greater row listed later shown same
  rw [(list_ok law (walk.served first member) (walk.answered first member)).2.1] at listed
  rw [(list_ok law (walk.served second present) (walk.answered second present)).2.1] at shown
  have less := greater row listed later shown
  rw [ExportQuery.key, ExportQuery.key, same, Prod.Lex.toLex_lt_toLex] at less
  rcases less with less | ⟨-, below⟩
  · exact less
  · exact absurd below (lt_irrefl _)

end ExportWalk

end Walks

/-! The two exports. -/

section Exports

variable {κ : Type} [LinearOrder κ] {references : References} {codec : CursorCodec}
  {collate : String → κ}

theorem listing_present {gate : GatewaySys} {seller : Pubky} {id : ListingId} {listing : Listing} :
    (id, listing) ∈ (listingQuery collate).rows gate seller ↔
      gate.sys.inventory.listings.find? id = some listing ∧
        listing.sellerPubky = seller ∧ listing.deletedAt = none := by
  rw [← Keyed.Table.mem_rows_iff]
  simp [listingQuery, List.mem_filter]

theorem order_present {gate : GatewaySys} {seller : Pubky} {id : OrderId} {cell : Cell} :
    (id, cell) ∈ orderQuery.rows gate seller ↔
      gate.sys.cells.find? id = some cell ∧ cell.book.order.sellerPubky = seller := by
  rw [← Keyed.Table.mem_rows_iff]
  simp [orderQuery, List.mem_filter]

theorem listing_law : (listingQuery collate).Law references collate where
  carried gate seller served := by
    rintro ⟨id, listing⟩ member
    exact ((served_admitted served).listings id listing (listing_present.mp member).1).carried
  fits gate seller fits row member := fits.listings row (List.mem_of_mem_filter member)
  sorts gate seller served row member other present := by
    exact decide_eq_true_iff
  distinct gate seller served := by
    rintro ⟨id, listing⟩ member ⟨other, row⟩ present same
    obtain rfl : other = id := same
    have found := (listing_present.mp member).1
    rw [(listing_present.mp present).1] at found
    rw [Option.some.inj found]
  advances before after seller served reached advance := by
    rintro ⟨id, listing⟩ member ⟨other, later⟩ present same
    obtain rfl : id = other := same
    obtain ⟨done, found, le⟩ := advance.listings id listing (listing_present.mp member).1
    rw [(listing_present.mp present).1] at found
    cases found
    exact le

theorem uuidText_inj (collates : Collates collate) {first second : OrderId} (one : IsUuid first)
    (two : IsUuid second) (same : uuidText first = uuidText second) : first = second := by
  rcases Nat.lt_trichotomy first second with less | equal | greater
  · have below := collates.uuids first second less two
    rw [same] at below
    exact absurd below (lt_irrefl _)
  · exact equal
  · have below := collates.uuids second first greater one
    rw [same] at below
    exact absurd below (lt_irrefl _)

theorem uuidText_le (collates : Collates collate) {first second : OrderId} (one : IsUuid first)
    (two : IsUuid second) :
    collate (uuidText first) ≤ collate (uuidText second) ↔ first ≤ second := by
  constructor
  · intro le
    by_contra greater
    exact absurd (collates.uuids second first (Nat.lt_of_not_le greater) one) (not_lt_of_ge le)
  · intro le
    rcases Nat.lt_or_eq_of_le le with less | rfl
    · exact (collates.uuids first second less two).le
    · exact le_rfl

theorem order_law (collates : Collates collate) : orderQuery.Law references collate where
  carried gate seller served row member := uuidText_carried row.1
  fits gate seller fits row member := fits.orders row (List.mem_of_mem_filter member)
  sorts gate seller served := by
    rintro ⟨id, cell⟩ member ⟨other, row⟩ present
    have one := (served_admitted served).orders id cell (order_present.mp member).1
    have two := (served_admitted served).orders other row (order_present.mp present).1
    simp only [orderQuery, ExportQuery.key, decide_eq_true_eq, Prod.Lex.toLex_le_toLex]
    rw [uuidText_le collates one two]
  distinct gate seller served := by
    rintro ⟨id, cell⟩ member ⟨other, row⟩ present same
    have one := (served_admitted served).orders id cell (order_present.mp member).1
    have two := (served_admitted served).orders other row (order_present.mp present).1
    obtain rfl : other = id := uuidText_inj collates two one same
    have found := (order_present.mp member).1
    rw [(order_present.mp present).1] at found
    rw [Option.some.inj found]
  advances before after seller served reached advance := by
    rintro ⟨id, cell⟩ member ⟨other, later⟩ present same
    have one := (served_admitted served).orders id cell (order_present.mp member).1
    have two := (served_admitted reached).orders other later (order_present.mp present).1
    obtain rfl : id = other := uuidText_inj collates one two same
    obtain ⟨done, found, le⟩ := advance.orders id cell (order_present.mp member).1
    rw [(order_present.mp present).1] at found
    cases found
    exact le

theorem items_subperm {α : Type} {table : ExportQuery α} (law : table.Law references collate)
    {visit : Visit α} {actor seller : Pubky} (served : Served references visit.gate)
    (answered : table.list codec collate visit.gate actor seller visit.query = .ok visit.page) :
    visit.page.items.Subperm (table.rows visit.gate seller) := by
  rw [(list_ok law served answered).2.1, Keyset.Read.items_eq_page]
  unfold Keyset.page
  refine (List.take_sublist _ _).subperm.trans ?_
  refine (List.perm_insertionSort _ _).subperm.trans ?_
  exact List.filter_sublist.subperm

/-- What the pages of a finished walk show of the rows that stand in the table:
each that stands there at every request, and none twice without a write of it in
between. -/
structure Complete {α ι : Type} (visits : List (Visit α)) (stands : GatewaySys → ι → Prop)
    (identity : α → ι) (revision : α → ℕ) : Prop where
  shown : ∀ id, (∀ visit ∈ visits, stands visit.gate id) →
    ∃ visit ∈ visits, ∃ row ∈ visit.page.items, identity row = id
  once : ∀ visit ∈ visits, (visit.page.items.map identity).Nodup
  again : visits.Pairwise fun first second => ∀ row ∈ first.page.items,
    ∀ later ∈ second.page.items, identity row = identity later → revision row < revision later

theorem items_once {K V : Type} [DecidableEq K] {table : ExportQuery (K × V)}
    (law : table.Law references collate) {visit : Visit (K × V)} {actor seller : Pubky}
    (served : Served references visit.gate) {stored : Keyed.Table K V} {kept : K × V → Bool}
    (rows : table.rows visit.gate seller = stored.rows.filter kept)
    (answered : table.list codec collate visit.gate actor seller visit.query = .ok visit.page) :
    (visit.page.items.map Prod.fst).Nodup := by
  have subperm := items_subperm law served answered
  rw [rows] at subperm
  obtain ⟨shuffled, perm, sublist⟩ := subperm
  have distinct : (shuffled.map Prod.fst).Nodup :=
    stored.nodup.sublist ((sublist.trans List.filter_sublist).map Prod.fst)
  exact (perm.map Prod.fst).nodup_iff.mp distinct

theorem listing_walk_complete (codecs : codec.Law) (collates : Collates collate)
    {actor seller : Pubky} {visits : List (Visit (ListingId × Listing))}
    (walk : ExportWalk references (listSellerListings codec collate · actor seller) visits) :
    Complete visits (fun gate id => ∃ listing, gate.sys.inventory.listings.find? id = some listing ∧
      listing.sellerPubky = seller ∧ listing.deletedAt = none) Prod.fst
      fun row => row.2.serverRevision where
  shown id stands := by
    refine walk.shows codecs collates listing_law fun visit member => ?_
    obtain ⟨listing, stored⟩ := stands visit member
    exact ⟨(id, listing), listing_present.mpr stored, rfl⟩
  once visit member :=
    items_once listing_law (walk.served visit member) rfl (walk.answered visit member)
  again := walk.shown_again codecs listing_law

theorem order_walk_complete (codecs : codec.Law) (collates : Collates collate)
    {actor seller : Pubky} {visits : List (Visit (OrderId × Cell))}
    (walk : ExportWalk references (listSellerOrders codec collate · actor seller) visits) :
    Complete visits (fun gate id => ∃ cell, gate.sys.cells.find? id = some cell ∧
      cell.book.order.sellerPubky = seller) Prod.fst
      fun row => row.2.book.order.revision where
  shown id stands := by
    have law : orderQuery.Law references collate := order_law collates
    have present : ∀ visit ∈ visits, ∃ row ∈ orderQuery.rows visit.gate seller,
        orderQuery.identity row = uuidText id := by
      intro visit member
      obtain ⟨cell, stored⟩ := stands visit member
      exact ⟨(id, cell), order_present.mpr stored, rfl⟩
    obtain ⟨visit, member, row, listed, named⟩ := walk.shows codecs collates law present
    refine ⟨visit, member, row, listed, ?_⟩
    have served := walk.served visit member
    have present := (items_subperm law served (walk.answered visit member)).subset listed
    obtain ⟨cell, stored⟩ := stands visit member
    exact uuidText_inj collates ((served_admitted served).orders _ _ (order_present.mp present).1)
      ((served_admitted served).orders id cell stored.1) named
  once visit member :=
    items_once (order_law collates) (walk.served visit member) rfl (walk.answered visit member)
  again := (walk.shown_again codecs (order_law collates)).imp
    fun greater row listed later shown same =>
      greater row listed later shown (congrArg uuidText same)

/-- A seller's walk over the export of the listings, or of the orders, is
complete whatever the service does between its requests, and a cursor decodes to
the position that it was issued for. -/
theorem seller_export_walks_are_complete (references : References) (codecs : codec.Law)
    (collates : Collates collate) (actor seller : Pubky) :
    (∀ visits, ExportWalk references (listSellerListings codec collate · actor seller) visits →
      Complete visits (fun gate id => ∃ listing,
        gate.sys.inventory.listings.find? id = some listing ∧
          listing.sellerPubky = seller ∧ listing.deletedAt = none) Prod.fst
        fun row => row.2.serverRevision) ∧
    (∀ visits, ExportWalk references (listSellerOrders codec collate · actor seller) visits →
      Complete visits (fun gate id => ∃ cell, gate.sys.cells.find? id = some cell ∧
        cell.book.order.sellerPubky = seller) Prod.fst
        fun row => row.2.book.order.revision) ∧
    (∀ (visit : Visit (ListingId × Listing)) (cursor : String), Served references visit.gate →
      RevisionsFit visit.gate →
      listSellerListings codec collate visit.gate actor seller visit.query = .ok visit.page →
      visit.page.nextCursor = some cursor →
        ∃ row, visit.page.items.getLast? = some row ∧
          decodePageCursor codec cursor = some ((row.2.serverRevision : ℤ), row.1)) ∧
    (∀ (visit : Visit (OrderId × Cell)) (cursor : String), Served references visit.gate →
      RevisionsFit visit.gate →
      listSellerOrders codec collate visit.gate actor seller visit.query = .ok visit.page →
      visit.page.nextCursor = some cursor →
        ∃ row, visit.page.items.getLast? = some row ∧
          decodePageCursor codec cursor =
            some ((row.2.book.order.revision : ℤ), uuidText row.1)) ∧
    ∀ (revision : ℕ) (id : ListingId), revision < 2 ^ 63 → AdmittedListing id →
      decodePageCursor codec (encodePageCursor codec revision id) = some ((revision : ℤ), id) := by
  refine ⟨?_, ?_, ?_, ?_, ?_⟩
  · exact fun visits walk => listing_walk_complete codecs collates walk
  · exact fun visits walk => order_walk_complete codecs collates walk
  · intro visit cursor served fits answered issued
    obtain ⟨row, last, decoded, -⟩ :=
      issued_decodes codecs listing_law served fits answered issued
    exact ⟨row, last, decoded⟩
  · intro visit cursor served fits answered issued
    obtain ⟨row, last, decoded, -⟩ :=
      issued_decodes codecs (order_law collates) served fits answered issued
    exact ⟨row, last, decoded⟩
  · exact fun revision id fits admitted => decode_encode codecs admitted.carried fits

end Exports

/-! A walk of two pages, with a write between them. -/

theorem codePoints_collate : Collates (fun text : String => text) where
  injective := Function.injective_id
  empty_first text nonempty := by
    rw [String.lt_iff_toList_lt]
    cases shape : text.toList with
    | nil => exact absurd (String.toList_eq_nil_iff.mp shape) nonempty
    | cons head rest => exact List.nil_lt_cons _ _
  uuids _ _ less small := uuidText_lt less small

def exportSeller : Pubky := "yyyyyyyyyyyyyyyyyyyyyyyyyyyyyyyyyyyyyyyyyyyyyyyyyyyy"

def exportBoots : ListingId := "listing:yyyyyyyyyyyyyyyyyyyyyyyyyyyyyyyyyyyyyyyyyyyyyyyyyyyy_boots"

def exportLamp : ListingId := "listing:yyyyyyyyyyyyyyyyyyyyyyyyyyyyyyyyyyyyyyyyyyyyyyyyyyyy_lamp"

def exportRecord : ListingRecord := { sampleRecord 2 "USD" 2 with sellerPubky := exportSeller }

def exportRegister (id : ListingId) : GatewayAction :=
  .service (.registerListing id exportRecord { actor := exportSeller, expectedRevision := 0 } true)

def exportAdjust (id : ListingId) (revision : ℕ) : GatewayAction :=
  .service (.adjustInventory id { actor := exportSeller, expectedRevision := revision } 1)

def exportStart : List GatewayAction :=
  [exportRegister exportBoots, exportRegister exportLamp, exportAdjust exportLamp 1]

def exportGate (actions : List GatewayAction) : GatewaySys :=
  let start : GatewaySys := { sys := emptySys, files := .empty }
  (Runs.run (gatewayMarketplace sampleReferences) start actions).getD start

def exportMove : GatewayAction := exportAdjust exportLamp 2

theorem exportBoots_admitted : AdmittedListing exportBoots :=
  ⟨exportSeller, "boots", by decide, by decide, by decide⟩

theorem exportLamp_admitted : AdmittedListing exportLamp :=
  ⟨exportSeller, "lamp", by decide, by decide, by decide⟩

def exportCursor : String := encodePageCursor urlSafeCodec ((1 : ℕ) : ℤ) exportBoots

def firstVisit : Visit (ListingId × Listing) :=
  { gate := exportGate exportStart
    query := { limit := some 1, cursor := none }
    page :=
      { items := (exportGate exportStart).sys.inventory.listings.rows.take 1
        nextCursor := some exportCursor } }

def secondVisit : Visit (ListingId × Listing) :=
  { gate := exportGate (exportStart ++ [exportMove])
    query := { limit := some 1, cursor := some exportCursor }
    page :=
      { items := (exportGate (exportStart ++ [exportMove])).sys.inventory.listings.rows.drop 1
        nextCursor := none } }

theorem adjust_admitted {gate : GatewaySys} {id : ListingId} {revision : ℕ} :
    AdmittedStep gate (exportAdjust id revision) :=
  ⟨fun _ named => named.elim, fun _ drawn => by cases drawn⟩

theorem register_admitted {gate : GatewaySys} {id : ListingId} (admitted : AdmittedListing id) :
    AdmittedStep gate (exportRegister id) := by
  refine ⟨fun other named => ?_, fun _ drawn => by cases drawn⟩
  obtain rfl : other = id := named
  exact admitted

theorem exportStart_served : Served sampleReferences (exportGate exportStart) := by
  refine @Runs.reachable_of_meets _ _ _ _ exportStart _ _ (.start rfl) ?_ rfl
  refine ⟨register_admitted exportBoots_admitted, fun _ _ => ?_⟩
  exact ⟨register_admitted exportLamp_admitted, fun _ _ => ⟨adjust_admitted, fun _ _ => trivial⟩⟩

theorem export_walks : ExportWalk sampleReferences
    (listSellerListings urlSafeCodec (fun text : String => text) · exportSeller exportSeller)
    [firstVisit, secondVisit] where
  starts := ⟨firstVisit, rfl, exportStart_served, rfl⟩
  fits := by
    rw [List.forall_mem_cons, List.forall_mem_singleton]
    exact ⟨⟨by decide +kernel, by decide +kernel⟩, ⟨by decide +kernel, by decide +kernel⟩⟩
  answered := by
    have placed : secondVisit.query.pagePosition urlSafeCodec = some (1, exportBoots) :=
      decode_encode urlSafeCodec_law exportBoots_admitted.carried (by decide : 1 < 2 ^ 63)
    rw [List.forall_mem_cons, List.forall_mem_singleton]
    constructor
    · rfl
    · unfold listSellerListings ExportQuery.list
      rw [placed]
      rfl
  follows := by
    rw [List.isChain_pair]
    refine ⟨⟨exportCursor, rfl, rfl⟩, [exportMove], ⟨adjust_admitted, fun _ _ => trivial⟩, ?_⟩
    rfl
  ends := ⟨secondVisit, rfl, rfl⟩

theorem two_page_walk_is_complete :
    ExportWalk sampleReferences
        (listSellerListings urlSafeCodec (fun text : String => text) · exportSeller exportSeller)
        [firstVisit, secondVisit] ∧
      Complete [firstVisit, secondVisit] (fun gate id => ∃ listing,
        gate.sys.inventory.listings.find? id = some listing ∧
          listing.sellerPubky = exportSeller ∧ listing.deletedAt = none) Prod.fst
        fun row => row.2.serverRevision :=
  ⟨export_walks, (seller_export_walks_are_complete sampleReferences urlSafeCodec_law
    codePoints_collate exportSeller exportSeller).1 _ export_walks⟩

end MarketplaceService
