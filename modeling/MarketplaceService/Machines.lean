import Mathlib.Data.List.Basic

/-!
The aggregate state machines of `crates/domain/src/state_machines.rs`, as far
as the order, payment and drop code reads them: the states are the variants,
the transition table is the list of its `from`/`to` pairs. The triggers of a
transition are documentation for the client contract and are left out.
-/

namespace MarketplaceService

inductive ListingState where
  | available
  | reserved
  | sold
deriving DecidableEq, Repr

inductive ReservationStatus where
  | active
  | converted
  | released
  | expired
deriving DecidableEq, Repr

inductive OrderState where
  | pendingPayment
  | paid
  | readyForPickup
  | processing
  | shipped
  | delivered
  | completed
  | cancelRequested
  | cancelled
  | returnRequested
  | returnApproved
  | returnReceived
  | refundedExternal
  | closed
deriving DecidableEq, Repr

inductive PaymentState where
  | awaitingEntitlement
  | detected
  | confirmed
  | expired
  | manualReview
deriving DecidableEq, Repr

inductive DropState where
  | announced
  | live
  | endedSoldOut
  | endedClosed
  | endedCancelled
deriving DecidableEq, Repr

def listingMachine : List (ListingState × ListingState) :=
  [ (.available, .reserved)
  , (.reserved, .available)
  , (.reserved, .sold)
  , (.sold, .available) ]

def orderMachine : List (OrderState × OrderState) :=
  [ (.pendingPayment, .paid)
  , (.pendingPayment, .cancelled)
  , (.paid, .shipped)
  , (.paid, .readyForPickup)
  , (.paid, .delivered)
  , (.readyForPickup, .delivered)
  , (.readyForPickup, .cancelRequested)
  , (.paid, .cancelled)
  , (.readyForPickup, .cancelled)
  , (.paid, .cancelRequested)
  , (.processing, .shipped)
  , (.processing, .cancelRequested)
  , (.cancelRequested, .cancelled)
  , (.shipped, .delivered)
  , (.delivered, .returnRequested)
  , (.delivered, .completed)
  , (.completed, .returnRequested)
  , (.returnRequested, .returnApproved)
  , (.returnApproved, .returnReceived)
  , (.returnReceived, .refundedExternal)
  , (.cancelled, .refundedExternal)
  , (.paid, .refundedExternal)
  , (.readyForPickup, .refundedExternal)
  , (.shipped, .refundedExternal)
  , (.delivered, .refundedExternal)
  , (.completed, .refundedExternal)
  , (.cancelRequested, .refundedExternal)
  , (.returnRequested, .refundedExternal)
  , (.returnApproved, .refundedExternal)
  , (.refundedExternal, .paid)
  , (.refundedExternal, .readyForPickup)
  , (.refundedExternal, .shipped)
  , (.refundedExternal, .delivered)
  , (.refundedExternal, .completed)
  , (.refundedExternal, .cancelRequested)
  , (.refundedExternal, .cancelled)
  , (.refundedExternal, .returnRequested)
  , (.refundedExternal, .returnApproved)
  , (.refundedExternal, .returnReceived)
  , (.cancelled, .paid) ]

def paymentMachine : List (PaymentState × PaymentState) :=
  [ (.awaitingEntitlement, .detected)
  , (.awaitingEntitlement, .confirmed)
  , (.awaitingEntitlement, .expired)
  , (.awaitingEntitlement, .manualReview)
  , (.detected, .confirmed)
  , (.detected, .manualReview)
  , (.expired, .manualReview)
  , (.expired, .confirmed)
  , (.manualReview, .confirmed)
  , (.manualReview, .expired) ]

/-- `can_transition`: an edge of the table, or staying in the same state. -/
def canTransition {State : Type} [DecidableEq State] (machine : List (State × State))
    (before after : State) : Bool :=
  before == after || machine.contains (before, after)

end MarketplaceService
