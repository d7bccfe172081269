import TorusEngine.Drawing.BuildState
import TorusEngine.Paging.ElementType

/-!
# Faults

Everything that can stop an operation of the engine is one of the causes below. `Fault.message` is
the only place that words them.

A *refusal* is an answer that callers plan for: the arena is full, or a request has no sense. A
*violation* is a broken contract between a caller and the engine, and the remaining faults are the
limits of the machine: 64-bit sizes, the length of a table, the address space.
-/

namespace TorusEngine

open Paging (ElementType)
open Drawing (BuildState)

inductive Refusal where
  | arenaExhausted (requested ceiling : Nat)
  | emptySchema
  | zeroPageSize
  | serviceNotStarted (reason : String)
deriving DecidableEq, Repr

def Refusal.message : Refusal → String
  | arenaExhausted requested ceiling =>
      s!"page arena exhausted: {requested} pages requested, ceiling is {ceiling}"
  | emptySchema => "schema has no fields"
  | zeroPageSize => "page size must be non-zero"
  | serviceNotStarted reason => s!"failed to start freeing service: {reason}"

structure UploadFailure where
  page : Nat
  reason : String
deriving DecidableEq, Repr

def UploadFailure.message (failure : UploadFailure) : String :=
  s!"upload of physical page {failure.page} failed: {failure.reason}"

inductive ExecutorFailure where
  | stopped
  | notStarted (reason : String)
deriving DecidableEq, Repr

def ExecutorFailure.message : ExecutorFailure → String
  | stopped => "relevance executor has stopped"
  | notStarted reason => s!"failed to start relevance executor: {reason}"

inductive Rejection where
  | always
  | addressTooWide (address : Nat)
  | countTooWide (count : Nat)
  | other (reason : String)
deriving DecidableEq, Repr

def Rejection.message : Rejection → String
  | always => "recording backend set to reject"
  | addressTooWide address => s!"list address {address} exceeds u32"
  | countTooWide count => s!"list count {count} exceeds u32"
  | other reason => reason

inductive DrawFailure where
  | workersNotStarted (reason : String)
  | rejected (why : Rejection)
deriving DecidableEq, Repr

def DrawFailure.message : DrawFailure → String
  | workersNotStarted reason => s!"failed to build render worker pool: {reason}"
  | rejected why => s!"backend rejected draw: {why.message}"

inductive DeviceFailure where
  | noAdapter
  | unalignedPage (pageSize : Nat)
  | arenaTooLarge (bytes limit : Nat)
deriving DecidableEq, Repr

def DeviceFailure.message : DeviceFailure → String
  | noAdapter => "no suitable GPU adapter found"
  | unalignedPage pageSize => s!"page size {pageSize} is not a multiple of the copy alignment"
  | arenaTooLarge bytes limit =>
      s!"arena of {bytes} bytes exceeds the device buffer limit of {limit}"

inductive Arithmetic where
  | add
  | subtract
  | multiply
deriving DecidableEq, Repr

def Arithmetic.name : Arithmetic → String
  | add => "add"
  | subtract => "subtract"
  | multiply => "multiply"

inductive Violation where
  | notOutstanding (index : Nat)
  | reversedBounds
  | wrongElementType (used declared : ElementType)
  | elementOutOfRange (element length : Nat)
  | tooManyValues (count length : Nat)
  | createRefused (why : Refusal)
  | cellSizeNotPositive
  | backOutsideRebuild (state : BuildState)
  | finishOutsideRebuild (state : BuildState)
  | durationSumOverflow
  | durationDividedByZero
deriving DecidableEq, Repr

private def unequal (title left right : String) : String :=
  "assertion \x60left == right\x60 failed: " ++ title ++ "\n  left: " ++ left ++ "\n right: " ++ right

def Violation.message : Violation → String
  | notOutstanding index => s!"freeing index {index} that is not outstanding"
  | reversedBounds => "assertion failed: min <= max"
  | wrongElementType used declared => unequal "wrong element type for field" used.name declared.name
  | elementOutOfRange element length =>
      s!"element {element} out of range for a field of {length}"
  | tooManyValues count length => s!"{count} values do not fit a field of {length}"
  | createRefused why => why.message
  | cellSizeNotPositive => "cell_size must be positive"
  | backOutsideRebuild state =>
      unequal "back list used outside a rebuild" state.name BuildState.building.name
  | finishOutsideRebuild state =>
      unequal "finish_rebuild without a rebuild in flight" (toString state.code)
        (toString BuildState.building.code)
  | durationSumOverflow => "overflow in iter::sum over durations"
  | durationDividedByZero => "divide by zero error when dividing duration by scalar"

inductive Fault where
  | refused (why : Refusal)
  | executor (why : ExecutorFailure)
  | drawing (why : DrawFailure)
  | device (why : DeviceFailure)
  | violated (contract : Violation)
  | overflow (operation : Arithmetic)
  | divisionByZero
  | outOfBounds (length index : Nat)
  | outOfAddressSpace
  | badRange
  | unknownName
  | unknownField
  | serviceStopped
deriving DecidableEq, Repr

/-- Whether a fault is an answer that callers plan for; the others end a program. -/
def Fault.isPlanned : Fault → Bool
  | refused _ | executor _ | drawing _ | device _ => true
  | _ => false

def Fault.message : Fault → String
  | refused why => why.message
  | executor why => why.message
  | drawing why => why.message
  | device why => why.message
  | violated contract => contract.message
  | overflow operation => s!"attempt to {operation.name} with overflow"
  | divisionByZero => "attempt to divide by zero"
  | outOfBounds length index =>
      s!"index out of bounds: the len is {length} but the index is {index}"
  | outOfAddressSpace => "capacity overflow"
  | badRange => "range outside the slice"
  | unknownName => "no such name"
  | unknownField => "no such field"
  | serviceStopped => "the freeing service has stopped"

end TorusEngine
