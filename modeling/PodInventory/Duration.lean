import PodInventory.Json.Decode

namespace PodInventory

open Text

/-- A span of time to the nanosecond. -/
structure Duration where
  secs : UInt64
  nanos : Fin 1000000000
  deriving DecidableEq, Inhabited

namespace Duration

def ofMillis (ms : Nat) : Duration :=
  ⟨(ms / 1000).toUInt64, ⟨ms % 1000 * 1000000, by omega⟩⟩

/-- Whole milliseconds, rounded up as a timer counts them. -/
def ticks (d : Duration) : Nat := d.secs.toNat * 1000 + (d.nanos.val + 999999) / 1000000

/-- A fraction of `places` digits without the zeros at its end. -/
def fractionText (places n : Nat) : List Char :=
  let digits := ((padded 10 places n).reverse.dropWhile (· == '0')).reverse
  if digits = [] then [] else '.' :: digits

/-- The largest unit with a whole part is used, and the fraction is exact. -/
def text (d : Duration) : String :=
  let n := d.nanos.val
  if 0 < d.secs then
    .ofList (decimal d.secs.toNat ++ fractionText 9 n ++ ['s'])
  else if 1000000 ≤ n then
    .ofList (decimal (n / 1000000) ++ fractionText 6 (n % 1000000) ++ ['m', 's'])
  else if 1000 ≤ n then
    .ofList (decimal (n / 1000) ++ fractionText 3 (n % 1000) ++ ['µ', 's'])
  else .ofList (decimal n ++ ['n', 's'])

def json (d : Duration) : Json :=
  .object [("secs", .nat d.secs.toNat), ("nanos", .nat d.nanos.val)]

open Decode in
def layout : Layout where
  title := "struct Duration"
  fields := [.of "secs" word64, .of "nanos" (natural 32)]
  sealed := true

/-- Whole seconds among the nanoseconds are carried over. -/
def carry (place : Option Place) (secs nanos : Nat) : Except Fault Duration :=
  let total := secs + nanos / 1000000000
  if UInt64.size ≤ total then .error ⟨.durationOverflow, place⟩
  else .ok ⟨total.toUInt64, ⟨nanos % 1000000000, by omega⟩⟩

/-- Where a reader of the whole value ends up. -/
def halt : Document.Node → Option Place
  | .object _ _ ms => last ms
  | .list _ _ (.item _ _ (.item _ _ tail)) => tail.halt
  | _ => none
where
  last : Document.Members → Option Place
    | .done halt => halt
    | .cut halt _ _ => halt
    | .member _ _ _ tail => last tail

open Decode in
def decode : Decoder Duration := fun n ↦ do
  let fields ← layout.read n
  carry (halt n) (← fields.need "secs" (natural 64)) (← fields.need "nanos" (natural 32))

end Duration

/-- A reading of the clock, in nanoseconds since its start. The clock counts its seconds in a signed
word. -/
structure Instant where
  nanos : Nat
  inRange : nanos / 1000000000 ≤ Int64.maxValue.toNatClampNeg

namespace Instant

/-- The moment so many milliseconds later, if the clock gets there. A call is dispatched with the
moment of its deadline, and where there is none the dispatch panics. -/
def after? (now : Instant) (ms : Nat) : Option Instant :=
  if h : (now.nanos + ms * 1000000) / 1000000000 ≤ Int64.maxValue.toNatClampNeg then
    some ⟨now.nanos + ms * 1000000, h⟩
  else none

theorem isSome_after?_iff {now : Instant} {ms : Nat} :
    (now.after? ms).isSome = true ↔
      (now.nanos + ms * 1000000) / 1000000000 ≤ Int64.maxValue.toNatClampNeg := by
  unfold after?
  by_cases h : (now.nanos + ms * 1000000) / 1000000000 ≤ Int64.maxValue.toNatClampNeg
  · rw [dif_pos h]
    exact iff_of_true rfl h
  · rw [dif_neg h]
    exact iff_of_false Bool.false_ne_true h

end Instant

end PodInventory
