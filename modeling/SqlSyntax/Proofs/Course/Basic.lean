import SqlSyntax.Proofs.Content

/-!
# The course of a run

The trace of a run is followed from event to event. Each happens at the cursor: where a kind is
consumed the cursor goes on by one, and it does not go over the end marker; where an expression or
a query begins in another one, or a repetition looks whether to go on, the cursor has gone on since
the other one began, or since the repetition last looked.
-/
namespace SqlSyntax

open SqlSyntax.Parser

/-- The cursor of a place. -/
def cursorAt (tokens : List Token) (place : List TokenKind) : Nat := tokens.length - place.length

/-- The place that an event looks back to, and its own. -/
def TraceEvent.since? {Place : Type} : TraceEvent Place → Option (Place × Place)
  | consumed _ => none
  | begun outer place => outer.map fun first => (first, place)
  | finished start place => some (start, place)
  | again last place => some (last, place)

/-- The events lead from a cursor to a cursor, in a run that began at `start`. -/
inductive Course (tokens : List Token) (start : Nat) :
    Nat → List (TraceEvent Nat) → Nat → Prop
  | stop : Course tokens start i [] i
  | consumed : kindAt tokens i ≠ .endOfInput → Course tokens start (i + 1) events j →
      Course tokens start i (.consumed i :: events) j
  | begun : (∀ k ∈ outer, start ≤ k ∧ k < i) → Course tokens start i events j →
      Course tokens start i (.begun outer i :: events) j
  | finished : start ≤ k → k < i → Course tokens start i events j →
      Course tokens start i (.finished k i :: events) j
  | again : start ≤ k → k < i → Course tokens start i events j →
      Course tokens start i (.again k i :: events) j

namespace Course

variable {tokens : List Token} {start i j k : Nat} {events later : List (TraceEvent Nat)}

theorem le (h : Course tokens start i events j) : i ≤ j := by
  induction h with
  | stop => omega
  | consumed _ _ ih => omega
  | begun _ _ ih | finished _ _ _ ih | again _ _ _ ih => exact ih

theorem append (h : Course tokens start i events j) (hlater : Course tokens start j later k) :
    Course tokens start i (events ++ later) k := by
  induction h with
  | stop => exact hlater
  | consumed hk _ ih => exact .consumed hk (ih hlater)
  | begun houter _ ih => exact .begun houter (ih hlater)
  | finished hle hlt _ ih => exact .finished hle hlt (ih hlater)
  | again hle hlt _ ih => exact .again hle hlt (ih hlater)

theorem mono {start' : Nat} (h : Course tokens start i events j) (hle : start' ≤ start) :
    Course tokens start' i events j := by
  induction h with
  | stop => exact .stop
  | consumed hk _ ih => exact .consumed hk ih
  | begun houter _ ih =>
    refine .begun (fun k hk => ?_) ih
    have := houter k hk
    omega
  | finished hk hlt _ ih => exact .finished (by omega) hlt ih
  | again hk hlt _ ih => exact .again (by omega) hlt ih

/-- No end marker is gone over. -/
theorem kindAt_ne (h : Course tokens start i events j) {k : Nat} (hle : i ≤ k) (hlt : k < j) :
    kindAt tokens k ≠ .endOfInput := by
  induction h with
  | stop => omega
  | @consumed i _ _ hk _ ih =>
    obtain rfl | hlater := Nat.eq_or_lt_of_le hle
    · exact hk
    · exact ih hlater hlt
  | begun _ _ ih | finished _ _ _ ih | again _ _ _ ih => exact ih hle hlt

/-- An event that looks back to a place happens later than there. -/
theorem lt_of_mem (h : Course tokens start i events j) {event : TraceEvent Nat}
    (hmem : event ∈ events) {before place : Nat} (hsince : event.since? = some (before, place)) :
    start ≤ before ∧ before < place ∧ place ≤ j := by
  induction h with
  | stop => cases hmem
  | consumed _ _ ih =>
    obtain _ | ⟨_, hmem⟩ := hmem
    · cases hsince
    · exact ih hmem
  | @begun outer _ _ _ houter hrest ih =>
    obtain _ | ⟨_, hmem⟩ := hmem
    · cases outer with
      | none => cases hsince
      | some before =>
        cases hsince
        obtain ⟨hle, hlt⟩ := houter before rfl
        exact ⟨hle, hlt, hrest.le⟩
    · exact ih hmem
  | finished hle hlt hrest ih | again hle hlt hrest ih =>
    obtain _ | ⟨_, hmem⟩ := hmem
    · cases hsince
      exact ⟨hle, hlt, hrest.le⟩
    · exact ih hmem

end Course

end SqlSyntax
