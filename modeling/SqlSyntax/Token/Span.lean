import SqlSyntax.Text.Bytes

/-!
# Spans of source text
-/
namespace SqlSyntax

/-- The bytes of a source from `start` up to, and without, `stop`. -/
structure Span where
  start : Nat
  stop : Nat
  deriving DecidableEq, Inhabited

namespace Span

/-- The empty span at an offset. -/
def point (offset : Nat) : Span := ⟨offset, offset⟩

def isEmpty (s : Span) : Bool := s.start = s.stop

/-- The length in bytes, of a span whose end is not before its start. -/
def length? (s : Span) : Option Nat := if s.start ≤ s.stop then some (s.stop - s.start) else none

/-- The text under the span, if the span lies in the source on character boundaries. -/
def slice? (s : Span) (source : List Char) : Option (List Char) := do
  let length ← s.length?
  let (_, rest) ← splitBytes s.start source
  let (text, _) ← splitBytes length rest
  return text

def text (s : Span) : String := toString s.start ++ ".." ++ toString s.stop

theorem slice?_append (a b c : List Char) :
    (⟨byteSize a, byteSize a + byteSize b⟩ : Span).slice? (a ++ (b ++ c)) = some b := by
  simp [slice?, length?, splitBytes_append]

/-- A slice stands between two parts of the text, and the span counts their bytes. -/
theorem slice?_eq_some_iff {s : Span} {source text : List Char} :
    s.slice? source = some text ↔
      ∃ a c, source = a ++ (text ++ c) ∧ s = ⟨byteSize a, byteSize a + byteSize text⟩ := by
  constructor
  · intro h
    obtain ⟨length, hlength, h⟩ := Option.bind_eq_some_iff.mp h
    obtain ⟨⟨a, rest⟩, hrest, h⟩ := Option.bind_eq_some_iff.mp h
    obtain ⟨⟨b, c⟩, htext, h⟩ := Option.bind_eq_some_iff.mp h
    cases h
    obtain ⟨rfl, ha⟩ := append_of_splitBytes hrest
    obtain ⟨rfl, hb⟩ := append_of_splitBytes htext
    obtain ⟨hle, hlength⟩ := Option.ite_none_right_eq_some.mp hlength
    have hstop : byteSize a + byteSize text = s.stop := by
      rw [ha, hb, ← Option.some.inj hlength, Nat.add_sub_cancel' hle]
    exact ⟨a, c, rfl, by rw [hstop, ha]⟩
  · rintro ⟨a, c, rfl, rfl⟩
    exact slice?_append a text c

end Span

end SqlSyntax
