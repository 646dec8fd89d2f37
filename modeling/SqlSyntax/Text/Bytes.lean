/-!
# Byte offsets into a text

Places in a source are counted in bytes of its UTF-8 form. A cut at an offset exists
only at a character boundary inside the text.
-/
namespace SqlSyntax

/-- The length of a text in bytes. -/
def byteSize : List Char → Nat
  | [] => 0
  | c :: cs => c.utf8Size + byteSize cs

@[simp] theorem byteSize_nil : byteSize [] = 0 := rfl

@[simp] theorem byteSize_cons (c : Char) (cs : List Char) :
    byteSize (c :: cs) = c.utf8Size + byteSize cs := rfl

@[simp] theorem byteSize_append (cs ds : List Char) :
    byteSize (cs ++ ds) = byteSize cs + byteSize ds := by
  induction cs with
  | nil => simp
  | cons c cs ih => simp [ih, Nat.add_assoc]

theorem byteSize_pos {cs : List Char} (h : cs ≠ []) : 0 < byteSize cs := by
  cases cs with
  | nil => exact absurd rfl h
  | cons c cs => have := c.utf8Size_pos; simp; omega

/-- The text split after its first `n` bytes, if a character ends there. -/
def splitBytes : Nat → List Char → Option (List Char × List Char)
  | 0, cs => some ([], cs)
  | _ + 1, [] => none
  | n + 1, c :: cs =>
    if c.utf8Size ≤ n + 1 then (splitBytes (n + 1 - c.utf8Size) cs).map fun s => (c :: s.1, s.2)
    else none

@[simp] theorem splitBytes_zero (cs : List Char) : splitBytes 0 cs = some ([], cs) := by
  cases cs <;> rfl

theorem splitBytes_append (cs ds : List Char) :
    splitBytes (byteSize cs) (cs ++ ds) = some (cs, ds) := by
  induction cs with
  | nil => simp
  | cons c cs ih =>
    obtain ⟨n, hn⟩ : ∃ n, byteSize (c :: cs) = n + 1 :=
      ⟨byteSize (c :: cs) - 1, by have := byteSize_pos (List.cons_ne_nil c cs); omega⟩
    have hc : c.utf8Size + byteSize cs = n + 1 := by rw [← byteSize_cons, hn]
    have hle : c.utf8Size ≤ n + 1 := by omega
    have hsub : n + 1 - c.utf8Size = byteSize cs := by omega
    rw [hn, List.cons_append]
    simp [splitBytes, hle, hsub, ih]

theorem append_of_splitBytes {n : Nat} {cs a b : List Char} (h : splitBytes n cs = some (a, b)) :
    a ++ b = cs ∧ byteSize a = n := by
  induction cs generalizing n a b with
  | nil => cases n <;> simp_all [splitBytes]
  | cons c cs ih =>
    cases n with
    | zero => simp_all
    | succ n =>
      simp only [splitBytes] at h
      split at h
      · rename_i hle
        obtain ⟨⟨x, y⟩, hs, he⟩ := Option.map_eq_some_iff.mp h
        obtain ⟨hxy, hx⟩ := ih hs
        simp only [Prod.mk.injEq] at he
        obtain ⟨rfl, rfl⟩ := he
        simp [hxy, hx]; omega
      · simp at h

end SqlSyntax
