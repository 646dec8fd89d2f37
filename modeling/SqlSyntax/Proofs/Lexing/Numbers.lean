import SqlSyntax.Proofs.Lexing.Run

/-!
# What numbers stand for

A number takes up all the digits that come, and if a point comes after them, the point and all the
digits that come then. Without a point it stands for its decimal value, if that fits in 64 bits with
a sign; with a point it is a float. What comes next is left, be it a letter or another point.
-/
namespace SqlSyntax

theorem stops_number_iff {rest : List Char} :
    Stops (fun d => d.isDigit || d = '.') rest ↔
      Stops Char.isDigit rest ∧ rest.head? ≠ some '.' := by
  cases rest with
  | nil => simp [Stops]
  | cons d rest => simp [Stops]

namespace Lexer

variable {c : Char} {gap digits fraction rest : List Char}

theorem next_integer (hgap : Gap false gap) (offset : Nat) (hc : c.isDigit = true)
    (hdigits : ∀ d ∈ digits, d.isDigit = true) (hrest : Stops Char.isDigit rest)
    (hpoint : rest.head? ≠ some '.') (h : digitsValue (c :: digits) ≤ 0x7FFFFFFFFFFFFFFF) :
    let stop := offset + byteSize gap + byteSize (c :: digits)
    (⟨offset, gap ++ (c :: digits ++ rest)⟩ : Lexer).next =
      (.ok ⟨.literal (.integer (Int64.ofNat (digitsValue (c :: digits)))),
        ⟨offset + byteSize gap, stop⟩⟩, ⟨stop, rest⟩) :=
  next_token offset hgap (.integer hc hdigits h) (stops_number_iff.mpr ⟨hrest, hpoint⟩)

theorem next_tooLarge (hgap : Gap false gap) (offset : Nat) (hc : c.isDigit = true)
    (hdigits : ∀ d ∈ digits, d.isDigit = true) (hrest : Stops Char.isDigit rest)
    (hpoint : rest.head? ≠ some '.') (h : 0x7FFFFFFFFFFFFFFF < digitsValue (c :: digits)) :
    (⟨offset, gap ++ (c :: digits ++ rest)⟩ : Lexer).next =
      (.error ⟨.integerTooLarge (String.ofList (c :: digits)), offset + byteSize gap⟩,
        ⟨offset + byteSize gap + byteSize (c :: digits), rest⟩) := by
  have hscan : scan c (digits ++ rest) =
      ⟨.error (.integerTooLarge (String.ofList (c :: digits))), c :: digits, rest⟩ := by
    rw [scan_digit hc, Scan.number_integer hdigits (stops_number_iff.mpr ⟨hrest, hpoint⟩),
      Scan.integerKind_of_lt h]
  have hne (d : Char) (hd : d.isDigit = false) : c ≠ d := by
    rintro rfl
    exact absurd hc (hd ▸ Bool.false_ne_true)
  have hspacing : ¬isSpacing c = true := by
    intro h
    obtain rfl | rfl | rfl | rfl := isSpacing_iff.mp h <;> exact hne _ rfl rfl
  have hcomment := splitComment?_of_ne (hne '-' rfl) (hne '/' rfl) (digits ++ rest)
  have hnext := next_error offset hgap ⟨hspacing, hcomment, congrArg Scan.kind hscan⟩
  rwa [hscan] at hnext

theorem next_float (hgap : Gap false gap) (offset : Nat) (hc : c.isDigit = true)
    (hdigits : ∀ d ∈ digits, d.isDigit = true) (hfraction : ∀ d ∈ fraction, d.isDigit = true)
    (hrest : Stops Char.isDigit rest) :
    let stop := offset + byteSize gap + byteSize (c :: (digits ++ '.' :: fraction))
    (⟨offset, gap ++ (c :: digits ++ '.' :: (fraction ++ rest))⟩ : Lexer).next =
      (.ok ⟨.literal (.float (Double.ofDigits (c :: digits) fraction)),
        ⟨offset + byteSize gap, stop⟩⟩, ⟨stop, rest⟩) := by
  have hnext := next_token offset hgap (.float hc hdigits hfraction) hrest
  simpa using hnext

/-- After any gap a digit begins a number, which has all the digits that come. If no point comes
next, it stands for its decimal value, whatever zeros it begins with; where the value is too large,
the call fails at the first digit and stops after the last one. If a point comes next, the number is
a float with all the digits after the point too, of which there may be none. In either case nothing
else is used up. -/
theorem next_number (hgap : Gap false gap) (offset : Nat) (hc : c.isDigit = true)
    (cs : List Char) :
    let l : Lexer := ⟨offset, gap ++ c :: cs⟩
    let digits := (c :: cs).takeWhile Char.isDigit
    let rest := (c :: cs).dropWhile Char.isDigit
    let start := offset + byteSize gap
    let stop := start + byteSize digits
    (rest.head? ≠ some '.' →
      (Nat.ofDigitChars 10 digits 0 ≤ 9223372036854775807 →
        ∃ n : Int64, n.toInt = Nat.ofDigitChars 10 digits 0 ∧
          l.next = (.ok ⟨.literal (.integer n), ⟨start, stop⟩⟩, ⟨stop, rest⟩)) ∧
      (9223372036854775807 < Nat.ofDigitChars 10 digits 0 →
        ∃ e, e.cause.message = "Invalid integer literal " ++ String.ofList digits ++
            ": number too large to fit in target type" ∧
          e.position = start ∧ l.next = (.error e, ⟨stop, rest⟩))) ∧
    ∀ more, rest = '.' :: more →
      let fraction := more.takeWhile Char.isDigit
      let stop := start + byteSize (digits ++ '.' :: fraction)
      l.next = (.ok ⟨.literal (.float (Double.ofDigits digits fraction)), ⟨start, stop⟩⟩,
        ⟨stop, more.dropWhile Char.isDigit⟩) := by
  have hdigits (u : List Char) : ∀ d ∈ u.takeWhile Char.isDigit, d.isDigit = true :=
    List.all_eq_true.mp List.all_takeWhile
  have hstops (u : List Char) : Stops Char.isDigit (u.dropWhile Char.isDigit) :=
    eq_false_of_mem_head?_dropWhile _ u
  simp only [List.takeWhile_cons_of_pos hc, List.dropWhile_cons_of_pos hc, ← digitsValue_eq]
  have happend : c :: cs = c :: cs.takeWhile Char.isDigit ++ cs.dropWhile Char.isDigit := by
    rw [List.cons_append, List.takeWhile_append_dropWhile]
  refine ⟨fun hpoint => ⟨fun hle => ?_, fun hlt => ?_⟩, fun more hmore => ?_⟩
  · have hnext := next_integer hgap offset hc (hdigits cs) (hstops cs) hpoint hle
    rw [← happend] at hnext
    exact ⟨_, Int64.toInt_ofNat_of_lt (Nat.lt_succ_of_le hle), hnext⟩
  · have hnext := next_tooLarge hgap offset hc (hdigits cs) (hstops cs) hpoint hlt
    rw [← happend] at hnext
    exact ⟨_, rfl, rfl, hnext⟩
  · have hnext := next_float hgap offset hc (hdigits cs) (hdigits more) (hstops more)
    rw [List.takeWhile_append_dropWhile, ← hmore, ← happend] at hnext
    exact hnext

/-- The greatest integer after zeros and before a letter, the number after it, and a number before
a second point. -/
theorem next_number_limits :
    (⟨1, " 009223372036854775807x".toList⟩ : Lexer).next =
        (.ok ⟨.literal (.integer 9223372036854775807), ⟨2, 23⟩⟩, ⟨23, ['x']⟩) ∧
      (∃ e, e.cause.message =
          "Invalid integer literal 9223372036854775808: number too large to fit in target type" ∧
        (⟨0, "9223372036854775808+".toList⟩ : Lexer).next = (.error e, ⟨19, ['+']⟩)) ∧
      (⟨0, "1..5".toList⟩ : Lexer).next =
        (.ok ⟨.literal (.float (Double.ofDigits ['1'] [])), ⟨0, 2⟩⟩, ⟨2, ['.', '5']⟩) := by
  have hgap : Gap false [' '] := .spacing (by decide) .nil
  obtain ⟨hleast, -⟩ := next_number hgap 1 (c := '0') rfl "09223372036854775807x".toList
  obtain ⟨n, hn, hinteger⟩ := (hleast (by decide)).1 (by decide +kernel)
  obtain rfl : n = 9223372036854775807 := Int64.toInt_inj.mp (hn.trans (by decide +kernel))
  obtain ⟨hlarge, -⟩ := next_number .nil 0 (c := '9') rfl "223372036854775808+".toList
  obtain ⟨e, hmessage, -, herror⟩ := (hlarge (by decide)).2 (by decide +kernel)
  obtain ⟨-, hpoint⟩ := next_number .nil 0 (c := '1') rfl "..5".toList
  exact ⟨hinteger, ⟨e, hmessage, herror⟩, hpoint ['.', '5'] (by decide)⟩

end Lexer

end SqlSyntax
