import SqlSyntax.Parser.Session

/-!
# Parsers built alike

Two parsers are alike if they are put together in the same way from the same parts, save
for parts that a given relation `Base` holds of. What is shown of two parsers by going
through the ways to put parsers together holds then of every pair of this library's
parsers, under different limits or under the same ones. None of them accepts the end marker
or tells it from the end of the list, and none asks for `ON`: what does so, as it may do with
another join instead, is one of the given parts. So is a row of values, as what is wrong with it
need not be the next token.
-/
namespace SqlSyntax

open SqlSyntax.Parser

namespace TokenKind

/-- A kind of tokens that are written in a source, as the end marker is not. -/
class Written (kind : TokenKind) : Prop where
  ne_end : .endOfInput ≠ kind

instance (k : Keyword) : (keyword k).Written := ⟨nofun⟩
instance (o : Operator) : (operator o).Written := ⟨nofun⟩
instance (value : Literal) : (literal value).Written := ⟨nofun⟩
instance : leftParen.Written := ⟨nofun⟩
instance : rightParen.Written := ⟨nofun⟩
instance : comma.Written := ⟨nofun⟩
instance : semicolon.Written := ⟨nofun⟩
instance : dot.Written := ⟨nofun⟩

/-- A kind of tokens that nothing else can replace where it is asked for. -/
class Asked (kind : TokenKind) : Prop extends kind.Written where
  ne_on : kind ≠ .keyword .on

instance (o : Operator) : (operator o).Asked := ⟨nofun⟩
instance (value : Literal) : (literal value).Asked := ⟨nofun⟩
instance : leftParen.Asked := ⟨nofun⟩
instance : rightParen.Asked := ⟨nofun⟩
instance : (keyword .select).Asked := ⟨nofun⟩
instance : (keyword .from).Asked := ⟨nofun⟩
instance : (keyword .by).Asked := ⟨nofun⟩
instance : (keyword .join).Asked := ⟨nofun⟩
instance : (keyword .insert).Asked := ⟨nofun⟩
instance : (keyword .into).Asked := ⟨nofun⟩
instance : (keyword .values).Asked := ⟨nofun⟩
instance : (keyword .update).Asked := ⟨nofun⟩
instance : (keyword .set).Asked := ⟨nofun⟩
instance : (keyword .delete).Asked := ⟨nofun⟩
instance : (keyword .create).Asked := ⟨nofun⟩
instance : (keyword .table).Asked := ⟨nofun⟩
instance : (keyword .and).Asked := ⟨nofun⟩

end TokenKind

/-- The same decision on both sides, and what follows it related. -/
def BothOrNone (R : Parser α → Parser α → Prop) : Option (Parser α) → Option (Parser α) → Prop
  | none, none => True
  | some p, some q => R p q
  | _, _ => False

inductive Alike (Base : ∀ {α : Type}, Parser α → Parser α → Prop) :
    ∀ {α : Type}, Parser α → Parser α → Prop
  | base : Base p q → Alike Base p q
  | protected pure (a : α) : Alike Base (pure a) (pure a)
  | bind : Alike Base p q → (∀ a, Alike Base (f a) (g a)) → Alike Base (p >>= f) (q >>= g)
  | unexpected : expected ≠ .token (.keyword .on) →
      Alike Base (unexpected expected) (unexpected expected)
  | peek : f (some .endOfInput) = f none → (∀ next, Alike Base (f next) (g next)) →
      Alike Base (peek f) (peek g)
  | chooseOf {f g : TokenKind → Option (Parser α)} : f .endOfInput = none →
      (∀ kind, (f kind).isSome = (g kind).isSome) →
      (∀ kind p q, f kind = some p → g kind = some q → Alike Base p q) →
      Alike Base p' q' → Alike Base (choose f p') (choose g q')
  | manyOf {f g : TokenKind → Option (Parser α)} : f .endOfInput = none →
      (∀ kind, (f kind).isSome = (g kind).isSome) →
      (∀ kind p q, f kind = some p → g kind = some q → Alike Base p q) →
      Alike Base (many f) (many g)

namespace Alike

variable {Base : ∀ {α : Type}, Parser α → Parser α → Prop} {α : Type}

theorem isSome_of_both {R : Parser α → Parser α → Prop} {x y : Option (Parser α)}
    (h : BothOrNone R x y) : x.isSome = y.isSome := by
  cases x <;> cases y <;> simp_all [BothOrNone]

theorem of_both {R : Parser α → Parser α → Prop} {x y : Option (Parser α)}
    (h : BothOrNone R x y) {p q : Parser α} (hx : x = some p) (hy : y = some q) : R p q := by
  subst hx hy
  exact h

theorem choose {f g : TokenKind → Option (Parser α)} {p q : Parser α}
    (h : ∀ kind, BothOrNone (Alike Base) (f kind) (g kind)) (hend : f .endOfInput = none)
    (ho : Alike Base p q) : Alike Base (choose f p) (choose g q) :=
  .chooseOf hend (fun kind => isSome_of_both (h kind)) (fun kind _ _ => of_both (h kind)) ho

theorem many {f g : TokenKind → Option (Parser α)}
    (h : ∀ kind, BothOrNone (Alike Base) (f kind) (g kind)) (hend : f .endOfInput = none) :
    Alike Base (many f) (many g) :=
  .manyOf hend (fun kind => isSome_of_both (h kind)) (fun kind _ _ => of_both (h kind))

/-- A decision on one side is made on the other side too. -/
theorem exists_of_isSome_eq {f g : TokenKind → Option (Parser α)}
    (hs : ∀ kind, (f kind).isSome = (g kind).isSome) {kind : TokenKind} {p : Parser α}
    (hk : f kind = some p) : ∃ q, g kind = some q := by
  have h := hs kind
  rw [hk, Option.isSome_some] at h
  exact Option.isSome_iff_exists.mp h.symm

theorem none_of_isSome_eq {f g : TokenKind → Option (Parser α)}
    (hs : ∀ kind, (f kind).isSome = (g kind).isSome) {kind : TokenKind} (hk : f kind = none) :
    g kind = none := by
  have h := hs kind
  rw [hk, Option.isSome_none] at h
  simpa using h.symm

theorem forall_of_isSome_eq {f g : TokenKind → Option (Parser α)}
    (hs : ∀ kind, (f kind).isSome = (g kind).isSome) {P : Parser α → Prop}
    (h : ∀ kind p q, f kind = some p → g kind = some q → P p) (kind : TokenKind) (p : Parser α)
    (hp : f kind = some p) : P p := by
  obtain ⟨q, hq⟩ := exists_of_isSome_eq hs hp
  exact h kind p q hp hq

/-- A decision for one kind. -/
theorem both_if {R : Parser α → Parser α → Prop} {p q : Parser α} (c : Prop) [Decidable c]
    (h : R p q) : BothOrNone R (if c then some p else none) (if c then some q else none) := by
  split
  · exact h
  · trivial

theorem both_map {β : Type} {R : Parser α → Parser α → Prop} {x : Option β}
    {f g : β → Parser α} (h : ∀ b, R (f b) (g b)) : BothOrNone R (x.map f) (x.map g) := by
  cases x with
  | none => trivial
  | some b => exact h b

/-! ## Tokens and lists -/

section Kinds

variable (kind : TokenKind) [kind.Written] {p q : Parser α}

theorem skip : Alike Base (skip kind) (skip kind) :=
  choose (fun _ => both_if _ (.pure true)) (if_neg TokenKind.Written.ne_end) (.pure false)

theorem after (default : α) (h : Alike Base p q) :
    Alike Base (after kind p default) (after kind q default) :=
  choose (fun _ => both_if _ h) (if_neg TokenKind.Written.ne_end) (.pure default)

theorem manyAfter (h : Alike Base p q) :
    Alike Base (Parser.many fun k => if k = kind then some p else none)
      (Parser.many fun k => if k = kind then some q else none) :=
  many (fun _ => both_if _ h) (if_neg TokenKind.Written.ne_end)

theorem expect (kind : TokenKind) [kind.Asked] : Alike Base (expect kind) (expect kind) :=
  choose (fun _ => both_if _ (.pure ())) (if_neg TokenKind.Written.ne_end)
    (.unexpected fun h => TokenKind.Asked.ne_on (Expectation.token.inj h))

end Kinds

theorem identifier : Alike Base identifier identifier := by
  refine choose (fun kind => ?_) rfl (.unexpected nofun)
  split
  · exact .pure _
  · trivial

theorem integer : Alike Base integer integer := by
  refine choose (fun kind => ?_) rfl (.unexpected nofun)
  split
  · exact .pure _
  · trivial

theorem commaList {p q : Parser α} (h : Alike Base p q) :
    Alike Base (commaList p) (commaList q) :=
  h.bind fun _ => (manyAfter _ h).bind fun _ => .pure _

theorem atEnd (expected : Expectation) (h : expected ≠ .token (.keyword .on)) :
    Alike Base (atEnd expected) (atEnd expected) := by
  refine .peek rfl fun next => ?_
  split
  · exact .pure ()
  · exact .pure ()
  · exact .unexpected h

end Alike

end SqlSyntax
