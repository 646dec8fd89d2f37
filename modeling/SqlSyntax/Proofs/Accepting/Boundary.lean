import SqlSyntax.Proofs.Grammar.Statement

/-!
# Where phrases begin and end

A parser takes all that can go on from what it has read. So a phrase is read as a whole,
and no more than it, if the token after the phrase cannot go on from it. How far a kind
reaches into what stands before it is told by one number.
-/
namespace SqlSyntax

open Grammar

namespace TokenKind

/-- How tightly a kind binds to an expression before it: 0 if it cannot go on from one, and
otherwise the place of its layer, counted from the loosest. -/
def binding : TokenKind → Nat
  | .keyword .or => 1
  | .keyword .and => 2
  | .keyword .not | .keyword .in | .keyword .between | .keyword .like => 3
  | .keyword .is => 4
  | .operator .plus | .operator .minus => 5
  | .operator .multiply | .operator .divide | .star => 6
  | .operator .and | .operator .or | .operator .like => 0
  | .operator _ => 3
  | .dot => 7
  | _ => 0

/-- The kinds that begin an expression, loosest layer first. -/
def startsPrimary : TokenKind → Bool
  | .literal _ | .star | .identifier _ | .leftParen => true
  | .keyword k => (AggregateFunction.ofKeyword? k).isSome
  | _ => false

def startsSigned (kind : TokenKind) : Bool :=
  kind.startsPrimary || kind = .operator .plus || kind = .operator .minus

def startsExpr (kind : TokenKind) : Bool := kind.startsSigned || kind = .keyword .not

end TokenKind

/-- The next token does not go on from an expression of the given layer. -/
def Ends (layer : Nat) (rest : List TokenKind) : Prop :=
  ∀ kind ∈ rest.head?, kind.binding < layer

@[simp] theorem ends_cons (layer : Nat) (kind : TokenKind) (rest : List TokenKind) :
    Ends layer (kind :: rest) ↔ kind.binding < layer := by simp [Ends]

theorem ends_of_lt {layer : Nat} {kind : TokenKind} (h : kind.binding < layer)
    (rest : List TokenKind) : Ends layer (kind :: rest) := (ends_cons layer kind rest).mpr h

theorem Ends.mono {layer layer' : Nat} {rest : List TokenKind} (h : Ends layer rest)
    (hl : layer ≤ layer') : Ends layer' rest :=
  fun kind hk => Nat.lt_of_lt_of_le (h kind hk) hl

theorem Ends.head?_ne {layer : Nat} {rest : List TokenKind} (h : Ends layer rest)
    {kind : TokenKind} (hk : layer ≤ kind.binding) : rest.head? ≠ some kind :=
  fun he => Nat.not_lt.mpr hk (h kind he)

/-- A sign of a layer is no kind that a looser one ends before. -/
theorem Ends.none_of_sign {layer : Nat} {rest : List TokenKind} (h : Ends layer rest)
    {sign : TokenKind → Option Operator}
    (hs : ∀ kind operator, sign kind = some operator → layer ≤ kind.binding) :
    ∀ kind ∈ rest.head?, sign kind = none := by
  intro kind hk
  cases ho : sign kind with
  | none => rfl
  | some operator => exact absurd (h kind hk) (Nat.not_lt.mpr (hs kind operator ho))

theorem binding_of_multiplicative? {kind : TokenKind} {operator : Operator}
    (h : kind.multiplicative? = some operator) : kind.binding = 6 := by
  unfold TokenKind.multiplicative? at h
  split at h <;> first | rfl | cases h

theorem binding_of_additive? {kind : TokenKind} {operator : Operator}
    (h : kind.additive? = some operator) : kind.binding = 5 := by
  unfold TokenKind.additive? at h
  split at h <;> first | rfl | cases h

theorem binding_of_comparison? {kind : TokenKind} {operator : Operator}
    (h : kind.comparison? = some operator) : kind.binding = 3 := by
  unfold TokenKind.comparison? at h
  split at h
  · rename_i o
    cases o <;> first | rfl | cases h
  · rfl
  · cases h

/-! ## Parts of a query

The parts stand in a fixed order. One is read as a whole if the token after it belongs to a
later part, or to what stands around the query, or begins another statement. -/

/-- How far on in a query a kind stands that ends what is before it; 0 for the others. -/
def TokenKind.stage : TokenKind → Nat
  | .comma => 1
  | .keyword .from => 2
  | .keyword .join | .keyword .inner | .keyword .left | .keyword .right | .keyword .full
  | .keyword .cross => 3
  | .keyword .where => 4
  | .keyword .group => 5
  | .keyword .having => 6
  | .keyword .order => 7
  | .keyword .limit => 8
  | .keyword .offset => 9
  | .rightParen | .semicolon => 10
  | .keyword .select | .keyword .insert | .keyword .update | .keyword .delete
  | .keyword .create => 10
  | _ => 0

/-- The next token stands further on. -/
def Past (stage : Nat) (rest : List TokenKind) : Prop :=
  ∀ kind ∈ rest.head?, stage < kind.stage

@[simp] theorem past_nil (stage : Nat) : Past stage [] := by simp [Past]
@[simp] theorem past_cons (stage : Nat) (kind : TokenKind) (rest : List TokenKind) :
    Past stage (kind :: rest) ↔ stage < kind.stage := by simp [Past]

theorem past_of_lt {stage : Nat} {kind : TokenKind} (h : stage < kind.stage)
    (rest : List TokenKind) : Past stage (kind :: rest) := (past_cons stage kind rest).mpr h

theorem Past.mono {stage stage' : Nat} {rest : List TokenKind} (h : Past stage rest)
    (hs : stage' ≤ stage) : Past stage' rest :=
  fun kind hk => Nat.lt_of_le_of_lt hs (h kind hk)

theorem Past.head?_ne {stage : Nat} {rest : List TokenKind} (h : Past stage rest)
    {kind : TokenKind} (hk : kind.stage ≤ stage) : rest.head? ≠ some kind :=
  fun he => Nat.not_lt.mpr hk (h kind he)

theorem binding_of_stage {kind : TokenKind} (h : 0 < kind.stage) : kind.binding = 0 := by
  unfold TokenKind.stage at h
  split at h <;> first | rfl | cases h

theorem Past.ends {stage : Nat} {rest : List TokenKind} (h : Past stage rest) :
    Ends 1 rest := by
  intro kind hk
  simp [binding_of_stage (Nat.zero_lt_of_lt (h kind hk))]

/-- A part that may be absent stands between what comes before it and after it. -/
theorem Past.append {stage stage' : Nat} {u rest : List TokenKind} (h : Past stage' rest)
    (hs : stage ≤ stage') (hu : Past stage u) : Past stage (u ++ rest) := by
  cases u with
  | nil => exact h.mono hs
  | cons kind u => simpa using hu

/-! ## Beginnings -/

def Begins (P : TokenKind → Bool) (u : List TokenKind) : Prop :=
  ∃ kind v, u = kind :: v ∧ P kind = true

theorem Begins.append {P : TokenKind → Bool} {u : List TokenKind} (h : Begins P u)
    (v : List TokenKind) : Begins P (u ++ v) := by
  obtain ⟨kind, w, rfl, hk⟩ := h
  exact ⟨kind, w ++ v, rfl, hk⟩

theorem Begins.mono {P Q : TokenKind → Bool} {u : List TokenKind} (h : Begins P u)
    (hPQ : ∀ kind, P kind = true → Q kind = true) : Begins Q u := by
  obtain ⟨kind, w, rfl, hk⟩ := h
  exact ⟨kind, w, rfl, hPQ kind hk⟩

theorem Begins.head?_ne {P : TokenKind → Bool} {u : List TokenKind} (h : Begins P u)
    {kind : TokenKind} (hk : P kind = false) : u.head? ≠ some kind := by
  obtain ⟨kind', w, rfl, hk'⟩ := h
  intro he
  obtain rfl : kind' = kind := by simpa using he
  rw [hk] at hk'
  cases hk'

variable {g : Inner} {u : List TokenKind} {e : Expr}

theorem begins_of_leftChain {P : TokenKind → Bool} {sign : TokenKind → Option Operator}
    {L : Language Expr} (hL : ∀ u e, L u e → Begins P u) (h : LeftChain sign L u e) :
    Begins P u := by
  induction h with
  | single hu => exact hL _ _ hu
  | step _ _ _ ih => exact ih.append _

theorem begins_of_rightChain {P : TokenKind → Bool} {keyword : Keyword} {operator : Operator}
    {L : Language Expr} (hL : ∀ u e, L u e → Begins P u)
    (h : RightChain keyword operator L u e) : Begins P u := by
  cases h with
  | single hu => exact hL _ _ hu
  | step hu _ => exact (hL _ _ hu).append _

theorem begins_of_primary (h : Primary g u e) : Begins TokenKind.startsPrimary u := by
  cases h with
  | aggregate function =>
    exact ⟨_, _, rfl, by simp [TokenKind.startsPrimary,
      AggregateFunction.ofKeyword?_eq_some_iff.mpr (Eq.refl function.keyword)]⟩
  | _ => exact ⟨_, _, rfl, rfl⟩

theorem begins_of_signed (h : Signed g u e) : Begins TokenKind.startsSigned u := by
  replace h := h.row
  induction h with
  | primary hu =>
    exact (begins_of_primary hu).mono fun kind hk => by simp [TokenKind.startsSigned, hk]
  | plus | minus => exact ⟨_, _, rfl, rfl⟩
  | opposite _ ih => exact ih

theorem begins_of_sum (h : Grammar.Sum g u e) : Begins TokenKind.startsSigned u :=
  begins_of_leftChain
    (fun _ _ => begins_of_leftChain fun _ _ => begins_of_signed) h

theorem begins_of_nullTest (h : NullTest g u e) : Begins TokenKind.startsSigned u := by
  cases h with
  | sum hu => exact begins_of_sum hu
  | isNull hu => exact (begins_of_sum hu).append _

theorem begins_of_predicate (h : Predicate g u e) : Begins TokenKind.startsSigned u := by
  cases h with
  | nullTest hu => exact begins_of_nullTest hu
  | comparison hu | notLike hu | membership hu | range hu =>
    exact (begins_of_nullTest hu).append _

theorem begins_of_negation (h : Negation g u e) : Begins TokenKind.startsExpr u := by
  replace h := h.row
  induction h with
  | predicate hu =>
    exact (begins_of_predicate hu).mono fun kind hk => by simp [TokenKind.startsExpr, hk]
  | word => exact ⟨_, _, rfl, rfl⟩
  | not _ ih => exact ih

theorem begins_of_disjunction (h : Disjunction g u e) : Begins TokenKind.startsExpr u :=
  begins_of_rightChain
    (fun _ _ => begins_of_rightChain fun _ _ => begins_of_negation) h

end SqlSyntax
