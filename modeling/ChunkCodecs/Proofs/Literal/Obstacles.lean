import ChunkCodecs.Literal.Reader
import ChunkCodecs.Proofs.Number.Rounding

/-!
# Obstacles to the evaluation of literals

What stands in the way of an evaluation can be told from the expression alone: what is no literal,
lists, sets and dictionaries that are to be keys or members, and sums with a whole number beyond the
doubles. The evaluation is refused for the first of these obstacles in the order in which it comes
to them, and has a value if there is none.
-/

namespace ChunkCodecs.Literal

/-- The kind of the key or member that a refusal blames. -/
def Refusal.kind? : Refusal → Option String
  | .fault (.unhashable kind) => some kind
  | _ => none

/-- A refusal blames a key or a member of one kind alone. -/
theorem Refusal.kind?_eq_some_iff {refusal : Refusal} {kind : String} :
    refusal.kind? = some kind ↔ refusal = .fault (.unhashable kind) := by
  constructor
  · intro blamed
    rw [kind?.eq_def] at blamed
    split at blamed <;> cases blamed
    rfl
  · rintro rfl
    rfl

mutual

/-- The kind of the first list, set or dictionary that keeps an expression from being a key or a
member. A tuple is kept from it by its items. -/
def unhashable? : Expression → Option String
  | .constant value => value.unhashable?.map Value.typeName
  | .tuple items => unhashableAmong? items
  | .list _ => some "list"
  | .set _ => some "set"
  | .dict _ => some "dict"
  | .call _ => some "set"
  | .name _ => none
  | .signed _ _ => none
  | .sum _ _ _ => none
  | .nonliteral => none

/-- The kind of the first list, set or dictionary that keeps several expressions from it. -/
def unhashableAmong? : List Expression → Option String
  | [] => none
  | item :: rest => (unhashable? item).or (unhashableAmong? rest)

end

/-- The obstacle that an expression is as a key or a member. -/
def keyObstacles (key : Expression) : List Refusal :=
  (unhashable? key).toList.map fun kind => .fault (.unhashable kind)

/-- What keeps a number from being the real part of a sum. -/
def realObstacles : Value → List Refusal
  | .int whole => if whole.natAbs < Double.limit then [] else [.fault .integerTooLarge]
  | .float _ => []
  | _ => [.notLiteral]

/-- What stands in the way of a sum. -/
def sumObstacles (left right : Expression) : List Refusal :=
  match signedNumber? left, number? right with
  | some real, some (.complex _ _) => realObstacles real
  | _, _ => [.notLiteral]

mutual

/-- What stands in the way of evaluating an expression, in the order of evaluation. -/
def obstacles : Expression → List Refusal
  | .constant _ => []
  | .name _ => [.notLiteral]
  | .tuple items => obstaclesAmong items
  | .list items => obstaclesAmong items
  | .set items => memberObstacles items
  | .dict entries => entryObstacles entries
  | .signed _ operand => if (number? operand).isSome then [] else [.notLiteral]
  | .sum _ left right => sumObstacles left right
  | .call (.name word) => if word = setWord then [] else [.notLiteral]
  | .call _ => [.notLiteral]
  | .nonliteral => [.notLiteral]

/-- What stands in the way of evaluating several expressions. -/
def obstaclesAmong : List Expression → List Refusal
  | [] => []
  | item :: rest => obstacles item ++ obstaclesAmong rest

/-- What stands in the way of evaluating the members of a set. -/
def memberObstacles : List Expression → List Refusal
  | [] => []
  | item :: rest => obstacles item ++ keyObstacles item ++ memberObstacles rest

/-- What stands in the way of evaluating the entries of a dictionary. -/
def entryObstacles : List (Expression × Expression) → List Refusal
  | [] => []
  | (key, value) :: rest =>
    obstacles key ++ (obstacles value ++ (keyObstacles key ++ entryObstacles rest))

end

/-- An evaluation is refused for the first of the obstacles, or has a good value if there is none. -/
inductive Meets {α : Type} (good : α → Prop) : List Refusal → Except Refusal α → Prop where
  /-- There is a value. -/
  | value {value : α} (isGood : good value) : Meets good [] (.ok value)
  /-- There is none. -/
  | refusal {first : Refusal} {others : List Refusal} : Meets good (first :: others) (.error first)

namespace Meets

variable {α β : Type} {good : α → Prop} {better : β → Prop} {first second : List Refusal}
  {outcome : Except Refusal α}

/-- What goes on with a value meets its own obstacles behind the others. -/
theorem bind {further : α → Except Refusal β} (meets : Meets good first outcome)
    (goes_on : ∀ value, good value → Meets better second (further value)) :
    Meets better (first ++ second) (outcome.bind further) := by
  cases meets with
  | value isGood => exact goes_on _ isGood
  | refusal => exact .refusal

/-- What is made of a value meets no further obstacle. -/
theorem map {change : α → β} (meets : Meets good first outcome)
    (goes_on : ∀ value, good value → better (change value)) :
    Meets better first (outcome.map change) := by
  cases meets with
  | value isGood => exact .value (goes_on _ isGood)
  | refusal => exact .refusal

/-- There is a refusal exactly for the first of the obstacles. -/
theorem eq_error_iff (meets : Meets good first outcome) {refusal : Refusal} :
    outcome = .error refusal ↔ first.head? = some refusal := by
  cases meets with
  | value => exact iff_of_false nofun nofun
  | refusal => simp

end Meets

/-- A value has the kind that keeps it from being a key or a member. -/
def HasKind (kind : Option String) (value : Value) : Prop :=
  value.unhashable?.map Value.typeName = kind

/-- Values have the kind that keeps them from being keys or members. -/
def HaveKind (kind : Option String) (values : List Value) : Prop :=
  (Value.unhashableAmong? values).map Value.typeName = kind

/-- A value is kept from being a key by the obstacle that its expression is as a key. -/
theorem meets_requireHashable {key : Expression} {value : Value}
    (kind : HasKind (unhashable? key) value) :
    Meets (fun _ => True) (keyObstacles key) (requireHashable value) := by
  rw [keyObstacles, ← kind, requireHashable]
  cases value.unhashable? with
  | none => exact .value trivial
  | some found => exact .refusal

/-- A number may be a key. -/
theorem hasKind_number {operand : Expression} {value : Value} (known : number? operand = some value) :
    HasKind none value := by
  rw [number?.eq_def] at known
  split at known <;> cases known <;> rfl

/-- A number with the opposite sign may be a key if the number may. -/
theorem hasKind_negate {value : Value} (kind : HasKind none value) : HasKind none (negate value) := by
  cases value <;> first | rfl | exact kind

/-- An operand with a sign is refused unless it is a number. -/
theorem meets_signed (negative : Bool) (operand : Expression) :
    Meets (HasKind none) (if (number? operand).isSome then [] else [.notLiteral])
      (evaluate (.signed negative operand)) := by
  rw [evaluate, signedNumber?]
  cases known : number? operand with
  | none => exact .refusal
  | some value =>
    have kind := hasKind_number known
    cases negative with
    | false => exact .value kind
    | true => exact .value (hasKind_negate kind)

/-- A real number has a double unless it is a whole number beyond the limit of the doubles. -/
theorem meets_toDouble (value : Value) :
    Meets (fun _ => True) (realObstacles value) (toDouble value) := by
  cases value with
  | int whole =>
    have finite := @Double.isFinite_ofQuotient_iff_limit (whole < 0) whole.natAbs 1 Nat.one_pos
    rw [Nat.mul_one] at finite
    rw [realObstacles, toDouble, Double.ofInt]
    by_cases small : whole.natAbs < Double.limit
    · rw [if_pos small, if_pos (finite.mpr small)]
      exact .value trivial
    · rw [if_neg small, if_neg (mt finite.mp small)]
      exact .refusal
  | float number => exact .value trivial
  | _ => exact .refusal

/-- A sum is refused unless it is that of a real number and an imaginary one. -/
theorem meets_sum (negative : Bool) (left right : Expression) :
    Meets (HasKind none) (sumObstacles left right) (evaluateSum negative left right) := by
  rw [sumObstacles, evaluateSum]
  cases signedNumber? left with
  | none => exact .refusal
  | some real =>
    cases number? right with
    | none => exact .refusal
    | some imaginary =>
      cases imaginary with
      | complex re im =>
        refine (meets_toDouble real).map fun value _ => ?_
        split <;> rfl
      | _ => exact .refusal

/-- The first value of several may keep them from being keys, or else the others. -/
theorem haveKind_cons {first further : Option String} {value : Value} {values : List Value}
    (one : HasKind first value) (others : HaveKind further values) :
    HaveKind (first.or further) (value :: values) := by
  rw [HaveKind, Value.unhashableAmong?, ← one, ← others]
  cases value.unhashable? <;> rfl

/-- Several expressions are evaluated one after another. -/
theorem evaluateItems_cons (item : Expression) (rest : List Expression) :
    evaluateItems (item :: rest) =
      (evaluate item).bind fun value => (evaluateItems rest).map (value :: ·) := by
  rw [evaluateItems]
  cases evaluate item <;> rfl

/-- Members are evaluated and added one after another. -/
theorem evaluateMembers_cons (members : List Value) (item : Expression) (rest : List Expression) :
    evaluateMembers members (item :: rest) =
      ((evaluate item).bind requireHashable).bind fun value =>
        evaluateMembers (addMember members value) rest := by
  rw [evaluateMembers]
  cases (evaluate item).bind requireHashable <;> rfl

/-- Entries are evaluated, key and value, and bound one after another. -/
theorem evaluateEntries_cons (bound : Properties) (key value : Expression)
    (rest : List (Expression × Expression)) :
    evaluateEntries bound ((key, value) :: rest) =
      (evaluate key).bind fun keyValue => (evaluate value).bind fun content =>
        (requireHashable keyValue).bind fun hashed =>
          evaluateEntries (bound.insert hashed content) rest := by
  rw [evaluateEntries]
  cases evaluate key with
  | error refusal => rfl
  | ok keyValue =>
    cases evaluate value with
    | error refusal => rfl
    | ok content =>
      simp only [Except.bind]
      cases requireHashable keyValue <;> rfl

mutual

/-- The evaluation of an expression meets its obstacles. -/
theorem meets_evaluate (expression : Expression) :
    Meets (HasKind (unhashable? expression)) (obstacles expression) (evaluate expression) := by
  cases expression with
  | constant value =>
    rw [evaluate, obstacles, unhashable?]
    exact .value rfl
  | name word =>
    rw [evaluate, obstacles]
    exact .refusal
  | tuple items =>
    rw [evaluate, obstacles, unhashable?]
    exact (meets_evaluateItems items).map fun _ kinds => kinds
  | list items =>
    rw [evaluate, obstacles, unhashable?]
    exact (meets_evaluateItems items).map fun _ _ => rfl
  | set items =>
    rw [evaluate, obstacles, unhashable?]
    exact (meets_evaluateMembers [] items).map fun _ _ => rfl
  | dict entries =>
    rw [evaluate, obstacles, unhashable?]
    exact (meets_evaluateEntries [] entries).map fun _ _ => rfl
  | signed negative operand =>
    rw [obstacles, unhashable?]
    exact meets_signed negative operand
  | sum negative left right =>
    rw [evaluate, obstacles, unhashable?]
    exact meets_sum negative left right
  | call callee =>
    rw [unhashable?]
    cases callee with
    | name word =>
      rw [evaluate, obstacles]
      split
      · exact .value rfl
      · exact .refusal
    | _ =>
      rw [evaluate, obstacles]
      · exact .refusal
      all_goals nofun
  | nonliteral =>
    rw [evaluate, obstacles]
    exact .refusal

/-- The evaluation of several expressions meets their obstacles. -/
theorem meets_evaluateItems (items : List Expression) :
    Meets (HaveKind (unhashableAmong? items)) (obstaclesAmong items) (evaluateItems items) := by
  cases items with
  | nil =>
    rw [evaluateItems, obstaclesAmong, unhashableAmong?]
    exact .value rfl
  | cons item rest =>
    rw [evaluateItems_cons, obstaclesAmong, unhashableAmong?]
    refine (meets_evaluate item).bind fun value first => ?_
    exact (meets_evaluateItems rest).map fun values further => haveKind_cons first further

/-- The evaluation of members meets their obstacles. -/
theorem meets_evaluateMembers (members : List Value) (items : List Expression) :
    Meets (fun _ => True) (memberObstacles items) (evaluateMembers members items) := by
  cases items with
  | nil =>
    rw [evaluateMembers, memberObstacles]
    exact .value trivial
  | cons item rest =>
    rw [evaluateMembers_cons, memberObstacles]
    have hashed := (meets_evaluate item).bind fun _ => meets_requireHashable
    exact hashed.bind fun value _ => meets_evaluateMembers (addMember members value) rest

/-- The evaluation of entries meets their obstacles. -/
theorem meets_evaluateEntries (bound : Properties) (entries : List (Expression × Expression)) :
    Meets (fun _ => True) (entryObstacles entries) (evaluateEntries bound entries) := by
  cases entries with
  | nil =>
    rw [evaluateEntries, entryObstacles]
    exact .value trivial
  | cons entry rest =>
    obtain ⟨key, value⟩ := entry
    rw [evaluateEntries_cons, entryObstacles]
    refine (meets_evaluate key).bind fun keyValue kind => ?_
    refine (meets_evaluate value).bind fun content _ => ?_
    refine (meets_requireHashable kind).bind fun hashed _ => ?_
    exact meets_evaluateEntries (bound.insert hashed content) rest

end

/-- An evaluation is refused exactly for the first obstacle of its expression. -/
theorem evaluate_eq_error_iff {expression : Expression} {refusal : Refusal} :
    evaluate expression = .error refusal ↔ (obstacles expression).head? = some refusal :=
  (meets_evaluate expression).eq_error_iff

/-- The reading of a literal fails exactly if the parser runs out of something, or for the first
obstacle of the expression that the text spells to the parser. -/
theorem readBy_eq_fault_iff {parse : Parser} {text : String} {cause : ForeignFault} :
    readBy parse text = .error (.fault cause) ↔
      (∃ shortage, parse text.toList = .exhausted shortage ∧ cause = .exhausted shortage) ∨
        ∃ expression, parse text.toList = .spells expression ∧
          (obstacles expression).head? = some (.fault cause) := by
  rw [readBy]
  cases parse text.toList with
  | spells expression =>
    have evaluated := @evaluate_eq_error_iff expression (.fault cause)
    constructor
    · intro failed
      exact .inr ⟨expression, rfl, evaluated.mp failed⟩
    · rintro (⟨_, ⟨⟩, _⟩ | ⟨_, ⟨⟩, first⟩)
      exact evaluated.mpr first
  | refused => exact iff_of_false nofun (by rintro (⟨_, ⟨⟩, _⟩ | ⟨_, ⟨⟩, _⟩))
  | exhausted shortage =>
    constructor
    · rintro ⟨⟩
      exact .inl ⟨shortage, rfl, rfl⟩
    · rintro (⟨_, ⟨⟩, rfl⟩ | ⟨_, ⟨⟩, _⟩)
      rfl

end ChunkCodecs.Literal
