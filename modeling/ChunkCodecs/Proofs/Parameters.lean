import ChunkCodecs.Parameter

/-!
# Reading parameters from properties

A reader looks a parameter up by its name, so what it makes of properties depends on
the value under that name alone. Where the value has the kind that the reader reads,
the value is what it gives.
-/

namespace ChunkCodecs

/-- Two texts are the same key if they are the same text. -/
theorem Value.sameKey_text (left right : String) :
    (Value.text left).sameKey (.text right) = (left == right) := by
  simp [Value.sameKey, Value.keyNumber?, Value.text?]

/-- A whole number of at most twenty digits can be shown. -/
theorem Value.intIsPrintable_of_lt {number : Int} (small : number.natAbs < 10 ^ 20) :
    Value.intIsPrintable number = true := by
  have wide (digits : Nat) (enough : 20 ≤ digits) : number.natAbs < 10 ^ digits :=
    Nat.lt_of_lt_of_le small (Nat.pow_le_pow_right (by decide) enough)
  exact decide_eq_true (wide 4300 (by decide))

/-- Every compression level can be shown. -/
theorem Value.intIsPrintable_compressionLevel (level : Parameter.CompressionLevel) :
    Value.intIsPrintable level.val = true := by
  have small : (level.val : Int).natAbs < 10 := by omega
  exact intIsPrintable_of_lt (Nat.lt_trans small (by decide))

namespace Properties

/-- Looking up a name in entries that begin with a named one. -/
theorem lookup_cons_text (key : String) (value : Value) (rest : Properties) (name : String) :
    lookup ((.text key, value) :: rest) name =
      if key = name then some value else lookup rest name := by
  simp [lookup, get?, Value.sameKey_text]

/-- A name is given what the first entry of that name gives it. -/
theorem given?_cons_of_sameKey {key : Value} {name : String}
    (same : key.sameKey (.text name) = true) (value : Value) (rest : Properties) :
    given? ((key, value) :: rest) name = match value with | .none => none | _ => some value := by
  simp only [given?, lookup, get?, same, if_true]
  cases value <;> rfl

/-- An entry of another key gives a name nothing. -/
theorem given?_cons_of_not_sameKey {key : Value} {name : String}
    (other : ¬ key.sameKey (.text name) = true) (value : Value) (rest : Properties) :
    given? ((key, value) :: rest) name = given? rest name := by
  simp only [given?, lookup, get?, other, Bool.false_eq_true, if_false]

/-- An entry of another name gives a name nothing. -/
theorem given?_cons_of_ne {key name : String} (other : key ≠ name) (value : Value)
    (rest : Properties) : given? ((.text key, value) :: rest) name = given? rest name :=
  given?_cons_of_not_sameKey (by simp [Value.sameKey_text, other]) value rest

end Properties

namespace Parameter

variable {α : Type} {read : ParameterName → Value → Reading α} {properties : Properties}
  {owner key : String}

/-- A parameter that is given a value is what the reader makes of the value. -/
theorem readOptional_of_given {value : Value} (given : properties.given? key = some value) :
    readOptional read properties ⟨owner, key⟩ = (read ⟨owner, key⟩ value).map some := by
  rw [readOptional, given]

/-- A parameter that is given nothing has its default. -/
theorem readOptional_of_not_given (missing : properties.given? key = none) :
    readOptional read properties ⟨owner, key⟩ = .ok none := by
  rw [readOptional, missing]

/-- A whole number is read as it is given. -/
theorem readInt_of_given {number : Int}
    (given : properties.given? key = some (.int number)) :
    readOptional readInt properties ⟨owner, key⟩ = .ok (some number) := by
  rw [readOptional_of_given given]
  rfl

/-- A truth value is read as it is given. -/
theorem readBool_of_given {truth : Bool}
    (given : properties.given? key = some (.bool truth)) :
    readOptional readBool properties ⟨owner, key⟩ = .ok (some truth) := by
  rw [readOptional_of_given given]
  rfl

/-- A double is read as it is given. -/
theorem readDouble_of_given {number : Double}
    (given : properties.given? key = some (.float number)) :
    readOptional readDouble properties ⟨owner, key⟩ = .ok (some number) := by
  rw [readOptional_of_given given]
  rfl

/-- A label is read where the value that it is is given. -/
theorem readText_of_given {label : Label}
    (given : properties.given? key = some label.toValue) :
    readOptional readText properties ⟨owner, key⟩ = .ok (some label) := by
  rw [readOptional_of_given given]
  cases label <;> rfl

end Parameter

end ChunkCodecs
