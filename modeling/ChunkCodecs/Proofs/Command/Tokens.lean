import ChunkCodecs.Command.Line
import ChunkCodecs.Proofs.Command.Choices
import ChunkCodecs.Proofs.Sameness

/-!
# Options on a command line

An option of the compressor is given on a command line as a token of its own or behind an equals
sign, and it is a number if the token is one and the text of the token otherwise. What is built of
such a line is what is built of the one property that it gives, so it means the same as a request
with the text of the token unless this is read in another way than the number.
-/

namespace ChunkCodecs

open Properties
open Parameter (Kind)

namespace CommandLine

variable {settings : List Setting} {token next key content : String} {name : List Char}
  {meaning : Meaning}

/-- A name without an equals sign has no text after it. -/
theorem splitAtEquals_of_not_mem (no_equals : '=' ∉ name) : splitAtEquals name = (name, none) := by
  have all_name : name.takeWhile (· != '=') = name := by
    rw [List.takeWhile_eq_self_iff]
    rintro c member
    simp only [bne_iff_ne, ne_eq]
    rintro rfl
    exact no_equals member
  simp only [splitAtEquals, all_name, List.drop_length]

/-- A name ends at the first equals sign, and the text begins behind it. -/
theorem splitAtEquals_append (no_equals : '=' ∉ name) (content : List Char) :
    splitAtEquals (name ++ '=' :: content) = (name, some content) := by
  have taken : (name ++ '=' :: content).takeWhile (· != '=') = name := by
    rw [List.takeWhile_append_of_pos]
    · simp
    · rintro c member
      simp only [bne_iff_ne, ne_eq]
      rintro rfl
      exact no_equals member
  simp only [splitAtEquals, taken, List.drop_left]

/-- A setting that is no flag takes the next token, unless this looks like a name. -/
theorem scan_apart (named : token.toList.head? = some '-') (long : token ≠ "--")
    (split : splitAtEquals token.toList = (name, none))
    (meant : meaning? settings name = some meaning)
    (no_flag : ∀ setting truth, meaning ≠ .flag setting truth) (plain : looksLikeName next = false)
    (rest : List String) :
    scan settings (token :: next :: rest) =
      (giveText meaning next.toList).bind fun given => (scan settings rest).map (given :: ·) := by
  rw [scan]
  · simp only [named, split, meant, plain]
    cases meaning with
    | flag setting truth => exact absurd rfl (no_flag setting truth)
    | _ => rfl
  · exact long

/-- A setting takes the text behind the equals sign. -/
theorem scan_inline (named : token.toList.head? = some '-') (long : token ≠ "--")
    {inline : List Char} (split : splitAtEquals token.toList = (name, some inline))
    (meant : meaning? settings name = some meaning) (rest : List String) :
    scan settings (token :: rest) =
      (giveText meaning inline).bind fun given => (scan settings rest).map (given :: ·) := by
  rw [scan]
  · simp only [named, split, meant]
    rfl
  · exact long

/-- The tokens that give one option of a compressor. -/
inductive GivesOption (key content : String) : List String → Prop
  /-- The text is a token of its own, which does not look like a name. -/
  | apart (plain : looksLikeName content = false) :
      GivesOption key content ["--compressor-opt." ++ key, content]
  /-- The text stands behind an equals sign. -/
  | inline : GivesOption key content ["--compressor-opt." ++ key ++ "=" ++ content]

/-- Tokens that give an option are scanned as that option. -/
theorem GivesOption.scan {tokens : List String} (gives : GivesOption key content tokens)
    (no_equals : '=' ∉ key.toList) :
    scan Setting.transfer tokens = some [.entry key content] := by
  have free : '=' ∉ "--compressor-opt.".toList ++ key.toList := by
    rw [List.mem_append]
    exact not_or.mpr ⟨by decide, no_equals⟩
  have meant : meaning? Setting.transfer ("--compressor-opt.".toList ++ key.toList) =
      some (.entry (String.ofList key.toList)) := rfl
  rw [String.ofList_toList] at meant
  cases gives with
  | apart plain =>
    have shown : ("--compressor-opt." ++ key).toList = "--compressor-opt.".toList ++ key.toList :=
      String.toList_append
    have split := splitAtEquals_of_not_mem free
    rw [← shown] at split meant
    rw [scan_apart _ _ split meant nofun plain]
    · rw [giveText, String.ofList_toList]
      rfl
    · rw [shown]
      rfl
    · intro same
      have listed := congrArg String.toList same
      rw [shown] at listed
      cases listed
  | inline =>
    have shown : ("--compressor-opt." ++ key ++ "=" ++ content).toList =
        ("--compressor-opt.".toList ++ key.toList) ++ '=' :: content.toList := by
      rw [String.toList_append, String.toList_append, String.toList_append, List.append_assoc]
      rfl
    have split := splitAtEquals_append free content.toList
    rw [← shown] at split
    rw [scan_inline _ _ split meant]
    · rw [giveText, String.ofList_toList]
      rfl
    · rw [shown]
      rfl
    · intro same
      have listed := congrArg String.toList same
      rw [shown] at listed
      cases listed

/-- A compressor and one of its options are chosen as they are given. -/
theorem choiceOf_option (scheme : CodecId) (key content : String) :
    choiceOf [.text .compressor scheme.name, .entry key content] =
      some ⟨.text scheme.name, .dict [(.text key, optionValue content)]⟩ := by
  have allowed : (CodecId.all.map CodecId.name).contains scheme.name = true := by
    cases scheme <;> decide
  have compressor : choose [.text .compressor scheme.name, .entry key content] .compressor
      (CodecId.all.map CodecId.name) CodecId.standard.name = some scheme.name := if_pos allowed
  have options : optionsOf [.text .compressor scheme.name, .entry key content] =
      some [(.text key, optionValue content)] := by
    have entries : entriesOf [.text .compressor scheme.name, .entry key content] =
        [(key, content)] := rfl
    have no_document : textsOf [.text .compressor scheme.name, .entry key content] .options = [] :=
      rfl
    simp only [optionsOf, entries, no_document, List.map_cons, List.map_nil, List.nodup_singleton,
      if_true, ofEntries, update, List.foldl_cons, List.foldl_nil, Properties.insert]
  rw [choiceOf, compressor, options]
  rfl

/-- A line that names a compressor and gives one of its options makes the choice of both. -/
theorem GivesOption.choice {tokens : List String} (gives : GivesOption key content tokens)
    (no_equals : '=' ∉ key.toList) (scheme : CodecId) :
    (CommandLine.scan Setting.transfer ("--compressor" :: scheme.name :: tokens)).bind choiceOf =
      some ⟨.text scheme.name, .dict [(.text key, optionValue content)]⟩ := by
  have plain : looksLikeName scheme.name = false := by cases scheme <;> rfl
  have meant : meaning? Setting.transfer "--compressor".toList = some (.setting .compressor) := rfl
  rw [scan_apart rfl (by decide) (splitAtEquals_of_not_mem (by decide)) meant nofun plain,
    gives.scan no_equals, giveText, String.ofList_toList]
  exact choiceOf_option scheme key content

end CommandLine

namespace Codec

open CommandLine

variable {scheme : CodecId} {key token : String} {kind : Kind}

/-- The name of a parameter is neither that of the identifier, nor is it cut short at an equals
sign. -/
theorem name_of_known (known : (key, kind) ∈ parameterKinds scheme) :
    key ≠ "id" ∧ '=' ∉ key.toList := by
  have all_names : ∀ entry ∈ parameterKinds scheme, entry.1 ≠ "id" ∧ '=' ∉ entry.1.toList := by
    cases scheme <;> decide
  exact all_names _ known

/-- Of an identifier and a dictionary of one parameter is built what is built of the parameter. -/
theorem result_call_single (scheme : CodecId) (key : String) (value : Value) :
    (call [.text scheme.name, .dict [(.text key, value)]] []).result =
      (build scheme [(.text key, value)]).result := by
  have resolved : resolve (.text scheme.name) = .ok scheme := by
    rw [resolve, CodecId.ofText?_name]
  rw [call_cons_nil, result_create_dict resolved]

/-- Of a choice with one option is built what is built of the option. -/
theorem result_build_choice (known : (key, kind) ∈ parameterKinds scheme) (value : Value) :
    (CodecChoice.build ⟨.text scheme.name, .dict [(.text key, value)]⟩).result =
      (build scheme [(.text key, value)]).result := by
  have textual : IsTextual [(.text key, value)] :=
    isTextual_cons_iff.mpr ⟨⟨key, rfl⟩, List.not_mem_nil, isTextual_nil⟩
  have no_id : lookup [(.text key, value)] "id" = none := by
    rw [lookup_cons_text, if_neg (name_of_known known).1]
    rfl
  rw [← result_call_single, build_choice rfl textual no_id]

/-- An option that is given on a command line means the same as a request in which the text of its
token is given, unless the two are read in different ways: a digit for a truth value, a numeral of a
size or a count that no double holds, or a quality that is no number.

Proof: a token that is no numeral is the text itself. A number is read as a parameter of each kind
exactly if its numeral is, and as the same, with these exceptions. -/
theorem option_meanSame_iff (known : (key, kind) ∈ parameterKinds scheme) {tokens : List String}
    (gives : GivesOption key token tokens) :
    ∃ choice, (scan Setting.transfer ("--compressor" :: scheme.name :: tokens)).bind choiceOf =
        some choice ∧
      (MeanSame choice.build.result
          (call [.text scheme.name, .dict [(.text key, .text token)]] []).result ↔
        ¬ IsReadApart key token kind) := by
  refine ⟨_, gives.choice (name_of_known known).2 scheme, ?_⟩
  rw [result_build_choice known, result_call_single, optionValue]
  cases numeral : Numeral.readDouble? (Text.trimChars token.toList) with
  | none => exact iff_of_true (text_meanSame_self known numeral) (not_isReadApart numeral)
  | some number =>
    cases kind with
    | truth => exact truth_meanSame_iff known numeral
    | whole => exact whole_meanSame_iff known numeral
    | real => exact real_meanSame_iff known numeral
    | text => exact iff_of_true (text_meanSame known numeral) nofun

/-- A level with a point is the same level as a number and as a text. -/
theorem level_option_same :
    ("clevel", Kind.whole) ∈ parameterKinds .blosc ∧
      GivesOption "clevel" "9.0" ["--compressor-opt.clevel", "9.0"] ∧
      ∃ choice, (scan Setting.transfer
          ["--compressor", "blosc", "--compressor-opt.clevel", "9.0"]).bind choiceOf = some choice ∧
        MeanSame choice.build.result
          (call [.text "blosc", .dict [(.text "clevel", .text "9.0")]] []).result := by
  have known : ("clevel", Kind.whole) ∈ parameterKinds .blosc := by decide
  have gives : GivesOption "clevel" "9.0" ["--compressor-opt.clevel", "9.0"] := .apart rfl
  obtain ⟨choice, chosen, same_iff⟩ := option_meanSame_iff known gives
  refine ⟨known, gives, choice, chosen, same_iff.mpr ?_⟩
  intro apart
  cases apart with
  | whole unbounded _ _ _ => exact absurd unbounded (by decide)

/-- The digit for true is refused as a number and taken as a text. -/
theorem digit_option_refused :
    ∃ choice, (scan Setting.transfer
          ["--compressor", "j2k", "--compressor-opt.littleEndian", "1"]).bind choiceOf =
        some choice ∧
      (∃ cause, choice.build.result = .error (.configuration cause)) ∧
      (∃ codec, (call [.text "j2k", .dict [(.text "littleEndian", .text "1")]] []).result =
        .ok codec) ∧
      ¬ MeanSame choice.build.result
        (call [.text "j2k", .dict [(.text "littleEndian", .text "1")]] []).result := by
  have known : ("littleEndian", Kind.truth) ∈ parameterKinds .j2k := by decide
  have gives : GivesOption "littleEndian" "1" ["--compressor-opt.littleEndian", "1"] := .apart rfl
  have is_text : Value.text "1" ≠ .none := nofun
  have is_truth : Value.bool true ≠ .none := nofun
  obtain ⟨cause, refused⟩ : ∃ cause, (build .j2k [(.text "littleEndian", optionValue "1")]).result =
      .error (.configuration cause) := ⟨_, rfl⟩
  obtain ⟨codec, built⟩ := exists_build_single_of_truth known true
  rw [← result_build_single_congr known is_text is_truth fun _ => rfl] at built
  have called := (result_call_single .j2k "littleEndian" (.text "1")).trans built
  rw [CodecId.name] at called
  refine ⟨_, gives.choice (by decide) .j2k, ?_⟩
  rw [result_build_choice known, refused, called]
  exact ⟨⟨cause, rfl⟩, ⟨codec, rfl⟩, nofun⟩

end Codec

end ChunkCodecs
