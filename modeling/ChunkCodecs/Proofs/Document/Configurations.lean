import Mathlib
import ChunkCodecs.Proofs.Document.Dictionaries
import ChunkCodecs.Proofs.Rebuilding

/-!
# Configurations read back

The configuration of a codec is persisted as a document. The codec that is built from what
the document reads as is the one that was persisted, up to the kind of the text that names a
compressor and up to the quality of a raster codec, neither of which matters to chunks: a
quality is written and read as some quality, and one that is left out is minus one.
-/

namespace ChunkCodecs

namespace Document.Entry

/-- An entry that is read as it is written. -/
def faithful (name : String) (value : Value) : Entry := ⟨name, value, value⟩

/-- A whole number that may be shown is read as it is written. -/
theorem isRead_int (name : String) {number : Int} (printable : Value.intIsPrintable number = true) :
    (faithful name (.int number)).IsRead := by
  intro layout
  exact readsAs_int printable

/-- A truth value is read as it is written. -/
theorem isRead_bool (name : String) (truth : Bool) : (faithful name (.bool truth)).IsRead := by
  intro layout
  have known : ("true".toList, Value.bool true) ∈ words ∧
      ("false".toList, Value.bool false) ∈ words := by
    simp [words]
  cases truth with
  | false => exact readsAs_word known.2
  | true => exact readsAs_word known.1

/-- A text is read as it is written. -/
theorem isRead_text (name content : String) : (faithful name (.text content)).IsRead := by
  intro layout
  have itself := readsAs_text content.toList
  rw [String.ofList_toList] at itself
  exact itself

/-- A label is read as a plain text. -/
theorem isRead_label (name : String) (label : Parameter.Label) :
    (⟨name, label.toValue, .text label.content⟩ : Entry).IsRead := by
  intro layout
  cases label with
  | plain content => exact isRead_text name content layout
  | codec scheme => exact isRead_text name scheme.name layout

end Document.Entry

namespace Codec

open Document (Entry)

/-- The codec that is built where the quality, if there is one, was read as the given one. -/
def reread (found : Double) : Codec → Codec
  | identity => identity
  | deflate settings => deflate settings
  | blosc settings => blosc (settings.relabel (.plain settings.label.content) rfl)
  | raster settings =>
    raster { settings with quality := if settings.quality.isNonnegative then found else .minusOne }

/-- The parameters of a codec as entries of its document, where the quality is read as the
given one. -/
def entries (found : Double) : Codec → List Entry
  | identity => []
  | deflate settings => [.faithful "level" (.int settings.level.val)]
  | blosc settings =>
    [⟨"cname", settings.label.toValue, .text settings.label.content⟩,
      .faithful "clevel" (.int settings.level.val), .faithful "shuffle" (.int settings.shuffle.code),
      .faithful "blocksize" (.int settings.blockSize)]
  | raster settings =>
    [.faithful "littleEndian" (.bool settings.littleEndian),
      .faithful "interleaved" (.bool settings.interleaved),
      .faithful "imageWidth" (.int settings.width), .faithful "imageHeight" (.int settings.height),
      .faithful "bitsPerSample" (.int settings.sampleWidth.bits),
      .faithful "channels" (.int settings.channels),
      .faithful "lossless" (.bool settings.lossless)] ++
    if settings.quality.isNonnegative then [⟨"quality", .float settings.quality, .float found⟩]
    else []

/-- The entries of the document of a configuration. -/
def allEntries (found : Double) (codec : Codec) : List Entry :=
  .faithful "id" (.text codec.identifier) :: codec.entries found

/-- The entries are written as the configuration. -/
theorem named_allEntries (found : Double) (codec : Codec) :
    Properties.named ((codec.allEntries found).map fun entry => (entry.name, entry.written)) =
      codec.configuration := by
  cases codec with
  | raster settings =>
    by_cases shown : settings.quality.isNonnegative = true <;>
      simp [Properties.named, allEntries, entries, configuration, parameters,
        Raster.Settings.toProperties, Entry.faithful, shown]
  | _ => rfl

/-- No name occurs twice among the entries. -/
theorem nodup_names (found : Double) (codec : Codec) :
    ((codec.allEntries found).map Entry.name).Nodup := by
  cases codec with
  | raster settings =>
    by_cases shown : settings.quality.isNonnegative = true <;>
      simp [allEntries, entries, Entry.faithful, shown]
  | _ => simp [allEntries, entries, Entry.faithful]

/-- The entries of a codec that can be shown are read, for some quality. -/
theorem exists_isRead_allEntries {codec : Codec} (printable : codec.isPrintable = true) :
    ∃ found, ∀ entry ∈ codec.allEntries found, entry.IsRead := by
  have identifier := Entry.isRead_text "id" codec.identifier
  suffices settings : ∃ found, ∀ entry ∈ codec.entries found, entry.IsRead by
    obtain ⟨found, read⟩ := settings
    exact ⟨found, List.forall_mem_cons.mpr ⟨identifier, read⟩⟩
  have shown := List.all_eq_true.mp printable
  cases codec with
  | identity => exact ⟨.nan, List.forall_mem_nil _⟩
  | deflate settings =>
    refine ⟨.nan, ?_⟩
    simp only [parameters, Deflate.Settings.toProperties, List.forall_mem_cons] at shown
    simp only [entries, List.forall_mem_cons]
    exact ⟨Entry.isRead_int _ shown.1, List.forall_mem_nil _⟩
  | blosc settings =>
    refine ⟨.nan, ?_⟩
    simp only [parameters, Blosc.Settings.toProperties, List.forall_mem_cons] at shown
    obtain ⟨_, level, shuffle, blockSize, _⟩ := shown
    simp only [entries, List.forall_mem_cons]
    exact ⟨Entry.isRead_label _ _, Entry.isRead_int _ level, Entry.isRead_int _ shuffle,
      Entry.isRead_int _ blockSize, List.forall_mem_nil _⟩
  | raster settings =>
    obtain ⟨found, quality⟩ := Document.exists_readsAs_double settings.quality
    refine ⟨found, ?_⟩
    simp only [parameters, Raster.Settings.toProperties, List.forall_mem_append,
      List.forall_mem_cons] at shown
    obtain ⟨⟨_, _, width, height, bits, channels, _⟩, _⟩ := shown
    simp only [entries, List.forall_mem_append, List.forall_mem_cons]
    refine ⟨⟨Entry.isRead_bool _ _, Entry.isRead_bool _ _, Entry.isRead_int _ width,
      Entry.isRead_int _ height, Entry.isRead_int _ bits, Entry.isRead_int _ channels,
      Entry.isRead_bool _ _, List.forall_mem_nil _⟩, ?_⟩
    intro entry member
    split at member
    · rw [List.mem_singleton.mp member]
      intro _
      exact quality
    · cases member

/-- The properties that the document of a configuration is read as. -/
def readProperties (found : Double) (codec : Codec) : Properties :=
  Properties.named ((codec.allEntries found).map fun entry => (entry.name, entry.read))

/-- The properties that are read make the codec with the quality that was read. -/
theorem configure_readProperties (found : Double) (codec : Codec) :
    configure codec.scheme (codec.readProperties found) = .ok (codec.reread found) := by
  cases codec with
  | identity => rfl
  | deflate settings =>
    rw [scheme, configure, settings.ofProperties_of_given rfl]
    rfl
  | blosc settings =>
    have made := @Blosc.Settings.ofProperties_of_given settings (.plain settings.label.content) rfl
      ((blosc settings).readProperties found) rfl rfl rfl rfl
    rw [scheme, configure, made]
    rfl
  | raster settings =>
    have quality : Parameter.readOptional Parameter.readDouble
        ((raster settings).readProperties found) ⟨"j2k: ", "quality"⟩ =
          .ok (if settings.quality.isNonnegative then some found else none) := by
      by_cases shown : settings.quality.isNonnegative = true
      · have held : ((raster settings).readProperties found).given? "quality" =
            some (.float found) := by
          simp [readProperties, allEntries, entries, Entry.faithful, Properties.named, shown,
            Properties.given?, Properties.lookup_cons_text]
        rw [Parameter.readDouble_of_given held, if_pos shown]
      · have missing : ((raster settings).readProperties found).given? "quality" = none := by
          simp [readProperties, allEntries, entries, Entry.faithful, Properties.named, shown,
            Properties.given?, Properties.lookup_cons_text]
          rfl
        rw [Parameter.readOptional_of_not_given missing, if_neg shown]
    have made := settings.ofProperties_of_given rfl rfl rfl rfl rfl rfl rfl quality
    rw [scheme, configure, made]
    simp only [Except.map, reread]
    by_cases shown : settings.quality.isNonnegative = true <;> simp [shown]

/-- The codec that is built from a document can be shown if the codec that was persisted can
be. -/
theorem isPrintable_reread {codec : Codec} (printable : codec.isPrintable = true)
    (found : Double) : (codec.reread found).isPrintable = true := by
  cases codec with
  | identity => exact printable
  | deflate settings => exact printable
  | blosc settings =>
    simp only [isPrintable, parameters, Blosc.Settings.toProperties, List.all_cons,
      Bool.and_eq_true] at printable
    obtain ⟨_, others⟩ := printable
    simp only [isPrintable, reread, Blosc.Settings.relabel, parameters,
      Blosc.Settings.toProperties, List.all_cons, Bool.and_eq_true]
    exact ⟨rfl, others⟩
  | raster settings =>
    simp only [isPrintable, parameters, Raster.Settings.toProperties, List.all_append,
      Bool.and_eq_true] at printable
    obtain ⟨others, _⟩ := printable
    simp only [isPrintable, reread, parameters, Raster.Settings.toProperties, List.all_append,
      Bool.and_eq_true]
    refine ⟨others, ?_⟩
    generalize (if settings.quality.isNonnegative then found else .minusOne) = quality
    by_cases shown : quality.isNonnegative = true <;> simp [shown, Value.isPrintable]

/-- The document of the configuration of a codec that can be shown is read, and what it reads
as makes the codec again, with some quality. -/
theorem create_read_configuration {codec : Codec} (printable : codec.isPrintable = true) :
    ∃ found document,
      Document.read (String.ofList (Document.chars (.indented 0) (.dict codec.configuration))) =
        .ok document ∧
      (create document [] []).result = .ok (codec.reread found) := by
  obtain ⟨found, read⟩ := exists_isRead_allEntries printable
  have document := Document.read_dict read (codec.nodup_names found) (.indented 0)
  rw [codec.named_allEntries found] at document
  have gathered : gather (.dict (codec.readProperties found)) [] =
      .ok (.text codec.identifier, codec.readProperties found) := by
    have identifier : (codec.readProperties found).lookup "id" = some (.text codec.identifier) :=
      Properties.lookup_cons_text _ _ _ _
    rw [gather, identifier]
    rfl
  refine ⟨found, .dict (codec.readProperties found), document, ?_⟩
  simp only [create, gathered, resolve_identifier]
  exact result_build_of_configure (codec.configure_readProperties found)
    (isPrintable_reread printable found)

end Codec

end ChunkCodecs
