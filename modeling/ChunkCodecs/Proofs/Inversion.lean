import ChunkCodecs.Codec.Flow
import ChunkCodecs.Proofs.Blosc.Concatenation
import ChunkCodecs.Proofs.Deflate.Streaming
import ChunkCodecs.Proofs.Document.Configurations
import ChunkCodecs.Proofs.Raster.Layout

/-!
# Codecs that give chunks back

A lossless codec gives back what it compressed if the library behind it gives back what it was
handed. So does the codec that is built from the persisted configuration: of the settings
only the layout of images matters for taking a chunk apart, and that is persisted in full.
-/

namespace ChunkCodecs

/-- Every sample of an image survives. -/
def Raster.Encoding.exact : Encoding := ⟨true, none⟩

/-- The library behind a codec gives back what the codec hands it when it compresses a
content: the content itself, or the image that it is laid out as. An absent library is never
handed anything, and neither is the blosc library when there is nothing to compress. -/
def Backing.GivesBack (backing : Backing) (content : Bytes) : Codec → Prop
  | .identity => True
  | .deflate settings => backing.deflate.GivesBack settings.level content
  | .blosc settings => ∀ library, backing.blosc = some library → content ≠ [] →
      library.GivesBack settings content
  | .raster settings => ∀ service image, backing.raster = some service →
      Raster.imageOf settings content = .ok image → service.GivesBack .exact image

namespace Codec

/-- Whether no sample is lost. -/
def IsLossless : Codec → Prop
  | raster settings => settings.lossless = true
  | _ => True

/-- Compressing without loss asks for every sample to survive. -/
theorem encoding_of_lossless {settings : Raster.Settings} (lossless : settings.lossless = true) :
    settings.encoding = .exact := by
  simp [Raster.Settings.encoding, Raster.Encoding.exact, lossless]

/-- Without a service no image is compressed. -/
theorem compress_raster_missing {settings : Raster.Settings} {source : Source} {encoded : Bytes} :
    (Raster.compress none settings source).result ≠ .ok encoded := by
  intro made
  unfold Raster.compress at made
  split at made
  · cases made
  · simp only [Transfer.result_conclude, Raster.Service.load] at made
    cases laid_out : Raster.imageOf settings source.readAll.1 with
    | error fault =>
      rw [laid_out] at made
      cases made
    | ok image =>
      rw [laid_out] at made
      cases made

/-- A chunk that was compressed without loss is given back by the codec that is built from the
persisted configuration, whatever the quality was read as. -/
theorem uncompress_reread {backing : Backing} {codec : Codec} (lossless : codec.IsLossless)
    {content encoded : Bytes} (givesBack : backing.GivesBack content codec)
    {writer reader : Source} (read : writer.rest = content)
    (made : (codec.compress backing writer).result = .ok encoded) (held : reader.rest = encoded)
    (found : Double) :
    ∃ after journal,
      (codec.reread found).uncompress backing reader = .complete content after journal := by
  cases codec with
  | identity =>
    obtain ⟨_, copied, _⟩ := copyThrough_complete writer
    obtain ⟨after, again, _⟩ := copyThrough_complete reader
    rw [compress, copied] at made
    obtain rfl := Except.ok.inj made
    refine ⟨after, [], ?_⟩
    rw [reread, uncompress, again, held, ← read]
    rfl
  | deflate settings =>
    obtain ⟨after, completed, _⟩ := Deflate.uncompress_compressed read givesBack made held
    exact ⟨after, [], completed⟩
  | blosc settings =>
    rw [compress] at made
    rw [reread, uncompress]
    cases provided : backing.blosc with
    | none =>
      rw [provided] at made
      cases made
    | some library =>
      rw [provided] at made
      have alone : reader.rest = encoded ++ [] := by rw [held, List.append_nil]
      obtain ⟨after, journal, completed, _⟩ :=
        Blosc.uncompress_encoded read made (givesBack library provided) alone
      exact ⟨after, journal, completed⟩
  | raster settings =>
    rw [compress] at made
    rw [reread, uncompress]
    cases provided : backing.raster with
    | none =>
      rw [provided] at made
      exact absurd made compress_raster_missing
    | some service =>
      rw [provided] at made
      have exactly : ∀ image, Raster.imageOf settings content = .ok image →
          service.GivesBack settings.encoding image := by
        intro image laid_out
        rw [encoding_of_lossless lossless]
        exact givesBack service image provided laid_out
      obtain ⟨after, completed, _⟩ := Raster.uncompress_compressed
        (if settings.quality.isNonnegative then found else .minusOne) read exactly made held
      exact ⟨after, [], completed⟩

end Codec

end ChunkCodecs
