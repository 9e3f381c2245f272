import Mathlib.Data.List.TakeWhile
import MetricsScript.Proofs.Text.Utf8
import MetricsScript.Tool.Drain

/-!
# What is captured of a stream

Draining captures every piece up to the first stop, which is a read of no bytes, an error, or the
end of the source.  The writer decides what is shown and has no part in what is captured.  Nor
has the way in which the bytes are cut: they are cut once by the source and once more by the
buffer, and become text when all of them are there.
-/

namespace MetricsScript
namespace Tool

open Text.Utf8

/-- A read that gives bytes, so that reading goes on behind it. -/
def Read.isPiece : Read → Bool
  | .data bytes => !bytes.isEmpty
  | .error _ => false

/-- The bytes that a read gives. -/
def Read.bytes : Read → List UInt8
  | .data bytes => bytes
  | .error _ => []

/-- Drains a source, of which one read gives no more than the buffer holds. -/
def drainSource (source : List Read) (writer : Option Writer) : Drained :=
  drain (some (source.flatMap Read.buffered)) writer

/-! ## The buffer -/

theorem flatten_bufferedPieces (bytes : List UInt8) : (bufferedPieces bytes).flatten = bytes := by
  fun_induction bufferedPieces bytes with
  | case1 bytes hle => simp
  | case2 bytes hle ih => rw [List.flatten_cons, ih, List.take_append_drop]

theorem nil_not_mem_bufferedPieces {bytes : List UInt8} (h : bytes ≠ []) :
    [] ∉ bufferedPieces bytes := by
  fun_induction bufferedPieces bytes with
  | case1 bytes hle => simpa using Ne.symm h
  | case2 bytes hle ih =>
      have hlength : bufferSize < bytes.length := Nat.lt_of_not_le hle
      have htake : bytes.take bufferSize ≠ [] := by
        rw [ne_eq, List.take_eq_nil_iff]
        simp [bufferSize, h]
      have hdrop : bytes.drop bufferSize ≠ [] := by
        rw [ne_eq, List.drop_eq_nil_iff]
        exact Nat.not_le_of_lt hlength
      intro hmem
      rcases List.mem_cons.mp hmem with heq | hrest
      · exact htake heq.symm
      · exact ih hdrop hrest

theorem Read.buffered_of_isPiece {read : Read} (h : read.isPiece = true) :
    read.buffered = (bufferedPieces read.bytes).map .data ∧ [] ∉ bufferedPieces read.bytes := by
  cases read with
  | error cause => cases h
  | data bytes =>
      have hne : bytes ≠ [] := by simpa [isPiece] using h
      exact ⟨rfl, nil_not_mem_bufferedPieces hne⟩

theorem Read.buffered_empty : (Read.data []).buffered = [.data []] := by
  have hpieces : bufferedPieces [] = [[]] := by
    rw [bufferedPieces]
    rfl
  rw [buffered, hpieces]
  rfl

/-- The pieces that are read of reads that give bytes. -/
theorem exists_pieces {reads : List Read} (h : ∀ read ∈ reads, read.isPiece = true) :
    ∃ pieces : List (List UInt8), [] ∉ pieces ∧
      reads.flatMap Read.buffered = pieces.map .data ∧
      pieces.flatten = reads.flatMap Read.bytes := by
  induction reads with
  | nil => exact ⟨[], by simp, rfl, rfl⟩
  | cons read reads ih =>
      obtain ⟨hread, hreads⟩ := List.forall_mem_cons.mp h
      obtain ⟨pieces, hne, hbuffered, hflatten⟩ := ih hreads
      obtain ⟨hfirst, hfirstne⟩ := Read.buffered_of_isPiece hread
      refine ⟨bufferedPieces read.bytes ++ pieces, ?_, ?_, ?_⟩
      · intro hmem
        rcases List.mem_append.mp hmem with hmem | hmem
        · exact hfirstne hmem
        · exact hne hmem
      · rw [List.flatMap_cons, hfirst, hbuffered, List.map_append]
      · rw [List.flatten_append, flatten_bufferedPieces, hflatten, List.flatMap_cons]

/-! ## Draining -/

@[simp]
theorem Drain.take_captured (d : Drain) (s : Sink) (bytes : List UInt8) :
    (d.take s bytes).1.captured = d.captured ++ bytes := by
  rw [take]
  split
  · rfl
  · rfl

theorem Drain.run_piece
    {bytes : List UInt8} (h : bytes ≠ []) (d : Drain) (s : Sink) (rest : List Read) :
    (d.run s (.data bytes :: rest)).result =
        ((d.take s bytes).1.run (d.take s bytes).2 rest).result ∧
      (d.run s (.data bytes :: rest)).reads =
        bytes.length :: ((d.take s bytes).1.run (d.take s bytes).2 rest).reads := by
  have hempty : bytes.isEmpty = false := by simpa using h
  simp [run, hempty]

/-- Pieces are captured one behind the other, whatever the writer does with them. -/
theorem Drain.run_pieces
    {pieces : List (List UInt8)} (h : [] ∉ pieces) (d : Drain) (s : Sink) (rest : List Read) :
    ∃ (d' : Drain) (s' : Sink), d'.captured = d.captured ++ pieces.flatten ∧
      (d.run s (pieces.map .data ++ rest)).result = (d'.run s' rest).result ∧
      (d.run s (pieces.map .data ++ rest)).reads =
        pieces.map List.length ++ (d'.run s' rest).reads := by
  induction pieces generalizing d s with
  | nil => exact ⟨d, s, by simp, rfl, rfl⟩
  | cons bytes pieces ih =>
      have hbytes : bytes ≠ [] := fun hnil => h (by simp [hnil])
      have hpieces : [] ∉ pieces := fun hmem => h (List.mem_cons_of_mem bytes hmem)
      obtain ⟨d', s', hcaptured, hresult, hreads⟩ :=
        ih hpieces (d.take s bytes).1 (d.take s bytes).2
      obtain ⟨hfirst, hsize⟩ := d.run_piece hbytes s (pieces.map .data ++ rest)
      refine ⟨d', s', ?_, ?_, ?_⟩
      · rw [hcaptured, take_captured, List.flatten_cons, List.append_assoc]
      · exact hfirst.trans hresult
      · rw [List.map_cons, List.cons_append, hsize, hreads]
        rfl

/-- A stop that is not an error ends the text, and nothing behind it is read. -/
theorem Drain.run_stop
    {rest : List Read} (hrest : ∀ read ∈ rest.head?, read.isPiece = false)
    (herror : ∀ cause, rest.head? ≠ some (.error cause)) (d : Drain) (s : Sink) :
    (d.run s (rest.flatMap Read.buffered)).result = .ok d.text ∧
      (d.run s (rest.flatMap Read.buffered)).reads = [0] := by
  cases rest with
  | nil => exact ⟨rfl, rfl⟩
  | cons read rest =>
      cases read with
      | error cause => exact absurd rfl (herror cause)
      | data bytes =>
          have hempty : bytes = [] := by simpa [Read.isPiece] using hrest _ rfl
          rw [hempty, List.flatMap_cons, Read.buffered_empty]
          exact ⟨rfl, rfl⟩

/-- An error is what the draining comes to. -/
theorem Drain.run_error
    {rest : List Read} {cause : SystemError} (h : rest.head? = some (.error cause))
    (d : Drain) (s : Sink) :
    (d.run s (rest.flatMap Read.buffered)).result = .error cause ∧
      (d.run s (rest.flatMap Read.buffered)).reads = [] := by
  obtain ⟨tail, rfl⟩ := List.head?_eq_some_iff.mp h
  exact ⟨rfl, rfl⟩

/-! ## Sources -/

theorem isPiece_of_mem_takeWhile
    {source : List Read} {read : Read} (h : read ∈ source.takeWhile Read.isPiece) :
    read.isPiece = true :=
  List.mem_takeWhile_imp h

theorem not_isPiece_head?_dropWhile (source : List Read) :
    ∀ read ∈ (source.dropWhile Read.isPiece).head?, read.isPiece = false := by
  intro read hread
  have hhead := List.head?_dropWhile_not Read.isPiece source
  rw [Option.mem_def.mp hread] at hhead
  simpa using hhead

/-- Draining a source is draining what it gives up to its first stop, and then the stop. -/
theorem exists_drain_run (source : List Read) (writer : Option Writer) :
    ∃ (d : Drain) (s : Sink),
      d.captured = (source.takeWhile Read.isPiece).flatMap Read.bytes ∧
      (drainSource source writer).result =
        (d.run s ((source.dropWhile Read.isPiece).flatMap Read.buffered)).result ∧
      (drainSource source writer).reads =
        ((source.takeWhile Read.isPiece).flatMap Read.buffered).map (fun read => read.bytes.length)
          ++ (d.run s ((source.dropWhile Read.isPiece).flatMap Read.buffered)).reads := by
  have htaken : ∀ read ∈ source.takeWhile Read.isPiece, read.isPiece = true :=
    fun _ => isPiece_of_mem_takeWhile
  obtain ⟨pieces, hne, hbuffered, hflatten⟩ := exists_pieces htaken
  have hsource : source.flatMap Read.buffered =
      pieces.map .data ++ (source.dropWhile Read.isPiece).flatMap Read.buffered := by
    rw [← hbuffered, ← List.flatMap_append, List.takeWhile_append_dropWhile]
  obtain ⟨d, s, hcaptured, hresult, hreads⟩ :=
    (Drain.fresh writer.isSome).run_pieces hne (Sink.ofWriter (writer.getD .closed))
      ((source.dropWhile Read.isPiece).flatMap Read.buffered)
  rw [← hsource] at hresult hreads
  refine ⟨d, s, ?_, hresult, ?_⟩
  · rw [hcaptured, hflatten]
    rfl
  · have hsizes : pieces.map List.length =
        (pieces.map Read.data).map (fun read => read.bytes.length) := by
      rw [List.map_map]
      rfl
    rw [hbuffered, ← hsizes]
    exact hreads

/-- Chunks with bytes are read to their end. -/
theorem drainSource_chunks
    {chunks : List (List UInt8)} (h : [] ∉ chunks) (writer : Option Writer) :
    (drainSource (chunks.map .data) writer).result = .ok (decode chunks.flatten) := by
  have hpieces : ∀ read ∈ chunks.map Read.data, read.isPiece = true := by
    intro read hread
    obtain ⟨bytes, hbytes, rfl⟩ := List.mem_map.mp hread
    have hne : bytes ≠ [] := by
      rintro rfl
      exact h hbytes
    simpa [Read.isPiece] using hne
  obtain ⟨d, s, hcaptured, hresult, -⟩ := exists_drain_run (chunks.map .data) writer
  rw [List.takeWhile_eq_self_iff.mpr hpieces, List.flatMap_map] at hcaptured
  have hbytes : d.captured = chunks.flatten := by
    rw [hcaptured]
    exact List.flatMap_id
  rw [List.dropWhile_eq_nil_iff.mpr hpieces] at hresult
  rw [hresult, ← hbytes]
  rfl

/-- What is captured does not depend on the writer or on how the bytes are cut.  The source is
read up to its first stop: an error that stops it is the result, and else the result is the text
of all bytes before the stop.  So two ways of cutting the same bytes come to the same, and the
bytes of a text come to that text, wherever they are cut. -/
theorem drain_captures :
    (∀ (source : List Read) (writer : Option Writer),
      let pieces := source.takeWhile Read.isPiece
      let stop := (source.dropWhile Read.isPiece).head?
      let sizes := (pieces.flatMap Read.buffered).map fun read => read.bytes.length
      (∀ cause, stop = some (.error cause) →
        (drainSource source writer).result = .error cause ∧
          (drainSource source writer).reads = sizes) ∧
      ((∀ cause, stop ≠ some (.error cause)) →
        (drainSource source writer).result = .ok (decode (pieces.flatMap Read.bytes)) ∧
          (drainSource source writer).reads = sizes ++ [0])) ∧
    (∀ chunks chunks' : List (List UInt8), [] ∉ chunks → [] ∉ chunks' →
      chunks.flatten = chunks'.flatten → ∀ writer writer' : Option Writer,
        (drainSource (chunks.map .data) writer).result =
          (drainSource (chunks'.map .data) writer').result) ∧
    ∀ (s : String) (chunks : List (List UInt8)), [] ∉ chunks → chunks.flatten = encode s →
      ∀ writer : Option Writer, (drainSource (chunks.map .data) writer).result = .ok s := by
  refine ⟨?_, ?_, ?_⟩
  · intro source writer pieces stop sizes
    obtain ⟨d, t, hcaptured, hresult, hreads⟩ := exists_drain_run source writer
    constructor
    · intro cause hstop
      obtain ⟨herror, hnone⟩ := Drain.run_error hstop d t
      rw [herror] at hresult
      rw [hnone, List.append_nil] at hreads
      exact ⟨hresult, hreads⟩
    · intro hstop
      obtain ⟨htext, hend⟩ := Drain.run_stop (not_isPiece_head?_dropWhile source) hstop d t
      rw [htext, Drain.text, hcaptured] at hresult
      rw [hend] at hreads
      exact ⟨hresult, hreads⟩
  · intro chunks chunks' hchunks hchunks' hflatten writer writer'
    rw [drainSource_chunks hchunks, drainSource_chunks hchunks', hflatten]
  · intro s chunks hchunks hflatten writer
    rw [drainSource_chunks hchunks, hflatten, decode_encode]

/-- Two characters that are cut twice each are read whole although nothing can be shown, and an
error behind a first piece is all that is left of a stream. -/
theorem drain_captures_cut_characters :
    (drainSource ([[0xC3], [0xA9, 0xE2, 0x82], [0xAC]].map .data) (some .closed)).result =
        .ok "é€" ∧
      (drainSource [.data [0x61], .error ⟨.brokenPipe, "broken pipe"⟩, .data []] none).result =
        .error ⟨.brokenPipe, "broken pipe"⟩ ∧
      (drainSource ([[0xC3], [0xA9]].map .data) none).result =
        (drainSource ([[0xC3, 0xA9]].map .data) (some .unlimited)).result := by
  obtain ⟨hsource, hchunks, htext⟩ := drain_captures
  refine ⟨?_, ?_, ?_⟩
  · exact htext "é€" _ (by decide) (by decide +kernel) _
  · exact ((hsource _ none).1 ⟨.brokenPipe, "broken pipe"⟩ rfl).1
  · exact hchunks [[0xC3], [0xA9]] [[0xC3, 0xA9]] (by decide) (by decide) rfl none _

end Tool
end MetricsScript
