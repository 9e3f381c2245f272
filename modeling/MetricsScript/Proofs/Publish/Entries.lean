import Mathlib.Data.List.Basic
import MetricsScript.Proofs.Publish.OutputFile
import MetricsScript.Proofs.Text.Lines
import MetricsScript.Proofs.Text.Utf8

/-!
# Reading the output file back

The output file is read line by line.  An entry takes one line, in which `=` stands between its
name and its value, or opens with its name, `<<` and a delimiter, and then its value is what
stands on the lines before the first one that is the delimiter.  A delimiter that occurs nowhere
in a value is none of the lines of that value, so what was written is read back, and where an
entry ends the next one can begin.
-/

namespace MetricsScript
namespace Publish

/-! ## Reading -/

/-- A named output. -/
structure Entry where
  name : String
  value : String
deriving DecidableEq, Repr

/-- How an entry begins. -/
inductive Opening where
  | complete (name value : List Char)
  | delimited (name delimiter : List Char)
deriving DecidableEq, Repr

/-- The opening with one more character in front of its name. -/
def Opening.prepend (c : Char) : Opening → Opening
  | .complete name value => .complete (c :: name) value
  | .delimited name delimiter => .delimited (c :: name) delimiter

/-- The entry that a line opens.  The name runs up to the first `=` or `<<`. -/
def opening? : List Char → Option Opening
  | [] => none
  | '=' :: value => some (.complete [] value)
  | '<' :: '<' :: delimiter => some (.delimited [] delimiter)
  | c :: cs => (opening? cs).map (Opening.prepend c)

/-- An entry whose delimiter has not been read yet. -/
structure Unfinished where
  name : List Char
  delimiter : List Char
  /-- The lines of the value so far. -/
  lines : List (List Char)

/-- The entry when its delimiter has been read. -/
def Unfinished.entry (u : Unfinished) : Entry :=
  ⟨String.ofList u.name, String.ofList (['\n'].intercalate u.lines)⟩

/-- Reads entries from lines.  Between entries empty lines are passed over and all others have to
open an entry; an entry without its delimiter is an error. -/
def readEntries : Option Unfinished → List (List Char) → Option (List Entry)
  | none, [] => some []
  | some _, [] => none
  | none, line :: rest =>
      if line.isEmpty then readEntries none rest
      else match opening? line with
        | none => none
        | some (.complete name value) =>
            (readEntries none rest).map (⟨String.ofList name, String.ofList value⟩ :: ·)
        | some (.delimited name delimiter) => readEntries (some ⟨name, delimiter, []⟩) rest
  | some u, line :: rest =>
      if line = u.delimiter then (readEntries none rest).map (u.entry :: ·)
      else readEntries (some { u with lines := u.lines ++ [line] }) rest

/-- The lines of a text.  What stands behind the last newline is a line if it is not empty. -/
def fileLines (cs : List Char) : List (List Char) :=
  if (Text.pieces cs).getLast? = some [] then (Text.pieces cs).dropLast else Text.pieces cs

/-- The entries of a file, if its bytes make up a text of entries. -/
def entries? (bytes : List UInt8) : Option (List Entry) :=
  readEntries none (fileLines (Text.Utf8.decode bytes).toList)

/-! ## Writing -/

/-- What is to be written: an entry, and the delimiter drawn for it. -/
structure Publication where
  entry : Entry
  delimiter : String
deriving DecidableEq, Repr

namespace Publication

/-- The delimiter occurs in the name or in the value. -/
def Collides (p : Publication) : Prop :=
  p.delimiter.toList <:+: p.entry.name.toList ∨ p.delimiter.toList <:+: p.entry.value.toList

instance (p : Publication) : Decidable p.Collides :=
  inferInstanceAs (Decidable (_ ∨ _))

/-- The name and the delimiter stand on the first line of the entry, and the name ends at its
first `<`. -/
structure FitsLine (p : Publication) : Prop where
  name : ∀ c ∈ p.entry.name.toList, c ≠ '\n' ∧ c ≠ '=' ∧ c ≠ '<'
  delimiter : '\n' ∉ p.delimiter.toList

/-- Writes an entry to a file.  Gives the error, if there is one, and the files afterwards. -/
def write (p : Publication) (path : String) (files : Host.Files) :
    Option OutputError × Host.Files :=
  let added := addOutput files path p.entry.name p.entry.value p.delimiter
  (added.error?, added.files)

/-- The text of the entry. -/
def text (p : Publication) : String :=
  entryText p.entry.name p.entry.value p.delimiter

end Publication

/-- Writes entries to a file, one after the other. -/
def writeAll (path : String) :
    Host.Files → List Publication → List (Option OutputError) × Host.Files
  | files, [] => ([], files)
  | files, p :: rest =>
      let first := p.write path files
      let others := writeAll path first.2 rest
      (first.1 :: others.1, others.2)

/-! ## The lines of an entry -/

theorem fileLines_newline (front : List Char) :
    fileLines (front ++ ['\n']) = Text.pieces front := by
  have hpieces := Text.pieces_append_newline front []
  simp [fileLines, hpieces]

/-- Behind a newline the lines start anew. -/
theorem fileLines_append {cs : List Char} (h : cs = [] ∨ ∃ front, cs = front ++ ['\n'])
    (more : List Char) : fileLines (cs ++ more) = fileLines cs ++ fileLines more := by
  rcases h with rfl | ⟨front, rfl⟩
  · simp [fileLines]
  · have hne := Text.pieces_ne_nil more
    have hassoc : front ++ ['\n'] ++ more = front ++ '\n' :: more := by simp
    rw [fileLines_newline, hassoc, fileLines, Text.pieces_append_newline,
      List.getLast?_append_of_ne_nil _ hne, fileLines]
    split
    · exact List.dropLast_append_of_ne_nil hne
    · rfl

theorem exists_text_eq (p : Publication) : ∃ front, p.text.toList = front ++ ['\n'] := by
  refine ⟨(p.entry.name ++ "<<" ++ p.delimiter ++ "\n" ++ p.entry.value ++ "\n" ++
    p.delimiter).toList, ?_⟩
  rw [Publication.text, entryText, String.toList_append]
  rfl

/-- The line that opens the entry. -/
def Publication.firstLine (p : Publication) : List Char :=
  p.entry.name.toList ++ '<' :: '<' :: p.delimiter.toList

theorem fileLines_text {p : Publication} (h : p.FitsLine) :
    fileLines p.text.toList =
      p.firstLine :: (Text.pieces p.entry.value.toList ++ [p.delimiter.toList]) := by
  have hfirst : '\n' ∉ p.firstLine := by
    intro hmem
    rw [Publication.firstLine, List.mem_append] at hmem
    rcases hmem with hname | hrest
    · exact (h.name '\n' hname).1 rfl
    · have hdelimiter := h.delimiter
      simp_all
  have htext : p.text.toList =
      p.firstLine ++ '\n' :: (p.entry.value.toList ++ '\n' :: p.delimiter.toList) ++ ['\n'] := by
    simp [Publication.text, entryText, Publication.firstLine]
  rw [htext, fileLines_newline, Text.pieces_append_newline, Text.pieces_append_newline,
    Text.pieces_of_not_mem hfirst, Text.pieces_of_not_mem h.delimiter]
  rfl

theorem opening?_firstLine {p : Publication} (h : p.FitsLine) :
    opening? p.firstLine = some (.delimited p.entry.name.toList p.delimiter.toList) := by
  have hname := h.name
  rw [Publication.firstLine]
  generalize p.entry.name.toList = name at hname ⊢
  induction name with
  | nil => rfl
  | cons c cs ih =>
      obtain ⟨-, hequals, hless⟩ := hname c List.mem_cons_self
      have hcs := ih fun d hd => hname d (List.mem_cons_of_mem c hd)
      rw [List.cons_append, opening?.eq_def]
      split
      · next heq => cases heq
      · next heq => exact absurd (List.cons.inj heq).1 hequals
      · next heq => exact absurd (List.cons.inj heq).1 hless
      · next heq =>
          obtain ⟨rfl, rfl⟩ := List.cons.inj heq
          rw [hcs]
          rfl

/-! ## Reading entry after entry -/

/-- Reading goes on behind lines that are entries as if it began there. -/
theorem readEntries_append
    {u : Option Unfinished} {lines : List (List Char)} {entries : List Entry}
    (h : readEntries u lines = some entries) (more : List (List Char)) :
    readEntries u (lines ++ more) = (readEntries none more).map (entries ++ ·) := by
  induction lines generalizing u entries with
  | nil =>
      cases u with
      | none =>
          have hnil : entries = [] := (Option.some.inj h).symm
          subst hnil
          simp
      | some u => cases h
  | cons line rest ih =>
      cases u with
      | none =>
          rw [List.cons_append]
          simp only [readEntries] at h ⊢
          split at h
          · next hempty =>
              rw [if_pos hempty]
              exact ih h
          · next hempty =>
              rw [if_neg hempty]
              split at h
              · cases h
              · obtain ⟨others, hothers, rfl⟩ := Option.map_eq_some_iff.mp h
                rw [ih hothers, Option.map_map]
                rfl
              · exact ih h
      | some u =>
          rw [List.cons_append]
          simp only [readEntries] at h ⊢
          split at h
          · next hline =>
              rw [if_pos hline]
              obtain ⟨others, hothers, rfl⟩ := Option.map_eq_some_iff.mp h
              rw [ih hothers, Option.map_map]
              rfl
          · next hline =>
              rw [if_neg hline]
              exact ih h

/-- Lines that are not the delimiter are the value. -/
theorem readEntries_value
    {u : Unfinished} {value : List (List Char)} (h : u.delimiter ∉ value) :
    readEntries (some u) (value ++ [u.delimiter]) =
      some [Unfinished.entry { u with lines := u.lines ++ value }] := by
  induction value generalizing u with
  | nil => simp [readEntries]
  | cons line value ih =>
      have hline : ¬line = u.delimiter := by
        intro heq
        exact h (by simp [heq])
      have hvalue : u.delimiter ∉ value := fun hmem => h (List.mem_cons_of_mem line hmem)
      rw [List.cons_append, readEntries, if_neg hline]
      have hrest := ih (u := { u with lines := u.lines ++ [line] }) hvalue
      rw [hrest]
      simp

/-- The lines of an entry are read as that entry. -/
theorem readEntries_text
    {p : Publication} (hfits : p.FitsLine) (hcollides : ¬p.Collides) :
    readEntries none (fileLines p.text.toList) = some [p.entry] := by
  have hvalue : p.delimiter.toList ∉ Text.pieces p.entry.value.toList := by
    intro hmem
    exact hcollides (Or.inr (Text.infix_of_mem_pieces hmem))
  have hne : p.firstLine.isEmpty = false := by simp [Publication.firstLine]
  rw [fileLines_text hfits]
  simp only [readEntries, hne, opening?_firstLine hfits, Bool.false_eq_true, if_false]
  have hread := readEntries_value
    (u := ⟨p.entry.name.toList, p.delimiter.toList, []⟩) hvalue
  rw [hread, List.nil_append]
  simp [Unfinished.entry, Text.intercalate_pieces]

/-- The lines of entries one behind the other are read as these entries. -/
theorem readEntries_texts
    {publications : List Publication}
    (h : ∀ p ∈ publications, p.FitsLine ∧ ¬p.Collides) :
    readEntries none (fileLines (String.join (publications.map Publication.text)).toList) =
      some (publications.map Publication.entry) := by
  induction publications with
  | nil => rfl
  | cons p publications ih =>
      obtain ⟨hfits, hcollides⟩ := h p List.mem_cons_self
      have hrest := ih fun q hq => h q (List.mem_cons_of_mem p hq)
      have hfirst := readEntries_text hfits hcollides
      rw [List.map_cons, String.join_cons, String.toList_append,
        fileLines_append (Or.inr (exists_text_eq p)), readEntries_append hfirst, hrest]
      rfl

/-- The bytes are none, or the last of them is a newline. -/
def EndsLine (bytes : List UInt8) : Prop :=
  bytes = [] ∨ bytes.getLast? = some 10

/-- What is written behind finished lines is read on its own. -/
theorem entries?_append
    {old : List UInt8} {entries : List Entry} (hend : EndsLine old)
    (h : entries? old = some entries) (s : String) :
    entries? (old ++ Text.Utf8.encode s) =
      (readEntries none (fileLines s.toList)).map (entries ++ ·) := by
  have hlines : fileLines (Text.Utf8.decode (old ++ Text.Utf8.encode s)).toList =
      fileLines (Text.Utf8.decode old).toList ++ fileLines s.toList := by
    rcases hend with hnil | hlast
    · subst hnil
      rw [List.nil_append, Text.Utf8.decode_encode]
      rfl
    · obtain ⟨front, hfront⟩ := List.getLast?_eq_some_iff.mp hlast
      subst hfront
      have hassoc : front ++ [10] ++ Text.Utf8.encode s =
          front ++ 10 :: Text.Utf8.encode s := by simp
      have hold := Text.Utf8.decode_append_newline front ""
      rw [Text.Utf8.encode_empty, String.append_empty] at hold
      rw [hassoc, Text.Utf8.decode_append_newline, hold, String.toList_append]
      refine fileLines_append (Or.inr ⟨(Text.Utf8.decode front).toList, ?_⟩) _
      rw [String.toList_append]
      rfl
  rw [entries?, hlines]
  exact readEntries_append h _

/-! ## Writing entry after entry -/

/-- Why an entry is refused, if it is. -/
def Publication.refusal? (p : Publication) : Option OutputError :=
  if p.Collides then some (.delimiterInside p.delimiter) else none

/-- The entries that are not refused. -/
def accepted (publications : List Publication) : List Publication :=
  publications.filter fun p => ¬p.Collides

theorem Publication.write_of_collides
    {p : Publication} (h : p.Collides) (path : String) (files : Host.Files) :
    p.write path files = (some (.delimiterInside p.delimiter), files) := by
  rw [write, addOutput_of_infix h]

variable {files : Host.Files} {path : String} {location : Host.Location} {old : List UInt8}

theorem Publication.write_of_appendable
    {p : Publication} (h : ¬p.Collides) (hpath : files.Appendable path location old) :
    p.write path files =
      (none, files.store location (old ++ Text.Utf8.encode p.text)) := by
  rw [write, addOutput_of_not_infix h (hpath.extend_eq _)]
  rfl

/-- The file afterwards is what it was, followed by the entries that were not refused. -/
theorem writeAll_eq
    (hpath : files.Appendable path location old) (publications : List Publication) :
    writeAll path files publications =
      (publications.map Publication.refusal?,
        if accepted publications = [] then files
        else files.store location (old ++ Text.Utf8.encode
          (String.join ((accepted publications).map Publication.text)))) := by
  induction publications generalizing files old with
  | nil => rfl
  | cons p rest ih =>
      by_cases hcollides : p.Collides
      · have haccepted : accepted (p :: rest) = accepted rest := by
          simp [accepted, hcollides]
        have hrefusal : p.refusal? = some (.delimiterInside p.delimiter) := if_pos hcollides
        rw [writeAll, Publication.write_of_collides hcollides, ih hpath, haccepted,
          List.map_cons, hrefusal]
      · have haccepted : accepted (p :: rest) = p :: accepted rest := by
          simp [accepted, hcollides]
        have hrefusal : p.refusal? = none := if_neg hcollides
        have hnext := hpath.store (old ++ Text.Utf8.encode p.text)
        rw [writeAll, Publication.write_of_appendable hcollides hpath, ih hnext, haccepted,
          List.map_cons, hrefusal]
        by_cases hrest : accepted rest = []
        · simp [hrest, String.join_cons]
        · simp [hrest, String.join_cons, Host.Files.store_store hpath.location_ne_nil]

/-- The output file can always be read back.  If its lines are finished and are entries, and
entries are written to it one after the other, each with its own delimiter, then the file is its
old content followed by the texts of those entries in which the delimiter occurs neither in the
name nor in the value, and is read as the old entries followed by these.  Any other entry is
refused and changes nothing; so is every entry with an empty delimiter. -/
theorem output_file_decodes :
    (∀ (files : Host.Files) (path : String) (location : Host.Location) (old : List UInt8)
        (entries : List Entry) (publications : List Publication),
      files.Appendable path location old → EndsLine old → entries? old = some entries →
      (∀ p ∈ accepted publications, p.FitsLine) →
      let content := old ++ Text.Utf8.encode
        (String.join ((accepted publications).map Publication.text))
      let written := writeAll path files publications
      written.1 = publications.map Publication.refusal? ∧
        written.2 = (if accepted publications = [] then files
          else files.store location content) ∧
        (accepted publications ≠ [] → written.2.read path = .ok content) ∧
        entries? content = some (entries ++ (accepted publications).map Publication.entry)) ∧
    (∀ (files : Host.Files) (path : String) (p : Publication), p.Collides →
      p.write path files = (some (.delimiterInside p.delimiter), files)) ∧
    ∀ p : Publication, p.delimiter = "" → p.Collides := by
  refine ⟨?_, ?_, ?_⟩
  · intro files path location old entries publications hpath hend hentries hfits content written
    have hwritten := writeAll_eq hpath publications
    have hsecond : written.2 = (if accepted publications = [] then files
        else files.store location content) := congrArg Prod.snd hwritten
    refine ⟨congrArg Prod.fst hwritten, hsecond, ?_, ?_⟩
    · intro hne
      rw [hsecond, if_neg hne]
      exact hpath.read_store content
    · have htexts : ∀ p ∈ accepted publications, p.FitsLine ∧ ¬p.Collides := by
        intro p hp
        have hcollides : ¬p.Collides := by simpa using (List.mem_filter.mp hp).2
        exact ⟨hfits p hp, hcollides⟩
      rw [entries?_append hend hentries, readEntries_texts htexts]
      rfl
  · intro files path p hcollides
    exact p.write_of_collides hcollides path files
  · intro p hempty
    left
    rw [hempty]
    exact List.nil_infix

/-- A file of which a line makes up no characters takes a value that ends in a newline and looks
like entries, and an entry without a name; between them an entry is refused. -/
theorem output_file_decodes_lookalikes :
    let old : List UInt8 := Text.Utf8.encode "a=1<<2\n\nb<<e\n" ++ [0xC3, 10] ++
      Text.Utf8.encode "e\n"
    let files : Host.Files := { nodes := [(["out"], .file old)], working := [] }
    let publications : List Publication :=
      [⟨⟨"result", "x<<y\nz=\n"⟩, "<=d"⟩, ⟨⟨"list", "[]"⟩, ""⟩, ⟨⟨"", ""⟩, "y"⟩]
    let written := writeAll "/out" files publications
    written.1 = [none, some (.delimiterInside ""), none] ∧
      written.2.read "/out" = .ok (old ++ Text.Utf8.encode
        "result<<<=d\nx<<y\nz=\n\n<=d\n<<y\n\ny\n") ∧
      entries? (old ++ Text.Utf8.encode "result<<<=d\nx<<y\nz=\n\n<=d\n<<y\n\ny\n") =
        some [⟨"a", "1<<2"⟩, ⟨"b", "\uFFFD"⟩, ⟨"result", "x<<y\nz=\n"⟩, ⟨"", ""⟩] := by
  intro old files publications written
  have hpath : files.Appendable "/out" ["out"] old :=
    ⟨⟨⟨Host.Path.parse "/out", rfl, by decide +kernel⟩, .inl rfl, rfl⟩, rfl⟩
  have hend : EndsLine old := .inr (by decide +kernel)
  have hentries : entries? old = some [⟨"a", "1<<2"⟩, ⟨"b", "\uFFFD"⟩] := by
    decide +kernel
  have haccepted : accepted publications =
      [⟨⟨"result", "x<<y\nz=\n"⟩, "<=d"⟩, ⟨⟨"", ""⟩, "y"⟩] := by
    decide +kernel
  have hfits : ∀ p ∈ accepted publications, p.FitsLine := by
    rw [haccepted]
    intro p hp
    simp only [List.mem_cons, List.not_mem_nil, or_false] at hp
    rcases hp with rfl | rfl
    · exact ⟨by simp, by decide⟩
    · exact ⟨by simp, by decide⟩
  obtain ⟨hrefusals, -, hread, hdecode⟩ :=
    output_file_decodes.1 files "/out" ["out"] old _ publications hpath hend hentries hfits
  have hne : accepted publications ≠ [] := by simp [haccepted]
  have htexts : String.join ((accepted publications).map Publication.text) =
      "result<<<=d\nx<<y\nz=\n\n<=d\n<<y\n\ny\n" := by
    decide +kernel
  refine ⟨?_, ?_, ?_⟩
  · rw [hrefusals]
    decide +kernel
  · rw [hread hne, htexts]
  · rw [← htexts, hdecode, haccepted]
    rfl

end Publish
end MetricsScript
