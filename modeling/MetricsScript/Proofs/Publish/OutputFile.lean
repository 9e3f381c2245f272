import MetricsScript.Proofs.Host.Appending
import MetricsScript.Proofs.Text.Utf8
import MetricsScript.Publish.OutputFile

/-!
# Entries of the output file

An entry is refused if its delimiter stands in its name or in its value, and then nothing is
written.  Otherwise the text of the entry is appended, and what becomes of it is what becomes of
any bytes.
-/

namespace MetricsScript
namespace Publish

variable {needle hay : List Char} {files : Host.Files} {name value delimiter path : String}

theorem occursIn_iff : occursIn needle hay = true ↔ needle <:+: hay := by
  induction hay with
  | nil => simp [occursIn]
  | cons c cs ih => simp [occursIn, ih, List.infix_cons_iff]

/-- What opens with more characters than a text has stands nowhere in it. -/
theorem not_append_infix {opening : List Char} (h : hay.length < opening.length) :
    ¬opening ++ needle <:+: hay := by
  intro hinside
  have hlength := hinside.length_le
  rw [List.length_append] at hlength
  omega

/-- The text of an entry. -/
def entryText (name value delimiter : String) : String :=
  name ++ "<<" ++ delimiter ++ "\n" ++ value ++ "\n" ++ delimiter ++ "\n"

theorem encode_entryText_ne_nil : Text.Utf8.encode (entryText name value delimiter) ≠ [] := by
  rw [entryText, Text.Utf8.encode_append]
  exact List.append_ne_nil_of_right_ne_nil _ (by decide)

theorem outputEntry_of_infix
    (h : delimiter.toList <:+: name.toList ∨ delimiter.toList <:+: value.toList) :
    outputEntry name value delimiter = .error (.delimiterInside delimiter) := by
  rw [outputEntry, if_pos]
  rwa [Bool.or_eq_true, occursIn_iff, occursIn_iff]

theorem outputEntry_of_not_infix
    (h : ¬(delimiter.toList <:+: name.toList ∨ delimiter.toList <:+: value.toList)) :
    outputEntry name value delimiter = .ok (entryText name value delimiter) := by
  rw [outputEntry, if_neg]
  · rfl
  · rwa [Bool.or_eq_true, occursIn_iff, occursIn_iff]

theorem addOutput_of_infix
    (h : delimiter.toList <:+: name.toList ∨ delimiter.toList <:+: value.toList) :
    addOutput files path name value delimiter =
      { files, error? := some (.delimiterInside delimiter) } := by
  rw [addOutput, outputEntry_of_infix h]

theorem addOutput_of_not_infix {appended : Host.Appended}
    (h : ¬(delimiter.toList <:+: name.toList ∨ delimiter.toList <:+: value.toList))
    (hextend : files.extend path (Text.Utf8.encode (entryText name value delimiter)) =
      appended) :
    addOutput files path name value delimiter =
      { files := appended.files
        printed := if appended.shown then entryText name value delimiter else ""
        error? := appended.cause?.map .file } := by
  rw [addOutput, outputEntry_of_not_infix h]
  simp only [hextend]

end Publish
end MetricsScript
