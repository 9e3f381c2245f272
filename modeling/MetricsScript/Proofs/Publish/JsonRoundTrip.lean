import Mathlib.Data.List.Basic
import Mathlib.Data.List.TakeWhile
import MetricsScript.Proofs.Publish.JsonReader
import MetricsScript.Proofs.Text.Decimal
import MetricsScript.Publish.Json

/-!
# Published records are read back

The JSON text of records holds no control characters, so it is a single line, and it is read as
the array of the objects that the records stand for.
-/

namespace MetricsScript
namespace Publish

open JsonReader Run

variable {name : String} {value cs ds rest : List Char} {c : Char}

/-! ## No control characters -/

/-- No character is a control character. -/
def Printable (cs : List Char) : Prop :=
  ∀ c ∈ cs, 0x20 ≤ c.toNat

theorem printable_nil : Printable [] :=
  List.forall_mem_nil _

theorem printable_cons : Printable (c :: cs) ↔ 0x20 ≤ c.toNat ∧ Printable cs :=
  List.forall_mem_cons

theorem printable_append : Printable (cs ++ ds) ↔ Printable cs ∧ Printable ds :=
  List.forall_mem_append

theorem hexDigit_printable (n : Nat) : 0x20 ≤ (hexDigit n).toNat := by
  have hall : ∀ m < 16, 0x20 ≤ (Nat.digitChar m).toNat := by decide
  exact hall (n % 16) (Nat.mod_lt n (by decide))

theorem jsonChar_printable (c : Char) : Printable (jsonChar c) := by
  unfold jsonChar
  split
  iterate 7
    · simp only [printable_cons, printable_nil, and_true]
      decide
    split
  · simp only [printable_cons, printable_nil, hexDigit_printable, and_true]
    decide
  · next hcontrol =>
      exact printable_cons.mpr ⟨Nat.le_of_not_lt hcontrol, printable_nil⟩

theorem jsonString_printable (text : String) : Printable (jsonString text) := by
  have hbody : Printable (text.toList.flatMap jsonChar) := by
    intro d hd
    obtain ⟨c, -, hmem⟩ := List.mem_flatMap.mp hd
    exact jsonChar_printable c d hmem
  unfold jsonString
  rw [printable_append, printable_cons]
  exact ⟨⟨by decide, hbody⟩, printable_cons.mpr ⟨by decide, printable_nil⟩⟩

theorem toString_int_printable (i : Int) : Printable (toString i).toList := by
  intro c hc
  rcases Text.eq_minus_or_isDigit_of_mem_toString hc with rfl | hdigit
  · decide
  · simp only [Text.isDigit, Bool.and_eq_true, decide_eq_true_eq, Char.le_def] at hdigit
    exact Nat.le_trans (by decide) (UInt32.le_iff_toNat_le.mp hdigit.1)

theorem jsonMember_printable (hname : Printable name.toList) (hvalue : Printable value) :
    Printable (jsonMember name value) := by
  simp only [jsonMember, printable_append, printable_cons]
  exact ⟨⟨⟨by decide, hname⟩, by decide, by decide, printable_nil⟩, hvalue⟩

theorem jsonItems_printable {items : List (List Char)} (h : ∀ item ∈ items, Printable item) :
    Printable (jsonItems items) := by
  induction items using jsonItems.induct with
  | case1 => exact printable_nil
  | case2 item => exact h item (by simp)
  | case3 item items hne ih =>
      have hitems := ih fun other hother => h other (List.mem_cons_of_mem _ hother)
      rw [jsonItems.eq_3 item items hne, printable_append, printable_cons]
      exact ⟨h item (by simp), by decide, hitems⟩

theorem jsonRecord_printable (record : Record) : Printable (jsonRecord record) := by
  unfold jsonRecord
  rw [printable_append, printable_cons]
  refine ⟨⟨by decide, jsonItems_printable ?_⟩, printable_cons.mpr ⟨by decide, printable_nil⟩⟩
  simp only [List.forall_mem_cons, List.not_mem_nil, false_imp_iff, implies_true, and_true]
  refine ⟨?command, ?code, ?stdout, ?stderr⟩
  case command => exact jsonMember_printable (by simp [Printable]) (jsonString_printable _)
  case code => exact jsonMember_printable (by simp [Printable]) (toString_int_printable _)
  case stdout => exact jsonMember_printable (by simp [Printable]) (jsonString_printable _)
  case stderr => exact jsonMember_printable (by simp [Printable]) (jsonString_printable _)

theorem json_printable (records : List Record) : Printable (json records).toList := by
  have hitems : Printable (jsonItems (records.map jsonRecord)) := by
    apply jsonItems_printable
    intro item hitem
    obtain ⟨record, -, rfl⟩ := List.mem_map.mp hitem
    exact jsonRecord_printable record
  unfold json
  rw [String.toList_ofList, printable_append, printable_cons]
  exact ⟨⟨by decide, hitems⟩, printable_cons.mpr ⟨by decide, printable_nil⟩⟩

/-! ## Strings -/

theorem hexValue?_hexDigit (n : Nat) : hexValue? (hexDigit n) = some (n % 16) := by
  have hall : ∀ m < 16, hexValue? (Nat.digitChar m) = some m := by decide
  exact hall (n % 16) (Nat.mod_lt n (by decide))

theorem readUnicode_control (hcontrol : c.toNat < 0x20) :
    readUnicode ('0' :: '0' :: hexDigit (c.toNat / 16) :: hexDigit c.toNat :: rest) =
      some (c, rest) := by
  have hzero : hexValue? '0' = some 0 := by decide
  have hvalue : c.toNat / 16 % 16 * 0x10 + c.toNat % 16 = c.toNat := by omega
  have hunit :
      readUnit ('0' :: '0' :: hexDigit (c.toNat / 16) :: hexDigit c.toNat :: rest) =
        some (c.toNat, rest) := by
    simp only [readUnit, hzero, hexValue?_hexDigit, Option.bind_eq_bind, Option.bind_some,
      Nat.zero_mul, Nat.zero_add, hvalue, Option.pure_def]
  unfold readUnicode
  rw [hunit]
  simp only
  rw [if_pos (by omega), Char.ofNat_toNat]

/-- What stands for a character is read as that character. -/
theorem readString_jsonChar (c : Char) (rest : List Char) :
    readString (jsonChar c ++ rest) = (readString rest).map (prependChar c) := by
  unfold jsonChar
  split
  iterate 7
    · next h => exact readString_escape (by rw [h]; rfl)
    split
  · next hcontrol => exact readString_escape (readUnicode_control hcontrol)
  · next hquote hbackslash _ _ _ _ _ hcontrol =>
      exact readString_plain hquote hbackslash (Nat.le_of_not_lt hcontrol)

theorem readString_flatMap_jsonChar (cs rest : List Char) :
    readString (cs.flatMap jsonChar ++ '"' :: rest) = some (cs, rest) := by
  induction cs with
  | nil => exact readString_quote
  | cons c cs ih =>
      rw [List.flatMap_cons, List.append_assoc, readString_jsonChar, ih]
      rfl

theorem tokens?_jsonString (text : String) (rest : List Char) :
    tokens? (jsonString text ++ rest) = (tokens? rest).map (.string text :: ·) := by
  have hread := readString_flatMap_jsonChar text.toList rest
  have htokens := tokens?_string hread
  rw [String.ofList_toList] at htokens
  unfold jsonString
  rw [List.cons_append, List.cons_append, List.append_assoc, List.singleton_append, htokens]

/-! ## Numbers -/

theorem unsigned?_toDigits (n : Nat) :
    unsigned? (Nat.toDigits 10 n) = some (Int.ofNat n, 0) := by
  have hdigits : ∀ c ∈ Nat.toDigits 10 n, Text.isDigit c = true :=
    fun _ => Text.isDigit_of_mem_toDigits
  have htake : (Nat.toDigits 10 n).takeWhile Text.isDigit = Nat.toDigits 10 n :=
    List.takeWhile_eq_self_iff.mpr hdigits
  have hdrop : (Nat.toDigits 10 n).dropWhile Text.isDigit = [] :=
    List.dropWhile_eq_nil_iff.mpr hdigits
  have hwhole : isWhole (Nat.toDigits 10 n) = true := by
    unfold isWhole
    rw [Bool.and_eq_true, Bool.or_eq_true]
    constructor
    · simp
    · by_cases hzero : (Nat.toDigits 10 n).head? = some '0'
      · right
        rw [Text.toDigits_eq_of_head?_eq_zero hzero]
        rfl
      · left
        simpa using hzero
  unfold unsigned?
  simp [htake, hdrop, hwhole, exponent?, Text.digitsValue_toDigits]

theorem number?_toString (i : Int) : number? (toString i).toList = some (i, 0) := by
  rw [Text.toList_toString_int]
  split
  · next hnonneg =>
      have hread := unsigned?_toDigits i.toNat
      unfold number?
      split
      · next hminus =>
          have hdigit : Text.isDigit '-' = true :=
            Text.isDigit_of_mem_toDigits (by rw [hminus]; exact List.mem_cons_self)
          exact absurd hdigit (by decide)
      · rw [hread, Int.ofNat_eq_natCast, Int.toNat_of_nonneg hnonneg]
  · next hneg =>
      have hread := unsigned?_toDigits (-i).toNat
      have hvalue : -Int.ofNat (-i).toNat = i := by
        rw [Int.ofNat_eq_natCast, Int.toNat_of_nonneg (by omega), Int.neg_neg]
      simp only [number?, hread, Option.map_some, hvalue]

theorem atom?_of_number? {coefficient exponent : Int}
    (h : number? cs = some (coefficient, exponent)) :
    atom? cs = some (.number coefficient exponent) := by
  have hname : ∀ name ∈ ["true", "false", "null"], number? name.toList = none := by decide
  have hne : ∀ name ∈ ["true", "false", "null"], cs ≠ name.toList := by
    rintro name hmem rfl
    rw [hname name hmem] at h
    cases h
  unfold atom?
  rw [if_neg (hne "true" (by simp)), if_neg (hne "false" (by simp)),
    if_neg (hne "null" (by simp)), h]
  rfl

theorem isAtomChar_of_mem_toString {i : Int} (h : c ∈ (toString i).toList) :
    isAtomChar c = true := by
  rcases Text.eq_minus_or_isDigit_of_mem_toString h with rfl | hdigit
  · rfl
  · have hchar : c.isDigit = true := by simpa [Char.isDigit, Text.isDigit, Char.le_def] using hdigit
    simp [isAtomChar, Char.isAlphanum, hchar]

theorem tokens?_toString (i : Int) (hstop : isAtomChar c = false) :
    tokens? ((toString i).toList ++ c :: rest) =
      (tokens? (c :: rest)).map (.number i 0 :: ·) := by
  have hread := number?_toString i
  have hne : (toString i).toList ≠ [] := by
    intro hnil
    rw [hnil] at hread
    cases hread
  apply tokens?_atom (atom?_of_number? hread) hne
  · intro d hd
    exact isAtomChar_of_mem_toString hd
  · rintro d ⟨⟩
    exact hstop

/-! ## Records -/

/-- The tokens of a record. -/
def recordTokens (record : Record) : List Token :=
  [.openBrace,
    .string "command", .colon, .string record.command, .comma,
    .string "code", .colon, .number record.code.toInt 0, .comma,
    .string "stdout", .colon, .string record.stdout, .comma,
    .string "stderr", .colon, .string record.stderr,
    .closeBrace]

/-- The object that a record stands for. -/
def recordValue (record : Record) : JsonValue :=
  .object
    [("command", .string record.command), ("code", .number record.code.toInt 0),
      ("stdout", .string record.stdout), ("stderr", .string record.stderr)]

/-- A name without escapes is a string as it stands. -/
theorem tokens?_jsonMember (hname : name.toList.flatMap jsonChar = name.toList) :
    tokens? (jsonMember name value ++ rest) =
      (tokens? (value ++ rest)).map ([.string name, .colon] ++ ·) := by
  have htext : jsonMember name value ++ rest = jsonString name ++ ':' :: (value ++ rest) := by
    simp [jsonMember, jsonString, hname]
  rw [htext, tokens?_jsonString, tokens?_punctuation (c := ':') rfl, Option.map_map]
  rfl

theorem tokens?_comma : tokens? (',' :: rest) = (tokens? rest).map (.comma :: ·) :=
  tokens?_punctuation rfl

theorem tokens?_jsonRecord (record : Record) (rest : List Char) :
    tokens? (jsonRecord record ++ rest) = (tokens? rest).map (recordTokens record ++ ·) := by
  have hopen (cs : List Char) : tokens? ('\x7b' :: cs) = (tokens? cs).map (.openBrace :: ·) :=
    tokens?_punctuation rfl
  have hclose (cs : List Char) : tokens? ('\x7d' :: cs) = (tokens? cs).map (.closeBrace :: ·) :=
    tokens?_punctuation rfl
  unfold jsonRecord jsonItems jsonItems jsonItems jsonItems
  simp only [List.cons_append, List.append_assoc]
  rw [hopen, tokens?_jsonMember (by decide), tokens?_jsonString, tokens?_comma,
    tokens?_jsonMember (by decide), tokens?_toString _ (by decide), tokens?_comma,
    tokens?_jsonMember (by decide), tokens?_jsonString, tokens?_comma,
    tokens?_jsonMember (by decide), tokens?_jsonString, hclose]
  simp only [Option.map_map]
  rfl

/-- The tokens of records with commas between them. -/
def itemTokens (records : List Record) : List Token :=
  [Token.comma].intercalate (records.map recordTokens)

theorem tokens?_jsonItems (records : List Record) (rest : List Char) :
    tokens? (jsonItems (records.map jsonRecord) ++ rest) =
      (tokens? rest).map (itemTokens records ++ ·) := by
  induction records with
  | nil => simp [jsonItems, itemTokens]
  | cons record records ih =>
      cases records with
      | nil => simpa [jsonItems, itemTokens] using tokens?_jsonRecord record rest
      | cons other records =>
          simp only [List.map_cons] at ih
          simp only [List.map_cons, jsonItems, List.append_assoc, List.cons_append]
          rw [tokens?_jsonRecord, tokens?_comma, ih, Option.map_map, Option.map_map]
          simp [itemTokens, List.intercalate_cons_cons, Function.comp_def]

/-! ## The machine -/

theorem foldlM_recordTokens (record : Record) (frames : List Frame) :
    (recordTokens record).foldlM step (.value frames) =
      some (.complete (recordValue record) frames) :=
  rfl

/-- Behind the values of an array, more records make more of its values. -/
theorem foldlM_itemTokens (record : Record) (records : List Record) (items : List JsonValue) :
    (itemTokens (record :: records) ++ [Token.closeBracket]).foldlM step (.value [.array items]) =
      some (.complete (.array (items ++ (record :: records).map recordValue)) []) := by
  induction records generalizing record items with
  | nil =>
      simp [itemTokens, List.foldlM_append, foldlM_recordTokens]
      rfl
  | cons other records ih =>
      have hnext := ih other (items ++ [recordValue record])
      have hcomma :
          step (.complete (recordValue record) [.array items]) .comma =
            some (.value [.array (items ++ [recordValue record])]) :=
        rfl
      simp only [itemTokens, List.map_cons] at hnext ⊢
      rw [List.intercalate_cons_cons, List.append_assoc, List.append_assoc, List.foldlM_append,
        foldlM_recordTokens]
      simpa [hcomma] using hnext

theorem exists_itemTokens_eq (record : Record) (records : List Record) :
    ∃ more, itemTokens (record :: records) = .openBrace :: more := by
  cases records with
  | nil => exact ⟨_, rfl⟩
  | cons other records => exact ⟨_, rfl⟩

theorem foldlM_arrayTokens (records : List Record) :
    (Token.openBracket :: itemTokens records ++ [Token.closeBracket]).foldlM step (.value []) =
      some (.complete (.array (records.map recordValue)) []) := by
  cases records with
  | nil => rfl
  | cons record records =>
      -- What opens a record is taken in the opened array as it is behind a comma.
      obtain ⟨more, hmore⟩ := exists_itemTokens_eq record records
      have hitems := foldlM_itemTokens record records []
      rw [hmore] at hitems ⊢
      exact hitems

theorem tokens?_json (records : List Record) :
    tokens? (json records).toList =
      some (.openBracket :: itemTokens records ++ [.closeBracket]) := by
  have hopen (cs : List Char) : tokens? ('[' :: cs) = (tokens? cs).map (.openBracket :: ·) :=
    tokens?_punctuation rfl
  have hclose : tokens? [']'] = some [.closeBracket] := by
    have hbracket : punctuation? ']' = some .closeBracket := rfl
    rw [tokens?_punctuation hbracket, tokens?, Option.map_some]
  unfold json
  rw [String.toList_ofList, List.cons_append, hopen, tokens?_jsonItems, hclose]
  rfl

theorem parse_json (records : List Record) :
    parse (json records) = some (.array (records.map recordValue)) := by
  unfold parse
  rw [tokens?_json]
  simp only [Option.bind_eq_bind, Option.bind_some, foldlM_arrayTokens]
  rfl

theorem recordValue_injective : Function.Injective recordValue := by
  intro record other h
  simp only [recordValue, JsonValue.object.injEq, List.cons.injEq, Prod.mk.injEq,
    JsonValue.string.injEq, JsonValue.number.injEq, Int32.toInt_inj, true_and, and_true] at h
  obtain ⟨hcommand, hcode, hstdout, hstderr⟩ := h
  cases record
  cases other
  simp_all

/-- The JSON text of records is a single line, it is read as the array of the objects that they
stand for, and no other records have it. -/
theorem json_faithful (records : List Record) :
    (∀ c ∈ (json records).toList, 0x20 ≤ c.toNat) ∧
      parse (json records) = some (.array (records.map recordValue)) ∧
      ∀ others, json others = json records → others = records := by
  refine ⟨json_printable records, parse_json records, ?_⟩
  intro others hsame
  have hread := parse_json others
  rw [hsame, parse_json records] at hread
  have hvalues : records.map recordValue = others.map recordValue :=
    JsonValue.array.inj (Option.some.inj hread)
  exact (List.map_injective_iff.mpr recordValue_injective hvalues).symm

end Publish
end MetricsScript
