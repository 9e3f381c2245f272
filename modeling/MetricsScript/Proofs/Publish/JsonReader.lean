import MetricsScript.Text.Decimal

/-!
# Reading JSON

A JSON text is first read as tokens: brackets, braces, colons and commas, strings with their
escapes undone, numbers and the three names.  The tokens then drive a machine with a stack that
holds the arrays and objects that are still open.  Numbers are read exactly, as a coefficient and
a power of ten, and the members of an object keep their order.
-/

namespace MetricsScript
namespace Publish

inductive JsonValue where
  | null
  | boolean (value : Bool)
  /-- The coefficient times ten to the power of the exponent. -/
  | number (coefficient exponent : Int)
  | string (text : String)
  | array (items : List JsonValue)
  | object (members : List (String × JsonValue))

namespace JsonReader

/-! ## Strings -/

/-- The value of a hexadecimal digit. -/
def hexValue? (c : Char) : Option Nat :=
  if '0' ≤ c ∧ c ≤ '9' then some (c.toNat - '0'.toNat)
  else if 'a' ≤ c ∧ c ≤ 'f' then some (c.toNat - 'a'.toNat + 10)
  else if 'A' ≤ c ∧ c ≤ 'F' then some (c.toNat - 'A'.toNat + 10)
  else none

/-- Reads the four digits of a UTF-16 code unit. -/
def readUnit : List Char → Option (Nat × List Char)
  | a :: b :: c :: d :: cs => do
      let a ← hexValue? a
      let b ← hexValue? b
      let c ← hexValue? c
      let d ← hexValue? d
      return (a * 0x1000 + b * 0x100 + c * 0x10 + d, cs)
  | _ => none

/-- Reads the character that code units stand for, one or a surrogate pair, the first backslash
and `u` having been read. -/
def readUnicode (cs : List Char) : Option (Char × List Char) :=
  match readUnit cs with
  | none => none
  | some (first, rest) =>
      if first < 0xD800 ∨ 0xDFFF < first then some (Char.ofNat first, rest)
      else if 0xDC00 ≤ first then none
      else
        match rest with
        | '\\' :: 'u' :: more =>
            match readUnit more with
            | none => none
            | some (second, rest) =>
                if 0xDC00 ≤ second ∧ second ≤ 0xDFFF then
                  some (Char.ofNat
                    (0x10000 + (first - 0xD800) * 0x400 + (second - 0xDC00)), rest)
                else none
        | _ => none

/-- The character that one character behind a backslash stands for. -/
def escaped? : Char → Option Char
  | '"' => some '"'
  | '\\' => some '\\'
  | '/' => some '/'
  | 'b' => some '\x08'
  | 'f' => some '\x0C'
  | 'n' => some '\n'
  | 'r' => some '\r'
  | 't' => some '\t'
  | _ => none

/-- Reads an escape, its backslash having been read. -/
def readEscape : List Char → Option (Char × List Char)
  | [] => none
  | 'u' :: cs => readUnicode cs
  | c :: cs => (escaped? c).map fun d => (d, cs)

theorem readUnit_rest_lt
    {cs rest : List Char} {n : Nat} (h : readUnit cs = some (n, rest)) :
    rest.length < cs.length := by
  unfold readUnit at h
  split at h
  · next a b c d more =>
      simp only [bind, Option.bind_eq_some_iff, pure, Option.some.injEq, Prod.mk.injEq] at h
      obtain ⟨-, -, -, -, -, -, -, -, -, rfl⟩ := h
      simp only [List.length_cons]
      omega
  · cases h

theorem readUnicode_rest_lt
    {cs rest : List Char} {c : Char} (h : readUnicode cs = some (c, rest)) :
    rest.length < cs.length := by
  unfold readUnicode at h
  split at h
  · cases h
  · next first after hfirst =>
      have hlt := readUnit_rest_lt hfirst
      split at h
      · obtain ⟨-, rfl⟩ := Prod.mk.inj (Option.some.inj h)
        exact hlt
      split at h
      · cases h
      split at h
      · next more =>
          split at h
          · cases h
          · next second last hsecond =>
              have hless := readUnit_rest_lt hsecond
              split at h
              · obtain ⟨-, rfl⟩ := Prod.mk.inj (Option.some.inj h)
                simp only [List.length_cons] at hlt
                omega
              · cases h
      · cases h

theorem readEscape_rest_lt
    {cs rest : List Char} {c : Char} (h : readEscape cs = some (c, rest)) :
    rest.length < cs.length := by
  unfold readEscape at h
  split at h
  · cases h
  · exact Nat.lt_succ_of_lt (readUnicode_rest_lt h)
  · obtain ⟨d, -, heq⟩ := Option.map_eq_some_iff.mp h
    cases heq
    exact Nat.lt_succ_self _

/-- What was read of a string with one more character in front. -/
def prependChar (c : Char) (read : List Char × List Char) : List Char × List Char :=
  (c :: read.1, read.2)

/-- Reads a string, its first quote having been read.  Control characters have to be escaped. -/
def readString (cs : List Char) : Option (List Char × List Char) :=
  match cs with
  | [] => none
  | c :: cs =>
      if c = '"' then some ([], cs)
      else if c = '\\' then
        match h : readEscape cs with
        | none => none
        | some (d, rest) =>
            have := readEscape_rest_lt h
            (readString rest).map (prependChar d)
      else if c.toNat < 0x20 then none
      else (readString cs).map (prependChar c)
termination_by cs.length
decreasing_by
  all_goals
    simp only [List.length_cons]
    omega

theorem readString_rest_lt
    {cs text rest : List Char} (h : readString cs = some (text, rest)) :
    rest.length < cs.length := by
  induction hlength : cs.length using Nat.strongRecOn generalizing cs text with
  | _ n ih =>
    subst hlength
    rw [readString.eq_def] at h
    split at h
    · cases h
    · next c cs =>
        split at h
        · cases h
          exact Nat.lt_succ_self _
        split at h
        · split at h
          · cases h
          · next d after hescape =>
              have hlt := readEscape_rest_lt hescape
              obtain ⟨⟨more, last⟩, hread, heq⟩ := Option.map_eq_some_iff.mp h
              obtain ⟨-, rfl⟩ := Prod.mk.inj heq
              have hless := ih after.length (Nat.lt_succ_of_lt hlt) hread rfl
              exact Nat.lt_succ_of_lt (Nat.lt_trans hless hlt)
        split at h
        · cases h
        · obtain ⟨⟨more, last⟩, hread, heq⟩ := Option.map_eq_some_iff.mp h
          obtain ⟨-, rfl⟩ := Prod.mk.inj heq
          have hless := ih cs.length (Nat.lt_succ_self _) hread rfl
          exact Nat.lt_succ_of_lt hless

variable {cs rest text : List Char} {c d : Char}

theorem readString_quote : readString ('"' :: cs) = some ([], cs) := by
  rw [readString, if_pos rfl]

theorem readString_escape (h : readEscape cs = some (d, rest)) :
    readString ('\\' :: cs) = (readString rest).map (prependChar d) := by
  rw [readString, if_neg (by decide), if_pos rfl]
  split
  · next hnone => simp only [hnone, reduceCtorEq] at h
  · next hsome =>
      obtain ⟨rfl, rfl⟩ := Prod.mk.inj (Option.some.inj (hsome.symm.trans h))
      rfl

theorem readString_plain
    (hquote : c ≠ '"') (hbackslash : c ≠ '\\') (hcontrol : 0x20 ≤ c.toNat) :
    readString (c :: cs) = (readString cs).map (prependChar c) := by
  rw [readString, if_neg hquote, if_neg hbackslash, if_neg (Nat.not_lt.mpr hcontrol)]

/-! ## Numbers -/

/-- The exponent at the end of a number. -/
def exponent? : List Char → Option Int
  | [] => some 0
  | c :: cs => if c = 'e' ∨ c = 'E' then Text.signedNumeral? cs else none

/-- The digits before the point, which have no zero in front of them. -/
def isWhole (digits : List Char) : Bool :=
  !digits.isEmpty && (digits.head? != some '0' || digits.length == 1)

/-- The coefficient and the exponent of a number without a sign. -/
def unsigned? (cs : List Char) : Option (Int × Int) :=
  let whole := cs.takeWhile Text.isDigit
  if !isWhole whole then none
  else
    match cs.dropWhile Text.isDigit with
    | '.' :: more =>
        let fraction := more.takeWhile Text.isDigit
        if fraction.isEmpty then none
        else (exponent? (more.dropWhile Text.isDigit)).map fun exponent =>
          (Int.ofNat (Text.digitsValue (whole ++ fraction)), exponent - fraction.length)
    | rest => (exponent? rest).map fun exponent =>
        (Int.ofNat (Text.digitsValue whole), exponent)

/-- The coefficient and the exponent of a number. -/
def number? : List Char → Option (Int × Int)
  | '-' :: cs => (unsigned? cs).map fun number => (-number.1, number.2)
  | cs => unsigned? cs

/-! ## Tokens -/

inductive Token where
  | openBracket
  | closeBracket
  | openBrace
  | closeBrace
  | colon
  | comma
  | string (text : String)
  | number (coefficient exponent : Int)
  | boolean (value : Bool)
  | null
deriving DecidableEq, Repr

/-- White space between tokens. -/
def isSpace (c : Char) : Bool :=
  c == ' ' || c == '\t' || c == '\n' || c == '\r'

/-- The tokens that are one character. -/
def punctuation? : Char → Option Token
  | '[' => some .openBracket
  | ']' => some .closeBracket
  | '\x7b' => some .openBrace
  | '\x7d' => some .closeBrace
  | ':' => some .colon
  | ',' => some .comma
  | _ => none

/-- The characters of numbers and names. -/
def isAtomChar (c : Char) : Bool :=
  c.isAlphanum || c == '+' || c == '-' || c == '.'

/-- The token that a run of such characters makes. -/
def atom? (cs : List Char) : Option Token :=
  if cs = "true".toList then some (.boolean true)
  else if cs = "false".toList then some (.boolean false)
  else if cs = "null".toList then some .null
  else (number? cs).map fun number => .number number.1 number.2

/-- Reads all tokens of a text. -/
def tokens? (cs : List Char) : Option (List Token) :=
  match cs with
  | [] => some []
  | c :: cs =>
      if isSpace c then tokens? cs
      else if c = '"' then
        match h : readString cs with
        | none => none
        | some (text, rest) =>
            have := readString_rest_lt h
            (tokens? rest).map (.string (String.ofList text) :: ·)
      else
        match punctuation? c with
        | some token => (tokens? cs).map (token :: ·)
        | none =>
            match atom? ((c :: cs).takeWhile isAtomChar) with
            | none => none
            | some token =>
                have := (List.dropWhile_sublist isAtomChar (l := cs)).length_le
                (tokens? (cs.dropWhile isAtomChar)).map (token :: ·)
termination_by cs.length
decreasing_by
  all_goals
    simp only [List.length_cons]
    omega

variable {token : Token}

theorem tokens?_string (h : readString cs = some (text, rest)) :
    tokens? ('"' :: cs) = (tokens? rest).map (.string (String.ofList text) :: ·) := by
  rw [tokens?, if_neg (by decide), if_pos rfl]
  split
  · next hnone => simp only [hnone, reduceCtorEq] at h
  · next hsome =>
      obtain ⟨rfl, rfl⟩ := Prod.mk.inj (Option.some.inj (hsome.symm.trans h))
      rfl

theorem tokens?_punctuation (h : punctuation? c = some token) :
    tokens? (c :: cs) = (tokens? cs).map (token :: ·) := by
  have hspace : isSpace c = false ∧ c ≠ '"' := by
    unfold punctuation? at h
    split at h
    any_goals decide
    cases h
  rw [tokens?, hspace.1, if_neg (by decide), if_neg hspace.2, h]

/-- What an atom is made of begins no other token. -/
theorem plain_of_isAtomChar (h : isAtomChar c = true) :
    isSpace c = false ∧ c ≠ '"' ∧ punctuation? c = none := by
  refine ⟨?_, ?_, ?_⟩
  · rw [Bool.eq_false_iff]
    intro hspace
    simp only [isSpace, Bool.or_eq_true, beq_iff_eq] at hspace
    obtain ((rfl | rfl) | rfl) | rfl := hspace
    all_goals exact absurd h (by decide)
  · rintro rfl
    exact absurd h (by decide)
  · unfold punctuation?
    split
    all_goals first
      | rfl
      | exact absurd h (by decide)

theorem tokens?_atom
    (hatom : atom? cs = some token) (hne : cs ≠ []) (hchars : ∀ c ∈ cs, isAtomChar c = true)
    (hrest : ∀ c ∈ rest.head?, isAtomChar c = false) :
    tokens? (cs ++ rest) = (tokens? rest).map (token :: ·) := by
  obtain ⟨c, more, rfl⟩ := List.exists_cons_of_ne_nil hne
  obtain ⟨hspace, hquote, hpunctuation⟩ := plain_of_isAtomChar (hchars c (by simp))
  have hstop : rest.takeWhile isAtomChar = [] ∧ rest.dropWhile isAtomChar = rest := by
    cases rest with
    | nil => exact ⟨rfl, rfl⟩
    | cons d ds =>
        have hd := hrest d rfl
        exact ⟨List.takeWhile_cons_of_neg (by simp [hd]),
          List.dropWhile_cons_of_neg (by simp [hd])⟩
  have hrun : (c :: (more ++ rest)).takeWhile isAtomChar = c :: more := by
    rw [← List.cons_append, List.takeWhile_append_of_pos hchars, hstop.1, List.append_nil]
  have hafter : (more ++ rest).dropWhile isAtomChar = rest := by
    rw [List.dropWhile_append_of_pos fun d hd => hchars d (List.mem_cons_of_mem _ hd), hstop.2]
  rw [List.cons_append, tokens?, hspace, if_neg (by decide), if_neg hquote, hpunctuation]
  simp only [hrun, hatom, hafter]

/-! ## Values -/

/-- An array or an object that is not closed yet. -/
inductive Frame where
  | array (items : List JsonValue)
  /-- The value of the member `key` is being read. -/
  | object (members : List (String × JsonValue)) (key : String)

/-- What was read, and so what may come next.  The innermost frame comes first. -/
inductive State where
  /-- A value has to come. -/
  | value (frames : List Frame)
  /-- An array was opened. -/
  | opened (frames : List Frame)
  /-- An object was opened. -/
  | openedObject (frames : List Frame)
  /-- A member has to come. -/
  | member (members : List (String × JsonValue)) (frames : List Frame)
  /-- The name of a member was read. -/
  | named (members : List (String × JsonValue)) (key : String) (frames : List Frame)
  /-- A value was read. -/
  | complete (value : JsonValue) (frames : List Frame)

/-- The state after the first token of a value. -/
def begin? (frames : List Frame) : Token → Option State
  | .openBracket => some (.opened frames)
  | .openBrace => some (.openedObject frames)
  | .string text => some (.complete (.string text) frames)
  | .number coefficient exponent => some (.complete (.number coefficient exponent) frames)
  | .boolean value => some (.complete (.boolean value) frames)
  | .null => some (.complete .null frames)
  | _ => none

/-- The state after one more token. -/
def step : State → Token → Option State
  | .value frames, token => begin? frames token
  | .opened frames, .closeBracket => some (.complete (.array []) frames)
  | .opened frames, token => begin? (.array [] :: frames) token
  | .openedObject frames, .closeBrace => some (.complete (.object []) frames)
  | .openedObject frames, .string key => some (.named [] key frames)
  | .member members frames, .string key => some (.named members key frames)
  | .named members key frames, .colon => some (.value (.object members key :: frames))
  | .complete value (.array items :: frames), .comma =>
      some (.value (.array (items ++ [value]) :: frames))
  | .complete value (.array items :: frames), .closeBracket =>
      some (.complete (.array (items ++ [value])) frames)
  | .complete value (.object members key :: frames), .comma =>
      some (.member (members ++ [(key, value)]) frames)
  | .complete value (.object members key :: frames), .closeBrace =>
      some (.complete (.object (members ++ [(key, value)])) frames)
  | _, _ => none

/-- The value when all tokens have been read. -/
def State.finish? : State → Option JsonValue
  | .complete json [] => some json
  | _ => none

/-- The value that a JSON text stands for. -/
def parse (text : String) : Option JsonValue := do
  let tokens ← tokens? text.toList
  let state ← tokens.foldlM step (.value [])
  state.finish?

example :
    parse "\t\x7b\"a\" : -12.50E+1 , \"\\u00e9\\ud83e\\udd80\\/\":[true, \x7b\x7d, []]\x7d\n" =
      some (.object [("a", .number (-1250) (-1)),
        ("é🦀/", .array [.boolean true, .object [], .array []])]) := by
  with_unfolding_all rfl

end JsonReader
end Publish
end MetricsScript
