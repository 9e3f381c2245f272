import MetricsScript.Command.Word
import MetricsScript.Proofs.Command.Bodies
import MetricsScript.Proofs.Command.Quotes

/-!
# How far the readers look

A reader takes a piece off the front of a text and leaves the rest.  What it takes does not
depend on the whole of the rest: quoted text and bodies in brackets end where they are closed,
and every other token looks at the next character at most.  So the rest may be replaced.

The space is the weakest of all next characters.  Where a token ends before a space it also
ends before any *neutral* character, and at the end of the text.
-/

namespace MetricsScript
namespace Command

/-- The characters that neither run on a token nor complete an operator.  Behind a `$` alone
the character `$` does not count. -/
def isNeutral (c : Char) : Bool :=
  c == ' ' || c == '\t' || c == '$' || c == '\x60' || c == '\'' || c == '"'

/-- `next` may stand behind a token in place of `rest`, which is not empty. -/
def CanReplace : List Char → List Char → Prop
  | [], _ => False
  | _ :: _, [] => True
  | x :: _, y :: _ => y = x ∨ x = ' ' ∧ isNeutral y = true

/-- Reading `cs` takes a piece that is read the same before any other rest. -/
def Delimited {α : Type} (read : List Char → α × List Char) (cs : List Char) : Prop :=
  ∃ text, cs = text ++ (read cs).2 ∧
    ((read cs).2 ≠ [] → ∀ next, read (text ++ next) = ((read cs).1, next))

/-- Reading `cs` takes a piece that is read the same before any rest that can replace the one
that was left. -/
def Stable {α : Type} (read : List Char → α × List Char) (cs : List Char) : Prop :=
  ∃ text, cs = text ++ (read cs).2 ∧
    ∀ next, CanReplace (read cs).2 next → read (text ++ next) = ((read cs).1, next)

/-! ## Replacing the rest -/

theorem isNeutral_iff {c : Char} :
    isNeutral c = true ↔
      c = ' ' ∨ c = '\t' ∨ c = '$' ∨ c = '\x60' ∨ c = '\'' ∨ c = '"' := by
  simp [isNeutral, or_assoc]

theorem isNameChar_of_isNeutral {c : Char} (h : isNeutral c = true) : isNameChar c = false := by
  rcases isNeutral_iff.mp h with rfl | rfl | rfl | rfl | rfl | rfl <;> decide

theorem isWordBoundary_of_isNeutral {c : Char} (h : isNeutral c = true) :
    isWordBoundary c = true := by
  rcases isNeutral_iff.mp h with rfl | rfl | rfl | rfl | rfl | rfl <;> decide

theorem CanReplace.ne_nil {rest next : List Char} (h : CanReplace rest next) : rest ≠ [] := by
  rintro rfl
  exact h

/-- A rest may be replaced by one with the same next character. -/
theorem canReplace_append {text : List Char} (h : text ≠ []) (rest next : List Char) :
    CanReplace (text ++ rest) (text ++ next) := by
  cases text with
  | nil => exact absurd rfl h
  | cons x text => exact Or.inl rfl

/-- A character that is not neutral does not come to stand first by a replacement. -/
theorem CanReplace.not_cons
    {x : Char} (hx : isNeutral x = false) {rest next : List Char}
    (h : CanReplace rest next) (hrest : ∀ r, rest ≠ x :: r) (r : List Char) :
    next ≠ x :: r := by
  rintro rfl
  cases rest with
  | nil => exact h
  | cons y s =>
      rcases h with rfl | ⟨-, hneutral⟩
      · exact hrest s rfl
      · simp [hx] at hneutral

/-- A run of characters ends before a character that does not belong to it. -/
theorem takeWhile_append_of_head
    {p : Char → Bool} {cs next : List Char} (hcs : ∀ c ∈ cs, p c = true)
    (hnext : ∀ y ∈ next.head?, p y = false) :
    (cs ++ next).takeWhile p = cs ∧ (cs ++ next).dropWhile p = next := by
  have hend : next.takeWhile p = [] ∧ next.dropWhile p = next := by
    cases next with
    | nil => exact ⟨rfl, rfl⟩
    | cons y next => simp [hnext y rfl]
  rw [List.takeWhile_append_of_pos hcs, List.dropWhile_append_of_pos hcs, hend.1, hend.2]
  exact ⟨List.append_nil _, rfl⟩

/-- A run of characters that a space does not belong to is cut off at the same place before
another rest. -/
theorem takeWhile_replace
    {p : Char → Bool} (hp : ∀ c, isNeutral c = true → p ' ' = false → p c = false)
    {cs next : List Char} (h : CanReplace (cs.dropWhile p) next) :
    (cs.takeWhile p ++ next).takeWhile p = cs.takeWhile p ∧
      (cs.takeWhile p ++ next).dropWhile p = next := by
  have hall : ∀ c ∈ cs.takeWhile p, p c = true := fun c hc =>
    (List.all_eq_true.mp (List.all_takeWhile (p := p) (l := cs))) c hc
  refine takeWhile_append_of_head hall fun y hy => ?_
  cases next with
  | nil => cases hy
  | cons z r =>
      obtain rfl := Option.some.inj hy
      cases hrest : cs.dropWhile p with
      | nil => exact absurd hrest h.ne_nil
      | cons x s =>
          have hx : p x = false := by
            have := List.head?_dropWhile_not p cs
            simpa [hrest] using this
          rw [hrest] at h
          rcases h with rfl | ⟨rfl, hneutral⟩
          · exact hx
          · exact hp _ hneutral hx

section
variable
  {α β : Type} {read : List Char → α × List Char} {inner : List Char → β × List Char}
  {cs : List Char}

theorem Delimited.stable (h : Delimited read cs) : Stable read cs := by
  obtain ⟨text, htext, hread⟩ := h
  exact ⟨text, htext, fun next hnext => hread hnext.ne_nil next⟩

/-- What runs to the end of the text leaves no rest to be replaced. -/
theorem Delimited.of_rest_nil (h : (read cs).2 = []) : Delimited read cs :=
  ⟨cs, by simp [h], fun hne => absurd h hne⟩

/-- A reader that stops behind a fixed front stops there before every rest. -/
theorem Delimited.stop (front : List Char) {k : α} (h : ∀ t, read (front ++ t) = (k, t)) :
    Delimited read (front ++ cs) := by
  refine ⟨front, ?_, ?_⟩
  · rw [h]
  · intro _ next
    rw [h, h]

/-- A reader that reads a fixed front and then goes on like another one. -/
theorem Delimited.prepend
    (front : List Char) {f : β → α} (h : Delimited inner cs)
    (hread : ∀ t, read (front ++ t) = (f (inner t).1, (inner t).2)) :
    Delimited read (front ++ cs) := by
  obtain ⟨text, htext, hnext⟩ := h
  refine ⟨front ++ text, ?_, ?_⟩
  · rw [hread, List.append_assoc, ← htext]
  · intro hne next
    simp only [hread] at hne ⊢
    rw [List.append_assoc, hread, hnext hne]

/-- A reader that reads a fixed front and then goes on like another one. -/
theorem Stable.prepend
    (front : List Char) {f : β → α} (h : Stable inner cs)
    (hread : ∀ t, read (front ++ t) = (f (inner t).1, (inner t).2)) :
    Stable read (front ++ cs) := by
  obtain ⟨text, htext, hnext⟩ := h
  refine ⟨front ++ text, ?_, ?_⟩
  · rw [hread, List.append_assoc, ← htext]
  · intro next hreplace
    simp only [hread] at hreplace ⊢
    rw [List.append_assoc, hread, hnext next hreplace]

end

/-! ## Bodies, backticks and quotes -/

/-- A backslash that ends the text ends the body. -/
theorem readBody_slash_rest (b : Brackets) (depth : Nat) (q : Quoting) :
    (readBody b depth q ['\\']).2 = [] := by
  cases q with
  | single => simp [readBody]
  | double => simp [readBody]
  | bare => cases depth <;> simp only [readBody] <;> split <;> (try split) <;> rfl

/-- A character that escapes nothing is a backslash only at the end of the text. -/
theorem readBody_delimited_of_not_escape
    {b : Brackets} {depth : Nat} {q : Quoting} {c : Char} {cs : List Char}
    (h : ∀ d ds, c = '\\' → cs = d :: ds → False)
    (hc : c ≠ '\\' → Delimited (readBody b depth q) (c :: cs)) :
    Delimited (readBody b depth q) (c :: cs) := by
  by_cases hslash : c = '\\'
  · subst hslash
    cases cs with
    | nil => exact .of_rest_nil (readBody_slash_rest b depth q)
    | cons d ds => exact (h d ds rfl rfl).elim
  · exact hc hslash

/-- A body is read up to the bracket that closes it, whatever stands behind. -/
theorem readBody_delimited (b : Brackets) (depth : Nat) (q : Quoting) (cs : List Char) :
    Delimited (readBody b depth q) cs := by
  fun_induction readBody b depth q cs with
  | case1 => exact .of_rest_nil rfl
  | case2 depth c cs _ _ _ ih =>
      exact ih.prepend [c] fun t => readBody_single
  | case3 depth c cs _ _ _ ih =>
      exact ih.prepend ['\\', c] fun t => readBody_double_escape
  | case4 depth c cs h _ _ _ ih =>
      refine readBody_delimited_of_not_escape h fun hslash => ?_
      exact ih.prepend [c] fun t => readBody_double hslash
  | case5 depth c cs _ _ _ ih =>
      exact ih.prepend ['\\', c] fun t => readBody_escape
  | case6 depth cs _ _ _ h ih =>
      refine readBody_delimited_of_not_escape h fun hslash => ?_
      exact ih.prepend [b.opening] fun t => readBody_opening hslash
  | case7 cs h hopen =>
      refine readBody_delimited_of_not_escape h fun hslash => ?_
      exact .stop [b.closing] fun t => readBody_closing_zero hslash hopen
  | case8 cs depth _ _ _ h hopen ih =>
      refine readBody_delimited_of_not_escape h fun hslash => ?_
      exact ih.prepend [b.closing] fun t => readBody_closing_succ hslash hopen
  | case9 depth c cs h hopen hclose _ _ _ ih =>
      refine readBody_delimited_of_not_escape h fun hslash => ?_
      exact ih.prepend [c] fun t => readBody_plain hslash hopen hclose

theorem readBackticks_delimited (cs : List Char) : Delimited readBackticks cs := by
  fun_induction readBackticks cs with
  | case1 => exact .of_rest_nil rfl
  | case2 => exact .of_rest_nil rfl
  | case3 c cs _ _ _ ih =>
      exact ih.prepend ['\\', c] (f := (c :: ·)) fun t => by simp [readBackticks]
  | case4 cs =>
      exact .stop ['\x60'] (k := []) fun t => by simp [readBackticks]
  | case5 c cs hend h hc _ _ _ ih =>
      have hslash : c ≠ '\\' := by
        rintro rfl
        cases cs with
        | nil => exact hend rfl rfl
        | cons d ds => exact h d ds rfl rfl
      exact ih.prepend [c] (f := (c :: ·)) fun t => by
        simp [readBackticks, hslash, hc]

theorem readSingleQuoted_delimited (cs : List Char) : Delimited readSingleQuoted cs := by
  have hsplit := List.takeWhile_append_dropWhile (p := (· != '\'')) (l := cs)
  cases hrest : cs.dropWhile (· != '\'') with
  | nil => exact .of_rest_nil (by simp [readSingleQuoted, hrest])
  | cons x rest =>
      have hx : x = '\'' := by
        have := List.head?_dropWhile_not (· != '\'') cs
        simpa [hrest] using this
      subst hx
      rw [hrest] at hsplit
      rw [← hsplit, List.append_cons]
      refine .stop _ (k := cs.takeWhile (· != '\'')) fun t => ?_
      rw [List.append_assoc]
      refine readSingleQuoted_append (fun hmem => ?_) t
      have := List.all_eq_true.mp (List.all_takeWhile (p := (· != '\'')) (l := cs)) _ hmem
      simp at this

/-! ## Expansions -/

/-- An expansion is read the same before another rest. -/
theorem readExpansion_replace
    {cs rest : List Char} {e : Expansion} (h : readExpansion cs = some (e, rest)) :
    ∃ text, cs = text ++ rest ∧
      ∀ next, CanReplace rest next → readExpansion (text ++ next) = some (e, next) := by
  cases cs with
  | nil => cases h
  | cons c cs =>
      rcases readExpansion_cases c with ⟨-, hread⟩ | ⟨-, hread⟩ | ⟨-, hread⟩ | ⟨hstart, hread⟩ |
        hread
      all_goals rw [hread] at h
      · obtain ⟨text, htext, hnext⟩ := (readBody_delimited parentheses 0 .bare cs).stable
        obtain ⟨rfl, rfl⟩ := Prod.mk.inj (Option.some.inj h)
        refine ⟨c :: text, by rw [List.cons_append, ← htext], fun next hreplace => ?_⟩
        rw [List.cons_append, hread, hnext next hreplace]
      · obtain ⟨text, htext, hnext⟩ := (readBody_delimited braces 0 .bare cs).stable
        obtain ⟨rfl, rfl⟩ := Prod.mk.inj (Option.some.inj h)
        refine ⟨c :: text, by rw [List.cons_append, ← htext], fun next hreplace => ?_⟩
        rw [List.cons_append, hread, hnext next hreplace]
      · obtain ⟨rfl, rfl⟩ := Prod.mk.inj (Option.some.inj h)
        exact ⟨[c], rfl, fun next _ => hread next⟩
      · obtain ⟨rfl, rfl⟩ := Prod.mk.inj (Option.some.inj h)
        refine ⟨(c :: cs).takeWhile isNameChar, List.takeWhile_append_dropWhile.symm,
          fun next hreplace => ?_⟩
        have hcons : (c :: cs).takeWhile isNameChar = c :: cs.takeWhile isNameChar := by
          simp [isNameChar, hstart]
        obtain ⟨htake, hdrop⟩ :=
          takeWhile_replace (fun d hd _ => isNameChar_of_isNeutral hd) hreplace
        rw [hcons, List.cons_append] at htake hdrop ⊢
        rw [hread, htake, hdrop]
      · cases h

/-- A `$` that opens nothing opens nothing before another rest, unless that starts with a
`$`. -/
theorem readExpansion_none_replace
    {cs next : List Char} (h : readExpansion cs = none) (hreplace : CanReplace cs next)
    (hdollar : next.head? ≠ some '$') : readExpansion next = none := by
  rw [readExpansion_eq_none_iff] at h ⊢
  intro y hy
  cases next with
  | nil => cases hy
  | cons z r =>
      cases cs with
      | nil => exact hreplace.elim
      | cons x s =>
          obtain rfl : z = y := by simpa using hy
          rcases hreplace with rfl | ⟨-, hneutral⟩
          · exact h z rfl
          · rcases isNeutral_iff.mp hneutral with rfl | rfl | rfl | rfl | rfl | rfl
            · decide
            · decide
            · exact absurd rfl hdollar
            · decide
            · decide
            · decide

/-! ## Double-quoted text -/

/-- Double-quoted text takes at least one character. -/
theorem readDoubleQuoted_rest_lt {cs : List Char} (h : cs ≠ []) :
    (readDoubleQuoted cs).2.length < cs.length := by
  fun_cases readDoubleQuoted cs with
  | case1 => exact absurd rfl h
  | case2 c cs hescape pieces rest hread =>
      have hle := readDoubleQuoted_rest_le cs
      simp only [hread, List.length_cons] at hle ⊢
      omega
  | case3 c cs hescape pieces rest hread =>
      have hle := readDoubleQuoted_rest_le (c :: cs)
      simp only [hread, List.length_cons] at hle ⊢
      omega
  | case4 cs => simp
  | case5 cs e after hexpansion hlt pieces rest hread =>
      have hle := readDoubleQuoted_rest_le after
      simp only [hread, List.length_cons] at hle ⊢
      omega
  | case6 cs hexpansion pieces rest hread =>
      have hle := readDoubleQuoted_rest_le cs
      simp only [hread, List.length_cons] at hle ⊢
      omega
  | case7 c cs _ _ _ pieces rest hread =>
      have hle := readDoubleQuoted_rest_le cs
      simp only [hread, List.length_cons] at hle ⊢
      omega

/-- Before a rest that was left something of double-quoted text was read. -/
theorem text_ne_nil_of_readDoubleQuoted
    {cs text : List Char} (h : cs = text ++ (readDoubleQuoted cs).2)
    (hne : (readDoubleQuoted cs).2 ≠ []) : text ≠ [] := by
  rintro rfl
  rw [List.nil_append] at h
  have hcs : cs ≠ [] := fun hcs => hne (h.symm.trans hcs)
  have hlt := readDoubleQuoted_rest_lt hcs
  rw [← h] at hlt
  exact Nat.lt_irrefl _ hlt

theorem readDoubleQuoted_delimited (cs : List Char) : Delimited readDoubleQuoted cs := by
  fun_induction readDoubleQuoted cs with
  | case1 => exact .of_rest_nil (by simp)
  | case2 c cs hescape _ _ _ ih =>
      exact ih.prepend ['\\', c] (f := (.char c :: ·)) fun t =>
        readDoubleQuoted_escape hescape
  | case3 c cs hescape _ _ _ ih =>
      have hescape : isQuotedEscape c = false := by simpa using hescape
      obtain ⟨text, htext, hnext⟩ := ih
      refine ⟨'\\' :: text, ?_, ?_⟩
      · rw [readDoubleQuoted_slash hescape, List.cons_append, ← htext]
      · rw [readDoubleQuoted_slash hescape]
        intro hne next
        obtain ⟨d, ds, rfl⟩ :=
          List.exists_cons_of_ne_nil (text_ne_nil_of_readDoubleQuoted htext hne)
        obtain ⟨rfl, -⟩ := List.cons.inj htext
        rw [List.cons_append, List.cons_append, readDoubleQuoted_slash hescape,
          ← List.cons_append, hnext hne]
  | case4 => exact .stop ['"'] fun t => readDoubleQuoted_close
  | case5 cs e after hexpansion _ _ _ _ _ _ ih =>
      obtain ⟨text, htext, hnext⟩ := ih
      obtain ⟨name, hname, hreplace⟩ := readExpansion_replace hexpansion
      refine ⟨'$' :: (name ++ text), ?_, ?_⟩
      · rw [readDoubleQuoted_expansion hexpansion, List.cons_append, List.append_assoc,
          ← htext, ← hname]
      · rw [readDoubleQuoted_expansion hexpansion]
        intro hne next
        have htextne := text_ne_nil_of_readDoubleQuoted htext hne
        have hrest : CanReplace after (text ++ next) := by
          rw [htext]
          exact canReplace_append htextne _ next
        rw [List.cons_append, List.append_assoc,
          readDoubleQuoted_expansion (hreplace _ hrest), hnext hne]
  | case6 cs hexpansion _ _ _ _ _ ih =>
      obtain ⟨text, htext, hnext⟩ := ih
      refine ⟨'$' :: text, ?_, ?_⟩
      · rw [readDoubleQuoted_dollar hexpansion, List.cons_append, ← htext]
      · rw [readDoubleQuoted_dollar hexpansion]
        intro hne next
        have htextne := text_ne_nil_of_readDoubleQuoted htext hne
        have hnone : readExpansion (text ++ next) = none := by
          rw [readExpansion_eq_none_iff] at hexpansion ⊢
          obtain ⟨d, ds, rfl⟩ := List.exists_cons_of_ne_nil htextne
          rw [htext] at hexpansion
          exact hexpansion
        rw [List.cons_append, readDoubleQuoted_dollar hnone, hnext hne]
  | case7 c cs h hquote hdollar _ _ _ ih =>
      by_cases hslash : c = '\\'
      · subst hslash
        cases cs with
        | nil => exact .of_rest_nil (by rw [readDoubleQuoted.eq_def]; simp)
        | cons d ds => exact (h d ds rfl rfl).elim
      · exact ih.prepend [c] (f := (.char c :: ·)) fun t =>
          readDoubleQuoted_char hslash hquote hdollar

end Command
end MetricsScript
