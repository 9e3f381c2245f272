import MetricsScript.Command.Body

/-!
# Complete bodies

A body is complete if its brackets match outside quotes and escapes and if no quote and no
backslash is left open at its end.  `Balanced` says so as a grammar.  The reader of bodies
takes a complete body as it stands, at any depth, and so stops at the bracket behind it.
-/

namespace MetricsScript
namespace Command

/-- Brackets that are told apart from each other, from quotes and from the backslash. -/
structure Brackets.Proper (b : Brackets) : Prop where
  opening_ne_slash : b.opening ≠ '\\'
  closing_ne_slash : b.closing ≠ '\\'
  closing_ne_opening : b.closing ≠ b.opening
  single_ne_opening : '\'' ≠ b.opening
  single_ne_closing : '\'' ≠ b.closing
  double_ne_opening : '"' ≠ b.opening
  double_ne_closing : '"' ≠ b.closing

theorem parentheses_proper : parentheses.Proper := by
  constructor <;> decide

theorem braces_proper : braces.Proper := by
  constructor <;> decide

/-- The text that can stand between double quotes: a backslash takes the next character. -/
inductive DoubleQuotable : List Char → Prop
  | nil : DoubleQuotable []
  | escaped {c : Char} {cs : List Char} : DoubleQuotable cs → DoubleQuotable ('\\' :: c :: cs)
  | plain {c : Char} {cs : List Char} :
      c ≠ '\\' → c ≠ '"' → DoubleQuotable cs → DoubleQuotable (c :: cs)

/-- The complete bodies between a pair of brackets. -/
inductive Balanced (b : Brackets) : List Char → Prop
  | nil : Balanced b []
  | plain {c : Char} {cs : List Char} :
      c ≠ '\\' → c ≠ '\'' → c ≠ '"' → c ≠ b.opening → c ≠ b.closing → Balanced b cs →
        Balanced b (c :: cs)
  | escaped {c : Char} {cs : List Char} : Balanced b cs → Balanced b ('\\' :: c :: cs)
  | singleQuoted {text cs : List Char} :
      '\'' ∉ text → Balanced b cs → Balanced b ('\'' :: (text ++ '\'' :: cs))
  | doubleQuoted {text cs : List Char} :
      DoubleQuotable text → Balanced b cs → Balanced b ('"' :: (text ++ '"' :: cs))
  | nested {inner cs : List Char} :
      Balanced b inner → Balanced b cs → Balanced b (b.opening :: (inner ++ b.closing :: cs))

variable {b : Brackets} {depth : Nat} {c : Char} {cs : List Char}

/-! ## One character of a body -/

/-- What has been read of a body, with more in front of it. -/
def prependBody (front : List Char) (read : List Char × List Char) : List Char × List Char :=
  (front ++ read.1, read.2)

@[simp]
theorem prependBody_nil (read : List Char × List Char) : prependBody [] read = read := rfl

@[simp]
theorem prependBody_prependBody (front more : List Char) (read : List Char × List Char) :
    prependBody front (prependBody more read) = prependBody (front ++ more) read := by
  simp [prependBody]

section

attribute [local simp] readBody

theorem readBody_single :
    readBody b depth .single (c :: cs) =
      prependBody [c] (readBody b depth (if c = '\'' then .bare else .single) cs) := by
  simp [prependBody]

theorem readBody_double_escape :
    readBody b depth .double ('\\' :: c :: cs) =
      prependBody ['\\', c] (readBody b depth .double cs) := by
  simp [prependBody]

theorem readBody_double (h : c ≠ '\\') :
    readBody b depth .double (c :: cs) =
      prependBody [c] (readBody b depth (if c = '"' then .bare else .double) cs) := by
  simp [prependBody, h]

theorem readBody_escape :
    readBody b depth .bare ('\\' :: c :: cs) =
      prependBody ['\\', c] (readBody b depth .bare cs) := by
  simp [prependBody]

theorem readBody_opening (h : b.opening ≠ '\\') :
    readBody b depth .bare (b.opening :: cs) =
      prependBody [b.opening] (readBody b (depth + 1) .bare cs) := by
  cases depth <;> simp [prependBody, h]

theorem readBody_closing_zero (h : b.closing ≠ '\\') (hopen : b.closing ≠ b.opening) :
    readBody b 0 .bare (b.closing :: cs) = ([], cs) := by
  simp [readBody, h, hopen]

theorem readBody_closing_succ (h : b.closing ≠ '\\') (hopen : b.closing ≠ b.opening) :
    readBody b (depth + 1) .bare (b.closing :: cs) =
      prependBody [b.closing] (readBody b depth .bare cs) := by
  simp [prependBody, h, hopen]

theorem readBody_plain (h : c ≠ '\\') (hopen : c ≠ b.opening) (hclose : c ≠ b.closing) :
    readBody b depth .bare (c :: cs) =
      prependBody [c] (readBody b depth (.afterBare c) cs) := by
  cases depth <;> simp [prependBody, h, hopen, hclose]

end

/-! ## Complete bodies -/

/-- Single quotes are read up to the one that closes them. -/
theorem readBody_singleQuoted {text : List Char} (h : '\'' ∉ text) (rest : List Char) :
    readBody b depth .single (text ++ '\'' :: rest) =
      prependBody (text ++ ['\'']) (readBody b depth .bare rest) := by
  induction text with
  | nil => simp [readBody_single]
  | cons c text ih =>
      have hc : c ≠ '\'' := fun hc => h (by simp [hc])
      have htext : '\'' ∉ text := fun htext => h (List.mem_cons_of_mem c htext)
      rw [List.cons_append, readBody_single, if_neg hc, ih htext, prependBody_prependBody]
      rfl

/-- Double quotes are read up to the one that closes them. -/
theorem DoubleQuotable.readBody {text : List Char} (h : DoubleQuotable text)
    (rest : List Char) :
    readBody b depth .double (text ++ '"' :: rest) =
      prependBody (text ++ ['"']) (Command.readBody b depth .bare rest) := by
  induction h with
  | nil => simp [readBody_double]
  | escaped htext ih =>
      rw [List.cons_append, List.cons_append, readBody_double_escape, ih,
        prependBody_prependBody]
      rfl
  | plain hslash hquote htext ih =>
      rw [List.cons_append, readBody_double hslash, if_neg hquote, ih,
        prependBody_prependBody]
      rfl

/-- A complete body is read as it stands, and reading goes on behind it at the same depth. -/
theorem Balanced.readBody (hb : b.Proper) {body : List Char} (h : Balanced b body)
    (rest : List Char) :
    readBody b depth .bare (body ++ rest) =
      prependBody body (Command.readBody b depth .bare rest) := by
  induction h generalizing depth rest with
  | nil => simp
  | plain hslash hsingle hdouble hopen hclose hcs ih =>
      rw [List.cons_append, readBody_plain hslash hopen hclose, Quoting.afterBare,
        if_neg hsingle, if_neg hdouble, ih, prependBody_prependBody]
      rfl
  | escaped hcs ih =>
      rw [List.cons_append, List.cons_append, readBody_escape, ih, prependBody_prependBody]
      rfl
  | singleQuoted htext hcs ih =>
      rw [List.cons_append, List.append_assoc, List.cons_append,
        readBody_plain (by decide) hb.single_ne_opening hb.single_ne_closing,
        Quoting.afterBare, if_pos rfl, readBody_singleQuoted htext, ih]
      simp
  | doubleQuoted htext hcs ih =>
      rw [List.cons_append, List.append_assoc, List.cons_append,
        readBody_plain (by decide) hb.double_ne_opening hb.double_ne_closing,
        Quoting.afterBare, if_neg (by decide), if_pos rfl, htext.readBody, ih]
      simp
  | nested hinner hcs ihinner ihcs =>
      rw [List.cons_append, List.append_assoc, List.cons_append,
        readBody_opening hb.opening_ne_slash, ihinner,
        readBody_closing_succ hb.closing_ne_slash hb.closing_ne_opening, ihcs]
      simp

/-- A complete body ends at the closing bracket behind it. -/
theorem Balanced.readBody_closing (hb : b.Proper) {body : List Char} (h : Balanced b body)
    (rest : List Char) :
    Command.readBody b 0 .bare (body ++ b.closing :: rest) = (body, rest) := by
  rw [h.readBody hb, readBody_closing_zero hb.closing_ne_slash hb.closing_ne_opening]
  simp [prependBody]

/-! ## The bracket that ends a body -/

/-- What was read ends in a closing bracket, or nothing is left. -/
def ClosedOrWhole (b : Brackets) (text : List Char) (read : List Char × List Char) : Prop :=
  text = read.1 ++ b.closing :: read.2 ∨ read = (text, [])

theorem ClosedOrWhole.prepend
    {text : List Char} {read : List Char × List Char} (h : ClosedOrWhole b text read)
    (front : List Char) :
    ClosedOrWhole b (front ++ text) (front ++ read.1, read.2) := by
  rcases h with htext | hread
  · left
    rw [List.append_assoc, ← htext]
  · right
    rw [hread]

theorem closedOrWhole_readBody (b : Brackets) (depth : Nat) (q : Quoting) (text : List Char) :
    ClosedOrWhole b text (readBody b depth q text) := by
  fun_induction readBody b depth q text with
  | case1 => exact Or.inr rfl
  | case2 depth c cs body rest hread ih =>
      rw [hread] at ih
      exact ih.prepend [c]
  | case3 depth c cs body rest hread ih =>
      rw [hread] at ih
      exact ih.prepend ['\\', c]
  | case4 depth c cs _ body rest hread ih =>
      rw [hread] at ih
      exact ih.prepend [c]
  | case5 depth c cs body rest hread ih =>
      rw [hread] at ih
      exact ih.prepend ['\\', c]
  | case6 depth cs body rest hread _ ih =>
      rw [hread] at ih
      exact ih.prepend [b.opening]
  | case7 cs => exact Or.inl rfl
  | case8 cs depth body rest hread _ _ ih =>
      rw [hread] at ih
      exact ih.prepend [b.closing]
  | case9 depth c cs _ _ _ body rest hread ih =>
      rw [hread] at ih
      exact ih.prepend [c]

/-! ## What the reader takes as complete -/

/-- The text that closes `depth` brackets, with a complete body before each closing one and
another behind the last. -/
def BalancedInside (b : Brackets) : Nat → List Char → Prop
  | 0, body => Balanced b body
  | depth + 1, body =>
      ∃ inner rest, body = inner ++ b.closing :: rest ∧ Balanced b inner ∧
        BalancedInside b depth rest

/-- The same for a text that begins in quotes. -/
def BalancedFrom (b : Brackets) (depth : Nat) : Quoting → List Char → Prop
  | .bare, body => BalancedInside b depth body
  | .single, body =>
      ∃ text rest, body = text ++ '\'' :: rest ∧ '\'' ∉ text ∧ BalancedInside b depth rest
  | .double, body =>
      ∃ text rest, body = text ++ '"' :: rest ∧ DoubleQuotable text ∧
        BalancedInside b depth rest

/-- What can stand in front of a complete body can stand in front of the first one. -/
theorem BalancedInside.prepend
    (front : List Char) (hfront : ∀ body, Balanced b body → Balanced b (front ++ body))
    {body : List Char} (h : BalancedInside b depth body) :
    BalancedInside b depth (front ++ body) := by
  cases depth with
  | zero => exact hfront body h
  | succ depth =>
      obtain ⟨inner, rest, rfl, hinner, hrest⟩ := h
      exact ⟨front ++ inner, rest, by simp, hfront inner hinner, hrest⟩

/-- A character outside quotes that neither escapes nor is a bracket. -/
theorem BalancedFrom.plain
    {body : List Char} (hslash : c ≠ '\\') (hopen : c ≠ b.opening) (hclose : c ≠ b.closing)
    (h : BalancedFrom b depth (.afterBare c) body) : BalancedFrom b depth .bare (c :: body) := by
  by_cases hsingle : c = '\''
  · subst hsingle
    obtain ⟨text, rest, rfl, htext, hrest⟩ := h
    have hquoted := hrest.prepend ('\'' :: (text ++ ['\'']))
      fun body hbody => by simpa using Balanced.singleQuoted htext hbody
    simpa [BalancedFrom] using hquoted
  by_cases hdouble : c = '"'
  · subst hdouble
    obtain ⟨text, rest, rfl, htext, hrest⟩ := h
    have hquoted := hrest.prepend ('"' :: (text ++ ['"']))
      fun body hbody => by simpa using Balanced.doubleQuoted htext hbody
    simpa [BalancedFrom] using hquoted
  · rw [Quoting.afterBare, if_neg hsingle, if_neg hdouble] at h
    exact BalancedInside.prepend [c]
      (fun body hbody => .plain hslash hsingle hdouble hopen hclose hbody) h

/-- What the reader takes up to the closing bracket is complete. -/
theorem balancedFrom_readBody (b : Brackets) (depth : Nat) (q : Quoting) (cs : List Char)
    (h : cs = (readBody b depth q cs).1 ++ b.closing :: (readBody b depth q cs).2) :
    BalancedFrom b depth q (readBody b depth q cs).1 := by
  -- A text before a closing bracket is not empty, so no backslash ends it.
  have hslash : ∀ {c : Char} {body rest cs : List Char},
      (∀ d ds, c = '\\' → cs = d :: ds → False) → cs = body ++ b.closing :: rest → c ≠ '\\' := by
    rintro c body rest cs hnot hcs rfl
    cases body with
    | nil => exact hnot _ _ rfl hcs
    | cons d ds => exact hnot _ _ rfl hcs
  fun_induction readBody b depth q cs with
  | case1 => cases h
  | case2 depth c cs body rest hread ih =>
      have hcs := (List.cons.inj h).2
      rw [hread] at ih
      have hbody := ih hcs
      by_cases hquote : c = '\''
      · subst hquote
        exact ⟨[], body, rfl, List.not_mem_nil, hbody⟩
      · rw [if_neg hquote] at hbody
        obtain ⟨text, after, rfl, htext, hafter⟩ := hbody
        refine ⟨c :: text, after, rfl, ?_, hafter⟩
        simp [htext, Ne.symm hquote]
  | case3 depth c cs body rest hread ih =>
      rw [hread] at ih
      obtain ⟨text, after, rfl, htext, hafter⟩ :=
        ih (List.cons.inj (List.cons.inj h).2).2
      exact ⟨'\\' :: c :: text, after, rfl, .escaped htext, hafter⟩
  | case4 depth c cs hnot body rest hread ih =>
      have hcs := (List.cons.inj h).2
      rw [hread] at ih
      have hbody := ih hcs
      by_cases hquote : c = '"'
      · subst hquote
        exact ⟨[], body, rfl, .nil, hbody⟩
      · rw [if_neg hquote] at hbody
        obtain ⟨text, after, rfl, htext, hafter⟩ := hbody
        exact ⟨c :: text, after, rfl, .plain (hslash hnot hcs) hquote htext, hafter⟩
  | case5 depth c cs body rest hread ih =>
      rw [hread] at ih
      exact BalancedInside.prepend ['\\', c] (fun body hbody => .escaped hbody)
        (ih (List.cons.inj (List.cons.inj h).2).2)
  | case6 depth cs body rest hread hnot ih =>
      rw [hread] at ih
      obtain ⟨inner, after, rfl, hinner, hafter⟩ := ih (List.cons.inj h).2
      have hnested := hafter.prepend (b.opening :: (inner ++ [b.closing]))
        fun body hbody => by simpa using Balanced.nested hinner hbody
      simpa [BalancedFrom] using hnested
  | case7 cs hnot hopen => exact Balanced.nil
  | case8 cs outer body rest hread hnot hopen ih =>
      rw [hread] at ih
      exact ⟨[], body, rfl, .nil, ih (List.cons.inj h).2⟩
  | case9 depth c cs hnot hopen hclose body rest hread ih =>
      have hcs := (List.cons.inj h).2
      rw [hread] at ih
      exact (ih hcs).plain (hslash hnot hcs) hopen hclose

/-- The complete bodies are those that the reader takes up to the bracket behind them. -/
theorem balanced_iff (hb : b.Proper) {body : List Char} :
    Balanced b body ↔ readBody b 0 .bare (body ++ [b.closing]) = (body, []) := by
  constructor
  · intro h
    exact h.readBody_closing hb []
  · intro h
    have hbody := balancedFrom_readBody b 0 .bare (body ++ [b.closing]) (by rw [h])
    rw [h] at hbody
    exact hbody

end Command
end MetricsScript
