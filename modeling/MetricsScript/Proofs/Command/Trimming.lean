import MetricsScript.Proofs.Command.Closed
import MetricsScript.Proofs.Command.LeftOpen

/-!
# White space around a command line

White space in front of a line is a gap, so that the arguments do not change.  White space behind
a line can change nothing but its last token, and hence nothing but its last run.  The arguments
show that change exactly if the token was left open and no glob spoils its run.
-/

namespace MetricsScript
namespace Command

/-- The last argument of the line is left open at the end of the line: the token that ends there,
read from `source`, is left open, and no glob before it spoils the argument. -/
def LeavesOpen (line : String) : Prop :=
  ∃ run kind before source, line.toList = before ++ source ∧
    run ++ [⟨kind, ⟨Text.byteLength before, Text.byteLength line.toList⟩⟩] ∈
      (runs (tokens line)).getLast? ∧
    (∀ t ∈ run, t.kind.isGlob = false) ∧ kind.LeftOpen source

/-! ## The last token -/

theorem IsGap.isSeparator_of_getLast? {gap : List Char} (h : IsGap gap) :
    ∀ c ∈ gap.getLast?, isSeparator c = true := by
  have hcons : ∀ (d : Char) {cs : List Char}, isSeparator d = true →
      (∀ c ∈ cs.getLast?, isSeparator c = true) →
        ∀ c ∈ (d :: cs).getLast?, isSeparator c = true := by
    intro d cs hd hcs c hc
    cases cs with
    | nil =>
        obtain rfl := Option.some.inj hc
        exact hd
    | cons e cs =>
        rw [List.getLast?_cons_cons] at hc
        exact hcs c hc
  induction h with
  | nil =>
      intro c hc
      cases hc
  | separator hd _ ih => exact hcons _ hd ih
  | lineFeed _ ih =>
      rw [List.getLast?_cons_cons]
      exact hcons _ (by decide) ih
  | returnLineFeed _ ih =>
      rw [List.getLast?_cons_cons, List.getLast?_cons_cons]
      exact hcons _ (by decide) ih

theorem StartsToken.append_blanks
    {c : Char} {cs blanks : List Char} (h : StartsToken (c :: cs)) (hblanks : IsBlanks blanks) :
    StartsToken (c :: (cs ++ blanks)) := by
  refine h.append_of_ne (hblanks.ne_cons (by decide)) ?_
  rintro s rfl
  exact absurd (hblanks.all '\n' (by simp)) (by decide)

/-- The text `before ++ source` ends in a token that is read from `source`, with the tokens
`front` before it.  Blanks behind the text can change that last token and no other. -/
structure LastToken (pos : Nat) (glued : Bool) (front : List Token) (kind : Kind)
    (before source : List Char) : Prop where
  tokens : readTokens pos glued (before ++ source) =
    front ++ [⟨kind, ⟨pos + Text.byteLength before, pos + Text.byteLength (before ++ source)⟩⟩]
  append_blanks : ∀ blanks, IsBlanks blanks → ∃ next stop,
    readTokens pos glued (before ++ source ++ blanks) =
      front ++ [⟨next, ⟨pos + Text.byteLength before, stop⟩⟩] ∧ kind.Becomes source next

theorem LastToken.single
    {pos : Nat} {glued : Bool} {gap : List Char} {c : Char} {text : List Char} {kind : Kind}
    (hgap : IsGap gap) (hstart : StartsToken (c :: text))
    (h : readToken (glued && gap.isEmpty) c text = (kind, [])) :
    LastToken pos glued [] kind gap (c :: text) := by
  constructor
  case tokens =>
    have hwhole : StartsToken (c :: (text ++ [])) := by rwa [List.append_nil]
    have hread : readToken (glued && gap.isEmpty) c (text ++ []) = (kind, []) := by
      rwa [List.append_nil]
    have htoken := readTokens_token pos glued hgap hwhole hread
    rw [List.append_nil, readTokens_of_isGap .nil] at htoken
    rw [htoken, Text.byteLength_append, Nat.add_assoc]
    rfl
  case append_blanks =>
    intro blanks hblanks
    have hbecomes : kind.Becomes (c :: text)
        (readToken (glued && gap.isEmpty) c (text ++ blanks)).1 := by
      have := readToken_append_blanks (congrArg Prod.snd h) hblanks
      rwa [h] at this
    obtain ⟨more, hmore⟩ : (readToken (glued && gap.isEmpty) c (text ++ blanks)).2 <:+ blanks :=
      readToken_append_blanks_suffix hstart.isSeparator h
    have hstart := hstart.append_blanks hblanks
    rw [List.append_assoc, List.cons_append]
    generalize hread : readToken (glued && gap.isEmpty) c (text ++ blanks) = read
      at hbecomes hmore
    obtain ⟨next, rest⟩ := read
    simp only at hbecomes hmore
    have hrest : IsGap rest := isGap_of_forall_isLineBlank fun d hd =>
      hblanks.all d (hmore ▸ List.mem_append_right more hd)
    rw [← hmore, ← List.append_assoc] at hstart hread ⊢
    have htoken := readTokens_token pos glued hgap hstart hread
    rw [readTokens_of_isGap hrest] at htoken
    exact ⟨next, _, htoken, hbecomes⟩

/-- A token that ends before more text is the same whatever comes behind that text. -/
theorem readToken_append_of_ne_nil
    {glued : Bool} {c : Char} {text rest : List Char} {kind : Kind}
    (hseparator : isSeparator c = false)
    (h : readToken glued c (text ++ rest) = (kind, rest)) (hrest : rest ≠ [])
    (next : List Char) :
    readToken glued c (text ++ (rest ++ next)) = (kind, rest ++ next) := by
  obtain ⟨text', htext', hreplace⟩ := readToken_replace glued (text ++ rest) hseparator
  rw [h] at htext' hreplace
  obtain rfl := List.append_cancel_right htext'
  obtain ⟨x, more, rfl⟩ := List.exists_cons_of_ne_nil hrest
  exact hreplace (x :: (more ++ next)) (Or.inl rfl) fun _ hhead => hhead

theorem LastToken.cons
    {pos : Nat} {glued : Bool} {gap : List Char} {c : Char} {text : List Char} {kind : Kind}
    {front : List Token} {last : Kind} {before source : List Char}
    (hgap : IsGap gap) (hstart : StartsToken (c :: (text ++ (before ++ source))))
    (hread : readToken (glued && gap.isEmpty) c (text ++ (before ++ source)) =
      (kind, before ++ source))
    (hne : before ++ source ≠ [])
    (h : LastToken (pos + Text.byteLength gap + Text.byteLength (c :: text)) kind.isFragment
      front last before source) :
    LastToken pos glued
      (⟨kind, ⟨pos + Text.byteLength gap,
        pos + Text.byteLength gap + Text.byteLength (c :: text)⟩⟩ :: front) last
      (gap ++ c :: text ++ before) source := by
  have hassoc : ∀ more : List Char, gap ++ c :: text ++ before ++ source ++ more =
      gap ++ c :: (text ++ (before ++ source ++ more)) := by simp
  constructor
  case tokens =>
    have htoken := readTokens_token pos glued hgap hstart hread
    have hwhole := hassoc []
    rw [List.append_nil, List.append_nil] at hwhole
    rw [hwhole, htoken, h.tokens]
    simp [Nat.add_assoc]
  case append_blanks =>
    intro blanks hblanks
    obtain ⟨next, stop, hnext, hbecomes⟩ := h.append_blanks blanks hblanks
    refine ⟨next, stop, ?_, hbecomes⟩
    have hbegin := hstart.append_blanks hblanks
    rw [List.append_assoc] at hbegin
    have htoken := readTokens_token pos glued hgap hbegin
      (readToken_append_of_ne_nil hstart.isSeparator hread hne blanks)
    rw [hassoc, htoken, hnext]
    simp [Nat.add_assoc]

/-- A text that does not end in a separator ends in a token. -/
theorem Reads.exists_lastToken
    {pos : Nat} {glued : Bool} {cs : List Char} {ts : List Token}
    (h : Reads pos glued cs ts) (hne : cs ≠ [])
    (hlast : ∀ c ∈ cs.getLast?, isSeparator c = false) :
    ∃ front kind before source, cs = before ++ source ∧
      LastToken pos glued front kind before source := by
  induction h with
  | @done pos glued gap hgap =>
      have hsome : gap.getLast? = some (gap.getLast hne) := List.getLast?_eq_some_getLast hne
      have hseparator := hgap.isSeparator_of_getLast? _ hsome
      rw [hlast _ hsome] at hseparator
      cases hseparator
  | @token pos glued gap c text rest kind ts hgap hstart hread _ ih =>
      by_cases hnil : rest = []
      · subst hnil
        rw [List.append_nil] at hstart hread ⊢
        exact ⟨[], kind, gap, c :: text, rfl, .single hgap hstart hread⟩
      · have hrestlast : ∀ c ∈ rest.getLast?, isSeparator c = false := by
          intro d hd
          apply hlast
          rw [← List.cons_append, ← List.append_assoc, List.getLast?_append_of_ne_nil _ hnil]
          exact hd
        obtain ⟨front, last, before, source, rfl, htoken⟩ := ih hnil hrestlast
        exact ⟨_, last, gap ++ c :: text ++ before, source, by simp,
          htoken.cons hgap hstart hread hnil⟩

/-! ## The last run -/

theorem Token.joins_congr
    {t u : Token} (hfragment : u.kind.isFragment = t.kind.isFragment)
    (hstart : u.span.start = t.span.start) (x : Token) : x.joins u = x.joins t := by
  rw [Bool.eq_iff_iff, Token.joins_iff, Token.joins_iff, hfragment, hstart]

/-- The last token stands at the end of the last run. -/
theorem exists_last_run (front : List Token) (t : Token) :
    ∃ groups run, runs (front ++ [t]) = groups ++ [run ++ [t]] := by
  have hne : runs (front ++ [t]) ≠ [] := by simp [runs]
  obtain ⟨groups, last, hgroups⟩ :=
    (List.eq_nil_or_concat' (runs (front ++ [t]))).resolve_left hne
  have hlast : last ≠ [] := by
    refine List.ne_nil_of_mem_splitBy (r := Token.joins) (l := front ++ [t]) ?_
    change last ∈ runs (front ++ [t])
    simp [hgroups]
  obtain ⟨run, x, rfl⟩ := (List.eq_nil_or_concat' last).resolve_left hlast
  have hflatten := flatten_runs (front ++ [t])
  rw [hgroups, List.flatten_append, List.flatten_singleton, ← List.append_assoc] at hflatten
  obtain rfl : x = t := List.singleton_inj.mp (List.append_inj' hflatten rfl).2
  exact ⟨groups, run, hgroups⟩

/-- The last token may be replaced by another one that begins in the same place: the runs stay
what they are but for that token. -/
theorem runs_replace_last
    {front run : List Token} {groups : List (List Token)} {t u : Token}
    (h : runs (front ++ [t]) = groups ++ [run ++ [t]])
    (hjoins : ∀ x : Token, x.joins u = x.joins t) :
    runs (front ++ [u]) = groups ++ [run ++ [u]] := by
  obtain ⟨hflatten, hnil, hchain, hapart⟩ := List.splitBy_eq_iff.mp h
  refine List.splitBy_eq_iff.mpr ⟨?_, ?_, ?_, ?_⟩
  · rw [List.flatten_append, List.flatten_singleton, ← List.append_assoc] at hflatten ⊢
    rw [(List.append_inj' hflatten rfl).1]
  · simpa using hnil
  · intro group hgroup
    rcases List.mem_append.mp hgroup with hin | hin
    · exact hchain group (List.mem_append_left _ hin)
    · obtain rfl := List.mem_singleton.mp hin
      have hrun := hchain (run ++ [t]) (by simp)
      rw [List.isChain_append] at hrun ⊢
      simpa [hjoins] using hrun
  · rw [List.isChain_append] at hapart ⊢
    obtain ⟨hbefore, -, hbetween⟩ := hapart
    refine ⟨hbefore, List.isChain_singleton _, ?_⟩
    intro group hgroup next hnext
    obtain rfl := Option.some.inj hnext
    obtain ⟨hgroupne, hrunne, hhead⟩ := hbetween group hgroup _ rfl
    refine ⟨hgroupne, by simp, ?_⟩
    cases run with
    | nil => simpa [hjoins] using hhead
    | cons y run => exact hhead

theorem runArguments_of_glob {run : List Token} (h : ∃ t ∈ run, t.kind.isGlob = true) :
    runArguments run = [] := by
  rw [runArguments, List.any_eq_true.mpr h]
  simp

/-- Behind a run without globs a token that is none adds its text. -/
theorem runArguments_append_singleton
    {run : List Token} {t : Token} (hrun : ∀ x ∈ run, x.kind.isGlob = false)
    (ht : t.kind.isGlob = false) :
    runArguments (run ++ [t]) =
      if (run.any fun x => x.kind.isLiteral) || t.kind.isLiteral then
        [runText run ++ t.kind.literalText]
      else [] := by
  have hglob : ((run ++ [t]).any fun x => x.kind.isGlob) = false := by
    rw [List.any_eq_false]
    intro x hx
    rcases List.mem_append.mp hx with hin | hin
    · simp [hrun x hin]
    · simp [List.mem_singleton.mp hin, ht]
  rw [runArguments, hglob]
  simp

/-- The argument of the last run tells two last tokens apart exactly if the first one was left
open and no glob spoils the run. -/
theorem runArguments_becomes_iff
    {run : List Token} {t u : Token} {source : List Char} (h : t.kind.Becomes source u.kind) :
    runArguments (run ++ [t]) = runArguments (run ++ [u]) ↔
      ¬((∀ x ∈ run, x.kind.isGlob = false) ∧ t.kind.LeftOpen source) := by
  by_cases hrun : ∀ x ∈ run, x.kind.isGlob = false
  · rw [and_iff_right hrun]
    cases ht : t.kind.isGlob with
    | true =>
        have hnot : ¬t.kind.LeftOpen source := by
          intro hopen
          rw [hopen.isGlob] at ht
          cases ht
        rw [runArguments_of_glob ⟨t, by simp, ht⟩,
          runArguments_of_glob ⟨u, by simp, h.isGlob.trans ht⟩]
        exact iff_of_true rfl hnot
    | false =>
        have hu : u.kind.isGlob = false := h.isGlob.trans ht
        rw [runArguments_append_singleton hrun ht, runArguments_append_singleton hrun hu,
          h.isLiteral, ← h.literalText ht]
        cases hliteral : (run.any fun x => x.kind.isLiteral) || t.kind.isLiteral with
        | true => simp [eq_comm]
        | false =>
            have hnot : t.kind.isLiteral = false := (Bool.or_eq_false_iff.mp hliteral).2
            have htext := Kind.literalText_of_not_literal hnot ht
            have hnext := Kind.literalText_of_not_literal (h.isLiteral.trans hnot) hu
            simp [htext, hnext]
  · obtain ⟨x, hx, hglob⟩ : ∃ x ∈ run, x.kind.isGlob = true := by simpa using hrun
    have hspoiled : ∀ last : Token, runArguments (run ++ [last]) = [] := fun last =>
      runArguments_of_glob ⟨x, List.mem_append_left _ hx, hglob⟩
    rw [hspoiled, hspoiled]
    exact iff_of_true rfl fun hopen => hrun hopen.1

/-! ## The arguments -/

theorem arguments_gap_append {gap : String} (h : IsGap gap.toList) (line : String) :
    arguments (gap ++ line) = arguments line := by
  by_cases hne : gap.toList = []
  · rw [String.toList_eq_nil_iff.mp hne, String.empty_append]
  · have hshift := assemble_shift (Text.byteLength gap.toList) none (tokens line)
    rw [tokens, ← readTokens_add, Option.map_none] at hshift
    rw [arguments, tokens, String.toList_append, readTokens_gap h hne, hshift]
    rfl

theorem leavesOpen_iff
    {line : String} {groups : List (List Token)} {run : List Token} {kind : Kind}
    {before source : List Char} (hline : line.toList = before ++ source)
    (h : runs (tokens line) = groups ++
      [run ++ [⟨kind, ⟨Text.byteLength before, Text.byteLength line.toList⟩⟩]]) :
    LeavesOpen line ↔ (∀ t ∈ run, t.kind.isGlob = false) ∧ kind.LeftOpen source := by
  constructor
  · rintro ⟨run', kind', before', source', hline', hmem, hrun, hopen⟩
    rw [h, List.getLast?_concat] at hmem
    obtain ⟨rfl, hlast⟩ := List.append_inj' (Option.some.inj hmem) rfl
    simp only [List.cons.injEq, Token.mk.injEq, Span.mk.injEq, and_true] at hlast
    obtain ⟨rfl, hwidth⟩ := hlast
    have hsource := (append_inj_of_byteLength_eq (hline.symm.trans hline') hwidth).2
    exact ⟨hrun, hsource ▸ hopen⟩
  · rintro ⟨hrun, hopen⟩
    exact ⟨run, kind, before, source, hline, by simp [h], hrun, hopen⟩

/-- White space behind a line that does not end in a separator leaves its arguments as they are,
unless the line leaves its last argument open. -/
theorem arguments_append_blanks_iff
    {line blanks : String} (hne : line.toList ≠ [])
    (hlast : ∀ c ∈ line.toList.getLast?, isSeparator c = false)
    (hblanks : IsBlanks blanks.toList) :
    arguments (line ++ blanks) = arguments line ↔ ¬LeavesOpen line := by
  obtain ⟨front, kind, before, source, hline, htoken⟩ :=
    (reads_readTokens 0 false line.toList).exists_lastToken hne hlast
  have hread := htoken.tokens
  obtain ⟨next, stop, hreadnext, hbecomes⟩ := htoken.append_blanks blanks.toList hblanks
  rw [← hline, Nat.zero_add, Nat.zero_add] at hread
  rw [← hline, Nat.zero_add, ← String.toList_append] at hreadnext
  let t : Token := ⟨kind, ⟨Text.byteLength before, Text.byteLength line.toList⟩⟩
  let u : Token := ⟨next, ⟨Text.byteLength before, stop⟩⟩
  have hjoins : ∀ x : Token, x.joins u = x.joins t := Token.joins_congr hbecomes.isFragment rfl
  obtain ⟨groups, run, hrun⟩ := exists_last_run front t
  have hnextrun := runs_replace_last hrun hjoins
  have hruns : runs (tokens line) = groups ++ [run ++ [t]] := by rw [tokens, hread, hrun]
  have hnextruns : runs (tokens (line ++ blanks)) = groups ++ [run ++ [u]] := by
    rw [tokens, hreadnext, hnextrun]
  have hargument : runArguments (run ++ [t]) = runArguments (run ++ [u]) ↔ ¬LeavesOpen line := by
    rw [leavesOpen_iff hline hruns]
    exact runArguments_becomes_iff hbecomes
  rw [arguments_eq_flatMap_runs, arguments_eq_flatMap_runs, hruns, hnextruns, ← hargument]
  simp [eq_comm]

end Command
end MetricsScript
