import MetricsScript.Proofs.Command.Assembly
import MetricsScript.Proofs.Command.Quotes

/-!
# Written arguments

An argument can be written in pieces: plain text, escaped characters, and text in single or in
double quotes, in any order.  Unquoted pieces beside each other are read as one word, and each
quoted piece as a fragment of its own.  All of them touch, so that they make up the argument
again.  Hence any list of strings can be written as a command line, and comes back from it.
-/

namespace MetricsScript
namespace Command

/-- A part of an argument, by the way in which it is written. -/
inductive Piece where
  | plain (text : List Char)
  | escaped (c : Char)
  | singleQuoted (text : List Char)
  | doubleQuoted (text : List Char)
deriving DecidableEq, Repr

/-- The text that the piece stands for. -/
def Piece.text : Piece → List Char
  | .escaped c => [c]
  | .plain text | .singleQuoted text | .doubleQuoted text => text

/-- The piece as it is written. -/
def Piece.written : Piece → List Char
  | .plain text => text
  | .escaped c => ['\\', c]
  | .singleQuoted text => '\'' :: (text ++ ['\''])
  | .doubleQuoted text => '"' :: (escapeQuoted text ++ ['"'])

/-- The piece can be written in its way. -/
def Piece.Valid : Piece → Prop
  | .plain text =>
      text ≠ [] ∧ ∀ c ∈ text, isWordBoundary c = false ∧ c ≠ '\\' ∧ isGlobChar c = false
  | .escaped c => c ≠ '\r' ∧ c ≠ '\n'
  | .singleQuoted text => '\'' ∉ text
  | .doubleQuoted _ => True

instance : DecidablePred Piece.Valid
  | .plain _ => @instDecidableAnd _ _ _ (List.decidableBAll _ _)
  | .escaped c => inferInstanceAs (Decidable (c ≠ '\r' ∧ c ≠ '\n'))
  | .singleQuoted text => inferInstanceAs (Decidable ('\'' ∉ text))
  | .doubleQuoted _ => inferInstanceAs (Decidable True)

/-- Whether the piece is written with quotes. -/
def Piece.isQuoted : Piece → Bool
  | .plain _ | .escaped _ => false
  | .singleQuoted _ | .doubleQuoted _ => true

/-- The piece would begin a comment. -/
def Piece.OpensComment (p : Piece) : Prop :=
  ∃ text, p = .plain ('#' :: text)

/-- The pieces are one way of writing the argument. -/
structure Spells (pieces : List Piece) (argument : String) : Prop where
  ne_nil : pieces ≠ []
  text : pieces.flatMap Piece.text = argument.toList
  valid : ∀ p ∈ pieces, p.Valid
  no_comment : ∀ p ∈ pieces.head?, ¬p.OpensComment

/-- The line is one way of writing the arguments, in order and with blanks between them. -/
inductive Renders : List String → List Char → Prop
  | nil : Renders [] []
  | single {pieces : List Piece} {argument : String} :
      Spells pieces argument → Renders [argument] (pieces.flatMap Piece.written)
  | cons {pieces : List Piece} {argument next : String} {line : List Char}
      {arguments : List String} (gap : List Char) :
      Spells pieces argument → gap ≠ [] → (∀ c ∈ gap, isSeparator c = true) →
        Renders (next :: arguments) line →
        Renders (argument :: next :: arguments)
          (pieces.flatMap Piece.written ++ (gap ++ line))

/-! ## A word of unquoted pieces -/

/-- An unquoted piece goes on with the word behind it. -/
theorem readWord_piece
    {p : Piece} (h : p.Valid) (hquoted : p.isQuoted = false) {text cs rest : List Char}
    (hread : readWord cs = (⟨text, false⟩, rest)) :
    readWord (p.written ++ cs) = (⟨p.text ++ text, false⟩, rest) := by
  cases p with
  | plain front =>
      obtain ⟨-, hchars⟩ := h
      clear hquoted
      simp only [Piece.written, Piece.text]
      induction front with
      | nil => exact hread
      | cons c front ih =>
          obtain ⟨hboundary, hslash, hglob⟩ := hchars c List.mem_cons_self
          rw [List.cons_append, readWord_plain hslash hboundary,
            ih fun d hd => hchars d (List.mem_cons_of_mem c hd)]
          simp [Word.consPlain, hglob]
  | escaped c =>
      obtain ⟨hreturn, hfeed⟩ := h
      rw [Piece.written, List.cons_append, List.cons_append, List.nil_append,
        readWord_escape hfeed fun _ hc => absurd hc hreturn, hread]
      rfl
  | singleQuoted _ => cases hquoted
  | doubleQuoted _ => cases hquoted

/-- The unquoted pieces at the front are read as one word.  No redirection comes behind it. -/
theorem readWord_pieces
    {rest : List Char} (hrest : ∀ c ∈ rest.head?, isSeparator c = true)
    (pieces : List Piece) (h : ∀ p ∈ pieces, p.Valid) :
    ∃ front back, pieces = front ++ back ∧
      (∀ c ∈ (back.flatMap Piece.written ++ rest).head?, c ≠ '<' ∧ c ≠ '>') ∧
      readWord (pieces.flatMap Piece.written ++ rest) =
        (⟨front.flatMap Piece.text, false⟩, back.flatMap Piece.written ++ rest) := by
  induction pieces with
  | nil =>
      refine ⟨[], [], rfl, fun c hc => ?_, readWord_of_isWordBoundary fun c hc => ?_⟩
      · have hseparator := hrest c hc
        constructor <;> (rintro rfl; exact absurd hseparator (by decide))
      · exact isWordBoundary_iff.mpr (Or.inl (hrest c hc))
  | cons p pieces ih =>
      have hvalid := h p List.mem_cons_self
      cases hquoted : p.isQuoted with
      | false =>
          obtain ⟨front, back, rfl, hback, hread⟩ :=
            ih fun q hq => h q (List.mem_cons_of_mem p hq)
          refine ⟨p :: front, back, rfl, hback, ?_⟩
          rw [List.flatMap_cons, List.append_assoc, readWord_piece hvalid hquoted hread]
          rfl
      | true =>
          have hhead : ∀ c ∈ ((p :: pieces).flatMap Piece.written ++ rest).head?,
              c = '\'' ∨ c = '"' := by
            intro c hc
            cases p with
            | plain _ => cases hquoted
            | escaped _ => cases hquoted
            | singleQuoted _ => exact Or.inl (Option.some.inj hc).symm
            | doubleQuoted _ => exact Or.inr (Option.some.inj hc).symm
          refine ⟨[], p :: pieces, rfl, fun c hc => ?_,
            readWord_of_isWordBoundary fun c hc => ?_⟩
          · rcases hhead c hc with rfl | rfl <;> decide
          · rcases hhead c hc with rfl | rfl <;> decide

/-! ## The first fragment of some pieces -/

/-- The fragment is literal text, and nothing of it is lost. -/
structure Fragment.Spells (f : Fragment) (text : List Char) : Prop where
  isLiteral : f.isLiteral = true
  isGlob : f.isGlob = false
  literalText : f.literalText = String.ofList text
  discarded : (Kind.fragment f).discarded = []

theorem Fragment.spells_word (text : List Char) :
    (Fragment.word (String.ofList text)).Spells text :=
  ⟨rfl, rfl, rfl, rfl⟩

theorem Fragment.spells_singleQuoted (text : List Char) :
    (Fragment.singleQuoted (String.ofList text)).Spells text :=
  ⟨rfl, rfl, rfl, rfl⟩

theorem isLiteral_of_mem_joinPieces
    {text : List Char} {part : QuotedPart} (h : part ∈ joinPieces (text.map .char)) :
    part.isLiteral = true := by
  induction text generalizing part with
  | nil => cases h
  | cons c text ih =>
      rw [List.map_cons, joinPieces] at h
      unfold consLiteral at h
      split at h
      · next hparts =>
          rcases List.mem_cons.mp h with rfl | hpart
          · rfl
          · exact ih (by rw [hparts]; exact List.mem_cons_of_mem _ hpart)
      · rcases List.mem_cons.mp h with rfl | hpart
        · rfl
        · exact ih hpart

theorem Fragment.spells_doubleQuoted (text : List Char) :
    (Fragment.doubleQuoted (QuotedPart.ofPieces (text.map .char))).Spells text where
  isLiteral := rfl
  isGlob := rfl
  literalText := by
    rw [literalText_doubleQuoted, flatMap_literal_map_char]
  discarded := by
    have hliteral : ∀ part ∈ QuotedPart.ofPieces (text.map .char), part.isLiteral = true := by
      intro part hpart
      unfold QuotedPart.ofPieces at hpart
      split at hpart
      · obtain rfl := List.mem_singleton.mp hpart
        rfl
      · exact isLiteral_of_mem_joinPieces hpart
    simpa [Kind.discarded] using hliteral

/-- The first character of an unquoted piece starts a plain token. -/
theorem Piece.Valid.exists_first
    {p : Piece} (h : p.Valid) (hquoted : p.isQuoted = false) :
    ∃ c cs, p.written = c :: cs ∧ opensForm c = false ∧ (c = '#' → p.OpensComment) ∧
      ∀ rest, StartsToken (c :: (cs ++ rest)) := by
  cases p with
  | plain text =>
      obtain ⟨hne, hchars⟩ := h
      cases text with
      | nil => exact absurd rfl hne
      | cons c text =>
          obtain ⟨hboundary, hslash, -⟩ := hchars c List.mem_cons_self
          obtain ⟨hseparator, hform⟩ := isWordBoundary_eq_false_iff.mp hboundary
          refine ⟨c, text, rfl, hform, ?_, fun rest => ?_⟩
          · rintro rfl
            exact ⟨text, rfl⟩
          · exact startsToken_of_not_separator hseparator hslash
  | escaped c =>
      obtain ⟨hreturn, hfeed⟩ := h
      refine ⟨'\\', [c], rfl, by decide, fun hc => absurd hc (by decide), fun rest => ?_⟩
      rw [startsToken_cons_iff]
      rintro (hc | ⟨-, r, hr | hr⟩)
      · exact absurd hc (by decide)
      · exact hfeed (List.cons.inj hr).1
      · exact hreturn (List.cons.inj hr).1
  | singleQuoted _ => cases hquoted
  | doubleQuoted _ => cases hquoted

/-- The first fragment of some pieces: a word of all the unquoted ones, or a quoted one. -/
theorem readToken_pieces
    {rest : List Char} (hrest : ∀ c ∈ rest.head?, isSeparator c = true)
    (glued : Bool) {p : Piece} {pieces : List Piece} (h : ∀ q ∈ p :: pieces, q.Valid)
    (hcomment : glued = false → ¬p.OpensComment) :
    ∃ front back f c cs, pieces = front ++ back ∧
      (p :: front).flatMap Piece.written = c :: cs ∧
      f.Spells ((p :: front).flatMap Piece.text) ∧
      StartsToken (c :: (cs ++ (back.flatMap Piece.written ++ rest))) ∧
      readToken glued c (cs ++ (back.flatMap Piece.written ++ rest)) =
        (.fragment f, back.flatMap Piece.written ++ rest) := by
  have hvalid := h p List.mem_cons_self
  cases hquoted : p.isQuoted with
  | false =>
      obtain ⟨front, back, rfl, hback, hread⟩ :=
        readWord_pieces hrest pieces fun q hq => h q (List.mem_cons_of_mem p hq)
      obtain ⟨c, cs, hwritten, hform, hsharp, hstart⟩ := hvalid.exists_first hquoted
      have hword := readWord_piece hvalid hquoted hread
      rw [hwritten, List.flatMap_append, List.cons_append, List.append_assoc] at hword
      refine ⟨front, back, .word (String.ofList ((p :: front).flatMap Piece.text)), c,
        cs ++ front.flatMap Piece.written, rfl, ?_, Fragment.spells_word _, ?_, ?_⟩
      · rw [List.flatMap_cons, hwritten, List.cons_append]
      · rw [List.append_assoc]
        exact hstart _
      · have hplain : c = '#' → glued = true := fun hc => by
          cases glued with
          | false => exact absurd (hsharp hc) (hcomment rfl)
          | true => rfl
        rw [List.append_assoc, readToken_plain hform hplain, readPlain_word hword]
        · rfl
        · refine Or.inr ⟨fun r hr => ?_, fun r hr => ?_⟩
          · exact (hback '>' (by rw [hr]; rfl)).2 rfl
          · exact (hback '<' (by rw [hr]; rfl)).1 rfl
  | true =>
      cases p with
      | plain _ => cases hquoted
      | escaped _ => cases hquoted
      | singleQuoted text =>
          refine ⟨[], pieces, .singleQuoted (String.ofList text), '\'', text ++ ['\''], rfl,
            by simp [Piece.written],
            by simpa [Piece.text] using Fragment.spells_singleQuoted text,
            startsToken_of_not_separator (by decide) (by decide), ?_⟩
          have hread := readSingleQuoted_append hvalid (pieces.flatMap Piece.written ++ rest)
          rw [List.append_assoc, List.singleton_append]
          simp [readToken, hread]
      | doubleQuoted text =>
          refine ⟨[], pieces, .doubleQuoted (QuotedPart.ofPieces (text.map .char)), '"',
            escapeQuoted text ++ ['"'], rfl, by simp [Piece.written],
            by simpa [Piece.text] using Fragment.spells_doubleQuoted text,
            startsToken_of_not_separator (by decide) (by decide), ?_⟩
          have hread :=
            readDoubleQuoted_escapeQuoted text ('"' :: (pieces.flatMap Piece.written ++ rest))
          rw [readDoubleQuoted_close, List.append_nil] at hread
          rw [List.append_assoc, List.singleton_append]
          simp [readToken, hread]

/-! ## The fragments of an argument -/

/-- Literal fragments that touch, from one offset to another, and their text. -/
inductive LiteralRun : Nat → List Char → Nat → List Token → Prop
  | nil {pos : Nat} : LiteralRun pos [] pos []
  | cons {pos stop last : Nat} {text more : List Char} {f : Fragment} {ts : List Token} :
      f.Spells text → LiteralRun stop more last ts →
        LiteralRun pos (text ++ more) last (⟨.fragment f, ⟨pos, stop⟩⟩ :: ts)

/-- Pieces are read as fragments that touch and that spell their text. -/
theorem readTokens_pieces
    {rest : List Char} (hrest : ∀ c ∈ rest.head?, isSeparator c = true)
    (pieces : List Piece) (h : ∀ p ∈ pieces, p.Valid) (pos : Nat) (glued : Bool)
    (hcomment : glued = false → pieces ≠ [] ∧ ∀ p ∈ pieces.head?, ¬p.OpensComment) :
    ∃ stop ts, LiteralRun pos (pieces.flatMap Piece.text) stop ts ∧
      (pieces ≠ [] → ts ≠ []) ∧
      readTokens pos glued (pieces.flatMap Piece.written ++ rest) =
        ts ++ readTokens stop true rest := by
  -- The first fragment may take several pieces, so the induction is on their number.
  induction hlength : pieces.length using Nat.strongRecOn generalizing pieces pos glued with
  | _ n ih =>
  subst hlength
  cases pieces with
  | nil =>
      cases glued with
      | false => exact absurd rfl (hcomment rfl).1
      | true => exact ⟨pos, [], .nil, fun hne => absurd rfl hne, rfl⟩
  | cons p pieces =>
      obtain ⟨front, back, f, c, cs, rfl, hwritten, hf, hstart, hread⟩ :=
        readToken_pieces hrest glued h fun hglued => (hcomment hglued).2 p rfl
      have hback : ∀ q ∈ back, q.Valid := fun q hq =>
        h q (List.mem_cons_of_mem p (List.mem_append_right front hq))
      obtain ⟨stop, ts, hrun, -, hts⟩ := ih back.length
        (by simp only [List.length_cons, List.length_append]; omega) back hback
        (pos + Text.byteLength (c :: cs)) true (fun hglued => by cases hglued) rfl
      refine ⟨stop, ⟨.fragment f, ⟨pos, pos + Text.byteLength (c :: cs)⟩⟩ :: ts, ?_,
        fun _ => List.cons_ne_nil _ _, ?_⟩
      · rw [← List.cons_append, List.flatMap_append]
        exact .cons hf hrun
      · have htoken := readTokens_token pos glued .nil hstart
          (by simpa using hread)
        rw [← List.cons_append, List.flatMap_append, hwritten, List.append_assoc,
          List.cons_append]
        rw [List.nil_append] at htoken
        rw [htoken]
        simpa [Kind.isFragment] using hts

/-- Fragments that touch the argument under construction go on with it. -/
theorem LiteralRun.assemble_some
    {pos stop : Nat} {text : List Char} {ts : List Token} (h : LiteralRun pos text stop ts)
    (front : List Char) (more : List Token) :
    assemble (some ⟨String.ofList front, true, false, pos⟩) (ts ++ more) =
      assemble (some ⟨String.ofList (front ++ text), true, false, stop⟩) more := by
  induction h generalizing front with
  | nil => rw [List.append_nil, List.nil_append]
  | @cons pos stop last text rest f ts hf _ ih =>
      have hadd : (⟨String.ofList front, true, false, pos⟩ : Pending).add f stop =
          ⟨String.ofList (front ++ text), true, false, stop⟩ := by
        simp [Pending.add, hf.isGlob, hf.literalText]
      have htouch := assemble_touching ⟨String.ofList front, true, false, pos⟩ f stop (ts ++ more)
      rw [List.cons_append, htouch, hadd, ih, List.append_assoc]

/-- Fragments apart from the argument under construction end it and make up the next. -/
theorem LiteralRun.assemble_apart
    {pos last : Nat} {text : List Char} {ts : List Token} (h : LiteralRun pos text last ts)
    (hne : ts ≠ []) {pending : Option Pending} (hpending : ∀ p ∈ pending, p.stop ≠ pos)
    (more : List Token) :
    assemble pending (ts ++ more) = assemble pending [] ++
      assemble (some ⟨String.ofList text, true, false, last⟩) more := by
  cases h with
  | nil => exact absurd rfl hne
  | @cons _ stop _ text rest f ts hf hrun =>
      have hadd : Pending.empty.add f stop = ⟨String.ofList text, true, false, stop⟩ := by
        simp [Pending.add, Pending.empty, hf.isLiteral, hf.isGlob, hf.literalText]
      have hfirst : assemble none (⟨.fragment f, ⟨pos, stop⟩⟩ :: (ts ++ more)) =
          assemble (some ⟨String.ofList (text ++ rest), true, false, last⟩) more := by
        rw [assemble_first, hadd, hrun.assemble_some]
      rw [List.cons_append]
      cases pending with
      | none => exact hfirst
      | some p =>
          rw [Command.assemble_apart (hpending p rfl), hfirst]
          rfl

/-- Nothing of literal fragments is lost. -/
theorem LiteralRun.discarded
    {pos stop : Nat} {text : List Char} {ts : List Token} (h : LiteralRun pos text stop ts) :
    ts.flatMap (fun t => t.kind.discarded) = [] := by
  induction h with
  | nil => rfl
  | cons hf _ ih => rw [List.flatMap_cons, hf.discarded, ih]; rfl

/-! ## The arguments of a written line -/

/-- One written argument and what stands behind it. -/
theorem Spells.readTokens
    {pieces : List Piece} {argument : String} (h : Spells pieces argument)
    (rest : List Char) (hrest : ∀ c ∈ rest.head?, isSeparator c = true)
    (pos : Nat) {pending : Option Pending} (hpending : ∀ p ∈ pending, p.stop ≠ pos) :
    ∃ stop ts, ts.flatMap (fun t => t.kind.discarded) = [] ∧
      Command.readTokens pos false (pieces.flatMap Piece.written ++ rest) =
        ts ++ Command.readTokens stop true rest ∧
      ∀ more, assemble pending (ts ++ more) =
        assemble pending [] ++ assemble (some ⟨argument, true, false, stop⟩) more := by
  obtain ⟨stop, ts, hrun, hne, hts⟩ :=
    readTokens_pieces hrest pieces h.valid pos false fun _ => ⟨h.ne_nil, h.no_comment⟩
  refine ⟨stop, ts, hrun.discarded, hts, fun more => ?_⟩
  rw [hrun.assemble_apart (hne h.ne_nil) hpending, h.text, String.ofList_toList]

/-- A written line is read as the arguments that were written, behind any argument that is
finished before it. -/
theorem Renders.readTokens
    {args : List String} {line : List Char} (h : Renders args line) (pos : Nat)
    (pending : Option Pending) (hpending : ∀ p ∈ pending, p.stop < pos) :
    assemble pending (Command.readTokens pos false line) = assemble pending [] ++ args ∧
      (Command.readTokens pos false line).flatMap (fun t => t.kind.discarded) = [] := by
  induction h generalizing pos pending with
  | nil =>
      rw [readTokens_of_isGap .nil, List.append_nil]
      exact ⟨rfl, rfl⟩
  | @single pieces argument hspells =>
      obtain ⟨stop, ts, hdiscarded, hread, hassemble⟩ :=
        hspells.readTokens [] (by simp) pos fun p hp => Nat.ne_of_lt (hpending p hp)
      rw [List.append_nil, readTokens_of_isGap .nil, List.append_nil] at hread
      have harguments := hassemble []
      rw [List.append_nil] at harguments
      rw [hread, harguments]
      exact ⟨rfl, hdiscarded⟩
  | @cons pieces argument next line args gap hspells hne hgap _ ih =>
      have hhead : ∀ c ∈ (gap ++ line).head?, isSeparator c = true := by
        intro c hc
        cases gap with
        | nil => exact absurd rfl hne
        | cons d gap =>
            obtain rfl := Option.some.inj hc
            exact hgap d List.mem_cons_self
      obtain ⟨stop, ts, hdiscarded, hread, hassemble⟩ :=
        hspells.readTokens _ hhead pos fun p hp => Nat.ne_of_lt (hpending p hp)
      have hwidth := byteLength_pos hne
      obtain ⟨harguments, hrest⟩ := ih (stop + Text.byteLength gap)
        (some ⟨argument, true, false, stop⟩) fun p hp => by
          obtain rfl := Option.some.inj hp
          exact Nat.lt_add_of_pos_right hwidth
      rw [hread, readTokens_gap (isGap_of_forall_isSeparator hgap) hne, hassemble, harguments,
        List.flatMap_append, hdiscarded, hrest]
      exact ⟨rfl, rfl⟩

/-- Double quotes can be put around any argument. -/
theorem spells_doubleQuoted (argument : String) :
    Spells [.doubleQuoted argument.toList] argument where
  ne_nil := List.cons_ne_nil _ _
  text := by simp [Piece.text]
  valid := by simp [Piece.Valid]
  no_comment := by simp [Piece.OpensComment]

theorem exists_renders (args : List String) : ∃ line, Renders args line := by
  induction args with
  | nil => exact ⟨[], .nil⟩
  | cons argument args ih =>
      have hspells := spells_doubleQuoted argument
      cases args with
      | nil => exact ⟨_, .single hspells⟩
      | cons next args =>
          obtain ⟨line, hline⟩ := ih
          exact ⟨_, .cons [' '] hspells (by simp) (by simp [isSeparator]) hline⟩

/-- Every list of strings can be written as a command line.  From every way of writing it the
list comes back, and nothing of the line is lost. -/
theorem arguments_of_renders (args : List String) :
    (∃ line : String, Renders args line.toList) ∧
      ∀ line : String, Renders args line.toList →
        arguments line = args ∧ discarded line = [] := by
  constructor
  · obtain ⟨line, hline⟩ := exists_renders args
    exact ⟨String.ofList line, by rwa [String.toList_ofList]⟩
  · intro line h
    have hread := h.readTokens 0 none fun p hp => by cases hp
    rwa [assemble, List.nil_append] at hread

/-- Three arguments: one in all four styles, with a `#` behind a quote, an empty one, and a `#`
that a backslash keeps from opening a comment. -/
theorem arguments_of_mixed_styles :
    arguments "2'>'\"\\$\"#a\\* ''\r\n\\#" = ["2>$#a*", "", "#"] ∧
      discarded "2'>'\"\\$\"#a\\* ''\r\n\\#" = [] := by
  have hstyles : Spells [.plain ['2'], .singleQuoted ['>'], .doubleQuoted ['$'],
      .plain ['#', 'a'], .escaped '*'] "2>$#a*" :=
    ⟨by decide, by decide, by decide, by simp [Piece.OpensComment]⟩
  have hempty : Spells [.singleQuoted []] "" :=
    ⟨by decide, by decide, by decide, by simp [Piece.OpensComment]⟩
  have hsharp : Spells [.escaped '#'] "#" :=
    ⟨by decide, by decide, by decide, by simp [Piece.OpensComment]⟩
  exact (arguments_of_renders _).2 _ (.cons [' '] hstyles (by decide) (by simp [isSeparator])
    (.cons ['\r', '\n'] hempty (by decide) (by simp [isSeparator]) (.single hsharp)))

end Command
end MetricsScript
