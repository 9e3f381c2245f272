import MetricsScript.Proofs.Command.Runs

/-!
# What becomes of literal text

Literal text is kept or lost with the whole run in which it stands.  In a run without a glob it
is part of the one argument that the run makes up.  In a run with a glob it is part of no
argument, while what is discarded is listed token by token: the globs and the expansions are
told, and the literal text beside them is not.
-/

namespace MetricsScript
namespace Command

/-- The text of a literal part, if there is any. -/
def QuotedPart.literal? : QuotedPart → Option String
  | .literal text => if text.isEmpty then none else some text
  | .parameter _ | .substitution _ => none

/-- The literal texts of a fragment.  Only double-quoted text may have several, or none. -/
def Fragment.literals : Fragment → List String
  | .word text | .singleQuoted text | .glob text => [text]
  | .doubleQuoted parts => parts.filterMap QuotedPart.literal?
  | .parameter _ | .substitution _ _ => []

/-- The expansions in double-quoted text. -/
def Fragment.expansions : Fragment → List QuotedPart
  | .doubleQuoted parts => parts.filter fun part => !part.isLiteral
  | _ => []

/-- A literal text in its place: among the literal texts of its fragment, which stands among the
tokens of its run, which stands among the runs of a line. -/
structure LiteralPlace where
  before : List (List Token)
  front : List Token
  fragment : Fragment
  span : Span
  left : List String
  text : String
  right : List String
  back : List Token
  after : List (List Token)

namespace LiteralPlace

variable (p : LiteralPlace) (line : String)

/-- The run in which the text stands. -/
def run : List Token :=
  p.front ++ ⟨.fragment p.fragment, p.span⟩ :: p.back

/-- The place is one of the line. -/
structure InLine : Prop where
  runs_eq : runs (tokens line) = p.before ++ p.run :: p.after
  literals_eq : p.fragment.literals = p.left ++ p.text :: p.right

/-- The text is part of one argument: the one that comes behind the arguments of the runs
before it, and in that argument it comes behind the text of its run before it. -/
def Kept : Prop :=
  arguments line = p.before.flatMap runArguments ++
    (runText p.front ++ (String.join p.left ++ p.text ++ String.join p.right) ++
      runText p.back) :: p.after.flatMap runArguments

/-- The run of the text makes up no argument. -/
def Spoiled : Prop :=
  arguments line = p.before.flatMap runArguments ++ p.after.flatMap runArguments

/-- In its place the discarded text is listed as `told`. -/
def ListedAs (told : List String) : Prop :=
  discarded line =
    lost (p.before.flatten ++ p.front) ++ told ++ lost (p.back ++ p.after.flatten)

end LiteralPlace

/-! ## One fragment -/

theorem join_filterMap_literal? (parts : List QuotedPart) :
    String.join (parts.filterMap QuotedPart.literal?) =
      String.join (parts.map QuotedPart.literalText) := by
  induction parts with
  | nil => rfl
  | cons part parts ih =>
      rw [List.map_cons, String.join_cons, ← ih]
      cases part with
      | literal text =>
          by_cases hempty : text.isEmpty
          · have htext : text = "" := String.isEmpty_iff.mp hempty
            simp [QuotedPart.literal?, QuotedPart.literalText, htext]
          · simp [QuotedPart.literal?, QuotedPart.literalText, hempty]
      | parameter name =>
          rw [List.filterMap_cons_none rfl, QuotedPart.literalText, String.empty_append]
      | substitution content =>
          rw [List.filterMap_cons_none rfl, QuotedPart.literalText, String.empty_append]

/-- The text of a fragment is that of all its literal texts. -/
theorem Fragment.join_literals (f : Fragment) : String.join f.literals = f.literalText := by
  cases f with
  | doubleQuoted parts => exact join_filterMap_literal? parts
  | word text | singleQuoted text | glob text => simp [literals, literalText]
  | parameter name => rfl
  | substitution content backtick => rfl

/-- A fragment with literal text is literal or a glob. -/
theorem Fragment.isLiteral_of_literals_ne_nil
    {f : Fragment} (h : f.literals ≠ []) (hglob : f.isGlob = false) : f.isLiteral = true := by
  cases f with
  | word text | singleQuoted text | doubleQuoted parts => rfl
  | glob text => cases hglob
  | parameter name => exact absurd rfl h
  | substitution content backtick => exact absurd rfl h

/-- Of literal text nothing is listed but the expansions in it. -/
theorem Fragment.discarded_of_isLiteral {f : Fragment} (h : f.isLiteral = true) :
    (Kind.fragment f).discarded = f.expansions.map QuotedPart.render := by
  cases f with
  | word text | singleQuoted text | doubleQuoted parts => rfl
  | glob text => cases h
  | parameter name => cases h
  | substitution content backtick => cases h

theorem Fragment.eq_glob {f : Fragment} (h : f.isGlob = true) : ∃ text, f = .glob text := by
  cases f with
  | glob text => exact ⟨text, rfl⟩
  | _ => cases h

/-! ## One place -/

section
variable {p : LiteralPlace} {line : String}

/-- The arguments of a line, seen from one of its places. -/
theorem LiteralPlace.InLine.arguments_eq (h : p.InLine line) :
    arguments line = p.before.flatMap runArguments ++
      (runArguments p.run ++ p.after.flatMap runArguments) := by
  rw [arguments_eq_flatMap_runs, h.runs_eq, List.flatMap_append, List.flatMap_cons]

/-- What is discarded of a line, seen from one of its places. -/
theorem LiteralPlace.InLine.listedAs (h : p.InLine line) :
    p.ListedAs line (Kind.fragment p.fragment).discarded := by
  have htokens : tokens line = p.before.flatten ++ p.run ++ p.after.flatten := by
    rw [← flatten_runs (tokens line), h.runs_eq, List.flatten_append, List.flatten_cons,
      List.append_assoc]
  rw [LiteralPlace.ListedAs, discarded_eq_lost, htokens, LiteralPlace.run]
  simp only [lost_append, lost_cons, List.append_assoc]

theorem LiteralPlace.InLine.kept
    (h : p.InLine line) (hrun : ∀ t ∈ p.run, t.kind.isGlob = false) : p.Kept line := by
  have hne : p.fragment.literals ≠ [] := by
    rw [h.literals_eq]
    simp
  have hmem : (⟨.fragment p.fragment, p.span⟩ : Token) ∈ p.run :=
    List.mem_append_right p.front List.mem_cons_self
  have hliteral : (p.run.any fun t => t.kind.isLiteral) = true :=
    List.any_eq_true.mpr ⟨_, hmem, Fragment.isLiteral_of_literals_ne_nil hne (hrun _ hmem)⟩
  have hglob : (p.run.any fun t => t.kind.isGlob) = false := by
    rw [List.any_eq_false]
    intro t ht
    simp [hrun t ht]
  have htext : runText p.run = runText p.front ++
      (String.join p.left ++ p.text ++ String.join p.right) ++ runText p.back := by
    rw [LiteralPlace.run, runText_append, runText_cons, Kind.literalText,
      ← Fragment.join_literals, h.literals_eq, String.join_append, String.join_cons]
    simp only [String.append_assoc]
  rw [LiteralPlace.Kept, h.arguments_eq, runArguments, hliteral, hglob, htext]
  rfl

theorem LiteralPlace.InLine.spoiled
    (h : p.InLine line) (hrun : ∃ t ∈ p.run, t.kind.isGlob = true) : p.Spoiled line := by
  have hglob : (p.run.any fun t => t.kind.isGlob) = true := List.any_eq_true.mpr hrun
  rw [LiteralPlace.Spoiled, h.arguments_eq, runArguments, hglob]
  simp

end

/-- Every token of a line stands in one of its runs, and its literal text is kept or lost with
that run.  In a run without a glob the text is part of the one argument of its run, in its
place.  A run with a glob makes up no argument; of the text in it the globs are listed, each in
its place, while of a fragment that is no glob only the expansions are. -/
theorem literal_text_accounted (line : String) :
    (runs (tokens line)).flatten = tokens line ∧
      ∀ p : LiteralPlace, p.InLine line →
        ((∀ t ∈ p.run, t.kind.isGlob = false) → p.Kept line) ∧
          ((∃ t ∈ p.run, t.kind.isGlob = true) → p.Spoiled line) ∧
          (p.fragment.isGlob = true → p.ListedAs line [p.text]) ∧
          (p.fragment.isGlob = false →
            p.ListedAs line (p.fragment.expansions.map QuotedPart.render)) := by
  refine ⟨flatten_runs _, fun p h => ⟨h.kept, h.spoiled, ?_, ?_⟩⟩
  · intro hglob
    obtain ⟨text, hfragment⟩ := Fragment.eq_glob hglob
    have hlisted := h.listedAs
    have hliterals := h.literals_eq
    rw [hfragment, Fragment.literals] at hliterals
    obtain ⟨-, rfl, -⟩ : p.left = [] ∧ text = p.text ∧ p.right = [] := by
      cases hleft : p.left with
      | nil => simpa [hleft, eq_comm] using hliterals
      | cons x xs => simp [hleft] at hliterals
    rwa [hfragment] at hlisted
  · intro hglob
    have hne : p.fragment.literals ≠ [] := by
      rw [h.literals_eq]
      simp
    rw [← Fragment.discarded_of_isLiteral (Fragment.isLiteral_of_literals_ne_nil hne hglob)]
    exact h.listedAs

/-- A literal part of double-quoted text, with a word before it and quoted text behind it, is
kept in the second argument of a line whose third run is spoiled. -/
theorem literal_part_kept :
    ∃ p : LiteralPlace, p.InLine "a x\"y$z\"'w' 'b'*" ∧ p.text = "y" ∧
      (∀ t ∈ p.run, t.kind.isGlob = false) ∧ p.Kept "a x\"y$z\"'w' 'b'*" ∧
      arguments "a x\"y$z\"'w' 'b'*" = ["a", "xyw"] := by
  let p : LiteralPlace :=
    { before := [[⟨.fragment (.word "a"), ⟨0, 1⟩⟩]]
      front := [⟨.fragment (.word "x"), ⟨2, 3⟩⟩]
      fragment := .doubleQuoted [.literal "y", .parameter "z"]
      span := ⟨3, 8⟩
      left := []
      text := "y"
      right := []
      back := [⟨.fragment (.singleQuoted "w"), ⟨8, 11⟩⟩]
      after := [[⟨.fragment (.singleQuoted "b"), ⟨12, 15⟩⟩, ⟨.fragment (.glob "*"), ⟨15, 16⟩⟩]] }
  have hline : p.InLine "a x\"y$z\"'w' 'b'*" := ⟨by decide +kernel, by decide +kernel⟩
  have hrun : ∀ t ∈ p.run, t.kind.isGlob = false := by decide +kernel
  have hkept := ((literal_text_accounted "a x\"y$z\"'w' 'b'*").2 p hline).1 hrun
  exact ⟨p, hline, rfl, hrun, hkept, hkept.trans (by decide +kernel)⟩

/-- Quoted text beside a glob is in no argument and on no list. -/
theorem quoted_text_lost_beside_glob :
    tokens "show 'a'*" = [⟨.fragment (.word "show"), ⟨0, 4⟩⟩,
        ⟨.fragment (.singleQuoted "a"), ⟨5, 8⟩⟩, ⟨.fragment (.glob "*"), ⟨8, 9⟩⟩] ∧
      (∀ argument ∈ arguments "show 'a'*", ¬"a".toList <:+: argument.toList) ∧
      (Kind.fragment (.singleQuoted "a")).render ∉ discarded "show 'a'*" := by
  decide +kernel

end Command
end MetricsScript
