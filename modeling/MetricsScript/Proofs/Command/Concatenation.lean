import MetricsScript.Proofs.Command.Assembly
import MetricsScript.Proofs.Command.Closed
import MetricsScript.Proofs.Command.Tiling

/-!
# Command lines one behind the other

A closed line leaves nothing open.  What comes behind it and a space is therefore read as if it
stood alone: no token of the first line grows, none of the second one is glued to it, and the
second line only moves.  So tokens, arguments and what is discarded of two such lines are those
of the first one followed by those of the second.
-/

namespace MetricsScript
namespace Command

@[simp]
theorem Token.shift_kind (d : Nat) (t : Token) : (t.shift d).kind = t.kind := rfl

/-- Behind a closed line and a space the reader starts anew, with no fragment before it. -/
theorem Closed.readTokens_space {front : String} (h : Closed front) (next : List Char) :
    readTokens 0 false (front.toList ++ ' ' :: next) =
      tokens front ++
        (readTokens 0 false next).map (Token.shift (Text.byteLength front.toList + 1)) := by
  obtain ⟨pos, glued, gap, hgap, hpos, hread⟩ := h.readTokens_append
  have hneutral : StartsNeutral (' ' :: next) := by
    intro y hy
    obtain rfl := Option.some.inj hy
    decide
  have hspace : IsGap (gap ++ [' ']) := hgap.append (.separator (by decide) .nil)
  have hwidth : pos + Text.byteLength (gap ++ [' ']) =
      0 + (Text.byteLength front.toList + 1) := by
    have hone : Text.byteLength [' '] = 1 := rfl
    rw [← hpos, Text.byteLength_append, hone]
    omega
  calc readTokens 0 false (front.toList ++ ' ' :: next)
      = tokens front ++ readTokens pos glued (gap ++ ' ' :: next) :=
        hread _ hneutral fun _ hdollar => by cases hdollar
    _ = tokens front ++ readTokens (pos + Text.byteLength (gap ++ [' '])) false next := by
        rw [List.append_cons, readTokens_gap hspace (by simp)]
    _ = _ := by rw [hwidth, readTokens_add]

/-- What is read apart from a line, further behind it, touches no token of that line. -/
theorem joins_shift_of_lt
    {front next : String} {t u : Token} {d : Nat} (hd : Text.byteLength front.toList < d)
    (ht : t ∈ tokens front) (hu : u ∈ (tokens next).map (Token.shift d)) :
    t.joins u = false := by
  have hstop := ((reads_readTokens 0 false front.toList).tiles).stop_le ht
  obtain ⟨u, -, rfl⟩ := List.mem_map.mp hu
  have hapart : ¬t.span.Touches (u.shift d).span := by
    simp only [Span.Touches, Token.shift]
    omega
  simp [Token.joins, hapart]

/-- What is read behind a line and a space touches no token of that line. -/
theorem joins_shift_eq_false
    {front next : String} {t u : Token} (ht : t ∈ tokens front)
    (hu : u ∈ (tokens next).map (Token.shift (Text.byteLength front.toList + 1))) :
    t.joins u = false :=
  joins_shift_of_lt (Nat.lt_succ_self _) ht hu

/-- Reading is compositional over a separating space.  Behind a closed line and a space, any
line has the tokens that it has alone, as many bytes further on as stand before it; hence the
arguments of both lines together are those of the first one and then those of the second, and
so is what is discarded. -/
theorem tokens_append_space {front : String} (hfront : Closed front) (next : String) :
    tokens (front ++ " " ++ next) =
        tokens front ++
          (tokens next).map (Token.shift (Text.byteLength front.toList + 1)) ∧
      arguments (front ++ " " ++ next) = arguments front ++ arguments next ∧
      discarded (front ++ " " ++ next) = discarded front ++ discarded next := by
  have htokens : tokens (front ++ " " ++ next) =
      tokens front ++
        (tokens next).map (Token.shift (Text.byteLength front.toList + 1)) := by
    have hread := hfront.readTokens_space next.toList
    simpa [tokens, String.toList_append] using hread
  refine ⟨htokens, ?_, ?_⟩
  · have hapart : assemble none (tokens front ++
          (tokens next).map (Token.shift (Text.byteLength front.toList + 1))) =
        assemble none (tokens front) ++
          assemble none ((tokens next).map (Token.shift (Text.byteLength front.toList + 1))) := by
      apply assemble_append_of_apart
      · intro _ p hp
        cases hp
      · intro t ht u hu
        exact joins_shift_eq_false (List.mem_of_getLast? ht) (List.mem_of_head? hu)
    have hshift := assemble_shift (Text.byteLength front.toList + 1) none (tokens next)
    rw [Option.map_none] at hshift
    rw [arguments, htokens, hapart, hshift]
    rfl
  · rw [discarded, htokens, List.flatMap_append, List.flatMap_map]
    rfl

/-- The digit at the end of one line is no descriptor for the redirection at the start of the
next, while each `#` goes on with an argument; the tokens of the second line begin at byte 13. -/
theorem tokens_append_space_redirection :
    Closed "add 'é'#1 2" ∧
      (tokens ("add 'é'#1 2" ++ " " ++ ">x $y#'z'")).map (fun t => t.span.start) =
        [0, 4, 8, 11, 13, 14, 16, 18, 19] ∧
      arguments ("add 'é'#1 2" ++ " " ++ ">x $y#'z'") = ["add", "é#1", "2", "x", "#z"] ∧
      discarded ("add 'é'#1 2" ++ " " ++ ">x $y#'z'") = [">", "$y"] := by
  have hclosed : Closed "add 'é'#1 2" := by decide +kernel
  obtain ⟨htokens, harguments, hdiscarded⟩ := tokens_append_space hclosed ">x $y#'z'"
  rw [htokens, harguments, hdiscarded]
  exact ⟨hclosed, by decide +kernel, by decide +kernel, by decide +kernel⟩

end Command
end MetricsScript
