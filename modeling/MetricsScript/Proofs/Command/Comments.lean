import Mathlib.Data.List.TakeWhile
import MetricsScript.Proofs.Command.Concatenation

/-!
# Comments

A `#` behind a space opens a comment, whatever closed line stands before it.  The comment takes all
characters up to a line feed or a carriage return, and none of them means anything.  What stands
behind is read as a line of its own.  A carriage return can stand inside a command line, so a
comment need not hide the rest of its line.
-/

namespace MetricsScript
namespace Command

/-- The part of a text that a comment takes. -/
def commentText (text : String) : String :=
  String.ofList (text.toList.takeWhile isCommentChar)

/-- The part of a text that a comment leaves. -/
def behindComment (text : String) : String :=
  String.ofList (text.toList.dropWhile isCommentChar)

/-! ## What is read -/

/-- A token that is no fragment parts the arguments before it from those behind it. -/
theorem assemble_append_other
    {t : Token} (h : t.kind.isFragment = false) (front more : List Token) :
    assemble none (front ++ t :: more) = assemble none front ++ assemble none more := by
  have hapart : assemble none (front ++ t :: more) =
      assemble none front ++ assemble none (t :: more) := by
    apply assemble_append_of_apart
    · intro _ p hp
      cases hp
    · intro u _ v hv
      obtain rfl : t = v := Option.some.inj hv
      simp [Token.joins, h]
  rw [hapart, assemble_other h]
  rfl

theorem readTokens_comment (pos : Nat) (text : String) :
    readTokens pos false ('#' :: text.toList) =
      ⟨.comment (commentText text),
        ⟨pos, pos + Text.byteLength ('#' :: (commentText text).toList)⟩⟩ ::
        (tokens (behindComment text)).map
          (Token.shift (pos + Text.byteLength ('#' :: (commentText text).toList))) := by
  have hsplit : (commentText text).toList ++ (behindComment text).toList = text.toList := by
    simp [commentText, behindComment]
  have hstart : StartsToken ('#' :: ((commentText text).toList ++ (behindComment text).toList)) :=
    startsToken_of_not_separator (by decide) (by decide)
  have hread : readToken (false && ([] : List Char).isEmpty) '#'
      ((commentText text).toList ++ (behindComment text).toList) =
        (.comment (commentText text), (behindComment text).toList) := by
    rw [hsplit]
    simp [readToken, readComment, commentText, behindComment]
  have htoken := readTokens_token pos false .nil hstart hread
  rw [tokens, ← readTokens_add, Nat.zero_add]
  rw [hsplit] at htoken
  exact htoken

/-- A comment behind a closed line is one token, and what stands behind it only moves. -/
theorem Closed.tokens_comment {front : String} (h : Closed front) (text : String) :
    let start := Text.byteLength front.toList + 1
    let stop := start + Text.byteLength ('#' :: (commentText text).toList)
    tokens (front ++ " #" ++ text) =
      tokens front ++ ⟨.comment (commentText text), ⟨start, stop⟩⟩ ::
        (tokens (behindComment text)).map (Token.shift stop) := by
  intro start stop
  have hchars : (front ++ " #" ++ text).toList = front.toList ++ ' ' :: '#' :: text.toList := by
    simp
  rw [tokens, hchars, h.readTokens_space, ← readTokens_add, Nat.zero_add, readTokens_comment]

theorem commentText_eq_iff {text : String} :
    commentText text = text ↔ ∀ c ∈ text.toList, isCommentChar c = true := by
  rw [← List.takeWhile_eq_self_iff, ← String.toList_inj, commentText, String.toList_ofList]

/-- A comment takes all of a text without line feeds exactly if no carriage return is in it. -/
theorem commentText_eq_iff_not_mem {text : String} (hfeed : '\n' ∉ text.toList) :
    commentText text = text ↔ '\r' ∉ text.toList := by
  rw [commentText_eq_iff]
  constructor
  · intro h hreturn
    exact absurd (h '\r' hreturn) (by decide)
  · intro hreturn c hc
    have hne : c ≠ '\n' ∧ c ≠ '\r' := by
      constructor
      · rintro rfl
        exact hfeed hc
      · rintro rfl
        exact hreturn hc
    simp [isCommentChar, hne]

theorem behindComment_of_commentText_eq {text : String} (h : commentText text = text) :
    behindComment text = "" := by
  rw [behindComment, List.dropWhile_eq_nil_iff.mpr (commentText_eq_iff.mp h)]

/-- A comment hides all characters up to the first line feed or carriage return behind it.  The
arguments of the whole are those before the comment and those behind these characters, and the
comment is discarded as it stands.  So in a text without line feeds a comment hides the rest of
the line exactly if no carriage return stands in it. -/
theorem comment_hides_until_return {front : String} (hfront : Closed front) (text : String) :
    arguments (front ++ " #" ++ text) = arguments front ++ arguments (behindComment text) ∧
    discarded (front ++ " #" ++ text) =
      discarded front ++ ("#" ++ commentText text) :: discarded (behindComment text) ∧
    ('\n' ∉ text.toList →
      ((arguments (front ++ " #" ++ text) = arguments front ∧
        discarded (front ++ " #" ++ text) = discarded front ++ ["#" ++ text]) ↔
          '\r' ∉ text.toList)) := by
  have htokens := hfront.tokens_comment text
  have harguments : arguments (front ++ " #" ++ text) =
      arguments front ++ arguments (behindComment text) := by
    rw [arguments, htokens, assemble_append_other rfl]
    have hshift := assemble_shift (Text.byteLength front.toList + 1 +
      Text.byteLength ('#' :: (commentText text).toList)) none (tokens (behindComment text))
    rw [Option.map_none] at hshift
    rw [hshift, arguments, arguments]
  have hdiscarded : discarded (front ++ " #" ++ text) =
      discarded front ++ ("#" ++ commentText text) :: discarded (behindComment text) := by
    rw [discarded, htokens, List.flatMap_append, List.flatMap_cons, List.flatMap_map]
    rfl
  refine ⟨harguments, hdiscarded, ?_⟩
  intro hfeed
  rw [harguments, hdiscarded, ← commentText_eq_iff_not_mem hfeed]
  constructor
  · rintro ⟨-, hlist⟩
    have hcomment := (List.cons.inj (List.append_cancel_left hlist)).1
    exact String.append_right_inj _ |>.mp hcomment
  · intro hwhole
    have hempty : tokens "" = [] := readTokens_of_isGap .nil
    rw [behindComment_of_commentText_eq hwhole, hwhole]
    constructor
    · simp [arguments, hempty, assemble]
    · simp [discarded, hempty]

/-- Nothing in a comment means anything: neither an operator nor a body, a quote or a backslash. -/
theorem comment_hides_open_quote :
    Closed "show 'é'$x" ∧
      arguments ("show 'é'$x" ++ " #" ++ "1 && $(b) \"c\\") = ["show", "é"] ∧
      discarded ("show 'é'$x" ++ " #" ++ "1 && $(b) \"c\\") = ["$x", "#1 && $(b) \"c\\"] := by
  have hclosed : Closed "show 'é'$x" := by decide +kernel
  obtain ⟨-, -, hhides⟩ := comment_hides_until_return hclosed "1 && $(b) \"c\\"
  obtain ⟨harguments, hdiscarded⟩ := (hhides (by decide +kernel)).mpr (by decide +kernel)
  rw [harguments, hdiscarded]
  exact ⟨hclosed, by decide +kernel, by decide +kernel⟩

/-- A carriage return in the middle of a line ends a comment, and what stands behind it is an
argument. -/
theorem comment_ends_inside_line :
    Closed "show" ∧ '\n' ∉ "a\rb".toList ∧ arguments "show" = ["show"] ∧
      arguments ("show" ++ " #" ++ "a\rb") = ["show", "b"] ∧
      discarded ("show" ++ " #" ++ "a\rb") = ["#a"] := by
  decide +kernel

end Command
end MetricsScript
