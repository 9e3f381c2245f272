import MetricsScript.Command.Arguments
import MetricsScript.Proofs.Command.Reading

/-!
# Arguments and places

Which fragments touch depends on the distances between spans and not on where the text begins.
So tokens may be shifted, and tokens in front of others may be left as they are, without a
change to what the others make up.
-/

namespace MetricsScript
namespace Command

/-- The token `d` bytes further on. -/
def Token.shift (d : Nat) (t : Token) : Token :=
  ⟨t.kind, ⟨t.span.start + d, t.span.stop + d⟩⟩

/-- The argument under construction `d` bytes further on. -/
def Pending.shift (d : Nat) (p : Pending) : Pending :=
  { p with stop := p.stop + d }

@[simp]
theorem Pending.finish_shift (d : Nat) (p : Pending) : (p.shift d).finish = p.finish := rfl

@[simp]
theorem Pending.add_empty_shift (d : Nat) (f : Fragment) (stop : Nat) :
    Pending.empty.add f (stop + d) = (Pending.empty.add f stop).shift d := rfl

theorem Reads.shift
    {pos : Nat} {glued : Bool} {cs : List Char} {ts : List Token}
    (h : Reads pos glued cs ts) (d : Nat) :
    Reads (pos + d) glued cs (ts.map (Token.shift d)) := by
  induction h with
  | done hgap => exact .done hgap
  | @token pos glued gap c text rest kind ts hgap hstart hread _ ih =>
      have hfront : pos + d + Text.byteLength gap = pos + Text.byteLength gap + d := by omega
      have hwhole : pos + Text.byteLength gap + d + Text.byteLength (c :: text) =
          pos + Text.byteLength gap + Text.byteLength (c :: text) + d := by omega
      rw [List.map_cons, Token.shift]
      simp only [← hfront, ← hwhole] at ih ⊢
      exact .token hgap hstart hread ih

/-- A text that begins further on has the same tokens further on. -/
theorem readTokens_add (pos d : Nat) (glued : Bool) (cs : List Char) :
    readTokens (pos + d) glued cs = (readTokens pos glued cs).map (Token.shift d) :=
  reads_iff.mp ((reads_readTokens pos glued cs).shift d)

/-- A token that is no fragment ends the argument before it. -/
theorem assemble_other
    {t : Token} (h : t.kind.isFragment = false) (pending : Option Pending) (ts : List Token) :
    assemble pending (t :: ts) = assemble pending [] ++ assemble none ts := by
  obtain ⟨kind, span⟩ := t
  cases kind with
  | fragment f => simp [Kind.isFragment] at h
  | _ => cases pending <;> rfl

/-- The first fragment of an argument. -/
theorem assemble_first (f : Fragment) (start stop : Nat) (ts : List Token) :
    assemble none (⟨.fragment f, ⟨start, stop⟩⟩ :: ts) =
      assemble (some (Pending.empty.add f stop)) ts := by
  rw [assemble]

/-- A fragment that touches the argument before it goes on with it. -/
theorem assemble_touching (p : Pending) (f : Fragment) (stop : Nat) (ts : List Token) :
    assemble (some p) (⟨.fragment f, ⟨p.stop, stop⟩⟩ :: ts) =
      assemble (some (p.add f stop)) ts := by
  rw [assemble, if_pos rfl]

/-- A fragment apart from the argument before it begins another one. -/
theorem assemble_apart
    {p : Pending} {start : Nat} (h : p.stop ≠ start) (f : Fragment) (stop : Nat)
    (ts : List Token) :
    assemble (some p) (⟨.fragment f, ⟨start, stop⟩⟩ :: ts) =
      p.finish ++ assemble none (⟨.fragment f, ⟨start, stop⟩⟩ :: ts) := by
  rw [assemble_first, assemble]
  exact if_neg h

theorem Kind.exists_fragment {kind : Kind} (h : kind.isFragment = true) :
    ∃ f, kind = .fragment f := by
  cases kind with
  | fragment f => exact ⟨f, rfl⟩
  | _ => cases h

/-- Shifting an argument under construction with the tokens behind it changes nothing. -/
theorem assemble_shift (d : Nat) (pending : Option Pending) (ts : List Token) :
    assemble (pending.map (Pending.shift d)) (ts.map (Token.shift d)) =
      assemble pending ts := by
  have hend : ∀ pending : Option Pending,
      assemble (pending.map (Pending.shift d)) [] = assemble pending [] := by
    rintro (- | p) <;> rfl
  induction ts generalizing pending with
  | nil => exact hend pending
  | cons t ts ih =>
      obtain ⟨kind, start, stop⟩ := t
      have hfirst : ∀ f : Fragment,
          assemble none (⟨.fragment f, ⟨start + d, stop + d⟩⟩ :: ts.map (Token.shift d)) =
            assemble none (⟨.fragment f, ⟨start, stop⟩⟩ :: ts) := by
        intro f
        rw [assemble_first, assemble_first, Pending.add_empty_shift]
        exact ih (some _)
      rw [List.map_cons, Token.shift]
      cases hkind : kind.isFragment with
      | false =>
          rw [assemble_other hkind, assemble_other hkind, hend]
          exact congrArg (assemble pending [] ++ ·) (ih none)
      | true =>
          obtain ⟨f, rfl⟩ := Kind.exists_fragment hkind
          cases pending with
          | none => exact hfirst f
          | some p =>
              by_cases htouch : p.stop = start
              · subst htouch
                rw [assemble_touching]
                exact (assemble_touching (p.shift d) f _ _).trans (ih (some (p.add f stop)))
              · have hshift : (p.shift d).stop ≠ start + d := fun h =>
                  htouch (Nat.add_right_cancel h)
                rw [Option.map_some, assemble_apart htouch, assemble_apart hshift, hfirst,
                  Pending.finish_shift]

/-- Tokens in front leave alone what makes no difference behind them. -/
theorem assemble_append_congr
    {ts us : List Token} (h : ∀ pending, assemble pending ts = assemble pending us)
    (front : List Token) (pending : Option Pending) :
    assemble pending (front ++ ts) = assemble pending (front ++ us) := by
  induction front generalizing pending with
  | nil => exact h pending
  | cons t front ih =>
      obtain ⟨kind, start, stop⟩ := t
      rw [List.cons_append, List.cons_append]
      cases hkind : kind.isFragment with
      | false => rw [assemble_other hkind, assemble_other hkind, ih none]
      | true =>
          obtain ⟨f, rfl⟩ := Kind.exists_fragment hkind
          cases pending with
          | none => rw [assemble_first, assemble_first, ih]
          | some p =>
              by_cases htouch : p.stop = start
              · subst htouch
                rw [assemble_touching, assemble_touching, ih]
              · rw [assemble_apart htouch, assemble_apart htouch, assemble_first,
                  assemble_first, ih]

/-! ## Where one argument ends -/

/-- Whether two tokens beside each other belong to one argument: both are fragments, and they
touch. -/
def Token.joins (t u : Token) : Bool :=
  t.kind.isFragment && u.kind.isFragment && decide (t.span.Touches u.span)

theorem Token.joins_iff {t u : Token} :
    t.joins u = true ↔
      t.kind.isFragment = true ∧ u.kind.isFragment = true ∧ t.span.stop = u.span.start := by
  rw [Token.joins, Bool.and_eq_true, Bool.and_eq_true, decide_eq_true_eq, and_assoc]
  rfl

/-- An argument ends before a token that does not touch it, and before one that is no
fragment. -/
theorem assemble_some_of_apart
    {p : Pending} {us : List Token}
    (h : ∀ u ∈ us.head?, u.kind.isFragment = true → p.stop ≠ u.span.start) :
    assemble (some p) us = p.finish ++ assemble none us := by
  cases us with
  | nil => rw [assemble, assemble, List.append_nil]
  | cons u us =>
      cases hkind : u.kind.isFragment with
      | false =>
          have hnone := assemble_other hkind none us
          rw [assemble, List.nil_append] at hnone
          rw [assemble_other hkind, hnone, assemble]
      | true =>
          have hstart := h u rfl hkind
          obtain ⟨kind, start, stop⟩ := u
          obtain ⟨f, rfl⟩ := Kind.exists_fragment hkind
          exact assemble_apart hstart f stop us

/-- Tokens that nothing joins to those before them make up arguments of their own. -/
theorem assemble_append_of_apart
    {ts us : List Token} {pending : Option Pending}
    (hpending : ts = [] → ∀ p ∈ pending, ∀ u ∈ us.head?,
      u.kind.isFragment = true → p.stop ≠ u.span.start)
    (hlast : ∀ t ∈ ts.getLast?, ∀ u ∈ us.head?, t.joins u = false) :
    assemble pending (ts ++ us) = assemble pending ts ++ assemble none us := by
  induction ts generalizing pending with
  | nil =>
      cases pending with
      | none => rfl
      | some p => exact assemble_some_of_apart (hpending rfl p rfl)
  | cons t ts ih =>
      have hrest : ∀ t' ∈ ts.getLast?, ∀ u ∈ us.head?, t'.joins u = false := by
        intro t' ht'
        refine hlast t' ?_
        cases ts with
        | nil => cases ht'
        | cons t'' ts => rwa [List.getLast?_cons_cons]
      cases hkind : t.kind.isFragment with
      | false =>
          have htail : assemble none (ts ++ us) = assemble none ts ++ assemble none us :=
            ih (fun _ p hp => by cases hp) hrest
          rw [List.cons_append, assemble_other hkind, assemble_other hkind, htail,
            List.append_assoc]
      | true =>
          obtain ⟨kind, start, stop⟩ := t
          obtain ⟨f, rfl⟩ := Kind.exists_fragment hkind
          have hnext : ∀ p : Pending, p.stop = stop →
              assemble (some p) (ts ++ us) = assemble (some p) ts ++ assemble none us := by
            rintro p rfl
            refine ih (fun hnil q hq u hu hfragment htouch => ?_) hrest
            obtain rfl := Option.some.inj hq
            subst hnil
            have hapart := hlast _ rfl u hu
            rw [Token.joins_iff.mpr ⟨rfl, hfragment, htouch⟩] at hapart
            cases hapart
          cases pending with
          | none =>
              rw [List.cons_append, assemble_first, assemble_first, hnext _ rfl]
          | some p =>
              by_cases htouch : p.stop = start
              · subst htouch
                rw [List.cons_append, assemble_touching, assemble_touching, hnext _ rfl]
              · rw [List.cons_append, assemble_apart htouch, assemble_apart htouch,
                  assemble_first, assemble_first, hnext _ rfl, List.append_assoc]

/-! ## Fragments with the same literal text -/

/-- Fragments that an argument cannot tell apart. -/
structure Fragment.SameLiterals (f g : Fragment) : Prop where
  literalText : f.literalText = g.literalText
  isLiteral : f.isLiteral = g.isLiteral
  isGlob : f.isGlob = g.isGlob

theorem Fragment.SameLiterals.add
    {f g : Fragment} (h : f.SameLiterals g) (p : Pending) (stop : Nat) :
    p.add f stop = p.add g stop := by
  simp only [Pending.add, h.literalText, h.isLiteral, h.isGlob]

/-- A fragment may be longer than another one with the same literal text, if all that stands
behind it is shifted. -/
theorem assemble_fragment_shift
    {f g : Fragment} (h : f.SameLiterals g) (start stop d : Nat) (ts : List Token)
    (pending : Option Pending) :
    assemble pending (⟨.fragment f, ⟨start, stop + d⟩⟩ :: ts.map (Token.shift d)) =
      assemble pending (⟨.fragment g, ⟨start, stop⟩⟩ :: ts) := by
  have hfirst : assemble none (⟨.fragment f, ⟨start, stop + d⟩⟩ :: ts.map (Token.shift d)) =
      assemble none (⟨.fragment g, ⟨start, stop⟩⟩ :: ts) := by
    rw [assemble_first, assemble_first, h.add, Pending.add_empty_shift]
    exact assemble_shift d (some _) ts
  cases pending with
  | none => exact hfirst
  | some p =>
      by_cases htouch : p.stop = start
      · subst htouch
        rw [assemble_touching, assemble_touching, h.add]
        exact assemble_shift d (some (p.add g stop)) ts
      · rw [assemble_apart htouch, assemble_apart htouch, hfirst]

end Command
end MetricsScript
