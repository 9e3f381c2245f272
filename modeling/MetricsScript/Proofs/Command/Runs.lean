import Mathlib.Data.List.SplitBy
import MetricsScript.Proofs.Command.Assembly

/-!
# Runs of touching fragments

The tokens of a line fall into runs: fragments that touch make up one run, and every other token
stands alone.  A run decides as a whole whether it is an argument.  It is one if some fragment in
it is literal and none is a glob, and then its text is that of all its fragments.  What is
discarded, on the other hand, is decided token by token.
-/

namespace MetricsScript
namespace Command

/-- The tokens, cut wherever a token does not join the one behind it. -/
def runs (ts : List Token) : List (List Token) :=
  ts.splitBy Token.joins

def Kind.literalText : Kind → String
  | .fragment f => f.literalText
  | _ => ""

def Kind.isLiteral : Kind → Bool
  | .fragment f => f.isLiteral
  | _ => false

def Kind.isGlob : Kind → Bool
  | .fragment f => f.isGlob
  | _ => false

/-- The text of all fragments of a run. -/
def runText (run : List Token) : String :=
  String.join (run.map fun t => t.kind.literalText)

/-- The argument that a run makes up, if it makes up one. -/
def runArguments (run : List Token) : List String :=
  if (run.any fun t => t.kind.isLiteral) && !run.any fun t => t.kind.isGlob then [runText run]
  else []

/-- What is discarded of some tokens. -/
def lost (ts : List Token) : List String :=
  ts.flatMap fun t => t.kind.discarded

@[simp]
theorem runText_nil : runText [] = "" := rfl

@[simp]
theorem runText_cons (t : Token) (run : List Token) :
    runText (t :: run) = t.kind.literalText ++ runText run := by
  rw [runText, List.map_cons, String.join_cons, runText]

@[simp]
theorem runText_append (front back : List Token) :
    runText (front ++ back) = runText front ++ runText back := by
  rw [runText, List.map_append, String.join_append, runText, runText]

@[simp]
theorem lost_cons (t : Token) (ts : List Token) : lost (t :: ts) = t.kind.discarded ++ lost ts :=
  List.flatMap_cons

@[simp]
theorem lost_append (front back : List Token) : lost (front ++ back) = lost front ++ lost back :=
  List.flatMap_append

theorem flatten_runs (ts : List Token) : (runs ts).flatten = ts :=
  List.flatten_splitBy _ _

/-! ## One run -/

/-- Fragments that touch go on with the argument under construction, one after another. -/
theorem assemble_some_run
    (p : Pending) {run : List Token} (hchain : run.IsChain fun t u => t.joins u = true)
    (hfirst : ∀ t ∈ run.head?, t.kind.isFragment = true ∧ p.stop = t.span.start) :
    assemble (some p) run =
      if (p.literal || run.any fun t => t.kind.isLiteral) &&
          !(p.glob || run.any fun t => t.kind.isGlob) then [p.text ++ runText run]
      else [] := by
  induction run generalizing p with
  | nil => simp [assemble, Pending.finish]
  | cons t run ih =>
      obtain ⟨hkind, hstart⟩ := hfirst t rfl
      obtain ⟨kind, start, stop⟩ := t
      obtain ⟨f, rfl⟩ := Kind.exists_fragment hkind
      obtain rfl : p.stop = start := hstart
      rw [List.isChain_cons] at hchain
      obtain ⟨hnext, hchain⟩ := hchain
      have hhead : ∀ u ∈ run.head?, u.kind.isFragment = true ∧
          (p.add f stop).stop = u.span.start := by
        intro u hu
        exact (Token.joins_iff.mp (hnext u hu)).2
      rw [assemble_touching, ih _ hchain hhead]
      simp only [Pending.add, List.any_cons, Kind.isLiteral, Kind.isGlob, runText_cons,
        Kind.literalText, Bool.or_assoc, String.append_assoc]

/-- A run makes up its argument, or none. -/
theorem assemble_run
    {run : List Token} (hne : run ≠ []) (hchain : run.IsChain fun t u => t.joins u = true) :
    assemble none run = runArguments run := by
  cases run with
  | nil => exact absurd rfl hne
  | cons t run =>
      rw [List.isChain_cons] at hchain
      obtain ⟨hnext, hchain⟩ := hchain
      cases hkind : t.kind.isFragment with
      | true =>
          obtain ⟨kind, start, stop⟩ := t
          obtain ⟨f, rfl⟩ := Kind.exists_fragment hkind
          have hhead : ∀ u ∈ run.head?, u.kind.isFragment = true ∧
              (Pending.empty.add f stop).stop = u.span.start := by
            intro u hu
            exact (Token.joins_iff.mp (hnext u hu)).2
          rw [assemble_first, assemble_some_run _ hchain hhead, runArguments]
          simp only [Pending.add, Pending.empty, List.any_cons, Kind.isLiteral, Kind.isGlob,
            runText_cons, Kind.literalText, Bool.false_or, String.empty_append]
      | false =>
          -- A token that is no fragment joins nothing, so its run ends with it.
          cases run with
          | cons u run =>
              have hfragment := (Token.joins_iff.mp (hnext u rfl)).1
              rw [hkind] at hfragment
              cases hfragment
          | nil =>
              rw [assemble_other hkind]
              obtain ⟨kind, span⟩ := t
              cases kind with
              | fragment f => cases hkind
              | _ => rfl

/-! ## All runs -/

/-- Runs that do not join make up their arguments one after another. -/
theorem assemble_flatten
    {groups : List (List Token)} (hne : ∀ run ∈ groups, run ≠ [])
    (hchain : ∀ run ∈ groups, run.IsChain fun t u => t.joins u = true)
    (hapart : groups.IsChain fun run next =>
      ∃ hrun hnext, (run.getLast hrun).joins (next.head hnext) = false) :
    assemble none groups.flatten = groups.flatMap runArguments := by
  induction groups with
  | nil => rfl
  | cons run groups ih =>
      rw [List.isChain_cons] at hapart
      obtain ⟨hnext, hapart⟩ := hapart
      have hrest := ih (fun r hr => hne r (List.mem_cons_of_mem run hr))
        (fun r hr => hchain r (List.mem_cons_of_mem run hr)) hapart
      have hlast : ∀ t ∈ run.getLast?, ∀ u ∈ groups.flatten.head?, t.joins u = false := by
        intro t ht u hu
        cases groups with
        | nil => cases hu
        | cons next groups =>
            obtain ⟨hrunne, hnextne, hjoins⟩ := hnext next rfl
            rw [List.getLast?_eq_some_getLast hrunne] at ht
            rw [List.flatten_cons, List.head?_append_of_ne_nil _ hnextne,
              List.head?_eq_some_head hnextne] at hu
            obtain rfl := Option.some.inj ht
            obtain rfl := Option.some.inj hu
            exact hjoins
      rw [List.flatten_cons, List.flatMap_cons,
        assemble_append_of_apart (fun _ p hp => by cases hp) hlast,
        assemble_run (hne run List.mem_cons_self) (hchain run List.mem_cons_self), hrest]

/-- The arguments of a line are those of its runs, in order. -/
theorem arguments_eq_flatMap_runs (line : String) :
    arguments line = (runs (tokens line)).flatMap runArguments := by
  have hflatten : assemble none (runs (tokens line)).flatten =
      (runs (tokens line)).flatMap runArguments :=
    assemble_flatten (fun run hrun => List.ne_nil_of_mem_splitBy hrun)
      (fun run hrun => List.isChain_of_mem_splitBy hrun)
      (List.isChain_getLast_head_splitBy _ _)
  rw [flatten_runs] at hflatten
  exact hflatten

theorem discarded_eq_lost (line : String) : discarded line = lost (tokens line) := rfl

end Command
end MetricsScript
