import MetricsScript.Proofs.Command.Accounting

/-!
# Arguments as maximal runs

The arguments of a line can be told without the accumulator that makes them up.  Cut the tokens
into runs of fragments in which each one touches the next, each run as long as it can be.  The
runs with literal text and without a glob are the arguments, in order, and the text of an argument
is what its words and its quotes say.
-/

namespace MetricsScript
namespace Command

/-- Consecutive fragments, each of which touches the next. -/
structure IsFragmentRun (run : List Token) : Prop where
  ne_nil : run ≠ []
  fragments : ∀ t ∈ run, t.kind.isFragment = true
  touching : run.IsChain fun t u => t.span.Touches u.span

/-- The tokens are cut into runs of fragments.  A token that is no fragment belongs to no run, and
no fragment behind a run touches it. -/
inductive CutInto : List Token → List (List Token) → Prop
  | nil : CutInto [] []
  | other {t : Token} {ts : List Token} {cut : List (List Token)} :
      t.kind.isFragment = false → CutInto ts cut → CutInto (t :: ts) cut
  | run {run ts : List Token} {cut : List (List Token)} :
      IsFragmentRun run →
      (∀ t ∈ run.getLast?, ∀ u ∈ ts.head?, u.kind.isFragment = true →
        ¬t.span.Touches u.span) →
      CutInto ts cut → CutInto (run ++ ts) (run :: cut)

/-- The literal texts of a token. -/
def Kind.literals : Kind → List String
  | .fragment f => f.literals
  | _ => []

/-- The argument that a run of fragments is, if it is one. -/
def argument? (run : List Token) : Option String :=
  if (∃ t ∈ run, t.kind.isLiteral = true) ∧ ∀ t ∈ run, t.kind.isGlob = false then
    some (String.join (run.flatMap fun t => t.kind.literals))
  else none

variable {t u : Token} {ts run : List Token} {cut : List (List Token)}

/-! ## One run -/

theorem Kind.join_literals (kind : Kind) : String.join kind.literals = kind.literalText := by
  cases kind with
  | fragment f => exact f.join_literals
  | _ => rfl

theorem join_flatMap_literals (run : List Token) :
    String.join (run.flatMap fun t => t.kind.literals) = runText run := by
  induction run with
  | nil => rfl
  | cons t run ih =>
      rw [List.flatMap_cons, String.join_append, Kind.join_literals, ih, runText_cons]

theorem argument?_eq_some_iff {argument : String} :
    argument? run = some argument ↔
      (∃ t ∈ run, t.kind.isLiteral = true) ∧ (∀ t ∈ run, t.kind.isGlob = false) ∧
        runText run = argument := by
  rw [argument?, join_flatMap_literals]
  split
  · next h =>
      rw [Option.some.injEq, and_iff_right h.1, and_iff_right h.2]
  · next h =>
      constructor
      · intro hnone
        cases hnone
      · rintro ⟨hliteral, hglob, -⟩
        exact absurd ⟨hliteral, hglob⟩ h

/-- The accumulator makes of a run the argument that the run is. -/
theorem toList_argument? (run : List Token) : (argument? run).toList = runArguments run := by
  rw [argument?, join_flatMap_literals, runArguments]
  have hiff : ((run.any fun t => t.kind.isLiteral) && !run.any fun t => t.kind.isGlob) = true ↔
      (∃ t ∈ run, t.kind.isLiteral = true) ∧ ∀ t ∈ run, t.kind.isGlob = false := by
    simp
  by_cases h : (∃ t ∈ run, t.kind.isLiteral = true) ∧ ∀ t ∈ run, t.kind.isGlob = false
  · rw [if_pos h, if_pos (hiff.mpr h)]
    rfl
  · rw [if_neg h, if_neg (mt hiff.mp h)]
    rfl

/-! ## The cut -/

/-- Two fragments belong to one argument exactly if they touch. -/
theorem Token.joins_eq_true_iff_touches
    (ht : t.kind.isFragment = true) (hu : u.kind.isFragment = true) :
    t.joins u = true ↔ t.span.Touches u.span := by
  simp [joins, ht, hu]

theorem IsFragmentRun.isChain_joins (h : IsFragmentRun run) :
    run.IsChain fun t u => t.joins u = true := by
  apply h.touching.imp_of_mem_imp
  intro t u ht hu htouch
  exact (Token.joins_eq_true_iff_touches (h.fragments t ht) (h.fragments u hu)).mpr htouch

theorem IsFragmentRun.singleton (h : t.kind.isFragment = true) : IsFragmentRun [t] where
  ne_nil := List.cons_ne_nil t []
  fragments := by simpa using h
  touching := .singleton t

/-- A fragment that touches the first one of a run makes the run longer. -/
theorem IsFragmentRun.cons
    (h : IsFragmentRun (u :: run)) (ht : t.kind.isFragment = true)
    (htouch : t.span.Touches u.span) : IsFragmentRun (t :: u :: run) where
  ne_nil := List.cons_ne_nil t _
  fragments := List.forall_mem_cons.mpr ⟨ht, h.fragments⟩
  touching := List.isChain_cons_cons.mpr ⟨htouch, h.touching⟩

/-- A token that is no fragment is not the first one of a run. -/
theorem IsFragmentRun.append_ne
    {rest : List Token} (h : IsFragmentRun run) (ht : t.kind.isFragment = false) :
    run ++ ts ≠ t :: rest := by
  intro hwhole
  obtain ⟨u, more, rfl⟩ := List.exists_cons_of_ne_nil h.ne_nil
  obtain ⟨rfl, -⟩ := List.cons.inj hwhole
  have hfragment := h.fragments u List.mem_cons_self
  rw [ht] at hfragment
  cases hfragment

/-- All tokens can be cut into runs. -/
theorem exists_cutInto (ts : List Token) : ∃ cut, CutInto ts cut := by
  induction ts with
  | nil => exact ⟨[], .nil⟩
  | cons t ts ih =>
      obtain ⟨cut, hcut⟩ := ih
      cases ht : t.kind.isFragment with
      | false => exact ⟨cut, .other ht hcut⟩
      | true =>
          by_cases hnext : ∃ u ∈ ts.head?, u.kind.isFragment = true ∧ t.span.Touches u.span
          · obtain ⟨u, hu, hfragment, htouch⟩ := hnext
            obtain ⟨rest, rfl⟩ := List.head?_eq_some_iff.mp hu
            -- The fragment behind `t` stands first in the first run, which grows by `t`.
            generalize hwhole : u :: rest = whole at hcut
            cases hcut with
            | nil => cases hwhole
            | other hother _ =>
                obtain ⟨rfl, -⟩ := List.cons.inj hwhole
                rw [hfragment] at hother
                cases hother
            | @run run ts cut hrun hlast hcut =>
                obtain ⟨v, more, rfl⟩ := List.exists_cons_of_ne_nil hrun.ne_nil
                obtain ⟨rfl, -⟩ := List.cons.inj hwhole
                exact ⟨(t :: u :: more) :: cut, .run (hrun.cons ht htouch) hlast hcut⟩
          · refine ⟨[t] :: cut, .run (.singleton ht) ?_ hcut⟩
            intro t' ht' u hu hfragment htouch
            obtain rfl := Option.some.inj ht'
            exact hnext ⟨u, hu, hfragment, htouch⟩

/-- No run goes on behind the end of another one that begins with it. -/
theorem IsFragmentRun.not_longer
    {more rest : List Token} (h : IsFragmentRun (run ++ u :: more)) (hne : run ≠ [])
    (hlast : ∀ t ∈ run.getLast?, ∀ v ∈ (u :: rest).head?, v.kind.isFragment = true →
      ¬t.span.Touches v.span) : False := by
  have hu : u.kind.isFragment = true := h.fragments u (by simp)
  have htouch : (run.getLast hne).span.Touches u.span :=
    h.touching.rel_getLast_head_of_append hne (List.cons_ne_nil u more)
  exact hlast _ (List.getLast_mem_getLast? hne) u rfl hu htouch

theorem CutInto.eq_nil (h : CutInto [] cut) : cut = [] := by
  generalize hwhole : ([] : List Token) = whole at h
  cases h with
  | nil => rfl
  | other _ _ => cases hwhole
  | run hrun _ _ => exact absurd (List.append_eq_nil_iff.mp hwhole.symm).1 hrun.ne_nil

theorem CutInto.of_other (h : CutInto (t :: ts) cut) (ht : t.kind.isFragment = false) :
    CutInto ts cut := by
  generalize hwhole : t :: ts = whole at h
  cases h with
  | nil => cases hwhole
  | other _ hcut =>
      obtain ⟨-, rfl⟩ := List.cons.inj hwhole
      exact hcut
  | run hrun _ _ => exact absurd hwhole.symm (hrun.append_ne ht)

/-- A run that nothing behind it touches is the first one of every cut. -/
theorem CutInto.exists_of_run
    (h : CutInto (run ++ ts) cut) (hrun : IsFragmentRun run)
    (hlast : ∀ t ∈ run.getLast?, ∀ u ∈ ts.head?, u.kind.isFragment = true →
      ¬t.span.Touches u.span) :
    ∃ rest, cut = run :: rest ∧ CutInto ts rest := by
  generalize hwhole : run ++ ts = whole at h
  cases h with
  | nil => exact absurd (List.append_eq_nil_iff.mp hwhole).1 hrun.ne_nil
  | other ht _ => exact absurd hwhole (hrun.append_ne ht)
  | @run run' ts' cut' hrun' hlast' hcut' =>
      have hrest : run = run' ∧ ts = ts' := by
        rcases List.append_eq_append_iff.mp hwhole with ⟨more, rfl, rfl⟩ | ⟨more, rfl, rfl⟩
        · rcases more with _ | ⟨u, more⟩
          · simp
          · exact (hrun'.not_longer hrun.ne_nil hlast).elim
        · rcases more with _ | ⟨u, more⟩
          · simp
          · exact (hrun.not_longer hrun'.ne_nil hlast').elim
      obtain ⟨rfl, rfl⟩ := hrest
      exact ⟨cut', rfl, hcut'⟩

/-- Tokens can be cut in one way only. -/
theorem CutInto.unique
    {cut' : List (List Token)} (h : CutInto ts cut) (h' : CutInto ts cut') : cut' = cut := by
  induction h generalizing cut' with
  | nil => exact h'.eq_nil
  | other ht _ ih => exact ih (h'.of_other ht)
  | run hrun hlast _ ih =>
      obtain ⟨rest, rfl, hrest⟩ := h'.exists_of_run hrun hlast
      rw [ih hrest]

/-- Every fragment belongs to a run, and nothing else does. -/
theorem CutInto.flatten_eq (h : CutInto ts cut) :
    cut.flatten = ts.filter fun t => t.kind.isFragment := by
  induction h with
  | nil => rfl
  | other ht _ ih => rw [List.filter_cons_of_neg (by simp [ht]), ih]
  | run hrun _ _ ih =>
      rw [List.flatten_cons, List.filter_append, List.filter_eq_self.mpr hrun.fragments, ih]

/-- The arguments are those of the runs, in order. -/
theorem CutInto.assemble_eq (h : CutInto ts cut) :
    assemble none ts = cut.filterMap argument? := by
  induction h with
  | nil => rfl
  | other ht _ ih =>
      rw [assemble_other ht, ih]
      rfl
  | @run run ts cut hrun hlast _ ih =>
      have hapart : ∀ t ∈ run.getLast?, ∀ u ∈ ts.head?, t.joins u = false := by
        intro t ht u hu
        rw [Bool.eq_false_iff]
        intro hjoins
        obtain ⟨-, hu', htouch⟩ := Token.joins_iff.mp hjoins
        exact hlast t ht u hu hu' htouch
      rw [assemble_append_of_apart (fun _ p hp => by cases hp) hapart,
        assemble_run hrun.ne_nil hrun.isChain_joins, ih, ← toList_argument?]
      cases harg : argument? run with
      | none => rw [List.filterMap_cons_none harg]; rfl
      | some argument => rw [List.filterMap_cons_some harg]; rfl

/-- There is one way to cut the tokens of a line into runs of fragments that touch, each run as
long as it can be.  The arguments of the line are, in order, the runs with literal text and
without a glob; each is the literal texts of its run, one after another. -/
theorem arguments_of_maximal_runs (line : String) :
    ∃ cut, CutInto (tokens line) cut ∧ (∀ cut', CutInto (tokens line) cut' → cut' = cut) ∧
      cut.flatten = (tokens line).filter (fun t => t.kind.isFragment) ∧
      arguments line = cut.filterMap argument? := by
  obtain ⟨cut, hcut⟩ := exists_cutInto (tokens line)
  refine ⟨cut, hcut, ?_, hcut.flatten_eq, hcut.assemble_eq⟩
  intro cut' hcut'
  exact hcut.unique hcut'

/-- An empty quote is an argument, a variable alone is none, and a glob spoils all that touches
it. -/
example : arguments "a\"$x b\"'c'$y d'e'* '' $z|f;\"$w\"" = ["a bc", "", "f", ""] := by
  decide +kernel

end Command
end MetricsScript
