import Mathlib.Data.List.Count
import Mathlib.Data.List.Forall2
import Mathlib.Data.List.Perm.Basic

/-!
# Runs and parts of runs

A run makes one step after another from a state, and every step gives an answer. Another run that
makes only some of the steps gives the same answers to them, if what the left out steps do does not
matter to it.

- `Run.trace`, `Run.after`: the answers of a run, and the state that it leaves.
- `Run.Allows`: every step of a run is made where it may be made.
- `Run.trace_filter`: the answers of a run, and of one that makes some of its steps.
- `Run.forall₂_trace`: two runs of related steps.
- `Run.perm_of_authors`: what comes of the steps of several authors, whatever their order.
-/

namespace ControllerHost

namespace Run

variable {σ τ α α' β β' : Type}

/-- The steps of a run, each with what came of it. -/
def trace (act : σ → α → β × σ) : σ → List α → List (α × β)
  | _, [] => []
  | state, step :: rest => (step, (act state step).1) :: trace act (act state step).2 rest

/-- The state that a run leaves. -/
def after (act : σ → α → β × σ) (state : σ) (steps : List α) : σ :=
  steps.foldl (fun state step => (act state step).2) state

/-- Every step of a run is made in a state in which it may be made. -/
def Allows (act : σ → α → β × σ) (may : σ → α → Prop) : σ → List α → Prop
  | _, [] => True
  | state, step :: rest => may state step ∧ Allows act may (act state step).2 rest

instance decidableAllows (act : σ → α → β × σ) (may : σ → α → Prop)
    [∀ state step, Decidable (may state step)] :
    ∀ state steps, Decidable (Allows act may state steps)
  | _, [] => .isTrue trivial
  | state, step :: rest =>
    haveI := decidableAllows act may (act state step).2 rest
    inferInstanceAs (Decidable (_ ∧ _))

theorem allows_of_forall {act : σ → α → β × σ} {may : σ → α → Prop} {steps : List α}
    (hmay : ∀ step ∈ steps, ∀ state, may state step) (state : σ) : Allows act may state steps := by
  induction steps generalizing state with
  | nil => trivial
  | cons step rest ih =>
    rw [List.forall_mem_cons] at hmay
    exact ⟨hmay.1 state, ih hmay.2 _⟩

theorem Allows.left {act : σ → α → β × σ} {may : σ → α → Prop} {state : σ} {first second : List α}
    (hallows : Allows act may state (first ++ second)) : Allows act may state first := by
  induction first generalizing state with
  | nil => trivial
  | cons step rest ih => exact ⟨hallows.1, ih hallows.2⟩

/-- Two runs are related if one of them makes, in order, some of the other's steps: if these steps
keep the states related and give related answers, and the other steps keep the states related to
what the shorter run stands at. -/
theorem trace_filter {act : σ → α → β × σ} {act' : τ → α' → β' × τ} {may : σ → α → Prop}
    {mine : α → Bool} {same : α → α' → Prop} {alike : β → β' → Prop} {related : σ → τ → Prop}
    (hmine : ∀ {state state' step step'}, related state state' → may state step → mine step →
      same step step' → alike (act state step).1 (act' state' step').1
        ∧ related (act state step).2 (act' state' step').2)
    (hother : ∀ {state state' step}, related state state' → may state step → mine step = false →
      related (act state step).2 state')
    {state : σ} {state' : τ} (hstates : related state state') {steps : List α}
    (hmay : Allows act may state steps) {steps' : List α'}
    (hsteps : List.Forall₂ same (steps.filter mine) steps') :
    List.Forall₂ alike (((trace act state steps).filter fun entry => mine entry.1).map Prod.snd)
        ((trace act' state' steps').map Prod.snd)
      ∧ related (after act state steps) (after act' state' steps') := by
  -- on the longer run, whose steps are also made by the shorter one or not
  induction steps generalizing state state' steps' with
  | nil =>
    cases hsteps
    exact ⟨.nil, hstates⟩
  | cons step rest ih =>
    obtain ⟨hstep, hrest⟩ := hmay
    cases hkind : mine step with
    | true =>
      rw [List.filter_cons_of_pos hkind] at hsteps
      cases hsteps with
      | cons hsame htail =>
        obtain ⟨halike, hnext⟩ := hmine hstates hstep hkind hsame
        obtain ⟨hanswers, hleft⟩ := ih hnext hrest htail
        refine ⟨?_, hleft⟩
        simp only [trace, List.filter_cons, hkind, if_true, List.map_cons]
        exact .cons halike hanswers
    | false =>
      rw [List.filter_cons_of_neg (by simp [hkind])] at hsteps
      have hnext := hother hstates hstep hkind
      simp only [trace, List.filter_cons, hkind, Bool.false_eq_true, if_false]
      exact ih hnext hrest hsteps

/-- Two runs of related steps from related states are related, step by step and in what they
leave. -/
theorem forall₂_trace {act : σ → α → β × σ} {act' : τ → α' → β' × τ} {same : α → α' → Prop}
    {alike : β → β' → Prop} {related : σ → τ → Prop}
    (hstep : ∀ {state state' step step'}, related state state' → same step step' →
      alike (act state step).1 (act' state' step').1
        ∧ related (act state step).2 (act' state' step').2)
    {state : σ} {state' : τ} (hstates : related state state') {steps : List α} {steps' : List α'}
    (hsteps : List.Forall₂ same steps steps') :
    List.Forall₂ (fun entry entry' => same entry.1 entry'.1 ∧ alike entry.2 entry'.2)
        (trace act state steps) (trace act' state' steps')
      ∧ related (after act state steps) (after act' state' steps') := by
  induction hsteps generalizing state state' with
  | nil => exact ⟨.nil, hstates⟩
  | cons hsame hrest ih =>
    obtain ⟨halike, hnext⟩ := hstep hstates hsame
    obtain ⟨htrace, hafter⟩ := ih hnext
    exact ⟨.cons ⟨hsame, halike⟩ htrace, hafter⟩

/-! ### Runs of several authors -/

/-- A list with an author for each entry is, up to order, settled by what each author has in it. -/
theorem perm_of_authors {ι β : Type} [DecidableEq ι] [DecidableEq β] {first second : List (ι × β)}
    (hsame : ∀ author, (first.filter fun entry => entry.1 = author).map Prod.snd =
      (second.filter fun entry => entry.1 = author).map Prod.snd) : first.Perm second := by
  have hcount (list : List (ι × β)) (entry : ι × β) : list.count entry =
      ((list.filter fun other => other.1 = entry.1).map Prod.snd).count entry.2 := by
    induction list with
    | nil => rfl
    | cons head rest ih =>
      rw [List.count_cons, ih, List.filter_cons]
      by_cases hauthor : head.1 = entry.1
      · simp [hauthor, List.count_cons, Prod.ext_iff]
      · simp [hauthor, Prod.ext_iff]
  rw [List.perm_iff_count]
  intro entry
  rw [hcount first, hcount second, hsame]

end Run

end ControllerHost
